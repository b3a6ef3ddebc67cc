/-
# SymbolAtlas.Proofs.Bracket — balanced texts and what the scan makes of them

A text is balanced if its brackets, of all four kinds together, are well nested and all closed. The
one fact about the scan is that it passes over a balanced text and finds the same brackets open
behind it as in front of it; the pairs that it meets on the way all open within the text. So the
first matched pair of a text is the pair that encloses its first balanced part.
-/
import SymbolAtlas.Bracket

namespace SymbolAtlas.Bracket

/-! ## Balanced texts -/

/-- Whether a character is one of the eight brackets. -/
def isBracket (c : Char) : Bool := all.any fun kind => kind.opening == c || kind.closing == c

/-- Whether a text holds no brackets. -/
def isPlain (s : Text) : Bool := s.all fun c => !isBracket c

theorem isPlain_append (s t : Text) : isPlain (s ++ t) = (isPlain s && isPlain t) :=
  List.all_append

theorem isPlain_cons (c : Char) (s : Text) : isPlain (c :: s) = (!isBracket c && isPlain s) :=
  List.all_cons

/-- The texts whose brackets are well nested and all closed. -/
inductive Balanced : Text → Prop
  /-- The empty text. -/
  | nil : Balanced []
  /-- One character that is no bracket. -/
  | plain {c : Char} (h : isBracket c = false) : Balanced [c]
  /-- A balanced text between two brackets of one kind. -/
  | wrap (kind : Bracket) {s : Text} (h : Balanced s) :
      Balanced (kind.opening :: (s ++ [kind.closing]))
  /-- Two balanced texts, one behind the other. -/
  | append {s t : Text} (hs : Balanced s) (ht : Balanced t) : Balanced (s ++ t)

/-- A text without brackets is balanced. -/
theorem balanced_of_plain {s : Text} (h : isPlain s = true) : Balanced s := by
  induction s with
  | nil => exact .nil
  | cons c rest ih =>
      rw [isPlain_cons, Bool.and_eq_true, Bool.not_eq_true'] at h
      exact .append (.plain h.1) (ih h.2)

/-! ## One character of a scan -/

theorem ofOpening?_eq_none {c : Char} (h : isBracket c = false) : ofOpening? c = none := by
  rw [isBracket, List.any_eq_false] at h
  refine List.find?_eq_none.mpr fun kind hkind hopening => h kind hkind ?_
  rw [hopening, Bool.true_or]

theorem ofClosing?_eq_none {c : Char} (h : isBracket c = false) : ofClosing? c = none := by
  rw [isBracket, List.any_eq_false] at h
  refine List.find?_eq_none.mpr fun kind hkind hclosing => h kind hkind ?_
  rw [hclosing, Bool.or_true]

theorem scanFrom_other {c : Char} (h : isBracket c = false) (index : Nat)
    (opened : List (Bracket × Nat)) (rest : Text) :
    scanFrom index opened (c :: rest) = scanFrom (index + 1) opened rest := by
  simp only [scanFrom, ofOpening?_eq_none h, ofClosing?_eq_none h]

theorem scanFrom_opening (kind : Bracket) (index : Nat) (opened : List (Bracket × Nat))
    (rest : Text) :
    scanFrom index opened (kind.opening :: rest)
      = scanFrom (index + 1) ((kind, index) :: opened) rest := by
  cases kind <;> rfl

theorem scanFrom_closing (kind : Bracket) (index openIndex : Nat) (outer : List (Bracket × Nat))
    (rest : Text) :
    scanFrom index ((kind, openIndex) :: outer) (kind.closing :: rest)
      = (scanFrom (index + 1) outer rest).map
          (insertPair ⟨kind, openIndex, index, outer.length + 1⟩) := by
  cases kind <;> rfl

/-! ## The scan of a balanced text -/

/-- A text without brackets leaves no trace in a scan. -/
theorem scanFrom_plain {s : Text} (h : isPlain s = true) (index : Nat)
    (opened : List (Bracket × Nat)) (rest : Text) :
    scanFrom index opened (s ++ rest) = scanFrom (index + s.length) opened rest := by
  induction s generalizing index with
  | nil => rfl
  | cons c tail ih =>
      rw [isPlain_cons, Bool.and_eq_true, Bool.not_eq_true'] at h
      rw [List.cons_append, scanFrom_other h.1, ih h.2, List.length_cons, Nat.add_right_comm,
        Nat.add_assoc]

/-- A balanced text changes no bracket that is open, whatever is open. It adds its own pairs, which
open behind its begin. -/
theorem scanFrom_balanced {s : Text} (h : Balanced s) (index : Nat)
    (opened : List (Bracket × Nat)) (rest : Text) :
    ∃ inner : List Pair, (∀ p ∈ inner, index ≤ p.openIndex) ∧
      scanFrom index opened (s ++ rest)
        = (scanFrom (index + s.length) opened rest).map fun found =>
            inner.foldr insertPair found := by
  -- adding no pairs changes no result
  have hid (result : Except Fault (List Pair)) :
      result = result.map fun found => ([] : List Pair).foldr insertPair found := by
    cases result <;> rfl
  induction h generalizing index opened rest with
  | nil => exact ⟨[], fun p hp => absurd hp List.not_mem_nil, hid _⟩
  | @plain c hc =>
      refine ⟨[], fun p hp => absurd hp List.not_mem_nil, ?_⟩
      rw [List.singleton_append, scanFrom_other hc]
      exact hid _
  | @wrap kind s _ ih =>
      obtain ⟨inner, hinner, hscan⟩ :=
        ih (index + 1) ((kind, index) :: opened) (kind.closing :: rest)
      -- the pair closes behind its inner pairs, so it is put in its place before them
      let pair : Pair := ⟨kind, index, index + 1 + s.length, opened.length + 1⟩
      refine ⟨inner ++ [pair], ?_, ?_⟩
      · intro p hp
        rcases List.mem_append.mp hp with hp | hp
        · exact Nat.le_of_succ_le (hinner p hp)
        · obtain rfl := List.mem_singleton.mp hp
          exact Nat.le_refl index
      · have hlength : index + (kind.opening :: (s ++ [kind.closing])).length
            = index + 1 + s.length + 1 := by
          simp only [List.length_cons, List.length_append, List.length_nil]
          omega
        rw [List.cons_append, List.append_assoc, List.singleton_append, scanFrom_opening, hscan,
          scanFrom_closing, hlength]
        cases scanFrom (index + 1 + s.length + 1) opened rest with
        | error fault => rfl
        | ok found => simp only [Except.map, List.foldr_append]; rfl
  | @append s t _ _ ihs iht =>
      obtain ⟨first, hfirst, hscanFirst⟩ := ihs index opened (t ++ rest)
      obtain ⟨second, hsecond, hscanSecond⟩ := iht (index + s.length) opened rest
      refine ⟨first ++ second, ?_, ?_⟩
      · intro p hp
        rcases List.mem_append.mp hp with hp | hp
        · exact hfirst p hp
        · exact Nat.le_trans (Nat.le_add_right index s.length) (hsecond p hp)
      · rw [List.append_assoc, hscanFirst, hscanSecond, List.length_append, ← Nat.add_assoc]
        cases scanFrom (index + s.length + t.length) opened rest with
        | error fault => rfl
        | ok found => simp only [Except.map, List.foldr_append]

/-! ## The first pair of a text -/

/-- A pair that opens behind the first one of a list is put behind it. -/
theorem insertPair_cons {p first : Pair} (h : first.openIndex < p.openIndex) (later : List Pair) :
    insertPair p (first :: later) = first :: insertPair p later := by
  rw [insertPair, if_neg (Nat.not_le_of_lt h)]

theorem foldr_insertPair_cons {inner : List Pair} {first : Pair}
    (h : ∀ p ∈ inner, first.openIndex < p.openIndex) (later : List Pair) :
    inner.foldr insertPair (first :: later) = first :: inner.foldr insertPair later := by
  induction inner with
  | nil => rfl
  | cons p rest ih =>
      have hrest := ih fun q hq => h q (List.mem_cons_of_mem p hq)
      rw [List.foldr_cons, hrest, insertPair_cons (h p List.mem_cons_self), List.foldr_cons]

/-- If the first bracket of a text encloses a balanced rest, then the scan succeeds, and the first
pair is that bracket and the last character. -/
theorem scan_enclosed {before s : Text} (hbefore : isPlain before = true)
    (hs : Balanced s) (kind : Bracket) :
    ∃ later, scan (before ++ kind.opening :: (s ++ [kind.closing]))
      = .ok (⟨kind, before.length, before.length + 1 + s.length, 1⟩ :: later) := by
  obtain ⟨inner, hinner, hscan⟩ :=
    scanFrom_balanced hs (before.length + 1) [(kind, before.length)] [kind.closing]
  refine ⟨inner.foldr insertPair [], ?_⟩
  have hlater : ∀ p ∈ inner, before.length < p.openIndex := fun p hp => hinner p hp
  rw [scan, scanFrom_plain hbefore, Nat.zero_add, scanFrom_opening, hscan, scanFrom_closing]
  show Except.ok (inner.foldr insertPair [_]) = _
  rw [foldr_insertPair_cons hlater]
  rfl

/-- The content of a pair is what stands between its brackets. -/
theorem content_enclosed (kind : Bracket) (before s : Text) (opening closing : Char)
    (level : Nat) :
    (Pair.mk kind before.length (before.length + 1 + s.length) level).content
      (before ++ opening :: (s ++ [closing])) = s := by
  have hdrop : (before ++ opening :: (s ++ [closing])).drop (before.length + 1)
      = s ++ [closing] := by
    rw [← List.drop_drop, List.drop_left]
    rfl
  rw [Pair.content, hdrop, Nat.add_sub_cancel_left, List.take_left]

end SymbolAtlas.Bracket
