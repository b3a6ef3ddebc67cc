/-
# SymbolAtlas.Proofs.Bracket.Matching — which brackets of a text belong together

Two brackets match if they are of one kind and the brackets strictly between them form a well-nested
word. That says nothing of a stack. The depth of a text, which is the number of brackets that it
opens less those that it closes, tells where a bracket can have its match: between two matching
brackets the depth stays above what it was in front of them, and it comes back to that right behind
them. So a bracket has one match at most, and two matched pairs lie apart or one inside the other.
-/
import SymbolAtlas.Proofs.Bracket
import SymbolAtlas.Proofs.Sequence

namespace SymbolAtlas.Bracket

/-! ## Characters -/

/-- A character opens a bracket, closes one, or is none. -/
theorem bracket_cases (c : Char) :
    (∃ kind : Bracket, c = kind.opening) ∨ (∃ kind : Bracket, c = kind.closing) ∨
      isBracket c = false := by
  cases h : isBracket c with
  | false => exact .inr (.inr rfl)
  | true =>
      obtain ⟨kind, -, hkind⟩ := List.any_eq_true.mp h
      rcases Bool.or_eq_true_iff.mp hkind with hopening | hclosing
      · exact .inl ⟨kind, (beq_iff_eq.mp hopening).symm⟩
      · exact .inr (.inl ⟨kind, (beq_iff_eq.mp hclosing).symm⟩)

@[simp]
theorem isBracket_opening (kind : Bracket) : isBracket kind.opening = true := by
  cases kind <;> rfl

@[simp]
theorem isBracket_closing (kind : Bracket) : isBracket kind.closing = true := by
  cases kind <;> rfl

theorem opening_ne_closing (kind other : Bracket) : kind.opening ≠ other.closing := by
  cases kind <;> cases other <;> decide

theorem opening_injective {kind other : Bracket} (h : kind.opening = other.opening) :
    kind = other := by
  revert h
  cases kind <;> cases other <;> decide

theorem closing_injective {kind other : Bracket} (h : kind.closing = other.closing) :
    kind = other := by
  revert h
  cases kind <;> cases other <;> decide

/-! ## Depth -/

/-- What a character adds to the depth of a text. -/
def weight (c : Char) : Int :=
  if (ofOpening? c).isSome then 1 else if (ofClosing? c).isSome then -1 else 0

@[simp]
theorem weight_opening (kind : Bracket) : weight kind.opening = 1 := by
  cases kind <;> rfl

@[simp]
theorem weight_closing (kind : Bracket) : weight kind.closing = -1 := by
  cases kind <;> rfl

theorem weight_other {c : Char} (h : isBracket c = false) : weight c = 0 := by
  simp [weight, ofOpening?_eq_none h, ofClosing?_eq_none h]

/-- The number of brackets that a text opens less the number of those that it closes. -/
def depth : Text → Int
  | [] => 0
  | c :: rest => weight c + depth rest

@[simp]
theorem depth_nil : depth [] = 0 := rfl

@[simp]
theorem depth_cons (c : Char) (s : Text) : depth (c :: s) = weight c + depth s := rfl

@[simp]
theorem depth_append (s t : Text) : depth (s ++ t) = depth s + depth t := by
  induction s with
  | nil => rw [List.nil_append, depth_nil, Int.zero_add]
  | cons c rest ih => rw [List.cons_append, depth_cons, depth_cons, ih, Int.add_assoc]

/-- A balanced text has depth zero, and none of its beginnings has a negative depth. -/
theorem depth_of_balanced {s : Text} (h : Balanced s) :
    depth s = 0 ∧ ∀ n, 0 ≤ depth (s.take n) := by
  induction h with
  | nil => simp
  | @plain c hc =>
      refine ⟨by simp [weight_other hc], fun n => ?_⟩
      cases n <;> simp [weight_other hc]
  | @wrap kind s _ ih =>
      refine ⟨by simp [ih.1], fun n => ?_⟩
      cases n with
      | zero => simp
      | succ n =>
          -- the closing bracket takes back what the opening one adds, but no more
          have hclose : -1 ≤ depth (List.take (n - s.length) [kind.closing]) := by
            cases n - s.length <;> simp
          have hbegin := ih.2 n
          rw [List.take_succ_cons, depth_cons, weight_opening, List.take_append, depth_append]
          omega
  | @append s t _ _ ihs iht =>
      refine ⟨by simp [ihs.1, iht.1], fun n => ?_⟩
      rw [List.take_append, depth_append]
      exact Int.add_nonneg (ihs.2 n) (iht.2 (n - s.length))

/-! ## Well-nested words -/

/-- The well-nested words over the brackets of all four kinds. -/
structure WellNested (word : Text) : Prop where
  balanced : Balanced word
  brackets : ∀ c ∈ word, isBracket c = true

/-- The brackets of a text, in order. -/
def brackets (s : Text) : Text := s.filter isBracket

theorem brackets_append (s t : Text) : brackets (s ++ t) = brackets s ++ brackets t :=
  List.filter_append s t

theorem brackets_cons_of_bracket {c : Char} (h : isBracket c = true) (s : Text) :
    brackets (c :: s) = c :: brackets s :=
  List.filter_cons_of_pos h

@[simp]
theorem depth_brackets (s : Text) : depth (brackets s) = depth s := by
  induction s with
  | nil => rfl
  | cons c rest ih =>
      cases hc : isBracket c with
      | true => rw [brackets_cons_of_bracket hc, depth_cons, depth_cons, ih]
      | false =>
          have hskip : brackets (c :: rest) = brackets rest :=
            List.filter_cons_of_neg (by simp [hc])
          rw [hskip, ih, depth_cons, weight_other hc, Int.zero_add]

/-- The brackets of a balanced text form a well-nested word. -/
theorem wellNested_brackets {s : Text} (h : Balanced s) : WellNested (brackets s) := by
  refine ⟨?_, fun c hc => (List.mem_filter.mp hc).2⟩
  induction h with
  | nil => exact .nil
  | @plain c hc =>
      have hnone : brackets [c] = [] := List.filter_cons_of_neg (by simp [hc])
      rw [hnone]
      exact .nil
  | @wrap kind s _ ih =>
      have hinner : brackets (kind.opening :: (s ++ [kind.closing]))
          = kind.opening :: (brackets s ++ [kind.closing]) := by
        rw [brackets_cons_of_bracket (isBracket_opening kind), brackets_append,
          brackets_cons_of_bracket (isBracket_closing kind)]
        rfl
      rw [hinner]
      exact .wrap kind ih
  | @append s t _ _ ihs iht =>
      rw [brackets_append]
      exact .append ihs iht

/-- A text whose brackets form a well-nested word has depth zero, and no beginning of it has a
negative depth. -/
theorem depth_of_wellNested {s : Text} (h : WellNested (brackets s)) :
    depth s = 0 ∧ ∀ n, 0 ≤ depth (s.take n) := by
  have hword := depth_of_balanced h.balanced
  refine ⟨by rw [← depth_brackets]; exact hword.1, fun n => ?_⟩
  have hbegin := hword.2 (brackets (s.take n)).length
  have hsplit : brackets s = brackets (s.take n) ++ brackets (s.drop n) := by
    rw [← brackets_append, List.take_append_drop]
  rw [hsplit, List.take_left, depth_brackets] at hbegin
  exact hbegin

/-! ## Matching brackets -/

/-- That the brackets at two positions of a text match: they are of one kind, and the brackets
strictly between them form a well-nested word. -/
structure Matched (s : Text) (kind : Bracket) (i j : Nat) : Prop where
  opening : s[i]? = some kind.opening
  closing : s[j]? = some kind.closing
  order : i < j
  between : WellNested (brackets (slice s (i + 1) j))

/-- What stands strictly between two characters of a text. -/
theorem slice_between (before inner after : Text) (c d : Char) :
    slice (before ++ c :: (inner ++ d :: after)) (before.length + 1)
      (before.length + 1 + inner.length) = inner := by
  have hcut : before ++ c :: (inner ++ d :: after)
      = (before ++ [c]) ++ (inner ++ d :: after) := by simp
  have hlength : before.length + 1 = (before ++ [c]).length := by simp
  rw [slice, List.drop_take, hcut, hlength, List.drop_left, Nat.add_sub_cancel_left,
    List.take_left]

/-- A text in which brackets match, put together at these brackets. -/
theorem matched_append (kind : Bracket) {inner : Text} (h : WellNested (brackets inner))
    (before after : Text) :
    Matched (before ++ kind.opening :: (inner ++ kind.closing :: after)) kind before.length
      (before.length + 1 + inner.length) where
  opening := by simp
  closing := by
    rw [List.getElem?_append_right (by omega)]
    have hskip : before.length + 1 + inner.length - before.length = inner.length + 1 := by omega
    rw [hskip, List.getElem?_cons_succ, List.getElem?_append_right (Nat.le_refl _), Nat.sub_self]
    rfl
  order := by omega
  between := by
    rw [slice_between]
    exact h

theorem exists_cut {s : Text} {i : Nat} {c : Char} (h : s[i]? = some c) :
    ∃ before after, s = before ++ c :: after ∧ before.length = i := by
  obtain ⟨hlt, hget⟩ := List.getElem?_eq_some_iff.mp h
  refine ⟨s.take i, s.drop (i + 1), ?_, List.length_take_of_le (Nat.le_of_lt hlt)⟩
  rw [← hget, List.getElem_cons_drop, List.take_append_drop]

/-- Every text in which brackets match is put together like this. -/
theorem Matched.exists_split {s : Text} {kind : Bracket} {i j : Nat} (h : Matched s kind i j) :
    ∃ before inner after, s = before ++ kind.opening :: (inner ++ kind.closing :: after) ∧
      before.length = i ∧ before.length + 1 + inner.length = j ∧
      WellNested (brackets inner) := by
  obtain ⟨before, rest, rfl, rfl⟩ := exists_cut h.opening
  have hclosing := h.closing
  have horder := h.order
  rw [List.getElem?_append_right (by omega)] at hclosing
  obtain ⟨n, hn⟩ : ∃ n, j = before.length + 1 + n := ⟨j - (before.length + 1), by omega⟩
  have hskip : j - before.length = n + 1 := by omega
  rw [hskip, List.getElem?_cons_succ] at hclosing
  obtain ⟨inner, after, rfl, rfl⟩ := exists_cut hclosing
  have hbetween := h.between
  rw [hn, slice_between] at hbetween
  exact ⟨before, inner, after, rfl, rfl, hn.symm, hbetween⟩

/-- Between two matching brackets the depth is larger than in front of them, and right behind them
it is the same again. -/
theorem Matched.depth_spec {s : Text} {kind : Bracket} {i j : Nat} (h : Matched s kind i j) :
    depth (s.take (j + 1)) = depth (s.take i) ∧
      ∀ n, i < n → n ≤ j → depth (s.take i) < depth (s.take n) := by
  obtain ⟨before, inner, after, rfl, rfl, rfl, hinner⟩ := h.exists_split
  obtain ⟨hzero, hbegin⟩ := depth_of_wellNested hinner
  rw [List.take_left]
  constructor
  · have hcount : before.length + 1 + inner.length + 1
        = before.length + (inner.length + 1 + 1) := by omega
    rw [hcount, List.take_length_add_append, List.take_succ_cons, List.take_length_add_append]
    simp [hzero]
  · intro n hlow hhigh
    obtain ⟨m, rfl⟩ : ∃ m, n = before.length + (m + 1) := ⟨n - (before.length + 1), by omega⟩
    have hm : m ≤ inner.length := by omega
    have hpart := hbegin m
    rw [List.take_length_add_append, List.take_succ_cons, List.take_append_of_le_length hm]
    simp only [depth_append, depth_cons, weight_opening]
    omega

section Uniqueness

variable {s : Text} {kind kind' : Bracket} {i i' j j' : Nat}

/-- A closing bracket matches one opening bracket at most. -/
theorem Matched.openIndex_unique (h : Matched s kind i j) (h' : Matched s kind' i' j) :
    i = i' := by
  have horder := h.order
  have horder' := h'.order
  have hback := h.depth_spec.1
  have hback' := h'.depth_spec.1
  rcases Nat.lt_trichotomy i i' with hlt | heq | hgt
  · have hinside := h.depth_spec.2 i' hlt (by omega)
    omega
  · exact heq
  · have hinside := h'.depth_spec.2 i hgt (by omega)
    omega

/-- An opening bracket matches one closing bracket at most. -/
theorem Matched.closeIndex_unique (h : Matched s kind i j) (h' : Matched s kind' i j') :
    j = j' := by
  have horder := h.order
  have horder' := h'.order
  have hback := h.depth_spec.1
  have hback' := h'.depth_spec.1
  rcases Nat.lt_trichotomy j j' with hlt | heq | hgt
  · have hinside := h'.depth_spec.2 (j + 1) (by omega) (by omega)
    omega
  · exact heq
  · have hinside := h.depth_spec.2 (j' + 1) (by omega) (by omega)
    omega

/-- Of two matched pairs, the one that opens later lies behind the other or inside it. -/
theorem Matched.apart_or_inside (h : Matched s kind i j) (h' : Matched s kind' i' j')
    (hlt : i < i') : j < i' ∨ j' < j := by
  have horder' := h'.order
  have hback := h.depth_spec.1
  have hback' := h'.depth_spec.1
  by_contra hno
  -- otherwise the first pair ends within the second, where the depth cannot come back so far
  have hbelow := h.depth_spec.2 i' hlt (by omega)
  rcases Nat.lt_or_ge j j' with hless | hmore
  · have habove := h'.depth_spec.2 (j + 1) (by omega) (by omega)
    omega
  · have hsame : j = j' := by omega
    subst hsame
    have hopen := h.openIndex_unique h'
    omega

end Uniqueness

/-! ## Matching brackets in a longer text -/

theorem Matched.append_right {s : Text} {kind : Bracket} {i j : Nat} (h : Matched s kind i j)
    (after : Text) : Matched (s ++ after) kind i j := by
  obtain ⟨before, inner, rest, rfl, rfl, rfl, hinner⟩ := h.exists_split
  have hmatched := matched_append kind hinner before (rest ++ after)
  simpa using hmatched

theorem Matched.append_left {s : Text} {kind : Bracket} {i j : Nat} (h : Matched s kind i j)
    (before : Text) : Matched (before ++ s) kind (before.length + i) (before.length + j) := by
  obtain ⟨front, inner, rest, rfl, rfl, rfl, hinner⟩ := h.exists_split
  have hmatched := matched_append kind hinner (before ++ front) rest
  have hlength : (before ++ front).length + 1 + inner.length
      = before.length + (front.length + 1 + inner.length) := by
    rw [List.length_append]
    omega
  rw [hlength, List.length_append, List.append_assoc] at hmatched
  exact hmatched

/-- In a balanced text every opening bracket has its match. -/
theorem exists_matched_of_balanced {s : Text} (h : Balanced s) {kind : Bracket} {i : Nat}
    (hopening : s[i]? = some kind.opening) : ∃ j, Matched s kind i j := by
  induction h generalizing i with
  | nil => cases hopening
  | @plain c hc =>
      cases i with
      | zero =>
          have heq : c = kind.opening := Option.some.inj hopening
          rw [heq, isBracket_opening] at hc
          cases hc
      | succ i => cases hopening
  | @wrap outer s hs ih =>
      cases i with
      | zero =>
          -- the first bracket is the one that the wrapped text stands in
          have hkind : outer = kind := opening_injective (Option.some.inj hopening)
          subst hkind
          have hmatched := matched_append outer (wellNested_brackets hs) [] []
          exact ⟨_, hmatched⟩
      | succ i =>
          rw [List.getElem?_cons_succ] at hopening
          have hi : i < s.length := by
            by_contra hge
            rw [List.getElem?_append_right (by omega)] at hopening
            cases hrest : i - s.length with
            | zero =>
                rw [hrest] at hopening
                exact opening_ne_closing kind outer (Option.some.inj hopening).symm
            | succ n =>
                rw [hrest] at hopening
                cases hopening
          rw [List.getElem?_append_left hi] at hopening
          obtain ⟨j, hj⟩ := ih hopening
          have hmatched := (hj.append_right [outer.closing]).append_left [outer.opening]
          rw [List.length_singleton, Nat.add_comm 1 i] at hmatched
          exact ⟨_, hmatched⟩
  | @append s t _ _ ihs iht =>
      rcases Nat.lt_or_ge i s.length with hi | hi
      · rw [List.getElem?_append_left hi] at hopening
        obtain ⟨j, hj⟩ := ihs hopening
        exact ⟨j, hj.append_right t⟩
      · rw [List.getElem?_append_right hi] at hopening
        obtain ⟨j, hj⟩ := iht hopening
        have hmatched := hj.append_left s
        rw [Nat.add_sub_cancel' hi] at hmatched
        exact ⟨_, hmatched⟩

end SymbolAtlas.Bracket
