/-
# SymbolAtlas.Proofs.Bracket.Unclosed — the brackets that a text leaves open

Cut at the brackets that it leaves open, a text falls into balanced parts. This is what a stack of
open brackets stands for, said of the text alone. The module relates it to the matching brackets: a
bracket is left open exactly if no match of it closes in the text; and to continuations: a text that
leaves brackets open in this sense is the beginning of a balanced one.
-/
import SymbolAtlas.Proofs.Bracket.Matching

namespace SymbolAtlas.Bracket

/-! ## Open brackets -/

/-- That a text leaves the given brackets open, innermost first. In front of the first of them,
between them and behind the last one the text is balanced. -/
inductive Unclosed : Text → List (Bracket × Nat) → Prop
  /-- A balanced text leaves nothing open. -/
  | balanced {s : Text} (h : Balanced s) : Unclosed s []
  /-- One more bracket and a balanced text behind it. -/
  | opening (kind : Bracket) {s t : Text} {opened : List (Bracket × Nat)} (h : Unclosed s opened)
      (ht : Balanced t) : Unclosed (s ++ kind.opening :: t) ((kind, s.length) :: opened)

namespace Unclosed

variable {s : Text} {opened : List (Bracket × Nat)}

theorem append_balanced (h : Unclosed s opened) {t : Text} (ht : Balanced t) :
    Unclosed (s ++ t) opened := by
  cases h with
  | balanced hs => exact .balanced (.append hs ht)
  | opening kind hs hu =>
      rw [List.append_assoc, List.cons_append]
      exact .opening kind hs (.append hu ht)

theorem open_bracket (h : Unclosed s opened) (kind : Bracket) :
    Unclosed (s ++ [kind.opening]) ((kind, s.length) :: opened) :=
  .opening kind h .nil

/-- Closing the innermost bracket leaves the others open. -/
theorem close_bracket {kind : Bracket} {o : Nat} {outer : List (Bracket × Nat)}
    (h : Unclosed s ((kind, o) :: outer)) : Unclosed (s ++ [kind.closing]) outer := by
  cases h with
  | opening kind hs ht =>
      rw [List.append_assoc, List.cons_append]
      exact hs.append_balanced (.wrap kind ht)

/-- A closing bracket matches the innermost bracket that is open in front of it. -/
theorem matched_close {kind : Bracket} {o : Nat} {outer : List (Bracket × Nat)}
    (h : Unclosed s ((kind, o) :: outer)) (rest : Text) :
    Matched (s ++ kind.closing :: rest) kind o s.length := by
  cases h with
  | @opening kind before inner outer hs ht =>
      have hmatched := matched_append kind (wellNested_brackets ht) before rest
      have hlength : (before ++ kind.opening :: inner).length
          = before.length + 1 + inner.length := by
        rw [List.length_append, List.length_cons]
        omega
      rw [hlength, List.append_assoc, List.cons_append]
      exact hmatched

theorem depth_eq (h : Unclosed s opened) : depth s = opened.length := by
  induction h with
  | balanced hs => simp [(depth_of_balanced hs).1]
  | opening kind _ ht ih =>
      simp only [depth_append, depth_cons, weight_opening, ih, (depth_of_balanced ht).1,
        List.length_cons]
      omega

/-- A text that closes as many brackets as it opens leaves none open. -/
theorem balanced_of_depth (h : Unclosed s opened) (hdepth : depth s = 0) : Balanced s := by
  rw [h.depth_eq] at hdepth
  cases h with
  | balanced hs => exact hs
  | opening kind hs ht =>
      rw [List.length_cons] at hdepth
      omega

/-- The depth in front of the innermost open bracket counts the brackets open around it. -/
theorem depth_take (h : Unclosed s opened) {kind : Bracket} {o : Nat}
    {outer : List (Bracket × Nat)} (hopened : opened = (kind, o) :: outer) :
    depth (s.take o) = outer.length := by
  cases h with
  | balanced hs => cases hopened
  | opening kind hs ht =>
      cases hopened
      rw [List.take_left]
      exact hs.depth_eq

/-- From an open bracket on, the depth stays above what it was in front of it. -/
theorem depth_above (h : Unclosed s opened) :
    ∀ x ∈ opened, x.2 < s.length ∧ s[x.2]? = some x.1.opening ∧
      ∀ n, x.2 < n → n ≤ s.length → depth (s.take x.2) < depth (s.take n) := by
  induction h with
  | balanced hs =>
      intro x hx
      cases hx
  | @opening kind s t opened hs ht ih =>
      have hlength : (s ++ kind.opening :: t).length = s.length + 1 + t.length := by
        rw [List.length_append, List.length_cons]
        omega
      -- the new bracket adds one level, and the balanced text behind it goes below that nowhere
      have hbehind (n : Nat) (hn : s.length < n) :
          depth s < depth ((s ++ kind.opening :: t).take n) := by
        obtain ⟨m, rfl⟩ : ∃ m, n = s.length + (m + 1) := ⟨n - (s.length + 1), by omega⟩
        have hpart := (depth_of_balanced ht).2 m
        rw [List.take_length_add_append, List.take_succ_cons]
        simp only [depth_append, depth_cons, weight_opening]
        omega
      intro x hx
      rcases List.mem_cons.mp hx with rfl | hx
      · refine ⟨by omega, by simp, fun n hlow _ => ?_⟩
        rw [List.take_left]
        exact hbehind n hlow
      · obtain ⟨hlt, hget, habove⟩ := ih x hx
        refine ⟨by omega, ?_, fun n hlow hhigh => ?_⟩
        · rw [List.getElem?_append_left hlt]
          exact hget
        · rw [List.take_append_of_le_length (Nat.le_of_lt hlt)]
          rcases Nat.lt_or_ge s.length n with hn | hn
          · have hall := habove s.length hlt (Nat.le_refl _)
            rw [List.take_length] at hall
            exact Int.lt_trans hall (hbehind n hn)
          · rw [List.take_append_of_le_length hn]
            exact habove n hlow hn

/-- Each opening bracket is still open or has its match. -/
theorem mem_or_matched (h : Unclosed s opened) {kind : Bracket} {o : Nat}
    (ho : s[o]? = some kind.opening) : (kind, o) ∈ opened ∨ ∃ j, Matched s kind o j := by
  induction h generalizing o with
  | balanced hs => exact .inr (exists_matched_of_balanced hs ho)
  | @opening last s t opened hs ht ih =>
      rcases Nat.lt_trichotomy o s.length with hlt | rfl | hgt
      · rw [List.getElem?_append_left hlt] at ho
        rcases ih ho with hmem | ⟨j, hj⟩
        · exact .inl (List.mem_cons_of_mem _ hmem)
        · exact .inr ⟨j, hj.append_right _⟩
      · have heq : last.opening = kind.opening := by simpa using ho
        rw [opening_injective heq]
        exact .inl List.mem_cons_self
      · obtain ⟨m, rfl⟩ : ∃ m, o = s.length + 1 + m := ⟨o - (s.length + 1), by omega⟩
        have hcut : s ++ last.opening :: t = (s ++ [last.opening]) ++ t := by simp
        have hlength : (s ++ [last.opening]).length = s.length + 1 := by simp
        rw [hcut, List.getElem?_append_right (by omega), hlength, Nat.add_sub_cancel_left] at ho
        obtain ⟨j, hj⟩ := exists_matched_of_balanced ht ho
        have hmatched := hj.append_left (s ++ [last.opening])
        rw [hlength, ← hcut] at hmatched
        exact .inr ⟨_, hmatched⟩

end Unclosed

/-- That the bracket opened at position `o` of a text is not closed in front of position `i`. -/
structure OpenAt (s : Text) (i o : Nat) : Prop where
  order : o < i
  opening : ∃ kind : Bracket, s[o]? = some kind.opening
  unmatched : ∀ kind j, Matched s kind o j → i ≤ j

/-- The brackets that a text leaves open are those that are open behind it, whatever follows. -/
theorem openAt_iff {s : Text} {opened : List (Bracket × Nat)} (h : Unclosed s opened)
    (rest : Text) (o : Nat) : OpenAt (s ++ rest) s.length o ↔ ∃ kind, (kind, o) ∈ opened := by
  constructor
  · rintro ⟨horder, ⟨kind, hopening⟩, hunmatched⟩
    rw [List.getElem?_append_left horder] at hopening
    rcases h.mem_or_matched hopening with hmem | ⟨j, hj⟩
    · exact ⟨kind, hmem⟩
    · have hlater := hunmatched kind j (hj.append_right rest)
      have hinside : j < s.length := (List.getElem?_eq_some_iff.mp hj.closing).1
      omega
  · rintro ⟨kind, hmem⟩
    obtain ⟨hlt, hget, habove⟩ := h.depth_above _ hmem
    refine ⟨hlt, ⟨kind, ?_⟩, fun other j hj => ?_⟩
    · rw [List.getElem?_append_left hlt]
      exact hget
    · by_contra hinside
      have horder := hj.order
      have hback := hj.depth_spec.1
      rw [List.take_append_of_le_length (by omega), List.take_append_of_le_length (by omega)]
        at hback
      have hmore := habove (j + 1) (by omega) (by omega)
      dsimp only at hmore
      omega

/-- The innermost bracket that is left open is the last one opened. -/
theorem openAt_innermost {s : Text} {kind : Bracket} {o : Nat} {outer : List (Bracket × Nat)}
    (h : Unclosed s ((kind, o) :: outer)) (rest : Text) :
    OpenAt (s ++ rest) s.length o ∧ ∀ other, OpenAt (s ++ rest) s.length other → other ≤ o := by
  refine ⟨(openAt_iff h rest o).mpr ⟨kind, List.mem_cons_self⟩, fun other hother => ?_⟩
  obtain ⟨otherKind, hmem⟩ := (openAt_iff h rest other).mp hother
  cases h with
  | opening kind hs ht =>
      rcases List.mem_cons.mp hmem with heq | hmem
      · cases heq
        exact Nat.le_refl _
      · exact Nat.le_of_lt (hs.depth_above _ hmem).1

/-! ## Texts that can be extended -/

/-- That the brackets of a text are the beginning of a well-nested word. -/
def Extendable (s : Text) : Prop := ∃ word, WellNested word ∧ brackets s <+: word

theorem extendable_of_append {s t : Text} (h : Extendable (s ++ t)) : Extendable s := by
  obtain ⟨word, hword, hprefix⟩ := h
  rw [brackets_append] at hprefix
  exact ⟨word, hword, (List.prefix_append _ _).trans hprefix⟩

/-- Closing all open brackets, innermost first, makes the text balanced. -/
theorem balanced_close_all {s : Text} {opened : List (Bracket × Nat)} (h : Unclosed s opened) :
    ∀ {t : Text}, Balanced t → Balanced (s ++ (t ++ opened.map fun x => x.1.closing)) := by
  induction h with
  | balanced hs =>
      intro t ht
      rw [List.map_nil, List.append_nil]
      exact .append hs ht
  | @opening kind s u opened _ hu ih =>
      intro t ht
      have hinner := ih (Balanced.wrap kind (.append hu ht))
      simpa using hinner

theorem extendable_of_unclosed {s : Text} {opened : List (Bracket × Nat)}
    (h : Unclosed s opened) : Extendable s := by
  have hall := balanced_close_all h .nil
  rw [List.nil_append] at hall
  refine ⟨_, wellNested_brackets hall, ?_⟩
  rw [brackets_append]
  exact List.prefix_append _ _

/-- The brackets of a text alone leave brackets of the same kinds open. -/
theorem unclosed_brackets {s : Text} {opened : List (Bracket × Nat)} (h : Unclosed s opened) :
    ∃ opened' : List (Bracket × Nat), Unclosed (brackets s) opened' ∧
      opened'.map (·.1) = opened.map (·.1) := by
  induction h with
  | balanced hs => exact ⟨[], .balanced (wellNested_brackets hs).balanced, rfl⟩
  | opening kind _ ht ih =>
      obtain ⟨opened', hopened, hkinds⟩ := ih
      rw [brackets_append, brackets_cons_of_bracket (isBracket_opening kind)]
      refine ⟨_, .opening kind hopened (wellNested_brackets ht).balanced, ?_⟩
      rw [List.map_cons, List.map_cons, hkinds]

end SymbolAtlas.Bracket
