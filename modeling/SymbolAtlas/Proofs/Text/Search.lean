/-
# SymbolAtlas.Proofs.Text.Search — finding a text behind a gap

A search reads from the left, so it can stop too early: at an occurrence that begins in what
precedes the one that is meant. It cannot if no character of the gap begins the needle. Columns are
found this way, because a gap is blank and a column does not begin with a blank.
-/
import SymbolAtlas.Text.Basic

namespace SymbolAtlas.Text

/-- A needle is found behind a gap if no character of the gap begins it. -/
theorem position?_append {needle gap : Text} (hne : needle ≠ [])
    (hgap : ∀ c ∈ gap, needle.head? ≠ some c) (rest : Text) :
    position? needle (gap ++ (needle ++ rest)) = some gap.length := by
  cases needle with
  | nil => exact absurd rfl hne
  | cons d tail =>
      induction gap with
      | nil =>
          have hprefix : (d :: tail).isPrefixOf (d :: (tail ++ rest)) = true :=
            List.isPrefixOf_iff_prefix.mpr (List.prefix_append (d :: tail) rest)
          show position? (d :: tail) (d :: (tail ++ rest)) = some 0
          rw [position?, if_pos hprefix]
      | cons c others ih =>
          -- the needle does not begin here, so the search goes on behind this character
          have hc : (d == c) = false := by
            refine beq_eq_false_iff_ne.mpr fun heq => hgap c List.mem_cons_self ?_
            rw [heq, List.head?_cons]
          have hothers := ih fun e he => hgap e (List.mem_cons_of_mem c he)
          rw [List.cons_append, position?, List.isPrefixOf, hc, Bool.false_and, hothers]
          rfl

/-- What follows a needle is found behind a gap if no character of the gap begins it. -/
theorem afterFirst_append {needle gap : Text} (hne : needle ≠ [])
    (hgap : ∀ c ∈ gap, needle.head? ≠ some c) (rest : Text) :
    afterFirst needle (gap ++ (needle ++ rest)) = rest := by
  simp only [afterFirst, position?_append hne hgap]
  rw [← List.append_assoc, ← List.length_append, List.drop_left]

/-- A needle occurs in a text exactly if it is a part of it. -/
theorem occursIn_iff (needle s : Text) : occursIn needle s = true ↔ needle <:+: s := by
  unfold occursIn
  induction s with
  | nil =>
      rw [position?, List.infix_nil, ← List.isEmpty_iff]
      cases needle.isEmpty <;> simp
  | cons c rest ih =>
      rw [position?, List.infix_cons_iff, ← ih, ← List.isPrefixOf_iff_prefix]
      cases needle.isPrefixOf (c :: rest) <;> simp

/-- What precedes the first mark of a text, where a text without the mark stands in front of it. -/
theorem takeWhile_bne_append {mark : Char} {before : Text} (h : mark ∉ before) (after : Text) :
    (before ++ mark :: after).takeWhile (· != mark) = before := by
  have hbefore : ∀ c ∈ before, (c != mark) = true := by
    intro c hc
    refine bne_iff_ne.mpr ?_
    rintro rfl
    exact h hc
  rw [List.takeWhile_append_of_pos hbefore, List.takeWhile_cons_of_neg (by simp), List.append_nil]

/-- A text without the mark precedes the first mark behind it. -/
theorem beforeFirst?_append {mark : Char} {before : Text} (h : mark ∉ before) (after : Text) :
    beforeFirst? mark (before ++ mark :: after) = some before := by
  have hmem : mark ∈ before ++ mark :: after :=
    List.mem_append_right before List.mem_cons_self
  rw [beforeFirst?, if_pos hmem, takeWhile_bne_append h]

end SymbolAtlas.Text
