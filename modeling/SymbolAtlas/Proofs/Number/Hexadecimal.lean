/-
# SymbolAtlas.Proofs.Number.Hexadecimal — writing a number that was read off its digits

A run of digits in base sixteen has a positional value, and `write` gives the digits of a number.
One digit at the end of a run moves the value up by one place and is written behind the digits of
what was there, unless that was zero. So writing the value of a run of any length gives the run
again, in upper case and without its leading zeros.
-/
import Mathlib.Data.Nat.Digits.Defs
import SymbolAtlas.Proofs.Listing.Token

namespace SymbolAtlas

/-! ## Single digits -/

/-- What is written for the value of a digit is the digit in upper case; only zero has no value. -/
theorem Text.hexDigitValue_spec {c : Char} (h : isHexDigit c = true) :
    hexDigitValue c < 16 ∧ (Nat.digitChar (hexDigitValue c)).toUpper = c.toUpper ∧
      (hexDigitValue c = 0 ↔ c.toUpper = '0') := by
  have hall : (hexDigits.all fun d => hexDigitValue d < 16 ∧
      (Nat.digitChar (hexDigitValue d)).toUpper = d.toUpper ∧
      (hexDigitValue d = 0 ↔ d.toUpper = '0')) = true := by decide
  exact of_decide_eq_true (List.all_eq_true.mp hall c (isHexDigit_iff.mp h))

namespace Hexadecimal

/-! ## The value of a run of digits -/

theorem value_concat (digits : Text) (c : Char) :
    value (digits ++ [c]) = 16 * value digits + Text.hexDigitValue c := by
  simp only [value, List.foldl_append, List.foldl_cons, List.foldl_nil]
  omega

/-- The value is the positional one: the last digit counts once, the one before it sixteen times. -/
theorem value_eq_ofDigits (digits : Text) :
    value digits = Nat.ofDigits 16 (digits.reverse.map Text.hexDigitValue) := by
  induction digits using List.reverseRecOn with
  | nil => rfl
  | append_singleton digits c ih =>
      rw [value_concat, ih, List.reverse_append, List.reverse_singleton, List.singleton_append,
        List.map_cons, Nat.ofDigits_cons, add_comm]

/-- A run has no value exactly if it consists of zeros. -/
theorem value_eq_zero_iff {digits : Text} (h : ∀ c ∈ digits, Text.isHexDigit c = true) :
    value digits = 0 ↔ ∀ c ∈ digits, c.toUpper = '0' := by
  induction digits using List.reverseRecOn with
  | nil => simp [value]
  | append_singleton digits c ih =>
      have hinit : ∀ d ∈ digits, Text.isHexDigit d = true := fun d hd => h d (by simp [hd])
      have hlast := (Text.hexDigitValue_spec (h c (by simp))).2.2
      have hsum : 16 * value digits + Text.hexDigitValue c = 0
          ↔ value digits = 0 ∧ Text.hexDigitValue c = 0 := by omega
      rw [value_concat, hsum, ih hinit, hlast]
      simp [or_imp, forall_and]

/-! ## Writing the value -/

/-- A run of digits in upper case, without leading zeros; a single zero if it holds nothing else. -/
def withoutLeadingZeros (digits : Text) : Text :=
  let significant := (digits.map Char.toUpper).dropWhile (· == '0')
  if significant.isEmpty then ['0'] else significant

/-- Behind zeros only the last digit is left. -/
theorem withoutLeadingZeros_of_zeros {digits : Text} (h : ∀ d ∈ digits, d.toUpper = '0')
    (c : Char) : withoutLeadingZeros (digits ++ [c]) = [c.toUpper] := by
  have hzeros : ∀ d ∈ digits.map Char.toUpper, (d == '0') = true := by
    intro d hd
    obtain ⟨e, he, rfl⟩ := List.mem_map.mp hd
    simp [h e he]
  rw [withoutLeadingZeros, List.map_append, List.dropWhile_append_of_pos hzeros]
  by_cases hc : c.toUpper = '0'
  · simp [hc]
  · simp [hc]

/-- Behind another digit every digit stays. -/
theorem withoutLeadingZeros_concat {digits : Text} (h : ¬ ∀ d ∈ digits, d.toUpper = '0')
    (c : Char) :
    withoutLeadingZeros (digits ++ [c]) = withoutLeadingZeros digits ++ [c.toUpper] := by
  have hsignificant : ((digits.map Char.toUpper).dropWhile (· == '0')).isEmpty = false := by
    rw [List.isEmpty_eq_false_iff, Ne, List.dropWhile_eq_nil_iff]
    intro hzeros
    apply h
    intro d hd
    simpa using hzeros d.toUpper (List.mem_map_of_mem hd)
  simp only [withoutLeadingZeros, List.map_append, List.map_singleton, List.dropWhile_append,
    hsignificant, Bool.false_eq_true, if_false]
  rw [if_neg (by simp)]

/-- A number below sixteen is written as its digit. -/
theorem write_digit {c : Char} (h : Text.isHexDigit c = true) :
    write (Text.hexDigitValue c) = [c.toUpper] := by
  obtain ⟨hlt, hdigit, -⟩ := Text.hexDigitValue_spec h
  rw [write, Nat.toDigits_of_lt_base hlt, List.map_singleton, hdigit]

/-- One more digit is written behind the digits of a number that is not zero. -/
theorem write_concat {n : Nat} (hn : 0 < n) {c : Char} (h : Text.isHexDigit c = true) :
    write (16 * n + Text.hexDigitValue c) = write n ++ [c.toUpper] := by
  have hlt := (Text.hexDigitValue_spec h).1
  rw [← write_digit h, write, write, write, ← Nat.toDigits_append_toDigits (by decide) hn hlt,
    List.map_append]

/-- Writing the value of a run of digits gives the run in upper case, without its leading zeros. -/
theorem write_value {digits : Text} (h : ∀ c ∈ digits, Text.isHexDigit c = true) :
    write (value digits) = withoutLeadingZeros digits := by
  -- from the end, because a digit there leaves the places of the others to the left of it
  induction digits using List.reverseRecOn with
  | nil => decide
  | append_singleton digits c ih =>
      have hinit : ∀ d ∈ digits, Text.isHexDigit d = true := fun d hd => h d (by simp [hd])
      have hc : Text.isHexDigit c = true := h c (by simp)
      rw [value_concat]
      by_cases hzeros : ∀ d ∈ digits, d.toUpper = '0'
      · rw [(value_eq_zero_iff hinit).mpr hzeros, withoutLeadingZeros_of_zeros hzeros]
        simpa using write_digit hc
      · have hpos : 0 < value digits :=
          Nat.pos_of_ne_zero fun hzero => hzeros ((value_eq_zero_iff hinit).mp hzero)
        rw [write_concat hpos hc, ih hinit, withoutLeadingZeros_concat hzeros]

end Hexadecimal

end SymbolAtlas
