/-
# SymbolAtlas.Number.Tenths — a fraction with one decimal place

The fraction is rounded to the nearest tenth; a tie goes to the even neighbour.
-/
import SymbolAtlas.Text.Basic

namespace SymbolAtlas.Tenths

/-- `num / den` rounded to the nearest whole number, ties to even. -/
def roundDiv (num den : Nat) : Nat :=
  let floor := num / den
  let rest := num % den
  if 2 * rest > den || (2 * rest == den && floor % 2 == 1) then floor + 1 else floor

/-- `num / den` with one place behind the point. -/
def write (num den : Nat) : Text :=
  let tenths := roundDiv (num * 10) den
  Nat.toDigits 10 (tenths / 10) ++ '.' :: Nat.toDigits 10 (tenths % 10)

end SymbolAtlas.Tenths
