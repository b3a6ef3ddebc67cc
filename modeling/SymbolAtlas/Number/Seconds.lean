/-
# SymbolAtlas.Number.Seconds — reading a duration in seconds as a binary64 number

The grammar is that of decimal numbers with an optional point and exponent, or `inf`, `infinity` or
`nan` in any case; single underscores may stand between digits. A value beyond the range of binary64
is infinite, and one too small for it is zero.
-/
import SymbolAtlas.Number.Numeral

namespace SymbolAtlas.Seconds

/-- Removes the underscores of a numeral; each of them must stand between two digits. -/
def withoutUnderscores? : (afterDigit : Bool) → Text → Option Text
  | _, [] => some []
  | afterDigit, '_' :: rest =>
    match rest with
    | d :: _ =>
      if afterDigit && Text.isDecimalDigit d then withoutUnderscores? false rest else none
    | [] => none
  | _, c :: rest => (withoutUnderscores? (Text.isDecimalDigit c) rest).map (c :: ·)

/-- Reads a run of digits and gives what follows it. -/
def digitRun (s : Text) : Text × Text :=
  (s.takeWhile Text.isDecimalDigit, s.dropWhile Text.isDecimalDigit)

/-- The exponent that a numeral ends in: zero if nothing is left of it. -/
def exponent? : Text → Option Int
  | [] => some 0
  | e :: rest =>
    if e == 'e' || e == 'E' then
      let (negative, unsigned) := Numeral.splitSign rest
      if unsigned.isEmpty || !unsigned.all Text.isDecimalDigit then none
      else
        let n : Int := Numeral.decimalNat unsigned
        some (if negative then -n else n)
    else none

/-- The binary64 number nearest to `digits · 10 ^ exponent`. Exponents far outside the range are
settled without computing the power. -/
def nearest (digits : Nat) (exponent : Int) : Float :=
  let magnitude : Int := (Nat.toDigits 10 digits).length + exponent
  if digits == 0 || magnitude < -400 then 0.0
  else if magnitude > 400 then 1.0 / 0.0
  else if exponent < 0 then Float.ofScientific digits true exponent.natAbs
  else Float.ofScientific digits false exponent.natAbs

/-- Reads an unsigned decimal number. -/
def decimal? (s : Text) : Option Float :=
  let (whole, rest) := digitRun s
  let (fraction, rest) := match rest with
    | '.' :: more => digitRun more
    | _ => ([], rest)
  if whole.isEmpty && fraction.isEmpty then none
  else (exponent? rest).map fun e =>
    nearest (Numeral.decimalNat (whole ++ fraction)) (e - fraction.length)

/-- The words for the values that are not finite. -/
def special? (s : Text) : Option Float :=
  let word := s.map Char.toLower
  if word == "inf".toList || word == "infinity".toList then some (1.0 / 0.0)
  else if word == "nan".toList then some (0.0 / 0.0)
  else none

/-- The number that a text spells, if it spells one. -/
def read? (s : Text) : Option Float := do
  let plain ← withoutUnderscores? false (Numeral.normalize s)
  let (negative, unsigned) := Numeral.splitSign plain
  let magnitude ← (special? unsigned).or (decimal? unsigned)
  return if negative then -magnitude else magnitude

end SymbolAtlas.Seconds
