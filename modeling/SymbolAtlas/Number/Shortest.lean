/-
# SymbolAtlas.Number.Shortest — the fewest decimal digits that read back as a binary64 number

A finite binary64 number is `m · 2 ^ q`. The reals that round to it form an interval, whose ends
belong to it exactly if `m` is even. For one digit, two digits and so on the two neighbours of the
number on that decimal grid are tested, in exact arithmetic; the first grid with a neighbour inside
the interval gives the digits; of two such neighbours the nearer one is taken, and of two that are
equally near the even one.

The layout of the digits is a record of its own: which exponents are written positionally, and how
the others are marked.
-/
import SymbolAtlas.Text.Basic

namespace SymbolAtlas.Shortest

/-! ## The interval of a number -/

/-- A positive number, with the interval of the reals that round to it, as fractions over `den`. -/
structure Interval where
  low : Nat
  mid : Nat
  high : Nat
  den : Nat
  closed : Bool

/-- The interval of `m · 2 ^ q`. The gap below a power of two is half as wide as the gap above it,
unless the number has the least exponent. -/
def Interval.ofParts (m : Nat) (q : Int) (narrowBelow : Bool) : Interval :=
  let scale := Nat.pow 2 q.toNat
  let below := if narrowBelow then 1 else 2
  { low := (4 * m - below) * scale
    mid := 4 * m * scale
    high := (4 * m + 2) * scale
    den := 4 * Nat.pow 2 (-q).toNat
    closed := m % 2 == 0 }

/-- The interval of the magnitude of a finite number other than zero, from its bits. -/
def Interval.ofBits (bits : Nat) : Interval :=
  let fraction : Nat := bits % Nat.pow 2 52
  let biased : Nat := bits / Nat.pow 2 52 % Nat.pow 2 11
  if biased == 0 then .ofParts fraction (-1074) false
  else .ofParts (Nat.pow 2 52 + fraction) (Int.ofNat biased - 1075) (fraction == 0 && biased != 1)

/-! ## Digits -/

/-- Digits `d₁d₂…` with the value `0.d₁d₂… · 10 ^ point`. -/
structure Decimal where
  digits : Text
  point : Int

/-- The least `j` from `start` on with `num · 10 ^ j ≥ den`, looked for `fuel` times. -/
def leadingZeros (num den : Nat) : (fuel start : Nat) → Nat
  | 0, start => start
  | fuel + 1, start =>
    if num * Nat.pow 10 start ≥ den then start else leadingZeros num den fuel (start + 1)

/-- The exponent `e` with `10 ^ (e - 1) ≤ num / den < 10 ^ e`. -/
def decimalExponent (num den : Nat) : Int :=
  if num ≥ den then (Nat.toDigits 10 (num / den)).length
  else 1 - (leadingZeros num den 400 1 : Int)

/-- Whether the grid point `point · 10 ^ k` lies in the interval. -/
def Interval.holds (i : Interval) (point : Nat) (k : Int) : Bool :=
  let p := point * Nat.pow 10 k.toNat * i.den
  let scale := Nat.pow 10 (-k).toNat
  if i.closed then i.low * scale ≤ p && p ≤ i.high * scale
  else i.low * scale < p && p < i.high * scale

/-- The grid point with step `10 ^ k` that stands for the number, if one of its neighbours does. -/
def Interval.point? (i : Interval) (k : Int) : Option Nat :=
  let num := i.mid * Nat.pow 10 (-k).toNat
  let den := i.den * Nat.pow 10 k.toNat
  let below := num / den
  let nearerBelow := 2 * (num % den) < den || (2 * (num % den) == den && below % 2 == 0)
  match i.holds below k, i.holds (below + 1) k with
  | true, true => some (if nearerBelow then below else below + 1)
  | true, false => some below
  | false, true => some (below + 1)
  | false, false => none

/-- Tries the grids of `count`, `count + 1`, … digits. -/
def Interval.search (i : Interval) (exponent : Int) : (fuel count : Nat) → Decimal
  | 0, _ => { digits := ['0'], point := 1 }
  | fuel + 1, count =>
    match i.point? (exponent - count) with
    | some point =>
      let digits := Nat.toDigits 10 point
      { digits := (digits.reverse.dropWhile (· == '0')).reverse
        point := exponent - count + digits.length }
    | none => i.search exponent fuel (count + 1)

/-- The shortest digits of a positive number. Seventeen digits always suffice. -/
def Interval.decimal (i : Interval) : Decimal :=
  i.search (decimalExponent i.mid i.den) 17 1

/-! ## Layout -/

/-- How digits are laid out: positionally from `leastPoint` to `greatestPoint`, else with an
exponent of at least `exponentWidth` digits. -/
structure Layout where
  leastPoint : Int
  greatestPoint : Int
  exponentWidth : Nat

/-- Digits in positional notation, with a point and at least one digit on either side of it. -/
def Decimal.positional (d : Decimal) : Text :=
  if d.point ≤ 0 then '0' :: '.' :: List.replicate (-d.point).toNat '0' ++ d.digits
  else
    let whole := d.digits.take d.point.toNat
    let fraction := d.digits.drop d.point.toNat
    whole ++ List.replicate (d.point.toNat - whole.length) '0' ++
      '.' :: (if fraction.isEmpty then ['0'] else fraction)

/-- Digits with one of them before the point and an exponent behind. -/
def Decimal.scientific (layout : Layout) (d : Decimal) : Text :=
  let exponent := d.point - 1
  let digits := Nat.toDigits 10 exponent.natAbs
  let fraction := d.digits.drop 1
  d.digits.take 1 ++ (if fraction.isEmpty then [] else '.' :: fraction) ++
    'e' :: (if exponent < 0 then '-' else '+') ::
      List.replicate (layout.exponentWidth - digits.length) '0' ++ digits

/-- Digits as the layout has them. -/
def Decimal.write (layout : Layout) (d : Decimal) : Text :=
  if layout.leastPoint ≤ d.point && d.point ≤ layout.greatestPoint then d.positional
  else d.scientific layout

/-- The text of a binary64 number. The sign of a zero is kept; a value that is not a number has
none. -/
def write (layout : Layout) (x : Float) : Text :=
  let bits := x.toBits.toNat
  let magnitude := bits % Nat.pow 2 63
  let sign := if bits ≥ Nat.pow 2 63 then ['-'] else []
  let infinite := 2047 * Nat.pow 2 52
  if magnitude > infinite then "nan".toList
  else if magnitude == infinite then sign ++ "inf".toList
  else if magnitude == 0 then sign ++ "0.0".toList
  else sign ++ ((Interval.ofBits magnitude).decimal).write layout

end SymbolAtlas.Shortest
