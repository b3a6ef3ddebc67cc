/-
# SymbolAtlas.Text.LowerCase — the lower-case form of a text

Every character has a lower-case form of its own, with two rules beside the table: U+0130 becomes an
`i` with a dot above, and a capital sigma becomes a final sigma at the end of a word. It stands at
the end of a word if the nearest character before it that is not passed over has case, and the
nearest one after it has none.
-/
import SymbolAtlas.Text.Basic
import SymbolAtlas.Text.CaseTable

namespace SymbolAtlas.Text

/-- How a character counts in the surroundings of a letter. -/
inductive CaseRole
  | cased
  | passedOver
  | other
  deriving DecidableEq, Repr

/-- Whether a code point lies in one of the ranges. -/
def inRanges (ranges : List (Nat × Nat)) (n : Nat) : Bool :=
  ranges.any fun (first, last) => first ≤ n && n ≤ last

/-- The role of a character. -/
def caseRole (c : Char) : CaseRole :=
  if inRanges CaseTable.ignorable c.toNat then .passedOver
  else if inRanges CaseTable.cased c.toNat then .cased
  else .other

/-- Whether the first character that is not passed over has case. -/
def meetsCased : Text → Bool
  | [] => false
  | c :: rest =>
    match caseRole c with
    | .cased => true
    | .passedOver => meetsCased rest
    | .other => false

/-- The lower-case form of one code point by the table. -/
def lowerCode (n : Nat) : Nat :=
  match CaseTable.lowerRuns.find? fun run =>
      run.first ≤ n && n ≤ run.last && (n - run.first) % run.step == 0 with
  | some run => (n + run.shift).toNat
  | none => n

/-- The lower-case form of one character wherever it stands. -/
def lowerChar (c : Char) : Text :=
  if c.toNat < 128 then [if 'A' ≤ c && c ≤ 'Z' then Char.ofNat (c.toNat + 32) else c]
  else if c.toNat == 0x130 then ['i', Char.ofNat 0x307]
  else [Char.ofNat (lowerCode c.toNat)]

/-- The capital sigma. -/
def capitalSigma : Char := Char.ofNat 0x3A3

/-- Lower-cases the rest of a text; `before` holds what precedes it, nearest character first. -/
def lowerFrom (before : Text) : Text → Text
  | [] => []
  | c :: rest =>
    let form :=
      if c == capitalSigma && meetsCased before && !meetsCased rest then [Char.ofNat 0x3C2]
      else lowerChar c
    form ++ lowerFrom (c :: before) rest

/-- The lower-case form of a text. -/
def lower (s : Text) : Text := lowerFrom [] s

end SymbolAtlas.Text
