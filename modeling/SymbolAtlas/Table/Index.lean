/-
# SymbolAtlas.Table.Index — from the value of a field to the rows that have it

An index is told about rows one by one and only grows. The field of a row may be absent, and some of
its values may be ignored; such rows are not recorded. The values stand in the order in which they
were first seen, and the row numbers of a value in the order in which they were added, as often as
they were added.
-/
import SymbolAtlas.Sequence

namespace SymbolAtlas

/-- An index of entities of type `ε` by a field of type `φ`. -/
structure FieldIndex (ε φ : Type) where
  extract : ε → Option φ
  ignore : φ → Bool := fun _ => false
  postings : List (φ × List Int) := []

namespace FieldIndex

variable {ε φ : Type} [BEq φ]

/-- Adds a row number behind those of an equal value, or behind all values with a value of its
own. -/
def post (value : φ) (rowId : Int) : List (φ × List Int) → List (φ × List Int)
  | [] => [(value, [rowId])]
  | (known, ids) :: rest =>
    if known == value then (known, ids ++ [rowId]) :: rest
    else (known, ids) :: post value rowId rest

/-- The value if it is present and not ignored. -/
def recorded? (index : FieldIndex ε φ) (value : Option φ) : Option φ :=
  value.filter fun v => !index.ignore v

/-- Records a row. -/
def add (index : FieldIndex ε φ) (entity : ε) (rowId : Int) : FieldIndex ε φ :=
  match index.recorded? (index.extract entity) with
  | some value => { index with postings := post value rowId index.postings }
  | none => index

/-- The row numbers of a value. -/
def find (index : FieldIndex ε φ) (value : Option φ) : List Int :=
  match index.recorded? value with
  | some v => ((index.postings.find? fun posting => posting.1 == v).map (·.2)).getD []
  | none => []

/-- Whether a row with the value was recorded. -/
def contains (index : FieldIndex ε φ) (value : Option φ) : Bool :=
  match index.recorded? value with
  | some v => index.postings.any fun posting => posting.1 == v
  | none => false

/-- The first row number of a value, if it has one. -/
def first? (index : FieldIndex ε φ) (value : Option φ) : Option Int := (index.find value).head?

/-- The first row number of a value as it is shown, or what is given for a value without rows. -/
def firstOr {α : Type} (index : FieldIndex ε φ) (value : Option φ) (default : α) (shown : Int → α) :
    α :=
  (index.first? value).elim default shown

/-- The rows of a value, taken from the row store. -/
def entities (index : FieldIndex ε φ) (rows : List ε) (value : Option φ) : Attempt (List ε) :=
  (index.find value).mapM (itemAt rows)

omit [BEq φ] in
/-- The distinct values in the order in which they were first seen. -/
def values (index : FieldIndex ε φ) : List φ := index.postings.map (·.1)

omit [BEq φ] in
/-- The number of distinct values. -/
def size (index : FieldIndex ε φ) : Nat := index.postings.length

end FieldIndex

end SymbolAtlas
