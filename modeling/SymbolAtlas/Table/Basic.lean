/-
# SymbolAtlas.Table.Basic — tables of entities without duplicates, with an index for each column

A table keeps its entities in the order in which they came and refuses an entity whose key it
already holds. It only grows: the row number of an entity never changes. Every column has an index
that knows the rows of each of its values.
-/
import SymbolAtlas.Entity
import SymbolAtlas.Table.Index

namespace SymbolAtlas

/-- The value of a column. File names are equal if they differ in case only. -/
inductive Value
  | text (s : Text)
  | identity (i : FileIdentity)
  | hint (h : FileHint)
  | path (p : FilePath)
  deriving Repr

/-- Whether two column values are the same one. -/
def Value.same : Value → Value → Bool
  | .text a, .text b => a == b
  | .identity a, .identity b => a == b
  | .hint a, .hint b => a.key == b.key
  | .path a, .path b => a == b
  | _, _ => false

instance : BEq Value := ⟨Value.same⟩

/-- A value as a report shows it. -/
def Value.toJson : Value → Json
  | .text s => .text s
  | .identity i => i.toJson
  | .hint h => h.toJson
  | .path p => p.toJson

/-- A named column: what it says of an entity, if anything. -/
structure Column (ε : Type) where
  name : Text
  value : ε → Option Value

/-- What a table needs to know of the entities that it holds. -/
class Entity (ε : Type) where
  /-- The type of the keys. -/
  Key : Type
  keyEq : DecidableEq Key
  /-- Two entities are the same if their keys are equal. -/
  key : ε → Key
  columns : List (Column ε)
  label : ε → Text
  toJson : ε → Json

instance {ε : Type} [Entity ε] : DecidableEq (Entity.Key ε) := Entity.keyEq

/-- Entities in order of arrival, the index by key and the indexes by column. -/
structure Table (ε : Type) [Entity ε] where
  entries : List ε
  exact : FieldIndex ε (Entity.Key ε)
  columns : List (Text × FieldIndex ε Value)

namespace Table

variable {ε : Type} [Entity ε]

/-- The table without entities. -/
def empty : Table ε where
  entries := []
  exact := { extract := fun e => some (Entity.key e) }
  columns := Entity.columns.map fun column => (column.name, { extract := column.value })

/-- The number of entities. -/
def size (t : Table ε) : Nat := t.entries.length

/-- The row number of the stored entity with the key, if there is one. -/
def rowOfKey? (t : Table ε) (key : Entity.Key ε) : Option Int := t.exact.first? (some key)

/-- Whether an entity with the same key is stored. -/
def contains (t : Table ε) (entity : ε) : Bool := t.exact.contains (t.exact.extract entity)

/-- Stores an entity unless one with the same key is stored. Gives the row number of the stored one
and the table. -/
def add (t : Table ε) (entity : ε) : Int × Table ε :=
  match t.exact.first? (t.exact.extract entity) with
  | some rowId => (rowId, t)
  | none =>
    let rowId : Int := t.entries.length
    (rowId,
      { entries := t.entries ++ [entity]
        exact := t.exact.add entity rowId
        columns := t.columns.map fun (name, index) => (name, index.add entity rowId) })

/-- Stores the entities one after the other. -/
def addRange (t : Table ε) (entities : List ε) : Table ε :=
  entities.foldl (fun table entity => (table.add entity).2) t

/-- The index of a column. -/
def column (t : Table ε) (name : Text) : Attempt (FieldIndex ε Value) :=
  match t.columns.lookup name with
  | some index => .ok index
  | none => .error (.unknownColumn name)

/-- The entities with a value in a column, in the order of their rows. -/
def lookup (t : Table ε) (name : Text) (value : Option Value) : Attempt (List ε) := do
  (← t.column name).entities t.entries value

/-- The distinct values of a column in the order in which they were first seen. -/
def values (t : Table ε) (name : Text) : Attempt (List Value) := do
  return (← t.column name).values

/-- The distinct values of a column that the table is known to have. -/
def valuesOf (t : Table ε) (name : Text) : List Value :=
  match t.values name with
  | .ok values => values
  | .error _ => []

/-- The entities as a report shows them. -/
def toJson (t : Table ε) : Json := .arr (t.entries.map Entity.toJson)

end Table

end SymbolAtlas
