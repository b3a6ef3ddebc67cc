/-
# SymbolAtlas.Proofs.Table.History — what a table holds after any sequence of additions

A history is a list of steps: an entity, several entities, or the entities of another table are
offered to a table that was empty at first. Whatever the history, the table is the one that its list
of entities determines (`ofEntries`), and that list holds the first occurrences, by key, of all
entities offered. So the indexes, which are only ever extended, never get out of step with the
entities.
-/
import SymbolAtlas.Table.Kinds
import SymbolAtlas.Proofs.Table.Index

namespace SymbolAtlas.Table

variable {ε : Type} [Entity ε]

/-! ## The table of a list of entities -/

/-- Whether two entities have one key. -/
def sameKey (a b : ε) : Bool := Entity.key a == Entity.key b

/-- The table that holds the given entities, all indexes made from scratch. -/
def ofEntries (entries : List ε) : Table ε where
  entries := entries
  exact := .ofEntries (fun e => some (Entity.key e)) entries
  columns := Entity.columns.map fun column =>
    (column.name, .ofEntries column.value entries)

theorem empty_eq_ofEntries : (empty : Table ε) = ofEntries [] := rfl

/-- The row at which an entity with the same key is stored is that of the first such entity. -/
theorem first?_ofEntries (entries : List ε) (entity : ε) :
    (ofEntries entries).exact.first? (some (Entity.key entity))
      = (entries.findIdx? fun e => sameKey e entity).map Int.ofNat :=
  FieldIndex.first?_ofEntries _ _ _

theorem extract_exact (entries : List ε) (entity : ε) :
    (ofEntries entries).exact.extract entity = some (Entity.key entity) := by
  show (FieldIndex.ofEntries _ entries).extract entity = _
  rw [FieldIndex.ofEntries, (FieldIndex.addAll_spec _ _).1]

/-- Adding an entity whose key is stored gives its row and leaves the table alone. -/
theorem add_ofEntries_of_stored {entries : List ε} {entity : ε} {row : Nat}
    (h : (entries.findIdx? fun e => sameKey e entity) = some row) :
    (ofEntries entries).add entity = ((row : Int), ofEntries entries) := by
  unfold add
  rw [extract_exact, first?_ofEntries, h]
  rfl

/-- Adding an entity whose key is not stored gives the next row, and extends every index. -/
theorem add_ofEntries_of_new {entries : List ε} {entity : ε}
    (h : (entries.findIdx? fun e => sameKey e entity) = none) :
    (ofEntries entries).add entity
      = ((entries.length : Int), ofEntries (entries ++ [entity])) := by
  unfold add
  rw [extract_exact, first?_ofEntries, h]
  simp only [Option.map_none, ofEntries, FieldIndex.ofEntries_concat, List.map_map,
    Function.comp_def]

theorem sameKey_comm (a b : ε) : sameKey a b = sameKey b a := BEq.comm

/-- The entities with one more, unless its key is among theirs. -/
def keep (entries : List ε) (entity : ε) : List ε :=
  if entries.any (sameKey entity) then entries else entries ++ [entity]

/-- Adding an entity keeps the table determined by its entities. -/
theorem add_ofEntries (entries : List ε) (entity : ε) :
    ((ofEntries entries).add entity).2 = ofEntries (keep entries entity) := by
  have hany : entries.any (sameKey entity)
      = (entries.findIdx? fun e => sameKey e entity).isSome := by
    rw [List.findIdx?_isSome]
    exact congrArg _ (funext fun e => sameKey_comm entity e)
  rw [keep, hany]
  cases h : entries.findIdx? fun e => sameKey e entity with
  | none => rw [add_ofEntries_of_new h]; rfl
  | some row => rw [add_ofEntries_of_stored h]; rfl

/-! ## Histories -/

/-- One step of a history: what is offered to the table. -/
inductive Step (ε : Type) [Entity ε]
  | add (entity : ε)
  | addRange (entities : List ε)
  | merge (other : Table ε)

/-- The entities that a step offers, in order. -/
def Step.offers : Step ε → List ε
  | .add entity => [entity]
  | .addRange entities => entities
  | .merge other => other.entries

/-- The table after a step. -/
def Step.apply (t : Table ε) : Step ε → Table ε
  | .add entity => (t.add entity).2
  | .addRange entities => t.addRange entities
  | .merge other => t.addRange other.entries

/-- The table after a history. -/
def after (t : Table ε) (history : List (Step ε)) : Table ε := history.foldl Step.apply t

/-- All entities offered in a history, in order. -/
def offered (history : List (Step ε)) : List ε := history.flatMap Step.offers

theorem apply_eq_addRange (t : Table ε) (step : Step ε) :
    step.apply t = t.addRange step.offers := by
  cases step <;> rfl

/-- Two ranges, one after the other, are one range. -/
theorem addRange_append (t : Table ε) (first second : List ε) :
    t.addRange (first ++ second) = (t.addRange first).addRange second :=
  List.foldl_append

/-- A history is the range of all entities that it offers. -/
theorem after_eq_addRange (t : Table ε) (history : List (Step ε)) :
    t.after history = t.addRange (offered history) := by
  induction history generalizing t with
  | nil => rfl
  | cons step rest ih =>
      show (step.apply t).after rest = t.addRange (step.offers ++ offered rest)
      rw [ih, apply_eq_addRange, addRange_append]

/-- Ranges keep the table determined by its entities. -/
theorem addRange_ofEntries (entries entities : List ε) :
    (ofEntries entries).addRange entities = ofEntries (entities.foldl keep entries) := by
  induction entities generalizing entries with
  | nil => rfl
  | cons entity rest ih =>
      show ((ofEntries entries).add entity).2.addRange rest = _
      rw [add_ofEntries, ih]
      rfl

theorem after_ofEntries (entries : List ε) (history : List (Step ε)) :
    (ofEntries entries).after history = ofEntries ((offered history).foldl keep entries) := by
  rw [after_eq_addRange, addRange_ofEntries]

/-- What a whole history does: the table is the one that the first occurrences among the entities
offered determine. -/
theorem after_empty (history : List (Step ε)) :
    (empty : Table ε).after history = ofEntries ((offered history).eraseDupsBy sameKey) := by
  rw [empty_eq_ofEntries, after_ofEntries, eraseDupsBy_eq_foldl]
  rfl

/-- A table that was made by adding entities in order. -/
theorem addRange_empty (entities : List ε) :
    (empty : Table ε).addRange entities = ofEntries (entities.eraseDupsBy sameKey) := by
  have hafter := after_empty [Step.addRange entities]
  rwa [offered, List.flatMap_singleton] at hafter

/-- Going on after a history is one longer history. -/
theorem foldl_keep_offered (history later : List (Step ε)) :
    (offered later).foldl keep ((offered history).eraseDupsBy sameKey)
      = (offered (history ++ later)).eraseDupsBy sameKey := by
  rw [eraseDupsBy_eq_foldl, eraseDupsBy_eq_foldl, offered, offered, offered, List.flatMap_append,
    List.foldl_append]
  rfl

/-- Entities that are stored stay at the front, whatever is offered later. -/
theorem prefix_foldl_keep (entries entities : List ε) :
    entries <+: entities.foldl keep entries := by
  induction entities generalizing entries with
  | nil => exact List.prefix_refl entries
  | cons entity rest ih =>
      refine List.IsPrefix.trans ?_ (ih (keep entries entity))
      unfold keep
      split
      · exact List.prefix_refl entries
      · exact List.prefix_append entries [entity]

end SymbolAtlas.Table
