/-
# SymbolAtlas.Proofs.Report.Groups — the groups of a report on imports

A report on imports shows the symbols of each providing file. The files are the values of a column of
the table, each in the spelling seen first, and the symbols are looked up by the file. Both are
answered as a scan of the table is, so grouping never fails, and the groups hold every import of the
table once, under its provider.
-/
import SymbolAtlas.Proofs.Table.Columns
import SymbolAtlas.Report.Listings

namespace SymbolAtlas

open Table

/-- That groups divide a list of imports by their providers. -/
structure ImportReport.Divides (entries : List ImportEntry) (groups : List (Text × List Text)) :
    Prop where
  /-- No two groups are of one file, in whatever spelling. -/
  apart : (groups.map fun group => group.1.lower).Nodup
  /-- A group holds the symbols imported from its file, in order. -/
  symbols : ∀ group ∈ groups, group.2
    = (entries.filter fun e => e.provider.name.lower = group.1.lower).map (·.symbol)
  /-- Together the groups hold each import once. -/
  whole : (groups.flatMap fun group => group.2.map fun symbol => (group.1.lower, symbol)).Perm
    (entries.map fun e => (e.provider.name.lower, e.symbol))

namespace ImportReport

/-- The distinct providers of some imports, each in the spelling seen first. -/
def providersOf (entries : List ImportEntry) : List FileHint :=
  (entries.map (·.provider)).eraseDupsBy fun a b => a.key == b.key

/-- The group of a provider. -/
def groupOf (entries : List ImportEntry) (provider : FileHint) : Text × List Text :=
  (provider.name,
    (entries.filter fun e => e.provider.name.lower = provider.name.lower).map (·.symbol))

theorem fieldValues_provider (entries : List ImportEntry) :
    fieldValues (fun e : ImportEntry => some (Value.hint e.provider)) entries
      = (providersOf entries).map Value.hint := by
  have hfield : entries.filterMap (fun e : ImportEntry => some (Value.hint e.provider))
      = (entries.map (·.provider)).map Value.hint := by
    rw [List.map_map, ← List.filterMap_eq_map]
    rfl
  rw [fieldValues, hfield]
  exact map_eraseDupsBy (fun _ _ => rfl) _

/-- Steps that always keep what they make keep all of it. -/
theorem filterMapM_map {α β γ : Type} {items : List α} {given : α → β}
    {step : β → Attempt (Option γ)} {made : α → γ}
    (h : ∀ item, step (given item) = .ok (some (made item))) :
    (items.map given).filterMapM step = .ok (items.map made) := by
  induction items with
  | nil => rfl
  | cons item rest ih =>
      rw [List.map_cons, List.filterMapM_cons, h item, ih]
      rfl

variable {table : ImportTable}

/-- The groups of a table whose column of providers answers as a scan does. -/
theorem groupsOf_eq
    (hproviders : Agrees table "provider".toList fun e => some (.hint e.provider)) :
    groupsOf table = .ok ((providersOf table.entries).map (groupOf table.entries)) := by
  have hvalues : ImportTable.providers table = (providersOf table.entries).map Value.hint := by
    rw [ImportTable.providers, Table.valuesOf, hproviders.values, fieldValues_provider]
  have hlookup (provider : FileHint) :
      ImportTable.forProvider table (some (.hint provider))
        = .ok (table.entries.filter fun e => e.provider.name.lower = provider.name.lower) := by
    rw [← itemsWith_hint (fun e : ImportEntry => e.provider)]
    exact hproviders.lookup _
  rw [groupsOf, hvalues]
  refine filterMapM_map fun provider => ?_
  simp only [hlookup]
  rfl

/-- The groups divide the imports. -/
theorem divides_groups
    (hproviders : Agrees table "provider".toList fun e => some (.hint e.provider)) :
    Divides table.entries ((providersOf table.entries).map (groupOf table.entries)) := by
  constructor
  case apart =>
    rw [List.map_map]
    refine List.pairwise_map.mpr ((pairwise_eraseDupsBy _ _).imp ?_)
    intro provider other hne heq
    exact beq_eq_false_iff_ne.mp hne heq.symm
  case symbols =>
    intro group hgroup
    obtain ⟨provider, -, rfl⟩ := List.mem_map.mp hgroup
    rfl
  case whole =>
    have hdivided := hproviders.divided.2.2.map fun e => (e.provider.name.lower, e.symbol)
    have hall : (table.entries.filter fun e : ImportEntry =>
        (some (Value.hint e.provider)).isSome) = table.entries :=
      List.filter_eq_self.mpr fun e _ => rfl
    rw [hall, fieldValues_provider, List.flatMap_map, List.map_flatMap] at hdivided
    -- all imports of one group have the provider of the group
    have hgroup (provider : FileHint) : (groupOf table.entries provider).2.map
          (fun symbol => ((groupOf table.entries provider).1.lower, symbol))
        = (itemsWith (fun e : ImportEntry => some (Value.hint e.provider)) table.entries
            (.hint provider)).map fun e => (e.provider.name.lower, e.symbol) := by
      rw [itemsWith_hint, groupOf, List.map_map]
      refine List.map_congr_left fun e he => ?_
      have hprovider : e.provider.name.lower = provider.name.lower := by
        simpa using (List.mem_filter.mp he).2
      rw [hprovider]
      rfl
    rw [List.flatMap_map]
    simp only [hgroup]
    exact hdivided

/-- In a table that was made by adding imports in order, the column of providers answers as a scan
does. -/
theorem agrees_provider (imported : List ImportEntry) :
    Agrees (empty.addRange imported : ImportTable) "provider".toList
      fun e => some (.hint e.provider) := by
  have hcolumns := agrees_after_empty (ε := ImportEntry) (by decide) [.addRange imported]
  simp only [Entity.columns, List.forall_mem_cons] at hcolumns
  obtain ⟨-, -, -, hproviders, -⟩ := hcolumns
  exact hproviders

/-- Grouping a table that was made by adding imports in order succeeds, and divides its imports. -/
theorem exists_groups (imported : List ImportEntry) :
    ∃ groups, groupsOf (empty.addRange imported) = .ok groups ∧
      Divides (empty.addRange imported : ImportTable).entries groups :=
  ⟨_, groupsOf_eq (agrees_provider imported), divides_groups (agrees_provider imported)⟩

end ImportReport

end SymbolAtlas
