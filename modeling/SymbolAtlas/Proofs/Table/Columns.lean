/-
# SymbolAtlas.Proofs.Table.Columns — every column answers as a scan of the entities does

The index of a column is extended when an entity is stored and never made anew. After any history
its answers are nevertheless those of a scan: a look-up is the part of the entities that have the
value, the values are listed in the order in which they first occur, and the look-ups over all
values divide the entities that have one. The columns of each table, with what they show and which
values they hold equal, are written out in the main statement, as are the queries by file.
-/
import SymbolAtlas.Proofs.Table.Uniqueness
import Mathlib.Data.List.Nodup
import Mathlib.Data.List.Perm.Basic
import Mathlib.Data.List.Lattice

namespace SymbolAtlas

/-! ## Equality of column values -/

/-- A value with a file name in lower case: the same values are those with one form. -/
def Value.folded : Value → Value
  | .hint h => .hint ⟨h.key⟩
  | value => value

theorem Value.beq_iff_folded (a b : Value) : (a == b) = true ↔ a.folded = b.folded := by
  show a.same b = true ↔ a.folded = b.folded
  cases a <;> cases b <;> simp [Value.same, Value.folded]

instance : EquivBEq Value where
  rfl := (Value.beq_iff_folded _ _).mpr rfl
  symm h := (Value.beq_iff_folded _ _).mpr ((Value.beq_iff_folded _ _).mp h).symm
  trans h h' := (Value.beq_iff_folded _ _).mpr
    (((Value.beq_iff_folded _ _).mp h).trans ((Value.beq_iff_folded _ _).mp h'))

/-! ## Dividing a list by a field -/

section Division

variable {α φ : Type} [BEq φ] [EquivBEq φ]

/-- The items whose field is present and equal to a value. -/
def itemsWith (field : α → Option φ) (items : List α) (value : φ) : List α :=
  items.filter fun item => (field item).any (· == value)

/-- The distinct values of a field, in the order in which they first occur. -/
def fieldValues (field : α → Option φ) (items : List α) : List φ :=
  (items.filterMap field).eraseDups

omit [EquivBEq φ] in
theorem mem_itemsWith {field : α → Option φ} {items : List α} {value : φ} {item : α} :
    item ∈ itemsWith field items value
      ↔ item ∈ items ∧ ∃ v, field item = some v ∧ (v == value) = true := by
  rw [itemsWith, List.mem_filter]
  cases field item with
  | none => simp
  | some v => simp

/-- Every present value is listed under an equal one. -/
theorem exists_fieldValue {field : α → Option φ} {items : List α} {item : α} {v : φ}
    (hitem : item ∈ items) (hv : field item = some v) :
    ∃ value ∈ fieldValues field items, (v == value) = true := by
  have hmem : v ∈ items.filterMap field := List.mem_filterMap.mpr ⟨item, hitem, hv⟩
  have hany : ((items.filterMap field).eraseDupsBy (· == ·)).any (v == ·) = true := by
    rw [any_eraseDupsBy (· == ·) BEq.trans]
    exact List.any_eq_true.mpr ⟨v, hmem, BEq.rfl⟩
  exact List.any_eq_true.mp hany

/-- Listed values are pairwise different, so no item has two of them. -/
theorem disjoint_itemsWith (field : α → Option φ) (items : List α) :
    (fieldValues field items).Pairwise fun value other =>
      List.Disjoint (itemsWith field items value) (itemsWith field items other) := by
  refine (pairwise_eraseDupsBy (· == ·) (items.filterMap field)).imp ?_
  intro value other hne item hvalue hother
  obtain ⟨-, v, hv, heq⟩ := mem_itemsWith.mp hvalue
  obtain ⟨-, w, hw, heq'⟩ := mem_itemsWith.mp hother
  rw [hv, Option.some.injEq] at hw
  subst hw
  rw [BEq.trans (BEq.symm heq') heq] at hne
  cases hne

/-- Each listed value has an item. -/
theorem itemsWith_ne_nil {field : α → Option φ} {items : List α} {value : φ}
    (h : value ∈ fieldValues field items) : itemsWith field items value ≠ [] := by
  obtain ⟨item, hitem, hv⟩ := List.mem_filterMap.mp (eraseDupsBy_subset _ _ h)
  exact List.ne_nil_of_mem (mem_itemsWith.mpr ⟨hitem, value, hv, BEq.rfl⟩)

/-- The items of all listed values are, in another order, those that have a value. -/
theorem flatMap_itemsWith_perm (field : α → Option φ) {items : List α} (hnodup : items.Nodup) :
    ((fieldValues field items).flatMap (itemsWith field items)).Perm
      (items.filter fun item => (field item).isSome) := by
  -- both sides are free of repetitions, so it is enough to compare their members
  refine (List.perm_ext_iff_of_nodup ?_ (hnodup.filter _)).mpr fun item => ?_
  · refine List.nodup_flatMap.mpr ⟨fun value _ => hnodup.filter _, ?_⟩
    exact disjoint_itemsWith field items
  · rw [List.mem_flatMap, List.mem_filter]
    constructor
    · rintro ⟨value, -, hitem⟩
      obtain ⟨hmem, v, hv, -⟩ := mem_itemsWith.mp hitem
      exact ⟨hmem, Option.isSome_iff_exists.mpr ⟨v, hv⟩⟩
    · rintro ⟨hmem, hsome⟩
      obtain ⟨v, hv⟩ := Option.isSome_iff_exists.mp hsome
      obtain ⟨value, hlisted, heq⟩ := exists_fieldValue hmem hv
      exact ⟨value, hlisted, mem_itemsWith.mpr ⟨hmem, v, hv, heq⟩⟩

end Division

namespace Table

variable {ε : Type} [Entity ε]

/-! ## One column -/

/-- That a column of a table answers as a scan of its entities by `value` does. -/
structure Agrees (t : Table ε) (name : Text) (value : ε → Option Value) : Prop where
  /-- A look-up is the part of the entities that have the value, in order. -/
  lookup : ∀ v, t.lookup name (some v) = .ok (itemsWith value t.entries v)
  /-- No entity is found under an absent value. -/
  absent : t.lookup name none = .ok []
  /-- No look-up repeats an entity. -/
  once : ∀ v, (itemsWith value t.entries v).Nodup
  /-- The values are listed once each, in the order in which they first occur. -/
  values : t.values name = .ok (fieldValues value t.entries)
  /-- Each listed value is found, no two of them in one entity, and together they give all entities
  that have a value. -/
  divided : (∀ v ∈ fieldValues value t.entries, itemsWith value t.entries v ≠ []) ∧
    ((fieldValues value t.entries).Pairwise fun v w =>
      List.Disjoint (itemsWith value t.entries v) (itemsWith value t.entries w)) ∧
    ((fieldValues value t.entries).flatMap (itemsWith value t.entries)).Perm
      (t.entries.filter fun e => (value e).isSome)

omit [Entity ε] in
/-- Searching columns by name finds the index of the column, if names are distinct. -/
theorem lookup_columns {columns : List (Column ε)} (hnames : (columns.map Column.name).Nodup)
    (index : Column ε → FieldIndex ε Value) {column : Column ε} (hcolumn : column ∈ columns) :
    (columns.map fun c => (c.name, index c)).lookup column.name = some (index column) := by
  induction columns with
  | nil => cases hcolumn
  | cons head rest ih =>
      rw [List.map_cons, List.nodup_cons] at hnames
      rw [List.map_cons, List.lookup_cons]
      rcases List.mem_cons.mp hcolumn with rfl | hrest
      · rw [beq_self_eq_true]
      · have hne : (column.name == head.name) = false := by
          refine beq_eq_false_iff_ne.mpr fun heq => hnames.1 ?_
          rw [← heq]
          exact List.mem_map_of_mem hrest
        rw [hne]
        exact ih hnames.2 hrest

/-- The index of a column of a table is the index of its entities by that column. -/
theorem column_ofEntries (hnames : ((Entity.columns (ε := ε)).map Column.name).Nodup)
    (entries : List ε) {column : Column ε} (hcolumn : column ∈ Entity.columns (ε := ε)) :
    (ofEntries entries).column column.name = .ok (.ofEntries column.value entries) := by
  unfold Table.column
  rw [ofEntries, lookup_columns hnames (fun c => .ofEntries c.value entries) hcolumn]

/-- After any history every column agrees with a scan, in a kind of table with distinct column
names. -/
theorem agrees_after_empty (hnames : ((Entity.columns (ε := ε)).map Column.name).Nodup)
    (history : List (Step ε)) : ∀ column ∈ Entity.columns (ε := ε),
      Agrees ((empty : Table ε).after history) column.name column.value := by
  intro column hcolumn
  have hkeeps : Keeps Entity.key (offered history) ((empty : Table ε).after history) :=
    keeps_after_empty (fun _ _ => Iff.rfl) history
  -- entities with distinct keys are distinct, so no look-up can repeat one
  have hnodup : ((empty : Table ε).after history).entries.Nodup := hkeeps.distinct.of_map _
  rw [after_empty] at hnodup ⊢
  generalize (offered history).eraseDupsBy sameKey = entries at hnodup
  have hindex := column_ofEntries hnames entries hcolumn
  constructor
  case lookup =>
    intro v
    rw [Table.lookup, hindex]
    exact FieldIndex.entities_ofEntries _ _ _
  case absent =>
    rw [Table.lookup, hindex]
    rfl
  case once => exact fun v => hnodup.filter _
  case values =>
    rw [Table.values, hindex]
    exact congrArg Except.ok (FieldIndex.values_ofEntries _ _)
  case divided =>
    exact ⟨fun v => itemsWith_ne_nil, disjoint_itemsWith _ _, flatMap_itemsWith_perm _ hnodup⟩

/-! ## Values compared by identity and by file name -/

omit [Entity ε] in
theorem itemsWith_identity (identity : ε → FileIdentity) (entries : List ε) (i : FileIdentity) :
    itemsWith (fun e => some (Value.identity (identity e))) entries (.identity i)
      = entries.filter fun e => identity e = i := by
  refine List.filter_congr fun e _ => Bool.eq_iff_iff.mpr ?_
  rw [Option.any_some, Value.beq_iff_folded, decide_eq_true_iff]
  exact Value.identity.injEq _ _ ▸ Iff.rfl

omit [Entity ε] in
theorem itemsWith_hint (hint : ε → FileHint) (entries : List ε) (h : FileHint) :
    itemsWith (fun e => some (Value.hint (hint e))) entries (.hint h)
      = entries.filter fun e => (hint e).name.lower = h.name.lower := by
  refine List.filter_congr fun e _ => Bool.eq_iff_iff.mpr ?_
  rw [Option.any_some, Value.beq_iff_folded, decide_eq_true_iff]
  simp only [Value.folded, Value.hint.injEq, FileHint.mk.injEq, FileHint.key]

end Table

/-! ## The columns and queries of the five tables -/

open Table

/-- The answers of a table of exports: four columns, and the query by file, which finds what was
recorded for any file of the same identity. -/
structure ExportTable.Scans (t : ExportTable) : Prop where
  symbol : Agrees t "symbol".toList fun e => some (.text e.symbol)
  shortName : Agrees t "short_name".toList fun e => some (.text e.shortName)
  provider : Agrees t "provider".toList fun e => some (.identity e.provider.identity)
  prototype : Agrees t "prototype".toList fun e =>
    (e.prototype.filter fun p => !p.isEmpty).map .text
  forProvider : ∀ file : FilePath, ExportTable.forProvider t (some (.path file))
    = .ok (t.entries.filter fun e => e.provider.identity = file.identity)

/-- The answers of a table of imports: four columns, the query by importing file, and the query by
providing file, which compares its last name in any case. -/
structure ImportTable.Scans (t : ImportTable) : Prop where
  symbol : Agrees t "symbol".toList fun e => some (.text e.symbol)
  shortName : Agrees t "short_name".toList fun e => some (.text e.shortName)
  caller : Agrees t "caller".toList fun e => some (.identity e.calledFrom.identity)
  provider : Agrees t "provider".toList fun e => some (.hint e.provider)
  forCaller : ∀ file : FilePath, ImportTable.forCaller t (some (.path file))
    = .ok (t.entries.filter fun e => e.calledFrom.identity = file.identity)
  forProvider : ∀ file : FilePath, ImportTable.forProvider t (some (.path file))
    = .ok (t.entries.filter fun e =>
        e.provider.name.lower = (WindowsPath.baseName file.fullName).lower)

/-- The answers of a table of call edges: three columns and the query by file. -/
structure CallTable.Scans (t : CallTable) : Prop where
  file : Agrees t "file".toList fun e => some (.identity e.calledFrom.identity)
  caller : Agrees t "caller".toList fun e => some (.text e.caller)
  callee : Agrees t "callee".toList fun e => some (.text e.callee)
  forFile : ∀ file : FilePath, CallTable.forFile t (some (.path file))
    = .ok (t.entries.filter fun e => e.calledFrom.identity = file.identity)

/-- The answers of a table of paths: three columns, and the query by file name, which compares the
last name of each path in any case. -/
structure FilePathTable.Scans (t : FilePathTable) : Prop where
  hint : Agrees t "hint".toList fun p => some (.hint ⟨WindowsPath.baseName p.fullName⟩)
  fullName : Agrees t "full_name".toList fun p => some (.text p.fullName)
  checksum : Agrees t "checksum".toList fun p => some (.text p.identity.checksum)
  forHint : ∀ name : Text,
    FilePathTable.forHint t (some (.hint ⟨name⟩))
      = .ok (t.entries.filter fun p => (WindowsPath.baseName p.fullName).lower = name.lower) ∧
    FilePathTable.forHint t (some (.text name))
      = .ok (t.entries.filter fun p => (WindowsPath.baseName p.fullName).lower = name.lower)

/-- After any history, every column of every table answers as a scan of its entities does, and the
queries by file find exactly the entities of that identity or of that file name in any case. -/
theorem tables_answer_as_scans :
    (∀ history : List (Table.Step ExportEntry), ExportTable.Scans (empty.after history)) ∧
    (∀ history : List (Table.Step ImportEntry), ImportTable.Scans (empty.after history)) ∧
    (∀ history : List (Table.Step CallEntry), CallTable.Scans (empty.after history)) ∧
    (∀ history : List (Table.Step FilePath), FilePathTable.Scans (empty.after history)) := by
  refine ⟨?_, ?_, ?_, ?_⟩
  · intro history
    have hcolumns := agrees_after_empty (ε := ExportEntry) (by decide) history
    simp only [Entity.columns, List.forall_mem_cons] at hcolumns
    obtain ⟨symbol, shortName, provider, prototype, -⟩ := hcolumns
    refine ⟨symbol, shortName, provider, prototype, fun file => ?_⟩
    rw [← itemsWith_identity fun e : ExportEntry => e.provider.identity]
    exact provider.lookup (.identity file.identity)
  · intro history
    have hcolumns := agrees_after_empty (ε := ImportEntry) (by decide) history
    simp only [Entity.columns, List.forall_mem_cons] at hcolumns
    obtain ⟨symbol, shortName, caller, provider, -⟩ := hcolumns
    refine ⟨symbol, shortName, caller, provider, fun file => ?_, fun file => ?_⟩
    · rw [← itemsWith_identity fun e : ImportEntry => e.calledFrom.identity]
      exact caller.lookup (.identity file.identity)
    · exact (provider.lookup (.hint file.hint)).trans
        (congrArg Except.ok (itemsWith_hint ImportEntry.provider _ file.hint))
  · intro history
    have hcolumns := agrees_after_empty (ε := CallEntry) (by decide) history
    simp only [Entity.columns, List.forall_mem_cons] at hcolumns
    obtain ⟨file, caller, callee, -⟩ := hcolumns
    refine ⟨file, caller, callee, fun path => ?_⟩
    rw [← itemsWith_identity fun e : CallEntry => e.calledFrom.identity]
    exact file.lookup (.identity path.identity)
  · intro history
    have hcolumns := agrees_after_empty (ε := FilePath) (by decide) history
    simp only [Entity.columns, List.forall_mem_cons] at hcolumns
    obtain ⟨hint, fullName, checksum, -⟩ := hcolumns
    have hfound (name : Text) := (hint.lookup (.hint ⟨name⟩)).trans
      (congrArg Except.ok (itemsWith_hint FilePath.hint _ ⟨name⟩))
    exact ⟨hint, fullName, checksum, fun name => ⟨hfound name, hfound name⟩⟩

end SymbolAtlas
