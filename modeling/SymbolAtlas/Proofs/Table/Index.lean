/-
# SymbolAtlas.Proofs.Table.Index — what an index knows after any rows have been recorded

An index is filled row by row. Its state is described by the list of rows alone: the numbers found
for a value are those of the rows that have it, in order, and the values are the first occurrences
among the values of the rows. Values need not be compared by equality: an equivalence is enough, as
it is for file names.
-/
import SymbolAtlas.Table.Index
import SymbolAtlas.Proofs.Sequence

namespace SymbolAtlas.FieldIndex

variable {ε φ : Type} [BEq φ]

/-! ## Postings -/

/-- The row numbers that stand behind a value. -/
def postedRows (postings : List (φ × List Int)) (value : φ) : List Int :=
  ((postings.find? fun posting => posting.1 == value).map (·.2)).getD []

/-- A posted row goes to the end of the rows of its value and to no other value. -/
theorem postedRows_post [EquivBEq φ] (posted : φ) (row : Int) (postings : List (φ × List Int))
    (value : φ) :
    postedRows (post posted row postings) value
      = postedRows postings value ++ if posted == value then [row] else [] := by
  induction postings with
  | nil =>
      cases hvalue : posted == value <;> simp [post, postedRows, hvalue]
  | cons posting rest ih =>
      obtain ⟨known, rows⟩ := posting
      cases hknown : known == posted with
      | true =>
          have hsame : (known == value) = (posted == value) := BEq.congr_left hknown
          cases hvalue : posted == value <;>
            simp [post, postedRows, hknown, hsame, hvalue]
      | false =>
          -- the posting stays; only if it is not the one looked for does the search go on
          cases hvalue : known == value with
          | true =>
              have hother : (posted == value) = false := by
                rw [← BEq.congr_right hvalue, BEq.comm, hknown]
              simp [post, postedRows, hknown, hvalue, hother]
          | false =>
              simpa [post, postedRows, hknown, hvalue] using ih

/-- A posted value that is new goes behind all values; one that is known changes none. -/
theorem values_post (posted : φ) (row : Int) (postings : List (φ × List Int)) :
    (post posted row postings).map (·.1)
      = if postings.any (fun posting => posting.1 == posted) then postings.map (·.1)
        else postings.map (·.1) ++ [posted] := by
  induction postings with
  | nil => rfl
  | cons posting rest ih =>
      obtain ⟨known, rows⟩ := posting
      cases hknown : known == posted with
      | true => simp [post, hknown]
      | false =>
          simp only [post, hknown, List.map_cons, List.any_cons, Bool.false_or]
          rw [if_neg Bool.false_ne_true, List.map_cons, ih]
          split <;> rfl

/-! ## Recording many rows -/

/-- Records entities with their row numbers, one after the other. -/
def addAll (index : FieldIndex ε φ) (rows : List (ε × Int)) : FieldIndex ε φ :=
  rows.foldl (fun index row => index.add row.1 row.2) index

theorem addAll_concat (index : FieldIndex ε φ) (rows : List (ε × Int)) (row : ε × Int) :
    index.addAll (rows ++ [row]) = (index.addAll rows).add row.1 row.2 :=
  List.foldl_concat _ _ _ _

/-- Recording changes neither the field nor the values that are ignored. -/
theorem add_spec (index : FieldIndex ε φ) (entity : ε) (row : Int) :
    index.add entity row = { index with
      postings := match index.recorded? (index.extract entity) with
        | some value => post value row index.postings
        | none => index.postings } := by
  unfold add
  cases index.recorded? (index.extract entity) <;> rfl

theorem addAll_spec (index : FieldIndex ε φ) (rows : List (ε × Int)) :
    (index.addAll rows).extract = index.extract ∧ (index.addAll rows).ignore = index.ignore := by
  induction rows using List.reverseRecOn with
  | nil => exact ⟨rfl, rfl⟩
  | append_singleton rows row ih =>
      rw [addAll_concat, add_spec]
      exact ih

theorem recorded?_addAll (index : FieldIndex ε φ) (rows : List (ε × Int)) (value : Option φ) :
    (index.addAll rows).recorded? value = index.recorded? value := by
  unfold recorded?
  rw [(addAll_spec index rows).2]

/-- Whether an entity is recorded under a value. -/
def files (index : FieldIndex ε φ) (value : φ) (entity : ε) : Bool :=
  (index.recorded? (index.extract entity)).any (· == value)

theorem postedRows_addAll [EquivBEq φ] (index : FieldIndex ε φ) (rows : List (ε × Int))
    (value : φ) :
    postedRows (index.addAll rows).postings value
      = postedRows index.postings value
        ++ (rows.filter fun row => index.files value row.1).map (·.2) := by
  -- from the end, because the row recorded last is posted last
  induction rows using List.reverseRecOn with
  | nil => rw [List.filter_nil, List.map_nil, List.append_nil]; rfl
  | append_singleton rows row ih =>
      rw [addAll_concat, add_spec, recorded?_addAll, (addAll_spec index rows).1,
        List.filter_append, List.map_append, ← List.append_assoc, ← ih]
      cases hfield : index.recorded? (index.extract row.1) with
      | none => simp [files, hfield]
      | some field =>
          simp only [postedRows_post]
          cases hvalue : field == value <;> simp [files, hfield, hvalue]

/-- The numbers found for a value are those of the rows that have it, in the order of recording. -/
theorem find_addAll [EquivBEq φ] (index : FieldIndex ε φ) (rows : List (ε × Int))
    (value : Option φ) :
    (index.addAll rows).find value
      = index.find value ++ match index.recorded? value with
        | some v => (rows.filter fun row => index.files v row.1).map (·.2)
        | none => [] := by
  simp only [find, recorded?_addAll]
  cases index.recorded? value with
  | none => rfl
  | some v => exact postedRows_addAll index rows v

/-- The values of an index that was empty are the first occurrences among those of the rows. -/
theorem values_addAll [EquivBEq φ] (index : FieldIndex ε φ) (rows : List (ε × Int))
    (hempty : index.postings = []) :
    (index.addAll rows).values
      = (rows.filterMap fun row => index.recorded? (index.extract row.1)).eraseDups := by
  induction rows using List.reverseRecOn with
  | nil => simp [addAll, values, hempty]
  | append_singleton rows row ih =>
      unfold values at ih ⊢
      rw [addAll_concat, add_spec, recorded?_addAll, (addAll_spec index rows).1,
        List.filterMap_append]
      cases hfield : index.recorded? (index.extract row.1) with
      | none => simpa [hfield] using ih
      | some field =>
          have hknown : ((index.addAll rows).postings.any fun posting => posting.1 == field)
              = ((index.addAll rows).postings.map (·.1)).any (field == ·) := by
            rw [List.any_map]
            exact congrArg _ (funext fun posting => BEq.comm)
          show (post field row.2 (index.addAll rows).postings).map (·.1) = _
          rw [values_post, hknown, ih, List.filterMap_cons, hfield, List.filterMap_nil]
          exact (eraseDupsBy_concat _ _ _).symm

/-! ## The index of a store

A table tells each of its indexes about every row once, in the order of the rows. So the state of
such an index is a function of the store, and its answers are scans of the store. -/

/-- The entities of a store with their row numbers. -/
def numbered (entries : List ε) : List (ε × Int) :=
  entries.zipIdx.map fun row => (row.1, (row.2 : Int))

/-- The index of a store by a field. -/
def ofEntries (extract : ε → Option φ) (entries : List ε) : FieldIndex ε φ :=
  addAll { extract := extract } (numbered entries)

theorem ofEntries_concat (extract : ε → Option φ) (entries : List ε) (entity : ε) :
    ofEntries extract (entries ++ [entity])
      = (ofEntries extract entries).add entity entries.length := by
  unfold ofEntries numbered
  rw [List.zipIdx_append, List.map_append, Nat.zero_add]
  exact addAll_concat _ _ _

omit [BEq φ] in
theorem recorded?_unfiltered (extract : ε → Option φ) (value : Option φ) :
    ({ extract := extract } : FieldIndex ε φ).recorded? value = value := by
  cases value <;> rfl

/-- An index of a store finds the numbers of the rows that have the value. -/
theorem find_ofEntries [EquivBEq φ] (extract : ε → Option φ) (entries : List ε) (value : φ) :
    (ofEntries extract entries).find (some value)
      = (entries.zipIdx.filter fun row => (extract row.1).any (· == value)).map
          fun row => (row.2 : Int) := by
  have hfiles (entity : ε) : files { extract := extract } value entity
      = (extract entity).any (· == value) := by
    rw [files, recorded?_unfiltered]
  rw [ofEntries, find_addAll, recorded?_unfiltered]
  simp only [hfiles, numbered, List.filter_map, List.map_map, Function.comp_def]
  rfl

/-- The first number found is the position of the first entity that has the value. -/
theorem first?_ofEntries [EquivBEq φ] (extract : ε → Option φ) (entries : List ε) (value : φ) :
    (ofEntries extract entries).first? (some value)
      = (entries.findIdx? fun entity => (extract entity).any (· == value)).map
          Int.ofNat := by
  rw [first?, find_ofEntries, List.head?_map, List.head?_filter,
    List.findIdx?_eq_fst_find?_zipIdx, Option.map_map]
  rfl

theorem mapM_itemAt {entries : List ε} {rows : List (ε × Nat)}
    (h : ∀ row ∈ rows, entries[row.2]? = some row.1) :
    (rows.map fun row => (row.2 : Int)).mapM (itemAt entries) = .ok (rows.map (·.1)) := by
  induction rows with
  | nil => rfl
  | cons row rest ih =>
      have hrow : itemAt entries row.2 = .ok row.1 :=
        itemAt_of_getElem? (h row List.mem_cons_self)
      have hrest := ih fun other hother => h other (List.mem_cons_of_mem row hother)
      rw [List.map_cons, List.mapM_cons, hrow, hrest]
      rfl

/-- Asking an index of a store for the entities with a value is a scan of the store. -/
theorem entities_ofEntries [EquivBEq φ] (extract : ε → Option φ) (entries : List ε) (value : φ) :
    (ofEntries extract entries).entities entries (some value)
      = .ok (entries.filter fun entity => (extract entity).any (· == value)) := by
  rw [entities, find_ofEntries, mapM_itemAt]
  · rw [← Function.comp_def (fun entity => (extract entity).any (· == value)) Prod.fst,
      ← List.filter_map, List.zipIdx_map_fst]
  · intro row hrow
    exact List.mem_zipIdx_iff_getElem?.mp (List.mem_of_mem_filter hrow)

/-- The values of an index of a store are the first occurrences among the values of the store. -/
theorem values_ofEntries [EquivBEq φ] (extract : ε → Option φ) (entries : List ε) :
    (ofEntries extract entries).values = (entries.filterMap extract).eraseDups := by
  rw [ofEntries, values_addAll _ _ rfl, numbered, List.filterMap_map]
  simp only [recorded?_unfiltered]
  rw [← List.zipIdx_map_fst 0 entries, List.filterMap_map]
  simp only [List.zipIdx_map_fst, Function.comp_def]

/-- An index contains exactly the values that it lists. -/
theorem contains_eq_any_values (index : FieldIndex ε φ) (value : Option φ) :
    index.contains value = (index.recorded? value).any fun v => index.values.any (· == v) := by
  unfold contains values
  cases index.recorded? value with
  | none => rfl
  | some v => rw [Option.any_some, List.any_map]; rfl

/-- An index of a store contains the values of the entities stored. -/
theorem contains_ofEntries [EquivBEq φ] (extract : ε → Option φ) (entries : List ε) (value : φ) :
    (ofEntries extract entries).contains (some value)
      = entries.any fun entity => (extract entity).any (· == value) := by
  have hrecorded : (ofEntries extract entries).recorded? (some value) = some value := by
    rw [ofEntries, recorded?_addAll, recorded?_unfiltered]
  have hcomm : (fun v : φ => v == value) = (value == ·) := funext fun v => BEq.comm
  rw [contains_eq_any_values, hrecorded, values_ofEntries, Option.any_some, List.eraseDups, hcomm,
    any_eraseDupsBy (· == ·) BEq.trans, List.any_filterMap]
  refine congrArg _ (funext fun entity => ?_)
  cases extract entity <;> rfl

end SymbolAtlas.FieldIndex
