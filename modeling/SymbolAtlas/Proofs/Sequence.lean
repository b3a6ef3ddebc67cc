/-
# SymbolAtlas.Proofs.Sequence — lists by index, ranges of indexes, and first occurrences

Facts on lists that the tables and the listings share. An index that has an item never fails; a
range of indexes that lies in the list visits exactly the items of the slice; what each step of a
visit preserves holds at its end; taking the first occurrences of a longer list either drops its
last item or keeps it at the end, so that they stand in the order in which they are met.
-/
import SymbolAtlas.Sequence
import Mathlib.Data.List.Basic
import Mathlib.Data.List.Induction

namespace SymbolAtlas

variable {α β : Type}

/-! ## Items by index -/

/-- An index from 0 on that has an item gives that item. -/
theorem itemAt_of_getElem? {items : List α} {position : Nat} {item : α}
    (h : items[position]? = some item) : itemAt items position = .ok item := by
  have hneg : ¬ (position : Int) < 0 := by omega
  simp only [itemAt, if_neg hneg, Int.toNat_natCast, h]

/-- Steps that cannot fail for the items of a list are made for all of them. -/
theorem mapM_eq_map {items : List α} {step : α → Attempt β} {pure : α → β}
    (h : ∀ item ∈ items, step item = .ok (pure item)) :
    items.mapM step = .ok (items.map pure) := by
  induction items with
  | nil => rfl
  | cons item rest ih =>
      rw [List.mapM_cons, h item List.mem_cons_self,
        ih fun other hother => h other (List.mem_cons_of_mem item hother)]
      rfl

/-! ## Steps that have not failed -/

/-- Two steps in a row give a result if the first one gives the second what it needs. -/
theorem bind_eq_ok {first : Attempt α} {second : α → Attempt β} {result : β} :
    first >>= second = .ok result ↔ ∃ value, first = .ok value ∧ second value = .ok result := by
  cases first with
  | error failure => simp [bind, Except.bind]
  | ok value => simp [bind, Except.bind]

/-- Two steps in a row fail if the first one does, or if the second one does after it. -/
theorem bind_eq_error {first : Attempt α} {second : α → Attempt β} {failure : Failure} :
    first >>= second = .error failure
      ↔ first = .error failure ∨ ∃ value, first = .ok value ∧ second value = .error failure := by
  cases first with
  | error other => simp [bind, Except.bind]
  | ok value => simp [bind, Except.bind]

/-- A step whose result is only looked at fails as it did before. -/
theorem map_eq_error {step : Attempt α} {f : α → β} {failure : Failure} :
    step.map f = .error failure ↔ step = .error failure := by
  cases step with
  | error other => simp [Except.map]
  | ok value => simp [Except.map]

/-- A step whose result is only looked at gives what the result is seen as. -/
theorem map_eq_ok {step : Attempt α} {f : α → β} {seen : β} :
    step.map f = .ok seen ↔ ∃ value, step = .ok value ∧ f value = seen := by
  cases step with
  | error failure => simp [Except.map]
  | ok value => simp [Except.map]

/-- Each result of a list of steps is the result of one of them. -/
theorem mem_of_mapM {items : List α} {step : α → Attempt β} {results : List β}
    (h : items.mapM step = .ok results) :
    ∀ result ∈ results, ∃ item ∈ items, step item = .ok result := by
  induction items generalizing results with
  | nil =>
      cases h
      intro result hresult
      cases hresult
  | cons item rest ih =>
      rw [List.mapM_cons, bind_eq_ok] at h
      obtain ⟨first, hfirst, h⟩ := h
      obtain ⟨others, hothers, h⟩ := bind_eq_ok.mp h
      cases h
      intro result hresult
      rcases List.mem_cons.mp hresult with rfl | hmem
      · exact ⟨item, List.mem_cons_self, hfirst⟩
      · obtain ⟨other, hother, hstep⟩ := ih hothers result hmem
        exact ⟨other, List.mem_cons_of_mem item hother, hstep⟩

/-- What the results have from the items, they have in the order of the items. -/
theorem map_of_mapM {γ : Type} {items : List α} {step : α → Attempt β} {results : List β}
    (h : items.mapM step = .ok results) {before : α → γ} {after : β → γ}
    (hstep : ∀ item result, step item = .ok result → after result = before item) :
    results.map after = items.map before := by
  induction items generalizing results with
  | nil =>
      cases h
      rfl
  | cons item rest ih =>
      rw [List.mapM_cons, bind_eq_ok] at h
      obtain ⟨first, hfirst, h⟩ := h
      obtain ⟨others, hothers, h⟩ := bind_eq_ok.mp h
      cases h
      rw [List.map_cons, List.map_cons, hstep item first hfirst, ih hothers]

/-! ## Ranges of indexes -/

/-- The items from index `start` up to but not including index `stop`. -/
def slice (items : List α) (start stop : Nat) : List α := (items.take stop).drop start

/-- Passes all items on to a step that cannot fail, with their indexes from `index` on. -/
def foldIndexed (step : β → Int → α → β) : Int → List α → β → β
  | _, [], state => state
  | index, item :: rest, state => foldIndexed step (index + 1) rest (step state index item)

theorem foldFrom_eq_foldIndexed {step : β → Int → α → Attempt β} {pure : β → Int → α → β}
    (hstep : ∀ state index item, step state index item = .ok (pure state index item))
    (count : Nat) (index : Int) (items : List α) (state : β) (hcount : count ≤ items.length) :
    foldFrom step count index items state
      = .ok (foldIndexed pure index (items.take count) state) := by
  induction count generalizing index items state with
  | zero => rfl
  | succ count ih =>
      cases items with
      | nil => simp at hcount
      | cons item rest =>
          rw [List.length_cons] at hcount
          simp only [foldFrom, hstep, List.take_succ_cons, foldIndexed]
          exact ih (index + 1) rest (pure state index item) (by omega)

/-- Over a range that lies in the list, steps that cannot fail visit exactly the slice. -/
theorem foldRange_eq_foldIndexed {step : β → Int → α → Attempt β} {pure : β → Int → α → β}
    (hstep : ∀ state index item, step state index item = .ok (pure state index item))
    {items : List α} {start stop : Nat} (hstart : start ≤ stop) (hstop : stop ≤ items.length)
    (state : β) :
    foldRange items step ((stop : Int) - start).toNat start state
      = .ok (foldIndexed pure start (slice items start stop) state) := by
  have hcount : ((stop : Int) - start).toNat = stop - start := by omega
  rw [hcount, slice, List.drop_take, foldRange]
  split
  · rename_i hzero
    rw [hzero]
    rfl
  · rw [if_pos (by omega), Int.toNat_natCast]
    exact foldFrom_eq_foldIndexed hstep _ _ _ _ (by rw [List.length_drop]; omega)

section Preserved

variable {step : β → Int → α → Attempt β} {Holds : β → Prop}
  (hstep : ∀ state index item next, Holds state → step state index item = .ok next → Holds next)

include hstep

theorem foldFrom_preserves {count : Nat} {index : Int} {items : List α} {state final : β}
    (hstate : Holds state) (h : foldFrom step count index items state = .ok final) :
    Holds final := by
  induction count generalizing index items state with
  | zero =>
      cases h
      exact hstate
  | succ count ih =>
      cases items with
      | nil => cases h
      | cons item rest =>
          rw [foldFrom, bind_eq_ok] at h
          obtain ⟨next, hnext, h⟩ := h
          exact ih (hstep state index item next hstate hnext) h

/-- What every step over a range preserves holds at its end. -/
theorem foldRange_preserves {items : List α} {count : Nat} {index : Int} {state final : β}
    (hstate : Holds state) (h : foldRange items step count index state = .ok final) :
    Holds final := by
  simp only [foldRange] at h
  split at h
  · cases h
    exact hstate
  · split at h
    · exact foldFrom_preserves hstep hstate h
    · split at h
      · cases h
      · exact foldFrom_preserves hstep hstate h

end Preserved

/-- A step that does not look at the index makes an ordinary fold. -/
theorem foldIndexed_eq_foldl (step : β → α → β) (items : List α) (index : Int) (state : β) :
    foldIndexed (fun state _ item => step state item) index items state
      = items.foldl step state := by
  induction items generalizing index state with
  | nil => rfl
  | cons item rest ih => exact ih (index + 1) (step state item)

theorem length_slice {items : List α} {start stop : Nat} (hstop : stop ≤ items.length) :
    (slice items start stop).length = stop - start := by
  rw [slice, List.length_drop, List.length_take, Nat.min_eq_left hstop]

theorem getElem?_slice (items : List α) {start stop i : Nat} (h : start + i < stop) :
    (slice items start stop)[i]? = items[start + i]? := by
  rw [slice, List.getElem?_drop, List.getElem?_take_of_lt h]

/-- The begin of a slice is a slice. -/
theorem take_slice (items : List α) {start stop count : Nat} (h : start + count ≤ stop) :
    (slice items start stop).take count = slice items start (start + count) := by
  rw [slice, List.take_drop, List.take_take, Nat.min_eq_left h, slice]

/-- A slice of a slice is a slice. -/
theorem slice_of_slice (items : List α) {start stop first last : Nat} (h : start + last ≤ stop) :
    slice (slice items start stop) first last = slice items (start + first) (start + last) := by
  rw [slice, take_slice items h, slice, List.drop_drop, slice]

/-- A part of a slice is a slice. -/
theorem slice_slice {items : List α} {start stop first count : Nat}
    (h : first + count ≤ stop - start) :
    slice items (start + first) (start + first + count)
      = ((slice items start stop).drop first).take count := by
  simp only [slice, List.drop_take, List.drop_drop, List.take_take]
  congr 1
  omega

/-! ## First occurrences -/

theorem eraseDupsBy_loop_concat (same : α → α → Bool) (item : α) :
    ∀ (items seen : List α),
      List.eraseDupsBy.loop same (items ++ [item]) seen
        = if (List.eraseDupsBy.loop same items seen).any (same item)
          then List.eraseDupsBy.loop same items seen
          else List.eraseDupsBy.loop same items seen ++ [item] := by
  intro items
  induction items with
  | nil =>
      intro seen
      simp only [List.nil_append, List.eraseDupsBy.loop, List.any_reverse]
      cases seen.any (same item) <;> simp
  | cons other rest ih =>
      intro seen
      cases hseen : seen.any (same other) with
      | false =>
          simp only [List.cons_append, List.eraseDupsBy.loop, hseen]
          exact ih (other :: seen)
      | true =>
          simp only [List.cons_append, List.eraseDupsBy.loop, hseen]
          exact ih seen

/-- A last item is dropped if it agrees with a first occurrence, and is one itself otherwise. -/
theorem eraseDupsBy_concat (same : α → α → Bool) (items : List α) (item : α) :
    (items ++ [item]).eraseDupsBy same
      = if (items.eraseDupsBy same).any (same item) then items.eraseDupsBy same
        else items.eraseDupsBy same ++ [item] :=
  eraseDupsBy_loop_concat same item items []

/-- Taking first occurrences one item at a time. -/
theorem eraseDupsBy_eq_foldl (same : α → α → Bool) (items : List α) :
    items.eraseDupsBy same
      = items.foldl (fun kept item => if kept.any (same item) then kept else kept ++ [item])
          [] := by
  induction items using List.reverseRecOn with
  | nil => rfl
  | append_singleton items item ih =>
      rw [eraseDupsBy_concat, List.foldl_concat, ih]

/-- An item agrees with a first occurrence exactly if it agrees with any item. -/
theorem any_eraseDupsBy (same : α → α → Bool)
    (htrans : ∀ {a b c}, same a b = true → same b c = true → same a c = true)
    (items : List α) (item : α) :
    (items.eraseDupsBy same).any (same item) = items.any (same item) := by
  induction items using List.reverseRecOn with
  | nil => rfl
  | append_singleton items last ih =>
      rw [eraseDupsBy_concat, List.any_append, List.any_cons, List.any_nil, Bool.or_false, ← ih]
      split
      · rename_i hknown
        obtain ⟨first, hfirst, hlast⟩ := List.any_eq_true.mp hknown
        cases hitem : same item last with
        | false => rw [Bool.or_false]
        | true =>
            have hagree : (items.eraseDupsBy same).any (same item) = true :=
              List.any_eq_true.mpr ⟨first, hfirst, htrans hitem hlast⟩
            rw [hagree, Bool.true_or]
      · rw [List.any_append, List.any_cons, List.any_nil, Bool.or_false]

/-- No first occurrence agrees with an earlier one. -/
theorem pairwise_eraseDupsBy (same : α → α → Bool) (items : List α) :
    (items.eraseDupsBy same).Pairwise fun earlier later => same later earlier = false := by
  induction items using List.reverseRecOn with
  | nil => exact List.Pairwise.nil
  | append_singleton items item ih =>
      rw [eraseDupsBy_concat]
      split
      · exact ih
      · rename_i hnew
        rw [Bool.not_eq_true] at hnew
        refine List.pairwise_append.mpr ⟨ih, List.pairwise_singleton _ _, ?_⟩
        intro earlier hearlier later hlater
        rw [List.mem_singleton.mp hlater]
        exact Bool.eq_false_iff.mpr (List.any_eq_false.mp hnew earlier hearlier)

theorem eraseDupsBy_subset (same : α → α → Bool) (items : List α) :
    items.eraseDupsBy same ⊆ items := by
  induction items using List.reverseRecOn with
  | nil => exact List.Subset.refl _
  | append_singleton items item ih =>
      rw [eraseDupsBy_concat]
      split
      · exact List.subset_append_of_subset_left _ ih
      · exact List.append_subset.mpr ⟨List.subset_append_of_subset_left _ ih, by simp⟩

/-- Every item agrees with a first occurrence. -/
theorem exists_agreeing_first (same : α → α → Bool) (hrefl : ∀ a, same a a = true)
    (htrans : ∀ {a b c}, same a b = true → same b c = true → same a c = true) {items : List α}
    {item : α} (h : item ∈ items) : ∃ first ∈ items.eraseDupsBy same, same item first = true := by
  have hany : items.any (same item) = true := List.any_eq_true.mpr ⟨item, h, hrefl item⟩
  rw [← any_eraseDupsBy same htrans] at hany
  exact List.any_eq_true.mp hany

/-- A first occurrence is the first item that it agrees with. -/
theorem find?_of_mem_eraseDupsBy (same : α → α → Bool) (hrefl : ∀ a, same a a = true)
    (htrans : ∀ {a b c}, same a b = true → same b c = true → same a c = true) {items : List α}
    {item : α} (h : item ∈ items.eraseDupsBy same) : items.find? (same item) = some item := by
  induction items using List.reverseRecOn with
  | nil => cases h
  | append_singleton items last ih =>
      rw [eraseDupsBy_concat] at h
      split at h
      · rw [List.find?_append, ih h, Option.some_or]
      · rename_i hnew
        rcases List.mem_append.mp h with hbefore | hlast
        · rw [List.find?_append, ih hbefore, Option.some_or]
        · -- no item before the last one agrees with it
          rw [List.mem_singleton.mp hlast]
          rw [any_eraseDupsBy same htrans, Bool.not_eq_true, List.any_eq_false] at hnew
          rw [List.find?_append, List.find?_eq_none.mpr hnew, Option.none_or,
            List.find?_singleton, hrefl, if_pos rfl]

/-- First occurrences depend only on how the items of the list compare. -/
theorem eraseDupsBy_congr {same same' : α → α → Bool} {items : List α}
    (h : ∀ a ∈ items, ∀ b ∈ items, same a b = same' a b) :
    items.eraseDupsBy same = items.eraseDupsBy same' := by
  induction items using List.reverseRecOn with
  | nil => rfl
  | append_singleton items item ih =>
      have hitems := ih fun a ha b hb =>
        h a (List.mem_append_left _ ha) b (List.mem_append_left _ hb)
      have hany : (items.eraseDupsBy same').any (same item)
          = (items.eraseDupsBy same').any (same' item) := by
        rw [Bool.eq_iff_iff, List.any_eq_true, List.any_eq_true]
        refine exists_congr fun other => and_congr_right fun hother => ?_
        rw [h item (by simp) other (List.mem_append_left _ (eraseDupsBy_subset _ _ hother))]
      rw [eraseDupsBy_concat, eraseDupsBy_concat, hitems, hany]

/-- A map that keeps the comparison keeps first occurrences. -/
theorem map_eraseDupsBy {same : α → α → Bool} {same' : β → β → Bool} {f : α → β}
    (h : ∀ a b, same' (f a) (f b) = same a b) (items : List α) :
    (items.map f).eraseDupsBy same' = (items.eraseDupsBy same).map f := by
  induction items using List.reverseRecOn with
  | nil => rfl
  | append_singleton items item ih =>
      have hany : ((items.eraseDupsBy same).map f).any (same' (f item))
          = (items.eraseDupsBy same).any (same item) := by
        rw [List.any_map]
        exact congrArg _ (funext fun other => h item other)
      rw [List.map_append, List.map_singleton, eraseDupsBy_concat, eraseDupsBy_concat, ih, hany]
      split
      · rfl
      · rw [List.map_append, List.map_singleton]

/-- A listed value of a field is that of an item. -/
theorem findIdx_lt_length_of_mem_eraseDups [BEq β] [EquivBEq β] {field : α → Option β}
    {items : List α} {value : β} (h : value ∈ (items.filterMap field).eraseDups) :
    items.findIdx (fun item => (field item).any (· == value)) < items.length := by
  obtain ⟨holder, hholder, hfield⟩ := List.mem_filterMap.mp (eraseDupsBy_subset _ _ h)
  refine List.findIdx_lt_length_of_exists ⟨holder, hholder, ?_⟩
  rw [hfield, Option.any_some, BEq.rfl]

/-- A value of a field that agrees with no listed one is that of no item. -/
theorem findIdx_eq_length_of_not_any [BEq β] [EquivBEq β] {field : α → Option β} {items : List α}
    {value : β} (h : (items.filterMap field).eraseDups.any (value == ·) = false) :
    items.findIdx (fun item => (field item).any (· == value)) = items.length := by
  rw [List.eraseDups, any_eraseDupsBy (· == ·) BEq.trans, List.any_filterMap] at h
  refine List.findIdx_eq_length.mpr fun item hitem => ?_
  have hother := List.any_eq_false.mp h item hitem
  cases hfield : field item with
  | none => rfl
  | some other =>
      rw [hfield, Bool.not_eq_true] at hother
      exact BEq.symm_false hother

/-- The first values of a field stand in the order of the first items that have them. -/
theorem pairwise_findIdx_eraseDups [BEq β] [EquivBEq β] (field : α → Option β) (items : List α) :
    (items.filterMap field).eraseDups.Pairwise fun earlier later =>
      items.findIdx (fun item => (field item).any (· == earlier))
        < items.findIdx (fun item => (field item).any (· == later)) := by
  induction items using List.reverseRecOn with
  | nil => exact List.Pairwise.nil
  | append_singleton items item ih =>
      -- a longer list leaves the first items that have the values where they are
      have hkept : (items.filterMap field).eraseDups.Pairwise fun earlier later =>
          (items ++ [item]).findIdx (fun item => (field item).any (· == earlier))
            < (items ++ [item]).findIdx (fun item => (field item).any (· == later)) := by
        refine List.Pairwise.imp_of_mem ?_ ih
        intro earlier later hearlier hlater hlt
        rw [List.findIdx_append, List.findIdx_append,
          if_pos (findIdx_lt_length_of_mem_eraseDups hearlier),
          if_pos (findIdx_lt_length_of_mem_eraseDups hlater)]
        exact hlt
      rw [List.filterMap_append, List.filterMap_cons, List.filterMap_nil]
      cases hfield : field item with
      | none => rwa [List.append_nil]
      | some value =>
          rw [List.eraseDups, eraseDupsBy_concat]
          split
          · exact hkept
          · rename_i hnew
            refine List.pairwise_append.mpr ⟨hkept, List.pairwise_singleton _ _, ?_⟩
            intro earlier hearlier later hlater
            rw [List.mem_singleton.mp hlater]
            have hlt := findIdx_lt_length_of_mem_eraseDups hearlier
            have heq := findIdx_eq_length_of_not_any (Bool.not_eq_true _ ▸ hnew)
            rw [List.findIdx_append, List.findIdx_append, if_pos hlt, heq,
              if_neg (Nat.lt_irrefl _)]
            omega

/-- First occurrences stand in the order in which the items occur first. -/
theorem pairwise_idxOf_eraseDups [BEq α] [EquivBEq α] (items : List α) :
    items.eraseDups.Pairwise fun earlier later => items.idxOf earlier < items.idxOf later := by
  have hfirst := pairwise_findIdx_eraseDups some items
  rwa [List.filterMap_some] at hfirst

theorem nodup_eraseDups [BEq α] [LawfulBEq α] (items : List α) : items.eraseDups.Nodup := by
  refine (pairwise_idxOf_eraseDups items).imp ?_
  rintro earlier _ hlt rfl
  exact Nat.lt_irrefl _ hlt

end SymbolAtlas
