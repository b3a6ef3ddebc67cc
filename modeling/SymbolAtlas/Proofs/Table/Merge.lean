/-
# SymbolAtlas.Proofs.Table.Merge — tables made apart and merged are the table made at once

Tables that are made apart drop their duplicates first and are merged afterwards. Dropping early
changes nothing: an entity that a table drops has its key in that table already, and so the merged
table drops it too, at the same place of the order (`foldl_keep_eraseDups`). Merging two histories
is therefore going through one after the other (`addRange_after`), and the main statement follows
for any number of tables. Tables are compared as a whole, with their entities and all their indexes,
so that no row number and no query tells them apart.
-/
import SymbolAtlas.Proofs.Table.History
import Mathlib.Data.List.Nodup
import Mathlib.Data.List.Perm.Basic

namespace SymbolAtlas.Table

variable {ε : Type} [Entity ε]

/-! ## Keeping entities whose keys are known -/

/-- A key is among the entities kept if it was there or was offered. -/
theorem any_foldl_keep (entries entities : List ε) (entity : ε) :
    (entities.foldl keep entries).any (sameKey entity)
      = (entries.any (sameKey entity) || entities.any (sameKey entity)) := by
  induction entities generalizing entries with
  | nil => rw [List.foldl_nil, List.any_nil, Bool.or_false]
  | cons offered rest ih =>
      have hkeep : (keep entries offered).any (sameKey entity)
          = (entries.any (sameKey entity) || sameKey entity offered) := by
        unfold keep
        split
        · rename_i hknown
          obtain ⟨stored, hstored, hsame⟩ := List.any_eq_true.mp hknown
          cases hentity : sameKey entity offered with
          | false => rw [Bool.or_false]
          | true =>
              -- the entity that is stored under the offered key has the key looked for
              have hany : entries.any (sameKey entity) = true :=
                List.any_eq_true.mpr ⟨stored, hstored, BEq.trans hentity hsame⟩
              rw [hany, Bool.true_or]
        · rw [List.any_append, List.any_cons, List.any_nil, Bool.or_false]
      rw [List.foldl_cons, ih, hkeep, List.any_cons, Bool.or_assoc]

/-- Entities whose keys are all stored change nothing. -/
theorem foldl_keep_of_known {entries entities : List ε}
    (h : ∀ entity ∈ entities, entries.any (sameKey entity) = true) :
    entities.foldl keep entries = entries := by
  induction entities with
  | nil => rfl
  | cons entity rest ih =>
      have hkeep : keep entries entity = entries := by
        rw [keep, if_pos (h entity List.mem_cons_self)]
      rw [List.foldl_cons, hkeep]
      exact ih fun other hother => h other (List.mem_cons_of_mem entity hother)

/-- Dropping duplicates before entities are offered makes no difference to what is kept. -/
theorem foldl_keep_eraseDups (entries entities : List ε) :
    (entities.eraseDupsBy sameKey).foldl keep entries = entities.foldl keep entries := by
  induction entities using List.reverseRecOn with
  | nil => rfl
  | append_singleton entities entity ih =>
      rw [eraseDupsBy_concat, List.foldl_concat]
      split
      · rename_i hdropped
        -- what was dropped early is dropped here, because its key came with the others
        have hknown : (entities.foldl keep entries).any (sameKey entity) = true := by
          rw [any_foldl_keep, ← any_eraseDupsBy sameKey BEq.trans entities, hdropped, Bool.or_true]
        rw [ih, keep, if_pos hknown]
      · rw [List.foldl_concat, ih]

/-! ## Merging -/

/-- Merging the table of one history into that of another is going through both histories. -/
theorem addRange_after (first second : List (Step ε)) :
    (empty.after first).addRange (empty.after second).entries
      = (empty : Table ε).after (first ++ second) := by
  rw [after_empty, after_empty, after_empty, addRange_ofEntries, ← foldl_keep_offered]
  exact congrArg ofEntries (foldl_keep_eraseDups _ _)

/-- Dropping duplicates on both sides of a merge is dropping them at once. -/
theorem addRange_apart (first second : List ε) :
    (empty.addRange first).addRange (empty.addRange second).entries
      = (empty : Table ε).addRange (first ++ second) := by
  rw [addRange_append]
  exact addRange_after [.addRange first] [.addRange second]

/-- A table whose keys have all been offered can be merged without any effect. -/
theorem addRange_of_offered {history : List (Step ε)} {entities : List ε}
    (h : entities ⊆ offered history) :
    (empty.after history).addRange entities = (empty : Table ε).after history := by
  rw [after_empty, addRange_ofEntries]
  refine congrArg ofEntries (foldl_keep_of_known fun entity hentity => ?_)
  rw [any_eraseDupsBy sameKey BEq.trans]
  exact List.any_eq_true.mpr ⟨entity, h hentity, BEq.rfl⟩

/-! ## The order of what is offered -/

/-- The keys of a table are those offered, one each. -/
theorem keys_addRange (entities : List ε) :
    (((empty : Table ε).addRange entities).entries.map Entity.key).Nodup ∧
      ∀ key, key ∈ ((empty : Table ε).addRange entities).entries.map Entity.key
        ↔ key ∈ entities.map Entity.key := by
  rw [addRange_empty]
  have hstored : (ofEntries (entities.eraseDupsBy sameKey)).entries
      = entities.eraseDupsBy sameKey := rfl
  rw [hstored]
  constructor
  · refine List.pairwise_map.mpr ((pairwise_eraseDupsBy sameKey entities).imp ?_)
    intro earlier later hne heq
    rw [sameKey, heq, beq_self_eq_true] at hne
    cases hne
  · intro key
    rw [List.mem_map, List.mem_map]
    constructor
    · rintro ⟨entity, hentity, rfl⟩
      exact ⟨entity, eraseDupsBy_subset _ _ hentity, rfl⟩
    · rintro ⟨entity, hentity, rfl⟩
      -- a first occurrence has the key of the entity
      have hany : (entities.eraseDupsBy sameKey).any (sameKey entity) = true := by
        rw [any_eraseDupsBy sameKey BEq.trans]
        exact List.any_eq_true.mpr ⟨entity, hentity, BEq.rfl⟩
      obtain ⟨first, hfirst, hsame⟩ := List.any_eq_true.mp hany
      exact ⟨first, hfirst, (beq_iff_eq.mp hsame).symm⟩

/-- Offering the same entities in another order gives the same keys, though maybe in another order
and for other entities. -/
theorem keys_perm {entities others : List ε} (h : entities.Perm others) :
    (((empty : Table ε).addRange entities).entries.map Entity.key).Perm
      (((empty : Table ε).addRange others).entries.map Entity.key) := by
  obtain ⟨hnodup, hmem⟩ := keys_addRange entities
  obtain ⟨hnodup', hmem'⟩ := keys_addRange others
  refine (List.perm_ext_iff_of_nodup hnodup hnodup').mpr fun key => ?_
  rw [hmem, hmem']
  exact (h.map Entity.key).mem_iff

/-! ## Many tables -/

/-- The table after other tables have been merged into it, one after the other. -/
def mergeAll (t : Table ε) (others : List (Table ε)) : Table ε :=
  others.foldl (fun t other => t.addRange other.entries) t

theorem mergeAll_after (first : List (Step ε)) (rest : List (List (Step ε))) :
    (empty.after first).mergeAll (rest.map empty.after)
      = (empty : Table ε).after (first ++ rest.flatten) := by
  induction rest generalizing first with
  | nil => rw [List.flatten_nil, List.append_nil]; rfl
  | cons second rest ih =>
      have hmerged : (empty.after first).mergeAll ((second :: rest).map empty.after)
          = ((empty.after first).addRange (empty.after second).entries).mergeAll
              (rest.map empty.after) := rfl
      rw [hmerged, addRange_after, ih, List.flatten_cons, List.append_assoc]

/-- Adding sequences one after the other is adding all their entities one by one. -/
theorem foldl_addRange (t : Table ε) (sequences : List (List ε)) :
    sequences.foldl addRange t
      = sequences.flatten.foldl (fun table entity => (table.add entity).2) t := by
  rw [List.foldl_flatten]
  rfl

/-- In every kind of table: if one table is made for each of some sequences of entities and all
others are merged into the first one in order, then that is the table to which the sequences were
added one after the other, which is the one to which all entities were added one by one. Merging a table into itself, or one that was merged before, changes
nothing, whatever came before, between and with it. -/
theorem merged_eq_made_at_once :
    (∀ (first : List ε) (rest : List (List ε)),
      (empty.addRange first).mergeAll (rest.map empty.addRange)
        = (first :: rest).foldl addRange (empty : Table ε) ∧
      (first :: rest).foldl addRange (empty : Table ε)
        = (first :: rest).flatten.foldl (fun table entity => (table.add entity).2) empty) ∧
    (∀ history : List (Step ε),
      (empty.after history).addRange (empty.after history).entries
        = (empty : Table ε).after history) ∧
    (∀ (before : List (Step ε)) (other : Table ε) (between : List (Step ε)),
      (empty.after (before ++ .merge other :: between)).addRange other.entries
        = (empty : Table ε).after (before ++ .merge other :: between)) := by
  refine ⟨fun first rest => ?_, fun history => ?_, fun before other between => ?_⟩
  · have hapart : (empty.addRange first).mergeAll (rest.map empty.addRange)
        = (empty : Table ε).after
            ([.addRange first] ++ (rest.map fun entities => [.addRange entities]).flatten) := by
      rw [← mergeAll_after, List.map_map]
      rfl
    -- each table has a history of one step, and together they are one step for each sequence
    have hsteps : [.addRange first] ++ (rest.map fun entities => [.addRange entities]).flatten
        = (first :: rest).map (Step.addRange (ε := ε)) := by
      rw [← List.flatMap_def, ← List.map_eq_flatMap]
      rfl
    refine ⟨?_, foldl_addRange empty (first :: rest)⟩
    rw [hapart, hsteps, after, List.foldl_map]
    rfl
  · exact addRange_of_offered (by
      rw [after_empty]
      exact eraseDupsBy_subset _ _)
  · refine addRange_of_offered fun entity hentity => ?_
    exact List.mem_flatMap.mpr ⟨.merge other, by simp, hentity⟩

end SymbolAtlas.Table
