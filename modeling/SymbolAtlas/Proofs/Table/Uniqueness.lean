/-
# SymbolAtlas.Proofs.Table.Uniqueness — every key is stored once, at a row that never changes

The five tables tell entities apart by five different keys. For each of them `Keeps` holds after any
history: the entities stored are the first occurrences among those offered, an addition answers with
the one row that holds the key, membership means that the key was offered, and what is stored stays
where it is. The key of each table is written out in the main statement.
-/
import SymbolAtlas.Proofs.Table.History

namespace SymbolAtlas.Table

variable {ε : Type} [Entity ε]

/-! ## Rows of entities with distinct keys -/

/-- In a list of entities with distinct keys, two rows with one key are the same row. -/
theorem row_unique {entries : List ε}
    (hdistinct : entries.Pairwise fun earlier later => sameKey later earlier = false)
    {row other : Nat} {a b : ε} (ha : entries[row]? = some a) (hb : entries[other]? = some b)
    (hkey : sameKey a b = true) : row = other := by
  obtain ⟨hrow, rfl⟩ := List.getElem?_eq_some_iff.mp ha
  obtain ⟨hother, rfl⟩ := List.getElem?_eq_some_iff.mp hb
  rw [List.pairwise_iff_getElem] at hdistinct
  rcases Nat.lt_trichotomy row other with hlt | heq | hgt
  · have hne := hdistinct row other hrow hother hlt
    rw [sameKey_comm, hkey] at hne
    cases hne
  · exact heq
  · have hne := hdistinct other row hother hrow hgt
    rw [hkey] at hne
    cases hne

/-- Adding an entity whose key is stored at a row answers with that row. -/
theorem add_row_of_stored {entries : List ε}
    (hdistinct : entries.Pairwise fun earlier later => sameKey later earlier = false)
    {row : Nat} {stored entity : ε} (hstored : entries[row]? = some stored)
    (hkey : sameKey stored entity = true) :
    (ofEntries entries).add entity = ((row : Int), ofEntries entries) := by
  -- the search stops at the first row with the key, which is the only one
  cases h : entries.findIdx? fun e => sameKey e entity with
  | none =>
      have hnone := List.findIdx?_eq_none_iff.mp h stored (List.mem_of_getElem? hstored)
      rw [hkey] at hnone
      cases hnone
  | some first =>
      obtain ⟨hfirst, hfirstKey, -⟩ := List.findIdx?_eq_some_iff_getElem.mp h
      have hsame : sameKey entries[first] stored = true :=
        BEq.trans hfirstKey (BEq.symm hkey)
      have heq : first = row :=
        row_unique hdistinct (List.getElem?_eq_getElem hfirst) hstored hsame
      rw [add_ofEntries_of_stored h, heq]

/-- Wherever its key is stored, an addition answers with the only row that has the key. -/
theorem add_row {entries : List ε}
    (hdistinct : entries.Pairwise fun earlier later => sameKey later earlier = false)
    (entity : ε) :
    ∃ row : Nat, ((ofEntries entries).add entity).1 = row ∧
      (∃ stored, ((ofEntries entries).add entity).2.entries[row]? = some stored ∧
        sameKey stored entity = true) ∧
      ∀ (other : Nat) e, ((ofEntries entries).add entity).2.entries[other]? = some e →
        sameKey e entity = true → other = row := by
  cases h : entries.findIdx? fun e => sameKey e entity with
  | some row =>
      obtain ⟨hrow, hkey, -⟩ := List.findIdx?_eq_some_iff_getElem.mp h
      have hstored : entries[row]? = some entries[row] := List.getElem?_eq_getElem hrow
      rw [add_ofEntries_of_stored h]
      refine ⟨row, rfl, ⟨entries[row], hstored, hkey⟩, ?_⟩
      intro other e he hsame
      exact row_unique hdistinct he hstored (BEq.trans hsame (BEq.symm hkey))
  | none =>
      have hnew := List.findIdx?_eq_none_iff.mp h
      have hlast : (entries ++ [entity])[entries.length]? = some entity := by
        rw [List.getElem?_concat_length]
      rw [add_ofEntries_of_new h]
      refine ⟨entries.length, rfl, ⟨entity, hlast, BEq.rfl⟩, ?_⟩
      intro other e he hsame
      change (entries ++ [entity])[other]? = some e at he
      obtain ⟨hother, -⟩ := List.getElem?_eq_some_iff.mp he
      rw [List.length_append, List.length_singleton] at hother
      -- any other row is an old one, and no old one has the key
      by_contra hne
      rw [List.getElem?_append_left (by omega)] at he
      rw [hnew e (List.mem_of_getElem? he)] at hsame
      cases hsame

/-- Membership in a table of first occurrences is having the key of an entity offered. -/
theorem contains_ofEntries (entities : List ε) (entity : ε) :
    (ofEntries (entities.eraseDupsBy sameKey)).contains entity = true
      ↔ ∃ e ∈ entities, sameKey e entity = true := by
  have hcontains : (ofEntries (entities.eraseDupsBy sameKey)).contains entity
      = (entities.eraseDupsBy sameKey).any (sameKey entity) := by
    unfold contains
    rw [extract_exact]
    refine (FieldIndex.contains_ofEntries _ _ _).trans (congrArg _ (funext fun e => ?_))
    exact sameKey_comm e entity
  rw [hcontains, any_eraseDupsBy sameKey BEq.trans, List.any_eq_true]
  simp only [sameKey_comm entity]

/-! ## What a table keeps -/

/-- What a table that was offered some entities promises if a key tells them apart. -/
structure Keeps {κ : Type} [DecidableEq κ] (key : ε → κ) (offers : List ε) (t : Table ε) :
    Prop where
  /-- The first occurrences are stored, in order. -/
  entries : t.entries = offers.eraseDupsBy fun a b => decide (key a = key b)
  /-- No two entities stored share a key. -/
  distinct : (t.entries.map key).Nodup
  /-- An addition answers with the only row that has the key. -/
  row : ∀ entity, ∃ row : Nat, (t.add entity).1 = row ∧
    (∃ stored, (t.add entity).2.entries[row]? = some stored ∧ key stored = key entity) ∧
    ∀ (other : Nat) e, (t.add entity).2.entries[other]? = some e → key e = key entity → other = row
  /-- Membership means that the key was offered. -/
  contains : ∀ entity, t.contains entity = true ↔ ∃ e ∈ offers, key e = key entity
  /-- Whatever is offered later, a stored entity stays in its row, and offering it again answers
  with that row. -/
  stable : ∀ (later : List (Step ε)) (row : Nat) stored, t.entries[row]? = some stored →
    (t.after later).entries[row]? = some stored ∧ ((t.after later).add stored).1 = row

/-- Any history keeps what it should, for every key that tells entities apart as the table does. -/
theorem keeps_after_empty {κ : Type} [DecidableEq κ] {key : ε → κ}
    (hkey : ∀ a b : ε, Entity.key a = Entity.key b ↔ key a = key b) (history : List (Step ε)) :
    Keeps key (offered history) ((empty : Table ε).after history) := by
  have hsame (a b : ε) : sameKey a b = true ↔ key a = key b := beq_iff_eq.trans (hkey a b)
  have hrel : (sameKey : ε → ε → Bool) = fun a b => decide (key a = key b) := by
    funext a b
    exact Bool.eq_iff_iff.mpr ((hsame a b).trans decide_eq_true_iff.symm)
  have hdistinct (history : List (Step ε)) := pairwise_eraseDupsBy sameKey (offered history)
  rw [after_empty]
  constructor
  case entries => exact congrArg (fun same => (offered history).eraseDupsBy same) hrel
  case distinct =>
    refine List.pairwise_map.mpr ((hdistinct history).imp ?_)
    intro earlier later hne heq
    rw [(hsame later earlier).mpr heq.symm] at hne
    cases hne
  case row =>
    simpa only [hsame] using add_row (hdistinct history)
  case contains =>
    simpa only [hsame] using contains_ofEntries (offered history)
  case stable =>
    intro later row stored hstored
    rw [after_ofEntries, foldl_keep_offered]
    -- what was stored is a prefix of what is stored after the longer history
    have hprefix : (offered history).eraseDupsBy sameKey
        <+: (offered (history ++ later)).eraseDupsBy sameKey := by
      rw [← foldl_keep_offered]
      exact prefix_foldl_keep _ _
    have hrow : ((offered (history ++ later)).eraseDupsBy sameKey)[row]? = some stored := by
      obtain ⟨hlt, rfl⟩ := List.getElem?_eq_some_iff.mp hstored
      exact List.prefix_iff_getElem?.mp hprefix row hlt
    refine ⟨hrow, ?_⟩
    rw [add_row_of_stored (hdistinct (history ++ later)) hrow BEq.rfl]

/-! ## File names -/

/-- Looking a file name up is searching the stored names for one that agrees up to case. -/
theorem find_ofEntries (entries : List FileHint) (name : Text) :
    FileHintTable.find (ofEntries entries) name
      = .ok (entries.find? fun h => h.name.lower = name.lower) := by
  have hrow : rowOfKey? (ofEntries entries) (name.lower : Text)
      = (entries.findIdx? fun h => h.name.lower = name.lower).map Int.ofNat :=
    first?_ofEntries entries ⟨name⟩
  rw [FileHintTable.find, hrow, List.find?_eq_bind_findIdx?_getElem?]
  cases h : entries.findIdx? fun h => h.name.lower = name.lower with
  | none => rfl
  | some row =>
      obtain ⟨hlt, -⟩ := List.findIdx?_eq_some_iff_getElem.mp h
      have hget : entries[row]? = some entries[row] := List.getElem?_eq_getElem hlt
      show (itemAt entries (row : Int)).map some = .ok entries[row]?
      rw [itemAt_of_getElem? hget, hget]
      rfl

/-! ## The five tables -/

/-- In each of the five tables, after any history, the entities stored are the first occurrences
under the key of the table, each at a row of its own that never changes. A file name is found
exactly if a stored one agrees with it up to case. -/
theorem tables_keep_first_occurrences :
    (∀ history : List (Step ExportEntry),
      Keeps (fun e => (e.provider.identity, e.symbol))
        (offered history) (empty.after history)) ∧
    (∀ history : List (Step ImportEntry),
      Keeps (fun e => (e.calledFrom.fullName, e.calledFrom.identity, e.provider.name.lower, e.symbol))
        (offered history) (empty.after history)) ∧
    (∀ history : List (Step CallEntry),
      Keeps (fun e => (e.calledFrom.identity, e.caller, e.callee))
        (offered history) (empty.after history)) ∧
    (∀ history : List (Step FilePath),
      Keeps (fun p => (p.fullName, p.identity)) (offered history) (empty.after history)) ∧
    (∀ history : List (Step FileHint),
      Keeps (fun h => h.name.lower) (offered history) (empty.after history) ∧
      ∀ name, FileHintTable.find (empty.after history) name
        = .ok ((empty.after history).entries.find? fun h => h.name.lower = name.lower)) := by
  refine ⟨keeps_after_empty fun a b => Iff.rfl, keeps_after_empty ?_,
    keeps_after_empty fun a b => Iff.rfl, keeps_after_empty ?_, ?_⟩
  -- the key of an import holds the whole path, and the key of a path is the path itself
  · rintro ⟨⟨name, identity⟩, provider, symbol, short⟩
      ⟨⟨name', identity'⟩, provider', symbol', short'⟩
    change ((⟨name, identity⟩ : FilePath), provider.name.lower, symbol)
      = ((⟨name', identity'⟩ : FilePath), provider'.name.lower, symbol') ↔ _
    simp only [Prod.mk.injEq, FilePath.mk.injEq, and_assoc]
  · rintro ⟨name, identity⟩ ⟨name', identity'⟩
    change (⟨name, identity⟩ : FilePath) = ⟨name', identity'⟩ ↔ _
    rw [FilePath.mk.injEq, Prod.mk.injEq]
  · intro history
    refine ⟨keeps_after_empty (fun a b => Iff.rfl) history, fun name => ?_⟩
    rw [after_empty]
    exact find_ofEntries _ name

end SymbolAtlas.Table
