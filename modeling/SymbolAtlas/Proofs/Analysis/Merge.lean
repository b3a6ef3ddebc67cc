/-
# SymbolAtlas.Proofs.Analysis.Merge — how analyses are grouped and ordered when they are merged

Merging analyses is going through all that their tables hold, table by table, and appending their
lists (`mergeAll_eq_gathered`). What does not depend on how the analyses were grouped follows from
that form: the tables drop the same duplicates whether some were merged before or not. In another
order, duplicates may be represented by other entities, but the keys are the same.

In a book, a merge writes one analysis and reads another. The one that is read stays as it is, unless
it is the one that is written.
-/
import SymbolAtlas.Analysis.Book
import SymbolAtlas.Proofs.Table.Merge

namespace SymbolAtlas

open Table

namespace Analysis

/-! ## All analyses at once -/

/-- The analysis made from everything that a list of analyses holds. -/
def gathered (analyses : List Analysis) : Analysis where
  files := empty.addRange (analyses.flatMap (·.files.entries))
  exports := empty.addRange (analyses.flatMap (·.exports.entries))
  imports := empty.addRange (analyses.flatMap (·.imports.entries))
  calls := empty.addRange (analyses.flatMap (·.calls.entries))
  regions := analyses.flatMap (·.regions)
  dependents := empty.addRange (analyses.flatMap (·.dependents.entries))
  anomalies := analyses.flatMap (·.anomalies)

/-- One more analysis is merged into what was gathered before. -/
theorem gathered_concat (analyses : List Analysis) (a : Analysis) :
    gathered (analyses ++ [a]) = (gathered analyses).merge a := by
  simp only [gathered, merge, List.flatMap_append, List.flatMap_singleton, addRange_append]

theorem mergeAll_eq_gathered (analyses : List Analysis) :
    mergeAll analyses = gathered analyses := by
  induction analyses using List.reverseRecOn with
  | nil => rfl
  | append_singleton analyses a ih =>
      rw [gathered_concat, ← ih, mergeAll, mergeAll, List.foldl_concat]

/-- Whether analyses were merged before does not matter. -/
theorem gathered_append (first second : List Analysis) :
    gathered (first ++ second) = (gathered first).merge (gathered second) := by
  simp only [gathered, merge, List.flatMap_append, addRange_apart]

/-! ## Another order -/

/-- Two analyses hold the same things, if not in the same order: under each key of their tables one
entity each, and as often the same functions and anomalies. -/
structure SameContent (a b : Analysis) : Prop where
  files : (a.files.entries.map Entity.key).Perm (b.files.entries.map Entity.key)
  exports : (a.exports.entries.map Entity.key).Perm (b.exports.entries.map Entity.key)
  imports : (a.imports.entries.map Entity.key).Perm (b.imports.entries.map Entity.key)
  calls : (a.calls.entries.map Entity.key).Perm (b.calls.entries.map Entity.key)
  regions : a.regions.Perm b.regions
  dependents : (a.dependents.entries.map Entity.key).Perm (b.dependents.entries.map Entity.key)
  anomalies : a.anomalies.Perm b.anomalies

theorem sameContent_of_perm {analyses others : List Analysis} (h : analyses.Perm others) :
    SameContent (gathered analyses) (gathered others) where
  files := keys_perm (h.flatMap_right _)
  exports := keys_perm (h.flatMap_right _)
  imports := keys_perm (h.flatMap_right _)
  calls := keys_perm (h.flatMap_right _)
  regions := h.flatMap_right _
  dependents := keys_perm (h.flatMap_right _)
  anomalies := h.flatMap_right _

end Analysis

/-! ## Analyses that are written -/

namespace Book

/-- Merges the analysis with the number `other` into the one with the number `number`. -/
def merge (b : Book) (number other : Nat) : Book :=
  b.update number ((b.analysis number).merge (b.analysis other))

/-- Enters an empty analysis under a name and merges the analyses with the given numbers into it,
one after the other. -/
def mergeAll (b : Book) (name : Text) (numbers : List Nat) : Book :=
  numbers.foldl (fun written other => written.merge b.analyses.length other) (b.enter name {})

theorem analysis_update_of_ne {b : Book} {number other : Nat} {a : Analysis}
    (h : other ≠ number) : (b.update number a).analysis other = b.analysis other := by
  have hget : (b.analyses.set number a)[other]? = b.analyses[other]? :=
    List.getElem?_set_ne h.symm
  simp only [analysis, update, List.getD_eq_getElem?_getD, hget]

theorem analysis_enter_of_lt {b : Book} {name : Text} {a : Analysis} {number : Nat}
    (h : number < b.analyses.length) : (b.enter name a).analysis number = b.analysis number := by
  have hget : (b.analyses ++ [a])[number]? = b.analyses[number]? := List.getElem?_append_left h
  simp only [analysis, enter, List.getD_eq_getElem?_getD, hget]

@[simp]
theorem analysis_enter_self (b : Book) (name : Text) (a : Analysis) :
    (b.enter name a).analysis b.analyses.length = a := by
  simp [analysis, enter]

/-- Writing the analysis that was entered last is entering it in its new state. -/
theorem update_enter (b : Book) (name : Text) (a changed : Analysis) :
    (b.enter name a).update b.analyses.length changed = b.enter name changed := by
  simp [update, enter]

/-- The merges write the new analysis only, and merge into it what the others held at the start. -/
theorem foldl_merge_enter {b : Book} {numbers : List Nat}
    (h : ∀ number ∈ numbers, number < b.analyses.length) (name : Text) (a : Analysis) :
    numbers.foldl (fun written other => written.merge b.analyses.length other) (b.enter name a)
      = b.enter name ((numbers.map b.analysis).foldl Analysis.merge a) := by
  induction numbers generalizing a with
  | nil => rfl
  | cons other rest ih =>
      have hstep : (b.enter name a).merge b.analyses.length other
          = b.enter name (a.merge (b.analysis other)) := by
        rw [merge, analysis_enter_self, analysis_enter_of_lt (h other List.mem_cons_self),
          update_enter]
      rw [List.foldl_cons, hstep, ih fun number hnumber => h number (.tail other hnumber)]
      rfl

/-- Analyses that are merged one after the other into a new one make the analysis that merging
gives. -/
theorem mergeAll_eq_enter {b : Book} {numbers : List Nat}
    (h : ∀ number ∈ numbers, number < b.analyses.length) (name : Text) :
    b.mergeAll name numbers = b.enter name (Analysis.mergeAll (numbers.map b.analysis)) :=
  foldl_merge_enter h name {}

end Book

/-- How analyses are grouped when they are merged makes no difference at all, down to the rows of
each table and to which one of several duplicates is stored. In another order the keys of all tables
stay the same, and so do the functions and the anomalies, each as often as before. An analysis that
is merged into another one, alone or among several, is not changed. -/
theorem Analysis.merge_independent :
    (∀ first second : List Analysis,
      mergeAll (first ++ second) = (mergeAll first).merge (mergeAll second)) ∧
    (∀ analyses others : List Analysis, analyses.Perm others →
      SameContent (mergeAll analyses) (mergeAll others)) ∧
    (∀ (b : Book) (number other : Nat), other ≠ number →
      (b.merge number other).analysis other = b.analysis other) ∧
    (∀ (b : Book) (name : Text) (numbers : List Nat),
      (∀ number ∈ numbers, number < b.analyses.length) →
      (b.mergeAll name numbers).analysis b.analyses.length
          = mergeAll (numbers.map b.analysis) ∧
        ∀ number < b.analyses.length,
          (b.mergeAll name numbers).analysis number = b.analysis number) := by
  refine ⟨fun first second => ?_, fun analyses others hperm => ?_, fun b number other hne => ?_,
    fun b name numbers hnumbers => ?_⟩
  · rw [mergeAll_eq_gathered, mergeAll_eq_gathered, mergeAll_eq_gathered, gathered_append]
  · rw [mergeAll_eq_gathered, mergeAll_eq_gathered]
    exact sameContent_of_perm hperm
  · exact Book.analysis_update_of_ne hne
  · rw [Book.mergeAll_eq_enter hnumbers]
    exact ⟨Book.analysis_enter_self b name _, fun number hlt => Book.analysis_enter_of_lt hlt⟩

/-- A file with one function. -/
def Analysis.oneFunction : Dumps where
  disassembly := some ["Dump of file a.dll".toList, "File Type: DLL".toList, "start:".toList]

theorem Analysis.merge_independent_two_files :
    ∃ a b, ofDumps ⟨"C:\\a.dll".toList, default⟩ oneFunction = .ok a ∧
      ofDumps ⟨"C:\\b.dll".toList, default⟩ oneFunction = .ok b ∧
      mergeAll [a, b] = (mergeAll [a]).merge (mergeAll [b]) ∧
      SameContent (mergeAll [a, b]) (mergeAll [b, a]) ∧
      ∀ book : Book, book = (({} : Book).enter "a".toList a).enter "b".toList b →
        (book.merge 0 1).analysis 1 = b ∧
        (book.mergeAll "both".toList [0, 1]).analysis 2 = mergeAll [a, b] ∧
        (book.mergeAll "both".toList [0, 1]).analysis 0 = a := by
  obtain ⟨a, ha⟩ : ∃ a, ofDumps ⟨"C:\\a.dll".toList, default⟩ oneFunction = .ok a := ⟨_, rfl⟩
  obtain ⟨b, hb⟩ : ∃ b, ofDumps ⟨"C:\\b.dll".toList, default⟩ oneFunction = .ok b := ⟨_, rfl⟩
  obtain ⟨hgroup, horder, hother, hall⟩ := merge_independent
  refine ⟨a, b, ha, hb, hgroup [a] [b], horder [a, b] [b, a] (.swap b a []), ?_⟩
  rintro _ rfl
  obtain ⟨hmerged, hkept⟩ := hall ((({} : Book).enter "a".toList a).enter "b".toList b)
    "both".toList [0, 1] (show ∀ number ∈ [0, 1], number < 2 by decide)
  exact ⟨hother _ 0 1 (by decide), hmerged, hkept 0 (show 0 < 2 by decide)⟩

/-- An analysis that is merged into itself has all its functions twice. -/
theorem Book.merge_itself :
    ∃ a, Analysis.ofDumps default Analysis.oneFunction = .ok a ∧
      ∀ b : Book, b = ({} : Book).enter "a".toList a →
        b.analysis 0 = a ∧ (b.merge 0 0).analysis 0 ≠ b.analysis 0 := by
  obtain ⟨a, ha, hone⟩ : ∃ a, Analysis.ofDumps default Analysis.oneFunction = .ok a ∧
      a.regions.length = 1 := ⟨_, rfl, rfl⟩
  refine ⟨a, ha, ?_⟩
  rintro _ rfl
  refine ⟨rfl, fun hsame => ?_⟩
  have hdouble : (a.regions ++ a.regions).length = a.regions.length :=
    congrArg (fun merged => merged.regions.length) hsame
  rw [List.length_append, hone] at hdouble
  cases hdouble

end SymbolAtlas
