/-
# SymbolAtlas.Proofs.Listing.Defect — in which ways the reading of a listing fails

A listing that does not follow its grammar is the only reason why its reading fails, and the failure
names the section that was read. A section that may be missing is always found; so exports and
imports fail at one of their lines only, dependencies never, and a disassembly exactly if its header
is incomplete.
-/
import SymbolAtlas.Listing.Exports
import SymbolAtlas.Listing.Imports
import SymbolAtlas.Proofs.Listing.Calls
import SymbolAtlas.Proofs.Listing.Header

namespace SymbolAtlas

/-! ## Sections -/

namespace SectionSpec

/-- Only a section that is required can be missed. -/
theorem find_error {spec : SectionSpec} {lines : List Text} {failure : Failure}
    (h : spec.find lines = .error failure) :
    spec.required = true ∧ failure = .parse ⟨spec.name,
      .incompleteHeader (lines.countP spec.isHeader) spec.headerLines, some lines.length, none⟩ := by
  rw [find_eq] at h
  split at h
  · cases h
  · split at h
    · rename_i hrequired
      cases h
      exact ⟨hrequired, rfl⟩
    · cases h

theorem find_optional {spec : SectionSpec} (h : spec.required = false) (lines : List Text) :
    ∃ bounds, spec.find lines = .ok bounds := by
  cases hfind : spec.find lines with
  | ok bounds => exact ⟨bounds, rfl⟩
  | error failure =>
      rw [(find_error hfind).1] at h
      cases h

end SectionSpec

/-- That a failure is a defect at a line of a section. -/
def Failure.IsAtLine (sectionName : Text) (failure : Failure) : Prop :=
  ∃ defect index line, failure = .parse ⟨sectionName, defect, some index, some line⟩

/-! ## Exports -/

namespace Exports

theorem nameText_error {line : Text} {index : Int} {failure : Failure}
    (h : nameText line (some index) = .error failure) : failure.IsAtLine "exports".toList := by
  simp only [nameText] at h
  split at h
  · split at h
    · cases h
    · cases h
      exact ⟨_, _, _, rfl⟩
  · cases h
    exact ⟨_, _, _, rfl⟩

theorem readLine_error {provider : FilePath} {index : Nat} {line : Text} {failure : Failure}
    (h : readLine provider index line = .error failure) :
    failure.IsAtLine "exports".toList := by
  rw [readLine, bind_eq_error] at h
  rcases h with hcolumns | ⟨text, -, hname⟩
  · exact nameText_error hcolumns
  · split at hname
    · cases hname
      exact ⟨_, _, _, rfl⟩
    · cases hname

theorem readBody_error {provider : FilePath} {body : List (Nat × Text)} {failure : Failure}
    (h : (readBody provider body).entries = .error failure) :
    failure.IsAtLine "exports".toList := by
  induction body with
  | nil => cases h
  | cons item rest ih =>
      obtain ⟨index, line⟩ := item
      rw [readBody] at h
      split at h
      · exact ih h
      · split at h
        · rename_i hline
          cases h
          exact readLine_error hline
        · exact ih (map_eq_error.mp h)

/-- Reading exports fails at a line of their section only. -/
theorem read_error {lines : List Text} {provider : FilePath} {failure : Failure}
    (h : (read lines provider).entries = .error failure) :
    failure.IsAtLine "exports".toList := by
  have hoptional : Listing.exportsSection.required = false := rfl
  obtain ⟨bounds, hbounds⟩ := SectionSpec.find_optional hoptional lines
  rw [read, hbounds] at h
  exact readBody_error h

end Exports

/-! ## Imports -/

namespace Imports

theorem readBody_error {caller : FilePath} {provider : Option FileHint}
    {body : List (Nat × Text)} {failure : Failure}
    (h : readBody caller provider body = .error failure) : failure.IsAtLine "imports".toList := by
  induction body generalizing provider with
  | nil => cases h
  | cons item rest ih =>
      obtain ⟨index, line⟩ := item
      rw [readBody] at h
      split at h
      case h_1 => exact ih h
      case h_2 => exact ih h
      case h_3 => exact ih h
      case h_4 =>
        cases h
        exact ⟨_, _, _, rfl⟩
      case h_5 =>
        split at h
        · cases h
          exact ⟨_, _, _, rfl⟩
        · exact ih (map_eq_error.mp h)

/-- Reading imports fails at a line of their section only. -/
theorem read_error {lines : List Text} {caller : FilePath} {failure : Failure}
    (h : read lines caller = .error failure) : failure.IsAtLine "imports".toList := by
  have hoptional : Listing.importsSection.required = false := rfl
  obtain ⟨bounds, hbounds⟩ := SectionSpec.find_optional hoptional lines
  rw [read, hbounds] at h
  exact readBody_error h

end Imports

/-! ## Dependencies -/

namespace Dependents

theorem readSection_total {spec : SectionSpec} (h : spec.required = false) (lines : List Text) :
    ∃ hints, readSection spec lines = .ok hints := by
  obtain ⟨bounds, hbounds⟩ := SectionSpec.find_optional h lines
  rw [readSection, hbounds]
  exact ⟨_, rfl⟩

end Dependents

/-! ## Disassemblies -/

namespace Disassembly

/-- The names of the regions of a stretch of a listing show something, because labels do. -/
theorem names_not_blank (start : Nat) (lines : List Text) :
    ∀ name ∈ (Region.spans start lines).map (·.name), name.isBlankText = false := by
  intro name hname
  obtain ⟨region, hregion, rfl⟩ := List.mem_map.mp hname
  obtain ⟨above, label, name, below, -, hlabel, rfl⟩ := Region.mem_spans hregion
  exact Region.label?_not_blank hlabel

/-- Below a complete header there is nothing that a disassembly could fail at: the scan, the names
of functions and the readers of regions accept any lines. -/
theorem read_total {lines : List Text} {bounds : SectionBounds}
    (h : Listing.disassemblySection.find lines = .ok bounds) (file : FilePath)
    (imported : List Text) (aliases : List (Text × Text)) :
    ∃ d, read lines file imported aliases = .ok d := by
  obtain ⟨resolver, hresolver⟩ := Resolver.build_total
    (names_not_blank bounds.range.1 (slice lines bounds.range.1 bounds.range.2)) imported aliases
  rw [read_eq h rfl, hresolver]
  exact ⟨_, rfl⟩

/-- Reading a disassembly fails exactly as looking for its header does. -/
theorem read_error_iff {lines : List Text} {file : FilePath} {imported : List Text}
    {aliases : List (Text × Text)} {failure : Failure} :
    read lines file imported aliases = .error failure
      ↔ Listing.disassemblySection.find lines = .error failure := by
  cases hfind : Listing.disassemblySection.find lines with
  | error other => simp [read, hfind, bind, Except.bind]
  | ok bounds =>
      obtain ⟨d, hread⟩ := read_total hfind file imported aliases
      rw [hread]
      constructor <;> intro h <;> cases h

end Disassembly

end SymbolAtlas
