/-
# SymbolAtlas.Proofs.Listing.ExportPass — reading exports is one pass that stops at the first bad line

Three things can be wrong with a line of the export section for good, and one for the time being:
its columns, its numbers, a name text that names nothing, and brackets that do not match. The first
three end the reading at the line, whatever comes below; the last is noted and the reading goes on.
So all depends on the first bad line: above it every line has given one entry and its anomaly if it
has one, and nothing of the line itself or of any line below it is noted. `readLogged_in_order` says
so of every listing.
-/
import SymbolAtlas.Proofs.Listing.Defect
import SymbolAtlas.Proofs.Listing.ExportLine
import SymbolAtlas.Proofs.Listing.Prototype

namespace SymbolAtlas

open SymbolAtlas.Bracket

namespace ExportName

/-- The export of a name. -/
def entry (provider : FilePath) (name : ExportName) : ExportEntry where
  provider := provider
  prototype := name.prototype
  symbol := name.symbol
  shortName := name.shortName

end ExportName

namespace Exports

/-! ## Rows -/

/-- The lines of the body of the export section that are not blank, with their indexes. -/
def rows (lines : List Text) : List (Nat × Text) :=
  match Listing.exportsSection.find lines with
  | .ok bounds => (bounds.body lines).filter fun row => !row.2.isBlankText
  | .error _ => []

/-- Blank lines of a body do not matter. -/
theorem readBody_filter (provider : FilePath) (body : List (Nat × Text)) :
    readBody provider (body.filter fun row => !row.2.isBlankText) = readBody provider body := by
  induction body with
  | nil => rfl
  | cons row rest ih =>
      obtain ⟨index, line⟩ := row
      cases hblank : line.isBlankText with
      | true =>
          rw [List.filter_cons_of_neg (by simp [hblank]), ih, readBody, if_pos hblank]
      | false =>
          rw [List.filter_cons_of_pos (by simp [hblank]), readBody, readBody, ih]

theorem read_eq_rows (lines : List Text) (provider : FilePath) :
    read lines provider = readBody provider (rows lines) := by
  obtain ⟨bounds, hbounds⟩ :=
    SectionSpec.find_optional (rfl : Listing.exportsSection.required = false) lines
  simp only [read, rows, hbounds, readBody_filter]

/-- That a line stands in the body of the export section: a line of column titles stands above it,
and neither the line itself nor one between them ends the section. -/
def InBody (lines : List Text) (k : Nat) : Prop :=
  ∃ header, lines.findIdx? Listing.isExportHeader = some header ∧ header < k ∧
    ∀ j line, header < j → j ≤ k → lines[j]? = some line → line.trim ≠ Listing.summaryLine

/-- The rows are the lines of the body that show something. -/
theorem mem_rows_iff {lines : List Text} (k : Nat) (line : Text) :
    (k, line) ∈ rows lines ↔
      lines[k]? = some line ∧ line.isBlankText = false ∧ InBody lines k := by
  obtain ⟨bounds, hbounds⟩ :=
    SectionSpec.find_optional (rfl : Listing.exportsSection.required = false) lines
  have hone : Listing.exportsSection.headerLines = 1 := rfl
  have hend (other : Text) : other.trim ∉ Listing.exportsSection.terminators
      ↔ other.trim ≠ Listing.summaryLine :=
    not_congr List.mem_singleton
  have hbody := SectionSpec.mem_body_iff hbounds k line
  simp only [SectionSpec.lastHeader?_of_one hone, hend] at hbody
  simp only [rows, hbounds, List.mem_filter, hbody, Bool.not_eq_true']
  constructor
  · rintro ⟨⟨hline, hinside⟩, hshown⟩
    exact ⟨hline, hshown, hinside⟩
  · rintro ⟨hline, hshown, hinside⟩
    exact ⟨⟨hline, hinside⟩, hshown⟩

theorem pairwise_rows (lines : List Text) :
    (rows lines).Pairwise fun earlier later => earlier.1 < later.1 := by
  unfold rows
  split
  · exact (SectionSpec.pairwise_body _ lines).filter _
  · exact List.Pairwise.nil

theorem not_blank_of_mem_rows {lines : List Text} {row : Nat × Text} (h : row ∈ rows lines) :
    row.2.isBlankText = false :=
  ((mem_rows_iff row.1 row.2).mp h).2.1

/-! ## One row -/

/-- The anomaly of a row, if its brackets do not match. -/
def anomaly? (row : Nat × Text) : Option Anomaly :=
  (fault? (nameOf row.2)).map fun fault => ⟨row.1, fault⟩

/-- What is read from a line with its columns. -/
theorem readLine_eq {line : Text} (h : hasColumns line = true) (provider : FilePath)
    (index : Nat) :
    readLine provider index line
      = match ExportName.ofText? (nameOf line) with
        | some name => .ok (name.entry provider, anomaly? (index, line))
        | none => fail .namelessExport (some index) line := by
  simp only [readLine, nameText_of_hasColumns h, bind, Except.bind]
  cases hname : ExportName.ofText? (nameOf line) with
  | none => rfl
  | some name =>
      simp only [(ExportName.parts_of_ofText? hname).2]
      rfl

/-- That an entry is the export of a row: its name text names the entry, and the entry has no
prototype if the brackets of that text do not match. -/
def Gives (provider : FilePath) (row : Nat × Text) (entry : ExportEntry) : Prop :=
  (∃ name, ExportName.ofText? (nameOf row.2) = some name ∧ entry = name.entry provider) ∧
    (fault? (nameOf row.2) ≠ none → entry.prototype = none)

theorem gives_of_ofText? (provider : FilePath) {row : Nat × Text} {name : ExportName}
    (h : ExportName.ofText? (nameOf row.2) = some name) :
    Gives provider row (name.entry provider) := by
  refine ⟨⟨name, h, rfl⟩, fun hrejected => ?_⟩
  obtain ⟨fault, hfault⟩ := Option.ne_none_iff_exists'.mp hrejected
  exact (ExportName.parts_of_fault hfault h).1

/-- That a row has its columns and its name text names something. -/
structure IsNamed (row : Nat × Text) : Prop where
  notBlank : row.2.isBlankText = false
  columns : hasColumns row.2 = true
  named : ExportName.ofText? (nameOf row.2) ≠ none

/-- That a row gives no export: it lacks a column, or its name text names nothing. -/
def IsBad (row : Nat × Text) : Prop :=
  LacksColumn row.2 ∨ ExportName.ofText? (nameOf row.2) = none

instance (row : Nat × Text) : Decidable (IsBad row) := inferInstanceAs (Decidable (_ ∨ _))

/-- What is wrong with a row that gives no export. -/
def defect (row : Nat × Text) : Defect :=
  if LacksColumn row.2 then .unrecognizedExport else .namelessExport

theorem isNamed_of_not_bad {row : Nat × Text} (hshown : row.2.isBlankText = false)
    (h : ¬ IsBad row) : IsNamed row := by
  rw [IsBad, not_or, lacksColumn_iff, Bool.not_eq_false] at h
  exact ⟨hshown, h.1, h.2⟩

/-- The anomaly of a row is the anomaly of its name, with the index of the row in front. -/
theorem message_anomaly? {row : Nat × Text} {name : ExportName}
    (h : ExportName.ofText? (nameOf row.2) = some name) :
    (anomaly? row).map Anomaly.message
      = name.anomaly.map fun fault => s!"line {row.1}: {fault.message}" := by
  rw [anomaly?, Option.map_map, (ExportName.parts_of_ofText? h).2]
  rfl

/-! ## Several rows -/

/-- Reading goes through rows that name something: each gives an entry, and its anomaly if it has
one. -/
theorem readBody_append (provider : FilePath) {named : List (Nat × Text)}
    (h : ∀ row ∈ named, IsNamed row) :
    ∃ entries, List.Forall₂ (Gives provider) named entries ∧
      ∀ rest, readBody provider (named ++ rest)
        = ⟨named.filterMap anomaly? ++ (readBody provider rest).anomalies,
            (readBody provider rest).entries.map (entries ++ ·)⟩ := by
  induction named with
  | nil =>
      refine ⟨[], .nil, fun rest => ?_⟩
      show readBody provider rest = ⟨_, (readBody provider rest).entries.map id⟩
      cases hrest : readBody provider rest with
      | mk anomalies entries => cases entries <;> rfl
  | cons row later ih =>
      obtain ⟨index, line⟩ := row
      obtain ⟨entries, hgives, hlater⟩ := ih fun other hother =>
        h other (List.mem_cons_of_mem _ hother)
      obtain ⟨hnotBlank, hcolumns, hnamed⟩ := h (index, line) List.mem_cons_self
      obtain ⟨name, hname⟩ := Option.ne_none_iff_exists'.mp hnamed
      refine ⟨name.entry provider :: entries, .cons (gives_of_ofText? provider hname) hgives,
        fun rest => ?_⟩
      have hread : readLine provider index line
          = .ok (name.entry provider, anomaly? (index, line)) := by
        rw [readLine_eq hcolumns]
        simp only [hname]
      simp only [List.cons_append, readBody, hnotBlank, Bool.false_eq_true, if_false, hread,
        hlater rest]
      have hanomalies : (anomaly? (index, line)).toList ++ later.filterMap anomaly?
          = ((index, line) :: later).filterMap anomaly? := by
        rw [List.filterMap_cons]
        cases anomaly? (index, line) <;> rfl
      rw [← hanomalies, List.append_assoc]
      cases (readBody provider rest).entries <;> rfl

/-- A row that gives no export ends the reading, and its anomaly is not noted. -/
theorem readBody_bad {provider : FilePath} {row : Nat × Text}
    (hshown : row.2.isBlankText = false) (hbad : IsBad row) (rest : List (Nat × Text)) :
    readBody provider (row :: rest) = ⟨[], fail (defect row) (some row.1) row.2⟩ := by
  obtain ⟨index, line⟩ := row
  have hread : readLine provider index line = fail (defect (index, line)) (some index) line := by
    by_cases hlacks : LacksColumn line
    · have hcolumns := (lacksColumn_iff line).mp hlacks
      rw [readLine, nameText_of_not_hasColumns hcolumns, defect, if_pos hlacks]
      rfl
    · have hcolumns : hasColumns line = true := by
        rwa [lacksColumn_iff, Bool.not_eq_false] at hlacks
      have hnone := hbad.resolve_left hlacks
      rw [readLine_eq hcolumns, defect, if_neg hlacks]
      simp only [hnone]
  simp only [readBody, hshown, Bool.false_eq_true, if_false, hread]
  rfl

/-- An export section is read in one pass over the lines of its body that are not blank. If none of
them is bad, each gives one entry, in order, and the log grows by their anomalies, in order.
Otherwise the first bad line is the one that the error names, and the log grows by the anomalies of
the lines above it. What is read does not depend on the log. -/
theorem readLogged_in_order (lines : List Text) (provider : FilePath)
    (log : Option (List Anomaly)) :
    ((rows lines).Pairwise (fun earlier later => earlier.1 < later.1) ∧
      ∀ k line, (k, line) ∈ rows lines ↔
        lines[k]? = some line ∧ line.isBlankText = false ∧ InBody lines k) ∧
    (∀ row name, ExportName.ofText? (nameOf row.2) = some name →
      (anomaly? row).map Anomaly.message
        = name.anomaly.map fun fault => s!"line {row.1}: {fault.message}") ∧
    ((∀ row ∈ rows lines, ¬ IsBad row) →
      ∃ entries, readLogged lines provider log
          = (log.map (· ++ (rows lines).filterMap anomaly?), .ok entries) ∧
        List.Forall₂ (Gives provider) (rows lines) entries) ∧
    (∀ before row after, rows lines = before ++ row :: after →
      (∀ earlier ∈ before, ¬ IsBad earlier) → IsBad row →
      readLogged lines provider log = (log.map (· ++ before.filterMap anomaly?),
        .error (.parse ⟨"exports".toList, defect row, some row.1, some row.2⟩))) ∧
    (readLogged lines provider none).2 = (readLogged lines provider log).2 := by
  have hnamed {row : Nat × Text} (hrow : row ∈ rows lines) (h : ¬ IsBad row) : IsNamed row :=
    isNamed_of_not_bad (not_blank_of_mem_rows hrow) h
  refine ⟨⟨pairwise_rows lines, mem_rows_iff⟩, fun row name => message_anomaly?, ?good, ?bad, rfl⟩
  case good =>
    intro hgood
    obtain ⟨entries, hgives, hread⟩ :=
      readBody_append provider fun row hrow => hnamed hrow (hgood row hrow)
    have hall := hread []
    rw [List.append_nil, ← read_eq_rows] at hall
    refine ⟨entries, ?_, hgives⟩
    rw [readLogged, hall]
    simp [readBody, Except.map]
  case bad =>
    intro before row after hrows hbefore hbad
    have hmem : row ∈ rows lines := by simp [hrows]
    have hgood : ∀ earlier ∈ before, IsNamed earlier := by
      intro earlier hearlier
      refine hnamed ?_ (hbefore earlier hearlier)
      simp [hrows, hearlier]
    obtain ⟨entries, -, hread⟩ := readBody_append provider hgood
    rw [readLogged, read_eq_rows, hrows, hread,
      readBody_bad (not_blank_of_mem_rows hmem) hbad, List.append_nil]
    rfl

/-- A section with an anomaly, a blank line, a row whose address is no number, and a row below it
whose brackets do not match either. -/
def brokenListing : List Text :=
  ["ordinal hint RVA name".toList, " 1 0 00001000 ?a@@X = ?a@@X (bool operator>(int))".toList,
    " ".toList, " 2 1 0000101Z b=?b@@YAXXZ".toList, " 3 2 00001020 c=c)".toList]

/-- What was noted before and the anomaly of line 1 are kept, line 3 is blamed, and line 4 does not
count. -/
theorem readLogged_in_order_brokenListing :
    readLogged brokenListing default (some [⟨7, .unbalanced .curly 0⟩])
      = (some [⟨7, .unbalanced .curly 0⟩, ⟨1, .mismatched .angled 28 .round 14⟩],
        .error (.parse ⟨"exports".toList, .unrecognizedExport, some 3,
          some " 2 1 0000101Z b=?b@@YAXXZ".toList⟩)) := by
  have hrows : rows brokenListing
      = [(1, " 1 0 00001000 ?a@@X = ?a@@X (bool operator>(int))".toList)] ++
        (3, " 2 1 0000101Z b=?b@@YAXXZ".toList) :: [(4, " 3 2 00001020 c=c)".toList)] := by
    decide
  have hbefore : ∀ earlier ∈ [(1, " 1 0 00001000 ?a@@X = ?a@@X (bool operator>(int))".toList)],
      ¬ IsBad earlier := by
    decide
  obtain ⟨-, -, -, hbad, -⟩ :=
    readLogged_in_order brokenListing default (some [⟨7, .unbalanced .curly 0⟩])
  exact (hbad _ _ _ hrows hbefore (by decide)).trans rfl

end Exports

end SymbolAtlas
