/-
# SymbolAtlas.Proofs.Listing.Dependency — no dependency is reported twice

The files loaded at start and those loaded on first use are read off one listing in two scans, each
with its own header line and its own terminators. The two lists come apart because the first scan has
the header line of the second one among its terminators. `direct_delayed_by_rows` says which lines
each of the lists is made of, for all listings, and that the lists share no line where the header
lines stand in their usual order.
-/
import SymbolAtlas.Proofs.Listing.Bounds
import SymbolAtlas.Proofs.Listing.Defect

namespace SymbolAtlas.Dependents

/-! ## One section -/

/-- The lines that name a file in a section, with their indexes. -/
def named (spec : SectionSpec) (lines : List Text) : List (Nat × Text) :=
  (spec.rows lines).filter fun row => !row.2.isBlankText

/-- That rows are the lines of a listing below a header line and above the first line from there on
that is one of `ends`: each of them that is not blank, once, in the order of the listing. -/
structure Lists (lines : List Text) (header : Nat) (ends : List Text)
    (rows : List (Nat × Text)) : Prop where
  inOrder : rows.Pairwise fun earlier later => earlier.1 < later.1
  mem_iff : ∀ k line, (k, line) ∈ rows ↔ lines[k]? = some line ∧ line.isBlankText = false ∧
    header < k ∧ ∀ j other, header < j → j ≤ k → lines[j]? = some other → other.trim ∉ ends

section Section

variable (spec : SectionSpec) {lines : List Text} {header : Nat}

theorem readSection_eq_named (hoptional : spec.required = false) (lines : List Text) :
    readSection spec lines = .ok ((named spec lines).map fun row => ⟨row.2.trim⟩) := by
  obtain ⟨bounds, hbounds⟩ := SectionSpec.find_optional hoptional lines
  have hrows : spec.rows lines = bounds.body lines := by
    rw [SectionSpec.rows, hbounds]
  -- a line is blank if nothing of it is left
  have hname (row : Nat × Text) : row.2.trim.isEmpty = row.2.isBlankText := by
    rw [Bool.eq_iff_iff, List.isEmpty_iff, Text.trim_eq_nil_iff]
  rw [readSection, hbounds, named, hrows]
  show Except.ok (List.filterMap _ (List.map _ _)) = _
  rw [List.filterMap_map, ← List.filterMap_eq_map, List.filterMap_filter]
  congr 1
  refine congrArg (List.filterMap · _) (funext fun row => ?_)
  simp only [Function.comp_apply, hname]
  cases row.2.isBlankText <;> rfl

theorem lists_named (hone : spec.headerLines = 1)
    (hheader : lines.findIdx? spec.isHeader = some header) :
    Lists lines header spec.terminators (named spec lines) := by
  refine ⟨(spec.pairwise_rows lines).filter _, fun k line => ?_⟩
  simp only [named, List.mem_filter, SectionSpec.mem_rows_iff hone, SectionSpec.InBody, hheader,
    Option.some.injEq, exists_eq_left', SectionSpec.isTerminatorAt_eq_false_iff,
    Bool.not_eq_true']
  constructor
  · rintro ⟨⟨hline, hk, hclear⟩, hname⟩
    exact ⟨hline, hname, hk, fun j other hj hjk => hclear j hj hjk other⟩
  · rintro ⟨hline, hname, hk, hclear⟩
    exact ⟨⟨hline, hk, fun j hj hjk other => hclear j other hj hjk⟩, hname⟩

theorem named_eq_nil (hone : spec.headerLines = 1)
    (hheader : lines.findIdx? spec.isHeader = none) : named spec lines = [] := by
  rw [named, SectionSpec.rows_eq_nil hone hheader, List.filter_nil]

end Section

/-- The rows of a list stand above each line that ends it. -/
theorem Lists.lt_of_end {lines : List Text} {header k : Nat} {line : Text} {ends : List Text}
    {rows : List (Nat × Text)} (h : Lists lines header ends rows) (hk : header < k)
    (hline : lines[k]? = some line) (hend : line.trim ∈ ends) : ∀ row ∈ rows, row.1 < k := by
  rintro ⟨index, text⟩ hrow
  obtain ⟨-, -, -, hclear⟩ := (h.mem_iff index text).mp hrow
  by_contra hle
  exact hclear k line hk (Nat.le_of_not_lt hle) hline hend

/-- None of the rows of a list is itself an end. -/
theorem Lists.not_end {lines : List Text} {header : Nat} {ends : List Text}
    {rows : List (Nat × Text)} (h : Lists lines header ends rows) :
    ∀ row ∈ rows, header < row.1 ∧ row.2.trim ∉ ends := by
  rintro ⟨index, text⟩ hrow
  obtain ⟨hline, -, hbelow, hclear⟩ := (h.mem_iff index text).mp hrow
  exact ⟨hbelow, hclear index text hbelow (Nat.le_refl index) hline⟩

/-! ## Both sections -/

open Listing

section InOrder

variable {lines : List Text} {header later : Nat}
  (hheader : lines.findIdx? (isLine dependentsHeader) = some header)
  (hlater : lines.findIdx? (isLine delayDependentsHeader) = some later) (hlt : header < later)

include hlater

/-- The header line of the second section ends the first one. -/
theorem exists_later_header : ∃ line, lines[later]? = some line ∧
    line.trim ∈ dependentsSection.terminators := by
  obtain ⟨hlength, hline, -⟩ := List.findIdx?_eq_some_iff_getElem.mp hlater
  refine ⟨lines[later], List.getElem?_eq_getElem hlength, ?_⟩
  rw [beq_iff_eq.mp hline]
  exact List.mem_cons_of_mem _ List.mem_cons_self

include hheader hlt

/-- The two bodies lie apart. -/
theorem find_in_order : ∃ stop stop', stop ≤ later ∧
    dependentsSection.find lines = .ok ⟨"dependents".toList, some (header + 1), stop⟩ ∧
    delayDependentsSection.find lines
      = .ok ⟨"delay_dependents".toList, some (later + 1), stop'⟩ := by
  have hfirst : dependentsSection.CompletesAt lines header :=
    (SectionSpec.completesAt_iff_of_one rfl).mpr hheader
  have hsecond : delayDependentsSection.CompletesAt lines later :=
    (SectionSpec.completesAt_iff_of_one rfl).mpr hlater
  have hend : dependentsSection.BodyEndsAt lines (header + 1) _ :=
    SectionSpec.bodyEndsAt_bodyEnd hfirst.lt_length
  have hend' : delayDependentsSection.BodyEndsAt lines (later + 1) _ :=
    SectionSpec.bodyEndsAt_bodyEnd hsecond.lt_length
  obtain ⟨line, hline, hterminator⟩ := exists_later_header hlater
  have hstop : dependentsSection.isTerminatorAt lines later = true := by
    rw [SectionSpec.isTerminatorAt, hline]
    simpa using hterminator
  exact ⟨_, _, hend.stop_le hlt hstop, SectionSpec.find_of_completesAt hfirst hend,
    SectionSpec.find_of_completesAt hsecond hend'⟩

/-- The lines of the first list stand above the second header line, and those of the second list
below. -/
theorem named_in_order :
    (named dependentsSection lines ++ named delayDependentsSection lines).Pairwise
      (fun earlier later => earlier.1 < later.1) ∧
    ∀ row ∈ named dependentsSection lines ++ named delayDependentsSection lines,
      row.1 ≠ header ∧ row.1 ≠ later ∧ row.2.trim ≠ summaryLine := by
  have hlists := lists_named dependentsSection rfl hheader
  have hlists' := lists_named delayDependentsSection rfl hlater
  obtain ⟨line, hline, hend⟩ := exists_later_header hlater
  have habove := hlists.lt_of_end hlt hline hend
  have hsummary : summaryLine ∈ dependentsSection.terminators ∧
      summaryLine ∈ delayDependentsSection.terminators :=
    ⟨List.mem_cons_self, List.mem_cons_self⟩
  constructor
  · refine List.pairwise_append.mpr ⟨hlists.inOrder, hlists'.inOrder, fun row hrow row' hrow' => ?_⟩
    exact Nat.lt_trans (habove row hrow) (hlists'.not_end row' hrow').1
  · intro row hrow
    rcases List.mem_append.mp hrow with hfirst | hsecond
    · obtain ⟨hbelow, hnot⟩ := hlists.not_end row hfirst
      exact ⟨Nat.ne_of_gt hbelow, Nat.ne_of_lt (habove row hfirst),
        fun heq => hnot (heq ▸ hsummary.1)⟩
    · obtain ⟨hbelow, hnot⟩ := hlists'.not_end row hsecond
      exact ⟨Nat.ne_of_gt (Nat.lt_trans hlt hbelow), Nat.ne_of_gt hbelow,
        fun heq => hnot (heq ▸ hsummary.2)⟩

end InOrder

/-- The files of a list of dependencies are the lines of its section that are not blank: those between
the first header line of the section and the first terminator below it. Without a header line the
list is empty. If the header line of the files loaded at start comes first, then their section ends
at the other header line at the latest, so no line is reported twice, and neither are the two header
lines or a summary line. -/
theorem direct_delayed_by_rows (lines : List Text) :
    (direct lines = .ok ((named dependentsSection lines).map fun row => ⟨row.2.trim⟩) ∧
      (lines.findIdx? (isLine dependentsHeader) = none → direct lines = .ok []) ∧
      ∀ header, lines.findIdx? (isLine dependentsHeader) = some header →
        Lists lines header [summaryLine, delayDependentsHeader]
          (named dependentsSection lines)) ∧
    (delayed lines = .ok ((named delayDependentsSection lines).map fun row => ⟨row.2.trim⟩) ∧
      (lines.findIdx? (isLine delayDependentsHeader) = none → delayed lines = .ok []) ∧
      ∀ header, lines.findIdx? (isLine delayDependentsHeader) = some header →
        Lists lines header [summaryLine] (named delayDependentsSection lines)) ∧
    ∀ header later, lines.findIdx? (isLine dependentsHeader) = some header →
      lines.findIdx? (isLine delayDependentsHeader) = some later → header < later →
      (∃ stop stop', stop ≤ later ∧
        dependentsSection.find lines = .ok ⟨"dependents".toList, some (header + 1), stop⟩ ∧
        delayDependentsSection.find lines
          = .ok ⟨"delay_dependents".toList, some (later + 1), stop'⟩) ∧
      (named dependentsSection lines ++ named delayDependentsSection lines).Pairwise
        (fun earlier later => earlier.1 < later.1) ∧
      ∀ row ∈ named dependentsSection lines ++ named delayDependentsSection lines,
        row.1 ≠ header ∧ row.1 ≠ later ∧ row.2.trim ≠ summaryLine := by
  have hdirect : direct lines = _ := readSection_eq_named dependentsSection rfl lines
  have hdelayed : delayed lines = _ := readSection_eq_named delayDependentsSection rfl lines
  refine ⟨⟨hdirect, fun hnone => ?_, fun header => lists_named dependentsSection rfl⟩,
    ⟨hdelayed, fun hnone => ?_, fun header => lists_named delayDependentsSection rfl⟩,
    fun header later hheader hlater hlt => ?_⟩
  · rw [hdirect, named_eq_nil dependentsSection rfl hnone, List.map_nil]
  · rw [hdelayed, named_eq_nil delayDependentsSection rfl hnone, List.map_nil]
  · exact ⟨find_in_order hheader hlater hlt, named_in_order hheader hlater hlt⟩

/-- Two lists, with the header line of the first one a second time, and a table below them. -/
def loadListing : List Text :=
  ["".toList, "  Image has the following dependencies:".toList, "".toList, "    a.dll".toList,
    "  Image has the following dependencies:".toList,
    "  Image has the following delay load dependencies:".toList, "    b.dll ".toList,
    "  Summary".toList, "   1000 .data".toList]

/-- The first list is that of lines 3 and 4, the second one that of line 6; above line 5 there is no
second list, and from there on no first one. -/
theorem direct_delayed_by_rows_loadListing :
    direct loadListing
      = .ok [⟨"a.dll".toList⟩, ⟨"Image has the following dependencies:".toList⟩] ∧
    delayed loadListing = .ok [⟨"b.dll".toList⟩] ∧
    (named dependentsSection loadListing ++ named delayDependentsSection loadListing).Pairwise
      (fun earlier later => earlier.1 < later.1) ∧
    (∀ row ∈ named dependentsSection loadListing ++ named delayDependentsSection loadListing,
      row.1 ≠ 1 ∧ row.1 ≠ 5 ∧ row.2.trim ≠ summaryLine) ∧
    Lists loadListing 1 [summaryLine, delayDependentsHeader]
      (named dependentsSection loadListing) ∧
    direct (loadListing.drop 5) = .ok [] ∧ delayed (loadListing.take 5) = .ok [] := by
  have hfirst : loadListing.findIdx? (isLine dependentsHeader) = some 1 := by decide
  have hlater : loadListing.findIdx? (isLine delayDependentsHeader) = some 5 := by decide
  obtain ⟨⟨hdirect, -, hlists⟩, ⟨hdelayed, -, -⟩, horder⟩ := direct_delayed_by_rows loadListing
  obtain ⟨⟨-, hnone, -⟩, -, -⟩ := direct_delayed_by_rows (loadListing.drop 5)
  obtain ⟨-, ⟨-, hnone', -⟩, -⟩ := direct_delayed_by_rows (loadListing.take 5)
  obtain ⟨-, hsorted, hrows⟩ := horder 1 5 hfirst hlater (by decide)
  exact ⟨hdirect.trans rfl, hdelayed.trans rfl, hsorted, hrows, hlists 1 hfirst,
    hnone (by decide), hnone' (by decide)⟩

/-- In the other order the list of the files loaded on first use has the other files, too. -/
example :
    (direct [delayDependentsHeader, "b.dll".toList, dependentsHeader, "a.dll".toList],
      delayed [delayDependentsHeader, "b.dll".toList, dependentsHeader, "a.dll".toList])
      = (.ok [⟨"a.dll".toList⟩],
        .ok [⟨"b.dll".toList⟩, ⟨dependentsHeader⟩, ⟨"a.dll".toList⟩]) := by
  rfl

end SymbolAtlas.Dependents
