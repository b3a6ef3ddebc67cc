/-
# SymbolAtlas.Proofs.Listing.Margin — indentation never matters

Header lines, terminators, columns, labels and names are looked for with blanks cut off at one end,
at both or at neither, and positions are counted in the text that is left. None of this can tell a
line from the same line without its margins. So a listing whose lines have lost their margins is
read as before: sections lie where they lay, labels and code lines give the same regions and edges,
and a line that ends a reading ends it again, with the same wording.
-/
import SymbolAtlas.Proofs.Listing.Defect
import SymbolAtlas.Proofs.Text.LowerCase
import SymbolAtlas.Proofs.Text.Search

namespace SymbolAtlas

/-! ## Sections -/

namespace Listing

theorem isLine_trim (text line : Text) : isLine text line.trim = isLine text line := by
  rw [isLine, isLine, Text.trim_trim]

theorem isExportHeader_trim (line : Text) : isExportHeader line.trim = isExportHeader line := by
  simp only [isExportHeader, Text.words_trim]

/-- Blanks behind a text do not help a prefix that does not end with a blank. -/
theorem isPrefixOf_append_blank {first margin : Text}
    (hlast : ∀ c ∈ first.getLast?, Text.isBlank c = false) (hmargin : margin.isBlankText = true)
    (s : Text) : first.isPrefixOf (s ++ margin) = first.isPrefixOf s := by
  rw [Bool.eq_iff_iff, List.isPrefixOf_iff_prefix, List.isPrefixOf_iff_prefix]
  refine ⟨fun h => ?_, fun h => h.trans (List.prefix_append s margin)⟩
  rcases List.prefix_or_prefix_of_prefix h (List.prefix_append s margin) with hshort | ⟨rest, rfl⟩
  · exact hshort
  · -- what the prefix holds beyond `s` is blank, so there is nothing of it
    have hrest : rest <+: margin := (List.prefix_append_right_inj s).mp h
    cases hend : rest.getLast? with
    | none =>
        have hnil : rest = [] := List.getLast?_eq_none_iff.mp hend
        simp [hnil]
    | some c =>
        have hblank : Text.isBlank c = true :=
          (Text.isBlankText_iff margin).mp hmargin c (hrest.subset (List.mem_of_getLast? hend))
        have hc : (s ++ rest).getLast? = some c := by
          rw [List.getLast?_append, hend, Option.some_or]
        rw [hlast c hc] at hblank
        cases hblank

theorem isDisassemblyHeader_trim (line : Text) :
    isDisassemblyHeader line.trim = isDisassemblyHeader line := by
  obtain ⟨right, hline, hright⟩ := Text.exists_trimStart_eq line
  have hlast (first : Text) (h : ∀ c ∈ first.getLast?, Text.isBlank c = false) :
      first.isPrefixOf line.trim.lower = first.isPrefixOf line.trimStart.lower := by
    rw [hline, Text.lower_append_blank hright, isPrefixOf_append_blank h hright]
  simp only [isDisassemblyHeader, Text.trimStart_trim]
  have hfile : ∀ c ∈ "dump of file".toList.getLast?, Text.isBlank c = false := by
    rintro c ⟨⟩
    rfl
  have htype : ∀ c ∈ "file type:".toList.getLast?, Text.isBlank c = false := by
    rintro c ⟨⟩
    rfl
  rw [hlast _ hfile, hlast _ htype]

end Listing

namespace SectionSpec

/-- That the header lines of a section are recognised without looking at their margins. -/
def IgnoresMargins (spec : SectionSpec) : Prop :=
  ∀ line, spec.isHeader line.trim = spec.isHeader line

variable {spec : SectionSpec}

theorem scan_trim (h : spec.IgnoresMargins) (lines : List Text) (index : Nat) (phase : Phase) :
    spec.scan index phase (lines.map Text.trim) = spec.scan index phase lines := by
  induction lines generalizing index phase with
  | nil => rfl
  | cons line rest ih =>
      have hstep : spec.step index line.trim phase = spec.step index line phase := by
        cases phase with
        | seeking seen => simp only [step, h line]
        | body start => simp only [step, Text.trim_trim]
        | closed start stop => rfl
      rw [List.map_cons, scan, scan, hstep, ih]

/-- A section lies where it lay. -/
theorem find_trim (h : spec.IgnoresMargins) (lines : List Text) :
    spec.find (lines.map Text.trim) = spec.find lines := by
  simp only [find, scan_trim h, List.length_map]

/-- The lines of a body lose their margins and keep their indexes. -/
theorem body_trim (bounds : SectionBounds) (lines : List Text) :
    bounds.body (lines.map Text.trim) = (bounds.body lines).map (Prod.map id Text.trim) := by
  simp only [SectionBounds.body, ← List.map_take, ← List.map_drop, List.zipIdx_map, List.map_map]
  rfl

end SectionSpec

namespace Listing

theorem exportsSection_margins : exportsSection.IgnoresMargins := isExportHeader_trim

theorem importsSection_margins : importsSection.IgnoresMargins := isLine_trim importsHeader

theorem dependentsSection_margins : dependentsSection.IgnoresMargins :=
  isLine_trim dependentsHeader

theorem delayDependentsSection_margins : delayDependentsSection.IgnoresMargins :=
  isLine_trim delayDependentsHeader

theorem disassemblySection_margins : disassemblySection.IgnoresMargins :=
  isDisassemblyHeader_trim

/-- The sections of a dump. -/
def sections : List SectionSpec :=
  [exportsSection, importsSection, dependentsSection, delayDependentsSection, disassemblySection]

/-- None of the sections of a dump looks at the margins of its header lines. -/
theorem sections_ignore_margins : ∀ spec ∈ sections, spec.IgnoresMargins := by
  simp only [sections, List.forall_mem_cons, List.not_mem_nil, false_imp_iff, implies_true,
    and_true]
  exact ⟨exportsSection_margins, importsSection_margins, dependentsSection_margins,
    delayDependentsSection_margins, disassemblySection_margins⟩

end Listing

/-! ## Failures -/

/-- A failure with the line that it shows cut off at its margins. -/
def Failure.trimmed : Failure → Failure
  | .parse error => .parse { error with line := error.line.map Text.trim }
  | other => other

/-- That two readings came to the same: equal results, or defects of one section at one index with
one wording. The lines that the defects hold may differ. -/
inductive SameReading {α : Type} : Attempt α → Attempt α → Prop
  | ok (result : α) : SameReading (.ok result) (.ok result)
  | defect {first second : ParseError} (sectionName : first.sectionName = second.sectionName)
      (lineIndex : first.lineIndex = second.lineIndex) (message : first.message = second.message) :
      SameReading (.error (.parse first)) (.error (.parse second))

/-- A wording shows the line without its margins anyway. -/
theorem ParseError.message_trim (e : ParseError) :
    ParseError.message { e with line := e.line.map Text.trim } = e.message := by
  cases h : e.line with
  | none => simp only [message, h, Option.map_none]
  | some line => simp only [message, h, Option.map_some, Text.trim_trim]

/-- That the only failures of a reading are defects of the listing. -/
def FailsByDefect {α : Type} (reading : Attempt α) : Prop :=
  ∀ failure, reading = .error failure → ∃ error, failure = .parse error

theorem Failure.IsAtLine.isDefect {sectionName : Text} {failure : Failure}
    (h : failure.IsAtLine sectionName) : ∃ error, failure = .parse error := by
  obtain ⟨defect, index, line, rfl⟩ := h
  exact ⟨_, rfl⟩

theorem SameReading.refl {α : Type} {reading : Attempt α} (h : FailsByDefect reading) :
    SameReading reading reading := by
  cases hreading : reading with
  | ok result => exact .ok result
  | error failure =>
      obtain ⟨error, rfl⟩ := h failure hreading
      exact .defect rfl rfl rfl

/-- A reading that fails with the trimmed line came to the same. -/
theorem SameReading.of_trimmed {α : Type} {reading : Attempt α} (h : FailsByDefect reading) :
    SameReading (reading.mapError Failure.trimmed) reading := by
  cases hreading : reading with
  | ok result => exact .ok result
  | error failure =>
      obtain ⟨error, rfl⟩ := h failure hreading
      exact .defect rfl rfl (ParseError.message_trim error)

/-! ## Exports -/

namespace Exports

theorem nameText_trim (line : Text) (index : Option Int) :
    nameText line.trim index = (nameText line index).mapError Failure.trimmed := by
  simp only [nameText, Text.trim_trim]
  split
  · split
    · rfl
    · rfl
  · rfl

theorem readLine_trim (provider : FilePath) (index : Nat) (line : Text) :
    readLine provider index line.trim = (readLine provider index line).mapError Failure.trimmed := by
  rw [readLine, readLine, nameText_trim]
  cases nameText line (some (index : Int)) with
  | error failure => rfl
  | ok text =>
      simp only [bind, Except.bind, Except.mapError]
      cases ExportName.ofText? text with
      | none => rfl
      | some name => rfl

/-- A body whose lines have lost their margins gives the same anomalies and the same exports, or
ends at the same line. -/
theorem readBody_trim (provider : FilePath) (body : List (Nat × Text)) :
    readBody provider (body.map (Prod.map id Text.trim))
      = ⟨(readBody provider body).anomalies,
          (readBody provider body).entries.mapError Failure.trimmed⟩ := by
  induction body with
  | nil => rfl
  | cons item rest ih =>
      obtain ⟨index, line⟩ := item
      rw [List.map_cons, Prod.map_apply, id_eq, readBody, readBody, Text.isBlankText_trim,
        readLine_trim, ih]
      cases line.isBlankText with
      | true => rfl
      | false =>
          simp only [Bool.false_eq_true, if_false]
          cases readLine provider index line with
          | error failure => rfl
          | ok entry =>
              cases hrest : (readBody provider rest).entries <;> rfl

theorem read_trim (lines : List Text) (provider : FilePath) :
    read (lines.map Text.trim) provider
      = ⟨(read lines provider).anomalies,
          (read lines provider).entries.mapError Failure.trimmed⟩ := by
  have hoptional : Listing.exportsSection.required = false := rfl
  obtain ⟨bounds, hbounds⟩ := SectionSpec.find_optional hoptional lines
  rw [read, read, SectionSpec.find_trim Listing.exportsSection_margins, hbounds]
  show readBody provider (bounds.body (lines.map Text.trim)) = _
  rw [SectionSpec.body_trim, readBody_trim]

end Exports

/-! ## Imports and dependencies -/

namespace Imports

/-- What a line is does not depend on its margins. The symbol is looked for behind the number in the
whole line, where the number is the first thing that is not blank. -/
theorem ofText_trim (line : Text) : Line.ofText line.trim = Line.ofText line := by
  unfold Line.ofText
  rw [Text.words_trim]
  match hwords : line.words with
  | [] => rfl
  | [name] => rfl
  | number :: second :: others =>
      obtain ⟨left, right, hline, hleft, hright⟩ := Text.exists_trim line
      obtain ⟨hnumber, hchars⟩ := Text.mem_pieces (hwords ▸ List.mem_cons_self : number ∈ line.words)
      obtain ⟨behind, htrim, -⟩ :=
        Text.pieces_prefix ((Text.words_trim line).trans hwords) (Text.head?_trim line)
      have hgap : ∀ c ∈ left, number.head? ≠ some c := fun c hc hhead => by
        have hblank := (Text.isBlankText_iff left).mp hleft c hc
        rw [hchars c (List.mem_of_mem_head? hhead)] at hblank
        cases hblank
      -- the blanks in front hold no number, so in both lines the first one is found
      have hwhole : Text.afterFirst number line = behind ++ right := by
        have hshape : line = left ++ (number ++ (behind ++ right)) := by
          rw [← List.append_assoc number, ← htrim, ← List.append_assoc]
          exact hline
        rw [hshape]
        exact Text.afterFirst_append hnumber hgap _
      have hpart : Text.afterFirst number line.trim = behind := by
        rw [htrim]
        exact Text.afterFirst_append hnumber (List.forall_mem_nil _) behind
      have hsymbol := Text.trim_append_right hright behind
      simp only [hwhole, hpart, hsymbol]

theorem readBody_trim (caller : FilePath) (provider : Option FileHint)
    (body : List (Nat × Text)) :
    readBody caller provider (body.map (Prod.map id Text.trim))
      = (readBody caller provider body).mapError Failure.trimmed := by
  induction body generalizing provider with
  | nil => rfl
  | cons item rest ih =>
      obtain ⟨index, line⟩ := item
      rw [List.map_cons, Prod.map_apply, id_eq, readBody, readBody, ofText_trim]
      cases Line.ofText line with
      | blank => exact ih provider
      | detail => exact ih provider
      | provider name => exact ih (some ⟨name⟩)
      | malformed => rfl
      | symbol name =>
          cases provider with
          | none => rfl
          | some hint =>
              simp only [ih]
              cases readBody caller (some hint) rest <;> rfl

theorem read_trim (lines : List Text) (caller : FilePath) :
    read (lines.map Text.trim) caller = (read lines caller).mapError Failure.trimmed := by
  have hoptional : Listing.importsSection.required = false := rfl
  obtain ⟨bounds, hbounds⟩ := SectionSpec.find_optional hoptional lines
  rw [read, read, SectionSpec.find_trim Listing.importsSection_margins, hbounds]
  show readBody caller none (bounds.body (lines.map Text.trim)) = _
  rw [SectionSpec.body_trim, readBody_trim]
  rfl

end Imports

theorem Dependents.readSection_trim {spec : SectionSpec} (h : spec.IgnoresMargins)
    (lines : List Text) : readSection spec (lines.map Text.trim) = readSection spec lines := by
  have hnames (bounds : SectionBounds) :
      (bounds.body (lines.map Text.trim)).map (fun item => item.2.trim)
        = (bounds.body lines).map fun item => item.2.trim := by
    rw [SectionSpec.body_trim, List.map_map]
    exact List.map_congr_left fun item _ => Text.trim_trim item.2
  simp only [readSection, SectionSpec.find_trim h, hnames]

/-! ## Disassemblies -/

section Ranges

variable {α β γ : Type} {f : α → γ} {step : β → Int → α → Attempt β}
  {step' : β → Int → γ → Attempt β}
  (hstep : ∀ state index item, step' state index (f item) = step state index item)

include hstep

theorem foldFrom_map (count : Nat) (index : Int) (items : List α) (state : β) :
    foldFrom step' count index (items.map f) state = foldFrom step count index items state := by
  induction count generalizing index items state with
  | zero => rfl
  | succ count ih =>
      cases items with
      | nil => rfl
      | cons item rest =>
          rw [List.map_cons, foldFrom, foldFrom, hstep]
          exact congrArg _ (funext fun next => ih (index + 1) rest next)

/-- A visit of changed items, by steps that undo the change, is the visit of the items. -/
theorem foldRange_map (items : List α) (count : Nat) (index : Int) (state : β) :
    foldRange (items.map f) step' count index state = foldRange items step count index state := by
  simp only [foldRange, ← List.map_drop, ← List.map_append, List.length_map,
    foldFrom_map hstep]

end Ranges

/-- The colon that makes a label is the last character that is not blank, and the name is trimmed. -/
theorem Region.label?_trim (line : Text) : label? line.trim = label? line := by
  obtain ⟨left, hend, hleft, hempty⟩ := Text.exists_trimEnd_eq line
  have hwords : line.trimEnd.words = line.trim.words := by
    rw [hend]
    exact Text.pieces_append_left ((Text.isBlankText_iff left).mp hleft) line.trim
  cases htrim : line.trim with
  | nil =>
      -- a blank line is no label, with or without its blanks
      rw [label?, label?, hend, hempty htrim, htrim]
      rfl
  | cons c rest =>
      have hlast : line.trimEnd.getLast? = line.trim.getLast? := by
        rw [hend, htrim, List.getLast?_append_cons]
      have hname : Text.trim line.trimEnd.dropLast = Text.trim line.trim.dropLast := by
        rw [hend, List.dropLast_append_of_ne_nil (by rw [htrim]; exact List.cons_ne_nil c rest)]
        exact Text.trim_append_left hleft line.trim.dropLast
      rw [← htrim]
      simp only [label?, Text.trimEnd_trim, hwords, hlast, hname]

theorem Region.scan_trim (lines : List Text) (start stop : Int) :
    scan (lines.map Text.trim) start stop = scan lines start stop := by
  have hstep (p : Partition) (index : Int) (line : Text) :
      p.step index line.trim = p.step index line := by
    simp only [Partition.step, labelName_eq, label?_trim, Text.isBlankText_trim]
  simp only [scan, foldRange_map hstep]

theorem RegionReader.run_trim (resolver : Resolver) (lines : List Text) (region : Region) :
    run resolver (lines.map Text.trim) region = run resolver lines region := by
  have hfeed (r : RegionReader) (line : Text) :
      feed resolver r line.trim = feed resolver r line := by
    rw [feed, feed, Text.words_trim]
  simp only [run]
  rw [foldRange_map fun reader _ line => hfeed reader line]

/-- Nothing of a disassembly depends on margins, not even a failure. -/
theorem Disassembly.read_trim (lines : List Text) (file : FilePath) (imported : List Text)
    (aliases : List (Text × Text)) :
    read (lines.map Text.trim) file imported aliases = read lines file imported aliases := by
  have hrun (resolver : Resolver) :
      RegionReader.run resolver (lines.map Text.trim) = RegionReader.run resolver lines :=
    funext (RegionReader.run_trim resolver lines)
  simp only [read, SectionSpec.find_trim Listing.disassemblySection_margins, Region.scan_trim, hrun]

/-! ## All readings -/

/-- Every section of a listing is found at the same place, and every reading of it comes to the
same, if all lines lose their margins. -/
theorem readings_ignore_margins (lines : List Text) :
    (∀ provider log,
      (Exports.readLogged (lines.map Text.trim) provider log).1
        = (Exports.readLogged lines provider log).1 ∧
      SameReading (Exports.readLogged (lines.map Text.trim) provider log).2
        (Exports.readLogged lines provider log).2) ∧
    (∀ caller, SameReading (Imports.read (lines.map Text.trim) caller)
      (Imports.read lines caller)) ∧
    SameReading (Dependents.direct (lines.map Text.trim)) (Dependents.direct lines) ∧
    SameReading (Dependents.delayed (lines.map Text.trim)) (Dependents.delayed lines) ∧
    (∀ file imported aliases,
      SameReading (Disassembly.read (lines.map Text.trim) file imported aliases)
        (Disassembly.read lines file imported aliases)) ∧
    ∀ spec ∈ Listing.sections,
      SameReading (spec.find (lines.map Text.trim)) (spec.find lines) := by
  have hdependents {spec : SectionSpec} (hmargins : spec.IgnoresMargins)
      (hoptional : spec.required = false) :
      SameReading (Dependents.readSection spec (lines.map Text.trim))
        (Dependents.readSection spec lines) := by
    obtain ⟨hints, hhints⟩ := Dependents.readSection_total hoptional lines
    rw [Dependents.readSection_trim hmargins, hhints]
    exact .ok hints
  have hfind (spec : SectionSpec) : FailsByDefect (spec.find lines) :=
    fun failure h => ⟨_, (SectionSpec.find_error h).2⟩
  refine ⟨fun provider log => ?exports, fun caller => ?imports, ?direct, ?delayed,
    fun file imported aliases => ?disassembly, fun spec hspec => ?sections⟩
  case exports =>
    rw [Exports.readLogged, Exports.readLogged, Exports.read_trim]
    exact ⟨rfl, .of_trimmed fun failure h => (Exports.read_error h).isDefect⟩
  case imports =>
    rw [Imports.read_trim]
    exact .of_trimmed fun failure h => (Imports.read_error h).isDefect
  case direct => exact hdependents Listing.dependentsSection_margins rfl
  case delayed => exact hdependents Listing.delayDependentsSection_margins rfl
  case disassembly =>
    rw [Disassembly.read_trim]
    exact .refl fun failure h => hfind _ failure (Disassembly.read_error_iff.mp h)
  case sections =>
    rw [SectionSpec.find_trim (Listing.sections_ignore_margins spec hspec)]
    exact .refl (hfind spec)

end SymbolAtlas
