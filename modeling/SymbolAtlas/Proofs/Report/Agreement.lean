/-
# SymbolAtlas.Proofs.Report.Agreement — the reports on one part agree with the whole analysis

An analysis and the reports on exports, imports and dependencies each dump what they need, read it
and drop duplicates for themselves. On a host whose dumper answers to its commands alone all of them
come down to computations on the same dumps: `Analysis.ofDumped` for the analyses, one reading each
for the reports. Where the whole analysis succeeds the parts are found again in the reports; where it
fails, all dumps were made before anything was read, and `Analysis.Ending` says which failure wins.
-/
import SymbolAtlas.Proofs.Analysis.CallGraph
import SymbolAtlas.Proofs.Invoker.Settled
import SymbolAtlas.Proofs.Listing.Defect
import SymbolAtlas.Proofs.Report.Groups
import SymbolAtlas.Proofs.Report.Interference

namespace SymbolAtlas

open Table

variable {σ : Type}

/-! ## Sessions as computations on dumps -/

/-- The lines of a part that is dumped if it is wanted. -/
def Dump.linesIf (wanted : Bool) (lines : Attempt (List Text)) : Attempt (Option (List Text)) :=
  if wanted then lines.map some else .ok none

/-- An analysis as a computation on dumps, all of which are made before one is read. -/
def Analysis.ofDumped (parts : Parts) (file : FilePath) (dump : Dump → Attempt (List Text)) :
    Attempt Analysis := do
  let exports ← Dump.linesIf parts.exports (dump .exports)
  let imports ← dump .imports
  let disassembly ← Dump.linesIf parts.disassemble (dump .disassembly)
  let dependents ← Dump.linesIf parts.dependents (dump .dependents)
  ofDumps file {
    exports := exports.getD []
    imports := imports
    disassembly := disassembly
    dependents := dependents }

/-- The report on exports that is made of the answers to commands. -/
def ExportReport.ofAnswers (command : Dump → List Text) (answer : List Text → Attempt ProcessResult)
    (file : FilePath) : Attempt Json :=
  (Dump.linesOf command answer .exports >>= ofLines file).map toJson

/-- The report on imports that is made of the answers to commands. -/
def ImportReport.ofAnswers (command : Dump → List Text) (answer : List Text → Attempt ProcessResult)
    (file : FilePath) : Attempt Json :=
  (Dump.linesOf command answer .imports >>= ofLines file).map toJson

namespace Host.Answers

variable {host : Host σ} {i : Invoker} {path : Text} {binary : Target}
  {answer : List Text → Attempt ProcessResult} (h : host.Answers i path binary answer)

include h

theorem dumpIf_yields (wanted : Bool) (part : Dump) :
    i.Yields (Analysis.dumpIf host wanted part binary.file.fullName)
      (Dump.linesIf wanted (Dump.linesOf (i.command binary) answer part)) := by
  cases wanted with
  | false => exact .pure i none
  | true => exact (h.dump_yields part).map some

/-- An analysis of the binary yields the computation on its dumps. -/
theorem ofPath_yields (parts : Parts) :
    i.Yields (Analysis.ofPath host parts path)
      (Analysis.ofDumped parts binary.file (Dump.linesOf (i.command binary) answer)) :=
  h.target_yields.bind_ok <|
    (h.dumpIf_yields parts.exports .exports).bind fun _ =>
    (h.dump_yields .imports).bind fun _ =>
    (h.dumpIf_yields parts.disassemble .disassembly).bind fun _ =>
    (h.dumpIf_yields parts.dependents .dependents).bind fun _ => .ofAttempt i _

theorem listExports_yields :
    i.Yields (Tool.call host path .listExports)
      (ExportReport.ofAnswers (i.command binary) answer binary.file) :=
  h.target_yields.bind_ok (((h.dump_yields .exports).bind fun _ => .ofAttempt i _).map _)

theorem listImports_yields :
    i.Yields (Tool.call host path .listImports)
      (ImportReport.ofAnswers (i.command binary) answer binary.file) :=
  h.target_yields.bind_ok (((h.dump_yields .imports).bind fun _ => .ofAttempt i _).map _)

theorem listDependents_yields :
    i.Yields (Tool.call host path .listDependents)
      ((Dump.linesOf (i.command binary) answer .dependents >>=
        DependentReport.ofLines binary.file).map DependentReport.toJson) :=
  h.target_yields.bind_ok (((h.dump_yields .dependents).bind fun _ => .ofAttempt i _).map _)

end Host.Answers

/-! ## Readings of one part -/

theorem ExportReport.ofLines_eq (file : FilePath) (lines : List Text) :
    ofLines file lines = (Exports.read lines file).entries.map fun exported =>
      ⟨file, empty.addRange exported, (Exports.read lines file).anomalies⟩ := by
  rw [ofLines]
  cases (Exports.read lines file).entries <;> rfl

theorem ImportReport.ofLines_error {file : FilePath} {lines : List Text} {failure : Failure}
    (h : Imports.read lines file = .error failure) : ofLines file lines = .error failure := by
  rw [ofLines, h]
  rfl

/-- A report on imports succeeds as soon as they can be read. -/
theorem ImportReport.ofLines_ok {file : FilePath} {lines : List Text} {imported : List ImportEntry}
    (h : Imports.read lines file = .ok imported) :
    ∃ groups, ofLines file lines = .ok ⟨file, empty.addRange imported, groups⟩ ∧
      Divides (empty.addRange imported : ImportTable).entries groups := by
  obtain ⟨groups, hgroups, hdivides⟩ := exists_groups imported
  refine ⟨groups, ?_, hdivides⟩
  rw [ofLines, h]
  show (groupsOf (empty.addRange imported) >>= fun groups => _) = _
  rw [hgroups]
  rfl

/-- A report on dependencies always succeeds. -/
theorem DependentReport.ofLines_total (file : FilePath) (lines : List Text) :
    ∃ direct delayed, Dependents.direct lines = .ok direct ∧
      ofLines file lines = .ok ⟨file, direct, delayed⟩ := by
  have hoptional : Listing.dependentsSection.required = false := rfl
  have hoptional' : Listing.delayDependentsSection.required = false := rfl
  obtain ⟨direct, hdirect⟩ := Dependents.readSection_total hoptional lines
  obtain ⟨delayed, hdelayed⟩ := Dependents.readSection_total hoptional' lines
  refine ⟨direct, delayed, hdirect, ?_⟩
  rw [ofLines, Dependents.direct, hdirect, Dependents.delayed, hdelayed]
  rfl

/-! ## The whole analysis -/

/-- The order in which the parts of a binary are dumped. -/
def Dump.order : List Dump := [.exports, .imports, .disassembly, .dependents]

/-- The failure of a computation, if it fails. -/
def failure? {α : Type} : Attempt α → Option Failure
  | .ok _ => none
  | .error failure => some failure

theorem failure?_eq_none {α : Type} {outcome : Attempt α} :
    failure? outcome = none ↔ ∃ result, outcome = .ok result := by
  cases outcome <;> simp [failure?]

theorem failure?_eq_some {α : Type} {outcome : Attempt α} {failure : Failure} :
    failure? outcome = some failure ↔ outcome = .error failure := by
  cases outcome <;> simp [failure?]

namespace Analysis

variable {file : FilePath} {dump : Dump → Attempt (List Text)}

/-- Dumps of all parts. -/
def allDumps (exports imports disassembly dependents : List Text) : Dumps where
  exports := exports
  imports := imports
  disassembly := some disassembly
  dependents := some dependents

/-- The analysis of all parts fails as the first dump does that fails, or as reading the dumps
does. -/
theorem ofDumped_cases (file : FilePath) (dump : Dump → Attempt (List Text)) :
    (∃ failure, Dump.order.findSome? (fun part => failure? (dump part)) = some failure ∧
      ofDumped {} file dump = .error failure) ∨
    ∃ exports imports disassembly dependents,
      dump .exports = .ok exports ∧ dump .imports = .ok imports ∧
      dump .disassembly = .ok disassembly ∧ dump .dependents = .ok dependents ∧
      ofDumped {} file dump = ofDumps file (allDumps exports imports disassembly dependents) := by
  unfold ofDumped Dump.linesIf
  simp only [Dump.order, List.findSome?_cons, List.findSome?_nil]
  cases dump .exports with
  | error failure => exact .inl ⟨failure, rfl, rfl⟩
  | ok exports =>
      cases dump .imports with
      | error failure => exact .inl ⟨failure, rfl, rfl⟩
      | ok imports =>
          cases dump .disassembly with
          | error failure => exact .inl ⟨failure, rfl, rfl⟩
          | ok disassembly =>
              cases dump .dependents with
              | error failure => exact .inl ⟨failure, rfl, rfl⟩
              | ok dependents =>
                  exact .inr ⟨exports, imports, disassembly, dependents, rfl, rfl, rfl, rfl, rfl⟩

/-- The analysis of the calls reads two of the dumps. -/
theorem ofDumped_callParts {imports disassembly : List Text} (himports : dump .imports = .ok imports)
    (hdisassembly : dump .disassembly = .ok disassembly) :
    ofDumped Tool.callParts file dump
      = ofDumps file { imports := imports, disassembly := some disassembly } := by
  simp only [ofDumped, himports, hdisassembly]
  rfl

/-- The readings of the dumps that an analysis of all parts is made from. -/
theorem ofDumps_all {exports imports disassembly dependents : List Text} {a : Analysis}
    (h : ofDumps file (allDumps exports imports disassembly dependents) = .ok a) :
    ∃ exported imported direct d,
      (Exports.read exports file).entries = .ok exported ∧
      Imports.read imports file = .ok imported ∧ Dependents.direct dependents = .ok direct ∧
      Disassembly.read disassembly file (ImportTable.symbolTexts (empty.addRange imported)) []
        = .ok d ∧
      a.exports = empty.addRange exported ∧ a.anomalies = (Exports.read exports file).anomalies ∧
      a.imports = empty.addRange imported ∧ a.dependents = empty.addRange direct ∧
      a.regions = d.regions ∧ a.calls = empty.addRange d.calls := by
  rw [ofDumps_eq rfl] at h
  obtain ⟨exported, hexported, h⟩ := bind_eq_ok.mp h
  obtain ⟨imported, himported, h⟩ := bind_eq_ok.mp h
  obtain ⟨direct, hdirect, h⟩ := bind_eq_ok.mp h
  obtain ⟨d, hd, h⟩ := bind_eq_ok.mp h
  cases h
  exact ⟨exported, imported, direct, d, hexported, himported, hdirect, hd, rfl, rfl, rfl, rfl, rfl,
    rfl⟩

/-- Reading the dumps fails as reading the exports does, else as reading the imports does, else as
looking for the header of the disassembly does. -/
theorem ofDumps_all_error {exports imports disassembly dependents : List Text} {failure : Failure} :
    ofDumps file (allDumps exports imports disassembly dependents) = .error failure
      ↔ (Exports.read exports file).entries = .error failure ∨
        (∃ exported, (Exports.read exports file).entries = .ok exported) ∧
          (Imports.read imports file = .error failure ∨
            (∃ imported, Imports.read imports file = .ok imported) ∧
              Listing.disassemblySection.find disassembly = .error failure) := by
  have hoptional : Listing.dependentsSection.required = false := rfl
  obtain ⟨direct, hdirect⟩ := Dependents.readSection_total hoptional dependents
  have hdependents : (some dependents).elim (.ok []) Dependents.direct = .ok direct := hdirect
  rw [ofDumps_eq rfl]
  simp only [allDumps, hdependents]
  cases (Exports.read exports file).entries with
  | error other => simp [bind, Except.bind]
  | ok exported =>
      cases Imports.read imports file with
      | error other => simp [bind, Except.bind]
      | ok imported =>
          -- whatever symbols were imported, only the header can be missing
          have hheader : Disassembly.read disassembly file
                (ImportTable.symbolTexts (empty.addRange imported)) [] = .error failure
              ↔ Listing.disassemblySection.find disassembly = .error failure :=
            Disassembly.read_error_iff
          rw [← hheader]
          cases hread : Disassembly.read disassembly file
            (ImportTable.symbolTexts (empty.addRange imported)) [] <;>
            simp [hread, bind, Except.bind, pure, Except.pure]

end Analysis

/-! ## Which failure wins -/

/-- That a command was answered with status 0. -/
def Succeeds (outcome : Attempt ProcessResult) : Prop :=
  ∃ result, outcome = .ok result ∧ result.exitStatus = 0

/-- The failures that an analysis of all parts ends with, by the answers to its four commands and by
the reports on exports and imports: the first command that does not succeed decides, before anything
is read; then the report on exports, then that on imports, then the header of the disassembly. -/
inductive Analysis.Ending (command : Dump → List Text)
    (answer : List Text → Attempt ProcessResult) (exports imports : Attempt Json) : Failure → Prop
  | status {earlier later : List Dump} {part : Dump} {result : ProcessResult}
      (order : Dump.order = earlier ++ part :: later)
      (succeeded : ∀ other ∈ earlier, Succeeds (answer (command other)))
      (answered : answer (command part) = .ok result) (status : result.exitStatus ≠ 0) :
      Ending command answer exports imports
        (.execution ⟨command part, result.exitStatus, result.lines ++ result.errorLines⟩)
  | unanswered {earlier later : List Dump} {part : Dump} {failure : Failure}
      (order : Dump.order = earlier ++ part :: later)
      (succeeded : ∀ other ∈ earlier, Succeeds (answer (command other)))
      (unanswered : answer (command part) = .error failure) :
      Ending command answer exports imports failure
  | exports {failure : Failure} (dumped : ∀ part, Succeeds (answer (command part)))
      (failed : exports = .error failure) (place : failure.IsAtLine "exports".toList) :
      Ending command answer exports imports failure
  | imports {failure : Failure} {listed : Json} (dumped : ∀ part, Succeeds (answer (command part)))
      (exported : exports = .ok listed) (failed : imports = .error failure)
      (place : failure.IsAtLine "imports".toList) : Ending command answer exports imports failure
  | header {result : ProcessResult} {listed listed' : Json} {seen : Nat}
      (dumped : ∀ part, Succeeds (answer (command part))) (exported : exports = .ok listed)
      (imported : imports = .ok listed') (answered : answer (command .disassembly) = .ok result)
      (missing : Listing.disassemblySection.find result.lines = .error (.parse
        ⟨"disassembly".toList, .incompleteHeader seen 2, some result.lines.length, none⟩)) :
      Ending command answer exports imports (.parse
        ⟨"disassembly".toList, .incompleteHeader seen 2, some result.lines.length, none⟩)

section Ending

variable {command : Dump → List Text} {answer : List Text → Attempt ProcessResult}

theorem Dump.linesOf_eq_ok {part : Dump} {lines : List Text} :
    linesOf command answer part = .ok lines
      ↔ ∃ result, answer (command part) = .ok result ∧ result.exitStatus = 0 ∧
        result.lines = lines :=
  Invoker.answerTo_eq_ok

theorem Dump.succeeds_iff (part : Dump) :
    Succeeds (answer (command part)) ↔ ∃ lines, linesOf command answer part = .ok lines := by
  simp only [linesOf_eq_ok, Succeeds]
  constructor
  · rintro ⟨result, hanswer, hstatus⟩
    exact ⟨result.lines, result, hanswer, hstatus, rfl⟩
  · rintro ⟨-, result, hanswer, hstatus, -⟩
    exact ⟨result, hanswer, hstatus⟩

/-- The first part whose dump fails, with its failure. -/
theorem Dump.findSome?_order {failure : Failure} :
    Dump.order.findSome? (fun part => failure? (linesOf command answer part)) = some failure
      ↔ ∃ earlier part later, Dump.order = earlier ++ part :: later ∧
        linesOf command answer part = .error failure ∧
        ∀ other ∈ earlier, Succeeds (answer (command other)) := by
  rw [List.findSome?_eq_some_iff]
  simp only [failure?_eq_some, failure?_eq_none, Dump.succeeds_iff]

/-- A dump that fails first decides how the analysis ends. -/
theorem Analysis.Ending.of_dump {exports imports : Attempt Json} {earlier later : List Dump}
    {part : Dump} {failure : Failure} (order : Dump.order = earlier ++ part :: later)
    (succeeded : ∀ other ∈ earlier, Succeeds (answer (command other)))
    (failed : Dump.linesOf command answer part = .error failure) :
    Ending command answer exports imports failure := by
  rcases Invoker.answerTo_eq_error.mp failed with hanswer | ⟨result, hanswer, hstatus, rfl⟩
  · exact .unanswered order succeeded hanswer
  · exact .status order succeeded hanswer hstatus

variable {file : FilePath} {lines : List Text}

theorem ExportReport.ofAnswers_eq (h : Dump.linesOf command answer .exports = .ok lines) :
    ofAnswers command answer file = (Exports.read lines file).entries.map fun exported =>
      toJson ⟨file, empty.addRange exported, (Exports.read lines file).anomalies⟩ := by
  have hlines : ofAnswers command answer file = (ofLines file lines).map toJson := by
    rw [ofAnswers, h]
    rfl
  rw [hlines, ofLines_eq]
  cases (Exports.read lines file).entries <;> rfl

theorem ImportReport.ofAnswers_eq (h : Dump.linesOf command answer .imports = .ok lines) :
    ofAnswers command answer file = (ofLines file lines).map toJson := by
  rw [ofAnswers, h]
  rfl

theorem ImportReport.ofAnswers_error (h : Dump.linesOf command answer .imports = .ok lines)
    {failure : Failure} (hread : Imports.read lines file = .error failure) :
    ofAnswers command answer file = .error failure := by
  rw [ofAnswers_eq h, ofLines_error hread]
  rfl

theorem ImportReport.ofAnswers_ok (h : Dump.linesOf command answer .imports = .ok lines)
    {imported : List ImportEntry} (hread : Imports.read lines file = .ok imported) :
    ∃ groups, ofAnswers command answer file
        = .ok (toJson ⟨file, empty.addRange imported, groups⟩) ∧
      Divides (empty.addRange imported : ImportTable).entries groups := by
  obtain ⟨groups, hreport, hdivides⟩ := ofLines_ok hread
  refine ⟨groups, ?_, hdivides⟩
  rw [ofAnswers_eq h, hreport]
  rfl

/-- If all commands succeed, reading their lines decides how the analysis ends. -/
theorem Analysis.ending_of_readings {exports imports disassembly dependents : List Text}
    (hexports : Dump.linesOf command answer .exports = .ok exports)
    (himports : Dump.linesOf command answer .imports = .ok imports)
    (hdisassembly : Dump.linesOf command answer .disassembly = .ok disassembly)
    (hdependents : Dump.linesOf command answer .dependents = .ok dependents) {failure : Failure}
    (h : ofDumps file (allDumps exports imports disassembly dependents) = .error failure) :
    Ending command answer (ExportReport.ofAnswers command answer file)
      (ImportReport.ofAnswers command answer file) failure := by
  have hdumped (part : Dump) : Succeeds (answer (command part)) := by
    rw [Dump.succeeds_iff]
    cases part with
    | exports => exact ⟨exports, hexports⟩
    | imports => exact ⟨imports, himports⟩
    | disassembly => exact ⟨disassembly, hdisassembly⟩
    | dependents => exact ⟨dependents, hdependents⟩
  have hreport : ExportReport.ofAnswers command answer file = _ :=
    ExportReport.ofAnswers_eq hexports
  rcases ofDumps_all_error.mp h with
    hread | ⟨⟨exported, hexported⟩, hread | ⟨⟨imported, himported⟩, hfind⟩⟩
  · rw [hread] at hreport
    exact .exports hdumped hreport (Exports.read_error hread)
  · rw [hexported] at hreport
    exact .imports hdumped hreport (ImportReport.ofAnswers_error himports hread)
      (Imports.read_error hread)
  · rw [hexported] at hreport
    obtain ⟨groups, himports', -⟩ := ImportReport.ofAnswers_ok himports himported
    obtain ⟨result, hanswer, -, rfl⟩ := Dump.linesOf_eq_ok.mp hdisassembly
    obtain ⟨-, rfl⟩ := SectionSpec.find_error hfind
    exact .header hdumped hreport himports' hanswer hfind

/-- What the report on exports says of reading them. -/
theorem ExportReport.entries_of_ofAnswers (h : Dump.linesOf command answer .exports = .ok lines) :
    (∀ failure, ofAnswers command answer file = .error failure →
      (Exports.read lines file).entries = .error failure) ∧
    ∀ report, ofAnswers command answer file = .ok report →
      ∃ exported, (Exports.read lines file).entries = .ok exported := by
  rw [ofAnswers_eq h]
  cases (Exports.read lines file).entries with
  | error other => exact ⟨fun failure hfailure => map_eq_error.mp hfailure, nofun⟩
  | ok exported => exact ⟨nofun, fun report hreport => ⟨exported, rfl⟩⟩

/-- What the report on imports says of reading them. -/
theorem ImportReport.read_of_ofAnswers (h : Dump.linesOf command answer .imports = .ok lines) :
    (∀ failure, ofAnswers command answer file = .error failure →
      Imports.read lines file = .error failure) ∧
    ∀ report, ofAnswers command answer file = .ok report →
      ∃ imported, Imports.read lines file = .ok imported := by
  cases hread : Imports.read lines file with
  | error other =>
      rw [ofAnswers_error h hread]
      exact ⟨fun failure hfailure => by cases hfailure; rfl, nofun⟩
  | ok imported =>
      obtain ⟨groups, hreport, -⟩ := ofAnswers_ok h hread
      rw [hreport]
      exact ⟨nofun, fun report hreport => ⟨imported, rfl⟩⟩

/-- An ending comes from the first dump that fails, or from reading dumps that all succeeded. -/
theorem Analysis.Ending.cause {failure : Failure}
    (h : Ending command answer (ExportReport.ofAnswers command answer file)
      (ImportReport.ofAnswers command answer file) failure) :
    Dump.order.findSome? (fun part => failure? (Dump.linesOf command answer part)) = some failure ∨
    (∀ part, Succeeds (answer (command part))) ∧
      ∀ exports imports disassembly dependents,
        Dump.linesOf command answer .exports = .ok exports →
        Dump.linesOf command answer .imports = .ok imports →
        Dump.linesOf command answer .disassembly = .ok disassembly →
        ofDumps file (allDumps exports imports disassembly dependents) = .error failure := by
  cases h with
  | status order succeeded answered status =>
      exact .inl (Dump.findSome?_order.mpr ⟨_, _, _, order,
        Invoker.answerTo_eq_error.mpr (.inr ⟨_, answered, status, rfl⟩), succeeded⟩)
  | unanswered order succeeded unanswered =>
      exact .inl (Dump.findSome?_order.mpr ⟨_, _, _, order,
        Invoker.answerTo_eq_error.mpr (.inl unanswered), succeeded⟩)
  | exports dumped failed place =>
      refine .inr ⟨dumped, fun exports imports disassembly dependents hexports _ _ => ?_⟩
      exact ofDumps_all_error.mpr
        (.inl ((ExportReport.entries_of_ofAnswers hexports).1 _ failed))
  | imports dumped exported failed place =>
      refine .inr ⟨dumped, fun exports imports disassembly dependents hexports himports _ => ?_⟩
      exact ofDumps_all_error.mpr
        (.inr ⟨(ExportReport.entries_of_ofAnswers hexports).2 _ exported,
          .inl ((ImportReport.read_of_ofAnswers himports).1 _ failed)⟩)
  | header dumped exported imported answered missing =>
      refine .inr ⟨dumped, fun exports imports disassembly dependents hexports himports hlines => ?_⟩
      -- the lines of the disassembly are those in which the header is missing
      obtain ⟨result, hanswer, -, rfl⟩ := Dump.linesOf_eq_ok.mp hlines
      cases answered.symm.trans hanswer
      exact ofDumps_all_error.mpr
        (.inr ⟨(ExportReport.entries_of_ofAnswers hexports).2 _ exported,
          .inr ⟨(ImportReport.read_of_ofAnswers himports).2 _ imported, missing⟩⟩)

/-- The analysis of all parts fails exactly with the failure that wins. -/
theorem Analysis.ofDumped_error_iff {failure : Failure} :
    ofDumped {} file (Dump.linesOf command answer) = .error failure
      ↔ Ending command answer (ExportReport.ofAnswers command answer file)
          (ImportReport.ofAnswers command answer file) failure := by
  rcases ofDumped_cases file (Dump.linesOf command answer) with ⟨other, hfirst, hdump⟩ |
    ⟨exports, imports, disassembly, dependents, hexports, himports, hlines, hdependents, hread⟩
  · -- a dump failed
    obtain ⟨earlier, part, later, order, failed, succeeded⟩ := Dump.findSome?_order.mp hfirst
    rw [hdump]
    constructor
    · rintro ⟨⟩
      exact .of_dump order succeeded failed
    · intro h
      rcases h.cause with hsame | ⟨hdumped, -⟩
      · rw [Option.some.inj (hfirst.symm.trans hsame)]
      · obtain ⟨lines, hlines⟩ := (Dump.succeeds_iff part).mp (hdumped part)
        rw [failed] at hlines
        cases hlines
  · -- all dumps succeeded
    rw [hread]
    constructor
    · exact ending_of_readings hexports himports hlines hdependents
    · intro h
      rcases h.cause with hfirst | ⟨-, hreading⟩
      · simp only [Dump.order, List.findSome?_cons, List.findSome?_nil, hexports, himports, hlines,
          hdependents, failure?] at hfirst
        cases hfirst
      · exact hreading _ _ _ _ hexports himports hlines

end Ending

/-! ## Agreement -/

/-- The analysis of the calls has the functions, imports and call edges of the whole analysis. -/
theorem Analysis.calls_agree {file : FilePath} {dump : Dump → Attempt (List Text)} {a : Analysis}
    (h : ofDumped {} file dump = .ok a) :
    ∃ calls, ofDumped Tool.callParts file dump = .ok calls ∧
      calls.regions = a.regions ∧ calls.imports = a.imports ∧ calls.calls = a.calls := by
  rcases ofDumped_cases file dump with ⟨failure, -, hdump⟩ |
    ⟨exports, imports, disassembly, dependents, -, himports, hlines, -, hread⟩
  · rw [hdump] at h
    cases h
  · rw [hread] at h
    obtain ⟨exported, imported, direct, d, -, himported, -, hd, -, -, himports', -, hregions,
      hcalls⟩ := ofDumps_all h
    have hcallParts := ofDumps_eq_ok.mpr ⟨imported, d, himported, hd, rfl⟩
    rw [ofDumped_callParts himports hlines]
    exact ⟨_, hcallParts, hregions.symm, himports'.symm, hcalls.symm⟩

/-- The reports on exports, imports and dependencies show what the whole analysis holds. -/
theorem Analysis.parts_agree {command : Dump → List Text}
    {answer : List Text → Attempt ProcessResult} {file : FilePath} {a : Analysis}
    (h : ofDumped {} file (Dump.linesOf command answer) = .ok a) :
    ExportReport.ofAnswers command answer file
      = .ok (ExportReport.toJson ⟨file, a.exports, a.anomalies⟩) ∧
    (∃ groups, ImportReport.ofAnswers command answer file
        = .ok (ImportReport.toJson ⟨file, a.imports, groups⟩) ∧
      ImportReport.Divides a.imports.entries groups) ∧
    ∃ direct delayed, (Dump.linesOf command answer .dependents >>= DependentReport.ofLines file).map
        DependentReport.toJson = .ok (DependentReport.toJson ⟨file, direct, delayed⟩) ∧
      a.dependents.entries = direct.eraseDupsBy fun a b => a.name.lower == b.name.lower := by
  rcases ofDumped_cases file (Dump.linesOf command answer) with ⟨failure, -, hdump⟩ |
    ⟨exports, imports, disassembly, dependents, hexports, himports, hlines, hdependents, hread⟩
  · rw [hdump] at h
    cases h
  · rw [hread] at h
    obtain ⟨exported, imported, direct, d, hexported, himported, hdirect, -, hexports', hanomalies,
      himports', hdependents', -⟩ := ofDumps_all h
    refine ⟨?exports, ?imports, ?dependents⟩
    case exports =>
      rw [ExportReport.ofAnswers_eq hexports, hexported, hexports', hanomalies]
      rfl
    case imports =>
      rw [himports']
      exact ImportReport.ofAnswers_ok himports himported
    case dependents =>
      obtain ⟨direct', delayed, hsame, hreport⟩ := DependentReport.ofLines_total file dependents
      cases hsame.symm.trans hdirect
      refine ⟨direct, delayed, ?_, ?_⟩
      · rw [hdependents]
        show Except.map _ (DependentReport.ofLines file dependents) = _
        rw [hreport]
        rfl
      · rw [hdependents', addRange_empty]
        show direct.eraseDupsBy sameKey = _
        refine eraseDupsBy_congr fun a _ b _ => ?_
        rw [Bool.eq_iff_iff, beq_iff_eq]
        exact beq_iff_eq

/-- On a host whose dumper answers to its commands alone, the analysis of a binary and the reports on
it agree, in whatever worlds they are made. If the analysis succeeds, so does that of the calls, with
the same functions, imports and call edges; the reports on exports, imports and dependencies show the
same exports, anomalies, imports and dependencies, where the analysis drops those dependencies that
differ in case only. The analysis fails exactly with the failure that wins: that of the first dump
which fails, or else that of the report on exports, or else that of the report on imports, or else
that of a missing header. -/
theorem Analysis.reports_agree {host : Host σ} {i : Invoker} {path : Text} {binary : Target}
    {answer : List Text → Attempt ProcessResult} (h : host.Answers i path binary answer)
    (world world' : σ) :
    (∀ a, ((ofPath host {} path).run.run (i, world)).1 = .ok a →
      (∃ calls, ((ofPath host Tool.callParts path).run.run (i, world')).1 = .ok calls ∧
        calls.regions = a.regions ∧ calls.imports = a.imports ∧ calls.calls = a.calls) ∧
      ((Tool.call host path .listExports).run.run (i, world')).1
        = .ok (ExportReport.toJson ⟨binary.file, a.exports, a.anomalies⟩) ∧
      (∃ groups, ((Tool.call host path .listImports).run.run (i, world')).1
          = .ok (ImportReport.toJson ⟨binary.file, a.imports, groups⟩) ∧
        ImportReport.Divides a.imports.entries groups) ∧
      ∃ direct delayed, ((Tool.call host path .listDependents).run.run (i, world')).1
          = .ok (DependentReport.toJson ⟨binary.file, direct, delayed⟩) ∧
        a.dependents.entries = direct.eraseDupsBy fun a b => a.name.lower == b.name.lower) ∧
    ∀ failure, ((ofPath host {} path).run.run (i, world)).1 = .error failure
      ↔ Ending (i.command binary) answer
          ((Tool.call host path .listExports).run.run (i, world')).1
          ((Tool.call host path .listImports).run.run (i, world')).1 failure := by
  rw [(h.ofPath_yields {}).outcome, (h.ofPath_yields _).outcome, h.listExports_yields.outcome,
    h.listImports_yields.outcome, h.listDependents_yields.outcome]
  exact ⟨fun a ha => ⟨calls_agree ha, parts_agree ha⟩, fun failure => ofDumped_error_iff⟩

/-- The failure of the first dump wins over everything that follows it; and an analysis that
succeeds is shared by the report on exports. -/
theorem Analysis.reports_agree_dumpers :
    ((ofPath (Host.answering noisyDumper) {} "a.dll".toList).run.run
        (Invoker.new {} "dumpbin.exe".toList, ())).1
      = .error (.execution ⟨["dumpbin.exe".toList, "/EXPORTS".toList, "a.dll".toList], 1,
          ["fatal error".toList, "access violation".toList]⟩) ∧
    ∃ a, ((ofPath (Host.answering quietDumper) {} "a.dll".toList).run.run
        (Invoker.new {} "dumpbin.exe".toList, ())).1 = .ok a ∧
      ((Tool.call (Host.answering quietDumper) "a.dll".toList .listExports).run.run
          (Invoker.new {} "dumpbin.exe".toList, ())).1
        = .ok (ExportReport.toJson ⟨⟨"a.dll".toList, (Content.ofBytes []).identity⟩, a.exports,
            a.anomalies⟩) := by
  have hanswers (answer : List Text → ProcessResult) :
      (Host.answering answer).Answers (Invoker.new {} "dumpbin.exe".toList) "a.dll".toList
        ⟨⟨"a.dll".toList, (Content.ofBytes []).identity⟩, Content.ofBytes []⟩
        fun command => .ok (answer command) :=
    ⟨by decide, by decide, fun _ => rfl, fun _ => rfl, fun _ _ _ => rfl⟩
  constructor
  · have horder : Dump.order = [] ++ Dump.exports :: [.imports, .disassembly, .dependents] := rfl
    refine ((reports_agree (hanswers noisyDumper) () ()).2 _).mpr ?_
    have hstatus : (noisyDumper ["dumpbin.exe".toList, "/EXPORTS".toList,
        "a.dll".toList]).exitStatus ≠ 0 := by decide
    exact .status horder nofun rfl hstatus
  · obtain ⟨a, ha⟩ : ∃ a, ((ofPath (Host.answering quietDumper) {} "a.dll".toList).run.run
        (Invoker.new {} "dumpbin.exe".toList, ())).1 = .ok a := ⟨_, rfl⟩
    exact ⟨a, ha, ((reports_agree (hanswers quietDumper) () ()).1 a ha).2.1⟩

end SymbolAtlas
