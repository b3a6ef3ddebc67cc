/-
# SymbolAtlas.Proofs.Report.Interference — parts that nobody asked for cannot be noticed

An analysis dumps the parts that are wanted, and the imports. What the dumper would print for any
other part, whether it would fail there, and which diagnostics it prints beside a success, has no
influence on the analysis or on its failure, on two hosts that agree on everything else. The same
argument on a host and its own log shows that the other parts are never dumped.
-/
import SymbolAtlas.Proofs.Invoker.Alike
import SymbolAtlas.Report.Tool

namespace SymbolAtlas

variable {σ τ : Type}

/-! ## A host and its log -/

/-- That a log shows runs of the given commands only. -/
def OnlyRuns (commands : List Text → Prop) (log : List Event) : Prop :=
  ∀ command outcome, .ran command outcome ∈ log → commands command

theorem OnlyRuns.concat {commands : List Text → Prop} {log : List Event}
    (h : OnlyRuns commands log) {event : Event}
    (hevent : ∀ command outcome, event = .ran command outcome → commands command) :
    OnlyRuns commands (log ++ [event]) := by
  intro command outcome hran
  rcases List.mem_append.mp hran with hbefore | hlast
  · exact h command outcome hbefore
  · exact hevent command outcome (List.mem_singleton.mp hlast).symm

/-- That the world beside a log is the given one, and the log shows runs of the given commands
only. -/
def HasRunOnly (commands : List Text → Prop) (world : σ) (state : σ × List Event) : Prop :=
  state.1 = world ∧ OnlyRuns commands state.2

/-- A host agrees with itself when it is logged, and the log shows no other commands than those that
have been agreed on. -/
theorem Host.agree_logged (host : Host σ) (commands : List Text → Prop) :
    Host.Agree commands (HasRunOnly commands) host host.logged where
  isFile path := by
    rintro world ⟨_, log⟩ ⟨rfl, hlog⟩
    exact ⟨.refl _, rfl, hlog.concat fun command outcome heq => nomatch heq⟩
  isDirectory path := by
    rintro world ⟨_, log⟩ ⟨rfl, hlog⟩
    exact ⟨.refl _, rfl, hlog.concat fun command outcome heq => nomatch heq⟩
  resolve path := by
    rintro world ⟨_, log⟩ ⟨rfl, hlog⟩
    exact ⟨.refl _, rfl, hlog⟩
  inspect path := by
    rintro world ⟨_, log⟩ ⟨rfl, hlog⟩
    exact ⟨.refl _, rfl, hlog⟩
  run limit command hcommand := by
    rintro world ⟨_, log⟩ ⟨rfl, hlog⟩
    refine ⟨?_, rfl, hlog.concat fun other outcome heq => ?_⟩
    · exact (Matching.refl _).mono fun result _ hresult => hresult ▸ ⟨rfl, rfl, fun _ => rfl⟩
    · cases heq
      exact hcommand

/-! ## Analyses -/

/-- Whether a part is dumped. The imports always are. -/
def Parts.Wants (parts : Parts) : Dump → Prop
  | .exports => parts.exports = true
  | .imports => True
  | .dependents => parts.dependents = true
  | .disassembly => parts.disassemble = true

/-- That the dumper may be asked by these arguments when the binary at a path is analysed: for a
part that is wanted, of the binary that the path resolves to. -/
def Parts.Passes (parts : Parts) (host : Host σ) (path : Text) (arguments : List Text) : Prop :=
  ∃ part resolved, parts.Wants part ∧ host.MayResolve path resolved ∧
    arguments = [part.option, resolved]

namespace Analysis

section Agreeing

variable {start : Invoker} {R : σ → τ → Prop} {host : Host σ} {host' : Host τ} {parts : Parts}
  {path : Text} (h : Host.Agree (start.MayIssue (parts.Passes host path)) R host host')

include h

/-- A part that is dumped if it is wanted is dumped alike. -/
theorem dumpIf_alike {wanted : Bool} {part : Dump} (hwanted : wanted = true → parts.Wants part)
    {resolved : Text} (hresolved : host.MayResolve path resolved) :
    Alike (start.Side R) Eq (dumpIf host wanted part resolved)
      (dumpIf host' wanted part resolved) := by
  cases wanted with
  | false => exact .pure rfl
  | true =>
      have hpassed : parts.Passes host path [part.option, resolved] :=
        ⟨part, resolved, hwanted rfl, hresolved, rfl⟩
      exact (Invoker.run_alike h hpassed).bind_eq fun lines => .pure rfl

/-- The analysis of a binary that the path resolves to comes to the same. -/
theorem ofBinary_alike {file : FilePath} (hfile : host.MayResolve path file.fullName) :
    Alike (start.Side R) Eq (ofBinary host parts file) (ofBinary host' parts file) := by
  have himports : parts.Passes host path [Dump.imports.option, file.fullName] :=
    ⟨.imports, file.fullName, trivial, hfile, rfl⟩
  exact (dumpIf_alike h id hfile).bind_eq fun exports =>
    (Invoker.run_alike h himports).bind_eq fun imports =>
    (dumpIf_alike h id hfile).bind_eq fun disassembly =>
    (dumpIf_alike h id hfile).bind_eq fun dependents => .ofAttempt _

theorem ofPath_alike :
    Alike (start.Side R) Eq (ofPath host parts path) (ofPath host' parts path) := by
  refine (Invoker.onHost_alike (target_alike h path)).bind ?_
  rintro binary _ ⟨rfl, hfile⟩
  exact ofBinary_alike h hfile

end Agreeing

end Analysis

/-! ## Reports on calls -/

namespace Tool

/-- The reports that are made from the calls of a binary. -/
def onCalls : List Tool := [extractCallGraph, functionSizes]

/-- The parts that these reports are made from. -/
def callParts : Parts := { exports := false, dependents := false }

theorem call_alike {start : Invoker} {R : σ → τ → Prop} {host : Host σ} {host' : Host τ}
    {path : Text} (h : Host.Agree (start.MayIssue (callParts.Passes host path)) R host host')
    {tool : Tool} (htool : tool ∈ onCalls) :
    Alike (start.Side R) Eq (call host path tool) (call host' path tool) := by
  refine (Invoker.onHost_alike (target_alike h path)).bind ?_
  rintro binary _ ⟨rfl, hfile⟩
  simp only [onCalls, List.mem_cons, List.not_mem_nil, or_false] at htool
  rcases htool with rfl | rfl
  · exact (Analysis.ofBinary_alike h hfile).bind_eq fun a => .pure rfl
  · exact (Analysis.ofBinary_alike h hfile).bind_eq fun a => .pure rfl

/-- Neither the exports nor the dependents of a binary are dumped for a report on its calls. -/
theorem call_onlyRuns (host : Host σ) (start : Invoker) (path : Text) (world : σ) {tool : Tool}
    (htool : tool ∈ onCalls) :
    OnlyRuns (start.MayIssue (callParts.Passes host path))
      ((call host.logged path tool).run.run (start, (world, []))).2.2.2 := by
  have hagree := host.agree_logged (start.MayIssue (callParts.Passes host path))
  have hstart : HasRunOnly (start.MayIssue (callParts.Passes host path)) world (world, []) :=
    ⟨rfl, fun command outcome hran => nomatch hran⟩
  obtain ⟨-, -, -, -, honly⟩ := call_alike hagree htool _ _ (Invoker.side_start start hstart)
  exact honly

end Tool

/-- Different parts are asked for by different options. -/
theorem Dump.option_injective {part other : Dump} (h : part.option = other.option) :
    part = other := by
  revert h
  cases part <;> cases other <;> decide

/-- The second word of a command that may be issued for a report on calls asks for the imports or for
the disassembly. -/
theorem Invoker.MayIssue.option_of_callParts {start : Invoker} {host : Host σ} {path : Text}
    {command : List Text} (h : start.MayIssue (Tool.callParts.Passes host path) command) :
    command[1]? ≠ some Dump.exports.option ∧ command[1]? ≠ some Dump.dependents.option := by
  cases h with
  | locator hunsettled => exact ⟨nofun, nofun⟩
  | dumper hsettled hpassed =>
      obtain ⟨part, resolved, hwanted, -, rfl⟩ := hpassed
      -- an option belongs to one part only, and the part that is asked for is wanted
      have hpart {other : Dump} (hother : ¬ Tool.callParts.Wants other) :
          some part.option ≠ some other.option := by
        intro heq
        rw [Dump.option_injective (Option.some.inj heq)] at hwanted
        exact hother hwanted
      exact ⟨hpart Bool.false_ne_true, hpart Bool.false_ne_true⟩

/-! ## No interference -/

/-- Whatever is said of two hosts that agree on the commands for the parts that are wanted: an
analysis of a binary comes to the same result or failure on both, and so does a report on its calls,
for which exports and dependents are not wanted and never dumped. -/
theorem Analysis.unwanted_parts_unnoticed :
    (∀ {σ τ : Type} {R : σ → τ → Prop} {host : Host σ} {host' : Host τ} (start : Invoker)
      (parts : Parts) (path : Text),
      Host.Agree (start.MayIssue (parts.Passes host path)) R host host' →
      ∀ world world', R world world' →
        ((ofPath host parts path).run.run (start, world)).1
          = ((ofPath host' parts path).run.run (start, world')).1) ∧
    (∀ {σ τ : Type} {R : σ → τ → Prop} {host : Host σ} {host' : Host τ} (start : Invoker)
      (path : Text), ∀ tool ∈ Tool.onCalls,
      Host.Agree (start.MayIssue (Tool.callParts.Passes host path)) R host host' →
      ∀ world world', R world world' →
        ((Tool.call host path tool).run.run (start, world)).1
          = ((Tool.call host' path tool).run.run (start, world')).1) ∧
    (∀ {σ : Type} (host : Host σ) (start : Invoker) (path : Text) (world : σ),
      ∀ tool ∈ Tool.onCalls,
      OnlyRuns (fun command => command[1]? ≠ some Dump.exports.option ∧
          command[1]? ≠ some Dump.dependents.option)
        ((Tool.call host.logged path tool).run.run (start, (world, []))).2.2.2) := by
  refine ⟨?analyses, ?reports, ?commands⟩
  case analyses =>
    intro σ τ R host host' start parts path hagree world world' hworld
    exact (ofPath_alike hagree _ _ (Invoker.side_start start hworld)).1.eq
  case reports =>
    intro σ τ R host host' start path tool htool hagree world world' hworld
    exact (Tool.call_alike hagree htool _ _ (Invoker.side_start start hworld)).1.eq
  case commands =>
    intro σ host start path world tool htool command outcome hran
    exact (Tool.call_onlyRuns host start path world htool command outcome hran).option_of_callParts

/-- A host with an empty file at every path, where programs answer to their commands alone. -/
def Host.answering (answer : List Text → ProcessResult) : Host Unit where
  isFile _ := return true
  isDirectory _ := return false
  isPresent _ := return true
  resolve path := return .ok path
  inspect _ := return .ok (.regular (Content.ofBytes []))
  run _ command := return .ok (answer command)

/-- A dumper that knows one function and nothing else. -/
def quietDumper (command : List Text) : ProcessResult where
  lines :=
    if command[1]? = some Dump.disassembly.option then
      ["Dump of file a.dll".toList, "File Type: DLL".toList, "f:".toList,
        "  0000000180001000: C3                 ret".toList]
    else []
  exitStatus := 0
  errorLines := []

/-- The same dumper, which warns with each dump and fails on exports and dependents. -/
def noisyDumper (command : List Text) : ProcessResult :=
  if command[1]? = some Dump.exports.option ∨ command[1]? = some Dump.dependents.option then
    ⟨["fatal error".toList], 1, ["access violation".toList]⟩
  else { quietDumper command with errorLines := ["warning".toList] }

/-- Neither the failures nor the warnings of the noisy dumper reach an analysis of calls or a report
on them. -/
theorem Analysis.unwanted_parts_unnoticed_noisyDumper :
    (Invoker.dump (Host.answering noisyDumper) .exports "a.dll".toList).run.run
        (Invoker.new {} "dumpbin.exe".toList, ())
      = (.error (.execution ⟨["dumpbin.exe".toList, "/EXPORTS".toList, "a.dll".toList], 1,
            ["fatal error".toList, "access violation".toList]⟩),
          (Invoker.new {} "dumpbin.exe".toList, ())) ∧
    ((ofPath (Host.answering quietDumper) Tool.callParts "a.dll".toList).run.run
        (Invoker.new {} "dumpbin.exe".toList, ())).1
      = ((ofPath (Host.answering noisyDumper) Tool.callParts "a.dll".toList).run.run
        (Invoker.new {} "dumpbin.exe".toList, ())).1 ∧
    ((Tool.call (Host.answering quietDumper) "a.dll".toList .functionSizes).run.run
        (Invoker.new {} "dumpbin.exe".toList, ())).1
      = ((Tool.call (Host.answering noisyDumper) "a.dll".toList .functionSizes).run.run
        (Invoker.new {} "dumpbin.exe".toList, ())).1 := by
  have hagree : Host.Agree ((Invoker.new {} "dumpbin.exe".toList).MayIssue
      (Tool.callParts.Passes (Host.answering quietDumper) "a.dll".toList)) (fun _ _ => True)
      (Host.answering quietDumper) (Host.answering noisyDumper) := by
    refine ⟨fun _ _ _ _ => ⟨.refl _, trivial⟩, fun _ _ _ _ => ⟨.refl _, trivial⟩,
      fun _ _ _ _ => ⟨.refl _, trivial⟩, fun _ _ _ _ => ⟨.refl _, trivial⟩,
      fun limit command hcommand _ _ _ => ⟨.ok ?_, trivial⟩⟩
    have hquiet : noisyDumper command
        = { quietDumper command with errorLines := ["warning".toList] } :=
      if_neg (not_or.mpr hcommand.option_of_callParts)
    rw [hquiet]
    exact ⟨rfl, rfl, fun hstatus => absurd rfl hstatus⟩
  obtain ⟨hanalyses, hreports, -⟩ := unwanted_parts_unnoticed
  exact ⟨rfl, hanalyses _ _ _ hagree () () trivial,
    hreports _ _ _ (by decide) hagree () () trivial⟩

end SymbolAtlas
