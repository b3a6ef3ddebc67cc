/-
# SymbolAtlas.Proofs.Invoker.Trace — what the search for the dumper and a run ask of the system

A host can be made to keep a log of what it was asked and what it answered. A program does the same
on such a host as on the host itself, so the log tells what the program did. For the search of an
installation, for settling the path of the dumper and for a run of it, a relation lists all that
can have happened, one case for each way in which the program ends.
-/
import SymbolAtlas.Proofs.Session

namespace SymbolAtlas

variable {σ τ α β : Type}

/-! ## Hosts with a log -/

/-- What the system was asked, with its answer. -/
inductive Event
  | isFile (path : Text) (answer : Bool)
  | isDirectory (path : Text) (answer : Bool)
  | ran (command : List Text) (outcome : Attempt ProcessResult)

/-- A question whose answer is entered in the log. -/
def entered (event : α → Event) (question : StateM σ α) : StateM (σ × List Event) α :=
  fun (world, log) =>
    let (answer, next) := question.run world
    (answer, (next, log ++ [event answer]))

/-- A question that leaves the log as it is. -/
def unentered (question : StateM σ α) : StateM (σ × List Event) α :=
  fun (world, log) =>
    let (answer, next) := question.run world
    (answer, (next, log))

/-- The host with a log of the questions that an invoker asks. -/
def Host.logged (host : Host σ) : Host (σ × List Event) where
  isFile path := entered (.isFile path) (host.isFile path)
  isDirectory path := entered (.isDirectory path) (host.isDirectory path)
  isPresent path := unentered (host.isPresent path)
  resolve path := unentered (host.resolve path)
  inspect path := unentered (host.inspect path)
  run limit command := entered (.ran command) (host.run limit command)

/-- The state of a session with a log beside its world. -/
def Session.withLog (state : Invoker × σ) (log : List Event) : Invoker × (σ × List Event) :=
  (state.1, (state.2, log))

/-- That a program ends with a result and a next state, with and without a log, and that the log
grows by the given events. `enter` puts a log beside a state. -/
structure Logs (enter : σ → List Event → τ) (program : Step σ α) (program' : Step τ α) (state : σ)
    (result : Attempt α) (next : σ) (events : List Event) : Prop where
  plain : program.run.run state = (result, next)
  logged : ∀ log, program'.run.run (enter state log) = (result, enter next (log ++ events))

namespace Logs

variable {enter : σ → List Event → τ}

theorem pure (result : α) (state : σ) :
    Logs enter (pure result) (pure result) state (.ok result) state [] :=
  ⟨rfl, fun log => by rw [List.append_nil]; rfl⟩

theorem throw (failure : Failure) (state : σ) :
    Logs enter (throw failure : Step σ α) (throw failure) state (.error failure) state [] :=
  ⟨rfl, fun log => by rw [List.append_nil]; rfl⟩

section Sequence

variable {program : Step σ α} {program' : Step τ α} {rest : α → Step σ β} {rest' : α → Step τ β}
  {state next : σ} {events : List Event}

/-- What happens in the first program is followed by what happens in the second one. -/
theorem bind {value : α} {result : Attempt β} {last : σ} {others : List Event}
    (h : Logs enter program program' state (.ok value) next events)
    (hrest : Logs enter (rest value) (rest' value) next result last others) :
    Logs enter (program >>= rest) (program' >>= rest') state result last (events ++ others) where
  plain := (Step.run_bind_ok h.plain rest).trans hrest.plain
  logged log := by
    rw [← List.append_assoc]
    exact (Step.run_bind_ok (h.logged log) rest').trans (hrest.logged _)

/-- After a failure nothing happens. -/
theorem bind_error {failure : Failure}
    (h : Logs enter program program' state (.error failure) next events) :
    Logs enter (program >>= rest) (program' >>= rest') state (.error failure) next events :=
  ⟨Step.run_bind_error h.plain rest, fun log => Step.run_bind_error (h.logged log) rest'⟩

/-- What is made of a result happens without a trace. -/
theorem map {result : Attempt α} (h : Logs enter program program' state result next events)
    (f : α → β) :
    Logs enter (do return f (← program)) (do return f (← program')) state (result.map f) next
      events := by
  cases result with
  | error failure => exact h.bind_error
  | ok value =>
      rw [← List.append_nil events]
      exact h.bind (Logs.pure (f value) next)

end Sequence

theorem isFile (host : Host σ) (path : Text) (world : σ) :
    ∃ answer next, Logs Prod.mk (Step.ask (host.isFile path)) (Step.ask (host.logged.isFile path))
      world (.ok answer) next [.isFile path answer] :=
  ⟨_, _, rfl, fun _ => rfl⟩

theorem isDirectory (host : Host σ) (path : Text) (world : σ) :
    ∃ answer next, Logs Prod.mk (Step.ask (host.isDirectory path))
      (Step.ask (host.logged.isDirectory path)) world (.ok answer) next
      [.isDirectory path answer] :=
  ⟨_, _, rfl, fun _ => rfl⟩

theorem ran (host : Host σ) (limit : Option TimeLimit) (command : List Text) (world : σ) :
    ∃ outcome next, Logs Prod.mk (ExceptT.mk (host.run limit command))
      (ExceptT.mk (host.logged.run limit command)) world outcome next [.ran command outcome] :=
  ⟨_, _, rfl, fun _ => rfl⟩

theorem invoker (state : Invoker × σ) :
    Logs Session.withLog Session.invoker Session.invoker state (.ok state.1) state [] :=
  ⟨rfl, fun log => by rw [List.append_nil]; rfl⟩

theorem settle (exePath : Text) (state : Invoker × σ) :
    Logs Session.withLog (Session.settle exePath) (Session.settle exePath) state (.ok ())
      ({ state.1 with exePath := exePath }, state.2) [] :=
  ⟨rfl, fun log => by rw [List.append_nil]; rfl⟩

/-- A step on the host alone leaves the invoker as it is. -/
theorem onHost {step : Step σ α} {step' : Step (σ × List Event) α} {world next : σ}
    {result : Attempt α} {events : List Event}
    (h : Logs Prod.mk step step' world result next events) (i : Invoker) :
    Logs Session.withLog (Session.onHost step) (Session.onHost step') (i, world) result (i, next)
      events where
  plain := by rw [Session.run_onHost, h.plain]
  logged log := by
    rw [Session.withLog, Session.run_onHost, h.logged log]
    rfl

end Logs

/-! ## The locator -/

namespace Installation

/-- The ways in which the search for an installation ends. -/
inductive Search (locator : Text) : List Event → Attempt Text → Prop
  | noLocator : Search locator [.isFile locator false] (.error (.missingTool (.locator locator)))
  | failed (failure : Failure) :
      Search locator [.isFile locator true, .ran [locator] (.error failure)] (.error failure)
  | unreported (result : ProcessResult) (reported : reported? result.lines = none) :
      Search locator [.isFile locator true, .ran [locator] (.ok result)]
        (.error (.missingTool .unreported))
  | gone (result : ProcessResult) (path : Text) (reported : reported? result.lines = some path) :
      Search locator
        [.isFile locator true, .ran [locator] (.ok result), .isDirectory path false]
        (.error (.missingTool (.installation path)))
  | found (result : ProcessResult) (path : Text) (reported : reported? result.lines = some path) :
      Search locator
        [.isFile locator true, .ran [locator] (.ok result), .isDirectory path true] (.ok path)

/-- A search ends in one of these ways. -/
theorem find_logs (host : Host σ) (limit : Option TimeLimit) (locator : Text) (world : σ) :
    ∃ result next events,
      Logs Prod.mk (find host limit locator) (find host.logged limit locator) world result next
        events ∧ Search locator events result := by
  -- up to three questions are asked, and each answer but the last affirmative one ends the search
  obtain ⟨present, checked, hfile⟩ := Logs.isFile host locator world
  cases present with
  | false => exact ⟨_, _, _, hfile.bind (Logs.throw _ _), .noLocator⟩
  | true =>
      obtain ⟨outcome, ended, hran⟩ := Logs.ran host limit [locator] checked
      cases outcome with
      | error failure => exact ⟨_, _, _, hfile.bind hran.bind_error, .failed failure⟩
      | ok result =>
          cases hreported : reported? result.lines with
          | none =>
              refine ⟨_, ended, _, hfile.bind (hran.bind ?_), .unreported result hreported⟩
              simp only [hreported]
              exact Logs.throw _ _
          | some path =>
              obtain ⟨existing, last, hdirectory⟩ := Logs.isDirectory host path ended
              cases existing with
              | false =>
                  refine ⟨_, last, _, hfile.bind (hran.bind ?_), .gone result path hreported⟩
                  simp only [hreported]
                  exact hdirectory.bind (Logs.throw _ _)
              | true =>
                  refine ⟨_, last, _, hfile.bind (hran.bind ?_), .found result path hreported⟩
                  simp only [hreported]
                  exact hdirectory.bind (Logs.pure _ _)

end Installation

/-! ## The dumper -/

namespace Invoker

/-- The outcome of the check that a path leads to a file. -/
def checked (path : Text) (answer : Bool) : Attempt Text :=
  if answer then .ok path else .error (.missingTool (.dumper path))

/-- The ways in which settling the path of the dumper ends, with the path before and after. -/
inductive Ensuring (settings : Settings) : (before after : Text) → List Event → Attempt Text → Prop
  /-- The path is not settled, and no installation is found. -/
  | undiscovered {events : List Event} {failure : Failure}
      (search : Installation.Search settings.vswherePath events (.error failure)) :
      Ensuring settings [] [] events (.error failure)
  /-- The path is not settled, and it is now. -/
  | discovered {events : List Event} {installation : Text}
      (search : Installation.Search settings.vswherePath events (.ok installation))
      (answer : Bool) :
      Ensuring settings [] (settings.dumpbinUnder installation)
        (events ++ [.isFile (settings.dumpbinUnder installation) answer])
        (checked (settings.dumpbinUnder installation) answer)
  /-- The path is settled and cannot be that of a dumper. -/
  | misnamed {path : Text} (settled : path ≠ []) (marked : Text.occursIn mark path.lower = false) :
      Ensuring settings path path [] (.error (.missingTool (.misnamed path)))
  /-- The path is settled and looks like that of a dumper. -/
  | settled {path : Text} (settled : path ≠ []) (marked : Text.occursIn mark path.lower = true)
      (answer : Bool) : Ensuring settings path path [.isFile path answer] (checked path answer)

/-- The end of settling a path: the check that it leads to a file. -/
def confirm (host : Host σ) : Session σ Text := do
  let exePath := (← Session.invoker).exePath
  if ← Session.onHost (Step.ask (host.isFile exePath)) then return exePath
  throw (.missingTool (.dumper exePath))

theorem confirm_logs (host : Host σ) (i : Invoker) (world : σ) :
    ∃ answer next, Logs Session.withLog (confirm host) (confirm host.logged) (i, world)
      (checked i.exePath answer) (i, next) [.isFile i.exePath answer] := by
  obtain ⟨answer, next, hfile⟩ := Logs.isFile host i.exePath world
  refine ⟨answer, next, (Logs.invoker (i, world)).bind ((hfile.onHost i).bind ?_)⟩
  cases answer with
  | false => exact Logs.throw _ _
  | true => exact Logs.pure _ _

/-- Settling a path ends in one of these ways. -/
theorem ensureExePath_logs (host : Host σ) (i : Invoker) (world : σ) :
    ∃ result path next events, Logs Session.withLog (ensureExePath host) (ensureExePath host.logged)
      (i, world) result ({ i with exePath := path }, next) events ∧
      Ensuring i.settings i.exePath path events result := by
  obtain ⟨settings, path⟩ := i
  cases path with
  | nil =>
      obtain ⟨found, searched, events, hfind, hsearch⟩ := Installation.find_logs host
        (some (limit ⟨settings, []⟩)) settings.vswherePath world
      have hinvoker := Logs.invoker (Invoker.mk settings [], world)
      cases found with
      | error failure =>
          exact ⟨_, [], searched, _, hinvoker.bind ((hfind.onHost _).bind_error),
            .undiscovered hsearch⟩
      | ok installation =>
          -- the path is settled before it is checked, so it stays settled if the check fails
          obtain ⟨answer, next, hconfirm⟩ :=
            confirm_logs host ⟨settings, settings.dumpbinUnder installation⟩ searched
          exact ⟨_, _, next, _,
            hinvoker.bind ((hfind.onHost _).bind ((Logs.settle _ _).bind hconfirm)),
            .discovered hsearch answer⟩
  | cons c rest =>
      have hne : c :: rest ≠ [] := List.cons_ne_nil c rest
      have hinvoker := Logs.invoker (Invoker.mk settings (c :: rest), world)
      cases hmark : Text.occursIn mark (Text.lower (c :: rest)) with
      | false =>
          refine ⟨_, _, world, _, hinvoker.bind ?_, .misnamed hne hmark⟩
          simp only [List.isEmpty_cons, hmark, Bool.false_eq_true, if_false, Bool.not_false, if_true]
          exact (Logs.throw _ _).bind_error
      | true =>
          obtain ⟨answer, next, hconfirm⟩ := confirm_logs host ⟨settings, c :: rest⟩ world
          refine ⟨_, _, next, _, hinvoker.bind ?_, .settled hne hmark answer⟩
          simp only [List.isEmpty_cons, hmark, Bool.false_eq_true, if_false, Bool.not_true]
          exact hconfirm

/-- What a run makes of the outcome of its command. -/
def answerTo (command : List Text) : Attempt ProcessResult → Attempt (List Text)
  | .error failure => .error failure
  | .ok result =>
    if result.exitStatus = 0 then .ok result.lines
    else .error (.execution ⟨command, result.exitStatus, result.lines ++ result.errorLines⟩)

/-- The ways in which a run of the dumper ends, with the path before and after. -/
inductive Running (settings : Settings) :
    (arguments : List Text) → (before after : Text) → List Event → Attempt (List Text) → Prop
  /-- Nothing was to be asked of the dumper. -/
  | noArguments {path : Text} : Running settings [] path path [] (.error .noArguments)
  /-- The dumper is not ready. -/
  | unready {arguments : List Text} {before after : Text} {events : List Event} {failure : Failure}
      (asked : arguments ≠ [])
      (ensuring : Ensuring settings before after events (.error failure)) :
      Running settings arguments before after events (.error failure)
  /-- The dumper was run. -/
  | ran {arguments : List Text} {before after exePath : Text} {events : List Event}
      (asked : arguments ≠ []) (ensuring : Ensuring settings before after events (.ok exePath))
      (outcome : Attempt ProcessResult) :
      Running settings arguments before after (events ++ [.ran (exePath :: arguments) outcome])
        (answerTo (exePath :: arguments) outcome)

/-- A run ends in one of these ways. -/
theorem run_logs (host : Host σ) (arguments : List Text) (i : Invoker) (world : σ) :
    ∃ result path next events, Logs Session.withLog (run host arguments) (run host.logged arguments)
      (i, world) result ({ i with exePath := path }, next) events ∧
      Running i.settings arguments i.exePath path events result := by
  cases arguments with
  | nil => exact ⟨_, i.exePath, world, _, (Logs.throw _ _).bind_error, .noArguments⟩
  | cons first others =>
      have hasked : first :: others ≠ [] := List.cons_ne_nil first others
      obtain ⟨ensured, path, next, events, hensure, hensuring⟩ := ensureExePath_logs host i world
      cases ensured with
      | error failure => exact ⟨_, path, next, _, hensure.bind_error, .unready hasked hensuring⟩
      | ok exePath =>
          have hinvoker := Logs.invoker (({ i with exePath := path } : Invoker), next)
          obtain ⟨outcome, ended, hran⟩ := Logs.ran host (some (limit { i with exePath := path }))
            (exePath :: first :: others) next
          refine ⟨_, path, ended, _, hensure.bind (hinvoker.bind ?_), .ran hasked hensuring outcome⟩
          cases outcome with
          | error failure => exact (hran.onHost _).bind_error
          | ok result =>
              by_cases hstatus : result.exitStatus = 0
              · refine (hran.onHost _).bind ?_
                simp only [answerTo, hstatus, if_true]
                exact Logs.pure _ _
              · refine (hran.onHost _).bind ?_
                simp only [answerTo, hstatus, if_false]
                exact Logs.throw _ _

end Invoker

end SymbolAtlas
