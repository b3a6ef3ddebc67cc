/-
# SymbolAtlas.Proofs.Invoker.Settled — a settled dumper that answers to its commands alone

Where the path of the dumper is settled and leads to a file, where the binary at a path is always the
same, and where the outcome of a command depends on the command alone, the world does not matter: a
session has one outcome, and leaves the invoker as it is. `Yields` says so, and its rules turn a
session into a computation without effects.
-/
import SymbolAtlas.Proofs.Invoker.Trace
import SymbolAtlas.Report.Tool

namespace SymbolAtlas

variable {σ α β : Type}

namespace Invoker

/-- That a session with this invoker has the same outcome in every world, and keeps the invoker. -/
def Yields (i : Invoker) (session : Session σ α) (outcome : Attempt α) : Prop :=
  ∀ world, ∃ next, session.run.run (i, world) = (outcome, (i, next))

namespace Yields

variable {i : Invoker} {session : Session σ α} {rest : α → Session σ β}

theorem outcome {result : Attempt α} (h : i.Yields session result) (world : σ) :
    (session.run.run (i, world)).1 = result := by
  obtain ⟨next, hrun⟩ := h world
  rw [hrun]

theorem pure (i : Invoker) (result : α) : i.Yields (pure result : Session σ α) (.ok result) :=
  fun world => ⟨world, rfl⟩

theorem throw (i : Invoker) (failure : Failure) :
    i.Yields (throw failure : Session σ α) (.error failure) :=
  fun world => ⟨world, rfl⟩

theorem ofAttempt (i : Invoker) (result : Attempt α) :
    i.Yields (ExceptT.mk (Pure.pure result) : Session σ α) result :=
  fun world => ⟨world, rfl⟩

theorem invoker (i : Invoker) : i.Yields (Session.invoker : Session σ Invoker) (.ok i) :=
  fun world => ⟨world, rfl⟩

/-- A step on the host yields what it gives in all worlds. -/
theorem onHost {step : Step σ α} {result : Attempt α}
    (h : ∀ world, (step.run.run world).1 = result) (i : Invoker) :
    i.Yields (Session.onHost step) result :=
  fun world => ⟨(step.run.run world).2, by rw [Session.run_onHost, h]⟩

/-- After a session that yields a result, the next one goes on with it. -/
theorem bind_ok {value : α} {result : Attempt β} (h : i.Yields session (.ok value))
    (hrest : i.Yields (rest value) result) : i.Yields (session >>= rest) result := by
  intro world
  obtain ⟨next, hrun⟩ := h world
  obtain ⟨last, hlast⟩ := hrest next
  exact ⟨last, (Step.run_bind_ok hrun rest).trans hlast⟩

theorem bind_error {failure : Failure} (h : i.Yields session (.error failure)) :
    i.Yields (session >>= rest) (.error failure) := by
  intro world
  obtain ⟨next, hrun⟩ := h world
  exact ⟨next, Step.run_bind_error hrun rest⟩

/-- What is made of a result is made of what is yielded. -/
theorem map {result : Attempt α} (h : i.Yields session result) (f : α → β) :
    i.Yields (do return f (← session)) (result.map f) := by
  cases result with
  | ok value => exact h.bind_ok (.pure i (f value))
  | error failure => exact h.bind_error

/-- What two sessions in a row yield is the computation of what each of them yields. -/
theorem bind {first : Attempt α} {later : α → Attempt β} (h : i.Yields session first)
    (hrest : ∀ value, i.Yields (rest value) (later value)) :
    i.Yields (session >>= rest) (first >>= later) := by
  cases first with
  | ok value => exact h.bind_ok (hrest value)
  | error failure => exact h.bind_error

end Yields

end Invoker

/-! ## The answers of a host -/

/-- A run gives lines exactly if its command ended with status 0. -/
theorem Invoker.answerTo_eq_ok {command : List Text} {outcome : Attempt ProcessResult}
    {lines : List Text} : answerTo command outcome = .ok lines
      ↔ ∃ result, outcome = .ok result ∧ result.exitStatus = 0 ∧ result.lines = lines := by
  cases outcome with
  | error failure => simp [answerTo]
  | ok result => by_cases hstatus : result.exitStatus = 0 <;> simp [answerTo, hstatus]

/-- A run fails exactly if its command was not answered, or ended with another status. -/
theorem Invoker.answerTo_eq_error {command : List Text} {outcome : Attempt ProcessResult}
    {failure : Failure} : answerTo command outcome = .error failure
      ↔ outcome = .error failure ∨ ∃ result, outcome = .ok result ∧ result.exitStatus ≠ 0 ∧
        failure
          = .execution ⟨command, result.exitStatus, result.lines ++ result.errorLines⟩ := by
  cases outcome with
  | error other => simp [answerTo]
  | ok result =>
      by_cases hstatus : result.exitStatus = 0
      · simp [answerTo, hstatus]
      · simp [answerTo, hstatus, eq_comm]

/-- That the dumper of an invoker is at hand, that the binary at a path is always this one, and that
the outcome of every command depends on the command alone. -/
structure Host.Answers (host : Host σ) (i : Invoker) (path : Text) (binary : Target)
    (answer : List Text → Attempt ProcessResult) : Prop where
  settled : i.exePath ≠ []
  marked : Text.occursIn Invoker.mark i.exePath.lower = true
  present : ∀ world, ((host.isFile i.exePath).run world).1 = true
  found : ∀ world, ((target host path).run.run world).1 = .ok binary
  outcome : ∀ limit command world, ((host.run limit command).run world).1 = answer command

/-- The command that asks the dumper for a part of a binary. -/
def Invoker.command (i : Invoker) (binary : Target) (part : Dump) : List Text :=
  [i.exePath, part.option, binary.file.fullName]

/-- The lines that the command for a part gives, or its failure. -/
def Dump.linesOf (command : Dump → List Text) (answer : List Text → Attempt ProcessResult)
    (part : Dump) : Attempt (List Text) :=
  Invoker.answerTo (command part) (answer (command part))

namespace Host.Answers

variable {host : Host σ} {i : Invoker} {path : Text} {binary : Target}
  {answer : List Text → Attempt ProcessResult} (h : host.Answers i path binary answer)

include h

theorem target_yields : i.Yields (Session.onHost (target host path)) (.ok binary) :=
  .onHost h.found i

/-- The settled path is given out. -/
theorem ensureExePath_yields : i.Yields (Invoker.ensureExePath host) (.ok i.exePath) := by
  obtain ⟨settings, exePath⟩ := i
  have hpresent (world : σ) : ((Step.ask (host.isFile exePath)).run.run world).1 = .ok true :=
    congrArg Except.ok (h.present world)
  have hfile : Invoker.Yields ⟨settings, exePath⟩
      (Session.onHost (Step.ask (host.isFile exePath))) (.ok true) := .onHost hpresent _
  have hconfirm : Invoker.Yields ⟨settings, exePath⟩ (Invoker.confirm host) (.ok exePath) :=
    (Invoker.Yields.invoker _).bind_ok (hfile.bind_ok (.pure _ _))
  refine (Invoker.Yields.invoker _).bind_ok ?_
  cases exePath with
  | nil => exact absurd rfl h.settled
  | cons c rest =>
      -- a path with the mark is not sought, only seen to
      have hmarked : Text.occursIn Invoker.mark (Text.lower (c :: rest)) = true := h.marked
      simp only [List.isEmpty_cons, hmarked, Bool.false_eq_true, if_false, Bool.not_true]
      exact hconfirm

/-- A dump yields what is made of the outcome of its command. -/
theorem dump_yields (part : Dump) :
    i.Yields (Invoker.dump host part binary.file.fullName)
      (Dump.linesOf (i.command binary) answer part) := by
  have hran : i.Yields (Session.onHost (ExceptT.mk (host.run (some i.limit)
      (i.command binary part)))) (answer (i.command binary part)) :=
    .onHost (h.outcome _ _) i
  refine h.ensureExePath_yields.bind_ok ((Invoker.Yields.invoker i).bind_ok ?_)
  rw [Dump.linesOf]
  cases houtcome : answer (i.command binary part) with
  | error failure =>
      rw [houtcome] at hran
      exact hran.bind_error
  | ok result =>
      rw [houtcome] at hran
      refine hran.bind_ok ?_
      by_cases hstatus : result.exitStatus = 0
      · simp only [Invoker.answerTo, hstatus, if_true]
        exact .pure i _
      · simp only [Invoker.answerTo, hstatus, if_false]
        exact .throw i _

end Host.Answers

end SymbolAtlas
