/-
# SymbolAtlas.Proofs.Invoker.Alike — two hosts that an invoker cannot tell apart

Programs on two hosts are alike if, from related worlds, they come to corresponding outcomes and to
related worlds. The rules for running programs one after the other carry this from the questions that
a host is asked to whole sessions. Two runs of a command correspond already if they differ in the
diagnostics of a success only, and commands that are never issued need not correspond at all; so an
invoker comes to the same on two hosts that agree on the commands that it may issue.
-/
import SymbolAtlas.Proofs.Invoker.Trace

namespace SymbolAtlas

variable {σ τ α β γ δ : Type}

/-! ## Programs that are alike -/

/-- How two outcomes correspond: by related results, or by the same failure. -/
inductive Matching (Q : α → β → Prop) : Attempt α → Attempt β → Prop
  | ok {result : α} {result' : β} (related : Q result result') :
      Matching Q (.ok result) (.ok result')
  | error (failure : Failure) : Matching Q (.error failure) (.error failure)

/-- Outcomes that correspond by equal results are equal. -/
theorem Matching.eq {outcome outcome' : Attempt α} (h : Matching Eq outcome outcome') :
    outcome = outcome' := by
  cases h with
  | ok hresult => rw [hresult]
  | error failure => rfl

theorem Matching.refl (outcome : Attempt α) : Matching Eq outcome outcome := by
  cases outcome with
  | ok result => exact .ok rfl
  | error failure => exact .error failure

theorem Matching.mono {Q Q' : α → β → Prop} {outcome : Attempt α} {outcome' : Attempt β}
    (h : Matching Q outcome outcome')
    (hmono : ∀ result result', Q result result' → Q' result result') :
    Matching Q' outcome outcome' := by
  cases h with
  | ok hresult => exact .ok (hmono _ _ hresult)
  | error failure => exact .error failure

/-- That two programs lead from related states to corresponding outcomes and related states. -/
def Alike (R : σ → τ → Prop) (Q : α → β → Prop) (program : Step σ α) (program' : Step τ β) : Prop :=
  ∀ state state', R state state' →
    Matching Q (program.run.run state).1 (program'.run.run state').1 ∧
      R (program.run.run state).2 (program'.run.run state').2

namespace Alike

variable {R : σ → τ → Prop} {Q : α → β → Prop}

theorem pure {result : α} {result' : β} (h : Q result result') :
    Alike R Q (pure result) (pure result') :=
  fun _ _ hstate => ⟨.ok h, hstate⟩

theorem throw (failure : Failure) : Alike R Q (throw failure) (throw failure) :=
  fun _ _ hstate => ⟨.error failure, hstate⟩

/-- A result without effects is alike on all hosts. -/
theorem ofAttempt (outcome : Attempt α) :
    Alike R Eq (ExceptT.mk (Pure.pure outcome)) (ExceptT.mk (Pure.pure outcome)) :=
  fun _ _ hstate => ⟨Matching.refl outcome, hstate⟩

/-- Programs that are alike may be followed by programs that are alike for all related results. -/
theorem bind {Q' : γ → δ → Prop} {program : Step σ α} {program' : Step τ β} {rest : α → Step σ γ}
    {rest' : β → Step τ δ} (h : Alike R Q program program')
    (hrest : ∀ result result', Q result result' → Alike R Q' (rest result) (rest' result')) :
    Alike R Q' (program >>= rest) (program' >>= rest') := by
  intro state state' hstate
  obtain ⟨hmatch, hnext⟩ := h state state' hstate
  generalize hrun : program.run.run state = run at hmatch hnext
  generalize hrun' : program'.run.run state' = run' at hmatch hnext
  obtain ⟨outcome, next⟩ := run
  obtain ⟨outcome', next'⟩ := run'
  cases hmatch with
  | ok hresult =>
      rw [Step.run_bind_ok hrun, Step.run_bind_ok hrun']
      exact hrest _ _ hresult next next' hnext
  | error failure =>
      rw [Step.run_bind_error hrun, Step.run_bind_error hrun']
      exact ⟨.error failure, hnext⟩

/-- Programs that are alike may be followed by programs that are alike for all equal results. -/
theorem bind_eq {Q' : γ → δ → Prop} {program : Step σ α} {program' : Step τ α}
    {rest : α → Step σ γ} {rest' : α → Step τ δ} (h : Alike R Eq program program')
    (hrest : ∀ result, Alike R Q' (rest result) (rest' result)) :
    Alike R Q' (program >>= rest) (program' >>= rest') :=
  h.bind fun result _ hresult => hresult ▸ hrest result

/-- After a failure it does not matter what would follow. -/
theorem throw_bind {Q' : γ → δ → Prop} (failure : Failure) (rest : α → Step σ γ)
    (rest' : β → Step τ δ) : Alike R Q' (MonadExcept.throw failure >>= rest)
      (MonadExcept.throw failure >>= rest') :=
  fun _ _ hstate => ⟨.error failure, hstate⟩

/-- What is related is also a result of the first program. -/
theorem attained {program : Step σ α} {program' : Step τ β} (h : Alike R Q program program') :
    Alike R (fun result result' => Q result result' ∧ ∃ state,
      (program.run.run state).1 = .ok result) program program' := by
  intro state state' hstate
  obtain ⟨hmatch, hnext⟩ := h state state' hstate
  refine ⟨?_, hnext⟩
  generalize houtcome : (program.run.run state).1 = outcome at hmatch
  generalize (program'.run.run state').1 = outcome' at hmatch
  cases hmatch with
  | ok hresult => exact .ok ⟨hresult, state, houtcome⟩
  | error failure => exact .error failure

end Alike

/-! ## Hosts that agree on some commands -/

/-- That two runs of a command differ in the diagnostics of a success at most. -/
structure ProcessResult.Alike (result result' : ProcessResult) : Prop where
  exitStatus : result.exitStatus = result'.exitStatus
  lines : result.lines = result'.lines
  errorLines : result.exitStatus ≠ 0 → result.errorLines = result'.errorLines

/-- That two hosts have the same files and run the given commands alike. Nothing is said about other
commands. -/
structure Host.Agree (commands : List Text → Prop) (R : σ → τ → Prop) (host : Host σ)
    (host' : Host τ) : Prop where
  isFile : ∀ path, Alike R Eq (Step.ask (host.isFile path)) (Step.ask (host'.isFile path))
  isDirectory : ∀ path,
    Alike R Eq (Step.ask (host.isDirectory path)) (Step.ask (host'.isDirectory path))
  resolve : ∀ path, Alike R Eq (Step.askFile (host.resolve path)) (Step.askFile (host'.resolve path))
  inspect : ∀ path, Alike R Eq (Step.askFile (host.inspect path)) (Step.askFile (host'.inspect path))
  run : ∀ limit command, commands command →
    Alike R ProcessResult.Alike (ExceptT.mk (host.run limit command))
      (ExceptT.mk (host'.run limit command))

/-- That a path may be resolved to another one. -/
def Host.MayResolve (host : Host σ) (path resolved : Text) : Prop :=
  ∃ world, ((Step.askFile (host.resolve path)).run.run world).1 = .ok resolved

section Agreeing

variable {commands : List Text → Prop} {R : σ → τ → Prop} {host : Host σ} {host' : Host τ}
  (h : Host.Agree commands R host host')

include h

/-- Both hosts find the same binary, and it lies at a path that the first one resolves to. -/
theorem target_alike (path : Text) :
    Alike R (fun binary binary' => binary = binary' ∧ host.MayResolve path binary.file.fullName)
      (target host path) (target host' path) := by
  have hvalid : Alike R (fun found found' => found = found' ∧ host.MayResolve path found.1)
      (validFile host path) (validFile host' path) := by
    refine (h.resolve path).attained.bind ?_
    rintro resolved _ ⟨rfl, hresolved⟩
    refine (h.inspect resolved).bind_eq fun state => ?_
    cases state with
    | absent => exact .throw _
    | other => exact .throw _
    | regular content =>
        by_cases hsize : content.size > sizeLimit
        · simp only [hsize, if_true]
          exact .throw_bind _ _ _
        · simp only [hsize, if_false]
          exact .pure ⟨rfl, hresolved⟩
  refine hvalid.bind ?_
  -- a file is named by the path that it was resolved to
  rintro ⟨resolved, content⟩ _ ⟨rfl, hresolved⟩
  exact .pure ⟨rfl, hresolved⟩

/-- The search for an installation comes to the same if the locator runs alike. -/
theorem Installation.find_alike (limit : Option TimeLimit) {locator : Text}
    (hlocator : commands [locator]) :
    Alike R Eq (find host limit locator) (find host' limit locator) := by
  refine (h.isFile locator).bind_eq fun answer => ?_
  cases answer with
  | false => exact .throw_bind _ _ _
  | true =>
      refine (h.run limit [locator] hlocator).bind fun result result' hresult => ?_
      rw [hresult.lines]
      cases reported? result'.lines with
      | none => exact .throw _
      | some path =>
          refine (h.isDirectory path).bind_eq fun answer => ?_
          cases answer with
          | false => exact .throw _
          | true => exact .pure rfl

end Agreeing

/-! ## Invokers -/

namespace Invoker

/-- The invokers that an invoker can become: its settings stay as they are, and so does its path if
it is settled. -/
structure MayBecome (start i : Invoker) : Prop where
  settings : i.settings = start.settings
  exePath : start.exePath ≠ [] → i.exePath = start.exePath

/-- The commands that an invoker may issue to pass on some arguments: the locator, as long as its
path is not settled, and a dumper, which is the settled one as soon as there is one. -/
inductive MayIssue (start : Invoker) (arguments : List Text → Prop) : List Text → Prop
  | locator (unsettled : start.exePath = []) : MayIssue start arguments [start.settings.vswherePath]
  | dumper {exePath : Text} {passed : List Text}
      (settled : start.exePath ≠ [] → exePath = start.exePath) (passes : arguments passed) : MayIssue start arguments (exePath :: passed)

/-- That two sessions have the same invoker, which has come from `start`, and related worlds. -/
def Side (start : Invoker) (R : σ → τ → Prop) (state : Invoker × σ) (state' : Invoker × τ) : Prop :=
  state.1 = state'.1 ∧ start.MayBecome state.1 ∧ R state.2 state'.2

variable {start : Invoker} {R : σ → τ → Prop}

theorem side_start (start : Invoker) {world : σ} {world' : τ} (h : R world world') :
    start.Side R (start, world) (start, world') :=
  ⟨rfl, ⟨rfl, fun _ => rfl⟩, h⟩

/-- Steps on hosts that are alike are alike in sessions. -/
theorem onHost_alike {Q : α → β → Prop} {step : Step σ α} {step' : Step τ β}
    (h : Alike R Q step step') :
    Alike (start.Side R) Q (Session.onHost step) (Session.onHost step') := by
  rintro ⟨i, world⟩ ⟨_, world'⟩ ⟨rfl, hbecome, hworld⟩
  obtain ⟨hmatch, hnext⟩ := h world world' hworld
  exact ⟨hmatch, rfl, hbecome, hnext⟩

theorem invoker_alike :
    Alike (start.Side R) (fun i i' => i = i' ∧ start.MayBecome i) Session.invoker
      Session.invoker := by
  rintro ⟨i, world⟩ ⟨_, world'⟩ ⟨rfl, hbecome, hworld⟩
  exact ⟨.ok ⟨rfl, hbecome⟩, rfl, hbecome, hworld⟩

/-- An invoker whose path is not settled may settle it. -/
theorem settle_alike (hunsettled : start.exePath = []) (exePath : Text) :
    Alike (start.Side R) Eq (Session.settle exePath) (Session.settle exePath) := by
  rintro ⟨i, world⟩ ⟨_, world'⟩ ⟨rfl, hbecome, hworld⟩
  exact ⟨.ok rfl, rfl, ⟨hbecome.settings, fun hsettled => absurd hunsettled hsettled⟩, hworld⟩

section Agreeing

variable {arguments : List Text → Prop} {host : Host σ} {host' : Host τ}
  (h : Host.Agree (start.MayIssue arguments) R host host')

include h

/-- Settling the path comes to the same, and to a path that `start` may have come to. -/
theorem ensureExePath_alike :
    Alike (start.Side R) (fun path path' => path = path' ∧
      (start.exePath ≠ [] → path = start.exePath)) (ensureExePath host) (ensureExePath host') := by
  have hconfirm : Alike (start.Side R) (fun path path' => path = path' ∧
      (start.exePath ≠ [] → path = start.exePath)) (confirm host) (confirm host') := by
    refine invoker_alike.bind ?_
    rintro i _ ⟨rfl, hbecome⟩
    refine (onHost_alike (h.isFile i.exePath)).bind_eq fun answer => ?_
    cases answer with
    | false => exact .throw _
    | true => exact .pure ⟨rfl, hbecome.exePath⟩
  refine invoker_alike.bind ?_
  rintro ⟨settings, path⟩ _ ⟨rfl, hbecome⟩
  cases path with
  | nil =>
      -- the path of `start` was not settled either, so the locator may be run
      have hunsettled : start.exePath = [] := by
        by_cases hsettled : start.exePath = []
        · exact hsettled
        · exact absurd (hbecome.exePath hsettled).symm hsettled
      have hlocator : start.MayIssue arguments [settings.vswherePath] := by
        have hsettings : settings = start.settings := hbecome.settings
        rw [hsettings]
        exact .locator hunsettled
      exact (onHost_alike (Installation.find_alike h _ hlocator)).bind_eq fun installation =>
        (settle_alike hunsettled _).bind_eq fun _ => hconfirm
  | cons c rest =>
      cases hmark : Text.occursIn mark (Text.lower (c :: rest)) with
      | false =>
          simp only [List.isEmpty_cons, Bool.false_eq_true, if_false, Bool.not_false, if_true]
          exact .throw_bind _ _ _
      | true =>
          simp only [List.isEmpty_cons, Bool.false_eq_true, if_false, Bool.not_true]
          exact hconfirm

/-- A run with arguments that the hosts agree on comes to the same. -/
theorem run_alike {passed : List Text} (hpassed : arguments passed) :
    Alike (start.Side R) Eq (run host passed) (run host' passed) := by
  cases hempty : passed.isEmpty with
  | true =>
      simp only [run, hempty, if_true]
      exact .throw_bind _ _ _
  | false =>
      simp only [run, hempty, Bool.false_eq_true, if_false]
      refine (ensureExePath_alike h).bind ?_
      rintro exePath _ ⟨rfl, hsettled⟩
      refine invoker_alike.bind ?_
      rintro i _ ⟨rfl, -⟩
      have hcommand : start.MayIssue arguments (exePath :: passed) := .dumper hsettled hpassed
      refine (onHost_alike (h.run _ _ hcommand)).bind fun result result' hresult => ?_
      -- diagnostics are read after a failure only, and then they are the same
      rw [← hresult.exitStatus]
      by_cases hstatus : result.exitStatus = 0
      · simp only [hstatus, if_true, hresult.lines]
        exact .pure rfl
      · simp only [hstatus, if_false, hresult.lines, hresult.errorLines hstatus]
        exact .throw _

end Agreeing

end Invoker

end SymbolAtlas
