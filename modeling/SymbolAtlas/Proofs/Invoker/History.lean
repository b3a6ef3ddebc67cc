/-
# SymbolAtlas.Proofs.Invoker.History — the path of the dumper over the life of an invoker

An invoker is asked for many things in a row, and between any two questions the files and the
programs of the host may change. The history of its calls has an entry for each of them: the path of
the dumper before and after, what the host was asked meanwhile and what it answered, and the reply.
Each entry obeys the rules of `Entry.Lawful`, whatever the host does, and they leave nothing open:
from the path before a call and the answers of the host they fix the events, the reply and the path
after it. That the path is settled at most once and is then trusted for good follows from the rules
alone.
-/
import SymbolAtlas.Proofs.Invoker.Trace
import SymbolAtlas.Proofs.WindowsPath

namespace SymbolAtlas

variable {σ : Type}

/-- The path of a dumper that is discovered has the mark of one: the mark stands in the name of the
file, with which the path ends. -/
theorem Settings.dumpbinUnder_marked (settings : Settings) (installation : Text) :
    Text.occursIn Invoker.mark (settings.dumpbinUnder installation).lower = true := by
  obtain ⟨above, habove⟩ := settings.exists_dumpbinUnder installation
  obtain ⟨lowered, hlowered⟩ :=
    Text.exists_lower_append (by decide : Settings.dumperName.all _ = true) above
  have hname : Invoker.mark <:+: Settings.dumperName := ⟨[], ".exe".toList, rfl⟩
  rw [habove, hlowered, Text.occursIn_iff]
  exact hname.trans (List.suffix_append lowered _).isInfix

/-! ## What the ways of ending have in common -/

namespace Installation.Search

variable {locator : Text} {events : List Event} {result : Attempt Text}

/-- No command but the locator is run. -/
theorem commands (h : Search locator events result) {command : List Text}
    {outcome : Attempt ProcessResult} (hran : .ran command outcome ∈ events) :
    command = [locator] := by
  cases h <;> simp at hran <;> exact hran.1

/-- An installation that was found was reported by the locator, and was there. -/
theorem found_spec {installation : Text} (h : Search locator events (.ok installation)) :
    ∃ output, .ran [locator] (.ok output) ∈ events ∧
      reported? output.lines = some installation ∧ .isDirectory installation true ∈ events := by
  cases h with
  | found output path reported => exact ⟨output, by simp, reported, by simp⟩

end Installation.Search

namespace Invoker.Ensuring

variable {settings : Settings} {before after : Text} {events : List Event} {result : Attempt Text}

/-- Only a path that is not settled changes, and only to the path of the dumper of an installation
that was found. -/
theorem settles (h : Ensuring settings before after events result) (hchange : after ≠ before) :
    before = [] ∧ ∃ output installation, .ran [settings.vswherePath] (.ok output) ∈ events ∧
      Installation.reported? output.lines = some installation ∧
      .isDirectory installation true ∈ events ∧ after = settings.dumpbinUnder installation := by
  cases h with
  | undiscovered search => exact absurd rfl hchange
  | misnamed hne hmark => exact absurd rfl hchange
  | settled hne hmark answer => exact absurd rfl hchange
  | @discovered searched installation search answer =>
      obtain ⟨output, hran, hreported, hdirectory⟩ := search.found_spec
      exact ⟨rfl, output, installation, List.mem_append_left _ hran, hreported,
        List.mem_append_left _ hdirectory, rfl⟩

/-- No command but the locator is run, and that only while the path is not settled. -/
theorem commands (h : Ensuring settings before after events result) {command : List Text}
    {outcome : Attempt ProcessResult} (hran : .ran command outcome ∈ events) :
    command = [settings.vswherePath] ∧ before = [] := by
  cases h with
  | undiscovered search => exact ⟨search.commands hran, rfl⟩
  | discovered search answer =>
      rcases List.mem_append.mp hran with hsearch | hcheck
      · exact ⟨search.commands hsearch, rfl⟩
      · simp at hcheck
  | misnamed hne hmark => cases hran
  | settled hne hmark answer => simp at hran

/-- A path that is given out is the settled one, has the mark of a dumper, and was seen last. -/
theorem given {exePath : Text} (h : Ensuring settings before after events (.ok exePath)) :
    exePath = after ∧ Text.occursIn mark after.lower = true ∧
      ∃ earlier, events = earlier ++ [.isFile after true] := by
  generalize hresult : (Except.ok exePath : Attempt Text) = result at h
  cases h with
  | undiscovered search => cases hresult
  | misnamed hne hmark => cases hresult
  | @discovered searched installation search answer =>
      cases answer with
      | false => cases hresult
      | true =>
          cases hresult
          exact ⟨rfl, settings.dumpbinUnder_marked installation, searched, rfl⟩
  | settled hne hmark answer =>
      cases answer with
      | false => cases hresult
      | true =>
          cases hresult
          exact ⟨rfl, hmark, [], rfl⟩

/-- A settled path with the mark is not rejected by its name: it is kept, and whether it leads to a
file decides. -/
theorem trusted (h : Ensuring settings before after events result) (hsettled : before ≠ [])
    (hmark : Text.occursIn mark before.lower = true) :
    after = before ∧ ∃ answer, events = [.isFile after answer] ∧ result = checked after answer := by
  cases h with
  | undiscovered search => exact absurd rfl hsettled
  | discovered search answer => exact absurd rfl hsettled
  | misnamed hne hunmarked =>
      rw [hmark] at hunmarked
      cases hunmarked
  | settled hne hmark answer => exact ⟨rfl, answer, rfl, rfl⟩

/-- A settled path without the mark is rejected before anything is asked. -/
theorem rejected (h : Ensuring settings before after events result) (hsettled : before ≠ [])
    (hunmarked : Text.occursIn mark before.lower = false) :
    after = before ∧ events = [] ∧ result = .error (.missingTool (.misnamed before)) := by
  cases h with
  | undiscovered search => exact absurd rfl hsettled
  | discovered search answer => exact absurd rfl hsettled
  | misnamed hne hunmarked => exact ⟨rfl, rfl, rfl⟩
  | settled hne hmark answer =>
      rw [hmark] at hunmarked
      cases hunmarked

/-- A path that is not settled is searched for. What is found is kept, and whether it leads to a
file decides. -/
theorem unsettled (h : Ensuring settings before after events result) (hunsettled : before = []) :
    (∃ failure, Installation.Search settings.vswherePath events (.error failure) ∧ after = [] ∧
      result = .error failure) ∨
    ∃ searched installation answer,
      Installation.Search settings.vswherePath searched (.ok installation) ∧
      after = settings.dumpbinUnder installation ∧
      events = searched ++ [.isFile after answer] ∧ result = checked after answer := by
  cases h with
  | undiscovered search => exact .inl ⟨_, search, rfl, rfl⟩
  | discovered search answer => exact .inr ⟨_, _, answer, search, rfl, rfl, rfl⟩
  | misnamed hne hunmarked => exact absurd hunsettled hne
  | settled hne hmark answer => exact absurd hunsettled hne

end Invoker.Ensuring

/-! ## Calls and their rules -/

namespace Invoker

/-- What an invoker can be asked for. -/
inductive Call
  | ensure
  | run (arguments : List Text)
  | dump (part : Dump) (path : Text)

/-- The arguments for the dumper that a call passes on, if it is to run it. -/
def Call.arguments? : Call → Option (List Text)
  | ensure => none
  | run arguments => some arguments
  | dump part path => some [part.option, path]

/-- What an invoker answers: the path of the dumper, or the lines that it printed. -/
inductive Reply
  | path (exePath : Text)
  | lines (lines : List Text)

/-- Makes a call. -/
def Call.perform (host : Host σ) : Call → Session σ Reply
  | ensure => return .path (← ensureExePath host)
  | run arguments => return .lines (← Invoker.run host arguments)
  | dump part path => return .lines (← Invoker.dump host part path)

/-- A call with the path of the dumper before and after it, what the host was asked meanwhile, and
the reply. -/
structure Entry where
  call : Call
  before : Text
  events : List Event
  reply : Attempt Reply
  after : Text

namespace Entry

/-- That a command of a call is a run of the dumper: the path that is settled by now, seen to lead
to a file right before, and the arguments of the call. Its outcome decides on the reply. -/
structure RunsDumper (e : Entry) (command : List Text) (outcome : Attempt ProcessResult) : Prop where
  asked : ∃ arguments, e.call.arguments? = some arguments ∧ arguments ≠ [] ∧
    command = e.after :: arguments
  marked : Text.occursIn mark e.after.lower = true
  seen : ∃ earlier, e.events = earlier ++ [.isFile e.after true, .ran command outcome]
  /-- A run that ends with status 0 gives the lines of its output and nothing else. -/
  success : ∀ result, outcome = .ok result → result.exitStatus = 0 →
    e.reply = .ok (.lines result.lines)
  /-- A run that ends with another status is an error that shows output and diagnostics. -/
  failure : ∀ result, outcome = .ok result → result.exitStatus ≠ 0 → e.reply =
    .error (.execution ⟨command, result.exitStatus, result.lines ++ result.errorLines⟩)
  unanswered : ∀ failure, outcome = .error failure → e.reply = .error failure

/-- The reply to a run of the dumper is its output, an error that shows it, or the failure that the
host answered with. -/
theorem RunsDumper.reply_cases {e : Entry} {command : List Text} {outcome : Attempt ProcessResult}
    (h : e.RunsDumper command outcome) :
    (∃ lines, e.reply = .ok (.lines lines)) ∨ (∃ shown, e.reply = .error (.execution shown)) ∨
      ∃ failure, outcome = .error failure ∧ e.reply = .error failure := by
  cases outcome with
  | error failure => exact .inr (.inr ⟨failure, rfl, h.unanswered failure rfl⟩)
  | ok result =>
      by_cases hstatus : result.exitStatus = 0
      · exact .inl ⟨_, h.success result rfl hstatus⟩
      · exact .inr (.inl ⟨_, h.failure result rfl hstatus⟩)

/-- The reply to a run of the dumper is never a path. -/
theorem RunsDumper.reply_ne_path {e : Entry} {command : List Text}
    {outcome : Attempt ProcessResult} (h : e.RunsDumper command outcome) (exePath : Text) :
    e.reply ≠ .ok (.path exePath) := by
  intro hreply
  rcases h.reply_cases with ⟨lines, hlines⟩ | ⟨shown, hshown⟩ | ⟨failure, -, hfailure⟩
  · cases hlines.symm.trans hreply
  · cases hshown.symm.trans hreply
  · cases hfailure.symm.trans hreply

/-- How a call goes on with a path that is settled: whether the path leads to a file is asked, and
then the dumper is run if that is what the call is for. `earlier` is what the host was asked to
settle the path. -/
inductive GoesOn (earlier : List Event) (e : Entry) : Prop
  /-- The path leads to no file. -/
  | missing (events : e.events = earlier ++ [.isFile e.after false])
      (reply : e.reply = .error (.missingTool (.dumper e.after)))
  /-- Nothing but the path was asked for. -/
  | ensured (call : e.call = .ensure) (events : e.events = earlier ++ [.isFile e.after true])
      (reply : e.reply = .ok (.path e.after))
  /-- The dumper was run, and the outcome decides on the reply. -/
  | ran (command : List Text) (outcome : Attempt ProcessResult) (run : e.RunsDumper command outcome)
      (events : e.events = earlier ++ [.isFile e.after true, .ran command outcome])

/-- The rules that every call obeys. -/
structure Lawful (settings : Settings) (e : Entry) : Prop where
  /-- Only a path that is not settled changes, and only to the path of the dumper of an installation
  that the locator has just reported and that exists. -/
  settles : e.after ≠ e.before → e.before = [] ∧ ∃ output installation,
    .ran [settings.vswherePath] (.ok output) ∈ e.events ∧
      Installation.reported? output.lines = some installation ∧
      .isDirectory installation true ∈ e.events ∧ e.after = settings.dumpbinUnder installation
  /-- A command is the locator, while the path is not settled, or a run of the dumper. -/
  commands : ∀ command outcome, .ran command outcome ∈ e.events →
    (command = [settings.vswherePath] ∧ e.before = []) ∨ e.RunsDumper command outcome
  /-- A settled path with the mark of a dumper passes the check of its name. -/
  trusted : e.before ≠ [] → Text.occursIn mark e.before.lower = true →
    e.call.arguments? ≠ some [] → e.after = e.before ∧ e.GoesOn []
  /-- A settled path without the mark is rejected by its name, and nothing is asked of the host. -/
  rejected : e.before ≠ [] → Text.occursIn mark e.before.lower = false →
    e.call.arguments? ≠ some [] →
    e.after = e.before ∧ e.events = [] ∧ e.reply = .error (.missingTool (.misnamed e.before))
  /-- A path that is not settled is searched for. If nothing is found, the call fails as the search
  does and the path stays unsettled. -/
  unsettled : e.before = [] → e.call.arguments? ≠ some [] →
    (∃ failure, Installation.Search settings.vswherePath e.events (.error failure) ∧
      e.after = [] ∧ e.reply = .error failure) ∨
    ∃ searched installation, Installation.Search settings.vswherePath searched (.ok installation) ∧
      e.after = settings.dumpbinUnder installation ∧ e.GoesOn searched
  /-- A path that is given out is the settled one, has the mark of a dumper, and was seen last. -/
  given : ∀ exePath, e.reply = .ok (.path exePath) → exePath = e.after ∧
    Text.occursIn mark e.after.lower = true ∧ ∃ earlier, e.events = earlier ++ [.isFile e.after true]
  /-- A run without arguments asks nothing of the host. -/
  noArguments : e.call.arguments? = some [] →
    e.events = [] ∧ e.after = e.before ∧ e.reply = .error .noArguments

/-- What a call makes of the path that it is given, or of the failure to settle one. -/
inductive Completes (e : Entry) (events : List Event) : Attempt Text → Prop
  | failed {failure : Failure} (sameEvents : e.events = events)
      (reply : e.reply = .error failure) : Completes e events (.error failure)
  | ensured {exePath : Text} (call : e.call = .ensure) (sameEvents : e.events = events)
      (reply : e.reply = .ok (.path exePath)) : Completes e events (.ok exePath)
  | ran {exePath : Text} {command : List Text} {outcome : Attempt ProcessResult}
      (run : e.RunsDumper command outcome) (oneMore : e.events = events ++ [.ran command outcome]) :
      Completes e events (.ok exePath)

/-- What is made of a path that was checked last is how a call goes on with it. -/
theorem Completes.goesOn {e : Entry} {earlier events : List Event} {answer : Bool}
    (hevents : events = earlier ++ [.isFile e.after answer])
    (h : e.Completes events (checked e.after answer)) : e.GoesOn earlier := by
  subst hevents
  cases answer with
  | false =>
      cases h with
      | failed sameEvents reply => exact .missing sameEvents reply
  | true =>
      cases h with
      | ensured call sameEvents reply => exact .ensured call sameEvents reply
      | ran run oneMore => exact .ran _ _ run (by rw [oneMore, List.append_assoc]; rfl)

/-- The events of settling the path are among those of the call; it adds a run of the dumper at
most. -/
theorem Completes.mem_events {e : Entry} {events : List Event} {result : Attempt Text}
    (h : e.Completes events result) :
    events ⊆ e.events ∧ ∀ command outcome, .ran command outcome ∈ e.events →
      .ran command outcome ∈ events ∨ e.RunsDumper command outcome := by
  cases h with
  | failed sameEvents reply =>
      rw [sameEvents]
      exact ⟨List.Subset.refl _, fun command outcome hran => .inl hran⟩
  | ensured call sameEvents reply =>
      rw [sameEvents]
      exact ⟨List.Subset.refl _, fun command outcome hran => .inl hran⟩
  | ran run oneMore =>
      rw [oneMore]
      refine ⟨List.subset_append_left _ _, fun command outcome hran => ?_⟩
      rcases List.mem_append.mp hran with hensure | hrun
      · exact .inl hensure
      · rw [List.mem_singleton] at hrun
        cases hrun
        exact .inr run

/-- A call that settles the path first obeys the rules. -/
theorem Completes.lawful {settings : Settings} {e : Entry} {events : List Event}
    {result : Attempt Text} (h : e.Completes events result)
    (ensuring : Ensuring settings e.before e.after events result)
    (hasked : e.call.arguments? ≠ some []) : e.Lawful settings where
  settles hchange := by
    obtain ⟨hbefore, output, installation, hran, hreported, hdirectory, hafter⟩ :=
      ensuring.settles hchange
    exact ⟨hbefore, output, installation, h.mem_events.1 hran, hreported,
      h.mem_events.1 hdirectory, hafter⟩
  commands command outcome hran :=
    (h.mem_events.2 command outcome hran).imp ensuring.commands id
  trusted hsettled hmark _ := by
    obtain ⟨hafter, answer, hevents, rfl⟩ := ensuring.trusted hsettled hmark
    exact ⟨hafter, h.goesOn hevents⟩
  rejected hsettled hunmarked _ := by
    obtain ⟨hafter, rfl, rfl⟩ := ensuring.rejected hsettled hunmarked
    cases h with
    | failed sameEvents reply => exact ⟨hafter, sameEvents, reply⟩
  unsettled hunsettled _ := by
    rcases ensuring.unsettled hunsettled with ⟨failure, search, hafter, rfl⟩ |
      ⟨searched, installation, answer, search, hafter, hevents, rfl⟩
    · cases h with
      | failed sameEvents reply =>
          rw [← sameEvents] at search
          exact .inl ⟨failure, search, hafter, reply⟩
    · exact .inr ⟨searched, installation, search, hafter, h.goesOn hevents⟩
  given exePath hreply := by
    cases h with
    | failed sameEvents reply => cases reply.symm.trans hreply
    | ensured call sameEvents reply =>
        cases reply.symm.trans hreply
        rw [sameEvents]
        exact ensuring.given
    | ran run oneMore => exact absurd hreply (run.reply_ne_path exePath)
  noArguments hempty := absurd hempty hasked

/-- With a path that is settled, the reply that a path has the wrong name can only be a failure of
the run that is passed on. -/
theorem GoesOn.misnamed {e : Entry} {earlier : List Event} (h : e.GoesOn earlier) {path : Text}
    (hreply : e.reply = .error (.missingTool (.misnamed path))) :
    ∃ command, e.RunsDumper command (.error (.missingTool (.misnamed path))) := by
  cases h with
  | missing events reply => cases reply.symm.trans hreply
  | ensured call events reply => cases reply.symm.trans hreply
  | ran command outcome run events =>
      rcases run.reply_cases with ⟨lines, hlines⟩ | ⟨shown, hshown⟩ | ⟨failure, rfl, hfailure⟩
      · cases hlines.symm.trans hreply
      · cases hshown.symm.trans hreply
      · -- the failure of the run is the reply
        cases hfailure.symm.trans hreply
        exact ⟨command, run⟩

end Entry

/-- Settling the path for its own sake obeys the rules. -/
theorem Ensuring.lawful {settings : Settings} {before after : Text} {events : List Event}
    {result : Attempt Text} (h : Ensuring settings before after events result) :
    Entry.Lawful settings ⟨.ensure, before, events, result.map .path, after⟩ := by
  have hcompletes :
      Entry.Completes ⟨.ensure, before, events, result.map .path, after⟩ events result := by
    cases result with
    | error failure => exact .failed rfl rfl
    | ok exePath => exact .ensured rfl rfl rfl
  exact hcompletes.lawful h (fun hempty => nomatch hempty)

/-- A run obeys the rules. -/
theorem Running.lawful {settings : Settings} {arguments : List Text} {before after : Text}
    {events : List Event} {result : Attempt (List Text)}
    (h : Running settings arguments before after events result) {call : Call}
    (hcall : call.arguments? = some arguments) :
    Entry.Lawful settings ⟨call, before, events, result.map .lines, after⟩ := by
  cases h with
  | noArguments =>
      exact {
        settles := fun hchange => absurd rfl hchange
        commands := fun command outcome hran => nomatch hran
        trusted := fun _ _ hasked => absurd hcall hasked
        rejected := fun _ _ hasked => absurd hcall hasked
        unsettled := fun _ hasked => absurd hcall hasked
        given := fun exePath hreply => nomatch hreply
        noArguments := fun _ => ⟨rfl, rfl, rfl⟩ }
  | unready hasked ensuring =>
      exact Entry.Completes.lawful (.failed rfl rfl) ensuring
        fun hempty => hasked (Option.some.inj (hcall.symm.trans hempty))
  | @ran _ _ _ exePath earlier hasked ensuring outcome =>
      refine Entry.Completes.lawful (.ran ?runs rfl) ensuring
        fun hempty => hasked (Option.some.inj (hcall.symm.trans hempty))
      -- the path that was given out is the one that is settled now, and it was seen last
      obtain ⟨rfl, hmark, checks, hchecks⟩ := ensuring.given
      refine ⟨⟨arguments, hcall, hasked, rfl⟩, hmark, ⟨checks, ?_⟩, ?_, ?_, ?_⟩
      · rw [hchecks, List.append_assoc]
        rfl
      · rintro result rfl hstatus
        simp only [answerTo, hstatus, if_true, Except.map]
      · rintro result rfl hstatus
        simp only [answerTo, hstatus, if_false, Except.map]
      · rintro failure rfl
        rfl

/-- Every call obeys the rules, and leaves the settings as they are. -/
theorem Call.perform_logs (host : Host σ) (call : Call) (i : Invoker) (world : σ) :
    ∃ reply path next events, Logs Session.withLog (call.perform host) (call.perform host.logged)
      (i, world) reply ({ i with exePath := path }, next) events ∧
      Entry.Lawful i.settings ⟨call, i.exePath, events, reply, path⟩ := by
  cases call with
  | ensure =>
      obtain ⟨result, path, next, events, hlogs, hensuring⟩ :=
        ensureExePath_logs host i world
      exact ⟨_, path, next, events, hlogs.map Reply.path, hensuring.lawful⟩
  | run arguments =>
      obtain ⟨result, path, next, events, hlogs, hrunning⟩ :=
        run_logs host arguments i world
      exact ⟨_, path, next, events, hlogs.map Reply.lines, hrunning.lawful rfl⟩
  | dump part target =>
      obtain ⟨result, path, next, events, hlogs, hrunning⟩ :=
        run_logs host [part.option, target] i world
      exact ⟨_, path, next, events, hlogs.map Reply.lines, hrunning.lawful rfl⟩

/-! ## Histories -/

/-- The entries of a sequence of calls. -/
def history (host : Host σ) : List Call → Invoker × σ → List Entry
  | [], _ => []
  | call :: rest, state =>
    let (reply, (i, (world, events))) :=
      (call.perform host.logged).run.run (Session.withLog state [])
    ⟨call, state.1.exePath, events, reply, i.exePath⟩ :: history host rest (i, world)

/-- The replies to a sequence of calls. -/
def replies (host : Host σ) : List Call → Invoker × σ → List (Attempt Reply)
  | [], _ => []
  | call :: rest, state =>
    let (reply, next) := (call.perform host).run.run state
    reply :: replies host rest next

/-- That each entry goes on with the path that the one before has left. -/
def Connected : (path : Text) → List Entry → Prop
  | _, [] => True
  | path, e :: rest => e.before = path ∧ Connected e.after rest

/-- The first entry of a history, and what it leaves to the others. -/
theorem history_cons (host : Host σ) (call : Call) (rest : List Call) (i : Invoker) (world : σ) :
    ∃ (e : Entry) (next : σ),
      history host (call :: rest) (i, world)
        = e :: history host rest ({ i with exePath := e.after }, next) ∧
      replies host (call :: rest) (i, world)
        = e.reply :: replies host rest ({ i with exePath := e.after }, next) ∧
      e.call = call ∧ e.before = i.exePath ∧ e.Lawful i.settings := by
  obtain ⟨reply, path, next, events, hlogs, hlawful⟩ := call.perform_logs host i world
  refine ⟨_, next, ?_, ?_, rfl, rfl, hlawful⟩
  · rw [history, hlogs.logged]
    rfl
  · rw [replies, hlogs.plain]

/-- The entries of a history are its calls with the replies that they get, they are connected, and
all of them obey the rules. -/
theorem history_spec (host : Host σ) (calls : List Call) (i : Invoker) (world : σ) :
    (history host calls (i, world)).map Entry.call = calls ∧
    (history host calls (i, world)).map Entry.reply = replies host calls (i, world) ∧
    Connected i.exePath (history host calls (i, world)) ∧
    ∀ e ∈ history host calls (i, world), e.Lawful i.settings := by
  induction calls generalizing i world with
  | nil => exact ⟨rfl, rfl, trivial, fun e he => nomatch he⟩
  | cons call rest ih =>
      obtain ⟨e, next, hhistory, hreplies, hcall, hbefore, hlawful⟩ :=
        history_cons host call rest i world
      obtain ⟨hcalls, hrest, hconnected, hrules⟩ := ih { i with exePath := e.after } next
      rw [hhistory, hreplies, List.map_cons, List.map_cons, hcall, hcalls, hrest]
      exact ⟨rfl, rfl, ⟨hbefore, hconnected⟩, List.forall_mem_cons.mpr ⟨hlawful, hrules⟩⟩

section Settled

variable {settings : Settings} {entries : List Entry}

/-- Once the path is settled, no call changes it. -/
theorem Connected.keeps {path : Text} (h : Connected path entries)
    (hlawful : ∀ e ∈ entries, e.Lawful settings) (hsettled : path ≠ []) :
    ∀ e ∈ entries, e.before = path ∧ e.after = path := by
  induction entries generalizing path with
  | nil => exact fun e he => nomatch he
  | cons e rest ih =>
      obtain ⟨rfl, hrest⟩ := h
      obtain ⟨hrule, hrules⟩ := List.forall_mem_cons.mp hlawful
      have hafter : e.after = e.before := by
        by_contra hchange
        exact hsettled (hrule.settles hchange).1
      rw [hafter] at hrest
      exact List.forall_mem_cons.mpr ⟨⟨rfl, hafter⟩, ih hrest hrules hsettled⟩

/-- What is settled stays settled: after a call that has changed the path, every call finds and
leaves the new path and runs no locator, and each call but a run without arguments goes on with the
path at once. No call doubts its name: that a path has the wrong name is a reply only if the program
that was run has failed in that way itself. -/
def SettledBy (settings : Settings) (e later : Entry) : Prop :=
  e.after ≠ e.before → later.before = e.after ∧ later.after = e.after ∧
    (∀ outcome, .ran [settings.vswherePath] outcome ∉ later.events) ∧
    (later.call.arguments? ≠ some [] → later.GoesOn []) ∧
    ∀ path, later.reply = .error (.missingTool (.misnamed path)) →
      ∃ command, later.RunsDumper command (.error (.missingTool (.misnamed path)))

/-- A path that a call has settled is kept and trusted by each later call. -/
theorem settledBy_of_keeps {e later : Entry} (he : e.Lawful settings)
    (hlater : later.Lawful settings)
    (hkeeps : e.after ≠ [] → later.before = e.after ∧ later.after = e.after) :
    SettledBy settings e later := by
  intro hchange
  obtain ⟨-, output, installation, -, -, -, hpath⟩ := he.settles hchange
  have hsettled : e.after ≠ [] := by
    rw [hpath]
    exact settings.dumpbinUnder_ne_nil installation
  obtain ⟨hbefore, hafter⟩ := hkeeps hsettled
  have hgoesOn : later.call.arguments? ≠ some [] → later.GoesOn [] := by
    -- the name of a discovered path is that of a dumper
    refine fun hasked => (hlater.trusted (by rwa [hbefore]) ?_ hasked).2
    rw [hbefore, hpath]
    exact settings.dumpbinUnder_marked installation
  refine ⟨hbefore, hafter, fun outcome hran => ?locator, hgoesOn, fun path hreply => ?misnamed⟩
  case locator =>
    -- a run of the dumper has arguments, so its command is longer than that of the locator
    rcases hlater.commands _ _ hran with ⟨-, hempty⟩ | hdumper
    · exact hsettled (hbefore.symm.trans hempty)
    · obtain ⟨arguments, -, hasked, hcommand⟩ := hdumper.asked
      exact hasked (List.cons.inj hcommand).2.symm
  case misnamed =>
    by_cases hempty : later.call.arguments? = some []
    · rw [(hlater.noArguments hempty).2.2] at hreply
      cases hreply
    · exact (hgoesOn hempty).misnamed hreply

theorem Connected.settledBy {path : Text} (h : Connected path entries)
    (hlawful : ∀ e ∈ entries, e.Lawful settings) : entries.Pairwise (SettledBy settings) := by
  induction entries generalizing path with
  | nil => exact .nil
  | cons e rest ih =>
      obtain ⟨hrule, hrules⟩ := List.forall_mem_cons.mp hlawful
      refine .cons (fun later hlater => ?_) (ih h.2 hrules)
      exact settledBy_of_keeps hrule (hrules later hlater) fun hsettled =>
        h.2.keeps hrules hsettled later hlater

end Settled

/-- Whatever is asked of an invoker and however the host behaves, the entries of its history are its
calls with the replies that they get, each call takes up the path that the one before has left, each
obeys the rules, and a path that was discovered is kept for good and never rejected by its name. -/
theorem history_lawful (host : Host σ) (settings : Settings) (exePath : Text) (world : σ)
    (calls : List Call) :
    (history host calls (new settings exePath, world)).map Entry.call = calls ∧
    (history host calls (new settings exePath, world)).map Entry.reply
      = replies host calls (new settings exePath, world) ∧
    Connected (new settings exePath).exePath
      (history host calls (new settings exePath, world)) ∧
    (∀ e ∈ history host calls (new settings exePath, world), e.Lawful settings) ∧
    (history host calls (new settings exePath, world)).Pairwise (SettledBy settings) := by
  obtain ⟨hcalls, hreplies, hconnected, hlawful⟩ :=
    history_spec host calls (new settings exePath) world
  exact ⟨hcalls, hreplies, hconnected, hlawful, hconnected.settledBy hlawful⟩

end Invoker

end SymbolAtlas
