import Jotter.Proofs.Command.Hooks
import Jotter.Proofs.Session.Run

/-! Which hooks a line calls, and what the history keeps of it. The hooks of a session are watched: each
call of a check or of a handler is written down with its arguments and how it ended, in a log that the
hooks do not see. A watched session does what the session does, and its log tells that a line calls at
most one check and one handler, and that the history has one entry for each handler that was called. -/

namespace Jotter

variable {σ α : Type}

/-- A call of a hook of the command `name`, and how it ended. -/
inductive Call where
  | check (name : String) (args : List String) (came : Except Failure Verdict)
  | handler (name : String) (args : List String) (came : Except Failure Result)

namespace Call

def name : Call → String
  | check name _ _ => name
  | handler name _ _ => name

def args : Call → List String
  | check _ args _ => args
  | handler _ args _ => args

def isCheck : Call → Bool
  | check _ _ _ => true
  | handler _ _ _ => false

def isHandler : Call → Bool
  | check _ _ _ => false
  | handler _ _ _ => true

/-- Whether a handler was called with success; a handler that failed was not. -/
def success? : Call → Option Bool
  | check _ _ _ => none
  | handler _ _ (.ok result) => some result.success
  | handler _ _ (.error _) => some false

end Call

/-- A state with the calls that were made so far. -/
structure Watched (σ : Type) where
  state : σ
  calls : List Call

/-- An action that writes down how it ended. -/
def Action.watched (action : Action σ α) (note : Except Failure α → List Call) :
    Action (Watched σ) α :=
  ExceptT.mk fun scene =>
    let (came, changed) := action.run.run ⟨scene.context, scene.listing, scene.state.state⟩
    (came, ⟨changed.context, changed.listing, ⟨changed.state, scene.state.calls ++ note came⟩⟩)

/-- The hooks of a command, of which the check and the handler write down their calls. -/
def Command.watchedHooks (command : Command (Hooks σ)) : Hooks (Watched σ) where
  execute args := (command.hooks.execute args).watched fun came => [.handler command.name args came]
  validate := command.hooks.validate.map fun check args =>
    (check args).watched fun came => [.check command.name args came]
  provider := command.hooks.provider.map fun provider =>
    ⟨provider.deferred, fun args => (provider.offer args).watched fun _ => []⟩

def Command.watched (command : Command (Hooks σ)) : Command (Hooks (Watched σ)) :=
  command.mapHooks watchedHooks

namespace History

/-- The lines of a history and how they ended, newest first. -/
def lines (history : History) : List (String × Bool) :=
  history.entries.map fun entry => (entry.command, entry.success)

theorem take_cons_take {β : Type} (n : Nat) (x : β) (xs : List β) :
    (x :: xs.take n).take n = (x :: xs).take n := by
  cases n with
  | zero => rfl
  | succ n => rw [List.take_succ_cons, List.take_succ_cons, List.take_take, Nat.min_eq_left n.le_succ]

/-- An entry joins the last ones of the past. -/
theorem lines_append {history : History} {past : List (String × Bool)}
    (hpast : history.lines = past.reverse.take history.capacity) (line : String) (success : Bool) :
    (history.append line success).lines =
      (past ++ [(line, success)]).reverse.take history.capacity := by
  have hlines : (history.append line success).lines =
      ((line, success) :: history.lines).take history.capacity := by
    rw [lines, append, List.map_take]
    rfl
  rw [hlines, hpast, take_cons_take, List.reverse_concat]

end History

namespace Session

/-- The session with watched hooks, after some calls. -/
def watched (session : Session σ) (calls : List Call) : Session (Watched σ) where
  registry := session.registry.mapHooks Command.watchedHooks
  history := session.history
  marker := session.marker
  context := session.context
  state := ⟨session.state, calls⟩

theorem history_watched (session : Session σ) (calls : List Call) :
    (session.watched calls).history = session.history :=
  rfl

theorem run_watched (action : Action σ α) (note : Except Failure α → List Call)
    (session : Session σ) (calls : List Call) :
    (run (action.watched note)).run.run (session.watched calls) =
      (((run action).run.run session).1,
        ((run action).run.run session).2.watched (calls ++ note ((run action).run.run session).1)) := by
  have hscene : (session.watched calls).scene =
      ⟨session.context, session.registry.outline, ⟨session.state, calls⟩⟩ := by
    rw [scene, watched, Registry.outline_mapHooks]
  rw [run_run, run_run, hscene]
  rfl

/-- The calls of a check that came to a verdict or failed: none if the command has no check. -/
def checks (command : Command (Hooks σ)) (args : List String) (came : Except Failure Verdict) :
    List Call :=
  if command.hooks.validate.isSome then [.check command.name args came] else []

theorem eq_of_mem_checks {command : Command (Hooks σ)} {args : List String}
    {came : Except Failure Verdict} {call : Call} (hcall : call ∈ checks command args came) :
    call = .check command.name args came := by
  rw [checks] at hcall
  split at hcall
  · exact List.mem_singleton.1 hcall
  · cases hcall

theorem validate_watched (command : Command (Hooks σ)) (args : List String) (session : Session σ)
    (calls : List Call) :
    (validate command.watched args).run.run (session.watched calls) =
      (((validate command args).run.run session).1,
        ((validate command args).run.run session).2.watched
          (calls ++ checks command args ((validate command args).run.run session).1)) := by
  cases hcheck : command.hooks.validate with
  | none =>
      have hwatched : command.watched.hooks.validate = none := by
        simp [Command.watched, Command.mapHooks, Command.watchedHooks, hcheck]
      rw [validate_of_none hcheck, validate_of_none hwatched, checks, hcheck]
      simp
  | some check =>
      have hwatched : command.watched.hooks.validate = some fun args =>
          (check args).watched fun came => [.check command.name args came] := by
        simp [Command.watched, Command.mapHooks, Command.watchedHooks, hcheck]
      rw [validate_of_some hcheck, validate_of_some hwatched, run_watched, checks, hcheck]
      rfl

/-- A command that has no check admits all arguments. -/
theorem isSome_of_ne_valid {command : Command (Hooks σ)} {args : List String} {session : Session σ}
    (hcame : ((validate command args).run.run session).1 ≠ .ok .valid) :
    command.hooks.validate.isSome = true := by
  by_contra hnone
  rw [validate_of_none (Option.not_isSome_iff_eq_none.1 hnone)] at hcame
  exact hcame rfl

/-- The ways that a line can go: the hooks that it calls, and what comes of it. -/
inductive Course (registry : Registry (Hooks σ)) (marker raw : String) :
    List Call → Except Failure Result → Prop where
  | unnamed (hname : (Line.parse raw marker).isEmpty = true) :
      Course registry marker raw [] (.ok (.rejected .emptyInvocation "No command specified"))
  | unknown (hname : (Line.parse raw marker).isEmpty = false)
      (hcommand : registry.resolve? (Line.parse raw marker).name defaultMarker = none) :
      Course registry marker raw [] (.ok (unknownCommand (Line.parse raw marker).name marker))
  | checkFailed {command : Command (Hooks σ)} (hname : (Line.parse raw marker).isEmpty = false)
      (hcommand : registry.resolve? (Line.parse raw marker).name defaultMarker = some command)
      (hcheck : command.hooks.validate.isSome = true) (cause : Failure) :
      Course registry marker raw [.check command.name (Line.parse raw marker).args (.error cause)]
        (.error cause)
  | turnedAway {command : Command (Hooks σ)} (hname : (Line.parse raw marker).isEmpty = false)
      (hcommand : registry.resolve? (Line.parse raw marker).name defaultMarker = some command)
      (hcheck : command.hooks.validate.isSome = true) (reason : Option String) :
      Course registry marker raw
        [.check command.name (Line.parse raw marker).args (.ok (.invalid reason))]
        (.ok (.rejected .validationFailed (rejectionMessage reason)))
  | called {command : Command (Hooks σ)} (hname : (Line.parse raw marker).isEmpty = false)
      (hcommand : registry.resolve? (Line.parse raw marker).name defaultMarker = some command)
      (came : Except Failure Result) :
      Course registry marker raw
        (checks command (Line.parse raw marker).args (.ok .valid) ++
          [.handler command.name (Line.parse raw marker).args came])
        (came.mapError (.execution command.name (Line.parse raw marker).args))

/-- The history with an entry for a handler that was called. -/
def remembered (history : History) (raw : String) : Option Bool → History
  | none => history
  | some success => history.append raw success

theorem findSome?_checks (command : Command (Hooks σ)) (args : List String)
    (came : Except Failure Verdict) (calls : List Call) :
    (checks command args came ++ calls).findSome? Call.success? =
      calls.findSome? Call.success? := by
  rw [checks]
  split <;> rfl

/-- A handler is called once, and what it came to is the outcome and is in the history. -/
theorem runHandler_watched (command : Command (Hooks σ)) (args : List String) (raw : String)
    (session : Session σ) (calls : List Call) :
    ∃ came : Except Failure Result,
      (runHandler command.watched args raw).run.run (session.watched calls) =
        (((runHandler command args raw).run.run session).1,
          ((runHandler command args raw).run.run session).2.watched
            (calls ++ [.handler command.name args came])) ∧
      ((runHandler command args raw).run.run session).1 =
        came.mapError (.execution command.name args) ∧
      ((runHandler command args raw).run.run session).2.history =
        remembered session.history raw (Call.handler command.name args came).success? := by
  have hexecute : command.watched.hooks.execute args =
      (command.hooks.execute args).watched fun came => [.handler command.name args came] := rfl
  have hhistory := run_history (command.hooks.execute args) session
  refine ⟨((run (command.hooks.execute args)).run.run session).1, ?_⟩
  rw [runHandler_run, runHandler_run, hexecute, run_watched]
  generalize (run (command.hooks.execute args)).run.run session = ended at hhistory ⊢
  rcases ended with ⟨cause | result, after⟩
  · exact ⟨rfl, rfl, congrArg (·.append raw false) hhistory⟩
  · exact ⟨rfl, rfl, congrArg (·.append raw result.success) hhistory⟩

/-- A watched session does what the session does, and its log tells the course of the line. -/
theorem execute_watched (raw : String) (session : Session σ) (calls : List Call) :
    ∃ more : List Call,
      (execute raw).run.run (session.watched calls) =
        (((execute raw).run.run session).1,
          ((execute raw).run.run session).2.watched (calls ++ more)) ∧
      Course session.registry session.marker raw more ((execute raw).run.run session).1 ∧
      ((execute raw).run.run session).2.history =
        remembered session.history raw (more.findSome? Call.success?) := by
  have hregistry : (session.watched calls).registry =
      session.registry.mapHooks Command.watchedHooks := rfl
  have hmarker : (session.watched calls).marker = session.marker := rfl
  rw [execute_run, execute_run, hmarker, hregistry, Registry.resolve?_mapHooks]
  generalize hargs : (Line.parse raw session.marker).args = args
  cases hname : (Line.parse raw session.marker).isEmpty with
  | true => exact ⟨[], by simp, .unnamed hname, rfl⟩
  | false =>
      cases hcommand : session.registry.resolve? (Line.parse raw session.marker).name
        defaultMarker with
      | none => exact ⟨[], by simp, .unknown hname hcommand, rfl⟩
      | some command =>
          have hwatched := validate_watched command args session calls
          have hhistory := validate_history command args session
          have hcheck := @isSome_of_ne_valid _ command args session
          have hnamed : command.mapHooks Command.watchedHooks = command.watched := rfl
          simp only [Bool.false_eq_true, if_false, Option.map_some, hnamed, hwatched]
          -- a check that fails or says no is there, so that it is in the log
          generalize (validate command args).run.run session = checked at hhistory hcheck
          obtain ⟨cause | verdict, after⟩ := checked
          · refine ⟨checks command args (.error cause), rfl, ?_, ?_⟩
            · rw [checks, if_pos (hcheck nofun), ← hargs]
              exact .checkFailed hname hcommand (hcheck nofun) cause
            · rw [checks, if_pos (hcheck nofun)]
              exact hhistory
          · cases verdict with
            | invalid reason =>
                refine ⟨checks command args (.ok (.invalid reason)), rfl, ?_, ?_⟩
                · rw [checks, if_pos (hcheck nofun), ← hargs]
                  exact .turnedAway hname hcommand (hcheck nofun) reason
                · rw [checks, if_pos (hcheck nofun)]
                  exact hhistory
            | valid =>
                obtain ⟨came, hcalled, houtcome, hentry⟩ := runHandler_watched command args raw after
                  (calls ++ checks command args (.ok .valid))
                refine ⟨checks command args (.ok .valid) ++ [.handler command.name args came], ?_⟩
                dsimp only
                rw [hcalled, houtcome, hentry, findSome?_checks, List.findSome?_singleton,
                  List.append_assoc, hhistory, ← hargs]
                exact ⟨rfl, .called hname hcommand came, rfl⟩

/-! ### What a course says -/

namespace Course

variable {registry : Registry (Hooks σ)} {marker raw : String} {calls : List Call}
  {outcome : Except Failure Result}

theorem checks_le_one (hcourse : Course registry marker raw calls outcome) :
    calls.countP (·.isCheck) ≤ 1 := by
  cases hcourse with
  | called hname hcommand came =>
      rw [checks]
      split <;> simp [Call.isCheck]
  | _ => simp [Call.isCheck]

theorem handlers_le_one (hcourse : Course registry marker raw calls outcome) :
    calls.countP (·.isHandler) ≤ 1 := by
  cases hcourse with
  | called hname hcommand came =>
      rw [checks]
      split <;> simp [Call.isHandler]
  | _ => simp [Call.isHandler]

/-- All calls are calls of the command that the name stands for, with the arguments of the line. -/
theorem mem_calls (hcourse : Course registry marker raw calls outcome) {call : Call}
    (hcall : call ∈ calls) :
    call.args = (Line.parse raw marker).args ∧
      ∃ command, registry.resolve? (Line.parse raw marker).name defaultMarker = some command ∧
        call.name = command.name := by
  cases hcourse with
  | unnamed hname => cases hcall
  | unknown hname hcommand => cases hcall
  | checkFailed hname hcommand hcheck cause =>
      rw [List.mem_singleton.1 hcall]
      exact ⟨rfl, _, hcommand, rfl⟩
  | turnedAway hname hcommand hcheck reason =>
      rw [List.mem_singleton.1 hcall]
      exact ⟨rfl, _, hcommand, rfl⟩
  | @called command hname hcommand came =>
      rcases List.mem_append.1 hcall with hcheck | hhandler
      · rw [eq_of_mem_checks hcheck]
        exact ⟨rfl, _, hcommand, rfl⟩
      · rw [List.mem_singleton.1 hhandler]
        exact ⟨rfl, _, hcommand, rfl⟩

/-- The handler is called iff there is one and the check did not object. -/
theorem handler_iff (hcourse : Course registry marker raw calls outcome) :
    (∃ call ∈ calls, call.isHandler = true) ↔
      (Line.parse raw marker).name ≠ "" ∧
      ∃ command, registry.resolve? (Line.parse raw marker).name defaultMarker = some command ∧
        (command.hooks.validate = none ∨
          .check command.name (Line.parse raw marker).args (.ok .valid) ∈ calls) := by
  have hempty : (Line.parse raw marker).isEmpty = true ↔ (Line.parse raw marker).name = "" :=
    String.isEmpty_iff
  cases hcourse with
  | unnamed hname => simp [hempty.1 hname]
  | unknown hname hcommand => simp [hcommand]
  | checkFailed hname hcommand hcheck cause =>
      simp [hcommand, Call.isHandler, Option.isSome_iff_ne_none.1 hcheck]
  | turnedAway hname hcommand hcheck reason =>
      simp [hcommand, Call.isHandler, Option.isSome_iff_ne_none.1 hcheck]
  | @called command hname hcommand came =>
      have hname : (Line.parse raw marker).name ≠ "" := by
        intro h
        rw [hempty.2 h] at hname
        cases hname
      constructor
      · intro _
        refine ⟨hname, command, hcommand, ?_⟩
        rw [checks]
        cases command.hooks.validate with
        | none => exact .inl rfl
        | some check => exact .inr (List.mem_append_left _ List.mem_cons_self)
      · exact fun _ => ⟨_, List.mem_append_right _ List.mem_cons_self, rfl⟩

/-- What the handler came to is the outcome; a failure is told with the command and its arguments. -/
theorem outcome_of_handler (hcourse : Course registry marker raw calls outcome) {name : String}
    {args : List String} {came : Except Failure Result} (hcall : .handler name args came ∈ calls) :
    outcome = came.mapError (.execution name args) := by
  cases hcourse with
  | called hname hcommand came =>
      rcases List.mem_append.1 hcall with hcheck | hhandler
      · cases eq_of_mem_checks hcheck
      · cases List.mem_singleton.1 hhandler
        rfl
  | _ => simp at hcall

end Course

/-! ### Runs -/

/-- A line that was run in a session: the session before it, its outcome, and the session after it. -/
structure Event (σ : Type) where
  line : String
  before : Session σ
  outcome : Except Failure Result
  after : Session σ

/-- The run of a line in a context. -/
def event (session : Session σ) (call : String × Context) : Event σ where
  line := call.1
  before := { session with context := call.2 }
  outcome := ((execute call.1).run.run { session with context := call.2 }).1
  after := ((execute call.1).run.run { session with context := call.2 }).2

/-- The runs of lines one after the other. -/
def events (session : Session σ) : List (String × Context) → List (Event σ)
  | [] => []
  | call :: lines => session.event call :: (session.event call).after.events lines

/-- The session after lines were run one after the other. -/
def afterAll (session : Session σ) (lines : List (String × Context)) : Session σ :=
  lines.foldl (fun session call => (session.event call).after) session

theorem afterAll_cons (session : Session σ) (call : String × Context)
    (lines : List (String × Context)) :
    session.afterAll (call :: lines) = (session.event call).after.afterAll lines :=
  List.foldl_cons ..

namespace Event

/-- The calls that a line made. -/
def calls (event : Event (Watched σ)) : List Call :=
  event.after.state.calls.drop event.before.state.calls.length

/-- The line and how it ended, if it called a handler. -/
def recorded? (event : Event (Watched σ)) : Option (String × Bool) :=
  (event.calls.findSome? Call.success?).map fun success => (event.line, success)

/-- What the log and the history tell of a line. -/
structure Accounted (registry : Registry (Hooks σ)) (marker : String) (event : Event (Watched σ)) :
    Prop where
  log_eq : event.after.state.calls = event.before.state.calls ++ event.calls
  checks_le : event.calls.countP (·.isCheck) ≤ 1
  handlers_le : event.calls.countP (·.isHandler) ≤ 1
  call_eq : ∀ call ∈ event.calls, call.args = (Line.parse event.line marker).args ∧
    ∃ command, registry.resolve? (Line.parse event.line marker).name defaultMarker = some command ∧
      call.name = command.name
  handler_iff : (∃ call ∈ event.calls, call.isHandler = true) ↔
    (Line.parse event.line marker).name ≠ "" ∧
    ∃ command, registry.resolve? (Line.parse event.line marker).name defaultMarker = some command ∧
      (command.hooks.validate = none ∨
        .check command.name (Line.parse event.line marker).args (.ok .valid) ∈ event.calls)
  ran : ∀ name args result, .handler name args (.ok result) ∈ event.calls →
    event.outcome = .ok result
  failed : ∀ name args cause, .handler name args (.error cause) ∈ event.calls →
    event.outcome = .error (.execution name args cause)
  history_eq : event.after.history = match event.recorded? with
    | some (line, success) => event.before.history.append line success
    | none => event.before.history

end Event

theorem event_watched (session : Session σ) (calls : List Call) (call : String × Context) :
    ∃ more : List Call,
      (session.watched calls).event call =
        ⟨call.1, (session.event call).before.watched calls, (session.event call).outcome,
          (session.event call).after.watched (calls ++ more)⟩ ∧
      Course session.registry session.marker call.1 more (session.event call).outcome ∧
      (session.event call).after.history =
        remembered session.history call.1 (more.findSome? Call.success?) := by
  obtain ⟨more, hrun, hcourse, hhistory⟩ :=
    execute_watched call.1 { session with context := call.2 } calls
  have hbefore : { session.watched calls with context := call.2 } =
      watched { session with context := call.2 } calls := rfl
  refine ⟨more, ?_⟩
  simp only [event, hbefore, hrun, true_and]
  exact ⟨hcourse, hhistory⟩

/-- A line of which the log has the course is accounted for. -/
theorem Event.accounted_of_course {registry : Registry (Hooks σ)} {marker : String}
    {event : Event (Watched σ)} {more : List Call}
    (hlog : event.after.state.calls = event.before.state.calls ++ more)
    (hcourse : Course registry marker event.line more event.outcome)
    (hhistory : event.after.history =
      remembered event.before.history event.line (more.findSome? Call.success?)) :
    event.Accounted registry marker := by
  have hcalls : event.calls = more := by rw [calls, hlog, List.drop_left]
  rw [← hcalls] at hlog hcourse hhistory
  refine ⟨hlog, hcourse.checks_le_one, hcourse.handlers_le_one, fun _ => hcourse.mem_calls,
    hcourse.handler_iff, fun _ _ _ => hcourse.outcome_of_handler,
    fun _ _ _ => hcourse.outcome_of_handler, ?_⟩
  rw [hhistory, recorded?]
  cases event.calls.findSome? Call.success? <;> rfl

theorem event_accounted (session : Session σ) (calls : List Call) (call : String × Context) :
    ((session.watched calls).event call).Accounted session.registry session.marker := by
  obtain ⟨more, hevent, hcourse, hhistory⟩ := event_watched session calls call
  have hbefore : (session.event call).before.history = session.history := rfl
  rw [← hbefore] at hhistory
  rw [hevent]
  generalize session.event call = event at hcourse hhistory
  exact Event.accounted_of_course rfl hcourse hhistory

theorem kept_event (session : Session σ) (call : String × Context) :
    Kept session (session.event call).after := by
  have hkept := kept_execute call.1 { session with context := call.2 }
  rw [event]
  generalize (execute call.1).run.run { session with context := call.2 } = ended at hkept
  exact ⟨hkept.1, hkept.2⟩

theorem events_accounted (session : Session σ) (calls : List Call)
    (lines : List (String × Context)) :
    ∀ event ∈ (session.watched calls).events lines,
      event.Accounted session.registry session.marker := by
  induction lines generalizing session calls with
  | nil => exact fun event h => absurd h List.not_mem_nil
  | cons call lines ih =>
      obtain ⟨more, hevent, -, -⟩ := event_watched session calls call
      intro event hmem
      rcases List.mem_cons.1 hmem with rfl | hmem
      · exact event_accounted session calls call
      · obtain ⟨hregistry, hmarker⟩ := kept_event session call
        rw [hevent] at hmem
        have hlater := ih (session.event call).after (calls ++ more) event hmem
        rw [hregistry, hmarker] at hlater
        exact hlater

/-- Watching changes neither outcomes nor sessions. -/
theorem events_watched (session : Session σ) (calls : List Call) (lines : List (String × Context)) :
    ((session.watched calls).events lines).map (fun event => (event.line, event.outcome,
      event.after.history, event.after.context, event.after.state.state)) =
    (session.events lines).map (fun event => (event.line, event.outcome,
      event.after.history, event.after.context, event.after.state)) := by
  induction lines generalizing session calls with
  | nil => rfl
  | cons call lines ih =>
      obtain ⟨more, hevent, -, -⟩ := event_watched session calls call
      rw [events, events, hevent, List.map_cons, List.map_cons, ih]
      have hline : (session.event call).line = call.1 := rfl
      rw [hline]
      generalize session.event call = event
      rfl

theorem afterAll_watched (session : Session σ) (calls : List Call)
    (lines : List (String × Context)) :
    ∃ later, (session.watched calls).afterAll lines = (session.afterAll lines).watched later := by
  induction lines generalizing session calls with
  | nil => exact ⟨calls, rfl⟩
  | cons call lines ih =>
      obtain ⟨more, hevent, -, -⟩ := event_watched session calls call
      obtain ⟨later, hlater⟩ := ih (session.event call).after (calls ++ more)
      refine ⟨later, ?_⟩
      have hafter : ((session.watched calls).event call).after =
          (session.event call).after.watched (calls ++ more) := by
        rw [hevent]
      rw [afterAll_cons, afterAll_cons, hafter]
      exact hlater

/-- A history that has the last of the entries of the past has the last of them after the lines. -/
theorem lines_afterAll (session : Session σ) (calls : List Call) (lines : List (String × Context))
    {past : List (String × Bool)}
    (hpast : session.history.lines = past.reverse.take session.history.capacity) :
    ((session.watched calls).afterAll lines).history.lines =
      (past ++ ((session.watched calls).events lines).filterMap Event.recorded?).reverse.take
        session.history.capacity := by
  -- the entry of the first line joins the past, for the lines after it
  induction lines generalizing session calls past with
  | nil =>
      rw [events, List.filterMap_nil, List.append_nil]
      exact hpast
  | cons call lines ih =>
      obtain ⟨more, hevent, -, -⟩ := event_watched session calls call
      have haccounted := (event_accounted session calls call).history_eq
      have hbefore : ((session.watched calls).event call).before.history = session.history := rfl
      have hafter : ((session.watched calls).event call).after =
          (session.event call).after.watched (calls ++ more) := by
        rw [hevent]
      rw [hbefore, hafter, history_watched] at haccounted
      rw [afterAll_cons, events, List.filterMap_cons, hafter]
      cases hentry : ((session.watched calls).event call).recorded? with
      | none =>
          rw [hentry] at haccounted
          have hkept : (session.event call).after.history.lines =
              past.reverse.take (session.event call).after.history.capacity := by
            rw [haccounted]
            exact hpast
          rw [ih _ _ hkept, haccounted]
      | some entry =>
          rw [hentry] at haccounted
          have hkept : (session.event call).after.history.lines =
              (past ++ [entry]).reverse.take (session.event call).after.history.capacity := by
            rw [haccounted]
            exact History.lines_append hpast entry.1 entry.2
          rw [ih _ _ hkept, haccounted, List.append_assoc]
          rfl

theorem events_calls (session : Session σ) (lines : List (String × Context)) :
    (session.events lines).map (fun event => (event.line, event.before.context)) = lines := by
  induction lines generalizing session with
  | nil => rfl
  | cons call lines ih =>
      rw [events, List.map_cons, ih]
      rfl

/-- In a session with any commands, lines that are run one after the other call at most one check and
one handler each, with the arguments of the line; the handler is called iff the line has the name of a
command and the check of the command, if it has one, found no fault. The history gets one entry for each
handler that was called, with the line and how it ended, and no other; so it has the last of these
entries, newest first, and lists their lines. -/
theorem execution_trace (registry : Registry (Hooks σ)) (marker : String) (capacity stamp : Nat)
    (context : Context) (state : σ) (lines : List (String × Context)) :
    let start : Session σ := ⟨registry, ⟨capacity, [], stamp⟩, marker, context, state⟩
    let events := (start.watched []).events lines
    let history := (start.afterAll lines).history
    let entries := (events.filterMap Event.recorded?).reverse.take capacity
    events.map (fun event => (event.line, event.before.context)) = lines ∧
    events.map (fun event => (event.line, event.outcome, event.after.history, event.after.context,
        event.after.state.state)) =
      (start.events lines).map (fun event => (event.line, event.outcome, event.after.history,
        event.after.context, event.after.state)) ∧
    (∀ event ∈ events, event.Accounted registry marker) ∧
    history.entries.map (fun entry => (entry.command, entry.success)) = entries ∧
    ∀ cap : Nat, history.recent (some (cap : Int)) = (entries.take cap).map Prod.fst := by
  intro start events history entries
  have hlines : history.lines = entries := by
    obtain ⟨later, hlater⟩ := afterAll_watched start [] lines
    have hpast : start.history.lines = ([] : List (String × Bool)).reverse.take capacity :=
      List.take_nil.symm
    have hrun := lines_afterAll start [] lines hpast
    rw [hlater] at hrun
    exact hrun
  refine ⟨events_calls _ lines, events_watched start [] lines, events_accounted start [] lines,
    hlines, ?_⟩
  intro cap
  calc history.recent (some (cap : Int))
      = ((history.entries.take cap).map fun entry => (entry.command, entry.success)).map
          Prod.fst := by
        rw [List.map_map]
        rfl
    _ = (entries.take cap).map Prod.fst := by
        rw [List.map_take, ← hlines]
        rfl

end Session

end Jotter
