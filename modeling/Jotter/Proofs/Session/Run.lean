import Jotter.Proofs.Command.Names
import Jotter.Session

/-! What a line does to a session, exit by exit: a line without a name and an unknown name leave it as
it is, a check that fails or says no leaves only what the check did, and a handler that was started
leaves what it did and one entry of the history. -/

namespace Jotter

variable {σ α : Type}

/-- A step that fails keeps its changes and skips what comes after it. -/
theorem Attempt.run_bind {β : Type} (step : Attempt σ α) (next : α → Attempt σ β) (state : σ) :
    (step >>= next).run.run state =
      match step.run.run state with
      | (.ok a, changed) => (next a).run.run changed
      | (.error failure, changed) => (.error failure, changed) := by
  rw [ExceptT.run_bind, StateT.run_bind]
  generalize step.run.run state = ended
  rcases ended with ⟨failure | a, changed⟩ <;> rfl

/-- Steps that come to something have come through the first of them. -/
theorem Attempt.exists_of_run_bind {β : Type} {step : Attempt σ α} {next : α → Attempt σ β} {state : σ}
    {b : β} (hended : ((step >>= next).run.run state).1 = .ok b) :
    ∃ a changed, step.run.run state = (.ok a, changed) ∧ ((next a).run.run changed).1 = .ok b := by
  rw [run_bind] at hended
  rcases hstep : step.run.run state with ⟨failure | a, changed⟩
  · rw [hstep] at hended
    cases hended
  · rw [hstep] at hended
    exact ⟨a, changed, rfl, hended⟩

theorem Attempt.outcome_run (step : Attempt σ α) (state : σ) :
    (Attempt.outcome step).run.run state =
      (.ok (step.run.run state).1, (step.run.run state).2) :=
  rfl

theorem Attempt.get_run (state : σ) :
    (get : Attempt σ σ).run.run state = (.ok state, state) :=
  rfl

theorem Attempt.ofExcept_run (came : Except Failure α) (state : σ) :
    (Attempt.ofExcept came).run.run state = (came, state) := by
  cases came <;> rfl

theorem Attempt.onPart_run {τ : Type} (part : τ → σ) (withPart : τ → σ → τ) (step : Attempt σ α)
    (whole : τ) :
    (Attempt.onPart part withPart step).run.run whole =
      ((step.run.run (part whole)).1, withPart whole (step.run.run (part whole)).2) :=
  rfl

namespace Session

theorem run_run (action : Action σ α) (session : Session σ) :
    (run action).run.run session =
      ((action.run.run session.scene).1, session.withScene (action.run.run session.scene).2) :=
  rfl

theorem validate_of_none {command : Command (Hooks σ)} (hcheck : command.hooks.validate = none)
    (args : List String) (session : Session σ) :
    (validate command args).run.run session = (.ok .valid, session) := by
  rw [validate, hcheck]
  rfl

theorem validate_of_some {command : Command (Hooks σ)} {check : List String → Action σ Verdict}
    (hcheck : command.hooks.validate = some check) (args : List String) (session : Session σ) :
    (validate command args).run.run session = (run (check args)).run.run session := by
  rw [validate, hcheck]

/-- A handler that was started leaves one entry, and its failure is wrapped. -/
theorem runHandler_run (command : Command (Hooks σ)) (args : List String) (raw : String)
    (session : Session σ) :
    (runHandler command args raw).run.run session =
      match (run (command.hooks.execute args)).run.run session with
      | (.ok result, after) =>
        (.ok result, { after with history := after.history.append raw result.success })
      | (.error cause, after) =>
        (.error (.execution command.name args cause),
          { after with history := after.history.append raw false }) := by
  rw [runHandler, Attempt.run_bind, Attempt.outcome_run]
  generalize (run (command.hooks.execute args)).run.run session = ended
  rcases ended with ⟨cause | result, after⟩ <;> rfl

theorem execute_run (raw : String) (session : Session σ) :
    (execute raw).run.run session =
      if (Line.parse raw session.marker).isEmpty then
        (.ok (.rejected .emptyInvocation "No command specified"), session)
      else
        match session.registry.resolve? (Line.parse raw session.marker).name defaultMarker with
        | none => (.ok (unknownCommand (Line.parse raw session.marker).name session.marker), session)
        | some command =>
          match (validate command (Line.parse raw session.marker).args).run.run session with
          | (.error cause, after) => (.error cause, after)
          | (.ok (.invalid reason), after) =>
            (.ok (.rejected .validationFailed (rejectionMessage reason)), after)
          | (.ok .valid, after) =>
            (runHandler command (Line.parse raw session.marker).args raw).run.run after := by
  rw [execute, Attempt.run_bind]
  change (if (Line.parse raw session.marker).isEmpty then _ else _ :
    Attempt (Session σ) Result).run.run session = _
  split
  · rfl
  · cases session.registry.resolve? (Line.parse raw session.marker).name defaultMarker with
    | none => rfl
    | some command =>
        dsimp only
        rw [Attempt.run_bind]
        generalize (validate command (Line.parse raw session.marker).args).run.run session = checked
        rcases checked with ⟨cause | verdict, after⟩
        · rfl
        · cases verdict <;> rfl

/-- A line of a known command whose check says yes and leaves the session as it is goes to the handler. -/
theorem execute_of_valid {raw : String} {session : Session σ} {command : Command (Hooks σ)}
    {invocation : Invocation} (hparse : Line.parse raw session.marker = invocation)
    (hname : invocation.isEmpty = false)
    (hcommand : session.registry.resolve? invocation.name defaultMarker = some command)
    (hvalid : (validate command invocation.args).run.run session = (.ok .valid, session)) :
    (execute raw).run.run session = (runHandler command invocation.args raw).run.run session := by
  rw [execute_run, hparse, hname, if_neg Bool.false_ne_true, hcommand]
  dsimp only
  rw [hvalid]

theorem run_history (action : Action σ α) (session : Session σ) :
    ((run action).run.run session).2.history = session.history :=
  rfl

theorem validate_history (command : Command (Hooks σ)) (args : List String) (session : Session σ) :
    ((validate command args).run.run session).2.history = session.history := by
  rw [validate]
  cases command.hooks.validate <;> rfl

/-! ### What stays -/

/-- Whether two sessions have the same commands and the same marker. -/
def Kept (before after : Session σ) : Prop :=
  after.registry = before.registry ∧ after.marker = before.marker

theorem Kept.trans {before between after : Session σ} (hfirst : Kept before between)
    (hsecond : Kept between after) : Kept before after :=
  ⟨hsecond.1.trans hfirst.1, hsecond.2.trans hfirst.2⟩

theorem kept_run (action : Action σ α) (session : Session σ) :
    Kept session ((run action).run.run session).2 :=
  ⟨rfl, rfl⟩

theorem kept_validate (command : Command (Hooks σ)) (args : List String) (session : Session σ) :
    Kept session ((validate command args).run.run session).2 := by
  rw [validate]
  cases command.hooks.validate with
  | none => exact ⟨rfl, rfl⟩
  | some check => exact kept_run (check args) session

theorem kept_runHandler (command : Command (Hooks σ)) (args : List String) (raw : String)
    (session : Session σ) : Kept session ((runHandler command args raw).run.run session).2 := by
  have hrun := kept_run (command.hooks.execute args) session
  rw [runHandler_run]
  generalize (run (command.hooks.execute args)).run.run session = ended at hrun ⊢
  rcases ended with ⟨cause | result, after⟩ <;> exact hrun

theorem kept_execute (raw : String) (session : Session σ) :
    Kept session ((execute raw).run.run session).2 := by
  rw [execute_run]
  split
  · exact ⟨rfl, rfl⟩
  · cases session.registry.resolve? (Line.parse raw session.marker).name defaultMarker with
    | none => exact ⟨rfl, rfl⟩
    | some command =>
        have hcheck := kept_validate command (Line.parse raw session.marker).args session
        dsimp only
        generalize (validate command (Line.parse raw session.marker).args).run.run session = checked
          at hcheck ⊢
        obtain ⟨cause | verdict, after⟩ := checked
        · exact hcheck
        · cases verdict with
          | invalid reason => exact hcheck
          | valid => exact hcheck.trans (kept_runHandler command _ raw after)

end Session

/-! ### What hooks do to the state -/

/-- Hooks after which the state is related to what it was before, also when they fail. -/
structure Hooks.Moves (related : σ → σ → Prop) (hooks : Hooks σ) : Prop where
  execute : ∀ args scene, related scene.state ((hooks.execute args).run.run scene).2.state
  validate : ∀ check, hooks.validate = some check →
    ∀ args scene, related scene.state ((check args).run.run scene).2.state

namespace Session

variable {related : σ → σ → Prop}

theorem related_validate (hrefl : ∀ state, related state state) {command : Command (Hooks σ)}
    (hhooks : command.hooks.Moves related) (args : List String) (session : Session σ) :
    related session.state ((validate command args).run.run session).2.state := by
  cases hcheck : command.hooks.validate with
  | none =>
      rw [validate_of_none hcheck]
      exact hrefl _
  | some check =>
      rw [validate_of_some hcheck, run_run]
      exact hhooks.validate check hcheck args session.scene

theorem related_runHandler {command : Command (Hooks σ)} (hhooks : command.hooks.Moves related)
    (args : List String) (raw : String) (session : Session σ) :
    related session.state ((runHandler command args raw).run.run session).2.state := by
  have hrun := hhooks.execute args session.scene
  rw [runHandler_run, run_run]
  generalize (command.hooks.execute args).run.run session.scene = ended at hrun ⊢
  obtain ⟨cause | result, scene⟩ := ended <;> exact hrun

/-- A relation that every hook of the session keeps to holds between the states before a line and after
it. -/
theorem related_execute (hrefl : ∀ state, related state state)
    (htrans : ∀ {first second third}, related first second → related second third →
      related first third) {session : Session σ}
    (hhooks : ∀ command ∈ session.registry.commands, command.hooks.Moves related) (raw : String) :
    related session.state ((execute raw).run.run session).2.state := by
  rw [execute_run]
  split
  · exact hrefl _
  cases hresolve : session.registry.resolve? (Line.parse raw session.marker).name defaultMarker with
  | none => exact hrefl _
  | some command =>
      have hmoves := hhooks command (Registry.mem_commands_of_resolve? hresolve)
      have hcheck := related_validate hrefl hmoves (Line.parse raw session.marker).args session
      dsimp only
      generalize (validate command (Line.parse raw session.marker).args).run.run session = checked
        at hcheck ⊢
      obtain ⟨cause | verdict, after⟩ := checked
      · exact hcheck
      · cases verdict with
        | invalid reason => exact hcheck
        | valid => exact htrans hcheck (related_runHandler hmoves _ raw after)

end Session

end Jotter
