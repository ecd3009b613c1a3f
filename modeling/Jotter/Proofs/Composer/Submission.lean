import Jotter.Proofs.Builtin.Effect
import Jotter.Proofs.Composer.Course
import Jotter.Proofs.Schedule.Overflow

/-! What a submitted line comes to, with the built-in commands at a desk. Everything that goes wrong is
turned into a result or told, but for one thing: the check of a reminder hands the failure on with which
its time could not be worked out. Whatever the line, the commands and the clock stay as they are and the
context names a notebook of the vault or the one it named before. -/

namespace Jotter

variable {σ α β : Type}

/-! ### Furnished sessions -/

/-- A session with the built-in commands of a marker at a desk whose clock shows `now`. The notebook of
the context and those of the vault have labels with the property `label`. -/
structure Furnished (marker : String) (now : Moment) (label : Setting → Prop)
    (session : Session Desk) : Prop where
  registry_eq : session.registry = Builtin.registry Desk.services marker
  marker_eq : session.marker = marker
  now_eq : session.state.now = now
  context_label : label session.context.notebook
  vault_label : ∀ notebook ∈ session.state.vault.notebooks, label notebook.id

namespace Furnished

variable {marker : String} {now : Moment} {label : Setting → Prop} {session : Session Desk}

theorem new (history : History) {context : Context} {vault : Vault}
    (hcontext : label context.notebook) (hvault : ∀ notebook ∈ vault.notebooks, label notebook.id) :
    Furnished marker now label
      ⟨Builtin.registry Desk.services marker, history, marker, context, ⟨vault, now⟩⟩ where
  registry_eq := by dsimp only
  marker_eq := rfl
  now_eq := rfl
  context_label := hcontext
  vault_label := hvault

theorem effect (hsession : Furnished marker now label session) {came : Except Failure Result}
    {scene : Scene Desk} (heffect : Builtin.Effect session.scene came scene) :
    Furnished marker now label (session.withScene scene) := by
  obtain ⟨hregistry, hmarker, hnow, hcontext, hvault⟩ := hsession
  cases heffect with
  | nothing => exact ⟨hregistry, hmarker, hnow, hcontext, hvault⟩
  | reminder => exact ⟨hregistry, hmarker, hnow, hcontext, hvault⟩
  | switch hnotebook => exact ⟨hregistry, hmarker, hnow, hvault _ hnotebook, hvault⟩

theorem remember (hsession : Furnished marker now label session) (line : String) (success : Bool) :
    Furnished marker now label
      { session with history := session.history.append line success } := by
  obtain ⟨hregistry, hmarker, hnow, hcontext, hvault⟩ := hsession
  exact ⟨hregistry, hmarker, hnow, hcontext, hvault⟩

/-- Storing a note never fails. -/
theorem stored (hsession : Furnished marker now label session) (content : String) :
    ∃ note after, session.stored Desk.services content = (.ok note, after) ∧
      Furnished marker now label after := by
  obtain ⟨hregistry, hmarker, hnow, hcontext, hvault⟩ := hsession
  exact ⟨_, _, rfl, ⟨hregistry, hmarker, hnow, hcontext, hvault⟩⟩

end Furnished

/-! ### Reminders out of reach -/

theorem Line.parse_of_blank {raw : String} (hblank : (Text.trim raw).isEmpty = true)
    (marker : String) : parse raw marker = ⟨"", []⟩ := by
  have hbody : body raw marker = "" := by
    rw [body, String.isEmpty_iff.1 hblank, Text.dropLead]
    split <;> simp
  rw [parse, hbody]
  rfl

/-- The line asks for a reminder, and its time cannot be worked out for this failure. -/
structure Untimely (marker : String) (now : Moment) (line : String) (failure : Failure) : Prop where
  isCommand : Line.isCommand line marker = true
  isReminder : Registry.normalize (Line.parse line marker).name defaultMarker ∈
    (Builtin.reminder Desk.services marker).names
  dueTime_eq : ∃ time message rest, (Line.parse line marker).args = time :: message :: rest ∧
    dueTime time now = .error failure

namespace Untimely

variable {marker line : String} {now : Moment} {failure : Failure}

theorem ofTime (huntimely : Untimely marker now line failure) : failure.ofTime = true := by
  obtain ⟨time, message, rest, -, hdue⟩ := huntimely.dueTime_eq
  exact ofTime_dueTime time now failure hdue

theorem resolve?_eq (huntimely : Untimely marker now line failure) :
    (Builtin.registry Desk.services marker).resolve? (Line.parse line marker).name defaultMarker =
      some (Builtin.reminder Desk.services marker) := by
  obtain ⟨hregistry, hcommands⟩ := Builtin.registry_spec Desk.services marker
  refine hregistry.resolve?_eq_some.2 ⟨?_, ?_, huntimely.isReminder⟩
  · intro hempty
    have hname := huntimely.isReminder
    rw [hempty] at hname
    revert hname
    change "" ∉ ["reminder", "remind", "r"].map Text.lower
    decide
  · rw [hcommands]
    simp [Builtin.all]

theorem not_blank (huntimely : Untimely marker now line failure) :
    (Text.trim line).isEmpty = false := by
  rw [← Bool.not_eq_true]
  intro hblank
  have hname := Registry.not_isEmpty_of_resolve? huntimely.resolve?_eq
  rw [Line.parse_of_blank hblank] at hname
  cases hname

end Untimely

namespace Session

variable {marker raw : String} {now : Moment} {label : Setting → Prop} {session : Session Desk}

/-- What is wrong with the time of a reminder is handed on, and the session stays as it is. -/
theorem execute_of_untimely {failure : Failure} (hsession : Furnished marker now label session)
    (huntimely : Untimely marker now raw failure) :
    (execute raw).run.run session = (.error failure, session) := by
  have hresolve := huntimely.resolve?_eq
  have hverdict := (Builtin.reminderVerdict_eq_error marker).2 huntimely.dueTime_eq
  have hcheck := validate_reminder Desk.services marker (Line.parse raw marker).args session
  rw [show Desk.services.clock session.state = now from hsession.now_eq, hverdict] at hcheck
  rw [execute_run, hsession.marker_eq, hsession.registry_eq,
    Registry.not_isEmpty_of_resolve? hresolve, hresolve, if_neg Bool.false_ne_true]
  dsimp only
  rw [hcheck]

/-- A handler keeps a session furnished, and its failure is told apart from others. -/
theorem runHandler_furnished (hsession : Furnished marker now label session)
    {command : Command (Hooks Desk)} (hcommand : command ∈ Builtin.all Desk.services marker)
    (args : List String) (raw : String) :
    ∃ came after, (runHandler command args raw).run.run session = (came, after) ∧
      Furnished marker now label after ∧
      ((∃ result, came = .ok result) ∨ ∃ cause, came = .error (.execution command.name args cause)) := by
  have hafter := hsession.effect
    (Builtin.affects_execute Desk.faithful_services hcommand args session.scene)
  rw [Attempt.seen] at hafter
  rw [runHandler_run, run_run]
  generalize (command.hooks.execute args).run.run session.scene = ended at hafter ⊢
  obtain ⟨cause | result, scene⟩ := ended
  · exact ⟨_, _, rfl, hafter.remember raw false, .inr ⟨cause, rfl⟩⟩
  · exact ⟨_, _, rfl, hafter.remember raw result.success, .inl ⟨result, rfl⟩⟩

/-- Any other command line comes to a result or to the failure of a handler. -/
theorem execute_of_timely (hsession : Furnished marker now label session)
    (hcommand : Line.isCommand raw marker = true)
    (htimely : ∀ failure, ¬ Untimely marker now raw failure) :
    ∃ came after, (execute raw).run.run session = (came, after) ∧
      Furnished marker now label after ∧
      ((∃ result, came = .ok result) ∨
        ∃ command args cause, came = .error (.execution command args cause)) := by
  rw [execute_run, hsession.marker_eq, hsession.registry_eq]
  split
  · exact ⟨_, _, rfl, hsession, .inl ⟨_, rfl⟩⟩
  cases hresolve : (Builtin.registry Desk.services marker).resolve? (Line.parse raw marker).name
      defaultMarker with
  | none => exact ⟨_, _, rfl, hsession, .inl ⟨_, rfl⟩⟩
  | some command =>
      have hmem := Builtin.mem_all_of_resolve? hresolve
      have hcheck : ∃ verdict, (validate command (Line.parse raw marker).args).run.run session =
          (.ok verdict, session) := by
        rcases validate_builtin hmem (Line.parse raw marker).args session with hverdict | rfl
        · exact hverdict
        · -- the check of a reminder fails for an untimely line only
          have hverdict := validate_reminder Desk.services marker (Line.parse raw marker).args session
          cases hcame : Builtin.reminderVerdict marker (Desk.services.clock session.state)
              (Line.parse raw marker).args with
          | ok verdict => exact ⟨verdict, hcame ▸ hverdict⟩
          | error failure =>
              rw [show Desk.services.clock session.state = now from hsession.now_eq,
                Builtin.reminderVerdict_eq_error] at hcame
              have hname := ((Builtin.registry_spec Desk.services marker).1.resolve?_eq_some.1
                hresolve).2.2
              exact absurd ⟨hcommand, hname, hcame⟩ (htimely failure)
      obtain ⟨verdict, hcheck⟩ := hcheck
      dsimp only
      rw [hcheck]
      cases verdict with
      | invalid reason => exact ⟨_, _, rfl, hsession, .inl ⟨_, rfl⟩⟩
      | valid =>
          obtain ⟨came, after, hrun, hafter, hcame⟩ :=
            runHandler_furnished hsession hmem (Line.parse raw marker).args raw
          exact ⟨came, after, hrun, hafter, hcame.imp id fun ⟨cause, h⟩ => ⟨_, _, cause, h⟩⟩

end Session

/-! ### Composers -/

namespace Composer

variable {marker line : String} {now : Moment} {label : Setting → Prop} {composer : Composer Desk}

/-- Whether a composer has a furnished session. -/
def Ready (marker : String) (now : Moment) (label : Setting → Prop) (composer : Composer Desk) :
    Prop :=
  Furnished marker now label composer.session

/-- A reminder out of reach fails, with the line in the buffer and nothing else changed. -/
theorem submit_of_untimely {failure : Failure} (hready : composer.Ready marker now label)
    (huntimely : Untimely marker now line failure) :
    (submit Desk.services line).run.run composer =
      (.error failure, { composer with buffer := line }) := by
  have hrun := runCommand_run Desk.services line composer
  have htime := huntimely.ofTime
  rw [Session.execute_of_untimely hready huntimely] at hrun
  have hfails : (runCommand Desk.services line).run.run composer =
      (.error failure, { composer with buffer := line }) := by
    rw [hrun]
    cases failure <;> first | rfl | cases htime
  rw [submit_run, huntimely.not_blank, hready.marker_eq, huntimely.isCommand,
    if_neg Bool.false_ne_true, if_pos rfl, Attempt.run_bind, hfails]

/-- A command line that asks for no reminder out of reach comes to something. -/
theorem Running.of_timely {outcome : Except Failure Submission} {after : Composer Desk}
    (hrunning : Running Desk.services composer line outcome after)
    (hready : composer.Ready marker now label) (hcommand : Line.isCommand line marker = true)
    (htimely : ∀ failure, ¬ Untimely marker now line failure) :
    ∃ submission, outcome = .ok submission ∧ after.Ready marker now label := by
  obtain ⟨came, session, hrun, hsession, hcame⟩ := Session.execute_of_timely hready hcommand htimely
  cases hrunning with
  | raised hexecute | failed hexecute | performed hexecute =>
      cases hrun.symm.trans hexecute
      exact ⟨_, rfl, hsession⟩
  | unchecked hexecute hother =>
      cases hrun.symm.trans hexecute
      rcases hcame with ⟨_, ⟨⟩⟩ | ⟨_, _, _, hfailure⟩
      exact absurd (Except.error.inj hfailure) (hother _ _ _)
  | @performedWithNote _ _ _ content _ _ hexecute _ _ hstored =>
      cases hrun.symm.trans hexecute
      obtain ⟨_, _, hnote, hafter⟩ := hsession.stored content
      cases hnote.symm.trans hstored
      exact ⟨_, rfl, hafter⟩
  | @interrupted _ _ _ content _ hexecute _ _ hstored =>
      cases hrun.symm.trans hexecute
      obtain ⟨_, _, hnote, -⟩ := hsession.stored content
      cases hnote.symm.trans hstored

/-- Any other line is taken. -/
theorem submit_of_timely (hready : composer.Ready marker now label)
    (htimely : ∀ failure, ¬ Untimely marker now line failure) :
    ∃ submission after, (submit Desk.services line).run.run composer = (.ok submission, after) ∧
      after.Ready marker now label := by
  have hcourse := submit_course Desk.services line composer
  generalize (submit Desk.services line).run.run composer = ended at hcourse ⊢
  obtain ⟨outcome, after⟩ := ended
  cases hcourse with
  | blank => exact ⟨_, _, rfl, hready⟩
  | text _ _ hnoting =>
      obtain ⟨_, _, hnote, hafter⟩ := Furnished.stored hready
        (Line.noteText line composer.session.marker)
      cases hnoting with
      | stored hstored =>
          cases hnote.symm.trans hstored
          exact ⟨_, _, rfl, hafter⟩
      | unstored hstored => cases hnote.symm.trans hstored
  | command _ hcommand hrunning =>
      rw [hready.marker_eq] at hcommand
      obtain ⟨submission, rfl, hafter⟩ := hrunning.of_timely hready hcommand htimely
      exact ⟨_, _, rfl, hafter⟩

end Composer

end Jotter
