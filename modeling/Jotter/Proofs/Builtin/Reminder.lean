import Jotter.Proofs.Builtin.Desk

/-! A reminder is set or it is not. Up to the store the command only reads, and behind the store nothing
can fail, since a due time that follows now can always be told. So a line about a reminder adds one
reminder to the vault and succeeds, or it does not succeed and the vault is what it was. -/

namespace Jotter

variable {τ : Type} {room : Room τ} {services : Services τ}

/-- A store that adds a reminder at the desk of a room, or fails and changes nothing there. -/
def Services.StoresReminders (services : Services τ) (room : Room τ) : Prop :=
  ∀ message dueAt notebook, (services.createReminder message dueAt notebook).Follows room.desk
    (Desk.services.createReminder message dueAt notebook)

namespace Builtin

/-- What the arguments of a reminder come to: no success, with the vault as it was, or success, with one
reminder added that has the words behind the time for its message. -/
inductive Reminded (now : Moment) (args : List String) (notebook : Setting) (before : Vault) :
    Except Failure Result → Vault → Prop where
  | refused {came : Except Failure Result} (hcame : ∀ result, came = .ok result → result.success = false) :
      Reminded now args notebook before came before
  | stored {time : String} {words : List String} {due : Moment} {dueAt : Int} {result : Result}
      (hargs : args = time :: words) (hdue : dueTime time now = .ok (some due))
      (hat : due.epochMillis = .ok dueAt) (hsuccess : result.success = true) :
      Reminded now args notebook before (.ok result)
        (before.addReminder (" ".intercalate words) dueAt notebook).2

namespace Reminded

variable {now : Moment} {args : List String} {notebook : Setting} {before after : Vault}
  {came : Except Failure Result}

theorem failed (failure : Failure) : Reminded now args notebook before (.error failure) before :=
  .refused nofun

theorem turnedAway {result : Result} (hsuccess : result.success = false) :
    Reminded now args notebook before (.ok result) before := by
  refine .refused fun other hother => ?_
  rw [← Except.ok.inj hother]
  exact hsuccess

/-- It does not matter how a failure is told. -/
theorem retold {cause : Failure} (hcame : Reminded now args notebook before (.error cause) after)
    (failure : Failure) : Reminded now args notebook before (.error failure) after := by
  cases hcame with
  | refused => exact .failed failure

theorem of_success (hreminded : Reminded now args notebook before came after) {result : Result}
    (hcame : came = .ok result) (hsuccess : result.success = true) :
    ∃ time words due dueAt, args = time :: words ∧ dueTime time now = .ok (some due) ∧
      due.epochMillis = .ok dueAt ∧
      after = (before.addReminder (" ".intercalate words) dueAt notebook).2 := by
  cases hreminded with
  | refused hrefused => exact absurd hsuccess (by rw [hrefused result hcame]; exact Bool.false_ne_true)
  | stored hargs hdue hat => exact ⟨_, _, _, _, hargs, hdue, hat, rfl⟩

theorem eq_of_no_success (hreminded : Reminded now args notebook before came after)
    (hcame : ∀ result, came = .ok result → result.success = false) : after = before := by
  cases hreminded with
  | refused => rfl
  | stored hargs hdue hat hsuccess => cases hsuccess.symm.trans (hcame _ rfl)

end Reminded

theorem createReminder_cases (hstore : services.StoresReminders room) (message : String) (dueAt : Int)
    (notebook : Setting) (state : τ) :
    let ended := (services.createReminder message dueAt notebook).run.run state
    (∃ failure, ended.1 = .error failure ∧ room.vault ended.2 = room.vault state) ∨
    ∃ reminder, ended.1 = .ok reminder ∧
      room.vault ended.2 = ((room.vault state).addReminder message dueAt notebook).2 := by
  intro ended
  rcases hstore message dueAt notebook state with hstored | ⟨failure, hfailed⟩
  · exact .inr ⟨_, congrArg Prod.fst hstored, congrArg (fun seen => seen.2.vault) hstored⟩
  · exact .inl ⟨failure, congrArg Prod.fst hfailed, congrArg (fun seen => seen.2.vault) hfailed⟩

/-- To store a reminder and then come to a success, whatever is stored, is to set it or not. -/
theorem reminded_createReminder (hstore : services.StoresReminders room) {scene : Scene τ}
    {time : String} {words : List String} {due : Moment} {dueAt : Int}
    (hdue : dueTime time (services.clock scene.state) = .ok (some due)) (hat : due.epochMillis = .ok dueAt)
    {next : Reminder → Action τ Result} {result : Result} (hsuccess : result.success = true)
    (hnext : ∀ reminder changed, (next reminder).run.run changed = (.ok result, changed)) :
    let ended := (Action.onState (services.createReminder (" ".intercalate words) dueAt
      scene.context.notebook) >>= next).run.run scene
    Reminded (services.clock scene.state) (time :: words) scene.context.notebook
      (room.vault scene.state) ended.1 (room.vault ended.2.state) := by
  have hcreate := createReminder_cases hstore (" ".intercalate words) dueAt scene.context.notebook
    scene.state
  rw [Attempt.run_bind, Action.onState, Attempt.onPart_run]
  generalize (services.createReminder (" ".intercalate words) dueAt
    scene.context.notebook).run.run scene.state = created at hcreate ⊢
  obtain ⟨came, changed⟩ := created
  rcases hcreate with ⟨failure, hfailed, hvault⟩ | ⟨reminder, hstored, hvault⟩
  · obtain rfl : came = .error failure := hfailed
    change Reminded _ _ _ _ _ (room.vault changed)
    rw [hvault]
    exact .failed failure
  · obtain rfl : came = .ok reminder := hstored
    dsimp only
    rw [hnext]
    change Reminded _ _ _ _ _ (room.vault changed)
    rw [hvault]
    exact .stored rfl hdue hat hsuccess

theorem reminded_setReminder (hstore : services.StoresReminders room) (args : List String)
    (scene : Scene τ) :
    let ended := (setReminder services args).run.run scene
    Reminded (services.clock scene.state) args scene.context.notebook (room.vault scene.state)
      ended.1 (room.vault ended.2.state) := by
  have hcontext : Action.context.run.run scene = (.ok scene.context, scene) := rfl
  rw [setReminder, Attempt.run_bind, Attempt.get_run]
  dsimp only
  cases args with
  | nil =>
      have hnone : (firstArgument [] : Action τ String).run.run scene = (.error .missingArgument, scene) :=
        rfl
      rw [Attempt.run_bind, hnone]
      exact .failed _
  | cons time words =>
      have htime : (firstArgument (time :: words) : Action τ String).run.run scene = (.ok time, scene) :=
        rfl
      rw [Attempt.run_bind, htime]
      dsimp only
      rw [Attempt.run_bind, Attempt.ofExcept_run]
      cases hdue : dueTime time (services.clock scene.state) with
      | error failure => exact .failed failure
      | ok due? =>
          cases due? with
          | none => exact .turnedAway rfl
          | some due =>
              obtain ⟨told, htold⟩ := dueText_of_follows (follows_of_dueTime hdue)
              dsimp only
              rw [Attempt.run_bind, hcontext]
              dsimp only
              rw [Attempt.run_bind, Attempt.ofExcept_run, htold]
              cases hat : due.epochMillis with
              | error failure => exact .failed failure
              | ok dueAt => exact reminded_createReminder hstore hdue hat rfl fun _ changed => rfl

end Builtin

/-! ### Lines -/

namespace Session

variable {session after : Session τ} {marker raw : String} {came : Except Failure Result}

theorem reminded_runHandler (hstore : services.StoresReminders room) {args : List String}
    (hended : (runHandler (Builtin.reminder services marker) args raw).run.run session = (came, after)) :
    Builtin.Reminded (services.clock session.state) args session.context.notebook
      (room.vault session.state) came (room.vault after.state) := by
  have hset := Builtin.reminded_setReminder hstore args session.scene
  rw [runHandler_run, run_run, show (Builtin.reminder services marker).hooks.execute args =
    Builtin.setReminder services args from rfl] at hended
  generalize (Builtin.setReminder services args).run.run session.scene = ended at hset hended
  obtain ⟨cause | result, scene⟩ := ended
  · obtain ⟨rfl, rfl⟩ := Prod.mk.inj hended
    exact hset.retold _
  · obtain ⟨rfl, rfl⟩ := Prod.mk.inj hended
    exact hset

theorem reminded_execute (hstore : services.StoresReminders room)
    (hcommand : session.registry.resolve? (Line.parse raw session.marker).name defaultMarker =
      some (Builtin.reminder services marker))
    (hended : (execute raw).run.run session = (came, after)) :
    Builtin.Reminded (services.clock session.state) (Line.parse raw session.marker).args
      session.context.notebook (room.vault session.state) came (room.vault after.state) := by
  rw [execute_run, Registry.not_isEmpty_of_resolve? hcommand, if_neg Bool.false_ne_true, hcommand] at hended
  dsimp only at hended
  rw [validate_reminder] at hended
  generalize Builtin.reminderVerdict marker (services.clock session.state)
    (Line.parse raw session.marker).args = verdict at hended
  rcases verdict with failure | _ | reason
  · obtain ⟨rfl, rfl⟩ := Prod.mk.inj hended
    exact .failed failure
  · exact reminded_runHandler hstore hended
  · obtain ⟨rfl, rfl⟩ := Prod.mk.inj hended
    exact .turnedAway rfl

/-- A line that goes to the command for reminders, over a store that adds a reminder or fails without a
trace, is all or nothing. If it succeeds, one reminder was added: the words behind the time, in the
notebook of the context, due in so many milliseconds as the time is told to be. If it comes to anything
else, a result without success or a failure of the check or of the handler, the vault is what it was. -/
theorem reminder_is_all_or_nothing (hstore : services.StoresReminders room)
    (hcommand : session.registry.resolve? (Line.parse raw session.marker).name defaultMarker =
      some (Builtin.reminder services marker))
    (hended : (execute raw).run.run session = (came, after)) :
    (∀ result, came = .ok result → result.success = true →
      ∃ time words due dueAt reminder, (Line.parse raw session.marker).args = time :: words ∧
        dueTime time (services.clock session.state) = .ok (some due) ∧ due.epochMillis = .ok dueAt ∧
        (room.vault after.state).reminders = (room.vault session.state).reminders ++ [reminder] ∧
        reminder.message = " ".intercalate words ∧ reminder.dueAt = dueAt ∧
        reminder.notebook = session.context.notebook) ∧
    ((∀ result, came = .ok result → result.success = false) →
      room.vault after.state = room.vault session.state) := by
  have hreminded := reminded_execute hstore hcommand hended
  refine ⟨fun result hresult hsuccess => ?_, hreminded.eq_of_no_success⟩
  obtain ⟨time, words, due, dueAt, hargs, hdue, hat, hafter⟩ := hreminded.of_success hresult hsuccess
  exact ⟨time, words, due, dueAt, _, hargs, hdue, hat, congrArg Vault.reminders hafter, rfl, rfl, rfl⟩

/-- A minute before the end of the calendar, with a store that works. -/
def lastMinute : Session Desk where
  registry := Builtin.registry Desk.services "/"
  history := ⟨50, [], 1⟩
  marker := "/"
  context := { notebook := .text "Inbox" }
  state := ⟨{}, ⟨315537897540000000, some 0, by decide⟩⟩

/-- In the last minute of the calendar a reminder can be set for a time that is left, and for no other. -/
theorem reminder_in_last_minute :
    let early := (execute "/remind 30s happy  new year").run.run lastMinute
    let late := (execute "/remind 2m happy new year").run.run lastMinute
    (∃ reminder, (Room.own.vault early.2.state).reminders =
        (Room.own.vault lastMinute.state).reminders ++ [reminder] ∧
      reminder.message = "happy new year" ∧ reminder.dueAt = 253402300770000 ∧
      reminder.notebook = .text "Inbox") ∧
    late.1 = .error .dateOutOfRange ∧ Room.own.vault late.2.state = Room.own.vault lastMinute.state := by
  intro early late
  have hstore : Desk.services.StoresReminders Room.own := Desk.faithful_services.createReminder
  have hparse : Line.parse "/remind 30s happy  new year" lastMinute.marker =
      ⟨"remind", ["30s", "happy", "new", "year"]⟩ := by decide
  have hcommand : ∀ raw, (Line.parse raw lastMinute.marker).name = "remind" →
      lastMinute.registry.resolve? (Line.parse raw lastMinute.marker).name defaultMarker =
        some (Builtin.reminder Desk.services "/") := by
    intro raw hname
    rw [hname]
    rfl
  have hearly : ∃ result, early.1 = .ok result ∧ result.success = true := ⟨_, rfl, rfl⟩
  have hlate : late.1 = .error .dateOutOfRange := rfl
  obtain ⟨hset, -⟩ := reminder_is_all_or_nothing hstore
    (hcommand "/remind 30s happy  new year" (congrArg Invocation.name hparse)) (Prod.eta early).symm
  obtain ⟨-, hnone⟩ := reminder_is_all_or_nothing hstore
    (hcommand "/remind 2m happy new year" (by decide)) (Prod.eta late).symm
  clear_value early late
  refine ⟨?_, hlate, hnone fun result hresult => nomatch hlate.symm.trans hresult⟩
  obtain ⟨result, hresult, hsuccess⟩ := hearly
  obtain ⟨time, words, due, dueAt, reminder, hargs, htime, hat, hadded, hmessage, hdueAt, hnotebook⟩ :=
    hset result hresult hsuccess
  rw [hparse] at hargs
  obtain ⟨rfl, rfl⟩ := List.cons.inj hargs
  have hdue : dueTime "30s" lastMinute.state.now =
      .ok (some ⟨315537897570000000, some 0, by decide⟩) := by decide +kernel
  obtain rfl := Option.some.inj (Except.ok.inj (hdue.symm.trans htime))
  refine ⟨reminder, hadded, hmessage, ?_, hnotebook⟩
  rw [hdueAt]
  exact Except.ok.inj (hat.symm.trans (by decide +kernel))

end Session

end Jotter
