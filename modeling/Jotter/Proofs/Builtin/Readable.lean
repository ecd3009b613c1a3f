import Jotter.Proofs.Builtin.Validated
import Jotter.Proofs.Schedule.Forms
import Jotter.Proofs.Schedule.Grammar

/-! The time of a reminder is read twice, by the check and by the handler, and the clock may have moved in
between. Whether a text is a time expression is settled without the clock, so the handler understands every
time that the check has understood. -/

namespace Jotter

variable {σ : Type}

namespace Builtin

/-- A reminder whose time is understood is set, unless something fails. -/
theorem success_of_setReminder {services : Services σ} {time : String} {words : List String}
    {scene : Scene σ} {result : Result} (htime : dueTime time (services.clock scene.state) ≠ .ok none)
    (hended : ((setReminder services (time :: words)).run.run scene).1 = .ok result) :
    result.success = true := by
  rw [setReminder, Attempt.run_bind, Attempt.get_run] at hended
  dsimp only at hended
  have hfirst : (firstArgument (time :: words) : Action σ String).run.run scene = (.ok time, scene) := rfl
  rw [Attempt.run_bind, hfirst] at hended
  obtain ⟨due?, changed, hdue, hended⟩ := Attempt.exists_of_run_bind hended
  rw [Attempt.ofExcept_run] at hdue
  cases due? with
  | none => exact absurd (congrArg Prod.fst hdue) htime
  | some due =>
      obtain ⟨context, _, -, hended⟩ := Attempt.exists_of_run_bind hended
      obtain ⟨dueAt, _, -, hended⟩ := Attempt.exists_of_run_bind hended
      obtain ⟨reminder, _, -, hended⟩ := Attempt.exists_of_run_bind hended
      obtain ⟨told, _, -, hended⟩ := Attempt.exists_of_run_bind hended
      rw [← Except.ok.inj hended]

/-- No text fits two readers, on whatever clocks, so that in every order they tell the same due time. A text
has none iff it is not in the grammar, whatever the clock says, and it fails to be worked out only because a
numeral, a time span or a date is too large. So once the check of a reminder has said yes, the handler turns
the time away on no clock: if it comes to a result at all, the reminder is set. -/
theorem time_expressions_are_exact (services : Services σ) (marker text : String) :
    (∀ reader other : TimeReader, reader ≠ other → ∀ now later,
      reader.due text now ≠ .ok none → other.due text later = .ok none) ∧
    (∀ order : List TimeReader, order.Perm TimeReader.all → ∀ now,
      TimeReader.firstDue text now order = dueTime text now) ∧
    (∀ now, dueTime text now = .ok none ↔ ¬ TimeForm text) ∧
    (∀ now failure, dueTime text now = .error failure → failure.ofTime = true) ∧
    ∀ words before after, (reminder services marker).hooks.Admits (text :: words) before after →
      ∀ scene result,
        (((reminder services marker).hooks.execute (text :: words)).run.run scene).1 = .ok result →
          result.success = true := by
  refine ⟨fun reader other hne now later hfits => ?_, fun order hperm now => ?_,
    fun now => dueTime_eq_none_iff, fun now => ofTime_dueTime text now,
    fun words before after hadmits scene result hended => ?_⟩
  · have hread := (TimeReader.read_apart hne).resolve_left (mt TimeReader.due_eq_none_iff.2 hfits)
    exact TimeReader.due_eq_none_iff.2 hread
  · rw [TimeReader.firstDue_perm hperm, TimeReader.firstDue_all]
  · obtain ⟨time, others, due, hargs, hdue⟩ := reminderVerdict_eq_valid (reminderVerdict_of_admits hadmits)
    obtain ⟨rfl, rfl⟩ := List.cons.inj hargs
    have hfits : dueTime text (services.clock before.state) ≠ .ok none := by
      rw [hdue]
      exact nofun
    -- the grammar is what leads from the one clock to the other
    exact success_of_setReminder (mt dueTime_eq_none_iff.1 (mt dueTime_eq_none_iff.2 hfits)) hended

/-- A desk at some time. -/
def deskAt (now : Moment) : Scene Desk :=
  ⟨{}, ⟨[]⟩, ⟨{}, now⟩⟩

/-- A time that is checked in the last microsecond of a day is understood on the next one. -/
theorem time_is_understood_on_next_day :
    (reminder Desk.services "/").hooks.Admits [" 12\u00a0AM", "sleep"] (deskAt monthEnd) (deskAt monthEnd) ∧
      ∃ result, (((reminder Desk.services "/").hooks.execute [" 12\u00a0AM", "sleep"]).run.run
        (deskAt nextMonthDay)).1 = .ok result ∧ result.success = true := by
  obtain ⟨own, hown, hrun⟩ := reminder_check Desk.services "/"
  have hverdict : reminderVerdict "/" monthEnd [" 12\u00a0AM", "sleep"] = .ok .valid := by decide +kernel
  have hadmits : (reminder Desk.services "/").hooks.Admits [" 12\u00a0AM", "sleep"] (deskAt monthEnd)
      (deskAt monthEnd) := .valid hown ((hrun _ _).trans (congrArg (·, deskAt monthEnd) hverdict))
  obtain ⟨-, -, -, -, hset⟩ := time_expressions_are_exact Desk.services "/" " 12\u00a0AM"
  have hended : ∃ result, (((reminder Desk.services "/").hooks.execute [" 12\u00a0AM", "sleep"]).run.run
      (deskAt nextMonthDay)).1 = .ok result := ⟨_, rfl⟩
  obtain ⟨result, hresult⟩ := hended
  exact ⟨hadmits, result, hresult, hset _ _ _ hadmits _ result hresult⟩

end Builtin

end Jotter
