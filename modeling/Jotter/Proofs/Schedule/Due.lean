import Jotter.Proofs.Schedule.Occurrence
import Jotter.Proofs.Schedule.Reading

/-! Due times and the clock that they are worked out on. What an expression means is told on the same
clock and is not before the time at which it is asked; only a distance can be of no length. -/

namespace Jotter

namespace Moment

/-- A moment on the same clock that is not before `now`. -/
structure Follows (now due : Moment) : Prop where
  offset_eq : due.offset = now.offset
  wall_le : now.wall ≤ due.wall

/-- A moment on the same clock that is behind `now`. -/
structure Succeeds (now due : Moment) : Prop where
  offset_eq : due.offset = now.offset
  wall_lt : now.wall < due.wall

theorem Succeeds.follows {now due : Moment} (hdue : Succeeds now due) : Follows now due :=
  ⟨hdue.offset_eq, Nat.le_of_lt hdue.wall_lt⟩

variable {now later due : Moment}

theorem Follows.instant_le (hdue : Follows now due) : now.instant ≤ due.instant :=
  (instant_le_iff hdue.offset_eq).2 hdue.wall_le

theorem Succeeds.instant_lt (hdue : Succeeds now due) : now.instant < due.instant :=
  (instant_lt_iff hdue.offset_eq).2 hdue.wall_lt

theorem follows_of_shift {micros : Int} (hmicros : 0 ≤ micros) (hshift : now.shift micros = .ok later) :
    Follows now later := by
  obtain ⟨hoffset, hwall⟩ := shift_eq_ok_iff.1 hshift
  exact ⟨hoffset, by omega⟩

theorem succeeds_of_shift {micros : Int} (hmicros : 0 < micros)
    (hshift : now.shift micros = .ok later) : Succeeds now later := by
  obtain ⟨hoffset, hwall⟩ := shift_eq_ok_iff.1 hshift
  exact ⟨hoffset, by omega⟩

theorem follows_of_addSeconds {seconds : Nat} (hlater : now.addSeconds seconds = .ok later) :
    Follows now later :=
  follows_of_shift (by omega) hlater

/-- There is a tomorrow for every day before another one. -/
theorem addDays_one_of_dayNumber_lt (hday : now.dayNumber < later.dayNumber) :
    ∃ tomorrow, now.addDays 1 = .ok tomorrow := by
  obtain ⟨tomorrow, hoffset, hnumber, htime⟩ :=
    exists_moment now.offset (Nat.lt_of_le_of_lt hday later.dayNumber_lt) now.timeOfDay_lt
  exact ⟨tomorrow, addDays_eq_ok_iff.2 ⟨hoffset, hnumber, htime⟩⟩

end Moment

open Moment

variable {now due : Moment}

/-! ### Clock times and days -/

theorem succeeds_of_next {time : ClockTime} (hdue : time.next now = .ok due) : Succeeds now due := by
  have hfirst := next_eq_ok_iff.1 hdue
  exact ⟨hfirst.offset_eq, (instant_lt_iff hfirst.offset_eq).1 hfirst.later⟩

theorem succeeds_of_morningAfter {days : Nat} (hdays : 1 ≤ days)
    (hdue : morningAfter now days = .ok due) : Succeeds now due := by
  obtain ⟨hoffset, hday, -⟩ := morningAfter_eq_ok_iff.1 hdue
  exact ⟨hoffset, wall_lt_of_dayNumber_lt (by omega)⟩

theorem one_le_daysAfter (today day : Weekday) : 1 ≤ today.daysAfter day :=
  Nat.le_add_left 1 _

theorem succeeds_of_morningNextMonth (hdue : morningNextMonth now = .ok due) : Succeeds now due := by
  obtain ⟨hoffset, hdate, -⟩ := morningNextMonth_eq_ok_iff_date.1 hdue
  obtain ⟨hvalid, hnumber⟩ := now.date_spec
  refine ⟨hoffset, wall_lt_of_dayNumber_lt ?_⟩
  rw [← hnumber, ← due.date_spec.2, hdate]
  exact Date.dayNumber_lt_of_precedes hvalid (Date.precedes_monthLater hvalid)

/-! ### Expressions -/

/-- The seconds that an expression counts, if it counts any. -/
def TimeExpression.seconds? : TimeExpression → Option Nat
  | distance seconds => some seconds
  | natural (.afterSeconds seconds) => some seconds
  | natural _ => none
  | clock _ => none

theorem resolve_of_seconds {expression : TimeExpression} {seconds : Nat}
    (hseconds : expression.seconds? = some seconds) : expression.resolve now = now.addSeconds seconds := by
  cases expression with
  | distance counted =>
      obtain rfl : counted = seconds := Option.some.inj hseconds
      rfl
  | natural date =>
      cases date with
      | afterSeconds counted =>
          obtain rfl : counted = seconds := Option.some.inj hseconds
          rfl
      | _ => cases hseconds
  | clock time => cases hseconds

/-- What counts no seconds means a later moment. -/
theorem succeeds_of_resolve {expression : TimeExpression} (hseconds : expression.seconds? = none)
    (hdue : expression.resolve now = .ok due) : Succeeds now due := by
  cases expression with
  | distance seconds => cases hseconds
  | natural date =>
      cases date with
      | today =>
          refine succeeds_of_shift ?_ hdue
          have hhour : now.timeOfDay % 3600000000 < 3600000000 := Nat.mod_lt _ (by decide)
          omega
      | tomorrow => exact succeeds_of_morningAfter (Nat.le_refl 1) hdue
      | tonight => exact succeeds_of_next hdue
      | nextWeek => exact succeeds_of_morningAfter (by decide) hdue
      | nextMonth => exact succeeds_of_morningNextMonth hdue
      | weekday day => exact succeeds_of_morningAfter (one_le_daysAfter _ _) hdue
      | afterSeconds seconds => cases hseconds
  | clock time => exact succeeds_of_next hdue

theorem follows_of_resolve {expression : TimeExpression} (hdue : expression.resolve now = .ok due) :
    Follows now due := by
  cases hseconds : expression.seconds? with
  | none => exact (succeeds_of_resolve hseconds hdue).follows
  | some seconds =>
      rw [resolve_of_seconds hseconds] at hdue
      exact follows_of_addSeconds hdue

/-- A due time is what the expression means that the text is read as. -/
theorem exists_of_dueTime {text : String} (hdue : dueTime text now = .ok (some due)) :
    ∃ expression, TimeExpression.read text = .ok (some expression) ∧ expression.resolve now = .ok due := by
  obtain ⟨expression?, hread, hresolved⟩ := exists_of_bind_eq_ok hdue
  cases expression? with
  | none => cases hresolved
  | some expression =>
      obtain ⟨moment, hmoment, hsame⟩ := exists_of_bind_eq_ok hresolved
      obtain rfl : moment = due := Option.some.inj (Except.ok.inj hsame)
      exact ⟨expression, hread, hmoment⟩

/-- A due time is told on the clock that was asked, and it is not before the time of asking. -/
theorem follows_of_dueTime {text : String} (hdue : dueTime text now = .ok (some due)) :
    Follows now due := by
  obtain ⟨expression, -, hmeant⟩ := exists_of_dueTime hdue
  exact follows_of_resolve hmeant

/-! ### Telling a due time -/

/-- A time that is not before now can be told: on the last day of the calendar it is today. -/
theorem dueText_of_follows (hdue : Follows now due) : ∃ text, dueText due now = .ok text := by
  rw [dueText]
  by_cases htoday : due.date = now.date
  · rw [if_pos htoday]
    exact ⟨_, rfl⟩
  · rw [if_neg htoday]
    have hday : now.dayNumber < due.dayNumber := by
      refine Nat.lt_of_le_of_ne (Nat.div_le_div_right hdue.wall_le) fun hsame => htoday ?_
      rw [date, date, hsame]
    obtain ⟨tomorrow, htomorrow⟩ := addDays_one_of_dayNumber_lt hday
    have hpure : now.addDays 1 = pure tomorrow := htomorrow
    rw [hpure, pure_bind]
    by_cases hsame : due.date = tomorrow.date
    · rw [if_pos hsame]
      exact ⟨_, rfl⟩
    · rw [if_neg hsame]
      exact ⟨_, rfl⟩

end Jotter
