import Jotter.Schedule.Resolution

/-! Why a time cannot be worked out. A numeral is too long, or a time span, a date or a year is too
large; the calendar gives no other reason. -/

namespace Jotter

variable {α β : Type}

/-- Failures for which a time cannot be worked out. -/
def Failure.ofTime : Failure → Bool
  | numeralTooLong _ | yearOutOfRange _ | dateOutOfRange | durationOutOfRange _ => true
  | _ => false

/-- Of these the prompt loop tells all but the failures of dates and time spans. -/
theorem Failure.not_isRecoverable_iff {failure : Failure} (htime : failure.ofTime = true) :
    failure.isRecoverable = false ↔
      failure = .dateOutOfRange ∨ ∃ days, failure = .durationOutOfRange days := by
  cases failure with
  | numeralTooLong digits => simp [isRecoverable, family]
  | yearOutOfRange year => simp [isRecoverable, family]
  | dateOutOfRange => simp [isRecoverable, family]
  | durationOutOfRange days => simp [isRecoverable, family]
  | _ => cases htime

/-- A computation that fails only because of a time. -/
def OfTime (came : Except Failure α) : Prop :=
  ∀ failure, came = .error failure → failure.ofTime = true

namespace OfTime

theorem ok (a : α) : OfTime (.ok a) :=
  nofun

theorem error {failure : Failure} (htime : failure.ofTime = true) :
    OfTime (.error failure : Except Failure α) := by
  rintro _ ⟨⟩
  exact htime

theorem bind {came : Except Failure α} {next : α → Except Failure β} (hcame : OfTime came)
    (hnext : ∀ a, OfTime (next a)) : OfTime (came >>= next) := by
  cases came with
  | error failure => exact error (hcame failure rfl)
  | ok a => exact hnext a

theorem map {came : Except Failure α} (hcame : OfTime came) (f : α → β) :
    OfTime (came.map f) := by
  cases came with
  | error failure => exact error (hcame failure rfl)
  | ok a => exact ok (f a)

end OfTime

/-! ### Reading -/

theorem ofTime_spanOf (digits : List Char) (unit : TimeUnit) : OfTime (spanOf digits unit) := by
  have hnumeral : OfTime (Text.numeral digits) := by
    rw [Text.numeral]
    split
    · exact .error rfl
    · exact .ok _
  refine hnumeral.bind fun count => ?_
  rw [span]
  split
  · exact .error rfl
  · exact .ok _

theorem ofTime_readDistance (text : String) : OfTime (readDistance text) := by
  rw [readDistance]
  split
  · split
    · exact (ofTime_spanOf _ _).map some
    · exact .ok _
  · exact .ok _

theorem ofTime_readNatural (text : String) : OfTime (readNatural text) := by
  rw [readNatural]
  split
  · repeat' split
    all_goals exact .ok _
  · repeat' split
    all_goals exact .ok _
  · split
    · split
      · exact (ofTime_spanOf _ _).map _
      · exact .ok _
    · exact .ok _
  · exact .ok _

theorem ofTime_read (text : String) : OfTime (TimeExpression.read text) := by
  refine (ofTime_readDistance text).bind fun distance => ?_
  cases distance with
  | some seconds => exact .ok _
  | none =>
      refine (ofTime_readNatural text).bind fun date => ?_
      cases date <;> exact .ok _

/-! ### Resolution -/

theorem ofTime_shift (now : Moment) (micros : Int) : OfTime (now.shift micros) := by
  rw [Moment.shift]
  split
  · exact .ok _
  · exact .error rfl

/-- A moment behind the last one of the calendar. -/
theorem shift_of_calendarSpan_le {now : Moment} {micros : Int}
    (hpast : (calendarSpan : Int) ≤ now.wall + micros) :
    now.shift micros = .error .dateOutOfRange := by
  rw [Moment.shift, Moment.withWall?, dif_neg]
  exact fun hfits => absurd hfits.2 (Int.not_lt.2 hpast)

theorem ofTime_addSeconds (now : Moment) (seconds : Int) : OfTime (now.addSeconds seconds) := by
  rw [Moment.addSeconds]
  exact ofTime_shift now _

theorem ofTime_next (time : ClockTime) (now : Moment) : OfTime (time.next now) := by
  rw [ClockTime.next]
  split
  · exact ofTime_shift _ _
  · exact .ok _

theorem ofTime_morningAfter (now : Moment) (days : Nat) : OfTime (morningAfter now days) :=
  (ofTime_shift now _).bind fun _ => .ok _

theorem ofTime_morningNextMonth (now : Moment) : OfTime (morningNextMonth now) := by
  rw [morningNextMonth]
  generalize (if now.date.month = 12 then now.date.year + 1 else now.date.year) = year
  split
  · exact .error rfl
  · split
    · exact .ok _
    · exact .error rfl

theorem ofTime_naturalDate (date : NaturalDate) (now : Moment) : OfTime (date.resolve now) := by
  cases date with
  | today => exact ofTime_shift now (3600000000 - now.timeOfDay % 3600000000)
  | tomorrow => exact ofTime_morningAfter now 1
  | tonight => exact ofTime_next ⟨20, 0⟩ now
  | nextWeek => exact ofTime_morningAfter now 7
  | nextMonth => exact ofTime_morningNextMonth now
  | weekday day => exact ofTime_morningAfter now (now.weekday.daysAfter day)
  | afterSeconds seconds => exact ofTime_addSeconds now seconds

theorem ofTime_resolve (expression : TimeExpression) (now : Moment) :
    OfTime (expression.resolve now) := by
  cases expression with
  | distance seconds => exact ofTime_addSeconds now seconds
  | natural date => exact ofTime_naturalDate date now
  | clock time => exact ofTime_next time now

theorem dueTime_of_read {text : String} {expression : TimeExpression}
    (hread : TimeExpression.read text = .ok (some expression)) (now : Moment) :
    dueTime text now = (expression.resolve now).map some := by
  rw [dueTime, hread]
  change (expression.resolve now >>= fun due => pure (some due)) = _
  cases expression.resolve now <;> rfl

theorem ofTime_dueTime (text : String) (now : Moment) : OfTime (dueTime text now) := by
  refine (ofTime_read text).bind fun expression => ?_
  cases expression with
  | none => exact .ok _
  | some expression => exact (ofTime_resolve expression now).bind fun _ => .ok _

end Jotter
