import Jotter.Proofs.Schedule.Dial
import Jotter.Proofs.Schedule.Due
import Jotter.Proofs.Schedule.Overflow

/-! The forms of the calendar. Which words are read as which form, and what each of them means: a clock time,
`tonight`, a weekday and `next month` lead to the next occurrence of what they name, whenever the calendar has
it. What a clock is shown as leads back to the moment at which it is shown. -/

namespace Jotter

open Text Moment

variable {text : String} {now due : Moment}

theorem dueTime_eq_ok_iff {expression : TimeExpression}
    (hread : TimeExpression.read text = .ok (some expression)) :
    dueTime text now = .ok (some due) ↔ expression.resolve now = .ok due := by
  rw [dueTime_of_read hread]
  constructor
  · intro hdue
    obtain ⟨moment, hmeant, hsame⟩ := exists_of_map_eq_ok hdue
    obtain rfl := Option.some.inj hsame
    exact hmeant
  · intro hmeant
    rw [hmeant]
    rfl

/-- A natural date is read unless its first word begins with a digit. -/
theorem read_of_readNatural {date : NaturalDate}
    (hwords : ∀ word, expressionWords text = [word] → startsWithDigit word.toList = false)
    (hread : readNatural text = .ok (some date)) :
    TimeExpression.read text = .ok (some (.natural date)) := by
  rw [read_of_readDistance (readDistance_eq_none hwords), hread]
  rfl

theorem read_tonight (hwords : expressionWords text = ["tonight"]) :
    TimeExpression.read text = .ok (some (.natural .tonight)) := by
  refine read_of_readNatural (fun word hword => ?_) ?_
  · obtain rfl := (List.cons.inj (hwords.symm.trans hword)).1
    decide
  · rw [readNatural, wordsChars_expressionChars, hwords]
    rfl

theorem read_weekday {day : Weekday} (hwords : expressionWords text = [lower day.name]) :
    TimeExpression.read text = .ok (some (.natural (.weekday day))) := by
  refine read_of_readNatural (fun word hword => ?_) ?_
  · obtain rfl := (List.cons.inj (hwords.symm.trans hword)).1
    cases day <;> decide
  · rw [readNatural, wordsChars_expressionChars, hwords]
    cases day <;> decide

theorem read_nextMonth (hwords : expressionWords text = ["next", "month"]) :
    TimeExpression.read text = .ok (some (.natural .nextMonth)) := by
  refine read_of_readNatural (fun word hword => ?_) ?_
  · cases hwords.symm.trans hword
  · rw [readNatural, wordsChars_expressionChars, hwords]
    rfl

/-- Within a day a clock shows a time of day once. -/
theorem firstShowing_clockTime (hoffset : due.offset = now.offset) (hsecond : due.second = 0)
    (hmicrosecond : due.microsecond = 0) (hlater : now.instant < due.instant)
    (hday : due.instant ≤ now.instant + microsPerDay) : FirstShowing now due due.clockTime := by
  have hshows : due.Shows due.clockTime.hour due.clockTime.minute := ⟨rfl, rfl, hsecond, hmicrosecond⟩
  refine ⟨hoffset, hshows, hlater, fun m hm hmShows hmLater => ?_⟩
  have hdueWall := hshows.wall_eq
  have hmWall := hmShows.wall_eq
  have hnow : due.wall ≤ now.wall + 86400000000 := by
    rw [instant, instant, hoffset, microsPerDay] at hday
    omega
  rw [instant_lt_iff hm] at hmLater
  rw [instant_le_iff (hm.trans hoffset.symm)]
  -- a day that shows the time earlier is a day before, and then it is not later than now
  omega

/-- Each form of the calendar means the next occurrence of what it names, and a moment of the next day is
found again by what the clock is shown as. -/
theorem calendar_forms_mean_next_occurrence (now : Moment) :
    (∀ text time due, time.Written (expressionChars text) →
      (dueTime text now = .ok (some due) ↔ FirstShowing now due time)) ∧
    (∀ text due, expressionWords text = ["tonight"] →
      (dueTime text now = .ok (some due) ↔ FirstShowing now due ⟨20, 0⟩)) ∧
    (∀ text day due, expressionWords text = [lower day.name] →
      (dueTime text now = .ok (some due) ↔ FirstMorning now due day)) ∧
    (∀ text due, expressionWords text = ["next", "month"] →
      (dueTime text now = .ok (some due) ↔ NextMonthMorning now due)) ∧
    ∀ due : Moment, due.offset = now.offset → due.second = 0 → due.microsecond = 0 →
      now.instant < due.instant → due.instant ≤ now.instant + microsPerDay →
        readClock due.clockText = some due.clockTime ∧ due.clockTime.next now = .ok due ∧
          dueTime due.clockText now = .ok (some due) := by
  refine ⟨fun text time due hwritten => ?_, fun text due hwords => ?_, fun text day due hwords => ?_,
    fun text due hwords => ?_, fun due hoffset hsecond hmicrosecond hlater hday => ?_⟩
  · exact (dueTime_eq_ok_iff (ClockTime.read_of_written hwritten)).trans next_eq_ok_iff
  · exact (dueTime_eq_ok_iff (read_tonight hwords)).trans next_eq_ok_iff
  · exact (dueTime_eq_ok_iff (read_weekday hwords)).trans
      (morningAfter_eq_ok_iff.trans firstMorning_iff.symm)
  · exact (dueTime_eq_ok_iff (read_nextMonth hwords)).trans morningNextMonth_eq_ok_iff
  · have hwritten := due.written_clockText
    have hnext := next_eq_ok_iff.2 (firstShowing_clockTime hoffset hsecond hmicrosecond hlater hday)
    exact ⟨ClockTime.readClock_eq_some_iff.2 hwritten, hnext,
      (dueTime_eq_ok_iff (ClockTime.read_of_written hwritten)).2 hnext⟩

/-- The last microsecond of the 31st of January 2024, a Wednesday. -/
def monthEnd : Moment :=
  ⟨63842342399999999, some 19800, by decide⟩

/-- The last minute of the next day. -/
def nextMonthDay : Moment :=
  ⟨63842428740000000, some 19800, by decide⟩

/-- At the end of a month midnight is a microsecond away and Wednesday a week, and the same day of the next
month is its 29th. -/
theorem forms_at_month_end :
    FirstShowing monthEnd ⟨63842342400000000, some 19800, by decide⟩ ⟨0, 0⟩ ∧
      FirstShowing monthEnd ⟨63842414400000000, some 19800, by decide⟩ ⟨20, 0⟩ ∧
      FirstMorning monthEnd ⟨63842893200000000, some 19800, by decide⟩ .wednesday ∧
      NextMonthMorning monthEnd ⟨63844794000000000, some 19800, by decide⟩ ∧
      dueTime nextMonthDay.clockText monthEnd = .ok (some nextMonthDay) := by
  obtain ⟨hclock, htonight, hweekday, hnextMonth, hshown⟩ := calendar_forms_mean_next_occurrence monthEnd
  refine ⟨?_, ?_, ?_, ?_, ?_⟩
  · exact (hclock "12 AM" _ _ (ClockTime.readClock_eq_some_iff.1 (by decide +kernel))).1 (by decide +kernel)
  · exact (htonight " Tonight" _ (by decide +kernel)).1 (by decide +kernel)
  · exact (hweekday "WEDNESDAY" _ _ (by decide +kernel)).1 (by decide +kernel)
  · exact (hnextMonth "next  month" _ (by decide +kernel)).1 (by decide +kernel)
  · exact (hshown nextMonthDay rfl (by decide) (by decide) (by decide) (by decide)).2.2

end Jotter
