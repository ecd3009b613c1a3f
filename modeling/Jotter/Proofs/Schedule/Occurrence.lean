import Jotter.Proofs.Calendar.Moment
import Jotter.Schedule.Resolution

/-! The next occurrence. A time of day, a weekday and the next month each describe the moment that they mean
without saying how it is found; the moment is found iff the calendar has it. Below each description is first
turned into a day and what the clock shows on that day. -/

namespace Jotter

open Moment

variable {now due : Moment}

/-! ### Times of day -/

/-- The first later moment of the same clock at which it shows a time of day. -/
structure FirstShowing (now due : Moment) (time : ClockTime) : Prop where
  offset_eq : due.offset = now.offset
  shows : due.Shows time.hour time.minute
  later : now.instant < due.instant
  first : ∀ m : Moment, m.offset = now.offset → m.Shows time.hour time.minute →
    now.instant < m.instant → due.instant ≤ m.instant

/-- The microseconds from midnight to a time of day. -/
def ClockTime.micros (time : ClockTime) : Nat :=
  (time.hour.val * 60 + time.minute.val) * 60000000

theorem ClockTime.micros_lt (time : ClockTime) : time.micros < 86400000000 := by
  rw [ClockTime.micros]
  omega

/-- The day on which a clock next shows a time of day: today, unless it is over. -/
def ClockTime.nextDay (time : ClockTime) (now : Moment) : Nat :=
  if time.micros ≤ now.timeOfDay then now.dayNumber + 1 else now.dayNumber

/-- A moment at which the clock shows the time is later iff it is not on an earlier day. -/
theorem instant_lt_iff_nextDay_le {time : ClockTime} {m : Moment} (hoffset : m.offset = now.offset)
    (hshows : m.Shows time.hour time.minute) :
    now.instant < m.instant ↔ time.nextDay now ≤ m.dayNumber := by
  have hbound := time.micros_lt
  have hnow := now.wall_eq
  have hnowTime := now.timeOfDay_lt
  have hwall : m.wall = m.dayNumber * 86400000000 + time.micros := hshows.wall_eq
  rw [instant_lt_iff hoffset, ClockTime.nextDay]
  split <;> omega

theorem firstShowing_iff {time : ClockTime} : FirstShowing now due time ↔
    due.offset = now.offset ∧ due.dayNumber = time.nextDay now ∧ due.Shows time.hour time.minute := by
  constructor
  · rintro ⟨hoffset, hshows, hlater, hfirst⟩
    have hle := (instant_lt_iff_nextDay_le hoffset hshows).1 hlater
    -- the clock shows the time on that day too
    obtain ⟨m, hm, hday, htime⟩ :=
      exists_moment now.offset (Nat.lt_of_le_of_lt hle due.dayNumber_lt) time.micros_lt
    have hmShows : m.Shows time.hour time.minute := shows_iff.2 htime
    have hmLater := (instant_lt_iff_nextDay_le hm hmShows).2 (Nat.le_of_eq hday.symm)
    have hge := (hshows.instant_le_iff hmShows (hm.trans hoffset.symm)).1 (hfirst m hm hmShows hmLater)
    exact ⟨hoffset, Nat.le_antisymm (hday ▸ hge) hle, hshows⟩
  · rintro ⟨hoffset, hday, hshows⟩
    refine ⟨hoffset, hshows, (instant_lt_iff_nextDay_le hoffset hshows).2 (Nat.le_of_eq hday.symm), ?_⟩
    intro m hm hmShows hmLater
    rw [hshows.instant_le_iff hmShows (hm.trans hoffset.symm), hday]
    exact (instant_lt_iff_nextDay_le hm hmShows).1 hmLater

theorem next_eq_ok_iff {time : ClockTime} : time.next now = .ok due ↔ FirstShowing now due time := by
  have hoffset := now.atTime_offset time.hour time.minute
  obtain ⟨hday, hshows⟩ := now.atTime_spec time.hour time.minute
  have hwall : (now.atTime time.hour time.minute).wall =
      now.dayNumber * 86400000000 + time.micros := now.atTime_wall time.hour time.minute
  have hnow := now.wall_eq
  rw [firstShowing_iff, ClockTime.nextDay, ClockTime.next]
  by_cases hover : (now.atTime time.hour time.minute).wall ≤ now.wall
  · have htomorrow : (now.atTime time.hour time.minute).addDays ((1 : Nat) : Int) = .ok due ↔ _ :=
      addDays_eq_ok_iff
    rw [if_pos hover, if_pos (by omega)]
    refine htomorrow.trans ?_
    rw [hoffset, hday, shows_iff, shows_iff.1 hshows]
  · rw [if_neg hover, if_neg (by omega), Except.ok.injEq, atTime_eq_iff]

/-! ### Mornings -/

theorem morningAfter_eq_ok_iff {days : Nat} : morningAfter now days = .ok due ↔
    due.offset = now.offset ∧ due.dayNumber = now.dayNumber + days ∧ due.Shows 9 0 := by
  rw [morningAfter]
  constructor
  · intro hdue
    cases hday : now.addDays days with
    | error failure =>
        rw [hday] at hdue
        cases hdue
    | ok day =>
        rw [hday] at hdue
        obtain ⟨hoffset, hnumber, -⟩ := addDays_eq_ok_iff.1 hday
        obtain ⟨hsame, hdueDay, hshows⟩ := atTime_eq_iff.1 (Except.ok.inj hdue)
        exact ⟨hsame.trans hoffset, hdueDay.trans hnumber, hshows⟩
  · rintro ⟨hoffset, hnumber, hshows⟩
    obtain ⟨day, hday, hdayNumber, htime⟩ := exists_moment now.offset
      (hnumber ▸ due.dayNumber_lt) now.timeOfDay_lt
    have hmoved : now.addDays days = pure day := addDays_eq_ok_iff.2 ⟨hday, hdayNumber, htime⟩
    rw [hmoved, pure_bind]
    refine congrArg Except.ok (atTime_eq_iff.2 ⟨hoffset.trans hday.symm, ?_, hshows⟩)
    rw [hnumber, hdayNumber]

/-- Nine o'clock on the first later date that falls on a weekday. -/
structure FirstMorning (now due : Moment) (day : Weekday) : Prop where
  offset_eq : due.offset = now.offset
  shows : due.Shows 9 0
  weekday_eq : due.weekday = day
  later : now.date.Precedes due.date
  first : ∀ date : Date, date.Valid → Weekday.ofDayNumber date.dayNumber = day →
    now.date.Precedes date → ¬ date.Precedes due.date

theorem Weekday.ofDayNumber_eq_iff {n : Nat} {day : Weekday} :
    Weekday.ofDayNumber n = day ↔ n % 7 = day.index := by
  rw [← Weekday.index_ofDayNumber n]
  refine ⟨congrArg Weekday.index, fun hindex => ?_⟩
  cases hofDay : Weekday.ofDayNumber n <;> rw [hofDay] at hindex <;> cases day <;>
    first | rfl | cases hindex

theorem Weekday.index_lt (day : Weekday) : day.index < 7 := by
  cases day <;> decide

/-- The days to a weekday lead to it, and no fewer days do. -/
theorem daysAfter_spec (n : Nat) (day : Weekday) :
    n < n + (Weekday.ofDayNumber n).daysAfter day ∧
      (n + (Weekday.ofDayNumber n).daysAfter day) % 7 = day.index ∧
      ∀ later, n < later → later % 7 = day.index →
        n + (Weekday.ofDayNumber n).daysAfter day ≤ later := by
  have hday := day.index_lt
  rw [Weekday.daysAfter, Weekday.index_ofDayNumber]
  refine ⟨?_, ?_, fun later hlater hindex => ?_⟩ <;> omega

theorem firstMorning_iff {day : Weekday} : FirstMorning now due day ↔
    due.offset = now.offset ∧ due.dayNumber = now.dayNumber + now.weekday.daysAfter day ∧
      due.Shows 9 0 := by
  obtain ⟨hnowDate, hnow⟩ := now.date_spec
  obtain ⟨hdueDate, hdue⟩ := due.date_spec
  obtain ⟨hbehind, hindex, hleast⟩ := daysAfter_spec now.dayNumber day
  constructor
  · rintro ⟨hoffset, hshows, hweekday, hlater, hfirst⟩
    rw [← Date.dayNumber_lt_iff hnowDate hdueDate, hnow, hdue] at hlater
    refine ⟨hoffset, Nat.le_antisymm ?_ ?_, hshows⟩
    · -- the date that the days lead to is one of the later dates on that weekday
      obtain ⟨hfound, hfoundNumber⟩ :=
        Date.ofDayNumber_spec (now.dayNumber + now.weekday.daysAfter day)
      have hnotBefore := hfirst _ hfound
        (Weekday.ofDayNumber_eq_iff.2 (by rw [hfoundNumber]; exact hindex))
        ((Date.dayNumber_lt_iff hnowDate hfound).1 (by rw [hnow, hfoundNumber]; exact hbehind))
      rw [← Date.dayNumber_lt_iff hfound hdueDate, hfoundNumber, hdue] at hnotBefore
      exact Nat.not_lt.1 hnotBefore
    · exact hleast due.dayNumber hlater (Weekday.ofDayNumber_eq_iff.1 hweekday)
  · rintro ⟨hoffset, hday, hshows⟩
    refine ⟨hoffset, hshows, ?_, ?_, fun date hdate hweekday hlater => ?_⟩
    · rw [weekday, Weekday.ofDayNumber_eq_iff, hday]
      exact hindex
    · rw [← Date.dayNumber_lt_iff hnowDate hdueDate, hnow, hdue, hday]
      exact hbehind
    · rw [← Date.dayNumber_lt_iff hnowDate hdate, hnow] at hlater
      rw [← Date.dayNumber_lt_iff hdate hdueDate, hdue, hday, Nat.not_lt]
      exact hleast date.dayNumber hlater (Weekday.ofDayNumber_eq_iff.1 hweekday)

/-! ### The next month -/

/-- The same day of the next month, or the last day of that month if it has no such day. -/
def Date.monthLater (date : Date) : Date :=
  let year := if date.month = 12 then date.year + 1 else date.year
  let month := if date.month = 12 then 1 else date.month + 1
  ⟨year, month, min date.day (Date.monthLength year month)⟩

/-- Nine o'clock in the month after this one, on the same day or on the last day of that month. -/
structure NextMonthMorning (now due : Moment) : Prop where
  offset_eq : due.offset = now.offset
  shows : due.Shows 9 0
  month_eq : due.date.year * 12 + due.date.month = now.date.year * 12 + now.date.month + 1
  day_eq : due.date.day = min now.date.day (Date.monthLength due.date.year due.date.month)

theorem Date.valid_monthLater {date : Date} (hdate : date.Valid) : date.monthLater.Valid := by
  obtain ⟨hyear, hmonth, hlast, hday, -⟩ := hdate
  have hlength := Date.le_monthLength date.monthLater.year date.monthLater.month
  have hdayEq : date.monthLater.day =
    min date.day (Date.monthLength date.monthLater.year date.monthLater.month) := rfl
  refine ⟨?_, ?_, ?_, by omega, by omega⟩ <;> simp only [Date.monthLater] <;> split <;> omega

theorem Date.precedes_monthLater {date : Date} (hdate : date.Valid) : date.Precedes date.monthLater := by
  have hlast := hdate.month_le
  simp only [Date.Precedes, Date.monthLater]
  split <;> omega

theorem Date.eq_monthLater_iff {date later : Date} (hdate : date.Valid) (hlater : later.Valid) :
    later = date.monthLater ↔ later.year * 12 + later.month = date.year * 12 + date.month + 1 ∧
      later.day = min date.day (Date.monthLength later.year later.month) := by
  have hmonth := hdate.one_le_month
  have hlast := hdate.month_le
  have hlaterMonth := hlater.one_le_month
  have hlaterLast := hlater.month_le
  constructor
  · rintro rfl
    refine ⟨?_, rfl⟩
    simp only [Date.monthLater]
    split <;> omega
  · rintro ⟨hnext, hday⟩
    obtain ⟨year, month, day⟩ := later
    dsimp only at hnext hday hlaterMonth hlaterLast
    have hyear : year = if date.month = 12 then date.year + 1 else date.year := by
      split <;> omega
    have hnextMonth : month = if date.month = 12 then 1 else date.month + 1 := by
      split <;> omega
    rw [Date.monthLater, ← hyear, ← hnextMonth, ← hday]

theorem morningNextMonth_of_year_lt (hyear : 9999 < now.date.monthLater.year) :
    morningNextMonth now = .error (.yearOutOfRange now.date.monthLater.year) := by
  simp only [Date.monthLater] at hyear ⊢
  simp only [morningNextMonth, if_pos hyear]

theorem morningNextMonth_of_none (hyear : ¬ 9999 < now.date.monthLater.year)
    (hday : ofDate? now.date.monthLater 0 now.offset = none) :
    morningNextMonth now = .error .dateOutOfRange := by
  simp only [Date.monthLater] at hyear hday
  simp only [morningNextMonth, if_neg hyear, hday]

theorem morningNextMonth_of_some {day : Moment} (hyear : ¬ 9999 < now.date.monthLater.year)
    (hday : ofDate? now.date.monthLater 0 now.offset = some day) :
    morningNextMonth now = .ok (day.atTime 9 0) := by
  simp only [Date.monthLater] at hyear hday
  simp only [morningNextMonth, if_neg hyear, hday]

theorem exists_of_morningNextMonth (hdue : morningNextMonth now = .ok due) :
    ∃ day, ofDate? now.date.monthLater 0 now.offset = some day ∧ day.atTime 9 0 = due := by
  by_cases hyear : 9999 < now.date.monthLater.year
  · rw [morningNextMonth_of_year_lt hyear] at hdue
    cases hdue
  · cases hday : ofDate? now.date.monthLater 0 now.offset with
    | none =>
        rw [morningNextMonth_of_none hyear hday] at hdue
        cases hdue
    | some day =>
        rw [morningNextMonth_of_some hyear hday] at hdue
        exact ⟨day, rfl, Except.ok.inj hdue⟩

/-- The day of the next month is found iff the calendar has it. -/
theorem morningNextMonth_eq_ok_iff_date : morningNextMonth now = .ok due ↔
    due.offset = now.offset ∧ due.date = now.date.monthLater ∧ due.Shows 9 0 := by
  have hmonthLater := Date.valid_monthLater now.date_spec.1
  constructor
  · intro hdue
    obtain ⟨day, hday, hdueTime⟩ := exists_of_morningNextMonth hdue
    obtain ⟨hoffset, hnumber, -⟩ := ofDate?_eq_some_iff.1 hday
    obtain ⟨hsame, hdueDay, hshows⟩ := atTime_eq_iff.1 hdueTime
    refine ⟨hsame.trans hoffset, ?_, hshows⟩
    rw [date, hdueDay, hnumber, Date.ofDayNumber_dayNumber hmonthLater]
  · rintro ⟨hoffset, hdate, hshows⟩
    have hnumber := due.date_spec.2
    rw [hdate] at hnumber
    have hlast := due.dayNumber_lt
    have hyear : ¬ 9999 < now.date.monthLater.year := by
      rwa [Nat.not_lt, ← Date.dayNumber_lt_iff_year_le hmonthLater, hnumber]
    obtain ⟨day, hday, hdayNumber, htime⟩ := exists_moment now.offset hlast (Nat.succ_pos _)
    rw [morningNextMonth_of_some hyear
      (ofDate?_eq_some_iff.2 ⟨hday, hdayNumber.trans hnumber.symm, htime⟩)]
    exact congrArg Except.ok (atTime_eq_iff.2 ⟨hoffset.trans hday.symm, hdayNumber.symm, hshows⟩)

theorem morningNextMonth_eq_ok_iff : morningNextMonth now = .ok due ↔ NextMonthMorning now due := by
  rw [morningNextMonth_eq_ok_iff_date, Date.eq_monthLater_iff now.date_spec.1 due.date_spec.1]
  constructor
  · rintro ⟨hoffset, ⟨hmonth, hday⟩, hshows⟩
    exact ⟨hoffset, hshows, hmonth, hday⟩
  · rintro ⟨hoffset, hshows, hmonth, hday⟩
    exact ⟨hoffset, ⟨hmonth, hday⟩, hshows⟩

end Jotter
