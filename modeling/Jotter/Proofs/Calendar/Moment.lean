import Mathlib.Order.Defs.LinearOrder
import Jotter.Calendar.Moment
import Jotter.Proofs.Calendar.Date

/-! Moments by their day and their time of day. On one clock a moment is the day it is on and what the clock
shows on that day; moving on by days keeps the time, and a time of day is on the same day. -/

namespace Jotter.Moment

variable {now later due m : Moment}

theorem eq_of_wall (hoffset : now.offset = later.offset) (hwall : now.wall = later.wall) : now = later := by
  cases now
  cases later
  simp_all

/-! ### Instants -/

theorem instant_lt_iff (hoffset : later.offset = now.offset) :
    now.instant < later.instant ↔ now.wall < later.wall := by
  rw [instant, instant, hoffset]
  omega

theorem instant_le_iff (hoffset : later.offset = now.offset) :
    now.instant ≤ later.instant ↔ now.wall ≤ later.wall := by
  rw [instant, instant, hoffset]
  omega

/-! ### Days and times of day -/

theorem wall_eq (m : Moment) : m.wall = m.dayNumber * 86400000000 + m.timeOfDay :=
  (Nat.div_add_mod' _ _).symm

theorem timeOfDay_lt (m : Moment) : m.timeOfDay < 86400000000 :=
  Nat.mod_lt _ (by decide)

theorem hour_lt (m : Moment) : m.hour < 24 := by
  have hbound := m.timeOfDay_lt
  rw [hour]
  omega

theorem minute_lt (m : Moment) : m.minute < 60 :=
  Nat.mod_lt _ (by decide)

theorem second_lt (m : Moment) : m.second < 60 :=
  Nat.mod_lt _ (by decide)

theorem dayNumber_lt (m : Moment) : m.dayNumber < 3652059 := by
  have hlast : m.wall < 3652059 * 86400000000 := m.wall_lt
  have hwall := m.wall_eq
  omega

/-- A reading that is a day and a time of day. -/
theorem eq_of_wall_eq {day time : Nat} (htime : time < 86400000000)
    (hwall : m.wall = day * 86400000000 + time) : m.dayNumber = day ∧ m.timeOfDay = time := by
  have hsplit := m.wall_eq
  have hbound := m.timeOfDay_lt
  omega

theorem wall_lt_of_dayNumber_lt (hday : now.dayNumber < later.dayNumber) : now.wall < later.wall :=
  Nat.lt_of_div_lt_div hday

theorem date_spec (m : Moment) : m.date.Valid ∧ m.date.dayNumber = m.dayNumber :=
  Date.ofDayNumber_spec m.dayNumber

theorem year_le (m : Moment) : m.date.year ≤ 9999 := by
  obtain ⟨hvalid, hnumber⟩ := m.date_spec
  rw [← Date.dayNumber_lt_iff_year_le hvalid, hnumber]
  exact m.dayNumber_lt

/-- What a clock shows to the microsecond at a full minute. -/
structure Shows (m : Moment) (hour : Fin 24) (minute : Fin 60) : Prop where
  hour_eq : m.hour = hour
  minute_eq : m.minute = minute
  second_eq : m.second = 0
  microsecond_eq : m.microsecond = 0

theorem shows_iff {hour : Fin 24} {minute : Fin 60} :
    m.Shows hour minute ↔ m.timeOfDay = (hour.val * 60 + minute.val) * 60000000 := by
  have hbound := m.timeOfDay_lt
  constructor
  · rintro ⟨hhour, hminute, hsecond, hmicrosecond⟩
    rw [Moment.hour] at hhour
    rw [Moment.minute] at hminute
    rw [second] at hsecond
    rw [microsecond] at hmicrosecond
    omega
  · intro htime
    refine ⟨?_, ?_, ?_, ?_⟩
    · rw [Moment.hour]
      omega
    · rw [Moment.minute]
      omega
    · rw [second]
      omega
    · rw [microsecond]
      omega

theorem Shows.wall_eq {hour : Fin 24} {minute : Fin 60} (hshows : m.Shows hour minute) :
    m.wall = m.dayNumber * 86400000000 + (hour.val * 60 + minute.val) * 60000000 := by
  rw [m.wall_eq, shows_iff.1 hshows]

/-- Of two moments at which a clock shows the same, the one on the earlier day is earlier. -/
theorem Shows.instant_le_iff {hour : Fin 24} {minute : Fin 60} (hnow : now.Shows hour minute)
    (hlater : later.Shows hour minute) (hoffset : later.offset = now.offset) :
    now.instant ≤ later.instant ↔ now.dayNumber ≤ later.dayNumber := by
  rw [Moment.instant_le_iff hoffset, hnow.wall_eq, hlater.wall_eq]
  omega

/-- A clock shows a time of day once a day. -/
theorem eq_of_shows {hour : Fin 24} {minute : Fin 60} (hoffset : now.offset = later.offset)
    (hday : now.dayNumber = later.dayNumber) (hnow : now.Shows hour minute)
    (hlater : later.Shows hour minute) : now = later := by
  refine eq_of_wall hoffset ?_
  rw [hnow.wall_eq, hlater.wall_eq, hday]

theorem atTime_offset (m : Moment) (hour : Fin 24) (minute : Fin 60) :
    (m.atTime hour minute).offset = m.offset := by
  rw [atTime]

theorem atTime_wall (m : Moment) (hour : Fin 24) (minute : Fin 60) : (m.atTime hour minute).wall =
    m.dayNumber * 86400000000 + (hour.val * 60 + minute.val) * 60000000 := by
  rw [atTime]

/-- A time of a day is on that day. -/
theorem atTime_spec (m : Moment) (hour : Fin 24) (minute : Fin 60) :
    (m.atTime hour minute).dayNumber = m.dayNumber ∧ (m.atTime hour minute).Shows hour minute := by
  have hbound : (hour.val * 60 + minute.val) * 60000000 < 86400000000 := by omega
  obtain ⟨hday, htime⟩ := eq_of_wall_eq hbound (m.atTime_wall hour minute)
  exact ⟨hday, shows_iff.2 htime⟩

theorem atTime_eq_iff {hour : Fin 24} {minute : Fin 60} :
    m.atTime hour minute = due ↔
      due.offset = m.offset ∧ due.dayNumber = m.dayNumber ∧ due.Shows hour minute := by
  have hoffset := m.atTime_offset hour minute
  obtain ⟨hday, hshows⟩ := m.atTime_spec hour minute
  constructor
  · rintro rfl
    exact ⟨hoffset, hday, hshows⟩
  · rintro ⟨hsame, hdue, hdueShows⟩
    exact eq_of_shows (hoffset.trans hsame.symm) (hday.trans hdue.symm) hshows hdueShows

/-- Every day of the calendar has every time of day. -/
theorem exists_moment (offset : Option Int) {day time : Nat} (hday : day < 3652059)
    (htime : time < 86400000000) :
    ∃ m : Moment, m.offset = offset ∧ m.dayNumber = day ∧ m.timeOfDay = time := by
  have hfits : day * 86400000000 + time < calendarSpan := by
    rw [calendarSpan]
    omega
  have hwall : (Moment.mk (day * 86400000000 + time) offset hfits).wall = day * 86400000000 + time := rfl
  exact ⟨_, rfl, eq_of_wall_eq htime hwall⟩

/-! ### Moving on -/

theorem shift_eq_ok_iff {micros : Int} : now.shift micros = .ok later ↔
    later.offset = now.offset ∧ (later.wall : Int) = now.wall + micros := by
  rw [shift, withWall?]
  constructor
  · intro hshift
    split at hshift
    · rename_i found hfound
      split at hfound
      · rename_i hfits
        obtain rfl := Except.ok.inj hshift
        obtain rfl := Option.some.inj hfound
        exact ⟨rfl, Int.toNat_of_nonneg hfits.1⟩
      · cases hfound
    · cases hshift
  · rintro ⟨hoffset, hwall⟩
    have hlast := later.wall_lt
    rw [dif_pos (by omega)]
    refine congrArg Except.ok (eq_of_wall hoffset.symm ?_)
    change ((now.wall : Int) + micros).toNat = later.wall
    rw [← hwall, Int.toNat_natCast]

/-- So many days later the clock shows the same. -/
theorem addDays_eq_ok_iff {days : Nat} : now.addDays days = .ok later ↔
    later.offset = now.offset ∧ later.dayNumber = now.dayNumber + days ∧
      later.timeOfDay = now.timeOfDay := by
  have hnow := now.wall_eq
  have hlater := later.wall_eq
  have hnowTime := now.timeOfDay_lt
  have hlaterTime := later.timeOfDay_lt
  have hdays : ((days : Int) * microsPerDay) = ((days * 86400000000 : Nat) : Int) := by
    rw [microsPerDay, Int.natCast_mul]
  rw [addDays, shift_eq_ok_iff, hdays]
  refine and_congr_right fun _ => ?_
  omega

/-- Midnight of a date. -/
theorem ofDate?_eq_some_iff {date : Date} {offset : Option Int} : ofDate? date 0 offset = some m ↔
    m.offset = offset ∧ m.dayNumber = date.dayNumber ∧ m.timeOfDay = 0 := by
  rw [ofDate?]
  constructor
  · intro hday
    split at hday
    · obtain rfl := Option.some.inj hday
      refine ⟨rfl, ?_⟩
      have hwall : (Moment.mk _ offset ‹_›).wall = date.dayNumber * 86400000000 + 0 := rfl
      exact eq_of_wall_eq (Nat.succ_pos _) hwall
    · cases hday
  · rintro ⟨hoffset, hday, htime⟩
    have hlast := m.wall_lt
    have hwall : date.dayNumber * microsPerDay + 0 = m.wall := by
      rw [m.wall_eq, hday, htime]
    rw [dif_pos (hwall ▸ hlast)]
    exact congrArg some (eq_of_wall hoffset.symm hwall)

end Jotter.Moment
