import Mathlib.Data.Nat.Basic
import Jotter.Calendar.Date

/-! Dates and day numbers. The date of a day number is one of the calendar, and its day number is the one
that it came from; day numbers stand in the order of the dates, so dates and day numbers are the same. -/

namespace Jotter.Date

/-- A date of the calendar. -/
structure Valid (date : Date) : Prop where
  one_le_year : 1 ≤ date.year
  one_le_month : 1 ≤ date.month
  month_le : date.month ≤ 12
  one_le_day : 1 ≤ date.day
  day_le : date.day ≤ monthLength date.year date.month

/-! ### Months -/

theorem daysBeforeMonth_succ (year : Nat) {month : Nat} (hmonth : 1 ≤ month) :
    daysBeforeMonth year (month + 1) = daysBeforeMonth year month + monthLength year month := by
  obtain ⟨before, rfl⟩ := Nat.exists_eq_add_of_le' hmonth
  rfl

theorem monthLength_between (year month : Nat) :
    28 ≤ monthLength year month ∧ monthLength year month ≤ 31 := by
  unfold monthLength
  split
  · decide
  · decide
  · decide
  · decide
  · split <;> decide
  · decide

theorem le_monthLength (year month : Nat) : 28 ≤ monthLength year month :=
  (monthLength_between year month).1

/-- The month and the day within a year, looked for from a month on. -/
structure MonthAndDay (year n month remaining : Nat) (found : Nat × Nat) : Prop where
  month_le : month ≤ found.1
  le_month : found.1 ≤ month + remaining
  one_le_day : 1 ≤ found.2
  count_eq : daysBeforeMonth year found.1 + (found.2 - 1) = daysBeforeMonth year month + n
  day_le : daysBeforeMonth year month + n < daysBeforeMonth year (month + remaining + 1) →
    found.2 ≤ monthLength year found.1

theorem monthAndDay_spec (year n : Nat) {month : Nat} (hmonth : 1 ≤ month) (remaining : Nat) :
    MonthAndDay year n month remaining (monthAndDay year n remaining month) := by
  induction remaining generalizing n month with
  | zero =>
      rw [monthAndDay]
      refine ⟨Nat.le_refl _, Nat.le_refl _, Nat.succ_pos n, rfl, fun hlt => ?_⟩
      rw [Nat.add_zero, daysBeforeMonth_succ year hmonth] at hlt
      exact Nat.lt_of_add_lt_add_left hlt
  | succ remaining ih =>
      rw [monthAndDay]
      by_cases hn : n < monthLength year month
      · rw [if_pos hn]
        exact ⟨Nat.le_refl _, Nat.le_add_right _ _, Nat.succ_pos n, rfl, fun _ => hn⟩
      · have hrest := ih (n - monthLength year month) (Nat.le_succ_of_le hmonth)
        have hsucc := daysBeforeMonth_succ year hmonth
        have hend : month + 1 + remaining = month + (remaining + 1) := by omega
        rw [if_neg hn]
        refine ⟨Nat.le_of_succ_le hrest.month_le, hend ▸ hrest.le_month, hrest.one_le_day, ?_,
          fun hlt => hrest.day_le ?_⟩
        · rw [hrest.count_eq, hsucc]
          omega
        · rw [hend, hsucc]
          omega

/-! ### Years -/

theorem isLeap_iff (year : Nat) :
    isLeap year = true ↔ 4 ∣ year ∧ (¬ 100 ∣ year ∨ 400 ∣ year) := by
  simp [isLeap, Nat.dvd_iff_mod_eq_zero]

theorem daysBeforeMonth_end (year : Nat) :
    daysBeforeMonth year 13 = if isLeap year then 366 else 365 := by
  simp only [daysBeforeMonth, monthLength]
  split <;> rfl

theorem daysBeforeYear_succ {year : Nat} (hyear : 1 ≤ year) :
    daysBeforeYear (year + 1) = daysBeforeYear year + daysBeforeMonth year 13 := by
  obtain ⟨before, rfl⟩ := Nat.exists_eq_add_of_le' hyear
  have hcount : ∀ before, daysBeforeYear (before + 1) =
      before * 365 + before / 4 - before / 100 + before / 400 := fun _ => rfl
  have hle : before / 100 ≤ before / 4 := Nat.div_le_div_left (by decide) (by decide)
  have hfour : 100 ∣ before + 1 → 4 ∣ before + 1 := Nat.dvd_trans (by decide)
  have hhundred : 400 ∣ before + 1 → 100 ∣ before + 1 := Nat.dvd_trans (by decide)
  rw [daysBeforeMonth_end, hcount, hcount, Nat.succ_div, Nat.succ_div, Nat.succ_div]
  simp only [isLeap_iff]
  -- each quotient grows by one if the year is a multiple
  by_cases h4 : 4 ∣ before + 1
  · by_cases h100 : 100 ∣ before + 1
    · by_cases h400 : 400 ∣ before + 1
      · simp only [h4, h100, h400, if_true, true_and, not_true, or_true]
        omega
      · simp only [h4, h100, h400, if_true, if_false, true_and, not_true, or_self]
        omega
    · simp only [h4, h100, mt hhundred h100, if_true, if_false, true_and, not_false_eq_true, true_or]
      omega
  · simp only [h4, mt hfour h4, mt hhundred (mt hfour h4), if_false, false_and]
    omega

/-- A year of the fourth part of a cycle of 400 years, of the 25th of its 100 years, and so on. -/
theorem daysBeforeYear_cycles (cycle400 : Nat) {cycle100 cycle4 cycle1 : Nat} (h100 : cycle100 ≤ 3)
    (h4 : cycle4 ≤ 24) (h1 : cycle1 ≤ 3) :
    daysBeforeYear (cycle400 * 400 + cycle100 * 100 + cycle4 * 4 + cycle1 + 1) =
      cycle400 * 146097 + cycle100 * 36524 + cycle4 * 1461 + cycle1 * 365 := by
  rw [daysBeforeYear, Nat.add_sub_cancel]
  have hfour : (cycle400 * 400 + cycle100 * 100 + cycle4 * 4 + cycle1) / 4 =
      cycle400 * 100 + cycle100 * 25 + cycle4 := by omega
  have hhundred : (cycle400 * 400 + cycle100 * 100 + cycle4 * 4 + cycle1) / 100 =
      cycle400 * 4 + cycle100 := by omega
  have hfourhundred : (cycle400 * 400 + cycle100 * 100 + cycle4 * 4 + cycle1) / 400 = cycle400 := by
    omega
  rw [hfour, hhundred, hfourhundred]
  omega

theorem isLeap_cycles (cycle400 : Nat) {cycle100 cycle4 cycle1 : Nat} (h100 : cycle100 ≤ 3)
    (h4 : cycle4 ≤ 24) (h1 : cycle1 ≤ 3) :
    isLeap (cycle400 * 400 + cycle100 * 100 + cycle4 * 4 + cycle1 + 1) = true ↔
      cycle1 = 3 ∧ (cycle4 < 24 ∨ cycle100 = 3) := by
  rw [isLeap_iff]
  omega

/-! ### Day numbers -/

/-- The year of a day number, and the days of it that are over. -/
theorem ofDayNumber_year (n : Nat) : ∃ year rest,
    ofDayNumber n = ⟨year, (monthAndDay year rest 11 1).1, (monthAndDay year rest 11 1).2⟩ ∧
      1 ≤ year ∧ daysBeforeYear year + rest = n ∧ rest < daysBeforeMonth year 13 := by
  -- each cycle is counted in what the longer ones have left
  generalize hcycle400 : n / 146097 = cycle400
  generalize hcycle100 : min (n % 146097 / 36524) 3 = cycle100
  generalize hcycle4 : (n % 146097 - cycle100 * 36524) / 1461 = cycle4
  generalize hcycle1 : min ((n % 146097 - cycle100 * 36524) % 1461 / 365) 3 = cycle1
  have h100 : cycle100 ≤ 3 := by omega
  have h4 : cycle4 ≤ 24 := by omega
  have h1 : cycle1 ≤ 3 := by omega
  refine ⟨cycle400 * 400 + cycle100 * 100 + cycle4 * 4 + cycle1 + 1,
    (n % 146097 - cycle100 * 36524) % 1461 - cycle1 * 365, ?_, Nat.succ_pos _, ?_, ?_⟩
  · rw [ofDayNumber, hcycle400, hcycle100, hcycle4, hcycle1]
  · rw [daysBeforeYear_cycles cycle400 h100 h4 h1]
    omega
  · have hleap := isLeap_cycles cycle400 h100 h4 h1
    rw [daysBeforeMonth_end]
    split
    · omega
    · rename_i hcommon
      have hcommon := mt hleap.2 hcommon
      omega

theorem ofDayNumber_spec (n : Nat) : (ofDayNumber n).Valid ∧ (ofDayNumber n).dayNumber = n := by
  obtain ⟨year, rest, hdate, hyear, hcount, hrest⟩ := ofDayNumber_year n
  have hfound := monthAndDay_spec year rest (Nat.le_refl 1) 11
  have hstart : daysBeforeMonth year 1 = 0 := rfl
  rw [hdate]
  refine ⟨⟨hyear, hfound.month_le, hfound.le_month, hfound.one_le_day, hfound.day_le ?_⟩, ?_⟩
  · rwa [hstart, Nat.zero_add]
  · have hmonth := hfound.count_eq
    rw [hstart, Nat.zero_add] at hmonth
    rw [dayNumber, Nat.add_assoc, hmonth, hcount]

/-! ### The order of dates -/

/-- The order by year, month and day. -/
def Precedes (date later : Date) : Prop :=
  date.year < later.year ∨ date.year = later.year ∧
    (date.month < later.month ∨ date.month = later.month ∧ date.day < later.day)

variable {date later : Date}

theorem daysBeforeYear_le {year last : Nat} (hyear : 1 ≤ year) (hle : year ≤ last) :
    daysBeforeYear year ≤ daysBeforeYear last := by
  induction last, hle using Nat.le_induction with
  | base => exact Nat.le_refl _
  | succ last hle ih =>
      rw [daysBeforeYear_succ (Nat.le_trans hyear hle)]
      exact Nat.le_add_right_of_le ih

theorem daysBeforeMonth_le (year : Nat) {month last : Nat} (hmonth : 1 ≤ month) (hle : month ≤ last) :
    daysBeforeMonth year month ≤ daysBeforeMonth year last := by
  induction last, hle using Nat.le_induction with
  | base => exact Nat.le_refl _
  | succ last hle ih =>
      rw [daysBeforeMonth_succ year (Nat.le_trans hmonth hle)]
      exact Nat.le_add_right_of_le ih

/-- A date is over before the next month of its year begins. -/
theorem dayNumber_lt_month (hdate : date.Valid) :
    date.dayNumber < daysBeforeYear date.year + daysBeforeMonth date.year (date.month + 1) := by
  have hle := hdate.day_le
  have hone := hdate.one_le_day
  rw [dayNumber, daysBeforeMonth_succ date.year hdate.one_le_month]
  omega

/-- A date is over before the next year begins. -/
theorem dayNumber_lt_year (hdate : date.Valid) : date.dayNumber < daysBeforeYear (date.year + 1) := by
  rw [daysBeforeYear_succ hdate.one_le_year]
  have hmonth := daysBeforeMonth_le date.year (Nat.le_add_left 1 date.month)
    (Nat.succ_le_succ hdate.month_le)
  exact Nat.lt_of_lt_of_le (dayNumber_lt_month hdate) (Nat.add_le_add_left hmonth _)

theorem dayNumber_lt_of_precedes (hdate : date.Valid) (hlater : date.Precedes later) :
    date.dayNumber < later.dayNumber := by
  have hcount : later.dayNumber =
    daysBeforeYear later.year + daysBeforeMonth later.year later.month + (later.day - 1) := rfl
  rcases hlater with hyear | ⟨hyear, hmonth | ⟨hmonth, hday⟩⟩
  · have hover := dayNumber_lt_year hdate
    have hstart := daysBeforeYear_le (Nat.le_add_left 1 date.year) hyear
    omega
  · have hover := dayNumber_lt_month hdate
    have hstart := daysBeforeMonth_le date.year (Nat.le_add_left 1 date.month) hmonth
    rw [← hyear] at hcount
    omega
  · have hone := hdate.one_le_day
    rw [hcount, dayNumber, hyear, hmonth]
    omega

theorem precedes_trichotomy (date later : Date) :
    date.Precedes later ∨ date = later ∨ later.Precedes date := by
  obtain ⟨year, month, day⟩ := date
  obtain ⟨year', month', day'⟩ := later
  simp only [Precedes, Date.mk.injEq]
  omega

/-- Day numbers stand in the order of the dates. -/
theorem dayNumber_lt_iff (hdate : date.Valid) (hlater : later.Valid) :
    date.dayNumber < later.dayNumber ↔ date.Precedes later := by
  refine ⟨fun hlt => ?_, dayNumber_lt_of_precedes hdate⟩
  rcases precedes_trichotomy date later with hprecedes | rfl | hprecedes
  · exact hprecedes
  · exact absurd hlt (Nat.lt_irrefl _)
  · exact absurd hlt (Nat.lt_asymm (dayNumber_lt_of_precedes hlater hprecedes))

theorem ofDayNumber_dayNumber (hdate : date.Valid) : ofDayNumber date.dayNumber = date := by
  obtain ⟨hvalid, hnumber⟩ := ofDayNumber_spec date.dayNumber
  rcases precedes_trichotomy (ofDayNumber date.dayNumber) date with hprecedes | hsame | hprecedes
  · exact absurd hnumber (Nat.ne_of_lt (dayNumber_lt_of_precedes hvalid hprecedes))
  · exact hsame
  · exact absurd hnumber (Nat.ne_of_gt (dayNumber_lt_of_precedes hdate hprecedes))

/-- The calendar has the dates up to the year 9999. -/
theorem dayNumber_lt_iff_year_le (hdate : date.Valid) : date.dayNumber < 3652059 ↔ date.year ≤ 9999 := by
  have hend : daysBeforeYear 10000 = 3652059 := rfl
  constructor
  · intro hlt
    by_contra hyear
    have hstart : daysBeforeYear 10000 ≤ daysBeforeYear date.year :=
      daysBeforeYear_le (by decide) (by omega)
    rw [dayNumber] at hlt
    omega
  · intro hyear
    have hover := dayNumber_lt_year hdate
    have hstart : daysBeforeYear (date.year + 1) ≤ daysBeforeYear 10000 :=
      daysBeforeYear_le (Nat.le_add_left 1 date.year) (Nat.succ_le_succ hyear)
    omega

end Jotter.Date
