/-!
The proleptic Gregorian calendar. A date is also a day number, counted from the first of January of
the year 1, a Monday; the two descriptions are turned into one another by counting the days of whole
cycles of 400, 100, 4 and 1 years.
-/

namespace Jotter

structure Date where
  year : Nat
  month : Nat
  day : Nat
  deriving DecidableEq, Repr, Inhabited

/-- The days of the week, in the order of the calendar week. -/
inductive Weekday where
  | monday
  | tuesday
  | wednesday
  | thursday
  | friday
  | saturday
  | sunday
  deriving DecidableEq, Repr, Inhabited

namespace Weekday

/-- The place in the week, counted from Monday. -/
def index : Weekday → Nat
  | monday => 0
  | tuesday => 1
  | wednesday => 2
  | thursday => 3
  | friday => 4
  | saturday => 5
  | sunday => 6

def all : List Weekday :=
  [monday, tuesday, wednesday, thursday, friday, saturday, sunday]

def name : Weekday → String
  | monday => "Monday"
  | tuesday => "Tuesday"
  | wednesday => "Wednesday"
  | thursday => "Thursday"
  | friday => "Friday"
  | saturday => "Saturday"
  | sunday => "Sunday"

/-- The weekday of a day number. -/
def ofDayNumber (n : Nat) : Weekday :=
  match n % 7 with
  | 0 => monday
  | 1 => tuesday
  | 2 => wednesday
  | 3 => thursday
  | 4 => friday
  | 5 => saturday
  | _ => sunday

theorem index_ofDayNumber (n : Nat) : (ofDayNumber n).index = n % 7 := by
  have h : n % 7 = 0 ∨ n % 7 = 1 ∨ n % 7 = 2 ∨ n % 7 = 3 ∨ n % 7 = 4 ∨ n % 7 = 5 ∨ n % 7 = 6 := by omega
  rcases h with h | h | h | h | h | h | h <;> simp [ofDayNumber, index, h]

end Weekday

namespace Date

def isLeap (year : Nat) : Bool :=
  year % 4 == 0 && (year % 100 != 0 || year % 400 == 0)

/-- The number of days of a month, counted from January as 1. -/
def monthLength (year month : Nat) : Nat :=
  match month with
  | 4 | 6 | 9 | 11 => 30
  | 2 => if isLeap year then 29 else 28
  | _ => 31

/-- The number of days before the first of January of a year. -/
def daysBeforeYear (year : Nat) : Nat :=
  let y := year - 1
  y * 365 + y / 4 - y / 100 + y / 400

/-- The number of days of a year before the first of a month. -/
def daysBeforeMonth (year : Nat) : Nat → Nat
  | 0 => 0
  | 1 => 0
  | month + 1 => daysBeforeMonth year month + monthLength year month

/-- The number of days from the first of January of the year 1. -/
def dayNumber (date : Date) : Nat :=
  daysBeforeYear date.year + daysBeforeMonth date.year date.month + (date.day - 1)

/-- The month and day of the `n`-th day of a year, looking from `month` on. -/
def monthAndDay (year : Nat) (n : Nat) : (remaining month : Nat) → Nat × Nat
  | 0, month => (month, n + 1)
  | remaining + 1, month =>
    if n < monthLength year month then (month, n + 1)
    else monthAndDay year (n - monthLength year month) remaining (month + 1)

/-- The date of a day number. -/
def ofDayNumber (n : Nat) : Date :=
  let cycle400 := n / 146097
  let n := n % 146097
  let cycle100 := min (n / 36524) 3
  let n := n - cycle100 * 36524
  let cycle4 := n / 1461
  let n := n % 1461
  let cycle1 := min (n / 365) 3
  let n := n - cycle1 * 365
  let year := cycle400 * 400 + cycle100 * 100 + cycle4 * 4 + cycle1 + 1
  let (month, day) := monthAndDay year n 11 1
  ⟨year, month, day⟩

def monthName (month : Nat) : String :=
  match month with
  | 1 => "January"
  | 2 => "February"
  | 3 => "March"
  | 4 => "April"
  | 5 => "May"
  | 6 => "June"
  | 7 => "July"
  | 8 => "August"
  | 9 => "September"
  | 10 => "October"
  | 11 => "November"
  | _ => "December"

/-- The first three letters of the name of a month. -/
def shortMonthName (month : Nat) : String :=
  .ofList ((monthName month).toList.take 3)

end Date

end Jotter
