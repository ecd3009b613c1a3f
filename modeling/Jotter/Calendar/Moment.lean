import Jotter.Calendar.Date
import Jotter.Failure
import Jotter.Text.Digit

/-!
Moments: what a wall clock shows, to the microsecond, and how far its zone is from UTC. The reading is
kept as the number of microseconds since the year 1 began on that clock, so that arithmetic on moments
is arithmetic on numbers; the calendar fields are read off it. Moments end with the year 9999.
-/

namespace Jotter

/-- The microseconds of a day. -/
abbrev microsPerDay : Nat := 86400000000

/-- The microseconds of the years 1 to 9999. -/
abbrev calendarSpan : Nat := 3652059 * 86400000000

/-- A reading of a wall clock, with the seconds by which its zone is ahead of UTC, if it has one. -/
structure Moment where
  wall : Nat
  offset : Option Int
  wall_lt : wall < calendarSpan
  deriving DecidableEq, Repr

namespace Moment

/-- The microseconds since the year 1 began at UTC; a clock without a zone is taken to show UTC. -/
def instant (m : Moment) : Int :=
  m.wall - m.offset.getD 0 * 1000000

/-- The moment with another reading of the same clock. -/
def withWall? (m : Moment) (wall : Int) : Option Moment :=
  if h : 0 ≤ wall ∧ wall < calendarSpan then
    some ⟨wall.toNat, m.offset, by omega⟩
  else none

/-- The moment so many microseconds later on the same clock. -/
def shift (m : Moment) (micros : Int) : Except Failure Moment :=
  match m.withWall? (m.wall + micros) with
  | some later => .ok later
  | none => .error .dateOutOfRange

def addSeconds (m : Moment) (seconds : Int) : Except Failure Moment :=
  m.shift (seconds * 1000000)

def addDays (m : Moment) (days : Int) : Except Failure Moment :=
  m.shift (days * microsPerDay)

/-! ### Calendar fields -/

def dayNumber (m : Moment) : Nat :=
  m.wall / microsPerDay

def date (m : Moment) : Date :=
  .ofDayNumber m.dayNumber

def weekday (m : Moment) : Weekday :=
  .ofDayNumber m.dayNumber

/-- The microseconds since midnight. -/
def timeOfDay (m : Moment) : Nat :=
  m.wall % microsPerDay

def hour (m : Moment) : Nat :=
  m.timeOfDay / 3600000000

def minute (m : Moment) : Nat :=
  m.timeOfDay / 60000000 % 60

def second (m : Moment) : Nat :=
  m.timeOfDay / 1000000 % 60

def microsecond (m : Moment) : Nat :=
  m.timeOfDay % 1000000

/-- The same day at a full minute. -/
def atTime (m : Moment) (hour : Fin 24) (minute : Fin 60) : Moment :=
  ⟨m.dayNumber * microsPerDay + (hour.val * 60 + minute.val) * 60000000, m.offset, by
    have hw := m.wall_lt
    have hh := hour.isLt
    have hm := minute.isLt
    simp only [dayNumber, microsPerDay, calendarSpan] at *
    omega⟩

/-- The moment of a date and a time of day on a clock. -/
def ofDate? (date : Date) (timeOfDay : Nat) (offset : Option Int) : Option Moment :=
  let wall := date.dayNumber * microsPerDay + timeOfDay
  if h : wall < calendarSpan then some ⟨wall, offset, h⟩ else none

/-- The same instant on a clock that shows UTC. A clock without a zone is left as it is. -/
def toUtc (m : Moment) : Except Failure Moment :=
  match m.offset with
  | none => .ok m
  | some seconds =>
    match m.withWall? (m.wall - seconds * 1000000) with
    | some utc => .ok { utc with offset := some 0 }
    | none => .error .dateOutOfRange

end Moment

end Jotter
