import Jotter.Calendar.Moment
import Jotter.Number.Binary

/-!
Milliseconds since the beginning of 1970. The seconds are a number with a significand of 53 bits and
their product by one thousand is another, so the last millisecond can be lost; the result is cut off
towards zero.
-/

namespace Jotter.Moment

/-- The microseconds from the year 1 to the beginning of 1970 at UTC. -/
abbrev epochMicros : Nat := 719162 * 86400000000

/-- The microseconds since the beginning of 1970 at UTC. -/
def microsSinceEpoch (m : Moment) : Int :=
  m.instant - epochMicros

/-- The moment so many microseconds after the beginning of 1970, on a clock that shows UTC. -/
def ofMicrosSinceEpoch? (micros : Int) : Option Moment :=
  withWall? ⟨0, some 0, by decide⟩ (epochMicros + micros)

/-- The seconds since the beginning of 1970. On a clock without a zone the whole seconds and the part of
a second are rounded one by one before their sum is. -/
def secondsSinceEpoch (m : Moment) : Rat :=
  let micros := m.microsSinceEpoch
  match m.offset with
  | some _ => Number.round53 ((micros : Rat) / 1000000)
  | none =>
    let whole := Int.fdiv micros 1000000
    let part := Number.round53 ((m.microsecond : Rat) / 1000000)
    Number.round53 (whole + part)

/-- The milliseconds since the beginning of 1970. What a clock without a zone shows is looked up a day
earlier as well, so that the first day of the calendar is out of range there. -/
def epochMillis (m : Moment) : Except Failure Int :=
  if m.offset.isNone && m.dayNumber = 0 then .error (.yearOutOfRange 0)
  else .ok (Number.truncate (Number.round53 (m.secondsSinceEpoch * 1000)))

end Jotter.Moment
