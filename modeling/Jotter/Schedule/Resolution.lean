import Jotter.Calendar.Text
import Jotter.Schedule.Expression

/-!
What a time expression means on a given clock, and how a due time is told. Every result is a moment on
the same clock.
-/

namespace Jotter

/-- The next moment at which the clock shows a time of day. -/
def ClockTime.next (time : ClockTime) (now : Moment) : Except Failure Moment :=
  let target := now.atTime time.hour time.minute
  if target.wall ≤ now.wall then target.addDays 1 else .ok target

/-- The days to the next date on a weekday; a week if today is one. -/
def Weekday.daysAfter (today day : Weekday) : Nat :=
  (day.index + 6 - today.index) % 7 + 1

/-- Nine o'clock so many days later. -/
def morningAfter (now : Moment) (days : Nat) : Except Failure Moment := do
  let day ← now.addDays days
  return day.atTime 9 0

/-- Nine o'clock one month later, on the last day of that month if it has no such day. -/
def morningNextMonth (now : Moment) : Except Failure Moment :=
  let date := now.date
  let year := if date.month = 12 then date.year + 1 else date.year
  let month := if date.month = 12 then 1 else date.month + 1
  if 9999 < year then .error (.yearOutOfRange year)
  else
    match Moment.ofDate? ⟨year, month, min date.day (Date.monthLength year month)⟩ 0 now.offset with
    | some day => .ok (day.atTime 9 0)
    | none => .error .dateOutOfRange

/-- The moment that a natural date means. -/
def NaturalDate.resolve (date : NaturalDate) (now : Moment) : Except Failure Moment :=
  match date with
  | today => now.shift (3600000000 - now.timeOfDay % 3600000000)
  | tomorrow => morningAfter now 1
  | tonight => ClockTime.next ⟨20, 0⟩ now
  | nextWeek => morningAfter now 7
  | nextMonth => morningNextMonth now
  | weekday day => morningAfter now (now.weekday.daysAfter day)
  | afterSeconds seconds => now.addSeconds seconds

/-- The moment that an expression means. -/
def TimeExpression.resolve (expression : TimeExpression) (now : Moment) : Except Failure Moment :=
  match expression with
  | distance seconds => now.addSeconds seconds
  | natural date => date.resolve now
  | clock time => time.next now

/-- The moment that a text means, if it is a time expression. -/
def dueTime (text : String) (now : Moment) : Except Failure (Option Moment) := do
  match ← TimeExpression.read text with
  | some expression => return some (← expression.resolve now)
  | none => return none

/-- How a due time is told at a given time: by the word for today or tomorrow, else by its date. -/
def dueText (due now : Moment) : Except Failure String := do
  if due.date = now.date then return "Today at " ++ due.clockText
  let tomorrow ← now.addDays 1
  if due.date = tomorrow.date then return "Tomorrow at " ++ due.clockText
  return Date.shortMonthName due.date.month ++ " " ++ toString due.date.day ++ ", " ++ due.clockText

/-- The forms of time expressions, as messages list them. -/
def timeFormatHelp : String :=
  "Supported formats:\n" ++
  "  • 5m, 2h, 1d (relative time)\n" ++
  "  • tomorrow, monday, tonight, next week (natural language)\n" ++
  "  • 2:30pm, 14:30, 9am (absolute time)\n" ++
  "  • \"in 30 minutes\", \"in 2 hours\" (descriptive, quoted)"

end Jotter
