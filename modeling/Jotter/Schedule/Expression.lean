import Jotter.Calendar.Moment
import Jotter.Text.Case
import Jotter.Text.Numeral

/-!
The expressions in which a time can be given: a distance such as `5m`, a natural date such as `next
week` or `in 2 hours`, or a clock time such as `14:30` or `9am`. Reading an expression looks at the
text alone; what it means on a given clock is the business of its resolution.
-/

namespace Jotter

inductive TimeUnit where
  | second
  | minute
  | hour
  | day
  | week
  deriving DecidableEq, Repr

namespace TimeUnit

def seconds : TimeUnit → Nat
  | second => 1
  | minute => 60
  | hour => 3600
  | day => 86400
  | week => 604800

/-- The units that can stand behind a number as one letter. -/
def ofLetter? : Char → Option TimeUnit
  | 's' => some second
  | 'm' => some minute
  | 'h' => some hour
  | 'd' => some day
  | _ => none

/-- The units as words, in the singular or the plural. -/
def ofWord? (word : List Char) : Option TimeUnit :=
  if word = "second".toList || word = "seconds".toList then some second
  else if word = "minute".toList || word = "minutes".toList then some minute
  else if word = "hour".toList || word = "hours".toList then some hour
  else if word = "day".toList || word = "days".toList then some day
  else if word = "week".toList || word = "weeks".toList then some week
  else none

end TimeUnit

/-- A time on the dial of a twenty-four-hour clock. -/
structure ClockTime where
  hour : Fin 24
  minute : Fin 60
  deriving DecidableEq, Repr

inductive NaturalDate where
  | today
  | tomorrow
  | tonight
  | nextWeek
  | nextMonth
  | weekday (day : Weekday)
  | afterSeconds (seconds : Nat)
  deriving DecidableEq, Repr

inductive TimeExpression where
  | distance (seconds : Nat)
  | natural (date : NaturalDate)
  | clock (time : ClockTime)
  deriving DecidableEq, Repr

/-- A number of seconds as a time span of at most 999999999 days. -/
def span (seconds : Nat) : Except Failure Nat :=
  if 999999999 < seconds / 86400 then .error (.durationOutOfRange (seconds / 86400))
  else .ok seconds

/-- The seconds of a number of units, where the number is given by its digits. -/
def spanOf (digits : List Char) (unit : TimeUnit) : Except Failure Nat := do
  let count ← Text.numeral digits
  span (count * unit.seconds)

/-- The characters of an expression as they are compared: without margins, in lower case. -/
def expressionChars (text : String) : List Char :=
  Text.lowerChars (Text.trimChars text.toList)

/-! ### Distances -/

/-- Reads digits and the letter of a unit. -/
def readDistance (text : String) : Except Failure (Option Nat) :=
  let cs := expressionChars text
  match cs.takeWhile Text.isDigit, cs.dropWhile Text.isDigit with
  | digit :: digits, [letter] =>
    match TimeUnit.ofLetter? letter with
    | some unit => (spanOf (digit :: digits) unit).map some
    | none => .ok none
  | _, _ => .ok none

/-! ### Natural dates -/

/-- The weekday whose name in lower case is given. -/
def Weekday.ofWord? (word : List Char) : Option Weekday :=
  Weekday.all.find? fun day => day.name.toList.map Char.toLower == word

/-- Reads a natural date; white space between its words counts as one space. -/
def readNatural (text : String) : Except Failure (Option NaturalDate) :=
  match Text.wordsChars (expressionChars text) with
  | [word] =>
    if word = "today".toList then .ok (some .today)
    else if word = "tomorrow".toList then .ok (some .tomorrow)
    else if word = "tonight".toList then .ok (some .tonight)
    else .ok ((Weekday.ofWord? word).map .weekday)
  | [first, second] =>
    if first = "next".toList then
      if second = "week".toList then .ok (some .nextWeek)
      else if second = "month".toList then .ok (some .nextMonth)
      else .ok none
    else .ok none
  | [first, digits, unit] =>
    if first = "in".toList && digits.all Text.isDigit then
      match TimeUnit.ofWord? unit with
      | some unit => (spanOf digits unit).map fun seconds => some (.afterSeconds seconds)
      | none => .ok none
    else .ok none
  | _ => .ok none

/-! ### Clock times -/

/-- A clock time, if the hour and the minute are on the dial. -/
def ClockTime.ofNumbers? (hour minute : Nat) : Option ClockTime :=
  if h : hour < 24 ∧ minute < 60 then some ⟨⟨hour, h.1⟩, ⟨minute, h.2⟩⟩ else none

/-- The half of the day that a clock time on a twelve-hour dial belongs to. -/
inductive Meridiem where
  | am
  | pm
  deriving DecidableEq, Repr

/-- The hour of the day for an hour from 1 to 12 in one of its halves. -/
def Meridiem.hour (half : Meridiem) (hour : Nat) : Nat :=
  match half with
  | am => if hour = 12 then 0 else hour
  | pm => if hour = 12 then 12 else hour + 12

def Meridiem.ofChars? (cs : List Char) : Option Meridiem :=
  if cs = ['a', 'm'] then some am else if cs = ['p', 'm'] then some pm else none

/-- Reads the half of the day, with at most one blank before it. -/
def Meridiem.afterBlank? (cs : List Char) : Option Meridiem :=
  match cs with
  | c :: rest => if Text.isBlank c then Meridiem.ofChars? rest else Meridiem.ofChars? cs
  | [] => none

/-- The clock time of an hour, a minute and perhaps a half of the day. -/
def ClockTime.onDial? (hour minute : Nat) (half : Option Meridiem) : Option ClockTime :=
  match half with
  | none => ClockTime.ofNumbers? hour minute
  | some half =>
    if 1 ≤ hour ∧ hour ≤ 12 then ClockTime.ofNumbers? (half.hour hour) minute else none

/-- Reads what follows the hour: minutes, a half of the day, or both. -/
def readAfterHour (hour : Nat) (rest : List Char) : Option ClockTime :=
  match rest with
  | ':' :: tens :: ones :: rest =>
    if Text.isDigit tens && Text.isDigit ones then
      let minute := Text.decimalValue [tens, ones]
      match rest with
      | [] => ClockTime.onDial? hour minute none
      | _ => (Meridiem.afterBlank? rest).bind fun half => ClockTime.onDial? hour minute (some half)
    else none
  | _ => (Meridiem.afterBlank? rest).bind fun half => ClockTime.onDial? hour 0 (some half)

/-- Reads a time of day on a dial of twenty-four or of twelve hours. -/
def readClock (text : String) : Option ClockTime :=
  let cs := expressionChars text
  let hour := cs.takeWhile Text.isDigit
  if 1 ≤ hour.length ∧ hour.length ≤ 2 then
    readAfterHour (Text.decimalValue hour) (cs.dropWhile Text.isDigit)
  else none

/-- Reads an expression: a distance, else a natural date, else a clock time. -/
def TimeExpression.read (text : String) : Except Failure (Option TimeExpression) := do
  match ← readDistance text with
  | some seconds => return some (.distance seconds)
  | none =>
    match ← readNatural text with
    | some date => return some (.natural date)
    | none => return (readClock text).map .clock

end Jotter
