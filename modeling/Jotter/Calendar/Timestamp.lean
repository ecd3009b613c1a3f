import Jotter.Calendar.Text
import Jotter.Text.Case

/-!
The styles in which the current time is inserted into a note.
-/

namespace Jotter

inductive TimestampStyle where
  | iso
  | short
  | long
  | time
  | date
  deriving DecidableEq, Repr, Inhabited

namespace TimestampStyle

def name : TimestampStyle → String
  | iso => "iso"
  | short => "short"
  | long => "long"
  | time => "time"
  | date => "date"

def all : List TimestampStyle :=
  [iso, short, long, time, date]

/-- The style of a name in any case; an unknown name means the short style. -/
def ofName (s : String) : TimestampStyle :=
  (all.find? fun style => style.name == Text.lower s).getD short

/-- The ISO form of a moment that shows UTC, with whole milliseconds. -/
def isoText (m : Moment) : String :=
  m.dateText ++ "T" ++ m.timeText ++ "." ++ Text.threeDigits (m.microsecond / 1000) ++ "Z"

/-- The text of a moment in a style. Only the ISO style leaves the moment's own clock. -/
def render (style : TimestampStyle) (m : Moment) : Except Failure String :=
  match style with
  | iso => m.toUtc.map isoText
  | short => .ok (m.dateText ++ " " ++ m.clockText)
  | long =>
    .ok (m.weekday.name ++ ", " ++ Date.monthName m.date.month ++ " " ++ toString m.date.day ++ ", " ++
      toString m.date.year ++ " " ++ m.clockText)
  | time => .ok m.clockText
  | date => .ok m.dateText

end TimestampStyle

end Jotter
