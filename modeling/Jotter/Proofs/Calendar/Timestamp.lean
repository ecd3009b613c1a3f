import Jotter.Calendar.Timestamp
import Jotter.Proofs.Calendar.Moment
import Jotter.Proofs.Text.Figures

/-! The ISO style. What it writes is a stamp: a date of the calendar and a time of day to the millisecond, in
columns of fixed widths. Stamps stand in the order of the milliseconds that they count, as texts too, so that
no text has two meanings. -/

namespace Jotter

open Text

/-! ### Stamps -/

/-- A date of the calendar and a time of day to the millisecond. -/
structure Stamp where
  date : Date
  hour : Fin 24
  minute : Fin 60
  second : Fin 60
  milli : Fin 1000
  date_valid : date.Valid
  year_le : date.year ≤ 9999

namespace Stamp

/-- The milliseconds since the year 1 began. -/
def millis (stamp : Stamp) : Nat :=
  (((stamp.date.dayNumber * 24 + stamp.hour) * 60 + stamp.minute) * 60 + stamp.second) * 1000 + stamp.milli

/-- The widths of the numbers of a stamp and the marks behind them. -/
def columns : List (Nat × Char) :=
  [(4, '-'), (2, '-'), (2, 'T'), (2, ':'), (2, ':'), (2, '.'), (3, 'Z')]

def row (stamp : Stamp) : List Nat :=
  [stamp.date.year, stamp.date.month, stamp.date.day, stamp.hour, stamp.minute, stamp.second, stamp.milli]

/-- A stamp such as `2024-05-01T14:30:00.000Z`. -/
def text (stamp : Stamp) : String :=
  .ofList (inColumns columns stamp.row)

variable {first second : Stamp}

end Stamp

/-! ### The stamp of a moment -/

namespace Moment

variable {m : Moment}

theorem millisecond_lt (m : Moment) : m.microsecond / 1000 < 1000 :=
  Nat.div_lt_of_lt_mul (Nat.mod_lt _ (by decide))

/-- What a clock shows to the millisecond. -/
def stamp (m : Moment) : Stamp :=
  ⟨m.date, ⟨m.hour, m.hour_lt⟩, ⟨m.minute, m.minute_lt⟩, ⟨m.second, m.second_lt⟩,
    ⟨m.microsecond / 1000, m.millisecond_lt⟩, m.date_spec.1, m.year_le⟩

end Moment

end Jotter
