import Jotter.Calendar.Moment

/-!
The written forms of moments: the exchange form `2024-05-01T14:30:00.000000+00:00`, which can be read
back, and the forms that are shown to a reader.
-/

namespace Jotter.Moment

/-- A twelve-hour clock time such as `2:30 PM`. -/
def clockText (m : Moment) : String :=
  let hour := if m.hour % 12 = 0 then 12 else m.hour % 12
  toString hour ++ ":" ++ Text.twoDigits m.minute ++ (if m.hour < 12 then " AM" else " PM")

/-- A date such as `2024-05-01`; the year is not padded. -/
def dateText (m : Moment) : String :=
  toString m.date.year ++ "-" ++ Text.twoDigits m.date.month ++ "-" ++ Text.twoDigits m.date.day

/-- A time such as `14:30:00`. -/
def timeText (m : Moment) : String :=
  Text.twoDigits m.hour ++ ":" ++ Text.twoDigits m.minute ++ ":" ++ Text.twoDigits m.second

/-! ### The exchange form -/

/-- Digits with leading zeros up to a width. -/
def padded (width n : Nat) : String :=
  let digits := (toString n).toList
  .ofList (List.replicate (width - digits.length) '0' ++ digits)

def offsetText (offset : Int) : String :=
  let size := offset.natAbs
  let seconds := if size % 60 = 0 then "" else ":" ++ Text.twoDigits (size % 60)
  (if offset < 0 then "-" else "+") ++ Text.twoDigits (size / 3600) ++ ":" ++
    Text.twoDigits (size / 60 % 60) ++ seconds

/-- The exchange form of a moment. -/
def toText (m : Moment) : String :=
  padded 4 m.date.year ++ "-" ++ Text.twoDigits m.date.month ++ "-" ++ Text.twoDigits m.date.day ++
    "T" ++ m.timeText ++ "." ++ padded 6 m.microsecond ++ (m.offset.map offsetText).getD ""

/-- What is read off the front of a row of characters. -/
abbrev Scan := StateT (List Char) Option

/-- Reads exactly `count` ASCII digits. -/
def scanDigits : Nat → Scan Nat
  | 0 => pure 0
  | count + 1 => do
    match ← get with
    | [] => failure
    | c :: rest =>
      if c.isDigit then
        set rest
        let low ← scanDigits count
        pure ((c.toNat - 48) * 10 ^ count + low)
      else failure

/-- Reads one given character. -/
def scanChar (c : Char) : Scan Unit := do
  match ← get with
  | [] => failure
  | d :: rest => if c = d then set rest else failure

/-- Reads a point and the digits after it, as microseconds; nothing counts as none. -/
def scanFraction : Scan Nat := do
  match ← get with
  | '.' :: rest =>
    let digits := rest.takeWhile Char.isDigit
    if digits.isEmpty || digits.length > 6 then failure
    set (rest.dropWhile Char.isDigit)
    pure (Text.decimalValue digits * Nat.pow 10 (6 - digits.length))
  | _ => pure 0

/-- Reads the distance from UTC in seconds; nothing counts as a clock without a zone. -/
def scanOffset : Scan (Option Int) := do
  match ← get with
  | [] => pure none
  | sign :: rest =>
    set rest
    let hours ← scanDigits 2
    scanChar ':'
    let minutes ← scanDigits 2
    let seconds ← match ← get with
      | [] => pure 0
      | _ => do
        scanChar ':'
        scanDigits 2
    let size : Int := hours * 3600 + minutes * 60 + seconds
    match sign with
    | '+' => pure (some size)
    | '-' => pure (some (-size))
    | _ => failure

def scanMoment : Scan Moment := do
  let year ← scanDigits 4
  scanChar '-'
  let month ← scanDigits 2
  scanChar '-'
  let day ← scanDigits 2
  scanChar 'T'
  let hour ← scanDigits 2
  scanChar ':'
  let minute ← scanDigits 2
  scanChar ':'
  let second ← scanDigits 2
  let micros ← scanFraction
  let offset ← scanOffset
  if 1 ≤ year && 1 ≤ month && month ≤ 12 && 1 ≤ day && day ≤ Date.monthLength year month &&
      hour < 24 && minute < 60 && second < 60 then
    Moment.ofDate? ⟨year, month, day⟩ (((hour * 60 + minute) * 60 + second) * 1000000 + micros) offset
  else failure

/-- The moment that an exchange form describes. -/
def ofText? (s : String) : Option Moment :=
  match scanMoment.run s.toList with
  | some (m, []) => some m
  | _ => none

end Jotter.Moment
