import Jotter.Failure
import Jotter.Text.Blank
import Jotter.Text.Digit

/-!
Numbers read from text. A row of digits may come from any script and may hold at most 4300 of them.
-/

namespace Jotter.Text

/-- The most digits that a numeral may have. -/
def maxNumeralDigits : Nat := 4300

/-- The number that a row of digits writes. -/
def numeral (digits : List Char) : Except Failure Nat :=
  if maxNumeralDigits < digits.length then .error (.numeralTooLong digits.length)
  else .ok (decimalValue digits)

/-- Whether underscores stand only singly between digits. -/
def underscoresFit : List Char → Bool
  | [] => true
  | '_' :: _ => false
  | c :: '_' :: rest => c != '_' && !rest.isEmpty && underscoresFit rest
  | _ :: rest => underscoresFit rest

/-- The white space that may stand around an integer: all but the four separator controls. -/
def isIntegerMargin (c : Char) : Bool :=
  isBlank c && !(0x1C ≤ c.toNat && c.toNat ≤ 0x1F)

/-- The integer that a text writes: digits of any script with single underscores between them, after
a sign or none, with white space around. -/
def integer (s : String) : Except Failure Int :=
  let cs := s.toList
  let body := cs.dropWhile isIntegerMargin
  let (negative, body) :=
    match body with
    | '-' :: rest => (true, rest)
    | '+' :: rest => (false, rest)
    | _ => (false, body)
  let isFigure := fun c => isDigit c || c == '_'
  let figures := body.takeWhile isFigure
  let rest := (body.dropWhile isFigure).dropWhile isIntegerMargin
  let digits := figures.filter isDigit
  if figures.isEmpty || !underscoresFit figures then .error (.notAnInteger s)
  else if maxNumeralDigits < digits.length then .error (.numeralTooLong digits.length)
  else if !rest.isEmpty then .error (.notAnInteger s)
  else .ok (if negative then -(decimalValue digits) else decimalValue digits)

end Jotter.Text
