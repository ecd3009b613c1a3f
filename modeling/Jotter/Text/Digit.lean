/-!
Decimal digits of every script and the numbers they write.
-/

namespace Jotter.Text

/-- The code points of the zeros; the nine other digits of a script follow its zero. -/
def zeros : List Nat :=
  [
    48, 1632, 1776, 1984, 2406, 2534, 2662, 2790, 2918, 3046, 3174, 3302, 3430, 3558, 3664, 3792, 3872,
    4160, 4240, 6112, 6160, 6470, 6608, 6784, 6800, 6992, 7088, 7232, 7248, 42528, 43216, 43264, 43472,
    43504, 43600, 44016, 65296, 66720, 68912, 69734, 69872, 69942, 70096, 70384, 70736, 70864, 71248,
    71360, 71472, 71904, 72016, 72784, 73040, 73120, 92768, 92864, 93008, 120782, 120792, 120802, 120812,
    120822, 123200, 123632, 125264, 130032
  ]

/-- The value of a decimal digit of any script. -/
def digitValue? (c : Char) : Option Nat :=
  (zeros.find? fun z => z ≤ c.toNat && c.toNat < z + 10).map (c.toNat - ·)

def isDigit (c : Char) : Bool :=
  (digitValue? c).isSome

/-- The number that a row of digits writes in base ten; other characters are passed over. -/
def decimalValue (cs : List Char) : Nat :=
  (cs.filterMap digitValue?).foldl (fun value digit => 10 * value + digit) 0

/-- A number with at least two digits, as minutes and months are written. -/
def twoDigits (n : Nat) : String :=
  if n < 10 then "0" ++ toString n else toString n

/-- A number with at least three digits, as milliseconds are written. -/
def threeDigits (n : Nat) : String :=
  if n < 100 then "0" ++ twoDigits n else toString n

end Jotter.Text
