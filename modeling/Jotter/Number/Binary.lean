/-!
Numbers with a significand of 53 bits. A rational is rounded to the nearest number of that form, and a
rational halfway between two of them to the one with the even significand.
-/

namespace Jotter.Number

/-- The nearest integer, and of two equally near ones the even one. -/
def roundHalfEven (x : Rat) : Int :=
  let low := x.floor
  let rest := x - low
  if rest < 1 / 2 then low
  else if 1 / 2 < rest then low + 1
  else if low % 2 = 0 then low
  else low + 1

/-- The power of two with an integral exponent. -/
def twoPow : Int → Rat
  | .ofNat n => 2 ^ n
  | .negSucc n => 1 / 2 ^ (n + 1)

/-- The greatest exponent whose power of two is at most the magnitude of a number other than zero. -/
def floorLog2 (x : Rat) : Int :=
  let high := (x.num.natAbs.log2 : Int) - (x.den.log2 : Int)
  if twoPow high ≤ x.abs then high else high - 1

/-- The nearest multiple of a unit, ties to an even multiple. -/
def roundTo (unit x : Rat) : Rat :=
  roundHalfEven (x / unit) * unit

/-- The nearest number with a significand of 53 bits. -/
def round53 (x : Rat) : Rat :=
  if x = 0 then 0 else roundTo (twoPow (floorLog2 x - 52)) x

/-- The exponent of the last place of the double next to a number other than zero. -/
def lastPlace (x : Rat) : Int :=
  max (floorLog2 x - 52) (-1074)

/-- The nearest double. -/
def toDouble (x : Rat) : Rat :=
  if x = 0 then 0 else roundTo (twoPow (lastPlace x)) x

/-- The integer part, towards zero. -/
def truncate (x : Rat) : Int :=
  if 0 ≤ x then x.floor else -(-x).floor

end Jotter.Number
