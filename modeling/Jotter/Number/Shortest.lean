import Jotter.Number.Binary

/-!
The shortest decimal that reads back as a given double, and how it is written. A decimal reads back
when it lies in the interval of rationals that round to the double; the ends of the interval belong
to it when the significand is even. Among the decimals with the fewest digits the nearest is taken.
-/

namespace Jotter.Number

/-- A decimal `digits * 10 ^ exponent`. -/
structure Decimal where
  digits : Nat
  exponent : Int
  deriving DecidableEq, Repr

def tenPow : Int → Rat
  | .ofNat n => 10 ^ n
  | .negSucc n => 1 / 10 ^ (n + 1)

/-- The number of decimal digits before the point; none or fewer for a number below one. -/
def decimalPoint (x : Rat) : Int :=
  let guess : Int := (toString x.num.natAbs).length - (toString x.den).length
  if tenPow guess ≤ x.abs then guess + 1 else guess

/-- Whether a rational rounds to the positive double `x`. -/
def readsBackAs (x y : Rat) : Bool :=
  let unit := twoPow (lastPlace x)
  let below := if lastPlace (x - unit / 4) < lastPlace x then unit / 2 else unit
  let even := (x / unit).num % 2 == 0
  let low := x - below / 2
  let high := x + unit / 2
  if even then low ≤ y && y ≤ high else low < y && y < high

/-- The nearest decimal with `count` digits that reads back as the positive double `x`. -/
def decimalWith? (x : Rat) (count : Nat) : Option Decimal :=
  let exponent := decimalPoint x - count
  let unit := tenPow exponent
  let digits := (roundHalfEven (x / unit)).toNat
  let nearby := [digits, digits - 1, digits + 1]
  (nearby.find? fun (d : Nat) => 0 < d && readsBackAs x (d * unit)).map fun d => ⟨d, exponent⟩

/-- The shortest decimal that reads back as the positive double `x`. -/
def shortest (x : Rat) : Decimal :=
  let found := (List.range 17).findSome? fun count => decimalWith? x (count + 1)
  found.getD ⟨0, 0⟩

/-- A decimal in positional notation, with a digit on either side of the point. -/
def positional (digits : List Char) (point : Int) : List Char :=
  if point ≤ 0 then
    '0' :: '.' :: List.replicate (-point).toNat '0' ++ digits
  else
    let whole := digits.take point.toNat
    let part := digits.drop point.toNat
    whole ++ List.replicate (point.toNat - digits.length) '0' ++
      '.' :: (if part.isEmpty then ['0'] else part)

/-- A decimal with one digit before the point and an exponent of at least two digits. -/
def scientific (digits : List Char) (point : Int) : List Char :=
  let exponent := point - 1
  let size := toString exponent.natAbs
  let size := if size.length < 2 then "0" ++ size else size
  let sign := if exponent < 0 then '-' else '+'
  digits.take 1 ++ (if digits.length > 1 then '.' :: digits.drop 1 else []) ++ 'e' :: sign :: size.toList

/-- The text of a double: positional from `0.0001` up to sixteen digits before the point. -/
def doubleText (x : Rat) : String :=
  if x = 0 then "0.0"
  else
    let decimal := shortest x.abs
    let digits := (toString decimal.digits).toList
    let point := digits.length + decimal.exponent
    let digits := (digits.reverse.dropWhile (· == '0')).reverse
    let body := if -4 < point && point ≤ 16 then positional digits point else scientific digits point
    .ofList (if x < 0 then '-' :: body else body)

end Jotter.Number
