import Jotter.Number.Shortest

/-!
Floating-point numbers. Besides rationals there are a naught below zero, the two infinities and the
number that is none; the last one differs from every number, itself included.
-/

namespace Jotter.Number

inductive Floating where
  | finite (value : Rat)
  | negativeZero
  | infinite (negative : Bool)
  | undefined
  deriving DecidableEq, Repr, Inhabited

namespace Floating

/-- The double next to `digits * 10 ^ exponent` or to its opposite. What is far beyond the largest
double, or far below the smallest one, is not computed. -/
def ofDecimal (negative : Bool) (digits : Nat) (exponent : Int) : Floating :=
  let point := (toString digits).length + exponent
  if digits = 0 || point < -400 then if negative then negativeZero else finite 0
  else if 400 < point then infinite negative
  else
    let magnitude := toDouble (digits * tenPow exponent)
    if twoPow 1024 ≤ magnitude then infinite negative
    else if magnitude = 0 then if negative then negativeZero else finite 0
    else finite (if negative then -magnitude else magnitude)

/-- The rational that a number counts for, if there is one. -/
def rational? : Floating → Option Rat
  | finite value => some value
  | negativeZero => some 0
  | infinite _ | undefined => none

/-- Whether two numbers count the same. -/
def sameAs : Floating → Floating → Bool
  | infinite a, infinite b => a == b
  | a, b =>
    match a.rational?, b.rational? with
    | some x, some y => x == y
    | _, _ => false

def isZero (x : Floating) : Bool :=
  x.rational? == some 0

/-- A number as text, where the infinities and what is no number have words of their own. -/
def textWith (infinity undefinedWord : String) : Floating → String
  | finite value => doubleText value
  | negativeZero => "-0.0"
  | infinite negative => if negative then "-" ++ infinity else infinity
  | undefined => undefinedWord

end Floating

end Jotter.Number
