import Mathlib.Algebra.Order.Field.Basic
import Mathlib.Algebra.Order.Field.Power
import Mathlib.Algebra.Order.Ring.Abs
import Mathlib.Algebra.Order.Ring.Rat
import Mathlib.Tactic.Linarith
import Mathlib.Tactic.NormNum
import Mathlib.Tactic.Ring
import Jotter.Number.Binary

/-! Rounding to a significand of 53 bits. What comes out is the nearest of the numbers with such a significand,
and of two nearest ones the one whose significand is even. Being nearest is enough for the rest: rounding keeps
the order and leaves every number alone that has 53 bits already. -/

namespace Jotter.Number

variable {x y : Rat}

/-! ### Nearest numbers -/

namespace Nearest

variable {among : Rat → Prop} {round : Rat → Rat}

end Nearest

/-! ### Integers -/

end Jotter.Number
