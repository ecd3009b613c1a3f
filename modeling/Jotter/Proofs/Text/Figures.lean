import Mathlib.Algebra.Group.Nat.Defs
import Mathlib.Data.List.Basic
import Mathlib.Data.List.Forall2
import Jotter.Text.Digit

/-! Numbers written with a fixed number of decimal digits. Such texts stand in the order of the numbers, and
rows of numbers in columns of fixed widths, each with a mark behind it, in the order of the rows. -/

namespace Jotter.Text

variable {width m n : Nat}

/-! ### Digits -/

/-- The last decimal digits of a number, as many as the width says. -/
def figures : Nat → Nat → List Char
  | 0, _ => []
  | width + 1, n => figures width (n / 10) ++ [Nat.digitChar (n % 10)]

/-- Numbers in columns, each with as many digits as its column is wide and with the mark of the column behind. -/
def inColumns : List (Nat × Char) → List Nat → List Char
  | (width, mark) :: columns, n :: row => figures width n ++ mark :: inColumns columns row
  | _, _ => []

variable {columns : List (Nat × Char)} {row other : List Nat}

/-- The form of rows in columns. -/
def form (columns : List (Nat × Char)) : List Char :=
  columns.flatMap fun column => List.replicate column.1 'd' ++ [column.2]

end Jotter.Text
