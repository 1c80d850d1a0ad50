/-
The decimal operations the domain and the engine use.  Everything above is
stated over any decimal type: exact rationals and the 96-bit decimals of the
program are two instances.
-/
import Mathlib.Algebra.Order.Floor.Ring
import Mathlib.Data.Rat.Floor

namespace TcoCalculator

/-- Why an operator on decimals panics. -/
inductive ArithmeticFault where
  | overflow
  | divisionByZero
  deriving DecidableEq, Repr

/-- A decimal type with panicking operators.  Comparisons go by `value`, which
does not see trailing zeros; `display` does. -/
class DecimalArith (D : Type) where
  ofScaled : Int → Nat → D
  value : D → ℚ
  add : D → D → Except ArithmeticFault D
  sub : D → D → Except ArithmeticFault D
  mul : D → D → Except ArithmeticFault D
  div : D → D → Except ArithmeticFault D
  rem : D → D → Except ArithmeticFault D
  ceil : D → D
  display : D → String
  parse : String → Option D

namespace DecimalArith

variable {D : Type} [DecimalArith D]

/-- `Decimal::from` on an integer. -/
def ofNat (n : Nat) : D := ofScaled n 0

def zero : D := ofScaled 0 0

def one : D := ofScaled 1 0

def max (a b : D) : D := if value b < value a then a else b

def min (a b : D) : D := if value a ≤ value b then a else b

def isPercent (a : D) : Bool := 0 ≤ value a && value a ≤ 1

end DecimalArith

end TcoCalculator
