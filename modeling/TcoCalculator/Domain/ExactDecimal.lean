/-
Exact rational arithmetic as a decimal type.
-/
import TcoCalculator.Domain.Decimal

namespace TcoCalculator

open DecimalArith

/-- The quotient rounded toward zero. -/
def truncatedQuotient (a b : ℚ) : ℤ := (a / b).num.tdiv (a / b).den

/-- The digits of a decimal and how many of them follow the point.  A point may
stand anywhere, an underscore after the first digit. -/
def scanDigits : Bool → Bool → Nat → Nat → List Char → Option (Nat × Nat)
  | seenDigit, _, mantissa, scale, [] => if seenDigit then some (mantissa, scale) else none
  | seenDigit, seenPoint, mantissa, scale, c :: rest =>
      if c.isDigit then
        scanDigits true seenPoint (10 * mantissa + (c.toNat - 48))
          (if seenPoint then scale + 1 else scale) rest
      else if c = '.' ∧ !seenPoint then scanDigits seenDigit true mantissa scale rest
      else if c = '_' ∧ seenDigit then scanDigits seenDigit seenPoint mantissa scale rest
      else none

def parseRational (text : String) : Option ℚ :=
  match text.toList with
  | '-' :: digits => (scanDigits false false 0 0 digits).map fun (m, s) => -(m : ℚ) / 10 ^ s
  | '+' :: digits => (scanDigits false false 0 0 digits).map fun (m, s) => (m : ℚ) / 10 ^ s
  | digits => (scanDigits false false 0 0 digits).map fun (m, s) => (m : ℚ) / 10 ^ s

instance : DecimalArith ℚ where
  ofScaled mantissa scale := mantissa / 10 ^ scale
  value a := a
  add a b := .ok (a + b)
  sub a b := .ok (a - b)
  mul a b := .ok (a * b)
  div a b := if b = 0 then .error .divisionByZero else .ok (a / b)
  rem a b := if b = 0 then .error .divisionByZero else .ok (a - b * truncatedQuotient a b)
  ceil a := ⌈a⌉
  display a := if a.den = 1 then toString a.num else toString a.num ++ "/" ++ toString a.den
  parse := parseRational

namespace ExactDecimal

@[simp] theorem value_eq (a : ℚ) : value a = a := rfl

@[simp] theorem ofScaled_eq (mantissa : Int) (scale : Nat) :
    (ofScaled mantissa scale : ℚ) = mantissa / 10 ^ scale := rfl

@[simp] theorem ofNat_eq (n : Nat) : (DecimalArith.ofNat n : ℚ) = n := by
  simp [DecimalArith.ofNat]

@[simp] theorem zero_eq : (DecimalArith.zero : ℚ) = 0 := by
  simp [DecimalArith.zero]

@[simp] theorem one_eq : (DecimalArith.one : ℚ) = 1 := by
  simp [DecimalArith.one]

@[simp] theorem add_eq (a b : ℚ) : add a b = .ok (a + b) := rfl

@[simp] theorem sub_eq (a b : ℚ) : sub a b = .ok (a - b) := rfl

@[simp] theorem mul_eq (a b : ℚ) : mul a b = .ok (a * b) := rfl

@[simp] theorem ceil_eq (a : ℚ) : ceil a = (⌈a⌉ : ℚ) := rfl

theorem div_eq {a b : ℚ} (h : b ≠ 0) : div a b = .ok (a / b) := if_neg h

theorem rem_eq {a b : ℚ} (h : b ≠ 0) : rem a b = .ok (a - b * truncatedQuotient a b) := if_neg h

@[simp] theorem max_eq (a b : ℚ) : DecimalArith.max a b = Max.max a b := by
  unfold DecimalArith.max
  split
  · rename_i h
    exact (max_eq_left (le_of_lt h)).symm
  · rename_i h
    exact (max_eq_right (not_lt.mp h)).symm

@[simp] theorem min_eq (a b : ℚ) : DecimalArith.min a b = Min.min a b := by
  unfold DecimalArith.min
  split
  · rename_i h
    exact (min_eq_left h).symm
  · rename_i h
    exact (min_eq_right (le_of_not_ge h)).symm

end ExactDecimal

end TcoCalculator
