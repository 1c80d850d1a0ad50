/-
Numbers that are equal with other digits: the operators of the program's
decimals do not tell them apart.
-/
import TcoCalculator.Domain.PriceArithmetic
import TcoCalculator.Library.Follows

namespace TcoCalculator

open Fallible

namespace Halt

variable {ε ε' α α' : Type} {R : α → α' → Prop}

theorem toOption_checked (x : Except ε α) :
    (checked x : Except (Halt ε) α).toOption = x.toOption := by
  cases x <;> rfl

theorem follows_checked {x : Except ε α} {x' : Except ε' α'} (h : Follows R x x') :
    Follows R (checked x) (checked x') := by
  intro a ha
  obtain ⟨a', ha', hR⟩ := h a (checked_eq_ok.mp ha)
  exact ⟨a', checked_eq_ok.mpr ha', hR⟩

theorem follows_lift {x : Except ArithmeticFault α} {x' : Except ArithmeticFault α'}
    (h : Follows R x x') :
    Follows R (liftM x : Except (Halt ε) α) (liftM x' : Except (Halt ε') α') := by
  intro a ha
  obtain ⟨a', ha', hR⟩ := h a (liftM_eq_ok.mp ha)
  exact ⟨a', liftM_eq_ok.mpr ha', hR⟩

end Halt

/-! ### Rounding -/

section Fit

variable {nearest : ℚ → ℤ} {limit : ℕ} {x : ℚ} {digits scale : ℕ} {n : ℤ}

/-- A number with no more digits than asked for is the same, however many more
are asked for. -/
theorem fit_value_eq (hnearest : RoundsToNearest nearest) (hdigits : x * 10 ^ digits = n)
    (hscale : digits ≤ scale) :
    (fit nearest limit x scale).map (fun parts => (parts.1 : ℚ) / 10 ^ parts.2) =
      (fit nearest limit x digits).map fun parts => (parts.1 : ℚ) / 10 ^ parts.2 := by
  induction scale, hscale using Nat.le_induction with
  | base => rfl
  | succ scale hle ih =>
      have hexact : x * 10 ^ (scale + 1) = ((n * 10 ^ (scale + 1 - digits) : ℤ) : ℚ) := by
        push_cast
        rw [← hdigits, mul_assoc, ← pow_add]
        congr 2
        omega
      by_cases hroom : (nearest (x * 10 ^ (scale + 1))).natAbs < limit
      · have hfewer : (nearest (x * 10 ^ digits)).natAbs < limit := by
          rw [hexact, hnearest.intCast, Int.natAbs_mul] at hroom
          rw [hdigits, hnearest.intCast]
          refine lt_of_le_of_lt (Nat.le_mul_of_pos_right _ ?_) hroom
          rw [Int.natAbs_pow]
          exact Nat.pow_pos (by decide)
        rw [fit_of_room hroom, fit_of_room hfewer, Option.map_some, Option.map_some, hexact, hdigits,
          hnearest.intCast, hnearest.intCast, ← hexact, ← hdigits]
        congr 1
        rw [mul_div_cancel_right₀ _ (by positivity), mul_div_cancel_right₀ _ (by positivity)]
      · rw [fit, if_neg hroom]
        exact ih

end Fit

namespace Decimal96

open DecimalArith

/-- The number has no more fraction digits than the given. -/
def Digits (x : ℚ) (digits : ℕ) : Prop := ∃ n : ℤ, x * 10 ^ digits = n

theorem rounded_toRat_eq {x : ℚ} {scale scale' : ℕ} (hscale : Digits x scale)
    (hle : scale ≤ scale') :
    (rounded roundHalfEven x scale).map toRat = (rounded roundHalfEven x scale').map toRat := by
  have hvalue : ∀ scale, (rounded roundHalfEven x scale).map toRat =
      (fit roundHalfEven (2 ^ 96) x (min scale 28)).map fun parts =>
        (parts.1 : ℚ) / 10 ^ parts.2 := by
    intro scale
    rw [rounded]
    cases hfit : fit roundHalfEven (2 ^ 96) x (min scale 28) with
    | none => rfl
    | some parts =>
        obtain ⟨-, hroom, hkept, -⟩ := of_fit_eq_some hfit
        rw [Option.bind_some, ofParts_isSome hroom (hkept.trans (min_le_right _ _))]
        rfl
  rw [hvalue, hvalue]
  rcases le_total 28 scale with hfull | hroom
  · rw [min_eq_right hfull, min_eq_right (hfull.trans hle)]
  · obtain ⟨n, hn⟩ := hscale
    rw [min_eq_left hroom]
    exact (fit_value_eq roundsToNearest_roundHalfEven hn (le_min hle hroom)).symm

/-- The results of an operator are the same number. -/
theorem arithmetic_follows {x : ℚ} {scale scale' : ℕ} (hscale : Digits x scale)
    (hscale' : Digits x scale') :
    Follows (fun a b : Decimal96 => a.toRat = b.toRat) (arithmetic x scale)
      (arithmetic x scale') := by
  have heq : (rounded roundHalfEven x scale).map toRat =
      (rounded roundHalfEven x scale').map toRat := by
    rcases le_total scale scale' with hle | hle
    · exact rounded_toRat_eq hscale hle
    · exact (rounded_toRat_eq hscale' hle).symm
  intro a ha
  rw [arithmetic_eq_ok.mp ha, Option.map_some, eq_comm, Option.map_eq_some_iff] at heq
  obtain ⟨b, hb, hvalue⟩ := heq
  exact ⟨b, arithmetic_eq_ok.mpr hb, hvalue.symm⟩

section Operators

variable {a a' b b' : Decimal96} (ha : a.toRat = a'.toRat) (hb : b.toRat = b'.toRat)
include ha hb

theorem add_follows : Follows (fun left right : Decimal96 => left.toRat = right.toRat)
    (add a b) (add a' b') := by
  have hsum : ∀ left right : Decimal96,
      Digits (left.toRat + right.toRat) (Nat.max left.scale right.scale) := by
    intro left right
    obtain ⟨n, hn⟩ := exists_scaled left (Nat.le_max_left _ right.scale)
    obtain ⟨m, hm⟩ := exists_scaled right (Nat.le_max_right left.scale _)
    exact ⟨n + m, by rw [add_mul, hn, hm, Int.cast_add]⟩
  have hdigits := hsum a' b'
  rw [← ha, ← hb] at hdigits
  change Follows _ (arithmetic (a.toRat + b.toRat) _) (arithmetic (a'.toRat + b'.toRat) _)
  rw [← ha, ← hb]
  exact arithmetic_follows (hsum a b) hdigits

theorem sub_follows : Follows (fun left right : Decimal96 => left.toRat = right.toRat)
    (sub a b) (sub a' b') := by
  have hdifference : ∀ left right : Decimal96,
      Digits (left.toRat - right.toRat) (Nat.max left.scale right.scale) := by
    intro left right
    obtain ⟨n, hn⟩ := exists_scaled left (Nat.le_max_left _ right.scale)
    obtain ⟨m, hm⟩ := exists_scaled right (Nat.le_max_right left.scale _)
    exact ⟨n - m, by rw [sub_mul, hn, hm, Int.cast_sub]⟩
  have hdigits := hdifference a' b'
  rw [← ha, ← hb] at hdigits
  change Follows _ (arithmetic (a.toRat - b.toRat) _) (arithmetic (a'.toRat - b'.toRat) _)
  rw [← ha, ← hb]
  exact arithmetic_follows (hdifference a b) hdigits

theorem mul_follows : Follows (fun left right : Decimal96 => left.toRat = right.toRat)
    (mul a b) (mul a' b') := by
  have hproduct : ∀ left right : Decimal96,
      Digits (left.toRat * right.toRat) (left.scale + right.scale) := by
    intro left right
    obtain ⟨n, hn⟩ := exists_scaled left le_rfl
    obtain ⟨m, hm⟩ := exists_scaled right le_rfl
    exact ⟨n * m, by rw [pow_add, mul_mul_mul_comm, hn, hm, Int.cast_mul]⟩
  have hdigits := hproduct a' b'
  rw [← ha, ← hb] at hdigits
  change Follows _ (arithmetic (a.toRat * b.toRat) _) (arithmetic (a'.toRat * b'.toRat) _)
  rw [← ha, ← hb]
  exact arithmetic_follows (hproduct a b) hdigits

end Operators

end Decimal96

end TcoCalculator
