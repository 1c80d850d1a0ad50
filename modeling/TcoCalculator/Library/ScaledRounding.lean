/-
Numbers of a bounded decimal format: a rational is kept with as many fraction
digits as its mantissa has room for, and rounded to the nearest such number.
-/
import Mathlib.Algebra.Order.Floor.Ring
import Mathlib.Algebra.Order.Round
import Mathlib.Data.Rat.Floor
import Mathlib.Tactic.LinearCombination
import Mathlib.Tactic.Positivity

namespace TcoCalculator

/-- The nearest integer, the even one of two. -/
def roundHalfEven (x : ℚ) : ℤ :=
  let rest := x - ⌊x⌋
  if rest < 1 / 2 then ⌊x⌋
  else if 1 / 2 < rest then ⌊x⌋ + 1
  else if ⌊x⌋ % 2 = 0 then ⌊x⌋
  else ⌊x⌋ + 1

/-- The function sends a rational to one of its nearest integers. -/
def RoundsToNearest (nearest : ℚ → ℤ) : Prop := ∀ x, |(nearest x : ℚ) - x| ≤ 1 / 2

theorem roundsToNearest_roundHalfEven : RoundsToNearest roundHalfEven := by
  intro x
  have hlow := Int.floor_le x
  have hhigh := Int.lt_floor_add_one x
  rw [abs_le]
  unfold roundHalfEven
  dsimp only
  split_ifs <;> constructor <;> push_cast <;> linarith

theorem roundsToNearest_round : RoundsToNearest (round : ℚ → ℤ) := by
  intro x
  rw [abs_sub_comm]
  exact abs_sub_round x

theorem roundHalfEven_pos {x : ℚ} : 0 < roundHalfEven x ↔ 1 / 2 < x := by
  constructor
  · intro hpos
    by_contra hle
    have hle : x ≤ 1 / 2 := not_lt.mp hle
    have hfloor : ⌊x⌋ ≤ 0 := by
      rw [← Int.lt_add_one_iff, zero_add, Int.floor_lt]
      norm_num
      linarith
    have hlow := Int.floor_le x
    have hcast : (⌊x⌋ : ℚ) ≤ 0 := by exact_mod_cast hfloor
    unfold roundHalfEven at hpos
    dsimp only at hpos
    split_ifs at hpos with hbelow habove heven
    · omega
    · have hneg : (⌊x⌋ : ℚ) < 0 := by linarith
      have hneg : ⌊x⌋ < 0 := by exact_mod_cast hneg
      omega
    · omega
    · -- halfway: at a half the floor is zero, which is even
      have hne : ⌊x⌋ ≠ 0 := by
        rintro hzero
        exact heven (by rw [hzero]; rfl)
      omega
  · intro hlt
    have hbound := (abs_le.mp (roundsToNearest_roundHalfEven x)).1
    have hpos : (0 : ℚ) < roundHalfEven x := by linarith
    exact_mod_cast hpos

namespace RoundsToNearest

variable {nearest : ℚ → ℤ}

theorem le_add_half (h : RoundsToNearest nearest) (x : ℚ) : (nearest x : ℚ) ≤ x + 1 / 2 := by
  have := (abs_le.mp (h x)).2
  linarith

theorem sub_half_le (h : RoundsToNearest nearest) (x : ℚ) : x - 1 / 2 ≤ (nearest x : ℚ) := by
  have := (abs_le.mp (h x)).1
  linarith

theorem intCast (h : RoundsToNearest nearest) (n : ℤ) : nearest n = n := by
  have hhigh := h.le_add_half n
  have hlow := h.sub_half_le n
  have hhigh : (nearest n : ℚ) < (n + 1 : ℤ) := by push_cast; linarith
  have hlow : ((n - 1 : ℤ) : ℚ) < nearest n := by push_cast; linarith
  have hhigh : nearest n < n + 1 := by exact_mod_cast hhigh
  have hlow : n - 1 < nearest n := by exact_mod_cast hlow
  omega

theorem nonneg (h : RoundsToNearest nearest) {x : ℚ} (hx : 0 ≤ x) : 0 ≤ nearest x := by
  have hlow := h.sub_half_le x
  have hlow : ((-1 : ℤ) : ℚ) < nearest x := by push_cast; linarith
  have hlow : -1 < nearest x := by exact_mod_cast hlow
  omega

end RoundsToNearest

/-- The mantissa and the scale of a rational with at most the given number of
fraction digits: the most digits whose mantissa stays under the limit, and none
when the integer part alone does not. -/
def fit (nearest : ℚ → ℤ) (limit : ℕ) (x : ℚ) : ℕ → Option (ℤ × ℕ)
  | 0 => if (nearest x).natAbs < limit then some (nearest x, 0) else none
  | scale + 1 =>
      let mantissa := nearest (x * 10 ^ (scale + 1))
      if mantissa.natAbs < limit then some (mantissa, scale + 1) else fit nearest limit x scale

section Fit

variable {nearest : ℚ → ℤ} {limit : ℕ} {x : ℚ} {scale : ℕ} {mantissa : ℤ} {kept : ℕ}

/-- What a fitted number is: rounded at its scale, and one digit more has no
room unless all digits asked for are there. -/
theorem of_fit_eq_some (h : fit nearest limit x scale = some (mantissa, kept)) :
    mantissa = nearest (x * 10 ^ kept) ∧ mantissa.natAbs < limit ∧ kept ≤ scale ∧
      (kept = scale ∨ limit ≤ (nearest (x * 10 ^ (kept + 1))).natAbs) := by
  induction scale with
  | zero =>
      unfold fit at h
      split at h
      · rename_i hroom
        cases h
        rw [pow_zero, mul_one]
        exact ⟨rfl, hroom, le_rfl, .inl rfl⟩
      · cases h
  | succ scale ih =>
      unfold fit at h
      dsimp only at h
      split at h
      · rename_i hroom
        cases h
        exact ⟨rfl, hroom, le_rfl, .inl rfl⟩
      · rename_i hfull
        obtain ⟨hmantissa, hroom, hle, hmore⟩ := ih h
        refine ⟨hmantissa, hroom, hle.trans (Nat.le_succ _), .inr ?_⟩
        rcases hmore with rfl | hmore
        · exact not_lt.mp hfull
        · exact hmore

theorem fit_eq_none (h : fit nearest limit x scale = none) : limit ≤ (nearest x).natAbs := by
  induction scale with
  | zero =>
      unfold fit at h
      split at h
      · cases h
      · rename_i hfull
        exact not_lt.mp hfull
  | succ scale ih =>
      unfold fit at h
      dsimp only at h
      split at h
      · cases h
      · exact ih h

/-- All digits are kept when they have room. -/
theorem fit_of_room (h : (nearest (x * 10 ^ scale)).natAbs < limit) :
    fit nearest limit x scale = some (nearest (x * 10 ^ scale), scale) := by
  rcases scale with _ | scale
  · rw [pow_zero, mul_one] at h ⊢
    exact if_pos h
  · exact if_pos h

/-- What the format holds exactly is fitted exactly. -/
theorem fit_exact (hnearest : RoundsToNearest nearest) {digits : ℕ} {exact : ℤ}
    (hroom : exact.natAbs < limit) (hdigits : digits ≤ scale) (hx : x = exact / 10 ^ digits) :
    ∃ mantissa kept, fit nearest limit x scale = some (mantissa, kept) ∧
      (mantissa : ℚ) / 10 ^ kept = x := by
  have hpow : ∀ n : ℕ, (10 : ℚ) ^ n ≠ 0 := fun n => by positivity
  have hscaled : ∀ n, digits ≤ n → nearest (x * 10 ^ n) = exact * 10 ^ (n - digits) := by
    intro n hn
    have hcast : x * 10 ^ n = ((exact * 10 ^ (n - digits) : ℤ) : ℚ) := by
      push_cast
      rw [hx, div_mul_eq_mul_div, div_eq_iff (hpow digits), mul_assoc, ← pow_add,
        Nat.sub_add_cancel hn]
    rw [hcast]
    exact hnearest.intCast _
  have hvalue : ∀ n, digits ≤ n → ((exact * 10 ^ (n - digits) : ℤ) : ℚ) / 10 ^ n = x := by
    intro n hn
    push_cast
    rw [hx, div_eq_div_iff (hpow n) (hpow digits), mul_assoc, ← pow_add, Nat.sub_add_cancel hn]
  induction scale with
  | zero =>
      obtain rfl := Nat.le_zero.mp hdigits
      have hzero := hscaled 0 le_rfl
      rw [pow_zero, mul_one] at hzero
      refine ⟨exact, 0, ?_, ?_⟩
      · unfold fit
        rw [hzero]
        simp [hroom]
      · simpa using hvalue 0 le_rfl
  | succ scale ih =>
      unfold fit
      dsimp only
      rw [hscaled (scale + 1) hdigits]
      split
      · exact ⟨_, _, rfl, hvalue (scale + 1) hdigits⟩
      · rename_i hfull
        rcases Nat.lt_or_ge scale digits with hlt | hge
        · obtain rfl : digits = scale + 1 := by omega
          rw [Nat.sub_self, pow_zero, mul_one] at hfull
          exact absurd hroom hfull
        · exact ih hge

end Fit

end TcoCalculator
