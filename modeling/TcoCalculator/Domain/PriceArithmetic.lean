/-
Sums and shares of prices: exact ones, what rounding leaves of them in the
program's decimals, and when they are positive.
-/
import Mathlib.Algebra.Order.BigOperators.Group.List
import TcoCalculator.Calculation.Arithmetic
import TcoCalculator.Domain.Decimal96

namespace TcoCalculator

namespace ExactDecimal

open DecimalArith

theorem sum_eq_sum (numbers : List ℚ) : DecimalArith.sum numbers = .ok numbers.sum := by
  have hfold : ∀ start : ℚ, numbers.foldlM add start = (.ok (start + numbers.sum) :
      Except ArithmeticFault ℚ) := by
    induction numbers with
    | nil => simp
    | cons number rest ih =>
        intro start
        rw [List.foldlM_cons, List.sum_cons, ← add_assoc]
        exact ih (start + number)
  rw [DecimalArith.sum, zero_eq, hfold, zero_add]

end ExactDecimal

namespace Decimal96

open DecimalArith (zero add div)

/-- With enough digits a decimal is a whole number of them. -/
theorem exists_scaled (a : Decimal96) {scale : ℕ} (h : a.scale ≤ scale) :
    ∃ n : ℤ, a.toRat * 10 ^ scale = n := by
  refine ⟨a.mantissa * 10 ^ (scale - a.scale), ?_⟩
  rw [toRat, div_mul_eq_mul_div, div_eq_iff (by positivity)]
  push_cast
  rw [mul_assoc, ← pow_add, Nat.sub_add_cancel h]

/-- A rounded number has all digits asked for, or it and the exact one are above seven. -/
theorem rounded_digits {x : ℚ} {scale : ℕ} {a : Decimal96} (hx : 0 ≤ x)
    (h : rounded roundHalfEven x scale = some a) :
    a.scale = Nat.min scale 28 ∨ 7 ≤ a.toRat ∧ 7 ≤ x := by
  obtain ⟨hmantissa, hle, hfull | hmore⟩ := of_rounded_eq_some h
  · exact .inl hfull
  by_cases hlast : a.scale = Nat.min scale 28
  · exact .inl hlast
  right
  have hroom : a.scale + 1 ≤ 28 := by
    have hmin : Nat.min scale 28 ≤ 28 := Nat.min_le_right scale 28
    have hle : a.scale ≤ Nat.min scale 28 := hle
    omega
  have hnonneg := roundsToNearest_roundHalfEven.nonneg
    (show 0 ≤ x * 10 ^ (a.scale + 1) by positivity)
  have hbig : ((2 ^ 96 : ℕ) : ℤ) ≤ roundHalfEven (x * 10 ^ (a.scale + 1)) := by omega
  have hbig : (((2 ^ 96 : ℕ) : ℤ) : ℚ) ≤ roundHalfEven (x * 10 ^ (a.scale + 1)) := by
    exact_mod_cast hbig
  have hup := roundsToNearest_roundHalfEven.le_add_half (x * 10 ^ (a.scale + 1))
  have hpow : (10 : ℚ) ^ (a.scale + 1) ≤ 10 ^ 28 := pow_le_pow_right₀ (by norm_num) hroom
  have hlarge : (79 / 10 : ℚ) * 10 ^ 28 ≤ x * 10 ^ 28 := by
    have hstep : x * 10 ^ (a.scale + 1) ≤ x * 10 ^ 28 := mul_le_mul_of_nonneg_left hpow hx
    push_cast at hbig
    norm_num at hbig ⊢
    linarith
  have hx79 : 79 / 10 ≤ x := le_of_mul_le_mul_right hlarge (by positivity)
  have hdown := roundsToNearest_roundHalfEven.sub_half_le (x * 10 ^ a.scale)
  rw [← hmantissa] at hdown
  have hone : (1 : ℚ) ≤ 10 ^ a.scale := one_le_pow₀ (by norm_num)
  refine ⟨?_, by linarith⟩
  rw [toRat, le_div_iff₀ (by positivity)]
  nlinarith

/-- The first digit that has no room leaves a number of at least the limit. -/
theorem limit_le_of_rounded {x : ℚ} {scale : ℕ} {a : Decimal96} (hx : 0 ≤ x)
    (h : rounded roundHalfEven x scale = some a) (hless : a.scale < min scale 28) :
    (2 ^ 96 - 1 / 2 : ℚ) ≤ x * 10 ^ (a.scale + 1) := by
  obtain ⟨-, -, hfull | hmore⟩ := of_rounded_eq_some h
  · exact absurd hfull (Nat.ne_of_lt hless)
  · have hnonneg := roundsToNearest_roundHalfEven.nonneg
      (show 0 ≤ x * 10 ^ (a.scale + 1) by positivity)
    have hlimit : (2 ^ 96 : ℤ) ≤ roundHalfEven (x * 10 ^ (a.scale + 1)) := by omega
    have hlimit : (2 ^ 96 : ℚ) ≤ roundHalfEven (x * 10 ^ (a.scale + 1)) := by exact_mod_cast hlimit
    have hup := roundsToNearest_roundHalfEven.le_add_half (x * 10 ^ (a.scale + 1))
    linarith

/-- A decimal times a power of ten below its last digit. -/
theorem toRat_mul_pow_le (a : Decimal96) (ha : 0 ≤ a.toRat) {scale : ℕ} (h : scale ≤ a.scale) :
    a.toRat * 10 ^ scale ≤ 2 ^ 96 - 1 := by
  have hpow : (10 : ℚ) ^ scale ≤ 10 ^ a.scale := pow_le_pow_right₀ (by norm_num) h
  have hmantissa : (a.mantissa : ℚ) ≤ 2 ^ 96 - 1 := by
    have hroom := a.mantissa_lt
    have hle : a.mantissa ≤ 2 ^ 96 - 1 := by omega
    exact_mod_cast hle
  calc a.toRat * 10 ^ scale ≤ a.toRat * 10 ^ a.scale := mul_le_mul_of_nonneg_left hpow ha
    _ = a.mantissa := by rw [toRat, div_mul_cancel₀ _ (by positivity)]
    _ ≤ 2 ^ 96 - 1 := hmantissa

/-- Rounding does not pass a decimal with the digits asked for: from below. -/
theorem rounded_le {x : ℚ} {scale : ℕ} {a b : Decimal96} (hx : 0 ≤ x) (hle : x ≤ b.toRat)
    (h : rounded roundHalfEven x scale = some a) (hscale : b.scale ≤ min scale 28) :
    a.toRat ≤ b.toRat := by
  rcases le_or_gt b.scale a.scale with hdigits | hdigits
  · obtain ⟨hmantissa, -⟩ := of_rounded_eq_some h
    obtain ⟨n, hn⟩ := exists_scaled b hdigits
    have hup := roundsToNearest_roundHalfEven.le_add_half (x * 10 ^ a.scale)
    have hscaled : x * 10 ^ a.scale ≤ n := by
      rw [← hn]
      exact mul_le_mul_of_nonneg_right hle (by positivity)
    rw [← hmantissa] at hup
    have hlt : (a.mantissa : ℚ) < (n + 1 : ℤ) := by push_cast; linarith
    have hlt : a.mantissa < n + 1 := by exact_mod_cast hlt
    have hmantissa : (a.mantissa : ℚ) ≤ n := by exact_mod_cast Int.lt_add_one_iff.mp hlt
    rw [toRat, div_le_iff₀ (by positivity), hn]
    exact hmantissa
  · -- the bound has a digit the result had no room for
    have hlimit := limit_le_of_rounded hx h (hdigits.trans_le hscale)
    have hbound := toRat_mul_pow_le b (hx.trans hle) (show a.scale + 1 ≤ b.scale from hdigits)
    have hscaled : x * 10 ^ (a.scale + 1) ≤ b.toRat * 10 ^ (a.scale + 1) :=
      mul_le_mul_of_nonneg_right hle (by positivity)
    linarith

/-- Rounding does not pass a decimal with the digits asked for: from above. -/
theorem le_rounded {x : ℚ} {scale : ℕ} {a b : Decimal96} (hb : 0 ≤ b.toRat) (hle : b.toRat ≤ x)
    (h : rounded roundHalfEven x scale = some a) (hscale : b.scale ≤ min scale 28) :
    b.toRat ≤ a.toRat := by
  obtain ⟨hmantissa, -⟩ := of_rounded_eq_some h
  have hdown := roundsToNearest_roundHalfEven.sub_half_le (x * 10 ^ a.scale)
  rw [← hmantissa] at hdown
  rw [show a.toRat = a.mantissa / 10 ^ a.scale from rfl, le_div_iff₀ (by positivity)]
  rcases le_or_gt b.scale a.scale with hdigits | hdigits
  · obtain ⟨n, hn⟩ := exists_scaled b hdigits
    have hscaled : (n : ℚ) ≤ x * 10 ^ a.scale := by
      rw [← hn]
      exact mul_le_mul_of_nonneg_right hle (by positivity)
    have hlt : ((n - 1 : ℤ) : ℚ) < a.mantissa := by push_cast; linarith
    have hlt : n - 1 < a.mantissa := by exact_mod_cast hlt
    rw [hn]
    exact_mod_cast Int.sub_one_lt_iff.mp hlt
  · -- one digit more had no room, and the limit is a multiple of ten only after six
    have hlimit := limit_le_of_rounded (hb.trans hle) h (hdigits.trans_le hscale)
    have hbound := toRat_mul_pow_le b hb (show a.scale + 1 ≤ b.scale from hdigits)
    rw [pow_succ (10 : ℚ) a.scale, ← mul_assoc] at hlimit hbound
    have hlt : ((7922816251426433759354395033 : ℤ) : ℚ) < a.mantissa := by
      push_cast
      linarith
    have hlt : (7922816251426433759354395033 : ℤ) < a.mantissa := by exact_mod_cast hlt
    have hmantissa : (7922816251426433759354395034 : ℚ) ≤ a.mantissa := by exact_mod_cast hlt
    linarith

theorem nonneg_of_arithmetic {x : ℚ} {scale : ℕ} {a : Decimal96} (hx : 0 ≤ x)
    (h : arithmetic x scale = .ok a) : 0 ≤ a.toRat := by
  obtain ⟨hmantissa, -⟩ := of_rounded_eq_some (arithmetic_eq_ok.mp h)
  have hnonneg := roundsToNearest_roundHalfEven.nonneg (show 0 ≤ x * 10 ^ a.scale by positivity)
  rw [← hmantissa] at hnonneg
  exact div_nonneg (by exact_mod_cast hnonneg) (by positivity)

/-- Adding what is not negative takes nothing away. -/
theorem le_add {a b c : Decimal96} (ha : 0 ≤ a.toRat) (hb : 0 ≤ b.toRat) (h : add a b = .ok c) :
    a.toRat ≤ c.toRat :=
  le_rounded ha (le_add_of_nonneg_right hb) (arithmetic_eq_ok.mp h)
    (le_min (le_max_left a.scale b.scale) a.scale_le)

/-- Decimals stay below the first mantissa without room. -/
theorem abs_toRat_le (a : Decimal96) : |a.toRat| ≤ 2 ^ 96 - 1 := by
  have hmantissa : |a.mantissa| ≤ 2 ^ 96 - 1 := by
    have hroom := a.mantissa_lt
    rw [Int.abs_eq_natAbs]
    omega
  have hmantissa : |(a.mantissa : ℚ)| ≤ 2 ^ 96 - 1 := by exact_mod_cast hmantissa
  have hpow : (1 : ℚ) ≤ 10 ^ a.scale := one_le_pow₀ (by norm_num)
  rw [toRat, abs_div, abs_of_pos (show (0 : ℚ) < 10 ^ a.scale by positivity),
    div_le_iff₀ (by positivity)]
  nlinarith [abs_nonneg (a.mantissa : ℚ)]

/-- A result within the range of decimals does not overflow. -/
theorem arithmetic_of_abs_le {x : ℚ} (h : |x| ≤ 2 ^ 96 - 1) (scale : ℕ) :
    ∃ a, arithmetic x scale = .ok a := by
  rcases hrun : arithmetic x scale with fault | a
  · exfalso
    have hnone : rounded roundHalfEven x scale = none := by
      unfold arithmetic at hrun
      split at hrun
      · exact nomatch hrun
      · assumption
    have hlarge := of_rounded_eq_none hnone
    have hlarge : (2 ^ 96 : ℤ) ≤ |roundHalfEven x| := by
      rw [Int.abs_eq_natAbs]
      omega
    have hlarge : (2 ^ 96 : ℚ) ≤ |(roundHalfEven x : ℚ)| := by exact_mod_cast hlarge
    have hnear := roundsToNearest_roundHalfEven x
    have htriangle := abs_sub_abs_le_abs_sub (roundHalfEven x : ℚ) x
    linarith
  · exact ⟨a, rfl⟩

/-- A smaller price can be taken from a larger one. -/
theorem sub_returns {a b : Decimal96} (hb : 0 ≤ b.toRat) (hle : b.toRat ≤ a.toRat) :
    ∃ c, DecimalArith.sub a b = .ok c := by
  apply arithmetic_of_abs_le
  rw [abs_of_nonneg (sub_nonneg.mpr hle)]
  have ha := le_of_abs_le (abs_toRat_le a)
  linarith

theorem nonpos_of_arithmetic {x : ℚ} {scale : ℕ} {a : Decimal96} (hx : x ≤ 0)
    (h : arithmetic x scale = .ok a) : a.toRat ≤ 0 := by
  obtain ⟨hmantissa, -⟩ := of_rounded_eq_some (arithmetic_eq_ok.mp h)
  have hexact : x * 10 ^ a.scale ≤ 0 := mul_nonpos_of_nonpos_of_nonneg hx (by positivity)
  have hhigh := roundsToNearest_roundHalfEven.le_add_half (x * 10 ^ a.scale)
  rw [← hmantissa] at hhigh
  have hsmall : (a.mantissa : ℚ) < (1 : ℤ) := by
    push_cast
    linarith
  have hsmall : a.mantissa < 1 := by exact_mod_cast hsmall
  have hnonpos : (a.mantissa : ℚ) ≤ 0 := by exact_mod_cast Int.lt_add_one_iff.mp hsmall
  exact div_nonpos_of_nonpos_of_nonneg hnonpos (by positivity)

theorem sub_nonpos_of_le {a b c : Decimal96} (hle : a.toRat ≤ b.toRat)
    (h : DecimalArith.sub a b = .ok c) : c.toRat ≤ 0 :=
  nonpos_of_arithmetic (sub_nonpos.mpr hle) h

theorem truncatedQuotient_of_nonneg {a b : ℚ} (h : 0 ≤ a / b) :
    truncatedQuotient a b = ⌊a / b⌋ := by
  unfold truncatedQuotient
  rw [Int.tdiv_eq_ediv_of_nonneg (Rat.num_nonneg.mpr h), Rat.floor_def']

theorem le_truncatedQuotient_of_neg {a b : ℚ} (h : a / b < 0) :
    a / b ≤ truncatedQuotient a b := by
  have hfloor : truncatedQuotient a b = -⌊-(a / b)⌋ := by
    unfold truncatedQuotient
    rw [Rat.floor_def', Rat.neg_num, Rat.neg_den,
      ← Int.tdiv_eq_ediv_of_nonneg (by have := Rat.num_neg.mpr h; omega), Int.neg_tdiv, neg_neg]
  have hle := Int.floor_le (-(a / b))
  rw [hfloor]
  push_cast
  linarith

/-- A positive remainder is that of a dividend not negative, and does not pass
the divisor. -/
theorem rem_bounds {a b r : Decimal96} (hb : 0 < b.toRat) (h : DecimalArith.rem a b = .ok r)
    (hr : 0 < r.toRat) : 0 ≤ a.toRat ∧ r.toRat ≤ b.toRat := by
  have hrun : arithmetic (a.toRat - b.toRat * truncatedQuotient a.toRat b.toRat)
      (max a.scale b.scale) = .ok r := by
    change (if b.toRat = 0 then _ else _) = _ at h
    rwa [if_neg hb.ne'] at h
  rcases lt_or_ge a.toRat 0 with ha | ha
  · have hquotient := le_truncatedQuotient_of_neg (div_neg_of_neg_of_pos ha hb)
    rw [div_le_iff₀ hb] at hquotient
    have hnonpos := nonpos_of_arithmetic (by linarith) hrun
    exact absurd hr hnonpos.not_gt
  · refine ⟨ha, ?_⟩
    rw [truncatedQuotient_of_nonneg (div_nonneg ha hb.le)] at hrun
    have hfloor := Int.floor_le (a.toRat / b.toRat)
    have hnext := Int.lt_floor_add_one (a.toRat / b.toRat)
    rw [le_div_iff₀ hb] at hfloor
    rw [div_lt_iff₀ hb] at hnext
    exact rounded_le (by linarith) (by linarith) (arithmetic_eq_ok.mp hrun)
      (le_min (le_max_right a.scale b.scale) b.scale_le)

/-- Adding nothing keeps a price. -/
theorem toRat_of_add_zero {a b c : Decimal96} (hb : b.toRat = 0) (h : add a b = .ok c) :
    c.toRat = a.toRat := by
  have hrounded := arithmetic_eq_ok.mp h
  rw [hb, add_zero] at hrounded
  obtain ⟨exact, hexact, hvalue⟩ :=
    rounded_exact roundsToNearest_roundHalfEven a (le_max_left a.scale b.scale)
  rw [hexact] at hrounded
  obtain rfl := Option.some.inj hrounded
  exact hvalue

/-- The sum of two prices is exact, or both it and the exact one are above seven. -/
theorem add_cases {a b c : Decimal96} (ha : 0 ≤ a.toRat) (hb : 0 ≤ b.toRat)
    (h : add a b = .ok c) :
    c.toRat = a.toRat + b.toRat ∨ 7 ≤ c.toRat ∧ 7 ≤ a.toRat + b.toRat := by
  have hrounded := arithmetic_eq_ok.mp h
  rcases rounded_digits (add_nonneg ha hb) hrounded with hdigits | hlarge
  · left
    have hmax : Nat.min (Max.max a.scale b.scale) 28 = Max.max a.scale b.scale :=
      Nat.min_eq_left (max_le a.scale_le b.scale_le)
    rw [hmax] at hdigits
    obtain ⟨m, hm⟩ := exists_scaled a (le_max_left a.scale b.scale)
    obtain ⟨n, hn⟩ := exists_scaled b (le_max_right a.scale b.scale)
    obtain ⟨hmantissa, -⟩ := of_rounded_eq_some hrounded
    rw [hdigits, add_mul, hm, hn, ← Int.cast_add, roundsToNearest_roundHalfEven.intCast]
      at hmantissa
    rw [toRat, div_eq_iff (by positivity), hmantissa, hdigits, add_mul, hm, hn, Int.cast_add]
  · exact .inr hlarge

theorem add_nonneg_of_ok {a b c : Decimal96} (ha : 0 ≤ a.toRat) (hb : 0 ≤ b.toRat)
    (h : add a b = .ok c) : 0 ≤ c.toRat := by
  rcases add_cases ha hb h with heq | ⟨hlarge, -⟩
  · rw [heq]
    exact add_nonneg ha hb
  · linarith

theorem add_pos_iff {a b c : Decimal96} (ha : 0 ≤ a.toRat) (hb : 0 ≤ b.toRat)
    (h : add a b = .ok c) : 0 < c.toRat ↔ 0 < a.toRat ∨ 0 < b.toRat := by
  have hexact : 0 < a.toRat + b.toRat ↔ 0 < a.toRat ∨ 0 < b.toRat := by
    constructor
    · intro hpos
      by_contra hneither
      push Not at hneither
      linarith
    · rintro (hpos | hpos)
      · linarith
      · linarith
  rw [← hexact]
  rcases add_cases ha hb h with heq | ⟨hc, hsum⟩
  · rw [heq]
  · exact ⟨fun _ => by linarith, fun _ => by linarith⟩

/-- A price times a whole number stays a price. -/
theorem mul_pos_of_integral {a b c : Decimal96} (ha : 0 < a.toRat) (hb : 0 < b.toRat)
    (hintegral : b.scale = 0) (h : DecimalArith.mul a b = .ok c) : 0 < c.toRat := by
  have hrounded := arithmetic_eq_ok.mp h
  have hexact := mul_pos ha hb
  rcases rounded_digits hexact.le hrounded with hdigits | ⟨hlarge, -⟩
  · rw [hintegral, add_zero] at hdigits
    have hscale : c.scale = a.scale := hdigits.trans (Nat.min_eq_left a.scale_le)
    obtain ⟨m, hm⟩ := exists_scaled a le_rfl
    obtain ⟨n, hn⟩ := exists_scaled b hintegral.le
    obtain ⟨hmantissa, -⟩ := of_rounded_eq_some hrounded
    have hproduct : a.toRat * b.toRat * 10 ^ c.scale = ((m * n : ℤ) : ℚ) := by
      rw [pow_zero, mul_one] at hn
      rw [hscale, mul_right_comm, hm, hn, Int.cast_mul]
    rw [hproduct, roundsToNearest_roundHalfEven.intCast] at hmantissa
    rw [toRat, hmantissa, ← hproduct, mul_div_cancel_right₀ _ (by positivity)]
    exact hexact
  · linarith

/-- A sum of prices is exact, or both it and the exact one are above seven. -/
theorem sum_cases {prices : List Decimal96} {total : Decimal96}
    (hprices : ∀ price ∈ prices, 0 ≤ price.toRat) (h : DecimalArith.sum prices = .ok total) :
    0 ≤ total.toRat ∧ (total.toRat = (prices.map toRat).sum ∨
      7 ≤ total.toRat ∧ 7 ≤ (prices.map toRat).sum) := by
  refine Fallible.foldlM_rule (fun done (acc : Decimal96) => 0 ≤ acc.toRat ∧
    (acc.toRat = (done.map toRat).sum ∨ 7 ≤ acc.toRat ∧ 7 ≤ (done.map toRat).sum)) h ?_ ?_
  · simp
  · rintro done price acc acc' hmem ⟨hnonneg, hsum⟩ hadd
    have hprice := hprices price hmem
    refine ⟨add_nonneg_of_ok hnonneg hprice hadd, ?_⟩
    rw [List.map_append, List.sum_append, List.map_singleton, List.sum_singleton]
    rcases add_cases hnonneg hprice hadd with heq | ⟨hlarge, hexact⟩
    · rcases hsum with hsum | ⟨hacc, hsum⟩
      · left
        rw [heq, hsum]
      · right
        constructor <;> linarith
    · right
      refine ⟨hlarge, ?_⟩
      rcases hsum with hsum | ⟨-, hsum⟩ <;> linarith

theorem sum_pos_iff {prices : List Decimal96} {total : Decimal96}
    (hprices : ∀ price ∈ prices, 0 ≤ price.toRat) (h : DecimalArith.sum prices = .ok total) :
    0 < total.toRat ↔ ∃ price ∈ prices, 0 < price.toRat := by
  have hcases := (sum_cases hprices h).2
  have hexact : 0 < (prices.map toRat).sum ↔ ∃ price ∈ prices, 0 < price.toRat := by
    constructor
    · intro hpos
      by_contra hnone
      push Not at hnone
      have hle := List.sum_le_card_nsmul (prices.map toRat) 0 (by simpa using hnone)
      rw [smul_zero] at hle
      linarith
    · rintro ⟨price, hmem, hpos⟩
      have hle : price.toRat ≤ (prices.map toRat).sum :=
        List.single_le_sum (by simpa using hprices) _ (List.mem_map_of_mem hmem)
      linarith
  rw [← hexact]
  rcases hcases with heq | ⟨htotal, hsum⟩
  · rw [heq]
  · exact ⟨fun _ => by linarith, fun _ => by linarith⟩

/-- A share of a price is positive unless it is at most half a last digit. -/
theorem div_pos_iff {a b c : Decimal96} (ha : 0 ≤ a.toRat) (hb : 0 < b.toRat)
    (h : div a b = .ok c) : 0 ≤ c.toRat ∧ (0 < c.toRat ↔ b.toRat < 2 * 10 ^ 28 * a.toRat) := by
  change (if b.toRat = 0 then _ else _) = _ at h
  rw [if_neg hb.ne'] at h
  rcases hrun : arithmetic (a.toRat / b.toRat) 28 with fault | quotient
  · rw [hrun] at h
    cases h
  rw [hrun] at h
  cases h
  rw [toRat_stripped]
  have hrounded := arithmetic_eq_ok.mp hrun
  have hquotient : 0 ≤ a.toRat / b.toRat := by positivity
  obtain ⟨hmantissa, -⟩ := of_rounded_eq_some hrounded
  have hexact : b.toRat < 2 * 10 ^ 28 * a.toRat ↔ 1 / 2 < a.toRat / b.toRat * 10 ^ 28 := by
    rw [div_mul_eq_mul_div, lt_div_iff₀ hb]
    constructor <;> intro hlt <;> linarith
  rw [hexact]
  rcases rounded_digits hquotient hrounded with hdigits | ⟨hlarge, hsevens⟩
  · have hdigits : quotient.scale = 28 := hdigits
    rw [hdigits] at hmantissa
    have hnonneg := roundsToNearest_roundHalfEven.nonneg
      (show 0 ≤ a.toRat / b.toRat * 10 ^ 28 by positivity)
    rw [← hmantissa] at hnonneg
    have hmantissaQ : (0 : ℚ) ≤ quotient.mantissa := by exact_mod_cast hnonneg
    refine ⟨by unfold toRat; positivity, ?_⟩
    rw [← roundHalfEven_pos, ← hmantissa, toRat, div_pos_iff_of_pos_right (by positivity)]
    exact Int.cast_pos
  · refine ⟨by linarith, fun _ => ?_, fun _ => by linarith⟩
    norm_num
    linarith

end Decimal96

end TcoCalculator
