/-
The program's decimals: a 96-bit mantissa and up to 28 fraction digits.  A
result that has no room for all its digits keeps the most it can and is rounded
half to even; an operator panics when the integer part alone has no room.
-/
import TcoCalculator.Domain.ExactDecimal
import TcoCalculator.Library.ScaledRounding

namespace TcoCalculator

structure Decimal96 where
  mantissa : ℤ
  scale : ℕ
  mantissa_lt : mantissa.natAbs < 2 ^ 96
  scale_le : scale ≤ 28
  deriving DecidableEq

namespace Decimal96

def toRat (a : Decimal96) : ℚ := a.mantissa / 10 ^ a.scale

def ofParts (mantissa : ℤ) (scale : ℕ) : Option Decimal96 :=
  if h : mantissa.natAbs < 2 ^ 96 ∧ scale ≤ 28 then some ⟨mantissa, scale, h.1, h.2⟩ else none

/-- The rational with at most the given number of fraction digits. -/
def rounded (nearest : ℚ → ℤ) (x : ℚ) (scale : ℕ) : Option Decimal96 :=
  (fit nearest (2 ^ 96) x (min scale 28)).bind fun parts => ofParts parts.1 parts.2

def ofScaled (mantissa : ℤ) (scale : ℕ) : Decimal96 :=
  (rounded roundHalfEven (mantissa / 10 ^ scale) scale).getD ⟨0, 0, by decide, by decide⟩

/-- The result of an operator. -/
def arithmetic (x : ℚ) (scale : ℕ) : Except ArithmeticFault Decimal96 :=
  match rounded roundHalfEven x scale with
  | some result => .ok result
  | none => .error .overflow

/-- The mantissa and the scale without trailing zeros, down to a scale. -/
def stripZeros (least : ℕ) (mantissa : ℤ) : ℕ → ℤ × ℕ
  | 0 => (mantissa, 0)
  | scale + 1 =>
      if least ≤ scale ∧ mantissa % 10 = 0 then stripZeros least (mantissa / 10) scale
      else (mantissa, scale + 1)

theorem stripZeros_bounds (least : ℕ) (mantissa : ℤ) (scale : ℕ) :
    (stripZeros least mantissa scale).1.natAbs ≤ mantissa.natAbs ∧
      (stripZeros least mantissa scale).2 ≤ scale := by
  induction scale generalizing mantissa with
  | zero => exact ⟨le_rfl, le_rfl⟩
  | succ scale ih =>
      unfold stripZeros
      split
      · obtain ⟨hmantissa, hscale⟩ := ih (mantissa / 10)
        constructor
        · omega
        · omega
      · exact ⟨le_rfl, le_rfl⟩

theorem stripZeros_value (least : ℕ) (mantissa : ℤ) (scale : ℕ) :
    ((stripZeros least mantissa scale).1 : ℚ) / 10 ^ (stripZeros least mantissa scale).2 =
      mantissa / 10 ^ scale := by
  induction scale generalizing mantissa with
  | zero => rfl
  | succ scale ih =>
      unfold stripZeros
      split
      · rename_i hzero
        rw [ih, pow_succ, div_eq_div_iff (by positivity) (by positivity)]
        have hexact : mantissa / 10 * 10 = mantissa := Int.ediv_mul_cancel
          (Int.dvd_of_emod_eq_zero hzero.2)
        calc ((mantissa / 10 : ℤ) : ℚ) * (10 ^ scale * 10)
            = ((mantissa / 10 * 10 : ℤ) : ℚ) * 10 ^ scale := by push_cast; ring
          _ = mantissa * 10 ^ scale := by rw [hexact]
      · rfl

/-- Without trailing zeros, but for the given number of digits. -/
def stripped (least : ℕ) (a : Decimal96) : Decimal96 where
  mantissa := (stripZeros least a.mantissa a.scale).1
  scale := (stripZeros least a.mantissa a.scale).2
  mantissa_lt := (stripZeros_bounds least a.mantissa a.scale).1.trans_lt a.mantissa_lt
  scale_le := (stripZeros_bounds least a.mantissa a.scale).2.trans a.scale_le

def normalize (a : Decimal96) : Decimal96 := a.stripped 0

@[simp] theorem toRat_stripped (least : ℕ) (a : Decimal96) : (a.stripped least).toRat = a.toRat :=
  stripZeros_value least a.mantissa a.scale

@[simp] theorem toRat_normalize (a : Decimal96) : a.normalize.toRat = a.toRat :=
  toRat_stripped 0 a

/-- The last digits of a number, the given count of them. -/
def lastDigits (n : ℕ) : ℕ → List Char
  | 0 => []
  | count + 1 => lastDigits (n / 10) count ++ [Nat.digitChar (n % 10)]

def display (a : Decimal96) : String :=
  let magnitude := a.mantissa.natAbs
  let integral := toString (magnitude / 10 ^ a.scale)
  let text := if a.scale = 0 then integral
    else integral ++ "." ++ String.ofList (lastDigits magnitude a.scale)
  if a.mantissa < 0 then "-" ++ text else text

/-- A digit beyond the last kept one rounds it half up. -/
def ofDigits (negative : Bool) (parts : ℕ × ℕ) : Option Decimal96 :=
  let magnitude : ℚ := parts.1 / 10 ^ parts.2
  (fit round (2 ^ 96) magnitude (min parts.2 28)).bind fun kept =>
    ofParts (if negative then -kept.1 else kept.1) kept.2

def parse (text : String) : Option Decimal96 :=
  match text.toList with
  | '-' :: digits => (scanDigits false false 0 0 digits).bind (ofDigits true)
  | '+' :: digits => (scanDigits false false 0 0 digits).bind (ofDigits false)
  | digits => (scanDigits false false 0 0 digits).bind (ofDigits false)

end Decimal96

instance : DecimalArith Decimal96 where
  ofScaled := Decimal96.ofScaled
  value := Decimal96.toRat
  add a b := Decimal96.arithmetic (a.toRat + b.toRat) (max a.scale b.scale)
  sub a b := Decimal96.arithmetic (a.toRat - b.toRat) (max a.scale b.scale)
  mul a b := Decimal96.arithmetic (a.toRat * b.toRat) (a.scale + b.scale)
  div a b :=
    if b.toRat = 0 then .error .divisionByZero
    else (Decimal96.arithmetic (a.toRat / b.toRat) 28).map (Decimal96.stripped (a.scale - b.scale))
  rem a b :=
    if b.toRat = 0 then .error .divisionByZero
    else Decimal96.arithmetic (a.toRat - b.toRat * truncatedQuotient a.toRat b.toRat)
      (max a.scale b.scale)
  ceil a := Decimal96.ofScaled ⌈a.toRat⌉ 0
  display := Decimal96.display
  parse := Decimal96.parse

namespace Decimal96

open DecimalArith

theorem value_eq (a : Decimal96) : value a = a.toRat := rfl

theorem ofParts_eq_some {mantissa : ℤ} {scale : ℕ} {a : Decimal96}
    (h : ofParts mantissa scale = some a) : a.mantissa = mantissa ∧ a.scale = scale := by
  unfold ofParts at h
  split at h
  · cases h
    exact ⟨rfl, rfl⟩
  · cases h

theorem ofParts_isSome {mantissa : ℤ} {scale : ℕ} (hmantissa : mantissa.natAbs < 2 ^ 96)
    (hscale : scale ≤ 28) :
    ofParts mantissa scale = some ⟨mantissa, scale, hmantissa, hscale⟩ :=
  dif_pos ⟨hmantissa, hscale⟩

/-- What a rounded number is, digits and value. -/
theorem of_rounded_eq_some {nearest : ℚ → ℤ} {x : ℚ} {scale : ℕ} {a : Decimal96}
    (h : rounded nearest x scale = some a) :
    a.mantissa = nearest (x * 10 ^ a.scale) ∧ a.scale ≤ min scale 28 ∧
      (a.scale = min scale 28 ∨ 2 ^ 96 ≤ (nearest (x * 10 ^ (a.scale + 1))).natAbs) := by
  unfold rounded at h
  obtain ⟨⟨mantissa, kept⟩, hfit, hparts⟩ := Option.bind_eq_some_iff.mp h
  obtain ⟨hmantissa, hscale⟩ := ofParts_eq_some hparts
  obtain ⟨hnearest, -, hle, hmore⟩ := of_fit_eq_some hfit
  dsimp only at hmantissa hscale
  rw [hmantissa, hscale]
  exact ⟨hnearest, hle, hmore⟩

theorem of_rounded_eq_none {nearest : ℚ → ℤ} {x : ℚ} {scale : ℕ}
    (h : rounded nearest x scale = none) : 2 ^ 96 ≤ (nearest x).natAbs := by
  unfold rounded at h
  cases hfit : fit nearest (2 ^ 96) x (min scale 28) with
  | none => exact fit_eq_none hfit
  | some parts =>
      obtain ⟨-, hroom, hle, -⟩ := of_fit_eq_some hfit
      rw [hfit, Option.bind_some, ofParts_isSome hroom (hle.trans (min_le_right _ _))] at h
      cases h

/-- A value with a representation of few enough digits is kept. -/
theorem rounded_exact {nearest : ℚ → ℤ} (hnearest : RoundsToNearest nearest) (a : Decimal96)
    {scale : ℕ} (hscale : a.scale ≤ scale) :
    ∃ b, rounded nearest a.toRat scale = some b ∧ b.toRat = a.toRat := by
  obtain ⟨mantissa, kept, hfit, hvalue⟩ :=
    fit_exact hnearest a.mantissa_lt (le_min hscale a.scale_le) rfl
  obtain ⟨-, hroom, hle, -⟩ := of_fit_eq_some hfit
  have hkept := ofParts_isSome hroom (hle.trans (min_le_right _ _))
  refine ⟨⟨mantissa, kept, hroom, hle.trans (min_le_right _ _)⟩, ?_, hvalue⟩
  unfold rounded
  rw [toRat, hfit]
  exact hkept

/-- A decimal whose value has few enough fraction digits has so few itself. -/
theorem exists_of_toRat_eq (a : Decimal96) {mantissa : ℤ} {scale : ℕ} (hscale : scale ≤ 28)
    (h : a.toRat = mantissa / 10 ^ scale) : ∃ b : Decimal96, b.scale ≤ scale ∧ b.toRat = a.toRat := by
  by_cases hle : a.scale ≤ scale
  · exact ⟨a, hle, rfl⟩
  · have hshift : a.mantissa = mantissa * 10 ^ (a.scale - scale) := by
      have hpow : (10 : ℚ) ^ a.scale = 10 ^ (a.scale - scale) * 10 ^ scale := by
        rw [← pow_add, Nat.sub_add_cancel (Nat.le_of_not_le hle)]
      rw [toRat, div_eq_div_iff (by positivity) (by positivity), hpow, ← mul_assoc,
        mul_left_inj' (by positivity)] at h
      exact_mod_cast h
    have hroom : mantissa.natAbs < 2 ^ 96 := by
      have ha := a.mantissa_lt
      rw [hshift, Int.natAbs_mul] at ha
      apply lt_of_le_of_lt (Nat.le_mul_of_pos_right _ _) ha
      exact Int.natAbs_pos.mpr (by positivity)
    exact ⟨⟨mantissa, scale, hroom, hscale⟩, le_rfl, h.symm⟩

theorem arithmetic_eq_ok {x : ℚ} {scale : ℕ} {a : Decimal96} :
    arithmetic x scale = .ok a ↔ rounded roundHalfEven x scale = some a := by
  unfold arithmetic
  cases rounded roundHalfEven x scale with
  | none => simp
  | some b => simp

@[simp] theorem toRat_zero : (zero : Decimal96).toRat = 0 := by decide +kernel

/-- An integer under the limit is itself as a decimal. -/
theorem toRat_ofNat {n : ℕ} (h : n < 2 ^ 96) : (DecimalArith.ofNat n : Decimal96).toRat = n := by
  obtain ⟨b, hb, hvalue⟩ := rounded_exact roundsToNearest_roundHalfEven
    ⟨n, 0, h, Nat.zero_le _⟩ (show 0 ≤ 0 from le_rfl)
  have htoRat : (⟨n, 0, h, Nat.zero_le _⟩ : Decimal96).toRat = (n : ℤ) / 10 ^ 0 := rfl
  rw [htoRat] at hb hvalue
  change ((rounded roundHalfEven (((n : ℕ) : ℤ) / 10 ^ 0) 0).getD _).toRat = _
  rw [hb, Option.getD_some, hvalue]
  simp

end Decimal96

end TcoCalculator
