/-
The text of a decimal reads back as the same decimal.
-/
import TcoCalculator.Domain.Decimal96

namespace TcoCalculator

/-! ### Scanning digits -/

/-- A run of digits is read as one number, each behind the point a fraction digit. -/
theorem scanDigits_append {digits rest : List Char} {seenDigit seenPoint : Bool}
    {mantissa scale : ℕ} (hne : digits ≠ []) (hdigits : ∀ c ∈ digits, c.isDigit = true) :
    scanDigits seenDigit seenPoint mantissa scale (digits ++ rest) =
      scanDigits true seenPoint (Nat.ofDigitChars 10 digits mantissa)
        (if seenPoint then scale + digits.length else scale) rest := by
  induction digits generalizing seenDigit mantissa scale with
  | nil => exact absurd rfl hne
  | cons c digits ih =>
      have hc := hdigits c List.mem_cons_self
      rw [List.cons_append, scanDigits, if_pos hc, Nat.ofDigitChars_cons]
      rcases digits with _ | ⟨d, digits⟩
      · simp [Nat.ofDigitChars]
      · rw [ih (List.cons_ne_nil d digits) fun x hx => hdigits x (List.mem_cons_of_mem c hx)]
        rcases seenPoint with _ | _
        · rfl
        · simp only [if_true, List.length_cons]
          congr 1
          omega

namespace Decimal96

theorem length_lastDigits (n count : ℕ) : (lastDigits n count).length = count := by
  induction count generalizing n with
  | zero => rfl
  | succ count ih => rw [lastDigits, List.length_append, ih, List.length_singleton]

theorem isDigit_lastDigits (n count : ℕ) : ∀ c ∈ lastDigits n count, c.isDigit = true := by
  induction count generalizing n with
  | zero => simp [lastDigits]
  | succ count ih =>
      intro c hc
      rw [lastDigits, List.mem_append, List.mem_singleton] at hc
      rcases hc with hearlier | rfl
      · exact ih (n / 10) c hearlier
      · rw [Nat.isDigit_digitChar, decide_eq_true_eq]
        exact Nat.mod_lt n (by decide)

/-- The last digits behind a number append to it. -/
theorem ofDigitChars_lastDigits (n count start : ℕ) :
    Nat.ofDigitChars 10 (lastDigits n count) start = start * 10 ^ count + n % 10 ^ count := by
  induction count generalizing n with
  | zero => simp [lastDigits, Nat.mod_one]
  | succ count ih =>
      rw [lastDigits, Nat.ofDigitChars_append, ih,
        Nat.ofDigitChars_cons_digitChar_of_lt_ten (Nat.mod_lt n (by decide)),
        Nat.ofDigitChars_nil, pow_succ]
      have hsplit : n % (10 ^ count * 10) = n / 10 % 10 ^ count * 10 + n % 10 := by
        rw [mul_comm (10 ^ count) 10, Nat.mod_mul]
        ring
      rw [hsplit]
      ring

/-! ### Display and parse -/

/-- The digits of a nonnegative decimal. -/
theorem scanDigits_display {a : Decimal96} (h : 0 ≤ a.mantissa) :
    scanDigits false false 0 0 (display a).toList = some (a.mantissa.natAbs, a.scale) := by
  have hintegral : (toString (a.mantissa.natAbs / 10 ^ a.scale)).toList =
      Nat.toDigits 10 (a.mantissa.natAbs / 10 ^ a.scale) := by
    rw [Nat.toString_eq_repr, Nat.toList_repr]
  have hdigits : ∀ c ∈ Nat.toDigits 10 (a.mantissa.natAbs / 10 ^ a.scale), c.isDigit = true :=
    fun c hc => Nat.isDigit_of_mem_toDigits (by decide) (by decide) hc
  unfold display
  rw [if_neg (not_lt.mpr h)]
  by_cases hscale : a.scale = 0
  · rw [if_pos hscale, hintegral, ← List.append_nil (Nat.toDigits 10 _),
      scanDigits_append Nat.toDigits_ne_nil hdigits, Nat.ofDigitChars_ten_toDigits, hscale]
    simp [scanDigits]
  · have htext : (toString (a.mantissa.natAbs / 10 ^ a.scale) ++ "." ++
        String.ofList (lastDigits a.mantissa.natAbs a.scale)).toList =
          Nat.toDigits 10 (a.mantissa.natAbs / 10 ^ a.scale) ++
            '.' :: lastDigits a.mantissa.natAbs a.scale := by
      simp
    rw [if_neg hscale, htext, scanDigits_append Nat.toDigits_ne_nil hdigits,
      Nat.ofDigitChars_ten_toDigits]
    have hpoint : ∀ rest, scanDigits true false (a.mantissa.natAbs / 10 ^ a.scale) 0
        ('.' :: rest) = scanDigits true true (a.mantissa.natAbs / 10 ^ a.scale) 0 rest :=
      fun _ => rfl
    have hfraction : lastDigits a.mantissa.natAbs a.scale ≠ [] := by
      intro hnil
      rw [← length_lastDigits a.mantissa.natAbs a.scale, hnil] at hscale
      exact hscale rfl
    simp only [Bool.false_eq_true, if_false]
    rw [hpoint, ← List.append_nil (lastDigits _ _),
      scanDigits_append hfraction (isDigit_lastDigits _ _), ofDigitChars_lastDigits,
      length_lastDigits, Nat.div_add_mod']
    simp [scanDigits]

/-- The digits of a decimal are that decimal. -/
theorem ofDigits_self {a : Decimal96} (h : 0 ≤ a.mantissa) :
    ofDigits false (a.mantissa.natAbs, a.scale) = some a := by
  have hround : round ((a.mantissa.natAbs : ℚ) / 10 ^ a.scale * 10 ^ a.scale) = a.mantissa := by
    rw [div_mul_cancel₀ _ (by positivity), round_natCast, Int.natAbs_of_nonneg h]
  unfold ofDigits
  dsimp only
  rw [min_eq_left a.scale_le, fit_of_room (by rw [hround]; exact a.mantissa_lt), hround,
    Option.bind_some]
  exact ofParts_isSome a.mantissa_lt a.scale_le

theorem parse_display {a : Decimal96} (h : 0 ≤ a.mantissa) : parse (display a) = some a := by
  have hscan := scanDigits_display h
  unfold parse
  split
  · rename_i digits hminus
    rw [hminus] at hscan
    exact nomatch hscan
  · rename_i digits hplus
    rw [hplus] at hscan
    exact nomatch hscan
  · rw [hscan, Option.bind_some]
    exact ofDigits_self h

/-- The decimal without its sign. -/
def magnitude (a : Decimal96) : Decimal96 where
  mantissa := a.mantissa.natAbs
  scale := a.scale
  mantissa_lt := a.mantissa_lt
  scale_le := a.scale_le

theorem display_of_neg {a : Decimal96} (h : a.mantissa < 0) :
    display a = "-" ++ display a.magnitude := by
  have hmagnitude : ¬ a.magnitude.mantissa < 0 := not_lt.mpr (Int.natCast_nonneg _)
  simp only [display, if_pos h, if_neg hmagnitude]
  rfl

theorem ofDigits_of_neg {a : Decimal96} (h : a.mantissa < 0) :
    ofDigits true (a.mantissa.natAbs, a.scale) = some a := by
  have hround : round ((a.mantissa.natAbs : ℚ) / 10 ^ a.scale * 10 ^ a.scale) =
      a.mantissa.natAbs := by
    rw [div_mul_cancel₀ _ (by positivity), round_natCast]
  have hroom : (a.mantissa.natAbs : ℤ).natAbs < 2 ^ 96 := a.mantissa_lt
  have hnegated : -(a.mantissa.natAbs : ℤ) = a.mantissa := by omega
  unfold ofDigits
  dsimp only
  rw [min_eq_left a.scale_le, fit_of_room (by rw [hround]; exact hroom), hround,
    Option.bind_some]
  dsimp only
  rw [if_pos rfl, hnegated]
  exact ofParts_isSome a.mantissa_lt a.scale_le

/-- Every decimal reads back from its text. -/
theorem parse_display_self (a : Decimal96) : parse (display a) = some a := by
  by_cases h : 0 ≤ a.mantissa
  · exact parse_display h
  · have hneg : a.mantissa < 0 := not_le.mp h
    have hscan := scanDigits_display (a := a.magnitude) (Int.natCast_nonneg _)
    have htext : (display a).toList = '-' :: (display a.magnitude).toList := by
      rw [display_of_neg hneg, String.toList_append]
      rfl
    rw [parse, htext]
    simp only [hscan, Option.bind_some]
    exact ofDigits_of_neg hneg

theorem mantissa_nonneg {a : Decimal96} (h : 0 ≤ a.toRat) : 0 ≤ a.mantissa := by
  unfold toRat at h
  by_contra hneg
  have hneg : (a.mantissa : ℚ) < 0 := by exact_mod_cast not_le.mp hneg
  have hdiv := div_neg_of_neg_of_pos hneg (show (0 : ℚ) < 10 ^ a.scale by positivity)
  linarith

end Decimal96

end TcoCalculator
