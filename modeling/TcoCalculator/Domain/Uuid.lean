/-
Universally unique identifiers and the text they are written as.
-/
import Mathlib.Algebra.Order.Group.Nat
import TcoCalculator.Library.Json

namespace TcoCalculator

/-- A 128-bit identifier. -/
structure Uuid where
  bits : BitVec 128
  deriving DecidableEq, Repr

namespace Uuid

/-- The digit places of the hyphenated form, the highest first. -/
def textPlaces : List (Option Nat) :=
  [31, 30, 29, 28, 27, 26, 25, 24].map some ++ none :: [23, 22, 21, 20].map some ++
    none :: [19, 18, 17, 16].map some ++ none :: [15, 14, 13, 12].map some ++
    none :: [11, 10, 9, 8, 7, 6, 5, 4, 3, 2, 1, 0].map some

def textChar (n : Nat) : Option Nat → Char
  | some place => Json.hexDigit (n / 16 ^ place)
  | none => '-'

/-- The hyphenated lowercase form. -/
def text (id : Uuid) : String := String.ofList (textPlaces.map (textChar id.bits.toNat))

theorem hexDigit_injective {m n : Nat} (h : Json.hexDigit m = Json.hexDigit n) :
    m % 16 = n % 16 := by
  have hdigits : ∀ a < 16, ∀ b < 16, Nat.digitChar a = Nat.digitChar b → a = b := by decide
  exact hdigits _ (Nat.mod_lt _ (by decide)) _ (Nat.mod_lt _ (by decide)) h

/-- A number below a power of sixteen is determined by its digits. -/
theorem mod_pow_eq_of_digits {m n : Nat} (k : Nat)
    (h : ∀ place < k, m / 16 ^ place % 16 = n / 16 ^ place % 16) :
    m % 16 ^ k = n % 16 ^ k := by
  induction k with
  | zero => simp [Nat.mod_one]
  | succ k ih =>
      rw [Nat.mod_pow_succ, Nat.mod_pow_succ, h k (Nat.lt_succ_self k),
        ih fun place hplace => h place (Nat.lt_succ_of_lt hplace)]

theorem text_injective {id id' : Uuid} (h : id.text = id'.text) : id = id' := by
  have hchars := List.map_inj_left.mp (String.ofList_injective h)
  have hplaces : ∀ place < 32, some place ∈ textPlaces := by decide
  have hbits : id.bits.toNat % 16 ^ 32 = id'.bits.toNat % 16 ^ 32 := by
    apply mod_pow_eq_of_digits
    intro place hplace
    exact hexDigit_injective (hchars (some place) (hplaces place hplace))
  obtain ⟨bits⟩ := id
  obtain ⟨bits'⟩ := id'
  have hpow : (16 : Nat) ^ 32 = 2 ^ 128 := by decide
  rw [hpow, Nat.mod_eq_of_lt bits.isLt, Nat.mod_eq_of_lt bits'.isLt] at hbits
  exact congrArg Uuid.mk (BitVec.eq_of_toNat_eq hbits)

end Uuid

end TcoCalculator
