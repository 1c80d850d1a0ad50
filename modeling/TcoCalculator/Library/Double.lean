/-
Whole numbers as IEEE doubles: the nearest of 53 significant bits, and the shortest
digits that read back as the same number.
-/
import Mathlib.Algebra.Order.Group.Nat
import Mathlib.Algebra.Order.Ring.Nat

namespace Double

/-- The nearest number of 53 significant bits, the even one of two. -/
def nearest (n : Nat) : Nat :=
  let unit := 2 ^ (n.log2 - 52)
  let steps := n / unit
  let rest := n % unit
  if 2 * rest < unit ∨ (2 * rest = unit ∧ steps % 2 = 0) then steps * unit
  else (steps + 1) * unit

def ofInt (n : Int) : Int := if n < 0 then -(nearest n.natAbs : Int) else nearest n.natAbs

def maxSafeInteger : Nat := 2 ^ 53 - 1

def isSafeInteger (n : Int) : Bool := n.natAbs ≤ maxSafeInteger

/-- The closest number that ends in the given count of zeros and reads as the double. -/
def roundedTo (n zeros : Nat) : Option Nat :=
  let low := n / 10 ^ zeros * 10 ^ zeros
  let high := low + 10 ^ zeros
  let below := n - low
  let above := high - n
  if nearest low = n ∧ (nearest high ≠ n ∨ below < above ∨ (below = above ∧ n / 10 ^ zeros % 2 = 0))
  then some low
  else if nearest high = n then some high
  else none

/-- A double below 10 ^ 21 in decimal: as few digits as tell it from the others, then
zeros. -/
def shortest (n : Nat) : Nat := ((List.range 21).reverse.findSome? (roundedTo n)).getD n

def text (n : Int) : String :=
  if n < 0 then "-" ++ toString (shortest n.natAbs) else toString (shortest n.natAbs)

/-! ### Safe integers -/

theorem nearest_of_lt {n : Nat} (h : n < 2 ^ 53) : nearest n = n := by
  have hlog : n.log2 - 52 = 0 := by
    by_cases hzero : n = 0
    · rw [hzero]
      rfl
    · have hlt := (Nat.log2_lt hzero).mpr h
      omega
  simp [nearest, hlog, Nat.mod_one]

/-- What is past the safe integers stays past them. -/
theorem le_nearest {n : Nat} (h : 2 ^ 53 ≤ n) : 2 ^ 53 ≤ nearest n := by
  have hne : n ≠ 0 := by
    rintro rfl
    exact absurd h (by decide)
  have hlog : 53 ≤ n.log2 := (Nat.le_log2 hne).mpr h
  have hunit : 2 ^ 52 * 2 ^ (n.log2 - 52) = 2 ^ n.log2 := by
    rw [← pow_add]
    congr 1
    omega
  have hsteps : 2 ^ 52 ≤ n / 2 ^ (n.log2 - 52) := by
    rw [Nat.le_div_iff_mul_le (Nat.two_pow_pos _), hunit]
    exact Nat.log2_self_le hne
  have hlow : 2 ^ 53 ≤ n / 2 ^ (n.log2 - 52) * 2 ^ (n.log2 - 52) :=
    calc 2 ^ 53 ≤ 2 ^ n.log2 := Nat.pow_le_pow_right (by decide) hlog
      _ = 2 ^ 52 * 2 ^ (n.log2 - 52) := hunit.symm
      _ ≤ _ := Nat.mul_le_mul_right _ hsteps
  rw [nearest]
  split
  · exact hlow
  · exact hlow.trans (Nat.mul_le_mul_right _ (Nat.le_succ _))

/-- A number a double reads as is that double, where it is safe. -/
theorem eq_of_nearest_eq {m n : Nat} (hn : n < 2 ^ 53) (h : nearest m = n) : m = n := by
  by_cases hm : m < 2 ^ 53
  · rw [← h, nearest_of_lt hm]
  · have hpast := le_nearest (Nat.le_of_not_lt hm)
    omega

theorem roundedTo_eq {n zeros m : Nat} (hn : n < 2 ^ 53) (h : roundedTo n zeros = some m) :
    m = n := by
  rw [roundedTo] at h
  split at h
  · rename_i hlow
    cases h
    exact eq_of_nearest_eq hn hlow.1
  · split at h
    · rename_i hhigh
      cases h
      exact eq_of_nearest_eq hn hhigh
    · cases h

theorem shortest_of_lt {n : Nat} (h : n < 2 ^ 53) : shortest n = n := by
  rw [shortest]
  cases hfound : (List.range 21).reverse.findSome? (roundedTo n) with
  | none => rfl
  | some m =>
      obtain ⟨zeros, -, hzeros⟩ := List.exists_of_findSome?_eq_some hfound
      exact roundedTo_eq h hzeros

theorem ofInt_natCast (n : Nat) : ofInt n = nearest n := by
  rw [ofInt, if_neg (by omega), Int.natAbs_natCast]

theorem isSafeInteger_ofInt (n : Nat) : isSafeInteger (ofInt n) = decide (n < 2 ^ 53) := by
  rw [ofInt_natCast, isSafeInteger, Int.natAbs_natCast, maxSafeInteger, decide_eq_decide]
  by_cases h : n < 2 ^ 53
  · rw [nearest_of_lt h]
    omega
  · have hpast := le_nearest (Nat.le_of_not_lt h)
    omega

theorem text_of_lt {n : Nat} (h : n < 2 ^ 53) : text n = toString n := by
  rw [text, if_neg (by omega), Int.natAbs_natCast, shortest_of_lt h]

-- Past 2 ^ 53 only every second number is a double.
example : ofInt 9007199254740993 = 9007199254740992 := by decide

example : text (2 ^ 60) = "1152921504606847000" := by decide +kernel

end Double
