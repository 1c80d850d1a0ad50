/-
The cyclic redundancy check CRC-32, a bit at a time, and the law behind computing it
with a table of the shifted bytes.
-/
import Mathlib.Data.List.Basic
import Mathlib.Logic.Function.Iterate

namespace Crc32

/-- The reversed generator polynomial. -/
def polynomial : BitVec 32 := 0xedb88320#32

/-- The remainder a bit further. -/
def shift (remainder : BitVec 32) : BitVec 32 :=
  if remainder.getLsbD 0 then polynomial ^^^ (remainder >>> 1) else remainder >>> 1

/-- The remainder with a byte added, bit by bit. -/
def addByte (remainder : BitVec 32) (byte : UInt8) : BitVec 32 :=
  shift^[8] (remainder ^^^ byte.toBitVec.setWidth 32)

def ones : BitVec 32 := 0xffffffff#32

def crc32 (data : List UInt8) : BitVec 32 := data.foldl addByte ones ^^^ ones

/-! ### Shifts -/

theorem shift_xor (x y : BitVec 32) : shift (x ^^^ y) = shift x ^^^ shift y := by
  have hcancel : ∀ a b : BitVec 32, polynomial ^^^ a ^^^ (polynomial ^^^ b) = a ^^^ b := by
    intro a b
    rw [BitVec.xor_comm polynomial a, BitVec.xor_assoc, ← BitVec.xor_assoc polynomial,
      BitVec.xor_self, BitVec.zero_xor]
  simp only [shift, BitVec.getLsbD_xor, BitVec.ushiftRight_xor_distrib]
  cases x.getLsbD 0 with
  | true =>
      cases y.getLsbD 0 with
      | true => simpa using (hcancel _ _).symm
      | false => simp [BitVec.xor_assoc]
  | false =>
      cases y.getLsbD 0 with
      | true =>
          simp only [Bool.false_xor, if_true, Bool.false_eq_true, if_false]
          rw [← BitVec.xor_assoc, ← BitVec.xor_assoc, BitVec.xor_comm polynomial]
      | false => simp

theorem iterate_shift_xor (count : Nat) (x y : BitVec 32) :
    shift^[count] (x ^^^ y) = shift^[count] x ^^^ shift^[count] y := by
  induction count generalizing x y with
  | zero => rfl
  | succ count ih => rw [Function.iterate_succ_apply, Function.iterate_succ_apply,
      Function.iterate_succ_apply, shift_xor, ih]

/-- Zero bits are shifted out without a trace. -/
theorem iterate_shift_of_clear {count : Nat} {x : BitVec 32}
    (h : ∀ i < count, x.getLsbD i = false) : shift^[count] x = x >>> count := by
  induction count generalizing x with
  | zero => simp
  | succ count ih =>
      have hlow : x.getLsbD 0 = false := h 0 (Nat.succ_pos count)
      have hrest : ∀ i < count, (x >>> 1).getLsbD i = false := by
        intro i hi
        rw [BitVec.getLsbD_ushiftRight, Nat.add_comm]
        exact h (i + 1) (Nat.succ_lt_succ hi)
      have hshift : shift x = x >>> 1 := by rw [shift, hlow, if_neg Bool.false_ne_true]
      rw [Function.iterate_succ_apply, hshift, ih hrest, ← BitVec.shiftRight_add, Nat.add_comm]

/-! ### Tables -/

/-- Eight shifts are those of the low byte, with the rest moved down. -/
theorem iterate_shift_eight (x : BitVec 32) :
    shift^[8] x = shift^[8] (x &&& 0xff#32) ^^^ (x >>> 8) := by
  have hsplit : x = (x &&& 0xff#32) ^^^ (x &&& ~~~0xff#32) := by
    apply BitVec.eq_of_getLsbD_eq
    intro i hi
    simp only [BitVec.getLsbD_xor, BitVec.getLsbD_and, BitVec.getLsbD_not, hi, decide_true,
      Bool.true_and]
    cases x.getLsbD i <;> cases (0xff#32).getLsbD i <;> rfl
  have hclear : ∀ i < 8, (x &&& ~~~0xff#32).getLsbD i = false := by
    intro i hi
    have hbyte : (0xff#32).getLsbD i = true := by
      revert i
      decide
    rw [BitVec.getLsbD_and, BitVec.getLsbD_not, hbyte]
    simp
  have hhigh : (x &&& ~~~0xff#32) >>> 8 = x >>> 8 := by
    apply BitVec.eq_of_getLsbD_eq
    intro i hi
    have hbyte : (0xff#32).getLsbD (8 + i) = false := by
      revert i
      decide
    rw [BitVec.getLsbD_ushiftRight, BitVec.getLsbD_ushiftRight, BitVec.getLsbD_and,
      BitVec.getLsbD_not, hbyte]
    by_cases hwidth : 8 + i < 32
    · simp [hwidth]
    · simp [BitVec.getLsbD_of_ge x (8 + i) (by omega)]
  conv_lhs => rw [hsplit]
  rw [iterate_shift_xor, iterate_shift_of_clear hclear, hhigh]

/-- A byte is added by the eight shifts of the byte where it meets the remainder. -/
theorem addByte_eq (remainder : BitVec 32) (byte : UInt8) :
    addByte remainder byte =
      shift^[8] ((remainder ^^^ byte.toBitVec.setWidth 32) &&& 0xff#32) ^^^ (remainder >>> 8) := by
  have hbyte : (byte.toBitVec.setWidth 32) >>> 8 = 0#32 := by
    apply BitVec.eq_of_getLsbD_eq
    intro i hi
    rw [BitVec.getLsbD_ushiftRight, BitVec.getLsbD_setWidth, BitVec.getLsbD_of_ge _ _ (by omega)]
    simp
  rw [addByte, iterate_shift_eight, BitVec.ushiftRight_xor_distrib, hbyte, BitVec.xor_zero]

end Crc32
