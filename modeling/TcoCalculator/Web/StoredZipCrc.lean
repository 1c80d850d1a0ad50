/-
The table and the signed operators compute the CRC-32 of the bytes.
-/
import TcoCalculator.Library.Crc32
import TcoCalculator.Web.StoredZip

namespace TcoCalculator.WorkbookExport

/-! ### Numbers as their bits -/

@[simp] theorem ofInt_bitXor (x y : Int) :
    BitVec.ofInt 32 (bitXor x y) = BitVec.ofInt 32 x ^^^ BitVec.ofInt 32 y :=
  BitVec.ofInt_toInt

@[simp] theorem ofInt_unsignedShiftRight (x : Int) (count : Nat) :
    BitVec.ofInt 32 (unsignedShiftRight x count) = BitVec.ofInt 32 x >>> count := by
  rw [unsignedShiftRight, BitVec.ofInt_natCast, BitVec.ofNat_toNat, BitVec.setWidth_eq]

theorem bitAnd_one_eq (value : Int) :
    bitAnd value 1 = 1 ↔ (BitVec.ofInt 32 value).getLsbD 0 = true := by
  have hone : BitVec.ofInt 32 1 = 1#32 := rfl
  rw [bitAnd, hone, BitVec.and_one_eq_setWidth_ofBool_getLsbD]
  cases (BitVec.ofInt 32 value).getLsbD 0 with
  | true => decide
  | false => decide

/-- A bit of the table is a shift. -/
theorem ofInt_tableBit (value : Int) :
    BitVec.ofInt 32 (tableBit value) = Crc32.shift (BitVec.ofInt 32 value) := by
  rw [tableBit, Crc32.shift]
  by_cases hbit : (BitVec.ofInt 32 value).getLsbD 0 = true
  · rw [if_pos ((bitAnd_one_eq value).mpr hbit), if_pos hbit, ofInt_bitXor,
      ofInt_unsignedShiftRight]
    rfl
  · rw [if_neg fun h => hbit ((bitAnd_one_eq value).mp h), if_neg hbit, ofInt_unsignedShiftRight]

theorem ofInt_iterate_tableBit (count : Nat) (value : Int) :
    BitVec.ofInt 32 (tableBit^[count] value) = Crc32.shift^[count] (BitVec.ofInt 32 value) := by
  induction count generalizing value with
  | zero => rfl
  | succ count ih =>
      rw [Function.iterate_succ_apply, Function.iterate_succ_apply, ih, ofInt_tableBit]

/-! ### The table -/

theorem ofInt_crc32Table {index : Nat} (h : index < 256) :
    BitVec.ofInt 32 (crc32Table.getD index 0 : Nat) = Crc32.shift^[8] (BitVec.ofNat 32 index) := by
  rw [crc32Table, createCrc32Table, List.getD_eq_getElem?_getD, List.getElem?_map,
    List.getElem?_range h, Option.map_some, Option.getD_some, ofInt_unsignedShiftRight,
    ofInt_iterate_tableBit, BitVec.ofInt_natCast]
  simp

theorem toNat_and_byte_lt (x : BitVec 32) : (x &&& 0xff#32).toNat < 256 := by
  rw [BitVec.toNat_and]
  exact Nat.lt_succ_of_le Nat.and_le_right

/-- The low byte of a number is an index of the table. -/
theorem bitAnd_byte (value : Int) :
    (bitAnd value 0xff).toNat = (BitVec.ofInt 32 value &&& 0xff#32).toNat := by
  have hbyte : BitVec.ofInt 32 0xff = 0xff#32 := rfl
  have hlt := toNat_and_byte_lt (BitVec.ofInt 32 value)
  rw [bitAnd, hbyte, BitVec.toInt_eq_toNat_of_lt (by omega), Int.toNat_natCast]

/-- The loop adds a byte to the remainder. -/
theorem ofInt_crc32Byte (value : Int) (byte : UInt8) :
    BitVec.ofInt 32 (crc32Byte value byte) = Crc32.addByte (BitVec.ofInt 32 value) byte := by
  have hbyte : BitVec.ofInt 32 (byte.toNat : Int) = byte.toBitVec.setWidth 32 := by
    rw [BitVec.ofInt_natCast]
    exact BitVec.ofNat_toNat 32 byte.toBitVec
  rw [crc32Byte, ofInt_bitXor, bitAnd_byte, ofInt_crc32Table (toNat_and_byte_lt _),
    BitVec.ofNat_toNat, BitVec.setWidth_eq, ofInt_bitXor, ofInt_unsignedShiftRight, hbyte,
    Crc32.addByte_eq]

theorem crc32_eq (data : List UInt8) : crc32 data = (Crc32.crc32 data).toNat := by
  have hfold : ∀ value : Int, BitVec.ofInt 32 (data.foldl crc32Byte value) =
      data.foldl Crc32.addByte (BitVec.ofInt 32 value) := by
    induction data with
    | nil => exact fun _ => rfl
    | cons byte rest ih =>
        intro value
        rw [List.foldl_cons, List.foldl_cons, ih, ofInt_crc32Byte]
  rw [crc32, unsignedShiftRight, ofInt_bitXor, hfold, Crc32.crc32]
  rfl

end TcoCalculator.WorkbookExport
