/-
The container of a workbook, a ZIP archive of stored files
(createStoredZip, concatenateBytes and crc32 in src/web/src/lib/workbook-export.ts).
-/
import Mathlib.Logic.Function.Iterate
import TcoCalculator.Library.Bytes

namespace TcoCalculator.WorkbookExport

/-! ### Numbers of 32 bits -/

-- The operators of JavaScript: signed results, but for the shift.

def bitXor (x y : Int) : Int := (BitVec.ofInt 32 x ^^^ BitVec.ofInt 32 y).toInt

def bitAnd (x y : Int) : Int := (BitVec.ofInt 32 x &&& BitVec.ofInt 32 y).toInt

def unsignedShiftRight (x : Int) (count : Nat) : Nat := (BitVec.ofInt 32 x >>> count).toNat

/-- A bit of the loop that fills the table. -/
def tableBit (value : Int) : Int :=
  if bitAnd value 1 = 1 then bitXor 0xedb88320 (unsignedShiftRight value 1)
  else unsignedShiftRight value 1

def createCrc32Table : List Nat :=
  (List.range 256).map fun index : Nat => unsignedShiftRight (tableBit^[8] (index : Int)) 0

def crc32Table : List Nat := createCrc32Table

def crc32Byte (value : Int) (byte : UInt8) : Int :=
  bitXor (crc32Table.getD (bitAnd (bitXor value byte.toNat) 0xff).toNat 0)
    (unsignedShiftRight value 8)

def crc32 (data : List UInt8) : Nat :=
  unsignedShiftRight (bitXor (data.foldl crc32Byte 0xffffffff) 0xffffffff) 0

/-! ### Bytes -/

/-- `new Uint8Array` -/
def newBytes (size : Nat) : List UInt8 := List.replicate size 0

/-- `Uint8Array.set` -/
def setBytes (bytes : List UInt8) (offset : Nat) (source : List UInt8) : List UInt8 :=
  bytes.take offset ++ source ++ bytes.drop (offset + source.length)

def setUint16 (offset value : Nat) (bytes : List UInt8) : List UInt8 :=
  setBytes bytes offset (Bytes.littleEndian 2 value)

def setUint32 (offset value : Nat) (bytes : List UInt8) : List UInt8 :=
  setBytes bytes offset (Bytes.littleEndian 4 value)

/-- The UTF-8 encoding of a text. -/
def encode (text : String) : List UInt8 := text.toByteArray.data.toList

/-- The loop that sets each chunk behind the one before. -/
def concatenateBytes (chunks : List (List UInt8)) : List UInt8 :=
  (chunks.foldl (fun (result, offset) chunk =>
      (setBytes result offset chunk, offset + chunk.length))
    (newBytes (chunks.map List.length).sum, 0)).1

/-! ### The archive -/

structure ZipEntry where
  name : String
  data : List UInt8
  crc32 : Nat
  offset : Nat

def localHeader (entry : ZipEntry) : List UInt8 :=
  let nameBytes := encode entry.name
  let header := newBytes (30 + nameBytes.length)
    |> setUint32 0 0x04034b50
    |> setUint16 4 20
    |> setUint16 6 0x0800
    |> setUint16 8 0
    |> setUint16 10 0
    |> setUint16 12 0x0021
    |> setUint32 14 entry.crc32
    |> setUint32 18 entry.data.length
    |> setUint32 22 entry.data.length
    |> setUint16 26 nameBytes.length
    |> setUint16 28 0
  setBytes header 30 nameBytes

def centralHeader (entry : ZipEntry) : List UInt8 :=
  let nameBytes := encode entry.name
  let header := newBytes (46 + nameBytes.length)
    |> setUint32 0 0x02014b50
    |> setUint16 4 20
    |> setUint16 6 20
    |> setUint16 8 0x0800
    |> setUint16 10 0
    |> setUint16 12 0
    |> setUint16 14 0x0021
    |> setUint32 16 entry.crc32
    |> setUint32 20 entry.data.length
    |> setUint32 24 entry.data.length
    |> setUint16 28 nameBytes.length
    |> setUint16 30 0
    |> setUint16 32 0
    |> setUint16 34 0
    |> setUint16 36 0
    |> setUint32 38 0
    |> setUint32 42 entry.offset
  setBytes header 46 nameBytes

def endRecord (entryCount centralSize localSize : Nat) : List UInt8 :=
  newBytes 22
    |> setUint32 0 0x06054b50
    |> setUint16 4 0
    |> setUint16 6 0
    |> setUint16 8 entryCount
    |> setUint16 10 entryCount
    |> setUint32 12 centralSize
    |> setUint32 16 localSize
    |> setUint16 20 0

/-- What the loop over the files gathers. -/
structure LocalFiles where
  entries : List ZipEntry
  localChunks : List (List UInt8)
  localSize : Nat

def LocalFiles.add (files : LocalFiles) (file : String × String) : LocalFiles :=
  let data := encode file.2
  let entry : ZipEntry := ⟨file.1, data, crc32 data, files.localSize⟩
  let header := localHeader entry
  ⟨files.entries ++ [entry], files.localChunks ++ [header, data],
    files.localSize + (header.length + data.length)⟩

def createStoredZip (files : List (String × String)) : List UInt8 :=
  let localFiles := files.foldl LocalFiles.add ⟨[], [], 0⟩
  let centralChunks := localFiles.entries.map centralHeader
  let centralSize := (centralChunks.map List.length).sum
  concatenateBytes (localFiles.localChunks ++ centralChunks ++
    [endRecord localFiles.entries.length centralSize localFiles.localSize])

end TcoCalculator.WorkbookExport
