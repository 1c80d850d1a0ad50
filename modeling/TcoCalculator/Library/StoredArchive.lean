/-
Reading a ZIP archive of stored files, from its end record through the central
directory to the local headers.
-/
import TcoCalculator.Library.Bytes

namespace StoredArchive

/-! ### Fields -/

def readNumber (width : Nat) (bytes : List UInt8) : Option (Nat × List UInt8) :=
  if bytes.length < width then none
  else some (Bytes.ofLittleEndian (bytes.take width), bytes.drop width)

def readBytes (count : Nat) (bytes : List UInt8) : Option (List UInt8 × List UInt8) :=
  if bytes.length < count then none else some (bytes.take count, bytes.drop count)

theorem readNumber_append {width n : Nat} (h : n < 256 ^ width) (rest : List UInt8) :
    readNumber width (Bytes.littleEndian width n ++ rest) = some (n, rest) := by
  have hlength : ¬ (Bytes.littleEndian width n ++ rest).length < width := by
    rw [List.length_append, Bytes.length_littleEndian]
    omega
  have htake : (Bytes.littleEndian width n ++ rest).take width = Bytes.littleEndian width n := by
    rw [List.take_append_of_le_length (by simp), List.take_of_length_le (by simp)]
  have hdrop : (Bytes.littleEndian width n ++ rest).drop width = rest := by
    rw [List.drop_append_of_le_length (by simp), List.drop_of_length_le (by simp),
      List.nil_append]
  rw [readNumber, if_neg hlength, htake, hdrop, Bytes.ofLittleEndian_littleEndian,
    Nat.mod_eq_of_lt h]

theorem readBytes_append {count : Nat} {bytes : List UInt8} (h : bytes.length = count)
    (rest : List UInt8) : readBytes count (bytes ++ rest) = some (bytes, rest) := by
  subst h
  have hlength : ¬ (bytes ++ rest).length < bytes.length := by
    rw [List.length_append]
    omega
  rw [readBytes, if_neg hlength, List.take_left, List.drop_left]

/-! ### One field after the other -/

section Steps

variable {α : Type} {result : Option α}

theorem readNumber_then {width n : Nat} {rest : List UInt8}
    {next : Nat × List UInt8 → Option α} (h : n < 256 ^ width) (hnext : next (n, rest) = result) :
    (readNumber width (Bytes.littleEndian width n ++ rest) >>= next) = result := by
  rw [readNumber_append h]
  exact hnext

theorem readBytes_then {count : Nat} {bytes rest : List UInt8}
    {next : List UInt8 × List UInt8 → Option α} (h : bytes.length = count)
    (hnext : next (bytes, rest) = result) :
    (readBytes count (bytes ++ rest) >>= next) = result := by
  rw [readBytes_append h]
  exact hnext

theorem guard_then {p : Prop} [Decidable p] {next : Unit → Option α} (h : p)
    (hnext : next () = result) : (guard p >>= next) = result := by
  rw [guard, if_pos h]
  exact hnext

end Steps

/-! ### Headers -/

/-- What both headers of a file state of it. -/
structure FileHeader where
  crc32 : Nat
  compressedSize : Nat
  size : Nat
  name : List UInt8
  deriving DecidableEq

structure CentralHeader where
  file : FileHeader
  offset : Nat

structure EndRecord where
  count : Nat
  centralSize : Nat
  centralOffset : Nat

/-- The local header at the start of some bytes, and what is behind it. -/
def readLocal (bytes : List UInt8) : Option (FileHeader × List UInt8) := do
  let (signature, bytes) ← readNumber 4 bytes
  guard (signature = 0x04034b50)
  let (_, bytes) ← readNumber 2 bytes -- version
  let (_, bytes) ← readNumber 2 bytes -- flags
  let (method, bytes) ← readNumber 2 bytes
  guard (method = 0)
  let (_, bytes) ← readNumber 2 bytes -- time
  let (_, bytes) ← readNumber 2 bytes -- date
  let (crc32, bytes) ← readNumber 4 bytes
  let (compressedSize, bytes) ← readNumber 4 bytes
  let (size, bytes) ← readNumber 4 bytes
  let (nameLength, bytes) ← readNumber 2 bytes
  let (extraLength, bytes) ← readNumber 2 bytes
  let (name, bytes) ← readBytes nameLength bytes
  let (_, bytes) ← readBytes extraLength bytes
  return (⟨crc32, compressedSize, size, name⟩, bytes)

/-- A header of the central directory, and what is behind it. -/
def readCentral (bytes : List UInt8) : Option (CentralHeader × List UInt8) := do
  let (signature, bytes) ← readNumber 4 bytes
  guard (signature = 0x02014b50)
  let (_, bytes) ← readNumber 2 bytes -- version made by
  let (_, bytes) ← readNumber 2 bytes -- version needed
  let (_, bytes) ← readNumber 2 bytes -- flags
  let (method, bytes) ← readNumber 2 bytes
  guard (method = 0)
  let (_, bytes) ← readNumber 2 bytes -- time
  let (_, bytes) ← readNumber 2 bytes -- date
  let (crc32, bytes) ← readNumber 4 bytes
  let (compressedSize, bytes) ← readNumber 4 bytes
  let (size, bytes) ← readNumber 4 bytes
  let (nameLength, bytes) ← readNumber 2 bytes
  let (extraLength, bytes) ← readNumber 2 bytes
  let (commentLength, bytes) ← readNumber 2 bytes
  let (disk, bytes) ← readNumber 2 bytes
  guard (disk = 0)
  let (_, bytes) ← readNumber 2 bytes -- internal attributes
  let (_, bytes) ← readNumber 4 bytes -- external attributes
  let (offset, bytes) ← readNumber 4 bytes
  let (name, bytes) ← readBytes nameLength bytes
  let (_, bytes) ← readBytes extraLength bytes
  let (_, bytes) ← readBytes commentLength bytes
  return (⟨⟨crc32, compressedSize, size, name⟩, offset⟩, bytes)

/-- The end record with its comment, up to the end of the bytes. -/
def readEnd (bytes : List UInt8) : Option EndRecord := do
  let (signature, bytes) ← readNumber 4 bytes
  guard (signature = 0x06054b50)
  let (disk, bytes) ← readNumber 2 bytes
  let (centralDisk, bytes) ← readNumber 2 bytes
  guard (disk = 0 ∧ centralDisk = 0)
  let (countOnDisk, bytes) ← readNumber 2 bytes
  let (count, bytes) ← readNumber 2 bytes
  guard (countOnDisk = count)
  let (centralSize, bytes) ← readNumber 4 bytes
  let (centralOffset, bytes) ← readNumber 4 bytes
  let (commentLength, bytes) ← readNumber 2 bytes
  guard (bytes.length = commentLength)
  return ⟨count, centralSize, centralOffset⟩

/-! ### Archives -/

/-- A file of an archive with what its two headers state. -/
structure ArchivedFile where
  localHeader : FileHeader
  centralHeader : FileHeader
  data : List UInt8
  deriving DecidableEq

/-- The last end record of some bytes, and where it starts. -/
def findEnd (bytes : List UInt8) : Option (Nat × EndRecord) :=
  (List.range (bytes.length + 1 - 22)).reverse.findSome? fun start =>
    (readEnd (bytes.drop start)).map fun record => (start, record)

def readDirectory : Nat → List UInt8 → Option (List CentralHeader × List UInt8)
  | 0, bytes => some ([], bytes)
  | count + 1, bytes => do
      let (header, bytes) ← readCentral bytes
      let (headers, bytes) ← readDirectory count bytes
      return (header :: headers, bytes)

/-- The file at the place its central header records. -/
def readFile (bytes : List UInt8) (header : CentralHeader) : Option ArchivedFile := do
  let (localHeader, rest) ← readLocal (bytes.drop header.offset)
  let (data, _) ← readBytes localHeader.compressedSize rest
  return ⟨localHeader, header.file, data⟩

def readArchive (bytes : List UInt8) : Option (List ArchivedFile) := do
  let (start, record) ← findEnd bytes
  let (headers, rest) ← readDirectory record.count (bytes.drop record.centralOffset)
  guard (record.centralOffset + record.centralSize = start ∧ rest = bytes.drop start)
  headers.mapM (readFile bytes)

end StoredArchive
