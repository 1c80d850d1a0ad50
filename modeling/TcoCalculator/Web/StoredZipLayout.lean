/-
The bytes of a stored archive: its headers field by field, its chunks one behind the
other.
-/
import Mathlib.Data.List.Basic
import TcoCalculator.Web.StoredZip

namespace TcoCalculator.WorkbookExport

open Bytes (littleEndian)

/-! ### Filling bytes from the front -/

/-- Bytes filled up to a place, zero behind it. -/
def filled (size : Nat) (front : List UInt8) : List UInt8 :=
  front ++ List.replicate (size - front.length) 0

theorem filled_nil (size : Nat) : filled size [] = newBytes size := rfl

theorem filled_full {size : Nat} {front : List UInt8} (h : front.length = size) :
    filled size front = front := by
  rw [filled, h, Nat.sub_self, List.replicate_zero, List.append_nil]

/-- Bytes set where the filled ones end fill further. -/
theorem setBytes_filled {size offset : Nat} {front source : List UInt8}
    (hoffset : front.length = offset) (hsize : offset + source.length ≤ size) :
    setBytes (filled size front) offset source = filled size (front ++ source) := by
  subst hoffset
  have hdrop : (filled size front).drop (front.length + source.length) =
      List.replicate (size - (front ++ source).length) 0 := by
    rw [filled, List.drop_append, List.drop_eq_nil_of_le (by omega), List.nil_append,
      List.drop_replicate, List.length_append]
    congr 1
    omega
  rw [setBytes, hdrop, filled, List.take_left, filled]

theorem setUint16_filled {size offset value : Nat} {front : List UInt8}
    (hoffset : front.length = offset) (hsize : offset + 2 ≤ size) :
    setUint16 offset value (filled size front) = filled size (front ++ littleEndian 2 value) :=
  setBytes_filled hoffset (by rwa [Bytes.length_littleEndian])

theorem setUint32_filled {size offset value : Nat} {front : List UInt8}
    (hoffset : front.length = offset) (hsize : offset + 4 ≤ size) :
    setUint32 offset value (filled size front) = filled size (front ++ littleEndian 4 value) :=
  setBytes_filled hoffset (by rwa [Bytes.length_littleEndian])

/-! ### Headers -/

/-- The fields of a local header before the name. -/
def localFields (entry : ZipEntry) : List UInt8 :=
  littleEndian 4 0x04034b50 ++ littleEndian 2 20 ++ littleEndian 2 0x0800 ++ littleEndian 2 0 ++
    littleEndian 2 0 ++ littleEndian 2 0x0021 ++ littleEndian 4 entry.crc32 ++
    littleEndian 4 entry.data.length ++ littleEndian 4 entry.data.length ++
    littleEndian 2 (encode entry.name).length ++ littleEndian 2 0

@[simp] theorem length_localFields (entry : ZipEntry) : (localFields entry).length = 30 := by
  simp [localFields]

theorem localHeader_eq (entry : ZipEntry) :
    localHeader entry = localFields entry ++ encode entry.name := by
  rw [localHeader, ← filled_nil]
  rw [setUint32_filled List.length_nil (by omega), setUint16_filled (by simp) (by omega),
    setUint16_filled (by simp) (by omega), setUint16_filled (by simp) (by omega),
    setUint16_filled (by simp) (by omega), setUint16_filled (by simp) (by omega),
    setUint32_filled (by simp) (by omega), setUint32_filled (by simp) (by omega),
    setUint32_filled (by simp) (by omega), setUint16_filled (by simp) (by omega),
    setUint16_filled (by simp) (by omega), setBytes_filled (by simp) le_rfl]
  exact filled_full (by rw [List.length_append]; exact congrArg (· + _) (length_localFields entry))

/-- The fields of a central header before the name. -/
def centralFields (entry : ZipEntry) : List UInt8 :=
  littleEndian 4 0x02014b50 ++ littleEndian 2 20 ++ littleEndian 2 20 ++ littleEndian 2 0x0800 ++
    littleEndian 2 0 ++ littleEndian 2 0 ++ littleEndian 2 0x0021 ++ littleEndian 4 entry.crc32 ++
    littleEndian 4 entry.data.length ++ littleEndian 4 entry.data.length ++
    littleEndian 2 (encode entry.name).length ++ littleEndian 2 0 ++ littleEndian 2 0 ++
    littleEndian 2 0 ++ littleEndian 2 0 ++ littleEndian 4 0 ++ littleEndian 4 entry.offset

@[simp] theorem length_centralFields (entry : ZipEntry) : (centralFields entry).length = 46 := by
  simp [centralFields]

theorem centralHeader_eq (entry : ZipEntry) :
    centralHeader entry = centralFields entry ++ encode entry.name := by
  rw [centralHeader, ← filled_nil]
  rw [setUint32_filled List.length_nil (by omega), setUint16_filled (by simp) (by omega),
    setUint16_filled (by simp) (by omega), setUint16_filled (by simp) (by omega),
    setUint16_filled (by simp) (by omega), setUint16_filled (by simp) (by omega),
    setUint16_filled (by simp) (by omega), setUint32_filled (by simp) (by omega),
    setUint32_filled (by simp) (by omega), setUint32_filled (by simp) (by omega),
    setUint16_filled (by simp) (by omega), setUint16_filled (by simp) (by omega),
    setUint16_filled (by simp) (by omega), setUint16_filled (by simp) (by omega),
    setUint16_filled (by simp) (by omega), setUint32_filled (by simp) (by omega),
    setUint32_filled (by simp) (by omega), setBytes_filled (by simp) le_rfl]
  exact filled_full
    (by rw [List.length_append]; exact congrArg (· + _) (length_centralFields entry))

theorem endRecord_eq (entryCount centralSize localSize : Nat) :
    endRecord entryCount centralSize localSize =
      littleEndian 4 0x06054b50 ++ littleEndian 2 0 ++ littleEndian 2 0 ++
        littleEndian 2 entryCount ++ littleEndian 2 entryCount ++ littleEndian 4 centralSize ++
        littleEndian 4 localSize ++ littleEndian 2 0 := by
  rw [endRecord, ← filled_nil]
  rw [setUint32_filled List.length_nil (by omega), setUint16_filled (by simp) (by omega),
    setUint16_filled (by simp) (by omega), setUint16_filled (by simp) (by omega),
    setUint16_filled (by simp) (by omega), setUint32_filled (by simp) (by omega),
    setUint32_filled (by simp) (by omega), setUint16_filled (by simp) (by omega),
    filled_full (by simp)]
  rfl

@[simp] theorem length_localHeader (entry : ZipEntry) :
    (localHeader entry).length = 30 + (encode entry.name).length := by
  simp [localHeader_eq]

@[simp] theorem length_centralHeader (entry : ZipEntry) :
    (centralHeader entry).length = 46 + (encode entry.name).length := by
  simp [centralHeader_eq]

@[simp] theorem length_endRecord (entryCount centralSize localSize : Nat) :
    (endRecord entryCount centralSize localSize).length = 22 := by
  simp [endRecord_eq]

/-! ### Chunks -/

/-- One round of the loop that sets the chunks. -/
theorem concatenateBytes_step {size : Nat} {front chunk : List UInt8}
    (hsize : front.length + chunk.length ≤ size) :
    (setBytes (filled size front) front.length chunk, front.length + chunk.length) =
      (filled size (front ++ chunk), (front ++ chunk).length) := by
  rw [setBytes_filled rfl hsize, List.length_append]

theorem foldl_setBytes {size : Nat} (chunks : List (List UInt8)) (front : List UInt8)
    (hsize : front.length + chunks.flatten.length ≤ size) :
    chunks.foldl (fun (result, offset) chunk =>
        (setBytes result offset chunk, offset + chunk.length))
      (filled size front, front.length) =
      (filled size (front ++ chunks.flatten), (front ++ chunks.flatten).length) := by
  induction chunks generalizing front with
  | nil => simp
  | cons chunk chunks ih =>
      rw [List.flatten_cons, List.length_append] at hsize
      have hrest : (front ++ chunk).length + chunks.flatten.length ≤ size := by
        rw [List.length_append]
        omega
      rw [List.foldl_cons]
      dsimp only
      rw [concatenateBytes_step (by omega), ih _ hrest, List.flatten_cons,
        List.append_assoc]

theorem concatenateBytes_eq (chunks : List (List UInt8)) :
    concatenateBytes chunks = chunks.flatten := by
  have hsize : ([] : List UInt8).length + chunks.flatten.length ≤
      (chunks.map List.length).sum := by
    rw [List.length_nil, List.length_flatten]
    omega
  have hset := foldl_setBytes chunks [] hsize
  rw [filled_nil, List.length_nil, List.nil_append] at hset
  rw [concatenateBytes, hset]
  exact filled_full List.length_flatten

/-! ### Files -/

/-- The entries of some files whose local parts start at a place. -/
def entriesFrom (offset : Nat) : List (String × String) → List ZipEntry
  | [] => []
  | (name, contents) :: files =>
      ⟨name, encode contents, crc32 (encode contents), offset⟩ ::
        entriesFrom (offset + (30 + (encode name).length + (encode contents).length)) files

/-- An entry's header with the data behind it. -/
def localPart (entry : ZipEntry) : List UInt8 := localHeader entry ++ entry.data

theorem foldl_add (files : List (String × String)) (gathered : LocalFiles) :
    files.foldl LocalFiles.add gathered =
      ⟨gathered.entries ++ entriesFrom gathered.localSize files,
        gathered.localChunks ++
          (entriesFrom gathered.localSize files).flatMap fun entry =>
            [localHeader entry, entry.data],
        gathered.localSize +
          ((entriesFrom gathered.localSize files).flatMap localPart).length⟩ := by
  induction files generalizing gathered with
  | nil => simp [entriesFrom]
  | cons file files ih =>
      rw [List.foldl_cons, ih]
      simp [LocalFiles.add, entriesFrom, localPart, Nat.add_assoc]

theorem flatten_localChunks (entries : List ZipEntry) :
    (entries.flatMap fun entry => [localHeader entry, entry.data]).flatten =
      entries.flatMap localPart := by
  induction entries with
  | nil => rfl
  | cons entry entries ih => simp [localPart, ih]

/-- The archive: the local parts, the directory and the end record that counts them. -/
theorem createStoredZip_eq (files : List (String × String)) :
    createStoredZip files =
      (entriesFrom 0 files).flatMap localPart ++ (entriesFrom 0 files).flatMap centralHeader ++
        endRecord (entriesFrom 0 files).length
          ((entriesFrom 0 files).flatMap centralHeader).length
          ((entriesFrom 0 files).flatMap localPart).length := by
  have hgathered := foldl_add files ⟨[], [], 0⟩
  rw [List.nil_append, List.nil_append, Nat.zero_add] at hgathered
  rw [createStoredZip, hgathered, concatenateBytes_eq]
  dsimp only
  rw [List.flatten_append, List.flatten_append, flatten_localChunks, ← List.length_flatten,
    ← List.flatMap_def, List.flatten_cons, List.flatten_nil, List.append_nil]

end TcoCalculator.WorkbookExport
