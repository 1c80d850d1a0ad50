/-
Every stored archive reads back: from the end record through the directory to the local
headers stand the files in their order, with their sizes and checksums.
-/
import Mathlib.Data.List.Range
import TcoCalculator.Library.StoredArchive
import TcoCalculator.Web.StoredZipCrc
import TcoCalculator.Web.StoredZipLayout

namespace TcoCalculator.WorkbookExport

open StoredArchive (FileHeader CentralHeader EndRecord ArchivedFile readNumber_then readBytes_then
  guard_then)

/-! ### Headers -/

/-- What both headers of an entry state of it. -/
def fileHeader (entry : ZipEntry) : FileHeader :=
  ⟨entry.crc32, entry.data.length, entry.data.length, encode entry.name⟩

/-- Nothing of an entry is cut off by the widths of its fields. -/
structure Fits (entry : ZipEntry) : Prop where
  crc32 : entry.crc32 < 256 ^ 4
  size : entry.data.length < 256 ^ 4
  name : (encode entry.name).length < 256 ^ 2
  offset : entry.offset < 256 ^ 4

theorem readLocal_localHeader {entry : ZipEntry} (h : Fits entry) (rest : List UInt8) :
    StoredArchive.readLocal (localHeader entry ++ rest) = some (fileHeader entry, rest) := by
  rw [localHeader_eq, localFields]
  simp only [List.append_assoc]
  apply readNumber_then (by decide)
  apply guard_then rfl
  apply readNumber_then (by decide) -- version
  apply readNumber_then (by decide) -- flags
  apply readNumber_then (by decide) -- method
  apply guard_then rfl
  apply readNumber_then (by decide) -- time
  apply readNumber_then (by decide) -- date
  apply readNumber_then h.crc32
  apply readNumber_then h.size
  apply readNumber_then h.size
  apply readNumber_then h.name
  apply readNumber_then (by decide) -- extra length
  apply readBytes_then rfl
  rfl

theorem readCentral_centralHeader {entry : ZipEntry} (h : Fits entry) (rest : List UInt8) :
    StoredArchive.readCentral (centralHeader entry ++ rest) =
      some (⟨fileHeader entry, entry.offset⟩, rest) := by
  rw [centralHeader_eq, centralFields]
  simp only [List.append_assoc]
  apply readNumber_then (by decide)
  apply guard_then rfl
  apply readNumber_then (by decide) -- version made by
  apply readNumber_then (by decide) -- version needed
  apply readNumber_then (by decide) -- flags
  apply readNumber_then (by decide) -- method
  apply guard_then rfl
  apply readNumber_then (by decide) -- time
  apply readNumber_then (by decide) -- date
  apply readNumber_then h.crc32
  apply readNumber_then h.size
  apply readNumber_then h.size
  apply readNumber_then h.name
  apply readNumber_then (by decide) -- extra length
  apply readNumber_then (by decide) -- comment length
  apply readNumber_then (by decide) -- disk
  apply guard_then rfl
  apply readNumber_then (by decide) -- internal attributes
  apply readNumber_then (by decide) -- external attributes
  apply readNumber_then h.offset
  apply readBytes_then rfl
  rfl

theorem readEnd_endRecord {entryCount centralSize localSize : Nat} (hcount : entryCount < 256 ^ 2)
    (hcentral : centralSize < 256 ^ 4) (hlocal : localSize < 256 ^ 4) :
    StoredArchive.readEnd (endRecord entryCount centralSize localSize) =
      some ⟨entryCount, centralSize, localSize⟩ := by
  rw [← List.append_nil (endRecord _ _ _), endRecord_eq]
  simp only [List.append_assoc]
  apply readNumber_then (by decide)
  apply guard_then rfl
  apply readNumber_then (by decide) -- disk
  apply readNumber_then (by decide) -- disk of the directory
  apply guard_then ⟨rfl, rfl⟩
  apply readNumber_then hcount
  apply readNumber_then hcount
  apply guard_then rfl
  apply readNumber_then hcentral
  apply readNumber_then hlocal
  apply readNumber_then (by decide) -- comment length
  apply guard_then rfl
  rfl

/-! ### From the end to the local headers -/

theorem findEnd_endRecord {entryCount centralSize localSize : Nat} (front : List UInt8)
    (hcount : entryCount < 256 ^ 2) (hcentral : centralSize < 256 ^ 4)
    (hlocal : localSize < 256 ^ 4) :
    StoredArchive.findEnd (front ++ endRecord entryCount centralSize localSize) =
      some (front.length, ⟨entryCount, centralSize, localSize⟩) := by
  have hstarts : (front ++ endRecord entryCount centralSize localSize).length + 1 - 22 =
      front.length + 1 := by
    rw [List.length_append, length_endRecord]
    omega
  rw [StoredArchive.findEnd, hstarts, List.range_succ, List.reverse_append, List.reverse_singleton,
    List.singleton_append, List.findSome?_cons, List.drop_left,
    readEnd_endRecord hcount hcentral hlocal]
  rfl

/-- What the directory records of an entry. -/
def directoryHeader (entry : ZipEntry) : CentralHeader := ⟨fileHeader entry, entry.offset⟩

theorem readDirectory_centralHeaders {entries : List ZipEntry}
    (hfits : ∀ entry ∈ entries, Fits entry) (rest : List UInt8) :
    StoredArchive.readDirectory entries.length (entries.flatMap centralHeader ++ rest) =
      some (entries.map directoryHeader, rest) := by
  induction entries with
  | nil => rfl
  | cons entry entries ih =>
      rw [List.forall_mem_cons] at hfits
      rw [List.length_cons, StoredArchive.readDirectory, List.flatMap_cons, List.append_assoc,
        readCentral_centralHeader hfits.1, Option.bind_eq_bind, Option.bind_some]
      dsimp only
      rw [ih hfits.2]
      rfl

/-- An entry's local part stands where the entry records it. -/
def PlacedIn (bytes : List UInt8) (entry : ZipEntry) : Prop :=
  ∃ front back, bytes = front ++ (localPart entry ++ back) ∧ front.length = entry.offset

theorem entriesFrom_placed (files : List (String × String)) {bytes front back : List UInt8}
    (hbytes : bytes = front ++ ((entriesFrom front.length files).flatMap localPart ++ back)) :
    ∀ entry ∈ entriesFrom front.length files, PlacedIn bytes entry := by
  induction files generalizing front with
  | nil => exact List.forall_mem_nil _
  | cons file files ih =>
      obtain ⟨name, contents⟩ := file
      let entry : ZipEntry := ⟨name, encode contents, crc32 (encode contents), front.length⟩
      have hoffset : front.length + (30 + (encode name).length + (encode contents).length) =
          (front ++ localPart entry).length := by
        rw [List.length_append, localPart, List.length_append, length_localHeader]
      rw [entriesFrom, List.flatMap_cons, List.append_assoc] at hbytes
      rw [entriesFrom, List.forall_mem_cons]
      constructor
      · exact ⟨front, _, hbytes, rfl⟩
      · rw [hoffset]
        rw [hoffset, ← List.append_assoc] at hbytes
        exact ih hbytes

theorem readFile_directoryHeader {bytes : List UInt8} {entry : ZipEntry} (hfits : Fits entry)
    (hplaced : PlacedIn bytes entry) :
    StoredArchive.readFile bytes (directoryHeader entry) =
      some ⟨fileHeader entry, fileHeader entry, entry.data⟩ := by
  obtain ⟨front, back, rfl, hoffset⟩ := hplaced
  have hdrop : (front ++ (localPart entry ++ back)).drop (directoryHeader entry).offset =
      localHeader entry ++ (entry.data ++ back) := by
    rw [directoryHeader, ← hoffset, List.drop_left, localPart, List.append_assoc]
  rw [StoredArchive.readFile, hdrop, readLocal_localHeader hfits, Option.bind_eq_bind,
    Option.bind_some]
  apply readBytes_then rfl
  rfl

/-! ### Every file -/

/-- A file as the archive holds it: both headers state the size and the checksum of its
contents. -/
def archivedFile (file : String × String) : ArchivedFile :=
  let contents := encode file.2
  let header : FileHeader :=
    ⟨(Crc32.crc32 contents).toNat, contents.length, contents.length, encode file.1⟩
  ⟨header, header, contents⟩

/-- The name and the contents of an archived file as texts. -/
def textsOf (file : ArchivedFile) : Option (String × String) := do
  let name ← String.fromUTF8? ⟨file.localHeader.name.toArray⟩
  let contents ← String.fromUTF8? ⟨file.data.toArray⟩
  return (name, contents)

theorem fromUTF8?_encode (text : String) :
    String.fromUTF8? ⟨(encode text).toArray⟩ = some text := by
  have hbytes : (⟨(encode text).toArray⟩ : ByteArray) = text.toByteArray := by
    rw [encode, Array.toArray_toList]
  rw [hbytes, String.fromUTF8?, dif_pos text.isValidUTF8]
  rfl

theorem textsOf_archivedFile (file : String × String) :
    textsOf (archivedFile file) = some file := by
  rw [textsOf, archivedFile, fromUTF8?_encode, Option.bind_eq_bind, Option.bind_some,
    fromUTF8?_encode]
  rfl

theorem mapM_eq_some_map {α β : Type} {f : α → Option β} {g : α → β} {xs : List α}
    (h : ∀ x ∈ xs, f x = some (g x)) : xs.mapM f = some (xs.map g) := by
  induction xs with
  | nil => rfl
  | cons x xs ih =>
      rw [List.forall_mem_cons] at h
      rw [List.mapM_cons, h.1, ih h.2]
      rfl

theorem length_entriesFrom (offset : Nat) (files : List (String × String)) :
    (entriesFrom offset files).length = files.length := by
  induction files generalizing offset with
  | nil => rfl
  | cons file files ih => rw [entriesFrom, List.length_cons, List.length_cons, ih]

/-- An entry's headers state the bitwise checksum. -/
theorem map_entriesFrom (offset : Nat) (files : List (String × String)) :
    ((entriesFrom offset files).map fun entry =>
        (⟨fileHeader entry, fileHeader entry, entry.data⟩ : ArchivedFile)) =
      files.map archivedFile := by
  induction files generalizing offset with
  | nil => rfl
  | cons file files ih =>
      rw [entriesFrom, List.map_cons, List.map_cons, ih, fileHeader, archivedFile, crc32_eq]

/-- What an entry has of its file. -/
theorem mem_entriesFrom {offset : Nat} {files : List (String × String)} {entry : ZipEntry}
    (h : entry ∈ entriesFrom offset files) :
    (∃ file ∈ files, file.1 = entry.name) ∧ entry.crc32 = crc32 entry.data := by
  induction files generalizing offset with
  | nil => exact absurd h List.not_mem_nil
  | cons file files ih =>
      rw [entriesFrom, List.mem_cons] at h
      obtain rfl | hrest := h
      · exact ⟨⟨file, List.mem_cons_self, rfl⟩, rfl⟩
      · obtain ⟨⟨other, hother, hname⟩, hcrc32⟩ := ih hrest
        exact ⟨⟨other, List.mem_cons_of_mem file hother, hname⟩, hcrc32⟩

theorem fits_of_placedIn {bytes : List UInt8} {entry : ZipEntry}
    (hname : (encode entry.name).length < 2 ^ 16) (hcrc32 : entry.crc32 = crc32 entry.data)
    (hplaced : PlacedIn bytes entry) (hsize : bytes.length < 2 ^ 32) : Fits entry := by
  obtain ⟨front, back, rfl, hoffset⟩ := hplaced
  rw [localPart, List.length_append, List.length_append, List.length_append,
    length_localHeader] at hsize
  constructor
  · rw [hcrc32]
    exact BitVec.isLt _
  · omega
  · exact hname
  · omega

/-- The bytes of an archive, read from the end record of its entries on. -/
theorem readArchive_of_fits {bytes : List UInt8} {entries : List ZipEntry}
    (hbytes : bytes = entries.flatMap localPart ++ (entries.flatMap centralHeader ++
      endRecord entries.length (entries.flatMap centralHeader).length
        (entries.flatMap localPart).length))
    (hcount : entries.length < 2 ^ 16) (hsize : bytes.length < 2 ^ 32)
    (hfits : ∀ entry ∈ entries, Fits entry) (hplaced : ∀ entry ∈ entries, PlacedIn bytes entry) :
    StoredArchive.readArchive bytes = some (entries.map fun entry =>
      ⟨fileHeader entry, fileHeader entry, entry.data⟩) := by
  let locals := entries.flatMap localPart
  let centrals := entries.flatMap centralHeader
  have hlength : bytes.length = locals.length + (centrals.length + 22) := by
    rw [hbytes, List.length_append, List.length_append, length_endRecord]
  have hlocal : locals.length < 2 ^ 32 := by omega
  have hcentral : centrals.length < 2 ^ 32 := by omega
  have hend : StoredArchive.findEnd bytes =
      some (locals.length + centrals.length,
        ⟨entries.length, centrals.length, locals.length⟩) := by
    rw [hbytes, ← List.append_assoc, findEnd_endRecord _ hcount hcentral hlocal,
      List.length_append]
  have hdirectory : bytes.drop locals.length =
      centrals ++ endRecord entries.length centrals.length locals.length := by
    rw [hbytes, List.drop_left]
  have hrest : endRecord entries.length centrals.length locals.length =
      bytes.drop (locals.length + centrals.length) := by
    rw [← List.drop_drop, hdirectory, List.drop_left]
  have hread : ∀ entry ∈ entries, StoredArchive.readFile bytes (directoryHeader entry) =
      some ⟨fileHeader entry, fileHeader entry, entry.data⟩ :=
    fun entry hentry => readFile_directoryHeader (hfits entry hentry) (hplaced entry hentry)
  rw [StoredArchive.readArchive, hend, Option.bind_eq_bind, Option.bind_some]
  dsimp only
  rw [hdirectory, readDirectory_centralHeaders hfits, Option.bind_eq_bind, Option.bind_some]
  apply guard_then ⟨rfl, hrest⟩
  rw [List.mapM_map]
  exact mapM_eq_some_map hread

/-- An archive whose sizes fit its fields reads back, from the end record on, as its
files in their order. -/
theorem readArchive_createStoredZip {files : List (String × String)}
    (hnames : ∀ file ∈ files, file.1.utf8ByteSize < 2 ^ 16) (hcount : files.length < 2 ^ 16)
    (hsize : (createStoredZip files).length < 2 ^ 32) :
    StoredArchive.readArchive (createStoredZip files) = some (files.map archivedFile) ∧
      (files.map archivedFile).mapM textsOf = some files := by
  have hbytes := createStoredZip_eq files
  rw [List.append_assoc] at hbytes
  have hplaced : ∀ entry ∈ entriesFrom 0 files, PlacedIn (createStoredZip files) entry :=
    entriesFrom_placed files (hbytes.trans (List.nil_append _).symm)
  have hfits : ∀ entry ∈ entriesFrom 0 files, Fits entry := by
    intro entry hentry
    obtain ⟨⟨file, hfile, hname⟩, hcrc32⟩ := mem_entriesFrom hentry
    have hlength : (encode entry.name).length < 2 ^ 16 := by
      rw [← hname]
      exact hnames file hfile
    exact fits_of_placedIn hlength hcrc32 (hplaced entry hentry) hsize
  have hentries : (entriesFrom 0 files).length < 2 ^ 16 := by
    rwa [length_entriesFrom]
  constructor
  · rw [readArchive_of_fits hbytes hentries hsize hfits hplaced, map_entriesFrom]
  · rw [List.mapM_map]
    exact (mapM_eq_some_map fun file _ => textsOf_archivedFile file).trans
      (congrArg some (List.map_id files))

/-- Two texts, one with a letter beyond ASCII and one empty. -/
theorem two_texts_read_back :
    StoredArchive.readArchive (createStoredZip [("xl/styles.xml", "<é/>"), ("", "")]) =
        some ([("xl/styles.xml", "<é/>"), ("", "")].map archivedFile) ∧
      ([("xl/styles.xml", "<é/>"), ("", "")].map archivedFile).mapM textsOf =
        some [("xl/styles.xml", "<é/>"), ("", "")] :=
  readArchive_createStoredZip (by decide +kernel) (by decide) (by decide +kernel)

end TcoCalculator.WorkbookExport
