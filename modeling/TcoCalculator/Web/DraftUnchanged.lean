/-
A project that is opened and saved without an edit: when it is sent and what the server
reads then.
-/
import Mathlib.Data.Nat.Digits.Defs
import TcoCalculator.Web.DraftRoundTrip

namespace TcoCalculator.Draft

open ProjectReading (ReadsIds)

variable {toNumber : String → Option Int} {library : ScalarLibrary Decimal96}

/-- The browser opens the project and sends it, and the server reads the same project. -/
def SavedUnchanged (toNumber : String → Option Int) (library : ScalarLibrary Decimal96)
    (project : EditableProject Decimal96) : Prop :=
  ∃ draft payload, editableProject (ProjectJson.editable project).parsed = .ok (some draft) ∧
    projectRequestPayload toNumber draft = .ok payload ∧
    ProjectReading.editableProject library payload.json.stringified = some project

theorem projectRequestPayload_opened {project : EditableProject Decimal96}
    (hvalid : project.validate = []) {payload : ProjectDraft} :
    projectRequestPayload toNumber (openedDraft project) = .ok payload ↔
      Savable project ∧ payload = sentDraft project := by
  have hcomplete := complete_of_validate hvalid
  constructor
  · intro hsent
    have hsavable := savable_of_ok hsent
    rw [projectRequestPayload_eq_ok hcomplete hsavable] at hsent
    exact ⟨hsavable, (Except.ok.inj hsent).symm⟩
  · rintro ⟨hsavable, rfl⟩
    exact projectRequestPayload_eq_ok hcomplete hsavable

theorem savedUnchanged_iff (hids : ReadsIds library) {project : EditableProject Decimal96}
    (hvalid : project.validate = []) :
    SavedUnchanged toNumber library project ↔
      Savable project ∧ withTrimmedNames project = project := by
  have hopened := editableProject_parsed (complete_of_validate hvalid)
  constructor
  · rintro ⟨draft, payload, hdraft, hsent, hread⟩
    obtain rfl : openedDraft project = draft :=
      Option.some.inj (Except.ok.inj (hopened.symm.trans hdraft))
    obtain ⟨hsavable, rfl⟩ := (projectRequestPayload_opened hvalid).mp hsent
    rw [editableProject_sentDraft hids hsavable] at hread
    exact ⟨hsavable, Option.some.inj hread⟩
  · rintro ⟨hsavable, hsame⟩
    refine ⟨_, _, hopened, (projectRequestPayload_opened hvalid).mpr ⟨hsavable, rfl⟩, ?_⟩
    rw [editableProject_sentDraft hids hsavable, hsame]

/-! ### Projects that are opened -/

namespace UnchangedWitness

def hexValue : Char → Option Nat
  | '-' => none
  | c => (List.range 16).find? fun n => Nat.digitChar n = c

/-- An identifier from its hyphenated form. -/
def uuidOfText (text : String) : Option Uuid :=
  let digits := text.toList.filterMap hexValue
  let id : Uuid := ⟨BitVec.ofNat 128 (Nat.ofDigits 16 digits.reverse)⟩
  if id.text = text then some id else none

theorem ofDigits_places (n k : Nat) :
    Nat.ofDigits 16 ((List.range k).map fun place => n / 16 ^ place % 16) = n % 16 ^ k := by
  induction k with
  | zero => exact (Nat.mod_one n).symm
  | succ k ih =>
      rw [List.range_succ, List.map_append, Nat.ofDigits_append, ih, Nat.mod_pow_succ,
        List.length_map, List.length_range]
      rfl

theorem hexValue_textChar (n : Nat) (place : Option Nat) :
    hexValue (Uuid.textChar n place) = place.map fun place => n / 16 ^ place % 16 := by
  cases place with
  | none => rfl
  | some place =>
      have hdigits : ∀ digit < 16, hexValue (Nat.digitChar digit) = some digit := by decide
      exact hdigits _ (Nat.mod_lt _ (by decide))

theorem digits_text (id : Uuid) : id.text.toList.filterMap hexValue =
    ((List.range 32).map fun place => id.bits.toNat / 16 ^ place % 16).reverse := by
  have hplaces : Uuid.textPlaces.filterMap (fun place => place) = (List.range 32).reverse := by
    decide
  rw [Uuid.text, String.toList_ofList, List.filterMap_map, ← List.map_reverse, ← hplaces,
    List.map_filterMap]
  exact List.filterMap_congr fun place _ => hexValue_textChar id.bits.toNat place

theorem uuidOfText_text (id : Uuid) : uuidOfText id.text = some id := by
  have hbits : id.bits.toNat < 16 ^ 32 := id.bits.isLt
  have hid : (⟨BitVec.ofNat 128 (Nat.ofDigits 16 (id.text.toList.filterMap hexValue).reverse)⟩ :
      Uuid) = id := by
    rw [digits_text, List.reverse_reverse, ofDigits_places, Nat.mod_eq_of_lt hbits,
      BitVec.ofNat_toNat, BitVec.setWidth_eq]
  simp only [uuidOfText, hid, if_pos]

def scalars : ScalarLibrary Decimal96 := ⟨uuidOfText, fun _ => none⟩

theorem readsIds_scalars : ReadsIds scalars := uuidOfText_text

def settings (months : Option UInt8) : ProjectSettings Decimal96 where
  projectType := .ec2
  awsRegion := some "us-east-1"
  azureRegion := "eastus"
  currency := "USD"
  sourceComputeDiscount := DecimalArith.zero
  sourceLicenseDiscount := DecimalArith.zero
  sourceStorageDiscount := DecimalArith.zero
  azureComputeDiscount := DecimalArith.zero
  azureLicenseDiscount := DecimalArith.zero
  azureStorageDiscount := DecimalArith.zero
  selectedParityAdjustment := DecimalArith.zero
  defaultAnnualHours := DecimalArith.ofNat 8760
  defaultMiPurchaseOption := .payg
  enterpriseLicenseSaUsdPerTwoCorePack := none
  standardLicenseSaUsdPerTwoCorePack := none
  remainingCoverageMonths := months
  electricityRateUsdPerKwh := none
  sqlPayg := none

/-- A database server with one disk. -/
def server (name : Option String) (iops : UInt64) : Ec2Resource Decimal96 where
  shared := {
    id := ⟨1⟩
    workloadName := "Orders"
    serverName := name
    quantity := 1
    sourceRamGbPerInstance := DecimalArith.ofNat 32
    annualHoursPerInstance := DecimalArith.ofNat 8760 }
  sql := ⟨.standard, .licenseIncluded, DecimalArith.ofNat 100, .payg⟩
  instanceType := "r6i.xlarge"
  volumes := [⟨⟨2⟩, "Data", none, .gp3, DecimalArith.ofNat 100, some iops, none⟩]

def project (name : Option String) (months : Option UInt8) (iops : UInt64) :
    EditableProject Decimal96 where
  name := "Orders"
  description := none
  settings := settings months
  resources := [.ec2 (server name iops)]
  awsPriceSnapshotId := none
  azurePriceSnapshotId := none

/-- The project is valid, and no library and no reading of numbers keep it as it is. -/
def Changed (project : EditableProject Decimal96) : Prop :=
  project.validate = [] ∧ ∀ toNumber library, ReadsIds library →
    ¬ SavedUnchanged toNumber library project

theorem changed_of_not {project : EditableProject Decimal96} (hvalid : project.validate = [])
    (h : ¬ (Savable project ∧ withTrimmedNames project = project)) : Changed project :=
  ⟨hvalid, fun _ _ hids hsaved => h ((savedUnchanged_iff hids hvalid).mp hsaved)⟩

end UnchangedWitness

/-- A valid project is opened. It is sent when its numbers and its months are accepted, and
then the server reads it with its server names trimmed. -/
theorem opened_project_saved (hids : ReadsIds library) {project : EditableProject Decimal96}
    (hvalid : project.validate = []) :
    ∃ draft, editableProject (ProjectJson.editable project).parsed = .ok (some draft) ∧
      ((∃ payload, projectRequestPayload toNumber draft = .ok payload) ↔ Savable project) ∧
      ∀ payload, projectRequestPayload toNumber draft = .ok payload →
        ProjectReading.editableProject library payload.json.stringified =
          some (withTrimmedNames project) := by
  refine ⟨openedDraft project, editableProject_parsed (complete_of_validate hvalid), ?_, ?_⟩
  · constructor
    · intro ⟨payload, hsent⟩
      exact savable_of_ok hsent
    · intro hsavable
      exact ⟨sentDraft project, (projectRequestPayload_opened hvalid).mpr ⟨hsavable, rfl⟩⟩
  · intro payload hsent
    obtain ⟨hsavable, rfl⟩ := (projectRequestPayload_opened hvalid).mp hsent
    exact editableProject_sentDraft hids hsavable

open UnchangedWitness in
/-- A server with a name in spaces is read back with another name, and a project with an IOPS
count that no double holds or with seven months of coverage is not sent. -/
theorem opened_project_changed :
    Changed (project (some " db-1 ") none 3000) ∧ Changed (project none (some 7) 3000) ∧
      Changed (project none none 9007199254740993) := by
  refine ⟨changed_of_not (by decide +kernel) ?_, changed_of_not (by decide +kernel) ?_,
    changed_of_not (by decide +kernel) ?_⟩
  · rintro ⟨-, hsame⟩
    exact absurd hsame (by decide +kernel)
  · rintro ⟨hsavable, -⟩
    exact absurd hsavable.months (by simp [AcceptedMonths, project, settings])
  · rintro ⟨hsavable, -⟩
    have hiops := hsavable.numbers _ (List.mem_singleton.mpr rfl) _ (List.mem_singleton.mpr rfl)
    exact absurd (hiops _ rfl) (by decide)

open UnchangedWitness in
/-- A project whose server has a padded name is opened, sent and read with the name trimmed. -/
theorem padded_name_trimmed :
    ∃ draft, editableProject (ProjectJson.editable (project (some " db-1 ") none 3000)).parsed =
        .ok (some draft) ∧
      ((∃ payload, projectRequestPayload (fun _ => none) draft = .ok payload) ↔
        Savable (project (some " db-1 ") none 3000)) ∧
      ∀ payload, projectRequestPayload (fun _ => none) draft = .ok payload →
        ProjectReading.editableProject scalars payload.json.stringified =
          some (withTrimmedNames (project (some " db-1 ") none 3000)) :=
  opened_project_saved readsIds_scalars (by decide +kernel)

end TcoCalculator.Draft
