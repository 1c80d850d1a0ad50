/-
The manifest of a saved project pairs its resources with their calculations, one to
one, and is one that the launch repository accepts; its monthly hours are exact where
a twelfth of the annual hours is a decimal.
-/
import Mathlib.Data.String.Basic
import TcoCalculator.Api.CalculatorManifest
import TcoCalculator.Domain.DecimalText
import TcoCalculator.Domain.ProjectAdmission
import TcoCalculator.Library.JsonSize
import TcoCalculator.Library.KeyedGroups

namespace TcoCalculator.CalculatorLaunches

open DecimalArith Fallible CalculatorLaunch

/-! ### Rows -/

section Rows

variable {D : Type}

/-- The only calculation of a resource. -/
structure IsRowOf (revision : CalculationRevision D) (resource : Resource D)
    (calculation : ResourceCalculation D) : Prop where
  mem : calculation ∈ revision.resourceResults
  id : calculation.resourceId = resource.shared.id
  only : ∀ other ∈ revision.resourceResults, other.resourceId = resource.shared.id →
    other = calculation

/-- The calculations gone through are indexed by their ids. -/
structure IndexOf (rows : List (ResourceCalculation D)) (indexed : Indexed D) : Prop where
  seen : ∀ id, id ∈ indexed.seen ↔ ∃ row ∈ rows, row.resourceId = id
  nodup : (rows.map ResourceCalculation.resourceId).Nodup
  lookup : ∀ row ∈ rows, indexed.calculations.lookup row.resourceId = some row
  found : ∀ id row, indexed.calculations.lookup id = some row →
    row ∈ rows ∧ row.resourceId = id

theorem IndexOf.addCalculation {rows : List (ResourceCalculation D)} {indexed indexed' : Indexed D}
    (h : IndexOf rows indexed) {row : ResourceCalculation D}
    (hadd : addCalculation indexed row = .ok indexed') : IndexOf (rows ++ [row]) indexed' := by
  unfold CalculatorLaunches.addCalculation at hadd
  split_ifs at hadd with hseen
  cases hadd
  have hnew : ∀ other ∈ rows, other.resourceId ≠ row.resourceId := fun other hother hsame =>
    hseen ((h.seen _).mpr ⟨other, hother, hsame⟩)
  constructor
  · intro id
    simp only [List.mem_cons, h.seen, List.mem_append, List.not_mem_nil, or_false]
    constructor
    · rintro (rfl | ⟨other, hother, hsame⟩)
      · exact ⟨row, .inr rfl, rfl⟩
      · exact ⟨other, .inl hother, hsame⟩
    · rintro ⟨other, hother | rfl, hsame⟩
      · exact .inr ⟨other, hother, hsame⟩
      · exact .inl hsame.symm
  · rw [List.map_append, List.map_singleton, List.nodup_append]
    refine ⟨h.nodup, List.nodup_singleton _, ?_⟩
    rintro id hid _ hlast rfl
    obtain ⟨other, hother, rfl⟩ := List.mem_map.mp hid
    exact hnew other hother (List.mem_singleton.mp hlast)
  · intro other hother
    rcases List.mem_append.mp hother with hother | hother
    · rw [AList.lookup_insert_ne (hnew other hother)]
      exact h.lookup other hother
    · rw [List.mem_singleton.mp hother, AList.lookup_insert]
  · intro id other hlookup
    rcases HashMap.lookup_insert_eq_some hlookup with ⟨rfl, rfl⟩ | ⟨-, hlookup⟩
    · exact ⟨by simp, rfl⟩
    · exact ⟨List.mem_append_left _ (h.found id other hlookup).1, (h.found id other hlookup).2⟩

theorem exists_indexOf {revision : CalculationRevision D}
    {calculations : HashMap Uuid (ResourceCalculation D)}
    (h : indexedCalculations revision = .ok calculations) :
    ∃ seen, IndexOf revision.resourceResults ⟨seen, calculations⟩ := by
  obtain ⟨indexed, hindexed, h⟩ := bind_eq_ok.mp h
  cases h
  refine ⟨indexed.seen, foldlM_rule IndexOf hindexed ?_ fun _ _ _ _ _ hdone hadd =>
    hdone.addCalculation hadd⟩
  exact ⟨by simp, List.nodup_nil, fun _ hmem => (nomatch hmem), fun _ _ hlookup =>
    (nomatch hlookup)⟩

theorem IndexOf.isRowOf {revision : CalculationRevision D} {indexed : Indexed D}
    (h : IndexOf revision.resourceResults indexed) {resource : Resource D}
    {calculation : ResourceCalculation D}
    (hlookup : indexed.calculations.lookup resource.shared.id = some calculation) :
    IsRowOf revision resource calculation := by
  obtain ⟨hmem, hid⟩ := h.found _ _ hlookup
  refine ⟨hmem, hid, fun other hother hsame => ?_⟩
  have hother' := h.lookup other hother
  rw [hsame, hlookup] at hother'
  exact (Option.some.inj hother').symm

end Rows

variable {D : Type} [DecimalArith D]

/-! ### Stored projects -/

/-- The part of a document that its owner edits. -/
def editablePart (project : ProjectDocument D) : EditableProject D where
  name := project.name
  description := project.description
  settings := project.settings
  resources := project.resources
  awsPriceSnapshotId := project.awsPriceSnapshotId
  azurePriceSnapshotId := project.azurePriceSnapshotId

/-- What every stored document has passed before it was written. -/
def Stored (project : ProjectDocument D) : Prop := (editablePart project).validate = []

/-! ### Items -/

/-- The item carries the values of the resource and of its calculation. -/
structure Carries (resource : Resource D) (calculation : ResourceCalculation D)
    (item : CalculatorManifestItem D) : Prop where
  mapped : calculation.mappingStatus = some .mapped
  priced : calculation.azurePricingStatus = .fresh ∨ calculation.azurePricingStatus = .cached
  target : ∃ selected, calculation.targetSelection.bind TargetSelection.selected = some selected ∧
    item.region = selected.azureRegion ∧ isRegionCode item.region ∧
    item.serviceTier = calculatorServiceTier selected.serviceTier ∧
    calculatorHardwareFamily selected.hardwareFamily = .ok item.hardwareFamily ∧
    item.vcores = selected.vcores.toNat ∧ item.selectedMemoryGb = selected.selectedMemoryGb ∧
    item.zoneRedundant = selected.zoneRedundant
  costs : ∃ costs, calculation.azureCosts = some costs ∧
    item.expectedPublicAnnual.compute = costs.computeGross ∧
    item.expectedPublicAnnual.additionalMemory = costs.additionalRamGross ∧
    item.expectedPublicAnnual.license = costs.licenseGross ∧
    item.expectedPublicAnnual.storage = costs.storageGross
  total : [item.expectedPublicAnnual.compute, item.expectedPublicAnnual.additionalMemory,
    item.expectedPublicAnnual.license, item.expectedPublicAnnual.storage].foldlM add zero =
      .ok item.expectedPublicAnnual.totalBeforeParity
  plan : ∃ sql, resource.sql = some sql ∧
    calculatorPurchaseOption sql.miPurchaseOption = (item.purchaseOption, item.azureHybridBenefit)
  storage : item.dataStorageGb = calculation.storageInputs.azureStorageGbPerInstance
  backup : item.backupStorageGb = zero
  displayName : item.displayName = resource.shared.workloadName ∧
    calculatorDisplayName item.displayName 160
  quantity : item.quantity = resource.shared.quantity.toNat
  hours : exactMonthlyHours resource.shared.annualHoursPerInstance = .ok item.hoursPerMonth

theorem orElse_eq_ok {α : Type} {error : CalculatorManifestError} {x : Except ArithmeticFault α}
    {a : α} (h : orElse error x = .ok a) : x = .ok a := by
  have hsome := elim_eq_ok h
  cases x with
  | error fault => cases hsome
  | ok b => exact congrArg Except.ok (Option.some.inj hsome)

theorem buildItem_eq_ok {index : Nat} {project : ProjectDocument D} {resource : Resource D}
    {calculation : ResourceCalculation D} {item : CalculatorManifestItem D}
    (h : buildItem index project resource calculation = .ok item) :
    Carries resource calculation item ∧ item.itemKey = itemKey (index + 1) := by
  unfold buildItem at h
  simp only [bind_eq_ok, ensure_eq_ok] at h
  obtain ⟨_, hpriced, _, hmapped, selected, hselected, _, hregion, costs, hcosts, sql, hsql, h⟩ := h
  obtain ⟨total, htotal, _, hname, family, hfamily, hours, hhours, h⟩ := h
  cases h
  exact ⟨{
    mapped := hmapped
    priced := hpriced
    target := ⟨selected, elim_eq_ok hselected, rfl, hregion.2, rfl, hfamily, rfl, rfl, rfl⟩
    costs := ⟨costs, elim_eq_ok hcosts, rfl, rfl, rfl, rfl⟩
    total := orElse_eq_ok htotal
    plan := ⟨sql, elim_eq_ok hsql, rfl⟩
    storage := rfl
    backup := rfl
    displayName := ⟨rfl, hname⟩
    quantity := rfl
    hours := hhours }, rfl⟩

/-- Each resource with the item of its calculation. -/
def Paired (revision : CalculationRevision D) (resources : List (Resource D))
    (items : List (CalculatorManifestItem D)) : Prop :=
  List.Forall₂ (fun resource item => ∃ calculation, IsRowOf revision resource calculation ∧
    Carries resource calculation item) resources items

theorem paired_of_buildItems {project : ProjectDocument D} {revision : CalculationRevision D}
    {indexed : Indexed D} (hindex : IndexOf revision.resourceResults indexed) {index : Nat}
    {resources : List (Resource D)} {items : List (CalculatorManifestItem D)}
    (h : buildItems project indexed.calculations index resources = .ok items) :
    Paired revision resources items ∧
      items.map CalculatorManifestItem.itemKey =
        (List.range' (index + 1) resources.length).map itemKey := by
  induction resources generalizing index items with
  | nil =>
      cases h
      exact ⟨.nil, rfl⟩
  | cons resource rest ih =>
      obtain ⟨calculation, hcalculation, h⟩ := bind_eq_ok.mp h
      obtain ⟨item, hitem, h⟩ := bind_eq_ok.mp h
      obtain ⟨items', hitems, h⟩ := bind_eq_ok.mp h
      cases h
      obtain ⟨hcarries, hkey⟩ := buildItem_eq_ok hitem
      obtain ⟨hpaired, hkeys⟩ := ih hitems
      refine ⟨.cons ⟨calculation, hindex.isRowOf (elim_eq_ok hcalculation), hcarries⟩ hpaired, ?_⟩
      rw [List.map_cons, hkey, hkeys, List.length_cons, List.range'_succ, List.map_cons]

/-! ### The manifest -/

/-- What a manifest takes over from a project and its last calculation. -/
structure Faithful (project : ProjectDocument D) (revision : CalculationRevision D)
    (manifest : CalculatorManifest D) : Prop where
  calculated : project.latestCalculationRevision = some revision
  items : Paired revision project.resources manifest.items
  keys : manifest.items.map CalculatorManifestItem.itemKey =
    (List.range' 1 project.resources.length).map itemKey
  distinct : (manifest.items.map CalculatorManifestItem.itemKey).Nodup
  rows : (revision.resourceResults.map ResourceCalculation.resourceId).Nodup
  covered : ∀ calculation ∈ revision.resourceResults,
    ∃ resource ∈ project.resources, resource.shared.id = calculation.resourceId
  settled : ∀ calculation ∈ revision.resourceResults, calculation.mappingStatus = some .mapped ∧
    (calculation.azurePricingStatus = .fresh ∨ calculation.azurePricingStatus = .cached)

theorem itemKey_nodup : ((List.range' 1 maxCalculatorManifestItems).map itemKey).Nodup := by
  decide +kernel

theorem nodup_itemKeys {count : Nat} (h : count ≤ maxCalculatorManifestItems) :
    ((List.range' 1 count).map itemKey).Nodup :=
  itemKey_nodup.sublist ((List.range'_sublist_right.mpr h).map itemKey)

/-- As many resources as rows, each with a row: no row is without a resource. -/
theorem covered_of_paired {revision : CalculationRevision D} {resources : List (Resource D)}
    {items : List (CalculatorManifestItem D)}
    (hids : (resources.map fun resource => resource.shared.id).Nodup)
    (hlength : revision.resourceResults.length = resources.length)
    (hpaired : Paired revision resources items) :
    ∀ calculation ∈ revision.resourceResults,
      ∃ resource ∈ resources, resource.shared.id = calculation.resourceId := by
  have hsubset : (resources.map fun resource => resource.shared.id) ⊆
      revision.resourceResults.map ResourceCalculation.resourceId := by
    clear hids hlength
    induction hpaired with
    | nil => exact List.nil_subset _
    | cons hrow _ ih =>
        obtain ⟨calculation, hrow, -⟩ := hrow
        rw [List.map_cons]
        exact List.cons_subset.mpr ⟨List.mem_map.mpr ⟨calculation, hrow.mem, hrow.id⟩, ih⟩
  have hperm := (hids.subperm hsubset).perm_of_length_le (by simp [hlength])
  intro calculation hmem
  have hid := hperm.mem_iff.mpr (List.mem_map_of_mem hmem)
  exact List.mem_map.mp hid

theorem faithful_of_build {project : ProjectDocument D} (hstored : Stored project)
    {generatedAt : String} {manifest : CalculatorManifest D}
    (h : buildCalculatorManifest project generatedAt = .ok manifest) :
    ∃ revision, Faithful project revision manifest := by
  unfold buildCalculatorManifest at h
  simp only [bind_eq_ok, ensure_eq_ok] at h
  obtain ⟨_, heligible, revision, hrevision, _, hbinding, calculations, hcalculations, h⟩ := h
  obtain ⟨items, hitems, h⟩ := h
  cases h
  obtain ⟨seen, hindex⟩ := exists_indexOf hcalculations
  obtain ⟨hpaired, hkeys⟩ := paired_of_buildItems hindex hitems
  have hids := EditableProject.nodup_ids_of_validate hstored
  have hlength : revision.resourceResults.length = project.resources.length := by
    unfold validateRevisionBinding at hbinding
    split_ifs at hbinding with hmismatch
    simp only [not_or, not_not] at hmismatch
    exact hmismatch.2.2.2.2
  have hcovered := covered_of_paired hids hlength hpaired
  refine ⟨revision, elim_eq_ok hrevision, hpaired, hkeys, ?_, hindex.nodup, hcovered, ?_⟩
  · rw [hkeys]
    exact nodup_itemKeys heligible.2.2.2.1
  · intro calculation hmem
    obtain ⟨resource, hresource, hid⟩ := hcovered calculation hmem
    obtain ⟨_, -, row, hrow, hcarries⟩ :=
      KeyedGroups.exists_mem_of_forall₂ hpaired.flip hresource
    rw [hrow.only calculation hmem hid.symm]
    exact ⟨hcarries.mapped, hcarries.priced⟩

/-! ### Its size -/

theorem length_display_le (a : Decimal96) : (Decimal96.display a).length ≤ 60 := by
  have hintegral : (toString (a.mantissa.natAbs / 10 ^ a.scale)).length ≤ 29 := by
    rw [← String.length_toList, Json.toString_nat]
    refine Nat.toDigits_length 10 _ 29 (by decide) (lt_of_le_of_lt (Nat.div_le_self _ _) ?_)
    exact a.mantissa_lt.trans (by norm_num)
  have hfraction : (String.ofList (Decimal96.lastDigits a.mantissa.natAbs a.scale)).length =
      a.scale := by
    rw [String.length_ofList, Decimal96.length_lastDigits]
  have htext : (if a.scale = 0 then toString (a.mantissa.natAbs / 10 ^ a.scale)
      else toString (a.mantissa.natAbs / 10 ^ a.scale) ++ "." ++
        String.ofList (Decimal96.lastDigits a.mantissa.natAbs a.scale)).length ≤ 58 := by
    have hpoint : (".").length = 1 := rfl
    have hscale := a.scale_le
    split_ifs
    · omega
    · rw [String.length_append, String.length_append, hfraction, hpoint]
      omega
  have hsigned : ∀ text : String, text.length ≤ 58 →
      (if a.mantissa < 0 then "-" ++ text else text).length ≤ 60 := by
    intro text hlength
    have hminus : ("-").length = 1 := rfl
    split_ifs
    · rw [String.length_append, hminus]
      omega
    · omega
  exact hsigned _ htext

theorem byteLength_decimal_le (a : Decimal96) : (decimalJson a).byteLength ≤ 362 := by
  have hlength : (display a).length ≤ 60 := length_display_le a
  exact (Json.byteLength_string_le _).trans (by omega)

theorem byteLength_annual_le (annual : CalculatorExpectedPublicAnnual Decimal96) :
    annual.toJson.byteLength ≤ 2500 := by
  refine (Json.byteLength_object_le_of 19 [362, 362, 362, 362, 362] ?_ ?_).trans (by decide)
  · simp only [List.map_cons, List.map_nil]
    decide +kernel
  · exact .cons (byteLength_decimal_le _) (.cons (byteLength_decimal_le _)
      (.cons (byteLength_decimal_le _) (.cons (byteLength_decimal_le _)
        (.cons (byteLength_decimal_le _) .nil))))

theorem byteLength_string_le_of {text : String} {longest : Nat} (h : text.length ≤ longest) :
    (Json.string text).byteLength ≤ 6 * longest + 2 :=
  (Json.byteLength_string_le text).trans (by omega)

theorem byteLength_uint32_le (n : UInt32) : (Json.number n.toNat).byteLength ≤ 10 :=
  Json.byteLength_nat_le (by decide) (n.toNat_lt.trans (by decide))

/-- An item stays below its share of the limit. -/
theorem byteLength_item_le {resource : Resource Decimal96}
    {calculation : ResourceCalculation Decimal96} {item : CalculatorManifestItem Decimal96}
    (h : Carries resource calculation item) (hkey : item.itemKey.length ≤ 3) :
    item.toJson.byteLength ≤ 10000 := by
  have hname : item.displayName.length ≤ 160 := by
    have hdisplay := h.displayName.2
    simp only [calculatorDisplayName, Bool.and_eq_true, decide_eq_true_eq] at hdisplay
    exact hdisplay.1.2.2
  obtain ⟨selected, -, -, hcode, -, -, hvcores, -, -⟩ := h.target
  have hregion : item.region.length ≤ 64 := by
    simp only [isRegionCode, Bool.and_eq_true, decide_eq_true_eq] at hcode
    exact (Json.length_le_utf8ByteSize _).trans hcode.1.2
  have hproduct : item.product.name.length ≤ 32 := by
    cases item.product
    decide
  have hmodel : item.deploymentModel.name.length ≤ 32 := by
    cases item.deploymentModel
    decide
  have htier : item.serviceTier.name.length ≤ 32 := by cases item.serviceTier <;> decide
  have hfamily : item.hardwareFamily.name.length ≤ 32 := by cases item.hardwareFamily <;> decide
  have hplan : item.purchaseOption.name.length ≤ 32 := by cases item.purchaseOption <;> decide
  have hvcoresBytes : (Json.number item.vcores).byteLength ≤ 10 :=
    hvcores ▸ byteLength_uint32_le selected.vcores
  have hquantityBytes : (Json.number item.quantity).byteLength ≤ 10 :=
    h.quantity ▸ byteLength_uint32_le resource.shared.quantity
  refine (Json.byteLength_object_le_of 22 [20, 962, 194, 386, 194, 194, 194, 10, 362, 5, 10, 362,
    194, 5, 362, 362, 2500] ?_ ?_).trans (by decide)
  · simp only [List.map_cons, List.map_nil]
    decide +kernel
  · exact .cons (byteLength_string_le_of hkey) (.cons (byteLength_string_le_of hname)
      (.cons (byteLength_string_le_of hproduct) (.cons (byteLength_string_le_of hregion)
      (.cons (byteLength_string_le_of hmodel) (.cons (byteLength_string_le_of htier)
      (.cons (byteLength_string_le_of hfamily) (.cons hvcoresBytes
      (.cons (byteLength_decimal_le _) (.cons (Json.byteLength_bool_le _) (.cons hquantityBytes
      (.cons (byteLength_decimal_le _) (.cons (byteLength_string_le_of hplan)
      (.cons (Json.byteLength_bool_le _) (.cons (byteLength_decimal_le _)
      (.cons (byteLength_decimal_le _) (.cons (byteLength_annual_le _) .nil))))))))))))))))

theorem length_renderDigits (width n : Nat) : (Rfc3339.renderDigits width n).length = width := by
  induction width generalizing n with
  | zero => rfl
  | succ width ih => rw [Rfc3339.renderDigits, List.length_cons, ih]

theorem length_fractionDigits_le (width n : Nat) :
    (Rfc3339.fractionDigits width n).length ≤ width := by
  induction width generalizing n with
  | zero => exact le_rfl
  | succ width ih =>
      rw [Rfc3339.fractionDigits]
      split_ifs
      · exact Nat.zero_le _
      · rw [List.length_cons]
        exact Nat.succ_le_succ (ih _)

/-- A timestamp has nine fraction digits at most. -/
theorem length_timestamp_le {now : Rfc3339.UtcDateTime} {text : String}
    (h : formatTimestamp now = .ok text) : text.length ≤ 30 := by
  unfold formatTimestamp Rfc3339.format at h
  split_ifs at h
  cases h
  have hfraction : (Rfc3339.formatFraction (now.nanos.toNat % Rfc3339.nanosPerSecond)).length ≤
      10 := by
    unfold Rfc3339.formatFraction
    split_ifs
    · exact Nat.zero_le _
    · rw [List.length_cons]
      exact Nat.succ_le_succ (length_fractionDigits_le 9 _)
  simp only [String.length_ofList, Rfc3339.formatNanos, Rfc3339.formatDate, Rfc3339.formatClock,
    List.length_append, List.length_cons, List.length_nil, length_renderDigits]
  omega

theorem length_itemKey : ∀ ordinal ∈ List.range' 1 maxCalculatorManifestItems,
    (itemKey ordinal).length ≤ 3 := by
  decide +kernel

theorem byteLength_items_le {project : ProjectDocument Decimal96}
    {revision : CalculationRevision Decimal96} {manifest : CalculatorManifest Decimal96}
    (h : Faithful project revision manifest)
    (hcount : project.resources.length ≤ maxCalculatorManifestItems) :
    (Json.array (manifest.items.map CalculatorManifestItem.toJson)).byteLength ≤ 250027 := by
  have hlength := h.items.length_eq
  have hitem : ∀ bytes ∈ (manifest.items.map CalculatorManifestItem.toJson).map
      (fun item => item.byteLength + 1), bytes ≤ 10001 := by
    intro bytes hmem
    obtain ⟨_, hjson, rfl⟩ := List.mem_map.mp hmem
    obtain ⟨item, hitem, rfl⟩ := List.mem_map.mp hjson
    obtain ⟨resource, -, calculation, -, hcarries⟩ :=
      KeyedGroups.exists_mem_of_forall₂ h.items hitem
    have hkey := List.mem_map_of_mem (f := CalculatorManifestItem.itemKey) hitem
    rw [h.keys] at hkey
    obtain ⟨ordinal, hordinal, hsame⟩ := List.mem_map.mp hkey
    have hshort := length_itemKey ordinal
      ((List.range'_sublist_right.mpr hcount).subset hordinal)
    exact Nat.succ_le_succ (byteLength_item_le hcarries (hsame ▸ hshort))
  have hsum := List.sum_le_card_nsmul _ _ hitem
  refine (Json.byteLength_array_le _).trans ?_
  simp only [List.length_map, ← hlength, smul_eq_mul] at hsum
  have hbound : project.resources.length * 10001 ≤ 25 * 10001 := Nat.mul_le_mul_right _ hcount
  omega

/-- The launch repository accepts what is built. -/
theorem validateManifest_of_build {project : ProjectDocument Decimal96} (hstored : Stored project)
    {now : Rfc3339.UtcDateTime} {generatedAt : String}
    (htime : formatTimestamp now = .ok generatedAt) {manifest : CalculatorManifest Decimal96}
    (h : buildCalculatorManifest project generatedAt = .ok manifest) :
    validateManifest manifest = .ok () := by
  obtain ⟨revision, hfaithful⟩ := faithful_of_build hstored h
  unfold buildCalculatorManifest at h
  simp only [bind_eq_ok, ensure_eq_ok] at h
  obtain ⟨_, ⟨-, -, hnonempty, hcount, hname⟩, _, -, _, -, _, -, items, -, h⟩ := h
  cases h
  have hitems := byteLength_items_le hfaithful hcount
  have hitemCount := hfaithful.items.length_eq
  dsimp only at hitems hitemCount
  have hestimate : project.name.length ≤ 100 := by
    simp only [calculatorDisplayName, Bool.and_eq_true, decide_eq_true_eq] at hname
    exact hname.1.2.2
  have hversion : (Json.number calculatorManifestVersion).byteLength ≤ 1 :=
    Json.byteLength_nat_le (by decide) (by decide)
  have hcontract : calculatorContractVersion.length ≤ 10 := by decide
  have hurl : calculatorUrl.length ≤ 60 := by decide
  have hcurrency : ("USD").length ≤ 3 := by decide
  have hlocale : ("en-US").length ≤ 5 := by decide
  unfold validateManifest
  rw [if_neg, if_neg]
  · rw [not_lt]
    refine (Json.byteLength_object_le_of 27 [1, 62, 362, 182, 20, 32, 602, 250027] ?_ ?_).trans
      (by decide)
    · simp only [List.map_cons, List.map_nil]
      decide +kernel
    · exact .cons hversion (.cons (byteLength_string_le_of hcontract)
        (.cons (byteLength_string_le_of hurl)
        (.cons (byteLength_string_le_of (length_timestamp_le htime))
        (.cons (byteLength_string_le_of hcurrency) (.cons (byteLength_string_le_of hlocale)
        (.cons (byteLength_string_le_of hestimate) (.cons hitems .nil)))))))
  · rintro (hdiffers | hdiffers | hdiffers | hdiffers | hdiffers | hempty | hmany)
    iterate 5 exact hdiffers rfl
    · have hitems := List.isEmpty_iff.mp hempty
      dsimp only at hitems
      rw [hitems] at hitemCount
      exact hnonempty (List.length_eq_zero_iff.mp hitemCount)
    · exact absurd hmany (not_lt.mpr (hitemCount ▸ hcount))

/-! ### Hours -/

/-- The monthly hours are a twelfth of the annual ones, without rounding. -/
def HoursExact (resource : Resource Decimal96) (item : CalculatorManifestItem Decimal96) : Prop :=
  item.hoursPerMonth.toRat * 12 = resource.shared.annualHoursPerInstance.toRat

/-- A twelfth of the annual hours is a decimal. -/
def HasMonthlyHours (resource : Resource Decimal96) : Prop :=
  ∃ monthly : Decimal96, monthly.toRat * 12 = resource.shared.annualHoursPerInstance.toRat

/-- The quotient is exact exactly where there is one. -/
theorem exactMonthlyHours_iff {annual monthly : Decimal96}
    (h : exactMonthlyHours annual = .ok monthly) :
    monthly.toRat * 12 = annual.toRat ↔ ∃ exact : Decimal96, exact.toRat * 12 = annual.toRat := by
  constructor
  · exact fun hexact => ⟨monthly, hexact⟩
  · rintro ⟨exact, hexact⟩
    obtain ⟨quotient, hquotient, h⟩ := bind_eq_ok.mp h
    obtain ⟨_, -, h⟩ := bind_eq_ok.mp h
    obtain ⟨_, -, h⟩ := bind_eq_ok.mp h
    cases h
    have htwelve : (DecimalArith.ofNat 12 : Decimal96).toRat = 12 :=
      Decimal96.toRat_ofNat (by norm_num)
    have hdiv := orElse_eq_ok hquotient
    change (if (DecimalArith.ofNat 12 : Decimal96).toRat = 0 then _ else _) = _ at hdiv
    rw [htwelve, if_neg (by norm_num), ← hexact, mul_div_cancel_right₀ _ (by norm_num)] at hdiv
    obtain ⟨rounded, hrounded, hvalue⟩ :=
      Decimal96.rounded_exact roundsToNearest_roundHalfEven exact exact.scale_le
    rw [Decimal96.arithmetic_eq_ok.mpr hrounded] at hdiv
    cases hdiv
    rw [Decimal96.toRat_stripped, hvalue, hexact]

theorem hoursExact_iff {revision : CalculationRevision Decimal96}
    {resources : List (Resource Decimal96)} {items : List (CalculatorManifestItem Decimal96)}
    (h : Paired revision resources items) :
    List.Forall₂ HoursExact resources items ↔
      ∀ resource ∈ resources, HasMonthlyHours resource := by
  induction h with
  | nil => simp
  | cons hrow _ ih =>
      obtain ⟨calculation, -, hcarries⟩ := hrow
      rw [List.forall₂_cons, List.forall_mem_cons, ih]
      exact and_congr_left' (exactMonthlyHours_iff hcarries.hours)

/-- A manifest built from a stored project is faithful to its calculation and is accepted
by the launch repository; its hours are exact where they can be. -/
theorem calculator_manifest_faithful_iff {project : ProjectDocument Decimal96}
    (hstored : Stored project) {now : Rfc3339.UtcDateTime} {generatedAt : String}
    (htime : formatTimestamp now = .ok generatedAt) {manifest : CalculatorManifest Decimal96}
    (h : buildCalculatorManifest project generatedAt = .ok manifest) :
    (∃ revision, Faithful project revision manifest) ∧ validateManifest manifest = .ok () ∧
      (List.Forall₂ HoursExact project.resources manifest.items ↔
        ∀ resource ∈ project.resources, HasMonthlyHours resource) := by
  obtain ⟨revision, hfaithful⟩ := faithful_of_build hstored h
  exact ⟨⟨revision, hfaithful⟩, validateManifest_of_build hstored htime h,
    hoursExact_iff hfaithful.items⟩

namespace ManifestWitness

def amount (n : ℕ) : Decimal96 := DecimalArith.ofNat n

def noon : Rfc3339.UtcDateTime := ⟨63954792000000000000, by decide⟩

def snapshotId : String :=
  "azure-0000000000000000000000000000000000000000000000000000000000000000"

def calculation : ResourceCalculation Decimal96 where
  resourceId := ⟨1⟩
  storageInputs := ⟨amount 512, amount 0, amount 512⟩
  mappingStatus := some .mapped
  awsPricingStatus := .fresh
  azurePricingStatus := .fresh
  targetSelection := some {
    mappingStatus := .mapped
    requestedTier := .nextGenerationGeneralPurpose
    nggpIopsLimit := 80000
    selected := some {
      configurationKey := "ng-8"
      azureRegion := "swedencentral"
      serviceTier := .nextGenerationGeneralPurpose
      hardwareFamily := "Premium Series"
      vcores := 8
      zoneRedundant := false
      includedMemoryGb := amount 56
      selectedMemoryGb := amount 64
      additionalMemoryGb := amount 8
      storageArchitecture := "remote"
      maximumStorageGb := none }
    candidates := []
    outcomeReasons := []
    storageEscalation := none }
  vmTargetSelection := none
  sourceCosts := none
  azureCosts := some {
    computeGross := amount 9000
    additionalRamGb := amount 8
    additionalRamGross := amount 700
    computePlusRamNet := amount 9700
    licenseGross := amount 5000
    licenseNet := amount 5000
    storageGross := amount 800
    storageNet := amount 800
    totalBeforeParity := amount 15500 }
  purchaseOptionDiscounts := none
  vmPurchaseOptionPricing := none
  savings := none
  explanationSteps := []
  unresolvedComponents := []

/-- A saved project of one RDS workload that runs so many hours a year. -/
def project (annualHours : ℕ) : ProjectDocument Decimal96 where
  id := ⟨7⟩
  documentType := "project"
  ownerId := "owner"
  name := "Renewal"
  description := none
  settings := {
    projectType := .rds
    awsRegion := some "eu-west-1"
    azureRegion := "swedencentral"
    currency := "USD"
    sourceComputeDiscount := amount 0
    sourceLicenseDiscount := amount 0
    sourceStorageDiscount := amount 0
    azureComputeDiscount := amount 0
    azureLicenseDiscount := amount 0
    azureStorageDiscount := amount 0
    selectedParityAdjustment := amount 0
    defaultAnnualHours := amount 8760
    defaultMiPurchaseOption := .payg
    enterpriseLicenseSaUsdPerTwoCorePack := none
    standardLicenseSaUsdPerTwoCorePack := none
    remainingCoverageMonths := none
    electricityRateUsdPerKwh := none
    sqlPayg := none }
  resources := [.rds {
    shared := ⟨⟨1⟩, "ledger", none, 1, amount 64, amount annualHours⟩
    sql := ⟨.standard, .licenseIncluded, amount 512, .payg⟩
    instanceType := "db.m6i.2xlarge"
    deployment := .singleAz
    commercialTerm := "on-demand"
    storageClass := "gp3"
    sourceMaxIops := 5000 }]
  awsPriceSnapshotId := none
  azurePriceSnapshotId := some snapshotId
  latestCalculationRevision := some {
    formulaVersion := Config.formulaVersion
    awsSnapshotId := none
    azureSnapshotId := some snapshotId
    resourceResults := [calculation]
    portfolioTotals := ⟨none, amount 0, amount 0, amount 0, amount 0, amount 0, amount 0, 1, 0, 0⟩
    warnings := []
    sqlPaygAnalysis := none }
  formulaVersion := Config.formulaVersion
  schemaVersion := Config.schemaVersion
  createdAt := "2026-08-24T12:00:00Z"
  updatedAt := "2026-08-24T12:00:00Z"
  etag := "1"

theorem stored_project :
    ∀ annualHours ∈ [8759, 8760], (editablePart (project annualHours)).validate = [] := by
  decide +kernel

def roundedHours : Decimal96 :=
  ⟨72991666666666666666666666667, 26, by decide, by decide⟩

end ManifestWitness

open ManifestWitness in
/-- Of 8759 hours a year, 729.91666666666666666666666667 a month are taken as exact. -/
theorem calculator_manifest_inexact_hours :
    Stored (project 8759) ∧ ∃ manifest,
      buildCalculatorManifest (project 8759) "2026-08-24T12:00:00Z" = .ok manifest ∧
        ¬ List.Forall₂ HoursExact (project 8759).resources manifest.items := by
  have hhours : (buildCalculatorManifest (project 8759) "2026-08-24T12:00:00Z").toOption.map
      (fun manifest => manifest.items.map CalculatorManifestItem.hoursPerMonth) =
        some [roundedHours] := by
    decide +kernel
  have hrounded : roundedHours.toRat * 12 ≠ (amount 8759).toRat := by decide +kernel
  obtain ⟨manifest, hbuild, hitems⟩ := Option.map_eq_some_iff.mp hhours
  refine ⟨stored_project 8759 (by simp), manifest, toOption_eq_some.mp hbuild, fun hexact => ?_⟩
  obtain ⟨item, hitem, hhour⟩ := List.map_eq_singleton_iff.mp hitems
  rw [hitem] at hexact
  cases hexact with
  | cons hfirst _ =>
      rw [HoursExact, hhour] at hfirst
      exact hrounded hfirst

open ManifestWitness in
/-- The manifest of a workload that runs all year is faithful, with exact hours. -/
theorem calculator_manifest_faithful_all_year :
    ∃ manifest, buildCalculatorManifest (project 8760) "2026-08-24T12:00:00Z" = .ok manifest ∧
      (∃ revision, Faithful (project 8760) revision manifest) ∧
      validateManifest manifest = .ok () ∧
      (List.Forall₂ HoursExact (project 8760).resources manifest.items ↔
        ∀ resource ∈ (project 8760).resources, HasMonthlyHours resource) := by
  have hbuilds : (buildCalculatorManifest (project 8760)
      "2026-08-24T12:00:00Z").toOption.isSome = true := by
    decide +kernel
  have htime : (formatTimestamp noon).toOption = some "2026-08-24T12:00:00Z" := by decide +kernel
  obtain ⟨manifest, hbuild⟩ := exists_ok_of_isSome hbuilds
  exact ⟨manifest, hbuild, calculator_manifest_faithful_iff (stored_project 8760 (by simp))
    (toOption_eq_some.mp htime) hbuild⟩

end TcoCalculator.CalculatorLaunches
