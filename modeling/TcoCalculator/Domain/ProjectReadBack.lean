/-
An editable project reads back from the JSON it is written as, whatever the order of
the members of its resources.
-/
import TcoCalculator.Domain.DecimalText
import TcoCalculator.Domain.ProjectReading
import TcoCalculator.Library.JsRecord

namespace TcoCalculator.ProjectReading

open JsonDocument

variable {library : ScalarLibrary Decimal96}

/-- What the library documents: an identifier reads back from its hyphenated form. -/
def ReadsIds (library : ScalarLibrary Decimal96) : Prop :=
  ∀ id : Uuid, library.uuidParseStr id.text = some id

/-! ### Scalars -/

theorem asString_string (text : String) : asString (.string text) = some text := rfl

@[simp] theorem asDecimal_decimal (number : Decimal96) :
    asDecimal library (ResourceJson.decimal number).stringified = some number := by
  have hparse : (DecimalArith.parse (DecimalArith.display number) : Option Decimal96) =
      some number := Decimal96.parse_display_self number
  rw [ResourceJson.decimal, Json.stringified, asDecimal, hparse]
  rfl

theorem asUuid_text (hids : ReadsIds library) (id : Uuid) :
    asUuid library (.string id.text) = some id := hids id

theorem asUnsigned_text {n : Nat} (h : n < 2 ^ 53) :
    asUnsigned (.number (Double.text n)) = some n := by
  have hdigits : (toString n).toList = Nat.toDigits 10 n := by
    rw [Nat.toString_eq_repr, Nat.toList_repr]
  have hne : toString n ≠ "" := by
    intro hempty
    rw [hempty] at hdigits
    exact Nat.toDigits_ne_nil hdigits.symm
  have hall : (toString n).toList.all Char.isDigit = true := by
    rw [hdigits, List.all_eq_true]
    exact fun c hc => Nat.isDigit_of_mem_toDigits (by decide) (by decide) hc
  rw [Double.text_of_lt h, asUnsigned]
  rw [if_pos ⟨hne, hall⟩, hdigits, Nat.ofDigitChars_ten_toDigits]

theorem asU8_text (n : UInt8) : asU8 (.number (Double.text n.toNat)) = some n := by
  have hlt : n.toNat < 2 ^ 8 := n.toNat_lt
  rw [asU8, asUnsigned_text (by omega), Option.filter_some, if_pos (decide_eq_true hlt),
    Option.map_some, UInt8.ofNat_toNat]

theorem asU32_text (n : UInt32) : asU32 (.number (Double.text n.toNat)) = some n := by
  have hlt : n.toNat < 2 ^ 32 := n.toNat_lt
  rw [asU32, asUnsigned_text (by omega), Option.filter_some, if_pos (decide_eq_true hlt),
    Option.map_some, UInt32.ofNat_toNat]

theorem asU64_text {n : UInt64} (h : n.toNat < 2 ^ 53) :
    asU64 (.number (Double.text n.toNat)) = some n := by
  have hlt : n.toNat < 2 ^ 64 := n.toNat_lt
  rw [asU64, asUnsigned_text h, Option.filter_some, if_pos (decide_eq_true hlt),
    Option.map_some, UInt64.ofNat_toNat]

@[simp] theorem asProjectType_name (variant : ProjectType) :
    asProjectType (.string (ResourceJson.projectType variant)) = some variant := by
  cases variant <;> rfl

@[simp] theorem asSqlEdition_name (variant : SqlEdition) :
    asSqlEdition (.string (ResourceJson.sqlEdition variant)) = some variant := by
  cases variant <;> rfl

@[simp] theorem asLicenseBasis_name (variant : LicenseBasis) :
    asLicenseBasis (.string (ResourceJson.licenseBasis variant)) = some variant := by
  cases variant <;> rfl

@[simp] theorem asPurchaseOption_name (variant : PurchaseOption) :
    asPurchaseOption (.string (ResourceJson.purchaseOption variant)) = some variant := by
  cases variant <;> rfl

@[simp] theorem asVmPurchaseOption_name (variant : VmPurchaseOption) :
    asVmPurchaseOption (.string variant.asStr) = some variant := by
  cases variant <;> rfl

@[simp] theorem asVolumeType_name (variant : EbsVolumeType) :
    asVolumeType (.string (ResourceJson.volumeType variant)) = some variant := by
  cases variant <;> rfl

@[simp] theorem asDiskRole_name (variant : VmDiskRole) :
    asDiskRole (.string (ResourceJson.diskRole variant)) = some variant := by
  cases variant <;> rfl

@[simp] theorem asBurstPolicy_name (variant : VmBurstPolicy) :
    asBurstPolicy (.string (ResourceJson.burstPolicy variant)) = some variant := by
  cases variant <;> rfl

@[simp] theorem asInstanceStoreUse_name (variant : VmInstanceStoreUse) :
    asInstanceStoreUse (.string (ResourceJson.instanceStoreUse variant)) = some variant := by
  cases variant <;> rfl

@[simp] theorem asHighFrequencyRequirement_name (variant : VmHighFrequencyRequirement) :
    asHighFrequencyRequirement (.string (ResourceJson.highFrequencyRequirement variant)) =
      some variant := by
  cases variant <;> rfl

@[simp] theorem asDeployment_name (variant : RdsDeployment) :
    asDeployment (.string (ResourceJson.deployment variant)) = some variant := by
  cases variant <;> rfl

/-! ### Optional members -/

theorem asNullable_option {α : Type} {read : JsonDocument → Option α} {toJson : α → Json}
    {value : Option α} (hnull : read .null = none)
    (h : ∀ a, value = some a → read (toJson a).stringified = some a) :
    asNullable read (ResourceJson.option toJson value).stringified = some value := by
  cases value with
  | none => rfl
  | some a =>
      have hread := h a rfl
      rw [ResourceJson.option]
      cases hdocument : (toJson a).stringified with
      | null =>
          rw [hdocument, hnull] at hread
          cases hread
      | _ =>
          rw [hdocument] at hread
          simp [asNullable, hread]

@[simp] theorem asNullable_decimal (value : Option Decimal96) :
    asNullable (asDecimal library) (ResourceJson.option ResourceJson.decimal value).stringified =
      some value :=
  asNullable_option rfl fun number _ => asDecimal_decimal number

@[simp] theorem asOptional_string (value : Option String) :
    asOptional (ResourceJson.option Json.string value).stringified = some value := by
  cases value <;> rfl

@[simp] theorem asNullable_bool (value : Option Bool) :
    asNullable asBool (ResourceJson.option Json.bool value).stringified = some value := by
  cases value <;> rfl

/-! ### Records -/

theorem fields_object {names : List String} {needed : Nat} {members : Members}
    (hnodup : (members.map Prod.fst).Nodup) :
    fields names needed (.object members) = some fun name => members.lookup name := by
  rw [fields, if_pos (hnodup.filter _)]

theorem closedFields_object {names : List String} {needed : Nat} {members : Members}
    (hnodup : (members.map Prod.fst).Nodup) (hknown : members.map Prod.fst ⊆ names) :
    closedFields names needed (.object members) = some fun name => members.lookup name := by
  have hall : (members.all fun member => member.1 ∈ names) = true := by
    rw [List.all_eq_true]
    intro member hmember
    exact decide_eq_true (hknown (List.mem_map_of_mem hmember))
  rw [closedFields, if_pos hall, fields_object hnodup]

/-- The IOPS of a volume are a number that a browser keeps. -/
def SafeIops (iops : Option UInt64) : Prop := ∀ n, iops = some n → n.toNat < 2 ^ 53

theorem asNullable_iops {iops : Option UInt64} (h : SafeIops iops) :
    asNullable asU64
      (ResourceJson.option (fun n : UInt64 => Json.number n.toNat) iops).stringified = some iops :=
  asNullable_option rfl fun n hn => asU64_text (h n hn)

section Steps

variable {α β : Type} {read : JsonDocument → Option α} {get : String → Option JsonDocument}
  {name : String} {value : JsonDocument} {a : α} {next : α → Option β} {result : Option β}

theorem required_then (hget : get name = some value) (hread : read value = some a)
    (hnext : next a = result) : (required read get name >>= next) = result := by
  rw [required, hget, Option.bind_some, hread]
  exact hnext

theorem withDefault_then {fallback : α} (hget : get name = some value)
    (hread : read value = some a) (hnext : next a = result) :
    (withDefault read fallback get name >>= next) = result := by
  rw [withDefault, hget]
  dsimp only
  rw [hread]
  exact hnext

theorem some_then {γ : Type} {found : Option γ} {c : γ} {next : γ → Option β}
    (hfound : found = some c) (hnext : next c = result) : (found >>= next) = result := by
  rw [hfound]
  exact hnext

end Steps

/-! ### Resources -/

theorem ebsVolume_stringified (hids : ReadsIds library) {volume : EbsVolume Decimal96}
    (h : SafeIops volume.provisionedIops) :
    ebsVolume library (ResourceJson.ebsVolume volume).stringified = some volume := by
  apply some_then (closedFields_object (by simp [Json.stringifiedFields])
    (by simp [Json.stringifiedFields]))
  apply required_then rfl (hids volume.id)
  apply required_then rfl (asString_string volume.label)
  apply withDefault_then rfl (asOptional_string volume.awsVolumeId)
  apply required_then rfl (asVolumeType_name volume.volumeType)
  apply required_then rfl (asDecimal_decimal volume.capacityGb)
  apply withDefault_then rfl (asNullable_iops h)
  apply withDefault_then rfl (asNullable_decimal volume.throughputMibps)
  rfl

theorem vmVolume_stringified (hids : ReadsIds library) {volume : VmVolume Decimal96}
    (h : SafeIops volume.provisionedIops) :
    vmVolume library (ResourceJson.vmVolume volume).stringified = some volume := by
  apply some_then (fields_object (by simp [Json.stringifiedFields]))
  apply required_then rfl (hids volume.id)
  apply required_then rfl (asString_string volume.label)
  apply withDefault_then rfl (asOptional_string volume.awsVolumeId)
  apply required_then rfl (asVolumeType_name volume.volumeType)
  apply required_then rfl (asDiskRole_name volume.role)
  apply required_then rfl (asDecimal_decimal volume.capacityGb)
  apply withDefault_then rfl (asNullable_iops h)
  apply withDefault_then rfl (asNullable_decimal volume.throughputMibps)
  rfl

theorem requirements_stringified (needs : Ec2VmRequirements Decimal96) :
    requirements library (ResourceJson.requirements needs).stringified = some needs := by
  apply some_then (fields_object (by simp [Json.stringifiedFields]))
  apply withDefault_then rfl (asBurstPolicy_name needs.burstPolicy)
  apply withDefault_then rfl (asInstanceStoreUse_name needs.instanceStoreUse)
  apply withDefault_then rfl (asNullable_decimal needs.requiredLocalTempDiskGb)
  apply withDefault_then rfl (asNullable_bool needs.ephemeralDataLossAcceptable)
  apply withDefault_then rfl (asHighFrequencyRequirement_name needs.highFrequencyRequirement)
  apply withDefault_then rfl (asOptional_string needs.requestedTargetArmSku)
  rfl

/-- Every one of some fields is found with its value. -/
def Holds (get : String → Option JsonDocument) (fields : List (String × Json)) : Prop :=
  ∀ field ∈ fields, get field.1 = some field.2.stringified

theorem Holds.append {get : String → Option JsonDocument} {front back : List (String × Json)} :
    Holds get (front ++ back) ↔ Holds get front ∧ Holds get back := List.forall_mem_append

theorem Holds.cons {get : String → Option JsonDocument} {field : String × Json}
    {fields : List (String × Json)} :
    Holds get (field :: fields) ↔ get field.1 = some field.2.stringified ∧ Holds get fields :=
  List.forall_mem_cons

section Flattened

variable {get : String → Option JsonDocument}

theorem sharedResource_of_holds (hids : ReadsIds library) {shared : SharedResource Decimal96}
    (h : Holds get (ResourceJson.sharedFields shared)) :
    sharedResource library get = some shared := by
  simp only [ResourceJson.sharedFields, Holds.cons] at h
  obtain ⟨hid, hname, hserver, hquantity, hram, hhours, -⟩ := h
  apply required_then hid (hids shared.id)
  apply required_then hname (asString_string shared.workloadName)
  apply withDefault_then hserver (asOptional_string shared.serverName)
  apply required_then hquantity (asU32_text shared.quantity)
  apply required_then hram (asDecimal_decimal shared.sourceRamGbPerInstance)
  apply required_then hhours (asDecimal_decimal shared.annualHoursPerInstance)
  rfl

theorem sqlWorkload_of_holds {sql : SqlWorkload Decimal96}
    (h : Holds get (ResourceJson.sqlFields sql)) : sqlWorkload library get = some sql := by
  simp only [ResourceJson.sqlFields, Holds.cons] at h
  obtain ⟨hedition, hbasis, hdata, hpurchase, -⟩ := h
  apply required_then hedition (asSqlEdition_name sql.sqlEdition)
  apply required_then hbasis (asLicenseBasis_name sql.licenseBasis)
  apply required_then hdata (asDecimal_decimal sql.sqlDataGbPerInstance)
  apply required_then hpurchase (asPurchaseOption_name sql.miPurchaseOption)
  rfl

theorem each_stringified {α : Type} {read : JsonDocument → Option α} {toJson : α → Json}
    {items : List α} (h : ∀ a ∈ items, read (toJson a).stringified = some a) :
    each read (Json.array (items.map toJson)).stringified = some items := by
  rw [Json.stringified, Json.stringifiedItems_eq_map, each, List.map_map]
  induction items with
  | nil => rfl
  | cons a rest ih =>
      rw [List.forall_mem_cons] at h
      rw [List.map_cons, List.mapM_cons, Function.comp_apply, h.1, ih h.2]
      rfl

/-- The numbers of a resource are numbers that a browser keeps. -/
def SafeNumbers : Resource Decimal96 → Prop
  | .ec2 resource => ∀ volume ∈ resource.volumes, SafeIops volume.provisionedIops
  | .ec2Vm resource => ∀ volume ∈ resource.volumes, SafeIops volume.provisionedIops
  | .rds resource => resource.sourceMaxIops.toNat < 2 ^ 53
  | .onPrem resource => resource.sourceMaxIops.toNat < 2 ^ 53

theorem ec2Resource_of_holds (hids : ReadsIds library) {resource : Ec2Resource Decimal96}
    (hsafe : SafeNumbers (.ec2 resource))
    (hshared : Holds get (ResourceJson.sharedFields resource.shared))
    (hown : Holds get (ResourceJson.ownFields (.ec2 resource))) :
    ec2Resource library get = some resource := by
  simp only [ResourceJson.ownFields, Holds.append, Holds.cons] at hown
  obtain ⟨hsql, htype, hvolumes, -⟩ := hown
  apply some_then (sharedResource_of_holds hids hshared)
  apply some_then (sqlWorkload_of_holds hsql)
  apply required_then htype (asString_string resource.instanceType)
  apply required_then hvolumes
    (each_stringified fun volume hvolume => ebsVolume_stringified hids (hsafe volume hvolume))
  rfl

theorem ec2VmResource_of_holds (hids : ReadsIds library) {resource : Ec2VmResource Decimal96}
    (hsafe : SafeNumbers (.ec2Vm resource))
    (hshared : Holds get (ResourceJson.sharedFields resource.shared))
    (hown : Holds get (ResourceJson.ownFields (.ec2Vm resource))) :
    ec2VmResource library get = some resource := by
  simp only [ResourceJson.ownFields, Holds.cons] at hown
  obtain ⟨htype, hpurchase, hrequirements, hvolumes, -⟩ := hown
  apply some_then (sharedResource_of_holds hids hshared)
  apply required_then htype (asString_string resource.instanceType)
  apply withDefault_then hpurchase (asVmPurchaseOption_name resource.vmPurchaseOption)
  apply withDefault_then hrequirements (requirements_stringified resource.requirements)
  apply required_then hvolumes
    (each_stringified fun volume hvolume => vmVolume_stringified hids (hsafe volume hvolume))
  rfl

theorem rdsResource_of_holds (hids : ReadsIds library) {resource : RdsResource Decimal96}
    (hsafe : SafeNumbers (.rds resource))
    (hshared : Holds get (ResourceJson.sharedFields resource.shared))
    (hown : Holds get (ResourceJson.ownFields (.rds resource))) :
    rdsResource library get = some resource := by
  simp only [ResourceJson.ownFields, Holds.append, Holds.cons] at hown
  obtain ⟨hsql, htype, hdeployment, hterm, hclass, hiops, -⟩ := hown
  apply some_then (sharedResource_of_holds hids hshared)
  apply some_then (sqlWorkload_of_holds hsql)
  apply required_then htype (asString_string resource.instanceType)
  apply required_then hdeployment (asDeployment_name resource.deployment)
  apply required_then hterm (asString_string resource.commercialTerm)
  apply required_then hclass (asString_string resource.storageClass)
  apply required_then hiops (asU64_text hsafe)
  rfl

theorem onPremResource_of_holds (hids : ReadsIds library) {resource : OnPremResource Decimal96}
    (hsafe : SafeNumbers (.onPrem resource))
    (hshared : Holds get (ResourceJson.sharedFields resource.shared))
    (hown : Holds get (ResourceJson.ownFields (.onPrem resource))) :
    onPremResource library get = some resource := by
  simp only [ResourceJson.ownFields, Holds.append, Holds.cons] at hown
  obtain ⟨hsql, hvcpu, hcores, hiops, hcapex, hyears, hpower, -⟩ := hown
  apply some_then (sharedResource_of_holds hids hshared)
  apply some_then (sqlWorkload_of_holds hsql)
  apply required_then hvcpu (asU32_text resource.sourceVcpu)
  apply required_then hcores (asU32_text resource.licensableCores)
  apply required_then hiops (asU64_text hsafe)
  apply required_then hcapex (asDecimal_decimal resource.hardwareCapexUsd)
  apply required_then hyears (asDecimal_decimal resource.depreciationYears)
  apply withDefault_then hpower (asNullable_decimal resource.averagePowerKwOverride)
  rfl

end Flattened

/-! ### The members in any order -/

theorem holds_of_perm {members : Members} {fields : List (String × Json)}
    (hperm : members.Perm (Json.stringifiedFields fields))
    (hnodup : (members.map Prod.fst).Nodup) : Holds (fun name => members.lookup name) fields := by
  intro field hfield
  have hmem : (field.1, field.2.stringified) ∈ Json.stringifiedFields fields := by
    rw [Json.stringifiedFields_eq_map]
    exact List.mem_map_of_mem hfield
  exact (lookup_eq_some_of_nodup hnodup).mpr (hperm.mem_iff.mpr hmem)

/-- The names of the members of a resource. -/
def resourceNames (resource : Resource Decimal96) : List String :=
  (("source_type" :: sharedNames) ++ (ResourceJson.ownFields resource).map Prod.fst)

/-- A resource as its members. -/
def resourceFields (resource : Resource Decimal96) : List (String × Json) :=
  ("source_type", .string (ResourceJson.projectType resource.projectType)) ::
    ResourceJson.sharedFields resource.shared ++ ResourceJson.ownFields resource

theorem names_resourceFields (resource : Resource Decimal96) :
    (resourceFields resource).map Prod.fst = resourceNames resource := by
  rw [resourceFields, List.map_append]
  rfl

theorem nodup_resourceNames (resource : Resource Decimal96) : (resourceNames resource).Nodup := by
  cases resource <;> simp [resourceNames, sharedNames, ResourceJson.ownFields, ResourceJson.sqlFields]

theorem flattened_eq_some {α : Type} {names : List String}
    {read : (String → Option JsonDocument) → Option α} {members : Members} {a : α}
    (hknown : ∀ name ∈ members.map Prod.fst, name = "source_type" ∨ name ∈ names)
    (hread : read (fun name => members.lookup name) = some a) :
    flattened names read members = some a := by
  have hall : (members.all fun member => member.1 = "source_type" ∨ member.1 ∈ names) := by
    rw [List.all_eq_true]
    exact fun member hmember => decide_eq_true (hknown _ (List.mem_map_of_mem hmember))
  rw [flattened, if_pos hall, hread]

theorem resource_of_perm (hids : ReadsIds library) {found : Resource Decimal96}
    (hsafe : SafeNumbers found) {members : Members}
    (hperm : members.Perm (Json.stringifiedFields (resourceFields found))) :
    resource library (.object members) = some found := by
  have hnames : (members.map Prod.fst).Perm (resourceNames found) := by
    have hmap := hperm.map Prod.fst
    rw [Json.stringifiedFields_eq_map, List.map_map] at hmap
    rw [← names_resourceFields]
    exact hmap
  have hnodup : (members.map Prod.fst).Nodup :=
    hnames.nodup_iff.mpr (nodup_resourceNames found)
  have hholds := holds_of_perm hperm hnodup
  rw [resourceFields, Holds.append, Holds.cons] at hholds
  obtain ⟨⟨htype, hshared⟩, hown⟩ := hholds
  have hknown : ∀ name ∈ members.map Prod.fst, name ∈ resourceNames found :=
    fun name hname => hnames.mem_iff.mp hname
  apply some_then (show asMembers (.object members) = some members from rfl)
  rw [guard, if_pos hnodup]
  apply some_then rfl
  apply required_then htype (asString_string _)
  cases found with
  | ec2 found =>
      exact congrArg (Option.map Resource.ec2)
        (flattened_eq_some (fun name hname => List.mem_cons.mp (hknown name hname))
          (ec2Resource_of_holds hids hsafe hshared hown))
  | ec2Vm found =>
      exact congrArg (Option.map Resource.ec2Vm)
        (flattened_eq_some (fun name hname => List.mem_cons.mp (hknown name hname))
          (ec2VmResource_of_holds hids hsafe hshared hown))
  | rds found =>
      exact congrArg (Option.map Resource.rds)
        (flattened_eq_some (fun name hname => List.mem_cons.mp (hknown name hname))
          (rdsResource_of_holds hids hsafe hshared hown))
  | onPrem found =>
      exact congrArg (Option.map Resource.onPrem)
        (flattened_eq_some (fun name hname => List.mem_cons.mp (hknown name hname))
          (onPremResource_of_holds hids hsafe hshared hown))

/-! ### Projects -/

theorem sqlPaygSettings_stringified (sqlPayg : SqlPaygSettings Decimal96) :
    sqlPaygSettings library (ProjectJson.sqlPayg sqlPayg).stringified = some sqlPayg := by
  apply some_then (closedFields_object (by simp [Json.stringifiedFields])
    (by simp [Json.stringifiedFields]))
  apply required_then rfl (asU32_text sqlPayg.enterpriseLicensedCores)
  apply required_then rfl (asU32_text sqlPayg.standardLicensedCores)
  apply required_then rfl (asDecimal_decimal sqlPayg.softwareAssuranceAnnualUsd)
  rfl

theorem asNullable_months (months : Option UInt8) :
    asNullable asU8
      (ResourceJson.option (fun n : UInt8 => Json.number n.toNat) months).stringified =
      some months :=
  asNullable_option rfl fun n _ => asU8_text n

theorem asNullable_sqlPayg (sqlPayg : Option (SqlPaygSettings Decimal96)) :
    asNullable (sqlPaygSettings library)
      (ResourceJson.option ProjectJson.sqlPayg sqlPayg).stringified = some sqlPayg :=
  asNullable_option rfl fun settings _ => sqlPaygSettings_stringified settings

theorem projectSettings_stringified (settings : ProjectSettings Decimal96) :
    projectSettings library (ProjectJson.settings settings).stringified = some settings := by
  apply some_then (closedFields_object (by simp [Json.stringifiedFields])
    (by simp [Json.stringifiedFields, settingsNames]))
  apply required_then rfl (asProjectType_name settings.projectType)
  apply withDefault_then rfl (asOptional_string settings.awsRegion)
  apply required_then rfl (asString_string settings.azureRegion)
  apply required_then rfl (asString_string settings.currency)
  apply required_then rfl (asDecimal_decimal settings.sourceComputeDiscount)
  apply required_then rfl (asDecimal_decimal settings.sourceLicenseDiscount)
  apply required_then rfl (asDecimal_decimal settings.sourceStorageDiscount)
  apply required_then rfl (asDecimal_decimal settings.azureComputeDiscount)
  apply required_then rfl (asDecimal_decimal settings.azureLicenseDiscount)
  apply required_then rfl (asDecimal_decimal settings.azureStorageDiscount)
  apply required_then rfl (asDecimal_decimal settings.selectedParityAdjustment)
  apply required_then rfl (asDecimal_decimal settings.defaultAnnualHours)
  apply required_then rfl (asPurchaseOption_name settings.defaultMiPurchaseOption)
  apply withDefault_then rfl (asNullable_decimal settings.enterpriseLicenseSaUsdPerTwoCorePack)
  apply withDefault_then rfl (asNullable_decimal settings.standardLicenseSaUsdPerTwoCorePack)
  apply withDefault_then rfl (asNullable_months settings.remainingCoverageMonths)
  apply withDefault_then rfl (asNullable_decimal settings.electricityRateUsdPerKwh)
  apply withDefault_then rfl (asNullable_sqlPayg settings.sqlPayg)
  rfl

/-- The resources of a document, the members of each in some order. -/
def ReorderedResources (resources : List (Resource Decimal96)) (items : List Json) : Prop :=
  List.Forall₂ (fun found item => ∃ fields, item = Json.object fields ∧
    fields.Perm (resourceFields found)) resources items

theorem each_resource (hids : ReadsIds library) {resources : List (Resource Decimal96)}
    {items : List Json} (hsafe : ∀ found ∈ resources, SafeNumbers found)
    (hitems : ReorderedResources resources items) :
    each (resource library) (Json.array items).stringified = some resources := by
  rw [Json.stringified, Json.stringifiedItems_eq_map, each]
  induction hitems with
  | nil => rfl
  | @cons found item resources items hitem hrest ih =>
      obtain ⟨fields, rfl, hperm⟩ := hitem
      rw [List.forall_mem_cons] at hsafe
      have hmembers : (Json.stringifiedFields fields).Perm
          (Json.stringifiedFields (resourceFields found)) := by
        rw [Json.stringifiedFields_eq_map, Json.stringifiedFields_eq_map]
        exact hperm.map _
      rw [List.map_cons, List.mapM_cons, Json.stringified,
        resource_of_perm hids hsafe.1 hmembers, ih hsafe.2]
      rfl

/-- A project reads back from its JSON with the members of its resources in any
order. -/
theorem editableProject_stringified (hids : ReadsIds library)
    {project : EditableProject Decimal96} {items : List Json}
    (hsafe : ∀ found ∈ project.resources, SafeNumbers found)
    (hitems : ReorderedResources project.resources items) :
    editableProject library (Json.object [
      ("name", .string project.name),
      ("description", ResourceJson.option .string project.description),
      ("settings", ProjectJson.settings project.settings),
      ("resources", .array items),
      ("aws_price_snapshot_id", ResourceJson.option .string project.awsPriceSnapshotId),
      ("azure_price_snapshot_id",
        ResourceJson.option .string project.azurePriceSnapshotId)]).stringified =
      some project := by
  apply some_then (closedFields_object (by simp [Json.stringifiedFields])
    (by simp [Json.stringifiedFields]))
  apply required_then rfl (asString_string project.name)
  apply withDefault_then rfl (asOptional_string project.description)
  apply required_then rfl (projectSettings_stringified project.settings)
  apply required_then rfl (each_resource hids hsafe hitems)
  apply withDefault_then rfl (asOptional_string project.awsPriceSnapshotId)
  apply withDefault_then rfl (asOptional_string project.azurePriceSnapshotId)
  rfl

end TcoCalculator.ProjectReading
