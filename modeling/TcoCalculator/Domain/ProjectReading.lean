/-
Editable projects read from a JSON document
(the derived Deserialize of src/rust/src/domain/project.rs and resource.rs).
-/
import TcoCalculator.Domain.Project
import TcoCalculator.Library.JsonDocument

namespace TcoCalculator

/-- What the libraries read from a text. -/
structure ScalarLibrary (D : Type) where
  uuidParseStr : String → Option Uuid
  fromScientific : String → Option D

namespace ProjectReading

open JsonDocument

/-! ### Scalars -/

def asNullable {α : Type} (read : JsonDocument → Option α) : JsonDocument → Option (Option α)
  | .null => some none
  | document => (read document).map some

def asBool : JsonDocument → Option Bool
  | .bool b => some b
  | _ => none

/-- A number without a sign, a point or an exponent. -/
def asUnsigned : JsonDocument → Option Nat
  | .number text =>
      if text ≠ "" ∧ text.toList.all Char.isDigit then some (Nat.ofDigitChars 10 text.toList 0)
      else none
  | _ => none

def asU8 (document : JsonDocument) : Option UInt8 :=
  ((asUnsigned document).filter (· < 2 ^ 8)).map UInt8.ofNat

def asU32 (document : JsonDocument) : Option UInt32 :=
  ((asUnsigned document).filter (· < 2 ^ 32)).map UInt32.ofNat

def asU64 (document : JsonDocument) : Option UInt64 :=
  ((asUnsigned document).filter (· < 2 ^ 64)).map UInt64.ofNat

/-- A variant by its name. -/
def asVariant {α : Type} (variants : List α) (name : α → String) : JsonDocument → Option α
  | .string s | .object [(s, .null)] => variants.find? fun variant => name variant = s
  | _ => none

def asProjectType : JsonDocument → Option ProjectType :=
  asVariant [.ec2, .ec2Vm, .rds, .onPrem, .sqlPayg] ResourceJson.projectType

def asSqlEdition : JsonDocument → Option SqlEdition :=
  asVariant [.standard, .enterprise] ResourceJson.sqlEdition

def asLicenseBasis : JsonDocument → Option LicenseBasis :=
  asVariant [.licenseIncluded, .byol] ResourceJson.licenseBasis

def asPurchaseOption : JsonDocument → Option PurchaseOption :=
  asVariant PurchaseOption.all ResourceJson.purchaseOption

def asVmPurchaseOption : JsonDocument → Option VmPurchaseOption :=
  asVariant VmPurchaseOption.all VmPurchaseOption.asStr

def asVolumeType : JsonDocument → Option EbsVolumeType :=
  asVariant [.gp3, .io2, .ephemeral] ResourceJson.volumeType

def asDiskRole : JsonDocument → Option VmDiskRole :=
  asVariant [.os, .data, .unknown] ResourceJson.diskRole

def asBurstPolicy : JsonDocument → Option VmBurstPolicy :=
  asVariant [.confirmedBurstCompatible, .requiresSustainedCpu, .unknown, .notApplicable]
    ResourceJson.burstPolicy

def asInstanceStoreUse : JsonDocument → Option VmInstanceStoreUse :=
  asVariant [.unknown, .notUsed, .used] ResourceJson.instanceStoreUse

def asHighFrequencyRequirement : JsonDocument → Option VmHighFrequencyRequirement :=
  asVariant [.required, .unknown, .capacityFitAccepted, .notApplicable]
    ResourceJson.highFrequencyRequirement

def asDeployment : JsonDocument → Option RdsDeployment :=
  asVariant [.singleAz, .multiAz] ResourceJson.deployment

/-- The fields of a derived structure that denies unknown ones. -/
def closedFields (names : List String) (needed : Nat) (document : JsonDocument) :
    Option (String → Option JsonDocument) :=
  match document with
  | .object members =>
      if members.all fun member => member.1 ∈ names then fields names needed document else none
  | _ => fields names needed document

variable {D : Type} [DecimalArith D] (library : ScalarLibrary D)

def asUuid : JsonDocument → Option Uuid
  | .string s => library.uuidParseStr s
  | _ => none

def asDecimal : JsonDocument → Option D
  | .string s => (DecimalArith.parse s).or (library.fromScientific s)
  | _ => none

/-! ### Resources -/

def ebsVolume (document : JsonDocument) : Option (EbsVolume D) := do
  let get ← closedFields ["id", "label", "aws_volume_id", "volume_type", "capacity_gb",
    "provisioned_iops", "throughput_mibps"] 7 document
  return {
    id := ← required (asUuid library) get "id"
    label := ← required asString get "label"
    awsVolumeId := ← optional get "aws_volume_id"
    volumeType := ← required asVolumeType get "volume_type"
    capacityGb := ← required (asDecimal library) get "capacity_gb"
    provisionedIops := ← withDefault (asNullable asU64) none get "provisioned_iops"
    throughputMibps := ← withDefault (asNullable (asDecimal library)) none get
      "throughput_mibps" }

def vmVolume (document : JsonDocument) : Option (VmVolume D) := do
  let get ← fields ["id", "label", "aws_volume_id", "volume_type", "role", "capacity_gb",
    "provisioned_iops", "throughput_mibps"] 8 document
  return {
    id := ← required (asUuid library) get "id"
    label := ← required asString get "label"
    awsVolumeId := ← optional get "aws_volume_id"
    volumeType := ← required asVolumeType get "volume_type"
    role := ← required asDiskRole get "role"
    capacityGb := ← required (asDecimal library) get "capacity_gb"
    provisionedIops := ← withDefault (asNullable asU64) none get "provisioned_iops"
    throughputMibps := ← withDefault (asNullable (asDecimal library)) none get
      "throughput_mibps" }

/-- The requirements of a document that has none. -/
def defaultRequirements : Ec2VmRequirements D where
  burstPolicy := .notApplicable
  instanceStoreUse := .notUsed
  requiredLocalTempDiskGb := none
  ephemeralDataLossAcceptable := none
  highFrequencyRequirement := .notApplicable
  requestedTargetArmSku := none

def requirements (document : JsonDocument) : Option (Ec2VmRequirements D) := do
  let get ← fields ["burst_policy", "instance_store_use", "required_local_temp_disk_gb",
    "ephemeral_data_loss_acceptable", "high_frequency_requirement",
    "requested_target_arm_sku"] 0 document
  return {
    burstPolicy := ← withDefault asBurstPolicy .notApplicable get "burst_policy"
    instanceStoreUse := ← withDefault asInstanceStoreUse .notUsed get "instance_store_use"
    requiredLocalTempDiskGb := ← withDefault (asNullable (asDecimal library)) none get
      "required_local_temp_disk_gb"
    ephemeralDataLossAcceptable := ← withDefault (asNullable asBool) none get
      "ephemeral_data_loss_acceptable"
    highFrequencyRequirement := ← withDefault asHighFrequencyRequirement .notApplicable get
      "high_frequency_requirement"
    requestedTargetArmSku := ← optional get "requested_target_arm_sku" }

def sharedResource (get : String → Option JsonDocument) : Option (SharedResource D) := do
  return {
    id := ← required (asUuid library) get "id"
    workloadName := ← required asString get "workload_name"
    serverName := ← optional get "server_name"
    quantity := ← required asU32 get "quantity"
    sourceRamGbPerInstance := ← required (asDecimal library) get "source_ram_gb_per_instance"
    annualHoursPerInstance := ← required (asDecimal library) get "annual_hours_per_instance" }

def sqlWorkload (get : String → Option JsonDocument) : Option (SqlWorkload D) := do
  return {
    sqlEdition := ← required asSqlEdition get "sql_edition"
    licenseBasis := ← required asLicenseBasis get "license_basis"
    sqlDataGbPerInstance := ← required (asDecimal library) get "sql_data_gb_per_instance"
    miPurchaseOption := ← required asPurchaseOption get "mi_purchase_option" }

def each {α : Type} (read : JsonDocument → Option α) : JsonDocument → Option (List α)
  | .array items => items.mapM read
  | _ => none

def ec2Resource (get : String → Option JsonDocument) : Option (Ec2Resource D) := do
  return {
    shared := ← sharedResource library get
    sql := ← sqlWorkload library get
    instanceType := ← required asString get "instance_type"
    volumes := ← required (each (ebsVolume library)) get "volumes" }

def ec2VmResource (get : String → Option JsonDocument) : Option (Ec2VmResource D) := do
  return {
    shared := ← sharedResource library get
    instanceType := ← required asString get "instance_type"
    vmPurchaseOption := ← withDefault asVmPurchaseOption .payg get "vm_purchase_option"
    requirements := ← withDefault (requirements library) defaultRequirements get "requirements"
    volumes := ← required (each (vmVolume library)) get "volumes" }

def rdsResource (get : String → Option JsonDocument) : Option (RdsResource D) := do
  return {
    shared := ← sharedResource library get
    sql := ← sqlWorkload library get
    instanceType := ← required asString get "instance_type"
    deployment := ← required asDeployment get "deployment"
    commercialTerm := ← required asString get "commercial_term"
    storageClass := ← required asString get "storage_class"
    sourceMaxIops := ← required asU64 get "source_max_iops" }

def onPremResource (get : String → Option JsonDocument) : Option (OnPremResource D) := do
  return {
    shared := ← sharedResource library get
    sql := ← sqlWorkload library get
    sourceVcpu := ← required asU32 get "source_vcpu"
    licensableCores := ← required asU32 get "licensable_cores"
    sourceMaxIops := ← required asU64 get "source_max_iops"
    hardwareCapexUsd := ← required (asDecimal library) get "hardware_capex_usd"
    depreciationYears := ← required (asDecimal library) get "depreciation_years"
    averagePowerKwOverride := ← withDefault (asNullable (asDecimal library)) none get
      "average_power_kw_override" }

def sharedNames : List String := ["id", "workload_name", "server_name", "quantity",
  "source_ram_gb_per_instance", "annual_hours_per_instance"]

def sqlNames : List String :=
  ["sql_edition", "license_basis", "sql_data_gb_per_instance", "mi_purchase_option"]

/-- The fields behind the tag: the structures flattened into one, whose own fields are
the given ones, deny every other. -/
def flattened {α : Type} (names : List String) (read : (String → Option JsonDocument) → Option α)
    (members : Members) : Option α :=
  if members.all fun member => member.1 = "source_type" ∨ member.1 ∈ names then
    read fun name => members.lookup name
  else none

def resource (document : JsonDocument) : Option (Resource D) := do
  let members ← document.asMembers
  guard ((members.map Prod.fst).Nodup)
  match ← required asString (fun name => members.lookup name) "source_type" with
  | "ec2" => (flattened (sharedNames ++ sqlNames ++ ["instance_type", "volumes"])
      (ec2Resource library) members).map .ec2
  | "ec2_vm" => (flattened (sharedNames ++
      ["instance_type", "vm_purchase_option", "requirements", "volumes"])
      (ec2VmResource library) members).map .ec2Vm
  | "rds" => (flattened (sharedNames ++ sqlNames ++
      ["instance_type", "deployment", "commercial_term", "storage_class", "source_max_iops"])
      (rdsResource library) members).map .rds
  | "on_prem" => (flattened (sharedNames ++ sqlNames ++
      ["source_vcpu", "licensable_cores", "source_max_iops", "hardware_capex_usd",
        "depreciation_years", "average_power_kw_override"])
      (onPremResource library) members).map .onPrem
  | _ => none

/-! ### Projects -/

def sqlPaygSettings (document : JsonDocument) : Option (SqlPaygSettings D) := do
  let get ← closedFields ["enterprise_licensed_cores", "standard_licensed_cores",
    "software_assurance_annual_usd"] 3 document
  return {
    enterpriseLicensedCores := ← required asU32 get "enterprise_licensed_cores"
    standardLicensedCores := ← required asU32 get "standard_licensed_cores"
    softwareAssuranceAnnualUsd := ← required (asDecimal library) get
      "software_assurance_annual_usd" }

def settingsNames : List String := ["project_type", "aws_region", "azure_region", "currency",
  "source_compute_discount", "source_license_discount", "source_storage_discount",
  "azure_compute_discount", "azure_license_discount", "azure_storage_discount",
  "selected_parity_adjustment", "default_annual_hours", "default_mi_purchase_option",
  "enterprise_license_sa_usd_per_two_core_pack", "standard_license_sa_usd_per_two_core_pack",
  "remaining_coverage_months", "electricity_rate_usd_per_kwh", "sql_payg"]

def projectSettings (document : JsonDocument) : Option (ProjectSettings D) := do
  let get ← closedFields settingsNames 17 document
  let decimal := fun name => required (asDecimal library) get name
  let optionalDecimal := fun name => withDefault (asNullable (asDecimal library)) none get name
  return {
    projectType := ← required asProjectType get "project_type"
    awsRegion := ← optional get "aws_region"
    azureRegion := ← required asString get "azure_region"
    currency := ← required asString get "currency"
    sourceComputeDiscount := ← decimal "source_compute_discount"
    sourceLicenseDiscount := ← decimal "source_license_discount"
    sourceStorageDiscount := ← decimal "source_storage_discount"
    azureComputeDiscount := ← decimal "azure_compute_discount"
    azureLicenseDiscount := ← decimal "azure_license_discount"
    azureStorageDiscount := ← decimal "azure_storage_discount"
    selectedParityAdjustment := ← decimal "selected_parity_adjustment"
    defaultAnnualHours := ← decimal "default_annual_hours"
    defaultMiPurchaseOption := ← required asPurchaseOption get "default_mi_purchase_option"
    enterpriseLicenseSaUsdPerTwoCorePack := ←
      optionalDecimal "enterprise_license_sa_usd_per_two_core_pack"
    standardLicenseSaUsdPerTwoCorePack := ←
      optionalDecimal "standard_license_sa_usd_per_two_core_pack"
    remainingCoverageMonths := ← withDefault (asNullable asU8) none get
      "remaining_coverage_months"
    electricityRateUsdPerKwh := ← optionalDecimal "electricity_rate_usd_per_kwh"
    sqlPayg := ← withDefault (asNullable (sqlPaygSettings library)) none get "sql_payg" }

def editableProject (document : JsonDocument) : Option (EditableProject D) := do
  let get ← closedFields ["name", "description", "settings", "resources",
    "aws_price_snapshot_id", "azure_price_snapshot_id"] 6 document
  return {
    name := ← required asString get "name"
    description := ← optional get "description"
    settings := ← required (projectSettings library) get "settings"
    resources := ← required (each (resource library)) get "resources"
    awsPriceSnapshotId := ← optional get "aws_price_snapshot_id"
    azurePriceSnapshotId := ← optional get "azure_price_snapshot_id" }

end ProjectReading

end TcoCalculator
