/-
Editable projects and their validation (src/rust/src/domain/project.rs).
-/
import TcoCalculator.Domain.Resource
import TcoCalculator.Pricing.Provider

namespace TcoCalculator

open DecimalArith

def maxProjectResources : Nat := 100

structure SqlPaygSettings (D : Type) where
  enterpriseLicensedCores : UInt32
  standardLicensedCores : UInt32
  softwareAssuranceAnnualUsd : D
  deriving DecidableEq

structure ProjectSettings (D : Type) where
  projectType : ProjectType
  awsRegion : Option String
  azureRegion : String
  currency : String
  sourceComputeDiscount : D
  sourceLicenseDiscount : D
  sourceStorageDiscount : D
  azureComputeDiscount : D
  azureLicenseDiscount : D
  azureStorageDiscount : D
  selectedParityAdjustment : D
  defaultAnnualHours : D
  defaultMiPurchaseOption : PurchaseOption
  enterpriseLicenseSaUsdPerTwoCorePack : Option D
  standardLicenseSaUsdPerTwoCorePack : Option D
  remainingCoverageMonths : Option UInt8
  electricityRateUsdPerKwh : Option D
  sqlPayg : Option (SqlPaygSettings D)
  deriving DecidableEq

structure EditableProject (D : Type) where
  name : String
  description : Option String
  settings : ProjectSettings D
  resources : List (Resource D)
  awsPriceSnapshotId : Option String
  azurePriceSnapshotId : Option String
  deriving DecidableEq

structure ValidationIssue where
  pointer : String
  code : String
  message : String
  deriving DecidableEq, Repr

/-- Characters of the Unicode white space class. -/
def isWhiteSpace (c : Char) : Bool :=
  let n := c.toNat
  (9 ≤ n && n ≤ 13) || n == 0x20 || n == 0x85 || n == 0xA0 || n == 0x1680 ||
    (0x2000 ≤ n && n ≤ 0x200A) || n == 0x2028 || n == 0x2029 || n == 0x202F || n == 0x205F ||
    n == 0x3000

/-- Nothing is left of the text once it is trimmed. -/
def isBlank (text : String) : Bool := text.toList.all isWhiteSpace

namespace ProjectValidation

variable {D : Type} [DecimalArith D]

def isSnapshotId (text lead : String) : Bool := (stripPrefix lead text).any validHash

/-- An issue to report when a check fails. -/
def issueWhen (failed : Bool) (pointer code message : String) : List ValidationIssue :=
  if failed then [⟨pointer, code, message⟩] else []

def validateDecimalRange (pointer : String) (number minimum maximum : D)
    (minimumExclusive : Bool) (message : String) : List ValidationIssue :=
  let belowMinimum :=
    if minimumExclusive then value number ≤ value minimum else value number < value minimum
  issueWhen (belowMinimum || value maximum < value number) pointer "range" message

def isNegative (number : D) : Bool := value number < 0

def isNotPositive (number : D) : Bool := value number ≤ 0

/-! ### Settings -/

def discountIssues (pointer : String) (discount : D) : List ValidationIssue :=
  issueWhen (!isPercent discount) pointer "range"
    "Discounts and adjustments must be between 0 and 1."

def awsRegionIssues (settings : ProjectSettings D) : List ValidationIssue :=
  match settings.projectType with
  | .ec2 | .ec2Vm | .rds =>
      issueWhen (settings.awsRegion.all (· == "")) "/settings/aws_region" "required"
        "AWS region is required for AWS projects."
  | .onPrem | .sqlPayg =>
      issueWhen settings.awsRegion.isSome "/settings/aws_region" "not_allowed"
        "AWS region must be absent for on-premises and SQL Pay As You Go projects."

def licensePackIssues (pointer : String) (price : Option D) : List ValidationIssue :=
  issueWhen (price.all isNotPositive) pointer "required"
    "On-premises License + SA pack prices must be greater than 0."

def isCoverageMonths (months : UInt8) : Bool := months == 12 || months == 24 || months == 36

def onPremSettingsIssues (settings : ProjectSettings D) : List ValidationIssue :=
  issueWhen (value settings.sourceComputeDiscount ≠ 0 || value settings.sourceStorageDiscount ≠ 0)
      "/settings" "on_prem_discount_not_allowed"
      "On-premises compute and storage discounts must be zero." ++
    licensePackIssues "/settings/enterprise_license_sa_usd_per_two_core_pack"
      settings.enterpriseLicenseSaUsdPerTwoCorePack ++
    licensePackIssues "/settings/standard_license_sa_usd_per_two_core_pack"
      settings.standardLicenseSaUsdPerTwoCorePack ++
    issueWhen (!settings.remainingCoverageMonths.any isCoverageMonths)
      "/settings/remaining_coverage_months" "required"
      "Remaining coverage must be 12, 24, or 36 months." ++
    issueWhen (settings.electricityRateUsdPerKwh.all isNegative)
      "/settings/electricity_rate_usd_per_kwh" "required"
      "On-premises electricity rate must be zero or greater."

def sqlPaygIssues : Option (SqlPaygSettings D) → List ValidationIssue
  | some sqlPayg =>
      issueWhen (100000 < sqlPayg.enterpriseLicensedCores || 100000 < sqlPayg.standardLicensedCores)
          "/settings/sql_payg" "range"
          "Enterprise and Standard licensed cores must not exceed 100,000." ++
        issueWhen (sqlPayg.enterpriseLicensedCores == 0 && sqlPayg.standardLicensedCores == 0)
          "/settings/sql_payg" "required"
          "Enter at least one Enterprise or Standard licensed core." ++
        issueWhen (isNegative sqlPayg.softwareAssuranceAnnualUsd)
          "/settings/sql_payg/software_assurance_annual_usd" "range"
          "Annual Software Assurance spend must not be negative."
  | none => [⟨"/settings/sql_payg", "required",
      "SQL Pay As You Go licensing inputs are required."⟩]

def validateSettings (settings : ProjectSettings D) : List ValidationIssue :=
  issueWhen (settings.currency != "USD") "/settings/currency" "unsupported"
      "Currency must be USD." ++
    issueWhen (isBlank settings.azureRegion) "/settings/azure_region" "required"
      "Azure region is required." ++
    awsRegionIssues settings ++
    discountIssues "/settings/source_compute_discount" settings.sourceComputeDiscount ++
    discountIssues "/settings/source_license_discount" settings.sourceLicenseDiscount ++
    discountIssues "/settings/source_storage_discount" settings.sourceStorageDiscount ++
    discountIssues "/settings/azure_compute_discount" settings.azureComputeDiscount ++
    discountIssues "/settings/azure_license_discount" settings.azureLicenseDiscount ++
    discountIssues "/settings/azure_storage_discount" settings.azureStorageDiscount ++
    discountIssues "/settings/selected_parity_adjustment" settings.selectedParityAdjustment ++
    validateDecimalRange "/settings/default_annual_hours" settings.defaultAnnualHours zero
      (ofNat 8784) false "Default annual hours must be between 0 and 8,784." ++
    (if settings.projectType = .onPrem then onPremSettingsIssues settings else []) ++
    (if settings.projectType = .sqlPayg then sqlPaygIssues settings.sqlPayg
      else issueWhen settings.sqlPayg.isSome "/settings/sql_payg" "not_allowed"
        "SQL Pay As You Go licensing inputs are allowed only for that project type.")

/-! ### Resources -/

/-- The fields every volume has; `seen` are the volume ids met before. -/
def volumeLabelIssues (lead : String) (seen : List Uuid) (id : Uuid) (label : String)
    (awsVolumeId : Option String) (capacityGb : D) : List ValidationIssue :=
  issueWhen (id ∈ seen) (lead ++ "/id") "duplicate"
      "Volume IDs must be unique within a project." ++
    issueWhen (!(1 ≤ label.length && label.length ≤ 80)) (lead ++ "/label") "length"
      "Volume label must contain 1 to 80 characters." ++
    issueWhen (awsVolumeId.any fun id => 128 < id.length) (lead ++ "/aws_volume_id") "length"
      "AWS volume ID must not exceed 128 characters." ++
    issueWhen (isNegative capacityGb) (lead ++ "/capacity_gb") "range"
      "Volume capacity must not be negative."

def volumePerformanceIssues (lead : String) (volumeType : EbsVolumeType)
    (provisionedIops : Option UInt64) (throughputMibps : Option D) : List ValidationIssue :=
  issueWhen (volumeType ≠ .ephemeral && provisionedIops.isNone) (lead ++ "/provisioned_iops")
      "required" "gp3 and io2 volumes require provisioned IOPS." ++
    issueWhen (throughputMibps.any isNegative) (lead ++ "/throughput_mibps") "range"
      "Volume throughput must not be negative."

def ebsVolumeIssues (lead : String) (seen : List Uuid) (volume : EbsVolume D) :
    List ValidationIssue :=
  volumeLabelIssues lead seen volume.id volume.label volume.awsVolumeId volume.capacityGb ++
    volumePerformanceIssues lead volume.volumeType volume.provisionedIops volume.throughputMibps

def vmVolumeIssues (lead : String) (seen : List Uuid) (volume : VmVolume D) :
    List ValidationIssue :=
  volumeLabelIssues lead seen volume.id volume.label volume.awsVolumeId volume.capacityGb ++
    issueWhen (volume.volumeType == .ephemeral) (lead ++ "/volume_type") "unsupported"
      ("Instance storage must use the VM instance-store requirements rather than a persistent " ++
        "volume row.") ++
    issueWhen (volume.role == .unknown) (lead ++ "/role") "required"
      "Persistent volume role must be confirmed before calculation." ++
    volumePerformanceIssues lead volume.volumeType volume.provisionedIops volume.throughputMibps

/-- The issues of a list of volumes, each with its position and the ids before it. -/
def volumesIssues {V : Type} (idOf : V → Uuid)
    (check : String → List Uuid → V → List ValidationIssue) (lead : String) :
    Nat → List Uuid → List V → List ValidationIssue
  | _, _, [] => []
  | index, seen, volume :: rest =>
      check (lead ++ "/volumes/" ++ toString index) seen volume ++
        volumesIssues idOf check lead (index + 1) (idOf volume :: seen) rest

def isArmSkuName (text : String) : Bool :=
  text ≠ "" && text.toList.length ≤ 100 &&
    text.toList.all fun c => c.isAlphanum || c == '_' || c == '-' || c == '.'

def requirementsIssues (lead : String) (requirements : Ec2VmRequirements D) :
    List ValidationIssue :=
  (if requirements.instanceStoreUse = .used then
      issueWhen (requirements.requiredLocalTempDiskGb.all isNotPositive)
          (lead ++ "/requirements/required_local_temp_disk_gb") "required"
          "Used instance storage requires a positive local capacity." ++
        issueWhen requirements.ephemeralDataLossAcceptable.isNone
          (lead ++ "/requirements/ephemeral_data_loss_acceptable") "required"
          "Used instance storage requires an explicit ephemeral data-loss decision."
    else []) ++
    issueWhen (requirements.requestedTargetArmSku.any fun target => !isArmSkuName target)
      (lead ++ "/requirements/requested_target_arm_sku") "format"
      "Requested Azure VM target must be a bounded ARM SKU name."

def volumeCountIssues (lead : String) (count : Nat) (message : String) : List ValidationIssue :=
  issueWhen (!(1 ≤ count && count ≤ 50)) (lead ++ "/volumes") "limit" message

def ec2Issues (lead : String) (volumeIds : List Uuid) (resource : Ec2Resource D) :
    List ValidationIssue :=
  issueWhen (isBlank resource.instanceType) (lead ++ "/instance_type") "required"
      "EC2 instance type is required." ++
    volumeCountIssues lead resource.volumes.length "EC2 resources require 1 to 50 volumes." ++
    volumesIssues EbsVolume.id ebsVolumeIssues lead 0 volumeIds resource.volumes

def ec2VmIssues (lead : String) (volumeIds : List Uuid) (resource : Ec2VmResource D) :
    List ValidationIssue :=
  issueWhen (isBlank resource.instanceType) (lead ++ "/instance_type") "required"
      "EC2 instance type is required." ++
    requirementsIssues lead resource.requirements ++
    volumeCountIssues lead resource.volumes.length
      "EC2 virtual machine resources require 1 to 50 volumes." ++
    issueWhen ((resource.volumes.filter fun volume => volume.role == .os).length ≠ 1)
      (lead ++ "/volumes") "os_disk"
      "EC2 virtual machine resources require exactly one OS disk." ++
    volumesIssues VmVolume.id vmVolumeIssues lead 0 volumeIds resource.volumes

def sourceMaxIopsIssues (lead : String) (iops : UInt64) : List ValidationIssue :=
  issueWhen (1000000000 < iops) (lead ++ "/source_max_iops") "range"
    "Source maximum IOPS must not exceed 1,000,000,000."

def catalogSelectionIssues (lead field text : String) : List ValidationIssue :=
  issueWhen (isBlank text) (lead ++ "/" ++ field) "required"
    "RDS catalog selections are required."

def rdsIssues (lead : String) (resource : RdsResource D) : List ValidationIssue :=
  catalogSelectionIssues lead "instance_type" resource.instanceType ++
    catalogSelectionIssues lead "commercial_term" resource.commercialTerm ++
    catalogSelectionIssues lead "storage_class" resource.storageClass ++
    sourceMaxIopsIssues lead resource.sourceMaxIops

def coreCountIssues (lead field : String) (count : UInt32) : List ValidationIssue :=
  issueWhen (!(1 ≤ count && count ≤ 100000)) (lead ++ "/" ++ field) "range"
    "Core counts must be between 1 and 100,000."

def onPremIssues (lead : String) (resource : OnPremResource D) : List ValidationIssue :=
  coreCountIssues lead "source_vcpu" resource.sourceVcpu ++
    coreCountIssues lead "licensable_cores" resource.licensableCores ++
    sourceMaxIopsIssues lead resource.sourceMaxIops ++
    issueWhen (isNegative resource.hardwareCapexUsd) (lead ++ "/hardware_capex_usd") "range"
      "Hardware CAPEX must not be negative." ++
    validateDecimalRange (lead ++ "/depreciation_years") resource.depreciationYears zero
      (ofNat 50) true "Depreciation years must be greater than 0 and no more than 50." ++
    issueWhen (resource.averagePowerKwOverride.any isNotPositive)
      (lead ++ "/average_power_kw_override") "range"
      "Average power override must be greater than 0."

def sqlIssues (lead : String) : Option (SqlWorkload D) → List ValidationIssue
  | some sql => validateDecimalRange (lead ++ "/sql_data_gb_per_instance")
      sql.sqlDataGbPerInstance zero (ofNat 1000000000) false
      "SQL data size must be between 0 and 1,000,000,000 GB."
  | none => []

def sharedIssues (lead : String) (resourceIds : List Uuid) (shared : SharedResource D)
    (sql : Option (SqlWorkload D)) : List ValidationIssue :=
  issueWhen (shared.id ∈ resourceIds) (lead ++ "/id") "duplicate"
      "Resource IDs must be unique within a project." ++
    issueWhen (!(1 ≤ shared.workloadName.length && shared.workloadName.length ≤ 160))
      (lead ++ "/workload_name") "length" "Workload name must contain 1 to 160 characters." ++
    issueWhen (shared.serverName.any fun name => 160 < name.length) (lead ++ "/server_name")
      "length" "Server name must not exceed 160 characters." ++
    issueWhen (!(1 ≤ shared.quantity && shared.quantity ≤ 10000)) (lead ++ "/quantity") "range"
      "Quantity must be between 1 and 10,000." ++
    sqlIssues lead sql ++
    validateDecimalRange (lead ++ "/source_ram_gb_per_instance") shared.sourceRamGbPerInstance
      zero (ofNat 1000000) true
      "Source RAM must be greater than 0 and no more than 1,000,000 GB." ++
    validateDecimalRange (lead ++ "/annual_hours_per_instance") shared.annualHoursPerInstance
      zero (ofNat 8784) false "Annual hours must be between 0 and 8,784."

def volumeIdsOf : Resource D → List Uuid
  | .ec2 resource => resource.volumes.map EbsVolume.id
  | .ec2Vm resource => resource.volumes.map VmVolume.id
  | .rds _ | .onPrem _ => []

def resourceIssues (projectType : ProjectType) (lead : String) (resourceIds volumeIds : List Uuid)
    (resource : Resource D) : List ValidationIssue :=
  issueWhen (resource.projectType ≠ projectType) (lead ++ "/source_type")
      "project_type_mismatch" "Resource source type must match the project type." ++
    sharedIssues lead resourceIds resource.shared resource.sql ++
    match resource with
    | .ec2 resource => ec2Issues lead volumeIds resource
    | .ec2Vm resource => ec2VmIssues lead volumeIds resource
    | .rds resource => rdsIssues lead resource
    | .onPrem resource => onPremIssues lead resource

/-- The issues of the resources, each with its position and the ids before it. -/
def resourcesIssues (projectType : ProjectType) :
    Nat → List Uuid → List Uuid → List (Resource D) → List ValidationIssue
  | _, _, _, [] => []
  | index, resourceIds, volumeIds, resource :: rest =>
      resourceIssues projectType ("/resources/" ++ toString index) resourceIds volumeIds resource ++
        resourcesIssues projectType (index + 1) (resource.shared.id :: resourceIds)
          (volumeIdsOf resource ++ volumeIds) rest

def snapshotIdIssues (pointer : String) (text : Option String) (lead : String) :
    List ValidationIssue :=
  issueWhen (text.any fun id => !isSnapshotId id lead) pointer "format"
    "Snapshot IDs must be server-issued content-addressed identifiers."

end ProjectValidation

open ProjectValidation in
def EditableProject.validate {D : Type} [DecimalArith D] (project : EditableProject D) :
    List ValidationIssue :=
  issueWhen (!(1 ≤ project.name.length && project.name.length ≤ 100)) "/name" "length"
      "Project name must contain 1 to 100 characters." ++
    issueWhen (project.description.any fun text => 500 < text.length) "/description" "length"
      "Project description must not exceed 500 characters." ++
    issueWhen (maxProjectResources < project.resources.length) "/resources" "limit"
      "A project may contain at most 100 resources." ++
    issueWhen (project.settings.projectType == .sqlPayg && !project.resources.isEmpty)
      "/resources" "not_allowed"
      "SQL Pay As You Go projects do not contain workload resources." ++
    snapshotIdIssues "/aws_price_snapshot_id" project.awsPriceSnapshotId "aws-" ++
    snapshotIdIssues "/azure_price_snapshot_id" project.azurePriceSnapshotId "azure-" ++
    validateSettings project.settings ++
    resourcesIssues project.settings.projectType 0 [] [] project.resources

/-! ### Persisted form -/

namespace ProjectJson

open ResourceJson

variable {D : Type} [DecimalArith D]

def sqlPayg (settings : SqlPaygSettings D) : Json := .object [
  ("enterprise_licensed_cores", .number settings.enterpriseLicensedCores.toNat),
  ("standard_licensed_cores", .number settings.standardLicensedCores.toNat),
  ("software_assurance_annual_usd", decimal settings.softwareAssuranceAnnualUsd)]

def settings (settings : ProjectSettings D) : Json := .object [
  ("project_type", .string (projectType settings.projectType)),
  ("aws_region", option .string settings.awsRegion),
  ("azure_region", .string settings.azureRegion),
  ("currency", .string settings.currency),
  ("source_compute_discount", decimal settings.sourceComputeDiscount),
  ("source_license_discount", decimal settings.sourceLicenseDiscount),
  ("source_storage_discount", decimal settings.sourceStorageDiscount),
  ("azure_compute_discount", decimal settings.azureComputeDiscount),
  ("azure_license_discount", decimal settings.azureLicenseDiscount),
  ("azure_storage_discount", decimal settings.azureStorageDiscount),
  ("selected_parity_adjustment", decimal settings.selectedParityAdjustment),
  ("default_annual_hours", decimal settings.defaultAnnualHours),
  ("default_mi_purchase_option", .string (purchaseOption settings.defaultMiPurchaseOption)),
  ("enterprise_license_sa_usd_per_two_core_pack",
    option decimal settings.enterpriseLicenseSaUsdPerTwoCorePack),
  ("standard_license_sa_usd_per_two_core_pack",
    option decimal settings.standardLicenseSaUsdPerTwoCorePack),
  ("remaining_coverage_months",
    option (fun months => .number months.toNat) settings.remainingCoverageMonths),
  ("electricity_rate_usd_per_kwh", option decimal settings.electricityRateUsdPerKwh),
  ("sql_payg", option sqlPayg settings.sqlPayg)]

def resources (resources : List (Resource D)) : Json := .array (resources.map resource)

def editable (project : EditableProject D) : Json := .object [
  ("name", .string project.name),
  ("description", option .string project.description),
  ("settings", settings project.settings),
  ("resources", resources project.resources),
  ("aws_price_snapshot_id", option .string project.awsPriceSnapshotId),
  ("azure_price_snapshot_id", option .string project.azurePriceSnapshotId)]

/-- The persisted form of the settings tells the project type. -/
theorem settings_projectType {first second : ProjectSettings D}
    (h : settings first = settings second) : first.projectType = second.projectType := by
  simp only [settings, Json.object.injEq, List.cons.injEq, Prod.mk.injEq,
    Json.string.injEq] at h
  exact projectType_injective h.1.2

/-- What the persisted form of one resource tells, that of the resources tells
in order. -/
theorem resources_map {α : Type} {f : Resource D → α}
    (hf : ∀ {first second : Resource D}, resource first = resource second → f first = f second)
    {first second : List (Resource D)} (h : resources first = resources second) :
    first.map f = second.map f := by
  have hmap : first.map resource = second.map resource := Json.array.inj h
  clear h
  induction first generalizing second with
  | nil => rw [List.map_eq_nil_iff.mp hmap.symm]
  | cons head rest ih =>
      cases second with
      | nil => cases hmap
      | cons head' rest' =>
          obtain ⟨hhead, hrest⟩ := List.cons.inj hmap
          rw [List.map_cons, List.map_cons, hf hhead, ih hrest]

/-- The persisted form of the resources tells their identifiers in order. -/
theorem resources_ids {first second : List (Resource D)}
    (h : resources first = resources second) :
    first.map (fun resource => resource.shared.id) =
      second.map fun resource => resource.shared.id :=
  resources_map resource_id h

end ProjectJson

end TcoCalculator
