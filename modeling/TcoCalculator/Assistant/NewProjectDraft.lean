/-
New project drafts and their defaults
(new_project_draft and what it calls in src/rust/src/assistant/tools.rs).
-/
import TcoCalculator.Assistant.ToolInput

namespace TcoCalculator.Assistant

open DecimalArith

def gp3BaselineIops : UInt64 := 3000
def io2MinimumIops : UInt64 := 100
def defaultEc2InstanceType : String := "r6id.8xlarge"

variable {D : Type} [DecimalArith D]

/-- `Ec2VmRequirements::defaults_for`. -/
def requirementsDefaultsFor (instanceType : String) : Ec2VmRequirements D where
  burstPolicy :=
    if instanceType.startsWith "t3." then .confirmedBurstCompatible else .notApplicable
  instanceStoreUse := .notUsed
  requiredLocalTempDiskGb := none
  ephemeralDataLossAcceptable := none
  highFrequencyRequirement :=
    if instanceType.startsWith "z1d." then .capacityFitAccepted else .notApplicable
  requestedTargetArmSku := none

def emptyVolumeInput : NewVolumeInput D := ⟨none, none, none, none, none, none⟩

/-- The starter workload of a draft without resources. -/
def starterResource (sourceType : ProjectType) : NewResourceInput D where
  sourceType := sourceType
  workloadName := none
  quantity := none
  sqlEdition := none
  licenseBasis := none
  sqlDataGbPerInstance := none
  sourceRamGbPerInstance := none
  annualHoursPerInstance := none
  miPurchaseOption := none
  vmPurchaseOption := none
  instanceType := none
  volumes := none
  deployment := none
  commercialTerm := none
  storageClass := none
  sourceVcpu := none
  licensableCores := none
  sourceMaxIops := none
  hardwareCapexUsd := none
  depreciationYears := none
  averagePowerKwOverride := none

def isEc2Source : ProjectType → Bool
  | .ec2 | .ec2Vm => true
  | .rds | .onPrem | .sqlPayg => false

def newVolume (id : Uuid) (input : NewVolumeInput D) : EbsVolume D :=
  let volumeType := input.volumeType.getD .ephemeral
  { id := id
    label := input.label.getD "Instance storage"
    awsVolumeId := input.awsVolumeId
    volumeType := volumeType
    capacityGb := input.capacityGb.getD zero
    provisionedIops := input.provisionedIops.or (match volumeType with
      | .gp3 => some gp3BaselineIops
      | .io2 => some io2MinimumIops
      | .ephemeral => none)
    throughputMibps := input.throughputMibps }

/-- The first volume is the operating system disk, which is persistent. -/
def newVmVolume (id : Uuid) (input : NewVolumeInput D) (index : Nat) : VmVolume D :=
  let isOs := index = 0
  let volume := newVolume id { input with
    volumeType := input.volumeType.or (if isOs then some .gp3 else none)
    label := some (input.label.getD (if isOs then "OS disk" else "Data disk")) }
  { id := volume.id
    label := volume.label
    awsVolumeId := volume.awsVolumeId
    volumeType := volume.volumeType
    role := if isOs then .os else .data
    capacityGb := volume.capacityGb
    provisionedIops := volume.provisionedIops
    throughputMibps := volume.throughputMibps }

/- The memory of an instance type in the AWS catalog. -/
variable (ec2CatalogMemory : String → Option D)
/- The fresh random identifiers: of a resource, then of its volumes. -/
variable (freshId : Nat → Uuid)

def newShared (input : NewResourceInput D) : SharedResource D where
  id := freshId 0
  workloadName := input.workloadName.getD
    (if input.sourceType = .ec2Vm then "Virtual machine" else "SQL workload")
  serverName := none
  quantity := input.quantity.getD 1
  sourceRamGbPerInstance :=
    (input.sourceRamGbPerInstance.or
      (if isEc2Source input.sourceType then
        ec2CatalogMemory (input.instanceType.getD defaultEc2InstanceType)
      else none)).getD (ofNat (if input.sourceType = .rds then 128 else 256))
  annualHoursPerInstance := input.annualHoursPerInstance.getD (ofNat 8760)

def newSql (input : NewResourceInput D) : SqlWorkload D where
  sqlEdition := input.sqlEdition.getD .enterprise
  licenseBasis := input.licenseBasis.getD .byol
  sqlDataGbPerInstance := input.sqlDataGbPerInstance.getD (ofNat 1024)
  miPurchaseOption := input.miPurchaseOption.getD .ahb

/-- Nothing stands for the unreachable arm, which panics. -/
def newResource (input : NewResourceInput D) : Option (Resource D) :=
  let instanceType := input.instanceType.getD defaultEc2InstanceType
  let shared := newShared ec2CatalogMemory freshId input
  let sql := newSql input
  match input.sourceType with
  | .ec2 => some (.ec2 {
      shared := shared
      sql := sql
      instanceType := instanceType
      volumes := (input.volumes.getD [emptyVolumeInput]).mapIdx fun index volume =>
        newVolume (freshId (index + 1)) volume })
  | .rds => some (.rds {
      shared := shared
      sql := sql
      instanceType := input.instanceType.getD "db.m6i.8xlarge"
      deployment := input.deployment.getD .singleAz
      commercialTerm := input.commercialTerm.getD "on-demand"
      storageClass := input.storageClass.getD "gp3"
      sourceMaxIops := input.sourceMaxIops.getD 0 })
  | .onPrem => some (.onPrem {
      shared := shared
      sql := sql
      sourceVcpu := input.sourceVcpu.getD 32
      licensableCores := input.licensableCores.getD 32
      sourceMaxIops := input.sourceMaxIops.getD 0
      hardwareCapexUsd := input.hardwareCapexUsd.getD zero
      depreciationYears := input.depreciationYears.getD (ofNat 5)
      averagePowerKwOverride := input.averagePowerKwOverride })
  | .ec2Vm => some (.ec2Vm {
      shared := shared
      instanceType := instanceType
      vmPurchaseOption := input.vmPurchaseOption.getD .payg
      requirements := requirementsDefaultsFor instanceType
      volumes := (match input.volumes with
        | some (first :: rest) => first :: rest
        | _ => [emptyVolumeInput]).mapIdx fun index volume =>
          newVmVolume (freshId (index + 1)) volume index })
  | .sqlPayg => none

omit ec2CatalogMemory freshId in
def newSqlPayg (input : Option (NewSqlPaygSettingsInput D)) : SqlPaygSettings D where
  enterpriseLicensedCores :=
    (input.bind NewSqlPaygSettingsInput.enterpriseLicensedCores).getD 0
  standardLicensedCores := (input.bind NewSqlPaygSettingsInput.standardLicensedCores).getD 0
  softwareAssuranceAnnualUsd :=
    (input.bind NewSqlPaygSettingsInput.softwareAssuranceAnnualUsd).getD zero

def newSettings (projectType : ProjectType) (input : NewProjectSettingsInput D) :
    ProjectSettings D :=
  let onPrem := projectType = .onPrem
  { projectType := projectType
    awsRegion := match projectType with
      | .ec2 | .ec2Vm | .rds => some (input.awsRegion.getD "eu-west-1")
      | .onPrem | .sqlPayg => none
    azureRegion := input.azureRegion.getD "swedencentral"
    currency := "USD"
    sourceComputeDiscount := input.sourceComputeDiscount.getD zero
    sourceLicenseDiscount := input.sourceLicenseDiscount.getD zero
    sourceStorageDiscount := input.sourceStorageDiscount.getD zero
    azureComputeDiscount := input.azureComputeDiscount.getD zero
    azureLicenseDiscount := input.azureLicenseDiscount.getD zero
    azureStorageDiscount := input.azureStorageDiscount.getD zero
    selectedParityAdjustment := input.selectedParityAdjustment.getD zero
    defaultAnnualHours := input.defaultAnnualHours.getD (ofNat 8760)
    defaultMiPurchaseOption := input.defaultMiPurchaseOption.getD .ahb
    enterpriseLicenseSaUsdPerTwoCorePack := input.enterpriseLicenseSaUsdPerTwoCorePack.or
      (if onPrem then some (ofNat 20557) else none)
    standardLicenseSaUsdPerTwoCorePack := input.standardLicenseSaUsdPerTwoCorePack.or
      (if onPrem then some (ofNat 5363) else none)
    remainingCoverageMonths :=
      input.remainingCoverageMonths.or (if onPrem then some 12 else none)
    electricityRateUsdPerKwh :=
      input.electricityRateUsdPerKwh.or (if onPrem then some zero else none)
    sqlPayg := if projectType = .sqlPayg then some (newSqlPayg input.sqlPayg) else none }

/-- `freshId` gives the identifiers of the resource at a position. -/
def newProjectDraft (ec2CatalogMemory : String → Option D) (freshId : Nat → Nat → Uuid)
    (input : StageNewProjectDraftInput D) : Option (EditableProject D) := do
  let inputs := if input.projectType = .sqlPayg then []
    else if input.resources = [] then [starterResource input.projectType]
    else input.resources
  let resources ← (inputs.mapIdx fun index resource =>
    newResource ec2CatalogMemory (freshId index) resource).mapM id
  return {
    name := input.name.getD "SQL TCO estimate"
    description := input.description
    settings := newSettings input.projectType input.settings
    resources := resources
    awsPriceSnapshotId := none
    azurePriceSnapshotId := none }

end TcoCalculator.Assistant
