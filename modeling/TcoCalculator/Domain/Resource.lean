/-
Workload resources and their persisted form (src/rust/src/domain/resource.rs).
-/
import TcoCalculator.Domain.Decimal
import TcoCalculator.Domain.Uuid

namespace TcoCalculator

inductive ProjectType where
  | ec2
  | ec2Vm
  | rds
  | onPrem
  | sqlPayg
  deriving DecidableEq, Repr

inductive SqlEdition where
  | standard
  | enterprise
  deriving DecidableEq, Repr

inductive LicenseBasis where
  | licenseIncluded
  | byol
  deriving DecidableEq, Repr

inductive PurchaseOption where
  | payg
  | ahb
  | oneYear
  | ahbOneYear
  | threeYear
  | ahbThreeYear
  | savingsOneYear
  | ahbSavingsOneYear
  deriving DecidableEq, Repr

def PurchaseOption.all : List PurchaseOption :=
  [.payg, .ahb, .oneYear, .ahbOneYear, .threeYear, .ahbThreeYear, .savingsOneYear,
    .ahbSavingsOneYear]

inductive VmPurchaseOption where
  | payg
  | ahb
  | oneYear
  | ahbOneYear
  | threeYear
  | ahbThreeYear
  | savingsOneYear
  | ahbSavingsOneYear
  | savingsThreeYear
  | ahbSavingsThreeYear
  deriving DecidableEq, Repr

namespace VmPurchaseOption

def all : List VmPurchaseOption :=
  [.payg, .ahb, .oneYear, .ahbOneYear, .threeYear, .ahbThreeYear, .savingsOneYear,
    .ahbSavingsOneYear, .savingsThreeYear, .ahbSavingsThreeYear]

def asStr : VmPurchaseOption → String
  | .payg => "payg"
  | .ahb => "ahb"
  | .oneYear => "one-year"
  | .ahbOneYear => "ahbone-year"
  | .threeYear => "three-year"
  | .ahbThreeYear => "ahbthree-year"
  | .savingsOneYear => "sv-one-year"
  | .ahbSavingsOneYear => "ahbsv-one-year"
  | .savingsThreeYear => "sv-three-year"
  | .ahbSavingsThreeYear => "ahbsv-three-year"

def usesAhb : VmPurchaseOption → Bool
  | .ahb | .ahbOneYear | .ahbThreeYear | .ahbSavingsOneYear | .ahbSavingsThreeYear => true
  | _ => false

end VmPurchaseOption

/-- Fields every workload resource carries. -/
structure SharedResource (D : Type) where
  id : Uuid
  workloadName : String
  serverName : Option String
  quantity : UInt32
  sourceRamGbPerInstance : D
  annualHoursPerInstance : D
  deriving DecidableEq

/-- SQL-only inputs. -/
structure SqlWorkload (D : Type) where
  sqlEdition : SqlEdition
  licenseBasis : LicenseBasis
  sqlDataGbPerInstance : D
  miPurchaseOption : PurchaseOption
  deriving DecidableEq

inductive EbsVolumeType where
  | gp3
  | io2
  | ephemeral
  deriving DecidableEq, Repr

inductive VmDiskRole where
  | os
  | data
  | unknown
  deriving DecidableEq, Repr

inductive VmBurstPolicy where
  | confirmedBurstCompatible
  | requiresSustainedCpu
  | unknown
  | notApplicable
  deriving DecidableEq, Repr

inductive VmInstanceStoreUse where
  | unknown
  | notUsed
  | used
  deriving DecidableEq, Repr

inductive VmHighFrequencyRequirement where
  | required
  | unknown
  | capacityFitAccepted
  | notApplicable
  deriving DecidableEq, Repr

structure EbsVolume (D : Type) where
  id : Uuid
  label : String
  awsVolumeId : Option String
  volumeType : EbsVolumeType
  capacityGb : D
  provisionedIops : Option UInt64
  throughputMibps : Option D
  deriving DecidableEq

/-- A persistent volume of a VM workload. -/
structure VmVolume (D : Type) where
  id : Uuid
  label : String
  awsVolumeId : Option String
  volumeType : EbsVolumeType
  role : VmDiskRole
  capacityGb : D
  provisionedIops : Option UInt64
  throughputMibps : Option D
  deriving DecidableEq

structure Ec2VmRequirements (D : Type) where
  burstPolicy : VmBurstPolicy
  instanceStoreUse : VmInstanceStoreUse
  requiredLocalTempDiskGb : Option D
  ephemeralDataLossAcceptable : Option Bool
  highFrequencyRequirement : VmHighFrequencyRequirement
  requestedTargetArmSku : Option String
  deriving DecidableEq

structure Ec2Resource (D : Type) where
  shared : SharedResource D
  sql : SqlWorkload D
  instanceType : String
  volumes : List (EbsVolume D)
  deriving DecidableEq

structure Ec2VmResource (D : Type) where
  shared : SharedResource D
  instanceType : String
  vmPurchaseOption : VmPurchaseOption
  requirements : Ec2VmRequirements D
  volumes : List (VmVolume D)
  deriving DecidableEq

inductive RdsDeployment where
  | singleAz
  | multiAz
  deriving DecidableEq, Repr

structure RdsResource (D : Type) where
  shared : SharedResource D
  sql : SqlWorkload D
  instanceType : String
  deployment : RdsDeployment
  commercialTerm : String
  storageClass : String
  sourceMaxIops : UInt64
  deriving DecidableEq

structure OnPremResource (D : Type) where
  shared : SharedResource D
  sql : SqlWorkload D
  sourceVcpu : UInt32
  licensableCores : UInt32
  sourceMaxIops : UInt64
  hardwareCapexUsd : D
  depreciationYears : D
  averagePowerKwOverride : Option D
  deriving DecidableEq

inductive Resource (D : Type) where
  | ec2 (resource : Ec2Resource D)
  | ec2Vm (resource : Ec2VmResource D)
  | rds (resource : RdsResource D)
  | onPrem (resource : OnPremResource D)
  deriving DecidableEq

namespace Resource

variable {D : Type}

def shared : Resource D → SharedResource D
  | .ec2 resource => resource.shared
  | .ec2Vm resource => resource.shared
  | .rds resource => resource.shared
  | .onPrem resource => resource.shared

/-- None for the VM workload without SQL Server. -/
def sql : Resource D → Option (SqlWorkload D)
  | .ec2 resource => some resource.sql
  | .rds resource => some resource.sql
  | .onPrem resource => some resource.sql
  | .ec2Vm _ => none

def projectType : Resource D → ProjectType
  | .ec2 _ => .ec2
  | .ec2Vm _ => .ec2Vm
  | .rds _ => .rds
  | .onPrem _ => .onPrem

end Resource

/-! ### Persisted form -/

namespace ResourceJson

open DecimalArith

variable {D : Type} [DecimalArith D]

def projectType : ProjectType → String
  | .ec2 => "ec2"
  | .ec2Vm => "ec2_vm"
  | .rds => "rds"
  | .onPrem => "on_prem"
  | .sqlPayg => "sql_payg"

def sqlEdition : SqlEdition → String
  | .standard => "standard"
  | .enterprise => "enterprise"

def licenseBasis : LicenseBasis → String
  | .licenseIncluded => "license_included"
  | .byol => "byol"

def purchaseOption : PurchaseOption → String
  | .payg => "payg"
  | .ahb => "ahb"
  | .oneYear => "one-year"
  | .ahbOneYear => "ahbone-year"
  | .threeYear => "three-year"
  | .ahbThreeYear => "ahbthree-year"
  | .savingsOneYear => "sv-one-year"
  | .ahbSavingsOneYear => "ahbsv-one-year"

def volumeType : EbsVolumeType → String
  | .gp3 => "gp3"
  | .io2 => "io2"
  | .ephemeral => "ephemeral"

def diskRole : VmDiskRole → String
  | .os => "os"
  | .data => "data"
  | .unknown => "unknown"

def burstPolicy : VmBurstPolicy → String
  | .confirmedBurstCompatible => "confirmed_burst_compatible"
  | .requiresSustainedCpu => "requires_sustained_cpu"
  | .unknown => "unknown"
  | .notApplicable => "not_applicable"

def instanceStoreUse : VmInstanceStoreUse → String
  | .unknown => "unknown"
  | .notUsed => "not_used"
  | .used => "used"

def highFrequencyRequirement : VmHighFrequencyRequirement → String
  | .required => "required"
  | .unknown => "unknown"
  | .capacityFitAccepted => "capacity_fit_accepted"
  | .notApplicable => "not_applicable"

def deployment : RdsDeployment → String
  | .singleAz => "single_az"
  | .multiAz => "multi_az"

def option {α : Type} (toJson : α → Json) : Option α → Json
  | some value => toJson value
  | none => .null

/-- A decimal is written as a string. -/
def decimal (value : D) : Json := .string (display value)

def ebsVolume (volume : EbsVolume D) : Json := .object [
  ("id", .string volume.id.text),
  ("label", .string volume.label),
  ("aws_volume_id", option .string volume.awsVolumeId),
  ("volume_type", .string (volumeType volume.volumeType)),
  ("capacity_gb", decimal volume.capacityGb),
  ("provisioned_iops", option (fun iops => .number iops.toNat) volume.provisionedIops),
  ("throughput_mibps", option decimal volume.throughputMibps)]

def vmVolume (volume : VmVolume D) : Json := .object [
  ("id", .string volume.id.text),
  ("label", .string volume.label),
  ("aws_volume_id", option .string volume.awsVolumeId),
  ("volume_type", .string (volumeType volume.volumeType)),
  ("role", .string (diskRole volume.role)),
  ("capacity_gb", decimal volume.capacityGb),
  ("provisioned_iops", option (fun iops => .number iops.toNat) volume.provisionedIops),
  ("throughput_mibps", option decimal volume.throughputMibps)]

def requirements (requirements : Ec2VmRequirements D) : Json := .object [
  ("burst_policy", .string (burstPolicy requirements.burstPolicy)),
  ("instance_store_use", .string (instanceStoreUse requirements.instanceStoreUse)),
  ("required_local_temp_disk_gb", option decimal requirements.requiredLocalTempDiskGb),
  ("ephemeral_data_loss_acceptable", option .bool requirements.ephemeralDataLossAcceptable),
  ("high_frequency_requirement",
    .string (highFrequencyRequirement requirements.highFrequencyRequirement)),
  ("requested_target_arm_sku", option .string requirements.requestedTargetArmSku)]

def sharedFields (shared : SharedResource D) : List (String × Json) := [
  ("id", .string shared.id.text),
  ("workload_name", .string shared.workloadName),
  ("server_name", option .string shared.serverName),
  ("quantity", .number shared.quantity.toNat),
  ("source_ram_gb_per_instance", decimal shared.sourceRamGbPerInstance),
  ("annual_hours_per_instance", decimal shared.annualHoursPerInstance)]

def sqlFields (sql : SqlWorkload D) : List (String × Json) := [
  ("sql_edition", .string (sqlEdition sql.sqlEdition)),
  ("license_basis", .string (licenseBasis sql.licenseBasis)),
  ("sql_data_gb_per_instance", decimal sql.sqlDataGbPerInstance),
  ("mi_purchase_option", .string (purchaseOption sql.miPurchaseOption))]

def ownFields : Resource D → List (String × Json)
  | .ec2 resource => sqlFields resource.sql ++ [
      ("instance_type", .string resource.instanceType),
      ("volumes", .array (resource.volumes.map ebsVolume))]
  | .ec2Vm resource => [
      ("instance_type", .string resource.instanceType),
      ("vm_purchase_option", .string resource.vmPurchaseOption.asStr),
      ("requirements", requirements resource.requirements),
      ("volumes", .array (resource.volumes.map vmVolume))]
  | .rds resource => sqlFields resource.sql ++ [
      ("instance_type", .string resource.instanceType),
      ("deployment", .string (deployment resource.deployment)),
      ("commercial_term", .string resource.commercialTerm),
      ("storage_class", .string resource.storageClass),
      ("source_max_iops", .number resource.sourceMaxIops.toNat)]
  | .onPrem resource => sqlFields resource.sql ++ [
      ("source_vcpu", .number resource.sourceVcpu.toNat),
      ("licensable_cores", .number resource.licensableCores.toNat),
      ("source_max_iops", .number resource.sourceMaxIops.toNat),
      ("hardware_capex_usd", decimal resource.hardwareCapexUsd),
      ("depreciation_years", decimal resource.depreciationYears),
      ("average_power_kw_override", option decimal resource.averagePowerKwOverride)]

def resource (resource : Resource D) : Json :=
  .object (("source_type", .string (projectType resource.projectType)) ::
    sharedFields resource.shared ++ ownFields resource)

theorem projectType_injective {first second : ProjectType}
    (h : projectType first = projectType second) : first = second := by
  cases first <;> cases second <;> first | rfl | exact absurd h (by decide)

theorem option_string_injective {first second : Option String}
    (h : option Json.string first = option Json.string second) : first = second := by
  cases first <;> cases second <;> simp_all [option]

/-- The persisted form of a resource tells its identifier. -/
theorem resource_id {first second : Resource D} (h : resource first = resource second) :
    first.shared.id = second.shared.id := by
  simp only [resource, sharedFields, Json.object.injEq, List.cons_append, List.cons.injEq,
    Prod.mk.injEq, Json.string.injEq] at h
  exact Uuid.text_injective h.2.1.2

/-- It tells the server name as well. -/
theorem resource_serverName {first second : Resource D} (h : resource first = resource second) :
    first.shared.serverName = second.shared.serverName := by
  simp only [resource, sharedFields, Json.object.injEq, List.cons_append, List.cons.injEq,
    Prod.mk.injEq, Json.string.injEq] at h
  exact option_string_injective h.2.2.2.1.2

end ResourceJson

end TcoCalculator
