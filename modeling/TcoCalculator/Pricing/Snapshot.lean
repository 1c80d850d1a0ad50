/-
Price snapshots (src/rust/src/pricing/snapshot.rs): the rate records, the
checks a snapshot is created with, its content digests and its lookups.
-/
import Mathlib.Data.List.Destutter
import TcoCalculator.Calculation.Cost
import TcoCalculator.Library.Json
import TcoCalculator.Library.Rfc3339
import TcoCalculator.Pricing.Provider

namespace TcoCalculator

open DecimalArith Halt

structure RateProvenance where
  sourceUrl : String
  effectiveAt : Option String
  sourceVersion : Option String
  meterIds : List String
  deriving DecidableEq

structure SnapshotMetadata where
  snapshotId : String
  provider : Provider
  status : ResolutionStatus
  retrievedAt : String
  sourcePublishedAt : Option String
  currency : String
  sourceUrls : List String
  parserSchemaVersion : String
  contentSha256 : String
  warnings : List String
  deriving DecidableEq

structure SnapshotCreationMetadata where
  status : ResolutionStatus
  retrievedAt : String
  sourcePublishedAt : Option String
  currency : String
  sourceUrls : List String
  parserSchemaVersion : String
  warnings : List String
  deriving DecidableEq

structure AwsEc2RateRecord (D : Type) where
  stableKey : String
  instanceType : String
  rate : Ec2Rate D
  provenance : RateProvenance
  deriving DecidableEq

structure AwsRdsRateRecord (D : Type) where
  stableKey : String
  instanceType : String
  deployment : RdsDeployment
  commercialTerm : String
  storageClass : String
  rate : RdsRate D
  provenance : RateProvenance
  deriving DecidableEq

structure AwsEbsRateRecord (D : Type) where
  stableKey : String
  rate : EbsRate D
  provenance : RateProvenance
  deriving DecidableEq

structure AzureMiRateRecord (D : Type) where
  stableKey : String
  configurationKey : String
  purchaseOption : PurchaseOption
  rate : AzureRate D
  provenance : RateProvenance
  deriving DecidableEq

structure AzureVmRateRecord (D : Type) where
  stableKey : String
  armSkuName : String
  purchaseOption : VmPurchaseOption
  hourlyRate : D
  licenseHourly : D
  unitOfMeasure : String
  rawPriceLexeme : String
  provenance : RateProvenance
  deriving DecidableEq

inductive AzureManagedDiskPriceDimension where
  | capacityTier
  | capacityGb
  | additionalIops
  | additionalThroughput
  deriving DecidableEq, Repr

structure AzureManagedDiskRateRecord (D : Type) where
  stableKey : String
  offerKey : String
  tierKey : Option String
  dimension : AzureManagedDiskPriceDimension
  normalizedMonthlyRate : D
  unitOfMeasure : String
  rawPriceLexeme : String
  provenance : RateProvenance
  deriving DecidableEq

structure AwsPriceSnapshot (D : Type) where
  metadata : SnapshotMetadata
  sourceRegion : String
  ec2Rates : List (AwsEc2RateRecord D)
  rdsRates : List (AwsRdsRateRecord D)
  ebsRates : List (AwsEbsRateRecord D)
  deriving DecidableEq

structure AzurePriceSnapshot (D : Type) where
  metadata : SnapshotMetadata
  targetRegion : String
  miRates : List (AzureMiRateRecord D)
  vmRates : List (AzureVmRateRecord D)
  managedDiskRates : List (AzureManagedDiskRateRecord D)
  deriving DecidableEq

/-! ### Persisted form -/

namespace SnapshotJson

open ResourceJson

variable {D : Type} [DecimalArith D]

def provider : Provider → String
  | .aws => "aws"
  | .azure => "azure"

def provenance (provenance : RateProvenance) : Json := .object [
  ("source_url", .string provenance.sourceUrl),
  ("effective_at", option .string provenance.effectiveAt),
  ("source_version", option .string provenance.sourceVersion),
  ("meter_ids", .array (provenance.meterIds.map .string))]

def diskPriceDimension : AzureManagedDiskPriceDimension → String
  | .capacityTier => "capacity_tier"
  | .capacityGb => "capacity_gb"
  | .additionalIops => "additional_iops"
  | .additionalThroughput => "additional_throughput"

def ec2Rate (rate : Ec2Rate D) : List (String × Json) := [
  ("source_vcpu", .number rate.sourceVcpu.toNat),
  ("catalog_memory_gb", decimal rate.catalogMemoryGb),
  ("compute_hourly", decimal rate.computeHourly),
  ("standard_license_hourly", option decimal rate.standardLicenseHourly),
  ("enterprise_license_hourly", option decimal rate.enterpriseLicenseHourly)]

def rdsRate (rate : RdsRate D) : List (String × Json) := [
  ("source_vcpu", .number rate.sourceVcpu.toNat),
  ("catalog_memory_gb", decimal rate.catalogMemoryGb),
  ("effective_compute_hourly", decimal rate.effectiveComputeHourly),
  ("storage_monthly_per_gb", decimal rate.storageMonthlyPerGb),
  ("standard_license_core_hourly", decimal rate.standardLicenseCoreHourly),
  ("enterprise_license_core_hourly", decimal rate.enterpriseLicenseCoreHourly)]

def iopsTier (tier : IopsPriceTier D) : Json := .object [
  ("up_to_inclusive", option (fun limit => .number limit.toNat) tier.upToInclusive),
  ("monthly_per_iops", decimal tier.monthlyPerIops)]

def ebsRate (rate : EbsRate D) : List (String × Json) := [
  ("volume_type", .string (volumeType rate.volumeType)),
  ("capacity_monthly_per_gb", decimal rate.capacityMonthlyPerGb),
  ("included_iops", .number rate.includedIops.toNat),
  ("iops_monthly_per_unit", option decimal rate.iopsMonthlyPerUnit),
  ("iops_tiers", .array (rate.iopsTiers.map iopsTier)),
  ("included_throughput_mibps", decimal rate.includedThroughputMibps),
  ("throughput_monthly_per_mibps", option decimal rate.throughputMonthlyPerMibps)]

def azureRate (rate : AzureRate D) : List (String × Json) := [
  ("compute_hourly", decimal rate.computeHourly),
  ("license_hourly", decimal rate.licenseHourly),
  ("storage_monthly_per_gb", decimal rate.storageMonthlyPerGb),
  ("additional_memory_per_gb_hourly", decimal rate.additionalMemoryPerGbHourly)]

end SnapshotJson

/-- A record with a key, a price source and the fields of its own. -/
class RateRecord (R : Type) where
  stableKey : R → String
  provenance : R → RateProvenance
  withProvenance : R → RateProvenance → R
  /-- The persisted fields but the provenance. -/
  coreFields : R → List (String × Json)

namespace RateRecord

/-- The persisted form of a record without its price source. -/
def coreJson {R : Type} [RateRecord R] (record : R) : Json := .object (coreFields record)

def toJson {R : Type} [RateRecord R] (record : R) : Json :=
  .object (coreFields record ++ [("provenance", SnapshotJson.provenance (provenance record))])

end RateRecord

section Records

open SnapshotJson ResourceJson

variable {D : Type} [DecimalArith D]

instance : RateRecord (AwsEc2RateRecord D) where
  stableKey := AwsEc2RateRecord.stableKey
  provenance := AwsEc2RateRecord.provenance
  withProvenance record provenance := { record with provenance }
  coreFields record :=
    ("stable_key", .string record.stableKey) :: ("instance_type", .string record.instanceType) ::
      ec2Rate record.rate

instance : RateRecord (AwsRdsRateRecord D) where
  stableKey := AwsRdsRateRecord.stableKey
  provenance := AwsRdsRateRecord.provenance
  withProvenance record provenance := { record with provenance }
  coreFields record :=
    [("stable_key", .string record.stableKey),
      ("instance_type", .string record.instanceType),
      ("deployment", .string (deployment record.deployment)),
      ("commercial_term", .string record.commercialTerm),
      ("storage_class", .string record.storageClass)] ++ rdsRate record.rate

instance : RateRecord (AwsEbsRateRecord D) where
  stableKey := AwsEbsRateRecord.stableKey
  provenance := AwsEbsRateRecord.provenance
  withProvenance record provenance := { record with provenance }
  coreFields record := ("stable_key", .string record.stableKey) :: ebsRate record.rate

instance : RateRecord (AzureMiRateRecord D) where
  stableKey := AzureMiRateRecord.stableKey
  provenance := AzureMiRateRecord.provenance
  withProvenance record provenance := { record with provenance }
  coreFields record :=
    [("stable_key", .string record.stableKey),
      ("configuration_key", .string record.configurationKey),
      ("purchase_option", .string (purchaseOption record.purchaseOption))] ++
      azureRate record.rate

instance : RateRecord (AzureVmRateRecord D) where
  stableKey := AzureVmRateRecord.stableKey
  provenance := AzureVmRateRecord.provenance
  withProvenance record provenance := { record with provenance }
  coreFields record := [
    ("stable_key", .string record.stableKey),
    ("arm_sku_name", .string record.armSkuName),
    ("purchase_option", .string record.purchaseOption.asStr),
    ("hourly_rate", decimal record.hourlyRate),
    ("license_hourly", decimal record.licenseHourly),
    ("unit_of_measure", .string record.unitOfMeasure),
    ("raw_price_lexeme", .string record.rawPriceLexeme)]

instance : RateRecord (AzureManagedDiskRateRecord D) where
  stableKey := AzureManagedDiskRateRecord.stableKey
  provenance := AzureManagedDiskRateRecord.provenance
  withProvenance record provenance := { record with provenance }
  coreFields record := [
    ("stable_key", .string record.stableKey),
    ("offer_key", .string record.offerKey),
    ("tier_key", option .string record.tierKey),
    ("dimension", .string (diskPriceDimension record.dimension)),
    ("normalized_monthly_rate", decimal record.normalizedMonthlyRate),
    ("unit_of_measure", .string record.unitOfMeasure),
    ("raw_price_lexeme", .string record.rawPriceLexeme)]

end Records

/-! ### Checks -/

namespace PriceSnapshot

open RateRecord

variable {D : Type} [DecimalArith D]

/-- Sorted, each text once. -/
def sortedUnique (texts : List String) : List String :=
  (texts.insertionSort (· ≤ ·)).destutter (· ≠ ·)

def validateCreationMetadata (metadata : SnapshotCreationMetadata) (scope : String) :
    Except SnapshotError Unit :=
  match Rfc3339.parse metadata.retrievedAt with
  | none => .error .invalidRetrievedAt
  | some parsed =>
      if !parsed.isUtc then .error .invalidRetrievedAt
      else if metadata.currency = "" ∨ scope = "" ∨ metadata.parserSchemaVersion = "" then
        .error .invalidScope
      else if metadata.status = .unavailable then .error .unusableStatus
      else .ok ()

def normalizeCreationMetadata (metadata : SnapshotCreationMetadata) :
    SnapshotCreationMetadata :=
  { metadata with
    sourceUrls := sortedUnique metadata.sourceUrls
    warnings := sortedUnique metadata.warnings }

def normalizeProvenance {R : Type} [RateRecord R] (record : R) : R :=
  withProvenance record
    { provenance record with meterIds := sortedUnique (provenance record).meterIds }

/-- The records with their provenance normalized, in the order of their keys. -/
def normalizeRecords {R : Type} [RateRecord R] (records : List R) : List R :=
  (records.map normalizeProvenance).insertionSort fun left right =>
    stableKey left ≤ stableKey right

def validateUniqueKeys (keys : List String) : Except SnapshotError Unit :=
  if keys.any (· == "") || !keys.Nodup then .error .invalidRateKeys else .ok ()

def validateRateProvenance (provenance : List RateProvenance) : Except SnapshotError Unit :=
  if provenance.any fun value => value.sourceUrl == "" then .error .invalidRateProvenance
  else .ok ()

def isPositive (number : D) : Bool := 0 < value number

def validEc2Record (record : AwsEc2RateRecord D) : Bool :=
  record.instanceType ≠ "" && record.rate.sourceVcpu ≠ 0 &&
    isPositive record.rate.catalogMemoryGb && isPositive record.rate.computeHourly &&
    record.rate.standardLicenseHourly.all isPositive &&
    record.rate.enterpriseLicenseHourly.all isPositive

def validRdsRecord (record : AwsRdsRateRecord D) : Bool :=
  record.instanceType ≠ "" && record.commercialTerm ≠ "" && record.storageClass ≠ "" &&
    record.rate.sourceVcpu ≠ 0 && isPositive record.rate.catalogMemoryGb &&
    isPositive record.rate.effectiveComputeHourly &&
    isPositive record.rate.storageMonthlyPerGb &&
    isPositive record.rate.standardLicenseCoreHourly &&
    isPositive record.rate.enterpriseLicenseCoreHourly

def validEbsRate (rate : EbsRate D) : Bool :=
  isPositive rate.capacityMonthlyPerGb && 0 ≤ value rate.includedThroughputMibps &&
    rate.throughputMonthlyPerMibps.all isPositive &&
    match rate.volumeType with
    | .gp3 =>
        rate.includedIops == 3000 && rate.iopsMonthlyPerUnit.any isPositive &&
          rate.iopsTiers.isEmpty &&
          value rate.includedThroughputMibps == value (ofNat 125 : D) &&
          rate.throughputMonthlyPerMibps.isSome
    | .io2 =>
        rate.includedIops == 0 && rate.iopsMonthlyPerUnit.isNone &&
          rate.iopsTiers.map IopsPriceTier.upToInclusive == [some 32000, some 64000, none] &&
          rate.iopsTiers.all fun tier => isPositive tier.monthlyPerIops
    | .ephemeral => false

def validateAwsRates (ec2Rates : List (AwsEc2RateRecord D))
    (rdsRates : List (AwsRdsRateRecord D)) (ebsRates : List (AwsEbsRateRecord D)) :
    Except SnapshotError Unit :=
  if ec2Rates.all validEc2Record && rdsRates.all validRdsRecord &&
      ebsRates.all fun record => validEbsRate record.rate then .ok ()
  else .error .invalidAwsRates

def validMiRecord (record : AzureMiRateRecord D) : Bool :=
  record.configurationKey ≠ "" && 0 ≤ value record.rate.computeHourly &&
    0 ≤ value record.rate.licenseHourly && isPositive record.rate.storageMonthlyPerGb &&
    0 ≤ value record.rate.additionalMemoryPerGbHourly

/-- The licensed and the hybrid-benefit price of one commitment. -/
def validAzureOptionPair (configuration : List (AzureMiRateRecord D))
    (licensedOption ahbOption : PurchaseOption) : Bool :=
  match configuration.find? fun record => record.purchaseOption == licensedOption,
      configuration.find? fun record => record.purchaseOption == ahbOption with
  | some licensed, some ahb =>
      isPositive licensed.rate.computeHourly &&
        value licensed.rate.computeHourly == value ahb.rate.computeHourly &&
        isPositive licensed.rate.licenseHourly && value ahb.rate.licenseHourly == 0
  | _, _ => false

def validConfiguration (configuration : List (AzureMiRateRecord D)) : Bool :=
  let purchaseOptions := configuration.map AzureMiRateRecord.purchaseOption
  configuration.length == PurchaseOption.all.length &&
    purchaseOptions.dedup.length == PurchaseOption.all.length &&
    PurchaseOption.all.all purchaseOptions.contains &&
    (configuration.head?.all fun first => configuration.all fun record =>
      value record.rate.storageMonthlyPerGb == value first.rate.storageMonthlyPerGb &&
        value record.rate.additionalMemoryPerGbHourly ==
          value first.rate.additionalMemoryPerGbHourly) &&
    validAzureOptionPair configuration .payg .ahb &&
    validAzureOptionPair configuration .oneYear .ahbOneYear &&
    validAzureOptionPair configuration .threeYear .ahbThreeYear &&
    validAzureOptionPair configuration .savingsOneYear .ahbSavingsOneYear

/-- The records of each key, keys in the order they first appear. -/
def groupBy {R K : Type} [DecidableEq K] (key : R → K) (records : List R) : List (List R) :=
  (records.map key).dedup.map fun k => records.filter fun record => key record = k

def validateAzurePurchaseMatrices (records : List (AzureMiRateRecord D)) :
    Except SnapshotError Unit :=
  if records.all validMiRecord &&
      (groupBy AzureMiRateRecord.configurationKey records).all validConfiguration then .ok ()
  else .error .invalidAzurePurchaseMatrix

def validRawPrice (text : String) : Bool := (parse text : Option D).any isPositive

def validVmRecord (record : AzureVmRateRecord D) : Bool :=
  record.armSkuName ≠ "" && isPositive record.hourlyRate && 0 ≤ value record.licenseHourly &&
    value record.licenseHourly ≤ value record.hourlyRate &&
    (!record.purchaseOption.usesAhb || value record.licenseHourly == 0) &&
    record.unitOfMeasure == "1 Hour" && validRawPrice (D := D) record.rawPriceLexeme

def vmBusinessKey (record : AzureVmRateRecord D) : String × VmPurchaseOption :=
  (toAsciiLowercase record.armSkuName, record.purchaseOption)

def validAzureVmOptionPair (licensed ahb : AzureVmRateRecord D) : Except ArithmeticFault Bool :=
  if value licensed.licenseHourly < value licensed.hourlyRate ∧ 0 < value licensed.licenseHourly ∧
      value ahb.licenseHourly = 0 then do
    return value (← sub licensed.hourlyRate licensed.licenseHourly) == value ahb.hourlyRate
  else .ok false

def vmOption (configuration : List (AzureVmRateRecord D)) (option : VmPurchaseOption) :
    Option (AzureVmRateRecord D) :=
  configuration.find? fun record => record.purchaseOption == option

def vmCommitments : List (VmPurchaseOption × VmPurchaseOption) :=
  [(.oneYear, .ahbOneYear), (.threeYear, .ahbThreeYear), (.savingsOneYear, .ahbSavingsOneYear),
    (.savingsThreeYear, .ahbSavingsThreeYear)]

/-- A commitment is priced with and without the license, or not at all. -/
def validVmCommitment (configuration : List (AzureVmRateRecord D))
    (payg ahb : AzureVmRateRecord D) (options : VmPurchaseOption × VmPurchaseOption) :
    Except ArithmeticFault Bool :=
  match vmOption configuration options.1, vmOption configuration options.2 with
  | none, none => .ok true
  | some licensed, some ahbCommitment => do
      return (← validAzureVmOptionPair licensed ahbCommitment) &&
        value licensed.licenseHourly == value payg.licenseHourly &&
        decide (value ahbCommitment.hourlyRate < value ahb.hourlyRate)
  | _, _ => .ok false

def allM {R : Type} (check : R → Except ArithmeticFault Bool) :
    List R → Except ArithmeticFault Bool
  | [] => .ok true
  | record :: rest => do if ← check record then allM check rest else return false

def isSingleUnlicensedPayg (configuration : List (AzureVmRateRecord D)) : Bool :=
  match configuration with
  | [record] => record.purchaseOption == .payg && value record.licenseHourly == 0
  | _ => false

def validVmConfiguration (configuration : List (AzureVmRateRecord D)) :
    Except ArithmeticFault Bool :=
  if isSingleUnlicensedPayg configuration then .ok true
  else
    match vmOption configuration .payg, vmOption configuration .ahb with
    | some payg, some ahb => do
        if ← validAzureVmOptionPair payg ahb then
          allM (validVmCommitment configuration payg ahb) vmCommitments
        else return false
    | _, _ => .ok false

def tierShapeValid (record : AzureManagedDiskRateRecord D) : Bool :=
  match record.dimension with
  | .capacityTier => record.tierKey.isSome
  | .capacityGb | .additionalIops | .additionalThroughput => record.tierKey.isNone

def validDiskRecord (record : AzureManagedDiskRateRecord D) : Bool :=
  record.offerKey ≠ "" && tierShapeValid record && isPositive record.normalizedMonthlyRate &&
    record.unitOfMeasure ≠ "" && validRawPrice (D := D) record.rawPriceLexeme

def diskBusinessKey (record : AzureManagedDiskRateRecord D) :
    String × Option String × AzureManagedDiskPriceDimension :=
  (toAsciiLowercase record.offerKey, record.tierKey, record.dimension)

def validateAzureVmRates (vmRates : List (AzureVmRateRecord D))
    (managedDiskRates : List (AzureManagedDiskRateRecord D)) :
    Except (Halt SnapshotError) Unit :=
  if !(vmRates.all validVmRecord && (vmRates.map vmBusinessKey).Nodup) then
    refuse .invalidAzureVmRates
  else do
    let configurations := groupBy (fun record => toAsciiLowercase record.armSkuName) vmRates
    if ← allM validVmConfiguration configurations then
      if managedDiskRates.all validDiskRecord && (managedDiskRates.map diskBusinessKey).Nodup then
        return ()
      else refuse .invalidAzureVmRates
    else refuse .invalidAzureVmRates

/-- The metadata of a snapshot with the given content. -/
def metadataOf (provider : Provider) (lead contentSha256 : String)
    (metadata : SnapshotCreationMetadata) : SnapshotMetadata where
  snapshotId := lead ++ contentSha256
  provider := provider
  status := metadata.status
  retrievedAt := metadata.retrievedAt
  sourcePublishedAt := metadata.sourcePublishedAt
  currency := metadata.currency
  sourceUrls := metadata.sourceUrls
  parserSchemaVersion := metadata.parserSchemaVersion
  contentSha256 := contentSha256
  warnings := metadata.warnings

end PriceSnapshot

/-! ### Snapshots -/

section Snapshots

open PriceSnapshot RateRecord

variable {D : Type} [DecimalArith D] (sha256 : String → String)

/-- The digest of a value's JSON text, as lowercase hex. -/
def hashCanonical (value : Json) : String := sha256 value.render

def recordsJson {R : Type} [RateRecord R] (records : List R) : Json :=
  .array (records.map RateRecord.toJson)

def AwsPriceSnapshot.create (metadata : SnapshotCreationMetadata) (sourceRegion : String)
    (ec2Rates : List (AwsEc2RateRecord D)) (rdsRates : List (AwsRdsRateRecord D))
    (ebsRates : List (AwsEbsRateRecord D)) : Except SnapshotError (AwsPriceSnapshot D) := do
  validateCreationMetadata metadata sourceRegion
  let ec2Rates := normalizeRecords ec2Rates
  let rdsRates := normalizeRecords rdsRates
  let ebsRates := normalizeRecords ebsRates
  validateUniqueKeys (ec2Rates.map stableKey ++ rdsRates.map stableKey ++ ebsRates.map stableKey)
  validateRateProvenance
    (ec2Rates.map provenance ++ rdsRates.map provenance ++ ebsRates.map provenance)
  validateAwsRates ec2Rates rdsRates ebsRates
  let contentSha256 := hashCanonical sha256 (.object [
    ("provider", .string (SnapshotJson.provider .aws)),
    ("currency", .string metadata.currency),
    ("source_region", .string sourceRegion),
    ("parser_schema_version", .string metadata.parserSchemaVersion),
    ("ec2_rates", recordsJson ec2Rates),
    ("rds_rates", recordsJson rdsRates),
    ("ebs_rates", recordsJson ebsRates)])
  return {
    metadata := metadataOf .aws "aws-" contentSha256 (normalizeCreationMetadata metadata)
    sourceRegion := sourceRegion
    ec2Rates := ec2Rates
    rdsRates := rdsRates
    ebsRates := ebsRates }

def AzurePriceSnapshot.createWithVmRates (metadata : SnapshotCreationMetadata)
    (targetRegion : String) (miRates : List (AzureMiRateRecord D))
    (vmRates : List (AzureVmRateRecord D))
    (managedDiskRates : List (AzureManagedDiskRateRecord D)) :
    Except (Halt SnapshotError) (AzurePriceSnapshot D) := do
  checked (validateCreationMetadata metadata targetRegion)
  let miRates := normalizeRecords miRates
  let vmRates := normalizeRecords vmRates
  let managedDiskRates := normalizeRecords managedDiskRates
  checked (validateUniqueKeys
    (miRates.map stableKey ++ vmRates.map stableKey ++ managedDiskRates.map stableKey))
  checked (validateRateProvenance
    (miRates.map provenance ++ vmRates.map provenance ++ managedDiskRates.map provenance))
  checked (validateAzurePurchaseMatrices miRates)
  validateAzureVmRates vmRates managedDiskRates
  let contentSha256 := hashCanonical sha256 (.object [
    ("provider", .string (SnapshotJson.provider .azure)),
    ("currency", .string metadata.currency),
    ("target_region", .string targetRegion),
    ("parser_schema_version", .string metadata.parserSchemaVersion),
    ("mi_rates", recordsJson miRates),
    ("vm_rates", recordsJson vmRates),
    ("managed_disk_rates", recordsJson managedDiskRates)])
  return {
    metadata := metadataOf .azure "azure-" contentSha256 (normalizeCreationMetadata metadata)
    targetRegion := targetRegion
    miRates := miRates
    vmRates := vmRates
    managedDiskRates := managedDiskRates }

def AzurePriceSnapshot.create (metadata : SnapshotCreationMetadata) (targetRegion : String)
    (miRates : List (AzureMiRateRecord D)) : Except (Halt SnapshotError) (AzurePriceSnapshot D) :=
  createWithVmRates sha256 metadata targetRegion miRates [] []

end Snapshots

/-! ### Lookups -/

section Lookups

variable {D : Type}

def AwsPriceSnapshot.matchesScope (snapshot : AwsPriceSnapshot D)
    (currency sourceRegion : String) : Bool :=
  snapshot.metadata.provider == .aws && snapshot.metadata.currency == currency &&
    snapshot.sourceRegion == sourceRegion

def AwsPriceSnapshot.ec2Rate (snapshot : AwsPriceSnapshot D) (instanceType : String) :
    Option (AwsEc2RateRecord D) :=
  snapshot.ec2Rates.find? fun record => record.instanceType == instanceType

def AwsPriceSnapshot.rdsRate (snapshot : AwsPriceSnapshot D) (instanceType : String)
    (deployment : RdsDeployment) (commercialTerm storageClass : String) :
    Option (AwsRdsRateRecord D) :=
  snapshot.rdsRates.find? fun record =>
    record.instanceType == instanceType && record.deployment == deployment &&
      record.commercialTerm == commercialTerm && record.storageClass == storageClass

def AzurePriceSnapshot.matchesScope (snapshot : AzurePriceSnapshot D)
    (currency targetRegion : String) : Bool :=
  snapshot.metadata.provider == .azure && snapshot.metadata.currency == currency &&
    snapshot.targetRegion == targetRegion

def AzurePriceSnapshot.miRate (snapshot : AzurePriceSnapshot D) (configurationKey : String)
    (purchaseOption : PurchaseOption) : Option (AzureMiRateRecord D) :=
  snapshot.miRates.find? fun record =>
    record.configurationKey == configurationKey && record.purchaseOption == purchaseOption

def AzurePriceSnapshot.hasCompleteMiRateSet (snapshot : AzurePriceSnapshot D)
    (configurationKey : String) : Bool :=
  PurchaseOption.all.all fun purchaseOption =>
    (snapshot.miRates.filter fun record =>
      record.configurationKey == configurationKey &&
        record.purchaseOption == purchaseOption).length == 1

def AzurePriceSnapshot.vmRate (snapshot : AzurePriceSnapshot D) (armSkuName : String)
    (purchaseOption : VmPurchaseOption) : Option (AzureVmRateRecord D) :=
  snapshot.vmRates.find? fun record =>
    eqIgnoreAsciiCase record.armSkuName armSkuName && record.purchaseOption == purchaseOption

def AzurePriceSnapshot.managedDiskRate (snapshot : AzurePriceSnapshot D) (offerKey : String)
    (tierKey : Option String) (dimension : AzureManagedDiskPriceDimension) :
    Option (AzureManagedDiskRateRecord D) :=
  snapshot.managedDiskRates.find? fun record =>
    eqIgnoreAsciiCase record.offerKey offerKey && record.tierKey == tierKey &&
      record.dimension == dimension

end Lookups

end TcoCalculator
