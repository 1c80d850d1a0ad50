/-
The RDS and EBS normalizers against the checks of a snapshot: which accepted
provider inputs give rates that the snapshot takes.
-/
import TcoCalculator.Pricing.AwsEbsRates
import TcoCalculator.Pricing.AwsRdsRates
import TcoCalculator.Pricing.SnapshotIdentity

namespace TcoCalculator

open Fallible PriceSnapshot

/-! ### Accepted inputs -/

/-- Leaves that the RDS normalizer accepts. -/
structure AcceptedRds where
  regionCode : String
  leaves : List AwsRds.RdsLeafPayload
  accepted : (AwsRds.normalizeRdsLeaves regionCode leaves :
    Except _ (AwsRds.RdsNormalization Decimal96)).toOption.isSome = true

/-- Leaves that the EBS normalizer accepts. -/
structure AcceptedEbs where
  context : AwsEbs.EbsNormalizationContext
  leaves : List AwsEbs.EbsLeafPayload
  accepted : (AwsEbs.normalizeEbsLeaves context leaves :
    Except _ (AwsEbs.EbsNormalization Decimal96)).toOption.isSome = true

def AcceptedRds.records (input : AcceptedRds) : List (AwsRdsRateRecord Decimal96) :=
  (Option.get _ input.accepted).records

def AcceptedEbs.records (input : AcceptedEbs) : List (AwsEbsRateRecord Decimal96) :=
  (Option.get _ input.accepted).records

def AcceptedRds.PricesPositive (input : AcceptedRds) : Prop :=
  AwsRds.PricesPositive input.leaves

def AcceptedEbs.PricesPositive (input : AcceptedEbs) : Prop :=
  AwsEbs.PricesPositive Decimal96 (AwsEbs.dimensionsOf input.leaves)

theorem AcceptedRds.records_valid_iff (input : AcceptedRds) :
    (∀ record ∈ input.records, validRdsRecord record = true) ↔ input.PricesPositive :=
  AwsRds.records_valid_iff (eq_ok_get input.accepted)

theorem AcceptedEbs.records_valid_iff (input : AcceptedEbs) :
    (∀ record ∈ input.records, validEbsRate record.rate = true) ↔ input.PricesPositive := by
  refine AwsEbs.records_valid_iff (fun n => ?_) (eq_ok_get input.accepted)
  have hlt : n.toNat < 2 ^ 96 := n.toNat_lt.trans (by norm_num)
  rw [Decimal96.value_eq, Decimal96.toRat_ofNat hlt]
  exact Nat.cast_nonneg _

/-! ### The checks of a snapshot -/

section Create

variable {D : Type} [DecimalArith D] {sha256 : String → String}
  {metadata : SnapshotCreationMetadata} {sourceRegion : String}
  {ec2Rates : List (AwsEc2RateRecord D)} {rdsRates : List (AwsRdsRateRecord D)}
  {ebsRates : List (AwsEbsRateRecord D)}

/-- The rates a snapshot takes. -/
def AwsRatesValid (ec2Rates : List (AwsEc2RateRecord D)) (rdsRates : List (AwsRdsRateRecord D))
    (ebsRates : List (AwsEbsRateRecord D)) : Prop :=
  (∀ record ∈ ec2Rates, validEc2Record record = true) ∧
    (∀ record ∈ rdsRates, validRdsRecord record = true) ∧
      ∀ record ∈ ebsRates, validEbsRate record.rate = true

theorem validateAwsRates_normalizeRecords :
    validateAwsRates (normalizeRecords ec2Rates) (normalizeRecords rdsRates)
      (normalizeRecords ebsRates) = .ok () ↔ AwsRatesValid ec2Rates rdsRates ebsRates := by
  have hec2 := all_normalizeRecords validEc2Record (fun record => by
    simp only [validEc2Record, normalizeProvenance, RateRecord.withProvenance]
    rfl) ec2Rates
  have hrds := all_normalizeRecords validRdsRecord (fun record => by
    simp only [validRdsRecord, normalizeProvenance, RateRecord.withProvenance]
    rfl) rdsRates
  have hebs := all_normalizeRecords (fun record : AwsEbsRateRecord D => validEbsRate record.rate)
    (fun record => by simp only [normalizeProvenance, RateRecord.withProvenance]) ebsRates
  rw [AwsRatesValid, ← hec2, ← hrds, ← hebs]
  unfold validateAwsRates
  split
  · rename_i hall
    simp only [Bool.and_eq_true] at hall
    exact ⟨fun _ => ⟨hall.1.1, hall.1.2, hall.2⟩, fun _ => rfl⟩
  · rename_i hall
    refine ⟨fun h => (by cases h), fun hvalid => absurd ?_ hall⟩
    simp only [Bool.and_eq_true]
    exact ⟨⟨hvalid.1, hvalid.2.1⟩, hvalid.2.2⟩

theorem AwsPriceSnapshot.rates_valid_of_create {snapshot : AwsPriceSnapshot D}
    (h : create sha256 metadata sourceRegion ec2Rates rdsRates ebsRates = .ok snapshot) :
    AwsRatesValid ec2Rates rdsRates ebsRates := by
  unfold create at h
  obtain ⟨_, -, h⟩ := bind_eq_ok.mp h
  obtain ⟨_, -, h⟩ := bind_eq_ok.mp h
  obtain ⟨_, -, h⟩ := bind_eq_ok.mp h
  obtain ⟨_, hrates, -⟩ := bind_eq_ok.mp h
  exact validateAwsRates_normalizeRecords.mp hrates

/-- Only invalid rates are refused as such. -/
theorem AwsPriceSnapshot.rates_invalid_of_create
    (h : create sha256 metadata sourceRegion ec2Rates rdsRates ebsRates =
      .error .invalidAwsRates) : ¬ AwsRatesValid ec2Rates rdsRates ebsRates := by
  intro hvalid
  unfold create at h
  rcases bind_eq_error.mp h with hmetadata | ⟨_, -, h⟩
  · unfold validateCreationMetadata at hmetadata
    split at hmetadata
    · cases hmetadata
    · split_ifs at hmetadata <;> cases hmetadata
  rcases bind_eq_error.mp h with hkeys | ⟨_, -, h⟩
  · unfold validateUniqueKeys at hkeys
    split_ifs at hkeys
    cases hkeys
  rcases bind_eq_error.mp h with hprovenance | ⟨_, -, h⟩
  · unfold validateRateProvenance at hprovenance
    split_ifs at hprovenance
    cases hprovenance
  rcases bind_eq_error.mp h with hrates | ⟨_, -, h⟩
  · rw [validateAwsRates_normalizeRecords.mpr hvalid] at hrates
    cases hrates
  · cases h

end Create

/-! ### Agreement -/

namespace AwsRatesWitness

def rdsRow (sku family unit price : String) : AwsRds.RawDimension where
  sku := sku
  productFamily := family
  databaseEngine := some "SQL Server"
  databaseEdition := some "Standard"
  licenseModel := some "Bring your own media"
  licenseType := none
  deploymentModel := none
  deploymentOption := some "Single-AZ"
  instanceType := some "db.m5.xlarge"
  memory := some "16 GiB"
  vcpu := some "4"
  volumeName := some "gp3"
  volumeType := none
  termType := "OnDemand"
  offerTermCode := "JRTCKXETXF"
  leaseContractLength := none
  purchaseOption := none
  offeringClass := none
  rateCode := sku ++ ".rate"
  unit := unit
  price := price

def rdsLeaf (computePrice storagePrice : String) : AwsRds.RdsLeafPayload where
  sourceUrl := "https://prices.example/rds"
  sourceVersion := none
  effectiveAt := none
  body := some {
    sourceOfferCode := "AmazonRDS"
    dimensions := [rdsRow "compute" "Database Instance" "Hrs" computePrice,
      rdsRow "storage" "Database Storage" "GB-Mo" storagePrice] }

def ebsRow (component : AwsEbs.ComponentKind) (unit price : String) (start : Option UInt64) :
    AwsEbs.RawDimension where
  volumeType := "gp3"
  component := component
  termType := "OnDemand"
  rateCode := unit
  unit := unit
  price := price
  beginRange := start
  endRange := none

def ebsLeaf (capacityPrice : String) : AwsEbs.EbsLeafPayload where
  sourceUrl := "https://prices.example/ebs"
  sourceVersion := none
  effectiveAt := none
  body := some {
    sourceOfferCode := "AmazonEC2"
    dimensions := [ebsRow .capacity "GB-Mo" capacityPrice none,
      ebsRow .iops "IOPS-Mo" "0.005" (some 3000),
      ebsRow .throughput "MiBps-Mo" "0.04" (some 125)] }

def metadata : SnapshotCreationMetadata where
  status := .fresh
  retrievedAt := "2026-01-01T08:00:00Z"
  sourcePublishedAt := none
  currency := "USD"
  sourceUrls := ["https://prices.example"]
  parserSchemaVersion := "1"
  warnings := []

def pricedRds : AcceptedRds :=
  ⟨"eu-west-1", [rdsLeaf "0.5" "0.12"], by decide +kernel⟩

def pricedEbs : AcceptedEbs :=
  ⟨⟨"eu-west-1", "EU (Ireland)"⟩, [ebsLeaf "0.08"], by decide +kernel⟩

/-- A machine for nothing. -/
def freeRds : AcceptedRds :=
  ⟨"eu-west-1", [rdsLeaf "0.0000000000" "0.12"], by decide +kernel⟩

/-- Capacity for nothing. -/
def freeEbs : AcceptedEbs :=
  ⟨⟨"eu-west-1", "EU (Ireland)"⟩, [ebsLeaf "0"], by decide +kernel⟩

end AwsRatesWitness

end TcoCalculator
