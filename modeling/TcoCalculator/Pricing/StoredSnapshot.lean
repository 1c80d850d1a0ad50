/-
Snapshots as they are stored: their persisted form, the checks a stored one
passes and the digests of one service's prices (src/rust/src/pricing/snapshot.rs).
-/
import TcoCalculator.Library.JsonUnambiguous
import TcoCalculator.Pricing.Snapshot

namespace TcoCalculator

open ResourceJson RateRecord

namespace SnapshotJson

variable {D : Type} [DecimalArith D]

def status : ResolutionStatus → String
  | .fresh => "fresh"
  | .cached => "cached"
  | .stale => "stale"
  | .unavailable => "unavailable"

def metadata (metadata : SnapshotMetadata) : Json := .object [
  ("snapshot_id", .string metadata.snapshotId),
  ("provider", .string (provider metadata.provider)),
  ("status", .string (status metadata.status)),
  ("retrieved_at", .string metadata.retrievedAt),
  ("source_published_at", option .string metadata.sourcePublishedAt),
  ("currency", .string metadata.currency),
  ("source_urls", .array (metadata.sourceUrls.map .string)),
  ("parser_schema_version", .string metadata.parserSchemaVersion),
  ("content_sha256", .string metadata.contentSha256),
  ("warnings", .array (metadata.warnings.map .string))]

def awsSnapshot (snapshot : AwsPriceSnapshot D) : Json := .object [
  ("metadata", metadata snapshot.metadata),
  ("source_region", .string snapshot.sourceRegion),
  ("ec2_rates", recordsJson snapshot.ec2Rates),
  ("rds_rates", recordsJson snapshot.rdsRates),
  ("ebs_rates", recordsJson snapshot.ebsRates)]

def azureSnapshot (snapshot : AzurePriceSnapshot D) : Json := .object [
  ("metadata", metadata snapshot.metadata),
  ("target_region", .string snapshot.targetRegion),
  ("mi_rates", recordsJson snapshot.miRates),
  ("vm_rates", recordsJson snapshot.vmRates),
  ("managed_disk_rates", recordsJson snapshot.managedDiskRates)]

end SnapshotJson

/-- The metadata a snapshot is created with again. -/
def creationMetadata (metadata : SnapshotMetadata) : SnapshotCreationMetadata where
  status := metadata.status
  retrievedAt := metadata.retrievedAt
  sourcePublishedAt := metadata.sourcePublishedAt
  currency := metadata.currency
  sourceUrls := metadata.sourceUrls
  parserSchemaVersion := metadata.parserSchemaVersion
  warnings := metadata.warnings

section Stored

variable {D : Type} [DecimalArith D] (sha256 : String → String)

def validateStoredAwsSnapshot (snapshot : AwsPriceSnapshot D) :
    Except SnapshotError (AwsPriceSnapshot D) := do
  let rebuilt ← AwsPriceSnapshot.create sha256 (creationMetadata snapshot.metadata)
    snapshot.sourceRegion snapshot.ec2Rates snapshot.rdsRates snapshot.ebsRates
  ensure (SnapshotJson.awsSnapshot rebuilt = SnapshotJson.awsSnapshot snapshot)
    .storedSnapshotMismatch
  return rebuilt

def validateStoredAzureSnapshot (snapshot : AzurePriceSnapshot D) :
    Except (Halt SnapshotError) (AzurePriceSnapshot D) := do
  let rebuilt ← AzurePriceSnapshot.createWithVmRates sha256 (creationMetadata snapshot.metadata)
    snapshot.targetRegion snapshot.miRates snapshot.vmRates snapshot.managedDiskRates
  ensure (SnapshotJson.azureSnapshot rebuilt = SnapshotJson.azureSnapshot snapshot)
    (.error .storedSnapshotMismatch)
  return rebuilt

/-! ### Digests of one service -/

/-- The digest of the records of one service, without their price sources. -/
def awsServiceContentHash {R : Type} [RateRecord R] (currency sourceRegion : String)
    (parserSchemaVersion : String) (records : List R) : String :=
  hashCanonical sha256 (.object [
    ("provider", .string (SnapshotJson.provider .aws)),
    ("currency", .string currency),
    ("source_region", .string sourceRegion),
    ("parser_schema_version", .string parserSchemaVersion),
    ("records", .array (records.map coreJson))])

def awsEc2ContentHash (currency sourceRegion parserSchemaVersion : String)
    (records : List (AwsEc2RateRecord D)) : String :=
  awsServiceContentHash sha256 currency sourceRegion parserSchemaVersion records

def awsRdsContentHash (currency sourceRegion parserSchemaVersion : String)
    (records : List (AwsRdsRateRecord D)) : String :=
  awsServiceContentHash sha256 currency sourceRegion parserSchemaVersion records

def awsEbsContentHash (currency sourceRegion parserSchemaVersion : String)
    (records : List (AwsEbsRateRecord D)) : String :=
  awsServiceContentHash sha256 currency sourceRegion parserSchemaVersion records

structure AwsServiceContentHashes where
  ec2 : String
  rds : String
  ebs : String
  deriving DecidableEq

def awsServiceContentHashes (snapshot : AwsPriceSnapshot D) : AwsServiceContentHashes where
  ec2 := awsEc2ContentHash sha256 snapshot.metadata.currency snapshot.sourceRegion
    snapshot.metadata.parserSchemaVersion snapshot.ec2Rates
  rds := awsRdsContentHash sha256 snapshot.metadata.currency snapshot.sourceRegion
    snapshot.metadata.parserSchemaVersion snapshot.rdsRates
  ebs := awsEbsContentHash sha256 snapshot.metadata.currency snapshot.sourceRegion
    snapshot.metadata.parserSchemaVersion snapshot.ebsRates

end Stored

end TcoCalculator
