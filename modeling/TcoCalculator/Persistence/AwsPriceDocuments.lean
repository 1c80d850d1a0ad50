/-
Snapshots in the pricing cache (src/rust/src/persistence/pricing_cache.rs): an
AWS snapshot is kept as a state document and one document for each service, an
Azure snapshot as one document.
-/
import TcoCalculator.Persistence.PricingCache
import TcoCalculator.Pricing.StoredSnapshot

namespace TcoCalculator.PricingCache

open DecimalArith RateRecord

def awsStateDocumentType : String := "aws_price_state"
def awsEc2DocumentType : String := "aws_ec2_prices"
def awsRdsDocumentType : String := "aws_rds_prices"
def awsEbsDocumentType : String := "aws_ebs_prices"
def azureSnapshotDocumentType : String := "azure_price_snapshot"
def persistentDocumentTtl : Int := -1

def awsStateDocumentId (currency sourceRegion : String) : String :=
  "aws-current-" ++ toAsciiLowercase currency ++ "-" ++ sourceRegion

def awsComponentDocumentId (service contentSha256 : String) : String :=
  "aws-" ++ service ++ "-" ++ contentSha256

/-- The digest of a serialized list of records. -/
def hashSerialized {R : Type} [RateRecord R] (sha256 : String → String) (records : List R) :
    String :=
  hashCanonical sha256 (recordsJson records)

/-- Errors of the snapshot constructor are passed on. -/
def ofSnapshotError {α : Type} : Except SnapshotError α → Except PricingCacheDocumentError α
  | .ok a => .ok a
  | .error e => .error (.snapshot e)

structure AwsSnapshotStateDocument where
  id : String
  documentType : String
  cachePartition : String
  provider : Provider
  currency : String
  sourceRegion : String
  snapshotId : String
  metadata : SnapshotMetadata
  ec2ContentSha256 : String
  rdsContentSha256 : String
  ebsContentSha256 : String
  ttl : Int
  deriving DecidableEq

/-- The prices of one service. -/
structure AwsPriceDocument (R : Type) where
  id : String
  documentType : String
  cachePartition : String
  provider : Provider
  currency : String
  sourceRegion : String
  parserSchemaVersion : String
  contentSha256 : String
  recordsSha256 : String
  records : List R
  ttl : Int
  deriving DecidableEq

/-- What tells the documents of the services apart. -/
structure AwsService (D R : Type) where
  service : String
  documentType : String
  rates : AwsPriceSnapshot D → List R
  /-- The rate lists of a snapshot that has only these records. -/
  alone : List R →
    List (AwsEc2RateRecord D) × List (AwsRdsRateRecord D) × List (AwsEbsRateRecord D)

section Components

variable {D R : Type} [DecimalArith D] [RateRecord R] (sha256 : String → String)
  (service : AwsService D R)

namespace AwsPriceDocument

def new (snapshot : AwsPriceSnapshot D) (contentSha256 : String) : AwsPriceDocument R where
  id := awsComponentDocumentId service.service contentSha256
  documentType := service.documentType
  cachePartition := pricingCachePartition
  provider := .aws
  currency := snapshot.metadata.currency
  sourceRegion := snapshot.sourceRegion
  parserSchemaVersion := snapshot.metadata.parserSchemaVersion
  contentSha256 := contentSha256
  recordsSha256 := hashSerialized sha256 (service.rates snapshot)
  records := service.rates snapshot
  ttl := persistentDocumentTtl

def validateComponentEnvelope (document : AwsPriceDocument R) :
    Except PricingCacheDocumentError Unit :=
  ensure (document.id = awsComponentDocumentId service.service document.contentSha256
    ∧ document.documentType = service.documentType
    ∧ document.cachePartition = pricingCachePartition
    ∧ document.provider = .aws
    ∧ document.currency ≠ ""
    ∧ document.sourceRegion ≠ ""
    ∧ document.parserSchemaVersion ≠ ""
    ∧ document.contentSha256 = awsServiceContentHash sha256 document.currency
        document.sourceRegion document.parserSchemaVersion document.records
    ∧ document.recordsSha256 = hashSerialized sha256 document.records
    ∧ document.ttl = persistentDocumentTtl) .envelopeMismatch

def componentMetadata (document : AwsPriceDocument R) : SnapshotCreationMetadata where
  status := .fresh
  retrievedAt := "1970-01-01T00:00:00Z"
  sourcePublishedAt := none
  currency := document.currency
  sourceUrls := []
  parserSchemaVersion := document.parserSchemaVersion
  warnings := []

/-- A snapshot of these records alone has them in the same form. -/
def validateRecords (document : AwsPriceDocument R) : Except PricingCacheDocumentError Unit := do
  let (ec2Rates, rdsRates, ebsRates) := service.alone document.records
  let rebuilt ← ofSnapshotError (AwsPriceSnapshot.create sha256 document.componentMetadata
    document.sourceRegion ec2Rates rdsRates ebsRates)
  ensure (recordsJson (service.rates rebuilt) = recordsJson document.records)
    (.snapshot .storedSnapshotMismatch)

def validate (document : AwsPriceDocument R) : Except PricingCacheDocumentError Unit := do
  document.validateComponentEnvelope sha256 service
  document.validateRecords sha256 service

omit [RateRecord R] in
def matchesScope (document : AwsPriceDocument R) (state : AwsSnapshotStateDocument) : Prop :=
  document.currency = state.currency ∧ document.sourceRegion = state.sourceRegion ∧
    document.parserSchemaVersion = state.metadata.parserSchemaVersion

instance (document : AwsPriceDocument R) (state : AwsSnapshotStateDocument) :
    Decidable (document.matchesScope state) :=
  inferInstanceAs (Decidable (_ ∧ _ ∧ _))

end AwsPriceDocument

end Components

abbrev AwsEc2PriceDocument (D : Type) := AwsPriceDocument (AwsEc2RateRecord D)
abbrev AwsRdsPriceDocument (D : Type) := AwsPriceDocument (AwsRdsRateRecord D)
abbrev AwsEbsPriceDocument (D : Type) := AwsPriceDocument (AwsEbsRateRecord D)

section Services

variable {D : Type} [DecimalArith D] (sha256 : String → String)

def ec2Service : AwsService D (AwsEc2RateRecord D) where
  service := "ec2"
  documentType := awsEc2DocumentType
  rates := AwsPriceSnapshot.ec2Rates
  alone records := (records, [], [])

def rdsService : AwsService D (AwsRdsRateRecord D) where
  service := "rds"
  documentType := awsRdsDocumentType
  rates := AwsPriceSnapshot.rdsRates
  alone records := ([], records, [])

def ebsService : AwsService D (AwsEbsRateRecord D) where
  service := "ebs"
  documentType := awsEbsDocumentType
  rates := AwsPriceSnapshot.ebsRates
  alone records := ([], [], records)

namespace AwsEc2PriceDocument

def new (snapshot : AwsPriceSnapshot D) (contentSha256 : String) : AwsEc2PriceDocument D :=
  AwsPriceDocument.new sha256 ec2Service snapshot contentSha256

def validate (document : AwsEc2PriceDocument D) : Except PricingCacheDocumentError Unit :=
  AwsPriceDocument.validate sha256 ec2Service document

end AwsEc2PriceDocument

namespace AwsRdsPriceDocument

def new (snapshot : AwsPriceSnapshot D) (contentSha256 : String) : AwsRdsPriceDocument D :=
  AwsPriceDocument.new sha256 rdsService snapshot contentSha256

def validate (document : AwsRdsPriceDocument D) : Except PricingCacheDocumentError Unit :=
  AwsPriceDocument.validate sha256 rdsService document

end AwsRdsPriceDocument

namespace AwsEbsPriceDocument

def new (snapshot : AwsPriceSnapshot D) (contentSha256 : String) : AwsEbsPriceDocument D :=
  AwsPriceDocument.new sha256 ebsService snapshot contentSha256

def validate (document : AwsEbsPriceDocument D) : Except PricingCacheDocumentError Unit :=
  AwsPriceDocument.validate sha256 ebsService document

end AwsEbsPriceDocument

namespace AwsSnapshotStateDocument

def new (snapshot : AwsPriceSnapshot D) (hashes : AwsServiceContentHashes) :
    AwsSnapshotStateDocument where
  id := awsStateDocumentId snapshot.metadata.currency snapshot.sourceRegion
  documentType := awsStateDocumentType
  cachePartition := pricingCachePartition
  provider := .aws
  currency := snapshot.metadata.currency
  sourceRegion := snapshot.sourceRegion
  snapshotId := snapshot.metadata.snapshotId
  metadata := snapshot.metadata
  ec2ContentSha256 := hashes.ec2
  rdsContentSha256 := hashes.rds
  ebsContentSha256 := hashes.ebs
  ttl := persistentDocumentTtl

def validate (state : AwsSnapshotStateDocument) : Except PricingCacheDocumentError Unit := do
  ensure (state.id = awsStateDocumentId state.currency state.sourceRegion
    ∧ state.documentType = awsStateDocumentType
    ∧ state.cachePartition = pricingCachePartition
    ∧ state.provider = .aws
    ∧ state.metadata.provider = .aws
    ∧ state.currency = state.metadata.currency
    ∧ state.snapshotId = state.metadata.snapshotId
    ∧ validSnapshotId state.snapshotId
    ∧ state.metadata.contentSha256 = String.ofList (state.snapshotId.toList.drop 4)
    ∧ state.metadata.status ≠ .unavailable
    ∧ validHash state.ec2ContentSha256
    ∧ validHash state.rdsContentSha256
    ∧ validHash state.ebsContentSha256
    ∧ state.ttl = persistentDocumentTtl) .envelopeMismatch
  let _ ← parseTimestamp state.metadata.retrievedAt

/-- The state document joined with the documents of the services. -/
def intoSnapshot (state : AwsSnapshotStateDocument) (ec2 : AwsEc2PriceDocument D)
    (rds : AwsRdsPriceDocument D) (ebs : AwsEbsPriceDocument D) :
    Except PricingCacheDocumentError (AwsPriceSnapshot D) := do
  state.validate
  AwsEc2PriceDocument.validate sha256 ec2
  AwsRdsPriceDocument.validate sha256 rds
  AwsEbsPriceDocument.validate sha256 ebs
  ensure (ec2.contentSha256 = state.ec2ContentSha256
    ∧ rds.contentSha256 = state.rdsContentSha256
    ∧ ebs.contentSha256 = state.ebsContentSha256
    ∧ ec2.matchesScope state
    ∧ rds.matchesScope state
    ∧ ebs.matchesScope state) .envelopeMismatch
  let snapshot ← ofSnapshotError (AwsPriceSnapshot.create sha256
    (creationMetadata state.metadata) state.sourceRegion ec2.records rds.records ebs.records)
  ensure (SnapshotJson.metadata snapshot.metadata = SnapshotJson.metadata state.metadata)
    (.snapshot .storedSnapshotMismatch)
  return snapshot

end AwsSnapshotStateDocument

structure AwsPriceDocuments (D : Type) where
  state : AwsSnapshotStateDocument
  ec2 : AwsEc2PriceDocument D
  rds : AwsRdsPriceDocument D
  ebs : AwsEbsPriceDocument D

namespace AwsPriceDocuments

/-- Records are always serializable, so the split itself cannot fail. -/
def new (snapshot : AwsPriceSnapshot D) :
    Except PricingCacheDocumentError (AwsPriceDocuments D) := do
  let hashes := awsServiceContentHashes sha256 snapshot
  return {
    state := AwsSnapshotStateDocument.new snapshot hashes
    ec2 := AwsEc2PriceDocument.new sha256 snapshot hashes.ec2
    rds := AwsRdsPriceDocument.new sha256 snapshot hashes.rds
    ebs := AwsEbsPriceDocument.new sha256 snapshot hashes.ebs }

/-- The scope of a document is the one of an incoming snapshot. -/
def sameScope {R : Type} (incoming : AwsPriceSnapshot D) (document : AwsPriceDocument R) :
    Bool :=
  document.currency == incoming.metadata.currency &&
    document.sourceRegion == incoming.sourceRegion &&
    document.parserSchemaVersion == incoming.metadata.parserSchemaVersion

/-- The state of a snapshot whose services may have been stored by others. -/
def stateForComponents (incoming : AwsPriceSnapshot D) (ec2 : AwsEc2PriceDocument D)
    (rds : AwsRdsPriceDocument D) (ebs : AwsEbsPriceDocument D) :
    Except PricingCacheDocumentError (AwsSnapshotStateDocument × AwsPriceSnapshot D) := do
  AwsEc2PriceDocument.validate sha256 ec2
  AwsRdsPriceDocument.validate sha256 rds
  AwsEbsPriceDocument.validate sha256 ebs
  ensure (sameScope incoming ec2 ∧ sameScope incoming rds ∧ sameScope incoming ebs)
    .envelopeMismatch
  let persisted ← ofSnapshotError (AwsPriceSnapshot.create sha256
    (creationMetadata incoming.metadata) incoming.sourceRegion ec2.records rds.records
    ebs.records)
  let documents ← new sha256 persisted
  return (documents.state, persisted)

end AwsPriceDocuments

end Services

/-! ### Azure -/

structure AzureSnapshotDocument (D : Type) where
  id : String
  documentType : String
  cachePartition : String
  provider : Provider
  currency : String
  targetRegion : String
  retrievedAt : String
  snapshot : AzurePriceSnapshot D
  deriving DecidableEq

namespace AzureSnapshotDocument

variable {D : Type} [DecimalArith D]

omit [DecimalArith D] in
def new (snapshot : AzurePriceSnapshot D) : AzureSnapshotDocument D where
  id := snapshot.metadata.snapshotId
  documentType := azureSnapshotDocumentType
  cachePartition := pricingCachePartition
  provider := .azure
  currency := snapshot.metadata.currency
  targetRegion := snapshot.targetRegion
  retrievedAt := snapshot.metadata.retrievedAt
  snapshot := snapshot

def intoSnapshot (sha256 : String → String) (document : AzureSnapshotDocument D) :
    Except (Halt PricingCacheDocumentError) (AzurePriceSnapshot D) := do
  Halt.checked (ensure (document.id = document.snapshot.metadata.snapshotId
    ∧ document.documentType = azureSnapshotDocumentType
    ∧ document.cachePartition = pricingCachePartition
    ∧ document.provider = .azure
    ∧ document.snapshot.metadata.provider = .azure
    ∧ document.currency = document.snapshot.metadata.currency
    ∧ document.targetRegion = document.snapshot.targetRegion
    ∧ document.retrievedAt = document.snapshot.metadata.retrievedAt) .envelopeMismatch)
  Halt.mapError .snapshot (validateStoredAzureSnapshot sha256 document.snapshot)

end AzureSnapshotDocument

end TcoCalculator.PricingCache
