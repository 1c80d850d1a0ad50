/-
The identity of a snapshot is canonical: neither the order in which records,
meters, sources and warnings arrive nor the time of the retrieval shows in it,
and creating a stored snapshot again changes nothing.
-/
import Mathlib.Data.String.Basic
import TcoCalculator.Domain.ExactDecimal
import TcoCalculator.Library.Sorting
import TcoCalculator.Pricing.StoredSnapshot

namespace TcoCalculator

open DecimalArith Fallible Halt PriceSnapshot

/-! ### Records -/

namespace RateRecord

/-- The price source is one of the fields of a record. -/
class Lawful (R : Type) [RateRecord R] : Prop where
  stableKey_withProvenance : ∀ (record : R) source,
    stableKey (withProvenance record source) = stableKey record
  provenance_withProvenance : ∀ (record : R) source,
    provenance (withProvenance record source) = source
  withProvenance_withProvenance : ∀ (record : R) source source',
    withProvenance (withProvenance record source) source' = withProvenance record source'
  withProvenance_provenance : ∀ record : R, withProvenance record (provenance record) = record
  coreFields_withProvenance : ∀ (record : R) source,
    coreFields (withProvenance record source) = coreFields record

variable {D : Type} [DecimalArith D]

instance : Lawful (AwsEc2RateRecord D) :=
  ⟨fun _ _ => rfl, fun _ _ => rfl, fun _ _ _ => rfl, fun _ => rfl, fun _ _ => rfl⟩

instance : Lawful (AwsRdsRateRecord D) :=
  ⟨fun _ _ => rfl, fun _ _ => rfl, fun _ _ _ => rfl, fun _ => rfl, fun _ _ => rfl⟩

instance : Lawful (AwsEbsRateRecord D) :=
  ⟨fun _ _ => rfl, fun _ _ => rfl, fun _ _ _ => rfl, fun _ => rfl, fun _ _ => rfl⟩

instance : Lawful (AzureMiRateRecord D) :=
  ⟨fun _ _ => rfl, fun _ _ => rfl, fun _ _ _ => rfl, fun _ => rfl, fun _ _ => rfl⟩

instance : Lawful (AzureVmRateRecord D) :=
  ⟨fun _ _ => rfl, fun _ _ => rfl, fun _ _ _ => rfl, fun _ => rfl, fun _ _ => rfl⟩

instance : Lawful (AzureManagedDiskRateRecord D) :=
  ⟨fun _ _ => rfl, fun _ _ => rfl, fun _ _ _ => rfl, fun _ => rfl, fun _ _ => rfl⟩

attribute [simp] Lawful.stableKey_withProvenance Lawful.provenance_withProvenance
  Lawful.withProvenance_withProvenance Lawful.withProvenance_provenance
  Lawful.coreFields_withProvenance

end RateRecord

namespace PriceSnapshot

open RateRecord

theorem sortedUnique_eq_of_mem {left right : List String}
    (h : ∀ text, text ∈ left ↔ text ∈ right) : sortedUnique left = sortedUnique right :=
  Sorting.sorted_destutter_eq_of_mem h

@[simp] theorem mem_sortedUnique {texts : List String} {text : String} :
    text ∈ sortedUnique texts ↔ text ∈ texts :=
  Sorting.mem_sorted_destutter

@[simp] theorem sortedUnique_idem (texts : List String) :
    sortedUnique (sortedUnique texts) = sortedUnique texts :=
  Sorting.sorted_destutter_idem texts

/-- Sources that name the same meters, in any order and any number of times. -/
structure SameSource (left right : RateProvenance) : Prop where
  sourceUrl : right.sourceUrl = left.sourceUrl
  effectiveAt : right.effectiveAt = left.effectiveAt
  sourceVersion : right.sourceVersion = left.sourceVersion
  meterIds : ∀ meterId, meterId ∈ left.meterIds ↔ meterId ∈ right.meterIds

variable {R : Type} [RateRecord R]

/-- Records that differ in how their meters are listed, if at all. -/
structure SameRecord (left right : R) : Prop where
  record : withProvenance left (provenance right) = right
  source : SameSource (provenance left) (provenance right)

/-- Lists of the same records in any order. -/
def SameRecords (left right : List R) : Prop :=
  ∃ permuted, left.Perm permuted ∧ List.Forall₂ SameRecord permuted right

/-- Normalizing the sources of records keeps a check that does not read them. -/
theorem all_normalizeRecords (valid : R → Bool)
    (hvalid : ∀ record, valid (normalizeProvenance record) = valid record) (records : List R) :
    (normalizeRecords records).all valid = true ↔ ∀ record ∈ records, valid record = true := by
  rw [List.all_eq_true]
  constructor
  · intro hall record hmem
    rw [← hvalid record]
    exact hall _ ((List.mem_insertionSort _).mpr (List.mem_map_of_mem hmem))
  · intro hall record hmem
    obtain ⟨original, horiginal, rfl⟩ := List.mem_map.mp ((List.mem_insertionSort _).mp hmem)
    rw [hvalid original]
    exact hall original horiginal

variable [Lawful R]

@[simp] theorem stableKey_normalizeProvenance (record : R) :
    stableKey (normalizeProvenance record) = stableKey record :=
  Lawful.stableKey_withProvenance record _

theorem SameRecord.normalizeProvenance_eq {left right : R} (h : SameRecord left right) :
    normalizeProvenance left = normalizeProvenance right := by
  have hmeters := sortedUnique_eq_of_mem h.source.meterIds
  have hsource : { provenance left with meterIds := sortedUnique (provenance left).meterIds } =
      { provenance right with meterIds := sortedUnique (provenance right).meterIds } := by
    simp only [hmeters, h.source.sourceUrl, h.source.effectiveAt, h.source.sourceVersion]
  unfold normalizeProvenance
  rw [hsource, ← h.record]
  simp

@[simp] theorem normalizeProvenance_idem (record : R) :
    normalizeProvenance (normalizeProvenance record) = normalizeProvenance record := by
  simp [normalizeProvenance]

theorem map_normalizeProvenance_eq {left right : List R}
    (h : List.Forall₂ SameRecord left right) :
    left.map normalizeProvenance = right.map normalizeProvenance := by
  induction h with
  | nil => rfl
  | cons hrecord _ ih => rw [List.map_cons, List.map_cons, hrecord.normalizeProvenance_eq, ih]

theorem map_stableKey_normalizeProvenance (records : List R) :
    (records.map normalizeProvenance).map stableKey = records.map stableKey := by
  rw [List.map_map]
  exact List.map_congr_left fun record _ => stableKey_normalizeProvenance record

theorem stableKeys_normalizeRecords (records : List R) :
    ((normalizeRecords records).map stableKey).Perm (records.map stableKey) := by
  have hperm := (List.perm_insertionSort (fun left right : R => stableKey left ≤ stableKey right)
    (records.map normalizeProvenance)).map stableKey
  rwa [map_stableKey_normalizeProvenance] at hperm

/-- Records with keys of their own come out in one order. -/
theorem SameRecords.normalizeRecords_eq {left right : List R} (h : SameRecords left right)
    (hunique : ((normalizeRecords left).map stableKey).Nodup) :
    normalizeRecords left = normalizeRecords right := by
  obtain ⟨permuted, hperm, hsame⟩ := h
  have hkeys : ((left.map normalizeProvenance).map stableKey).Nodup := by
    rw [map_stableKey_normalizeProvenance]
    exact (stableKeys_normalizeRecords left).nodup_iff.mp hunique
  unfold normalizeRecords
  rw [← map_normalizeProvenance_eq hsame]
  apply Sorting.insertionSort_eq_of_perm (fun a b => le_total (stableKey a) (stableKey b))
    (fun _ _ _ => le_trans) (hperm.map normalizeProvenance)
  intro a ha b hb hab hba
  exact List.inj_on_of_nodup_map hkeys ha hb (le_antisymm hab hba)

/-- Records in normal form stay as they are. -/
@[simp] theorem normalizeRecords_idem (records : List R) :
    normalizeRecords (normalizeRecords records) = normalizeRecords records := by
  have hfixed : ∀ record ∈ normalizeRecords records, normalizeProvenance record = record := by
    intro record hrecord
    obtain ⟨original, _, rfl⟩ := List.mem_map.mp ((List.mem_insertionSort _).mp hrecord)
    exact normalizeProvenance_idem original
  have hmap : (normalizeRecords records).map normalizeProvenance = normalizeRecords records :=
    (List.map_congr_left hfixed).trans (List.map_id _)
  conv_lhs => rw [normalizeRecords, hmap]
  exact Sorting.insertionSort_idem (fun a b => le_total (stableKey a) (stableKey b))
    (fun _ _ _ => le_trans) _

end PriceSnapshot

/-! ### Snapshots -/

/-- Metadata that tells of the same content: the sources and the warnings in
any order and any number of times, the retrieval and its status free. -/
structure SnapshotCreationMetadata.SameContent
    (metadata again : SnapshotCreationMetadata) : Prop where
  sourcePublishedAt : again.sourcePublishedAt = metadata.sourcePublishedAt
  currency : again.currency = metadata.currency
  parserSchemaVersion : again.parserSchemaVersion = metadata.parserSchemaVersion
  sourceUrls : ∀ url, url ∈ metadata.sourceUrls ↔ url ∈ again.sourceUrls
  warnings : ∀ warning, warning ∈ metadata.warnings ↔ warning ∈ again.warnings

/-- Only the retrieval shows in what is stored of such metadata. -/
theorem SnapshotCreationMetadata.SameContent.normalizeCreationMetadata_eq
    {metadata again : SnapshotCreationMetadata} (h : metadata.SameContent again) :
    normalizeCreationMetadata again =
      { normalizeCreationMetadata metadata with
        status := again.status
        retrievedAt := again.retrievedAt } := by
  simp only [normalizeCreationMetadata, h.sourcePublishedAt, h.currency,
    h.parserSchemaVersion, sortedUnique_eq_of_mem h.sourceUrls,
    sortedUnique_eq_of_mem h.warnings]

section Snapshots

open RateRecord

variable {D : Type} [DecimalArith D] {sha256 : String → String}

/-- The rates pass the checks of a snapshot. -/
structure AwsPriceSnapshot.RatesAccepted (ec2Rates : List (AwsEc2RateRecord D))
    (rdsRates : List (AwsRdsRateRecord D)) (ebsRates : List (AwsEbsRateRecord D)) : Prop where
  keys : validateUniqueKeys
    (ec2Rates.map stableKey ++ rdsRates.map stableKey ++ ebsRates.map stableKey) = .ok ()
  provenance : validateRateProvenance
    (ec2Rates.map provenance ++ rdsRates.map provenance ++ ebsRates.map provenance) = .ok ()
  rates : validateAwsRates ec2Rates rdsRates ebsRates = .ok ()

structure AzurePriceSnapshot.RatesAccepted (miRates : List (AzureMiRateRecord D))
    (vmRates : List (AzureVmRateRecord D))
    (managedDiskRates : List (AzureManagedDiskRateRecord D)) : Prop where
  keys : validateUniqueKeys
    (miRates.map stableKey ++ vmRates.map stableKey ++ managedDiskRates.map stableKey) = .ok ()
  provenance : validateRateProvenance
    (miRates.map provenance ++ vmRates.map provenance ++ managedDiskRates.map provenance) =
      .ok ()
  miRates : validateAzurePurchaseMatrices miRates = .ok ()
  vmRates : validateAzureVmRates vmRates managedDiskRates = .ok ()

/-- The digest of the content of a snapshot. -/
def AwsPriceSnapshot.contentSha256 (sha256 : String → String)
    (metadata : SnapshotCreationMetadata) (sourceRegion : String)
    (ec2Rates : List (AwsEc2RateRecord D)) (rdsRates : List (AwsRdsRateRecord D))
    (ebsRates : List (AwsEbsRateRecord D)) : String :=
  hashCanonical sha256 (.object [
    ("provider", .string (SnapshotJson.provider .aws)),
    ("currency", .string metadata.currency),
    ("source_region", .string sourceRegion),
    ("parser_schema_version", .string metadata.parserSchemaVersion),
    ("ec2_rates", recordsJson ec2Rates),
    ("rds_rates", recordsJson rdsRates),
    ("ebs_rates", recordsJson ebsRates)])

def AzurePriceSnapshot.contentSha256 (sha256 : String → String)
    (metadata : SnapshotCreationMetadata) (targetRegion : String)
    (miRates : List (AzureMiRateRecord D)) (vmRates : List (AzureVmRateRecord D))
    (managedDiskRates : List (AzureManagedDiskRateRecord D)) : String :=
  hashCanonical sha256 (.object [
    ("provider", .string (SnapshotJson.provider .azure)),
    ("currency", .string metadata.currency),
    ("target_region", .string targetRegion),
    ("parser_schema_version", .string metadata.parserSchemaVersion),
    ("mi_rates", recordsJson miRates),
    ("vm_rates", recordsJson vmRates),
    ("managed_disk_rates", recordsJson managedDiskRates)])

/-- The snapshot of rates in normal form. -/
def AwsPriceSnapshot.assemble (sha256 : String → String) (metadata : SnapshotCreationMetadata)
    (sourceRegion : String) (ec2Rates : List (AwsEc2RateRecord D))
    (rdsRates : List (AwsRdsRateRecord D)) (ebsRates : List (AwsEbsRateRecord D)) :
    AwsPriceSnapshot D where
  metadata := metadataOf .aws "aws-"
    (contentSha256 sha256 metadata sourceRegion ec2Rates rdsRates ebsRates)
    (normalizeCreationMetadata metadata)
  sourceRegion := sourceRegion
  ec2Rates := ec2Rates
  rdsRates := rdsRates
  ebsRates := ebsRates

def AzurePriceSnapshot.assemble (sha256 : String → String)
    (metadata : SnapshotCreationMetadata) (targetRegion : String)
    (miRates : List (AzureMiRateRecord D)) (vmRates : List (AzureVmRateRecord D))
    (managedDiskRates : List (AzureManagedDiskRateRecord D)) : AzurePriceSnapshot D where
  metadata := metadataOf .azure "azure-"
    (contentSha256 sha256 metadata targetRegion miRates vmRates managedDiskRates)
    (normalizeCreationMetadata metadata)
  targetRegion := targetRegion
  miRates := miRates
  vmRates := vmRates
  managedDiskRates := managedDiskRates

theorem AwsPriceSnapshot.create_eq_ok {metadata : SnapshotCreationMetadata}
    {sourceRegion : String} {ec2Rates : List (AwsEc2RateRecord D)}
    {rdsRates : List (AwsRdsRateRecord D)} {ebsRates : List (AwsEbsRateRecord D)}
    {snapshot : AwsPriceSnapshot D} :
    create sha256 metadata sourceRegion ec2Rates rdsRates ebsRates = .ok snapshot ↔
      validateCreationMetadata metadata sourceRegion = .ok () ∧
        RatesAccepted (normalizeRecords ec2Rates) (normalizeRecords rdsRates)
          (normalizeRecords ebsRates) ∧
        assemble sha256 metadata sourceRegion (normalizeRecords ec2Rates)
          (normalizeRecords rdsRates) (normalizeRecords ebsRates) = snapshot := by
  unfold create
  simp only [bind_eq_ok, pure_eq_ok, Except.ok.injEq]
  constructor
  · rintro ⟨_, hmetadata, _, hkeys, _, hprovenance, _, hrates, hsnapshot⟩
    exact ⟨hmetadata, ⟨hkeys, hprovenance, hrates⟩, hsnapshot⟩
  · rintro ⟨hmetadata, ⟨hkeys, hprovenance, hrates⟩, hsnapshot⟩
    exact ⟨_, hmetadata, _, hkeys, _, hprovenance, _, hrates, hsnapshot⟩

theorem AzurePriceSnapshot.createWithVmRates_eq_ok {metadata : SnapshotCreationMetadata}
    {targetRegion : String} {miRates : List (AzureMiRateRecord D)}
    {vmRates : List (AzureVmRateRecord D)}
    {managedDiskRates : List (AzureManagedDiskRateRecord D)} {snapshot : AzurePriceSnapshot D} :
    createWithVmRates sha256 metadata targetRegion miRates vmRates managedDiskRates =
        .ok snapshot ↔
      validateCreationMetadata metadata targetRegion = .ok () ∧
        RatesAccepted (normalizeRecords miRates) (normalizeRecords vmRates)
          (normalizeRecords managedDiskRates) ∧
        assemble sha256 metadata targetRegion (normalizeRecords miRates)
          (normalizeRecords vmRates) (normalizeRecords managedDiskRates) = snapshot := by
  unfold createWithVmRates
  simp only [bind_eq_ok, pure_eq_ok, Except.ok.injEq, checked_eq_ok]
  constructor
  · rintro ⟨_, hmetadata, _, hkeys, _, hprovenance, _, hmi, _, hvm, hsnapshot⟩
    exact ⟨hmetadata, ⟨hkeys, hprovenance, hmi, hvm⟩, hsnapshot⟩
  · rintro ⟨hmetadata, ⟨hkeys, hprovenance, hmi, hvm⟩, hsnapshot⟩
    exact ⟨_, hmetadata, _, hkeys, _, hprovenance, _, hmi, _, hvm, hsnapshot⟩

/-- Accepted keys are unique within each kind of record. -/
theorem validateUniqueKeys_nodup {first second third : List String}
    (h : validateUniqueKeys (first ++ second ++ third) = .ok ()) :
    first.Nodup ∧ second.Nodup ∧ third.Nodup := by
  unfold validateUniqueKeys at h
  split at h
  · cases h
  · rename_i hkeys
    have hnodup : (first ++ second ++ third).Nodup := by simp_all
    obtain ⟨hboth, hthird, _⟩ := List.nodup_append.mp hnodup
    obtain ⟨hfirst, hsecond, _⟩ := List.nodup_append.mp hboth
    exact ⟨hfirst, hsecond, hthird⟩

theorem AwsPriceSnapshot.create_of_sameContent {metadata again : SnapshotCreationMetadata}
    {sourceRegion : String} {ec2Rates ec2Again : List (AwsEc2RateRecord D)}
    {rdsRates rdsAgain : List (AwsRdsRateRecord D)}
    {ebsRates ebsAgain : List (AwsEbsRateRecord D)} {snapshot : AwsPriceSnapshot D}
    (hmetadata : metadata.SameContent again) (hec2 : SameRecords ec2Rates ec2Again)
    (hrds : SameRecords rdsRates rdsAgain) (hebs : SameRecords ebsRates ebsAgain)
    (hagain : validateCreationMetadata again sourceRegion = .ok ())
    (h : create sha256 metadata sourceRegion ec2Rates rdsRates ebsRates = .ok snapshot) :
    create sha256 again sourceRegion ec2Again rdsAgain ebsAgain =
      .ok { snapshot with
        metadata.status := again.status
        metadata.retrievedAt := again.retrievedAt } := by
  obtain ⟨_, haccepted, rfl⟩ := create_eq_ok.mp h
  obtain ⟨hec2Keys, hrdsKeys, hebsKeys⟩ := validateUniqueKeys_nodup haccepted.keys
  apply create_eq_ok.mpr
  rw [← hec2.normalizeRecords_eq hec2Keys, ← hrds.normalizeRecords_eq hrdsKeys,
    ← hebs.normalizeRecords_eq hebsKeys]
  refine ⟨hagain, haccepted, ?_⟩
  unfold assemble contentSha256
  rw [hmetadata.normalizeCreationMetadata_eq, hmetadata.currency,
    hmetadata.parserSchemaVersion]
  rfl

theorem AzurePriceSnapshot.createWithVmRates_of_sameContent
    {metadata again : SnapshotCreationMetadata} {targetRegion : String}
    {miRates miAgain : List (AzureMiRateRecord D)}
    {vmRates vmAgain : List (AzureVmRateRecord D)}
    {managedDiskRates diskAgain : List (AzureManagedDiskRateRecord D)}
    {snapshot : AzurePriceSnapshot D} (hmetadata : metadata.SameContent again)
    (hmi : SameRecords miRates miAgain) (hvm : SameRecords vmRates vmAgain)
    (hdisk : SameRecords managedDiskRates diskAgain)
    (hagain : validateCreationMetadata again targetRegion = .ok ())
    (h : createWithVmRates sha256 metadata targetRegion miRates vmRates managedDiskRates =
      .ok snapshot) :
    createWithVmRates sha256 again targetRegion miAgain vmAgain diskAgain =
      .ok { snapshot with
        metadata.status := again.status
        metadata.retrievedAt := again.retrievedAt } := by
  obtain ⟨_, haccepted, rfl⟩ := createWithVmRates_eq_ok.mp h
  obtain ⟨hmiKeys, hvmKeys, hdiskKeys⟩ := validateUniqueKeys_nodup haccepted.keys
  apply createWithVmRates_eq_ok.mpr
  rw [← hmi.normalizeRecords_eq hmiKeys, ← hvm.normalizeRecords_eq hvmKeys,
    ← hdisk.normalizeRecords_eq hdiskKeys]
  refine ⟨hagain, haccepted, ?_⟩
  unfold assemble contentSha256
  rw [hmetadata.normalizeCreationMetadata_eq, hmetadata.currency,
    hmetadata.parserSchemaVersion]
  rfl

/-! ### Stored snapshots -/

@[simp] theorem normalizeCreationMetadata_idem (metadata : SnapshotCreationMetadata) :
    normalizeCreationMetadata (normalizeCreationMetadata metadata) =
      normalizeCreationMetadata metadata := by
  simp [normalizeCreationMetadata]

/-- A snapshot keeps the normal form of the metadata it was created with. -/
theorem creationMetadata_metadataOf (provider : Provider) (lead contentSha256 : String)
    (metadata : SnapshotCreationMetadata) :
    creationMetadata (metadataOf provider lead contentSha256 metadata) = metadata := rfl

theorem validateCreationMetadata_normalize (metadata : SnapshotCreationMetadata)
    (scope : String) : validateCreationMetadata (normalizeCreationMetadata metadata) scope =
      validateCreationMetadata metadata scope := rfl

/-- Creating a snapshot from its own parts gives the snapshot. -/
theorem AwsPriceSnapshot.create_again {metadata : SnapshotCreationMetadata}
    {sourceRegion : String} {ec2Rates : List (AwsEc2RateRecord D)}
    {rdsRates : List (AwsRdsRateRecord D)} {ebsRates : List (AwsEbsRateRecord D)}
    {snapshot : AwsPriceSnapshot D}
    (h : create sha256 metadata sourceRegion ec2Rates rdsRates ebsRates = .ok snapshot) :
    create sha256 (creationMetadata snapshot.metadata) snapshot.sourceRegion snapshot.ec2Rates
      snapshot.rdsRates snapshot.ebsRates = .ok snapshot := by
  obtain ⟨hmetadata, haccepted, rfl⟩ := create_eq_ok.mp h
  apply create_eq_ok.mpr
  simp only [assemble, creationMetadata_metadataOf, normalizeRecords_idem,
    normalizeCreationMetadata_idem, validateCreationMetadata_normalize]
  exact ⟨hmetadata, haccepted, rfl⟩

theorem AzurePriceSnapshot.create_again {metadata : SnapshotCreationMetadata}
    {targetRegion : String} {miRates : List (AzureMiRateRecord D)}
    {vmRates : List (AzureVmRateRecord D)}
    {managedDiskRates : List (AzureManagedDiskRateRecord D)} {snapshot : AzurePriceSnapshot D}
    (h : createWithVmRates sha256 metadata targetRegion miRates vmRates managedDiskRates =
      .ok snapshot) :
    createWithVmRates sha256 (creationMetadata snapshot.metadata) snapshot.targetRegion
      snapshot.miRates snapshot.vmRates snapshot.managedDiskRates = .ok snapshot := by
  obtain ⟨hmetadata, haccepted, rfl⟩ := createWithVmRates_eq_ok.mp h
  apply createWithVmRates_eq_ok.mpr
  simp only [assemble, creationMetadata_metadataOf, normalizeRecords_idem,
    normalizeCreationMetadata_idem, validateCreationMetadata_normalize]
  exact ⟨hmetadata, haccepted, rfl⟩

theorem validateStoredAwsSnapshot_create {metadata : SnapshotCreationMetadata}
    {sourceRegion : String} {ec2Rates : List (AwsEc2RateRecord D)}
    {rdsRates : List (AwsRdsRateRecord D)} {ebsRates : List (AwsEbsRateRecord D)}
    {snapshot : AwsPriceSnapshot D}
    (h : AwsPriceSnapshot.create sha256 metadata sourceRegion ec2Rates rdsRates ebsRates =
      .ok snapshot) : validateStoredAwsSnapshot sha256 snapshot = .ok snapshot := by
  unfold validateStoredAwsSnapshot
  rw [AwsPriceSnapshot.create_again h]
  simp [ensure]

theorem validateStoredAzureSnapshot_create {metadata : SnapshotCreationMetadata}
    {targetRegion : String} {miRates : List (AzureMiRateRecord D)}
    {vmRates : List (AzureVmRateRecord D)}
    {managedDiskRates : List (AzureManagedDiskRateRecord D)} {snapshot : AzurePriceSnapshot D}
    (h : AzurePriceSnapshot.createWithVmRates sha256 metadata targetRegion miRates vmRates
      managedDiskRates = .ok snapshot) :
    validateStoredAzureSnapshot sha256 snapshot = .ok snapshot := by
  unfold validateStoredAzureSnapshot
  rw [AzurePriceSnapshot.create_again h]
  simp [ensure]

/-- The identity and the rates of a snapshot are those of its content, whatever
the order and the retrieval it came with, and stored snapshots are read back
unchanged. -/
theorem snapshot_identity_is_canonical (sha256 : String → String) :
    (∀ (metadata again : SnapshotCreationMetadata) (sourceRegion : String)
      (ec2Rates ec2Again : List (AwsEc2RateRecord D))
      (rdsRates rdsAgain : List (AwsRdsRateRecord D))
      (ebsRates ebsAgain : List (AwsEbsRateRecord D)) (snapshot : AwsPriceSnapshot D),
      metadata.SameContent again → SameRecords ec2Rates ec2Again →
      SameRecords rdsRates rdsAgain → SameRecords ebsRates ebsAgain →
      validateCreationMetadata again sourceRegion = .ok () →
      AwsPriceSnapshot.create sha256 metadata sourceRegion ec2Rates rdsRates ebsRates =
        .ok snapshot →
      ∃ other, AwsPriceSnapshot.create sha256 again sourceRegion ec2Again rdsAgain ebsAgain =
          .ok other ∧
        other.metadata.snapshotId = snapshot.metadata.snapshotId ∧
        other.ec2Rates = snapshot.ec2Rates ∧ other.rdsRates = snapshot.rdsRates ∧
        other.ebsRates = snapshot.ebsRates) ∧
    (∀ (metadata again : SnapshotCreationMetadata) (targetRegion : String)
      (miRates miAgain : List (AzureMiRateRecord D))
      (vmRates vmAgain : List (AzureVmRateRecord D))
      (managedDiskRates diskAgain : List (AzureManagedDiskRateRecord D))
      (snapshot : AzurePriceSnapshot D),
      metadata.SameContent again → SameRecords miRates miAgain → SameRecords vmRates vmAgain →
      SameRecords managedDiskRates diskAgain →
      validateCreationMetadata again targetRegion = .ok () →
      AzurePriceSnapshot.createWithVmRates sha256 metadata targetRegion miRates vmRates
        managedDiskRates = .ok snapshot →
      ∃ other, AzurePriceSnapshot.createWithVmRates sha256 again targetRegion miAgain vmAgain
          diskAgain = .ok other ∧
        other.metadata.snapshotId = snapshot.metadata.snapshotId ∧
        other.miRates = snapshot.miRates ∧ other.vmRates = snapshot.vmRates ∧
        other.managedDiskRates = snapshot.managedDiskRates) ∧
    (∀ (metadata : SnapshotCreationMetadata) (sourceRegion : String)
      (ec2Rates : List (AwsEc2RateRecord D)) (rdsRates : List (AwsRdsRateRecord D))
      (ebsRates : List (AwsEbsRateRecord D)) (snapshot : AwsPriceSnapshot D),
      AwsPriceSnapshot.create sha256 metadata sourceRegion ec2Rates rdsRates ebsRates =
        .ok snapshot → validateStoredAwsSnapshot sha256 snapshot = .ok snapshot) ∧
    ∀ (metadata : SnapshotCreationMetadata) (targetRegion : String)
      (miRates : List (AzureMiRateRecord D)) (vmRates : List (AzureVmRateRecord D))
      (managedDiskRates : List (AzureManagedDiskRateRecord D)) (snapshot : AzurePriceSnapshot D),
      AzurePriceSnapshot.createWithVmRates sha256 metadata targetRegion miRates vmRates
        managedDiskRates = .ok snapshot →
      validateStoredAzureSnapshot sha256 snapshot = .ok snapshot := by
  refine ⟨?_, ?_, ?_, ?_⟩
  · intro metadata again sourceRegion ec2Rates ec2Again rdsRates rdsAgain ebsRates ebsAgain
      snapshot hmetadata hec2 hrds hebs hagain h
    exact ⟨_, AwsPriceSnapshot.create_of_sameContent hmetadata hec2 hrds hebs hagain h,
      rfl, rfl, rfl, rfl⟩
  · intro metadata again targetRegion miRates miAgain vmRates vmAgain managedDiskRates diskAgain
      snapshot hmetadata hmi hvm hdisk hagain h
    exact ⟨_, AzurePriceSnapshot.createWithVmRates_of_sameContent hmetadata hmi hvm hdisk
      hagain h, rfl, rfl, rfl, rfl⟩
  · intro metadata sourceRegion ec2Rates rdsRates ebsRates snapshot h
    exact validateStoredAwsSnapshot_create h
  · intro metadata targetRegion miRates vmRates managedDiskRates snapshot h
    exact validateStoredAzureSnapshot_create h

end Snapshots

namespace SnapshotWitness

def metadata (status : ResolutionStatus) (retrievedAt : String) (warnings : List String) :
    SnapshotCreationMetadata where
  status := status
  retrievedAt := retrievedAt
  sourcePublishedAt := none
  currency := "EUR"
  sourceUrls := ["https://prices.example"]
  parserSchemaVersion := "1"
  warnings := warnings

def ec2Record (stableKey : String) (meterIds : List String) : AwsEc2RateRecord ℚ where
  stableKey := stableKey
  instanceType := "m5.large"
  rate := ⟨2, 8, 1 / 10, none, none⟩
  provenance := ⟨"https://prices.example", none, none, meterIds⟩

def morning : SnapshotCreationMetadata :=
  metadata .fresh "2026-01-01T08:00:00Z" ["partial", "late", "partial"]

def evening : SnapshotCreationMetadata :=
  metadata .cached "2026-01-01T20:00:00Z" ["late", "partial"]

def morningRecords : List (AwsEc2RateRecord ℚ) :=
  [ec2Record "b" ["meter-2", "meter-1", "meter-2"], ec2Record "a" []]

def eveningRecords : List (AwsEc2RateRecord ℚ) :=
  [ec2Record "a" [], ec2Record "b" ["meter-1", "meter-2"]]

theorem sameRecords : SameRecords morningRecords eveningRecords := by
  refine ⟨_, List.Perm.swap _ _ _, List.Forall₂.cons ?_ (List.Forall₂.cons ?_ .nil)⟩
  · exact ⟨rfl, rfl, rfl, rfl, fun _ => Iff.rfl⟩
  · refine ⟨rfl, rfl, rfl, rfl, fun meterId => ?_⟩
    simp [ec2Record, RateRecord.provenance]
    tauto

end SnapshotWitness

open SnapshotWitness in
/-- The same prices, read twice in different orders. -/
theorem snapshot_identity_is_canonical_twice :
    ∃ snapshot other,
      AwsPriceSnapshot.create (fun text => text) morning "eu-west-1" morningRecords [] [] =
        .ok snapshot ∧
      AwsPriceSnapshot.create (fun text => text) evening "eu-west-1" eveningRecords [] [] =
        .ok other ∧
      other.metadata.snapshotId = snapshot.metadata.snapshotId := by
  obtain ⟨snapshot, hsnapshot⟩ : ∃ snapshot,
      AwsPriceSnapshot.create (fun text => text) morning "eu-west-1" morningRecords [] [] =
        .ok snapshot :=
    exists_ok_of_isSome (by decide +kernel)
  obtain ⟨other, hother, hid, -⟩ :=
    (@snapshot_identity_is_canonical ℚ _ fun text => text).1 morning evening "eu-west-1"
      morningRecords eveningRecords [] [] [] [] snapshot
      ⟨rfl, rfl, rfl, fun _ => Iff.rfl, fun warning => by
        simp [morning, evening, SnapshotWitness.metadata]
        tauto⟩
      sameRecords ⟨[], .nil, .nil⟩ ⟨[], .nil, .nil⟩ (by decide +kernel) hsnapshot
  exact ⟨snapshot, other, hsnapshot, hother, hid⟩

end TcoCalculator
