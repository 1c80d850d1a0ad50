/-
A split snapshot is joined again to what it was, and documents are joined only
with the state that names them.
-/
import TcoCalculator.Persistence.AwsPriceDocuments
import TcoCalculator.Pricing.SnapshotIdentity

namespace TcoCalculator

open DecimalArith Fallible PriceSnapshot RateRecord

/-! ### Some of the accepted rates -/

namespace PriceSnapshot

variable {D : Type} [DecimalArith D]

theorem validateUniqueKeys_eq_ok {keys : List String} :
    validateUniqueKeys keys = .ok () ↔ "" ∉ keys ∧ keys.Nodup := by
  unfold validateUniqueKeys
  split
  · simp_all
    tauto
  · simp_all

theorem validateUniqueKeys_of_sublist {keys kept : List String} (hkept : kept.Sublist keys)
    (h : validateUniqueKeys keys = .ok ()) : validateUniqueKeys kept = .ok () := by
  obtain ⟨hnonempty, hnodup⟩ := validateUniqueKeys_eq_ok.mp h
  apply validateUniqueKeys_eq_ok.mpr
  exact ⟨fun hkey => hnonempty (hkept.subset hkey), hnodup.sublist hkept⟩

theorem validateRateProvenance_eq_ok {sources : List RateProvenance} :
    validateRateProvenance sources = .ok () ↔ ∀ source ∈ sources, source.sourceUrl ≠ "" := by
  unfold validateRateProvenance
  split <;> simp_all

theorem validateRateProvenance_of_subset {sources kept : List RateProvenance}
    (hkept : kept ⊆ sources) (h : validateRateProvenance sources = .ok ()) :
    validateRateProvenance kept = .ok () := by
  apply validateRateProvenance_eq_ok.mpr
  exact fun source hsource => validateRateProvenance_eq_ok.mp h source (hkept hsource)

theorem validateAwsRates_eq_ok {ec2Rates : List (AwsEc2RateRecord D)}
    {rdsRates : List (AwsRdsRateRecord D)} {ebsRates : List (AwsEbsRateRecord D)} :
    validateAwsRates ec2Rates rdsRates ebsRates = .ok () ↔
      (∀ record ∈ ec2Rates, validEc2Record record = true) ∧
        (∀ record ∈ rdsRates, validRdsRecord record = true) ∧
        ∀ record ∈ ebsRates, validEbsRate record.rate = true := by
  unfold validateAwsRates
  split <;> simp_all

end PriceSnapshot

namespace AwsPriceSnapshot.RatesAccepted

variable {D : Type} [DecimalArith D] {ec2Rates : List (AwsEc2RateRecord D)}
  {rdsRates : List (AwsRdsRateRecord D)} {ebsRates : List (AwsEbsRateRecord D)}

/-- Accepted rates stay accepted when records are left out. -/
theorem of_sublists (h : RatesAccepted ec2Rates rdsRates ebsRates)
    {ec2Kept : List (AwsEc2RateRecord D)} {rdsKept : List (AwsRdsRateRecord D)}
    {ebsKept : List (AwsEbsRateRecord D)} (hec2 : ec2Kept.Sublist ec2Rates)
    (hrds : rdsKept.Sublist rdsRates) (hebs : ebsKept.Sublist ebsRates) :
    RatesAccepted ec2Kept rdsKept ebsKept := by
  obtain ⟨hec2Rates, hrdsRates, hebsRates⟩ := validateAwsRates_eq_ok.mp h.rates
  constructor
  · apply validateUniqueKeys_of_sublist _ h.keys
    exact ((hec2.map _).append (hrds.map _)).append (hebs.map _)
  · apply validateRateProvenance_of_subset _ h.provenance
    exact (((hec2.map _).append (hrds.map _)).append (hebs.map _)).subset
  · apply validateAwsRates_eq_ok.mpr
    exact ⟨fun record hrecord => hec2Rates record (hec2.subset hrecord),
      fun record hrecord => hrdsRates record (hrds.subset hrecord),
      fun record hrecord => hebsRates record (hebs.subset hrecord)⟩

end AwsPriceSnapshot.RatesAccepted

theorem stripPrefix_append (lead value : String) : stripPrefix lead (lead ++ value) = some value := by
  simp [stripPrefix, String.toList_append]

theorem validSnapshotId_aws {hash : String} (h : validHash hash = true) :
    validSnapshotId ("aws-" ++ hash) = true := by
  simp [validSnapshotId, stripPrefix_append, h]

namespace PricingCache

variable {D : Type} [DecimalArith D] {sha256 : String → String}

@[simp] theorem ofSnapshotError_eq_ok {α : Type} {x : Except SnapshotError α} {a : α} :
    ofSnapshotError x = .ok a ↔ x = .ok a := by
  cases x <;> simp [ofSnapshotError]

/-- What has passed the checks of creation has a UTC retrieval time. -/
theorem parseTimestamp_of_creation {metadata : SnapshotCreationMetadata} {scope : String}
    (h : validateCreationMetadata metadata scope = .ok ()) :
    ∃ parsed, parseTimestamp metadata.retrievedAt = .ok parsed := by
  unfold validateCreationMetadata at h
  unfold parseTimestamp
  split at h
  · cases h
  · rename_i parsed hparsed
    rw [hparsed]
    by_cases hutc : parsed.isUtc = true
    · exact ⟨parsed, by simp [hutc]⟩
    · simp [hutc] at h

theorem creation_scope {metadata : SnapshotCreationMetadata} {scope : String}
    (h : validateCreationMetadata metadata scope = .ok ()) :
    metadata.currency ≠ "" ∧ scope ≠ "" ∧ metadata.parserSchemaVersion ≠ "" ∧
      metadata.status ≠ .unavailable := by
  unfold validateCreationMetadata at h
  split at h
  · cases h
  · split_ifs at h with hutc hscope hstatus
    exact ⟨fun h => hscope (.inl h), fun h => hscope (.inr (.inl h)),
      fun h => hscope (.inr (.inr h)), hstatus⟩

/-- A snapshot the constructor gives when called with the snapshot's parts. -/
def SelfCreated (sha256 : String → String) (snapshot : AwsPriceSnapshot D) : Prop :=
  AwsPriceSnapshot.create sha256 (creationMetadata snapshot.metadata) snapshot.sourceRegion
    snapshot.ec2Rates snapshot.rdsRates snapshot.ebsRates = .ok snapshot

namespace SelfCreated

variable {snapshot : AwsPriceSnapshot D}

theorem scope (h : SelfCreated sha256 snapshot) :
    validateCreationMetadata (creationMetadata snapshot.metadata) snapshot.sourceRegion =
      .ok () :=
  (AwsPriceSnapshot.create_eq_ok.mp h).1

theorem normal (h : SelfCreated sha256 snapshot) :
    normalizeRecords snapshot.ec2Rates = snapshot.ec2Rates ∧
      normalizeRecords snapshot.rdsRates = snapshot.rdsRates ∧
      normalizeRecords snapshot.ebsRates = snapshot.ebsRates := by
  obtain ⟨-, -, hassemble⟩ := AwsPriceSnapshot.create_eq_ok.mp h
  exact ⟨congrArg AwsPriceSnapshot.ec2Rates hassemble,
    congrArg AwsPriceSnapshot.rdsRates hassemble, congrArg AwsPriceSnapshot.ebsRates hassemble⟩

theorem accepted (h : SelfCreated sha256 snapshot) :
    AwsPriceSnapshot.RatesAccepted snapshot.ec2Rates snapshot.rdsRates snapshot.ebsRates := by
  obtain ⟨-, haccepted, -⟩ := AwsPriceSnapshot.create_eq_ok.mp h
  rwa [h.normal.1, h.normal.2.1, h.normal.2.2] at haccepted

/-- The identifier of a snapshot is made of its digest. -/
theorem identity (h : SelfCreated sha256 snapshot) :
    snapshot.metadata.provider = .aws ∧
      snapshot.metadata.snapshotId = "aws-" ++ snapshot.metadata.contentSha256 ∧
      ∃ text, snapshot.metadata.contentSha256 = sha256 text := by
  obtain ⟨-, -, hassemble⟩ := AwsPriceSnapshot.create_eq_ok.mp h
  rw [← hassemble]
  exact ⟨rfl, rfl, _, rfl⟩

end SelfCreated

/-! ### Documents of the services -/

section Components

variable {R : Type} [RateRecord R]

/-- The records of one service make a snapshot that has them unchanged. -/
def AwsService.Keeps (sha256 : String → String) (service : AwsService D R) : Prop :=
  ∀ (snapshot : AwsPriceSnapshot D) (metadata : SnapshotCreationMetadata) (region : String),
    SelfCreated sha256 snapshot → validateCreationMetadata metadata region = .ok () →
    ∃ rebuilt, AwsPriceSnapshot.create sha256 metadata region
        (service.alone (service.rates snapshot)).1 (service.alone (service.rates snapshot)).2.1
        (service.alone (service.rates snapshot)).2.2 = .ok rebuilt ∧
      service.rates rebuilt = service.rates snapshot

theorem normalizeRecords_nil : normalizeRecords ([] : List R) = [] := rfl

theorem ec2Service_keeps : (ec2Service : AwsService D _).Keeps sha256 := by
  intro snapshot metadata region hsnapshot hmetadata
  refine ⟨_, AwsPriceSnapshot.create_eq_ok.mpr ⟨hmetadata, ?_, rfl⟩, hsnapshot.normal.1⟩
  have haccepted := hsnapshot.accepted.of_sublists (.refl _) (List.nil_sublist _)
    (List.nil_sublist _)
  simpa only [ec2Service, hsnapshot.normal.1, normalizeRecords_nil] using haccepted

theorem rdsService_keeps : (rdsService : AwsService D _).Keeps sha256 := by
  intro snapshot metadata region hsnapshot hmetadata
  refine ⟨_, AwsPriceSnapshot.create_eq_ok.mpr ⟨hmetadata, ?_, rfl⟩, hsnapshot.normal.2.1⟩
  have haccepted := hsnapshot.accepted.of_sublists (List.nil_sublist _) (.refl _)
    (List.nil_sublist _)
  simpa only [rdsService, hsnapshot.normal.2.1, normalizeRecords_nil] using haccepted

theorem ebsService_keeps : (ebsService : AwsService D _).Keeps sha256 := by
  intro snapshot metadata region hsnapshot hmetadata
  refine ⟨_, AwsPriceSnapshot.create_eq_ok.mpr ⟨hmetadata, ?_, rfl⟩, hsnapshot.normal.2.2⟩
  have haccepted := hsnapshot.accepted.of_sublists (List.nil_sublist _) (List.nil_sublist _)
    (.refl _)
  simpa only [ebsService, hsnapshot.normal.2.2, normalizeRecords_nil] using haccepted

/-- A document split off a snapshot is valid. -/
theorem AwsPriceDocument.validate_new {service : AwsService D R}
    (hservice : service.Keeps sha256) {snapshot : AwsPriceSnapshot D}
    (hsnapshot : SelfCreated sha256 snapshot) :
    (AwsPriceDocument.new sha256 service snapshot
      (awsServiceContentHash sha256 snapshot.metadata.currency snapshot.sourceRegion
        snapshot.metadata.parserSchemaVersion (service.rates snapshot))).validate sha256 service =
      .ok () := by
  obtain ⟨hcurrency, hregion, hparser, -⟩ := creation_scope hsnapshot.scope
  apply bind_eq_ok.mpr
  refine ⟨(), ensure_of ⟨rfl, rfl, rfl, rfl, hcurrency, hregion, hparser, rfl, rfl, rfl⟩ _, ?_⟩
  have hmetadata : validateCreationMetadata (AwsPriceDocument.componentMetadata
      (AwsPriceDocument.new sha256 service snapshot
        (awsServiceContentHash sha256 snapshot.metadata.currency snapshot.sourceRegion
          snapshot.metadata.parserSchemaVersion (service.rates snapshot))))
      snapshot.sourceRegion = .ok () := by
    obtain ⟨parsed, hparse, hutc⟩ : ∃ parsed,
        Rfc3339.parse "1970-01-01T00:00:00Z" = some parsed ∧ parsed.isUtc = true :=
      ⟨_, rfl, rfl⟩
    simp_all [validateCreationMetadata, AwsPriceDocument.componentMetadata,
      AwsPriceDocument.new, creationMetadata]
  obtain ⟨rebuilt, hcreate, hrates⟩ := hservice snapshot _ _ hsnapshot hmetadata
  apply bind_eq_ok.mpr
  refine ⟨rebuilt, ofSnapshotError_eq_ok.mpr hcreate, ?_⟩
  rw [hrates]
  exact ensure_of rfl _

/-- The rates of a snapshot of one service's records are those records. -/
def AwsService.Reads (sha256 : String → String) (service : AwsService D R) : Prop :=
  ∀ (records : List R) (metadata : SnapshotCreationMetadata) (region : String) rebuilt,
    AwsPriceSnapshot.create sha256 metadata region (service.alone records).1
      (service.alone records).2.1 (service.alone records).2.2 = .ok rebuilt →
    service.rates rebuilt = normalizeRecords records

theorem ec2Service_reads : (ec2Service : AwsService D _).Reads sha256 := by
  intro records metadata region rebuilt h
  obtain ⟨-, -, rfl⟩ := AwsPriceSnapshot.create_eq_ok.mp h
  rfl

theorem rdsService_reads : (rdsService : AwsService D _).Reads sha256 := by
  intro records metadata region rebuilt h
  obtain ⟨-, -, rfl⟩ := AwsPriceSnapshot.create_eq_ok.mp h
  rfl

theorem ebsService_reads : (ebsService : AwsService D _).Reads sha256 := by
  intro records metadata region rebuilt h
  obtain ⟨-, -, rfl⟩ := AwsPriceSnapshot.create_eq_ok.mp h
  rfl

/-- What is left of a persisted record without its last field. -/
def withoutProvenance : Json → Json
  | .object fields => .object fields.dropLast
  | value => value

theorem withoutProvenance_toJson (record : R) :
    withoutProvenance (RateRecord.toJson record) = coreJson record := by
  simp [withoutProvenance, RateRecord.toJson, coreJson]

theorem map_coreJson_of_recordsJson {records others : List R}
    (h : recordsJson records = recordsJson others) :
    records.map coreJson = others.map coreJson := by
  have hcore : ∀ listed : List R,
      listed.map coreJson = (listed.map RateRecord.toJson).map withoutProvenance := by
    intro listed
    rw [List.map_map]
    exact List.map_congr_left fun record _ => (withoutProvenance_toJson record).symm
  rw [hcore, hcore, Json.array.inj h]

/-- What a service's digest is taken of. -/
def awsServiceCanonicalText (document : AwsPriceDocument R) : String :=
  (Json.object [
    ("provider", .string (SnapshotJson.provider .aws)),
    ("currency", .string document.currency),
    ("source_region", .string document.sourceRegion),
    ("parser_schema_version", .string document.parserSchemaVersion),
    ("records", .array (document.records.map coreJson))]).render

/-- A valid document carries the digest of its own content, and its records are
in normal form. -/
theorem AwsPriceDocument.of_validate {service : AwsService D R} (hreads : service.Reads sha256)
    {document : AwsPriceDocument R} (h : document.validate sha256 service = .ok ()) :
    document.contentSha256 = sha256 (awsServiceCanonicalText document) ∧
      (normalizeRecords document.records).map coreJson = document.records.map coreJson := by
  obtain ⟨_, henvelope, hrecords⟩ := bind_eq_ok.mp h
  obtain ⟨rebuilt, hcreate, hsame⟩ := bind_eq_ok.mp hrecords
  obtain ⟨-, -, -, -, -, -, -, hcontent, -, -⟩ := ensure_eq_ok.mp henvelope
  refine ⟨hcontent, map_coreJson_of_recordsJson ?_⟩
  rw [← hreads _ _ _ rebuilt (ofSnapshotError_eq_ok.mp hcreate)]
  exact ensure_eq_ok.mp hsame

/-- Two documents of one text are of one scope. -/
theorem scope_of_canonicalText {document other : AwsPriceDocument R}
    (h : awsServiceCanonicalText other = awsServiceCanonicalText document) :
    other.currency = document.currency ∧ other.sourceRegion = document.sourceRegion ∧
      other.parserSchemaVersion = document.parserSchemaVersion := by
  have hjson := Json.render_injective h
  simp only [Json.object.injEq, List.cons.injEq, Prod.mk.injEq, Json.string.injEq] at hjson
  exact ⟨hjson.2.1.2, hjson.2.2.1.2, hjson.2.2.2.1.2⟩

/-- The digest names the scope: without a collision no valid document of
another scope has it. -/
theorem matchesScope_of_contentSha256 {service : AwsService D R}
    (hreads : service.Reads sha256) {state : AwsSnapshotStateDocument}
    {document other : AwsPriceDocument R} (hdocument : document.validate sha256 service = .ok ())
    (hscope : document.matchesScope state) (hother : other.validate sha256 service = .ok ())
    (hcontent : other.contentSha256 = document.contentSha256)
    (hinjective : sha256 (awsServiceCanonicalText other) =
        sha256 (awsServiceCanonicalText document) →
      awsServiceCanonicalText other = awsServiceCanonicalText document) :
    other.matchesScope state := by
  have hdigest : sha256 (awsServiceCanonicalText other) =
      sha256 (awsServiceCanonicalText document) := by
    rw [← (AwsPriceDocument.of_validate hreads hother).1, hcontent,
      (AwsPriceDocument.of_validate hreads hdocument).1]
  obtain ⟨hcurrency, hregion, hparser⟩ := scope_of_canonicalText (hinjective hdigest)
  exact ⟨hcurrency.trans hscope.1, hregion.trans hscope.2.1, hparser.trans hscope.2.2⟩

end Components

/-! ### Split and join -/

section Join

variable {snapshot : AwsPriceSnapshot D} {state : AwsSnapshotStateDocument}
  {ec2 : AwsEc2PriceDocument D} {rds : AwsRdsPriceDocument D} {ebs : AwsEbsPriceDocument D}

theorem AwsSnapshotStateDocument.validate_new
    (hsha256 : ∀ text, validHash (sha256 text) = true) (h : SelfCreated sha256 snapshot) :
    (AwsSnapshotStateDocument.new snapshot (awsServiceContentHashes sha256 snapshot)).validate =
      .ok () := by
  obtain ⟨hprovider, hid, text, hcontent⟩ := h.identity
  obtain ⟨-, -, -, hstatus⟩ := creation_scope h.scope
  obtain ⟨parsed, hparsed⟩ := parseTimestamp_of_creation h.scope
  apply bind_eq_ok.mpr
  refine ⟨(), ensure_of ?_ _, ?_⟩
  · have hvalid : validSnapshotId snapshot.metadata.snapshotId = true := by
      rw [hid, hcontent]
      exact validSnapshotId_aws (hsha256 text)
    have hdrop : snapshot.metadata.contentSha256 =
        String.ofList (snapshot.metadata.snapshotId.toList.drop 4) := by
      rw [hid]
      simp [String.toList_append]
    exact ⟨rfl, rfl, rfl, rfl, hprovider, rfl, rfl, hvalid, hdrop, hstatus, hsha256 _,
      hsha256 _, hsha256 _, rfl⟩
  · exact bind_eq_ok.mpr ⟨parsed, hparsed, rfl⟩

theorem AwsPriceDocuments.join_new (hsha256 : ∀ text, validHash (sha256 text) = true)
    (h : SelfCreated sha256 snapshot) :
    ∃ documents, AwsPriceDocuments.new sha256 snapshot = .ok documents ∧
      documents.state.intoSnapshot sha256 documents.ec2 documents.rds documents.ebs =
        .ok snapshot := by
  refine ⟨_, rfl, ?_⟩
  apply bind_eq_ok.mpr ⟨(), AwsSnapshotStateDocument.validate_new hsha256 h, ?_⟩
  apply bind_eq_ok.mpr ⟨(), AwsPriceDocument.validate_new ec2Service_keeps h, ?_⟩
  apply bind_eq_ok.mpr ⟨(), AwsPriceDocument.validate_new rdsService_keeps h, ?_⟩
  apply bind_eq_ok.mpr ⟨(), AwsPriceDocument.validate_new ebsService_keeps h, ?_⟩
  apply bind_eq_ok.mpr ⟨(), ensure_of ⟨rfl, rfl, rfl, ⟨rfl, rfl, rfl⟩, ⟨rfl, rfl, rfl⟩,
    rfl, rfl, rfl⟩ _, ?_⟩
  apply bind_eq_ok.mpr ⟨snapshot, ofSnapshotError_eq_ok.mpr h, ?_⟩
  exact bind_eq_ok.mpr ⟨(), ensure_of rfl _, rfl⟩

/-- The documents a snapshot was joined from. -/
structure Joined (sha256 : String → String) (state : AwsSnapshotStateDocument)
    (ec2 : AwsEc2PriceDocument D) (rds : AwsRdsPriceDocument D) (ebs : AwsEbsPriceDocument D)
    (snapshot : AwsPriceSnapshot D) : Prop where
  stateValid : state.validate = .ok ()
  ec2Valid : AwsEc2PriceDocument.validate sha256 ec2 = .ok ()
  rdsValid : AwsRdsPriceDocument.validate sha256 rds = .ok ()
  ebsValid : AwsEbsPriceDocument.validate sha256 ebs = .ok ()
  contents : ec2.contentSha256 = state.ec2ContentSha256 ∧
    rds.contentSha256 = state.rdsContentSha256 ∧ ebs.contentSha256 = state.ebsContentSha256
  scopes : ec2.matchesScope state ∧ rds.matchesScope state ∧ ebs.matchesScope state
  created : AwsPriceSnapshot.create sha256 (creationMetadata state.metadata) state.sourceRegion
    ec2.records rds.records ebs.records = .ok snapshot

theorem AwsSnapshotStateDocument.joined_of_intoSnapshot
    (h : state.intoSnapshot sha256 ec2 rds ebs = .ok snapshot) :
    Joined sha256 state ec2 rds ebs snapshot := by
  unfold intoSnapshot at h
  obtain ⟨_, hstate, h⟩ := bind_eq_ok.mp h
  obtain ⟨_, hec2, h⟩ := bind_eq_ok.mp h
  obtain ⟨_, hrds, h⟩ := bind_eq_ok.mp h
  obtain ⟨_, hebs, h⟩ := bind_eq_ok.mp h
  obtain ⟨_, hnames, h⟩ := bind_eq_ok.mp h
  obtain ⟨rebuilt, hcreate, h⟩ := bind_eq_ok.mp h
  obtain ⟨_, -, h⟩ := bind_eq_ok.mp h
  cases h
  obtain ⟨hec2Content, hrdsContent, hebsContent, hscopes⟩ := ensure_eq_ok.mp hnames
  exact ⟨hstate, hec2, hrds, hebs, ⟨hec2Content, hrdsContent, hebsContent⟩, hscopes,
    ofSnapshotError_eq_ok.mp hcreate⟩

namespace Joined

theorem currency (h : Joined sha256 state ec2 rds ebs snapshot) :
    state.metadata.currency = state.currency := by
  obtain ⟨_, henvelope, -⟩ := bind_eq_ok.mp h.stateValid
  obtain ⟨-, -, -, -, -, hcurrency, -⟩ := ensure_eq_ok.mp henvelope
  exact hcurrency.symm

/-- The joined snapshot is of the scope the state names. -/
theorem snapshotScope (h : Joined sha256 state ec2 rds ebs snapshot) :
    snapshot.metadata.currency = state.currency ∧ snapshot.sourceRegion = state.sourceRegion ∧
      snapshot.metadata.parserSchemaVersion = state.metadata.parserSchemaVersion := by
  obtain ⟨-, -, rfl⟩ := AwsPriceSnapshot.create_eq_ok.mp h.created
  exact ⟨h.currency, rfl, rfl⟩

/-- The digest of a component in normal form is the one the state names. -/
theorem contentHash {R : Type} [RateRecord R] {service : AwsService D R}
    (hreads : service.Reads sha256) (h : Joined sha256 state ec2 rds ebs snapshot)
    {document : AwsPriceDocument R} (hvalid : document.validate sha256 service = .ok ())
    (hscope : document.matchesScope state) :
    awsServiceContentHash sha256 snapshot.metadata.currency snapshot.sourceRegion
      snapshot.metadata.parserSchemaVersion (normalizeRecords document.records) =
        document.contentSha256 := by
  obtain ⟨hcontent, hnormal⟩ := AwsPriceDocument.of_validate hreads hvalid
  obtain ⟨hcurrency, hregion, hparser⟩ := h.snapshotScope
  unfold awsServiceContentHash hashCanonical
  rw [hcontent, hnormal, hcurrency, hregion, hparser, ← hscope.1, ← hscope.2.1, ← hscope.2.2]
  rfl

/-- The joined snapshot has the digests the state names. -/
theorem contentHashes (h : Joined sha256 state ec2 rds ebs snapshot) :
    awsServiceContentHashes sha256 snapshot =
      ⟨state.ec2ContentSha256, state.rdsContentSha256, state.ebsContentSha256⟩ := by
  have hec2 := h.contentHash ec2Service_reads h.ec2Valid h.scopes.1
  have hrds := h.contentHash rdsService_reads h.rdsValid h.scopes.2.1
  have hebs := h.contentHash ebsService_reads h.ebsValid h.scopes.2.2
  obtain ⟨-, -, hsnapshot⟩ := AwsPriceSnapshot.create_eq_ok.mp h.created
  rw [h.contents.1] at hec2
  rw [h.contents.2.1] at hrds
  rw [h.contents.2.2] at hebs
  rw [← hec2, ← hrds, ← hebs, ← hsnapshot]
  rfl

end Joined

/-- No valid document of another scope has the digest a state names, unless the
two digested texts collide. -/
def NamesScope {R : Type} [RateRecord R] (sha256 : String → String) (service : AwsService D R)
    (state : AwsSnapshotStateDocument) (document : AwsPriceDocument R) : Prop :=
  ∀ other : AwsPriceDocument R, other.validate sha256 service = .ok () →
    other.contentSha256 = document.contentSha256 →
    (sha256 (awsServiceCanonicalText other) = sha256 (awsServiceCanonicalText document) →
      awsServiceCanonicalText other = awsServiceCanonicalText document) →
    other.matchesScope state

/-- Splitting and joining gives every snapshot back, and what is joined is of the
scope and the content the state names. -/
theorem aws_price_documents_split_join :
    (∀ sha256 : String → String, (∀ text, validHash (sha256 text) = true) →
      ∀ (metadata : SnapshotCreationMetadata) (sourceRegion : String)
        (ec2Rates : List (AwsEc2RateRecord D)) (rdsRates : List (AwsRdsRateRecord D))
        (ebsRates : List (AwsEbsRateRecord D)) (snapshot : AwsPriceSnapshot D),
      AwsPriceSnapshot.create sha256 metadata sourceRegion ec2Rates rdsRates ebsRates =
        .ok snapshot →
      ∃ documents, AwsPriceDocuments.new sha256 snapshot = .ok documents ∧
        documents.state.intoSnapshot sha256 documents.ec2 documents.rds documents.ebs =
          .ok snapshot) ∧
    ∀ (sha256 : String → String) (state : AwsSnapshotStateDocument)
      (ec2 : AwsEc2PriceDocument D) (rds : AwsRdsPriceDocument D) (ebs : AwsEbsPriceDocument D)
      (snapshot : AwsPriceSnapshot D),
      state.intoSnapshot sha256 ec2 rds ebs = .ok snapshot →
      (ec2.contentSha256 = state.ec2ContentSha256 ∧
        rds.contentSha256 = state.rdsContentSha256 ∧
        ebs.contentSha256 = state.ebsContentSha256) ∧
      (ec2.matchesScope state ∧ rds.matchesScope state ∧ ebs.matchesScope state) ∧
      (NamesScope sha256 ec2Service state ec2 ∧ NamesScope sha256 rdsService state rds ∧
        NamesScope sha256 ebsService state ebs) ∧
      snapshot.metadata.currency = state.currency ∧
      snapshot.sourceRegion = state.sourceRegion ∧
      snapshot.metadata.parserSchemaVersion = state.metadata.parserSchemaVersion ∧
      awsServiceContentHashes sha256 snapshot =
        ⟨state.ec2ContentSha256, state.rdsContentSha256, state.ebsContentSha256⟩ := by
  constructor
  · intro sha256 hsha256 metadata sourceRegion ec2Rates rdsRates ebsRates snapshot h
    exact AwsPriceDocuments.join_new hsha256 (AwsPriceSnapshot.create_again h)
  · intro sha256 state ec2 rds ebs snapshot h
    have hjoined := AwsSnapshotStateDocument.joined_of_intoSnapshot h
    obtain ⟨hcurrency, hregion, hparser⟩ := hjoined.snapshotScope
    refine ⟨hjoined.contents, hjoined.scopes, ⟨?_, ?_, ?_⟩, hcurrency, hregion, hparser,
      hjoined.contentHashes⟩
    · intro other hvalid hcontent hdistinct
      exact matchesScope_of_contentSha256 ec2Service_reads hjoined.ec2Valid hjoined.scopes.1 hvalid
        hcontent hdistinct
    · intro other hvalid hcontent hdistinct
      exact matchesScope_of_contentSha256 rdsService_reads hjoined.rdsValid hjoined.scopes.2.1 hvalid
        hcontent hdistinct
    · intro other hvalid hcontent hdistinct
      exact matchesScope_of_contentSha256 ebsService_reads hjoined.ebsValid hjoined.scopes.2.2 hvalid
        hcontent hdistinct

open SnapshotWitness in
/-- A snapshot of two records, under a constant digest of the right form. -/
theorem aws_price_documents_split_join_two :
    ∃ (snapshot : AwsPriceSnapshot ℚ) (documents : AwsPriceDocuments ℚ),
      snapshot.ec2Rates.length = 2 ∧
      AwsPriceDocuments.new (fun _ => String.ofList (List.replicate 64 '0')) snapshot =
        .ok documents ∧
      documents.state.intoSnapshot (fun _ => String.ofList (List.replicate 64 '0'))
        documents.ec2 documents.rds documents.ebs = .ok snapshot := by
  have hsha256 : ∀ _ : String, validHash (String.ofList (List.replicate 64 '0')) = true :=
    fun _ => by decide +kernel
  obtain ⟨snapshot, hcreated⟩ : ∃ snapshot,
      AwsPriceSnapshot.create (fun _ => String.ofList (List.replicate 64 '0')) morning
        "eu-west-1" morningRecords [] [] = .ok snapshot :=
    exists_ok_of_isSome (by decide +kernel)
  obtain ⟨documents, hnew, hjoin⟩ := (@aws_price_documents_split_join ℚ _).1 _ hsha256 _ _ _ _ _
    _ hcreated
  refine ⟨snapshot, documents, ?_, hnew, hjoin⟩
  obtain ⟨-, -, rfl⟩ := AwsPriceSnapshot.create_eq_ok.mp hcreated
  rfl

end Join

end PricingCache

end TcoCalculator
