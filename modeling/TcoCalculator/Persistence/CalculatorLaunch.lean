/-
The calculator-launch documents and their in-memory repository
(src/rust/src/persistence/calculator_launch.rs): a launch is created ready,
claimed by one companion and consumed by its acknowledgement.
-/
import TcoCalculator.Domain.Decimal
import TcoCalculator.Domain.Uuid
import TcoCalculator.Library.Fallible
import TcoCalculator.Library.HashMap
import TcoCalculator.Library.Json
import TcoCalculator.Library.Locked
import TcoCalculator.Library.Rfc3339

namespace TcoCalculator.CalculatorLaunch

open Rfc3339

def calculatorLaunchDocumentType : String := "azure_calculator_launch"
def calculatorManifestVersion : Nat := 2
def calculatorProtocolVersion : Nat := 1
def calculatorContractVersion : String := "2026-08-24"
def minimumCompanionVersion : String := "1.0.0"
def maxCalculatorManifestItems : Nat := 25
def maxCalculatorManifestBytes : Nat := 256 * 1024
def activeTtlSeconds : Nat := 10 * 60
def consumedTtlSeconds : Nat := 24 * 60 * 60

inductive CalculatorProduct where
  | azureSqlManagedInstance
  deriving DecidableEq, Repr

inductive CalculatorDeploymentModel where
  | singleInstance
  deriving DecidableEq, Repr

inductive CalculatorServiceTier where
  | nextGenerationGeneralPurpose
  | businessCritical
  deriving DecidableEq, Repr

inductive CalculatorHardwareFamily where
  | premiumSeries
  | premiumSeriesMemoryOptimized
  deriving DecidableEq, Repr

inductive CalculatorPurchaseOption where
  | payg
  | oneYearReservation
  | threeYearReservation
  | oneYearSavingsPlan
  deriving DecidableEq, Repr

structure CalculatorExpectedPublicAnnual (D : Type) where
  compute : D
  additionalMemory : D
  license : D
  storage : D
  totalBeforeParity : D
  deriving DecidableEq

structure CalculatorManifestItem (D : Type) where
  itemKey : String
  displayName : String
  product : CalculatorProduct
  region : String
  deploymentModel : CalculatorDeploymentModel
  serviceTier : CalculatorServiceTier
  hardwareFamily : CalculatorHardwareFamily
  vcores : Nat
  selectedMemoryGb : D
  zoneRedundant : Bool
  quantity : Nat
  hoursPerMonth : D
  purchaseOption : CalculatorPurchaseOption
  azureHybridBenefit : Bool
  dataStorageGb : D
  backupStorageGb : D
  expectedPublicAnnual : CalculatorExpectedPublicAnnual D
  deriving DecidableEq

structure CalculatorManifest (D : Type) where
  schemaVersion : Nat
  calculatorContractVersion : String
  calculatorUrl : String
  generatedAt : String
  currency : String
  locale : String
  estimateName : String
  items : List (CalculatorManifestItem D)
  deriving DecidableEq

inductive CalculatorLaunchStatus where
  | ready
  | claimed
  | consumed
  deriving DecidableEq, Repr

structure CalculatorLaunchDocument (D : Type) where
  id : Uuid
  documentType : String
  ownerId : String
  sourceProjectId : Option Uuid
  sourceProjectEtag : Option String
  sourceFormulaVersion : Option String
  sourceAzureSnapshotId : Option String
  status : CalculatorLaunchStatus
  protocolVersion : Nat
  manifestVersion : Nat
  calculatorContractVersion : String
  minimumCompanionVersion : String
  manifestSha256 : Option String
  manifest : Option (CalculatorManifest D)
  companionInstanceId : Option Uuid
  companionVersion : Option String
  createdAt : String
  claimExpiresAt : String
  updatedAt : String
  ttl : Int
  etag : String
  deriving DecidableEq

structure NewCalculatorLaunch (D : Type) where
  id : Uuid
  sourceProjectId : Uuid
  sourceProjectEtag : String
  sourceFormulaVersion : String
  sourceAzureSnapshotId : String
  manifest : CalculatorManifest D
  deriving DecidableEq

structure CreatedCalculatorLaunch (D : Type) where
  document : CalculatorLaunchDocument D
  created : Bool
  deriving DecidableEq

inductive CalculatorLaunchError where
  | notFound
  | conflict
  | expired
  | preconditionFailed
  | invalidManifest
  | payloadTooLarge
  | unavailable
  deriving DecidableEq, Repr

structure StoredLaunch (D : Type) where
  document : CalculatorLaunchDocument D
  version : Nat
  deriving DecidableEq

abbrev LaunchKey := String × Uuid

abbrev LaunchMap (D : Type) := HashMap LaunchKey (StoredLaunch D)

/-! ### Manifest text -/

section ManifestText

variable {D : Type} [DecimalArith D]

/-- A decimal is serialized as a string. -/
def decimalJson (value : D) : Json := .string (DecimalArith.display value)

def CalculatorProduct.name : CalculatorProduct → String
  | .azureSqlManagedInstance => "azure_sql_managed_instance"

def CalculatorDeploymentModel.name : CalculatorDeploymentModel → String
  | .singleInstance => "single_instance"

def CalculatorServiceTier.name : CalculatorServiceTier → String
  | .nextGenerationGeneralPurpose => "next_generation_general_purpose"
  | .businessCritical => "business_critical"

def CalculatorHardwareFamily.name : CalculatorHardwareFamily → String
  | .premiumSeries => "premium_series"
  | .premiumSeriesMemoryOptimized => "premium_series_memory_optimized"

def CalculatorPurchaseOption.name : CalculatorPurchaseOption → String
  | .payg => "payg"
  | .oneYearReservation => "one_year_reservation"
  | .threeYearReservation => "three_year_reservation"
  | .oneYearSavingsPlan => "one_year_savings_plan"

def CalculatorExpectedPublicAnnual.toJson
    (annual : CalculatorExpectedPublicAnnual D) : Json :=
  .object [
    ("compute", decimalJson annual.compute),
    ("additional_memory", decimalJson annual.additionalMemory),
    ("license", decimalJson annual.license),
    ("storage", decimalJson annual.storage),
    ("total_before_parity", decimalJson annual.totalBeforeParity)]

def CalculatorManifestItem.toJson (item : CalculatorManifestItem D) : Json :=
  .object [
    ("item_key", .string item.itemKey),
    ("display_name", .string item.displayName),
    ("product", .string item.product.name),
    ("region", .string item.region),
    ("deployment_model", .string item.deploymentModel.name),
    ("service_tier", .string item.serviceTier.name),
    ("hardware_family", .string item.hardwareFamily.name),
    ("vcores", .number item.vcores),
    ("selected_memory_gb", decimalJson item.selectedMemoryGb),
    ("zone_redundant", .bool item.zoneRedundant),
    ("quantity", .number item.quantity),
    ("hours_per_month", decimalJson item.hoursPerMonth),
    ("purchase_option", .string item.purchaseOption.name),
    ("azure_hybrid_benefit", .bool item.azureHybridBenefit),
    ("data_storage_gb", decimalJson item.dataStorageGb),
    ("backup_storage_gb", decimalJson item.backupStorageGb),
    ("expected_public_annual", item.expectedPublicAnnual.toJson)]

def CalculatorManifest.toJson (manifest : CalculatorManifest D) : Json :=
  .object [
    ("schema_version", .number manifest.schemaVersion),
    ("calculator_contract_version", .string manifest.calculatorContractVersion),
    ("calculator_url", .string manifest.calculatorUrl),
    ("generated_at", .string manifest.generatedAt),
    ("currency", .string manifest.currency),
    ("locale", .string manifest.locale),
    ("estimate_name", .string manifest.estimateName),
    ("items", .array (manifest.items.map CalculatorManifestItem.toJson))]

end ManifestText

/-! ### Validation and timestamps -/

section Validation

variable {D : Type} [DecimalArith D]

def validateManifest (manifest : CalculatorManifest D) :
    Except CalculatorLaunchError Unit :=
  if manifest.schemaVersion ≠ calculatorManifestVersion
      ∨ manifest.calculatorContractVersion ≠ calculatorContractVersion
      ∨ manifest.calculatorUrl ≠ "https://azure.microsoft.com/en-us/pricing/calculator/"
      ∨ manifest.currency ≠ "USD"
      ∨ manifest.locale ≠ "en-US"
      ∨ manifest.items.isEmpty
      ∨ manifest.items.length > maxCalculatorManifestItems then
    .error .invalidManifest
  else if manifest.toJson.byteLength > maxCalculatorManifestBytes then
    .error .payloadTooLarge
  else .ok ()

/-- The digest of the manifest's JSON text, as lowercase hex. -/
def manifestSha256 (sha256 : String → String) (manifest : CalculatorManifest D) : String :=
  sha256 manifest.toJson.render

def parseTimestamp (value : String) : Except CalculatorLaunchError ParsedDateTime :=
  match parse value with
  | some parsed => .ok parsed
  | none => .error .unavailable

def formatTimestamp (value : UtcDateTime) : Except CalculatorLaunchError String :=
  match format value with
  | some text => .ok text
  | none => .error .unavailable

def launchEtag (version : Nat) : String :=
  "\"calculator-launch-" ++ toString version ++ "\""

def activePayloadPresent (document : CalculatorLaunchDocument D) : Bool :=
  document.sourceProjectId.isSome
    && document.sourceProjectEtag.isSome
    && document.sourceFormulaVersion.isSome
    && document.sourceAzureSnapshotId.isSome
    && document.manifestSha256.isSome
    && document.manifest.isSome

/-- Each status comes with its own optional fields. -/
def statusPayloadMatches (document : CalculatorLaunchDocument D) : Bool :=
  match document.status with
  | .ready =>
      activePayloadPresent document
        && document.companionInstanceId.isNone
        && document.companionVersion.isNone
  | .claimed =>
      activePayloadPresent document
        && document.companionInstanceId.isSome
        && document.companionVersion.isSome
  | .consumed =>
      !activePayloadPresent document
        && document.companionInstanceId.isSome
        && document.companionVersion.isSome

/-- A stored manifest is itself valid and has the stored digest. -/
def validateManifestBinding (sha256 : String → String)
    (document : CalculatorLaunchDocument D) : Except CalculatorLaunchError Unit :=
  match document.manifest, document.manifestSha256 with
  | some manifest, some expectedHash => do
      validateManifest manifest
      ensure (manifestSha256 sha256 manifest = expectedHash) .unavailable
  | _, _ => .ok ()

def validateDocument (sha256 : String → String) (document : CalculatorLaunchDocument D)
    (ownerId : String) (expectedId : Option Uuid) : Except CalculatorLaunchError Unit := do
  ensure (document.documentType = calculatorLaunchDocumentType
      ∧ document.ownerId = ownerId
      ∧ (∀ id ∈ expectedId, document.id = id)
      ∧ document.protocolVersion = calculatorProtocolVersion
      ∧ document.manifestVersion = calculatorManifestVersion
      ∧ document.calculatorContractVersion = calculatorContractVersion
      ∧ document.minimumCompanionVersion = minimumCompanionVersion
      ∧ 0 < document.ttl
      ∧ document.etag.isEmpty = false) .unavailable
  ensure (statusPayloadMatches document = true) .unavailable
  validateManifestBinding sha256 document
  let _ ← parseTimestamp document.createdAt
  let _ ← parseTimestamp document.claimExpiresAt
  let _ ← parseTimestamp document.updatedAt
  return ()

def isExpired (document : CalculatorLaunchDocument D) (now : UtcDateTime) :
    Except CalculatorLaunchError Bool := do
  let expiresAt ← parseTimestamp document.claimExpiresAt
  return expiresAt.nanos ≤ now.nanos

def ensureNotExpired (document : CalculatorLaunchDocument D) (now : UtcDateTime) :
    Except CalculatorLaunchError Unit := do
  let expired ← isExpired document now
  ensure (expired = false) .expired

end Validation

/-! ### Repository operations -/

section Repository

variable {D : Type} [DecimalArith D] (sha256 : String → String)

abbrev LaunchM (D : Type) := Locked (LaunchMap D) CalculatorLaunchError

abbrev StoredM (D : Type) := Locked (StoredLaunch D) CalculatorLaunchError

/-- `get_mut` on the map: the body mutates the stored launch in place. -/
def withStored {α : Type} (key : LaunchKey) (body : StoredM D α) : LaunchM D α :=
  fun launches =>
    match launches.lookup key with
    | none => (.err .notFound, launches)
    | some stored =>
        let result := body stored
        (result.1, launches.replace key result.2)

/-- Some active launch of the owner has not expired.  Launches of other owners
are passed over before their expiry is read. -/
def hasActiveLaunch (ownerId : String) (now : UtcDateTime) :
    List (StoredLaunch D) → Except CalculatorLaunchError Bool
  | [] => .ok false
  | stored :: rest =>
      if stored.document.ownerId = ownerId
          ∧ (stored.document.status = .ready ∨ stored.document.status = .claimed) then do
        if !(← isExpired stored.document now) then
          return true
        hasActiveLaunch ownerId now rest
      else hasActiveLaunch ownerId now rest

/-- The document of a new launch; the expiry is computed after the timestamp. -/
def newLaunchDocument (ownerId : String) (launch : NewCalculatorLaunch D)
    (timestamp expiresAt : String) : CalculatorLaunchDocument D where
  id := launch.id
  documentType := calculatorLaunchDocumentType
  ownerId := ownerId
  sourceProjectId := some launch.sourceProjectId
  sourceProjectEtag := some launch.sourceProjectEtag
  sourceFormulaVersion := some launch.sourceFormulaVersion
  sourceAzureSnapshotId := some launch.sourceAzureSnapshotId
  status := .ready
  protocolVersion := calculatorProtocolVersion
  manifestVersion := calculatorManifestVersion
  calculatorContractVersion := calculatorContractVersion
  minimumCompanionVersion := minimumCompanionVersion
  manifestSha256 := some (manifestSha256 sha256 launch.manifest)
  manifest := some launch.manifest
  companionInstanceId := none
  companionVersion := none
  createdAt := timestamp
  claimExpiresAt := expiresAt
  updatedAt := timestamp
  ttl := activeTtlSeconds
  etag := launchEtag 1

/-- The stored launch was created from the same project and manifest. -/
def sameBinding (document : CalculatorLaunchDocument D)
    (launch : NewCalculatorLaunch D) : Bool :=
  document.sourceProjectId == some launch.sourceProjectId
    && document.sourceProjectEtag == some launch.sourceProjectEtag
    && document.manifestSha256 == some (manifestSha256 sha256 launch.manifest)

def createLocked (now : UtcDateTime) (ownerId : String) (launch : NewCalculatorLaunch D) :
    LaunchM D (CreatedCalculatorLaunch D) := do
  let launches ← Locked.read
  match launches.lookup (ownerId, launch.id) with
  | some stored =>
      if sameBinding sha256 stored.document launch ∧ stored.document.status = .ready then
        Locked.check (ensureNotExpired stored.document now)
        return { document := stored.document, created := false }
      Locked.fail .conflict
  | none =>
      if ← Locked.check (hasActiveLaunch ownerId now launches.values) then
        Locked.fail .conflict
      else
        let timestamp ← Locked.check (formatTimestamp now)
        let expiry ← Locked.expect (now.addSeconds? activeTtlSeconds)
        let expiresAt ← Locked.check (formatTimestamp expiry)
        let document := newLaunchDocument sha256 ownerId launch timestamp expiresAt
        Locked.check (validateDocument sha256 document ownerId (some launch.id))
        Locked.write fun launches =>
          launches.insert (ownerId, launch.id) { document, version := 1 }
        return { document, created := true }

/-- `checked_add(1)` on the version counter. -/
def nextVersion (version : Nat) : Except CalculatorLaunchError Nat :=
  if version + 1 < 2 ^ 64 then .ok (version + 1) else .error .unavailable

def claimStored (now : UtcDateTime) (ownerId : String) (launchId companionInstanceId : Uuid)
    (companionVersion : String) : StoredM D (CalculatorLaunchDocument D) := do
  let stored ← Locked.read
  Locked.check (validateDocument sha256 stored.document ownerId (some launchId))
  Locked.check (ensureNotExpired stored.document now)
  match stored.document.status with
  | .ready =>
      let version ← Locked.check (nextVersion stored.version)
      Locked.write fun stored => { stored with version }
      Locked.write fun stored => { stored with
        document.status := .claimed
        document.companionInstanceId := some companionInstanceId
        document.companionVersion := some companionVersion }
      let updatedAt ← Locked.check (formatTimestamp now)
      Locked.write fun stored => { stored with document.updatedAt := updatedAt }
      let expiry ← Locked.expect (now.addSeconds? activeTtlSeconds)
      let expiresAt ← Locked.check (formatTimestamp expiry)
      Locked.write fun stored => { stored with
        document.claimExpiresAt := expiresAt
        document.ttl := activeTtlSeconds
        document.etag := launchEtag stored.version }
      let stored ← Locked.read
      Locked.check (validateDocument sha256 stored.document ownerId (some launchId))
      return stored.document
  | .claimed =>
      if stored.document.companionInstanceId = some companionInstanceId then
        return stored.document
      else Locked.fail .conflict
  | .consumed => Locked.fail .conflict

def acknowledgeStored (now : UtcDateTime) (ownerId : String)
    (launchId companionInstanceId : Uuid) (ifMatch : String) : StoredM D Unit := do
  let stored ← Locked.read
  Locked.check (validateDocument sha256 stored.document ownerId (some launchId))
  if stored.document.status = .consumed
      ∧ stored.document.companionInstanceId = some companionInstanceId then
    return ()
  else
    Locked.check (ensureNotExpired stored.document now)
    if stored.document.status ≠ .claimed
        ∨ stored.document.companionInstanceId ≠ some companionInstanceId then
      Locked.fail .conflict
    else if stored.document.etag ≠ ifMatch then
      Locked.fail .preconditionFailed
    else
      let version ← Locked.check (nextVersion stored.version)
      Locked.write fun stored => { stored with version }
      Locked.write fun stored => { stored with
        document.status := .consumed
        document.sourceProjectId := none
        document.sourceProjectEtag := none
        document.sourceFormulaVersion := none
        document.sourceAzureSnapshotId := none
        document.manifestSha256 := none
        document.manifest := none }
      let updatedAt ← Locked.check (formatTimestamp now)
      Locked.write fun stored => { stored with document.updatedAt := updatedAt }
      let expiry ← Locked.expect (now.addSeconds? consumedTtlSeconds)
      let expiresAt ← Locked.check (formatTimestamp expiry)
      Locked.write fun stored => { stored with
        document.claimExpiresAt := expiresAt
        document.ttl := consumedTtlSeconds
        document.etag := launchEtag stored.version }
      let stored ← Locked.read
      Locked.check (validateDocument sha256 stored.document ownerId (some launchId))

/-- An active launch of the project is dropped; consumed tombstones stay. -/
def survivesPurge (ownerId : String) (projectId : Uuid) (key : LaunchKey)
    (stored : StoredLaunch D) : Bool :=
  key.1 != ownerId
    || stored.document.sourceProjectId != some projectId
    || stored.document.status == .consumed

/-- The in-memory repository. -/
abbrev Repository (D : Type) := RwLock (LaunchMap D)

def emptyRepository : Repository D := ⟨∅, false⟩

def create (now : UtcDateTime) (ownerId : String) (launch : NewCalculatorLaunch D)
    (repository : Repository D) :
    Outcome CalculatorLaunchError (CreatedCalculatorLaunch D) × Repository D :=
  match validateManifest launch.manifest with
  | .error e => (.err e, repository)
  | .ok () => repository.withWrite .unavailable (createLocked sha256 now ownerId launch)

def claim (now : UtcDateTime) (ownerId : String) (launchId companionInstanceId : Uuid)
    (companionVersion : String) (repository : Repository D) :
    Outcome CalculatorLaunchError (CalculatorLaunchDocument D) × Repository D :=
  repository.withWrite .unavailable <| withStored (ownerId, launchId) <|
    claimStored sha256 now ownerId launchId companionInstanceId companionVersion

def acknowledge (now : UtcDateTime) (ownerId : String)
    (launchId companionInstanceId : Uuid) (ifMatch : String) (repository : Repository D) :
    Outcome CalculatorLaunchError Unit × Repository D :=
  repository.withWrite .unavailable <| withStored (ownerId, launchId) <|
    acknowledgeStored sha256 now ownerId launchId companionInstanceId ifMatch

def purgeProject (ownerId : String) (projectId : Uuid) (repository : Repository D) :
    Outcome CalculatorLaunchError Unit × Repository D :=
  repository.withWrite .unavailable do
    Locked.write fun launches => launches.retain (survivesPurge ownerId projectId)
    return ()

end Repository

/-! ### Documents that pass validation -/

section DocumentValid

variable {D : Type} [DecimalArith D] {sha256 : String → String}
variable {document : CalculatorLaunchDocument D} {ownerId : String} {id : Uuid}

/-- What `validateDocument` accepts under an owner and an expected id. -/
structure DocumentValid (sha256 : String → String) (document : CalculatorLaunchDocument D)
    (ownerId : String) (id : Uuid) : Prop where
  documentType : document.documentType = calculatorLaunchDocumentType
  ownerId : document.ownerId = ownerId
  id : document.id = id
  protocolVersion : document.protocolVersion = calculatorProtocolVersion
  manifestVersion : document.manifestVersion = calculatorManifestVersion
  contractVersion : document.calculatorContractVersion = calculatorContractVersion
  minimumVersion : document.minimumCompanionVersion = minimumCompanionVersion
  ttl : 0 < document.ttl
  etag : document.etag.isEmpty = false
  payload : statusPayloadMatches document = true
  manifest : ∀ manifest hash, document.manifest = some manifest →
    document.manifestSha256 = some hash →
      validateManifest manifest = .ok () ∧ manifestSha256 sha256 manifest = hash
  createdAt : (parse document.createdAt).isSome
  claimExpiresAt : (parse document.claimExpiresAt).isSome
  updatedAt : (parse document.updatedAt).isSome

theorem parseTimestamp_eq_ok {value : String} {parsed : ParsedDateTime} :
    parseTimestamp value = .ok parsed ↔ parse value = some parsed := by
  unfold parseTimestamp
  cases parse value <;> simp

theorem exists_parseTimestamp_iff {value : String} :
    (∃ parsed, parseTimestamp value = .ok parsed) ↔ (parse value).isSome := by
  simp only [parseTimestamp_eq_ok, Option.isSome_iff_exists]

theorem validateManifestBinding_eq_ok_iff {u : Unit} :
    validateManifestBinding sha256 document = .ok u ↔
      ∀ manifest hash, document.manifest = some manifest →
        document.manifestSha256 = some hash →
          validateManifest manifest = .ok () ∧ manifestSha256 sha256 manifest = hash := by
  unfold validateManifestBinding
  split
  · rename_i manifest hash hm hh
    simp [Fallible.bind_eq_ok, hm, hh, and_comm]
  · rename_i hnone
    refine ⟨fun _ manifest hash hm hh => absurd hh (hnone manifest hash hm), fun _ => rfl⟩

theorem validateDocument_eq_ok_iff :
    validateDocument sha256 document ownerId (some id) = .ok () ↔
      DocumentValid sha256 document ownerId id := by
  constructor
  · intro h
    simp only [validateDocument, Fallible.bind_eq_ok, Fallible.ensure_eq_ok,
      validateManifestBinding_eq_ok_iff, Option.mem_def, Option.some.injEq,
      forall_eq'] at h
    obtain ⟨-, hheader, -, hpayload, -, hmanifest, created, hcreated, expires, hexpires,
      updated, hupdated, -⟩ := h
    obtain ⟨htype, howner, hid, hprotocol, hversion, hcontract, hminimum, httl, hetag⟩ :=
      hheader
    exact ⟨htype, howner, hid, hprotocol, hversion, hcontract, hminimum, httl, hetag,
      hpayload, hmanifest, exists_parseTimestamp_iff.mp ⟨_, hcreated⟩,
      exists_parseTimestamp_iff.mp ⟨_, hexpires⟩, exists_parseTimestamp_iff.mp ⟨_, hupdated⟩⟩
  · intro h
    obtain ⟨created, hcreated⟩ := exists_parseTimestamp_iff.mpr h.createdAt
    obtain ⟨expires, hexpires⟩ := exists_parseTimestamp_iff.mpr h.claimExpiresAt
    obtain ⟨updated, hupdated⟩ := exists_parseTimestamp_iff.mpr h.updatedAt
    simp only [validateDocument, Fallible.bind_eq_ok, Fallible.ensure_eq_ok,
      validateManifestBinding_eq_ok_iff, Option.mem_def, Option.some.injEq, forall_eq']
    exact ⟨(), ⟨h.documentType, h.ownerId, h.id, h.protocolVersion, h.manifestVersion,
      h.contractVersion, h.minimumVersion, h.ttl, h.etag⟩, (), h.payload, (), h.manifest,
      created, hcreated, expires, hexpires, updated, hupdated, rfl⟩

end DocumentValid

end TcoCalculator.CalculatorLaunch
