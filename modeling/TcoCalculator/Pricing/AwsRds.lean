/-
RDS prices (src/rust/src/pricing/aws_rds.rs): the rows of the selected price
leaves, merged into one rate for each instance, deployment, commercial term and
storage class.
-/
import Mathlib.Data.Prod.Lex
import Mathlib.Data.String.Basic
import TcoCalculator.Library.OrderedMap
import TcoCalculator.Pricing.ProviderRows

namespace TcoCalculator

inductive RdsNormalizationError where
  | malformedJson
  | unsupportedOffer
  | invalidValue
  | unsupportedUnit
  | invalidCommercialTerm
  | conflictingComponent
  deriving DecidableEq, Repr

namespace AwsRds

open DecimalArith Halt ProviderRows

structure RawDimension where
  sku : String
  productFamily : String
  databaseEngine : Option String
  databaseEdition : Option String
  licenseModel : Option String
  licenseType : Option String
  deploymentModel : Option String
  deploymentOption : Option String
  instanceType : Option String
  memory : Option String
  vcpu : Option String
  volumeName : Option String
  volumeType : Option String
  termType : String
  offerTermCode : String
  leaseContractLength : Option String
  purchaseOption : Option String
  offeringClass : Option String
  rateCode : String
  unit : String
  price : String

structure SelectedLeaf where
  sourceOfferCode : String
  dimensions : List RawDimension

/-- A fetched leaf.  No body: its JSON is malformed. -/
structure RdsLeafPayload where
  sourceUrl : String
  sourceVersion : Option String
  effectiveAt : Option String
  body : Option SelectedLeaf

def RdsLeafPayload.source (payload : RdsLeafPayload) : SourceIdentity where
  sourceUrl := payload.sourceUrl
  sourceVersion := payload.sourceVersion
  effectiveAt := payload.effectiveAt

structure OfferKey where
  sku : String
  offerTermCode : String
  commercialTerm : String
  deriving DecidableEq

inductive Deployment where
  | singleAz
  | multiAz
  deriving DecidableEq, Repr

namespace Deployment

def asKey : Deployment → String
  | singleAz => "single-az"
  | multiAz => "multi-az"

def asDomain : Deployment → RdsDeployment
  | singleAz => .singleAz
  | multiAz => .multiAz

instance : LinearOrder Deployment :=
  LinearOrder.lift' (fun deployment => deployment == multiAz) fun a b h => by
    cases a <;> cases b <;> first | rfl | cases h

end Deployment

structure ComputeKey where
  instanceType : String
  deployment : Deployment
  commercialTerm : String
  deriving DecidableEq

structure StorageKey where
  deployment : Deployment
  storageClass : String
  deriving DecidableEq

instance : LinearOrder OfferKey :=
  LinearOrder.lift' (fun key => toLex (key.sku, toLex (key.offerTermCode, key.commercialTerm)))
    fun a b h => by cases a; cases b; simp_all [Prod.ext_iff]

instance : LinearOrder ComputeKey :=
  LinearOrder.lift'
    (fun key => toLex (key.instanceType, toLex (key.deployment, key.commercialTerm)))
    fun a b h => by cases a; cases b; simp_all [Prod.ext_iff]

instance : LinearOrder StorageKey :=
  LinearOrder.lift' (fun key => toLex (key.deployment, key.storageClass))
    fun a b h => by cases a; cases b; simp_all [Prod.ext_iff]

variable {D : Type} [DecimalArith D]

structure ComputeAccumulator (D : Type) where
  key : ComputeKey
  sourceVcpu : UInt32
  memoryGb : D
  recurringHourly : D
  upfront : D
  meterIds : List String
  source : SourceIdentity

structure ComputeComponent (D : Type) where
  sourceVcpu : UInt32
  memoryGb : D
  effectiveHourly : D
  meterIds : List String
  source : SourceIdentity

structure StorageComponent (D : Type) where
  monthlyPerGb : D
  meterIds : List String

structure LicenseComponent (D : Type) where
  coreHourly : D
  meterIds : List String

/-! ### Rows -/

def isSqlServerEdition (edition : Option String) : Bool :=
  edition == some "Standard" || edition == some "Enterprise"

def isComputeDimension (dimension : RawDimension) : Bool :=
  dimension.productFamily == "Database Instance" &&
    dimension.databaseEngine == some "SQL Server" &&
    isSqlServerEdition dimension.databaseEdition &&
    (dimension.deploymentModel == some "Custom" ||
      dimension.licenseModel == some "Bring your own media")

def isStorageDimension (dimension : RawDimension) : Bool :=
  dimension.productFamily == "Database Storage" &&
    dimension.databaseEngine == some "SQL Server" && isSqlServerEdition dimension.databaseEdition

def requiredText (text : Option String) : Except RdsNormalizationError String :=
  (required text).elim (.error .invalidValue) .ok

def parseToken (text : Option String) : Except RdsNormalizationError String := do
  let present ← requiredText text
  (normalizeToken present).elim (.error .invalidCommercialTerm) .ok

def leaseTerm (text : Option String) : Except RdsNormalizationError String := do
  let lease ← requiredText text
  if lease = "1yr" ∨ lease = "3yr" then return lease else throw .invalidCommercialTerm

def commercialTerm (dimension : RawDimension) : Except RdsNormalizationError String :=
  if dimension.termType = "OnDemand" then .ok "on-demand"
  else if dimension.termType = "Reserved" then do
    let lease ← leaseTerm dimension.leaseContractLength
    let purchase ← parseToken dimension.purchaseOption
    let offering ← parseToken dimension.offeringClass
    return "reserved-" ++ lease ++ "-" ++ offering ++ "-" ++ purchase
  else .error .invalidCommercialTerm

def commercialTermHours (term : String) : Except RdsNormalizationError D :=
  if term = "on-demand" then .ok one
  else if "reserved-1yr-".toList.isPrefixOf term.toList then .ok (ofNat 8760)
  else if "reserved-3yr-".toList.isPrefixOf term.toList then .ok (ofNat 26280)
  else .error .invalidCommercialTerm

def parseDeployment (text : String) : Except RdsNormalizationError Deployment :=
  if text = "Single-AZ" then .ok .singleAz
  else if "Multi-AZ".toList.isPrefixOf text.toList then .ok .multiAz
  else .error .invalidValue

def volumeClass : Option String → Except RdsNormalizationError String
  | some "General Purpose" | some "General Purpose (SSD)" => .ok "gp2"
  | some "General Purpose-GP3" | some "General Purpose-GP3 SSD" => .ok "gp3"
  | some "Provisioned IOPS" | some "Provisioned IOPS (SSD)" => .ok "io1"
  | some "Provisioned IOPS-IO2" => .ok "io2"
  | some "Magnetic" => .ok "magnetic"
  | _ => .error .invalidValue

def storageClass (dimension : RawDimension) : Except RdsNormalizationError String :=
  match required dimension.volumeName with
  | some name => (normalizeToken name).elim (.error .invalidValue) .ok
  | none => volumeClass dimension.volumeType

def parseMemory (text : String) : Except RdsNormalizationError D :=
  (memoryGb text).elim (.error .invalidValue) .ok

def parseNonnegativeDecimal (price : String) : Except RdsNormalizationError D :=
  (nonnegativeDecimal price).elim (.error .invalidValue) .ok

def parseVcpu (text : String) : Except RdsNormalizationError UInt32 :=
  (parseU32 text).elim (.error .invalidValue) .ok

/-- The hourly and the upfront part of a compute price. -/
def splitPrice (dimension : RawDimension) (price : D) : Except RdsNormalizationError (D × D) :=
  if dimension.unit = "Hrs" then .ok (price, zero)
  else if dimension.unit = "Quantity" ∧ dimension.termType = "Reserved" then .ok (zero, price)
  else .error .unsupportedUnit

/-- A compute row as it is read, before it is merged. -/
structure ComputeRow (D : Type) where
  offer : OfferKey
  key : ComputeKey
  sourceVcpu : UInt32
  memoryGb : D
  recurringHourly : D
  upfront : D

def computeRow (dimension : RawDimension) : Except RdsNormalizationError (ComputeRow D) := do
  let instanceType ← requiredText dimension.instanceType
  let deployment ← parseDeployment (← requiredText dimension.deploymentOption)
  let commercialTerm ← commercialTerm dimension
  let sourceVcpu ← parseVcpu (← requiredText dimension.vcpu)
  let memoryGb ← parseMemory (← requiredText dimension.memory)
  ensure (sourceVcpu ≠ 0) .invalidValue
  let price ← parseNonnegativeDecimal dimension.price
  let (recurringHourly, upfront) ← splitPrice dimension price
  return {
    offer := {
      sku := dimension.sku
      offerTermCode := dimension.offerTermCode
      commercialTerm := commercialTerm }
    key := {
      instanceType := instanceType
      deployment := deployment
      commercialTerm := commercialTerm }
    sourceVcpu := sourceVcpu
    memoryGb := memoryGb
    recurringHourly := recurringHourly
    upfront := upfront }

/-- A storage row as it is read, before it is merged. -/
structure StorageRow (D : Type) where
  key : StorageKey
  monthlyPerGb : D

def storageRow (dimension : RawDimension) : Except RdsNormalizationError (StorageRow D) := do
  ensure (dimension.termType = "OnDemand" ∧ dimension.unit = "GB-Mo") .unsupportedUnit
  let deployment ← parseDeployment (← requiredText dimension.deploymentOption)
  let storageClass ← storageClass dimension
  let monthlyPerGb ← parseNonnegativeDecimal dimension.price
  return {
    key := { deployment := deployment, storageClass := storageClass }
    monthlyPerGb := monthlyPerGb }

/-! ### Merging -/

structure RdsRates (D : Type) where
  computeOffers : HashMap OfferKey (ComputeAccumulator D)
  storage : HashMap StorageKey (StorageComponent D)
  standardLicense : Option (LicenseComponent D)
  enterpriseLicense : Option (LicenseComponent D)

def RdsRates.empty : RdsRates D where
  computeOffers := ∅
  storage := ∅
  standardLicense := none
  enterpriseLicense := none

def ComputeRow.fresh (row : ComputeRow D) (source : SourceIdentity) : ComputeAccumulator D where
  key := row.key
  sourceVcpu := row.sourceVcpu
  memoryGb := row.memoryGb
  recurringHourly := zero
  upfront := zero
  meterIds := []
  source := source

/-- The row belongs to the offer: the same machine from the same document. -/
def ComputeAccumulator.matchesRow (component : ComputeAccumulator D) (row : ComputeRow D)
    (source : SourceIdentity) : Bool :=
  component.key.instanceType == row.key.instanceType &&
    component.key.deployment == row.key.deployment &&
    component.sourceVcpu == row.sourceVcpu &&
    value component.memoryGb == value row.memoryGb && component.source == source

def ComputeAccumulator.addRow (component : ComputeAccumulator D) (row : ComputeRow D)
    (rateCode : String) : Except ArithmeticFault (ComputeAccumulator D) := do
  let recurringHourly ← add component.recurringHourly row.recurringHourly
  let upfront ← add component.upfront row.upfront
  return { component with
    recurringHourly := recurringHourly
    upfront := upfront
    meterIds := addMeter rateCode component.meterIds }

def addComputeDimension (offers : HashMap OfferKey (ComputeAccumulator D))
    (payload : RdsLeafPayload) (dimension : RawDimension) :
    Except (Halt RdsNormalizationError) (HashMap OfferKey (ComputeAccumulator D)) := do
  let row ← checked (computeRow dimension)
  let component := (offers.lookup row.offer).getD (row.fresh payload.source)
  if component.matchesRow row payload.source then
    let component ← component.addRow row dimension.rateCode
    return offers.insert row.offer component
  else refuse .conflictingComponent

def addStorageDimension (storage : HashMap StorageKey (StorageComponent D))
    (dimension : RawDimension) :
    Except RdsNormalizationError (HashMap StorageKey (StorageComponent D)) := do
  let row ← storageRow dimension
  let component := (storage.lookup row.key).getD
    { monthlyPerGb := row.monthlyPerGb, meterIds := [] }
  if value component.monthlyPerGb = value row.monthlyPerGb then
    return storage.insert row.key
      { component with meterIds := addMeter dimension.rateCode component.meterIds }
  else throw .conflictingComponent

/-- The price of a license row: positive. -/
def licensePrice (dimension : RawDimension) : Except RdsNormalizationError D := do
  let coreHourly : D ← parseNonnegativeDecimal dimension.price
  ensure (0 < value coreHourly) .invalidValue
  return coreHourly

def mergeLicense (slot : Option (LicenseComponent D)) (coreHourly : D) (rateCode : String) :
    Except RdsNormalizationError (Option (LicenseComponent D)) :=
  match slot with
  | some component =>
      if value component.coreHourly = value coreHourly then
        .ok (some { component with meterIds := addMeter rateCode component.meterIds })
      else .error .conflictingComponent
  | none => .ok (some { coreHourly := coreHourly, meterIds := [rateCode] })

def addLicenseDimension (rates : RdsRates D) (dimension : RawDimension) :
    Except RdsNormalizationError (RdsRates D) := do
  if dimension.productFamily ≠ "Optimized License" ∨
      dimension.licenseType ≠ some "SQLServer" then return rates
  else
    ensure (dimension.termType = "OnDemand" ∧ dimension.unit = "vCPU-Hour") .unsupportedUnit
    if dimension.databaseEdition = some "Standard" then
      let standardLicense ← mergeLicense rates.standardLicense (← licensePrice dimension)
        dimension.rateCode
      return { rates with standardLicense := standardLicense }
    else if dimension.databaseEdition = some "Enterprise" then
      let enterpriseLicense ← mergeLicense rates.enterpriseLicense (← licensePrice dimension)
        dimension.rateCode
      return { rates with enterpriseLicense := enterpriseLicense }
    else return rates

def addRdsDimension (payload : RdsLeafPayload) (rates : RdsRates D) (dimension : RawDimension) :
    Except (Halt RdsNormalizationError) (RdsRates D) :=
  if isComputeDimension dimension then do
    let computeOffers ← addComputeDimension rates.computeOffers payload dimension
    return { rates with computeOffers := computeOffers }
  else if isStorageDimension dimension then do
    let storage ← checked (addStorageDimension rates.storage dimension)
    return { rates with storage := storage }
  else .ok rates

def addLeaf (rates : RdsRates D) (payload : RdsLeafPayload) :
    Except (Halt RdsNormalizationError) (RdsRates D) :=
  if payload.sourceUrl = "" then refuse .invalidValue
  else
    match payload.body with
    | none => refuse .malformedJson
    | some leaf =>
        if leaf.sourceOfferCode = "AmazonRDS" then
          leaf.dimensions.foldlM (addRdsDimension payload) rates
        else if leaf.sourceOfferCode = "AmazonRDSOCPULicenseFees" then
          leaf.dimensions.foldlM (fun rates dimension =>
            checked (addLicenseDimension rates dimension)) rates
        else refuse .unsupportedOffer

/-! ### Records -/

structure CollapsedOffers (D : Type) where
  compute : HashMap ComputeKey (ComputeComponent D)
  conflicts : List ComputeKey

/-- What an offer costs an hour: its hourly price and its share of the upfront one. -/
def effectiveHourly (offer : ComputeAccumulator D) :
    Except (Halt RdsNormalizationError) D := do
  let hours ← checked (commercialTermHours offer.key.commercialTerm)
  let share ← (div offer.upfront hours : Except ArithmeticFault D)
  (add offer.recurringHourly share : Except ArithmeticFault D)

/-- Offers of one key that agree are one component, those that do not are left out. -/
def mergeOffer (collapsed : CollapsedOffers D) (offer : ComputeAccumulator D)
    (effectiveHourly : D) : Except RdsNormalizationError (CollapsedOffers D) :=
  if offer.key ∈ collapsed.conflicts then .ok collapsed
  else
    match collapsed.compute.lookup offer.key with
    | none => .ok { collapsed with
        compute := collapsed.compute.insert offer.key {
          sourceVcpu := offer.sourceVcpu
          memoryGb := offer.memoryGb
          effectiveHourly := effectiveHourly
          meterIds := offer.meterIds
          source := offer.source } }
    | some component =>
        if component.sourceVcpu ≠ offer.sourceVcpu ∨
            value component.memoryGb ≠ value offer.memoryGb ∨ component.source ≠ offer.source then
          .error .conflictingComponent
        else if value component.effectiveHourly ≠ value effectiveHourly then
          .ok {
            compute := collapsed.compute.erase offer.key
            conflicts := offer.key :: collapsed.conflicts }
        else
          .ok { collapsed with
            compute := collapsed.compute.insert offer.key { component with
              meterIds := mergeMeters component.meterIds offer.meterIds } }

def collapseOffer (collapsed : CollapsedOffers D) (offer : OfferKey × ComputeAccumulator D) :
    Except (Halt RdsNormalizationError) (CollapsedOffers D) := do
  let hourly ← effectiveHourly offer.2
  checked (mergeOffer collapsed offer.2 hourly)

def collapseComputeOffers (offers : HashMap OfferKey (ComputeAccumulator D)) :
    Except (Halt RdsNormalizationError) (CollapsedOffers D) :=
  offers.toSortedList.foldlM collapseOffer { compute := ∅, conflicts := [] }

def standardLicenseFallback : D := ofScaled 12 2

def enterpriseLicenseFallback : D := ofScaled 375 3

def licenseOrFallback (component : Option (LicenseComponent D)) (fallback : D) :
    LicenseComponent D :=
  component.getD { coreHourly := fallback, meterIds := [] }

def fallbackWarning (edition : String) (fallback : D) : String :=
  "RDS " ++ edition ++ " OCPU license meter is unavailable; using the workbook-compatible " ++
    "fallback of " ++ display fallback ++ " USD per source vCPU-hour."

def licenseWarnings (rates : RdsRates D) : List String :=
  (if rates.standardLicense.isNone then
      [fallbackWarning "Standard" (standardLicenseFallback : D)] else []) ++
    if rates.enterpriseLicense.isNone then
      [fallbackWarning "Enterprise" (enterpriseLicenseFallback : D)] else []

def conflictWarning (key : ComputeKey) : String :=
  "RDS " ++ key.instanceType ++ " " ++ key.deployment.asKey ++ " " ++ key.commercialTerm ++
    " has conflicting edition-specific compute rates and was omitted."

def unmatchedWarning (key : ComputeKey) : String :=
  "RDS " ++ key.instanceType ++ " " ++ key.deployment.asKey ++
    " has no matching SQL Server storage rate."

structure RdsNormalization (D : Type) where
  records : List (AwsRdsRateRecord D)
  warnings : List String

def rdsRecord (regionCode : String) (standard enterprise : LicenseComponent D)
    (compute : ComputeKey × ComputeComponent D) (storage : StorageKey × StorageComponent D) :
    AwsRdsRateRecord D where
  stableKey := regionCode ++ "|" ++ compute.1.instanceType ++ "|" ++ compute.1.deployment.asKey ++
    "|" ++ compute.1.commercialTerm ++ "|" ++ storage.1.storageClass
  instanceType := compute.1.instanceType
  deployment := compute.1.deployment.asDomain
  commercialTerm := compute.1.commercialTerm
  storageClass := storage.1.storageClass
  rate := {
    sourceVcpu := compute.2.sourceVcpu
    catalogMemoryGb := compute.2.memoryGb
    effectiveComputeHourly := compute.2.effectiveHourly
    storageMonthlyPerGb := storage.2.monthlyPerGb
    standardLicenseCoreHourly := standard.coreHourly
    enterpriseLicenseCoreHourly := enterprise.coreHourly }
  provenance := {
    sourceUrl := compute.2.source.sourceUrl
    effectiveAt := compute.2.source.effectiveAt
    sourceVersion := compute.2.source.sourceVersion
    meterIds := mergeMeters (mergeMeters compute.2.meterIds storage.2.meterIds)
      (mergeMeters standard.meterIds enterprise.meterIds) }

/-- The storage rates of a deployment. -/
def storageOf (rates : RdsRates D) (deployment : Deployment) :
    List (StorageKey × StorageComponent D) :=
  rates.storage.toSortedList.filter fun storage => storage.1.deployment = deployment

def rdsRecords (regionCode : String) (rates : RdsRates D) (collapsed : CollapsedOffers D) :
    List (AwsRdsRateRecord D) :=
  let standard := licenseOrFallback rates.standardLicense standardLicenseFallback
  let enterprise := licenseOrFallback rates.enterpriseLicense enterpriseLicenseFallback
  (collapsed.compute.toSortedList.flatMap fun compute =>
    (storageOf rates compute.1.deployment).map
      (rdsRecord regionCode standard enterprise compute)).insertionSort
    fun left right => left.stableKey ≤ right.stableKey

def rdsWarnings (rates : RdsRates D) (collapsed : CollapsedOffers D) : List String :=
  PriceSnapshot.sortedUnique <|
    (collapsed.conflicts.map conflictWarning ++ licenseWarnings rates) ++
      ((collapsed.compute.toSortedList.map Prod.fst).filter fun key =>
        (storageOf rates key.deployment).isEmpty).map unmatchedWarning

def normalizeRdsLeaves (regionCode : String) (leaves : List RdsLeafPayload) :
    Except (Halt RdsNormalizationError) (RdsNormalization D) := do
  if regionCode = "" then refuse .invalidValue
  else
    let rates ← leaves.foldlM addLeaf RdsRates.empty
    let collapsed ← collapseComputeOffers rates.computeOffers
    return {
      records := rdsRecords regionCode rates collapsed
      warnings := rdsWarnings rates collapsed }

end AwsRds

end TcoCalculator
