/-
Azure virtual machine and managed-disk prices (src/rust/src/pricing/azure_vm.rs):
the retail meters of the reviewed machines and disks, merged to the latest of
each, and the rates with and without the Windows license made of them.
-/
import Mathlib.Data.String.Basic
import TcoCalculator.Calculation.VmTargetSelector
import TcoCalculator.Domain.Decimal96
import TcoCalculator.Library.OrderedMap
import TcoCalculator.Pricing.ProviderRows

namespace TcoCalculator

inductive AzureVmPricingNormalizationError where
  | malformedJson
  | invalidScope
  | invalidValue
  | conflictingVmRate
  | missingManagedDiskRate
  | conflictingManagedDiskRate
  | missingVmRates
  deriving DecidableEq, Repr

namespace AzureVm

open DecimalArith Halt PriceSnapshot ProviderRows

def monthlyBillingHours : ℕ := 730

def premiumSsdOffer : String := "premium_ssd_lrs"

def premiumSsdV2Offer : String := "premium_ssd_v2_lrs"

structure AzureVmPricingContext where
  targetRegion : String
  currency : String

structure SavingsPlanPrice where
  retailPrice : String
  term : String

/-- Prices and tier minimums are kept as their texts. -/
structure RetailItem where
  serviceName : String
  armRegionName : String
  currencyCode : String
  armSkuName : String
  productName : String
  skuName : String
  meterName : String
  unitOfMeasure : String
  priceType : String
  retailPrice : String
  tierMinimumUnits : String
  effectiveStartDate : String
  meterId : String
  isPrimaryMeterRegion : Bool
  reservationTerm : Option String
  savingsPlan : List SavingsPlanPrice

/-- A fetched page.  No body: its JSON is malformed. -/
structure AzureVmRetailPagePayload where
  sourceUrl : String
  body : Option (List RetailItem)

structure RetailRate where
  rate : Decimal96
  rawPriceLexeme : String
  unitOfMeasure : String
  effectiveStartDate : String
  sourceUrl : String
  meterIds : List String

inductive VmCommitment where
  | reservationOne
  | reservationThree
  | savingsOne
  | savingsThree
  deriving DecidableEq, Repr

structure RetailRates where
  linuxVm : HashMap String RetailRate
  windowsVm : HashMap String RetailRate
  commitmentVm : HashMap (String × VmCommitment) RetailRate
  tiers : HashMap String RetailRate
  v2 : HashMap (AzureManagedDiskPriceDimension × ℚ) RetailRate

structure AzureVmPricingNormalization where
  vmRecords : List (AzureVmRateRecord Decimal96)
  managedDiskRecords : List (AzureManagedDiskRateRecord Decimal96)
  sourceUrls : List String
  warnings : List String

/-! ### Scope -/

section Scope

variable {D : Type}

/-- The reviewed machines of the region, by their names in lower case. -/
def expectedVms (context : AzureVmPricingContext) (vmCatalog : VmCapabilityCatalog D) :
    HashMap String String :=
  (vmCatalog.candidates.filter fun candidate =>
      eqIgnoreAsciiCase candidate.azureRegion context.targetRegion).foldl
    (fun vms candidate =>
      vms.insert (toAsciiLowercase candidate.armSkuName) candidate.armSkuName) ∅

def offeredIn (context : AzureVmPricingContext) (diskCatalog : ManagedDiskCatalog D)
    (offerKey : String) : Bool :=
  diskCatalog.offers.any fun offer => offer.offerKey == offerKey &&
    offer.azureRegions.any fun region => eqIgnoreAsciiCase region context.targetRegion

def validateScope (context : AzureVmPricingContext) (vmCatalog : VmCapabilityCatalog D)
    (diskCatalog : ManagedDiskCatalog D) (pages : List AzureVmRetailPagePayload) :
    Except AzureVmPricingNormalizationError Unit :=
  if context.targetRegion = "" ∨ context.currency ≠ "USD" ∨ pages = [] then .error .invalidScope
  else if (expectedVms context vmCatalog).entries = [] ∨
      offeredIn context diskCatalog premiumSsdOffer = false ∨
      offeredIn context diskCatalog premiumSsdV2Offer = false then .error .invalidScope
  else .ok ()

def expectedTiers (diskCatalog : ManagedDiskCatalog D) :
    Except AzureVmPricingNormalizationError (List String) :=
  match diskCatalog.offers.find? fun offer => offer.offerKey == premiumSsdOffer with
  | none => .error .invalidScope
  | some offer => .ok (sortedUnique (offer.tiers.map ManagedDiskTier.tierKey))

end Scope

/-! ### Meters -/

def isDiscountedVmMeter (text : String) : Bool :=
  containsText "Spot" text || containsText "Low Priority" text

/-- An hourly meter of an expected machine, neither spot nor low priority. -/
def isVmMeter (expected : HashMap String String) (item : RetailItem) : Bool :=
  item.serviceName == "Virtual Machines" && item.unitOfMeasure == "1 Hour" &&
    (expected.lookup (toAsciiLowercase item.armSkuName)).isSome &&
    !isDiscountedVmMeter item.skuName && !isDiscountedVmMeter item.meterName

def isWindowsVmRate (expected : HashMap String String) (item : RetailItem) : Bool :=
  isVmMeter expected item && item.priceType == "Consumption" &&
    hasPrefix "Virtual Machines " item.productName && hasSuffix " Windows" item.productName

def isLinuxVmRate (expected : HashMap String String) (item : RetailItem) : Bool :=
  isVmMeter expected item && item.priceType == "Consumption" &&
    hasPrefix "Virtual Machines " item.productName && !hasSuffix " Windows" item.productName

def reservationCommitment (expected : HashMap String String) (item : RetailItem) :
    Option VmCommitment :=
  if !(isVmMeter expected item && item.priceType == "Reservation" &&
      !hasSuffix " Windows" item.productName) then none
  else
    match item.reservationTerm with
    | some "1 Year" => some .reservationOne
    | some "3 Years" => some .reservationThree
    | _ => none

def savingsPlanCommitment : String → Option VmCommitment
  | "1 Year" => some .savingsOne
  | "3 Years" => some .savingsThree
  | _ => none

def premiumSsdTier (expectedTiers : List String) (item : RetailItem) : Option String :=
  if item.serviceName ≠ "Storage" ∨ item.productName ≠ "Premium SSD Managed Disks" ∨
      item.unitOfMeasure ≠ "1/Month" ∨ item.meterName ≠ item.skuName ++ " Disk" then none
  else (stripSuffix " LRS" item.skuName).filter expectedTiers.contains

def premiumSsdV2Dimension (item : RetailItem) : Option AzureManagedDiskPriceDimension :=
  if item.serviceName ≠ "Storage" ∨ item.productName ≠ "Azure Premium SSD v2" ∨
      item.skuName ≠ "Premium LRS" then none
  else
    match item.meterName, item.unitOfMeasure with
    | "Premium LRS Provisioned Capacity", "1 GiB/Hour" => some .capacityGb
    | "Premium LRS Provisioned IOPS", "1/Hour" => some .additionalIops
    | "Premium LRS Provisioned Throughput (MBps)", "1/Hour" => some .additionalThroughput
    | _, _ => none

/-! ### Rates -/

def parseNonnegativeDecimal (price : String) :
    Except AzureVmPricingNormalizationError Decimal96 :=
  (nonnegativeDecimal price).elim (.error .invalidValue) .ok

/-- A price of an item: its own, or one of its savings plans. -/
def quotedRate (item : RetailItem) (sourceUrl price : String) :
    Except AzureVmPricingNormalizationError RetailRate := do
  let rate ← parseNonnegativeDecimal price
  ensure (item.effectiveStartDate ≠ "" ∧ item.meterId ≠ "") .invalidValue
  return {
    rate := rate
    rawPriceLexeme := price
    unitOfMeasure := item.unitOfMeasure
    effectiveStartDate := item.effectiveStartDate
    sourceUrl := sourceUrl
    meterIds := [item.meterId] }

def retailRateAllowZero (item : RetailItem) (sourceUrl : String) :
    Except AzureVmPricingNormalizationError RetailRate :=
  quotedRate item sourceUrl item.retailPrice

def positiveRate (quoted : Except AzureVmPricingNormalizationError RetailRate) :
    Except AzureVmPricingNormalizationError RetailRate := do
  let rate ← quoted
  ensure (0 < value rate.rate) .invalidValue
  return rate

def retailRate (item : RetailItem) (sourceUrl : String) :
    Except AzureVmPricingNormalizationError RetailRate :=
  positiveRate (retailRateAllowZero item sourceUrl)

def savingsPlanRate (item : RetailItem) (plan : SavingsPlanPrice) (sourceUrl : String) :
    Except AzureVmPricingNormalizationError RetailRate :=
  positiveRate (quotedRate item sourceUrl plan.retailPrice)

/-- The hours of a reservation.  Savings plans are quoted by the hour. -/
def termHours : VmCommitment → Option ℕ
  | .reservationOne => some 8760
  | .reservationThree => some 26280
  | .savingsOne | .savingsThree => none

/-- The rate text of a computed price. -/
def priceLexeme (price : Decimal96) : String := display price.normalize

def reservationHourlyRate (item : RetailItem) (commitment : VmCommitment) (sourceUrl : String) :
    Except (Halt AzureVmPricingNormalizationError) RetailRate := do
  let rate ← checked (retailRate item sourceUrl)
  let hours ← okOr (termHours commitment) .invalidValue
  let hourly ← div rate.rate (DecimalArith.ofNat hours)
  return { rate with rate := hourly, rawPriceLexeme := priceLexeme hourly }

def mergeLatestRate (conflict : AzureVmPricingNormalizationError) (slot : Option RetailRate)
    (incoming : RetailRate) : Except AzureVmPricingNormalizationError RetailRate :=
  match slot with
  | none => .ok incoming
  | some existing =>
      if existing.effectiveStartDate < incoming.effectiveStartDate then .ok incoming
      else if incoming.effectiveStartDate = existing.effectiveStartDate then
        if value incoming.rate ≠ value existing.rate ∨
            incoming.unitOfMeasure ≠ existing.unitOfMeasure then .error conflict
        else .ok { existing with meterIds := mergeMeters existing.meterIds incoming.meterIds }
      else .ok existing

/-- The map with the rate merged into its slot. -/
def mergeInto {κ : Type} [DecidableEq κ] (conflict : AzureVmPricingNormalizationError)
    (rates : HashMap κ RetailRate) (key : κ) (incoming : RetailRate) :
    Except AzureVmPricingNormalizationError (HashMap κ RetailRate) := do
  let merged ← mergeLatestRate conflict (rates.lookup key) incoming
  return rates.insert key merged

def addSavingsPlan (item : RetailItem) (sourceUrl : String)
    (commitmentVm : HashMap (String × VmCommitment) RetailRate) (plan : SavingsPlanPrice) :
    Except AzureVmPricingNormalizationError (HashMap (String × VmCommitment) RetailRate) :=
  match savingsPlanCommitment plan.term with
  | none => .ok commitmentVm
  | some commitment => do
      let rate ← savingsPlanRate item plan sourceUrl
      mergeInto .conflictingVmRate commitmentVm (toAsciiLowercase item.armSkuName, commitment) rate

def addLinuxItem (sourceUrl : String) (rates : RetailRates) (item : RetailItem) :
    Except AzureVmPricingNormalizationError RetailRates := do
  let commitmentVm ← item.savingsPlan.foldlM (addSavingsPlan item sourceUrl) rates.commitmentVm
  let rate ← retailRate item sourceUrl
  let linuxVm ← mergeInto .conflictingVmRate rates.linuxVm (toAsciiLowercase item.armSkuName) rate
  return { rates with commitmentVm := commitmentVm, linuxVm := linuxVm }

def addReservation (sourceUrl : String) (rates : RetailRates) (item : RetailItem)
    (commitment : VmCommitment) :
    Except (Halt AzureVmPricingNormalizationError) RetailRates := do
  let rate ← reservationHourlyRate item commitment sourceUrl
  let commitmentVm ← checked (mergeInto .conflictingVmRate rates.commitmentVm
    (toAsciiLowercase item.armSkuName, commitment) rate)
  return { rates with commitmentVm := commitmentVm }

def addDiskItem (expectedTiers : List String) (sourceUrl : String) (rates : RetailRates)
    (item : RetailItem) : Except AzureVmPricingNormalizationError RetailRates :=
  if item.priceType ≠ "Consumption" then .ok rates
  else
    match premiumSsdTier expectedTiers item, premiumSsdV2Dimension item with
    | some tierKey, _ => do
        let rate ← retailRate item sourceUrl
        let tiers ← mergeInto .conflictingManagedDiskRate rates.tiers tierKey rate
        return { rates with tiers := tiers }
    | none, some dimension => do
        let tierMinimum ← parseNonnegativeDecimal item.tierMinimumUnits
        let rate ← retailRateAllowZero item sourceUrl
        let v2 ← mergeInto .conflictingManagedDiskRate rates.v2 (dimension, value tierMinimum) rate
        return { rates with v2 := v2 }
    | none, none => .ok rates

def inScope (context : AzureVmPricingContext) (item : RetailItem) : Bool :=
  item.armRegionName == context.targetRegion && item.currencyCode == context.currency &&
    item.isPrimaryMeterRegion

def addRetailItem (context : AzureVmPricingContext) (expected : HashMap String String)
    (expectedTiers : List String) (sourceUrl : String) (rates : RetailRates)
    (item : RetailItem) : Except (Halt AzureVmPricingNormalizationError) RetailRates :=
  if !inScope context item then .ok rates
  else if isWindowsVmRate expected item then do
    let rate ← checked (retailRate item sourceUrl)
    let windowsVm ← checked (mergeInto .conflictingVmRate rates.windowsVm
      (toAsciiLowercase item.armSkuName) rate)
    return { rates with windowsVm := windowsVm }
  else if isLinuxVmRate expected item then checked (addLinuxItem sourceUrl rates item)
  else
    match reservationCommitment expected item with
    | some commitment => addReservation sourceUrl rates item commitment
    | none => checked (addDiskItem expectedTiers sourceUrl rates item)

def addRetailPage (context : AzureVmPricingContext) (expected : HashMap String String)
    (expectedTiers : List String) (rates : RetailRates) (page : AzureVmRetailPagePayload) :
    Except (Halt AzureVmPricingNormalizationError) RetailRates :=
  if page.sourceUrl = "" then refuse .invalidValue
  else do
    let items ← okOr page.body .malformedJson
    items.foldlM (addRetailItem context expected expectedTiers page.sourceUrl) rates

def normalizeRetailRates (context : AzureVmPricingContext) (expected : HashMap String String)
    (expectedTiers : List String) (pages : List AzureVmRetailPagePayload) :
    Except (Halt AzureVmPricingNormalizationError) RetailRates :=
  pages.foldlM (addRetailPage context expected expectedTiers)
    { linuxVm := ∅, windowsVm := ∅, commitmentVm := ∅, tiers := ∅, v2 := ∅ }

/-! ### Virtual machine records -/

def vmPurchaseOptionKey : VmPurchaseOption → String
  | .payg => "payg"
  | .ahb => "ahb"
  | .oneYear => "one-year"
  | .ahbOneYear => "ahbone-year"
  | .threeYear => "three-year"
  | .ahbThreeYear => "ahbthree-year"
  | .savingsOneYear => "sv-one-year"
  | .ahbSavingsOneYear => "ahbsv-one-year"
  | .savingsThreeYear => "sv-three-year"
  | .ahbSavingsThreeYear => "ahbsv-three-year"

/-- A reviewed machine: its name in lower case and as reviewed. -/
structure ExpectedVm where
  key : String
  sku : String

def laterStart (left right : String) : String := if right < left then left else right

def vmRecord (targetRegion : String) (vm : ExpectedVm) (purchaseOption : VmPurchaseOption)
    (compute windows : RetailRate) (licenseHourly : Decimal96) :
    Except ArithmeticFault (AzureVmRateRecord Decimal96) := do
  let hourlyRate ← add compute.rate licenseHourly
  return {
    stableKey := targetRegion ++ "|" ++ vm.key ++ "|" ++ vmPurchaseOptionKey purchaseOption
    armSkuName := vm.sku
    purchaseOption := purchaseOption
    hourlyRate := hourlyRate
    licenseHourly := licenseHourly
    unitOfMeasure := compute.unitOfMeasure
    rawPriceLexeme := priceLexeme hourlyRate
    provenance := {
      sourceUrl := compute.sourceUrl
      effectiveAt := some (laterStart compute.effectiveStartDate windows.effectiveStartDate)
      sourceVersion := none
      meterIds := mergeMeters compute.meterIds windows.meterIds } }

/-- The licensed and the hybrid-benefit record of a compute rate. -/
def vmOptionPair (targetRegion : String) (vm : ExpectedVm)
    (options : VmPurchaseOption × VmPurchaseOption) (compute windows : RetailRate)
    (licenseHourly : Decimal96) :
    Except (Halt AzureVmPricingNormalizationError) (List (AzureVmRateRecord Decimal96)) := do
  checked (ensure (compute.unitOfMeasure = "1 Hour" ∧ windows.unitOfMeasure = "1 Hour" ∧
    0 < value compute.rate ∧ 0 < value licenseHourly) .invalidValue)
  let licensed ← vmRecord targetRegion vm options.1 compute windows licenseHourly
  let ahb ← vmRecord targetRegion vm options.2 compute windows zero
  return [licensed, ahb]

structure CommitmentOption where
  commitment : VmCommitment
  options : VmPurchaseOption × VmPurchaseOption
  label : String

def commitmentOptions : List CommitmentOption :=
  [⟨.reservationOne, (.oneYear, .ahbOneYear), "1-year Reservation"⟩,
    ⟨.reservationThree, (.threeYear, .ahbThreeYear), "3-year Reservation"⟩,
    ⟨.savingsOne, (.savingsOneYear, .ahbSavingsOneYear), "1-year Savings Plan"⟩,
    ⟨.savingsThree, (.savingsThreeYear, .ahbSavingsThreeYear), "3-year Savings Plan"⟩]

def incompleteWarning (vm : ExpectedVm) : String :=
  "Azure VM " ++ vm.sku ++ " has no complete Linux and Windows pay-as-you-go rate pair."

def commitmentWarning (vm : ExpectedVm) (label : String) : String :=
  "Azure VM " ++ vm.sku ++ " has no exact " ++ label ++
    " rate; that purchase option is unavailable."

/-- The records of a machine, and what it lacks. -/
structure VmOutcome where
  records : List (AzureVmRateRecord Decimal96)
  warnings : List String

def addCommitment (targetRegion : String) (vm : ExpectedVm) (rates : RetailRates)
    (linux windows : RetailRate) (licenseHourly : Decimal96) (outcome : VmOutcome)
    (option : CommitmentOption) : Except (Halt AzureVmPricingNormalizationError) VmOutcome :=
  match rates.commitmentVm.lookup (vm.key, option.commitment) with
  | none => .ok { outcome with
      warnings := outcome.warnings ++ [commitmentWarning vm option.label] }
  | some compute => do
      checked (ensure (value compute.rate < value linux.rate) .invalidValue)
      let pair ← vmOptionPair targetRegion vm option.options compute windows licenseHourly
      return { outcome with records := outcome.records ++ pair }

def vmOutcome (targetRegion : String) (rates : RetailRates) (vm : ExpectedVm) :
    Except (Halt AzureVmPricingNormalizationError) VmOutcome :=
  match rates.linuxVm.lookup vm.key, rates.windowsVm.lookup vm.key with
  | some linux, some windows => do
      let licenseHourly ← sub windows.rate linux.rate
      checked (ensure (0 < value licenseHourly) .invalidValue)
      let pair ← vmOptionPair targetRegion vm (.payg, .ahb) linux windows licenseHourly
      commitmentOptions.foldlM
        (addCommitment targetRegion vm rates linux windows licenseHourly) ⟨pair, []⟩
  | _, _ => .ok ⟨[], [incompleteWarning vm]⟩

/-! ### Managed-disk records -/

def RetailRate.provenance (rate : RetailRate) : RateProvenance where
  sourceUrl := rate.sourceUrl
  effectiveAt := some rate.effectiveStartDate
  sourceVersion := none
  meterIds := rate.meterIds

/-- Tiers are distinct, so that taking a rate out is looking it up. -/
def tierRecord (targetRegion : String) (tiers : HashMap String RetailRate) (tierKey : String) :
    Except AzureVmPricingNormalizationError (AzureManagedDiskRateRecord Decimal96) :=
  match tiers.lookup tierKey with
  | none => .error .missingManagedDiskRate
  | some rate => .ok {
      stableKey := targetRegion ++ "|" ++ premiumSsdOffer ++ "|" ++ toAsciiLowercase tierKey ++
        "|capacity_tier"
      offerKey := premiumSsdOffer
      tierKey := some tierKey
      dimension := .capacityTier
      normalizedMonthlyRate := rate.rate
      unitOfMeasure := rate.unitOfMeasure
      rawPriceLexeme := rate.rawPriceLexeme
      provenance := rate.provenance }

def dimensionKey : AzureManagedDiskPriceDimension → Option String
  | .capacityGb => some "capacity_gb"
  | .additionalIops => some "additional_iops"
  | .additionalThroughput => some "additional_throughput"
  | .capacityTier => none

/-- What lies below the paid tier is included for nothing. -/
def checkIncluded (v2 : HashMap (AzureManagedDiskPriceDimension × ℚ) RetailRate)
    (dimension : AzureManagedDiskPriceDimension) (paidTierMinimum : ℕ) :
    Except AzureVmPricingNormalizationError Unit :=
  if paidTierMinimum = 0 then .ok ()
  else
    match v2.lookup (dimension, 0) with
    | none => .error .missingManagedDiskRate
    | some included => ensure (value included.rate = 0) .invalidValue

def v2Record (targetRegion : String)
    (v2 : HashMap (AzureManagedDiskPriceDimension × ℚ) RetailRate)
    (dimension : AzureManagedDiskPriceDimension) (paidTierMinimum : ℕ) :
    Except (Halt AzureVmPricingNormalizationError) (AzureManagedDiskRateRecord Decimal96) := do
  checked (checkIncluded v2 dimension paidTierMinimum)
  let rate ← okOr (v2.lookup (dimension, (paidTierMinimum : ℚ))) .missingManagedDiskRate
  checked (ensure (0 < value rate.rate) .invalidValue)
  let dimensionKey ← okOr (dimensionKey dimension) .invalidValue
  let monthly ← mul rate.rate (DecimalArith.ofNat monthlyBillingHours)
  return {
    stableKey := targetRegion ++ "|" ++ premiumSsdV2Offer ++ "|" ++ dimensionKey
    offerKey := premiumSsdV2Offer
    tierKey := none
    dimension := dimension
    normalizedMonthlyRate := monthly
    unitOfMeasure := rate.unitOfMeasure
    rawPriceLexeme := rate.rawPriceLexeme
    provenance := rate.provenance }

/-- The dimensions of Premium SSD v2 and where their paid tiers begin. -/
def v2Dimensions : List (AzureManagedDiskPriceDimension × ℕ) :=
  [(.capacityGb, 0), (.additionalIops, 3000), (.additionalThroughput, 125)]

/-! ### Normalization -/

def normalizeAzureVmPricing {D : Type} (context : AzureVmPricingContext)
    (vmCatalog : VmCapabilityCatalog D) (diskCatalog : ManagedDiskCatalog D)
    (pages : List AzureVmRetailPagePayload) :
    Except (Halt AzureVmPricingNormalizationError) AzureVmPricingNormalization := do
  checked (validateScope context vmCatalog diskCatalog pages)
  let expected := expectedVms context vmCatalog
  let tierKeys ← checked (expectedTiers diskCatalog)
  let rates ← normalizeRetailRates context expected tierKeys pages
  let outcomes ← expected.toSortedList.mapM fun vm =>
    vmOutcome context.targetRegion rates ⟨vm.1, vm.2⟩
  let vmRecords := (outcomes.map VmOutcome.records).flatten
  checked (ensure (vmRecords ≠ []) .missingVmRates)
  let tierRecords ← checked (tierKeys.mapM (tierRecord context.targetRegion rates.tiers))
  let v2Records ← v2Dimensions.mapM fun dimension =>
    v2Record context.targetRegion rates.v2 dimension.1 dimension.2
  return {
    vmRecords := vmRecords.insertionSort fun left right => left.stableKey ≤ right.stableKey
    managedDiskRecords := (tierRecords ++ v2Records).insertionSort fun left right =>
      left.stableKey ≤ right.stableKey
    sourceUrls := sortedUnique (pages.map AzureVmRetailPagePayload.sourceUrl)
    warnings := ((outcomes.map VmOutcome.warnings).flatten).insertionSort (· ≤ ·) }

end AzureVm

end TcoCalculator
