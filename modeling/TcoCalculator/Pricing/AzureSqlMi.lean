/-
Azure SQL Managed Instance prices (src/rust/src/pricing/azure_sql_mi.rs): the
calculator's component references, summed to the eight purchase options, and
the retail meters for storage and memory.
-/
import TcoCalculator.Calculation.TargetSelector
import TcoCalculator.Library.HashMap
import TcoCalculator.Pricing.ProviderRows

namespace TcoCalculator

inductive AzureSqlMiNormalizationError where
  | malformedJson
  | invalidScope
  | duplicateConfiguration
  | missingConfiguration
  | missingPurchaseOption
  | invalidReference
  | missingOffer
  | missingRegionPrice
  | invalidValue
  | conflictingRetailRate
  deriving DecidableEq, Repr

namespace AzureSqlMi

open DecimalArith Halt ProviderRows

structure AzureSqlMiNormalizationContext where
  targetRegion : String
  calculatorRegionSlug : String
  currency : String
  calculatorSourceUrl : String
  calculatorSourceVersion : Option String
  effectiveAt : Option String

structure AzureMiConfiguration where
  configurationKey : String
  serviceTier : ServiceTier
  hardwareFamily : String
  vcores : UInt32
  zoneRedundant : Bool

inductive ReferenceList where
  | one (reference : String)
  | many (references : List String)

def ReferenceList.values : ReferenceList → List String
  | one reference => [reference]
  | many references => references

/-- The regional prices of an offer are kept as their texts. -/
structure CalculatorOffer where
  offerType : String
  prices : HashMap String (HashMap String String)

structure CalculatorPayload where
  skus : HashMap String (HashMap String ReferenceList)
  offers : HashMap String CalculatorOffer

structure RetailItem where
  serviceName : String
  armRegionName : String
  currencyCode : String
  productName : String
  skuName : String
  meterName : String
  unitOfMeasure : String
  priceType : String
  retailPrice : String
  effectiveStartDate : String
  meterId : String

/-- A fetched page.  No body: its JSON is malformed. -/
structure AzureRetailPagePayload where
  sourceUrl : String
  body : Option (List RetailItem)

inductive RetailTier where
  | generalPurpose
  | nextGenerationGeneralPurpose
  | businessCritical
  deriving DecidableEq, Repr

structure RetailRate (D : Type) where
  rate : D
  effectiveStartDate : String
  meterIds : List String

structure RetailRates (D : Type) where
  storage : HashMap (RetailTier × Bool) (RetailRate D)
  memory : HashMap Bool (RetailRate D)

structure OptionRate (D : Type) where
  computeHourly : D
  licenseHourly : D
  componentReferences : List String

structure AzureSqlMiNormalization (D : Type) where
  records : List (AzureMiRateRecord D)
  sourceUrls : List String
  warnings : List String

variable {D : Type} [DecimalArith D]

def parseNonnegativeDecimal (price : String) : Except AzureSqlMiNormalizationError D :=
  (nonnegativeDecimal price).elim (.error .invalidValue) .ok

/-! ### Scope -/

def validateConfiguration (keys : List String) (configuration : AzureMiConfiguration) :
    Except AzureSqlMiNormalizationError (List String) :=
  if configuration.configurationKey = "" ∨ configuration.hardwareFamily = "" ∨
      configuration.vcores = 0 then .error .invalidValue
  else if configuration.configurationKey ∈ keys then .error .duplicateConfiguration
  else .ok (configuration.configurationKey :: keys)

def validateContext (context : AzureSqlMiNormalizationContext)
    (configurations : List AzureMiConfiguration) : Except AzureSqlMiNormalizationError Unit :=
  if context.targetRegion = "" ∨ context.calculatorRegionSlug = "" ∨ context.currency ≠ "USD" ∨
      context.calculatorSourceUrl = "" then .error .invalidScope
  else do
    let _ ← configurations.foldlM validateConfiguration []
    return ()

/-! ### Purchase options -/

def purchaseOptionKey : PurchaseOption → String
  | .payg => "payg"
  | .ahb => "ahb"
  | .oneYear => "one-year"
  | .ahbOneYear => "ahbone-year"
  | .threeYear => "three-year"
  | .ahbThreeYear => "ahbthree-year"
  | .savingsOneYear => "sv-one-year"
  | .ahbSavingsOneYear => "ahbsv-one-year"

def isAhb : PurchaseOption → Bool
  | .ahb | .ahbOneYear | .ahbThreeYear | .ahbSavingsOneYear => true
  | .payg | .oneYear | .threeYear | .savingsOneYear => false

/-- `str::split_once("--")` on characters. -/
def splitOnce : List Char → Option (List Char × List Char)
  | [] => none
  | c :: rest =>
      if c = '-' ∧ rest.head? = some '-' then some ([], rest.tail)
      else (splitOnce rest).map fun (before, after) => (c :: before, after)

/-- The offer and the price that a reference names. -/
def parseReference (reference : String) :
    Except AzureSqlMiNormalizationError (String × String) :=
  match splitOnce reference.toList with
  | none => .error .invalidReference
  | some (offer, price) =>
      if offer = [] ∨ price = [] ∨ (splitOnce price).isSome then .error .invalidReference
      else .ok (String.ofList offer, String.ofList price)

/-- A priced reference: whether it is software, and what it costs an hour. -/
def referencePrice (context : AzureSqlMiNormalizationContext) (calculator : CalculatorPayload)
    (reference : String) : Except AzureSqlMiNormalizationError (Bool × D) := do
  let (offerKey, priceKey) ← parseReference reference
  match calculator.offers.lookup offerKey with
  | none => throw .missingOffer
  | some offer =>
      match (offer.prices.lookup priceKey).bind fun regions =>
          regions.lookup context.calculatorRegionSlug with
      | none => throw .missingRegionPrice
      | some text => do
          let price ← parseNonnegativeDecimal text
          return (offer.offerType == "software", price)

def OptionRate.addPrice (rate : OptionRate D) (software : Bool) (price : D)
    (reference : String) : Except ArithmeticFault (OptionRate D) :=
  let componentReferences := addMeter reference rate.componentReferences
  if software then do
    let licenseHourly ← add rate.licenseHourly price
    return { rate with licenseHourly := licenseHourly, componentReferences := componentReferences }
  else do
    let computeHourly ← add rate.computeHourly price
    return { rate with computeHourly := computeHourly, componentReferences := componentReferences }

def addReference (context : AzureSqlMiNormalizationContext) (calculator : CalculatorPayload)
    (rate : OptionRate D) (reference : String) :
    Except (Halt AzureSqlMiNormalizationError) (OptionRate D) := do
  let (software, price) ← checked (referencePrice context calculator reference)
  rate.addPrice software price reference

/-- The references of a purchase option. -/
def optionReferences (calculator : CalculatorPayload) (configuration : AzureMiConfiguration)
    (purchaseOption : PurchaseOption) : Except AzureSqlMiNormalizationError (List String) :=
  match calculator.skus.lookup configuration.configurationKey with
  | none => .error .missingConfiguration
  | some sku =>
      match sku.lookup (purchaseOptionKey purchaseOption) with
      | none => .error .missingPurchaseOption
      | some references => .ok references.values

def checkOptionRate (purchaseOption : PurchaseOption) (references : List String)
    (rate : OptionRate D) : Except AzureSqlMiNormalizationError Unit :=
  if references = [] ∨ value rate.computeHourly ≤ 0 then .error .invalidValue
  else if isAhb purchaseOption ∧ value rate.licenseHourly ≠ 0 then .error .invalidValue
  else .ok ()

def calculatorOptionRate (context : AzureSqlMiNormalizationContext)
    (calculator : CalculatorPayload) (configuration : AzureMiConfiguration)
    (purchaseOption : PurchaseOption) :
    Except (Halt AzureSqlMiNormalizationError) (OptionRate D) := do
  let references ← checked (optionReferences calculator configuration purchaseOption)
  let rate ← references.foldlM (addReference context calculator)
    { computeHourly := zero, licenseHourly := zero, componentReferences := [] }
  checked (checkOptionRate purchaseOption references rate)
  return rate

/-- The rates of all options, each beside its option. -/
def calculatorOptionRates (context : AzureSqlMiNormalizationContext)
    (configuration : AzureMiConfiguration) (calculator : CalculatorPayload) :
    Except (Halt AzureSqlMiNormalizationError) (List (PurchaseOption × OptionRate D)) :=
  PurchaseOption.all.mapM fun purchaseOption => do
    let rate ← calculatorOptionRate context calculator configuration purchaseOption
    return (purchaseOption, rate)

/-! ### Retail meters -/

def isDataStorage (item : RetailItem) : Bool :=
  !containsText "PITR Backup" item.productName && !containsText "LTR Backup" item.productName &&
    containsText "Storage" item.productName && containsText "Data Stored" item.meterName &&
    item.unitOfMeasure == "1 GB/Month"

def isAdditionalMemory (item : RetailItem) : Bool := containsText "Memory" item.meterName

def isPremiumSeries (productName : String) : Bool :=
  containsText "Premium Series" productName &&
    !containsText "Premium Series Memory Optimized" productName

def isZoneRedundant (skuName meterName : String) : Bool :=
  containsText "Zone Redundan" skuName || containsText "Zone Redundan" meterName ||
    containsWord "ZR" skuName || containsWord "ZR" meterName

def parseRetailTier (productName : String) : Option RetailTier :=
  if containsText "Next Generation General Purpose" productName ||
      containsText "next-gen-general-purpose" productName then
    some .nextGenerationGeneralPurpose
  else if containsText "Business Critical" productName ||
      containsText "business-critical" productName then some .businessCritical
  else if containsText "General Purpose" productName ||
      containsText "general-purpose" productName then some .generalPurpose
  else none

def retailTier : ServiceTier → RetailTier
  | .nextGenerationGeneralPurpose => .nextGenerationGeneralPurpose
  | .businessCritical => .businessCritical

def serviceTierKey : ServiceTier → String
  | .nextGenerationGeneralPurpose => "next-gen-general-purpose"
  | .businessCritical => "business-critical"

def retailRate (item : RetailItem) : Except AzureSqlMiNormalizationError (RetailRate D) := do
  let rate : D ← parseNonnegativeDecimal item.retailPrice
  ensure (0 < value rate ∧ item.effectiveStartDate ≠ "" ∧ item.meterId ≠ "") .invalidValue
  return {
    rate := rate
    effectiveStartDate := item.effectiveStartDate
    meterIds := [item.meterId] }

def RetailRate.merge (existing incoming : RetailRate D) : RetailRate D :=
  { existing with meterIds := mergeMeters existing.meterIds incoming.meterIds }

def mergeMinimumRate (slot : Option (RetailRate D)) (incoming : RetailRate D) : RetailRate D :=
  match slot with
  | none => incoming
  | some existing =>
      if value incoming.rate < value existing.rate then incoming
      else if value incoming.rate = value existing.rate then existing.merge incoming
      else existing

def mergeLatestRate (slot : Option (RetailRate D)) (incoming : RetailRate D) :
    Except AzureSqlMiNormalizationError (RetailRate D) :=
  match slot with
  | none => .ok incoming
  | some existing =>
      if existing.effectiveStartDate < incoming.effectiveStartDate then .ok incoming
      else if existing.effectiveStartDate = incoming.effectiveStartDate then
        if value incoming.rate ≠ value existing.rate then .error .conflictingRetailRate
        else .ok (existing.merge incoming)
      else .ok existing

/-- The storage meter an item prices. -/
def storageMeter (item : RetailItem) : Option (RetailTier × Bool) :=
  if isDataStorage item then
    (parseRetailTier item.productName).map fun tier =>
      (tier, isZoneRedundant item.skuName item.meterName)
  else none

/-- The memory meter an item prices. -/
def memoryMeter (item : RetailItem) : Option Bool :=
  if !isDataStorage item && isAdditionalMemory item &&
      parseRetailTier item.productName == some .generalPurpose &&
      isPremiumSeries item.productName && item.unitOfMeasure == "1 GB/Hour" then
    some (isZoneRedundant item.skuName item.meterName)
  else none

def addRetailItem (context : AzureSqlMiNormalizationContext) (rates : RetailRates D)
    (item : RetailItem) : Except AzureSqlMiNormalizationError (RetailRates D) :=
  if item.serviceName ≠ "SQL Managed Instance" ∨ item.armRegionName ≠ context.targetRegion then
    .ok rates
  else if item.currencyCode ≠ context.currency then .error .invalidValue
  else if item.priceType ≠ "Consumption" then .ok rates
  else
    match storageMeter item, memoryMeter item with
    | some meter, _ => do
        let rate ← retailRate item
        return { rates with
          storage := rates.storage.insert meter
            (mergeMinimumRate (rates.storage.lookup meter) rate) }
    | none, some meter => do
        let rate ← retailRate item
        let merged ← mergeLatestRate (rates.memory.lookup meter) rate
        return { rates with memory := rates.memory.insert meter merged }
    | none, none => .ok rates

def addRetailPage (context : AzureSqlMiNormalizationContext) (rates : RetailRates D)
    (page : AzureRetailPagePayload) : Except AzureSqlMiNormalizationError (RetailRates D) :=
  if page.sourceUrl = "" then .error .invalidScope
  else
    match page.body with
    | none => .error .malformedJson
    | some items => items.foldlM (addRetailItem context) rates

def normalizeRetailRates (context : AzureSqlMiNormalizationContext)
    (pages : List AzureRetailPagePayload) : Except AzureSqlMiNormalizationError (RetailRates D) :=
  pages.foldlM (addRetailPage context) { storage := ∅, memory := ∅ }

/-! ### Records -/

def normalizeKey (text : String) : Except AzureSqlMiNormalizationError String :=
  (normalizeToken text).elim (.error .invalidValue) .ok

/-- The data-storage meter of a configuration.  Next-generation instances fall
back to the general-purpose one. -/
def storageRate (retail : RetailRates D) (configuration : AzureMiConfiguration) :
    Option (RetailRate D) :=
  (retail.storage.lookup (retailTier configuration.serviceTier, configuration.zoneRedundant)).or
    (match configuration.serviceTier with
      | .nextGenerationGeneralPurpose =>
          retail.storage.lookup (.generalPurpose, configuration.zoneRedundant)
      | .businessCritical => none)

/-- The memory meter of a configuration: none where the tier needs none. -/
def memoryRate (retail : RetailRates D) (configuration : AzureMiConfiguration) :
    Option (Option (RetailRate D)) :=
  match configuration.serviceTier with
  | .nextGenerationGeneralPurpose => (retail.memory.lookup configuration.zoneRedundant).map some
  | .businessCritical => some none

def storageWarning (configuration : AzureMiConfiguration) : String :=
  "Azure SQL MI " ++ configuration.configurationKey ++ " has no applicable data-storage meter."

def memoryWarning (configuration : AzureMiConfiguration) : String :=
  "Azure SQL MI " ++ configuration.configurationKey ++
    " has no applicable Premium-series additional-memory meter."

def optionRecord (context : AzureSqlMiNormalizationContext) (configuration : AzureMiConfiguration)
    (optionRates : List (PurchaseOption × OptionRate D)) (storage : RetailRate D)
    (memory : Option (RetailRate D)) (purchaseOption : PurchaseOption) :
    Except AzureSqlMiNormalizationError (AzureMiRateRecord D) :=
  match optionRates.lookup purchaseOption with
  | none => .error .missingPurchaseOption
  | some rate => do
      let hardware ← normalizeKey configuration.hardwareFamily
      return {
        stableKey := context.targetRegion ++ "|" ++ serviceTierKey configuration.serviceTier ++
          "|" ++ hardware ++ "|" ++ toString configuration.vcores.toNat ++ "|" ++
          toString configuration.zoneRedundant ++ "|" ++ purchaseOptionKey purchaseOption
        configurationKey := configuration.configurationKey
        purchaseOption := purchaseOption
        rate := {
          computeHourly := rate.computeHourly
          licenseHourly := rate.licenseHourly
          storageMonthlyPerGb := storage.rate
          additionalMemoryPerGbHourly := memory.elim zero RetailRate.rate }
        provenance := {
          sourceUrl := context.calculatorSourceUrl
          effectiveAt := context.effectiveAt
          sourceVersion := context.calculatorSourceVersion
          meterIds := mergeMeters (mergeMeters rate.componentReferences storage.meterIds)
            (memory.elim [] RetailRate.meterIds) } }

/-- The records of a configuration, or the warning that it has none. -/
def configurationRecords (context : AzureSqlMiNormalizationContext)
    (calculator : CalculatorPayload) (retail : RetailRates D)
    (configuration : AzureMiConfiguration) :
    Except (Halt AzureSqlMiNormalizationError) (List (AzureMiRateRecord D) ⊕ String) := do
  let optionRates ← calculatorOptionRates context configuration calculator
  match storageRate retail configuration with
  | none => return .inr (storageWarning configuration)
  | some storage =>
      match memoryRate retail configuration with
      | none => return .inr (memoryWarning configuration)
      | some memory => do
          let records ← checked (PurchaseOption.all.mapM
            (optionRecord context configuration optionRates storage memory))
          return .inl records

def normalizeAzureSqlMi (context : AzureSqlMiNormalizationContext)
    (configurations : List AzureMiConfiguration) (calculatorBody : Option CalculatorPayload)
    (retailPages : List AzureRetailPagePayload) :
    Except (Halt AzureSqlMiNormalizationError) (AzureSqlMiNormalization D) := do
  checked (validateContext context configurations)
  let calculator ← okOr calculatorBody .malformedJson
  let retail ← checked (normalizeRetailRates context retailPages)
  let outcomes ← configurations.mapM (configurationRecords context calculator retail)
  return {
    records := ((outcomes.filterMap Sum.getLeft?).flatten).insertionSort fun left right =>
      left.stableKey ≤ right.stableKey
    sourceUrls := PriceSnapshot.sortedUnique
      (context.calculatorSourceUrl :: retailPages.map AzureRetailPagePayload.sourceUrl)
    warnings := PriceSnapshot.sortedUnique (outcomes.filterMap Sum.getRight?) }

end AzureSqlMi

end TcoCalculator
