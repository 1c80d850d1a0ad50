/-
The calculation engine (src/rust/src/calculation/workflow.rs).
-/
import TcoCalculator.Calculation.Explanation
import TcoCalculator.Calculation.SqlPayg
import TcoCalculator.Pricing.Snapshot
import TcoCalculator.Pricing.Warnings

namespace TcoCalculator

open DecimalArith Halt

inductive PricingStatus where
  | fresh
  | cached
  | stale
  | unavailable
  | notRequired
  deriving DecidableEq, Repr

structure PurchaseOptionDiscounts (D : Type) where
  payg : D
  oneYearReserved : D
  threeYearReserved : D
  oneYearSavingsPlan : D
  azureHybridBenefit : D
  deriving DecidableEq

structure VmPurchaseOptionPricing (D : Type) where
  purchaseOption : VmPurchaseOption
  available : Bool
  computeDiscount : Option D
  licenseDiscount : Option D
  deriving DecidableEq

structure PortfolioTotals (D : Type) where
  awsAllRowsTotal : Option D
  awsMappedRowsTotal : D
  azureMappedRowsTotal : D
  requiredPortfolioAdjustment : D
  selectedParityAdjustment : D
  portfolioAfterSelectedParity : D
  portfolioDifference : D
  comparableResourceCount : Nat
  noMappingResourceCount : Nat
  priceUnavailableResourceCount : Nat
  deriving DecidableEq

structure UnresolvedComponent where
  provider : Option Provider
  code : String
  message : String
  deriving DecidableEq

structure ResourceCalculation (D : Type) where
  resourceId : Uuid
  storageInputs : StorageInputs D
  mappingStatus : Option MappingStatus
  awsPricingStatus : PricingStatus
  azurePricingStatus : PricingStatus
  targetSelection : Option (TargetSelection D)
  vmTargetSelection : Option (VmTargetSelection D)
  sourceCosts : Option (SourceCostBreakdown D)
  azureCosts : Option (AzureCostBreakdown D)
  purchaseOptionDiscounts : Option (PurchaseOptionDiscounts D)
  vmPurchaseOptionPricing : Option (List (VmPurchaseOptionPricing D))
  savings : Option (SavingsBreakdown D)
  explanationSteps : List ExplanationStep
  unresolvedComponents : List UnresolvedComponent
  deriving DecidableEq

structure CalculationRevision (D : Type) where
  formulaVersion : String
  awsSnapshotId : Option String
  azureSnapshotId : Option String
  resourceResults : List (ResourceCalculation D)
  portfolioTotals : PortfolioTotals D
  warnings : List String
  sqlPaygAnalysis : Option (SqlPaygAnalysis D)
  deriving DecidableEq

inductive CalculationError where
  | emptyCapabilityCatalog
  | formulaVersionMismatch
  | validation (issues : List ValidationIssue)
  | snapshotScopeMismatch (provider : Provider)
  | invalidTargetSelection
  | targetSelection (error : TargetSelectionError)
  | vmTargetSelection (error : VmTargetSelectionError)
  | cost (error : CostError)
  | sqlPayg (error : SqlPaygError)
  deriving DecidableEq

structure CalculationInput (D : Type) where
  settings : ProjectSettings D
  resources : List (Resource D)
  awsSnapshot : Option (AwsPriceSnapshot D)
  azureSnapshot : Option (AzurePriceSnapshot D)
  expectedFormulaVersion : Option String

structure CalculationEngine (D : Type) where
  capabilities : CapabilityCatalog D
  vmCapabilities : VmCapabilityCatalog D
  managedDiskCapabilities : ManagedDiskCatalog D
  formulaVersion : String
  capabilities_nonempty : capabilities.candidates ≠ []

/-- What is known of a resource before it is mapped. -/
structure ResolvedSource (D : Type) where
  sourceVcpu : Option UInt32
  sourceMaxIops : Option UInt64
  costs : Option (SourceCostBreakdown D)
  pricingStatus : PricingStatus
  explanationSteps : List ExplanationStep
  unresolvedComponents : List UnresolvedComponent

namespace CalculationEngine

variable {D : Type}

/-- An engine with the given catalogs; the one for SQL targets may not be empty. -/
def withVmCatalogs (capabilities : CapabilityCatalog D) (vmCapabilities : VmCapabilityCatalog D)
    (managedDiskCapabilities : ManagedDiskCatalog D) (formulaVersion : String) :
    Except CalculationError (CalculationEngine D) :=
  if h : capabilities.candidates = [] then .error .emptyCapabilityCatalog
  else .ok ⟨capabilities, vmCapabilities, managedDiskCapabilities, formulaVersion, h⟩

def new (capabilities : CapabilityCatalog D) (formulaVersion : String) :
    Except CalculationError (CalculationEngine D) :=
  withVmCatalogs capabilities ⟨[]⟩ ⟨[]⟩ formulaVersion

end CalculationEngine

namespace Workflow

variable {D : Type} [DecimalArith D]

/-! ### Source side -/

def pricingStatus : ResolutionStatus → PricingStatus
  | .fresh => .fresh
  | .cached => .cached
  | .stale => .stale
  | .unavailable => .unavailable

def costUnresolved (provider : Provider) (error : CostError) : UnresolvedComponent where
  provider := some provider
  code := "incomplete_rate_set"
  message := error.message

def unavailableSource (provider : Provider) (code : String) : ResolvedSource D where
  sourceVcpu := none
  sourceMaxIops := none
  costs := none
  pricingStatus := .unavailable
  explanationSteps := []
  unresolvedComponents := [⟨some provider, code,
    "A usable source price record is not available."⟩]

/-- A source whose rate record was found, priced or not. -/
def pricedSource (snapshot : AwsPriceSnapshot D) (provenance : RateProvenance)
    (sourceVcpu : UInt32) (sourceMaxIops : Option UInt64)
    (costs : Except CostError (SourceCostBreakdown D)) : ResolvedSource D where
  sourceVcpu := some sourceVcpu
  sourceMaxIops := sourceMaxIops
  costs := costs.toOption
  pricingStatus := match costs with
    | .ok _ => pricingStatus snapshot.metadata.status
    | .error _ => .unavailable
  explanationSteps :=
    [Explanation.sourceProvenanceStep provenance.sourceUrl snapshot.metadata.retrievedAt]
  unresolvedComponents := match costs with
    | .ok _ => []
    | .error failure => [costUnresolved .aws failure]

def resolveEc2Source (resource : Ec2Resource D) (input : CalculationInput D) :
    Except ArithmeticFault (ResolvedSource D) :=
  match input.awsSnapshot with
  | none => .ok (unavailableSource .aws "aws_snapshot_unavailable")
  | some snapshot =>
  match snapshot.ec2Rate resource.instanceType with
  | none => .ok (unavailableSource .aws "ec2_rate_unavailable")
  | some record => do
      match ← attempt (Cost.sourceMaxIops resource) with
      | .error failure =>
          return pricedSource snapshot record.provenance record.rate.sourceVcpu none (.error failure)
      | .ok maximumIops =>
          let ebsRates := snapshot.ebsRates.map AwsEbsRateRecord.rate
          let costs ← attempt
            (Cost.calculateEc2Source resource record.rate ebsRates input.settings)
          return pricedSource snapshot record.provenance record.rate.sourceVcpu
            (some maximumIops) costs

def resolveRdsSource (resource : RdsResource D) (input : CalculationInput D) :
    Except ArithmeticFault (ResolvedSource D) :=
  match input.awsSnapshot with
  | none => .ok (unavailableSource .aws "aws_snapshot_unavailable")
  | some snapshot =>
  match snapshot.rdsRate resource.instanceType resource.deployment resource.commercialTerm
      resource.storageClass with
  | none => .ok (unavailableSource .aws "rds_rate_unavailable")
  | some record => do
      let costs ← attempt (Cost.calculateRdsSource resource record.rate input.settings)
      return pricedSource snapshot record.provenance record.rate.sourceVcpu
        (some resource.sourceMaxIops) costs

def saturatingAdd (a b : UInt64) : UInt64 := UInt64.ofNat (Nat.min (a.toNat + b.toNat) (2 ^ 64 - 1))

def isPersistent (volumeType : EbsVolumeType) : Bool := volumeType ≠ .ephemeral

def persistentVolumes (resource : Ec2VmResource D) : List (VmVolume D) :=
  resource.volumes.filter fun volume => isPersistent volume.volumeType

def resolveEc2VmSource (resource : Ec2VmResource D) (input : CalculationInput D) :
    Except ArithmeticFault (ResolvedSource D) :=
  match input.awsSnapshot with
  | none => .ok (unavailableSource .aws "aws_snapshot_unavailable")
  | some snapshot =>
  match snapshot.ec2Rate resource.instanceType with
  | none => .ok (unavailableSource .aws "ec2_vm_rate_unavailable")
  | some record => do
      let ebsRates := snapshot.ebsRates.map AwsEbsRateRecord.rate
      let sourceMaxIops := ((persistentVolumes resource).filterMap VmVolume.provisionedIops).foldl
        saturatingAdd 0
      let costs ← attempt
        (Cost.calculateEc2VmSource resource record.rate ebsRates input.settings)
      return pricedSource snapshot record.provenance record.rate.sourceVcpu
        (some sourceMaxIops) costs

def resolveOnPremSource (resource : OnPremResource D) (settings : ProjectSettings D) :
    Except (Halt CostError) (ResolvedSource D) := do
  let result ← Cost.calculateOnPremSource resource settings
  return {
    sourceVcpu := some resource.sourceVcpu
    sourceMaxIops := some resource.sourceMaxIops
    costs := some result.costs
    pricingStatus := .notRequired
    explanationSteps := [
      Explanation.onPremPowerStep result.explanation resource,
      Explanation.onPremCostFormulaStep resource settings result.costs result.explanation]
    unresolvedComponents := [] }

def persistentCapacity : Resource D → Except ArithmeticFault D
  | .ec2 resource => sum ((resource.volumes.filter fun volume =>
      isPersistent volume.volumeType).map EbsVolume.capacityGb)
  | .ec2Vm resource => sum ((persistentVolumes resource).map VmVolume.capacityGb)
  | .rds _ | .onPrem _ => .ok zero

def azureStorage (resource : Resource D) (sqlDataGb persistentEbsGb : D) :
    Except ArithmeticFault D :=
  match resource with
  | .ec2Vm _ => .ok persistentEbsGb
  | _ => do Cost.azureMiConfiguredStorageGb (← add sqlDataGb persistentEbsGb)

def storageInputs (resource : Resource D) : Except ArithmeticFault (StorageInputs D) := do
  let sqlDataGb := (resource.sql.map SqlWorkload.sqlDataGbPerInstance).getD zero
  let persistentEbsGb ← persistentCapacity resource
  let azureStorageGb ← azureStorage resource sqlDataGb persistentEbsGb
  return {
    sqlDataGbPerInstance := sqlDataGb
    persistentEbsGbPerInstance := persistentEbsGb
    azureStorageGbPerInstance := azureStorageGb }

/-! ### Target side -/

/-- A target with its costs, or the reason why it has none. -/
structure ResolvedTarget (D : Type) where
  costs : Option (AzureCostBreakdown D)
  purchaseOptionDiscounts : Option (PurchaseOptionDiscounts D)
  pricingStatus : PricingStatus
  unresolvedComponents : List UnresolvedComponent
  explanationSteps : List ExplanationStep

def unpricedTarget (component : UnresolvedComponent) : ResolvedTarget D where
  costs := none
  purchaseOptionDiscounts := none
  pricingStatus := .unavailable
  unresolvedComponents := [component]
  explanationSteps := []

def rateDiscount (baseline applied : D) : Except ArithmeticFault D :=
  if value baseline = 0 then .ok zero
  else do
    let discount ← sub one (← div applied baseline)
    return DecimalArith.min (DecimalArith.max discount zero) one

def purchaseOptionDiscounts (snapshot : AzurePriceSnapshot D) (configurationKey : String) :
    Except ArithmeticFault (Option (PurchaseOptionDiscounts D)) :=
  let rate (purchaseOption : PurchaseOption) : Option (AzureRate D) :=
    (snapshot.miRate configurationKey purchaseOption).map AzureMiRateRecord.rate
  match rate .payg, rate .ahb, rate .oneYear, rate .threeYear, rate .savingsOneYear with
  | some payg, some ahb, some oneYear, some threeYear, some savingsOneYear => do
      return some {
        payg := zero
        oneYearReserved := ← rateDiscount payg.computeHourly oneYear.computeHourly
        threeYearReserved := ← rateDiscount payg.computeHourly threeYear.computeHourly
        oneYearSavingsPlan := ← rateDiscount payg.computeHourly savingsOneYear.computeHourly
        azureHybridBenefit := ← rateDiscount payg.licenseHourly ahb.licenseHourly }
  | _, _, _, _, _ => .ok none

def azureUnresolved (code message : String) : UnresolvedComponent := ⟨some .azure, code, message⟩

def resolveAzureCosts (selected : SelectedTarget D) (resource : Resource D)
    (azureStorageGbPerInstance : D) (input : CalculationInput D) :
    Except ArithmeticFault (ResolvedTarget D) :=
  match input.azureSnapshot with
  | none => .ok (unpricedTarget (azureUnresolved "azure_snapshot_unavailable"
      "A usable Azure price snapshot is required for target cost."))
  | some snapshot =>
  if !snapshot.hasCompleteMiRateSet selected.configurationKey then
    .ok (unpricedTarget (azureUnresolved "azure_price_set_incomplete"
      "The selected target does not have all eight purchase options and required component prices."))
  else
  match resource.sql with
  | none => .ok (unpricedTarget (azureUnresolved "azure_rate_unavailable"
      "SQL Managed Instance rates do not apply to this workload."))
  | some sql =>
  match snapshot.miRate selected.configurationKey sql.miPurchaseOption with
  | none => .ok (unpricedTarget (azureUnresolved "azure_rate_unavailable"
      "The selected target does not have a complete purchase-option rate."))
  | some record => do
      let shared := resource.shared
      let result ← attempt (Cost.calculateAzure shared.quantity shared.annualHoursPerInstance
        azureStorageGbPerInstance selected.includedMemoryGb selected.selectedMemoryGb record.rate
        input.settings)
      match result with
      | .error failure => return unpricedTarget (costUnresolved .azure failure)
      | .ok costs =>
          let discounts ← purchaseOptionDiscounts snapshot selected.configurationKey
          let formulaStep ← Explanation.azureCostFormulaStep selected shared
            azureStorageGbPerInstance record.rate input.settings costs
          return {
            costs := some costs
            purchaseOptionDiscounts := discounts
            pricingStatus := pricingStatus snapshot.metadata.status
            unresolvedComponents := []
            explanationSteps := [
              Explanation.targetProvenanceStep record.provenance.sourceUrl
                snapshot.metadata.retrievedAt,
              formulaStep] }

def vmDiskPriceDimension : AzureManagedDiskPriceDimension → VmDiskPriceDimension
  | .capacityTier => .capacityTier
  | .capacityGb => .capacityGb
  | .additionalIops => .additionalIops
  | .additionalThroughput => .additionalThroughput

def vmPriceAvailability (snapshot : AzurePriceSnapshot D) : VmPriceAvailability D where
  vmHourlyRates := (snapshot.vmRates.filter fun record => record.purchaseOption == .payg).map
    fun record => (toAsciiLowercase record.armSkuName, record.hourlyRate)
  managedDiskDimensions := snapshot.managedDiskRates.map fun record =>
    ⟨record.offerKey, record.tierKey, vmDiskPriceDimension record.dimension⟩

def vmOptionDiscounts (payg rate : AzureVmRateRecord D) : Except ArithmeticFault (D × D) := do
  let paygCompute ← sub payg.hourlyRate payg.licenseHourly
  let optionCompute ← sub rate.hourlyRate rate.licenseHourly
  return (← rateDiscount paygCompute optionCompute,
    ← rateDiscount payg.licenseHourly rate.licenseHourly)

def vmDiscountsOf : Option (AzureVmRateRecord D) → Option (AzureVmRateRecord D) →
    Except ArithmeticFault (Option (D × D))
  | some payg, some rate => some <$> vmOptionDiscounts payg rate
  | _, _ => .ok none

def vmPurchaseOptionPricing (snapshot : AzurePriceSnapshot D) (armSkuName : String) :
    Except ArithmeticFault (List (VmPurchaseOptionPricing D)) :=
  let payg := snapshot.vmRate armSkuName .payg
  VmPurchaseOption.all.mapM fun purchaseOption => do
    let rate := snapshot.vmRate armSkuName purchaseOption
    let discounts ← vmDiscountsOf payg rate
    return {
      purchaseOption := purchaseOption
      available := rate.isSome
      computeDiscount := discounts.map Prod.fst
      licenseDiscount := discounts.map Prod.snd }

/-- The monthly cost of a disk and where its rates come from. -/
def resolveManagedDiskMonthly (snapshot : AzurePriceSnapshot D) (disk : SelectedManagedDisk D) :
    Except (Halt CostError) (D × List String) := do
  match disk.tierKey with
  | some tierKey =>
      let capacity ← okOr (snapshot.managedDiskRate disk.offerKey (some tierKey) .capacityTier)
        .missingAzureManagedDiskRate
      let cost ← Cost.calculateAzureManagedDiskMonthly disk
        ⟨capacity.normalizedMonthlyRate, none, none⟩
      return (cost, [capacity.provenance.sourceUrl])
  | none =>
      let capacity ← okOr (snapshot.managedDiskRate disk.offerKey none .capacityGb)
        .missingAzureManagedDiskRate
      let iops ← okOr (snapshot.managedDiskRate disk.offerKey none .additionalIops)
        .missingAzureManagedDiskRate
      let throughput ← okOr (snapshot.managedDiskRate disk.offerKey none .additionalThroughput)
        .missingAzureManagedDiskRate
      let cost ← Cost.calculateAzureManagedDiskMonthly disk ⟨capacity.normalizedMonthlyRate,
        some iops.normalizedMonthlyRate, some throughput.normalizedMonthlyRate⟩
      return (cost, [capacity.provenance.sourceUrl, iops.provenance.sourceUrl,
        throughput.provenance.sourceUrl])

/-- The monthly cost of all disks; the first disk without a price ends the sum. -/
def monthlyDisks (snapshot : AzurePriceSnapshot D) (disks : List (SelectedManagedDisk D)) :
    Except (Halt CostError) (D × List String) :=
  disks.foldlM (fun (total, sourceUrls) disk => do
    let (cost, urls) ← resolveManagedDiskMonthly snapshot disk
    return (← add total cost, sourceUrls ++ urls)) (zero, [])

def resolveAzureVmCosts (selected : SelectedVmTarget D) (resource : Ec2VmResource D)
    (input : CalculationInput D) : Except ArithmeticFault (ResolvedTarget D) :=
  match input.azureSnapshot with
  | none => .ok (unpricedTarget (azureUnresolved "azure_snapshot_unavailable"
      "A usable Azure price snapshot is required for VM target cost."))
  | some snapshot =>
  match snapshot.vmRate selected.armSkuName resource.vmPurchaseOption with
  | none => .ok (unpricedTarget (azureUnresolved "azure_vm_purchase_option_unavailable"
      s!"The selected Azure VM {selected.armSkuName} does not have an exact rate for purchase option {resource.vmPurchaseOption.asStr}."))
  | some vmRate => do
      match ← attempt (monthlyDisks snapshot selected.disks) with
      | .error failure => return unpricedTarget (costUnresolved .azure failure)
      | .ok (monthly, diskSourceUrls) =>
      let result ← attempt (Cost.calculateAzureVm resource.shared.quantity
        resource.shared.annualHoursPerInstance vmRate.hourlyRate vmRate.licenseHourly monthly
        input.settings)
      match result with
      | .error failure => return unpricedTarget (costUnresolved .azure failure)
      | .ok costs => return {
          costs := some costs
          purchaseOptionDiscounts := none
          pricingStatus := pricingStatus snapshot.metadata.status
          unresolvedComponents := []
          explanationSteps := [
            Explanation.targetProvenanceStep vmRate.provenance.sourceUrl
              snapshot.metadata.retrievedAt,
            Explanation.vmTargetSelectionStep selected
              (PriceSnapshot.sortedUnique diskSourceUrls),
            Explanation.vmAzureCostFormulaStep selected resource vmRate.hourlyRate
              vmRate.licenseHourly monthly input.settings costs] }

/-! ### Rows -/

/-- A row with its source side only. -/
def sourceRow (resourceId : Uuid) (storage : StorageInputs D)
    (mappingStatus : Option MappingStatus) (azurePricingStatus : PricingStatus)
    (source : ResolvedSource D) : ResourceCalculation D where
  resourceId := resourceId
  storageInputs := storage
  mappingStatus := mappingStatus
  awsPricingStatus := source.pricingStatus
  azurePricingStatus := azurePricingStatus
  targetSelection := none
  vmTargetSelection := none
  sourceCosts := source.costs
  azureCosts := none
  purchaseOptionDiscounts := none
  vmPurchaseOptionPricing := none
  savings := none
  explanationSteps := source.explanationSteps
  unresolvedComponents := source.unresolvedComponents

def withSteps (source : ResolvedSource D) (steps : List ExplanationStep) : ResolvedSource D :=
  { source with explanationSteps := source.explanationSteps ++ steps }

def withUnresolved (source : ResolvedSource D) (components : List UnresolvedComponent) :
    ResolvedSource D :=
  { source with unresolvedComponents := source.unresolvedComponents ++ components }

/-- The savings of a row priced on both sides, with the steps that explain them. -/
def rowSavings (sourceCosts : Option (SourceCostBreakdown D))
    (azureCosts : Option (AzureCostBreakdown D)) (selectedAdjustment : D) :
    Except ArithmeticFault (Option (SavingsBreakdown D) × List ExplanationStep) :=
  match sourceCosts, azureCosts with
  | some source, some azure => do
      let savings ← Cost.calculateSavings source azure selectedAdjustment
      return (some savings, [Explanation.savingsFormulaStep source azure savings,
        Explanation.parityFormulaStep source azure savings])
  | _, _ => .ok (none, [])

/-- A row with both sides. -/
def mappedRow (resourceId : Uuid) (storage : StorageInputs D) (source : ResolvedSource D)
    (target : ResolvedTarget D) (selectedAdjustment : D) :
    Except ArithmeticFault (ResourceCalculation D) := do
  let (savings, savingsSteps) ← rowSavings source.costs target.costs selectedAdjustment
  let source := withSteps (withUnresolved source target.unresolvedComponents)
    (target.explanationSteps ++ savingsSteps)
  return { sourceRow resourceId storage (some .mapped) target.pricingStatus source with
    azureCosts := target.costs
    purchaseOptionDiscounts := target.purchaseOptionDiscounts
    savings := savings }

def targetRequest (input : CalculationInput D) (shared : SharedResource D)
    (storage : StorageInputs D) (sourceVcpu : UInt32) (sourceMaxIops : UInt64) :
    TargetSelectionRequest D where
  azureRegion := input.settings.azureRegion
  sourceVcpu := sourceVcpu
  sourceMemoryGb := shared.sourceRamGbPerInstance
  requiredStorageGb := storage.azureStorageGbPerInstance
  sourceMaxIops := sourceMaxIops
  workbookParityMode := true

/-- The row of a resource that runs SQL Server, once its source is resolved. -/
def calculateSqlRow (engine : CalculationEngine D) (resource : Resource D)
    (source : ResolvedSource D) (storage : StorageInputs D) (input : CalculationInput D) :
    Except (Halt CalculationError) (ResourceCalculation D) := do
  let shared := resource.shared
  match source.sourceVcpu with
  | none => return sourceRow shared.id storage none .unavailable (withUnresolved source
      [⟨some .aws, "source_metadata_unavailable",
        "Source sizing metadata is unavailable, so target mapping was not evaluated."⟩])
  | some sourceVcpu =>
      let sourceMaxIops := source.sourceMaxIops.getD 0
      let selection ← mapError .targetSelection (TargetSelector.selectTarget engine.capabilities
        (targetRequest input shared storage sourceVcpu sourceMaxIops))
      let inputStep ← Explanation.sourceInputStep sourceVcpu sourceMaxIops shared storage
      let formulaStep ← arithmetic (source.costs.mapM
        (Explanation.sourceCostFormulaStep resource sourceVcpu input.settings))
      let source := withSteps source (inputStep :: formulaStep.join.toList)
      if selection.mappingStatus = .noMapping then
        return { sourceRow shared.id storage (some .noMapping) .notRequired source with
          targetSelection := some selection }
      else
        let selected ← okOr selection.selected .invalidTargetSelection
        let target ← resolveAzureCosts selected resource storage.azureStorageGbPerInstance input
        let row ← mappedRow shared.id storage source target input.settings.selectedParityAdjustment
        return { row with targetSelection := some selection }

/-! ### VM rows -/

/-- What the source class of a VM is taken to be, and what to review about it. -/
structure VmSourcePolicy where
  sourceClass : SourceClass
  recommendationStatus : VmRecommendationStatus
  reasons : List VmSelectionReason

def burstPolicyOf (requirements : Ec2VmRequirements D) : VmSourcePolicy :=
  match requirements.burstPolicy with
  | .confirmedBurstCompatible | .notApplicable => ⟨.burstable, .recommended, []⟩
  | .requiresSustainedCpu => ⟨.generalPurpose, .recommended, []⟩
  | .unknown => ⟨.generalPurpose, .capacityFitReviewRequired, [⟨.burstPolicyReviewRequired,
      "Burst suitability is unknown, so a conservative D-series capacity fit was evaluated and requires review."⟩]⟩

def highFrequencyDetail : VmHighFrequencyRequirement → String
  | .required => "Per-core performance is required; the selected E-series target is capacity-only and is not a performance-equivalence recommendation."
  | .unknown => "Per-core performance requirements are unknown; the selected E-series target is capacity-only and requires review."
  | .capacityFitAccepted | .notApplicable => "The E-series target is a capacity fit only; per-core performance equivalence is not claimed."

def vmSourcePolicy (sourceClass : SourceClass) (requirements : Ec2VmRequirements D) :
    VmSourcePolicy :=
  match sourceClass with
  | .burstable => burstPolicyOf requirements
  | .highFrequencyMemoryOptimized =>
      ⟨.highFrequencyMemoryOptimized, .capacityFitReviewRequired, [⟨.highFrequencyReviewRequired,
        highFrequencyDetail requirements.highFrequencyRequirement⟩]⟩
  | .generalPurpose => ⟨.generalPurpose, .recommended, []⟩
  | .memoryOptimized => ⟨.memoryOptimized, .recommended, []⟩

def vmVolumeRequirements (resource : Ec2VmResource D) : List (VmVolumeRequirement D) :=
  (persistentVolumes resource).map fun volume =>
    { volumeId := volume.id
      label := volume.label
      role := volume.role
      capacityGb := volume.capacityGb
      iops := volume.provisionedIops.getD 0
      throughputMbps := volume.throughputMibps.getD zero }

/-- Why the target of a VM cannot be selected yet. -/
def incompleteReason (requirements : Ec2VmRequirements D)
    (volumes : List (VmVolumeRequirement D)) : Option VmSelectionReason :=
  if volumes.any fun volume => volume.role == .unknown then
    some ⟨.volumeRoleUnconfirmed,
      "Every persistent volume must be confirmed as the OS or a data disk before target selection."⟩
  else if requirements.instanceStoreUse = .unknown then
    some ⟨.instanceStoreReviewRequired,
      "Source instance-store use is unknown and must be confirmed before target selection."⟩
  else if requirements.instanceStoreUse = .used ∧
      (value (requirements.requiredLocalTempDiskGb.getD zero) ≤ 0 ∨
        requirements.ephemeralDataLossAcceptable = none) then
    some ⟨.instanceStoreReviewRequired,
      "Used instance storage requires positive capacity and an explicit ephemeral data-loss decision."⟩
  else none

/-- A VM that is not mapped for reasons known before the selection. -/
def unselectedVm (status : VmRecommendationStatus) (sourceClass : SourceClass)
    (reasons : List VmSelectionReason) : VmTargetSelection D where
  mappingStatus := .noMapping
  recommendationStatus := status
  requestedLineage := sourceClass.targetLineage
  selected := none
  candidates := []
  outcomeReasons := reasons

def isPriceBlocked (selection : VmTargetSelection D) : Bool :=
  selection.candidates.any fun candidate => !candidate.rejectionReasons.isEmpty &&
    candidate.rejectionReasons.all fun reason => reason.code == .priceUnavailable

def priceBlockedMessage : String :=
  "No technically eligible reviewed Azure VM has complete PAYG VM and managed-disk prices in the coherent snapshot."

def unmappedVmRow (resourceId : Uuid) (storage : StorageInputs D) (source : ResolvedSource D)
    (selection : VmTargetSelection D) : ResourceCalculation D :=
  if isPriceBlocked selection then
    let selection := { selection with
      recommendationStatus := .incomplete
      outcomeReasons := selection.outcomeReasons ++ [⟨.priceUnavailable, priceBlockedMessage⟩] }
    { sourceRow resourceId storage (some .noMapping) .unavailable (withUnresolved source
        [azureUnresolved "azure_vm_price_unavailable" priceBlockedMessage]) with
      vmTargetSelection := some selection }
  else
    { sourceRow resourceId storage (some .noMapping) .notRequired source with
      vmTargetSelection := some selection }

def mappedVmRow (resource : Ec2VmResource D) (storage : StorageInputs D)
    (source : ResolvedSource D) (selection : VmTargetSelection D)
    (selected : SelectedVmTarget D) (input : CalculationInput D) :
    Except ArithmeticFault (ResourceCalculation D) := do
  let pricing ← input.azureSnapshot.mapM (vmPurchaseOptionPricing · selected.armSkuName)
  let diskCapacity ← sum (selected.disks.map SelectedManagedDisk.capacityGb)
  let target ← resolveAzureVmCosts selected resource input
  let selection := if target.costs.isNone then
      { selection with
        recommendationStatus := .incomplete
        outcomeReasons := selection.outcomeReasons ++ [⟨.priceUnavailable,
          "The selected VM or one of its managed disks lacks a complete coherent target price."⟩] }
    else selection
  let row ← mappedRow resource.shared.id { storage with azureStorageGbPerInstance := diskCapacity }
    source target input.settings.selectedParityAdjustment
  return { row with
    vmTargetSelection := some selection
    vmPurchaseOptionPricing := pricing }

def vmTargetRequest (input : CalculationInput D) (resource : Ec2VmResource D)
    (sourceClass : SourceClass) (sourceVcpu : UInt32) : VmTargetSelectionRequest D where
  azureRegion := input.settings.azureRegion
  sourceClass := sourceClass
  minimumVcpu := sourceVcpu
  minimumMemoryGb := resource.shared.sourceRamGbPerInstance
  requiresLocalTempDisk := resource.requirements.instanceStoreUse == .used
  minimumLocalTempDiskGb := resource.requirements.requiredLocalTempDiskGb.getD zero
  volumes := vmVolumeRequirements resource
  requestedTargetArmSku := resource.requirements.requestedTargetArmSku
  priceAvailability := input.azureSnapshot.map vmPriceAvailability

/-- The row of a VM whose inputs are complete. -/
def selectVmRow (engine : CalculationEngine D) (resource : Ec2VmResource D)
    (source : ResolvedSource D) (storage : StorageInputs D) (sourceVcpu : UInt32)
    (policy : VmSourcePolicy) (input : CalculationInput D) :
    Except (Halt CalculationError) (ResourceCalculation D) := do
  let selection ← mapError .vmTargetSelection (VmTargetSelector.selectVmTarget
    engine.vmCapabilities engine.managedDiskCapabilities
    (vmTargetRequest input resource policy.sourceClass sourceVcpu))
  let selection := { selection with
    recommendationStatus := if selection.mappingStatus = .mapped then policy.recommendationStatus
      else selection.recommendationStatus
    outcomeReasons := selection.outcomeReasons ++ policy.reasons }
  if selection.mappingStatus = .noMapping then
    return unmappedVmRow resource.shared.id storage source selection
  else
    let selected ← okOr selection.selected .invalidTargetSelection
    mappedVmRow resource storage source selection selected input

def calculateEc2VmResource (engine : CalculationEngine D) (resource : Ec2VmResource D)
    (storage : StorageInputs D) (input : CalculationInput D) :
    Except (Halt CalculationError) (ResourceCalculation D) := do
  let source ← resolveEc2VmSource resource input
  let source := withSteps source [Explanation.vmAssumptionsStep resource]
  match source.sourceVcpu with
  | none => return sourceRow resource.shared.id storage none .unavailable (withUnresolved source
      [⟨some .aws, "source_metadata_unavailable",
        "Source sizing metadata is unavailable, so VM target mapping was not evaluated."⟩])
  | some sourceVcpu =>
  match classifySourceInstance resource.instanceType with
  | none => return sourceRow resource.shared.id storage none .notRequired (withUnresolved source
      [⟨none, "source_class_unsupported",
        s!"{resource.instanceType} is not in the reviewed EC2 VM family mapping policy."⟩])
  | some sourceClass =>
      let policy := vmSourcePolicy sourceClass resource.requirements
      let volumes := vmVolumeRequirements resource
      let inputStep ← Explanation.vmSourceInputStep resource sourceVcpu policy.sourceClass volumes
      let formulaStep ← arithmetic (source.costs.mapM
        (Explanation.vmSourceCostFormulaStep resource input.settings))
      let source := withSteps source (inputStep :: formulaStep.toList)
      match incompleteReason resource.requirements volumes with
      | some reason =>
          return { sourceRow resource.shared.id storage none .notRequired source with
            vmTargetSelection := some (unselectedVm .incomplete policy.sourceClass
              (policy.reasons ++ [reason])) }
      | none =>
          if resource.requirements.instanceStoreUse = .used ∧
              resource.requirements.ephemeralDataLossAcceptable = some false then
            return { sourceRow resource.shared.id storage (some .noMapping) .notRequired source with
              vmTargetSelection := some (unselectedVm .noEligibleTarget policy.sourceClass
                (policy.reasons ++ [⟨.ephemeralDataLossIncompatible,
                  "The workload cannot tolerate ephemeral data loss, so an Azure temporary disk cannot satisfy the declared instance-store requirement."⟩])) }
          else selectVmRow engine resource source storage sourceVcpu policy input

def calculateResource (engine : CalculationEngine D) (input : CalculationInput D)
    (resource : Resource D) : Except (Halt CalculationError) (ResourceCalculation D) := do
  let storage ← storageInputs resource
  match resource with
  | .ec2Vm vm => calculateEc2VmResource engine vm storage input
  | .ec2 ec2 => calculateSqlRow engine resource (← resolveEc2Source ec2 input) storage input
  | .rds rds => calculateSqlRow engine resource (← resolveRdsSource rds input) storage input
  | .onPrem onPrem =>
      let source ← mapError .cost (resolveOnPremSource onPrem input.settings)
      calculateSqlRow engine resource source storage input

/-! ### Portfolio -/

/-- The costs of a row priced on both sides. -/
def comparableCosts (result : ResourceCalculation D) :
    Option (SourceCostBreakdown D × AzureCostBreakdown D) :=
  match result.sourceCosts, result.azureCosts with
  | some source, some azure => some (source, azure)
  | _, _ => none

def isPriceUnavailable (result : ResourceCalculation D) : Bool :=
  result.awsPricingStatus == .unavailable || result.azurePricingStatus == .unavailable

/-- The source total of all rows, when all have one. -/
def allRowsTotal (results : List (ResourceCalculation D)) : Except ArithmeticFault (Option D) :=
  if results.all fun result => result.sourceCosts.isSome then
    some <$> sum ((results.filterMap ResourceCalculation.sourceCosts).map
      SourceCostBreakdown.total)
  else .ok none

def calculatePortfolio (results : List (ResourceCalculation D)) (selectedAdjustment : D) :
    Except ArithmeticFault (PortfolioTotals D) := do
  let awsAllRowsTotal ← allRowsTotal results
  let comparable := results.filterMap comparableCosts
  let awsMappedRowsTotal ← sum (comparable.map fun costs => costs.1.total)
  let azureMappedRowsTotal ← sum (comparable.map fun costs => costs.2.totalBeforeParity)
  let requiredAdjustment ← Cost.requiredAdjustment awsMappedRowsTotal azureMappedRowsTotal
  let afterSelectedParity ← mul azureMappedRowsTotal (← sub one selectedAdjustment)
  let difference ← sub afterSelectedParity awsMappedRowsTotal
  return {
    awsAllRowsTotal := awsAllRowsTotal
    awsMappedRowsTotal := awsMappedRowsTotal
    azureMappedRowsTotal := azureMappedRowsTotal
    requiredPortfolioAdjustment := requiredAdjustment
    selectedParityAdjustment := selectedAdjustment
    portfolioAfterSelectedParity := afterSelectedParity
    portfolioDifference := difference
    comparableResourceCount := comparable.length
    noMappingResourceCount :=
      (results.filter fun result => result.mappingStatus == some .noMapping).length
    priceUnavailableResourceCount := (results.filter isPriceUnavailable).length }

/-! ### Engine -/

def staleWarning (status : Option ResolutionStatus) (warning : String) : List String :=
  if status = some .stale then [warning] else []

def calculationWarnings (input : CalculationInput D) : List String :=
  let relevant (warnings : Option (List String)) : List String :=
    PricingWarnings.relevantForResources (warnings.getD []) input.resources
  let awsMetadata := input.awsSnapshot.map AwsPriceSnapshot.metadata
  let azureMetadata := input.azureSnapshot.map AzurePriceSnapshot.metadata
  PriceSnapshot.sortedUnique
    (relevant (awsMetadata.map SnapshotMetadata.warnings) ++
      relevant (azureMetadata.map SnapshotMetadata.warnings) ++
      staleWarning (awsMetadata.map SnapshotMetadata.status)
        "AWS pricing snapshot is stale but still within the usable window." ++
      staleWarning (azureMetadata.map SnapshotMetadata.status)
        "Azure pricing snapshot is stale but still within the usable window.")

def awsSnapshotId (input : CalculationInput D) : Option String :=
  input.awsSnapshot.map fun snapshot => snapshot.metadata.snapshotId

def azureSnapshotId (input : CalculationInput D) : Option String :=
  input.azureSnapshot.map fun snapshot => snapshot.metadata.snapshotId

/-- The project whose validation stands for that of the input. -/
def validationProject (input : CalculationInput D) : EditableProject D where
  name := "Calculation"
  description := none
  settings := input.settings
  resources := input.resources
  awsPriceSnapshotId := awsSnapshotId input
  azurePriceSnapshotId := azureSnapshotId input

def awsScopeMatches (input : CalculationInput D) : Bool :=
  match input.awsSnapshot, input.settings.awsRegion with
  | none, _ => true
  | some snapshot, some region => snapshot.matchesScope input.settings.currency region
  | some _, none => false

def azureScopeMatches (input : CalculationInput D) : Bool :=
  input.azureSnapshot.all fun snapshot =>
    snapshot.matchesScope input.settings.currency input.settings.azureRegion

def validateInput (engine : CalculationEngine D) (input : CalculationInput D) :
    Except (Halt CalculationError) Unit :=
  if input.expectedFormulaVersion.any fun expected => expected ≠ engine.formulaVersion then
    refuse .formulaVersionMismatch
  else if (validationProject input).validate ≠ [] then
    refuse (.validation (validationProject input).validate)
  else if !awsScopeMatches input then refuse (.snapshotScopeMismatch .aws)
  else if !azureScopeMatches input then refuse (.snapshotScopeMismatch .azure)
  else .ok ()

def sqlPaygInput (settings : ProjectSettings D) (sqlPayg : SqlPaygSettings D) :
    SqlPaygInput D where
  enterpriseLicensedCores := sqlPayg.enterpriseLicensedCores
  standardLicensedCores := sqlPayg.standardLicensedCores
  softwareAssuranceAnnualUsd := sqlPayg.softwareAssuranceAnnualUsd
  annualHours := settings.defaultAnnualHours
  appliedPaygDiscount := settings.selectedParityAdjustment

def sqlPaygWarnings : List String := [
  "The estimate compares annual Software Assurance or renewal spend with Azure Arc SQL Server PAYG licensing at the entered utilization and applied discount; perpetual acquisition cost is excluded as a sunk cost.",
  "Agreement, entitlement, true-up, buyout, passive replica, outsourcing, and edition-specific terms must be confirmed against the customer's current contract and Microsoft Product Terms."]

def calculateSqlPayg (engine : CalculationEngine D) (input : CalculationInput D) :
    Except (Halt CalculationError) (CalculationRevision D) := do
  let settings ← okOr input.settings.sqlPayg (.validation [⟨"/settings/sql_payg", "required",
    "SQL Pay As You Go licensing inputs are required."⟩])
  let analysis ← mapError .sqlPayg (SqlPayg.calculate (sqlPaygInput input.settings settings))
  let sourceTotal := analysis.softwareAssuranceAnnualUsd
  let paygNetTotal := analysis.paygNetAnnualUsd
  let difference ← sub paygNetTotal sourceTotal
  return {
    formulaVersion := engine.formulaVersion
    awsSnapshotId := none
    azureSnapshotId := none
    resourceResults := []
    portfolioTotals := {
      awsAllRowsTotal := some sourceTotal
      awsMappedRowsTotal := sourceTotal
      azureMappedRowsTotal := analysis.paygGrossAnnualUsd
      requiredPortfolioAdjustment := analysis.requiredPaygDiscount
      selectedParityAdjustment := analysis.appliedPaygDiscount
      portfolioAfterSelectedParity := paygNetTotal
      portfolioDifference := difference
      comparableResourceCount := 1
      noMappingResourceCount := 0
      priceUnavailableResourceCount := 0 }
    warnings := sqlPaygWarnings
    sqlPaygAnalysis := some analysis }

def calculate (engine : CalculationEngine D) (input : CalculationInput D) :
    Except (Halt CalculationError) (CalculationRevision D) := do
  validateInput engine input
  if input.settings.projectType = .sqlPayg then calculateSqlPayg engine input
  else
    let resourceResults ← input.resources.mapM (calculateResource engine input)
    let portfolioTotals ← calculatePortfolio resourceResults
      input.settings.selectedParityAdjustment
    return {
      formulaVersion := engine.formulaVersion
      awsSnapshotId := awsSnapshotId input
      azureSnapshotId := azureSnapshotId input
      resourceResults := resourceResults
      portfolioTotals := portfolioTotals
      warnings := calculationWarnings input
      sqlPaygAnalysis := none }

end Workflow

end TcoCalculator
