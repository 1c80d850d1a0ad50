/-
The manifest of a calculator launch (src/rust/src/api/calculator_launches.rs,
build_calculator_manifest): one item for each resource of a saved project, with the
values of the calculation of that resource.
-/
import TcoCalculator.Domain.Project
import TcoCalculator.Persistence.CalculatorLaunch
import TcoCalculator.Persistence.ProjectRepository

namespace TcoCalculator

inductive CalculatorManifestError where
  | ineligibleProject
  | calculationMismatch
  | pricingUnavailable
  | unsupportedTarget
  | inexactMonthlyHours
  | invalidDisplayName
  deriving DecidableEq, Repr

namespace CalculatorLaunches

open DecimalArith Fallible CalculatorLaunch

def calculatorUrl : String := "https://azure.microsoft.com/en-us/pricing/calculator/"

def calculatorProjectTypeSupported : ProjectType → Bool
  | .ec2Vm | .sqlPayg => false
  | .ec2 | .rds | .onPrem => true

/-- `char::is_control`. -/
def isControl (c : Char) : Bool := c.toNat < 32 || 127 ≤ c.toNat && c.toNat < 160

/-- The text has no white space at either end. -/
def isTrimmed (value : String) : Bool :=
  !value.toList.head?.any isWhiteSpace && !value.toList.getLast?.any isWhiteSpace

def calculatorDisplayName (value : String) (maxChars : Nat) : Bool :=
  isTrimmed value && (1 ≤ value.length && value.length ≤ maxChars) &&
    value.toList.all fun c => !isControl c

def isRegionCode (value : String) : Bool :=
  value != "" && value.utf8ByteSize ≤ 64 && value.toList.all fun c => c.isLower || c.isDigit

def calculatorHardwareFamily (value : String) :
    Except CalculatorManifestError CalculatorHardwareFamily :=
  if value = "Premium Series" then .ok .premiumSeries
  else if value = "Premium Series Memory Optimized" then .ok .premiumSeriesMemoryOptimized
  else .error .unsupportedTarget

/-- The plan, and whether with the Azure Hybrid Benefit. -/
def calculatorPurchaseOption : PurchaseOption → CalculatorPurchaseOption × Bool
  | .payg => (.payg, false)
  | .ahb => (.payg, true)
  | .oneYear => (.oneYearReservation, false)
  | .ahbOneYear => (.oneYearReservation, true)
  | .threeYear => (.threeYearReservation, false)
  | .ahbThreeYear => (.threeYearReservation, true)
  | .savingsOneYear => (.oneYearSavingsPlan, false)
  | .ahbSavingsOneYear => (.oneYearSavingsPlan, true)

def calculatorServiceTier : ServiceTier → CalculatorServiceTier
  | .nextGenerationGeneralPurpose => .nextGenerationGeneralPurpose
  | .businessCritical => .businessCritical

/-- `format!("{ordinal:03}")`. -/
def itemKey (ordinal : Nat) : String :=
  String.ofList (List.replicate (3 - (toString ordinal).length) '0') ++ toString ordinal

variable {D : Type} [DecimalArith D]

/-- A calculation on decimals that must not fault. -/
def orElse {α : Type} (error : CalculatorManifestError) (x : Except ArithmeticFault α) :
    Except CalculatorManifestError α :=
  x.toOption.elim (.error error) .ok

def exactMonthlyHours (annual : D) : Except CalculatorManifestError D := do
  let monthly ← orElse .inexactMonthlyHours (div annual (ofNat 12))
  let product ← orElse .inexactMonthlyHours (mul monthly (ofNat 12))
  ensure (value product = value annual) .inexactMonthlyHours
  return monthly

def checkedSum (values : List D) : Except CalculatorManifestError D :=
  orElse .pricingUnavailable (values.foldlM add zero)

def validateRevisionBinding (project : ProjectDocument D) (revision : CalculationRevision D) :
    Except CalculatorManifestError Unit :=
  if project.formulaVersion ≠ Config.formulaVersion ∨
      revision.formulaVersion ≠ project.formulaVersion ∨
      project.azurePriceSnapshotId.isNone ∨
      revision.azureSnapshotId ≠ project.azurePriceSnapshotId ∨
      revision.resourceResults.length ≠ project.resources.length then
    .error .calculationMismatch
  else .ok ()

/-- The ids gone through and the calculations under them. -/
structure Indexed (D : Type) where
  seen : List Uuid
  calculations : HashMap Uuid (ResourceCalculation D)

def addCalculation (indexed : Indexed D) (calculation : ResourceCalculation D) :
    Except CalculatorManifestError (Indexed D) :=
  if calculation.resourceId ∈ indexed.seen then .error .calculationMismatch
  else .ok {
    seen := calculation.resourceId :: indexed.seen
    calculations := indexed.calculations.insert calculation.resourceId calculation }

def indexedCalculations (revision : CalculationRevision D) :
    Except CalculatorManifestError (HashMap Uuid (ResourceCalculation D)) := do
  let indexed ← revision.resourceResults.foldlM addCalculation ⟨[], ∅⟩
  return indexed.calculations

def buildItem (index : Nat) (project : ProjectDocument D) (resource : Resource D)
    (calculation : ResourceCalculation D) :
    Except CalculatorManifestError (CalculatorManifestItem D) := do
  ensure (calculation.azurePricingStatus = .fresh ∨ calculation.azurePricingStatus = .cached)
    .pricingUnavailable
  ensure (calculation.mappingStatus = some .mapped) .unsupportedTarget
  let selected ← (calculation.targetSelection.bind TargetSelection.selected).elim
    (.error .unsupportedTarget) .ok
  ensure (selected.azureRegion = project.settings.azureRegion ∧
    isRegionCode selected.azureRegion) .unsupportedTarget
  let azureCosts ← calculation.azureCosts.elim (.error .pricingUnavailable) .ok
  let sql ← resource.sql.elim (.error .pricingUnavailable) .ok
  let (purchaseOption, azureHybridBenefit) := calculatorPurchaseOption sql.miPurchaseOption
  let expectedTotal ← checkedSum [azureCosts.computeGross, azureCosts.additionalRamGross,
    azureCosts.licenseGross, azureCosts.storageGross]
  ensure (calculatorDisplayName resource.shared.workloadName 160) .invalidDisplayName
  let hardwareFamily ← calculatorHardwareFamily selected.hardwareFamily
  let hoursPerMonth ← exactMonthlyHours resource.shared.annualHoursPerInstance
  return {
    itemKey := itemKey (index + 1)
    displayName := resource.shared.workloadName
    product := .azureSqlManagedInstance
    region := selected.azureRegion
    deploymentModel := .singleInstance
    serviceTier := calculatorServiceTier selected.serviceTier
    hardwareFamily := hardwareFamily
    vcores := selected.vcores.toNat
    selectedMemoryGb := selected.selectedMemoryGb
    zoneRedundant := selected.zoneRedundant
    quantity := resource.shared.quantity.toNat
    hoursPerMonth := hoursPerMonth
    purchaseOption := purchaseOption
    azureHybridBenefit := azureHybridBenefit
    dataStorageGb := calculation.storageInputs.azureStorageGbPerInstance
    backupStorageGb := zero
    expectedPublicAnnual := {
      compute := azureCosts.computeGross
      additionalMemory := azureCosts.additionalRamGross
      license := azureCosts.licenseGross
      storage := azureCosts.storageGross
      totalBeforeParity := expectedTotal } }

/-- The items of the resources from a position on. -/
def buildItems (project : ProjectDocument D)
    (calculations : HashMap Uuid (ResourceCalculation D)) :
    Nat → List (Resource D) → Except CalculatorManifestError (List (CalculatorManifestItem D))
  | _, [] => .ok []
  | index, resource :: rest => do
      let calculation ← (calculations.lookup resource.shared.id).elim
        (.error .calculationMismatch) .ok
      let item ← buildItem index project resource calculation
      let items ← buildItems project calculations (index + 1) rest
      return item :: items

def buildCalculatorManifest (project : ProjectDocument D) (generatedAt : String) :
    Except CalculatorManifestError (CalculatorManifest D) := do
  ensure (calculatorProjectTypeSupported project.settings.projectType ∧
    project.settings.currency = "USD" ∧ project.resources ≠ [] ∧
    project.resources.length ≤ maxCalculatorManifestItems ∧
    calculatorDisplayName project.name 100) .ineligibleProject
  let revision ← project.latestCalculationRevision.elim (.error .calculationMismatch) .ok
  validateRevisionBinding project revision
  let calculations ← indexedCalculations revision
  let items ← buildItems project calculations 0 project.resources
  return {
    schemaVersion := calculatorManifestVersion
    calculatorContractVersion := calculatorContractVersion
    calculatorUrl := calculatorUrl
    generatedAt := generatedAt
    currency := "USD"
    locale := "en-US"
    estimateName := project.name
    items := items }

end CalculatorLaunches

end TcoCalculator
