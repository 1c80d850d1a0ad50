/-
Source and target costs (src/rust/src/calculation/cost.rs).
-/
import TcoCalculator.Calculation.VmTargetSelector

namespace TcoCalculator

open DecimalArith Halt

structure SourceCostBreakdown (D : Type) where
  computeGross : D
  computeNet : D
  licenseGross : D
  licenseNet : D
  storageGross : D
  storageNet : D
  hardwareAnnual : D
  electricityAnnual : D
  total : D
  deriving DecidableEq

structure OnPremExplanation (D : Type) where
  estimatedPowerKw : D
  effectivePowerKw : D
  powerOverrideApplied : Bool
  annualKwh : D
  electricityMonthlyAverage : D
  licensePackCount : Nat
  deriving DecidableEq

structure OnPremCostResult (D : Type) where
  costs : SourceCostBreakdown D
  explanation : OnPremExplanation D
  deriving DecidableEq

structure AzureCostBreakdown (D : Type) where
  computeGross : D
  additionalRamGb : D
  additionalRamGross : D
  computePlusRamNet : D
  licenseGross : D
  licenseNet : D
  storageGross : D
  storageNet : D
  totalBeforeParity : D
  deriving DecidableEq

structure SavingsBreakdown (D : Type) where
  computeSavings : D
  licenseSavings : D
  storageSavings : D
  totalSavings : D
  requiredAdjustment : D
  selectedAdjustment : D
  azureAfterSelectedParity : D
  difference : D
  deriving DecidableEq

structure Ec2Rate (D : Type) where
  sourceVcpu : UInt32
  catalogMemoryGb : D
  computeHourly : D
  standardLicenseHourly : Option D
  enterpriseLicenseHourly : Option D
  deriving DecidableEq

structure IopsPriceTier (D : Type) where
  upToInclusive : Option UInt64
  monthlyPerIops : D
  deriving DecidableEq

structure EbsRate (D : Type) where
  volumeType : EbsVolumeType
  capacityMonthlyPerGb : D
  includedIops : UInt64
  iopsMonthlyPerUnit : Option D
  iopsTiers : List (IopsPriceTier D)
  includedThroughputMibps : D
  throughputMonthlyPerMibps : Option D
  deriving DecidableEq

structure RdsRate (D : Type) where
  sourceVcpu : UInt32
  catalogMemoryGb : D
  effectiveComputeHourly : D
  storageMonthlyPerGb : D
  standardLicenseCoreHourly : D
  enterpriseLicenseCoreHourly : D
  deriving DecidableEq

structure AzureRate (D : Type) where
  computeHourly : D
  licenseHourly : D
  storageMonthlyPerGb : D
  additionalMemoryPerGbHourly : D
  deriving DecidableEq

structure AzureManagedDiskRateSet (D : Type) where
  capacityMonthly : D
  additionalIopsMonthlyPerUnit : Option D
  additionalThroughputMonthlyPerMbps : Option D

inductive CostError where
  | missingSourceLicenseRate
  | missingEbsRate (volumeType : EbsVolumeType)
  | missingProvisionedIops
  | invalidIopsTiers
  | missingAzureManagedDiskRate
  | invalidAzureVmRateComponents
  | missingOnPremLicenseSettings
  | missingElectricityRate
  | negativeRate
  deriving DecidableEq, Repr

def EbsVolumeType.debugName : EbsVolumeType → String
  | .gp3 => "Gp3"
  | .io2 => "Io2"
  | .ephemeral => "Ephemeral"

def CostError.message : CostError → String
  | .missingSourceLicenseRate => "a required source SQL license rate is unavailable"
  | .missingEbsRate volumeType => s!"a required EBS rate is unavailable for {volumeType.debugName}"
  | .missingProvisionedIops => "persistent EBS volumes require an explicit provisioned IOPS value"
  | .invalidIopsTiers => "the EBS IOPS tier schedule is invalid or incomplete"
  | .missingAzureManagedDiskRate => "a required Azure managed-disk price dimension is unavailable"
  | .invalidAzureVmRateComponents => "the Azure VM license rate exceeds its total hourly rate"
  | .missingOnPremLicenseSettings => "on-premises License + SA settings are incomplete"
  | .missingElectricityRate => "on-premises electricity settings are incomplete"
  | .negativeRate => "a price rate must not be negative"

def azureMiStorageUnitGb : Nat := 32

namespace Cost

variable {D : Type} [DecimalArith D]

def azureMiConfiguredStorageGb (requiredStorageGb : D) : Except ArithmeticFault D := do
  let storageUnitGb : D := ofNat azureMiStorageUnitGb
  let storageUnits := DecimalArith.max (ceil (← div requiredStorageGb storageUnitGb)) one
  mul storageUnits storageUnitGb

def azureMiBillableStorageGb (configuredStorageGb : D) : Except ArithmeticFault D := do
  return DecimalArith.max (← sub configuredStorageGb (ofNat azureMiStorageUnitGb)) zero

def validateRate (rate : D) : Except (Halt CostError) Unit :=
  if value rate < 0 then refuse .negativeRate else .ok ()

def applyDiscount (gross discount : D) : Except ArithmeticFault D := do
  mul gross (← sub one discount)

def mul3 (a b c : D) : Except ArithmeticFault D := do mul (← mul a b) c

def mul4 (a b c d : D) : Except ArithmeticFault D := do mul (← mul3 a b c) d

def add3 (a b c : D) : Except ArithmeticFault D := do add (← add a b) c

def add4 (a b c d : D) : Except ArithmeticFault D := do add (← add3 a b c) d

def sourceCosts (computeGross computeNet licenseGross licenseNet storageGross storageNet
    hardwareAnnual electricityAnnual : D) : Except ArithmeticFault (SourceCostBreakdown D) := do
  let total ← add4 computeNet licenseNet storageNet electricityAnnual
  return {
    computeGross := computeGross
    computeNet := computeNet
    licenseGross := licenseGross
    licenseNet := licenseNet
    storageGross := storageGross
    storageNet := storageNet
    hardwareAnnual := hardwareAnnual
    electricityAnnual := electricityAnnual
    total := total }

def sourceLicenseHourly (basis : LicenseBasis) (edition : SqlEdition)
    (standard enterprise : Option D) : Except (Halt CostError) D :=
  if basis = .byol then .ok zero
  else do
    let rate ← okOr (match edition with
      | .standard => standard
      | .enterprise => enterprise) .missingSourceLicenseRate
    validateRate rate
    return rate

/-- The IOPS a tier bills; its limit must lie above the one before. -/
def tierUnits (previousLimit remaining : UInt64) : Option UInt64 → Except (Halt CostError) UInt64
  | some limit =>
      if previousLimit < limit then .ok (Min.min remaining (limit - previousLimit))
      else refuse .invalidIopsTiers
  | none => .ok remaining

/-- The tiers from the one above `previousLimit` on, with IOPS left to bill. -/
def tieredIops (previousLimit remaining : UInt64) (total : D) :
    List (IopsPriceTier D) → Except (Halt CostError) D
  | [] => refuse .invalidIopsTiers
  | tier :: rest => do
      validateRate tier.monthlyPerIops
      let units ← tierUnits previousLimit remaining tier.upToInclusive
      let total ← add total (← mul (ofNat units.toNat) tier.monthlyPerIops)
      if remaining - units = 0 then return total
      else
        match tier.upToInclusive with
        | some limit => tieredIops limit (remaining - units) total rest
        | none => refuse .invalidIopsTiers

def tieredIopsCost (iops : UInt64) (tiers : List (IopsPriceTier D)) :
    Except (Halt CostError) D :=
  if iops = 0 then .ok zero else tieredIops 0 iops zero tiers

def iopsCost (rate : EbsRate D) (billableIops : UInt64) : Except (Halt CostError) D :=
  if rate.volumeType = .io2 then tieredIopsCost billableIops rate.iopsTiers
  else
    match rate.iopsMonthlyPerUnit with
    | some iopsRate => do
        validateRate iopsRate
        mul (ofNat billableIops.toNat) iopsRate
    | none => if billableIops = 0 then .ok zero else refuse (.missingEbsRate rate.volumeType)

def billableThroughput (rate : EbsRate D) : Option D → Except ArithmeticFault D
  | some throughput => do
      return DecimalArith.max (← sub throughput rate.includedThroughputMibps) zero
  | none => .ok zero

def throughputCost (rate : EbsRate D) (throughput : D) : Except (Halt CostError) D :=
  match rate.throughputMonthlyPerMibps with
  | some throughputRate => do
      validateRate throughputRate
      mul throughput throughputRate
  | none =>
      if rate.volumeType = .io2 then .ok zero
      else if value throughput = 0 then .ok zero
      else refuse (.missingEbsRate rate.volumeType)

def calculateVolumeMonthly (volumeType : EbsVolumeType) (capacityGb : D)
    (provisionedIops : Option UInt64) (throughputMibps : Option D) (rate : EbsRate D) :
    Except (Halt CostError) D :=
  if volumeType = .ephemeral then .ok zero
  else do
    validateRate rate.capacityMonthlyPerGb
    let provisionedIops ← okOr provisionedIops .missingProvisionedIops
    let capacity ← mul capacityGb rate.capacityMonthlyPerGb
    let iops ← iopsCost rate (saturatingSub provisionedIops rate.includedIops)
    let throughput ← billableThroughput rate throughputMibps
    let throughputCost ← throughputCost rate throughput
    add3 capacity iops throughputCost

/-- The monthly cost of the persistent volumes, summed in order. -/
def monthlyStorage {V : Type} (volumeType : V → EbsVolumeType)
    (volumeMonthly : V → EbsRate D → Except (Halt CostError) D) (ebsRates : List (EbsRate D))
    (volumes : List V) : Except (Halt CostError) D :=
  volumes.foldlM (fun total volume =>
    if volumeType volume = .ephemeral then .ok total
    else do
      let rate ← okOr (ebsRates.find? fun rate => rate.volumeType == volumeType volume)
        (.missingEbsRate (volumeType volume))
      let monthly ← volumeMonthly volume rate
      add total monthly) zero

def calculateEbsVolumeMonthly (volume : EbsVolume D) (rate : EbsRate D) :
    Except (Halt CostError) D :=
  calculateVolumeMonthly volume.volumeType volume.capacityGb volume.provisionedIops
    volume.throughputMibps rate

def calculateVmVolumeMonthly (volume : VmVolume D) (rate : EbsRate D) :
    Except (Halt CostError) D :=
  calculateVolumeMonthly volume.volumeType volume.capacityGb volume.provisionedIops
    volume.throughputMibps rate

def calculateEc2Source (resource : Ec2Resource D) (rate : Ec2Rate D) (ebsRates : List (EbsRate D))
    (settings : ProjectSettings D) : Except (Halt CostError) (SourceCostBreakdown D) := do
  validateRate rate.computeHourly
  let quantity : D := ofNat resource.shared.quantity.toNat
  let hours := resource.shared.annualHoursPerInstance
  let computeGross ← mul3 quantity hours rate.computeHourly
  let computeNet ← applyDiscount computeGross settings.sourceComputeDiscount
  let licenseHourly ← sourceLicenseHourly resource.sql.licenseBasis resource.sql.sqlEdition
    rate.standardLicenseHourly rate.enterpriseLicenseHourly
  let licenseGross ← mul3 quantity hours licenseHourly
  let licenseNet ← applyDiscount licenseGross settings.sourceLicenseDiscount
  let monthly ← monthlyStorage EbsVolume.volumeType calculateEbsVolumeMonthly ebsRates
    resource.volumes
  let storageGross ← mul3 quantity (ofNat 12) monthly
  let storageNet ← applyDiscount storageGross settings.sourceStorageDiscount
  sourceCosts computeGross computeNet licenseGross licenseNet storageGross storageNet zero zero

def calculateEc2VmSource (resource : Ec2VmResource D) (rate : Ec2Rate D)
    (ebsRates : List (EbsRate D)) (settings : ProjectSettings D) :
    Except (Halt CostError) (SourceCostBreakdown D) := do
  validateRate rate.computeHourly
  let quantity : D := ofNat resource.shared.quantity.toNat
  let hours := resource.shared.annualHoursPerInstance
  let computeGross ← mul3 quantity hours rate.computeHourly
  let computeNet ← applyDiscount computeGross settings.sourceComputeDiscount
  let monthly ← monthlyStorage VmVolume.volumeType calculateVmVolumeMonthly ebsRates
    resource.volumes
  let storageGross ← mul3 quantity (ofNat 12) monthly
  let storageNet ← applyDiscount storageGross settings.sourceStorageDiscount
  sourceCosts computeGross computeNet zero zero storageGross storageNet zero zero

def calculateAzureManagedDiskMonthly (disk : SelectedManagedDisk D)
    (rate : AzureManagedDiskRateSet D) : Except (Halt CostError) D := do
  validateRate rate.capacityMonthly
  if disk.tierKey.isSome then return rate.capacityMonthly
  else
    let iopsRate ← okOr rate.additionalIopsMonthlyPerUnit .missingAzureManagedDiskRate
    let throughputRate ← okOr rate.additionalThroughputMonthlyPerMbps .missingAzureManagedDiskRate
    validateRate iopsRate
    validateRate throughputRate
    let capacity ← mul disk.capacityGb rate.capacityMonthly
    let iops ← mul (ofNat disk.billedAdditionalIops.toNat) iopsRate
    let throughput ← mul disk.billedAdditionalThroughputMbps throughputRate
    add3 capacity iops throughput

def sourceMaxIops (resource : Ec2Resource D) : Except (Halt CostError) UInt64 :=
  (resource.volumes.filter fun volume => volume.volumeType ≠ .ephemeral).foldlM
    (fun maximum volume => do
      let iops ← okOr volume.provisionedIops .missingProvisionedIops
      return Max.max maximum iops) 0

def rdsLicenseGross (resource : RdsResource D) (sourceVcpu : UInt32) (coreRate : D) :
    Except ArithmeticFault D :=
  if resource.sql.licenseBasis = .byol then .ok zero
  else mul4 (ofNat resource.shared.quantity.toNat) resource.shared.annualHoursPerInstance
    (ofNat sourceVcpu.toNat) coreRate

def calculateRdsSource (resource : RdsResource D) (rate : RdsRate D)
    (settings : ProjectSettings D) : Except (Halt CostError) (SourceCostBreakdown D) := do
  validateRate rate.effectiveComputeHourly
  validateRate rate.storageMonthlyPerGb
  let quantity : D := ofNat resource.shared.quantity.toNat
  let hours := resource.shared.annualHoursPerInstance
  let computeGross ← mul3 quantity hours rate.effectiveComputeHourly
  let computeNet ← applyDiscount computeGross settings.sourceComputeDiscount
  let coreRate := match resource.sql.sqlEdition with
    | .standard => rate.standardLicenseCoreHourly
    | .enterprise => rate.enterpriseLicenseCoreHourly
  validateRate coreRate
  let licenseGross ← rdsLicenseGross resource rate.sourceVcpu coreRate
  let licenseNet ← applyDiscount licenseGross settings.sourceLicenseDiscount
  let storageGross ← mul4 quantity resource.sql.sqlDataGbPerInstance (ofNat 12)
    rate.storageMonthlyPerGb
  let storageNet ← applyDiscount storageGross settings.sourceStorageDiscount
  sourceCosts computeGross computeNet licenseGross licenseNet storageGross storageNet zero zero

/-- The power a server is estimated to draw, from its vCPUs, memory and data. -/
def estimatedPowerKw (resource : OnPremResource D) : Except ArithmeticFault D := do
  let vcpuPower ← mul (ofScaled 125 4) (ofNat resource.sourceVcpu.toNat)
  let ramPower ← mul (ofScaled 375 6) resource.shared.sourceRamGbPerInstance
  let dataPower ← div (← mul (ofScaled 10 3) resource.sql.sqlDataGbPerInstance) (ofNat 1024)
  add4 (ofScaled 100 3) vcpuPower ramPower dataPower

def licensePackPrice (settings : ProjectSettings D) : SqlEdition → Option D
  | .standard => settings.standardLicenseSaUsdPerTwoCorePack
  | .enterprise => settings.enterpriseLicenseSaUsdPerTwoCorePack

def calculateOnPremSource (resource : OnPremResource D) (settings : ProjectSettings D) :
    Except (Halt CostError) (OnPremCostResult D) := do
  let licensePrice ← okOr (licensePackPrice settings resource.sql.sqlEdition)
    .missingOnPremLicenseSettings
  let coverageMonths ← okOr settings.remainingCoverageMonths .missingOnPremLicenseSettings
  let electricityRate ← okOr settings.electricityRateUsdPerKwh .missingElectricityRate
  validateRate licensePrice
  validateRate electricityRate
  let quantity : D := ofNat resource.shared.quantity.toNat
  let hours := resource.shared.annualHoursPerInstance
  let estimatedPowerKw ← estimatedPowerKw resource
  let effectivePowerKw := resource.averagePowerKwOverride.getD estimatedPowerKw
  let annualKwh ← mul3 quantity hours effectivePowerKw
  let electricityAnnual ← mul annualKwh electricityRate
  let hardwareAnnual ← div (← mul quantity resource.hardwareCapexUsd) resource.depreciationYears
  let billableCores := Max.max resource.licensableCores.toNat 4
  let licensePackCount := (billableCores + 1) / 2
  let licenseGross ← div (← mul4 quantity (ofNat licensePackCount) licensePrice (ofNat 12))
    (ofNat coverageMonths.toNat)
  let licenseNet ← applyDiscount licenseGross settings.sourceLicenseDiscount
  let costs ← sourceCosts hardwareAnnual hardwareAnnual licenseGross licenseNet zero zero
    hardwareAnnual electricityAnnual
  let electricityMonthlyAverage ← div electricityAnnual (ofNat 12)
  return {
    costs
    explanation := {
      estimatedPowerKw
      effectivePowerKw
      powerOverrideApplied := resource.averagePowerKwOverride.isSome
      annualKwh
      electricityMonthlyAverage
      licensePackCount } }

def calculateAzure (quantity : UInt32) (annualHours azureStorageGbPerInstance includedMemoryGb
    selectedMemoryGb : D) (rate : AzureRate D) (settings : ProjectSettings D) :
    Except (Halt CostError) (AzureCostBreakdown D) := do
  validateRate rate.computeHourly
  validateRate rate.licenseHourly
  validateRate rate.storageMonthlyPerGb
  validateRate rate.additionalMemoryPerGbHourly
  let quantity : D := ofNat quantity.toNat
  let computeGross ← mul3 quantity annualHours rate.computeHourly
  let additionalRamGb := DecimalArith.max (← sub selectedMemoryGb includedMemoryGb) zero
  let additionalRamGross ← mul4 quantity annualHours additionalRamGb
    rate.additionalMemoryPerGbHourly
  let computePlusRamNet ← applyDiscount (← add computeGross additionalRamGross)
    settings.azureComputeDiscount
  let licenseGross ← mul3 quantity annualHours rate.licenseHourly
  let licenseNet ← applyDiscount licenseGross settings.azureLicenseDiscount
  let billableStorageGb ← azureMiBillableStorageGb azureStorageGbPerInstance
  let storageGross ← mul4 quantity billableStorageGb (ofNat 12) rate.storageMonthlyPerGb
  let storageNet ← applyDiscount storageGross settings.azureStorageDiscount
  let totalBeforeParity ← add3 computePlusRamNet licenseNet storageNet
  return {
    computeGross := computeGross
    additionalRamGb := additionalRamGb
    additionalRamGross := additionalRamGross
    computePlusRamNet := computePlusRamNet
    licenseGross := licenseGross
    licenseNet := licenseNet
    storageGross := storageGross
    storageNet := storageNet
    totalBeforeParity := totalBeforeParity }

def calculateAzureVm (quantity : UInt32) (annualHours vmTotalHourlyRate vmLicenseHourlyRate
    managedDiskMonthlyPerInstance : D) (settings : ProjectSettings D) :
    Except (Halt CostError) (AzureCostBreakdown D) := do
  validateRate vmTotalHourlyRate
  validateRate vmLicenseHourlyRate
  validateRate managedDiskMonthlyPerInstance
  if value vmTotalHourlyRate < value vmLicenseHourlyRate then
    refuse .invalidAzureVmRateComponents
  else
    let quantity : D := ofNat quantity.toNat
    let computeHourlyRate ← sub vmTotalHourlyRate vmLicenseHourlyRate
    let computeGross ← mul3 quantity annualHours computeHourlyRate
    let computeNet ← applyDiscount computeGross settings.azureComputeDiscount
    let licenseGross ← mul3 quantity annualHours vmLicenseHourlyRate
    let licenseNet ← applyDiscount licenseGross settings.azureLicenseDiscount
    let storageGross ← mul3 quantity (ofNat 12) managedDiskMonthlyPerInstance
    let storageNet ← applyDiscount storageGross settings.azureStorageDiscount
    let totalBeforeParity ← add3 computeNet licenseNet storageNet
    return {
      computeGross := computeGross
      additionalRamGb := zero
      additionalRamGross := zero
      computePlusRamNet := computeNet
      licenseGross := licenseGross
      licenseNet := licenseNet
      storageGross := storageGross
      storageNet := storageNet
      totalBeforeParity := totalBeforeParity }

/-- How much one total would have to change to reach the other. -/
def requiredAdjustment (source azure : D) : Except ArithmeticFault D :=
  if value azure = 0 then .ok zero else do sub one (← div source azure)

def calculateSavings (source : SourceCostBreakdown D) (azure : AzureCostBreakdown D)
    (selectedAdjustment : D) : Except ArithmeticFault (SavingsBreakdown D) := do
  let requiredAdjustment ← requiredAdjustment source.total azure.totalBeforeParity
  let azureAfterSelectedParity ← mul azure.totalBeforeParity (← sub one selectedAdjustment)
  return {
    computeSavings := ← sub source.computeNet azure.computePlusRamNet
    licenseSavings := ← sub source.licenseNet azure.licenseNet
    storageSavings := ← sub source.storageNet azure.storageNet
    totalSavings := ← sub source.total azure.totalBeforeParity
    requiredAdjustment
    selectedAdjustment
    azureAfterSelectedParity
    difference := ← sub azureAfterSelectedParity source.total }

end Cost

end TcoCalculator
