/-
The steps that explain a calculated row (the explanation part of
src/rust/src/calculation/workflow.rs).
-/
import TcoCalculator.Calculation.Cost

namespace TcoCalculator

open DecimalArith Halt

/-- What a row was calculated from; the values are a map from names to texts. -/
structure ExplanationStep where
  code : String
  message : String
  values : List (String × String)
  deriving DecidableEq

structure StorageInputs (D : Type) where
  sqlDataGbPerInstance : D
  persistentEbsGbPerInstance : D
  azureStorageGbPerInstance : D
  deriving DecidableEq

namespace Explanation

variable {D : Type} [DecimalArith D]

def divideOrZero (numerator denominator : D) : Except ArithmeticFault D :=
  if value denominator = 0 then .ok zero else div numerator denominator

def orEmpty : Option D → String
  | some number => display number
  | none => ""

def sourceInputStep (sourceVcpu : UInt32) (sourceMaxIops : UInt64) (shared : SharedResource D)
    (storage : StorageInputs D) : Except ArithmeticFault ExplanationStep := do
  let required ← add storage.sqlDataGbPerInstance storage.persistentEbsGbPerInstance
  return {
    code := "source_inputs"
    message := "Effective source sizing inputs were applied without consolidation."
    values := [
      ("source_vcpu", toString sourceVcpu),
      ("source_ram_gb", display shared.sourceRamGbPerInstance),
      ("sql_data_gb", display storage.sqlDataGbPerInstance),
      ("persistent_ebs_gb", display storage.persistentEbsGbPerInstance),
      ("azure_required_storage_gb", display required),
      ("azure_configured_storage_gb", display storage.azureStorageGbPerInstance),
      ("source_max_iops", toString sourceMaxIops),
      ("quantity", toString shared.quantity),
      ("annual_hours_per_instance", display shared.annualHoursPerInstance)] }

def vmAssumptionsStep (resource : Ec2VmResource D) : ExplanationStep where
  code := "vm_assumptions"
  message := "The approved first-release EC2 VM assumptions were applied and remain explicit."
  values := [
    ("instance_type", resource.instanceType),
    ("source_operating_system", "windows"),
    ("source_tenancy", "shared"),
    ("source_purchase_option", "on_demand"),
    ("target_license", "windows_license_included"),
    ("azure_hybrid_benefit", "false"),
    ("burst_policy", ResourceJson.burstPolicy resource.requirements.burstPolicy),
    ("source_instance_store",
      ResourceJson.instanceStoreUse resource.requirements.instanceStoreUse),
    ("required_local_temp_disk_gb", orEmpty resource.requirements.requiredLocalTempDiskGb),
    ("ephemeral_data_loss_acceptable",
      (resource.requirements.ephemeralDataLossAcceptable.map toString).getD ""),
    ("high_frequency_requirement",
      ResourceJson.highFrequencyRequirement resource.requirements.highFrequencyRequirement),
    ("requested_target_arm_sku", resource.requirements.requestedTargetArmSku.getD ""),
    ("target_topology", "one_vm_per_source_vm"),
    ("disk_topology", "one_managed_disk_per_persistent_ebs_volume")]

def sourceClassName : SourceClass → String
  | .burstable => "burstable"
  | .generalPurpose => "generalpurpose"
  | .memoryOptimized => "memoryoptimized"
  | .highFrequencyMemoryOptimized => "highfrequencymemoryoptimized"

def vmSourceInputStep (resource : Ec2VmResource D) (sourceVcpu : UInt32)
    (sourceClass : SourceClass) (volumes : List (VmVolumeRequirement D)) :
    Except ArithmeticFault ExplanationStep := do
  let capacity ← sum (volumes.map VmVolumeRequirement.capacityGb)
  return {
    code := "vm_source_inputs"
    message := "The source VM shape and persistent volumes were preserved without consolidation."
    values := [
      ("source_vcpu", toString sourceVcpu),
      ("source_ram_gb", display resource.shared.sourceRamGbPerInstance),
      ("source_class", sourceClassName sourceClass),
      ("persistent_volume_count", toString volumes.length),
      ("persistent_volume_gb", display capacity),
      ("quantity", toString resource.shared.quantity),
      ("annual_hours_per_instance", display resource.shared.annualHoursPerInstance)] }

def vmSourceCostFormulaStep (resource : Ec2VmResource D) (settings : ProjectSettings D)
    (costs : SourceCostBreakdown D) : Except ArithmeticFault ExplanationStep := do
  let instanceHours ← mul (ofNat resource.shared.quantity.toNat)
    resource.shared.annualHoursPerInstance
  let hourly ← divideOrZero costs.computeGross instanceHours
  return {
    code := "source_cost_formula"
    message := "AWS Windows Shared On-Demand compute and persistent EBS costs were calculated from the resolved snapshot."
    values := [
      ("compute_formula",
        "compute_gross = quantity * annual_hours_per_instance * windows_shared_ondemand_hourly"),
      ("windows_shared_ondemand_hourly", display hourly),
      ("compute_gross", display costs.computeGross),
      ("source_compute_discount", display settings.sourceComputeDiscount),
      ("compute_net", display costs.computeNet),
      ("storage_formula", "storage_gross = quantity * 12 * sum(ebs_volume_monthly_cost)"),
      ("storage_gross", display costs.storageGross),
      ("source_storage_discount", display settings.sourceStorageDiscount),
      ("storage_net", display costs.storageNet),
      ("source_total", display costs.total)] }

def diskSummary (disk : SelectedManagedDisk D) : String :=
  s!"{disk.label}:{disk.tierKey.getD disk.offerKey}:{display disk.capacityGb}GiB:{disk.provisionedIops}IOPS:{display disk.provisionedThroughputMbps}MBps"

def vmTargetSelectionStep (selected : SelectedVmTarget D) (diskSourceUrls : List String) :
    ExplanationStep where
  code := "vm_target_selection"
  message := "The smallest reviewed current-generation Azure VM and one capability-fit managed disk per source volume were selected."
  values := [
    ("arm_sku_name", selected.armSkuName),
    ("lineage", toAsciiLowercase (VmTargetSelector.lineageName selected.lineage)),
    ("generation", selected.generation),
    ("vcpus", toString selected.vcpus),
    ("memory_gb", display selected.memoryGb),
    ("managed_disks", "; ".intercalate (selected.disks.map diskSummary)),
    ("disk_source_urls", " ".intercalate diskSourceUrls)]

def vmAzureCostFormulaStep (selected : SelectedVmTarget D) (resource : Ec2VmResource D)
    (vmTotalHourlyRate vmLicenseHourlyRate managedDiskMonthlyPerInstance : D)
    (settings : ProjectSettings D) (costs : AzureCostBreakdown D) : ExplanationStep where
  code := "azure_vm_cost_formula"
  message := "Azure VM base compute, Windows license, and selected managed-disk costs were calculated from one coherent snapshot for the selected purchase option."
  values := [
    ("arm_sku_name", selected.armSkuName),
    ("compute_formula",
      "compute_gross = quantity * annual_hours_per_instance * (vm_total_hourly - windows_license_hourly)"),
    ("vm_purchase_option", resource.vmPurchaseOption.asStr),
    ("vm_total_hourly", display vmTotalHourlyRate),
    ("windows_license_hourly", display vmLicenseHourlyRate),
    ("compute_gross", display costs.computeGross),
    ("azure_compute_discount", display settings.azureComputeDiscount),
    ("storage_formula", "storage_gross = quantity * 12 * sum(managed_disk_monthly_cost)"),
    ("managed_disk_monthly_per_instance", display managedDiskMonthlyPerInstance),
    ("storage_gross", display costs.storageGross),
    ("azure_storage_discount", display settings.azureStorageDiscount),
    ("storage_net", display costs.storageNet),
    ("license_formula",
      "license_gross = quantity * annual_hours_per_instance * windows_license_hourly"),
    ("license_gross", display costs.licenseGross),
    ("license_net", display costs.licenseNet),
    ("azure_license_discount", display settings.azureLicenseDiscount),
    ("quantity", toString resource.shared.quantity),
    ("annual_hours_per_instance", display resource.shared.annualHoursPerInstance),
    ("azure_total_before_parity", display costs.totalBeforeParity)]

/-- The values every source cost step carries. -/
def sharedSourceCostValues (shared : SharedResource D) (settings : ProjectSettings D)
    (costs : SourceCostBreakdown D) (computeHourly : D) : List (String × String) := [
  ("compute_formula", "compute_gross = quantity * annual_hours_per_instance * compute_hourly"),
  ("quantity", toString shared.quantity),
  ("annual_hours_per_instance", display shared.annualHoursPerInstance),
  ("compute_hourly", display computeHourly),
  ("compute_gross", display costs.computeGross),
  ("compute_net_formula", "compute_net = compute_gross * (1 - source_compute_discount)"),
  ("source_compute_discount", display settings.sourceComputeDiscount),
  ("compute_net", display costs.computeNet),
  ("license_net_formula", "license_net = license_gross * (1 - source_license_discount)"),
  ("source_license_discount", display settings.sourceLicenseDiscount),
  ("license_gross", display costs.licenseGross),
  ("license_net", display costs.licenseNet),
  ("storage_net_formula", "storage_net = storage_gross * (1 - source_storage_discount)"),
  ("source_storage_discount", display settings.sourceStorageDiscount),
  ("storage_gross", display costs.storageGross),
  ("storage_net", display costs.storageNet),
  ("source_total_formula", "source_total = compute_net + license_net + storage_net"),
  ("source_total", display costs.total)]

def ec2SourceCostValues (quantity hours : D) (costs : SourceCostBreakdown D) :
    Except ArithmeticFault (List (String × String)) := do
  let licenseHourly ← divideOrZero costs.licenseGross (← mul quantity hours)
  let monthlyStorage ← divideOrZero costs.storageGross (← mul quantity (ofNat 12))
  return [
    ("license_formula", "license_gross = quantity * annual_hours_per_instance * license_hourly"),
    ("license_hourly", display licenseHourly),
    ("storage_formula", "storage_gross = quantity * 12 * monthly_storage_per_instance"),
    ("monthly_storage_per_instance", display monthlyStorage)]

def rdsSourceCostValues (resource : RdsResource D) (sourceVcpu : UInt32) (quantity hours : D)
    (costs : SourceCostBreakdown D) : Except ArithmeticFault (List (String × String)) := do
  let coreHours ← Cost.mul3 quantity hours (ofNat sourceVcpu.toNat)
  let coreHourly ← divideOrZero costs.licenseGross coreHours
  let gbMonths ← Cost.mul3 quantity resource.sql.sqlDataGbPerInstance (ofNat 12)
  let storageMonthly ← divideOrZero costs.storageGross gbMonths
  return [
    ("license_formula",
      "license_gross = quantity * annual_hours_per_instance * source_vcpu * regional_edition_core_hourly"),
    ("source_vcpu", toString sourceVcpu),
    ("regional_edition_core_hourly", display coreHourly),
    ("storage_formula",
      "storage_gross = quantity * sql_data_gb_per_instance * 12 * storage_monthly_per_gb"),
    ("sql_data_gb_per_instance", display resource.sql.sqlDataGbPerInstance),
    ("storage_monthly_per_gb", display storageMonthly)]

/-- The values of the source's own kind; the other kinds have no such step. -/
def ownSourceCostValues (resource : Resource D) (sourceVcpu : UInt32) (quantity hours : D)
    (costs : SourceCostBreakdown D) :
    Except ArithmeticFault (Option (List (String × String))) :=
  match resource with
  | .ec2 _ => some <$> ec2SourceCostValues quantity hours costs
  | .rds rds => some <$> rdsSourceCostValues rds sourceVcpu quantity hours costs
  | .onPrem _ | .ec2Vm _ => .ok none

def sourceCostFormulaStep (resource : Resource D) (sourceVcpu : UInt32)
    (settings : ProjectSettings D) (costs : SourceCostBreakdown D) :
    Except ArithmeticFault (Option ExplanationStep) := do
  let shared := resource.shared
  let quantity : D := ofNat shared.quantity.toNat
  let hours := shared.annualHoursPerInstance
  let computeHourly ← divideOrZero costs.computeGross (← mul quantity hours)
  let own ← ownSourceCostValues resource sourceVcpu quantity hours costs
  return own.map fun values => {
    code := "source_cost_formula"
    message := "Source component costs were calculated from the resolved AWS rates and project discounts."
    values := sharedSourceCostValues shared settings costs computeHourly ++ values }

def azureCostFormulaStep (selected : SelectedTarget D) (shared : SharedResource D)
    (azureStorageGbPerInstance : D) (rate : AzureRate D) (settings : ProjectSettings D)
    (costs : AzureCostBreakdown D) : Except ArithmeticFault ExplanationStep := do
  let billableStorageGb ← Cost.azureMiBillableStorageGb azureStorageGbPerInstance
  return {
    code := "azure_cost_formula"
    message := "Azure component costs were calculated from the selected MI shape and resolved purchase-option rates."
    values := [
      ("compute_formula",
        "compute_gross = quantity * annual_hours_per_instance * mi_compute_hourly"),
      ("quantity", toString shared.quantity),
      ("annual_hours_per_instance", display shared.annualHoursPerInstance),
      ("mi_compute_hourly", display rate.computeHourly),
      ("compute_gross", display costs.computeGross),
      ("additional_ram_gb_formula",
        "additional_ram_gb = max(0, selected_mi_ram_gb - included_mi_ram_gb)"),
      ("included_mi_ram_gb", display selected.includedMemoryGb),
      ("selected_mi_ram_gb", display selected.selectedMemoryGb),
      ("additional_ram_gb", display costs.additionalRamGb),
      ("additional_ram_formula",
        "additional_ram_gross = quantity * annual_hours_per_instance * additional_ram_gb * additional_memory_per_gb_hourly"),
      ("additional_memory_per_gb_hourly", display rate.additionalMemoryPerGbHourly),
      ("additional_ram_gross", display costs.additionalRamGross),
      ("compute_plus_ram_net_formula",
        "compute_plus_ram_net = (compute_gross + additional_ram_gross) * (1 - azure_compute_discount)"),
      ("azure_compute_discount", display settings.azureComputeDiscount),
      ("compute_plus_ram_net", display costs.computePlusRamNet),
      ("license_formula",
        "license_gross = quantity * annual_hours_per_instance * mi_license_hourly"),
      ("mi_license_hourly", display rate.licenseHourly),
      ("license_gross", display costs.licenseGross),
      ("license_net_formula", "license_net = license_gross * (1 - azure_license_discount)"),
      ("azure_license_discount", display settings.azureLicenseDiscount),
      ("license_net", display costs.licenseNet),
      ("storage_formula",
        "azure_billable_storage_gb_per_instance = max(azure_configured_storage_gb_per_instance - 32, 0); storage_gross = quantity * azure_billable_storage_gb_per_instance * 12 * mi_storage_monthly_per_gb"),
      ("azure_configured_storage_gb_per_instance", display azureStorageGbPerInstance),
      ("azure_included_storage_gb_per_instance", "32"),
      ("azure_billable_storage_gb_per_instance", display billableStorageGb),
      ("mi_storage_monthly_per_gb", display rate.storageMonthlyPerGb),
      ("storage_gross", display costs.storageGross),
      ("storage_net_formula", "storage_net = storage_gross * (1 - azure_storage_discount)"),
      ("azure_storage_discount", display settings.azureStorageDiscount),
      ("storage_net", display costs.storageNet),
      ("azure_total_before_parity_formula",
        "azure_total_before_parity = compute_plus_ram_net + license_net + storage_net"),
      ("azure_total_before_parity", display costs.totalBeforeParity)] }

def savingsFormulaStep (source : SourceCostBreakdown D) (azure : AzureCostBreakdown D)
    (savings : SavingsBreakdown D) : ExplanationStep where
  code := "savings_formula"
  message := "Savings before parity are source component costs minus Azure component costs."
  values := [
    ("compute_savings_formula",
      "compute_savings = source_compute_net - azure_compute_plus_ram_net"),
    ("source_compute_net", display source.computeNet),
    ("azure_compute_plus_ram_net", display azure.computePlusRamNet),
    ("compute_savings", display savings.computeSavings),
    ("license_savings_formula", "license_savings = source_license_net - azure_license_net"),
    ("source_license_net", display source.licenseNet),
    ("azure_license_net", display azure.licenseNet),
    ("license_savings", display savings.licenseSavings),
    ("storage_savings_formula", "storage_savings = source_storage_net - azure_storage_net"),
    ("source_storage_net", display source.storageNet),
    ("azure_storage_net", display azure.storageNet),
    ("storage_savings", display savings.storageSavings),
    ("total_savings_formula", "total_savings = source_total - azure_total_before_parity"),
    ("source_total", display source.total),
    ("azure_total_before_parity", display azure.totalBeforeParity),
    ("total_savings", display savings.totalSavings)]

def parityFormulaStep (source : SourceCostBreakdown D) (azure : AzureCostBreakdown D)
    (savings : SavingsBreakdown D) : ExplanationStep where
  code := "parity_formula"
  message := "Parity applies the selected adjustment to the Azure total and compares it with the source total."
  values := [
    ("required_adjustment_formula",
      "required_adjustment = if azure_total_before_parity == 0 then 0 else 1 - source_total / azure_total_before_parity"),
    ("source_total", display source.total),
    ("azure_total_before_parity", display azure.totalBeforeParity),
    ("required_adjustment", display savings.requiredAdjustment),
    ("azure_after_selected_parity_formula",
      "azure_after_selected_parity = azure_total_before_parity * (1 - selected_adjustment)"),
    ("selected_adjustment", display savings.selectedAdjustment),
    ("azure_after_selected_parity", display savings.azureAfterSelectedParity),
    ("difference_formula", "difference = azure_after_selected_parity - source_total"),
    ("difference", display savings.difference)]

def provenanceStep (code message sourceUrl retrievedAt : String) : ExplanationStep where
  code := code
  message := message
  values := [("source_url", sourceUrl), ("retrieved_at", retrievedAt)]

def sourceProvenanceStep : String → String → ExplanationStep :=
  provenanceStep "source_price_provenance"
    "Source rates were resolved from the immutable AWS snapshot."

def targetProvenanceStep : String → String → ExplanationStep :=
  provenanceStep "target_price_provenance"
    "Target rates were resolved from the immutable Azure snapshot."

def onPremPowerStep (explanation : OnPremExplanation D) (resource : OnPremResource D) :
    ExplanationStep where
  code := "on_prem_power_estimate"
  message := "Indicative server power was estimated from fixed coefficients; an explicit override takes precedence."
  values := [
    ("fixed_kw", "0.100"),
    ("kw_per_vcpu", "0.0125"),
    ("kw_per_ram_gb", "0.000375"),
    ("kw_per_data_tb", "0.010"),
    ("source_vcpu", toString resource.sourceVcpu),
    ("source_ram_gb", display resource.shared.sourceRamGbPerInstance),
    ("sql_data_gb", display resource.sql.sqlDataGbPerInstance),
    ("estimated_power_kw", display explanation.estimatedPowerKw),
    ("effective_power_kw", display explanation.effectivePowerKw),
    ("override_applied", toString explanation.powerOverrideApplied),
    ("annual_kwh", display explanation.annualKwh)]

def onPremCostFormulaStep (resource : OnPremResource D) (settings : ProjectSettings D)
    (costs : SourceCostBreakdown D) (explanation : OnPremExplanation D) : ExplanationStep where
  code := "source_cost_formula"
  message := "On-premises component costs were calculated from hardware depreciation, License + SA, and electricity inputs."
  values := [
    ("quantity", toString resource.shared.quantity),
    ("annual_hours_per_instance", display resource.shared.annualHoursPerInstance),
    ("hardware_formula", "hardware_annual = quantity * hardware_capex_usd / depreciation_years"),
    ("hardware_capex_usd", display resource.hardwareCapexUsd),
    ("depreciation_years", display resource.depreciationYears),
    ("hardware_annual", display costs.hardwareAnnual),
    ("compute_gross", display costs.computeGross),
    ("compute_net", display costs.computeNet),
    ("license_formula",
      "license_gross = quantity * license_pack_count * license_sa_usd_per_two_core_pack * 12 / remaining_coverage_months"),
    ("licensable_cores", toString resource.licensableCores),
    ("license_pack_count", toString explanation.licensePackCount),
    ("license_sa_usd_per_two_core_pack",
      orEmpty (Cost.licensePackPrice settings resource.sql.sqlEdition)),
    ("remaining_coverage_months", (settings.remainingCoverageMonths.map toString).getD ""),
    ("license_gross", display costs.licenseGross),
    ("license_net_formula", "license_net = license_gross * (1 - source_license_discount)"),
    ("source_license_discount", display settings.sourceLicenseDiscount),
    ("license_net", display costs.licenseNet),
    ("electricity_formula", "electricity_annual = annual_kwh * electricity_rate_usd_per_kwh"),
    ("annual_kwh", display explanation.annualKwh),
    ("electricity_rate_usd_per_kwh", orEmpty settings.electricityRateUsdPerKwh),
    ("electricity_annual", display costs.electricityAnnual),
    ("source_total_formula",
      "source_total = hardware_annual + license_net + electricity_annual"),
    ("source_total", display costs.total)]

end Explanation

end TcoCalculator
