/-
The laws of every breakdown an admitted project can get: its sources, its Azure
targets, and the savings between them.
-/
import TcoCalculator.Calculation.CostLaws

namespace TcoCalculator

namespace ProjectValidation

open DecimalArith ExactDecimal Cost

/-! ### What the settings and the power were checked for -/

structure DiscountsAdmitted (settings : ProjectSettings ℚ) : Prop where
  source : SourceDiscounts settings
  azureCompute : Share settings.azureComputeDiscount
  azureLicense : Share settings.azureLicenseDiscount
  azureStorage : Share settings.azureStorageDiscount
  onPrem : settings.projectType = .onPrem → settings.sourceComputeDiscount = 0

theorem share_of_discountIssues {pointer : String} {discount : ℚ}
    (h : discountIssues pointer discount = []) : Share discount := by
  rw [discountIssues, issueWhen_eq_nil] at h
  exact share_of_isPercent (by simpa using h)

theorem discountsAdmitted_of_issues {settings : ProjectSettings ℚ}
    (h : validateSettings settings = []) : DiscountsAdmitted settings := by
  simp only [validateSettings, List.append_eq_nil_iff] at h
  obtain ⟨⟨⟨⟨⟨⟨⟨⟨⟨⟨_, hcompute⟩, hlicense⟩, hstorage⟩, hazureCompute⟩, hazureLicense⟩,
    hazureStorage⟩, _⟩, _⟩, honPrem⟩, _⟩ := h
  constructor
  · exact ⟨share_of_discountIssues hcompute, share_of_discountIssues hlicense,
      share_of_discountIssues hstorage⟩
  · exact share_of_discountIssues hazureCompute
  · exact share_of_discountIssues hazureLicense
  · exact share_of_discountIssues hazureStorage
  · intro htype
    rw [if_pos htype] at honPrem
    simp only [onPremSettingsIssues, List.append_eq_nil_iff, issueWhen_eq_nil] at honPrem
    obtain ⟨⟨⟨⟨hdiscounts, _⟩, _⟩, _⟩, _⟩ := honPrem
    simp only [Bool.or_eq_false_iff, decide_eq_false_iff_not, not_not, value_eq] at hdiscounts
    exact hdiscounts.1

/-- A power that was entered is positive. -/
def PowerAdmitted : Resource ℚ → Prop
  | .onPrem resource => ∀ power, resource.averagePowerKwOverride = some power → 0 < power
  | .ec2 _ | .ec2Vm _ | .rds _ => True

theorem powerAdmitted_of_issues {projectType : ProjectType} {lead : String}
    {resourceIds volumeIds : List Uuid} {resource : Resource ℚ}
    (h : resourceIssues projectType lead resourceIds volumeIds resource = []) :
    PowerAdmitted resource := by
  cases resource with
  | ec2 | ec2Vm | rds => trivial
  | onPrem resource =>
      simp only [resourceIssues, onPremIssues, List.append_eq_nil_iff, issueWhen_eq_nil] at h
      obtain ⟨_, _, hoverride⟩ := h
      intro power hpower
      simpa [hpower, isNotPositive] using hoverride

theorem powerAdmitted_of_resourcesIssues {projectType : ProjectType} {index : Nat}
    {resourceIds volumeIds : List Uuid} {resources : List (Resource ℚ)}
    (h : resourcesIssues projectType index resourceIds volumeIds resources = []) :
    ∀ resource ∈ resources, PowerAdmitted resource := by
  induction resources generalizing index resourceIds volumeIds with
  | nil => exact fun resource hmem => nomatch hmem
  | cons first rest ih =>
      obtain ⟨hfirst, hrest⟩ := List.append_eq_nil_iff.mp h
      intro resource hmem
      rcases List.mem_cons.mp hmem with rfl | hmem
      · exact powerAdmitted_of_issues hfirst
      · exact ih hrest resource hmem

end ProjectValidation

namespace Cost

open DecimalArith ExactDecimal Fallible Halt ProjectValidation

/-! ### Any source -/

/-- The records a source is priced from. -/
structure SourceRates where
  ec2 : Ec2Rate ℚ
  ebs : List (EbsRate ℚ)
  rds : RdsRate ℚ

def sourceCostsOf (settings : ProjectSettings ℚ) (rates : SourceRates) :
    Resource ℚ → Except (Halt CostError) (SourceCostBreakdown ℚ)
  | .ec2 resource => calculateEc2Source resource rates.ec2 rates.ebs settings
  | .ec2Vm resource => calculateEc2VmSource resource rates.ec2 rates.ebs settings
  | .rds resource => calculateRdsSource resource rates.rds settings
  | .onPrem resource => sourceCostsOfOnPrem resource settings

/-- The resource with another number of instances and of hours. -/
def resourceWithUsage (quantity : UInt32) (hours : ℚ) : Resource ℚ → Resource ℚ
  | .ec2 resource => .ec2 { resource with shared := withUsage resource.shared quantity hours }
  | .ec2Vm resource => .ec2Vm { resource with shared := withUsage resource.shared quantity hours }
  | .rds resource => .rds { resource with shared := withUsage resource.shared quantity hours }
  | .onPrem resource =>
      .onPrem { resource with shared := withUsage resource.shared quantity hours }

@[simp] theorem resourceWithUsage_own (resource : Resource ℚ) :
    resourceWithUsage resource.shared.quantity resource.shared.annualHoursPerInstance resource =
      resource := by
  cases resource <;> rfl

theorem pricedBy_of_admitted {settings : ProjectSettings ℚ} (hsettings : DiscountsAdmitted settings)
    {resource : Resource ℚ} (hadmitted : ResourceAdmitted settings.projectType resource)
    (hpower : PowerAdmitted resource) {rates : SourceRates} {costs : SourceCostBreakdown ℚ}
    (h : sourceCostsOf settings rates resource = .ok costs) :
    PricedBy settings fun quantity hours =>
      sourceCostsOf settings rates (resourceWithUsage quantity hours resource) := by
  cases resource with
  | ec2 resource => exact ec2_pricedBy hadmitted.kind h
  | ec2Vm resource => exact ec2Vm_pricedBy hadmitted.kind h
  | rds resource => exact rds_pricedBy (hadmitted.sql _ rfl) h
  | onPrem resource =>
      refine onPrem_pricedBy ?_ h
      have hram := hadmitted.shared.sourceRam.1
      have hdata := (hadmitted.sql _ rfl).sqlData.1
      rw [zero_eq] at hram hdata
      exact ⟨hadmitted.kind, hpower, hram.le, hdata,
        hsettings.onPrem hadmitted.projectType_eq.symm⟩

theorem PricedBy.sound {settings : ProjectSettings ℚ} (hsettings : SourceDiscounts settings)
    {costsOf : UInt32 → ℚ → Except (Halt CostError) (SourceCostBreakdown ℚ)}
    (h : PricedBy settings costsOf) {quantity : UInt32} {hours : ℚ} (hhours : 0 ≤ hours)
    {costs : SourceCostBreakdown ℚ} (hcosts : costsOf quantity hours = .ok costs) :
    SourceSound costs := by
  obtain ⟨unit, hunit, heq⟩ := h
  rw [heq] at hcosts
  cases hcosts
  exact (hunit.gross hhours).sound hsettings

theorem PricedBy.mono {settings : ProjectSettings ℚ} (hsettings : SourceDiscounts settings)
    {costsOf : UInt32 → ℚ → Except (Halt CostError) (SourceCostBreakdown ℚ)}
    (h : PricedBy settings costsOf) {quantity quantity' : UInt32} {hours hours' : ℚ}
    (hquantity : quantity ≤ quantity') (hhours : 0 ≤ hours) (hle : hours ≤ hours')
    {costs : SourceCostBreakdown ℚ} (hcosts : costsOf quantity hours = .ok costs) :
    ∃ costs', costsOf quantity' hours' = .ok costs' ∧ SourceLe costs costs' := by
  obtain ⟨unit, hunit, heq⟩ := h
  rw [heq] at hcosts
  cases hcosts
  exact ⟨_, heq quantity' hours', (hunit.gross_le hquantity hhours hle).breakdown hsettings⟩

/-! ### Azure breakdowns -/

structure AzureSound (costs : AzureCostBreakdown ℚ) : Prop where
  compute : 0 ≤ costs.computeGross
  additionalRam : 0 ≤ costs.additionalRamGross
  computePlusRam : Component (costs.computeGross + costs.additionalRamGross)
    costs.computePlusRamNet
  license : Component costs.licenseGross costs.licenseNet
  storage : Component costs.storageGross costs.storageNet
  total : costs.totalBeforeParity =
    costs.computePlusRamNet + costs.licenseNet + costs.storageNet

structure AzureLe (costs costs' : AzureCostBreakdown ℚ) : Prop where
  computeGross : costs.computeGross ≤ costs'.computeGross
  additionalRamGross : costs.additionalRamGross ≤ costs'.additionalRamGross
  computePlusRamNet : costs.computePlusRamNet ≤ costs'.computePlusRamNet
  licenseGross : costs.licenseGross ≤ costs'.licenseGross
  licenseNet : costs.licenseNet ≤ costs'.licenseNet
  storageGross : costs.storageGross ≤ costs'.storageGross
  storageNet : costs.storageNet ≤ costs'.storageNet
  total : costs.totalBeforeParity ≤ costs'.totalBeforeParity

/-- What one Azure instance costs for each hour and for each year. -/
structure AzureUnit where
  additionalRamGb : ℚ
  computeHour : ℚ
  additionalRamHour : ℚ
  licenseHour : ℚ
  storageYear : ℚ

structure AzureUnit.Nonneg (unit : AzureUnit) : Prop where
  computeHour : 0 ≤ unit.computeHour
  additionalRamHour : 0 ≤ unit.additionalRamHour
  licenseHour : 0 ≤ unit.licenseHour
  storageYear : 0 ≤ unit.storageYear

def AzureUnit.breakdown (unit : AzureUnit) (settings : ProjectSettings ℚ) (quantity : UInt32)
    (hours : ℚ) : AzureCostBreakdown ℚ :=
  let compute := usageCost quantity hours unit.computeHour 0
  let additionalRam := usageCost quantity hours unit.additionalRamHour 0
  let license := usageCost quantity hours unit.licenseHour 0
  let storage := usageCost quantity hours 0 unit.storageYear
  let computePlusRamNet := (compute + additionalRam) * (1 - settings.azureComputeDiscount)
  let licenseNet := license * (1 - settings.azureLicenseDiscount)
  let storageNet := storage * (1 - settings.azureStorageDiscount)
  { computeGross := compute
    additionalRamGb := unit.additionalRamGb
    additionalRamGross := additionalRam
    computePlusRamNet
    licenseGross := license
    licenseNet
    storageGross := storage
    storageNet
    totalBeforeParity := computePlusRamNet + licenseNet + storageNet }

def AzurePricedBy (settings : ProjectSettings ℚ)
    (costsOf : UInt32 → ℚ → Except (Halt CostError) (AzureCostBreakdown ℚ)) : Prop :=
  ∃ unit : AzureUnit, unit.Nonneg ∧ ∀ quantity hours,
    costsOf quantity hours = .ok (unit.breakdown settings quantity hours)

section Azure

variable {settings : ProjectSettings ℚ} {quantity quantity' : UInt32} {hours hours' : ℚ}

theorem AzureUnit.Nonneg.sound {unit : AzureUnit} (h : unit.Nonneg)
    (hsettings : DiscountsAdmitted settings) (hhours : 0 ≤ hours) :
    AzureSound (unit.breakdown settings quantity hours) := by
  have hcompute := @usageCost_nonneg quantity _ _ _ hhours h.computeHour le_rfl
  have hram := @usageCost_nonneg quantity _ _ _ hhours h.additionalRamHour le_rfl
  exact {
    compute := hcompute
    additionalRam := hram
    computePlusRam := hsettings.azureCompute.component (add_nonneg hcompute hram)
    license := hsettings.azureLicense.component (usageCost_nonneg hhours h.licenseHour le_rfl)
    storage := hsettings.azureStorage.component (usageCost_nonneg hhours le_rfl h.storageYear)
    total := rfl }

theorem AzureUnit.Nonneg.mono {unit : AzureUnit} (h : unit.Nonneg)
    (hsettings : DiscountsAdmitted settings) (hquantity : quantity ≤ quantity') (hhours : 0 ≤ hours)
    (hle : hours ≤ hours') :
    AzureLe (unit.breakdown settings quantity hours)
      (unit.breakdown settings quantity' hours') := by
  have hcompute := usageCost_mono hquantity hhours hle h.computeHour le_rfl
  have hram := usageCost_mono hquantity hhours hle h.additionalRamHour le_rfl
  have hlicense := usageCost_mono hquantity hhours hle h.licenseHour le_rfl
  have hstorage := usageCost_mono hquantity hhours hle le_rfl h.storageYear
  have hcomputeNet := hsettings.azureCompute.net_mono (add_le_add hcompute hram)
  have hlicenseNet := hsettings.azureLicense.net_mono hlicense
  have hstorageNet := hsettings.azureStorage.net_mono hstorage
  exact {
    computeGross := hcompute
    additionalRamGross := hram
    computePlusRamNet := hcomputeNet
    licenseGross := hlicense
    licenseNet := hlicenseNet
    storageGross := hstorage
    storageNet := hstorageNet
    total := add_le_add (add_le_add hcomputeNet hlicenseNet) hstorageNet }

theorem azure_pricedBy {azureStorageGb includedMemoryGb selectedMemoryGb : ℚ} {rate : AzureRate ℚ}
    {costs : AzureCostBreakdown ℚ} (h : calculateAzure quantity hours azureStorageGb
      includedMemoryGb selectedMemoryGb rate settings = .ok costs) :
    AzurePricedBy settings fun quantity hours => calculateAzure quantity hours azureStorageGb
      includedMemoryGb selectedMemoryGb rate settings := by
  rw [calculateAzure] at h
  obtain ⟨_, hcompute, h⟩ := bind_eq_ok.mp h
  obtain ⟨_, hlicense, h⟩ := bind_eq_ok.mp h
  obtain ⟨_, hstorage, h⟩ := bind_eq_ok.mp h
  obtain ⟨_, hmemory, -⟩ := bind_eq_ok.mp h
  have hcomputeRate : 0 ≤ rate.computeHourly := validateRate_eq_ok.mp hcompute
  have hlicenseRate : 0 ≤ rate.licenseHourly := validateRate_eq_ok.mp hlicense
  have hstorageRate : 0 ≤ rate.storageMonthlyPerGb := validateRate_eq_ok.mp hstorage
  have hmemoryRate : 0 ≤ rate.additionalMemoryPerGbHourly := validateRate_eq_ok.mp hmemory
  have hram : 0 ≤ Max.max (selectedMemoryGb - includedMemoryGb) 0 := le_max_right _ _
  have hbillable : 0 ≤ Max.max (azureStorageGb - azureMiStorageUnitGb) 0 := le_max_right _ _
  refine ⟨⟨Max.max (selectedMemoryGb - includedMemoryGb) 0, rate.computeHourly,
      Max.max (selectedMemoryGb - includedMemoryGb) 0 * rate.additionalMemoryPerGbHourly,
      rate.licenseHourly, Max.max (azureStorageGb - azureMiStorageUnitGb) 0 * 12 *
        rate.storageMonthlyPerGb⟩,
    ⟨hcomputeRate, mul_nonneg hram hmemoryRate, hlicenseRate, by positivity⟩,
    fun quantity hours => ?_⟩
  simp only [calculateAzure, azureMiBillableStorageGb, hcompute, hlicense, hstorage, hmemory,
    mul3_eq, mul4_eq, add3_eq, sub_eq, add_eq, max_eq, applyDiscount_eq, liftM_ok, ok_bind,
    pure_eq_ok, ofNat_eq, zero_eq, AzureUnit.breakdown, usageCost]
  congr 2 <;> push_cast <;> ring

theorem azureVm_pricedBy {vmTotalHourlyRate vmLicenseHourlyRate managedDiskMonthly : ℚ}
    {costs : AzureCostBreakdown ℚ} (h : calculateAzureVm quantity hours vmTotalHourlyRate
      vmLicenseHourlyRate managedDiskMonthly settings = .ok costs) :
    AzurePricedBy settings fun quantity hours => calculateAzureVm quantity hours
      vmTotalHourlyRate vmLicenseHourlyRate managedDiskMonthly settings := by
  rw [calculateAzureVm] at h
  obtain ⟨_, htotal, h⟩ := bind_eq_ok.mp h
  obtain ⟨_, hlicense, h⟩ := bind_eq_ok.mp h
  obtain ⟨_, hdisk, h⟩ := bind_eq_ok.mp h
  have hlicenseRate : 0 ≤ vmLicenseHourlyRate := validateRate_eq_ok.mp hlicense
  have hdiskRate : 0 ≤ managedDiskMonthly := validateRate_eq_ok.mp hdisk
  by_cases hless : value vmTotalHourlyRate < value vmLicenseHourlyRate
  · rw [if_pos hless] at h
    cases h
  have hle : vmLicenseHourlyRate ≤ vmTotalHourlyRate := not_lt.mp hless
  refine ⟨⟨0, vmTotalHourlyRate - vmLicenseHourlyRate, 0, vmLicenseHourlyRate,
      12 * managedDiskMonthly⟩,
    ⟨sub_nonneg.mpr hle, le_rfl, hlicenseRate, by positivity⟩, fun quantity hours => ?_⟩
  simp only [calculateAzureVm, htotal, hlicense, hdisk, if_neg hless, mul3_eq, add3_eq, sub_eq,
    applyDiscount_eq, liftM_ok, ok_bind, pure_eq_ok, ofNat_eq, zero_eq, AzureUnit.breakdown,
    usageCost]
  congr 2 <;> push_cast <;> ring

theorem AzurePricedBy.sound (hsettings : DiscountsAdmitted settings)
    {costsOf : UInt32 → ℚ → Except (Halt CostError) (AzureCostBreakdown ℚ)}
    (h : AzurePricedBy settings costsOf) (hhours : 0 ≤ hours) {costs : AzureCostBreakdown ℚ}
    (hcosts : costsOf quantity hours = .ok costs) : AzureSound costs := by
  obtain ⟨unit, hunit, heq⟩ := h
  rw [heq] at hcosts
  cases hcosts
  exact hunit.sound hsettings hhours

theorem AzurePricedBy.mono (hsettings : DiscountsAdmitted settings)
    {costsOf : UInt32 → ℚ → Except (Halt CostError) (AzureCostBreakdown ℚ)}
    (h : AzurePricedBy settings costsOf) (hquantity : quantity ≤ quantity') (hhours : 0 ≤ hours)
    (hle : hours ≤ hours') {costs : AzureCostBreakdown ℚ}
    (hcosts : costsOf quantity hours = .ok costs) :
    ∃ costs', costsOf quantity' hours' = .ok costs' ∧ AzureLe costs costs' := by
  obtain ⟨unit, hunit, heq⟩ := h
  rw [heq] at hcosts
  cases hcosts
  exact ⟨_, heq quantity' hours', hunit.mono hsettings hquantity hhours hle⟩

end Azure

/-! ### The laws -/

/-- An Azure target with the records it is priced from. -/
inductive AzureTarget where
  | mi (azureStorageGb includedMemoryGb selectedMemoryGb : ℚ) (rate : AzureRate ℚ)
  | vm (vmTotalHourlyRate vmLicenseHourlyRate managedDiskMonthly : ℚ)

def azureCostsOf (settings : ProjectSettings ℚ) (quantity : UInt32) (hours : ℚ) :
    AzureTarget → Except (Halt CostError) (AzureCostBreakdown ℚ)
  | .mi azureStorageGb includedMemoryGb selectedMemoryGb rate =>
      calculateAzure quantity hours azureStorageGb includedMemoryGb selectedMemoryGb rate settings
  | .vm vmTotalHourlyRate vmLicenseHourlyRate managedDiskMonthly =>
      calculateAzureVm quantity hours vmTotalHourlyRate vmLicenseHourlyRate managedDiskMonthly
        settings

theorem azureCosts_pricedBy {settings : ProjectSettings ℚ} {quantity : UInt32} {hours : ℚ}
    {target : AzureTarget} {costs : AzureCostBreakdown ℚ}
    (h : azureCostsOf settings quantity hours target = .ok costs) :
    AzurePricedBy settings fun quantity hours => azureCostsOf settings quantity hours target := by
  cases target with
  | mi => exact azure_pricedBy h
  | vm => exact azureVm_pricedBy h

structure BreakdownLaws (settings : ProjectSettings ℚ) (resource : Resource ℚ) : Prop where
  source : ∀ {rates costs}, sourceCostsOf settings rates resource = .ok costs →
    SourceSound costs
  source_mono : ∀ {rates costs}, sourceCostsOf settings rates resource = .ok costs →
    ∀ {quantity hours}, resource.shared.quantity ≤ quantity →
      resource.shared.annualHoursPerInstance ≤ hours →
        ∃ costs', sourceCostsOf settings rates (resourceWithUsage quantity hours resource) =
          .ok costs' ∧ SourceLe costs costs'
  azure : ∀ {target costs}, azureCostsOf settings resource.shared.quantity
    resource.shared.annualHoursPerInstance target = .ok costs → AzureSound costs
  azure_mono : ∀ {target costs}, azureCostsOf settings resource.shared.quantity
    resource.shared.annualHoursPerInstance target = .ok costs →
    ∀ {quantity hours}, resource.shared.quantity ≤ quantity →
      resource.shared.annualHoursPerInstance ≤ hours →
        ∃ costs', azureCostsOf settings quantity hours target = .ok costs' ∧ AzureLe costs costs'
  savings : ∀ {rates source target azure adjustment savings},
    sourceCostsOf settings rates resource = .ok source →
    azureCostsOf settings resource.shared.quantity resource.shared.annualHoursPerInstance target =
      .ok azure →
    calculateSavings source azure adjustment = .ok savings →
    savings.totalSavings = savings.computeSavings + savings.licenseSavings +
      savings.storageSavings + source.electricityAnnual

/-- The totals differ by what the components save and by the electricity. -/
theorem totalSavings_eq {source : SourceCostBreakdown ℚ} {azure : AzureCostBreakdown ℚ}
    (hsource : SourceSound source) (hazure : AzureSound azure) {adjustment : ℚ}
    {savings : SavingsBreakdown ℚ} (h : calculateSavings source azure adjustment = .ok savings) :
    savings.totalSavings = savings.computeSavings + savings.licenseSavings +
      savings.storageSavings + source.electricityAnnual := by
  obtain ⟨required, -, hsavings⟩ := bind_eq_ok.mp h
  simp only [sub_eq, mul_eq, ok_bind, pure_eq_ok, Except.ok.injEq] at hsavings
  simp only [← hsavings, hsource.total, hazure.total]
  ring

theorem breakdownLaws_of_admitted {settings : ProjectSettings ℚ}
    (hsettings : DiscountsAdmitted settings) {resource : Resource ℚ}
    (hadmitted : ResourceAdmitted settings.projectType resource)
    (hpower : PowerAdmitted resource) : BreakdownLaws settings resource := by
  have hhours : 0 ≤ resource.shared.annualHoursPerInstance :=
    zero_eq.symm.le.trans hadmitted.shared.annualHours.1
  have hown : ∀ {rates costs}, sourceCostsOf settings rates resource = .ok costs →
      sourceCostsOf settings rates (resourceWithUsage resource.shared.quantity
        resource.shared.annualHoursPerInstance resource) = .ok costs := by
    intro rates costs hcosts
    rwa [resourceWithUsage_own]
  have hsource : ∀ {rates costs}, sourceCostsOf settings rates resource = .ok costs →
      SourceSound costs := fun hcosts =>
    (pricedBy_of_admitted hsettings hadmitted hpower hcosts).sound hsettings.source hhours
      (hown hcosts)
  have hazure : ∀ {target costs}, azureCostsOf settings resource.shared.quantity
      resource.shared.annualHoursPerInstance target = .ok costs → AzureSound costs :=
    fun hcosts => (azureCosts_pricedBy hcosts).sound hsettings hhours hcosts
  constructor
  · exact hsource
  · intro rates costs hcosts quantity hours hquantity hle
    exact (pricedBy_of_admitted hsettings hadmitted hpower hcosts).mono hsettings.source
      hquantity hhours hle (hown hcosts)
  · exact hazure
  · intro target costs hcosts quantity hours hquantity hle
    exact (azureCosts_pricedBy hcosts).mono hsettings hquantity hhours hle hcosts
  · intro rates source target azure adjustment savings hcosts hcostsAzure h
    exact totalSavings_eq (hsource hcosts) (hazure hcostsAzure) h

/-- The breakdowns of every resource of an admitted project, from any records. -/
theorem cost_breakdown_laws {project : EditableProject ℚ} (h : project.validate = [])
    {resource : Resource ℚ} (hmem : resource ∈ project.resources) :
    BreakdownLaws project.settings resource := by
  have hadmitted := (EditableProject.admitted_of_validate h).2 resource hmem
  simp only [EditableProject.validate, List.append_eq_nil_iff] at h
  obtain ⟨⟨_, hsettings⟩, hresources⟩ := h
  exact breakdownLaws_of_admitted (discountsAdmitted_of_issues hsettings) hadmitted
    (powerAdmitted_of_resourcesIssues hresources resource hmem)

namespace CostBreakdownWitness

def server : Resource ℚ := .onPrem {
  shared := ⟨⟨1⟩, "ledger", none, 2, 64, 8760⟩
  sql := ⟨.enterprise, .byol, 512, .payg⟩
  sourceVcpu := 16
  licensableCores := 8
  sourceMaxIops := 5000
  hardwareCapexUsd := 12000
  depreciationYears := 5
  averagePowerKwOverride := none }

def project : EditableProject ℚ where
  name := "Renewal"
  description := none
  settings := {
    projectType := .onPrem
    awsRegion := none
    azureRegion := "eastus"
    currency := "USD"
    sourceComputeDiscount := 0
    sourceLicenseDiscount := 1 / 10
    sourceStorageDiscount := 0
    azureComputeDiscount := 1 / 4
    azureLicenseDiscount := 0
    azureStorageDiscount := 1
    selectedParityAdjustment := 0
    defaultAnnualHours := 8760
    defaultMiPurchaseOption := .payg
    enterpriseLicenseSaUsdPerTwoCorePack := some 15000
    standardLicenseSaUsdPerTwoCorePack := some 4000
    remainingCoverageMonths := some 24
    electricityRateUsdPerKwh := some (15 / 100)
    sqlPayg := none }
  resources := [server]
  awsPriceSnapshotId := none
  azurePriceSnapshotId := none

end CostBreakdownWitness

open CostBreakdownWitness in
theorem cost_breakdown_laws_on_prem :
    project.validate = [] ∧ BreakdownLaws project.settings server :=
  have hvalid : project.validate = [] := by decide +kernel
  ⟨hvalid, cost_breakdown_laws hvalid (List.mem_singleton.mpr rfl)⟩

end Cost

end TcoCalculator
