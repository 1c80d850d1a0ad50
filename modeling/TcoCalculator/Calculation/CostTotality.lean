/-
In exact arithmetic no cost calculation panics, and those whose refusals end a
calculation return on admitted inputs.
-/
import TcoCalculator.Calculation.SelectionTotality
import TcoCalculator.Calculation.SqlPayg
import TcoCalculator.Calculation.Cost

namespace TcoCalculator

open DecimalArith ExactDecimal Fallible Halt

namespace Cost

theorem mul3_returns (a b c : ℚ) : Returns (mul3 a b c) := .ok (a * b * c)

theorem mul4_returns (a b c d : ℚ) : Returns (mul4 a b c d) := .ok (a * b * c * d)

theorem add3_returns (a b c : ℚ) : Returns (add3 a b c) := .ok (a + b + c)

theorem add4_returns (a b c d : ℚ) : Returns (add4 a b c d) := .ok (a + b + c + d)

theorem mul_returns (a b : ℚ) : Returns (mul a b) := .ok (a * b)

theorem add_returns (a b : ℚ) : Returns (add a b) := .ok (a + b)

theorem sub_returns (a b : ℚ) : Returns (sub a b) := .ok (a - b)

theorem div_returns (a : ℚ) {b : ℚ} (h : b ≠ 0) : Returns (div a b) := ⟨a / b, div_eq h⟩

theorem applyDiscount_returns (gross discount : ℚ) : Returns (applyDiscount gross discount) :=
  .ok (gross * (DecimalArith.one - discount))

theorem validateRate_noPanic (rate : ℚ) : NoPanic (validateRate rate) :=
  NoPanic.ite (fun _ => noPanic_refuse _) (fun _ => noPanic_ok ())

theorem validateRate_returns {rate : ℚ} (h : 0 ≤ rate) : Returns (validateRate rate) := by
  simp [validateRate, not_lt.mpr h, Returns]

theorem sourceCosts_returns (a b c d e f g h : ℚ) : Returns (sourceCosts a b c d e f g h) :=
  Returns.bind (add4_returns _ _ _ _) fun _ _ => .ok _

theorem sourceLicenseHourly_noPanic (basis : LicenseBasis) (edition : SqlEdition)
    (standard enterprise : Option ℚ) :
    NoPanic (sourceLicenseHourly basis edition standard enterprise) := by
  apply NoPanic.ite
  · intro _
    exact noPanic_ok _
  · intro _
    apply NoPanic.bind (.okOr _ _)
    intro rate _
    apply NoPanic.bind (validateRate_noPanic rate)
    intro _ _
    exact noPanic_ok rate

/-! ### Volumes -/

theorem tierUnits_noPanic (previousLimit remaining : UInt64) (limit : Option UInt64) :
    NoPanic (tierUnits previousLimit remaining limit) := by
  cases limit with
  | none => exact noPanic_ok remaining
  | some limit => exact NoPanic.ite (fun _ => noPanic_ok _) (fun _ => noPanic_refuse _)

theorem tieredIops_noPanic (tiers : List (IopsPriceTier ℚ)) (previousLimit remaining : UInt64)
    (total : ℚ) : NoPanic (tieredIops previousLimit remaining total tiers) := by
  induction tiers generalizing previousLimit remaining total with
  | nil => exact noPanic_refuse _
  | cons tier rest ih =>
      apply NoPanic.bind (validateRate_noPanic _)
      intro _ _
      apply NoPanic.bind (tierUnits_noPanic _ _ _)
      intro units _
      apply NoPanic.step (mul_returns _ _)
      intro cost
      apply NoPanic.step (add_returns _ _)
      intro sum
      apply NoPanic.ite
      · intro _
        exact noPanic_ok sum
      · intro _
        cases tier.upToInclusive with
        | none => exact noPanic_refuse _
        | some limit => exact ih limit _ sum

theorem iopsCost_noPanic (rate : EbsRate ℚ) (billableIops : UInt64) :
    NoPanic (iopsCost rate billableIops) := by
  apply NoPanic.ite
  · intro _
    exact NoPanic.ite (fun _ => noPanic_ok _) (fun _ => tieredIops_noPanic _ _ _ _)
  · intro _
    cases rate.iopsMonthlyPerUnit with
    | none => exact NoPanic.ite (fun _ => noPanic_ok _) (fun _ => noPanic_refuse _)
    | some iopsRate =>
        apply NoPanic.bind (validateRate_noPanic _)
        intro _ _
        exact .lift (mul_returns _ _)

theorem billableThroughput_returns (rate : EbsRate ℚ) (throughput : Option ℚ) :
    Returns (billableThroughput rate throughput) := by
  cases throughput with
  | none => exact .ok _
  | some throughput => exact Returns.bind (sub_returns _ _) fun _ _ => .ok _

theorem throughputCost_noPanic (rate : EbsRate ℚ) (throughput : ℚ) :
    NoPanic (throughputCost rate throughput) := by
  unfold throughputCost
  cases rate.throughputMonthlyPerMibps with
  | some throughputRate =>
      apply NoPanic.bind (validateRate_noPanic _)
      intro _ _
      exact .lift (mul_returns _ _)
  | none =>
      exact NoPanic.ite (fun _ => noPanic_ok _) fun _ =>
        NoPanic.ite (fun _ => noPanic_ok _) (fun _ => noPanic_refuse _)

theorem calculateVolumeMonthly_noPanic (volumeType : EbsVolumeType) (capacityGb : ℚ)
    (provisionedIops : Option UInt64) (throughputMibps : Option ℚ) (rate : EbsRate ℚ) :
    NoPanic (calculateVolumeMonthly volumeType capacityGb provisionedIops throughputMibps
      rate) := by
  apply NoPanic.ite
  · intro _
    exact noPanic_ok _
  · intro _
    apply NoPanic.bind (validateRate_noPanic _)
    intro _ _
    apply NoPanic.bind (.okOr _ _)
    intro _ _
    apply NoPanic.step (mul_returns _ _)
    intro _
    apply NoPanic.bind (iopsCost_noPanic _ _)
    intro _ _
    apply NoPanic.step (billableThroughput_returns _ _)
    intro _
    apply NoPanic.bind (throughputCost_noPanic _ _)
    intro _ _
    exact .lift (add3_returns _ _ _)

theorem monthlyStorage_noPanic {V : Type} (volumeType : V → EbsVolumeType)
    (volumeMonthly : V → EbsRate ℚ → Except (Halt CostError) ℚ)
    (h : ∀ volume rate, NoPanic (volumeMonthly volume rate)) (ebsRates : List (EbsRate ℚ))
    (volumes : List V) : NoPanic (monthlyStorage volumeType volumeMonthly ebsRates volumes) := by
  apply NoPanic.foldlM
  intro total volume _
  apply NoPanic.ite
  · intro _
    exact noPanic_ok total
  · intro _
    apply NoPanic.bind (.okOr _ _)
    intro rate _
    apply NoPanic.bind (h volume rate)
    intro _ _
    exact .lift (add_returns _ _)

/-! ### Sources -/

theorem calculateEc2Source_noPanic (resource : Ec2Resource ℚ) (rate : Ec2Rate ℚ)
    (ebsRates : List (EbsRate ℚ)) (settings : ProjectSettings ℚ) :
    NoPanic (calculateEc2Source resource rate ebsRates settings) := by
  apply NoPanic.bind (validateRate_noPanic _)
  intro _ _
  apply NoPanic.step (mul3_returns _ _ _)
  intro _
  apply NoPanic.step (applyDiscount_returns _ _)
  intro _
  apply NoPanic.bind (sourceLicenseHourly_noPanic _ _ _ _)
  intro _ _
  apply NoPanic.step (mul3_returns _ _ _)
  intro _
  apply NoPanic.step (applyDiscount_returns _ _)
  intro _
  apply NoPanic.bind (monthlyStorage_noPanic _ _
    (fun _ _ => calculateVolumeMonthly_noPanic _ _ _ _ _) _ _)
  intro _ _
  apply NoPanic.step (mul3_returns _ _ _)
  intro _
  apply NoPanic.step (applyDiscount_returns _ _)
  intro _
  exact .lift (sourceCosts_returns _ _ _ _ _ _ _ _)

theorem calculateEc2VmSource_noPanic (resource : Ec2VmResource ℚ) (rate : Ec2Rate ℚ)
    (ebsRates : List (EbsRate ℚ)) (settings : ProjectSettings ℚ) :
    NoPanic (calculateEc2VmSource resource rate ebsRates settings) := by
  apply NoPanic.bind (validateRate_noPanic _)
  intro _ _
  apply NoPanic.step (mul3_returns _ _ _)
  intro _
  apply NoPanic.step (applyDiscount_returns _ _)
  intro _
  apply NoPanic.bind (monthlyStorage_noPanic _ _
    (fun _ _ => calculateVolumeMonthly_noPanic _ _ _ _ _) _ _)
  intro _ _
  apply NoPanic.step (mul3_returns _ _ _)
  intro _
  apply NoPanic.step (applyDiscount_returns _ _)
  intro _
  exact .lift (sourceCosts_returns _ _ _ _ _ _ _ _)

theorem sourceMaxIops_noPanic (resource : Ec2Resource ℚ) : NoPanic (sourceMaxIops resource) := by
  apply NoPanic.foldlM
  intro maximum volume _
  apply NoPanic.bind (.okOr _ _)
  intro _ _
  exact noPanic_ok _

theorem rdsLicenseGross_returns (resource : RdsResource ℚ) (sourceVcpu : UInt32)
    (coreRate : ℚ) : Returns (rdsLicenseGross resource sourceVcpu coreRate) :=
  Returns.ite (fun _ => .ok _) (fun _ => mul4_returns _ _ _ _)

theorem calculateRdsSource_noPanic (resource : RdsResource ℚ) (rate : RdsRate ℚ)
    (settings : ProjectSettings ℚ) : NoPanic (calculateRdsSource resource rate settings) := by
  apply NoPanic.bind (validateRate_noPanic _)
  intro _ _
  apply NoPanic.bind (validateRate_noPanic _)
  intro _ _
  apply NoPanic.step (mul3_returns _ _ _)
  intro _
  apply NoPanic.step (applyDiscount_returns _ _)
  intro _
  apply NoPanic.bind (validateRate_noPanic _)
  intro _ _
  apply NoPanic.step (rdsLicenseGross_returns _ _ _)
  intro _
  apply NoPanic.step (applyDiscount_returns _ _)
  intro _
  apply NoPanic.step (mul4_returns _ _ _ _)
  intro _
  apply NoPanic.step (applyDiscount_returns _ _)
  intro _
  exact .lift (sourceCosts_returns _ _ _ _ _ _ _ _)

theorem estimatedPowerKw_returns (resource : OnPremResource ℚ) :
    Returns (estimatedPowerKw resource) := by
  have hunit : (DecimalArith.ofNat 1024 : ℚ) ≠ 0 := by
    rw [ofNat_eq]
    norm_num
  apply Returns.bind (mul_returns _ _)
  intro _ _
  apply Returns.bind (mul_returns _ _)
  intro _ _
  apply Returns.bind (mul_returns _ _)
  intro _ _
  apply Returns.bind (div_returns _ hunit)
  intro _ _
  exact add4_returns _ _ _ _

/-- Settings with what an on-premises source is priced by. -/
structure OnPremPriced (settings : ProjectSettings ℚ) : Prop where
  licensePack : ∀ edition, ∃ price, licensePackPrice settings edition = some price ∧ 0 ≤ price
  coverage : ∃ months, settings.remainingCoverageMonths = some months ∧ months ≠ 0
  electricity : ∃ rate, settings.electricityRateUsdPerKwh = some rate ∧ 0 ≤ rate

theorem calculateOnPremSource_returns (resource : OnPremResource ℚ)
    {settings : ProjectSettings ℚ} (hsettings : OnPremPriced settings)
    (hyears : resource.depreciationYears ≠ 0) :
    Returns (calculateOnPremSource resource settings) := by
  obtain ⟨price, hprice, hpriceNonneg⟩ := hsettings.licensePack resource.sql.sqlEdition
  obtain ⟨months, hmonths, hmonthsPositive⟩ := hsettings.coverage
  obtain ⟨rate, hrate, hrateNonneg⟩ := hsettings.electricity
  have hcoverage : (DecimalArith.ofNat months.toNat : ℚ) ≠ 0 := by
    rw [ofNat_eq]
    exact_mod_cast fun hzero => hmonthsPositive (UInt8.toNat_inj.mp hzero)
  have hyear : (DecimalArith.ofNat 12 : ℚ) ≠ 0 := by
    rw [ofNat_eq]
    norm_num
  unfold calculateOnPremSource
  rw [hprice, hmonths, hrate]
  simp only [okOr, ok_bind]
  apply Returns.bind (validateRate_returns hpriceNonneg)
  intro _ _
  apply Returns.bind (validateRate_returns hrateNonneg)
  intro _ _
  apply Returns.step (estimatedPowerKw_returns resource)
  intro _
  apply Returns.step (mul3_returns _ _ _)
  intro _
  apply Returns.step (mul_returns _ _)
  intro _
  apply Returns.step (mul_returns _ _)
  intro _
  apply Returns.step (div_returns _ hyears)
  intro _
  apply Returns.step (mul4_returns _ _ _ _)
  intro _
  apply Returns.step (div_returns _ hcoverage)
  intro _
  apply Returns.step (applyDiscount_returns _ _)
  intro _
  apply Returns.step (sourceCosts_returns _ _ _ _ _ _ _ _)
  intro _
  apply Returns.step (div_returns _ hyear)
  intro _
  exact .ok _

/-! ### Targets -/

theorem azureMiConfiguredStorageGb_eq (required : ℚ) :
    azureMiConfiguredStorageGb required = .ok (Max.max (⌈required / 32⌉ : ℚ) 1 * 32) := by
  have hunit : (DecimalArith.ofNat azureMiStorageUnitGb : ℚ) = 32 := by
    simp [azureMiStorageUnitGb]
  simp [azureMiConfiguredStorageGb, hunit, div_eq]

theorem azureMiBillableStorageGb_returns (configured : ℚ) :
    Returns (azureMiBillableStorageGb configured) :=
  Returns.bind (sub_returns _ _) fun _ _ => .ok _

theorem calculateAzure_noPanic (quantity : UInt32)
    (annualHours azureStorageGb includedMemoryGb selectedMemoryGb : ℚ) (rate : AzureRate ℚ)
    (settings : ProjectSettings ℚ) :
    NoPanic (calculateAzure quantity annualHours azureStorageGb includedMemoryGb
      selectedMemoryGb rate settings) := by
  apply NoPanic.bind (validateRate_noPanic _)
  intro _ _
  apply NoPanic.bind (validateRate_noPanic _)
  intro _ _
  apply NoPanic.bind (validateRate_noPanic _)
  intro _ _
  apply NoPanic.bind (validateRate_noPanic _)
  intro _ _
  apply NoPanic.step (mul3_returns _ _ _)
  intro _
  apply NoPanic.step (sub_returns _ _)
  intro _
  apply NoPanic.step (mul4_returns _ _ _ _)
  intro _
  apply NoPanic.step (add_returns _ _)
  intro _
  apply NoPanic.step (applyDiscount_returns _ _)
  intro _
  apply NoPanic.step (mul3_returns _ _ _)
  intro _
  apply NoPanic.step (applyDiscount_returns _ _)
  intro _
  apply NoPanic.step (azureMiBillableStorageGb_returns _)
  intro _
  apply NoPanic.step (mul4_returns _ _ _ _)
  intro _
  apply NoPanic.step (applyDiscount_returns _ _)
  intro _
  apply NoPanic.step (add3_returns _ _ _)
  intro _
  exact noPanic_ok _

theorem calculateAzureVm_noPanic (quantity : UInt32)
    (annualHours vmTotalHourlyRate vmLicenseHourlyRate managedDiskMonthly : ℚ)
    (settings : ProjectSettings ℚ) :
    NoPanic (calculateAzureVm quantity annualHours vmTotalHourlyRate vmLicenseHourlyRate
      managedDiskMonthly settings) := by
  apply NoPanic.bind (validateRate_noPanic _)
  intro _ _
  apply NoPanic.bind (validateRate_noPanic _)
  intro _ _
  apply NoPanic.bind (validateRate_noPanic _)
  intro _ _
  apply NoPanic.ite
  · intro _
    exact noPanic_refuse _
  · intro _
    apply NoPanic.step (sub_returns _ _)
    intro _
    apply NoPanic.step (mul3_returns _ _ _)
    intro _
    apply NoPanic.step (applyDiscount_returns _ _)
    intro _
    apply NoPanic.step (mul3_returns _ _ _)
    intro _
    apply NoPanic.step (applyDiscount_returns _ _)
    intro _
    apply NoPanic.step (mul3_returns _ _ _)
    intro _
    apply NoPanic.step (applyDiscount_returns _ _)
    intro _
    apply NoPanic.step (add3_returns _ _ _)
    intro _
    exact noPanic_ok _

theorem calculateAzureManagedDiskMonthly_noPanic (disk : SelectedManagedDisk ℚ)
    (rate : AzureManagedDiskRateSet ℚ) :
    NoPanic (calculateAzureManagedDiskMonthly disk rate) := by
  apply NoPanic.bind (validateRate_noPanic _)
  intro _ _
  apply NoPanic.ite
  · intro _
    exact noPanic_ok _
  · intro _
    apply NoPanic.bind (.okOr _ _)
    intro _ _
    apply NoPanic.bind (.okOr _ _)
    intro _ _
    apply NoPanic.bind (validateRate_noPanic _)
    intro _ _
    apply NoPanic.bind (validateRate_noPanic _)
    intro _ _
    apply NoPanic.step (mul_returns _ _)
    intro _
    apply NoPanic.step (mul_returns _ _)
    intro _
    apply NoPanic.step (mul_returns _ _)
    intro _
    exact .lift (add3_returns _ _ _)

/-! ### Comparison -/

theorem requiredAdjustment_returns (source azure : ℚ) :
    Returns (requiredAdjustment source azure) := by
  apply Returns.ite
  · intro _
    exact .ok _
  · intro hazure
    apply Returns.bind (div_returns _ hazure)
    intro _ _
    exact sub_returns _ _

theorem calculateSavings_returns (source : SourceCostBreakdown ℚ) (azure : AzureCostBreakdown ℚ)
    (selectedAdjustment : ℚ) : Returns (calculateSavings source azure selectedAdjustment) :=
  Returns.bind (requiredAdjustment_returns _ _) fun _ _ => .ok _

end Cost

namespace SqlPayg

/-- An input the comparison accepts. -/
structure ValidInput (input : SqlPaygInput ℚ) : Prop where
  licensed : ¬ (input.enterpriseLicensedCores = 0 ∧ input.standardLicensedCores = 0)
  softwareAssurance : 0 ≤ input.softwareAssuranceAnnualUsd
  hoursNonneg : 0 ≤ input.annualHours
  hoursLe : input.annualHours ≤ maxAnnualHours
  discount : isPercent input.appliedPaygDiscount = true

theorem rawDiscount_returns (softwareAssurance paygGrossAnnual : ℚ) :
    Returns (rawDiscount softwareAssurance paygGrossAnnual) := by
  apply Returns.ite
  · intro _
    exact .ok _
  · intro hgross
    apply Returns.bind (Cost.div_returns _ hgross)
    intro _ _
    exact Cost.sub_returns _ _

theorem calculate_returns {input : SqlPaygInput ℚ} (h : ValidInput input) :
    Returns (calculate input) := by
  unfold calculate
  have hhours : ¬ (input.annualHours < 0 ∨ (maxAnnualHours : ℚ) < input.annualHours) := by
    rintro (hnegative | habove)
    · exact absurd h.hoursNonneg (not_le.mpr hnegative)
    · exact absurd h.hoursLe (not_le.mpr habove)
  simp only [h.licensed, h.discount, value_eq, ofNat_eq, if_false, not_lt.mpr h.softwareAssurance,
    hhours, Bool.not_true, Bool.false_eq_true]
  apply Returns.step (Cost.mul_returns _ _)
  intro _
  apply Returns.step (Cost.mul_returns _ _)
  intro _
  apply Returns.step (Cost.add_returns _ _)
  intro _
  apply Returns.step (Cost.mul_returns _ _)
  intro _
  apply Returns.step (rawDiscount_returns _ _)
  intro _
  apply Returns.step (Cost.sub_returns _ _)
  intro _
  apply Returns.step (Cost.mul_returns _ _)
  intro _
  apply Returns.step (Cost.sub_returns _ _)
  intro _
  exact .ok _

end SqlPayg

end TcoCalculator
