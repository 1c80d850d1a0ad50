/-
What a pay-as-you-go analysis says of the two amounts it compares, and how the
portfolio of a revision repeats it.
-/
import TcoCalculator.Calculation.WorkflowPortfolio

namespace TcoCalculator.SqlPayg

open DecimalArith ExactDecimal Fallible Halt

/-! ### The two amounts -/

/-- What the licensed cores cost over the hours at the full rates. -/
def grossOf (input : SqlPaygInput ℚ) : ℚ :=
  (input.enterpriseLicensedCores.toNat * (375 / 1000) +
    input.standardLicensedCores.toNat * (100 / 1000)) * input.annualHours

theorem grossOf_nonneg {input : SqlPaygInput ℚ} (h : 0 ≤ input.annualHours) :
    0 ≤ grossOf input := by
  unfold grossOf
  positivity

/-- The discount that takes the gross cost down to the Software Assurance spend. -/
def discountOf (gross spend : ℚ) : ℚ := if gross = 0 then 0 else Max.max (1 - spend / gross) 0

theorem discountOf_bounds {gross spend : ℚ} (hgross : 0 ≤ gross) (hspend : 0 ≤ spend) :
    0 ≤ discountOf gross spend ∧ discountOf gross spend ≤ 1 := by
  unfold discountOf
  split_ifs
  · norm_num
  · refine ⟨le_max_right _ _, max_le ?_ zero_le_one⟩
    have hshare : 0 ≤ spend / gross := div_nonneg hspend hgross
    linarith

/-- Discounted so far the gross cost is the smaller of the two amounts. -/
theorem gross_mul_discountOf {gross spend : ℚ} (hgross : 0 ≤ gross) (hspend : 0 ≤ spend) :
    gross * (1 - discountOf gross spend) = Min.min gross spend := by
  unfold discountOf
  split_ifs with hzero
  · rw [hzero, zero_mul, min_eq_left hspend]
  · have hpos : 0 < gross := lt_of_le_of_ne hgross (Ne.symm hzero)
    rcases le_total gross spend with hle | hle
    · have hraw : 1 - spend / gross ≤ 0 := by
        rw [sub_nonpos, one_le_div hpos]
        exact hle
      rw [max_eq_right hraw, sub_zero, mul_one, min_eq_left hle]
    · have hraw : 0 ≤ 1 - spend / gross := by
        rw [sub_nonneg, div_le_one hpos]
        exact hle
      rw [max_eq_left hraw, sub_sub_cancel, mul_div_cancel₀ _ hzero, min_eq_right hle]

/-- What the analysis says of the gross cost and the spend. -/
structure Breakeven (gross spend : ℚ) (analysis : SqlPaygAnalysis ℚ) : Prop where
  grossOf : analysis.paygGrossAnnualUsd = gross
  spendOf : analysis.softwareAssuranceAnnualUsd = spend
  required : analysis.requiredPaygDiscount = discountOf gross spend
  atBreakeven : analysis.paygAtBreakevenUsd = Min.min gross spend
  noDiscount : analysis.outcome = .noDiscountNeeded ↔ gross ≤ spend
  fullDiscount : analysis.outcome = .fullDiscountRequired ↔ spend = 0 ∧ 0 < gross
  discount : analysis.outcome = .discountRequired ↔ 0 < spend ∧ spend < gross

/-- The raw discount decides between the three outcomes. -/
theorem breakeven_cases {gross spend raw : ℚ} (hgross : 0 ≤ gross) (hspend : 0 ≤ spend)
    (hraw : rawDiscount spend gross = .ok raw) :
    DecimalArith.max raw zero = discountOf gross spend ∧
      (gross ≤ spend ∧ breakeven raw spend gross = (.noDiscountNeeded, gross) ∨
        spend = 0 ∧ 0 < gross ∧ breakeven raw spend gross = (.fullDiscountRequired, spend) ∨
        0 < spend ∧ spend < gross ∧ breakeven raw spend gross = (.discountRequired, spend)) := by
  simp only [max_eq, zero_eq]
  by_cases hzero : gross = 0
  · rw [rawDiscount, value_eq, if_pos hzero] at hraw
    obtain rfl : 0 = raw := zero_eq.symm.trans (Except.ok.inj hraw)
    rw [discountOf, if_pos hzero, max_self]
    refine ⟨rfl, .inl ⟨hzero ▸ hspend, ?_⟩⟩
    simp [breakeven]
  · have hpos : 0 < gross := lt_of_le_of_ne hgross (Ne.symm hzero)
    obtain rfl := Workflow.rawDiscount_eq hraw hzero
    rw [discountOf, if_neg hzero]
    refine ⟨rfl, ?_⟩
    rcases le_or_gt gross spend with hle | hlt
    · have hnone : 1 - spend / gross ≤ 0 := by
        rw [sub_nonpos, one_le_div hpos]
        exact hle
      exact .inl ⟨hle, by rw [breakeven, value_eq, if_pos hnone]⟩
    · have hsome : 0 < 1 - spend / gross := by
        rw [sub_pos, div_lt_one hpos]
        exact hlt
      rw [breakeven, value_eq, if_neg (not_le.mpr hsome), max_eq, zero_eq, max_eq_left hsome.le,
        value_eq, value_eq, one_eq]
      rcases hspend.eq_or_lt with rfl | hpositive
      · exact .inr (.inl ⟨rfl, hpos, by simp⟩)
      · have hshare : 1 - spend / gross ≠ 1 := by
          have hshare : 0 < spend / gross := div_pos hpositive hpos
          linarith
        exact .inr (.inr ⟨hpositive, hlt, if_neg hshare⟩)

theorem breakeven_of_calculate {input : SqlPaygInput ℚ} (h : ValidInput input)
    {analysis : SqlPaygAnalysis ℚ} (hrun : calculate input = .ok analysis) :
    Breakeven (grossOf input) input.softwareAssuranceAnnualUsd analysis := by
  have hgross := grossOf_nonneg h.hoursNonneg
  have hspend := h.softwareAssurance
  have hrates : ((input.enterpriseLicensedCores.toNat : ℚ) * enterpriseRate +
      input.standardLicensedCores.toNat * standardRate) * input.annualHours = grossOf input := by
    simp only [enterpriseRate, standardRate, ofScaled_eq, grossOf]
    norm_num
  unfold calculate at hrun
  split_ifs at hrun
  · cases hrun
  · cases hrun
  · cases hrun
  · cases hrun
  simp only [mul_eq, add_eq, sub_eq, liftM_ok, ok_bind, one_eq, ofNat_eq, hrates] at hrun
  obtain ⟨raw, hraw, hrun⟩ := bind_eq_ok.mp hrun
  obtain ⟨hrequired, hcases⟩ := breakeven_cases hgross hspend (liftM_eq_ok.mp hraw)
  cases hrun
  rcases hcases with ⟨hle, houtcome⟩ | ⟨hzero, hpos, houtcome⟩ | ⟨hpositive, hlt, houtcome⟩
  · refine ⟨rfl, rfl, hrequired, ?_, ?_, ?_, ?_⟩ <;> simp only [houtcome]
    · exact (min_eq_left hle).symm
    · exact iff_of_true trivial hle
    · refine iff_of_false (by decide) fun hboth => ?_
      linarith [hboth.1, hboth.2]
    · refine iff_of_false (by decide) fun hboth => ?_
      exact absurd hle (not_le.mpr hboth.2)
  · refine ⟨rfl, rfl, hrequired, ?_, ?_, ?_, ?_⟩ <;> simp only [houtcome]
    · exact (min_eq_right (hzero ▸ hgross)).symm
    · refine iff_of_false (by decide) fun hle => ?_
      linarith
    · exact iff_of_true trivial ⟨hzero, hpos⟩
    · refine iff_of_false (by decide) fun hboth => ?_
      exact absurd hzero hboth.1.ne'
  · refine ⟨rfl, rfl, hrequired, ?_, ?_, ?_, ?_⟩ <;> simp only [houtcome]
    · exact (min_eq_right hlt.le).symm
    · exact iff_of_false (by decide) (not_le.mpr hlt)
    · exact iff_of_false (by decide) fun hboth => absurd hboth.1 hpositive.ne'
    · exact iff_of_true trivial ⟨hpositive, hlt⟩

/-! ### The portfolio of a revision -/

/-- The portfolio shows the spend as the source and the costs as the target, so
that its difference is the savings with the other sign. -/
structure PortfolioAgrees (analysis : SqlPaygAnalysis ℚ) (totals : PortfolioTotals ℚ) : Prop where
  allSource : totals.awsAllRowsTotal = some analysis.softwareAssuranceAnnualUsd
  mappedSource : totals.awsMappedRowsTotal = analysis.softwareAssuranceAnnualUsd
  mappedAzure : totals.azureMappedRowsTotal = analysis.paygGrossAnnualUsd
  required : totals.requiredPortfolioAdjustment = analysis.requiredPaygDiscount
  selected : totals.selectedParityAdjustment = analysis.appliedPaygDiscount
  afterParity : totals.portfolioAfterSelectedParity = analysis.paygNetAnnualUsd
  difference : totals.portfolioDifference = -analysis.annualSavingsUsd
  counts : totals.comparableResourceCount = 1 ∧ totals.noMappingResourceCount = 0 ∧
    totals.priceUnavailableResourceCount = 0

theorem annualSavings_eq {input : SqlPaygInput ℚ} {analysis : SqlPaygAnalysis ℚ}
    (hrun : calculate input = .ok analysis) : analysis.annualSavingsUsd =
      analysis.softwareAssuranceAnnualUsd - analysis.paygNetAnnualUsd := by
  unfold calculate at hrun
  split_ifs at hrun
  · cases hrun
  · cases hrun
  · cases hrun
  · cases hrun
  simp only [mul_eq, add_eq, sub_eq, liftM_ok, ok_bind] at hrun
  obtain ⟨raw, -, hrun⟩ := bind_eq_ok.mp hrun
  cases hrun
  rfl

theorem portfolioAgrees_of_calculate {engine : CalculationEngine ℚ}
    {project : CalculationInput ℚ} {settings : SqlPaygSettings ℚ}
    {revision : CalculationRevision ℚ} {analysis : SqlPaygAnalysis ℚ}
    (htype : project.settings.projectType = .sqlPayg)
    (hsettings : project.settings.sqlPayg = some settings)
    (hrun : Workflow.calculate engine project = .ok revision)
    (hanalysis : calculate (Workflow.sqlPaygInput project.settings settings) = .ok analysis) :
    revision.sqlPaygAnalysis = some analysis ∧
      PortfolioAgrees analysis revision.portfolioTotals := by
  obtain ⟨_, -, hrun⟩ := bind_eq_ok.mp hrun
  rw [if_pos htype, Workflow.calculateSqlPayg, hsettings] at hrun
  obtain ⟨_, hokOr, hrun⟩ := bind_eq_ok.mp hrun
  cases hokOr
  rw [hanalysis] at hrun
  simp only [mapError, ok_bind, sub_eq, liftM_ok] at hrun
  cases hrun
  refine ⟨rfl, rfl, rfl, rfl, rfl, rfl, rfl, ?_, rfl, rfl, rfl⟩
  rw [annualSavings_eq hanalysis, neg_sub]

/-! ### Breakeven -/

/-- The required discount takes the gross cost to the smaller of the two amounts,
the outcome says how they compare, and the portfolio of a revision agrees. -/
theorem sql_payg_breakeven {input : SqlPaygInput ℚ} (h : ValidInput input) :
    ∃ analysis, calculate input = .ok analysis ∧
      Breakeven (grossOf input) input.softwareAssuranceAnnualUsd analysis ∧
      (0 ≤ analysis.requiredPaygDiscount ∧ analysis.requiredPaygDiscount ≤ 1) ∧
      analysis.paygGrossAnnualUsd * (1 - analysis.requiredPaygDiscount) =
        Min.min analysis.paygGrossAnnualUsd analysis.softwareAssuranceAnnualUsd ∧
      ∀ (engine : CalculationEngine ℚ) (project : CalculationInput ℚ) settings revision,
        project.settings.projectType = .sqlPayg → project.settings.sqlPayg = some settings →
        Workflow.sqlPaygInput project.settings settings = input →
        Workflow.calculate engine project = .ok revision →
          revision.sqlPaygAnalysis = some analysis ∧
            PortfolioAgrees analysis revision.portfolioTotals := by
  obtain ⟨analysis, hrun⟩ := calculate_returns h
  have hbreakeven := breakeven_of_calculate h hrun
  have hgross := grossOf_nonneg h.hoursNonneg
  refine ⟨analysis, hrun, hbreakeven, ?_, ?_, ?_⟩
  · rw [hbreakeven.required]
    exact discountOf_bounds hgross h.softwareAssurance
  · rw [hbreakeven.required, hbreakeven.grossOf, hbreakeven.spendOf]
    exact gross_mul_discountOf hgross h.softwareAssurance
  · rintro engine project settings revision htype hsettings rfl hrevision
    exact portfolioAgrees_of_calculate htype hsettings hrevision hrun

/-- Eight Enterprise and sixteen Standard cores all year against 20000 a year. -/
theorem sql_payg_breakeven_always_on :
    let input : SqlPaygInput ℚ := ⟨8, 16, 20000, 8760, 1 / 4⟩
    ValidInput input ∧ ∃ analysis, calculate input = .ok analysis ∧
      analysis.outcome = .discountRequired ∧ analysis.paygAtBreakevenUsd = 20000 := by
  intro input
  have hvalid : ValidInput input :=
    ⟨by decide, by norm_num [input], by norm_num [input], by norm_num [input, maxAnnualHours],
      by decide +kernel⟩
  obtain ⟨analysis, hrun, hbreakeven, -⟩ := sql_payg_breakeven hvalid
  have hgross : (20000 : ℚ) < grossOf input := by decide +kernel
  refine ⟨hvalid, analysis, hrun, hbreakeven.discount.mpr ⟨by norm_num [input], hgross⟩, ?_⟩
  rw [hbreakeven.atBreakeven]
  exact min_eq_right hgross.le

end TcoCalculator.SqlPayg
