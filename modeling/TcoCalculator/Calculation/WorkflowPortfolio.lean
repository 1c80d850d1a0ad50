/-
In exact arithmetic the portfolio totals are the totals of the rows, and those
of a licensing comparison are the ones of its analysis.
-/
import Mathlib.Algebra.BigOperators.Group.Multiset.Basic
import Mathlib.Algebra.BigOperators.Ring.List
import TcoCalculator.Calculation.WorkflowRows
import TcoCalculator.Domain.PriceArithmetic

namespace TcoCalculator.Workflow

open DecimalArith ExactDecimal Fallible Halt

variable {input : CalculationInput ℚ} {rows : List (ResourceCalculation ℚ)}
  {totals : PortfolioTotals ℚ}

/-! ### Sums -/

theorem sum_map_sub {α : Type} (xs : List α) (f g : α → ℚ) :
    (xs.map fun x => f x - g x).sum = (xs.map f).sum - (xs.map g).sum := by
  simpa using Multiset.sum_map_sub (m := (xs : Multiset α)) (f := f) (g := g)

/-- The rows with both sides priced. -/
def pricedRows (rows : List (ResourceCalculation ℚ)) : List (ResourceCalculation ℚ) :=
  rows.filter fun row => row.sourceCosts.isSome && row.azureCosts.isSome

/-- The sum of a quantity over the rows that have it. -/
def totalOf (quantity : ResourceCalculation ℚ → Option ℚ) (rows : List (ResourceCalculation ℚ)) :
    ℚ := (rows.filterMap quantity).sum

def sourceTotal (row : ResourceCalculation ℚ) : Option ℚ :=
  row.sourceCosts.map SourceCostBreakdown.total

def azureTotal (row : ResourceCalculation ℚ) : Option ℚ :=
  row.azureCosts.map AzureCostBreakdown.totalBeforeParity

def azureAfterParity (row : ResourceCalculation ℚ) : Option ℚ :=
  row.savings.map SavingsBreakdown.azureAfterSelectedParity

def rowDifference (row : ResourceCalculation ℚ) : Option ℚ :=
  row.savings.map SavingsBreakdown.difference

theorem comparableCosts_eq_some {row : ResourceCalculation ℚ}
    {costs : SourceCostBreakdown ℚ × AzureCostBreakdown ℚ} :
    comparableCosts row = some costs ↔
      row.sourceCosts = some costs.1 ∧ row.azureCosts = some costs.2 := by
  unfold comparableCosts
  cases row.sourceCosts <;> cases row.azureCosts <;> simp [Prod.ext_iff]

theorem comparableCosts_isSome (row : ResourceCalculation ℚ) :
    (comparableCosts row).isSome = (row.sourceCosts.isSome && row.azureCosts.isSome) := by
  unfold comparableCosts
  cases row.sourceCosts <;> cases row.azureCosts <;> rfl

theorem length_pricedRows :
    (pricedRows rows).length = (rows.filterMap comparableCosts).length := by
  simp only [List.length_filterMap_eq_countP, comparableCosts_isSome, pricedRows,
    List.countP_eq_length_filter]

/-- A quantity that the costs of a priced row determine is summed by the costs. -/
theorem totalOf_pricedRows {quantity : ResourceCalculation ℚ → Option ℚ}
    {ofCosts : SourceCostBreakdown ℚ × AzureCostBreakdown ℚ → ℚ}
    (h : ∀ row ∈ rows, ∀ costs, comparableCosts row = some costs →
      quantity row = some (ofCosts costs)) :
    totalOf quantity (pricedRows rows) =
      ((rows.filterMap comparableCosts).map ofCosts).sum := by
  unfold totalOf pricedRows
  rw [List.filterMap_filter, List.map_filterMap]
  congr 1
  apply List.filterMap_congr
  intro row hrow
  rw [← comparableCosts_isSome]
  cases hcosts : comparableCosts row with
  | none => rfl
  | some costs => simpa using h row hrow costs hcosts

/-! ### Totals of rows -/

/-- The totals of the portfolio are those of its rows, and its adjustment is the
one that makes both sides equal. -/
structure PortfolioOfRows (rows : List (ResourceCalculation ℚ)) (totals : PortfolioTotals ℚ) :
    Prop where
  mappedSource : totals.awsMappedRowsTotal = totalOf sourceTotal (pricedRows rows)
  mappedAzure : totals.azureMappedRowsTotal = totalOf azureTotal (pricedRows rows)
  afterParity : totals.portfolioAfterSelectedParity = totalOf azureAfterParity (pricedRows rows)
  difference : totals.portfolioDifference = totalOf rowDifference (pricedRows rows)
  comparableCount : totals.comparableResourceCount = (pricedRows rows).length
  noMappingCount : totals.noMappingResourceCount =
    rows.countP fun row => row.mappingStatus = some .noMapping
  priceUnavailableCount : totals.priceUnavailableResourceCount =
    rows.countP fun row => row.awsPricingStatus = .unavailable ∨
      row.azurePricingStatus = .unavailable
  adjusted : totals.azureMappedRowsTotal ≠ 0 →
    totals.azureMappedRowsTotal * (1 - totals.requiredPortfolioAdjustment) -
      totals.awsMappedRowsTotal = 0

/-- The source total of all rows is given when every row has its source costs. -/
structure AllRowsOfRows (rows : List (ResourceCalculation ℚ)) (totals : PortfolioTotals ℚ) :
    Prop where
  priced : (∀ row ∈ rows, row.sourceCosts.isSome = true) →
    totals.awsAllRowsTotal = some (totalOf sourceTotal rows)
  unpriced : (∃ row ∈ rows, row.sourceCosts = none) → totals.awsAllRowsTotal = none

theorem allRowsTotal_eq (rows : List (ResourceCalculation ℚ)) :
    allRowsTotal rows = .ok (if rows.all fun row => row.sourceCosts.isSome then
      some (totalOf sourceTotal rows) else none) := by
  unfold allRowsTotal totalOf
  rw [sum_eq_sum, List.map_filterMap]
  split <;> rfl

theorem calculateSavings_eq {source : SourceCostBreakdown ℚ} {azure : AzureCostBreakdown ℚ}
    {adjustment : ℚ} {savings : SavingsBreakdown ℚ}
    (h : Cost.calculateSavings source azure adjustment = .ok savings) :
    savings.azureAfterSelectedParity = azure.totalBeforeParity * (1 - adjustment) ∧
      savings.difference = azure.totalBeforeParity * (1 - adjustment) - source.total := by
  obtain ⟨required, -, hsavings⟩ := bind_eq_ok.mp h
  simp only [sub_eq, mul_eq, one_eq, ok_bind, pure_eq_ok, Except.ok.injEq] at hsavings
  simp [← hsavings]

/-- The savings of a priced row come from its two totals. -/
theorem RowOf.savings_of_costs {row : ResourceCalculation ℚ} (h : RowOf input row)
    {costs : SourceCostBreakdown ℚ × AzureCostBreakdown ℚ}
    (hcosts : comparableCosts row = some costs) :
    ∃ savings, row.savings = some savings ∧ Cost.calculateSavings costs.1 costs.2
      input.settings.selectedParityAdjustment = .ok savings := by
  obtain ⟨steps, hsavings⟩ := h.savings
  obtain ⟨hsource, hazure⟩ := comparableCosts_eq_some.mp hcosts
  rw [hsource, hazure] at hsavings
  obtain ⟨savings, hcalculate, hpair⟩ := bind_eq_ok.mp hsavings
  simp only [pure_eq_ok, Except.ok.injEq, Prod.mk.injEq] at hpair
  exact ⟨savings, hpair.1.symm, hcalculate⟩

theorem requiredAdjustment_eq {source azure required : ℚ}
    (h : Cost.requiredAdjustment source azure = .ok required) (hazure : azure ≠ 0) :
    azure * (1 - required) - source = 0 := by
  unfold Cost.requiredAdjustment at h
  simp only [value_eq, if_neg hazure, div_eq hazure, one_eq, sub_eq, ok_bind,
    Except.ok.injEq] at h
  rw [← h, sub_sub_cancel, mul_div_cancel₀ source hazure, sub_self]

theorem length_filter_eq_countP {p : ResourceCalculation ℚ → Bool}
    {P : ResourceCalculation ℚ → Prop} [DecidablePred P] (h : ∀ row, p row = true ↔ P row) :
    (rows.filter p).length = rows.countP fun row => P row := by
  rw [List.countP_eq_length_filter]
  congr 2
  funext row
  exact Bool.eq_iff_iff.mpr (by simp [h row])

theorem calculatePortfolio_of_rows (hrows : ∀ row ∈ rows, RowOf input row)
    (h : calculatePortfolio rows input.settings.selectedParityAdjustment = .ok totals) :
    PortfolioOfRows rows totals ∧ AllRowsOfRows rows totals := by
  unfold calculatePortfolio at h
  simp only [allRowsTotal_eq, sum_eq_sum, sub_eq, mul_eq, one_eq, ok_bind] at h
  obtain ⟨required, hrequired, htotals⟩ := bind_eq_ok.mp h
  cases htotals
  have hsource : totalOf sourceTotal (pricedRows rows) =
      ((rows.filterMap comparableCosts).map fun costs => costs.1.total).sum :=
    totalOf_pricedRows fun row _ costs hcosts => by
      simp [sourceTotal, (comparableCosts_eq_some.mp hcosts).1]
  have hazure : totalOf azureTotal (pricedRows rows) =
      ((rows.filterMap comparableCosts).map fun costs => costs.2.totalBeforeParity).sum :=
    totalOf_pricedRows fun row _ costs hcosts => by
      simp [azureTotal, (comparableCosts_eq_some.mp hcosts).2]
  have hafter : totalOf azureAfterParity (pricedRows rows) =
      totalOf azureTotal (pricedRows rows) * (1 - input.settings.selectedParityAdjustment) := by
    rw [hazure, ← List.sum_map_mul_right]
    refine totalOf_pricedRows fun row hrow costs hcosts => ?_
    obtain ⟨savings, hsavings, hcalculate⟩ := (hrows row hrow).savings_of_costs hcosts
    simp [azureAfterParity, hsavings, (calculateSavings_eq hcalculate).1]
  have hdifference : totalOf rowDifference (pricedRows rows) =
      totalOf azureTotal (pricedRows rows) * (1 - input.settings.selectedParityAdjustment) -
        totalOf sourceTotal (pricedRows rows) := by
    rw [hazure, hsource, ← List.sum_map_mul_right, ← sum_map_sub]
    refine totalOf_pricedRows fun row hrow costs hcosts => ?_
    obtain ⟨savings, hsavings, hcalculate⟩ := (hrows row hrow).savings_of_costs hcosts
    simp [rowDifference, hsavings, (calculateSavings_eq hcalculate).2]
  rw [← hsource, ← hazure] at hrequired
  constructor
  · exact {
      mappedSource := hsource.symm
      mappedAzure := hazure.symm
      afterParity := by rw [hafter, hazure]
      difference := by rw [hdifference, hazure, hsource]
      comparableCount := length_pricedRows.symm
      noMappingCount := length_filter_eq_countP fun row => by simp
      priceUnavailableCount := length_filter_eq_countP fun row => by simp [isPriceUnavailable]
      adjusted := by
        rw [← hsource, ← hazure]
        exact requiredAdjustment_eq hrequired }
  · constructor
    · intro hpriced
      exact if_pos (List.all_eq_true.mpr hpriced)
    · rintro ⟨row, hrow, hnone⟩
      refine if_neg fun hall => ?_
      have hsome := List.all_eq_true.mp hall row hrow
      simp [hnone] at hsome

/-! ### Licensing comparisons -/

/-- The totals of a project without rows are those of its analysis; the discount
it reports is never negative. -/
structure PortfolioOfAnalysis (analysis : SqlPaygAnalysis ℚ) (totals : PortfolioTotals ℚ) :
    Prop where
  allSource : totals.awsAllRowsTotal = some analysis.softwareAssuranceAnnualUsd
  mappedSource : totals.awsMappedRowsTotal = analysis.softwareAssuranceAnnualUsd
  mappedAzure : totals.azureMappedRowsTotal = analysis.paygGrossAnnualUsd
  afterParity : totals.portfolioAfterSelectedParity =
    totals.azureMappedRowsTotal * (1 - totals.selectedParityAdjustment)
  difference : totals.portfolioDifference =
    totals.portfolioAfterSelectedParity - totals.awsMappedRowsTotal
  counts : totals.comparableResourceCount = 1 ∧ totals.noMappingResourceCount = 0 ∧
    totals.priceUnavailableResourceCount = 0
  adjusted : totals.azureMappedRowsTotal ≠ 0 →
    totals.awsMappedRowsTotal ≤ totals.azureMappedRowsTotal →
    totals.azureMappedRowsTotal * (1 - totals.requiredPortfolioAdjustment) -
      totals.awsMappedRowsTotal = 0

/-- What an analysis says about the amounts of its input. -/
structure AnalysisOf (input : SqlPaygInput ℚ) (analysis : SqlPaygAnalysis ℚ) : Prop where
  source : analysis.softwareAssuranceAnnualUsd = input.softwareAssuranceAnnualUsd
  applied : analysis.appliedPaygDiscount = input.appliedPaygDiscount
  grossNonneg : 0 ≤ analysis.paygGrossAnnualUsd
  net : analysis.paygNetAnnualUsd =
    analysis.paygGrossAnnualUsd * (1 - analysis.appliedPaygDiscount)
  required : analysis.paygGrossAnnualUsd ≠ 0 → analysis.requiredPaygDiscount =
    Max.max (1 - analysis.softwareAssuranceAnnualUsd / analysis.paygGrossAnnualUsd) 0

theorem rawDiscount_eq {source gross raw : ℚ} (h : SqlPayg.rawDiscount source gross = .ok raw)
    (hgross : gross ≠ 0) : raw = 1 - source / gross := by
  unfold SqlPayg.rawDiscount at h
  simp only [value_eq, if_neg hgross, div_eq hgross, one_eq, sub_eq, ok_bind,
    Except.ok.injEq] at h
  exact h.symm

theorem sqlPayg_analysisOf {input : SqlPaygInput ℚ} :
    Ensures (SqlPayg.calculate input) (AnalysisOf input) := by
  unfold SqlPayg.calculate
  refine .ite (fun _ => .error _) fun _ => .ite (fun _ => .error _) fun _ =>
    .ite (fun _ => .error _) fun hhours => .ite (fun _ => .error _) fun _ => ?_
  simp only [value_eq, not_or, not_lt] at hhours
  simp only [mul_eq, add_eq, sub_eq, liftM_ok, ok_bind, one_eq, ofNat_eq]
  refine .bind fun raw hraw => .ok ⟨rfl, rfl, ?_, rfl, fun hgross => ?_⟩
  · have hhours := hhours.1
    simp only [SqlPayg.enterpriseRate, SqlPayg.standardRate, ofScaled_eq]
    positivity
  · simp only [max_eq, zero_eq, rawDiscount_eq (liftM_eq_ok.mp hraw) hgross]

theorem calculateSqlPayg_ofAnalysis {engine : CalculationEngine ℚ} :
    Ensures (calculateSqlPayg engine input) fun calculation =>
      ∃ analysis, calculation.sqlPaygAnalysis = some analysis ∧
        PortfolioOfAnalysis analysis calculation.portfolioTotals := by
  refine .bind fun settings _ => .bind fun analysis hanalysis => ?_
  obtain ⟨-, -, hnonneg, hnet, hrequired⟩ :=
    sqlPayg_analysisOf analysis (mapError_eq_ok.mp hanalysis)
  simp only [sub_eq, liftM_ok, ok_bind]
  refine .ok ⟨analysis, rfl, rfl, rfl, rfl, hnet, rfl, ⟨rfl, rfl, rfl⟩, fun hgross hle => ?_⟩
  have hratio : 0 ≤ 1 - analysis.softwareAssuranceAnnualUsd / analysis.paygGrossAnnualUsd :=
    sub_nonneg.mpr (div_le_one_of_le₀ hle hnonneg)
  dsimp only at hgross ⊢
  rw [hrequired hgross, max_eq_left hratio, sub_sub_cancel, mul_div_cancel₀ _ hgross, sub_self]

/-! ### Totals of calculations -/

/-- Where a project has rows its portfolio is theirs, and the source total of
all rows is left open as soon as one of them has no price; a licensing
comparison has no rows and its portfolio is its analysis. -/
theorem portfolio_totals_of_calculation {engine : CalculationEngine ℚ}
    {calculation : CalculationRevision ℚ} (h : calculate engine input = .ok calculation) :
    (input.settings.projectType ≠ .sqlPayg →
        PortfolioOfRows calculation.resourceResults calculation.portfolioTotals ∧
          AllRowsOfRows calculation.resourceResults calculation.portfolioTotals) ∧
      (input.settings.projectType = .sqlPayg → calculation.resourceResults = [] ∧
        ∃ analysis, calculation.sqlPaygAnalysis = some analysis ∧
          PortfolioOfAnalysis analysis calculation.portfolioTotals) := by
  constructor
  · intro hrows
    exact calculatePortfolio_of_rows (calculate_rowOf h) (calculate_eq_ok hrows h).2
  · intro hsqlPayg
    obtain ⟨_, -, h⟩ := bind_eq_ok.mp h
    rw [if_pos hsqlPayg] at h
    exact ⟨calculateSqlPayg_resourceResults calculation h,
      calculateSqlPayg_ofAnalysis calculation h⟩

/-! ### A project with a row that lacks a price, and one without rows -/

def exampleAzureSnapshot : AzurePriceSnapshot ℚ where
  metadata := PriceSnapshot.metadataOf .azure "azure-" digest exampleMetadata
  targetRegion := "eastus"
  miRates := PurchaseOption.all.map fun purchaseOption => {
    stableKey := "mi-4|" ++ ResourceJson.purchaseOption purchaseOption
    configurationKey := "mi-4"
    purchaseOption := purchaseOption
    rate := ⟨806 / 1000, 400 / 1000, 115 / 1000, 0⟩
    provenance := ⟨"azure-retail-prices", none, none, []⟩ }
  vmRates := []
  managedDiskRates := []

def unpricedResource : Resource ℚ := .ec2 {
  shared := ⟨⟨3⟩, "archive", none, 1, 8, 8760⟩
  sql := ⟨.standard, .byol, 100, .payg⟩
  instanceType := "m9.large"
  volumes := [⟨⟨4⟩, "data", none, .gp3, 100, some 3000, none⟩] }

def mixedInput : CalculationInput ℚ :=
  ⟨exampleSettings, [exampleResource, unpricedResource], some exampleAwsSnapshot,
    some exampleAzureSnapshot, none⟩

def licensingInput : CalculationInput ℚ where
  settings := { exampleSettings with
    projectType := .sqlPayg
    awsRegion := none
    sqlPayg := some ⟨8, 4, 10000⟩ }
  resources := []
  awsSnapshot := none
  azureSnapshot := none
  expectedFormulaVersion := none

theorem portfolio_totals_of_mixed_rows :
    ∃ calculation, calculate exampleEngine mixedInput = .ok calculation ∧
      calculation.portfolioTotals.comparableResourceCount = 1 ∧
      PortfolioOfRows calculation.resourceResults calculation.portfolioTotals ∧
      AllRowsOfRows calculation.resourceResults calculation.portfolioTotals := by
  have hreturns : (calculate exampleEngine mixedInput).toOption.any
      (fun calculation => calculation.portfolioTotals.comparableResourceCount = 1) = true := by
    decide +kernel
  obtain ⟨calculation, hcalculation, hcount⟩ := exists_ok_of_any hreturns
  exact ⟨calculation, hcalculation, of_decide_eq_true hcount,
    (portfolio_totals_of_calculation hcalculation).1 (by decide)⟩

/-- A licensing comparison has totals without rows, and a row without a price
leaves the source total of all rows open. -/
theorem totals_without_rows :
    (∃ calculation, calculate exampleEngine licensingInput = .ok calculation ∧
        ¬ PortfolioOfRows calculation.resourceResults calculation.portfolioTotals) ∧
      ∃ calculation, calculate exampleEngine mixedInput = .ok calculation ∧
        calculation.portfolioTotals.awsAllRowsTotal ≠
          some (totalOf sourceTotal calculation.resourceResults) := by
  constructor
  · have hreturns : (calculate exampleEngine licensingInput).toOption.any
        (fun calculation => calculation.resourceResults = [] ∧
          calculation.portfolioTotals.awsMappedRowsTotal = 10000) = true := by decide +kernel
    obtain ⟨calculation, hcalculation, htotals⟩ := exists_ok_of_any hreturns
    obtain ⟨hrows, htotal⟩ := of_decide_eq_true htotals
    refine ⟨calculation, hcalculation, fun hportfolio => ?_⟩
    have hmapped := hportfolio.mappedSource
    rw [hrows, htotal] at hmapped
    simp [totalOf, pricedRows] at hmapped
  · have hreturns : (calculate exampleEngine mixedInput).toOption.any
        (fun calculation => calculation.portfolioTotals.awsAllRowsTotal = none) = true := by
      decide +kernel
    obtain ⟨calculation, hcalculation, hnone⟩ := exists_ok_of_any hreturns
    refine ⟨calculation, hcalculation, ?_⟩
    rw [of_decide_eq_true hnone]
    simp

end TcoCalculator.Workflow
