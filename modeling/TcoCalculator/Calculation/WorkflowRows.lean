/-
What the fields of a row say about each other, whichever way the row was made.
-/
import TcoCalculator.Calculation.WorkflowTotality
import TcoCalculator.Library.KeyedGroups
import TcoCalculator.Pricing.Repository

namespace TcoCalculator

open DecimalArith Fallible Halt

namespace Workflow

variable {D : Type} {input : CalculationInput D} {source : ResolvedSource D}
  {target : ResolvedTarget D} {row : ResourceCalculation D}

/-! ### What a side says -/

/-- A source without costs says so, and one with costs has the status of the
snapshot they come from. -/
structure SourceOf (input : CalculationInput D) (source : ResolvedSource D) : Prop where
  unpriced : source.costs = none →
    source.pricingStatus = .unavailable ∧ source.unresolvedComponents ≠ []
  priced : source.costs.isSome = true → source.pricingStatus = .notRequired ∨
    ∃ snapshot, input.awsSnapshot = some snapshot ∧
      source.pricingStatus = pricingStatus snapshot.metadata.status

theorem sourceOf_unavailable (provider : Provider) (code : String) :
    SourceOf input (unavailableSource provider code) where
  unpriced _ := by simp [unavailableSource]
  priced h := by simp [unavailableSource] at h

theorem SourceOf.withSteps (h : SourceOf input source) (steps : List ExplanationStep) :
    SourceOf input (withSteps source steps) := ⟨h.unpriced, h.priced⟩

theorem SourceOf.withUnresolved (h : SourceOf input source)
    (components : List UnresolvedComponent) :
    SourceOf input (withUnresolved source components) where
  unpriced hnone := ⟨(h.unpriced hnone).1, by simp [Workflow.withUnresolved, h.unpriced hnone]⟩
  priced := h.priced

theorem sourceOf_priced {snapshot : AwsPriceSnapshot D} (h : input.awsSnapshot = some snapshot)
    (provenance : RateProvenance) (sourceVcpu : UInt32) (sourceMaxIops : Option UInt64)
    (costs : Except CostError (SourceCostBreakdown D)) :
    SourceOf input (pricedSource snapshot provenance sourceVcpu sourceMaxIops costs) := by
  cases costs with
  | ok costs => exact ⟨nofun, fun _ => .inr ⟨snapshot, h, rfl⟩⟩
  | error failure => exact ⟨fun _ => ⟨rfl, List.cons_ne_nil _ _⟩, nofun⟩

/-- A target without costs says why, and one with costs has the status of the
snapshot they come from. -/
structure TargetOf (input : CalculationInput D) (target : ResolvedTarget D) : Prop where
  unpriced : target.costs = none → target.unresolvedComponents ≠ []
  priced : target.costs.isSome = true → ∃ snapshot, input.azureSnapshot = some snapshot ∧
    target.pricingStatus = pricingStatus snapshot.metadata.status

theorem targetOf_unpriced (component : UnresolvedComponent) :
    TargetOf input (unpricedTarget component) where
  unpriced _ := by simp [unpricedTarget]
  priced h := by simp [unpricedTarget] at h

variable [DecimalArith D]

/-! ### Sources -/

theorem resolveEc2Source_sourceOf (resource : Ec2Resource D) :
    Ensures (resolveEc2Source resource input) (SourceOf input) := by
  unfold resolveEc2Source
  split
  · exact .ok (sourceOf_unavailable _ _)
  · rename_i snapshot hsnapshot
    split
    · exact .ok (sourceOf_unavailable _ _)
    · apply Ensures.bind
      intro maximumIops _
      cases maximumIops with
      | error failure => exact .ok (sourceOf_priced hsnapshot _ _ _ _)
      | ok maximumIops => exact .bind fun costs _ => .ok (sourceOf_priced hsnapshot _ _ _ _)

theorem resolveRdsSource_sourceOf (resource : RdsResource D) :
    Ensures (resolveRdsSource resource input) (SourceOf input) := by
  unfold resolveRdsSource
  split
  · exact .ok (sourceOf_unavailable _ _)
  · rename_i snapshot hsnapshot
    split
    · exact .ok (sourceOf_unavailable _ _)
    · exact .bind fun costs _ => .ok (sourceOf_priced hsnapshot _ _ _ _)

theorem resolveEc2VmSource_sourceOf (resource : Ec2VmResource D) :
    Ensures (resolveEc2VmSource resource input) (SourceOf input) := by
  unfold resolveEc2VmSource
  split
  · exact .ok (sourceOf_unavailable _ _)
  · rename_i snapshot hsnapshot
    split
    · exact .ok (sourceOf_unavailable _ _)
    · exact .bind fun costs _ => .ok (sourceOf_priced hsnapshot _ _ _ _)

theorem resolveOnPremSource_sourceOf (resource : OnPremResource D) :
    Ensures (resolveOnPremSource resource input.settings) (SourceOf input) := by
  apply Ensures.bind
  intro result _
  exact .ok ⟨nofun, fun _ => .inl rfl⟩

/-! ### Targets -/

theorem resolveAzureCosts_targetOf (selected : SelectedTarget D) (resource : Resource D)
    (azureStorageGbPerInstance : D) :
    Ensures (resolveAzureCosts selected resource azureStorageGbPerInstance input)
      (TargetOf input) := by
  unfold resolveAzureCosts
  split
  · exact .ok (targetOf_unpriced _)
  · rename_i snapshot hsnapshot
    apply Ensures.ite
    · exact fun _ => .ok (targetOf_unpriced _)
    · intro _
      split
      · exact .ok (targetOf_unpriced _)
      · split
        · exact .ok (targetOf_unpriced _)
        · apply Ensures.bind
          intro result _
          cases result with
          | error failure => exact .ok (targetOf_unpriced _)
          | ok costs =>
              refine .bind fun discounts _ => .bind fun formulaStep _ => .ok ?_
              exact ⟨nofun, fun _ => ⟨snapshot, hsnapshot, rfl⟩⟩

theorem resolveAzureVmCosts_targetOf (selected : SelectedVmTarget D) (resource : Ec2VmResource D) :
    Ensures (resolveAzureVmCosts selected resource input) (TargetOf input) := by
  unfold resolveAzureVmCosts
  split
  · exact .ok (targetOf_unpriced _)
  · rename_i snapshot hsnapshot
    split
    · exact .ok (targetOf_unpriced _)
    · apply Ensures.bind
      intro disks _
      cases disks with
      | error failure => exact .ok (targetOf_unpriced _)
      | ok disks =>
          apply Ensures.bind
          intro result _
          cases result with
          | error failure => exact .ok (targetOf_unpriced _)
          | ok costs => exact .ok ⟨nofun, fun _ => ⟨snapshot, hsnapshot, rfl⟩⟩

/-! ### Rows -/

/-- Where the fields of a row come from. -/
structure RowOf (input : CalculationInput D) (row : ResourceCalculation D) : Prop where
  savings : ∃ steps, rowSavings row.sourceCosts row.azureCosts
    input.settings.selectedParityAdjustment = .ok (row.savings, steps)
  unpricedSource : row.sourceCosts = none →
    row.awsPricingStatus = .unavailable ∧ row.unresolvedComponents ≠ []
  pricedSource : row.sourceCosts.isSome = true → row.awsPricingStatus = .notRequired ∨
    ∃ snapshot, input.awsSnapshot = some snapshot ∧
      row.awsPricingStatus = pricingStatus snapshot.metadata.status
  unpricedTarget : row.azureCosts = none → row.azurePricingStatus = .unavailable →
    row.unresolvedComponents ≠ []
  pricedTarget : row.azureCosts.isSome = true → row.mappingStatus = some .mapped ∧
    ∃ snapshot, input.azureSnapshot = some snapshot ∧
      row.azurePricingStatus = pricingStatus snapshot.metadata.status

theorem RowOf.withTargetSelection (h : RowOf input row) (selection : Option (TargetSelection D)) :
    RowOf input { row with targetSelection := selection } :=
  ⟨h.savings, h.unpricedSource, h.pricedSource, h.unpricedTarget, h.pricedTarget⟩

theorem RowOf.withVmSelection (h : RowOf input row) (selection : Option (VmTargetSelection D))
    (pricing : Option (List (VmPurchaseOptionPricing D))) :
    RowOf input { row with vmTargetSelection := selection, vmPurchaseOptionPricing := pricing } :=
  ⟨h.savings, h.unpricedSource, h.pricedSource, h.unpricedTarget, h.pricedTarget⟩

theorem rowOf_source (h : SourceOf input source) (resourceId : Uuid) (storage : StorageInputs D)
    (mappingStatus : Option MappingStatus) {azurePricingStatus : PricingStatus}
    (hazure : azurePricingStatus = .unavailable → source.unresolvedComponents ≠ []) :
    RowOf input (sourceRow resourceId storage mappingStatus azurePricingStatus source) where
  savings := ⟨[], by simp [sourceRow, rowSavings]⟩
  unpricedSource := h.unpriced
  pricedSource := h.priced
  unpricedTarget _ := hazure
  pricedTarget h := by simp [sourceRow] at h

theorem rowOf_mapped (hsource : SourceOf input source) (htarget : TargetOf input target)
    (resourceId : Uuid) (storage : StorageInputs D) :
    Ensures (mappedRow resourceId storage source target input.settings.selectedParityAdjustment)
      (RowOf input) := by
  apply Ensures.bind
  rintro ⟨savings, steps⟩ hsavings
  refine .ok ⟨⟨steps, hsavings⟩, fun hnone => ?_, hsource.priced, fun hnone _ => ?_,
    fun hsome => ⟨rfl, htarget.priced hsome⟩⟩
  · exact ⟨(hsource.unpriced hnone).1, List.append_ne_nil_of_left_ne_nil (hsource.unpriced hnone).2 _⟩
  · exact List.append_ne_nil_of_right_ne_nil _ (htarget.unpriced hnone)

/-- A row that needs no Azure price. -/
theorem rowOf_notRequired (h : SourceOf input source) (resourceId : Uuid)
    (storage : StorageInputs D) (mappingStatus : Option MappingStatus) :
    RowOf input (sourceRow resourceId storage mappingStatus .notRequired source) :=
  rowOf_source h resourceId storage mappingStatus nofun

/-- A row that lacks an Azure price for a reason of its own. -/
theorem rowOf_withUnresolved (h : SourceOf input source) (resourceId : Uuid)
    (storage : StorageInputs D) (mappingStatus : Option MappingStatus)
    (component : UnresolvedComponent) :
    RowOf input (sourceRow resourceId storage mappingStatus .unavailable
      (withUnresolved source [component])) :=
  rowOf_source (h.withUnresolved _) resourceId storage mappingStatus
    fun _ => List.append_ne_nil_of_right_ne_nil _ (List.cons_ne_nil _ _)

theorem calculateSqlRow_rowOf (engine : CalculationEngine D) (resource : Resource D)
    (storage : StorageInputs D) (h : SourceOf input source) :
    Ensures (calculateSqlRow engine resource source storage input) (RowOf input) := by
  unfold calculateSqlRow
  split
  · exact .ok (rowOf_withUnresolved h _ _ _ _)
  · refine .bind fun selection _ => .bind fun inputStep _ => .bind fun formulaStep _ => ?_
    apply Ensures.ite
    · exact fun _ => .ok ((rowOf_notRequired (h.withSteps _) _ _ _).withTargetSelection _)
    · intro _
      refine .bind fun selected _ => .bind fun target htarget => .bind fun row hrow => .ok ?_
      have hresolved : TargetOf input target :=
        resolveAzureCosts_targetOf selected resource _ target (liftM_eq_ok.mp htarget)
      have hmapped : RowOf input row :=
        rowOf_mapped (h.withSteps _) hresolved _ _ row (liftM_eq_ok.mp hrow)
      exact hmapped.withTargetSelection _

theorem mappedVmRow_rowOf (resource : Ec2VmResource D) (storage : StorageInputs D)
    (selection : VmTargetSelection D) (selected : SelectedVmTarget D)
    (h : SourceOf input source) :
    Ensures (mappedVmRow resource storage source selection selected input) (RowOf input) := by
  refine .bind fun pricing _ => .bind fun diskCapacity _ => .bind fun target htarget => ?_
  refine .bind fun row hrow => .ok ?_
  exact (rowOf_mapped h (resolveAzureVmCosts_targetOf selected resource target htarget) _ _ row
    hrow).withVmSelection _ _

theorem unmappedVmRow_rowOf (resourceId : Uuid) (storage : StorageInputs D)
    (selection : VmTargetSelection D) (h : SourceOf input source) :
    RowOf input (unmappedVmRow resourceId storage source selection) := by
  unfold unmappedVmRow
  split
  · exact (rowOf_withUnresolved h _ _ _ _).withVmSelection _ _
  · exact (rowOf_notRequired h _ _ _).withVmSelection _ _

theorem selectVmRow_rowOf (engine : CalculationEngine D) (resource : Ec2VmResource D)
    (storage : StorageInputs D) (sourceVcpu : UInt32) (policy : VmSourcePolicy)
    (h : SourceOf input source) :
    Ensures (selectVmRow engine resource source storage sourceVcpu policy input)
      (RowOf input) := by
  apply Ensures.bind
  intro selection _
  apply Ensures.ite
  · exact fun _ => .ok (unmappedVmRow_rowOf _ _ _ h)
  · intro _
    refine .bind fun selected _ => fun row hrow => ?_
    exact mappedVmRow_rowOf resource storage _ selected h row (liftM_eq_ok.mp hrow)

theorem calculateEc2VmResource_rowOf (engine : CalculationEngine D) (resource : Ec2VmResource D)
    (storage : StorageInputs D) :
    Ensures (calculateEc2VmResource engine resource storage input) (RowOf input) := by
  apply Ensures.bind
  intro source hsource
  have h : SourceOf input source := resolveEc2VmSource_sourceOf resource source
    (liftM_eq_ok.mp hsource)
  dsimp only
  split
  · exact .ok (rowOf_withUnresolved (h.withSteps _) _ _ _ _)
  · split
    · exact .ok (rowOf_notRequired ((h.withSteps _).withUnresolved _) _ _ _)
    · refine .bind fun inputStep _ => .bind fun formulaStep _ => ?_
      split
      · exact .ok ((rowOf_notRequired ((h.withSteps _).withSteps _) _ _ _).withVmSelection _ _)
      · apply Ensures.ite
        · exact fun _ => .ok
            ((rowOf_notRequired ((h.withSteps _).withSteps _) _ _ _).withVmSelection _ _)
        · exact fun _ => selectVmRow_rowOf engine resource storage _ _
            ((h.withSteps _).withSteps _)

theorem calculateResource_rowOf (engine : CalculationEngine D) (resource : Resource D) :
    Ensures (calculateResource engine input resource) (RowOf input) := by
  apply Ensures.bind
  intro storage _
  cases resource with
  | ec2Vm resource => exact calculateEc2VmResource_rowOf engine resource storage
  | ec2 resource =>
      refine .bind fun source hsource => calculateSqlRow_rowOf engine _ storage ?_
      exact resolveEc2Source_sourceOf resource source (liftM_eq_ok.mp hsource)
  | rds resource =>
      refine .bind fun source hsource => calculateSqlRow_rowOf engine _ storage ?_
      exact resolveRdsSource_sourceOf resource source (liftM_eq_ok.mp hsource)
  | onPrem resource =>
      refine .bind fun source hsource => calculateSqlRow_rowOf engine _ storage ?_
      exact resolveOnPremSource_sourceOf resource source (mapError_eq_ok.mp hsource)

/-! ### Coherent rows -/

/-- A snapshot that may price anything is not an unavailable one. -/
structure UsableSnapshots (input : CalculationInput D) : Prop where
  aws : ∀ snapshot, input.awsSnapshot = some snapshot →
    snapshot.metadata.status ≠ .unavailable
  azure : ∀ snapshot, input.azureSnapshot = some snapshot →
    snapshot.metadata.status ≠ .unavailable

/-- The fields of a row that tell what it lacks agree. -/
structure CoherentRow (row : ResourceCalculation D) : Prop where
  savings : row.savings.isSome = true ↔
    row.sourceCosts.isSome = true ∧ row.azureCosts.isSome = true
  azureCosts : row.azureCosts.isSome = true → row.mappingStatus = some .mapped ∧
    (row.azurePricingStatus = .fresh ∨ row.azurePricingStatus = .cached ∨
      row.azurePricingStatus = .stale)
  noMapping : row.mappingStatus = some .noMapping → row.azureCosts = none
  sourceCosts : row.sourceCosts = none ↔ row.awsPricingStatus = .unavailable
  unavailable : row.awsPricingStatus = .unavailable ∨ row.azurePricingStatus = .unavailable →
    row.unresolvedComponents ≠ []

theorem pricingStatus_usable {status : ResolutionStatus} (h : status ≠ .unavailable) :
    pricingStatus status = .fresh ∨ pricingStatus status = .cached ∨
      pricingStatus status = .stale := by
  cases status <;> simp_all [pricingStatus]

theorem rowSavings_isSome {sourceCosts : Option (SourceCostBreakdown D)}
    {azureCosts : Option (AzureCostBreakdown D)} {adjustment : D}
    {savings : Option (SavingsBreakdown D)} {steps : List ExplanationStep}
    (h : rowSavings sourceCosts azureCosts adjustment = .ok (savings, steps)) :
    savings.isSome = true ↔ sourceCosts.isSome = true ∧ azureCosts.isSome = true := by
  unfold rowSavings at h
  split at h
  · obtain ⟨_, -, hpair⟩ := bind_eq_ok.mp h
    cases hpair
    simp
  · rename_i hnone
    cases h
    rcases sourceCosts with _ | source
    · simp
    · rcases azureCosts with _ | azure
      · simp
      · exact absurd rfl (hnone source azure rfl)

theorem RowOf.sourceCosts_eq_none (h : RowOf input row) (husable : UsableSnapshots input)
    (hstatus : row.awsPricingStatus = .unavailable) : row.sourceCosts = none := by
  by_contra hsome
  rcases h.pricedSource (Option.isSome_iff_ne_none.mpr hsome) with
    hnotRequired | ⟨snapshot, hsnapshot, hpriced⟩
  · simp [hstatus] at hnotRequired
  · have husable := pricingStatus_usable (husable.aws snapshot hsnapshot)
    simp [← hpriced, hstatus] at husable

theorem RowOf.azureCosts_eq_none (h : RowOf input row) (husable : UsableSnapshots input)
    (hstatus : row.azurePricingStatus = .unavailable) : row.azureCosts = none := by
  by_contra hsome
  obtain ⟨-, snapshot, hsnapshot, hpriced⟩ := h.pricedTarget (Option.isSome_iff_ne_none.mpr hsome)
  have husable := pricingStatus_usable (husable.azure snapshot hsnapshot)
  simp [← hpriced, hstatus] at husable

theorem RowOf.coherent (h : RowOf input row) (husable : UsableSnapshots input) :
    CoherentRow row where
  savings := by
    obtain ⟨steps, hsavings⟩ := h.savings
    exact rowSavings_isSome hsavings
  azureCosts hsome := by
    obtain ⟨hmapped, snapshot, hsnapshot, hstatus⟩ := h.pricedTarget hsome
    rw [hstatus]
    exact ⟨hmapped, pricingStatus_usable (husable.azure snapshot hsnapshot)⟩
  noMapping hnoMapping := by
    by_contra hsome
    have hmapped := (h.pricedTarget (Option.isSome_iff_ne_none.mpr hsome)).1
    simp [hmapped] at hnoMapping
  sourceCosts := ⟨fun hnone => (h.unpricedSource hnone).1, h.sourceCosts_eq_none husable⟩
  unavailable := by
    rintro (haws | hazure)
    · exact (h.unpricedSource (h.sourceCosts_eq_none husable haws)).2
    · exact h.unpricedTarget (h.azureCosts_eq_none husable hazure) hazure

/-! ### Snapshots in use -/

theorem validateCreationMetadata_usable {metadata : SnapshotCreationMetadata} {scope : String}
    (h : PriceSnapshot.validateCreationMetadata metadata scope = .ok ()) :
    metadata.status ≠ .unavailable := by
  unfold PriceSnapshot.validateCreationMetadata at h
  grind

/-- A snapshot of either provider comes from its constructor with a usable status. -/
theorem create_usable {sha256 : String → String} {metadata : SnapshotCreationMetadata}
    {sourceRegion : String} {ec2Rates : List (AwsEc2RateRecord D)}
    {rdsRates : List (AwsRdsRateRecord D)} {ebsRates : List (AwsEbsRateRecord D)}
    {snapshot : AwsPriceSnapshot D} (h : AwsPriceSnapshot.create sha256 metadata sourceRegion
      ec2Rates rdsRates ebsRates = .ok snapshot) : snapshot.metadata.status ≠ .unavailable := by
  obtain ⟨_, hmetadata, h⟩ := bind_eq_ok.mp h
  obtain ⟨_, -, h⟩ := bind_eq_ok.mp h
  obtain ⟨_, -, h⟩ := bind_eq_ok.mp h
  obtain ⟨_, -, h⟩ := bind_eq_ok.mp h
  cases h
  exact validateCreationMetadata_usable hmetadata

theorem createWithVmRates_usable {sha256 : String → String} {metadata : SnapshotCreationMetadata}
    {targetRegion : String} {miRates : List (AzureMiRateRecord D)}
    {vmRates : List (AzureVmRateRecord D)}
    {managedDiskRates : List (AzureManagedDiskRateRecord D)} {snapshot : AzurePriceSnapshot D}
    (h : AzurePriceSnapshot.createWithVmRates sha256 metadata targetRegion miRates vmRates
      managedDiskRates = .ok snapshot) : snapshot.metadata.status ≠ .unavailable := by
  obtain ⟨_, hmetadata, h⟩ := bind_eq_ok.mp h
  obtain ⟨_, -, h⟩ := bind_eq_ok.mp h
  obtain ⟨_, -, h⟩ := bind_eq_ok.mp h
  obtain ⟨_, -, h⟩ := bind_eq_ok.mp h
  obtain ⟨_, -, h⟩ := bind_eq_ok.mp h
  cases h
  exact validateCreationMetadata_usable (checked_eq_ok.mp hmetadata)

/-- A kept snapshot is handed out with a usable status. -/
theorem effectiveStatus_usable {metadata : SnapshotMetadata} {now : Rfc3339.UtcDateTime}
    {status : ResolutionStatus}
    (h : SnapshotRepository.effectiveStatus metadata now = some status) :
    status ≠ .unavailable := by
  unfold SnapshotRepository.effectiveStatus at h
  grind

/-! ### The rows of a calculation -/

/-- A calculation without licensing analysis is its rows, each from its
resource, and their totals. -/
theorem calculate_eq_ok {engine : CalculationEngine D} {calculation : CalculationRevision D}
    (hsqlPayg : input.settings.projectType ≠ .sqlPayg)
    (h : calculate engine input = .ok calculation) :
    input.resources.mapM (calculateResource engine input) = .ok calculation.resourceResults ∧
      calculatePortfolio calculation.resourceResults input.settings.selectedParityAdjustment =
        .ok calculation.portfolioTotals := by
  obtain ⟨_, -, h⟩ := bind_eq_ok.mp h
  rw [if_neg hsqlPayg] at h
  obtain ⟨rows, hrows, h⟩ := bind_eq_ok.mp h
  obtain ⟨totals, htotals, h⟩ := bind_eq_ok.mp h
  cases h
  exact ⟨hrows, liftM_eq_ok.mp htotals⟩

theorem calculateSqlPayg_resourceResults {engine : CalculationEngine D} :
    Ensures (calculateSqlPayg engine input) fun calculation => calculation.resourceResults = [] :=
  .bind fun _ _ => .bind fun _ _ => .bind fun _ _ => .ok rfl

theorem calculate_rowOf {engine : CalculationEngine D} {calculation : CalculationRevision D}
    (h : calculate engine input = .ok calculation) :
    ∀ row ∈ calculation.resourceResults, RowOf input row := by
  by_cases hsqlPayg : input.settings.projectType = .sqlPayg
  · obtain ⟨_, -, h⟩ := bind_eq_ok.mp h
    rw [if_pos hsqlPayg] at h
    simp [calculateSqlPayg_resourceResults calculation h]
  · intro row hrow
    obtain ⟨resource, -, hresource⟩ := KeyedGroups.exists_mem_of_forall₂
      (mapM_eq_ok.mp (calculate_eq_ok hsqlPayg h).1) hrow
    exact calculateResource_rowOf engine resource row hresource

/-- Whichever way a row was made, its fields agree on what it lacks. -/
theorem rows_coherent {engine : CalculationEngine D} {calculation : CalculationRevision D}
    (husable : UsableSnapshots input) (h : calculate engine input = .ok calculation) :
    ∀ row ∈ calculation.resourceResults, CoherentRow row :=
  fun row hrow => (calculate_rowOf h row hrow).coherent husable

theorem rows_coherent_example :
    ∃ calculation, calculate exampleEngine exampleInput = .ok calculation ∧
      calculation.resourceResults ≠ [] ∧
      ∀ row ∈ calculation.resourceResults, CoherentRow row := by
  have hreturns : (calculate exampleEngine exampleInput).toOption.any
      (fun calculation => !calculation.resourceResults.isEmpty) = true := by decide +kernel
  obtain ⟨calculation, hcalculation, hrows⟩ := exists_ok_of_any hreturns
  have husable : UsableSnapshots exampleInput := by
    constructor
    · rintro snapshot ⟨⟩
      decide
    · intro snapshot hnone
      simp [exampleInput] at hnone
  exact ⟨calculation, hcalculation, by simpa using hrows, rows_coherent husable hcalculation⟩

end Workflow

end TcoCalculator
