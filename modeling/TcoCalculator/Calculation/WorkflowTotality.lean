/-
In exact arithmetic the engine returns on every input that passes validation:
each division and each inner refusal is out of reach.
-/
import TcoCalculator.Calculation.CostTotality
import TcoCalculator.Calculation.Workflow
import TcoCalculator.Domain.ProjectAdmission

namespace TcoCalculator

open DecimalArith ExactDecimal Fallible Halt ProjectValidation

/-! ### Snapshots -/

section Snapshots

variable {D : Type} [DecimalArith D] {sha256 : String → String}

/-- The snapshot came out of the constructor. -/
def AwsPriceSnapshot.Built (sha256 : String → String) (snapshot : AwsPriceSnapshot D) : Prop :=
  ∃ metadata sourceRegion ec2Rates rdsRates ebsRates,
    AwsPriceSnapshot.create sha256 metadata sourceRegion ec2Rates rdsRates ebsRates = .ok snapshot

/-- The rates of a built snapshot have passed the rate checks. -/
theorem AwsPriceSnapshot.Built.validRates {snapshot : AwsPriceSnapshot D}
    (h : snapshot.Built sha256) :
    (∀ record ∈ snapshot.ec2Rates, PriceSnapshot.validEc2Record record = true) ∧
      (∀ record ∈ snapshot.rdsRates, PriceSnapshot.validRdsRecord record = true) ∧
      ∀ record ∈ snapshot.ebsRates, PriceSnapshot.validEbsRate record.rate = true := by
  obtain ⟨metadata, sourceRegion, ec2Rates, rdsRates, ebsRates, hcreate⟩ := h
  unfold AwsPriceSnapshot.create at hcreate
  obtain ⟨_, _, hcreate⟩ := bind_eq_ok.mp hcreate
  obtain ⟨_, _, hcreate⟩ := bind_eq_ok.mp hcreate
  obtain ⟨_, _, hcreate⟩ := bind_eq_ok.mp hcreate
  obtain ⟨_, hrates, hcreate⟩ := bind_eq_ok.mp hcreate
  cases hcreate
  unfold PriceSnapshot.validateAwsRates at hrates
  split at hrates
  · rename_i hvalid
    simp only [Bool.and_eq_true, List.all_eq_true] at hvalid
    exact ⟨hvalid.1.1, hvalid.1.2, hvalid.2⟩
  · cases hrates

theorem AwsPriceSnapshot.Built.ec2Vcpu {snapshot : AwsPriceSnapshot D}
    (h : snapshot.Built sha256) {instanceType : String} {record : AwsEc2RateRecord D}
    (hrecord : snapshot.ec2Rate instanceType = some record) : record.rate.sourceVcpu ≠ 0 := by
  have hvalid := h.validRates.1 record (List.mem_of_find?_eq_some hrecord)
  simp only [PriceSnapshot.validEc2Record, Bool.and_eq_true, decide_eq_true_eq] at hvalid
  exact hvalid.1.1.1.1.2

theorem AwsPriceSnapshot.Built.rdsVcpu {snapshot : AwsPriceSnapshot D}
    (h : snapshot.Built sha256) {instanceType commercialTerm storageClass : String}
    {deployment : RdsDeployment} {record : AwsRdsRateRecord D}
    (hrecord : snapshot.rdsRate instanceType deployment commercialTerm storageClass =
      some record) : record.rate.sourceVcpu ≠ 0 := by
  have hvalid := h.validRates.2.1 record (List.mem_of_find?_eq_some hrecord)
  simp only [PriceSnapshot.validRdsRecord, Bool.and_eq_true, decide_eq_true_eq] at hvalid
  exact hvalid.1.1.1.1.1.2

end Snapshots

/-! ### Explanations -/

namespace Explanation

theorem divideOrZero_returns (numerator denominator : ℚ) :
    Returns (divideOrZero numerator denominator) :=
  Returns.ite (fun _ => .ok _) (fun h => Cost.div_returns numerator h)

theorem sourceInputStep_returns (sourceVcpu : UInt32) (sourceMaxIops : UInt64)
    (shared : SharedResource ℚ) (storage : StorageInputs ℚ) :
    Returns (sourceInputStep sourceVcpu sourceMaxIops shared storage) :=
  Returns.bind (Cost.add_returns _ _) fun _ _ => .ok _

theorem vmSourceInputStep_returns (resource : Ec2VmResource ℚ) (sourceVcpu : UInt32)
    (sourceClass : SourceClass) (volumes : List (VmVolumeRequirement ℚ)) :
    Returns (vmSourceInputStep resource sourceVcpu sourceClass volumes) :=
  Returns.bind (VmTargetSelector.sum_returns _) fun _ _ => .ok _

theorem vmSourceCostFormulaStep_returns (resource : Ec2VmResource ℚ)
    (settings : ProjectSettings ℚ) (costs : SourceCostBreakdown ℚ) :
    Returns (vmSourceCostFormulaStep resource settings costs) := by
  apply Returns.bind (Cost.mul_returns _ _)
  intro _ _
  apply Returns.bind (divideOrZero_returns _ _)
  intro _ _
  exact .ok _

theorem ec2SourceCostValues_returns (quantity hours : ℚ) (costs : SourceCostBreakdown ℚ) :
    Returns (ec2SourceCostValues quantity hours costs) := by
  apply Returns.bind (Cost.mul_returns _ _)
  intro _ _
  apply Returns.bind (divideOrZero_returns _ _)
  intro _ _
  apply Returns.bind (Cost.mul_returns _ _)
  intro _ _
  apply Returns.bind (divideOrZero_returns _ _)
  intro _ _
  exact .ok _

theorem rdsSourceCostValues_returns (resource : RdsResource ℚ) (sourceVcpu : UInt32)
    (quantity hours : ℚ) (costs : SourceCostBreakdown ℚ) :
    Returns (rdsSourceCostValues resource sourceVcpu quantity hours costs) := by
  apply Returns.bind (Cost.mul3_returns _ _ _)
  intro _ _
  apply Returns.bind (divideOrZero_returns _ _)
  intro _ _
  apply Returns.bind (Cost.mul3_returns _ _ _)
  intro _ _
  apply Returns.bind (divideOrZero_returns _ _)
  intro _ _
  exact .ok _

theorem ownSourceCostValues_returns (resource : Resource ℚ) (sourceVcpu : UInt32)
    (quantity hours : ℚ) (costs : SourceCostBreakdown ℚ) :
    Returns (ownSourceCostValues resource sourceVcpu quantity hours costs) := by
  cases resource with
  | ec2 resource => exact (ec2SourceCostValues_returns quantity hours costs).map _
  | rds resource =>
      exact (rdsSourceCostValues_returns resource sourceVcpu quantity hours costs).map _
  | ec2Vm resource => exact .ok none
  | onPrem resource => exact .ok none

theorem sourceCostFormulaStep_returns (resource : Resource ℚ) (sourceVcpu : UInt32)
    (settings : ProjectSettings ℚ) (costs : SourceCostBreakdown ℚ) :
    Returns (sourceCostFormulaStep resource sourceVcpu settings costs) := by
  apply Returns.bind (Cost.mul_returns _ _)
  intro _ _
  apply Returns.bind (divideOrZero_returns _ _)
  intro _ _
  apply Returns.bind (ownSourceCostValues_returns _ _ _ _ _)
  intro _ _
  exact .ok _

theorem azureCostFormulaStep_returns (selected : SelectedTarget ℚ) (shared : SharedResource ℚ)
    (azureStorageGb : ℚ) (rate : AzureRate ℚ) (settings : ProjectSettings ℚ)
    (costs : AzureCostBreakdown ℚ) :
    Returns (azureCostFormulaStep selected shared azureStorageGb rate settings costs) :=
  Returns.bind (Cost.azureMiBillableStorageGb_returns _) fun _ _ => .ok _

end Explanation

namespace Workflow

/-! ### Source side -/

/-- A source without sizing, or with at least one vCPU. -/
def SizedSource (source : ResolvedSource ℚ) : Prop :=
  ∀ vcpu, source.sourceVcpu = some vcpu → vcpu ≠ 0

/-- The source is resolved, and sized if at all. -/
def ResolvesSized {ε : Type} (x : Except ε (ResolvedSource ℚ)) : Prop :=
  ∃ source, x = .ok source ∧ SizedSource source

theorem resolvesSized_unavailable (provider : Provider) (code : String) :
    ResolvesSized (.ok (unavailableSource provider code) :
      Except ArithmeticFault (ResolvedSource ℚ)) :=
  ⟨_, rfl, fun _ h => nomatch h⟩

theorem sizedSource_pricedSource (snapshot : AwsPriceSnapshot ℚ) (provenance : RateProvenance)
    {sourceVcpu : UInt32} (h : sourceVcpu ≠ 0) (sourceMaxIops : Option UInt64)
    (costs : Except CostError (SourceCostBreakdown ℚ)) :
    SizedSource (pricedSource snapshot provenance sourceVcpu sourceMaxIops costs) := by
  rintro vcpu ⟨⟩
  exact h

/-- Attempting a calculation that does not panic resolves a sized source. -/
theorem resolvesSized_attempt {α : Type} {x : Except (Halt CostError) α} (hx : NoPanic x)
    {f : Except CostError α → Except ArithmeticFault (ResolvedSource ℚ)}
    (hf : ∀ result, ResolvesSized (f result)) : ResolvesSized (attempt x >>= f) := by
  obtain ⟨result, hresult⟩ := hx.attempt
  rw [hresult]
  exact hf result

variable {sha256 : String → String}

/-- The AWS snapshot of an input, if any, came out of the constructor. -/
def AwsBuilt (sha256 : String → String) (input : CalculationInput ℚ) : Prop :=
  ∀ snapshot, input.awsSnapshot = some snapshot → snapshot.Built sha256

theorem resolveEc2Source_sized (resource : Ec2Resource ℚ) {input : CalculationInput ℚ}
    (h : AwsBuilt sha256 input) : ResolvesSized (resolveEc2Source resource input) := by
  unfold resolveEc2Source
  cases hsnapshot : input.awsSnapshot with
  | none => exact resolvesSized_unavailable _ _
  | some snapshot =>
      dsimp only
      cases hrecord : snapshot.ec2Rate resource.instanceType with
      | none => exact resolvesSized_unavailable _ _
      | some record =>
          have hvcpu := (h snapshot hsnapshot).ec2Vcpu hrecord
          apply resolvesSized_attempt (Cost.sourceMaxIops_noPanic resource)
          intro result
          cases result with
          | error failure => exact ⟨_, rfl, sizedSource_pricedSource _ _ hvcpu _ _⟩
          | ok maximumIops =>
              apply resolvesSized_attempt (Cost.calculateEc2Source_noPanic _ _ _ _)
              intro costs
              exact ⟨_, rfl, sizedSource_pricedSource _ _ hvcpu _ _⟩

theorem resolveRdsSource_sized (resource : RdsResource ℚ) {input : CalculationInput ℚ}
    (h : AwsBuilt sha256 input) : ResolvesSized (resolveRdsSource resource input) := by
  unfold resolveRdsSource
  cases hsnapshot : input.awsSnapshot with
  | none => exact resolvesSized_unavailable _ _
  | some snapshot =>
      dsimp only
      cases hrecord : snapshot.rdsRate resource.instanceType resource.deployment
          resource.commercialTerm resource.storageClass with
      | none => exact resolvesSized_unavailable _ _
      | some record =>
          have hvcpu := (h snapshot hsnapshot).rdsVcpu hrecord
          apply resolvesSized_attempt (Cost.calculateRdsSource_noPanic _ _ _)
          intro costs
          exact ⟨_, rfl, sizedSource_pricedSource _ _ hvcpu _ _⟩

theorem resolveEc2VmSource_sized (resource : Ec2VmResource ℚ) {input : CalculationInput ℚ}
    (h : AwsBuilt sha256 input) : ResolvesSized (resolveEc2VmSource resource input) := by
  unfold resolveEc2VmSource
  cases hsnapshot : input.awsSnapshot with
  | none => exact resolvesSized_unavailable _ _
  | some snapshot =>
      dsimp only
      cases hrecord : snapshot.ec2Rate resource.instanceType with
      | none => exact resolvesSized_unavailable _ _
      | some record =>
          have hvcpu := (h snapshot hsnapshot).ec2Vcpu hrecord
          apply resolvesSized_attempt (Cost.calculateEc2VmSource_noPanic _ _ _ _)
          intro costs
          exact ⟨_, rfl, sizedSource_pricedSource _ _ hvcpu _ _⟩

theorem onPremPriced_of_admitted {settings : ProjectSettings ℚ}
    (h : OnPremSettingsAdmitted settings) : Cost.OnPremPriced settings := by
  constructor
  · intro edition
    cases edition with
    | standard =>
        obtain ⟨price, hprice, hpositive⟩ := h.standardPack
        exact ⟨price, hprice, le_of_lt hpositive⟩
    | enterprise =>
        obtain ⟨price, hprice, hpositive⟩ := h.enterprisePack
        exact ⟨price, hprice, le_of_lt hpositive⟩
  · obtain ⟨months, hmonths, hcoverage⟩ := h.coverage
    refine ⟨months, hmonths, ?_⟩
    rintro rfl
    exact absurd hcoverage (by decide)
  · exact h.electricity

theorem resolveOnPremSource_sized {resource : OnPremResource ℚ} {settings : ProjectSettings ℚ}
    (hresource : OnPremAdmitted resource) (hsettings : OnPremSettingsAdmitted settings) :
    ResolvesSized (resolveOnPremSource resource settings) := by
  have hyears : resource.depreciationYears ≠ 0 := by
    apply ne_of_gt
    simpa using hresource.depreciationYears.1
  obtain ⟨result, hresult⟩ := Cost.calculateOnPremSource_returns resource
    (onPremPriced_of_admitted hsettings) hyears
  unfold resolveOnPremSource
  rw [hresult]
  refine ⟨_, rfl, ?_⟩
  rintro vcpu ⟨⟩ hzero
  exact absurd (hzero ▸ hresource.sourceVcpu.1) (by decide)

/-! ### Storage -/

theorem persistentCapacity_returns (resource : Resource ℚ) :
    Returns (persistentCapacity resource) := by
  cases resource with
  | ec2 resource => exact VmTargetSelector.sum_returns _
  | ec2Vm resource => exact VmTargetSelector.sum_returns _
  | rds resource => exact .ok _
  | onPrem resource => exact .ok _

theorem configuredStorage_nonneg (required : ℚ) :
    0 ≤ Max.max (⌈required / 32⌉ : ℚ) 1 * 32 := by
  have hone : (1 : ℚ) ≤ Max.max (⌈required / 32⌉ : ℚ) 1 := le_max_right _ _
  linarith

theorem storageInputs_returns (resource : Resource ℚ) : Returns (storageInputs resource) := by
  apply Returns.bind (persistentCapacity_returns resource)
  intro persistentEbsGb _
  apply Returns.bind
  · cases resource with
    | ec2Vm resource => exact .ok _
    | ec2 resource => exact ⟨_, Cost.azureMiConfiguredStorageGb_eq _⟩
    | rds resource => exact ⟨_, Cost.azureMiConfiguredStorageGb_eq _⟩
    | onPrem resource => exact ⟨_, Cost.azureMiConfiguredStorageGb_eq _⟩
  · intro _ _
    exact .ok _

/-- A managed instance is never configured with negative storage. -/
theorem storageInputs_nonneg {resource : Resource ℚ} (hsql : resource.projectType ≠ .ec2Vm)
    {storage : StorageInputs ℚ} (h : storageInputs resource = .ok storage) :
    0 ≤ storage.azureStorageGbPerInstance := by
  unfold storageInputs at h
  obtain ⟨persistentEbsGb, _, h⟩ := bind_eq_ok.mp h
  obtain ⟨azureStorageGb, hazure, h⟩ := bind_eq_ok.mp h
  cases h
  have hconfigured : ∃ required : ℚ, Cost.azureMiConfiguredStorageGb required =
      .ok azureStorageGb := by
    cases resource with
    | ec2Vm resource => exact absurd rfl hsql
    | ec2 resource => exact ⟨_, hazure⟩
    | rds resource => exact ⟨_, hazure⟩
    | onPrem resource => exact ⟨_, hazure⟩
  obtain ⟨required, hrequired⟩ := hconfigured
  rw [Cost.azureMiConfiguredStorageGb_eq] at hrequired
  cases hrequired
  exact configuredStorage_nonneg required

/-! ### Target side -/

theorem rateDiscount_returns (baseline applied : ℚ) : Returns (rateDiscount baseline applied) := by
  apply Returns.ite
  · intro _
    exact .ok _
  · intro hbaseline
    apply Returns.bind (Cost.div_returns _ hbaseline)
    intro _ _
    exact .ok _

theorem purchaseOptionDiscounts_returns (snapshot : AzurePriceSnapshot ℚ)
    (configurationKey : String) : Returns (purchaseOptionDiscounts snapshot configurationKey) := by
  unfold purchaseOptionDiscounts
  dsimp only
  split
  · apply Returns.bind (rateDiscount_returns _ _)
    intro _ _
    apply Returns.bind (rateDiscount_returns _ _)
    intro _ _
    apply Returns.bind (rateDiscount_returns _ _)
    intro _ _
    apply Returns.bind (rateDiscount_returns _ _)
    intro _ _
    exact .ok _
  · exact .ok none

theorem resolveAzureCosts_returns (selected : SelectedTarget ℚ) (resource : Resource ℚ)
    (azureStorageGb : ℚ) (input : CalculationInput ℚ) :
    Returns (resolveAzureCosts selected resource azureStorageGb input) := by
  unfold resolveAzureCosts
  split
  · exact .ok _
  · apply Returns.ite
    · intro _
      exact .ok _
    · intro _
      split
      · exact .ok _
      · split
        · exact .ok _
        · apply Returns.bind (Cost.calculateAzure_noPanic _ _ _ _ _ _ _).attempt
          intro result _
          cases result with
          | error failure => exact .ok _
          | ok costs =>
              apply Returns.bind (purchaseOptionDiscounts_returns _ _)
              intro _ _
              apply Returns.bind (Explanation.azureCostFormulaStep_returns _ _ _ _ _ _)
              intro _ _
              exact .ok _

theorem vmDiscountsOf_returns (payg rate : Option (AzureVmRateRecord ℚ)) :
    Returns (vmDiscountsOf payg rate) := by
  unfold vmDiscountsOf
  split
  · apply Returns.map
    apply Returns.bind (Cost.sub_returns _ _)
    intro _ _
    apply Returns.bind (Cost.sub_returns _ _)
    intro _ _
    apply Returns.bind (rateDiscount_returns _ _)
    intro _ _
    apply Returns.bind (rateDiscount_returns _ _)
    intro _ _
    exact .ok _
  · exact .ok none

theorem vmPurchaseOptionPricing_returns (snapshot : AzurePriceSnapshot ℚ)
    (armSkuName : String) : Returns (vmPurchaseOptionPricing snapshot armSkuName) := by
  apply Returns.mapM
  intro purchaseOption _
  apply Returns.bind (vmDiscountsOf_returns _ _)
  intro _ _
  exact .ok _

theorem resolveManagedDiskMonthly_noPanic (snapshot : AzurePriceSnapshot ℚ)
    (disk : SelectedManagedDisk ℚ) : NoPanic (resolveManagedDiskMonthly snapshot disk) := by
  unfold resolveManagedDiskMonthly
  cases disk.tierKey with
  | some tierKey =>
      apply NoPanic.bind (.okOr _ _)
      intro _ _
      apply NoPanic.bind (Cost.calculateAzureManagedDiskMonthly_noPanic _ _)
      intro _ _
      exact noPanic_ok _
  | none =>
      apply NoPanic.bind (.okOr _ _)
      intro _ _
      apply NoPanic.bind (.okOr _ _)
      intro _ _
      apply NoPanic.bind (.okOr _ _)
      intro _ _
      apply NoPanic.bind (Cost.calculateAzureManagedDiskMonthly_noPanic _ _)
      intro _ _
      exact noPanic_ok _

theorem monthlyDisks_noPanic (snapshot : AzurePriceSnapshot ℚ)
    (disks : List (SelectedManagedDisk ℚ)) : NoPanic (monthlyDisks snapshot disks) := by
  apply NoPanic.foldlM
  rintro ⟨total, sourceUrls⟩ disk _
  apply NoPanic.bind (resolveManagedDiskMonthly_noPanic snapshot disk)
  rintro ⟨cost, urls⟩ _
  apply NoPanic.step (Cost.add_returns _ _)
  intro _
  exact noPanic_ok _

theorem resolveAzureVmCosts_returns (selected : SelectedVmTarget ℚ)
    (resource : Ec2VmResource ℚ) (input : CalculationInput ℚ) :
    Returns (resolveAzureVmCosts selected resource input) := by
  unfold resolveAzureVmCosts
  split
  · exact .ok _
  · split
    · exact .ok _
    · apply Returns.bind (monthlyDisks_noPanic _ _).attempt
      intro disks _
      cases disks with
      | error failure => exact .ok _
      | ok monthly =>
          obtain ⟨monthly, diskSourceUrls⟩ := monthly
          apply Returns.bind (Cost.calculateAzureVm_noPanic _ _ _ _ _ _).attempt
          intro result _
          cases result with
          | error failure => exact .ok _
          | ok costs => exact .ok _

/-! ### Rows -/

theorem rowSavings_returns (sourceCosts : Option (SourceCostBreakdown ℚ))
    (azureCosts : Option (AzureCostBreakdown ℚ)) (selectedAdjustment : ℚ) :
    Returns (rowSavings sourceCosts azureCosts selectedAdjustment) := by
  unfold rowSavings
  split
  · apply Returns.bind (Cost.calculateSavings_returns _ _ _)
    intro _ _
    exact .ok _
  · exact .ok _

theorem mappedRow_returns (resourceId : Uuid) (storage : StorageInputs ℚ)
    (source : ResolvedSource ℚ) (target : ResolvedTarget ℚ) (selectedAdjustment : ℚ) :
    Returns (mappedRow resourceId storage source target selectedAdjustment) :=
  Returns.bind (rowSavings_returns _ _ _) fun _ _ => .ok _

theorem calculateSqlRow_returns (engine : CalculationEngine ℚ) {resource : Resource ℚ}
    (hshared : SharedAdmitted resource.shared) {source : ResolvedSource ℚ}
    (hsource : SizedSource source) {storage : StorageInputs ℚ}
    (hstorage : 0 ≤ storage.azureStorageGbPerInstance) (input : CalculationInput ℚ) :
    Returns (calculateSqlRow engine resource source storage input) := by
  unfold calculateSqlRow
  cases hvcpu : source.sourceVcpu with
  | none => exact .ok _
  | some sourceVcpu =>
      have hmemory : 0 < resource.shared.sourceRamGbPerInstance := by
        simpa using hshared.sourceRam.1
      have hrequest : TargetSelector.ValidRequest (targetRequest input resource.shared storage
          sourceVcpu (source.sourceMaxIops.getD 0)) :=
        ⟨hsource sourceVcpu hvcpu, hmemory, hstorage⟩
      obtain ⟨selection, hselection⟩ :=
        TargetSelector.selectTarget_returns engine.capabilities hrequest
      dsimp only
      rw [hselection]
      apply Returns.bind (Returns.ok _)
      intro _ hvalue
      cases hvalue
      apply Returns.step (Explanation.sourceInputStep_returns _ _ _ _)
      intro _
      apply Returns.bind (Returns.arithmetic (Returns.mapOption _ fun costs _ =>
        Explanation.sourceCostFormulaStep_returns _ _ _ costs))
      intro _ _
      apply Returns.ite
      · intro _
        exact .ok _
      · intro hmapped
        obtain ⟨selected, hselected⟩ := TargetSelector.selectTarget_mapped hselection hmapped
        rw [hselected]
        apply Returns.bind (Returns.ok _)
        intro _ _
        apply Returns.step (resolveAzureCosts_returns _ _ _ _)
        intro _
        apply Returns.step (mappedRow_returns _ _ _ _ _)
        intro _
        exact .ok _

/-! ### VM rows -/

theorem persistentVolumes_eq {resource : Ec2VmResource ℚ} (h : Ec2VmAdmitted resource) :
    persistentVolumes resource = resource.volumes :=
  List.filter_eq_self.mpr fun volume hmem => by
    simpa [isPersistent] using h.persistent volume hmem

theorem vmVolumeRequirements_os {resource : Ec2VmResource ℚ} (h : Ec2VmAdmitted resource) :
    ((vmVolumeRequirements resource).filter fun volume => volume.role == .os).length = 1 := by
  unfold vmVolumeRequirements
  rw [persistentVolumes_eq h, List.filter_map, List.length_map]
  exact h.osVolume

theorem mappedVmRow_returns (resource : Ec2VmResource ℚ) (storage : StorageInputs ℚ)
    (source : ResolvedSource ℚ) (selection : VmTargetSelection ℚ)
    (selected : SelectedVmTarget ℚ) (input : CalculationInput ℚ) :
    Returns (mappedVmRow resource storage source selection selected input) := by
  apply Returns.bind (Returns.mapOption _ fun snapshot _ => vmPurchaseOptionPricing_returns _ _)
  intro _ _
  apply Returns.bind (VmTargetSelector.sum_returns _)
  intro _ _
  apply Returns.bind (resolveAzureVmCosts_returns _ _ _)
  intro _ _
  apply Returns.bind (mappedRow_returns _ _ _ _ _)
  intro _ _
  exact .ok _

theorem selectVmRow_returns (engine : CalculationEngine ℚ) {resource : Ec2VmResource ℚ}
    (hshared : SharedAdmitted resource.shared) (hresource : Ec2VmAdmitted resource)
    (source : ResolvedSource ℚ) (storage : StorageInputs ℚ) {sourceVcpu : UInt32}
    (hvcpu : sourceVcpu ≠ 0) (policy : VmSourcePolicy) (input : CalculationInput ℚ) :
    Returns (selectVmRow engine resource source storage sourceVcpu policy input) := by
  have hmemory : 0 < resource.shared.sourceRamGbPerInstance := by
    simpa using hshared.sourceRam.1
  have hrequest : VmTargetSelector.ValidRequest
      (vmTargetRequest input resource policy.sourceClass sourceVcpu) :=
    ⟨hvcpu, hmemory, vmVolumeRequirements_os hresource⟩
  obtain ⟨selection, hselection⟩ := VmTargetSelector.selectVmTarget_returns
    engine.vmCapabilities engine.managedDiskCapabilities hrequest
  unfold selectVmRow
  dsimp only
  rw [hselection]
  apply Returns.bind (Returns.ok _)
  intro _ hvalue
  cases hvalue
  apply Returns.ite
  · intro _
    exact .ok _
  · intro hmapped
    obtain ⟨selected, hselected⟩ := VmTargetSelector.selectVmTarget_mapped hselection hmapped
    rw [hselected]
    apply Returns.bind (Returns.ok _)
    intro _ _
    exact Returns.lift (mappedVmRow_returns _ _ _ _ _ _)

theorem calculateEc2VmResource_returns (engine : CalculationEngine ℚ)
    {resource : Ec2VmResource ℚ} (hshared : SharedAdmitted resource.shared)
    (hresource : Ec2VmAdmitted resource) (storage : StorageInputs ℚ)
    {input : CalculationInput ℚ} (haws : AwsBuilt sha256 input) :
    Returns (calculateEc2VmResource engine resource storage input) := by
  obtain ⟨source, hresolved, hsource⟩ := resolveEc2VmSource_sized resource haws
  unfold calculateEc2VmResource
  rw [hresolved]
  apply Returns.bind (Returns.ok _)
  intro _ hvalue
  cases hvalue
  dsimp only [withSteps]
  cases hvcpu : source.sourceVcpu with
  | none => exact .ok _
  | some sourceVcpu =>
      dsimp only
      cases classifySourceInstance resource.instanceType with
      | none => exact .ok _
      | some sourceClass =>
          apply Returns.step (Explanation.vmSourceInputStep_returns _ _ _ _)
          intro _
          apply Returns.bind (Returns.arithmetic (Returns.mapOption _ fun costs _ =>
            Explanation.vmSourceCostFormulaStep_returns _ _ costs))
          intro _ _
          split
          · exact .ok _
          · apply Returns.ite
            · intro _
              exact .ok _
            · intro _
              exact selectVmRow_returns engine hshared hresource _ _ (hsource _ hvcpu) _ _

theorem calculateResource_returns (engine : CalculationEngine ℚ) {input : CalculationInput ℚ}
    (haws : AwsBuilt sha256 input) (hsettings : SettingsAdmitted input.settings)
    {resource : Resource ℚ}
    (hresource : ResourceAdmitted input.settings.projectType resource) :
    Returns (calculateResource engine input resource) := by
  obtain ⟨storage, hstorage⟩ := storageInputs_returns resource
  have hkind := hresource.kind
  unfold calculateResource
  rw [hstorage]
  apply Returns.bind (Returns.ok _)
  intro _ hvalue
  cases hvalue
  cases resource with
  | ec2Vm resource =>
      exact calculateEc2VmResource_returns engine hresource.shared hkind storage haws
  | ec2 resource =>
      obtain ⟨source, hresolved, hsource⟩ := resolveEc2Source_sized resource haws
      dsimp only
      rw [hresolved]
      exact calculateSqlRow_returns engine hresource.shared hsource
        (storageInputs_nonneg (by nofun) hstorage) input
  | rds resource =>
      obtain ⟨source, hresolved, hsource⟩ := resolveRdsSource_sized resource haws
      dsimp only
      rw [hresolved]
      exact calculateSqlRow_returns engine hresource.shared hsource
        (storageInputs_nonneg (by nofun) hstorage) input
  | onPrem resource =>
      have htype : input.settings.projectType = .onPrem := hresource.projectType_eq.symm
      obtain ⟨source, hresolved, hsource⟩ :=
        resolveOnPremSource_sized hkind (hsettings.onPrem htype)
      dsimp only
      rw [hresolved]
      exact calculateSqlRow_returns engine hresource.shared hsource
        (storageInputs_nonneg (by nofun) hstorage) input

/-! ### Engine -/

theorem calculatePortfolio_returns (results : List (ResourceCalculation ℚ))
    (selectedAdjustment : ℚ) : Returns (calculatePortfolio results selectedAdjustment) := by
  apply Returns.bind
  · exact Returns.ite (fun _ => (VmTargetSelector.sum_returns _).map _) (fun _ => .ok _)
  · intro _ _
    apply Returns.bind (VmTargetSelector.sum_returns _)
    intro _ _
    apply Returns.bind (VmTargetSelector.sum_returns _)
    intro _ _
    apply Returns.bind (Cost.requiredAdjustment_returns _ _)
    intro _ _
    exact .ok _

theorem calculateSqlPayg_returns (engine : CalculationEngine ℚ) {input : CalculationInput ℚ}
    (htype : input.settings.projectType = .sqlPayg)
    (hsettings : SettingsAdmitted input.settings) : Returns (calculateSqlPayg engine input) := by
  obtain ⟨sqlPayg, hsqlPayg, hadmitted⟩ := hsettings.sqlPayg htype
  have hinput : SqlPayg.ValidInput (sqlPaygInput input.settings sqlPayg) := {
    licensed := hadmitted.licensed
    softwareAssurance := hadmitted.softwareAssurance
    hoursNonneg := by simpa [sqlPaygInput] using hsettings.annualHours.1
    hoursLe := by simpa [sqlPaygInput, SqlPayg.maxAnnualHours] using hsettings.annualHours.2
    discount := hsettings.selectedParityAdjustment }
  obtain ⟨analysis, hanalysis⟩ := SqlPayg.calculate_returns hinput
  unfold calculateSqlPayg
  rw [hsqlPayg]
  apply Returns.bind (Returns.ok _)
  intro _ hvalue
  cases hvalue
  rw [hanalysis]
  apply Returns.bind (Returns.ok _)
  intro _ hvalue
  cases hvalue
  exact .ok _

/-- A refusal that comes from the checks on the input. -/
def IsInputError : Halt CalculationError → Prop
  | .error .formulaVersionMismatch => True
  | .error (.validation _) => True
  | .error (.snapshotScopeMismatch _) => True
  | _ => False

theorem validateInput_eq_ok {engine : CalculationEngine ℚ} {input : CalculationInput ℚ}
    (h : validateInput engine input = .ok ()) : (validationProject input).validate = [] := by
  by_contra hissues
  unfold validateInput at h
  split at h
  · cases h
  · cases h

theorem validateInput_isInputError {engine : CalculationEngine ℚ} {input : CalculationInput ℚ}
    {halt : Halt CalculationError} (h : validateInput engine input = .error halt) :
    IsInputError halt := by
  unfold validateInput at h
  split at h
  · cases h
    trivial
  · split at h
    · cases h
      trivial
    · split at h
      · cases h
        trivial
      · split at h
        · cases h
          trivial
        · cases h

theorem calculate_returns (engine : CalculationEngine ℚ) {input : CalculationInput ℚ}
    (haws : AwsBuilt sha256 input) (hvalid : validateInput engine input = .ok ()) :
    Returns (calculate engine input) := by
  obtain ⟨hsettings, hresources⟩ :=
    EditableProject.admitted_of_validate (validateInput_eq_ok hvalid)
  unfold calculate
  rw [hvalid, ok_bind]
  apply Returns.ite
  · intro htype
    exact calculateSqlPayg_returns engine htype hsettings
  · intro _
    apply Returns.bind (Returns.mapM _ fun resource hmem =>
      calculateResource_returns engine haws hsettings (hresources resource hmem))
    intro results _
    apply Returns.step (calculatePortfolio_returns _ _)
    intro _
    exact .ok _

/-- On an input that passes its checks the engine returns a revision, and it
ends early only with an error of these checks. -/
theorem calculate_total (engine : CalculationEngine ℚ) (input : CalculationInput ℚ)
    (haws : AwsBuilt sha256 input) :
    (validateInput engine input = .ok () → ∃ revision, calculate engine input = .ok revision) ∧
      ∀ halt, calculate engine input = .error halt → IsInputError halt := by
  constructor
  · exact calculate_returns engine haws
  · intro halt hhalt
    cases hvalid : validateInput engine input with
    | error failure =>
        have hfailure := validateInput_isInputError hvalid
        unfold calculate at hhalt
        rw [hvalid] at hhalt
        cases hhalt
        exact hfailure
    | ok u =>
        obtain ⟨revision, hrevision⟩ := calculate_returns engine haws hvalid
        rw [hrevision] at hhalt
        cases hhalt

/-! ### An EC2 project -/

def digest : String := "0123456789abcdef0123456789abcdef0123456789abcdef0123456789abcdef"

def exampleProvenance : RateProvenance := ⟨"aws-price-list", none, none, []⟩

def exampleEc2Rates : List (AwsEc2RateRecord ℚ) :=
  [⟨"ec2|m5.large", "m5.large", ⟨2, 8, 188 / 1000, none, none⟩, exampleProvenance⟩]

def exampleEbsRates : List (AwsEbsRateRecord ℚ) :=
  [⟨"ebs|gp3", ⟨.gp3, 8 / 100, 3000, some (5 / 1000), [], 125, some (4 / 100)⟩,
    exampleProvenance⟩]

def exampleMetadata : SnapshotCreationMetadata :=
  ⟨.fresh, "2026-08-10T12:00:00Z", none, "USD", [], "1", []⟩

def exampleAwsSnapshot : AwsPriceSnapshot ℚ where
  metadata := PriceSnapshot.metadataOf .aws "aws-" digest exampleMetadata
  sourceRegion := "us-east-1"
  ec2Rates := exampleEc2Rates
  rdsRates := []
  ebsRates := exampleEbsRates

theorem exampleAwsSnapshot_built : exampleAwsSnapshot.Built fun _ => digest :=
  ⟨exampleMetadata, "us-east-1", exampleEc2Rates, [], exampleEbsRates, by decide +kernel⟩

def exampleSettings : ProjectSettings ℚ where
  projectType := .ec2
  awsRegion := some "us-east-1"
  azureRegion := "eastus"
  currency := "USD"
  sourceComputeDiscount := 0
  sourceLicenseDiscount := 0
  sourceStorageDiscount := 0
  azureComputeDiscount := 0
  azureLicenseDiscount := 0
  azureStorageDiscount := 0
  selectedParityAdjustment := 0
  defaultAnnualHours := 8760
  defaultMiPurchaseOption := .payg
  enterpriseLicenseSaUsdPerTwoCorePack := none
  standardLicenseSaUsdPerTwoCorePack := none
  remainingCoverageMonths := none
  electricityRateUsdPerKwh := none
  sqlPayg := none

def exampleResource : Resource ℚ := .ec2 {
  shared := ⟨⟨1⟩, "ledger", none, 1, 8, 8760⟩
  sql := ⟨.standard, .byol, 100, .payg⟩
  instanceType := "m5.large"
  volumes := [⟨⟨2⟩, "data", none, .gp3, 100, some 3000, none⟩] }

def exampleEngine : CalculationEngine ℚ where
  capabilities := ⟨[⟨"mi-4", "eastus", .nextGenerationGeneralPurpose, "Premium Series", 4, false,
    28, [28], "remote", some 16384⟩]⟩
  vmCapabilities := ⟨[]⟩
  managedDiskCapabilities := ⟨[]⟩
  formulaVersion := "1"
  capabilities_nonempty := by decide

def exampleInput : CalculationInput ℚ :=
  ⟨exampleSettings, [exampleResource], some exampleAwsSnapshot, none, none⟩

theorem calculate_total_example :
    ∃ revision, calculate exampleEngine exampleInput = .ok revision :=
  (calculate_total exampleEngine exampleInput (by
    rintro snapshot ⟨⟩
    exact exampleAwsSnapshot_built)).1 (by decide +kernel)

end Workflow

end TcoCalculator
