/-
The price check of the VM selection against the resolution of its costs: which
disks each of the two takes to be priced.
-/
import TcoCalculator.Calculation.VmCompleteness
import TcoCalculator.Calculation.VmSelection
import TcoCalculator.Calculation.Workflow
import TcoCalculator.Domain.ProjectAdmission
import TcoCalculator.Pricing.SnapshotIdentity

namespace TcoCalculator.Workflow

open DecimalArith Fallible Halt PriceSnapshot ProjectValidation VmTargetSelector

/-! ### Rates of a disk -/

variable {snapshot : AzurePriceSnapshot Decimal96} {disk : SelectedManagedDisk Decimal96}
  {dimension : AzureManagedDiskPriceDimension}

/-- The snapshot has the rate under the very key of the disk's offer. -/
def HasRate (snapshot : AzurePriceSnapshot Decimal96) (disk : SelectedManagedDisk Decimal96)
    (dimension : AzureManagedDiskPriceDimension) : Prop :=
  ∃ record ∈ snapshot.managedDiskRates, record.offerKey = disk.offerKey ∧
    record.tierKey = disk.tierKey ∧ record.dimension = dimension

/-- The snapshot has the rate, whatever the case of the key. -/
def HasRateAnyCase (snapshot : AzurePriceSnapshot Decimal96)
    (disk : SelectedManagedDisk Decimal96) (dimension : AzureManagedDiskPriceDimension) : Prop :=
  ∃ record ∈ snapshot.managedDiskRates, eqIgnoreAsciiCase record.offerKey disk.offerKey = true ∧
    record.tierKey = disk.tierKey ∧ record.dimension = dimension

/-- What the disk is billed for. -/
def billedDimensions (disk : SelectedManagedDisk Decimal96) :
    List AzureManagedDiskPriceDimension :=
  if disk.tierKey.isSome then [.capacityTier]
  else .capacityGb ::
    ((if disk.billedAdditionalIops = 0 then [] else [.additionalIops]) ++
      if value disk.billedAdditionalThroughputMbps = 0 then [] else [.additionalThroughput])

/-- All rates there are for a disk of its kind. -/
def allDimensions (disk : SelectedManagedDisk Decimal96) : List AzureManagedDiskPriceDimension :=
  if disk.tierKey.isSome then [.capacityTier]
  else [.capacityGb, .additionalIops, .additionalThroughput]

/-- The rates the disk is billed for are there under its key just when all
rates of its kind are there under some spelling of it. -/
def RatesAgree (snapshot : AzurePriceSnapshot Decimal96)
    (disk : SelectedManagedDisk Decimal96) : Prop :=
  (∀ dimension ∈ billedDimensions disk, HasRate snapshot disk dimension) ↔
    ∀ dimension ∈ allDimensions disk, HasRateAnyCase snapshot disk dimension

/-- All rates of the snapshot's disks are positive. -/
def PositiveDiskRates (snapshot : AzurePriceSnapshot Decimal96) : Prop :=
  ∀ record ∈ snapshot.managedDiskRates, 0 < value record.normalizedMonthlyRate

theorem vmDiskPriceDimension_injective {first second : AzureManagedDiskPriceDimension}
    (h : vmDiskPriceDimension first = vmDiskPriceDimension second) : first = second := by
  cases first <;> cases second <;> first | rfl | exact absurd h (by decide)

theorem contains_iff_hasRate :
    (vmPriceAvailability snapshot).managedDiskDimensions.contains
        ⟨disk.offerKey, disk.tierKey, vmDiskPriceDimension dimension⟩ = true ↔
      HasRate snapshot disk dimension := by
  simp only [vmPriceAvailability, List.contains_iff_mem, List.mem_map, VmDiskPriceKey.mk.injEq,
    HasRate]
  refine exists_congr fun record => and_congr_right fun _ => and_congr_right fun _ =>
    and_congr_right fun _ => ⟨vmDiskPriceDimension_injective, fun h => by rw [h]⟩

/-- The check asks for the rates the disk is billed for. -/
theorem managedDiskPriceIsComplete_iff :
    managedDiskPriceIsComplete (vmPriceAvailability snapshot) disk = true ↔
      ∀ dimension ∈ billedDimensions disk, HasRate snapshot disk dimension := by
  simp only [← contains_iff_hasRate]
  unfold managedDiskPriceIsComplete billedDimensions
  by_cases htier : disk.tierKey.isSome = true
  · simp [htier, vmDiskPriceDimension]
  · by_cases hiops : disk.billedAdditionalIops = 0 <;>
      by_cases hthroughput : value disk.billedAdditionalThroughputMbps = 0 <;>
      simp [htier, hiops, hthroughput, vmDiskPriceDimension, and_assoc]

theorem managedDiskRate_isSome_iff {tierKey : Option String} (htier : disk.tierKey = tierKey) :
    (snapshot.managedDiskRate disk.offerKey tierKey dimension).isSome = true ↔
      HasRateAnyCase snapshot disk dimension := by
  unfold AzurePriceSnapshot.managedDiskRate HasRateAnyCase
  rw [List.find?_isSome, htier]
  simp only [Bool.and_eq_true, beq_iff_eq, and_assoc]

theorem okOr_of_isSome {ε α : Type} {rate : Option α} (e : ε) (h : rate.isSome = true) :
    ∃ a, rate = some a ∧ (okOr rate e : Except (Halt ε) α) = .ok a := by
  obtain ⟨a, ha⟩ := Option.isSome_iff_exists.mp h
  exact ⟨a, ha, by rw [ha]; rfl⟩

theorem isSome_of_noRefusal {ε α β : Type} {rate : Option α} {e : ε}
    {f : α → Except (Halt ε) β} (h : NoRefusal (okOr rate e >>= f)) :
    ∃ a, rate = some a ∧ NoRefusal (f a) := by
  cases rate with
  | none => exact absurd rfl (h e)
  | some a => exact ⟨a, rfl, h⟩

theorem validateRate_ok {rate : Decimal96} (h : 0 < value rate) :
    Cost.validateRate rate = .ok () := by
  unfold Cost.validateRate
  rw [if_neg (not_lt.mpr h.le)]

theorem positive_of_managedDiskRate (hpositive : PositiveDiskRates snapshot) {offerKey : String}
    {tierKey : Option String} {record : AzureManagedDiskRateRecord Decimal96}
    (h : snapshot.managedDiskRate offerKey tierKey dimension = some record) :
    0 < value record.normalizedMonthlyRate :=
  hpositive record (List.mem_of_find?_eq_some h)

/-- With rates of its kind at hand a disk is priced, unless a decimal overflows. -/
theorem noRefusal_calculateAzureManagedDiskMonthly {capacity iops throughput : Decimal96}
    (htier : disk.tierKey = none) (hcapacity : 0 < value capacity) (hiops : 0 < value iops)
    (hthroughput : 0 < value throughput) :
    NoRefusal (Cost.calculateAzureManagedDiskMonthly disk
      ⟨capacity, some iops, some throughput⟩) := by
  unfold Cost.calculateAzureManagedDiskMonthly
  simp only [htier, Option.isSome_none, Bool.false_eq_true, if_false, okOr,
    validateRate_ok hcapacity, validateRate_ok hiops, validateRate_ok hthroughput, ok_bind]
  exact (NoRefusal.lift _).bind fun _ _ => (NoRefusal.lift _).bind fun _ _ =>
    (NoRefusal.lift _).bind fun _ _ => NoRefusal.lift _

/-- The resolution asks for all rates of the disk's kind. -/
theorem noRefusal_resolveManagedDiskMonthly_iff (hpositive : PositiveDiskRates snapshot) :
    NoRefusal (resolveManagedDiskMonthly snapshot disk) ↔
      ∀ dimension ∈ allDimensions disk, HasRateAnyCase snapshot disk dimension := by
  unfold resolveManagedDiskMonthly allDimensions
  cases htier : disk.tierKey with
  | some tierKey =>
      simp only [Option.isSome_some, if_true, List.mem_singleton, forall_eq,
        ← managedDiskRate_isSome_iff htier]
      constructor
      · intro h
        obtain ⟨capacity, hcapacity, -⟩ := isSome_of_noRefusal h
        rw [hcapacity]
        rfl
      · intro h
        obtain ⟨capacity, hcapacity, hok⟩ := okOr_of_isSome CostError.missingAzureManagedDiskRate h
        have hrate := validateRate_ok (positive_of_managedDiskRate hpositive hcapacity)
        rw [hok, ok_bind]
        simp only [Cost.calculateAzureManagedDiskMonthly, hrate, htier, Option.isSome_some,
          if_true, ok_bind, pure_eq_ok]
        exact noRefusal_ok _
  | none =>
      simp only [Option.isSome_none, Bool.false_eq_true, if_false, List.mem_cons, List.not_mem_nil,
        or_false, forall_eq_or_imp, forall_eq, ← managedDiskRate_isSome_iff htier]
      constructor
      · intro h
        obtain ⟨capacity, hcapacity, h⟩ := isSome_of_noRefusal h
        obtain ⟨iops, hiops, h⟩ := isSome_of_noRefusal h
        obtain ⟨throughput, hthroughput, -⟩ := isSome_of_noRefusal h
        simp [hcapacity, hiops, hthroughput]
      · rintro ⟨hcapacity, hiops, hthroughput⟩
        obtain ⟨capacity, hcapacity, hok⟩ :=
          okOr_of_isSome CostError.missingAzureManagedDiskRate hcapacity
        obtain ⟨iops, hiops, hok'⟩ := okOr_of_isSome CostError.missingAzureManagedDiskRate hiops
        obtain ⟨throughput, hthroughput, hok''⟩ :=
          okOr_of_isSome CostError.missingAzureManagedDiskRate hthroughput
        rw [hok, ok_bind, hok', ok_bind, hok'', ok_bind]
        have hpriced := noRefusal_calculateAzureManagedDiskMonthly htier
          (positive_of_managedDiskRate hpositive hcapacity)
          (positive_of_managedDiskRate hpositive hiops)
          (positive_of_managedDiskRate hpositive hthroughput)
        exact hpriced.bind fun _ _ => noRefusal_ok _

/-! ### Costs of a disk -/

/-- What a selected disk has of sizes is not negative. -/
structure Sized (disk : SelectedManagedDisk Decimal96) : Prop where
  capacity : 0 ≤ value disk.capacityGb
  throughput : 0 ≤ value disk.billedAdditionalThroughputMbps

theorem value_ofNat_nonneg (n : UInt64) : 0 ≤ value (DecimalArith.ofNat n.toNat : Decimal96) := by
  rw [Decimal96.value_eq, Decimal96.toRat_ofNat (n.toNat_lt.trans (by decide))]
  exact Nat.cast_nonneg _

theorem mul_nonneg_of_ok {a b c : Decimal96} (ha : 0 ≤ value a) (hb : 0 ≤ value b)
    (h : mul a b = .ok c) : 0 ≤ value c :=
  Decimal96.nonneg_of_arithmetic (mul_nonneg ha hb) h

theorem add_nonneg_of_ok {a b c : Decimal96} (ha : 0 ≤ value a) (hb : 0 ≤ value b)
    (h : add a b = .ok c) : 0 ≤ value c :=
  Decimal96.nonneg_of_arithmetic (add_nonneg ha hb) h

theorem resolveManagedDiskMonthly_nonneg (hpositive : PositiveDiskRates snapshot)
    (hsized : Sized disk) {cost : Decimal96} {urls : List String}
    (h : resolveManagedDiskMonthly snapshot disk = .ok (cost, urls)) : 0 ≤ value cost := by
  have hnoRefusal : NoRefusal (resolveManagedDiskMonthly snapshot disk) := by
    rw [h]
    exact noRefusal_ok _
  unfold resolveManagedDiskMonthly at h hnoRefusal
  cases htier : disk.tierKey with
  | some tierKey =>
      simp only [htier] at h hnoRefusal
      obtain ⟨capacity, hcapacity, -⟩ := isSome_of_noRefusal hnoRefusal
      have hrate := positive_of_managedDiskRate hpositive hcapacity
      simp only [hcapacity, okOr, ok_bind, Cost.calculateAzureManagedDiskMonthly,
        validateRate_ok hrate, htier, Option.isSome_some, if_true, pure_eq_ok] at h
      cases h
      exact hrate.le
  | none =>
      simp only [htier] at h hnoRefusal
      obtain ⟨capacity, hcapacity, hnoRefusal⟩ := isSome_of_noRefusal hnoRefusal
      obtain ⟨iops, hiops, hnoRefusal⟩ := isSome_of_noRefusal hnoRefusal
      obtain ⟨throughput, hthroughput, -⟩ := isSome_of_noRefusal hnoRefusal
      have hcapacityRate := positive_of_managedDiskRate hpositive hcapacity
      have hiopsRate := positive_of_managedDiskRate hpositive hiops
      have hthroughputRate := positive_of_managedDiskRate hpositive hthroughput
      simp only [hcapacity, hiops, hthroughput, okOr, ok_bind,
        Cost.calculateAzureManagedDiskMonthly, validateRate_ok hcapacityRate,
        validateRate_ok hiopsRate, validateRate_ok hthroughputRate, htier, Option.isSome_none,
        Bool.false_eq_true, if_false, bind_eq_ok, liftM_eq_ok, pure_eq_ok, Except.ok.injEq,
        Prod.mk.injEq] at h
      obtain ⟨total, ⟨forCapacity, hforCapacity, forIops, hforIops, forThroughput, hforThroughput,
        htotal⟩, rfl, -⟩ := h
      obtain ⟨partial', hpartial, htotal⟩ := bind_eq_ok.mp htotal
      have hfirst := add_nonneg_of_ok (mul_nonneg_of_ok hsized.capacity hcapacityRate.le hforCapacity)
        (mul_nonneg_of_ok (value_ofNat_nonneg _) hiopsRate.le hforIops) hpartial
      exact add_nonneg_of_ok hfirst
        (mul_nonneg_of_ok hsized.throughput hthroughputRate.le hforThroughput) htotal

/-- One disk added to the monthly cost. -/
def monthlyStep (snapshot : AzurePriceSnapshot Decimal96) (state : Decimal96 × List String)
    (disk : SelectedManagedDisk Decimal96) :
    Except (Halt CostError) (Decimal96 × List String) := do
  let (cost, urls) ← resolveManagedDiskMonthly snapshot disk
  return (← add state.1 cost, state.2 ++ urls)

/-- Disks that are all priced have a monthly cost, unless a decimal overflows. -/
theorem monthlyDisks_priced (hpositive : PositiveDiskRates snapshot)
    {disks : List (SelectedManagedDisk Decimal96)}
    (h : ∀ disk ∈ disks, NoRefusal (resolveManagedDiskMonthly snapshot disk) ∧ Sized disk) :
    NoRefusal (monthlyDisks snapshot disks) ∧
      ∀ monthly urls, monthlyDisks snapshot disks = .ok (monthly, urls) → 0 ≤ value monthly := by
  suffices hrun : ∀ (total : Decimal96) (urls : List String), 0 ≤ value total →
      NoRefusal (disks.foldlM (monthlyStep snapshot) (total, urls)) ∧
      ∀ monthly urls', disks.foldlM (monthlyStep snapshot) (total, urls) = .ok (monthly, urls') →
        0 ≤ value monthly from
    hrun zero [] (by rw [Decimal96.value_eq, Decimal96.toRat_zero])
  induction disks with
  | nil =>
      intro total urls htotal
      refine ⟨noRefusal_ok _, ?_⟩
      rintro monthly urls' ⟨⟩
      exact htotal
  | cons disk rest ih =>
      intro total urls htotal
      obtain ⟨hpriced, hsized⟩ := h disk List.mem_cons_self
      have ih := ih fun other hother => h other (List.mem_cons_of_mem disk hother)
      rw [List.foldlM_cons]
      have hstep : ∀ next, monthlyStep snapshot (total, urls) disk = .ok next →
          0 ≤ value next.1 := by
        intro next hnext
        obtain ⟨⟨cost, sources⟩, hcost, hnext⟩ := bind_eq_ok.mp hnext
        obtain ⟨sum, hsum, hnext⟩ := bind_eq_ok.mp hnext
        cases hnext
        exact add_nonneg_of_ok htotal (resolveManagedDiskMonthly_nonneg hpositive hsized hcost)
          (liftM_eq_ok.mp hsum)
      constructor
      · refine NoRefusal.bind (hpriced.bind fun _ _ => ?_) fun next hnext =>
          (ih next.1 next.2 (hstep next hnext)).1
        exact (NoRefusal.lift _).bind fun _ _ => noRefusal_ok _
      · intro monthly urls' hrun
        obtain ⟨next, hnext, hrun⟩ := bind_eq_ok.mp hrun
        exact (ih next.1 next.2 (hstep next hnext)).2 monthly urls' hrun

/-! ### Costs of a target -/

/-- What the constructor of a snapshot checks of its rates. -/
theorem rates_of_accepted {sha256 : String → String} {metadata : SnapshotCreationMetadata}
    {targetRegion : String} {miRates : List (AzureMiRateRecord Decimal96)}
    {vmRates : List (AzureVmRateRecord Decimal96)}
    {managedDiskRates : List (AzureManagedDiskRateRecord Decimal96)}
    (h : AzurePriceSnapshot.createWithVmRates sha256 metadata targetRegion miRates vmRates
      managedDiskRates = .ok snapshot) :
    PositiveDiskRates snapshot ∧ ∀ record ∈ snapshot.vmRates, validVmRecord record = true := by
  obtain ⟨-, haccepted, rfl⟩ := AzurePriceSnapshot.createWithVmRates_eq_ok.mp h
  have hvm := haccepted.vmRates
  unfold validateAzureVmRates at hvm
  split at hvm
  · exact absurd hvm (by simp [refuse])
  · rename_i hrecords
    simp only [Bool.not_eq_true', Bool.not_eq_false, Bool.and_eq_true] at hrecords
    obtain ⟨valid, -, hvm⟩ := bind_eq_ok.mp hvm
    split at hvm
    · split at hvm
      · rename_i hdisks
        simp only [Bool.and_eq_true] at hdisks
        refine ⟨fun record hrecord => ?_, List.all_eq_true.mp hrecords.1⟩
        have hvalid := List.all_eq_true.mp hdisks.1 record hrecord
        simp only [validDiskRecord, isPositive, Bool.and_eq_true, decide_eq_true_eq] at hvalid
        exact hvalid.1.1.2
      · exact absurd hvm (by simp [refuse])
    · exact absurd hvm (by simp [refuse])

/-- Rates in order and a monthly cost give a cost, unless a decimal overflows. -/
theorem noRefusal_calculateAzureVm {record : AzureVmRateRecord Decimal96}
    (hrecord : validVmRecord record = true) {monthly : Decimal96} (hmonthly : 0 ≤ value monthly)
    (quantity : UInt32) (annualHours : Decimal96) (settings : ProjectSettings Decimal96) :
    NoRefusal (Cost.calculateAzureVm quantity annualHours record.hourlyRate record.licenseHourly
      monthly settings) := by
  simp only [validVmRecord, isPositive, Bool.and_eq_true, decide_eq_true_eq] at hrecord
  obtain ⟨⟨⟨⟨⟨⟨-, hhourly⟩, hlicense⟩, hle⟩, -⟩, -⟩, -⟩ := hrecord
  have hrate : ∀ {rate : Decimal96}, 0 ≤ value rate → Cost.validateRate rate = .ok () := by
    intro rate h
    unfold Cost.validateRate
    rw [if_neg (not_lt.mpr h)]
  unfold Cost.calculateAzureVm
  rw [hrate hhourly.le, hrate hlicense, hrate hmonthly, ok_bind, ok_bind, ok_bind,
    if_neg (not_lt.mpr hle)]
  iterate 8 refine (NoRefusal.lift _).bind fun _ _ => ?_
  exact noRefusal_ok _

/-- A target whose rate and disks are priced has a cost, unless a decimal overflows. -/
theorem resolveAzureVmCosts_complete {input : CalculationInput Decimal96}
    (hinput : input.azureSnapshot = some snapshot) (hpositive : PositiveDiskRates snapshot)
    (hvm : ∀ record ∈ snapshot.vmRates, validVmRecord record = true)
    {selected : SelectedVmTarget Decimal96} {resource : Ec2VmResource Decimal96}
    (hrate : (snapshot.vmRate selected.armSkuName resource.vmPurchaseOption).isSome = true)
    (hdisks : ∀ disk ∈ selected.disks,
      NoRefusal (resolveManagedDiskMonthly snapshot disk) ∧ Sized disk) :
    (∃ target, resolveAzureVmCosts selected resource input = .ok target ∧
        target.costs.isSome = true) ∨
      ∃ fault, resolveAzureVmCosts selected resource input = .error fault := by
  obtain ⟨record, hrecord⟩ := Option.isSome_iff_exists.mp hrate
  obtain ⟨hnoRefusal, hnonneg⟩ := monthlyDisks_priced hpositive hdisks
  unfold resolveAzureVmCosts
  simp only [hinput, hrecord]
  rcases hnoRefusal.attempt with ⟨⟨monthly, urls⟩, hmonthly, hattempt⟩ | ⟨fault, hattempt⟩
  · simp only [hattempt, ok_bind]
    have hcosts := noRefusal_calculateAzureVm (hvm record (List.mem_of_find?_eq_some hrecord))
      (hnonneg monthly urls hmonthly) resource.shared.quantity
      resource.shared.annualHoursPerInstance input.settings
    rcases hcosts.attempt with ⟨costs, -, hattempt⟩ | ⟨fault, hattempt⟩
    · simp only [hattempt, ok_bind]
      exact .inl ⟨_, rfl, rfl⟩
    · simp only [hattempt, error_bind]
      exact .inr ⟨fault, rfl⟩
  · simp only [hattempt, error_bind]
    exact .inr ⟨fault, rfl⟩

/-! ### Agreement -/

theorem billedThroughput_nonneg {offer : ManagedDiskOffer Decimal96}
    {volume : VmVolumeRequirement Decimal96}
    (h : offeredDisk offer volume = .ok (some disk)) :
    0 ≤ value disk.billedAdditionalThroughputMbps := by
  have hzero : value (zero : Decimal96) = 0 := by rw [Decimal96.value_eq, Decimal96.toRat_zero]
  unfold offeredDisk at h
  split at h
  · unfold independentDisk at h
    split at h
    · simp at h
    · obtain ⟨capacity, -, h⟩ := bind_eq_ok.mp h
      split at h
      · simp at h
      · obtain ⟨additional, -, h⟩ := bind_eq_ok.mp h
        cases h
        rw [← hzero]
        exact le_max_right_value _ _
  · obtain ⟨tier, -, rfl⟩ := Option.map_eq_some_iff.mp (Except.ok.inj h)
    exact hzero.ge

theorem sized_of_smallestDisk {catalog : ManagedDiskCatalog Decimal96} {azureRegion : String}
    {volume : VmVolumeRequirement Decimal96} (hvolume : 0 ≤ value volume.capacityGb)
    (h : SmallestDisk catalog azureRegion volume disk) : Sized disk := by
  obtain ⟨offer, -, hoffer⟩ := h.exists_offer
  exact ⟨hvolume.trans (covers_of_offeredDisk hoffer).capacity, billedThroughput_nonneg hoffer⟩

theorem vmVolumeRequirements_nonneg {resource : Ec2VmResource Decimal96}
    (h : Ec2VmAdmitted resource) :
    ∀ volume ∈ vmVolumeRequirements resource, 0 ≤ value volume.capacityGb := by
  intro volume hvolume
  obtain ⟨source, hsource, rfl⟩ := List.mem_map.mp hvolume
  exact h.capacity source (List.mem_of_mem_filter hsource)

/-- A mapped VM whose rate is there has a cost, and a disk passes the price
check just when its cost can be resolved. -/
structure PriceCheckAgrees (vmCatalog : VmCapabilityCatalog Decimal96)
    (diskCatalog : ManagedDiskCatalog Decimal96) (input : CalculationInput Decimal96)
    (resource : Ec2VmResource Decimal96) (snapshot : AzurePriceSnapshot Decimal96) : Prop where
  resolved : ∀ sourceClass sourceVcpu selection selected,
    selectVmTarget vmCatalog diskCatalog (vmTargetRequest input resource sourceClass sourceVcpu) =
      .ok selection →
    selection.mappingStatus = .mapped → selection.selected = some selected →
    (snapshot.vmRate selected.armSkuName resource.vmPurchaseOption).isSome = true →
    (∃ target, resolveAzureVmCosts selected resource input = .ok target ∧
        target.costs.isSome = true) ∨
      ∃ fault, resolveAzureVmCosts selected resource input = .error fault
  priced : ∀ volume ∈ vmVolumeRequirements resource, ∀ disk,
    SmallestDisk diskCatalog input.settings.azureRegion volume disk →
    (managedDiskPriceIsComplete (vmPriceAvailability snapshot) disk = true ↔
      NoRefusal (resolveManagedDiskMonthly snapshot disk))

theorem ratesAgree_iff (hpositive : PositiveDiskRates snapshot) :
    (managedDiskPriceIsComplete (vmPriceAvailability snapshot) disk = true ↔
      NoRefusal (resolveManagedDiskMonthly snapshot disk)) ↔ RatesAgree snapshot disk := by
  rw [managedDiskPriceIsComplete_iff, noRefusal_resolveManagedDiskMonthly_iff hpositive]
  rfl

/-- Premium SSD v2, of which a small volume is billed for its capacity only. -/
def independentOffer : ManagedDiskOffer Decimal96 where
  offerKey := "premium_ssd_v2_lrs"
  displayName := "Premium SSD v2"
  allowedRoles := [.data]
  performanceIsProvisionedIndependently := true
  azureRegions := ["swedencentral"]
  includedIops := some 3000
  includedThroughputMbps := some (ofNat 20)
  maximumIops := 80000
  maximumThroughputMbps := 1200
  capacityIncrementGb := some one
  minimumCapacityGb := some one
  maximumCapacityGb := ofNat 65536
  tiers := []

def ledgerVolume (id : BitVec 128) (role : VmDiskRole) : VmVolume Decimal96 where
  id := ⟨id⟩
  label := "volume"
  awsVolumeId := none
  volumeType := .gp3
  role := role
  capacityGb := ofNat 32
  provisionedIops := some 120
  throughputMibps := some (ofNat 20)

def ledgerServer : Ec2VmResource Decimal96 where
  shared := ⟨⟨3⟩, "ledger", none, 1, ofNat 8, ofNat 8760⟩
  instanceType := "m5.large"
  vmPurchaseOption := .payg
  requirements := ⟨.notApplicable, .notUsed, none, none, .notApplicable, none⟩
  volumes := [ledgerVolume 1 .os, ledgerVolume 2 .data]

def vmRecord : AzureVmRateRecord Decimal96 where
  stableKey := "vm"
  armSkuName := "Standard_D2s_v5"
  purchaseOption := .payg
  hourlyRate := ofScaled 1 1
  licenseHourly := zero
  unitOfMeasure := "1 Hour"
  rawPriceLexeme := "0.1"
  provenance := ⟨"https://prices.example", none, none, []⟩

def diskRecord (stableKey offerKey : String) (tierKey : Option String)
    (dimension : AzureManagedDiskPriceDimension) : AzureManagedDiskRateRecord Decimal96 where
  stableKey := stableKey
  offerKey := offerKey
  tierKey := tierKey
  dimension := dimension
  normalizedMonthlyRate := ofScaled 1 1
  unitOfMeasure := "1 GiB/Month"
  rawPriceLexeme := "0.1"
  provenance := ⟨"https://prices.example", none, none, []⟩

def capacityRecords : List (AzureManagedDiskRateRecord Decimal96) :=
  [diskRecord "capacity" "premium_ssd_v2_lrs" none .capacityGb,
    diskRecord "tier" "standard_ssd_lrs" (some "E10") .capacityTier]

def additionalRecords : List (AzureManagedDiskRateRecord Decimal96) :=
  [diskRecord "iops" "premium_ssd_v2_lrs" none .additionalIops,
    diskRecord "throughput" "premium_ssd_v2_lrs" none .additionalThroughput]

def priceSheet (managedDiskRates : List (AzureManagedDiskRateRecord Decimal96)) :
    Except (Halt SnapshotError) (AzurePriceSnapshot Decimal96) :=
  AzurePriceSnapshot.createWithVmRates (fun _ => "digest")
    ⟨.fresh, "2026-08-10T12:00:00Z", none, "USD", [], "1", []⟩ "swedencentral" [] [vmRecord]
    managedDiskRates

def pricedInput (snapshot : AzurePriceSnapshot Decimal96) : CalculationInput Decimal96 where
  settings := {
    projectType := .ec2Vm
    awsRegion := some "eu-north-1"
    azureRegion := "swedencentral"
    currency := "USD"
    sourceComputeDiscount := zero
    sourceLicenseDiscount := zero
    sourceStorageDiscount := zero
    azureComputeDiscount := zero
    azureLicenseDiscount := zero
    azureStorageDiscount := zero
    selectedParityAdjustment := zero
    defaultAnnualHours := ofNat 8760
    defaultMiPurchaseOption := .payg
    enterpriseLicenseSaUsdPerTwoCorePack := none
    standardLicenseSaUsdPerTwoCorePack := none
    remainingCoverageMonths := none
    electricityRateUsdPerKwh := none
    sqlPayg := none }
  resources := [.ec2Vm ledgerServer]
  awsSnapshot := none
  azureSnapshot := some snapshot
  expectedFormulaVersion := none

def ledgerDisks : ManagedDiskCatalog Decimal96 := ⟨[standardOffer, independentOffer]⟩

end TcoCalculator.Workflow
