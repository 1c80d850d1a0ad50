/-
When the Azure normalizers leave the same rates for the same retail items in
any order.
-/
import TcoCalculator.Pricing.AzureMiRatesAccepted
import TcoCalculator.Pricing.AzureSqlMiOrder
import TcoCalculator.Pricing.AzureVmOrder
import TcoCalculator.Pricing.AzureVmRatesAccepted

namespace TcoCalculator

open DecimalArith Fallible Halt ProviderRows RetailOrder

namespace AzureVm

variable {targetRegion : String} {rates rates' : RetailRates}

/-! ### Records -/

/-- A machine's record without the texts it was read from. -/
structure VmFigures where
  stableKey : String
  armSkuName : String
  purchaseOption : VmPurchaseOption
  hourlyRate : ℚ
  licenseHourly : ℚ
  unitOfMeasure : String
  effectiveAt : Option String

def vmFigures (record : AzureVmRateRecord Decimal96) : VmFigures where
  stableKey := record.stableKey
  armSkuName := record.armSkuName
  purchaseOption := record.purchaseOption
  hourlyRate := value record.hourlyRate
  licenseHourly := value record.licenseHourly
  unitOfMeasure := record.unitOfMeasure
  effectiveAt := record.provenance.effectiveAt

/-- A disk's record without the texts it was read from. -/
structure DiskFigures where
  stableKey : String
  offerKey : String
  tierKey : Option String
  dimension : AzureManagedDiskPriceDimension
  normalizedMonthlyRate : ℚ
  unitOfMeasure : String
  effectiveAt : Option String

def diskFigures (record : AzureManagedDiskRateRecord Decimal96) : DiskFigures where
  stableKey := record.stableKey
  offerKey := record.offerKey
  tierKey := record.tierKey
  dimension := record.dimension
  normalizedMonthlyRate := value record.normalizedMonthlyRate
  unitOfMeasure := record.unitOfMeasure
  effectiveAt := record.provenance.effectiveAt

/-- The same rates with the same effective dates, and the same warnings. -/
structure SameRates (left right : AzureVmPricingNormalization) : Prop where
  vmRecords : left.vmRecords.map vmFigures = right.vmRecords.map vmFigures
  managedDiskRecords :
    left.managedDiskRecords.map diskFigures = right.managedDiskRecords.map diskFigures
  warnings : left.warnings = right.warnings

/-- A looked-up rate has its counterpart where the meters show the same. -/
theorem lookup_terms {κ : Type} [DecidableEq κ] {map map' : HashMap κ RetailRate} {key : κ}
    (h : (map.lookup key).map RetailRate.terms = (map'.lookup key).map RetailRate.terms) :
    (map.lookup key = none ∧ map'.lookup key = none) ∨ ∃ rate rate',
      map.lookup key = some rate ∧ map'.lookup key = some rate' ∧ rate.terms = rate'.terms := by
  cases hleft : map.lookup key with
  | none =>
      rw [hleft, Option.map_none, eq_comm, Option.map_eq_none_iff] at h
      exact .inl ⟨rfl, h⟩
  | some rate =>
      rw [hleft, Option.map_some, eq_comm, Option.map_eq_some_iff] at h
      obtain ⟨rate', hright, hterms⟩ := h
      exact .inr ⟨rate, rate', rfl, hright, hterms.symm⟩

section Machine

variable {vm : ExpectedVm} {compute compute' windows windows' : RetailRate}
  {license license' : Decimal96}

theorem terms_eq {rate rate' : RetailRate} (h : rate.terms = rate'.terms) :
    rate.rate.toRat = rate'.rate.toRat ∧ rate.unitOfMeasure = rate'.unitOfMeasure ∧
      rate.effectiveStartDate = rate'.effectiveStartDate := by
  rwa [RetailRate.terms, RetailRate.terms, MeterPrice.mk.injEq] at h

theorem vmRecord_follows (hcompute : compute.terms = compute'.terms)
    (hwindows : windows.terms = windows'.terms) (hlicense : license.toRat = license'.toRat)
    (purchaseOption : VmPurchaseOption) :
    Follows (fun record record' => vmFigures record = vmFigures record')
      (vmRecord targetRegion vm purchaseOption compute windows license)
      (vmRecord targetRegion vm purchaseOption compute' windows' license') := by
  obtain ⟨hrate, hunit, hstart⟩ := terms_eq hcompute
  obtain ⟨-, -, hwindowsStart⟩ := terms_eq hwindows
  refine (Decimal96.add_follows hrate hlicense).bind fun hourly hourly' hhourly => .ok ?_
  rw [vmFigures, vmFigures, VmFigures.mk.injEq]
  refine ⟨rfl, rfl, rfl, hhourly, hlicense, hunit, ?_⟩
  dsimp only
  rw [hstart, hwindowsStart]

theorem vmOptionPair_follows (hcompute : compute.terms = compute'.terms)
    (hwindows : windows.terms = windows'.terms) (hlicense : license.toRat = license'.toRat)
    (options : VmPurchaseOption × VmPurchaseOption) :
    Follows (fun records records' => records.map vmFigures = records'.map vmFigures)
      (vmOptionPair targetRegion vm options compute windows license)
      (vmOptionPair targetRegion vm options compute' windows' license') := by
  obtain ⟨hrate, hunit, -⟩ := terms_eq hcompute
  obtain ⟨-, hwindowsUnit, -⟩ := terms_eq hwindows
  refine (follows_checked (Follows.ensure ?_)).bind fun _ _ _ => ?_
  · rw [Decimal96.value_eq, Decimal96.value_eq, Decimal96.value_eq, Decimal96.value_eq, hrate, hunit,
      hwindowsUnit, hlicense]
    exact id
  refine (follows_lift (vmRecord_follows hcompute hwindows hlicense options.1)).bind
    fun licensed licensed' hlicensed => ?_
  refine (follows_lift (vmRecord_follows hcompute hwindows rfl options.2)).bind
    fun ahb ahb' hahb => .ok ?_
  simp [hlicensed, hahb]

end Machine

section Outcomes

variable (hprices : rates.prices = rates'.prices)
include hprices

/-- Outcomes with the same rates and the same warnings. -/
def SameOutcome (left right : VmOutcome) : Prop :=
  left.records.map vmFigures = right.records.map vmFigures ∧ left.warnings = right.warnings

theorem addCommitment_follows {vm : ExpectedVm} {linux linux' windows windows' : RetailRate}
    {license license' : Decimal96} (hlinux : linux.terms = linux'.terms)
    (hwindows : windows.terms = windows'.terms) (hlicense : license.toRat = license'.toRat)
    {outcome outcome' : VmOutcome} (houtcome : SameOutcome outcome outcome')
    (option : CommitmentOption) :
    Follows SameOutcome
      (addCommitment targetRegion vm rates linux windows license outcome option)
      (addCommitment targetRegion vm rates' linux' windows' license' outcome' option) := by
  rw [addCommitment, addCommitment]
  have hterms := congrFun hprices (.commitment (vm.key, option.commitment))
  rcases lookup_terms hterms with ⟨hleft, hright⟩ | ⟨compute, compute', hleft, hright, hcompute⟩
  · rw [hleft, hright]
    exact .ok ⟨houtcome.1, congrArg (· ++ _) houtcome.2⟩
  · rw [hleft, hright]
    refine (follows_checked (Follows.ensure ?_)).bind fun _ _ _ => ?_
    · rw [Decimal96.value_eq, Decimal96.value_eq, Decimal96.value_eq, Decimal96.value_eq,
        (terms_eq hcompute).1, (terms_eq hlinux).1]
      exact id
    refine (vmOptionPair_follows hcompute hwindows hlicense option.options).bind
      fun pair pair' hpair => .ok ⟨?_, houtcome.2⟩
    simp [hpair, houtcome.1]

theorem vmOutcome_follows (vm : ExpectedVm) :
    Follows SameOutcome (vmOutcome targetRegion rates vm) (vmOutcome targetRegion rates' vm) := by
  rw [vmOutcome, vmOutcome]
  have hlinux := congrFun hprices (.linux vm.key)
  have hwindows := congrFun hprices (.windows vm.key)
  rcases lookup_terms hlinux with ⟨hleft, hright⟩ | ⟨linux, linux', hleft, hright, hlinux⟩
  · rw [hleft, hright]
    exact .ok ⟨rfl, rfl⟩
  rw [hleft, hright]
  rcases lookup_terms hwindows with ⟨hleft, hright⟩ | ⟨windows, windows', hleft, hright, hwindows⟩
  · rw [hleft, hright]
    exact .ok ⟨rfl, rfl⟩
  rw [hleft, hright]
  refine (follows_lift (Decimal96.sub_follows (terms_eq hwindows).1 (terms_eq hlinux).1)).bind
    fun license license' hlicense => ?_
  refine (follows_checked (Follows.ensure ?_)).bind fun _ _ _ => ?_
  · rw [Decimal96.value_eq, Decimal96.value_eq, hlicense]
    exact id
  refine (vmOptionPair_follows hlinux hwindows hlicense _).bind fun pair pair' hpair => ?_
  exact Follows.foldlM commitmentOptions ⟨hpair, rfl⟩ fun outcome outcome' houtcome option _ =>
    addCommitment_follows hprices hlinux hwindows hlicense houtcome option

theorem tierRecord_follows (tierKey : String) :
    Follows (fun record record' => diskFigures record = diskFigures record')
      (tierRecord targetRegion rates.tiers tierKey)
      (tierRecord targetRegion rates'.tiers tierKey) := by
  rw [tierRecord, tierRecord]
  rcases lookup_terms (congrFun hprices (.tier tierKey)) with
    ⟨hleft, hright⟩ | ⟨rate, rate', hleft, hright, hterms⟩
  · rw [hleft]
    exact .error _ _
  · rw [hleft, hright]
    obtain ⟨hrate, hunit, hstart⟩ := terms_eq hterms
    refine .ok ?_
    rw [diskFigures, diskFigures, DiskFigures.mk.injEq]
    exact ⟨rfl, rfl, rfl, rfl, hrate, hunit, congrArg some hstart⟩

theorem checkIncluded_follows (dimension : AzureManagedDiskPriceDimension) (paidTierMinimum : ℕ) :
    Follows (fun (_ _ : Unit) => True) (checkIncluded rates.v2 dimension paidTierMinimum)
      (checkIncluded rates'.v2 dimension paidTierMinimum) := by
  rw [checkIncluded, checkIncluded]
  split_ifs with hfree
  · exact .ok trivial
  rcases lookup_terms (congrFun hprices (.v2 (dimension, 0))) with
    ⟨hleft, hright⟩ | ⟨rate, rate', hleft, hright, hterms⟩
  · rw [hleft]
    exact .error _ _
  · rw [hleft, hright]
    refine Follows.ensure ?_
    rw [Decimal96.value_eq, Decimal96.value_eq, (terms_eq hterms).1]
    exact id

theorem v2Record_follows (dimension : AzureManagedDiskPriceDimension) (paidTierMinimum : ℕ) :
    Follows (fun record record' => diskFigures record = diskFigures record')
      (v2Record targetRegion rates.v2 dimension paidTierMinimum)
      (v2Record targetRegion rates'.v2 dimension paidTierMinimum) := by
  rw [v2Record, v2Record]
  refine (follows_checked (checkIncluded_follows hprices dimension paidTierMinimum)).bind
    fun _ _ _ => ?_
  rcases lookup_terms (congrFun hprices (.v2 (dimension, (paidTierMinimum : ℚ)))) with
    ⟨hleft, hright⟩ | ⟨rate, rate', hleft, hright, hterms⟩
  · rw [hleft]
    exact .error _ _
  rw [hleft, hright]
  obtain ⟨hrate, hunit, hstart⟩ := terms_eq hterms
  change Follows _ (checked (ensure (0 < value rate.rate) _) >>= fun _ => _)
    (checked (ensure (0 < value rate'.rate) _) >>= fun _ => _)
  refine (follows_checked (Follows.ensure ?_)).bind fun _ _ _ => ?_
  · rw [Decimal96.value_eq, Decimal96.value_eq, hrate]
    exact id
  refine (Follows.refl (okOr (dimensionKey dimension)
    AzureVmPricingNormalizationError.invalidValue)).bind ?_
  rintro key _ rfl
  refine (follows_lift (Decimal96.mul_follows hrate rfl)).bind fun monthly monthly' hmonthly => .ok ?_
  rw [diskFigures, diskFigures, DiskFigures.mk.injEq]
  exact ⟨rfl, rfl, rfl, rfl, hmonthly, hunit, congrArg some hstart⟩

end Outcomes

section Normalization

variable {D : Type} {context : AzureVmPricingContext} {vmCatalog : VmCapabilityCatalog D}
  {diskCatalog : ManagedDiskCatalog D} {pages pages' : List AzureVmRetailPagePayload}

theorem sameOutcomes {outcomes outcomes' : List VmOutcome}
    (h : List.Forall₂ SameOutcome outcomes outcomes') :
    ((outcomes.map VmOutcome.records).flatten).map vmFigures =
        ((outcomes'.map VmOutcome.records).flatten).map vmFigures ∧
      (outcomes.map VmOutcome.warnings).flatten = (outcomes'.map VmOutcome.warnings).flatten := by
  induction h with
  | nil => exact ⟨rfl, rfl⟩
  | cons hhead _ ih =>
      obtain ⟨hrecords, hwarnings⟩ := ih
      constructor
      · rw [List.map_cons, List.map_cons, List.flatten_cons, List.flatten_cons, List.map_append,
          List.map_append, hhead.1, hrecords]
      · rw [List.map_cons, List.map_cons, List.flatten_cons, List.flatten_cons, hhead.2, hwarnings]

theorem map_eq_of_forall₂ {α β : Type} {view : α → β} {xs ys : List α}
    (h : List.Forall₂ (fun x y => view x = view y) xs ys) : xs.map view = ys.map view := by
  rwa [← List.forall₂_eq_eq_eq, List.forall₂_map_left_iff, List.forall₂_map_right_iff]

/-- Retail rates with the same terms leave the same records. -/
theorem normalizeAzureVmPricing_follows {tierKeys : List String}
    (htiers : expectedTiers diskCatalog = .ok tierKeys)
    (hscope : validateScope context vmCatalog diskCatalog pages = .ok () →
      validateScope context vmCatalog diskCatalog pages' = .ok ())
    (hrates : normalizeRetailRates context (expectedVms context vmCatalog) tierKeys pages = .ok rates)
    (hrates' : normalizeRetailRates context (expectedVms context vmCatalog) tierKeys pages' =
      .ok rates') (hprices : rates.prices = rates'.prices) :
    Follows SameRates (normalizeAzureVmPricing context vmCatalog diskCatalog pages)
      (normalizeAzureVmPricing context vmCatalog diskCatalog pages') := by
  have hvalid : Follows (fun (_ _ : Unit) => True)
      (validateScope context vmCatalog diskCatalog pages)
      (validateScope context vmCatalog diskCatalog pages') :=
    fun _ h => ⟨(), hscope h, trivial⟩
  rw [normalizeAzureVmPricing, normalizeAzureVmPricing, htiers]
  refine (follows_checked hvalid).bind fun _ _ _ => ?_
  change Follows _ (normalizeRetailRates context (expectedVms context vmCatalog) tierKeys pages >>=
    fun _ => _) (normalizeRetailRates context (expectedVms context vmCatalog) tierKeys pages' >>=
      fun _ => _)
  rw [hrates, hrates', ok_bind, ok_bind]
  refine (Follows.mapM_same _ fun vm : String × String =>
    vmOutcome_follows hprices ⟨vm.1, vm.2⟩).bind
    fun outcomes outcomes' houtcomes => ?_
  obtain ⟨hrecords, hwarnings⟩ := sameOutcomes houtcomes
  refine (follows_checked (Follows.ensure ?_)).bind fun _ _ _ => ?_
  · rw [ne_eq, ne_eq, ← List.map_eq_nil_iff (f := vmFigures), hrecords, List.map_eq_nil_iff]
    exact id
  refine (follows_checked (Follows.mapM_same tierKeys (tierRecord_follows hprices))).bind
    fun tiers tiers' htiers => ?_
  refine (Follows.mapM_same v2Dimensions fun dimension =>
    v2Record_follows hprices dimension.1 dimension.2).bind fun v2 v2' hv2 => .ok ⟨?_, ?_, ?_⟩
  · exact map_insertionSort_eq VmFigures.stableKey hrecords
  · refine map_insertionSort_eq DiskFigures.stableKey ?_
    rw [List.map_append, List.map_append, map_eq_of_forall₂ htiers, map_eq_of_forall₂ hv2]
  · dsimp only
    rw [hwarnings]

theorem validateScope_reordered (h : Reordered pages pages')
    (hscope : validateScope context vmCatalog diskCatalog pages = .ok ()) :
    validateScope context vmCatalog diskCatalog pages' = .ok () := by
  have hempty : pages' = [] → pages = [] := by
    rintro rfl
    exact List.map_eq_nil_iff.mp h.documents.eq_nil
  rw [validateScope] at hscope ⊢
  split_ifs at hscope with hinvalid hmissing
  rw [if_neg, if_neg hmissing]
  rintro (hregion | hcurrency | hpages)
  · exact hinvalid (.inl hregion)
  · exact hinvalid (.inr (.inl hcurrency))
  · exact hinvalid (.inr (.inr (hempty hpages)))

/-- The prices of an item for the machines and tiers in scope. -/
def scopedPrices (context : AzureVmPricingContext) (vmCatalog : VmCapabilityCatalog D)
    (diskCatalog : ManagedDiskCatalog D) : RetailItem → Option (List (Meter × MeterPrice)) :=
  itemPrices context (expectedVms context vmCatalog)
    ((expectedTiers diskCatalog).toOption.getD [])

theorem accepted_rates {normalization : AzureVmPricingNormalization}
    (h : normalizeAzureVmPricing context vmCatalog diskCatalog pages = .ok normalization) :
    validateScope context vmCatalog diskCatalog pages = .ok () ∧
      ∃ tierKeys rates, expectedTiers diskCatalog = .ok tierKeys ∧
        normalizeRetailRates context (expectedVms context vmCatalog) tierKeys pages = .ok rates := by
  obtain ⟨_, hscope, h⟩ := bind_eq_ok.mp h
  obtain ⟨tierKeys, htiers, h⟩ := bind_eq_ok.mp h
  obtain ⟨rates, hrates, -⟩ := bind_eq_ok.mp h
  exact ⟨checked_eq_ok.mp hscope, tierKeys, rates, checked_eq_ok.mp htiers, hrates⟩

/-- An accepted input keeps its rates in every order of the retail items exactly
when no two prices of one meter and one date differ. -/
theorem reordered_iff {normalization : AzureVmPricingNormalization}
    (h : normalizeAzureVmPricing context vmCatalog diskCatalog pages = .ok normalization) :
    (∀ pages', Reordered pages pages' → ∃ normalization',
      normalizeAzureVmPricing context vmCatalog diskCatalog pages' = .ok normalization' ∧
        SameRates normalization normalization') ↔
      Undisputed noMeter (scopedPrices context vmCatalog diskCatalog) pages := by
  obtain ⟨hscope, tierKeys, rates, htiers, hrates⟩ := accepted_rates h
  have hprices : scopedPrices context vmCatalog diskCatalog =
      itemPrices context (expectedVms context vmCatalog) tierKeys := by
    rw [scopedPrices, htiers]
    rfl
  rw [hprices]
  constructor
  · intro hall
    refine undisputed_of_reordered itemPrices_start fun pages' hpages' => ?_
    obtain ⟨normalization', h', -⟩ := hall pages' hpages'
    obtain ⟨-, tierKeys', rates', htiers', hrates'⟩ := accepted_rates h'
    obtain rfl := Except.ok.inj (htiers.symm.trans htiers')
    exact ⟨rates'.prices, by rw [← normalizeRetailRates_prices, hrates']; rfl⟩
  · intro hundisputed pages' hpages'
    have hmeters : (normalizeRetailRates context (expectedVms context vmCatalog) tierKeys
        pages).toOption.map RetailRates.prices =
          meterRates noMeter (itemPrices context (expectedVms context vmCatalog) tierKeys) pages :=
      normalizeRetailRates_prices pages
    rw [hrates] at hmeters
    have hmeters' := meterRates_reordered hpages' hundisputed hmeters.symm
    rw [← normalizeRetailRates_prices] at hmeters'
    obtain ⟨rates', hrates', hsame⟩ := Option.map_eq_some_iff.mp hmeters'
    exact normalizeAzureVmPricing_follows htiers (validateScope_reordered hpages') hrates
      (toOption_eq_some.mp hrates') hsame.symm normalization h

end Normalization

end AzureVm

/-! ### Any order -/

/-- Every order of the retail items is accepted and leaves the same rates with
the same effective dates. -/
def AcceptedVm.AnyOrder (input : AcceptedVm) : Prop :=
  ∀ pages, Reordered input.pages pages → ∃ normalization,
    AzureVm.normalizeAzureVmPricing input.context input.vmCatalog input.diskCatalog pages =
        .ok normalization ∧
      AzureVm.SameRates (Option.get _ input.accepted) normalization

def AcceptedMi.AnyOrder (input : AcceptedMi) : Prop :=
  ∀ pages, Reordered input.pages pages →
    ∃ normalization : AzureSqlMi.AzureSqlMiNormalization Decimal96,
      AzureSqlMi.normalizeAzureSqlMi input.context input.configurations (some input.calculator)
          pages = .ok normalization ∧
        AzureSqlMi.SameRates (Option.get _ input.accepted) normalization

/-- No two prices of one machine, commitment or disk meter have one effective
date but another price or unit. -/
def AcceptedVm.Undisputed (input : AcceptedVm) : Prop :=
  RetailOrder.Undisputed AzureVm.noMeter
    (AzureVm.scopedPrices input.context input.vmCatalog input.diskCatalog) input.pages

/-- No two prices of one memory meter have one effective date but another price. -/
def AcceptedMi.Undisputed (input : AcceptedMi) : Prop :=
  RetailOrder.Undisputed AzureSqlMi.isStorage (AzureSqlMi.itemPrices Decimal96 input.context)
    input.pages

namespace SupersededWitness

open AzureVmRatesWitness (vmItem)

/-- Two superseded prices of the Linux machine. -/
def supersededVm : List AzureVm.RetailItem :=
  ["2", "3"].map fun price => { vmItem "Virtual Machines Esv5 Series" "Consumption" price none with
    effectiveStartDate := "2025-01-01T00:00:00Z" }

def vmPage (items : List AzureVm.RetailItem) : AzureVm.AzureVmRetailPagePayload where
  sourceUrl := "https://prices.example/retail"
  body := some items

def currentVm : List AzureVm.RetailItem := (AzureVmRatesWitness.page "4380").body.getD []

def memoryItem (price start : String) : AzureSqlMi.RetailItem where
  serviceName := "SQL Managed Instance"
  armRegionName := "westeurope"
  currencyCode := "USD"
  productName := "SQL Managed Instance General Purpose - Premium Series"
  skuName := "Additional Memory"
  meterName := "Memory"
  unitOfMeasure := "1 GB/Hour"
  priceType := "Consumption"
  retailPrice := price
  effectiveStartDate := start
  meterId := price

def supersededMi : List AzureSqlMi.RetailItem :=
  [memoryItem "2" "2025-01-01T00:00:00Z", memoryItem "3" "2025-01-01T00:00:00Z"]

def currentMi : List AzureSqlMi.RetailItem :=
  memoryItem "1" "2026-01-01T00:00:00Z" :: AzureMiRatesWitness.page.body.getD []

def miPage (items : List AzureSqlMi.RetailItem) : AzureSqlMi.AzureRetailPagePayload where
  sourceUrl := "https://prices.example/retail"
  body := some items

/-- The current prices come first. -/
def newestFirstVm : AcceptedVm :=
  ⟨AzureVmRatesWitness.context, ⟨[AzureVmRatesWitness.candidate]⟩, AzureVmRatesWitness.diskCatalog,
    [vmPage (currentVm ++ supersededVm)], by decide +kernel⟩

def newestFirstMi : AcceptedMi :=
  ⟨AzureMiRatesWitness.context, [AzureMiRatesWitness.configuration],
    AzureMiRatesWitness.calculator "0.4", [miPage (currentMi ++ supersededMi)], by decide +kernel⟩

end SupersededWitness

end TcoCalculator
