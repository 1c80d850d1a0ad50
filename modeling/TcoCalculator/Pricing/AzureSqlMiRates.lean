/-
Which SQL Managed Instance rates the normalizer emits: the sums behind the
eight options of a configuration, its meters, and when its purchase matrix is
one a snapshot takes.
-/
import TcoCalculator.Domain.PriceArithmetic
import TcoCalculator.Pricing.AzureSqlMi

namespace TcoCalculator.AzureSqlMi

open DecimalArith Fallible Halt PriceSnapshot ProviderRows Decimal96

/-! ### Sums of the calculator -/

section Options

variable (context : AzureSqlMiNormalizationContext) (calculator : CalculatorPayload)

/-- The prices of the references to software, or to anything else. -/
def componentPrices (software : Bool) (references : List String) : List Decimal96 :=
  references.filterMap fun reference =>
    match (referencePrice context calculator reference : Except _ (Bool × Decimal96)) with
    | .ok (isSoftware, price) => if isSoftware = software then some price else none
    | .error _ => none

variable {context calculator}

theorem referencePrice_nonneg {reference : String} {software : Bool} {price : Decimal96}
    (h : referencePrice context calculator reference = .ok (software, price)) :
    0 ≤ price.toRat := by
  unfold referencePrice at h
  obtain ⟨⟨offerKey, priceKey⟩, -, h⟩ := bind_eq_ok.mp h
  dsimp only at h
  split at h
  · cases h
  · split at h
    · cases h
    · obtain ⟨parsed, hparsed, h⟩ := bind_eq_ok.mp h
      cases h
      unfold parseNonnegativeDecimal at hparsed
      rcases hprice : (nonnegativeDecimal _ : Option Decimal96) with _ | number
      · rw [hprice] at hparsed
        cases hparsed
      · rw [hprice] at hparsed
        cases hparsed
        exact nonneg_of_nonnegativeDecimal hprice

theorem componentPrices_nonneg {software : Bool} {references : List String} :
    ∀ price ∈ componentPrices context calculator software references, 0 ≤ price.toRat := by
  intro price hprice
  obtain ⟨reference, -, hreference⟩ := List.mem_filterMap.mp hprice
  split at hreference
  · rename_i isSoftware parsed hparsed
    split at hreference
    · cases hreference
      exact referencePrice_nonneg hparsed
    · cases hreference
  · cases hreference

theorem componentPrices_concat_same {references : List String} {reference : String}
    {software : Bool} {price : Decimal96}
    (h : referencePrice context calculator reference = .ok (software, price)) :
    componentPrices context calculator software (references ++ [reference]) =
      componentPrices context calculator software references ++ [price] := by
  apply filterMap_concat_some
  rw [h]
  simp

theorem componentPrices_concat_other (references : List String) {reference : String}
    {software : Bool} {price : Decimal96}
    (h : referencePrice context calculator reference = .ok (software, price)) :
    componentPrices context calculator (!software) (references ++ [reference]) =
      componentPrices context calculator (!software) references := by
  apply filterMap_concat_none
  rw [h]
  simp

variable (context calculator) in
/-- The sums behind a rate. -/
structure SummedTo (references : List String) (rate : OptionRate Decimal96) : Prop where
  compute : sum (componentPrices context calculator false references) = .ok rate.computeHourly
  license : sum (componentPrices context calculator true references) = .ok rate.licenseHourly

theorem SummedTo.add {references : List String} {rate rate' : OptionRate Decimal96}
    {reference : String} (hsums : SummedTo context calculator references rate)
    (h : addReference context calculator rate reference = .ok rate') :
    SummedTo context calculator (references ++ [reference]) rate' := by
  unfold addReference at h
  obtain ⟨⟨software, price⟩, hprice, h⟩ := bind_eq_ok.mp h
  have hprice := checked_eq_ok.mp hprice
  have hadd := liftM_eq_ok.mp h
  have hother := componentPrices_concat_other references hprice
  unfold OptionRate.addPrice at hadd
  rcases software with _ | _
  · obtain ⟨total, htotal, hadd⟩ := bind_eq_ok.mp hadd
    cases hadd
    constructor
    · rw [componentPrices_concat_same hprice]
      exact sum_concat hsums.compute htotal
    · rw [Bool.not_false] at hother
      rw [hother]
      exact hsums.license
  · obtain ⟨total, htotal, hadd⟩ := bind_eq_ok.mp hadd
    cases hadd
    constructor
    · rw [Bool.not_true] at hother
      rw [hother]
      exact hsums.compute
    · rw [componentPrices_concat_same hprice]
      exact sum_concat hsums.license htotal

variable (context calculator) in
/-- What an accepted option rate is. -/
structure OptionPriced (configuration : AzureMiConfiguration) (purchaseOption : PurchaseOption)
    (rate : OptionRate Decimal96) : Prop where
  sums : ∃ references, optionReferences calculator configuration purchaseOption =
    .ok references ∧ SummedTo context calculator references rate
  compute : 0 < rate.computeHourly.toRat
  license : 0 ≤ rate.licenseHourly.toRat
  hybridBenefit : isAhb purchaseOption = true → rate.licenseHourly.toRat = 0

theorem optionPriced_of_rate {configuration : AzureMiConfiguration}
    {purchaseOption : PurchaseOption} {rate : OptionRate Decimal96}
    (h : calculatorOptionRate context calculator configuration purchaseOption = .ok rate) :
    OptionPriced context calculator configuration purchaseOption rate := by
  unfold calculatorOptionRate at h
  obtain ⟨references, hreferences, h⟩ := bind_eq_ok.mp h
  obtain ⟨total, htotal, h⟩ := bind_eq_ok.mp h
  obtain ⟨_, hcheck, h⟩ := bind_eq_ok.mp h
  cases h
  have hsums : SummedTo context calculator references rate := by
    refine foldlM_rule (SummedTo context calculator) htotal ⟨rfl, rfl⟩ ?_
    intro done reference state state' _ hdone hstep
    exact hdone.add hstep
  have hcheck := checked_eq_ok.mp hcheck
  unfold checkOptionRate at hcheck
  split at hcheck
  · cases hcheck
  rename_i hcompute
  split at hcheck
  · cases hcheck
  rename_i hlicense
  constructor
  · exact ⟨references, checked_eq_ok.mp hreferences, hsums⟩
  · exact not_le.mp fun hle => hcompute (.inr hle)
  · exact (sum_cases componentPrices_nonneg hsums.license).1
  · intro hahb
    by_contra hne
    exact hlicense ⟨hahb, hne⟩

theorem lookup_of_forall₂ {configuration : AzureMiConfiguration} {options : List PurchaseOption}
    {rates : List (PurchaseOption × OptionRate Decimal96)}
    (h : List.Forall₂ (fun purchaseOption pair => (do
      let rate ← calculatorOptionRate context calculator configuration purchaseOption
      return (purchaseOption, rate)) = .ok pair) options rates) {purchaseOption : PurchaseOption}
    (hoption : purchaseOption ∈ options) :
    ∃ rate, calculatorOptionRate context calculator configuration purchaseOption = .ok rate ∧
      rates.lookup purchaseOption = some rate := by
  induction h with
  | nil => cases hoption
  | @cons first pair options rates hfirst _ ih =>
      obtain ⟨rate, hrate, hpair⟩ := bind_eq_ok.mp hfirst
      cases hpair
      by_cases hsame : purchaseOption = first
      · subst hsame
        exact ⟨rate, hrate, List.lookup_cons_self⟩
      · obtain ⟨rate', hrate', hlookup⟩ := ih ((List.mem_cons.mp hoption).resolve_left hsame)
        refine ⟨rate', hrate', ?_⟩
        rw [List.lookup_cons, beq_false_of_ne hsame]
        exact hlookup

end Options

/-! ### Retail meters -/

section Retail

variable {context : AzureSqlMiNormalizationContext}

def inScope (context : AzureSqlMiNormalizationContext) (item : RetailItem) : Bool :=
  item.serviceName == "SQL Managed Instance" && item.armRegionName == context.targetRegion &&
    item.priceType == "Consumption"

/-- The items of the region that price consumption. -/
def scopedItems (context : AzureSqlMiNormalizationContext) (pages : List AzureRetailPagePayload) :
    List RetailItem :=
  (pages.flatMap fun page => page.body.getD []).filter (inScope context)

/-- What the meters hold once the items are merged. -/
structure RetailMerged (items : List RetailItem) (rates : RetailRates Decimal96) : Prop where
  storage : ∀ meter, (∃ rate, rates.storage.lookup meter = some rate) ↔
    ∃ item ∈ items, storageMeter item = some meter
  memory : ∀ meter, (∃ rate, rates.memory.lookup meter = some rate) ↔
    ∃ item ∈ items, memoryMeter item = some meter
  storagePositive : ∀ meter rate, rates.storage.lookup meter = some rate → 0 < rate.rate.toRat
  memoryPositive : ∀ meter rate, rates.memory.lookup meter = some rate → 0 < rate.rate.toRat

theorem RetailMerged.empty : RetailMerged [] { storage := ∅, memory := ∅ } where
  storage _ := ⟨fun ⟨_, h⟩ => (nomatch h), fun ⟨_, h, _⟩ => (nomatch h)⟩
  memory _ := ⟨fun ⟨_, h⟩ => (nomatch h), fun ⟨_, h, _⟩ => (nomatch h)⟩
  storagePositive _ _ h := nomatch h
  memoryPositive _ _ h := nomatch h

theorem retailRate_pos {item : RetailItem} {rate : RetailRate Decimal96}
    (h : retailRate item = .ok rate) : 0 < rate.rate.toRat := by
  unfold retailRate at h
  obtain ⟨parsed, -, h⟩ := bind_eq_ok.mp h
  obtain ⟨_, hensure, h⟩ := bind_eq_ok.mp h
  cases h
  exact (ensure_eq_ok.mp hensure).1

theorem mergeMinimumRate_pos {slot : Option (RetailRate Decimal96)}
    {incoming : RetailRate Decimal96} (hslot : ∀ rate, slot = some rate → 0 < rate.rate.toRat)
    (hincoming : 0 < incoming.rate.toRat) : 0 < (mergeMinimumRate slot incoming).rate.toRat := by
  rcases slot with _ | existing
  · exact hincoming
  · unfold mergeMinimumRate
    dsimp only
    split_ifs
    · exact hincoming
    · exact hslot existing rfl
    · exact hslot existing rfl

theorem mergeLatestRate_pos {slot : Option (RetailRate Decimal96)}
    {incoming merged : RetailRate Decimal96}
    (hslot : ∀ rate, slot = some rate → 0 < rate.rate.toRat) (hincoming : 0 < incoming.rate.toRat)
    (h : mergeLatestRate slot incoming = .ok merged) : 0 < merged.rate.toRat := by
  rcases slot with _ | existing
  · cases h
    exact hincoming
  · unfold mergeLatestRate at h
    dsimp only at h
    split_ifs at h
    · cases h
      exact hincoming
    · cases h
      exact hslot existing rfl
    · cases h
      exact hslot _ rfl

theorem memoryMeter_of_storageMeter {item : RetailItem} {meter : RetailTier × Bool}
    (h : storageMeter item = some meter) : memoryMeter item = none := by
  unfold storageMeter at h
  split at h
  · rename_i hstorage
    simp [memoryMeter, hstorage]
  · cases h

/-- One more slot of a map, one more item at its meter. -/
theorem exists_insert_iff {κ : Type} [DecidableEq κ] {map : HashMap κ (RetailRate Decimal96)}
    {items : List RetailItem} {item : RetailItem} {meterOf : RetailItem → Option κ} {meter : κ}
    {rate : RetailRate Decimal96} (hmeter : meterOf item = some meter)
    (h : ∀ other, (∃ stored, map.lookup other = some stored) ↔
      ∃ earlier ∈ items, meterOf earlier = some other) (other : κ) :
    (∃ stored, (map.insert meter rate).lookup other = some stored) ↔
      ∃ earlier ∈ items ++ [item], meterOf earlier = some other := by
  by_cases hsame : other = meter
  · subst hsame
    exact ⟨fun _ => ⟨item, List.mem_append_right _ List.mem_cons_self, hmeter⟩,
      fun _ => ⟨rate, AList.lookup_insert map⟩⟩
  · rw [AList.lookup_insert_ne hsame, h other]
    constructor
    · rintro ⟨earlier, hmem, hearlier⟩
      exact ⟨earlier, List.mem_append_left _ hmem, hearlier⟩
    · rintro ⟨earlier, hmem, hearlier⟩
      rcases List.mem_append.mp hmem with hold | hnew
      · exact ⟨earlier, hold, hearlier⟩
      · rw [List.mem_singleton.mp hnew, hmeter] at hearlier
        exact absurd (Option.some.inj hearlier).symm hsame

/-- An item without a meter adds none. -/
theorem exists_concat_iff {κ : Type} {items : List RetailItem} {item : RetailItem}
    {meterOf : RetailItem → Option κ} (hmeter : meterOf item = none) (other : κ) :
    (∃ earlier ∈ items ++ [item], meterOf earlier = some other) ↔
      ∃ earlier ∈ items, meterOf earlier = some other := by
  constructor
  · rintro ⟨earlier, hmem, hearlier⟩
    rcases List.mem_append.mp hmem with hold | hnew
    · exact ⟨earlier, hold, hearlier⟩
    · rw [List.mem_singleton.mp hnew, hmeter] at hearlier
      cases hearlier
  · rintro ⟨earlier, hmem, hearlier⟩
    exact ⟨earlier, List.mem_append_left _ hmem, hearlier⟩

theorem RetailMerged.add {items : List RetailItem} {rates rates' : RetailRates Decimal96}
    {item : RetailItem} (hmerged : RetailMerged items rates)
    (h : addRetailItem context rates item = .ok rates') :
    RetailMerged (items ++ [item].filter (inScope context)) rates' := by
  have hskip : inScope context item = false →
      items ++ [item].filter (inScope context) = items := by
    intro hscope
    rw [List.filter_singleton, hscope, cond_false, List.append_nil]
  unfold addRetailItem at h
  split at h
  · rename_i hother
    cases h
    rw [hskip]
    · exact hmerged
    · rcases hother with hservice | hregion
      · simp [inScope, hservice]
      · simp [inScope, hregion]
  rename_i hscope
  push Not at hscope
  split at h
  · cases h
  split at h
  · rename_i hother
    cases h
    rw [hskip]
    · exact hmerged
    · simp [inScope, hother]
  rename_i htype
  have hkept : inScope context item = true := by
    simp [inScope, hscope.1, hscope.2, not_not.mp htype]
  rw [List.filter_singleton, hkept, cond_true]
  split at h
  · rename_i meter _ hmeter
    obtain ⟨rate, hrate, h⟩ := bind_eq_ok.mp h
    cases h
    have hnone := memoryMeter_of_storageMeter hmeter
    constructor
    · exact exists_insert_iff hmeter hmerged.storage
    · intro other
      rw [exists_concat_iff hnone]
      exact hmerged.memory other
    · intro other stored hlookup
      rcases HashMap.lookup_insert_eq_some hlookup with ⟨rfl, rfl⟩ | ⟨-, hlookup⟩
      · exact mergeMinimumRate_pos (hmerged.storagePositive other) (retailRate_pos hrate)
      · exact hmerged.storagePositive other stored hlookup
    · exact hmerged.memoryPositive
  · rename_i meter hnone hmeter
    obtain ⟨rate, hrate, h⟩ := bind_eq_ok.mp h
    obtain ⟨merged, hmerge, h⟩ := bind_eq_ok.mp h
    cases h
    constructor
    · intro other
      rw [exists_concat_iff hnone]
      exact hmerged.storage other
    · exact exists_insert_iff hmeter hmerged.memory
    · exact hmerged.storagePositive
    · intro other stored hlookup
      rcases HashMap.lookup_insert_eq_some hlookup with ⟨rfl, rfl⟩ | ⟨-, hlookup⟩
      · exact mergeLatestRate_pos (hmerged.memoryPositive other) (retailRate_pos hrate) hmerge
      · exact hmerged.memoryPositive other stored hlookup
  · rename_i hstorage hmemory
    cases h
    constructor
    · intro other
      rw [exists_concat_iff hstorage]
      exact hmerged.storage other
    · intro other
      rw [exists_concat_iff hmemory]
      exact hmerged.memory other
    · exact hmerged.storagePositive
    · exact hmerged.memoryPositive

theorem retailMerged_of_pages {pages : List AzureRetailPagePayload}
    {rates : RetailRates Decimal96} (h : normalizeRetailRates context pages = .ok rates) :
    RetailMerged (scopedItems context pages) rates := by
  refine foldlM_rule (fun done state => RetailMerged (scopedItems context done) state) h
    .empty ?_
  intro done page state state' _ hdone hstep
  unfold addRetailPage at hstep
  split at hstep
  · cases hstep
  rcases hbody : page.body with _ | items
  · simp only [hbody] at hstep
    cases hstep
  simp only [hbody] at hstep
  have hitems : scopedItems context (done ++ [page]) = scopedItems context done ++
      items.filter (inScope context) := by
    rw [scopedItems, List.flatMap_append, List.filter_append, List.flatMap_singleton, hbody]
    rfl
  rw [hitems]
  refine foldlM_rule (fun earlier state => RetailMerged (scopedItems context done ++
    earlier.filter (inScope context)) state) hstep ?_ ?_
  · rw [List.filter_nil, List.append_nil]
    exact hdone
  · intro earlier item state state' _ hearlier hitem
    rw [List.filter_append, ← List.append_assoc]
    exact hearlier.add hitem

end Retail

end TcoCalculator.AzureSqlMi
