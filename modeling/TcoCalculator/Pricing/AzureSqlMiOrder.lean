/-
The retail items of the SQL MI normalizer in any order: which rates they leave,
and what the records take of them.
-/
import TcoCalculator.Domain.DecimalValues
import TcoCalculator.Pricing.AzureSqlMi
import TcoCalculator.Pricing.RetailOrder

namespace TcoCalculator.AzureSqlMi

open DecimalArith Fallible Halt ProviderRows RetailOrder

variable {D : Type} [DecimalArith D] {context : AzureSqlMiNormalizationContext}

instance : RetailPages AzureRetailPagePayload RetailItem where
  page := AzureRetailPagePayload.mk
  sourceUrl := AzureRetailPagePayload.sourceUrl
  items := AzureRetailPagePayload.body
  sourceUrl_page _ _ := rfl
  items_page _ _ := rfl

/-! ### Meters -/

/-- A meter of data storage or one of additional memory. -/
abbrev Meter := RetailTier × Bool ⊕ Bool

def isStorage : Meter → Bool := Sum.isLeft

def RetailRate.dated (rate : RetailRate D) : MeterPrice :=
  ⟨value rate.rate, "", rate.effectiveStartDate⟩

/-- The prices an item has for the meters. -/
def itemPrices (D : Type) [DecimalArith D] (context : AzureSqlMiNormalizationContext)
    (item : RetailItem) : Option (List (Meter × MeterPrice)) :=
  if item.serviceName ≠ "SQL Managed Instance" ∨ item.armRegionName ≠ context.targetRegion then
    some []
  else if item.currencyCode ≠ context.currency then none
  else if item.priceType ≠ "Consumption" then some []
  else
    let price := (retailRate item : Except _ (RetailRate D)).toOption.map RetailRate.dated
    match storageMeter item, memoryMeter item with
    | some meter, _ => price.map fun price => [(.inl meter, price)]
    | none, some meter => price.map fun price => [(.inr meter, price)]
    | none, none => some []

/-- What the retail rates say of a meter: of storage only the price. -/
def RetailRates.prices (rates : RetailRates D) : Meter → Option MeterPrice
  | .inl meter => (rates.storage.lookup meter).map fun rate => ⟨value rate.rate, "", ""⟩
  | .inr meter => (rates.memory.lookup meter).map RetailRate.dated

theorem prices_insert_storage (rates : RetailRates D) (meter : RetailTier × Bool)
    (rate : RetailRate D) :
    RetailRates.prices { rates with storage := rates.storage.insert meter rate } =
      Function.update rates.prices (.inl meter) (some ⟨value rate.rate, "", ""⟩) := by
  funext key
  by_cases hkey : key = .inl meter
  · subst hkey
    simp [RetailRates.prices]
  · rw [Function.update_of_ne hkey]
    cases key with
    | inl other =>
        have hother : other ≠ meter := fun heq => hkey (congrArg Sum.inl heq)
        simp [RetailRates.prices, AList.lookup_insert_ne hother]
    | inr other => rfl

theorem prices_insert_memory (rates : RetailRates D) (meter : Bool) (rate : RetailRate D) :
    RetailRates.prices { rates with memory := rates.memory.insert meter rate } =
      Function.update rates.prices (.inr meter) (some rate.dated) := by
  funext key
  by_cases hkey : key = .inr meter
  · subst hkey
    simp [RetailRates.prices]
  · rw [Function.update_of_ne hkey]
    cases key with
    | inl other => rfl
    | inr other =>
        have hother : other ≠ meter := fun heq => hkey (congrArg Sum.inr heq)
        simp [RetailRates.prices, AList.lookup_insert_ne hother]

theorem mergeMinimumRate_price (slot : Option (RetailRate D)) (incoming : RetailRate D) :
    some ⟨value (mergeMinimumRate slot incoming).rate, "", ""⟩ =
      cheaper (slot.map fun rate => ⟨value rate.rate, "", ""⟩) incoming.dated := by
  cases slot with
  | none => rfl
  | some existing =>
      rw [mergeMinimumRate, cheaper]
      split_ifs with hless heq
      · simp [RetailRate.dated, min_eq_right hless.le]
      · simp [RetailRate.dated, RetailRate.merge, heq]
      · simp [RetailRate.dated, min_eq_left (not_lt.mp hless)]

theorem mergeLatestRate_price (slot : Option (RetailRate D)) (incoming : RetailRate D) :
    (mergeLatestRate slot incoming).toOption.map (fun rate => some rate.dated) =
      Latest.merge MeterPrice.start (slot.map RetailRate.dated) incoming.dated := by
  cases slot with
  | none => rfl
  | some existing =>
      rw [mergeLatestRate, Option.map_some]
      by_cases hlater : existing.effectiveStartDate < incoming.effectiveStartDate
      · have hdated : existing.dated.start < incoming.dated.start := hlater
        rw [if_pos hlater, Latest.merge_later hdated]
        rfl
      · rw [if_neg hlater]
        have hlater : ¬ existing.dated.start < incoming.dated.start := hlater
        by_cases hsame : existing.effectiveStartDate = incoming.effectiveStartDate
        · have hdated : incoming.dated.start = existing.dated.start := hsame.symm
          rw [if_pos hsame, Latest.merge_same hdated]
          by_cases hprice : value incoming.rate = value existing.rate
          · have heq : incoming.dated = existing.dated := MeterPrice.ext hprice rfl hdated
            rw [if_neg (not_not.mpr hprice), if_pos heq]
            rfl
          · rw [if_pos hprice, if_neg fun heq => hprice (congrArg MeterPrice.price heq)]
            rfl
        · have hdated : incoming.dated.start ≠ existing.dated.start := Ne.symm hsame
          rw [if_neg hsame, Latest.merge_earlier hlater hdated]
          rfl

/-- What an item does to the rates, as far as prices go. -/
theorem addRetailItem_prices (rates : RetailRates D) (item : RetailItem) :
    (addRetailItem context rates item).toOption.map RetailRates.prices =
      (itemPrices D context item).bind fun prices =>
        prices.foldlM (Slots.mergeAt (mergePrice isStorage)) rates.prices := by
  rw [addRetailItem, itemPrices]
  split_ifs with hscope hcurrency hconsumption
  · rfl
  · rfl
  · rfl
  cases storageMeter item with
  | some meter =>
      cases (retailRate item : Except _ (RetailRate D)) with
      | error e => rfl
      | ok rate =>
          change some (RetailRates.prices _) = (some _ : Option _).bind _
          rw [prices_insert_storage, mergeMinimumRate_price]
          rfl
  | none =>
      cases memoryMeter item with
      | none => rfl
      | some meter =>
          cases (retailRate item : Except _ (RetailRate D)) with
          | error e => rfl
          | ok rate =>
              change (mergeLatestRate (rates.memory.lookup meter) rate >>= fun merged =>
                  .ok { rates with memory := rates.memory.insert meter merged }).toOption.map
                    RetailRates.prices =
                ((Latest.merge MeterPrice.start (rates.prices (.inr meter)) rate.dated).map
                  (Function.update rates.prices (.inr meter))).bind some
              rw [RetailRates.prices, ← mergeLatestRate_price]
              cases mergeLatestRate (rates.memory.lookup meter) rate with
              | error e => rfl
              | ok merged => exact congrArg some (prices_insert_memory rates meter merged)

/-- The retail rates are those of the meters. -/
theorem normalizeRetailRates_prices (pages : List AzureRetailPagePayload) :
    (normalizeRetailRates context pages : Except _ (RetailRates D)).toOption.map
        RetailRates.prices =
      meterRates isStorage (itemPrices D context) pages := by
  refine foldlM_pages (fun _ => addRetailItem_prices) (fun rates page => ?_) ?_ pages
  · rw [addRetailPage, pageItems]
    change (if page.sourceUrl = "" then _ else _ : Except _ _).toOption =
      (if page.sourceUrl = "" then none else page.body).bind _
    split_ifs with hurl
    · rfl
    · cases page.body <;> rfl
  · funext meter
    cases meter <;> rfl

/-! ### Records -/

/-- A record without the texts it was read from. -/
structure MiRate where
  stableKey : String
  configurationKey : String
  purchaseOption : PurchaseOption
  computeHourly : ℚ
  licenseHourly : ℚ
  storageMonthlyPerGb : ℚ
  additionalMemoryPerGbHourly : ℚ
  effectiveAt : Option String

def miRate (record : AzureMiRateRecord D) : MiRate where
  stableKey := record.stableKey
  configurationKey := record.configurationKey
  purchaseOption := record.purchaseOption
  computeHourly := value record.rate.computeHourly
  licenseHourly := value record.rate.licenseHourly
  storageMonthlyPerGb := value record.rate.storageMonthlyPerGb
  additionalMemoryPerGbHourly := value record.rate.additionalMemoryPerGbHourly
  effectiveAt := record.provenance.effectiveAt

/-- The same rates with the same effective dates, and the same warnings. -/
structure SameRates (left right : AzureSqlMiNormalization D) : Prop where
  records : left.records.map miRate = right.records.map miRate
  warnings : left.warnings = right.warnings

def rateValue (rate : RetailRate D) : ℚ := value rate.rate

section Records

variable {retail retail' : RetailRates D} (hprices : retail.prices = retail'.prices)
include hprices

theorem storage_price (meter : RetailTier × Bool) :
    (retail.storage.lookup meter).map rateValue = (retail'.storage.lookup meter).map rateValue := by
  have hmeter := congrArg (Option.map MeterPrice.price) (congrFun hprices (.inl meter))
  simp only [RetailRates.prices, Option.map_map] at hmeter
  exact hmeter

theorem memory_price (meter : Bool) :
    (retail.memory.lookup meter).map rateValue = (retail'.memory.lookup meter).map rateValue := by
  have hmeter := congrArg (Option.map MeterPrice.price) (congrFun hprices (.inr meter))
  simp only [RetailRates.prices, Option.map_map] at hmeter
  exact hmeter

theorem storageRate_price (configuration : AzureMiConfiguration) :
    (storageRate retail configuration).map rateValue =
      (storageRate retail' configuration).map rateValue := by
  rw [storageRate, storageRate, Option.map_or, Option.map_or, storage_price hprices]
  cases configuration.serviceTier with
  | nextGenerationGeneralPurpose => rw [storage_price hprices]
  | businessCritical => rfl

theorem memoryRate_price (configuration : AzureMiConfiguration) :
    (memoryRate retail configuration).map (Option.map rateValue) =
      (memoryRate retail' configuration).map (Option.map rateValue) := by
  rw [memoryRate, memoryRate]
  cases configuration.serviceTier with
  | nextGenerationGeneralPurpose =>
      have hmemory := congrArg (Option.map some) (memory_price hprices configuration.zoneRedundant)
      rw [Option.map_map, Option.map_map] at hmemory ⊢
      exact hmemory
  | businessCritical => rfl

end Records

theorem optionRecord_follows {configuration : AzureMiConfiguration}
    {optionRates : List (PurchaseOption × OptionRate D)} {storage storage' : RetailRate D}
    {memory memory' : Option (RetailRate D)} (hstorage : rateValue storage = rateValue storage')
    (hmemory : memory.map rateValue = memory'.map rateValue) (purchaseOption : PurchaseOption) :
    Follows (fun record record' => miRate record = miRate record')
      (optionRecord context configuration optionRates storage memory purchaseOption)
      (optionRecord context configuration optionRates storage' memory' purchaseOption) := by
  rw [optionRecord, optionRecord]
  cases optionRates.lookup purchaseOption with
  | none => exact .error _ _
  | some rate =>
      refine (Follows.refl (normalizeKey configuration.hardwareFamily)).bind ?_
      rintro hardware _ rfl
      refine .ok ?_
      have hmemory : value (memory.elim zero RetailRate.rate) =
          value (memory'.elim zero RetailRate.rate) := by
        cases memory with
        | none =>
            cases memory' with
            | none => rfl
            | some rate' => cases hmemory
        | some rate =>
            cases memory' with
            | none => cases hmemory
            | some rate' => exact Option.some.inj hmemory
      rw [miRate, miRate, MiRate.mk.injEq]
      exact ⟨rfl, rfl, rfl, rfl, rfl, hstorage, hmemory, rfl⟩

/-- Records with the same rates, or the same warning. -/
def SameOutcome (left right : List (AzureMiRateRecord D) ⊕ String) : Prop :=
  left.map (List.map miRate) id = right.map (List.map miRate) id

theorem configurationRecords_follows {calculator : CalculatorPayload}
    {retail retail' : RetailRates D} (hprices : retail.prices = retail'.prices)
    (configuration : AzureMiConfiguration) :
    Follows SameOutcome (configurationRecords context calculator retail configuration)
      (configurationRecords context calculator retail' configuration) := by
  rw [configurationRecords, configurationRecords]
  refine (Follows.refl (calculatorOptionRates context configuration calculator)).bind ?_
  rintro optionRates _ rfl
  have hstorage := storageRate_price hprices configuration
  have hmemory := memoryRate_price hprices configuration
  cases hleft : storageRate retail configuration with
  | none =>
      rw [hleft, Option.map_none, eq_comm, Option.map_eq_none_iff] at hstorage
      rw [hstorage]
      exact .ok rfl
  | some storage =>
      rw [hleft, Option.map_some, eq_comm, Option.map_eq_some_iff] at hstorage
      obtain ⟨storage', hright, hstorage⟩ := hstorage
      rw [hright]
      cases hleft : memoryRate retail configuration with
      | none =>
          rw [hleft, Option.map_none, eq_comm, Option.map_eq_none_iff] at hmemory
          simp only [hmemory]
          exact .ok rfl
      | some memory =>
          rw [hleft, Option.map_some, eq_comm, Option.map_eq_some_iff] at hmemory
          obtain ⟨memory', hright, hmemory⟩ := hmemory
          simp only [hright]
          refine (follows_checked (Follows.mapM_same PurchaseOption.all
            (optionRecord_follows hstorage.symm hmemory.symm))).bind fun records records' hrecords => ?_
          refine .ok (congrArg Sum.inl ?_)
          rwa [← List.forall₂_eq_eq_eq, List.forall₂_map_left_iff, List.forall₂_map_right_iff]

theorem sameRates_of_outcomes {outcomes outcomes' : List (List (AzureMiRateRecord D) ⊕ String)}
    (h : List.Forall₂ SameOutcome outcomes outcomes') :
    ((outcomes.filterMap Sum.getLeft?).flatten).map miRate =
        ((outcomes'.filterMap Sum.getLeft?).flatten).map miRate ∧
      outcomes.filterMap Sum.getRight? = outcomes'.filterMap Sum.getRight? := by
  induction h with
  | nil => exact ⟨rfl, rfl⟩
  | @cons outcome outcome' _ _ hhead _ ih =>
      obtain ⟨hrecords, hwarnings⟩ := ih
      cases outcome with
      | inl records =>
          cases outcome' with
          | inl records' => simpa [List.filterMap_cons, hrecords, hwarnings] using Sum.inl.inj hhead
          | inr warning => cases hhead
      | inr warning =>
          cases outcome' with
          | inl records' => cases hhead
          | inr warning' => simpa [List.filterMap_cons, hrecords, hwarnings] using Sum.inr.inj hhead

/-- Retail rates with the same prices leave the same records. -/
theorem normalizeAzureSqlMi_follows {configurations : List AzureMiConfiguration}
    {calculatorBody : Option CalculatorPayload} {pages pages' : List AzureRetailPagePayload}
    {retail retail' : RetailRates D} (hretail : normalizeRetailRates context pages = .ok retail)
    (hretail' : normalizeRetailRates context pages' = .ok retail')
    (hprices : retail.prices = retail'.prices) :
    Follows (SameRates (D := D)) (normalizeAzureSqlMi context configurations calculatorBody pages)
      (normalizeAzureSqlMi context configurations calculatorBody pages') := by
  rw [normalizeAzureSqlMi, normalizeAzureSqlMi, hretail, hretail']
  refine (Follows.refl (checked (validateContext context configurations))).bind fun _ _ _ => ?_
  refine (Follows.refl (okOr calculatorBody AzureSqlMiNormalizationError.malformedJson)).bind ?_
  rintro calculator _ rfl
  refine (Follows.mapM_same configurations
    (configurationRecords_follows hprices)).bind fun outcomes outcomes' houtcomes => ?_
  obtain ⟨hrecords, hwarnings⟩ := sameRates_of_outcomes houtcomes
  refine .ok ⟨?_, congrArg PriceSnapshot.sortedUnique hwarnings⟩
  exact map_insertionSort_eq MiRate.stableKey hrecords

/-! ### Any order -/

theorem itemPrices_start (item : RetailItem) :
    ∀ entry ∈ (itemPrices D context item).getD [],
      isStorage entry.1 = false → entry.2.start = item.effectiveStartDate := by
  intro entry hentry _
  have hrate : ∀ rate : RetailRate D, (retailRate item).toOption = some rate →
      rate.effectiveStartDate = item.effectiveStartDate := by
    intro rate hrate
    obtain ⟨parsed, -, hrate⟩ := bind_eq_ok.mp (toOption_eq_some.mp hrate)
    obtain ⟨_, -, hrate⟩ := bind_eq_ok.mp hrate
    cases hrate
    rfl
  have hprice : ∀ meter : Meter, entry ∈ (((retailRate item : Except _ (RetailRate D)).toOption.map
      RetailRate.dated).map fun price => [(meter, price)]).getD [] →
        entry.2.start = item.effectiveStartDate := by
    intro meter hmem
    cases hread : (retailRate item : Except _ (RetailRate D)).toOption with
    | none =>
        rw [hread] at hmem
        cases hmem
    | some rate =>
        rw [hread] at hmem
        rw [List.mem_singleton.mp hmem]
        exact hrate rate hread
  rw [itemPrices] at hentry
  split_ifs at hentry
  · cases hentry
  · cases hentry
  · cases hentry
  · cases hstorage : storageMeter item with
    | some meter =>
        rw [hstorage] at hentry
        exact hprice (.inl meter) hentry
    | none =>
        cases hmemory : memoryMeter item with
        | some meter =>
            rw [hstorage, hmemory] at hentry
            exact hprice (.inr meter) hentry
        | none =>
            rw [hstorage, hmemory] at hentry
            cases hentry

/-- An accepted input keeps its rates in every order of the retail items exactly
when no two memory prices of one date differ. -/
theorem reordered_iff {configurations : List AzureMiConfiguration}
    {calculatorBody : Option CalculatorPayload} {pages : List AzureRetailPagePayload}
    {normalization : AzureSqlMiNormalization D}
    (h : normalizeAzureSqlMi context configurations calculatorBody pages = .ok normalization) :
    (∀ pages', Reordered pages pages' → ∃ normalization' : AzureSqlMiNormalization D,
      normalizeAzureSqlMi context configurations calculatorBody pages' = .ok normalization' ∧
        SameRates normalization normalization') ↔
      Undisputed isStorage (itemPrices D context) pages := by
  have haccepted : ∀ pages' (normalization' : AzureSqlMiNormalization D),
      normalizeAzureSqlMi context configurations calculatorBody pages' = .ok normalization' →
        ∃ retail : RetailRates D, normalizeRetailRates context pages' = .ok retail := by
    intro pages' normalization' h
    obtain ⟨_, -, h⟩ := bind_eq_ok.mp h
    obtain ⟨calculator, -, h⟩ := bind_eq_ok.mp h
    obtain ⟨retail, hretail, -⟩ := bind_eq_ok.mp h
    exact ⟨retail, checked_eq_ok.mp hretail⟩
  constructor
  · intro hall
    refine undisputed_of_reordered itemPrices_start fun pages' hpages' => ?_
    obtain ⟨normalization', h', -⟩ := hall pages' hpages'
    obtain ⟨retail, hretail⟩ := haccepted pages' normalization' h'
    exact ⟨retail.prices, by rw [← normalizeRetailRates_prices, hretail]; rfl⟩
  · intro hundisputed pages' hpages'
    obtain ⟨retail, hretail⟩ := haccepted pages normalization h
    have hrates : (normalizeRetailRates context pages : Except _ (RetailRates D)).toOption.map
        RetailRates.prices = meterRates isStorage (itemPrices D context) pages :=
      normalizeRetailRates_prices pages
    rw [hretail] at hrates
    have hrates' := meterRates_reordered hpages' hundisputed hrates.symm
    rw [← normalizeRetailRates_prices] at hrates'
    obtain ⟨retail', hretail', hprices⟩ := Option.map_eq_some_iff.mp hrates'
    exact normalizeAzureSqlMi_follows hretail (toOption_eq_some.mp hretail') hprices.symm
      normalization h

end TcoCalculator.AzureSqlMi
