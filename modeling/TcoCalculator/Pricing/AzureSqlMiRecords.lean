/-
Which SQL Managed Instance records the normalizer emits: eight for every
configuration with meters, under keys of its own where its shape is its own.
-/
import TcoCalculator.Library.KeyedGroups
import TcoCalculator.Library.Separated
import TcoCalculator.Pricing.AzureSqlMiRates

namespace TcoCalculator.AzureSqlMi

open DecimalArith Fallible Halt PriceSnapshot ProviderRows Decimal96

variable {context : AzureSqlMiNormalizationContext} {calculator : CalculatorPayload}

/-! ### Meters of a configuration -/

/-- The items price the storage of a configuration, and its memory where the
tier charges for it. -/
def metered (context : AzureSqlMiNormalizationContext) (pages : List AzureRetailPagePayload)
    (configuration : AzureMiConfiguration) : Bool :=
  let items := scopedItems context pages
  let hasStorage tier := items.any fun item =>
    storageMeter item = some (tier, configuration.zoneRedundant)
  match configuration.serviceTier with
  | .nextGenerationGeneralPurpose =>
      (hasStorage .nextGenerationGeneralPurpose || hasStorage .generalPurpose) &&
        items.any fun item => memoryMeter item = some configuration.zoneRedundant
  | .businessCritical => hasStorage .businessCritical

theorem any_meter_iff {κ : Type} [DecidableEq κ] {items : List RetailItem}
    {meterOf : RetailItem → Option κ} {meter : κ} {map : HashMap κ (RetailRate Decimal96)}
    (h : (∃ rate, map.lookup meter = some rate) ↔ ∃ item ∈ items, meterOf item = some meter) :
    (items.any fun item => meterOf item = some meter) = true ↔
      ∃ rate, map.lookup meter = some rate := by
  rw [List.any_eq_true, h]
  simp only [decide_eq_true_eq]

theorem metered_iff {pages : List AzureRetailPagePayload} {retail : RetailRates Decimal96}
    (h : RetailMerged (scopedItems context pages) retail)
    (configuration : AzureMiConfiguration) :
    metered context pages configuration = true ↔
      ∃ storage memory, storageRate retail configuration = some storage ∧
        memoryRate retail configuration = some memory := by
  have hmeter tier := any_meter_iff (h.storage (tier, configuration.zoneRedundant))
  unfold metered storageRate memoryRate
  dsimp only
  rcases htier : configuration.serviceTier with _ | _
  · simp only [Bool.and_eq_true, Bool.or_eq_true, hmeter, any_meter_iff (h.memory _), retailTier,
      Option.or_eq_some_iff, Option.map_eq_some_iff]
    constructor
    · rintro ⟨hstorage, memory, hmemory⟩
      rcases hlookup : retail.storage.lookup
        (.nextGenerationGeneralPurpose, configuration.zoneRedundant) with _ | storage
      · rw [hlookup] at hstorage
        obtain ⟨storage, hfallback⟩ := hstorage.resolve_left fun ⟨_, hnone⟩ => (nomatch hnone)
        exact ⟨storage, some memory, .inr ⟨hlookup, hfallback⟩, memory, hmemory, rfl⟩
      · exact ⟨storage, some memory, .inl hlookup, memory, hmemory, rfl⟩
    · rintro ⟨storage, _, hstorage, memory, hmemory, -⟩
      refine ⟨?_, memory, hmemory⟩
      rcases hstorage with hown | ⟨-, hfallback⟩
      · exact .inl ⟨storage, hown⟩
      · exact .inr ⟨storage, hfallback⟩
  · simp only [hmeter, retailTier, Option.or_none, Option.some.injEq]
    constructor
    · rintro ⟨storage, hstorage⟩
      exact ⟨storage, none, hstorage, rfl⟩
    · rintro ⟨storage, _, hstorage, -⟩
      exact ⟨storage, hstorage⟩

/-! ### Records of a configuration -/

def rateKey (context : AzureSqlMiNormalizationContext) (configuration : AzureMiConfiguration)
    (purchaseOption : PurchaseOption) : String :=
  context.targetRegion ++ "|" ++ serviceTierKey configuration.serviceTier ++ "|" ++
    (normalizeToken configuration.hardwareFamily).getD "" ++ "|" ++
    toString configuration.vcores.toNat ++ "|" ++ toString configuration.zoneRedundant ++ "|" ++
    purchaseOptionKey purchaseOption

def azureRate (storage memory : Decimal96) (rate : OptionRate Decimal96) :
    AzureRate Decimal96 where
  computeHourly := rate.computeHourly
  licenseHourly := rate.licenseHourly
  storageMonthlyPerGb := storage
  additionalMemoryPerGbHourly := memory

/-- The record of an option, as far as the checks of a snapshot read it. -/
structure OptionRecord (context : AzureSqlMiNormalizationContext)
    (configuration : AzureMiConfiguration) (rates : PurchaseOption → AzureRate Decimal96)
    (option : PurchaseOption) (record : AzureMiRateRecord Decimal96) : Prop where
  stableKey : record.stableKey = rateKey context configuration option
  configurationKey : record.configurationKey = configuration.configurationKey
  purchaseOption : record.purchaseOption = option
  rate : record.rate = rates option
  sourceUrl : record.provenance.sourceUrl = context.calculatorSourceUrl

/-- The records of a configuration, one of each option. -/
structure ConfigurationGroup (context : AzureSqlMiNormalizationContext)
    (calculator : CalculatorPayload) (configuration : AzureMiConfiguration)
    (rates : PurchaseOption → OptionRate Decimal96) (storage memory : Decimal96)
    (group : List (AzureMiRateRecord Decimal96)) : Prop where
  priced : ∀ purchaseOption,
    OptionPriced context calculator configuration purchaseOption (rates purchaseOption)
  storagePositive : 0 < storage.toRat
  memoryNonneg : 0 ≤ memory.toRat
  records : List.Forall₂ (OptionRecord context configuration fun purchaseOption =>
    azureRate storage memory (rates purchaseOption)) PurchaseOption.all group

theorem mem_purchaseOption_all (purchaseOption : PurchaseOption) :
    purchaseOption ∈ PurchaseOption.all := by
  cases purchaseOption <;> decide

theorem optionRecord_of_ok {configuration : AzureMiConfiguration}
    {optionRates : List (PurchaseOption × OptionRate Decimal96)}
    {rates : PurchaseOption → OptionRate Decimal96} {storage : RetailRate Decimal96}
    {memory : Option (RetailRate Decimal96)} {purchaseOption : PurchaseOption}
    {record : AzureMiRateRecord Decimal96}
    (hlookup : optionRates.lookup purchaseOption = some (rates purchaseOption))
    (h : optionRecord context configuration optionRates storage memory purchaseOption =
      .ok record) :
    OptionRecord context configuration
      (fun option => azureRate storage.rate (memory.elim zero RetailRate.rate) (rates option))
      purchaseOption record := by
  unfold optionRecord at h
  simp only [hlookup] at h
  obtain ⟨hardware, hhardware, h⟩ := bind_eq_ok.mp h
  have hkey : normalizeToken configuration.hardwareFamily = some hardware := by
    unfold normalizeKey at hhardware
    rcases htoken : normalizeToken configuration.hardwareFamily with _ | token
    · rw [htoken] at hhardware
      cases hhardware
    · rw [htoken] at hhardware
      exact congrArg some (Except.ok.inj hhardware)
  cases h
  constructor
  · rw [rateKey, hkey, Option.getD_some]
  · rfl
  · rfl
  · rfl
  · rfl

variable {retail : RetailRates Decimal96} {items : List RetailItem}

theorem storageRate_pos (hmerged : RetailMerged items retail)
    {configuration : AzureMiConfiguration} {storage : RetailRate Decimal96}
    (h : storageRate retail configuration = some storage) : 0 < storage.rate.toRat := by
  unfold storageRate at h
  rcases Option.or_eq_some_iff.mp h with hown | ⟨-, hfallback⟩
  · exact hmerged.storagePositive _ storage hown
  · split at hfallback
    · exact hmerged.storagePositive _ storage hfallback
    · cases hfallback

theorem memoryRate_nonneg (hmerged : RetailMerged items retail)
    {configuration : AzureMiConfiguration} {memory : Option (RetailRate Decimal96)}
    (h : memoryRate retail configuration = some memory) :
    0 ≤ (memory.elim zero RetailRate.rate : Decimal96).toRat := by
  unfold memoryRate at h
  split at h
  · obtain ⟨rate, hlookup, rfl⟩ := Option.map_eq_some_iff.mp h
    exact (hmerged.memoryPositive _ rate hlookup).le
  · cases h
    exact toRat_zero.ge

/-- A configuration with meters gets its records. -/
theorem configurationGroup_of_ok (hmerged : RetailMerged items retail)
    {configuration : AzureMiConfiguration} {group : List (AzureMiRateRecord Decimal96)}
    (h : configurationRecords context calculator retail configuration = .ok (.inl group)) :
    ∃ rates storage memory,
      ConfigurationGroup context calculator configuration rates storage memory group := by
  unfold configurationRecords at h
  obtain ⟨optionRates, hrates, h⟩ := bind_eq_ok.mp h
  rcases hstorage : storageRate retail configuration with _ | storage
  · rw [hstorage] at h
    cases h
  rcases hmemory : memoryRate retail configuration with _ | memory
  · rw [hstorage, hmemory] at h
    cases h
  rw [hstorage, hmemory] at h
  obtain ⟨records, hrecords, h⟩ := bind_eq_ok.mp h
  cases h
  have hlookups := fun purchaseOption =>
    lookup_of_forall₂ (mapM_eq_ok.mp hrates) (mem_purchaseOption_all purchaseOption)
  choose rates hpriced hlookup using hlookups
  refine ⟨rates, storage.rate, memory.elim zero RetailRate.rate, ?_, ?_, ?_, ?_⟩
  · exact fun purchaseOption => optionPriced_of_rate (hpriced purchaseOption)
  · exact storageRate_pos hmerged hstorage
  · exact memoryRate_nonneg hmerged hmemory
  · exact (mapM_eq_ok.mp (checked_eq_ok.mp hrecords)).imp fun purchaseOption record hrecord =>
      optionRecord_of_ok (hlookup purchaseOption) hrecord

/-- A configuration gets records when both its meters are there. -/
theorem getLeft?_isSome_iff {configuration : AzureMiConfiguration}
    {outcome : List (AzureMiRateRecord Decimal96) ⊕ String}
    (h : configurationRecords context calculator retail configuration = .ok outcome) :
    outcome.getLeft?.isSome = true ↔ ∃ storage memory,
      storageRate retail configuration = some storage ∧
        memoryRate retail configuration = some memory := by
  unfold configurationRecords at h
  obtain ⟨optionRates, -, h⟩ := bind_eq_ok.mp h
  rcases hstorage : storageRate retail configuration with _ | storage
  · rw [hstorage] at h
    cases h
    simp
  rcases hmemory : memoryRate retail configuration with _ | memory
  · rw [hstorage, hmemory] at h
    cases h
    simp
  rw [hstorage, hmemory] at h
  obtain ⟨records, -, h⟩ := bind_eq_ok.mp h
  cases h
  simp

/-! ### Keys -/

/-- What tells the records of configurations apart. -/
def shape (configuration : AzureMiConfiguration) : ServiceTier × String × UInt32 × Bool :=
  (configuration.serviceTier, (normalizeToken configuration.hardwareFamily).getD "",
    configuration.vcores, configuration.zoneRedundant)

theorem purchaseOptionKey_inj {option option' : PurchaseOption} :
    purchaseOptionKey option = purchaseOptionKey option' ↔ option = option' := by
  have hinjective : ∀ option ∈ PurchaseOption.all, ∀ option' ∈ PurchaseOption.all,
      purchaseOptionKey option = purchaseOptionKey option' → option = option' := by
    decide
  constructor
  · exact hinjective option (mem_purchaseOption_all option) option'
      (mem_purchaseOption_all option')
  · rintro rfl
    rfl

theorem separator_notMem_purchaseOptionKey (option : PurchaseOption) :
    '|' ∉ (purchaseOptionKey option).toList := by
  cases option <;> decide

theorem separator_notMem_bool (b : Bool) : '|' ∉ (toString b).toList := by
  cases b <;> decide

theorem separator_notMem_serviceTierKey (tier : ServiceTier) :
    '|' ∉ (serviceTierKey tier).toList := by
  cases tier <;> decide

theorem serviceTierKey_inj {tier tier' : ServiceTier} :
    serviceTierKey tier = serviceTierKey tier' ↔ tier = tier' := by
  cases tier <;> cases tier' <;> simp [serviceTierKey]

theorem bool_toString_inj {b b' : Bool} : toString b = toString b' ↔ b = b' := by
  cases b <;> cases b' <;> decide

/-- The parts of a key are read off from its end, the first two from its start. -/
theorem rateKey_inj {left right : AzureMiConfiguration} {option option' : PurchaseOption} :
    rateKey context left option = rateKey context right option' ↔
      shape left = shape right ∧ option = option' := by
  have hjoin : ∀ first second : String,
      first ++ "|" ++ second = first ++ String.singleton '|' ++ second := fun _ _ => rfl
  unfold rateKey
  simp only [hjoin]
  rw [Separated.last_text_inj (separator_notMem_purchaseOptionKey option)
      (separator_notMem_purchaseOptionKey option'),
    Separated.last_text_inj (separator_notMem_bool _) (separator_notMem_bool _),
    Separated.last_text_inj (Separated.notMem_toString (by decide) _)
      (Separated.notMem_toString (by decide) _)]
  have hstart : ∀ tier tier' hardware hardware',
      context.targetRegion ++ String.singleton '|' ++ serviceTierKey tier ++
          String.singleton '|' ++ hardware =
        context.targetRegion ++ String.singleton '|' ++ serviceTierKey tier' ++
          String.singleton '|' ++ hardware' ↔ tier = tier' ∧ hardware = hardware' := by
    intro tier tier' hardware hardware'
    simp only [String.append_assoc, String.append_right_inj]
    rw [← String.append_assoc, ← String.append_assoc,
      Separated.first_text_inj (separator_notMem_serviceTierKey tier)
        (separator_notMem_serviceTierKey tier'), serviceTierKey_inj]
  rw [hstart, Separated.toString_inj, UInt32.toNat_inj, bool_toString_inj, purchaseOptionKey_inj]
  simp only [shape, Prod.mk.injEq, and_assoc]

/-! ### All configurations -/

/-- The records of a configuration at some prices. -/
def GroupOf (context : AzureSqlMiNormalizationContext) (calculator : CalculatorPayload)
    (configuration : AzureMiConfiguration) (group : List (AzureMiRateRecord Decimal96)) : Prop :=
  ∃ rates storage memory,
    ConfigurationGroup context calculator configuration rates storage memory group

theorem GroupOf.configurationKey {configuration : AzureMiConfiguration}
    {group : List (AzureMiRateRecord Decimal96)}
    (h : GroupOf context calculator configuration group) :
    ∀ record ∈ group, record.configurationKey = configuration.configurationKey := by
  obtain ⟨_, _, _, h⟩ := h
  intro record hrecord
  obtain ⟨option, -, hoption⟩ := KeyedGroups.exists_mem_of_forall₂ h.records hrecord
  exact hoption.configurationKey

/-- Metered configurations beside their records. -/
theorem groups_of_outcomes {pages : List AzureRetailPagePayload}
    {configurations : List AzureMiConfiguration}
    {outcomes : List (List (AzureMiRateRecord Decimal96) ⊕ String)}
    (hmerged : RetailMerged (scopedItems context pages) retail)
    (h : List.Forall₂ (fun configuration outcome =>
      configurationRecords context calculator retail configuration = .ok outcome)
      configurations outcomes) :
    List.Forall₂ (GroupOf context calculator) (configurations.filter (metered context pages))
      (outcomes.filterMap Sum.getLeft?) := by
  induction h with
  | nil => exact .nil
  | @cons configuration outcome _ _ hfirst _ ih =>
      have hmetered := (metered_iff hmerged configuration).trans (getLeft?_isSome_iff hfirst).symm
      rcases outcome with group | warning
      · rw [List.filter_cons_of_pos (hmetered.mpr rfl), List.filterMap_cons_some Sum.getLeft?_inl]
        exact .cons (configurationGroup_of_ok hmerged hfirst) ih
      · have hnone : ¬ metered context pages configuration = true :=
          fun htrue => nomatch hmetered.mp htrue
        rw [List.filter_cons_of_neg hnone, List.filterMap_cons_none Sum.getLeft?_inr]
        exact ih

section Groups

variable {configurations : List AzureMiConfiguration}
  {groups : List (List (AzureMiRateRecord Decimal96))}

/-- The records under the key of a configuration are its own. -/
theorem filter_configurationKey
    (h : List.Forall₂ (GroupOf context calculator) configurations groups)
    (hkeys : (configurations.map AzureMiConfiguration.configurationKey).Nodup)
    {configuration : AzureMiConfiguration} (hconfiguration : configuration ∈ configurations) :
    ∃ group, GroupOf context calculator configuration group ∧
      groups.flatten.filter (fun record =>
        record.configurationKey = configuration.configurationKey) = group :=
  KeyedGroups.filter_ownerKey h (fun _ _ hof => hof.configurationKey) hkeys hconfiguration

theorem stableKeys_groups (h : List.Forall₂ (GroupOf context calculator) configurations groups) :
    groups.flatten.map AzureMiRateRecord.stableKey =
      configurations.flatMap fun configuration =>
        PurchaseOption.all.map (rateKey context configuration) := by
  induction h with
  | nil => rfl
  | @cons configuration group _ _ hfirst _ ih =>
      obtain ⟨_, _, _, hfirst⟩ := hfirst
      have hkeys : group.map AzureMiRateRecord.stableKey =
          PurchaseOption.all.map (rateKey context configuration) := by
        rw [← List.forall₂_eq_eq_eq, List.forall₂_map_left_iff, List.forall₂_map_right_iff]
        exact hfirst.records.flip.imp fun _ _ hoption => hoption.stableKey
      rw [List.flatten_cons, List.map_append, List.flatMap_cons, hkeys, ih]

/-- The keys are distinct when the shapes are. -/
theorem stableKeys_nodup_iff
    (h : List.Forall₂ (GroupOf context calculator) configurations groups) :
    (groups.flatten.map AzureMiRateRecord.stableKey).Nodup ↔ (configurations.map shape).Nodup := by
  rw [stableKeys_groups h, List.nodup_flatMap]
  have hown : ∀ configuration ∈ configurations,
      (PurchaseOption.all.map (rateKey context configuration)).Nodup := by
    intro configuration _
    refine List.Nodup.map (fun option option' hsame => ?_) (by decide)
    exact (rateKey_inj.mp hsame).2
  rw [and_iff_right hown]
  have hdisjoint : ∀ left right : AzureMiConfiguration,
      Function.onFun List.Disjoint (fun configuration =>
        PurchaseOption.all.map (rateKey context configuration)) left right ↔
          shape left ≠ shape right := by
    intro left right
    constructor
    · intro hapart hsame
      have hkey : rateKey context left .payg = rateKey context right .payg :=
        rateKey_inj.mpr ⟨hsame, rfl⟩
      exact hapart (List.mem_map_of_mem (mem_purchaseOption_all .payg))
        (hkey ▸ List.mem_map_of_mem (mem_purchaseOption_all .payg))
    · intro hne key hleft hright
      obtain ⟨option, -, rfl⟩ := List.mem_map.mp hleft
      obtain ⟨option', -, hsame⟩ := List.mem_map.mp hright
      exact hne (rateKey_inj.mp hsame).1.symm
  rw [List.Pairwise.iff hdisjoint]
  exact List.pairwise_map.symm

end Groups

end TcoCalculator.AzureSqlMi
