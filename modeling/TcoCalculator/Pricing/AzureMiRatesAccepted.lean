/-
The SQL Managed Instance normalizer against the checks of a snapshot: when the
purchase matrices it emits are ones the snapshot takes.
-/
import TcoCalculator.Pricing.AzureSqlMiRecords
import TcoCalculator.Pricing.SnapshotChecks

namespace TcoCalculator

open DecimalArith Fallible Halt PriceSnapshot AzureSqlMi

/-! ### Purchase matrices -/

/-- Each licensed option beside its hybrid-benefit one. -/
def optionPairs : List (PurchaseOption × PurchaseOption) :=
  [(.payg, .ahb), (.oneYear, .ahbOneYear), (.threeYear, .ahbThreeYear),
    (.savingsOneYear, .ahbSavingsOneYear)]

section Matrices

variable {D : Type} [DecimalArith D] {rates : PurchaseOption → AzureRate D}
  {group : List (AzureMiRateRecord D)}

/-- A record of each option, at the rate of the option. -/
structure PricedOptions (rates : PurchaseOption → AzureRate D)
    (group : List (AzureMiRateRecord D)) : Prop where
  options : (group.map AzureMiRateRecord.purchaseOption).Perm PurchaseOption.all
  rate : ∀ record ∈ group, record.rate = rates record.purchaseOption

def PairValid (rates : PurchaseOption → AzureRate D) (pair : PurchaseOption × PurchaseOption) :
    Prop :=
  0 < value (rates pair.1).computeHourly ∧
    value (rates pair.1).computeHourly = value (rates pair.2).computeHourly ∧
    0 < value (rates pair.1).licenseHourly ∧ value (rates pair.2).licenseHourly = 0

omit [DecimalArith D] in
theorem PricedOptions.find (h : PricedOptions rates group) (purchaseOption : PurchaseOption) :
    ∃ record, group.find? (fun record => record.purchaseOption == purchaseOption) = some record ∧
      record.rate = rates purchaseOption := by
  obtain ⟨record, hrecord, hoption, hfind⟩ := KeyedGroups.find?_of_mem (List.mem_map.mp
    (h.options.mem_iff.mpr (mem_purchaseOption_all purchaseOption)))
  refine ⟨record, hfind, ?_⟩
  rw [h.rate record hrecord, hoption]

theorem PricedOptions.pair_iff (h : PricedOptions rates group)
    (pair : PurchaseOption × PurchaseOption) :
    validAzureOptionPair group pair.1 pair.2 = true ↔ PairValid rates pair := by
  obtain ⟨licensed, hlicensed, hlicensedRate⟩ := h.find pair.1
  obtain ⟨ahb, hahb, hahbRate⟩ := h.find pair.2
  rw [validAzureOptionPair, hlicensed, hahb]
  dsimp only
  rw [hlicensedRate, hahbRate]
  simp only [isPositive, PairValid, Bool.and_eq_true, decide_eq_true_eq, beq_iff_eq, and_assoc]

/-- A matrix with a record of each option at shared storage and memory prices is
valid when its four pairs are. -/
theorem PricedOptions.validConfiguration_iff (h : PricedOptions rates group)
    (hstorage : ∀ left right, value (rates left).storageMonthlyPerGb =
      value (rates right).storageMonthlyPerGb)
    (hmemory : ∀ left right, value (rates left).additionalMemoryPerGbHourly =
      value (rates right).additionalMemoryPerGbHourly) :
    validConfiguration group = true ↔ ∀ pair ∈ optionPairs, PairValid rates pair := by
  have hlength : group.length = PurchaseOption.all.length := by
    rw [← h.options.length_eq, List.length_map]
  have hdedup : (group.map AzureMiRateRecord.purchaseOption).dedup.length =
      PurchaseOption.all.length := by
    rw [h.options.dedup.length_eq]
    rfl
  have hcontains : PurchaseOption.all.all
      (group.map AzureMiRateRecord.purchaseOption).contains = true := by
    rw [List.all_eq_true]
    intro purchaseOption _
    rw [List.contains_iff_mem]
    exact h.options.mem_iff.mpr (mem_purchaseOption_all purchaseOption)
  have hshared : (group.head?.all fun first => group.all fun record =>
      value record.rate.storageMonthlyPerGb == value first.rate.storageMonthlyPerGb &&
        value record.rate.additionalMemoryPerGbHourly ==
          value first.rate.additionalMemoryPerGbHourly) = true := by
    rw [Option.all_eq_true]
    intro first hfirst
    rw [List.all_eq_true]
    intro record hrecord
    rw [h.rate record hrecord, h.rate first (List.mem_of_mem_head? hfirst), hstorage _ .payg,
      hstorage first.purchaseOption .payg, hmemory _ .payg,
      hmemory first.purchaseOption .payg, beq_self_eq_true, beq_self_eq_true]
    rfl
  unfold validConfiguration
  simp only [hlength, hdedup, hcontains, hshared, beq_self_eq_true, Bool.true_and,
    Bool.and_eq_true, and_assoc]
  rw [h.pair_iff (.payg, .ahb), h.pair_iff (.oneYear, .ahbOneYear),
    h.pair_iff (.threeYear, .ahbThreeYear), h.pair_iff (.savingsOneYear, .ahbSavingsOneYear)]
  simp [optionPairs]

end Matrices

/-! ### Pairs of options -/

namespace AzureSqlMi

variable {context : AzureSqlMiNormalizationContext} {calculator : CalculatorPayload}
  {configuration : AzureMiConfiguration}

/-- The two options add up to one compute price, and some software of the
licensed one has a price. -/
def PairConsistent (context : AzureSqlMiNormalizationContext) (calculator : CalculatorPayload)
    (configuration : AzureMiConfiguration) (pair : PurchaseOption × PurchaseOption) : Prop :=
  ∃ licensed ahb, optionReferences calculator configuration pair.1 = .ok licensed ∧
    optionReferences calculator configuration pair.2 = .ok ahb ∧
    (sum (componentPrices context calculator false licensed)).map Decimal96.toRat =
      (sum (componentPrices context calculator false ahb)).map Decimal96.toRat ∧
    ∃ price ∈ componentPrices context calculator true licensed, 0 < price.toRat

/-- The second option of a pair brings its own licence. -/
theorem isAhb_of_mem_optionPairs {pair : PurchaseOption × PurchaseOption}
    (h : pair ∈ optionPairs) : isAhb pair.2 = true := by
  have hall : ∀ pair ∈ optionPairs, isAhb pair.2 = true := by
    decide
  exact hall pair h

theorem pairValid_iff {rates : PurchaseOption → OptionRate Decimal96}
    {storage memory : Decimal96} {pair : PurchaseOption × PurchaseOption}
    (hpriced : ∀ option, OptionPriced context calculator configuration option (rates option))
    (hpair : pair ∈ optionPairs) :
    PairValid (fun option => azureRate storage memory (rates option)) pair ↔
      PairConsistent context calculator configuration pair := by
  obtain ⟨licensed, hlicensed, hlicensedSums⟩ := (hpriced pair.1).sums
  obtain ⟨ahb, hahb, hahbSums⟩ := (hpriced pair.2).sums
  have hlicense := Decimal96.sum_pos_iff componentPrices_nonneg hlicensedSums.license
  have hnone := (hpriced pair.2).hybridBenefit (isAhb_of_mem_optionPairs hpair)
  unfold PairValid PairConsistent azureRate
  simp only [Decimal96.value_eq]
  constructor
  · rintro ⟨-, hcompute, hpositive, -⟩
    refine ⟨licensed, ahb, hlicensed, hahb, ?_, hlicense.mp hpositive⟩
    rw [hlicensedSums.compute, hahbSums.compute]
    exact congrArg Except.ok hcompute
  · rintro ⟨licensed', ahb', hlicensed', hahb', hcompute, hpositive⟩
    obtain rfl := Except.ok.inj (hlicensed.symm.trans hlicensed')
    obtain rfl := Except.ok.inj (hahb.symm.trans hahb')
    rw [hlicensedSums.compute, hahbSums.compute] at hcompute
    exact ⟨(hpriced pair.1).compute, Except.ok.inj hcompute, hlicense.mpr hpositive, hnone⟩

/-- The records of a configuration, in any order and with their sources normalized. -/
theorem ConfigurationGroup.pricedOptions {rates : PurchaseOption → OptionRate Decimal96}
    {storage memory : Decimal96} {group stored : List (AzureMiRateRecord Decimal96)}
    (h : ConfigurationGroup context calculator configuration rates storage memory group)
    (hperm : stored.Perm (group.map normalizeProvenance)) :
    PricedOptions (fun option => azureRate storage memory (rates option)) stored := by
  have hoptions : (group.map normalizeProvenance).map AzureMiRateRecord.purchaseOption =
      PurchaseOption.all := by
    rw [List.map_map, ← List.forall₂_eq_eq_eq, List.forall₂_map_left_iff]
    exact h.records.flip.imp fun _ _ hoption => hoption.purchaseOption
  constructor
  · rw [← hoptions]
    exact hperm.map _
  · intro record hrecord
    obtain ⟨original, horiginal, rfl⟩ := List.mem_map.mp (hperm.mem_iff.mp hrecord)
    obtain ⟨option, -, hoption⟩ := KeyedGroups.exists_mem_of_forall₂ h.records horiginal
    have hpurchase : (normalizeProvenance original).purchaseOption = option :=
      hoption.purchaseOption
    rw [hpurchase]
    exact hoption.rate

theorem GroupOf.validConfiguration_iff {group stored : List (AzureMiRateRecord Decimal96)}
    (h : GroupOf context calculator configuration group)
    (hperm : stored.Perm (group.map normalizeProvenance)) :
    validConfiguration stored = true ↔
      ∀ pair ∈ optionPairs, PairConsistent context calculator configuration pair := by
  obtain ⟨rates, storage, memory, h⟩ := h
  rw [(h.pricedOptions hperm).validConfiguration_iff (fun _ _ => rfl) fun _ _ => rfl]
  exact forall₂_congr fun pair hpair => pairValid_iff h.priced hpair

theorem GroupOf.exists_mem {group : List (AzureMiRateRecord Decimal96)}
    (h : GroupOf context calculator configuration group) : ∃ record, record ∈ group := by
  obtain ⟨_, _, _, h⟩ := h
  rcases group with _ | ⟨record, rest⟩
  · exact nomatch h.records
  · exact ⟨record, List.mem_cons_self⟩

theorem GroupOf.sourceUrl {group : List (AzureMiRateRecord Decimal96)}
    (h : GroupOf context calculator configuration group) :
    ∀ record ∈ group, record.provenance.sourceUrl = context.calculatorSourceUrl := by
  obtain ⟨_, _, _, h⟩ := h
  intro record hrecord
  obtain ⟨option, -, hoption⟩ := KeyedGroups.exists_mem_of_forall₂ h.records hrecord
  exact hoption.sourceUrl

theorem GroupOf.validMiRecord {group : List (AzureMiRateRecord Decimal96)}
    (h : GroupOf context calculator configuration group)
    (hkey : configuration.configurationKey ≠ "") :
    ∀ record ∈ group, validMiRecord record = true := by
  obtain ⟨rates, storage, memory, h⟩ := h
  intro record hrecord
  obtain ⟨option, -, hoption⟩ := KeyedGroups.exists_mem_of_forall₂ h.records hrecord
  have hpriced := h.priced option
  unfold PriceSnapshot.validMiRecord isPositive
  rw [hoption.rate, hoption.configurationKey]
  simp only [azureRate, Decimal96.value_eq, Bool.and_eq_true]
  refine ⟨⟨⟨⟨decide_eq_true hkey, decide_eq_true ?_⟩, decide_eq_true ?_⟩, decide_eq_true ?_⟩,
    decide_eq_true ?_⟩
  · exact hpriced.compute.le
  · exact hpriced.license
  · exact h.storagePositive
  · exact h.memoryNonneg

end AzureSqlMi

/-! ### Accepted inputs -/

/-- Inputs that the normalizer accepts. -/
structure AcceptedMi where
  context : AzureSqlMi.AzureSqlMiNormalizationContext
  configurations : List AzureSqlMi.AzureMiConfiguration
  calculator : AzureSqlMi.CalculatorPayload
  pages : List AzureSqlMi.AzureRetailPagePayload
  accepted : (AzureSqlMi.normalizeAzureSqlMi context configurations (some calculator) pages :
    Except _ (AzureSqlMi.AzureSqlMiNormalization Decimal96)).toOption.isSome = true

namespace AcceptedMi

variable (input : AcceptedMi)

def records : List (AzureMiRateRecord Decimal96) :=
  (Option.get _ input.accepted).records

/-- The configurations with records. -/
def emitted : List AzureSqlMi.AzureMiConfiguration :=
  input.configurations.filter (AzureSqlMi.metered input.context input.pages)

/-- Emitted configurations differ in shape, and their options agree. -/
structure Consistent : Prop where
  shapes : (input.emitted.map AzureSqlMi.shape).Nodup
  pairs : ∀ configuration ∈ input.emitted, ∀ pair ∈ optionPairs,
    AzureSqlMi.PairConsistent input.context input.calculator configuration pair

theorem exists_normalization :
    ∃ normalization : AzureSqlMi.AzureSqlMiNormalization Decimal96,
      AzureSqlMi.normalizeAzureSqlMi input.context input.configurations (some input.calculator)
          input.pages = .ok normalization ∧
        input.records = normalization.records :=
  ⟨_, eq_ok_get input.accepted, rfl⟩

/-- What the normalizer has computed. -/
theorem groups_of_accepted : ∃ groups,
    List.Forall₂ (AzureSqlMi.GroupOf input.context input.calculator) input.emitted groups ∧
      input.records.Perm groups.flatten := by
  obtain ⟨normalization, h, hrecords⟩ := input.exists_normalization
  unfold AzureSqlMi.normalizeAzureSqlMi at h
  obtain ⟨_, -, h⟩ := bind_eq_ok.mp h
  obtain ⟨calculator, hcalculator, h⟩ := bind_eq_ok.mp h
  cases hcalculator
  obtain ⟨retail, hretail, h⟩ := bind_eq_ok.mp h
  obtain ⟨outcomes, houtcomes, h⟩ := bind_eq_ok.mp h
  have hmerged := retailMerged_of_pages (checked_eq_ok.mp hretail)
  refine ⟨outcomes.filterMap Sum.getLeft?,
    groups_of_outcomes hmerged (mapM_eq_ok.mp houtcomes), ?_⟩
  rw [hrecords, ← Except.ok.inj h]
  exact List.perm_insertionSort _ _

/-- What the scope checks leave. -/
theorem scope_of_accepted :
    input.context.calculatorSourceUrl ≠ "" ∧
      (input.configurations.map AzureSqlMi.AzureMiConfiguration.configurationKey).Nodup ∧
      ∀ configuration ∈ input.configurations, configuration.configurationKey ≠ "" := by
  obtain ⟨_, h, -⟩ := input.exists_normalization
  unfold AzureSqlMi.normalizeAzureSqlMi at h
  obtain ⟨_, hcontext, -⟩ := bind_eq_ok.mp h
  have hcontext := checked_eq_ok.mp hcontext
  unfold AzureSqlMi.validateContext at hcontext
  split at hcontext
  · cases hcontext
  rename_i hscope
  push Not at hscope
  obtain ⟨keys, hkeys, -⟩ := bind_eq_ok.mp hcontext
  have hfold := foldlM_rule (fun done keys =>
    keys = (done.map AzureSqlMi.AzureMiConfiguration.configurationKey).reverse ∧ keys.Nodup ∧
      ∀ configuration ∈ done, configuration.configurationKey ≠ "") hkeys
    ⟨rfl, List.nodup_nil, fun _ hmem => nomatch hmem⟩ ?_
  · obtain ⟨rfl, hnodup, hnonempty⟩ := hfold
    exact ⟨hscope.2.2.2, List.nodup_reverse.mp hnodup, hnonempty⟩
  · rintro done configuration keys keys' - ⟨rfl, hnodup, hnonempty⟩ hstep
    unfold AzureSqlMi.validateConfiguration at hstep
    split at hstep
    · cases hstep
    rename_i hvalues
    push Not at hvalues
    split at hstep
    · cases hstep
    rename_i hfresh
    cases hstep
    refine ⟨?_, List.nodup_cons.mpr ⟨hfresh, hnodup⟩, ?_⟩
    · rw [List.map_append, List.reverse_append]
      rfl
    · intro other hother
      rcases List.mem_append.mp hother with hdone | hnew
      · exact hnonempty other hdone
      · rw [List.mem_singleton.mp hnew]
        exact hvalues.1

/-! ### The checks of a snapshot -/

theorem key_nonempty {configuration : AzureSqlMi.AzureMiConfiguration}
    (h : configuration ∈ input.emitted) : configuration.configurationKey ≠ "" :=
  input.scope_of_accepted.2.2 configuration (List.mem_of_mem_filter h)

theorem emitted_keys_nodup :
    (input.emitted.map AzureSqlMi.AzureMiConfiguration.configurationKey).Nodup :=
  (List.filter_sublist.map _).nodup input.scope_of_accepted.2.1

/-- The stored records under the key of an emitted configuration. -/
theorem exists_group {configuration : AzureSqlMi.AzureMiConfiguration}
    (h : configuration ∈ input.emitted) :
    ∃ group, AzureSqlMi.GroupOf input.context input.calculator configuration group ∧
      ((normalizeRecords input.records).filter fun record =>
        record.configurationKey = configuration.configurationKey).Perm
          (group.map normalizeProvenance) := by
  obtain ⟨groups, hgroups, hperm⟩ := input.groups_of_accepted
  obtain ⟨group, hof, hfilter⟩ :=
    AzureSqlMi.filter_configurationKey hgroups input.emitted_keys_nodup h
  refine ⟨group, hof, ?_⟩
  rw [← hfilter]
  have hstored := (normalizeRecords_perm hperm).filter fun record =>
    decide (record.configurationKey = configuration.configurationKey)
  rw [List.filter_map] at hstored
  exact hstored

/-- A stored record belongs to an emitted configuration. -/
theorem exists_emitted {record : AzureMiRateRecord Decimal96}
    (h : record ∈ normalizeRecords input.records) :
    ∃ configuration ∈ input.emitted,
      record.configurationKey = configuration.configurationKey := by
  obtain ⟨groups, hgroups, hperm⟩ := input.groups_of_accepted
  obtain ⟨original, horiginal, rfl⟩ :=
    List.mem_map.mp ((normalizeRecords_perm hperm).mem_iff.mp h)
  obtain ⟨configuration, hmem, _, hof, hown⟩ :=
    KeyedGroups.exists_owner hgroups horiginal
  exact ⟨configuration, hmem, hof.configurationKey original hown⟩

theorem validMiRecord_records :
    (normalizeRecords input.records).all validMiRecord = true := by
  apply (all_normalizeRecords validMiRecord (fun record => by
    simp only [validMiRecord, normalizeProvenance, RateRecord.withProvenance]
    rfl) _).mpr
  intro record hrecord
  obtain ⟨groups, hgroups, hperm⟩ := input.groups_of_accepted
  obtain ⟨configuration, hmem, _, hof, hown⟩ :=
    KeyedGroups.exists_owner hgroups (hperm.mem_iff.mp hrecord)
  exact hof.validMiRecord (input.key_nonempty hmem) record hown

theorem matrices_iff :
    validateAzurePurchaseMatrices (normalizeRecords input.records) = .ok () ↔
      ∀ configuration ∈ input.emitted, ∀ pair ∈ optionPairs,
        AzureSqlMi.PairConsistent input.context input.calculator configuration pair := by
  have hgroups : ((groupBy AzureMiRateRecord.configurationKey
      (normalizeRecords input.records)).all validConfiguration) = true ↔
      ∀ configuration ∈ input.emitted, ∀ pair ∈ optionPairs,
        AzureSqlMi.PairConsistent input.context input.calculator configuration pair := by
    rw [List.all_eq_true, forall_groupBy]
    constructor
    · intro hvalid configuration hmem
      obtain ⟨group, hof, hperm⟩ := input.exists_group hmem
      obtain ⟨record, hrecord⟩ := hof.exists_mem
      have hstored := hperm.mem_iff.mpr (List.mem_map_of_mem hrecord)
      obtain ⟨hnormalized, hkey⟩ := List.mem_filter.mp hstored
      have hrecords := hvalid _ hnormalized
      rw [of_decide_eq_true hkey] at hrecords
      exact (hof.validConfiguration_iff hperm).mp hrecords
    · intro hpairs record hrecord
      obtain ⟨configuration, hmem, hkey⟩ := input.exists_emitted hrecord
      obtain ⟨group, hof, hperm⟩ := input.exists_group hmem
      rw [hkey]
      exact (hof.validConfiguration_iff hperm).mpr (hpairs configuration hmem)
  rw [← hgroups]
  unfold validateAzurePurchaseMatrices
  rw [input.validMiRecord_records, Bool.true_and]
  split
  · rename_i hall
    exact ⟨fun _ => hall, fun _ => rfl⟩
  · rename_i hall
    exact ⟨fun h => (by cases h), fun h => absurd h hall⟩

theorem stableKeys_iff :
    validateUniqueKeys ((normalizeRecords input.records).map RateRecord.stableKey) = .ok () ↔
      (input.emitted.map AzureSqlMi.shape).Nodup := by
  obtain ⟨groups, hgroups, hperm⟩ := input.groups_of_accepted
  have hkeys : ((normalizeRecords input.records).map RateRecord.stableKey).Perm
      (groups.flatten.map AzureMiRateRecord.stableKey) :=
    (stableKeys_normalizeRecords input.records).trans (hperm.map _)
  have hnonempty : ((normalizeRecords input.records).map RateRecord.stableKey).any (· == "") =
      false := by
    rw [List.any_eq_false]
    intro key hkey
    rw [hkeys.mem_iff, AzureSqlMi.stableKeys_groups hgroups] at hkey
    obtain ⟨configuration, -, hkey⟩ := List.mem_flatMap.mp hkey
    obtain ⟨option, -, rfl⟩ := List.mem_map.mp hkey
    simp [AzureSqlMi.rateKey]
  rw [← AzureSqlMi.stableKeys_nodup_iff hgroups, ← hkeys.nodup_iff]
  unfold validateUniqueKeys
  rw [hnonempty, Bool.false_or]
  split
  · rename_i hdouble
    refine ⟨fun h => (by cases h), fun hnodup => ?_⟩
    rw [decide_eq_true hnodup] at hdouble
    cases hdouble
  · rename_i hunique
    refine ⟨fun _ => ?_, fun _ => rfl⟩
    by_contra hdouble
    exact hunique (by rw [decide_eq_false hdouble]; rfl)

theorem validateRateProvenance_records :
    validateRateProvenance ((normalizeRecords input.records).map RateRecord.provenance) =
      .ok () := by
  obtain ⟨groups, hgroups, hperm⟩ := input.groups_of_accepted
  unfold validateRateProvenance
  rw [if_neg]
  rw [Bool.not_eq_true, List.any_eq_false]
  intro source hsource
  obtain ⟨record, hrecord, rfl⟩ := List.mem_map.mp hsource
  obtain ⟨original, horiginal, rfl⟩ :=
    List.mem_map.mp ((normalizeRecords_perm hperm).mem_iff.mp hrecord)
  obtain ⟨_, -, _, hof, hown⟩ := KeyedGroups.exists_owner hgroups horiginal
  have hsource : (RateRecord.provenance (normalizeProvenance original)).sourceUrl =
      input.context.calculatorSourceUrl := hof.sourceUrl original hown
  rw [hsource, beq_iff_eq]
  exact input.scope_of_accepted.1

/-- The rates pass the checks of a snapshot without virtual machines. -/
theorem ratesAccepted_iff :
    AzurePriceSnapshot.RatesAccepted (D := Decimal96) (normalizeRecords input.records) [] [] ↔
      input.Consistent := by
  constructor
  · intro h
    have hkeys := h.keys
    simp only [List.map_nil, List.append_nil] at hkeys
    exact ⟨input.stableKeys_iff.mp hkeys, input.matrices_iff.mp h.miRates⟩
  · rintro ⟨hshapes, hpairs⟩
    constructor
    · simp only [List.map_nil, List.append_nil]
      exact input.stableKeys_iff.mpr hshapes
    · simp only [List.map_nil, List.append_nil]
      exact input.validateRateProvenance_records
    · exact input.matrices_iff.mpr hpairs
    · rfl

theorem consistent_of_create {sha256 : String → String} {metadata : SnapshotCreationMetadata}
    {targetRegion : String} {vmRates : List (AzureVmRateRecord Decimal96)}
    {managedDiskRates : List (AzureManagedDiskRateRecord Decimal96)}
    {snapshot : AzurePriceSnapshot Decimal96}
    (h : AzurePriceSnapshot.createWithVmRates sha256 metadata targetRegion input.records vmRates
      managedDiskRates = .ok snapshot) : input.Consistent := by
  obtain ⟨-, haccepted, -⟩ := AzurePriceSnapshot.createWithVmRates_eq_ok.mp h
  refine ⟨input.stableKeys_iff.mp ?_, input.matrices_iff.mp haccepted.miRates⟩
  have hkeys := haccepted.keys
  unfold validateUniqueKeys at hkeys ⊢
  split at hkeys
  · cases hkeys
  rename_i hunique
  rw [if_neg]
  intro hdouble
  apply hunique
  rw [Bool.or_eq_true, Bool.not_eq_true', decide_eq_false_iff_not] at hdouble ⊢
  rcases hdouble with hempty | hdouble
  · rw [List.any_append, List.any_append, hempty]
    exact .inl rfl
  · exact .inr fun hnodup => hdouble hnodup.of_append_left.of_append_left

end AcceptedMi

/-! ### Agreement -/

namespace AzureMiRatesWitness

open AzureSqlMi

def context : AzureSqlMiNormalizationContext where
  targetRegion := "westeurope"
  calculatorRegionSlug := "europe-west"
  currency := "USD"
  calculatorSourceUrl := "https://prices.example/calculator"
  calculatorSourceVersion := none
  effectiveAt := none

def configuration : AzureMiConfiguration where
  configurationKey := "business-critical-gen5-4"
  serviceTier := .businessCritical
  hardwareFamily := "Gen5"
  vcores := 4
  zoneRedundant := false

/-- Every licensed option costs a machine and the software on it. -/
def references (option : PurchaseOption) : ReferenceList :=
  if isAhb option then .one "machine--hour" else .many ["machine--hour", "software--hour"]

def offer (offerType price : String) : CalculatorOffer where
  offerType := offerType
  prices := (∅ : HashMap _ _).insert "hour" ((∅ : HashMap _ _).insert "europe-west" price)

def calculator (softwarePrice : String) : CalculatorPayload where
  skus := (∅ : HashMap _ _).insert configuration.configurationKey
    (PurchaseOption.all.foldl
      (fun sku option => sku.insert (purchaseOptionKey option) (references option)) ∅)
  offers := ((∅ : HashMap _ _).insert "machine" (offer "compute" "1.5")).insert "software"
    (offer "software" softwarePrice)

def page : AzureRetailPagePayload where
  sourceUrl := "https://prices.example/retail"
  body := some [{
    serviceName := "SQL Managed Instance"
    armRegionName := "westeurope"
    currencyCode := "USD"
    productName := "SQL Managed Instance Business Critical - Storage"
    skuName := "Business Critical"
    meterName := "Data Stored"
    unitOfMeasure := "1 GB/Month"
    priceType := "Consumption"
    retailPrice := "0.25"
    effectiveStartDate := "2026-01-01T00:00:00Z"
    meterId := "storage" }]

def metadata : SnapshotCreationMetadata where
  status := .fresh
  retrievedAt := "2026-01-01T08:00:00Z"
  sourcePublishedAt := none
  currency := "USD"
  sourceUrls := ["https://prices.example/calculator"]
  parserSchemaVersion := "1"
  warnings := []

def pricedSoftware : AcceptedMi :=
  ⟨context, [configuration], calculator "0.4", [page], by decide +kernel⟩

/-- Software for nothing. -/
def freeSoftware : AcceptedMi :=
  ⟨context, [configuration], calculator "0", [page], by decide +kernel⟩

end AzureMiRatesWitness

end TcoCalculator
