/-
EC2 records (src/rust/src/pricing/aws_ec2.rs) in exact arithmetic: each instance
type with one compute SKU is priced by the dimensions of its SKUs, and where it
has no SQL Server SKU of an edition, by the least price of a core in the region.
-/
import TcoCalculator.Pricing.AwsEc2Instances

namespace TcoCalculator.AwsEc2

open DecimalArith ExactDecimal Fallible Halt ProviderRows

variable {rows : List (SkuRow ℚ)} {components : HashMap String (SkuComponent ℚ)}
  {instances : HashMap String (InstanceComponents ℚ)} {software : SoftwareComponent}

/-! ### License differences -/

/-- The cores that are billed: four at least. -/
def billed (sourceVcpu : UInt32) : ℚ := Max.max (sourceVcpu.toNat : ℚ) 4

theorem billableCores_eq (sourceVcpu : UInt32) :
    (billableCores sourceVcpu : ℚ) = billed sourceVcpu := by
  simp [billableCores, billed]

theorem billed_pos (sourceVcpu : UInt32) : 0 < billed sourceVcpu :=
  lt_of_lt_of_le (by norm_num) (le_max_right _ _)

/-- What the SQL Server SKU of an instance type costs more than its compute SKU. -/
def difference (compute licensed : SkuComponent ℚ) : ℚ := licensed.hourly - compute.hourly

theorem licenseDelta_eq_ok {compute : SkuComponent ℚ} {licensed : Option (SkuComponent ℚ)}
    {delta : Option ℚ} (h : licenseDelta compute licensed = .ok delta) :
    delta = licensed.map (difference compute) ∧ ∀ price, delta = some price → 0 < price := by
  cases licensed with
  | none =>
      cases h
      exact ⟨rfl, fun _ hprice => (nomatch hprice)⟩
  | some licensed =>
      simp only [licenseDelta, sub_eq, value_eq] at h
      change (if licensed.hourly - compute.hourly ≤ 0 then refuse _
        else (.ok (some (licensed.hourly - compute.hourly)) : Except _ _)) = _ at h
      split_ifs at h with hpositive
      · cases h
      · cases h
        exact ⟨rfl, fun price hprice => Option.some.inj hprice ▸ not_le.mp hpositive⟩

theorem perCoreDelta_eq_ok {compute : SkuComponent ℚ} {licensed : Option (SkuComponent ℚ)}
    {sourceVcpu : UInt32} {rate : Option ℚ} (h : perCoreDelta compute licensed sourceVcpu = .ok rate) :
    rate = licensed.map (fun licensed => difference compute licensed / billed sourceVcpu) ∧
      ∀ price, rate = some price → 0 < price := by
  obtain ⟨delta, hdelta, h⟩ := bind_eq_ok.mp h
  obtain ⟨rfl, hpositive⟩ := licenseDelta_eq_ok hdelta
  cases licensed with
  | none =>
      cases h
      exact ⟨rfl, fun _ hprice => (nomatch hprice)⟩
  | some licensed =>
      have hcores := billed_pos sourceVcpu
      simp only [Option.map_some, billableCores_eq, div_eq hcores.ne'] at h
      cases h
      refine ⟨rfl, fun price hprice => ?_⟩
      rw [← Option.some.inj hprice]
      exact div_pos (hpositive _ rfl) hcores

/-- The license price of a core that an instance type has of its own. -/
def ownRate (software : SoftwareComponent) (components : InstanceComponents ℚ) : Option ℚ :=
  components.compute.bind fun compute =>
    components.sourceVcpu.bind fun sourceVcpu =>
      (components.slot software).map fun licensed => difference compute licensed / billed sourceVcpu

theorem ownRate_eq_some {components : InstanceComponents ℚ} {rate : ℚ} :
    ownRate software components = some rate ↔ ∃ compute licensed sourceVcpu,
      components.compute = some compute ∧ components.sourceVcpu = some sourceVcpu ∧
      components.slot software = some licensed ∧
      rate = difference compute licensed / billed sourceVcpu := by
  simp only [ownRate, Option.bind_eq_some_iff, Option.map_eq_some_iff]
  constructor
  · rintro ⟨compute, hcompute, sourceVcpu, hvcpu, licensed, hlicensed, rfl⟩
    exact ⟨compute, licensed, sourceVcpu, hcompute, hvcpu, hlicensed, rfl⟩
  · rintro ⟨compute, licensed, sourceVcpu, hcompute, hvcpu, hlicensed, rfl⟩
    exact ⟨compute, hcompute, sourceVcpu, hvcpu, licensed, hlicensed, rfl⟩

theorem instanceDeltas_eq_ok {components : InstanceComponents ℚ} {deltas : Option ℚ × Option ℚ}
    (h : instanceDeltas components = .ok deltas) :
    deltas = (ownRate .standard components, ownRate .enterprise components) ∧
      (∀ rate, deltas.1 = some rate → 0 < rate) ∧ ∀ rate, deltas.2 = some rate → 0 < rate := by
  unfold instanceDeltas at h
  cases hcompute : components.compute with
  | none =>
      simp only [hcompute] at h
      cases h
      simp [ownRate, hcompute]
  | some compute =>
      simp only [hcompute] at h
      obtain ⟨sourceVcpu, hvcpu, h⟩ := bind_eq_ok.mp h
      obtain ⟨standard, hstandard, h⟩ := bind_eq_ok.mp h
      obtain ⟨enterprise, henterprise, h⟩ := bind_eq_ok.mp h
      cases h
      obtain ⟨hstandard, hstandardPos⟩ := perCoreDelta_eq_ok hstandard
      obtain ⟨henterprise, henterprisePos⟩ := perCoreDelta_eq_ok henterprise
      have hvcpu : components.sourceVcpu = some sourceVcpu := by
        cases hfound : components.sourceVcpu with
        | none =>
            rw [hfound] at hvcpu
            cases hvcpu
        | some found =>
            rw [hfound] at hvcpu
            cases hvcpu
            rfl
      refine ⟨?_, hstandardPos, henterprisePos⟩
      simp [ownRate, hcompute, hvcpu, hstandard, henterprise, InstanceComponents.slot]

/-! ### The fallback of a region -/

/-- What a core costs on an instance type that has a SQL Server SKU of its own. -/
def PerCore (rows : List (SkuRow ℚ)) (software : SoftwareComponent) (rate : ℚ) : Prop :=
  ∃ row ∈ rows, ∃ compute licensed, OnlySku rows row.instanceType .compute compute ∧
    OnlySku rows row.instanceType software licensed ∧
    rate = (hourlyOf rows licensed - hourlyOf rows compute) / billed row.sourceVcpu

/-- The least price of a core in the region, if there is one. -/
structure IsFallback (rows : List (SkuRow ℚ)) (software : SoftwareComponent)
    (fallback : Option ℚ) : Prop where
  least : ∀ rate, fallback = some rate → IsLeast {rate | PerCore rows software rate} rate
  missing : fallback = none → ∀ rate, ¬ PerCore rows software rate
  positive : ∀ rate, fallback = some rate → 0 < rate

theorem Built.slot_hourly (h : Built rows components instances) {instanceType sku : String}
    (hsku : OnlySku rows instanceType software sku) :
    ∃ component, slotOf instances instanceType software = some component ∧
      component.hourly = hourlyOf rows sku := by
  obtain ⟨component, hslot⟩ := h.slot_of_isSku hsku.isSku
  obtain ⟨sku', honly, hlookup, -⟩ := h.slot_some hslot
  have hsame := hsku.only sku' honly.isSku
  subst hsame
  exact ⟨component, hslot, (h.skus.present _ _ hlookup).hourly⟩

theorem Built.hourly_of_slot (h : Built rows components instances) {instanceType : String}
    {component : SkuComponent ℚ} (hslot : slotOf instances instanceType software = some component) :
    ∃ sku, OnlySku rows instanceType software sku ∧ component.hourly = hourlyOf rows sku := by
  obtain ⟨sku, honly, hlookup, -⟩ := h.slot_some hslot
  exact ⟨sku, honly, (h.skus.present _ _ hlookup).hourly⟩

/-- The instance types contribute the prices of a core that their SKUs come to. -/
theorem Built.ownRate_iff (h : Built rows components instances) {rate : ℚ} :
    rate ∈ (instances.toSortedList.map Prod.snd).filterMap (ownRate software) ↔
      PerCore rows software rate := by
  rw [List.mem_filterMap]
  constructor
  · rintro ⟨found, hmem, hrate⟩
    obtain ⟨⟨instanceType, found⟩, hentry, rfl⟩ := List.mem_map.mp hmem
    have hlookup := HashMap.mem_toSortedList.mp hentry
    obtain ⟨compute, licensed, sourceVcpu, hcompute, hvcpu, hlicensed, rfl⟩ :=
      ownRate_eq_some.mp hrate
    obtain ⟨computeSku, honlyCompute, hcomputeHourly⟩ :=
      h.hourly_of_slot ((slotOf_of_lookup hlookup .compute).trans hcompute)
    obtain ⟨licensedSku, honlyLicensed, hlicensedHourly⟩ :=
      h.hourly_of_slot ((slotOf_of_lookup hlookup software).trans hlicensed)
    obtain ⟨row, hrow, -, htype, -⟩ := honlyCompute.isSku
    subst htype
    have hsize := (h.size_of_row hlookup hrow rfl).1.symm.trans hvcpu
    refine ⟨row, hrow, computeSku, licensedSku, honlyCompute, honlyLicensed, ?_⟩
    rw [difference, hcomputeHourly, hlicensedHourly, Option.some.inj hsize]
  · rintro ⟨row, hrow, computeSku, licensedSku, honlyCompute, honlyLicensed, rfl⟩
    obtain ⟨compute, hcompute, hcomputeHourly⟩ := h.slot_hourly honlyCompute
    obtain ⟨licensed, hlicensed, hlicensedHourly⟩ := h.slot_hourly honlyLicensed
    obtain ⟨found, hlookup, hfound⟩ := lookup_of_slot hcompute
    refine ⟨found, List.mem_map.mpr ⟨_, HashMap.mem_toSortedList.mpr hlookup, rfl⟩,
      ownRate_eq_some.mpr ⟨compute, licensed, row.sourceVcpu, hfound,
        (h.size_of_row hlookup hrow rfl).1, ?_, ?_⟩⟩
    · rw [← slotOf_of_lookup hlookup, hlicensed]
    · rw [difference, hcomputeHourly, hlicensedHourly]

/-- The least of the prices of a core, none where no instance type has one. -/
theorem Built.isFallback (h : Built rows components instances)
    (hpositive : ∀ rate ∈ (instances.toSortedList.map Prod.snd).filterMap (ownRate software),
      0 < rate) :
    IsFallback rows software
      (minimum? ((instances.toSortedList.map Prod.snd).filterMap (ownRate software))) := by
  refine ⟨fun rate hrate => ?_, fun hnone rate hrate => ?_, fun rate hrate => ?_⟩
  · obtain ⟨hmem, hleast⟩ := minimum?_eq_some hrate
    exact ⟨h.ownRate_iff.mp hmem, fun other hother => hleast other (h.ownRate_iff.mpr hother)⟩
  · have hmem := h.ownRate_iff.mpr hrate
    rw [minimum?_eq_none.mp hnone] at hmem
    exact List.not_mem_nil hmem
  · exact hpositive rate (minimum?_eq_some hrate).1

theorem Built.regionalLicenseFallbacks (h : Built rows components instances)
    {fallbacks : LicenseFallbacks ℚ}
    (hfallbacks : regionalLicenseFallbacks (instances.toSortedList.map Prod.snd) = .ok fallbacks) :
    IsFallback rows .standard fallbacks.standard ∧
      IsFallback rows .enterprise fallbacks.enterprise := by
  obtain ⟨deltas, hdeltas, hresult⟩ := bind_eq_ok.mp hfallbacks
  cases hresult
  have hall := mapM_eq_ok.mp hdeltas
  have heq : deltas = (instances.toSortedList.map Prod.snd).map fun components =>
      (ownRate .standard components, ownRate .enterprise components) :=
    eq_map_of_mapM hdeltas fun _ _ hfound => (instanceDeltas_eq_ok hfound).1
  have hpositive : ∀ pair ∈ deltas,
      (∀ rate, pair.1 = some rate → 0 < rate) ∧ ∀ rate, pair.2 = some rate → 0 < rate := by
    intro pair hpair
    obtain ⟨found, -, hfound⟩ := KeyedGroups.exists_mem_of_forall₂ hall hpair
    exact (instanceDeltas_eq_ok hfound).2
  have hstandard : deltas.filterMap Prod.fst =
      (instances.toSortedList.map Prod.snd).filterMap (ownRate .standard) := by
    rw [heq, List.filterMap_map]
    rfl
  have henterprise : deltas.filterMap Prod.snd =
      (instances.toSortedList.map Prod.snd).filterMap (ownRate .enterprise) := by
    rw [heq, List.filterMap_map]
    rfl
  constructor
  · dsimp only
    rw [hstandard]
    refine h.isFallback fun rate hrate => ?_
    rw [← hstandard] at hrate
    obtain ⟨pair, hpair, hsome⟩ := List.mem_filterMap.mp hrate
    exact (hpositive pair hpair).1 rate hsome
  · dsimp only
    rw [henterprise]
    refine h.isFallback fun rate hrate => ?_
    rw [← henterprise] at hrate
    obtain ⟨pair, hpair, hsome⟩ := List.mem_filterMap.mp hrate
    exact (hpositive pair hpair).2 rate hsome

/-! ### License prices -/

/-- The license price of an edition on an instance type: its own difference; else
the least price of a core in the region for the cores that are billed; else none. -/
inductive LicensePrice (rows : List (SkuRow ℚ)) (instanceType : String)
    (software : SoftwareComponent) (sourceVcpu : UInt32) : Option ℚ → Prop where
  | own {compute licensed : String} (hcompute : OnlySku rows instanceType .compute compute)
      (hlicensed : OnlySku rows instanceType software licensed) :
      LicensePrice rows instanceType software sourceVcpu
        (some (hourlyOf rows licensed - hourlyOf rows compute))
  | fallback {rate : ℚ} (hnone : ∀ sku, ¬ IsSku rows instanceType software sku)
      (hleast : IsLeast {rate | PerCore rows software rate} rate) :
      LicensePrice rows instanceType software sourceVcpu (some (rate * billed sourceVcpu))
  | absent (hnone : ∀ sku, ¬ IsSku rows instanceType software sku)
      (hmissing : ∀ rate, ¬ PerCore rows software rate) :
      LicensePrice rows instanceType software sourceVcpu none

/-- An instance type that is priced has no SKU of the edition, and the region does. -/
structure UsesFallback (rows : List (SkuRow ℚ)) (instanceType : String)
    (software : SoftwareComponent) : Prop where
  priced : ∃ sku, IsSku rows instanceType .compute sku
  unlicensed : ∀ sku, ¬ IsSku rows instanceType software sku
  regional : ∃ rate, PerCore rows software rate

theorem licenseHourly_own {compute licensed : SkuComponent ℚ} {sourceVcpu : UInt32}
    {fallback price : Option ℚ}
    (h : licenseHourly compute (some licensed) sourceVcpu fallback = .ok price) :
    price = some (difference compute licensed) ∧ 0 < difference compute licensed := by
  obtain ⟨delta, hdelta, h⟩ := bind_eq_ok.mp h
  obtain ⟨rfl, hpositive⟩ := licenseDelta_eq_ok hdelta
  cases h
  exact ⟨rfl, hpositive _ rfl⟩

theorem licenseHourly_fallback (compute : SkuComponent ℚ) (sourceVcpu : UInt32)
    (fallback : Option ℚ) :
    licenseHourly compute none sourceVcpu fallback =
      .ok (fallback.map (· * billed sourceVcpu)) := by
  cases fallback with
  | none => rfl
  | some rate =>
      rw [Option.map_some, mul_comm, ← billableCores_eq]
      rfl

/-- What an edition costs on an instance type, and whether by the fallback. -/
theorem Built.licensePrice (h : Built rows components instances) {instanceType : String}
    {found : InstanceComponents ℚ} (hlookup : instances.lookup instanceType = some found)
    {compute : SkuComponent ℚ} (hcompute : found.compute = some compute) {sourceVcpu : UInt32}
    {fallback price : Option ℚ} (hfallback : IsFallback rows software fallback)
    (hprice : licenseHourly compute (found.slot software) sourceVcpu fallback = .ok price) :
    LicensePrice rows instanceType software sourceVcpu price ∧
      (∀ amount, price = some amount → 0 < amount) ∧
      ((found.slot software).isNone ∧ price.isSome ↔ UsesFallback rows instanceType software) := by
  obtain ⟨computeSku, honlyCompute, hcomputeHourly⟩ :=
    h.hourly_of_slot ((slotOf_of_lookup hlookup .compute).trans hcompute)
  cases hslot : found.slot software with
  | some licensed =>
      obtain ⟨licensedSku, honlyLicensed, hlicensedHourly⟩ :=
        h.hourly_of_slot ((slotOf_of_lookup hlookup software).trans hslot)
      rw [hslot] at hprice
      obtain ⟨rfl, hpositive⟩ := licenseHourly_own hprice
      refine ⟨?_, fun amount hamount => Option.some.inj hamount ▸ hpositive, ?_⟩
      · rw [difference, hcomputeHourly, hlicensedHourly]
        exact .own honlyCompute honlyLicensed
      · simp only [Option.isNone_some, Bool.false_eq_true, false_and, false_iff]
        exact fun huses => huses.unlicensed _ honlyLicensed.isSku
  | none =>
      have hnone : ∀ sku, ¬ IsSku rows instanceType software sku := fun sku =>
        h.slot_none ((slotOf_of_lookup hlookup software).trans hslot)
      rw [hslot, licenseHourly_fallback] at hprice
      cases hprice
      cases hrate : fallback with
      | none =>
          refine ⟨.absent hnone (hfallback.missing hrate), fun _ h => (nomatch h), ?_⟩
          simp only [Option.map_none, Option.isSome_none, Bool.false_eq_true, and_false, false_iff]
          rintro ⟨-, -, rate, hregional⟩
          exact hfallback.missing hrate rate hregional
      | some rate =>
          have hleast := hfallback.least rate hrate
          refine ⟨.fallback hnone hleast, fun amount hamount => ?_, ?_⟩
          · rw [← Option.some.inj hamount]
            exact mul_pos (hfallback.positive rate hrate) (billed_pos sourceVcpu)
          · simp only [Option.isNone_none, Option.map_some, Option.isSome_some, true_and,
              true_iff]
            exact ⟨⟨computeSku, honlyCompute.isSku⟩, hnone, rate, hleast.1⟩

/-! ### Records -/

/-- What a record says about the rows of its instance type. -/
structure RecordOf (rows : List (SkuRow ℚ)) (record : AwsEc2RateRecord ℚ) : Prop where
  compute : ∃ sku, OnlySku rows record.instanceType .compute sku ∧
    record.rate.computeHourly = hourlyOf rows sku
  size : ∀ row ∈ rows, row.instanceType = record.instanceType →
    row.sourceVcpu = record.rate.sourceVcpu ∧ row.memoryGb = record.rate.catalogMemoryGb
  standard : LicensePrice rows record.instanceType .standard record.rate.sourceVcpu
    record.rate.standardLicenseHourly
  enterprise : LicensePrice rows record.instanceType .enterprise record.rate.sourceVcpu
    record.rate.enterpriseLicenseHourly
  positive : ∀ price, record.rate.standardLicenseHourly = some price ∨
    record.rate.enterpriseLicenseHourly = some price → 0 < price

/-- A warning on an edition of an instance type that uses the fallback. -/
def WarnsOf (rows : List (SkuRow ℚ)) (instanceType warning : String) : Prop :=
  UsesFallback rows instanceType .standard ∧
      warning = fallbackWarning "Standard" instanceType ∨
    UsesFallback rows instanceType .enterprise ∧
      warning = fallbackWarning "Enterprise" instanceType

theorem mem_fallbackWarnings {edition instanceType warning : String}
    {licensed : Option (SkuComponent ℚ)} {hourly : Option ℚ} :
    warning ∈ fallbackWarnings edition instanceType licensed hourly ↔
      (licensed.isNone ∧ hourly.isSome) ∧ warning = fallbackWarning edition instanceType := by
  unfold fallbackWarnings
  split_ifs with h
  · rw [List.mem_singleton, and_iff_right h]
  · simp only [List.not_mem_nil, h, false_and]

/-- An instance type with a compute SKU leaves its record and its warnings. -/
theorem Built.priceInstance_some (h : Built rows components instances)
    {context : Ec2NormalizationContext} {fallbacks : LicenseFallbacks ℚ}
    (hstandardLeast : IsFallback rows .standard fallbacks.standard)
    (henterpriseLeast : IsFallback rows .enterprise fallbacks.enterprise) {instanceType : String}
    {found : InstanceComponents ℚ} (hlookup : instances.lookup instanceType = some found)
    {priced : PricedInstance ℚ}
    (hpriced : priceInstance context fallbacks (instanceType, found) = .ok (some priced)) :
    priced.record.instanceType = instanceType ∧ RecordOf rows priced.record ∧
      ∀ warning, warning ∈ priced.warnings ↔ WarnsOf rows instanceType warning := by
  unfold priceInstance at hpriced
  cases hcompute : found.compute with
  | none =>
      simp only [hcompute] at hpriced
      cases hpriced
  | some compute =>
      simp only [hcompute] at hpriced
      obtain ⟨sourceVcpu, hvcpu, hpriced⟩ := bind_eq_ok.mp hpriced
      obtain ⟨memoryGb, hmemory, hpriced⟩ := bind_eq_ok.mp hpriced
      obtain ⟨standard, hstandard, hpriced⟩ := bind_eq_ok.mp hpriced
      obtain ⟨enterprise, henterprise, hpriced⟩ := bind_eq_ok.mp hpriced
      cases hpriced
      have hvcpu := elim_eq_ok (checked_eq_ok.mp hvcpu)
      have hmemory := elim_eq_ok (checked_eq_ok.mp hmemory)
      obtain ⟨computeSku, honlyCompute, hhourly⟩ :=
        h.hourly_of_slot ((slotOf_of_lookup hlookup .compute).trans hcompute)
      obtain ⟨hstandardPrice, hstandardPos, hstandardUses⟩ :=
        h.licensePrice hlookup hcompute hstandardLeast hstandard
      obtain ⟨henterprisePrice, henterprisePos, henterpriseUses⟩ :=
        h.licensePrice hlookup hcompute henterpriseLeast henterprise
      refine ⟨rfl, ⟨⟨computeSku, honlyCompute, hhourly⟩, fun row hrow htype => ?_, hstandardPrice,
        henterprisePrice, fun price hprice => hprice.elim (hstandardPos price)
          (henterprisePos price)⟩, fun warning => ?_⟩
      · obtain ⟨hrowVcpu, hrowMemory⟩ := h.size_of_row hlookup hrow htype
        exact ⟨Option.some.inj (hrowVcpu.symm.trans hvcpu),
          Option.some.inj (hrowMemory.symm.trans hmemory)⟩
      · rw [List.mem_append, mem_fallbackWarnings, mem_fallbackWarnings]
        exact or_congr (and_congr_left' hstandardUses) (and_congr_left' henterpriseUses)

theorem Built.priceInstance_none (h : Built rows components instances)
    {context : Ec2NormalizationContext} {fallbacks : LicenseFallbacks ℚ} {instanceType : String}
    {found : InstanceComponents ℚ} (hlookup : instances.lookup instanceType = some found)
    (hpriced : priceInstance context fallbacks (instanceType, found) = .ok none) (sku : String) :
    ¬ IsSku rows instanceType .compute sku := by
  unfold priceInstance at hpriced
  cases hcompute : found.compute with
  | none => exact h.slot_none ((slotOf_of_lookup hlookup .compute).trans hcompute)
  | some compute =>
      simp only [hcompute] at hpriced
      obtain ⟨_, -, hpriced⟩ := bind_eq_ok.mp hpriced
      obtain ⟨_, -, hpriced⟩ := bind_eq_ok.mp hpriced
      obtain ⟨_, -, hpriced⟩ := bind_eq_ok.mp hpriced
      obtain ⟨_, -, hpriced⟩ := bind_eq_ok.mp hpriced
      cases hpriced

/-! ### The outcome -/

theorem fallbackWarning_inj {instanceType instanceType' : String} (edition : String)
    (h : fallbackWarning edition instanceType = fallbackWarning edition instanceType') :
    instanceType = instanceType' := by
  rw [String.ext_iff] at h ⊢
  simpa [fallbackWarning] using h

theorem fallbackWarning_edition_ne (instanceType instanceType' : String) :
    fallbackWarning "Standard" instanceType ≠ fallbackWarning "Enterprise" instanceType' := by
  intro h
  rw [String.ext_iff] at h
  simp [fallbackWarning] at h

/-- What the records and the warnings say about the rows of the leaves. -/
structure Describes (rows : List (SkuRow ℚ)) (normalization : Ec2Normalization ℚ) : Prop where
  records : ∀ record ∈ normalization.records, RecordOf rows record
  complete : ∀ instanceType sku, IsSku rows instanceType .compute sku →
    ∃ record ∈ normalization.records, record.instanceType = instanceType
  standardWarning : ∀ instanceType,
    fallbackWarning "Standard" instanceType ∈ normalization.warnings ↔
      UsesFallback rows instanceType .standard
  enterpriseWarning : ∀ instanceType,
    fallbackWarning "Enterprise" instanceType ∈ normalization.warnings ↔
      UsesFallback rows instanceType .enterprise
  warnings : ∀ warning ∈ normalization.warnings, ∃ instanceType,
    warning = fallbackWarning "Standard" instanceType ∨
      warning = fallbackWarning "Enterprise" instanceType

/-- The part of the normalization after the SKUs. -/
def priceSkus (context : Ec2NormalizationContext) (skus : List (String × SkuComponent ℚ)) :
    Except (Halt Ec2NormalizationError) (Ec2Normalization ℚ) := do
  let instances ← checked ((skus.map Prod.snd).foldlM addComponent ∅)
  let fallbacks ← AwsEc2.regionalLicenseFallbacks (instances.toSortedList.map Prod.snd)
  let priced ← instances.toSortedList.mapM (priceInstance context fallbacks)
  let priced := priced.filterMap id
  return {
    records := (priced.map PricedInstance.record).insertionSort fun left right =>
      left.stableKey ≤ right.stableKey
    warnings := (priced.flatMap PricedInstance.warnings).insertionSort (· ≤ ·) }

theorem normalizeEc2Leaves_eq (context : Ec2NormalizationContext) (leaves : List Ec2LeafPayload) :
    normalizeEc2Leaves context leaves =
      if context.regionCode = "" ∨ context.location = "" then refuse .invalidValue
      else leaves.foldlM (addLeaf context) ∅ >>= fun components =>
        priceSkus context components.toSortedList := by
  rfl

section Outcome

variable {context : Ec2NormalizationContext} {fallbacks : LicenseFallbacks ℚ}
  {priced : List (Option (PricedInstance ℚ))}

/-- A record stands for an instance type that was gone through. -/
theorem exists_entry_of_priced
    (h : instances.toSortedList.mapM (priceInstance context fallbacks) = .ok priced)
    {one : PricedInstance ℚ} (hone : one ∈ priced.filterMap id) :
    ∃ instanceType found, instances.lookup instanceType = some found ∧
      priceInstance context fallbacks (instanceType, found) = .ok (some one) := by
  obtain ⟨result, hmem, rfl⟩ := List.mem_filterMap.mp hone
  obtain ⟨⟨instanceType, found⟩, hentry, hresult⟩ :=
    KeyedGroups.exists_mem_of_forall₂ (mapM_eq_ok.mp h) hmem
  exact ⟨instanceType, found, HashMap.mem_toSortedList.mp hentry, hresult⟩

/-- Every instance type with a compute SKU is priced. -/
theorem Built.exists_priced (hbuilt : Built rows components instances)
    (h : instances.toSortedList.mapM (priceInstance context fallbacks) = .ok priced)
    {instanceType sku : String} (hsku : IsSku rows instanceType .compute sku) :
    ∃ one ∈ priced.filterMap id, ∃ found, instances.lookup instanceType = some found ∧
      priceInstance context fallbacks (instanceType, found) = .ok (some one) := by
  obtain ⟨_, hslot⟩ := hbuilt.slot_of_isSku hsku
  obtain ⟨found, hlookup, -⟩ := lookup_of_slot hslot
  obtain ⟨result, hmem, hresult⟩ := KeyedGroups.exists_mem_of_forall₂ (mapM_eq_ok.mp h).flip
    (HashMap.mem_toSortedList.mpr hlookup)
  cases result with
  | none => exact absurd hsku (hbuilt.priceInstance_none hlookup hresult sku)
  | some one => exact ⟨one, List.mem_filterMap.mpr ⟨_, hmem, rfl⟩, found, hlookup, hresult⟩

theorem describes_of_priceSkus (hskus : SkusGathered rows components)
    {normalization : Ec2Normalization ℚ}
    (h : priceSkus context components.toSortedList = .ok normalization) :
    Describes rows normalization := by
  obtain ⟨instances, hinstances, h⟩ := bind_eq_ok.mp h
  obtain ⟨fallbacks, hfallbacks, h⟩ := bind_eq_ok.mp h
  obtain ⟨priced, hpriced, h⟩ := bind_eq_ok.mp h
  cases h
  have hbuilt : Built rows components instances :=
    ⟨hskus, instancesGathered_foldlM (checked_eq_ok.mp hinstances)⟩
  obtain ⟨hstandard, henterprise⟩ := hbuilt.regionalLicenseFallbacks hfallbacks
  have hwarnings : ∀ warning,
      warning ∈ ((priced.filterMap id).flatMap PricedInstance.warnings).insertionSort (· ≤ ·) ↔
        ∃ instanceType, WarnsOf rows instanceType warning := by
    intro warning
    rw [(List.perm_insertionSort _ _).mem_iff, List.mem_flatMap]
    constructor
    · rintro ⟨one, hone, hwarning⟩
      obtain ⟨instanceType, found, hlookup, hresult⟩ := exists_entry_of_priced hpriced hone
      have hspec := hbuilt.priceInstance_some hstandard henterprise hlookup hresult
      exact ⟨instanceType, (hspec.2.2 warning).mp hwarning⟩
    · rintro ⟨instanceType, hwarns⟩
      obtain ⟨sku, hsku⟩ : ∃ sku, IsSku rows instanceType .compute sku :=
        hwarns.elim (fun h => h.1.priced) (fun h => h.1.priced)
      obtain ⟨one, hone, found, hlookup, hresult⟩ := hbuilt.exists_priced hpriced hsku
      have hspec := hbuilt.priceInstance_some hstandard henterprise hlookup hresult
      exact ⟨one, hone, (hspec.2.2 warning).mpr hwarns⟩
  constructor
  · intro record hrecord
    rw [(List.perm_insertionSort _ _).mem_iff, List.mem_map] at hrecord
    obtain ⟨one, hone, rfl⟩ := hrecord
    obtain ⟨instanceType, found, hlookup, hresult⟩ := exists_entry_of_priced hpriced hone
    exact (hbuilt.priceInstance_some hstandard henterprise hlookup hresult).2.1
  · intro instanceType sku hsku
    obtain ⟨one, hone, found, hlookup, hresult⟩ := hbuilt.exists_priced hpriced hsku
    refine ⟨one.record, ?_,
      (hbuilt.priceInstance_some hstandard henterprise hlookup hresult).1⟩
    rw [(List.perm_insertionSort _ _).mem_iff]
    exact List.mem_map_of_mem hone
  · intro instanceType
    rw [hwarnings]
    constructor
    · rintro ⟨instanceType', ⟨huses, hsame⟩ | ⟨-, hsame⟩⟩
      · rw [fallbackWarning_inj "Standard" hsame]
        exact huses
      · exact absurd hsame (fallbackWarning_edition_ne _ _)
    · exact fun huses => ⟨instanceType, .inl ⟨huses, rfl⟩⟩
  · intro instanceType
    rw [hwarnings]
    constructor
    · rintro ⟨instanceType', ⟨-, hsame⟩ | ⟨huses, hsame⟩⟩
      · exact absurd hsame.symm (fallbackWarning_edition_ne _ _)
      · rw [fallbackWarning_inj "Enterprise" hsame]
        exact huses
    · exact fun huses => ⟨instanceType, .inr ⟨huses, rfl⟩⟩
  · intro warning hwarning
    obtain ⟨instanceType, hwarns⟩ := (hwarnings warning).mp hwarning
    exact ⟨instanceType, hwarns.imp And.right And.right⟩

end Outcome

end TcoCalculator.AwsEc2
