/-
Which RDS rates the normalizer emits: when the records made of the rows of an
accepted input are valid.
-/
import TcoCalculator.Domain.PriceArithmetic
import TcoCalculator.Pricing.AwsRdsRows

namespace TcoCalculator.AwsRds

open DecimalArith Fallible Halt PriceSnapshot ProviderRows Decimal96

/-! ### Rows of the leaves -/

def computeRows (leaves : List RdsLeafPayload) : List (ComputeRow Decimal96) :=
  (dimensionsOf leaves).filterMap computeRow?

def storageRows (leaves : List RdsLeafPayload) : List (StorageRow Decimal96) :=
  (dimensionsOf leaves).filterMap storageRow?

/-! ### Prices above zero -/

/-- A row of the offer has an hourly price, or its upfront prices come to more
than half of the last digit an hour. -/
def PricedAboveZero (rows : List (ComputeRow Decimal96)) (offer : OfferKey) : Prop :=
  (∃ row ∈ offerRows rows offer, 0 < row.recurringHourly.toRat) ∨
    ∃ hours : Decimal96, commercialTermHours offer.commercialTerm = .ok hours ∧
      hours.toRat < 2 * 10 ^ 28 * ((offerRows rows offer).map fun row => row.upfront.toRat).sum

/-- Where the offers of a machine agree and its deployment has a storage rate,
both are priced above zero. -/
def PricesPositive (leaves : List RdsLeafPayload) : Prop :=
  ∀ row ∈ computeRows leaves, ∀ storage ∈ storageRows leaves,
    storage.key.deployment = row.key.deployment → Agreed (computeRows leaves) row.key →
      PricedAboveZero (computeRows leaves) row.offer ∧ 0 < storage.monthlyPerGb.toRat

theorem commercialTermHours_bounds {term : String} {hours : Decimal96}
    (h : commercialTermHours term = .ok hours) : 0 < hours.toRat ∧ hours.toRat ≤ 26280 := by
  unfold commercialTermHours at h
  split_ifs at h
  · cases h
    decide +kernel
  · cases h
    rw [toRat_ofNat (by norm_num)]
    norm_num
  · cases h
    rw [toRat_ofNat (by norm_num)]
    norm_num

theorem offerHourly_pos_iff {rows : List (ComputeRow Decimal96)} {offer : OfferKey}
    {hourly : Decimal96}
    (hrows : ∀ row ∈ rows, 0 ≤ row.recurringHourly.toRat ∧ 0 ≤ row.upfront.toRat)
    (h : offerHourly rows offer = .ok hourly) :
    0 < hourly.toRat ↔ PricedAboveZero rows offer := by
  unfold offerHourly at h
  obtain ⟨recurring, hrecurring, h⟩ := bind_eq_ok.mp h
  obtain ⟨upfront, hupfront, h⟩ := bind_eq_ok.mp h
  obtain ⟨hours, hhours, h⟩ := bind_eq_ok.mp h
  obtain ⟨share, hshare, h⟩ := bind_eq_ok.mp h
  have hrecurring := liftM_eq_ok.mp hrecurring
  have hupfront := liftM_eq_ok.mp hupfront
  have hhours := checked_eq_ok.mp hhours
  have hshare := liftM_eq_ok.mp hshare
  have hadd := liftM_eq_ok.mp h
  have hnonneg : ∀ row ∈ offerRows rows offer,
      0 ≤ row.recurringHourly.toRat ∧ 0 ≤ row.upfront.toRat :=
    fun row hmem => hrows row (List.mem_filter.mp hmem).1
  have hrecurringPrices : ∀ price ∈ (offerRows rows offer).map ComputeRow.recurringHourly,
      0 ≤ price.toRat := by
    rintro _ hmem
    obtain ⟨row, hrow, rfl⟩ := List.mem_map.mp hmem
    exact (hnonneg row hrow).1
  have hupfrontPrices : ∀ price ∈ (offerRows rows offer).map ComputeRow.upfront,
      0 ≤ price.toRat := by
    rintro _ hmem
    obtain ⟨row, hrow, rfl⟩ := List.mem_map.mp hmem
    exact (hnonneg row hrow).2
  obtain ⟨hupfrontNonneg, hupfrontCases⟩ := sum_cases hupfrontPrices hupfront
  obtain ⟨hhoursPos, hhoursLe⟩ := commercialTermHours_bounds hhours
  obtain ⟨hshareNonneg, hsharePos⟩ := div_pos_iff hupfrontNonneg hhoursPos hshare
  rw [add_pos_iff (sum_cases hrecurringPrices hrecurring).1 hshareNonneg hadd,
    sum_pos_iff hrecurringPrices hrecurring, hsharePos]
  -- the rounded upfront sum is as good as the exact one
  have hexact : hours.toRat < 2 * 10 ^ 28 * upfront.toRat ↔
      hours.toRat < 2 * 10 ^ 28 * ((offerRows rows offer).map fun row => row.upfront.toRat).sum := by
    rw [List.map_map] at hupfrontCases
    rcases hupfrontCases with heq | ⟨hrounded, hsum⟩
    · rw [heq]
      rfl
    · constructor <;> intro _
      · have hsum : 7 ≤ ((offerRows rows offer).map fun row => row.upfront.toRat).sum := hsum
        linarith
      · linarith
  rw [hexact]
  constructor
  · rintro (⟨_, hmem, hpos⟩ | hlt)
    · obtain ⟨row, hrow, rfl⟩ := List.mem_map.mp hmem
      exact .inl ⟨row, hrow, hpos⟩
    · exact .inr ⟨hours, hhours, hlt⟩
  · rintro (⟨row, hrow, hpos⟩ | ⟨hours', hhours', hlt⟩)
    · exact .inl ⟨row.recurringHourly, List.mem_map_of_mem hrow, hpos⟩
    · obtain rfl := Except.ok.inj (hhours.symm.trans hhours')
      exact .inr hlt

/-! ### Records -/

theorem licenseOrFallback_positive {slot : Option (LicenseComponent Decimal96)}
    {fallback : Decimal96} (hslot : LicensePositive slot) (hfallback : 0 < fallback.toRat) :
    0 < (licenseOrFallback slot fallback).coreHourly.toRat := by
  rcases slot with _ | component
  · exact hfallback
  · exact hslot component rfl

theorem isPositive_iff (a : Decimal96) : isPositive a = true ↔ 0 < a.toRat := decide_eq_true_iff

/-- Nothing but the two prices can be wrong with a record. -/
theorem rdsRecord_valid_iff {regionCode : String} {standard enterprise : LicenseComponent Decimal96}
    {compute : ComputeKey × ComputeComponent Decimal96}
    {storage : StorageKey × StorageComponent Decimal96}
    (hinstance : compute.1.instanceType ≠ "") (hterm : compute.1.commercialTerm ≠ "")
    (hvcpu : compute.2.sourceVcpu ≠ 0) (hmemory : 0 < compute.2.memoryGb.toRat)
    (hclass : storage.1.storageClass ≠ "") (hstandard : 0 < standard.coreHourly.toRat)
    (henterprise : 0 < enterprise.coreHourly.toRat) :
    validRdsRecord (rdsRecord regionCode standard enterprise compute storage) = true ↔
      0 < compute.2.effectiveHourly.toRat ∧ 0 < storage.2.monthlyPerGb.toRat := by
  simp only [validRdsRecord, rdsRecord, isPositive_iff, Bool.and_eq_true, decide_eq_true_eq,
    ne_eq, hinstance, hterm, hvcpu, hmemory, hclass, hstandard, henterprise, not_false_eq_true,
    true_and, and_true]

/-- The emitted records are valid exactly when the rows behind them are priced above zero. -/
theorem records_valid_iff {regionCode : String} {leaves : List RdsLeafPayload}
    {normalization : RdsNormalization Decimal96}
    (h : normalizeRdsLeaves regionCode leaves = .ok normalization) :
    (∀ record ∈ normalization.records, validRdsRecord record = true) ↔ PricesPositive leaves := by
  unfold normalizeRdsLeaves at h
  split at h
  · cases h
  obtain ⟨rates, hrates, h⟩ := bind_eq_ok.mp h
  obtain ⟨collapsed, hcollapse, h⟩ := bind_eq_ok.mp h
  cases h
  have hmerged := merged_of_leaves hrates
  have hnonneg : ∀ row ∈ computeRows leaves,
      0 ≤ row.recurringHourly.toRat ∧ 0 ≤ row.upfront.toRat :=
    fun row hrow => prices_nonneg_of_mem toRat_zero.ge hrow
  have hcollapsed := collapsed_of_offers hmerged.offers hcollapse
  have hvalid : ∀ key component storageKey storage,
      collapsed.compute.lookup key = some component →
      rates.storage.lookup storageKey = some storage →
      (validRdsRecord (rdsRecord regionCode
        (licenseOrFallback rates.standardLicense standardLicenseFallback)
        (licenseOrFallback rates.enterpriseLicense enterpriseLicenseFallback)
        (key, component) (storageKey, storage)) = true ↔
          0 < component.effectiveHourly.toRat ∧ 0 < storage.monthlyPerGb.toRat) := by
    intro key component storageKey storage hcomponent hstorage
    obtain ⟨hvcpu, hmemory, ⟨⟨offer, stored⟩, hoffer, hkey⟩, -⟩ :=
      hcollapsed.kept key component hcomponent
    obtain ⟨row, hrow, -, hsame⟩ := hmerged.offers.of_lookup (HashMap.mem_toSortedList.mp hoffer)
    have hchecked := hmerged.offers.rows_checked row hrow
    have hrowKey : row.key = key := hsame.trans hkey
    refine rdsRecord_valid_iff ?_ ?_ hvcpu hmemory
      (hmerged.storage.filled storageKey storage hstorage).1
      (licenseOrFallback_positive hmerged.standard (by decide +kernel))
      (licenseOrFallback_positive hmerged.enterprise (by decide +kernel))
    · exact hrowKey ▸ hchecked.instanceType
    · exact hrowKey ▸ hchecked.termPresent
  constructor
  · intro hrecords row hrow storageRow hstorageRow hdeployment hagreed
    obtain ⟨component, hkept⟩ := hcollapsed.kept_of_agreed hmerged.offers hrow hagreed
    rcases hstorage : rates.storage.lookup storageRow.key with _ | storage
    · exact absurd rfl (hmerged.storage.vacant _ hstorage storageRow hstorageRow)
    have hpositive := (hvalid _ _ _ _ hkept hstorage).mp (hrecords _ (mem_rdsRecords.mpr
      ⟨_, _, _, _, hkept, hstorage, hdeployment, rfl⟩))
    obtain ⟨hourly, hhourly, hvalue⟩ := hcollapsed.price_of_row hmerged.offers hrow hkept
    rw [value_eq, value_eq] at hvalue
    constructor
    · rw [← hvalue] at hpositive
      exact (offerHourly_pos_iff hnonneg hhourly).mp hpositive.1
    · have hprice : storageRow.monthlyPerGb.toRat = storage.monthlyPerGb.toRat :=
        (hmerged.storage.filled _ storage hstorage).2.2 storageRow hstorageRow rfl
      rw [hprice]
      exact hpositive.2
  · intro hprices record hrecord
    obtain ⟨key, component, storageKey, storage, hkept, hstorage, hdeployment, rfl⟩ :=
      mem_rdsRecords.mp hrecord
    rw [hvalid key component storageKey storage hkept hstorage]
    obtain ⟨-, -, ⟨⟨offer, stored⟩, hoffer, hkey⟩, -⟩ := hcollapsed.kept key component hkept
    obtain ⟨row, hrow, -, hsame⟩ := hmerged.offers.of_lookup (HashMap.mem_toSortedList.mp hoffer)
    have hrowKey : row.key = key := hsame.trans hkey
    obtain ⟨-, ⟨storageRow, hstorageRow, rfl⟩, hstoragePrices⟩ :=
      hmerged.storage.filled storageKey storage hstorage
    obtain ⟨hpriced, hstoragePriced⟩ := hprices row hrow storageRow hstorageRow
      (hdeployment.trans (congrArg ComputeKey.deployment hrowKey.symm))
      (hrowKey ▸ hcollapsed.agreed_of_kept hmerged.offers hkept)
    obtain ⟨hourly, hhourly, hvalue⟩ :=
      hcollapsed.price_of_row hmerged.offers hrow (hrowKey ▸ hkept)
    rw [value_eq, value_eq] at hvalue
    constructor
    · rw [← hvalue]
      exact (offerHourly_pos_iff hnonneg hhourly).mpr hpriced
    · have hprice : storageRow.monthlyPerGb.toRat = storage.monthlyPerGb.toRat :=
        hstoragePrices storageRow hstorageRow rfl
      rw [← hprice]
      exact hstoragePriced

end TcoCalculator.AwsRds
