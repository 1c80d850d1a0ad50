/-
In exact arithmetic an RDS rate is the hourly price of its offer and the share
of the upfront one, and no offer of its key says otherwise.
-/
import TcoCalculator.Domain.PriceArithmetic
import TcoCalculator.Pricing.AwsRdsRows
import TcoCalculator.Pricing.SnapshotIdentity

namespace TcoCalculator.AwsRds

open DecimalArith ExactDecimal Fallible Halt PriceSnapshot ProviderRows

/-! ### Exact rates -/

/-- The compute rows of the leaves, with exact prices. -/
def exactRows (leaves : List RdsLeafPayload) : List (ComputeRow ℚ) :=
  (dimensionsOf leaves).filterMap computeRow?

/-- The hours a commercial term runs; one that commits to none is paid by the hour. -/
def termHours (term : String) : ℚ :=
  if term = "on-demand" then 1
  else if "reserved-1yr-".toList.isPrefixOf term.toList then 365 * 24
  else 3 * 365 * 24

/-- The recurring price an hour and the upfront price spread over the term. -/
def offerRate (rows : List (ComputeRow ℚ)) (offer : OfferKey) : ℚ :=
  ((offerRows rows offer).map ComputeRow.recurringHourly).sum +
    ((offerRows rows offer).map ComputeRow.upfront).sum / termHours offer.commercialTerm

theorem commercialTermHours_eq {term : String} {hours : ℚ}
    (h : commercialTermHours term = .ok hours) : hours = termHours term := by
  rw [commercialTermHours] at h
  rw [termHours]
  split_ifs at h ⊢ <;> cases h <;> norm_num

theorem termHours_ne_zero (term : String) : termHours term ≠ 0 := by
  rw [termHours]
  split_ifs <;> norm_num

theorem offerHourly_eq {rows : List (ComputeRow ℚ)} {offer : OfferKey} {hourly : ℚ}
    (h : offerHourly rows offer = .ok hourly) : hourly = offerRate rows offer := by
  rw [offerHourly, sum_eq_sum, sum_eq_sum] at h
  obtain ⟨recurring, hrecurring, h⟩ := bind_eq_ok.mp h
  obtain ⟨upfront, hupfront, h⟩ := bind_eq_ok.mp h
  obtain ⟨hours, hhours, h⟩ := bind_eq_ok.mp h
  obtain rfl := Except.ok.inj (liftM_eq_ok.mp hrecurring)
  obtain rfl := Except.ok.inj (liftM_eq_ok.mp hupfront)
  rw [commercialTermHours_eq (checked_eq_ok.mp hhours),
    div_eq (termHours_ne_zero offer.commercialTerm)] at h
  exact (Except.ok.inj h).symm

/-! ### Rows and records -/

/-- The record is a rate of the key. -/
def IsFor {D : Type} (record : AwsRdsRateRecord D) (key : ComputeKey) : Prop :=
  record.instanceType = key.instanceType ∧ record.deployment = key.deployment.asDomain ∧
    record.commercialTerm = key.commercialTerm

theorem Deployment.asDomain_injective : Function.Injective Deployment.asDomain := by
  intro left right h
  cases left <;> cases right <;> first | rfl | cases h

theorem IsFor.unique {D : Type} {record : AwsRdsRateRecord D} {left right : ComputeKey}
    (hleft : IsFor record left) (hright : IsFor record right) : left = right := by
  obtain ⟨htype, hdeployment, hterm⟩ := hleft
  obtain ⟨htype', hdeployment', hterm'⟩ := hright
  cases left
  cases right
  rw [ComputeKey.mk.injEq]
  exact ⟨htype.symm.trans htype', Deployment.asDomain_injective (hdeployment.symm.trans hdeployment'),
    hterm.symm.trans hterm'⟩

/-- No compute row of an accepted input is passed over. -/
theorem rows_read {leaves : List RdsLeafPayload} {rates : RdsRates ℚ}
    (h : leaves.foldlM addLeaf RdsRates.empty = .ok rates) {dimension : RawDimension}
    (hmem : dimension ∈ dimensionsOf leaves) (hcompute : isComputeDimension dimension = true) :
    ∃ row ∈ exactRows leaves, computeRow dimension = .ok row := by
  obtain ⟨payload, hpayload, hdimension⟩ := List.mem_flatMap.mp hmem
  obtain ⟨state, state', hleaf⟩ := foldlM_step_of_mem h hpayload
  rcases hbody : payload.body with _ | leaf
  · rw [hbody] at hdimension
    cases hdimension
  rw [hbody, Option.elim_some] at hdimension
  split_ifs at hdimension with hoffer
  · simp only [addLeaf, hbody, hoffer, ite_true] at hleaf
    split_ifs at hleaf
    · cases hleaf
    obtain ⟨rates, rates', hstep⟩ := foldlM_step_of_mem hleaf hdimension
    rw [addRdsDimension, if_pos hcompute] at hstep
    obtain ⟨offers, hoffers, -⟩ := bind_eq_ok.mp hstep
    obtain ⟨row, hrow, -⟩ := bind_eq_ok.mp hoffers
    have hrow := checked_eq_ok.mp hrow
    refine ⟨row, List.mem_filterMap.mpr ⟨dimension, hmem, ?_⟩, hrow⟩
    rw [computeRow?, if_pos hcompute, hrow]
    rfl
  · cases hdimension

section Normalized

variable {regionCode : String} {leaves : List RdsLeafPayload} {rates : RdsRates ℚ}
  {collapsed : CollapsedOffers ℚ} {record : AwsRdsRateRecord ℚ}

/-- A record has the rate of every offer of its key. -/
theorem rate_eq_of_row (hmerged : OffersMerged (exactRows leaves) rates.computeOffers)
    (hcollapsed : Collapsed rates.computeOffers.toSortedList collapsed)
    (hrecord : record ∈ rdsRecords regionCode rates collapsed) {row : ComputeRow ℚ}
    (hrow : row ∈ exactRows leaves) (hfor : IsFor record row.key) :
    record.rate.effectiveComputeHourly = offerRate (exactRows leaves) row.offer := by
  obtain ⟨key, component, storageKey, storage, hkept, -, -, rfl⟩ := mem_rdsRecords.mp hrecord
  obtain rfl : key = row.key := IsFor.unique ⟨rfl, rfl, rfl⟩ hfor
  obtain ⟨hourly, hhourly, hvalue⟩ := hcollapsed.price_of_row hmerged hrow hkept
  exact hvalue.symm.trans (offerHourly_eq hhourly)

theorem row_of_record (hmerged : OffersMerged (exactRows leaves) rates.computeOffers)
    (hcollapsed : Collapsed rates.computeOffers.toSortedList collapsed)
    (hrecord : record ∈ rdsRecords regionCode rates collapsed) :
    ∃ row ∈ exactRows leaves, IsFor record row.key := by
  obtain ⟨key, component, storageKey, storage, hkept, -, -, rfl⟩ := mem_rdsRecords.mp hrecord
  obtain ⟨-, -, ⟨⟨offer, stored⟩, hoffer, rfl⟩, -⟩ := hcollapsed.kept key component hkept
  obtain ⟨row, hrow, -, hsame⟩ := hmerged.of_lookup (HashMap.mem_toSortedList.mp hoffer)
  exact ⟨row, hrow, hsame ▸ ⟨rfl, rfl, rfl⟩⟩

theorem offerHourly_of_row (hmerged : OffersMerged (exactRows leaves) rates.computeOffers)
    (hcollapsed : Collapsed rates.computeOffers.toSortedList collapsed) {row : ComputeRow ℚ}
    (hrow : row ∈ exactRows leaves) :
    offerHourly (exactRows leaves) row.offer = .ok (offerRate (exactRows leaves) row.offer) := by
  obtain ⟨stored, hlookup, -⟩ := hmerged.of_row hrow
  obtain ⟨hourly, hhourly⟩ :=
    hcollapsed.priced (row.offer, stored) (HashMap.mem_toSortedList.mpr hlookup)
  rw [hmerged.effectiveHourly_eq hlookup] at hhourly
  rw [hhourly, offerHourly_eq hhourly]

/-- Offers of a key that differ leave it in conflict, in whatever order they come. -/
theorem conflict_of_rates_ne (hmerged : OffersMerged (exactRows leaves) rates.computeOffers)
    (hcollapsed : Collapsed rates.computeOffers.toSortedList collapsed)
    {left right : ComputeRow ℚ} (hleft : left ∈ exactRows leaves)
    (hright : right ∈ exactRows leaves) (hkey : left.key = right.key)
    (hne : offerRate (exactRows leaves) left.offer ≠ offerRate (exactRows leaves) right.offer) :
    left.key ∈ collapsed.conflicts := by
  rcases hkept : collapsed.compute.lookup left.key with _ | component
  · refine (hcollapsed.dropped left.key hkept).resolve_left fun hnever => ?_
    obtain ⟨stored, hlookup, hsame⟩ := hmerged.of_row hleft
    exact hnever (left.offer, stored) (HashMap.mem_toSortedList.mpr hlookup) hsame
  · have hagreed := hcollapsed.agreed_of_kept hmerged hkept
    exact absurd (hagreed left hleft right hright rfl hkey.symm _ _
      (offerHourly_of_row hmerged hcollapsed hleft)
      (offerHourly_of_row hmerged hcollapsed hright)) hne

theorem warned_of_conflict {key : ComputeKey} (h : key ∈ collapsed.conflicts) :
    conflictWarning key ∈ rdsWarnings rates collapsed := by
  rw [rdsWarnings, mem_sortedUnique]
  exact List.mem_append_left _ (List.mem_append_left _ (List.mem_map_of_mem h))

/-- Offers of a key that agree give it a record with each storage rate of its deployment. -/
theorem record_of_agreed (hmerged : Merged (dimensionsOf leaves) rates)
    (hcollapsed : Collapsed rates.computeOffers.toSortedList collapsed) {row : ComputeRow ℚ}
    (hrow : row ∈ exactRows leaves) (hagreed : ∀ other ∈ exactRows leaves, other.key = row.key →
      offerRate (exactRows leaves) other.offer = offerRate (exactRows leaves) row.offer)
    {storageKey : StorageKey} {storage : StorageComponent ℚ}
    (hstorage : rates.storage.lookup storageKey = some storage)
    (hdeployment : storageKey.deployment = row.key.deployment) :
    ∃ record ∈ rdsRecords regionCode rates collapsed,
      IsFor record row.key ∧ record.storageClass = storageKey.storageClass := by
  have hprices : Agreed (exactRows leaves) row.key := by
    intro left hleft right hright hleftKey hrightKey l r hl hr
    rw [offerHourly_eq hl, offerHourly_eq hr, hagreed left hleft hleftKey,
      hagreed right hright hrightKey]
  obtain ⟨component, hkept⟩ := hcollapsed.kept_of_agreed hmerged.offers hrow hprices
  exact ⟨_, mem_rdsRecords.mpr ⟨_, _, _, _, hkept, hstorage, hdeployment, rfl⟩,
    ⟨rfl, rfl, rfl⟩, rfl⟩

end Normalized

/-! ### Amortized rates -/

namespace RdsWitness

def compute (sku edition : String) (rateCode unit price : String)
    (reserved : Option (String × String × String)) : RawDimension where
  sku := sku
  productFamily := "Database Instance"
  databaseEngine := some "SQL Server"
  databaseEdition := some edition
  licenseModel := some "Bring your own media"
  licenseType := none
  deploymentModel := none
  deploymentOption := some "Single-AZ"
  instanceType := some "db.m7i.4xlarge"
  memory := some "64 GiB"
  vcpu := some "16"
  volumeName := none
  volumeType := none
  termType := if reserved.isSome then "Reserved" else "OnDemand"
  offerTermCode := "term"
  leaseContractLength := reserved.map fun term => term.1
  purchaseOption := reserved.map fun term => term.2.1
  offeringClass := reserved.map fun term => term.2.2
  rateCode := rateCode
  unit := unit
  price := price

def storage (rateCode price : String) : RawDimension :=
  { compute "storage" "Standard" rateCode "GB-Mo" price none with
    productFamily := "Database Storage"
    volumeName := some "gp3" }

def leafOf (dimensions : List RawDimension) : RdsLeafPayload where
  sourceUrl := "https://prices.example/rds"
  sourceVersion := none
  effectiveAt := none
  body := some { sourceOfferCode := "AmazonRDS", dimensions := dimensions }

def allUpfront : Option (String × String × String) := some ("1yr", "All Upfront", "standard")

/-- A reserved machine, and the same machine by the hour at two prices. -/
def reservedAndContradicted : RdsLeafPayload :=
  leafOf [compute "reserved" "Standard" "reserved-hourly" "Hrs" "2.00" allUpfront,
    compute "reserved" "Standard" "reserved-upfront" "Quantity" "8760.00" allUpfront,
    compute "standard" "Standard" "standard" "Hrs" "5.10" none,
    compute "enterprise" "Enterprise" "enterprise" "Hrs" "6.20" none,
    storage "gp3" "0.127"]

theorem length_rows : (exactRows [reservedAndContradicted]).length = 4 := by decide +kernel

def readRow (i : Fin 4) : ComputeRow ℚ :=
  (exactRows [reservedAndContradicted]).get (i.cast length_rows.symm)

theorem readRow_mem (i : Fin 4) : readRow i ∈ exactRows [reservedAndContradicted] :=
  List.get_mem ..

def readStorage : StorageRow ℚ :=
  (storageRow? (storage "gp3" "0.127")).get (by decide +kernel)

theorem readStorage_mem :
    readStorage ∈ (dimensionsOf [reservedAndContradicted]).filterMap storageRow? :=
  List.mem_filterMap.mpr ⟨storage "gp3" "0.127", List.mem_of_getElem (i := 4) (h := by decide) rfl,
    (Option.some_get _).symm⟩

end RdsWitness

end TcoCalculator.AwsRds
