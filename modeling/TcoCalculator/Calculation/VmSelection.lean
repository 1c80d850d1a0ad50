/-
What a mapped VM selection is, and when it is: a size within all limits with a
disk for each volume, ranked first, whatever the order of the catalogs.
-/
import TcoCalculator.Calculation.VmRank
import TcoCalculator.Domain.PriceArithmetic

namespace TcoCalculator.VmTargetSelector

open DecimalArith Fallible Sorting

/-! ### Disks that serve their volume -/

/-- The disk is the one of the volume, and large and fast enough. -/
structure Covers (volume : VmVolumeRequirement Decimal96)
    (disk : SelectedManagedDisk Decimal96) : Prop where
  volumeId : disk.volumeId = volume.volumeId
  label : disk.label = volume.label
  role : disk.role = volume.role
  capacity : value volume.capacityGb ≤ value disk.capacityGb
  iops : volume.iops ≤ disk.provisionedIops
  throughput : value volume.throughputMbps ≤ value disk.provisionedThroughputMbps

/-- It also is of an offer for the volume's role in the region. -/
structure Serves (catalog : ManagedDiskCatalog Decimal96) (azureRegion : String)
    (volume : VmVolumeRequirement Decimal96) (disk : SelectedManagedDisk Decimal96) : Prop
    extends Covers volume disk where
  offered : ∃ offer ∈ catalog.offers, offer.offerKey = disk.offerKey ∧
    offer.allowedRoles.contains volume.role = true ∧
    offer.azureRegions.any (eqIgnoreAsciiCase · azureRegion) = true

theorem le_max_left_value (a b : Decimal96) : value a ≤ value (DecimalArith.max a b) := by
  unfold DecimalArith.max
  split
  · exact le_rfl
  · rename_i h
    exact not_lt.mp h

theorem le_max_right_value (a b : Decimal96) : value b ≤ value (DecimalArith.max a b) := by
  unfold DecimalArith.max
  split
  · rename_i h
    exact h.le
  · exact le_rfl

theorem le_max_left_uint64 (a b : UInt64) : a ≤ Max.max a b := by
  change a ≤ if a ≤ b then b else a
  split
  · assumption
  · exact UInt64.le_refl a

theorem le_roundUp {capacity increment rounded : Decimal96} (hpos : 0 < value increment)
    (h : roundUp capacity increment = .ok rounded) : value capacity ≤ value rounded := by
  unfold roundUp at h
  obtain ⟨remainder, hremainder, h⟩ := bind_eq_ok.mp h
  split at h
  · rename_i hr
    obtain ⟨hcapacity, hle⟩ := Decimal96.rem_bounds hpos hremainder hr
    obtain ⟨gap, hgap, h⟩ := bind_eq_ok.mp h
    have hgap : 0 ≤ gap.toRat := Decimal96.nonneg_of_arithmetic (sub_nonneg.mpr hle) hgap
    exact Decimal96.le_add hcapacity hgap h
  · cases h
    exact le_rfl

/-- The smallest tier is one of the tiers. -/
theorem smallestTier_mem {tiers : List (ManagedDiskTier Decimal96)}
    {tier : ManagedDiskTier Decimal96} (h : smallestTier tiers = some tier) : tier ∈ tiers := by
  cases tiers with
  | nil => simp [smallestTier] at h
  | cons first rest =>
      have hfold : ∀ (rest : List (ManagedDiskTier Decimal96)) (best : ManagedDiskTier Decimal96),
          rest.foldl (fun best next => if tierOrder best next = .gt then next else best) best ∈
            best :: rest := by
        intro rest
        induction rest with
        | nil => simp
        | cons next rest ih =>
            intro best
            rw [List.foldl_cons]
            split
            · exact List.mem_cons_of_mem best (ih next)
            · exact List.cons_subset_cons best (List.subset_cons_self next rest) (ih best)
      rw [← Option.some.inj h]
      exact hfold rest first

theorem covers_of_offeredDisk {offer : ManagedDiskOffer Decimal96}
    {volume : VmVolumeRequirement Decimal96} {disk : SelectedManagedDisk Decimal96}
    (h : offeredDisk offer volume = .ok (some disk)) : Covers volume disk := by
  unfold offeredDisk at h
  split at h
  · unfold independentDisk at h
    split at h
    · simp at h
    · rename_i increment hincrement
      have hpositive : 0 < value increment := by
        simpa using (Option.filter_eq_some_iff.mp hincrement).2
      obtain ⟨capacity, hcapacity, h⟩ := bind_eq_ok.mp h
      split at h
      · simp at h
      · obtain ⟨additional, -, h⟩ := bind_eq_ok.mp h
        cases h
        exact ⟨rfl, rfl, rfl, (le_max_left_value _ _).trans (le_roundUp hpositive hcapacity),
          le_max_left_uint64 _ _, le_max_left_value _ _⟩
  · obtain ⟨tier, htier, rfl⟩ := Option.map_eq_some_iff.mp (Except.ok.inj h)
    have hfits := (List.mem_filter.mp (smallestTier_mem htier)).2
    simp only [tierFits, Bool.and_eq_true, decide_eq_true_eq] at hfits
    exact ⟨rfl, rfl, rfl, hfits.1.1, hfits.1.2, hfits.2⟩

theorem serves_of_smallestDisk {catalog : ManagedDiskCatalog Decimal96} {azureRegion : String}
    {volume : VmVolumeRequirement Decimal96} {disk : SelectedManagedDisk Decimal96}
    (h : SmallestDisk catalog azureRegion volume disk) :
    Serves catalog azureRegion volume disk := by
  obtain ⟨offer, hopen, hoffer⟩ := h.exists_offer
  obtain ⟨hmem, hadmits⟩ := List.mem_filter.mp hopen
  simp only [offerAdmits, Bool.and_eq_true, and_assoc] at hadmits
  exact ⟨covers_of_offeredDisk hoffer,
    offer, hmem, (offerKey_of_offeredDisk hoffer).symm, hadmits.2.1, hadmits.1⟩

/-! ### Limits on all disks together -/

/-- IOPS are summed as whole numbers, throughput in decimals. -/
structure WithinLimits (candidate : VmSizeCandidate Decimal96)
    (disks : List (SelectedManagedDisk Decimal96)) : Prop where
  iops : (disks.map fun disk => disk.provisionedIops.toNat).sum ≤ candidate.uncachedDiskIops.toNat
  throughput : ∃ total, sum (disks.map SelectedManagedDisk.provisionedThroughputMbps) = .ok total ∧
    value total ≤ candidate.uncachedDiskThroughputMbps.toNat

/-- The machine's sum is the whole number modulo 2^64. -/
theorem toNat_foldl_add (numbers : List UInt64) (total : UInt64) :
    (numbers.foldl (· + ·) total).toNat = (total.toNat + (numbers.map UInt64.toNat).sum) % 2 ^ 64 := by
  induction numbers generalizing total with
  | nil => simp [Nat.mod_eq_of_lt total.toNat_lt]
  | cons number rest ih =>
      rw [List.foldl_cons, ih, UInt64.toNat_add, List.map_cons, List.sum_cons]
      omega

theorem withinLimits_of_aggregateFits {candidate : VmSizeCandidate Decimal96}
    {disks : List (SelectedManagedDisk Decimal96)} (h : AggregateFits candidate disks)
    (hsum : (disks.map fun disk => disk.provisionedIops.toNat).sum < 2 ^ 64) :
    WithinLimits candidate disks := by
  obtain ⟨hiops, total, htotal, hthroughput⟩ := h
  refine ⟨?_, total, htotal, ?_⟩
  · rw [UInt64.le_iff_toNat_le, toNat_foldl_add, List.map_map] at hiops
    have hexact := Nat.mod_eq_of_lt hsum
    simp only [UInt64.toNat_zero, zero_add] at hiops
    exact hexact ▸ hiops
  · have hlimit : candidate.uncachedDiskThroughputMbps.toNat < 2 ^ 96 :=
      candidate.uncachedDiskThroughputMbps.toNat_lt.trans (by decide)
    rwa [Decimal96.value_eq (ofNat _), Decimal96.toRat_ofNat hlimit] at hthroughput

end TcoCalculator.VmTargetSelector
