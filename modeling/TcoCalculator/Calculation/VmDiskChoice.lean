/-
Which disk a volume gets: of the disks offered for it the one preferred to all
others, whatever the order of the offers.
-/
import Mathlib.Data.Prod.Lex
import Mathlib.Data.String.Basic
import TcoCalculator.Calculation.VmTargetSelector
import TcoCalculator.Library.KeyedGroups

namespace TcoCalculator.VmTargetSelector

open DecimalArith Fallible

variable {D : Type} [DecimalArith D]

/-! ### Preference -/

/-- Capacity, then fixed performance after independent performance, then the
offer key. -/
def diskKey (catalog : ManagedDiskCatalog D) (disk : SelectedManagedDisk D) :
    ℚ ×ₗ Bool ×ₗ String :=
  toLex (value disk.capacityGb, toLex (!isIndependent catalog disk, disk.offerKey))

theorem preferDisk_iff {catalog : ManagedDiskCatalog D}
    {candidate current : SelectedManagedDisk D} :
    preferDisk catalog candidate current = true ↔
      diskKey catalog candidate < diskKey catalog current := by
  unfold preferDisk diskKey
  rw [Prod.Lex.toLex_lt_toLex, Prod.Lex.toLex_lt_toLex]
  rcases hcapacity : compareValues candidate.capacityGb current.capacityGb with _ | _ | _
  · simp [compare_lt_iff_lt.mp hcapacity]
  · have hcapacity := compare_eq_iff_eq.mp hcapacity
    rw [hcapacity]
    cases isIndependent catalog candidate <;> cases isIndependent catalog current <;>
      simp [compare]
  · have hcapacity := compare_gt_iff_gt.mp hcapacity
    simp [hcapacity.not_gt, hcapacity.ne']

theorem preferDisk_eq_false_iff {catalog : ManagedDiskCatalog D}
    {candidate current : SelectedManagedDisk D} :
    preferDisk catalog candidate current = false ↔
      diskKey catalog current ≤ diskKey catalog candidate := by
  rw [← not_lt, ← preferDisk_iff, Bool.not_eq_true]

/-! ### The disk of a volume -/

/-- The offers open to a volume. -/
def openOffers (catalog : ManagedDiskCatalog D) (azureRegion : String)
    (volume : VmVolumeRequirement D) : List (ManagedDiskOffer D) :=
  catalog.offers.filter (offerAdmits azureRegion volume)

/-- No offer gives a disk preferred to this one, and no earlier offer one that
is as good. -/
structure Smallest (catalog : ManagedDiskCatalog D) (volume : VmVolumeRequirement D)
    (offers : List (ManagedDiskOffer D)) (disk : SelectedManagedDisk D) : Prop where
  first : ∃ before offer after, offers = before ++ offer :: after ∧
    offeredDisk offer volume = .ok (some disk) ∧
    ∀ earlier ∈ before, ∀ other, offeredDisk earlier volume = .ok (some other) →
      preferDisk catalog disk other = true
  least : ∀ offer ∈ offers, ∀ other, offeredDisk offer volume = .ok (some other) →
    preferDisk catalog other disk = false

/-- The smallest capability-fit disk for a volume. -/
def SmallestDisk (catalog : ManagedDiskCatalog D) (azureRegion : String)
    (volume : VmVolumeRequirement D) (disk : SelectedManagedDisk D) : Prop :=
  Smallest catalog volume (openOffers catalog azureRegion volume) disk

section Choice

variable {catalog : ManagedDiskCatalog D} {azureRegion : String}
  {volume : VmVolumeRequirement D} {offers : List (ManagedDiskOffer D)}
  {disk disk' : SelectedManagedDisk D}

theorem Smallest.exists_offer (h : Smallest catalog volume offers disk) :
    ∃ offer ∈ offers, offeredDisk offer volume = .ok (some disk) := by
  obtain ⟨before, offer, after, rfl, hoffer, -⟩ := h.first
  exact ⟨offer, List.mem_append_right before List.mem_cons_self, hoffer⟩

theorem Smallest.unique (h : Smallest catalog volume offers disk)
    (h' : Smallest catalog volume offers disk') : disk = disk' := by
  obtain ⟨before, offer, after, hsplit, hoffer, hfirst⟩ := h.first
  obtain ⟨before', offer', after', hsplit', hoffer', hfirst'⟩ := h'.first
  -- one of the two offers is no later than the other
  rcases List.append_eq_append_iff.mp (hsplit.symm.trans hsplit') with
    ⟨between, rfl, htail⟩ | ⟨between, rfl, htail⟩
  · cases between with
    | nil =>
        obtain ⟨rfl, -⟩ := List.cons.inj htail
        exact Option.some.inj (Except.ok.inj (hoffer.symm.trans hoffer'))
    | cons _ between =>
        obtain ⟨rfl, -⟩ := List.cons.inj htail
        have hprefer := hfirst' offer (by simp) disk hoffer
        have hleast := h.least offer' (by simp [hsplit']) disk' hoffer'
        exact absurd hprefer (by simp [hleast])
  · cases between with
    | nil =>
        obtain ⟨rfl, -⟩ := List.cons.inj htail
        exact Option.some.inj (Except.ok.inj (hoffer.symm.trans hoffer'))
    | cons _ between =>
        obtain ⟨rfl, -⟩ := List.cons.inj htail
        have hprefer := hfirst offer' (by simp) disk' hoffer'
        have hleast := h'.least offer (by simp [hsplit]) disk hoffer
        exact absurd hprefer (by simp [hleast])

theorem SmallestDisk.unique (h : SmallestDisk catalog azureRegion volume disk)
    (h' : SmallestDisk catalog azureRegion volume disk') : disk = disk' :=
  Smallest.unique h h'

/-- What has been chosen from the offers gone through. -/
def Chosen (catalog : ManagedDiskCatalog D) (volume : VmVolumeRequirement D)
    (offers : List (ManagedDiskOffer D)) : Option (SelectedManagedDisk D) → Prop
  | none => ∀ offer ∈ offers, offeredDisk offer volume = .ok none
  | some disk => Smallest catalog volume offers disk

theorem Chosen.skip {best : Option (SelectedManagedDisk D)} {offer : ManagedDiskOffer D}
    (h : Chosen catalog volume offers best) (hoffer : offeredDisk offer volume = .ok none) :
    Chosen catalog volume (offers ++ [offer]) best := by
  cases best with
  | none =>
      intro other hother
      rcases List.mem_append.mp hother with hother | hother
      · exact h other hother
      · rw [List.mem_singleton.mp hother]
        exact hoffer
  | some disk =>
      obtain ⟨before, first, after, hsplit, hfirst, hearlier⟩ := h.first
      refine ⟨⟨before, first, after ++ [offer], by simp [hsplit], hfirst, hearlier⟩, ?_⟩
      intro other hother disk' hdisk'
      rcases List.mem_append.mp hother with hother | hother
      · exact h.least other hother disk' hdisk'
      · rw [List.mem_singleton.mp hother, hoffer] at hdisk'
        simp at hdisk'

theorem Chosen.keep {offer : ManagedDiskOffer D} (h : Smallest catalog volume offers disk)
    (hoffer : offeredDisk offer volume = .ok (some disk'))
    (hprefer : preferDisk catalog disk' disk = false) :
    Smallest catalog volume (offers ++ [offer]) disk := by
  obtain ⟨before, first, after, hsplit, hfirst, hearlier⟩ := h.first
  refine ⟨⟨before, first, after ++ [offer], by simp [hsplit], hfirst, hearlier⟩, ?_⟩
  intro other hother found hfound
  rcases List.mem_append.mp hother with hother | hother
  · exact h.least other hother found hfound
  · rw [List.mem_singleton.mp hother, hoffer] at hfound
    cases hfound
    exact hprefer

theorem Chosen.replace {offer : ManagedDiskOffer D}
    (hearlier : ∀ other ∈ offers, ∀ found, offeredDisk other volume = .ok (some found) →
      preferDisk catalog disk found = true)
    (hoffer : offeredDisk offer volume = .ok (some disk)) :
    Smallest catalog volume (offers ++ [offer]) disk := by
  refine ⟨⟨offers, offer, [], rfl, hoffer, hearlier⟩, ?_⟩
  intro other hother found hfound
  rw [preferDisk_eq_false_iff]
  rcases List.mem_append.mp hother with hother | hother
  · exact (preferDisk_iff.mp (hearlier other hother found hfound)).le
  · rw [List.mem_singleton.mp hother, hoffer] at hfound
    cases hfound
    exact le_rfl

theorem Chosen.better {best found : Option (SelectedManagedDisk D)} {offer : ManagedDiskOffer D}
    (h : Chosen catalog volume offers best) (hoffer : offeredDisk offer volume = .ok found) :
    Chosen catalog volume (offers ++ [offer]) (betterDisk catalog best found) := by
  cases found with
  | none => exact h.skip hoffer
  | some disk' =>
      cases best with
      | none =>
          refine Chosen.replace (fun other hother found hfound => ?_) hoffer
          simp [h other hother] at hfound
      | some disk =>
          by_cases hprefer : preferDisk catalog disk' disk = true
          · simp only [betterDisk, hprefer, if_true]
            refine Chosen.replace (fun other hother found hfound => ?_) hoffer
            rw [preferDisk_iff]
            exact (preferDisk_iff.mp hprefer).trans_le
              (preferDisk_eq_false_iff.mp (h.least other hother found hfound))
          · simp only [betterDisk, hprefer, Bool.false_eq_true, if_false]
            exact Chosen.keep h hoffer (by simpa using hprefer)

/-- The selected disk is the smallest one, and the offers were all computed. -/
theorem selectDisk_chosen {best : Option (SelectedManagedDisk D)}
    (h : selectDisk catalog azureRegion volume = .ok best) :
    Chosen catalog volume (openOffers catalog azureRegion volume) best ∧
      ∀ offer ∈ openOffers catalog azureRegion volume, Returns (offeredDisk offer volume) := by
  refine foldlM_rule (fun done best => Chosen catalog volume done best ∧
    ∀ offer ∈ done, Returns (offeredDisk offer volume)) h
    ⟨fun _ hoffer => absurd hoffer List.not_mem_nil,
      fun _ hoffer => absurd hoffer List.not_mem_nil⟩ ?_
  rintro done offer state state' - ⟨hchosen, hreturns⟩ hstep
  obtain ⟨found, hfound, hstate⟩ := bind_eq_ok.mp hstep
  cases hstate
  refine ⟨hchosen.better hfound, fun other hother => ?_⟩
  rcases List.mem_append.mp hother with hother | hother
  · exact hreturns other hother
  · rw [List.mem_singleton.mp hother]
    exact ⟨found, hfound⟩

theorem selectDisk_returns_of (h : ∀ offer ∈ openOffers catalog azureRegion volume,
    Returns (offeredDisk offer volume)) : Returns (selectDisk catalog azureRegion volume) :=
  Returns.foldlM _ (fun _ offer hoffer => (h offer hoffer).bind fun _ _ => .ok _) none

theorem smallestDisk_of_select (h : selectDisk catalog azureRegion volume = .ok (some disk)) :
    SmallestDisk catalog azureRegion volume disk :=
  (selectDisk_chosen h).1

/-- Where the selection returns, it returns the smallest disk. -/
theorem selectDisk_eq_some_iff {best : Option (SelectedManagedDisk D)}
    (h : selectDisk catalog azureRegion volume = .ok best) :
    best = some disk ↔ SmallestDisk catalog azureRegion volume disk := by
  constructor
  · rintro rfl
    exact smallestDisk_of_select h
  · intro hsmallest
    cases best with
    | none =>
        obtain ⟨offer, hmem, hoffer⟩ := hsmallest.exists_offer
        simp [(selectDisk_chosen h).1 offer hmem] at hoffer
    | some chosen => rw [(smallestDisk_of_select h).unique hsmallest]

end Choice

/-! ### Reordered offers -/

/-- No two offers share a key. -/
def DistinctOffers (catalog : ManagedDiskCatalog D) : Prop :=
  (catalog.offers.map ManagedDiskOffer.offerKey).Nodup

section Reordered

variable {catalog catalog' : ManagedDiskCatalog D} {azureRegion : String}
  {volume : VmVolumeRequirement D} {disk disk' : SelectedManagedDisk D}

theorem offerKey_of_offeredDisk {offer : ManagedDiskOffer D}
    (h : offeredDisk offer volume = .ok (some disk)) : disk.offerKey = offer.offerKey := by
  unfold offeredDisk at h
  split at h
  · unfold independentDisk at h
    split at h
    · simp at h
    · obtain ⟨capacity, -, h⟩ := bind_eq_ok.mp h
      split at h
      · simp at h
      · obtain ⟨additional, -, h⟩ := bind_eq_ok.mp h
        cases h
        rfl
  · obtain ⟨tier, -, rfl⟩ := Option.map_eq_some_iff.mp (Except.ok.inj h)
    rfl

omit [DecimalArith D] in
/-- Under a key there is one offer, wherever it stands. -/
theorem find_offer_perm (hdistinct : DistinctOffers catalog)
    (hperm : catalog.offers.Perm catalog'.offers) (offerKey : String) :
    (catalog.offers.find? fun offer => offer.offerKey == offerKey) =
      catalog'.offers.find? fun offer => offer.offerKey == offerKey := by
  apply KeyedGroups.find?_eq_of_mem fun _ => hperm.mem_iff
  intro a ha b hb hka hkb
  apply List.inj_on_of_nodup_map hdistinct ha hb
  rw [beq_iff_eq.mp hka, beq_iff_eq.mp hkb]

theorem diskKey_perm (hdistinct : DistinctOffers catalog)
    (hperm : catalog.offers.Perm catalog'.offers) (disk : SelectedManagedDisk D) :
    diskKey catalog disk = diskKey catalog' disk := by
  unfold diskKey isIndependent
  rw [find_offer_perm hdistinct hperm]

/-- Two offers never tie. -/
theorem eq_of_diskKey_eq (hdistinct : DistinctOffers catalog)
    {offer offer' : ManagedDiskOffer D} (hoffer : offer ∈ catalog.offers)
    (hoffer' : offer' ∈ catalog.offers)
    (hdisk : offeredDisk offer volume = .ok (some disk))
    (hdisk' : offeredDisk offer' volume = .ok (some disk'))
    (hkey : diskKey catalog disk = diskKey catalog disk') : disk = disk' := by
  have hkeys : disk.offerKey = disk'.offerKey := congrArg (fun key => (ofLex (ofLex key).2).2) hkey
  rw [offerKey_of_offeredDisk hdisk, offerKey_of_offeredDisk hdisk'] at hkeys
  cases List.inj_on_of_nodup_map hdistinct hoffer hoffer' hkeys
  exact Option.some.inj (Except.ok.inj (hdisk.symm.trans hdisk'))

theorem SmallestDisk.perm (hdistinct : DistinctOffers catalog)
    (hperm : catalog.offers.Perm catalog'.offers)
    (h : SmallestDisk catalog azureRegion volume disk)
    (h' : SmallestDisk catalog' azureRegion volume disk') : disk = disk' := by
  obtain ⟨offer, hmem, hoffer⟩ := h.exists_offer
  obtain ⟨offer', hmem', hoffer'⟩ := h'.exists_offer
  have hopen := hperm.filter (offerAdmits azureRegion volume)
  have hle := preferDisk_eq_false_iff.mp (h.least offer' (hopen.mem_iff.mpr hmem') disk' hoffer')
  have hge := preferDisk_eq_false_iff.mp (h'.least offer (hopen.mem_iff.mp hmem) disk hoffer)
  rw [← diskKey_perm hdistinct hperm, ← diskKey_perm hdistinct hperm] at hge
  exact eq_of_diskKey_eq hdistinct (List.mem_of_mem_filter hmem)
    (hperm.mem_iff.mpr (List.mem_of_mem_filter hmem')) hoffer hoffer' (le_antisymm hle hge)

/-- The order of the offers does not matter. -/
theorem selectDisk_perm (hdistinct : DistinctOffers catalog)
    (hperm : catalog.offers.Perm catalog'.offers) {best : Option (SelectedManagedDisk D)}
    (h : selectDisk catalog azureRegion volume = .ok best) :
    selectDisk catalog' azureRegion volume = .ok best := by
  have hopen := hperm.filter (offerAdmits azureRegion volume)
  have hreturns : Returns (selectDisk catalog' azureRegion volume) :=
    selectDisk_returns_of fun offer hoffer =>
      (selectDisk_chosen h).2 offer (hopen.mem_iff.mpr hoffer)
  obtain ⟨best', h'⟩ := hreturns
  rw [h']
  congr 1
  cases best with
  | none =>
      cases best' with
      | none => rfl
      | some disk' =>
          obtain ⟨offer, hmem, hoffer⟩ := (smallestDisk_of_select h').exists_offer
          simp [(selectDisk_chosen h).1 offer (hopen.mem_iff.mpr hmem)] at hoffer
  | some disk =>
      cases best' with
      | none =>
          obtain ⟨offer, hmem, hoffer⟩ := (smallestDisk_of_select h).exists_offer
          simp [(selectDisk_chosen h').1 offer (hopen.mem_iff.mp hmem)] at hoffer
      | some disk' =>
          rw [(smallestDisk_of_select h).perm hdistinct hperm (smallestDisk_of_select h')]

end Reordered

end TcoCalculator.VmTargetSelector
