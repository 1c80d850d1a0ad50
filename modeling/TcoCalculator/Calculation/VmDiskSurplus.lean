/-
What decides between VM sizes that tie in lifecycle, generation, vCPUs and
memory: the rate and the name, not what the size allows beyond its disks.
-/
import TcoCalculator.Calculation.VmRank
import TcoCalculator.Calculation.VmCompleteness

namespace TcoCalculator.VmTargetSelector

open DecimalArith Fallible Sorting

variable {D : Type} [DecimalArith D] {vmCatalog : VmCapabilityCatalog D}
  {diskCatalog : ManagedDiskCatalog D} {request : VmTargetSelectionRequest D}
  {selection : VmTargetSelection D} {left right best other : EvaluatedCandidate D}

/-! ### Surplus -/

/-- What a size allows beyond what its disks require. -/
structure DiskSurplus where
  uncachedIops : ℤ
  uncachedThroughputMbps : ℚ
  dataDisks : ℤ
  deriving DecidableEq

def diskSurplus (target : SelectedVmTarget D) : DiskSurplus where
  uncachedIops := target.uncachedDiskIops.toNat -
    (target.disks.map fun disk => (disk.provisionedIops.toNat : ℤ)).sum
  uncachedThroughputMbps := target.uncachedDiskThroughputMbps.toNat -
    (target.disks.map fun disk => value disk.provisionedThroughputMbps).sum
  dataDisks := target.maxDataDiskCount.toNat -
    (target.disks.filter fun disk => disk.role == .data).length

/-- A candidate of the catalog that passes every filter. -/
structure Listed (vmCatalog : VmCapabilityCatalog D) (diskCatalog : ManagedDiskCatalog D)
    (request : VmTargetSelectionRequest D) (evaluated : EvaluatedCandidate D) : Prop where
  candidate : evaluated.candidate ∈ vmCatalog.candidates
  eligible : Eligible diskCatalog request evaluated

theorem Listed.sameSize_iff (hleft : Listed vmCatalog diskCatalog request left)
    (hright : Listed vmCatalog diskCatalog request right) :
    sizeKey left = sizeKey right ↔ SameSize left right :=
  sizeKey_eq_iff hleft.eligible.size.lifecycle hright.eligible.size.lifecycle

/-! ### What the rank decides by -/

/-- The rate, then the name. -/
def priceKey (evaluated : EvaluatedCandidate D) : WithBot ℚ ×ₗ String :=
  toLex (rateKey evaluated.hourlyRate, evaluated.candidate.armSkuName)

/-- All candidates have the same disks, so that their capacity decides nothing. -/
theorem rankKey_eq_ok_iff {capacity : D} (hleft : Listed vmCatalog diskCatalog request left)
    (hright : Listed vmCatalog diskCatalog request right)
    (hcapacity : diskCapacity left = .ok capacity) {key : ℚ ×ₗ WithBot ℚ ×ₗ String} :
    rankKey right = .ok key ↔ key = toLex (value capacity, priceKey right) := by
  have hsame : diskCapacity right = .ok capacity := by
    rw [diskCapacity, ← smallestDisks_unique hleft.eligible.disks hright.eligible.disks]
    exact hcapacity
  rw [rankKey_eq_ok]
  constructor
  · rintro ⟨capacity', hcapacity', rfl⟩
    cases hsame.symm.trans hcapacity'
    rfl
  · rintro rfl
    exact ⟨capacity, hsame, rfl⟩

section Ties

variable (hleft : Listed vmCatalog diskCatalog request left)
  (hright : Listed vmCatalog diskCatalog request right)
include hleft hright

theorem priceKey_le_of_noLater (hsize : SameSize left right) (h : NoLater rank left right) :
    priceKey left ≤ priceKey right := by
  rcases rank_byKeys.noLater_iff.mp h with hlt | ⟨-, key, key', hkey, hkey', hle⟩
  · exact absurd ((hleft.sameSize_iff hright).mpr hsize) hlt.ne
  · obtain ⟨capacity, hcapacity, -⟩ := rankKey_eq_ok.mp hkey
    rw [rankKey_eq_ok_iff hleft hleft hcapacity] at hkey
    rw [rankKey_eq_ok_iff hleft hright hcapacity] at hkey'
    rw [hkey, hkey', Prod.Lex.toLex_le_toLex] at hle
    exact hle.elim (fun hlt => absurd hlt (lt_irrefl _)) fun h => h.2

theorem priceKey_lt_of_gt (hsize : SameSize left right) (h : rank right left = .ok .gt) :
    priceKey left < priceKey right := by
  rcases rank_byKeys.gt_iff.mp h with hlt | ⟨-, key', key, hkey', hkey, hlt⟩
  · exact absurd ((hleft.sameSize_iff hright).mpr hsize) hlt.ne
  · obtain ⟨capacity, hcapacity, -⟩ := rankKey_eq_ok.mp hkey
    rw [rankKey_eq_ok_iff hleft hleft hcapacity] at hkey
    rw [rankKey_eq_ok_iff hleft hright hcapacity] at hkey'
    rw [hkey, hkey', Prod.Lex.toLex_lt_toLex] at hlt
    exact hlt.elim (fun hlt => absurd hlt (lt_irrefl _)) fun h => h.2

end Ties

/-! ### The selected size -/

/-- The candidate comes first among those of its size: by rate, name and place
in the catalog. -/
def Cheapest (vmCatalog : VmCapabilityCatalog D) (left right : EvaluatedCandidate D) : Prop :=
  priceKey left < priceKey right ∨ priceKey left = priceKey right ∧
    Before vmCatalog.candidates left.candidate right.candidate

/-- What stands first among the eligible candidates stands first in the catalog. -/
theorem before_of_eligible {candidates : List (VmSizeCandidate D)}
    {results : List (Option (VmCandidateEvaluation D × Option (EvaluatedCandidate D)))}
    (hresults : candidates.mapM (evaluateCandidate diskCatalog request) = .ok results)
    (hright : Eligible diskCatalog request right)
    (hbefore : Before (eligibleOf results) left right) :
    Before candidates left.candidate right.candidate := by
  rw [eligibleOf_eq] at hbefore
  induction mapM_eq_ok.mp hresults with
  | nil =>
      obtain ⟨earlier, later, heq, -⟩ := hbefore
      simp at heq
  | @cons candidate result rest _ hfirst hrest ih =>
      have heligible : ∀ evaluated, result.bind Prod.snd = some evaluated ↔
          evaluated.candidate = candidate ∧ Eligible diskCatalog request evaluated :=
        fun _ => evaluateCandidate_eligible hfirst
      have hgo : Before rest left.candidate right.candidate →
          result.bind Prod.snd ≠ some right →
          Before (candidate :: rest) left.candidate right.candidate := by
        rintro ⟨earlier, later, rfl, hnot⟩ hother
        refine ⟨candidate :: earlier, later, rfl, fun hmem => ?_⟩
        rcases List.mem_cons.mp hmem with heq | hmem
        · exact hother ((heligible right).mpr ⟨heq, hright⟩)
        · exact hnot hmem
      cases hresult : result.bind Prod.snd with
      | none =>
          simp only [List.filterMap_cons, hresult] at hbefore
          exact hgo (ih (mapM_eq_ok.mpr hrest) hbefore) (by simp [hresult])
      | some evaluated =>
          simp only [List.filterMap_cons, hresult] at hbefore
          obtain ⟨rfl, -⟩ := (heligible evaluated).mp hresult
          obtain ⟨earlier, later, heq, hnot⟩ := hbefore
          rcases earlier with _ | ⟨first, earlier⟩
          · obtain ⟨rfl, -⟩ := List.cons.inj heq
            exact ⟨[], rest, rfl, by simp⟩
          · obtain ⟨rfl, hlater⟩ := List.cons.inj heq
            simp only [List.mem_cons, not_or] at hnot
            refine hgo (ih (mapM_eq_ok.mpr hrest) ⟨earlier, later, hlater, hnot.2⟩) ?_
            rw [hresult, ne_eq, Option.some.injEq]
            exact fun h => hnot.1 h.symm

/-- A ranked selection is of a candidate that no other comes before in size,
and none of its size in price. -/
theorem exists_cheapest (h : selectVmTarget vmCatalog diskCatalog request = .ok selection)
    (hranked : request.requestedTargetArmSku = none)
    (hlisted : Listed vmCatalog diskCatalog request left) :
    ∃ best, selection.selected = some (selectedVmTarget best) ∧
      Listed vmCatalog diskCatalog request best ∧
      ∀ other, Listed vmCatalog diskCatalog request other → sizeKey best ≤ sizeKey other ∧
        (SameSize best other → other = best ∨ Cheapest vmCatalog best other) := by
  obtain ⟨-, results, hresults, found, hfound, rfl⟩ := selectVmTarget_eq_ok.mp h
  unfold bestCandidate at hfound
  rw [hranked] at hfound
  have hmem : ∀ evaluated, evaluated ∈ eligibleOf results ↔
      Listed vmCatalog diskCatalog request evaluated := fun evaluated =>
    (mem_eligibleOf hresults).trans ⟨fun h => ⟨h.1, h.2⟩, fun h => ⟨h.candidate, h.eligible⟩⟩
  cases found with
  | none =>
      have hempty := (hmem left).mpr hlisted
      rw [minByM_eq_none.mp hfound] at hempty
      simp at hempty
  | some best =>
      have hfirst := rank_byKeys.minByM_first hfound
      have hbest := (hmem best).mp hfirst.mem
      refine ⟨best, rfl, hbest, fun other hother => ⟨?_, fun hsize => ?_⟩⟩
      · rcases hfirst.noLater rank_byKeys.orders other ((hmem other).mpr hother) with
          rfl | hnoLater
        · exact le_rfl
        · exact (rank_byKeys.noLater_iff.mp hnoLater).elim le_of_lt fun h => h.1.le
      · rcases hfirst.cases rank_byKeys.orders ((hmem other).mpr hother) with
          rfl | hgt | ⟨hnoLater, hbefore⟩
        · exact .inl rfl
        · exact .inr (.inl (priceKey_lt_of_gt hbest hother hsize hgt))
        · rcases (priceKey_le_of_noLater hbest hother hsize hnoLater).lt_or_eq with hlt | heq
          · exact .inr (.inl hlt)
          · exact .inr (.inr ⟨heq, before_of_eligible hresults hother.eligible hbefore⟩)

theorem Cheapest.asymm (h : Cheapest vmCatalog left right)
    (hne : left.candidate ≠ right.candidate) : ¬ Cheapest vmCatalog right left := by
  rintro (hlt' | ⟨heq', hbefore'⟩)
  · rcases h with hlt | ⟨heq, -⟩
    · exact hlt.not_gt hlt'
    · exact hlt'.ne' heq
  · rcases h with hlt | ⟨-, hbefore⟩
    · exact hlt.ne' heq'
    · exact hbefore.asymm hne hbefore'

/-! ### The sixth key -/

/-- A ranked selection has no larger surplus of disk capability than any
eligible candidate of its size, however two surpluses are compared. -/
def HonoursDiskSurplus (AtMost : DiskSurplus → DiskSurplus → Prop)
    (vmCatalog : VmCapabilityCatalog D) (diskCatalog : ManagedDiskCatalog D)
    (request : VmTargetSelectionRequest D) (selection : VmTargetSelection D) : Prop :=
  request.requestedTargetArmSku = none → ∀ best other,
    Listed vmCatalog diskCatalog request best → Listed vmCatalog diskCatalog request other →
    selection.selected = some (selectedVmTarget best) → SameSize best other →
    AtMost (diskSurplus (selectedVmTarget best)) (diskSurplus (selectedVmTarget other))

/-- The cheapest of the eligible candidates of the best size has the smallest
surplus among them. -/
def CheapestIsSmallest (AtMost : DiskSurplus → DiskSurplus → Prop)
    (vmCatalog : VmCapabilityCatalog D) (diskCatalog : ManagedDiskCatalog D)
    (request : VmTargetSelectionRequest D) : Prop :=
  ∃ best, Listed vmCatalog diskCatalog request best ∧
    (∀ other, Listed vmCatalog diskCatalog request other → sizeKey best ≤ sizeKey other) ∧
    ∀ other, Listed vmCatalog diskCatalog request other → SameSize best other →
      (other = best ∨ Cheapest vmCatalog best other) ∧
        AtMost (diskSurplus (selectedVmTarget best)) (diskSurplus (selectedVmTarget other))

theorem sameSize_of_selectedVmTarget (h : selectedVmTarget left = selectedVmTarget right) :
    SameSize left right where
  generationRank := congrArg SelectedVmTarget.generationRank h
  vcpus := congrArg SelectedVmTarget.vcpus h
  memoryGb := congrArg (fun target => value target.memoryGb) h

theorem SameSize.symm (h : SameSize left right) : SameSize right left :=
  ⟨h.generationRank.symm, h.vcpus.symm, h.memoryGb.symm⟩

theorem SameSize.trans (h : SameSize left right) (h' : SameSize right other) :
    SameSize left other :=
  ⟨h.generationRank.trans h'.generationRank, h.vcpus.trans h'.vcpus,
    h.memoryGb.trans h'.memoryGb⟩

/-- Two candidates of the best size of which each is the cheapest are one. -/
theorem cheapest_unique (hleft : Listed vmCatalog diskCatalog request left)
    (hright : Listed vmCatalog diskCatalog request right)
    (h : right = left ∨ Cheapest vmCatalog left right)
    (h' : left = right ∨ Cheapest vmCatalog right left) : left = right := by
  by_contra hne
  have hcandidate : left.candidate ≠ right.candidate := fun heq =>
    hne (hleft.eligible.unique hright.eligible heq)
  exact (h.resolve_left (Ne.symm hne)).asymm hcandidate (h'.resolve_left hne)

/-- The rank honours the sixth key just where the order by rate, name and place
already agrees with it. -/
theorem disk_surplus_honoured_iff (AtMost : DiskSurplus → DiskSurplus → Prop)
    (h : selectVmTarget vmCatalog diskCatalog request = .ok selection) :
    HonoursDiskSurplus AtMost vmCatalog diskCatalog request selection ↔
      (request.requestedTargetArmSku = none →
        (∃ evaluated, Listed vmCatalog diskCatalog request evaluated) →
        CheapestIsSmallest AtMost vmCatalog diskCatalog request) := by
  constructor
  · rintro hhonours hranked ⟨evaluated, hlisted⟩
    obtain ⟨best, hselected, hbest, hfirst⟩ := exists_cheapest h hranked hlisted
    refine ⟨best, hbest, fun other hother => (hfirst other hother).1, fun other hother hsize => ?_⟩
    exact ⟨(hfirst other hother).2 hsize,
      hhonours hranked best other hbest hother hselected hsize⟩
  · intro hcondition hranked found other hfound hother hselected hsize
    obtain ⟨smallest, hsmallest, hleast, hcheapest⟩ := hcondition hranked ⟨found, hfound⟩
    obtain ⟨best, hselected', hbest, hfirst⟩ := exists_cheapest h hranked hfound
    have htarget : selectedVmTarget best = selectedVmTarget found :=
      Option.some.inj (hselected'.symm.trans hselected)
    have htie : SameSize smallest best := (hsmallest.sameSize_iff hbest).mp
      (le_antisymm (hleast best hbest) (hfirst smallest hsmallest).1)
    have heq : smallest = best := cheapest_unique hsmallest hbest (hcheapest best hbest htie).1
      ((hfirst smallest hsmallest).2 htie.symm)
    rw [← htarget, ← heq]
    exact (hcheapest other hother
      (htie.trans ((sameSize_of_selectedVmTarget htarget).trans hsize))).2

/-! ### A cheaper size with more to spare -/

def cheaperSize : VmSizeCandidate Decimal96 :=
  { generalPurposeSize with
    armSkuName := "Standard_D2as_v5"
    displayFamily := "Dasv5"
    maxDataDiskCount := 8
    uncachedDiskIops := 6400
    uncachedDiskThroughputMbps := 200 }

def sizesRequest (cheaperRate : ℕ) : VmTargetSelectionRequest Decimal96 :=
  { serverRequest bothTiers with
    priceAvailability := some {
      vmHourlyRates := [("standard_d2s_v5", ofScaled 96 3),
        ("standard_d2as_v5", ofScaled cheaperRate 3)]
      managedDiskDimensions := bothTiers } }

/-- More of everything. -/
structure DiskSurplus.Exceeds (larger smaller : DiskSurplus) : Prop where
  uncachedIops : smaller.uncachedIops < larger.uncachedIops
  uncachedThroughputMbps : smaller.uncachedThroughputMbps < larger.uncachedThroughputMbps
  dataDisks : smaller.dataDisks < larger.dataDisks

def serverSizes : VmCapabilityCatalog Decimal96 := ⟨[generalPurposeSize, cheaperSize]⟩

theorem exists_listed {candidate : VmSizeCandidate D} {p : EvaluatedCandidate D → Bool}
    (hmem : candidate ∈ vmCatalog.candidates)
    (h : (evaluateCandidate diskCatalog request candidate).toOption.any
      (fun result => (result.bind Prod.snd).any p) = true) :
    ∃ evaluated, Listed vmCatalog diskCatalog request evaluated ∧
      evaluated.candidate = candidate ∧ p evaluated = true := by
  obtain ⟨result, hresult, hany⟩ := exists_ok_of_any h
  obtain ⟨evaluated, hevaluated⟩ := Option.isSome_iff_exists.mp (Option.isSome_of_any hany)
  obtain ⟨rfl, heligible⟩ := (evaluateCandidate_eligible hresult).mp hevaluated
  rw [hevaluated] at hany
  exact ⟨evaluated, ⟨hmem, heligible⟩, rfl, hany⟩

/-- Of two sizes that tie the cheaper one is selected, though it exceeds the
other in everything. -/
theorem larger_surplus_selected :
    ∃ selection, selectVmTarget serverSizes twoTierCatalog (sizesRequest 86) = .ok selection ∧
      ∀ AtMost : DiskSurplus → DiskSurplus → Prop,
        (∀ larger smaller : DiskSurplus, larger.Exceeds smaller → ¬ AtMost larger smaller) →
        ¬ HonoursDiskSurplus AtMost serverSizes twoTierCatalog (sizesRequest 86) selection := by
  have hreturns : (selectVmTarget serverSizes twoTierCatalog (sizesRequest 86)).toOption.any
      (fun selection => selection.selected.any (·.armSkuName = "Standard_D2as_v5")) = true := by
    decide +kernel
  obtain ⟨selection, hselection, hselected⟩ := exists_ok_of_any hreturns
  obtain ⟨small, hsmall, hcandidate, hdisks⟩ : ∃ small,
      Listed serverSizes twoTierCatalog (sizesRequest 86) small ∧
        small.candidate = generalPurposeSize ∧
        decide (diskSurplus (selectedVmTarget small) = ⟨3250, 25, 4⟩) = true :=
    exists_listed List.mem_cons_self (by decide +kernel)
  obtain ⟨large, hlarge, hcandidate', hdisks'⟩ : ∃ large,
      Listed serverSizes twoTierCatalog (sizesRequest 86) large ∧
        large.candidate = cheaperSize ∧
        decide (diskSurplus (selectedVmTarget large) = ⟨5900, 140, 8⟩) = true :=
    exists_listed (List.mem_cons_of_mem _ List.mem_cons_self) (by decide +kernel)
  obtain ⟨best, htarget, hbest, -⟩ := exists_cheapest hselection rfl hsmall
  have heq : best = large := by
    refine hbest.eligible.unique hlarge.eligible ?_
    rcases List.mem_pair.mp hbest.candidate with hfirst | hsecond
    · have hname : best.candidate.armSkuName = "Standard_D2as_v5" := by
        rw [htarget] at hselected
        exact of_decide_eq_true hselected
      rw [hfirst] at hname
      exact absurd hname (by decide)
    · exact hsecond.trans hcandidate'.symm
  refine ⟨selection, hselection, fun AtMost hexceeds hhonours => ?_⟩
  have hsize : SameSize large small := by
    constructor <;> rw [hcandidate, hcandidate'] <;> rfl
  refine hexceeds _ _ ?_ (hhonours rfl large small hlarge hsmall (heq ▸ htarget) hsize)
  rw [of_decide_eq_true hdisks, of_decide_eq_true hdisks']
  constructor <;> norm_num

/-- Once the size with more to spare costs more, the key is honoured. -/
theorem disk_surplus_honoured_when_dearer :
    ∃ selection, selectVmTarget serverSizes twoTierCatalog (sizesRequest 106) = .ok selection ∧
      HonoursDiskSurplus (fun left right => left.uncachedIops ≤ right.uncachedIops ∧
          left.uncachedThroughputMbps ≤ right.uncachedThroughputMbps ∧
          left.dataDisks ≤ right.dataDisks)
        serverSizes twoTierCatalog (sizesRequest 106) selection := by
  have hreturns : (selectVmTarget serverSizes twoTierCatalog (sizesRequest 106)).toOption.any
      (fun _ => true) = true := by
    decide +kernel
  obtain ⟨selection, hselection, -⟩ := exists_ok_of_any hreturns
  refine ⟨selection, hselection, (disk_surplus_honoured_iff _ hselection).mpr fun _ _ => ?_⟩
  obtain ⟨small, hsmall, hcandidate, hdisks⟩ : ∃ small,
      Listed serverSizes twoTierCatalog (sizesRequest 106) small ∧
        small.candidate = generalPurposeSize ∧
        decide (diskSurplus (selectedVmTarget small) = ⟨3250, 25, 4⟩) = true :=
    exists_listed List.mem_cons_self (by decide +kernel)
  obtain ⟨large, hlarge, hcandidate', hdisks'⟩ : ∃ large,
      Listed serverSizes twoTierCatalog (sizesRequest 106) large ∧
        large.candidate = cheaperSize ∧
        decide (diskSurplus (selectedVmTarget large) = ⟨5900, 140, 8⟩) = true :=
    exists_listed (List.mem_cons_of_mem _ List.mem_cons_self) (by decide +kernel)
  have hsize : sizeKey small = sizeKey large := by
    rw [sizeKey, sizeKey, hcandidate, hcandidate']
    rfl
  have hcheapest : Cheapest serverSizes small large := by
    refine .inl (Prod.Lex.toLex_lt_toLex.mpr (.inl ?_))
    rw [hsmall.eligible.hourlyRate, hlarge.eligible.hourlyRate, hcandidate, hcandidate']
    exact WithBot.coe_lt_coe.mpr (by decide +kernel)
  have hcases : ∀ other, Listed serverSizes twoTierCatalog (sizesRequest 106) other →
      other = small ∨ other = large := fun other hother =>
    (List.mem_pair.mp hother.candidate).imp
      (fun h => hother.eligible.unique hsmall.eligible (h.trans hcandidate.symm))
      fun h => hother.eligible.unique hlarge.eligible (h.trans hcandidate'.symm)
  refine ⟨small, hsmall, fun other hother => ?_, fun other hother _ => ?_⟩
  · rcases hcases other hother with rfl | rfl
    · exact le_rfl
    · exact hsize.le
  · rcases hcases other hother with rfl | rfl
    · exact ⟨.inl rfl, le_rfl, le_rfl, le_rfl⟩
    · rw [of_decide_eq_true hdisks, of_decide_eq_true hdisks']
      exact ⟨.inr hcheapest, by norm_num⟩

end TcoCalculator.VmTargetSelector
