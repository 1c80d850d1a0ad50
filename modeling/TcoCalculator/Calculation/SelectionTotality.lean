/-
In exact arithmetic the target selectors return on every valid request, and a
mapped result carries its target.
-/
import TcoCalculator.Calculation.VmTargetSelector
import TcoCalculator.Domain.ExactDecimal

namespace TcoCalculator

open DecimalArith ExactDecimal Fallible Halt

/-! ### SQL targets -/

namespace TargetSelector

/-- What a request must meet for the selection to run. -/
structure ValidRequest (request : TargetSelectionRequest ℚ) : Prop where
  sourceVcpu : request.sourceVcpu ≠ 0
  sourceMemory : 0 < request.sourceMemoryGb
  requiredStorage : 0 ≤ request.requiredStorageGb

theorem validateRequest_ok {request : TargetSelectionRequest ℚ} (h : ValidRequest request) :
    validateRequest request = .ok () := by
  simp [validateRequest, h.sourceVcpu, not_le.mpr h.sourceMemory, not_lt.mpr h.requiredStorage]

theorem overage_returns (offered : ℚ) {required : ℚ} (h : required ≠ 0) :
    Returns (overage offered required) := by
  simp [overage, div_eq h, Returns]

theorem compareCandidates_returns {request : TargetSelectionRequest ℚ}
    (h : ValidRequest request) (left right : EligibleCandidate ℚ) :
    Returns (compareCandidates request left right) := by
  have hvcpu : (DecimalArith.ofNat request.sourceVcpu.toNat : ℚ) ≠ 0 := by
    rw [ofNat_eq]
    exact_mod_cast fun hzero => h.sourceVcpu (UInt32.toNat_inj.mp hzero)
  have hmemory := ne_of_gt h.sourceMemory
  unfold compareCandidates
  apply Returns.bind (overage_returns _ hvcpu)
  intro _ _
  apply Returns.bind (overage_returns _ hvcpu)
  intro _ _
  apply Returns.bind (overage_returns _ hmemory)
  intro _ _
  apply Returns.bind (overage_returns _ hmemory)
  intro _ _
  exact .ok _

theorem eligibleCandidates_returns (catalog : CapabilityCatalog ℚ)
    {request : TargetSelectionRequest ℚ} (h : ValidRequest request) (tier : ServiceTier)
    (enforceStorage : Bool) : Returns (eligibleCandidates catalog request tier enforceStorage) := by
  obtain ⟨sorted, hsorted, _⟩ := Sorting.sortByM_ok
    (catalog.candidates.filterMap (eligibleCandidate request tier enforceStorage))
    (fun left _ right _ => compareCandidates_returns h left right)
  exact ⟨sorted, hsorted⟩

theorem decimalDistance_returns (left right : ℚ) : Returns (decimalDistance left right) := by
  unfold decimalDistance
  split
  · exact .ok _
  · exact .ok _

theorem compareCapacity_returns (request : TargetSelectionRequest ℚ)
    (cpuCapacityExceeded memoryCapacityExceeded : Bool) (left right : EligibleCandidate ℚ) :
    Returns (compareCapacity request cpuCapacityExceeded memoryCapacityExceeded left right) := by
  apply Returns.ite
  · intro _
    exact .ok _
  · intro _
    apply Returns.bind (decimalDistance_returns _ _)
    intro _ _
    apply Returns.bind (decimalDistance_returns _ _)
    intro _ _
    exact .ok _

theorem closestCapacityCandidate_returns (catalog : CapabilityCatalog ℚ)
    (request : TargetSelectionRequest ℚ) (tier : ServiceTier) (enforceStorage : Bool) :
    Returns (closestCapacityCandidate catalog request tier enforceStorage) := by
  unfold closestCapacityCandidate
  dsimp only
  split
  · split
    · exact .ok none
    · apply Returns.bind
      · obtain ⟨sorted, hsorted, _⟩ := Sorting.sortByM_ok _
          (fun left _ right _ => compareCapacity_returns request _ _ left right)
        exact ⟨sorted, hsorted⟩
      · intro _ _
        exact .ok _
  · exact .ok none

theorem capacityFallback_returns (catalog : CapabilityCatalog ℚ)
    (request : TargetSelectionRequest ℚ) (tier : ServiceTier)
    (withStorage : List (EligibleCandidate ℚ)) :
    Returns (capacityFallback catalog request tier withStorage) :=
  Returns.ite (fun _ => closestCapacityCandidate_returns catalog request tier true)
    (fun _ => .ok none)

theorem selectedTarget_returns (eligible : EligibleCandidate ℚ) :
    Returns (selectedTarget eligible) := by
  unfold selectedTarget
  rw [sub_eq, ok_bind]
  exact .ok _

theorem selectTarget_returns (catalog : CapabilityCatalog ℚ)
    {request : TargetSelectionRequest ℚ} (h : ValidRequest request) :
    Returns (selectTarget catalog request) := by
  unfold selectTarget
  rw [validateRequest_ok h, ok_bind]
  apply Returns.bind (Returns.lift (eligibleCandidates_returns catalog h _ _))
  intro nggpWithoutStorage _
  apply Returns.bind (Returns.lift (eligibleCandidates_returns catalog h _ _))
  intro withoutStorage _
  apply Returns.bind (Returns.lift (eligibleCandidates_returns catalog h _ _))
  intro withStorage _
  apply Returns.bind (Returns.lift (capacityFallback_returns catalog request _ _))
  intro capacityFallback _
  apply Returns.bind (Returns.arithmetic
    (Returns.mapOption _ fun candidate _ => selectedTarget_returns candidate))
  intro selected _
  exact .ok _

/-- A mapped selection has a selected target. -/
theorem selectTarget_mapped {D : Type} [DecimalArith D] {catalog : CapabilityCatalog D}
    {request : TargetSelectionRequest D} {selection : TargetSelection D}
    (h : selectTarget catalog request = .ok selection) (hmapped : selection.mappingStatus ≠ .noMapping) :
    ∃ selected, selection.selected = some selected := by
  unfold selectTarget at h
  obtain ⟨_, _, h⟩ := bind_eq_ok.mp h
  obtain ⟨_, _, h⟩ := bind_eq_ok.mp h
  obtain ⟨_, _, h⟩ := bind_eq_ok.mp h
  obtain ⟨_, _, h⟩ := bind_eq_ok.mp h
  obtain ⟨_, _, h⟩ := bind_eq_ok.mp h
  obtain ⟨selected, _, h⟩ := bind_eq_ok.mp h
  cases h
  cases selected with
  | none => exact absurd rfl hmapped
  | some selected => exact ⟨selected, rfl⟩

end TargetSelector

/-! ### VM targets -/

namespace VmTargetSelector

/-- What a request must meet for the selection to run. -/
structure ValidRequest (request : VmTargetSelectionRequest ℚ) : Prop where
  minimumVcpu : request.minimumVcpu ≠ 0
  minimumMemory : 0 < request.minimumMemoryGb
  osVolume : (request.volumes.filter fun volume => volume.role == .os).length = 1

theorem validateRequest_ok {request : VmTargetSelectionRequest ℚ} (h : ValidRequest request) :
    validateRequest request = .ok () := by
  have hvolumes : request.volumes.isEmpty = false := by
    rw [List.isEmpty_eq_false_iff]
    intro hnil
    have hos := h.osVolume
    simp [hnil] at hos
  simp [validateRequest, h.minimumVcpu, not_le.mpr h.minimumMemory, h.osVolume, hvolumes]

theorem roundUp_returns (capacity : ℚ) {increment : ℚ} (h : increment ≠ 0) :
    Returns (roundUp capacity increment) := by
  unfold roundUp
  rw [rem_eq h, ok_bind]
  split
  · rw [sub_eq, ok_bind]
    exact .ok _
  · exact .ok _

theorem independentDisk_returns (offer : ManagedDiskOffer ℚ) (volume : VmVolumeRequirement ℚ) :
    Returns (independentDisk offer volume) := by
  unfold independentDisk
  split
  · exact .ok none
  · rename_i increment hincrement
    have hpositive : 0 < increment := by
      simpa using (Option.filter_eq_some_iff.mp hincrement).2
    apply Returns.bind (roundUp_returns _ (ne_of_gt hpositive))
    intro capacity _
    split
    · exact .ok none
    · simp only [sub_eq, ok_bind]
      exact .ok _

theorem offeredDisk_returns (offer : ManagedDiskOffer ℚ) (volume : VmVolumeRequirement ℚ) :
    Returns (offeredDisk offer volume) := by
  unfold offeredDisk
  split
  · exact independentDisk_returns offer volume
  · exact .ok _

theorem selectDisk_returns (catalog : ManagedDiskCatalog ℚ) (azureRegion : String)
    (volume : VmVolumeRequirement ℚ) : Returns (selectDisk catalog azureRegion volume) := by
  apply Returns.foldlM
  intro best offer _
  apply Returns.bind (offeredDisk_returns offer volume)
  intro disk _
  exact .ok _

theorem sum_returns (numbers : List ℚ) : Returns (sum numbers) :=
  Returns.foldlM numbers (fun total number _ => .ok (total + number)) zero

theorem aggregateReasons_returns (request : VmTargetSelectionRequest ℚ)
    (candidate : VmSizeCandidate ℚ) (disks : List (SelectedManagedDisk ℚ)) :
    Returns (aggregateReasons request candidate disks) := by
  unfold aggregateReasons
  split
  · apply Returns.bind (sum_returns _)
    intro _ _
    exact .ok _
  · exact .ok []

theorem evaluateInLineage_returns (diskCatalog : ManagedDiskCatalog ℚ)
    (request : VmTargetSelectionRequest ℚ) (candidate : VmSizeCandidate ℚ) :
    Returns (evaluateInLineage diskCatalog request candidate) := by
  unfold evaluateInLineage
  apply Returns.bind
  · apply Returns.mapM
    intro volume _
    apply Returns.bind (selectDisk_returns diskCatalog _ volume)
    intro _ _
    exact .ok _
  · intro choices _
    apply Returns.bind (aggregateReasons_returns request candidate _)
    intro _ _
    exact .ok _

theorem evaluateCandidate_returns (diskCatalog : ManagedDiskCatalog ℚ)
    (request : VmTargetSelectionRequest ℚ) (candidate : VmSizeCandidate ℚ) :
    Returns (evaluateCandidate diskCatalog request candidate) := by
  unfold evaluateCandidate
  dsimp only
  split
  · exact .ok none
  · split
    · split
      · exact .ok _
      · exact .ok none
    · exact (evaluateInLineage_returns diskCatalog request candidate).map _

theorem rank_returns (left right : EvaluatedCandidate ℚ) : Returns (rank left right) := by
  unfold rank
  dsimp only
  split
  · exact .ok _
  · apply Returns.bind (sum_returns _)
    intro _ _
    apply Returns.bind (sum_returns _)
    intro _ _
    exact .ok _

theorem bestCandidate_returns (request : VmTargetSelectionRequest ℚ)
    (eligible : List (EvaluatedCandidate ℚ)) : Returns (bestCandidate request eligible) := by
  unfold bestCandidate
  split
  · exact .ok _
  · obtain ⟨least, hleast, _⟩ :=
      Sorting.minByM_ok eligible (fun left _ right _ => rank_returns left right)
    exact ⟨least, hleast⟩

theorem selectVmTarget_returns (vmCatalog : VmCapabilityCatalog ℚ)
    (diskCatalog : ManagedDiskCatalog ℚ) {request : VmTargetSelectionRequest ℚ}
    (h : ValidRequest request) : Returns (selectVmTarget vmCatalog diskCatalog request) := by
  unfold selectVmTarget
  rw [validateRequest_ok h, ok_bind]
  apply Returns.bind (Returns.arithmetic (Returns.mapM _ fun candidate _ =>
    evaluateCandidate_returns diskCatalog request candidate))
  intro results _
  apply Returns.bind (Returns.lift (bestCandidate_returns request _))
  intro best _
  split
  · exact .ok _
  · exact .ok _

/-- A mapped selection has a selected target. -/
theorem selectVmTarget_mapped {D : Type} [DecimalArith D] {vmCatalog : VmCapabilityCatalog D}
    {diskCatalog : ManagedDiskCatalog D} {request : VmTargetSelectionRequest D}
    {selection : VmTargetSelection D}
    (h : selectVmTarget vmCatalog diskCatalog request = .ok selection)
    (hmapped : selection.mappingStatus ≠ .noMapping) :
    ∃ selected, selection.selected = some selected := by
  unfold selectVmTarget at h
  obtain ⟨_, _, h⟩ := bind_eq_ok.mp h
  obtain ⟨_, _, h⟩ := bind_eq_ok.mp h
  obtain ⟨best, _, h⟩ := bind_eq_ok.mp h
  cases best with
  | none =>
      cases h
      exact absurd rfl hmapped
  | some best =>
      cases h
      exact ⟨selectedVmTarget best, rfl⟩

end VmTargetSelector

end TcoCalculator
