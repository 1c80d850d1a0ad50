/-
In exact arithmetic the SQL target is the best of those that meet the request,
whatever the order of the catalog.
-/
import TcoCalculator.Calculation.SelectionTotality
import TcoCalculator.Calculation.TargetOutcome

namespace TcoCalculator.TargetSelector

open DecimalArith ExactDecimal Fallible Halt Sorting

variable {catalog : CapabilityCatalog ℚ} {request : TargetSelectionRequest ℚ}
  {tier : ServiceTier} {left right eligible : EligibleCandidate ℚ}

/-! ### The order in exact arithmetic -/

/-- The overages of a candidate, then its vCores and key. -/
def targetKey (request : TargetSelectionRequest ℚ) (eligible : EligibleCandidate ℚ) :
    ℚ ×ₗ ℚ ×ₗ ℕ ×ₗ String :=
  toLex ((eligible.candidate.vcores.toNat - request.sourceVcpu.toNat : ℚ) /
      request.sourceVcpu.toNat,
    toLex ((eligible.selectedMemoryGb - request.sourceMemoryGb) / request.sourceMemoryGb,
      toLex (eligible.candidate.vcores.toNat, eligible.candidate.configurationKey)))

theorem candidateKey_eq (h : ValidRequest request) (eligible : EligibleCandidate ℚ) :
    candidateKey request eligible = .ok (toLex
      ((eligible.candidate.vcores.toNat - request.sourceVcpu.toNat : ℚ) /
        request.sourceVcpu.toNat,
      toLex ((eligible.selectedMemoryGb - request.sourceMemoryGb) / request.sourceMemoryGb,
        toLex (tierPriority eligible.candidate.serviceTier,
          toLex (eligible.candidate.vcores.toNat, eligible.candidate.configurationKey))))) := by
  have hvcpu : (request.sourceVcpu.toNat : ℚ) ≠ 0 := by
    exact_mod_cast fun hzero => h.sourceVcpu (UInt32.toNat_inj.mp hzero)
  unfold candidateKey overage
  simp [div_eq hvcpu, div_eq h.sourceMemory.ne']

/-- Candidates of one tier stand in the order of their keys. -/
theorem noLater_iff_targetKey (h : ValidRequest request)
    (htier : left.candidate.serviceTier = right.candidate.serviceTier) :
    NoLater (compareCandidates request) left right ↔
      targetKey request left ≤ targetKey request right := by
  rw [compareCandidates_byKeys.noLater_iff, candidateKey_eq h, candidateKey_eq h, htier]
  simp [targetKey, Prod.Lex.toLex_le_toLex]

theorem targetKey_lt (hle : targetKey request left ≤ targetKey request right)
    (hkey : left.candidate.configurationKey ≠ right.candidate.configurationKey) :
    targetKey request left < targetKey request right := by
  refine lt_of_le_of_ne hle fun heq => hkey ?_
  exact congrArg (fun key => (ofLex (ofLex (ofLex key).2).2).2) heq

/-! ### Best targets -/

def DistinctKeys (catalog : CapabilityCatalog ℚ) : Prop :=
  (catalog.candidates.map TargetCandidate.configurationKey).Nodup

theorem DistinctKeys.eq_of_key (h : DistinctKeys catalog) {candidate candidate' : TargetCandidate ℚ}
    (hmem : candidate ∈ catalog.candidates) (hmem' : candidate' ∈ catalog.candidates)
    (hkey : candidate.configurationKey = candidate'.configurationKey) : candidate = candidate' :=
  List.inj_on_of_nodup_map h hmem hmem' hkey

/-- The target as the candidate has it, with the memory beyond the included one. -/
def targetOf (eligible : EligibleCandidate ℚ) : SelectedTarget ℚ where
  configurationKey := eligible.candidate.configurationKey
  azureRegion := eligible.candidate.azureRegion
  serviceTier := eligible.candidate.serviceTier
  hardwareFamily := eligible.candidate.hardwareFamily
  vcores := eligible.candidate.vcores
  zoneRedundant := eligible.candidate.zoneRedundant
  includedMemoryGb := eligible.candidate.includedMemoryGb
  selectedMemoryGb := eligible.selectedMemoryGb
  additionalMemoryGb := Max.max (eligible.selectedMemoryGb - eligible.candidate.includedMemoryGb) 0
  storageArchitecture := eligible.candidate.storageArchitecture
  maximumStorageGb := eligible.candidate.maximumStorageGb

theorem selectedTarget_eq (eligible : EligibleCandidate ℚ) :
    selectedTarget eligible = .ok (targetOf eligible) := by
  unfold selectedTarget targetOf
  simp

/-- A candidate that meets the request, with the least memory that suffices. -/
structure Suits (catalog : CapabilityCatalog ℚ) (request : TargetSelectionRequest ℚ)
    (tier : ServiceTier) (eligible : EligibleCandidate ℚ) : Prop where
  listed : eligible.candidate ∈ catalog.candidates
  meets : Meets request tier eligible.candidate
  memory : LeastSufficient request eligible.candidate eligible.selectedMemoryGb

/-- The only one that suits and comes before all others. -/
structure Best (catalog : CapabilityCatalog ℚ) (request : TargetSelectionRequest ℚ)
    (tier : ServiceTier) (best : EligibleCandidate ℚ) : Prop
    extends Suits catalog request tier best where
  least : ∀ other, Suits catalog request tier other → other ≠ best →
    targetKey request best < targetKey request other

/-- A candidate stands with one memory. -/
theorem eq_of_candidate (memoryOf : TargetCandidate ℚ → Option ℚ)
    (h : left.candidate = right.candidate)
    (hleft : memoryOf left.candidate = some left.selectedMemoryGb)
    (hright : memoryOf right.candidate = some right.selectedMemoryGb) : left = right := by
  obtain ⟨candidate, memory⟩ := left
  obtain ⟨candidate', memory'⟩ := right
  obtain rfl : candidate = candidate' := h
  cases hleft.symm.trans hright
  rfl

theorem LeastSufficient.unique {candidate : TargetCandidate ℚ} {memory memory' : ℚ}
    (h : LeastSufficient request candidate memory)
    (h' : LeastSufficient request candidate memory') : memory = memory' :=
  le_antisymm (h.least memory' h'.supported h'.sufficient)
    (h'.least memory h.supported h.sufficient)

theorem LeastSufficient.smallest {candidate : TargetCandidate ℚ} {memory : ℚ}
    (h : LeastSufficient request candidate memory) :
    smallestSufficientMemory candidate request = some memory := by
  obtain ⟨found, hfound⟩ := Option.ne_none_iff_exists'.mp fun hnone =>
    (smallestSufficientMemory_eq_none.mp hnone memory h.supported).not_ge h.sufficient
  rw [hfound, (smallestSufficientMemory_eq_some hfound).unique h]

theorem mem_withStorage {withStorage : List (EligibleCandidate ℚ)}
    (h : eligibleCandidates catalog request tier true = .ok withStorage) :
    eligible ∈ withStorage ↔ Suits catalog request tier eligible := by
  rw [mem_eligibleCandidates h]
  constructor
  · rintro ⟨hmem, hshape, hstorage, hmemory⟩
    exact ⟨hmem, ⟨hshape, hstorage rfl⟩, smallestSufficientMemory_eq_some hmemory⟩
  · intro hsuits
    exact ⟨hsuits.listed, hsuits.meets.toMeetsShape, fun _ => hsuits.meets.storage,
      hsuits.memory.smallest⟩

theorem best_of_head (hkeys : DistinctKeys catalog) (hvalid : ValidRequest request)
    {withStorage : List (EligibleCandidate ℚ)}
    (h : eligibleCandidates catalog request tier true = .ok withStorage)
    (hhead : withStorage.head? = some eligible) : Best catalog request tier eligible := by
  have hsuits := (mem_withStorage h).mp (List.mem_of_head? hhead)
  refine ⟨hsuits, fun other hother hne => ?_⟩
  have hmem := (sortByM_perm h).mem_iff.mp ((mem_withStorage h).mpr hother)
  have hleast := (sortByM_head compareCandidates_orders h hhead).noLater
    compareCandidates_orders other hmem
  rcases hleast with rfl | hnoLater
  · exact absurd rfl hne
  · have htier : eligible.candidate.serviceTier = other.candidate.serviceTier :=
      hsuits.meets.serviceTier.trans hother.meets.serviceTier.symm
    apply targetKey_lt ((noLater_iff_targetKey hvalid htier).mp hnoLater)
    intro hkey
    have hcandidate := hkeys.eq_of_key hsuits.listed hother.listed hkey
    exact hne (eq_of_candidate (smallestSufficientMemory · request) hcandidate
      hsuits.memory.smallest hother.memory.smallest).symm

/-! ### The order of the catalog -/

section Permuted

variable {catalog' : CapabilityCatalog ℚ}

theorem eligibleCandidates_permuted (hkeys : DistinctKeys catalog) (hvalid : ValidRequest request)
    (hperm : catalog.candidates.Perm catalog'.candidates) (enforceStorage : Bool) :
    eligibleCandidates catalog request tier enforceStorage =
      eligibleCandidates catalog' request tier enforceStorage := by
  obtain ⟨sorted, hsorted⟩ := eligibleCandidates_returns catalog hvalid tier enforceStorage
  obtain ⟨sorted', hsorted'⟩ := eligibleCandidates_returns catalog' hvalid tier enforceStorage
  rw [hsorted, hsorted']
  congr 1
  apply sortByM_eq_of_perm compareCandidates_orders (hperm.filterMap _) _ hsorted hsorted'
  intro left hleft right hright h h'
  have hkey := configurationKey_eq_of_noLater h h'
  obtain ⟨hmem, -, -, hmemory⟩ :=
    (mem_eligibleCandidates hsorted).mp ((sortByM_perm hsorted).mem_iff.mpr hleft)
  obtain ⟨hmem', -, -, hmemory'⟩ :=
    (mem_eligibleCandidates hsorted).mp ((sortByM_perm hsorted).mem_iff.mpr hright)
  exact eq_of_candidate (smallestSufficientMemory · request)
    (hkeys.eq_of_key hmem hmem' hkey) hmemory hmemory'

theorem maximum?_perm {numbers numbers' : List ℚ} (h : numbers.Perm numbers') :
    maximum? numbers = maximum? numbers' := by
  cases hleft : maximum? numbers with
  | none =>
      obtain rfl := maximum?_eq_none.mp hleft
      rw [← h.nil_eq]
      rfl
  | some greatest =>
      cases hright : maximum? numbers' with
      | none =>
          obtain rfl := maximum?_eq_none.mp hright
          rw [h.eq_nil] at hleft
          cases hleft
      | some greatest' =>
          obtain ⟨hmem, hle⟩ := maximum?_eq_some hleft
          obtain ⟨hmem', hle'⟩ := maximum?_eq_some hright
          exact congrArg some (le_antisymm (hle' _ (h.mem_iff.mp hmem))
            (hle _ (h.mem_iff.mpr hmem')))

theorem max?_perm {numbers numbers' : List ℕ} (h : numbers.Perm numbers') :
    numbers.max? = numbers'.max? := by
  cases hleft : numbers.max? with
  | none =>
      obtain rfl := List.max?_eq_none_iff.mp hleft
      rw [← h.nil_eq]
      rfl
  | some greatest =>
      obtain ⟨hmem, hle⟩ := List.max?_eq_some_iff.mp hleft
      exact (List.max?_eq_some_iff.mpr ⟨h.mem_iff.mp hmem,
        fun number hnumber => hle number (h.mem_iff.mpr hnumber)⟩).symm

theorem closestCapacityCandidate_permuted (hkeys : DistinctKeys catalog)
    (hperm : catalog.candidates.Perm catalog'.candidates) :
    closestCapacityCandidate catalog request tier true =
      closestCapacityCandidate catalog' request tier true := by
  have hcandidates := hperm.filterMap (capacityCandidate request tier)
  unfold closestCapacityCandidate
  dsimp only
  rw [← max?_perm (hcandidates.map fun candidate => candidate.candidate.vcores.toNat),
    ← maximum?_perm (hcandidates.map EligibleCandidate.selectedMemoryGb)]
  split
  · rename_i maximumVcores maximumMemoryGb _ _
    split
    · rfl
    · congr 1
      set kept := fun candidate : EligibleCandidate ℚ => !true ||
        candidate.candidate.maximumStorageGb.all fun maximum =>
          decide (value request.requiredStorageGb ≤ value maximum)
      set cmp := compareCapacity request (decide (maximumVcores < request.sourceVcpu.toNat))
        (decide (value maximumMemoryGb < value request.sourceMemoryGb)) with hcmp
      have hreturns : ∀ candidates, ∃ sorted, sortByM cmp candidates = .ok sorted := by
        intro candidates
        obtain ⟨sorted, hsorted, -⟩ := sortByM_ok candidates
          (fun left _ right _ => compareCapacity_returns request _ _ left right)
        exact ⟨sorted, hsorted⟩
      obtain ⟨sorted, hsorted⟩ :=
        hreturns ((catalog.candidates.filterMap (capacityCandidate request tier)).filter kept)
      obtain ⟨sorted', hsorted'⟩ :=
        hreturns ((catalog'.candidates.filterMap (capacityCandidate request tier)).filter kept)
      rw [hsorted, hsorted']
      congr 1
      apply sortByM_eq_of_perm (compareCapacity_byKeys _ _).orders (hcandidates.filter kept) _
        hsorted hsorted'
      intro left hleft right hright h h'
      obtain ⟨-, key, hkey, hkey'⟩ := (compareCapacity_byKeys _ _).eq_keys h h'
      obtain ⟨_, -, hkey⟩ := bind_eq_ok.mp hkey
      obtain ⟨_, -, hkey'⟩ := bind_eq_ok.mp hkey'
      have hsame : left.candidate.configurationKey = right.candidate.configurationKey :=
        congrArg (fun key => (ofLex key).2)
          ((Except.ok.inj hkey).trans (Except.ok.inj hkey').symm)
      obtain ⟨candidate, hmem, hcapacity⟩ := List.mem_filterMap.mp (List.mem_filter.mp hleft).1
      obtain ⟨candidate', hmem', hcapacity'⟩ := List.mem_filterMap.mp (List.mem_filter.mp hright).1
      obtain ⟨rfl, -, hmemory⟩ := capacityCandidate_eq_some.mp hcapacity
      obtain ⟨rfl, -, hmemory'⟩ := capacityCandidate_eq_some.mp hcapacity'
      exact eq_of_candidate (closestMemory · request)
        (hkeys.eq_of_key hmem hmem' hsame) hmemory hmemory'
  · rfl

def evaluationKey (evaluation : CandidateEvaluation ℚ) : Boolᵒᵈ ×ₗ ℕ ×ₗ String :=
  toLex (OrderDual.toDual evaluation.eligible,
    toLex (evaluation.vcores.toNat, evaluation.configurationKey))

theorem evaluationOrder_ne_gt {evaluation evaluation' : CandidateEvaluation ℚ} :
    evaluationOrder evaluation evaluation' ≠ .gt ↔
      evaluationKey evaluation ≤ evaluationKey evaluation' := by
  have heq : evaluationOrder evaluation evaluation' =
      compare (evaluationKey evaluation) (evaluationKey evaluation') := rfl
  rw [heq, ne_eq, compare_gt_iff_gt, not_lt]

theorem candidateEvaluations_permuted (hkeys : DistinctKeys catalog)
    (hperm : catalog.candidates.Perm catalog'.candidates) :
    candidateEvaluations catalog request tier = candidateEvaluations catalog' request tier := by
  apply insertionSort_eq_of_perm _ _ ((hperm.filter _).map _)
  · intro evaluation hmem evaluation' hmem' hle hle'
    rw [evaluationOrder_ne_gt] at hle hle'
    have hkey : evaluation.configurationKey = evaluation'.configurationKey :=
      congrArg (fun key => (ofLex (ofLex key).2).2) (le_antisymm hle hle')
    obtain ⟨candidate, hcandidate, rfl⟩ := List.mem_map.mp hmem
    obtain ⟨candidate', hcandidate', rfl⟩ := List.mem_map.mp hmem'
    rw [hkeys.eq_of_key (List.mem_filter.mp hcandidate).1 (List.mem_filter.mp hcandidate').1 hkey]
  · intro evaluation evaluation'
    rw [evaluationOrder_ne_gt, evaluationOrder_ne_gt]
    exact le_total _ _
  · intro first second third
    rw [evaluationOrder_ne_gt, evaluationOrder_ne_gt, evaluationOrder_ne_gt]
    exact le_trans

theorem outcomeReasons_permuted (hperm : catalog.candidates.Perm catalog'.candidates)
    (eligible : List (EligibleCandidate ℚ)) :
    outcomeReasons catalog request tier eligible =
      outcomeReasons catalog' request tier eligible := by
  unfold outcomeReasons
  rw [hperm.any_eq, hperm.any_eq]

/-- The selection does not see the order of the catalog. -/
theorem selectTarget_permuted (hkeys : DistinctKeys catalog) (hvalid : ValidRequest request)
    (hperm : catalog.candidates.Perm catalog'.candidates) :
    selectTarget catalog request = selectTarget catalog' request := by
  unfold selectTarget capacityFallback
  simp only [eligibleCandidates_permuted hkeys hvalid hperm,
    closestCapacityCandidate_permuted hkeys hperm, candidateEvaluations_permuted hkeys hperm,
    outcomeReasons_permuted hperm]

end Permuted

/-! ### The selection -/

/-- A selection returns; where a candidate meets the request it is the best of
these; it does not see the order of the catalog; and it falls below the source
only where no candidate meets the request. -/
theorem selectTarget_optimal (hkeys : DistinctKeys catalog) (hvalid : ValidRequest request) :
    ∃ selection, selectTarget catalog request = .ok selection ∧
      ((∃ candidate ∈ catalog.candidates, Meets request selection.requestedTier candidate) →
        ∃ best, Best catalog request selection.requestedTier best ∧
          selection.selected = some (targetOf best) ∧
          0 ≤ (targetOf best).additionalMemoryGb) ∧
      (∀ catalog', catalog'.candidates.Perm catalog.candidates →
        selectTarget catalog' request = .ok selection) ∧
      ∀ target, selection.selected = some target →
        target.vcores < request.sourceVcpu ∨ target.selectedMemoryGb < request.sourceMemoryGb →
        ∀ candidate ∈ catalog.candidates, ¬ Meets request selection.requestedTier candidate := by
  obtain ⟨selection, hselection⟩ := selectTarget_returns catalog hvalid
  obtain ⟨withoutStorage, withStorage, fallback, hfrom⟩ := selectTarget_selectedFrom hselection
  refine ⟨selection, hselection, ?_, ?_, ?_⟩
  · rintro ⟨candidate, hmem, hmeets⟩
    cases hhead : withStorage.head? with
    | none =>
        have hnil := List.head?_eq_none_iff.mp hhead
        exact absurd hmeets ((forall_not_meets hfrom.meetingAll).mp hnil candidate hmem)
    | some best =>
        have hbest := best_of_head hkeys hvalid hfrom.meetingAll hhead
        rcases hfrom.exists_target with ⟨-, hor⟩ | ⟨found, target, hsome, hor, htarget⟩
        · rw [hhead] at hor
          cases hor
        · rw [hhead] at hor
          cases hor
          cases (selectedTarget_eq best).symm.trans htarget
          exact ⟨best, hbest, hsome, le_max_right _ _⟩
  · intro catalog' hperm
    rw [← selectTarget_permuted hkeys hvalid hperm.symm]
    exact hselection
  · intro target htarget hshort
    have hcode : ∃ code, ShortOf request target code := by
      rcases hshort with hvcores | hmemory
      · exact ⟨.insufficientVcores, hvcores⟩
      · exact ⟨.insufficientMemory, hmemory⟩
    obtain ⟨code, hcode⟩ := hcode
    apply (forall_not_meets hfrom.meetingAll).mp
    cases withStorage with
    | nil => rfl
    | cons first rest =>
        obtain ⟨-, hmeets, hmemory⟩ := hfrom.mem_meetingAll rfl
        obtain ⟨found, hfound, hdescribes⟩ := hfrom.selected_head rfl
        cases htarget.symm.trans hfound
        exact absurd hcode (hdescribes.not_shortOf hmeets.toMeetsShape hmemory code)

/-- A candidate on Premium-series hardware. -/
def exactCandidate (configurationKey : String) (vcores : UInt32) (memoryGb : List ℚ) :
    TargetCandidate ℚ where
  configurationKey := configurationKey
  azureRegion := "eastus"
  serviceTier := .nextGenerationGeneralPurpose
  hardwareFamily := "Premium Series"
  vcores := vcores
  zoneRedundant := false
  includedMemoryGb := 28
  supportedMemoryGb := memoryGb
  storageArchitecture := "remote"
  maximumStorageGb := some 2048

def exactCatalog : CapabilityCatalog ℚ :=
  ⟨[exactCandidate "nggp-4" 4 [48, 28, 40, 32], exactCandidate "nggp-8" 8 [56]]⟩

def exactRequest : TargetSelectionRequest ℚ where
  azureRegion := "eastus"
  sourceVcpu := 4
  sourceMemoryGb := 30
  requiredStorageGb := 100
  sourceMaxIops := 3000
  workbookParityMode := true

theorem selectTarget_optimal_example :
    ∃ selection, selectTarget exactCatalog exactRequest = .ok selection ∧
      ∀ catalog', catalog'.candidates.Perm exactCatalog.candidates →
        selectTarget catalog' exactRequest = .ok selection :=
  have hkeys : DistinctKeys exactCatalog := by
    simp [DistinctKeys, exactCatalog, exactCandidate]
  have hvalid : ValidRequest exactRequest := ⟨by decide, by decide +kernel, by decide +kernel⟩
  (selectTarget_optimal hkeys hvalid).imp fun _ h => ⟨h.1, h.2.2.1⟩

end TcoCalculator.TargetSelector
