/-
What a SQL target selection is put together from, what its tier depends on, and
that an outcome which is not ideal is explained.
-/
import TcoCalculator.Calculation.TargetEligibility
import TcoCalculator.Domain.Decimal96

namespace TcoCalculator.TargetSelector

open DecimalArith Fallible Halt Sorting

variable {D : Type} [DecimalArith D] {catalog : CapabilityCatalog D}
  {request : TargetSelectionRequest D} {tier : ServiceTier} {selection : TargetSelection D}
  {eligible : EligibleCandidate D}

/-! ### Eligible candidates -/

section Eligible

variable {enforceStorage : Bool} {sorted : List (EligibleCandidate D)}

theorem mem_eligibleCandidates
    (h : eligibleCandidates catalog request tier enforceStorage = .ok sorted) :
    eligible ∈ sorted ↔ eligible.candidate ∈ catalog.candidates ∧
      MeetsShape request tier eligible.candidate ∧
      (enforceStorage = true → HasStorage request eligible.candidate) ∧
      smallestSufficientMemory eligible.candidate request = some eligible.selectedMemoryGb := by
  rw [(sortByM_perm h).mem_iff, List.mem_filterMap]
  constructor
  · rintro ⟨candidate, hmem, heligible⟩
    obtain ⟨rfl, hrest⟩ := eligibleCandidate_eq_some.mp heligible
    exact ⟨hmem, hrest⟩
  · rintro ⟨hmem, hrest⟩
    exact ⟨eligible.candidate, hmem, eligibleCandidate_eq_some.mpr ⟨rfl, hrest⟩⟩

/-- None is eligible when none meets the request. -/
theorem eligibleCandidates_eq_nil
    (h : eligibleCandidates catalog request tier enforceStorage = .ok sorted) :
    sorted = [] ↔ ∀ candidate ∈ catalog.candidates, ¬ (MeetsShape request tier candidate ∧
      (enforceStorage = true → HasStorage request candidate)) := by
  rw [List.eq_nil_iff_forall_not_mem]
  constructor
  · rintro hnil candidate hmem ⟨hshape, hstorage⟩
    obtain ⟨memory, hmemory, hsufficient⟩ := hshape.memory
    obtain ⟨least, hleast⟩ := Option.ne_none_iff_exists'.mp fun hnone =>
      (smallestSufficientMemory_eq_none.mp hnone memory hmemory).not_ge hsufficient
    exact hnil ⟨candidate, least⟩
      ((mem_eligibleCandidates h).mpr ⟨hmem, hshape, hstorage, hleast⟩)
  · intro hnone eligible hmem
    obtain ⟨hcandidate, hshape, hstorage, -⟩ := (mem_eligibleCandidates h).mp hmem
    exact hnone eligible.candidate hcandidate ⟨hshape, hstorage⟩

theorem forall_not_meets (h : eligibleCandidates catalog request tier true = .ok sorted) :
    sorted = [] ↔ ∀ candidate ∈ catalog.candidates, ¬ Meets request tier candidate := by
  rw [eligibleCandidates_eq_nil h]
  apply forall₂_congr
  intro candidate _
  exact not_congr ⟨fun h => ⟨h.1, h.2 rfl⟩, fun h => ⟨h.toMeetsShape, fun _ => h.storage⟩⟩

end Eligible

/-! ### The parts of a selection -/

/-- The parts a selection is put together from. -/
structure SelectedFrom (catalog : CapabilityCatalog D) (request : TargetSelectionRequest D)
    (selection : TargetSelection D) (withoutStorage withStorage : List (EligibleCandidate D))
    (fallback : Option (EligibleCandidate D)) : Prop where
  limit : ∃ nggpWithoutStorage, eligibleCandidates catalog request .nextGenerationGeneralPurpose
    false = .ok nggpWithoutStorage ∧
      selection.nggpIopsLimit = nggpIopsLimit request nggpWithoutStorage
  requestedTier : selection.requestedTier =
    if request.sourceMaxIops.toNat ≤ selection.nggpIopsLimit then .nextGenerationGeneralPurpose
    else .businessCritical
  meetingShape : eligibleCandidates catalog request selection.requestedTier false =
    .ok withoutStorage
  meetingAll : eligibleCandidates catalog request selection.requestedTier true = .ok withStorage
  shortOfCapacity : capacityFallback catalog request selection.requestedTier withStorage = .ok fallback
  selected : (withStorage.head?.or fallback).mapM selectedTarget = .ok selection.selected
  mappingStatus : selection.mappingStatus =
    if selection.selected.isSome then .mapped else .noMapping
  candidates : selection.candidates = candidateEvaluations catalog request selection.requestedTier
  reasons : selection.outcomeReasons =
    fallback.elim (outcomeReasons catalog request selection.requestedTier withStorage)
      (capacityFallbackReasons request)
  escalation : selection.storageEscalation =
    storageEscalation withoutStorage withStorage request

theorem selectTarget_selectedFrom (h : selectTarget catalog request = .ok selection) :
    ∃ withoutStorage withStorage fallback,
      SelectedFrom catalog request selection withoutStorage withStorage fallback := by
  obtain ⟨_, -, h⟩ := bind_eq_ok.mp h
  obtain ⟨nggpWithoutStorage, hnggp, h⟩ := bind_eq_ok.mp h
  obtain ⟨withoutStorage, hwithout, h⟩ := bind_eq_ok.mp h
  obtain ⟨withStorage, hwith, h⟩ := bind_eq_ok.mp h
  obtain ⟨fallback, hfallback, h⟩ := bind_eq_ok.mp h
  obtain ⟨selected, hselected, h⟩ := bind_eq_ok.mp h
  cases h
  exact ⟨withoutStorage, withStorage, fallback, {
    limit := ⟨nggpWithoutStorage, liftM_eq_ok.mp hnggp, rfl⟩
    requestedTier := rfl
    meetingShape := liftM_eq_ok.mp hwithout
    meetingAll := liftM_eq_ok.mp hwith
    shortOfCapacity := liftM_eq_ok.mp hfallback
    selected := liftM_eq_ok.mp hselected
    mappingStatus := rfl
    candidates := rfl
    reasons := by cases fallback <;> rfl
    escalation := rfl }⟩

/-- The target carries the data of the candidate. -/
structure DescribesTarget (eligible : EligibleCandidate D) (target : SelectedTarget D) : Prop where
  configurationKey : target.configurationKey = eligible.candidate.configurationKey
  serviceTier : target.serviceTier = eligible.candidate.serviceTier
  vcores : target.vcores = eligible.candidate.vcores
  selectedMemoryGb : target.selectedMemoryGb = eligible.selectedMemoryGb

theorem selectedTarget_describes {target : SelectedTarget D}
    (h : selectedTarget eligible = .ok target) : DescribesTarget eligible target := by
  obtain ⟨additionalMemoryGb, -, h⟩ := bind_eq_ok.mp h
  cases h
  exact ⟨rfl, rfl, rfl, rfl⟩

section Parts

variable {withoutStorage withStorage : List (EligibleCandidate D)}
  {fallback : Option (EligibleCandidate D)} {target : SelectedTarget D}

/-- The selected target is the first of the eligible, or the fallback. -/
theorem SelectedFrom.exists_target
    (h : SelectedFrom catalog request selection withoutStorage withStorage fallback) :
    selection.selected = none ∧ withStorage.head?.or fallback = none ∨
      ∃ eligible target, selection.selected = some target ∧
        withStorage.head?.or fallback = some eligible ∧ selectedTarget eligible = .ok target := by
  have hselected := h.selected
  cases hor : withStorage.head?.or fallback with
  | none =>
      rw [hor] at hselected
      exact .inl ⟨(Except.ok.inj hselected).symm, rfl⟩
  | some eligible =>
      rw [hor] at hselected
      obtain ⟨target, htarget, hsome⟩ := bind_eq_ok.mp hselected
      exact .inr ⟨eligible, target, (Except.ok.inj hsome).symm, rfl, htarget⟩

theorem SelectedFrom.of_selected
    (h : SelectedFrom catalog request selection withoutStorage withStorage fallback)
    (hselected : selection.selected = some target) :
    ∃ eligible, withStorage.head?.or fallback = some eligible ∧
      selectedTarget eligible = .ok target := by
  rcases h.exists_target with ⟨hnone, -⟩ | ⟨eligible, found, hsome, hor, htarget⟩
  · rw [hselected] at hnone
    cases hnone
  · cases hselected.symm.trans hsome
    exact ⟨eligible, hor, htarget⟩

theorem SelectedFrom.noMapping_iff
    (h : SelectedFrom catalog request selection withoutStorage withStorage fallback) :
    selection.mappingStatus = .noMapping ↔ withStorage = [] ∧ fallback = none := by
  rw [h.mappingStatus]
  rcases h.exists_target with ⟨hnone, hor⟩ | ⟨eligible, target, hsome, hor, -⟩
  · simpa [hnone] using hor
  · simp only [hsome, Option.isSome_some, if_true, reduceCtorEq, false_iff]
    rintro ⟨rfl, rfl⟩
    cases hor

/-- A fallback is only taken when no candidate meets the request. -/
theorem SelectedFrom.fallback_some
    (h : SelectedFrom catalog request selection withoutStorage withStorage (some eligible)) :
    withStorage = [] ∧
      closestCapacityCandidate catalog request selection.requestedTier true =
        .ok (some eligible) := by
  have hfallback := h.shortOfCapacity
  unfold capacityFallback at hfallback
  split at hfallback
  · rename_i hempty
    exact ⟨List.isEmpty_iff.mp hempty, hfallback⟩
  · cases hfallback

theorem SelectedFrom.fallback_none_of_cons {rest : List (EligibleCandidate D)}
    (h : SelectedFrom catalog request selection withoutStorage (eligible :: rest) fallback) :
    fallback = none := by
  cases fallback with
  | none => rfl
  | some _ => cases h.fallback_some.1

end Parts

/-! ### Storage escalation -/

theorem storageEscalation_eq_some {withoutStorage withStorage : List (EligibleCandidate D)}
    {escalation : StorageEscalation D} :
    storageEscalation withoutStorage withStorage request = some escalation ↔
      ∃ preferred selected maximum, withoutStorage.head? = some preferred ∧
        withStorage.head? = some selected ∧
        preferred.candidate.configurationKey ≠ selected.candidate.configurationKey ∧
        preferred.candidate.maximumStorageGb = some maximum ∧
        value maximum < value request.requiredStorageGb ∧
        escalation = ⟨preferred.candidate.configurationKey, maximum,
          selected.candidate.configurationKey⟩ := by
  unfold storageEscalation
  simp only [Option.bind_eq_bind, Option.bind_eq_some_iff]
  constructor
  · rintro ⟨preferred, hpreferred, selected, hselected, h⟩
    by_cases hkey :
        preferred.candidate.configurationKey = selected.candidate.configurationKey
    · simp [hkey] at h
    · rw [if_neg hkey, Option.bind_eq_some_iff] at h
      obtain ⟨maximum, hmaximum, h⟩ := h
      by_cases hstorage : value request.requiredStorageGb ≤ value maximum
      · simp [hstorage] at h
      · rw [if_neg hstorage] at h
        exact ⟨preferred, selected, maximum, hpreferred, hselected, hkey, hmaximum,
          not_le.mp hstorage, (Option.some.inj h).symm⟩
  · rintro ⟨preferred, selected, maximum, hpreferred, hselected, hkey, hmaximum, hstorage, rfl⟩
    refine ⟨preferred, hpreferred, selected, hselected, ?_⟩
    simp [hkey, hmaximum, not_le.mpr hstorage]

section Parts

variable {withoutStorage withStorage : List (EligibleCandidate D)}
  {fallback : Option (EligibleCandidate D)}

/-- The target selected when a candidate meets the request is the first of them. -/
theorem SelectedFrom.selected_head
    (h : SelectedFrom catalog request selection withoutStorage withStorage fallback)
    (hhead : withStorage.head? = some eligible) :
    ∃ target, selection.selected = some target ∧ DescribesTarget eligible target := by
  rcases h.exists_target with ⟨-, hor⟩ | ⟨found, target, hsome, hor, htarget⟩
  · rw [hhead] at hor
    cases hor
  · rw [hhead] at hor
    cases hor
    exact ⟨target, hsome, selectedTarget_describes htarget⟩

theorem SelectedFrom.mem_meetingAll
    (h : SelectedFrom catalog request selection withoutStorage withStorage fallback)
    (hhead : withStorage.head? = some eligible) :
    eligible.candidate ∈ catalog.candidates ∧
      Meets request selection.requestedTier eligible.candidate ∧
      smallestSufficientMemory eligible.candidate request = some eligible.selectedMemoryGb := by
  obtain ⟨hmem, hshape, hstorage, hmemory⟩ :=
    (mem_eligibleCandidates h.meetingAll).mp (List.mem_of_head? hhead)
  exact ⟨hmem, ⟨hshape, hstorage rfl⟩, hmemory⟩

end Parts

/-! ### The tier -/

/-- Requests of one shape have one limit of IOPS. -/
theorem nggpIopsLimit_eq_of_shape {iops : UInt64} {storage : D} {selection' : TargetSelection D}
    (h : selectTarget catalog request = .ok selection)
    (h' : selectTarget catalog
      { request with sourceMaxIops := iops, requiredStorageGb := storage } = .ok selection') :
    selection'.nggpIopsLimit = selection.nggpIopsLimit := by
  obtain ⟨_, _, _, hfrom⟩ := selectTarget_selectedFrom h
  obtain ⟨_, _, _, hfrom'⟩ := selectTarget_selectedFrom h'
  obtain ⟨nggpWithoutStorage, hnggp, hlimit⟩ := hfrom.limit
  obtain ⟨nggpWithoutStorage', hnggp', hlimit'⟩ := hfrom'.limit
  -- without the storage check neither the candidates nor their order see the two fields
  have heligible : eligibleCandidates catalog
      { request with sourceMaxIops := iops, requiredStorageGb := storage }
      .nextGenerationGeneralPurpose false =
      eligibleCandidates catalog request .nextGenerationGeneralPurpose false := rfl
  rw [heligible, hnggp] at hnggp'
  cases hnggp'
  exact hlimit'.trans hlimit.symm

theorem requestedTier_of_limit (h : selectTarget catalog request = .ok selection) :
    selection.requestedTier =
      if request.sourceMaxIops.toNat ≤ selection.nggpIopsLimit then .nextGenerationGeneralPurpose
      else .businessCritical := by
  obtain ⟨_, _, _, hfrom⟩ := selectTarget_selectedFrom h
  exact hfrom.requestedTier

theorem nggpIopsLimit_le (h : selectTarget catalog request = .ok selection) :
    selection.nggpIopsLimit ≤ nggpMaxIops := by
  obtain ⟨_, _, _, hfrom⟩ := selectTarget_selectedFrom h
  obtain ⟨nggpWithoutStorage, -, hlimit⟩ := hfrom.limit
  rw [hlimit]
  exact Nat.min_le_right _ _

/-- A configuration given up for storage is of the tier of the one taken. -/
theorem escalation_within_tier (h : selectTarget catalog request = .ok selection)
    {escalation : StorageEscalation D} (hescalation : selection.storageEscalation = some escalation) :
    ∃ rejected ∈ catalog.candidates, ∃ target, selection.selected = some target ∧
      rejected.configurationKey = escalation.rejectedConfigurationKey ∧
      target.configurationKey = escalation.selectedConfigurationKey ∧
      rejected.serviceTier = selection.requestedTier ∧
      target.serviceTier = selection.requestedTier := by
  obtain ⟨withoutStorage, withStorage, fallback, hfrom⟩ := selectTarget_selectedFrom h
  rw [hfrom.escalation] at hescalation
  obtain ⟨preferred, selected, maximum, hpreferred, hselected, -, -, -, rfl⟩ :=
    storageEscalation_eq_some.mp hescalation
  obtain ⟨hmem, hshape, -⟩ :=
    (mem_eligibleCandidates hfrom.meetingShape).mp (List.mem_of_head? hpreferred)
  obtain ⟨-, hmeets, -⟩ := hfrom.mem_meetingAll hselected
  obtain ⟨target, htarget, hdescribes⟩ := hfrom.selected_head hselected
  exact ⟨preferred.candidate, hmem, target, htarget, rfl, hdescribes.configurationKey,
    hshape.serviceTier, hdescribes.serviceTier.trans hmeets.serviceTier⟩

/-- The tier and the limit of IOPS do not see the storage; the limit has its
bound; more IOPS of the source never lead back from Business Critical; and a
storage escalation stays in the tier. -/
theorem requestedTier_depends_on_shape (h : selectTarget catalog request = .ok selection) :
    (∀ storage selection', selectTarget catalog { request with requiredStorageGb := storage } =
        .ok selection' → selection'.requestedTier = selection.requestedTier ∧
          selection'.nggpIopsLimit = selection.nggpIopsLimit) ∧
      selection.nggpIopsLimit ≤ nggpMaxIops ∧
      (∀ iops storage selection', request.sourceMaxIops ≤ iops →
        selectTarget catalog { request with sourceMaxIops := iops, requiredStorageGb := storage } =
          .ok selection' → selection'.nggpIopsLimit = selection.nggpIopsLimit ∧
          (selection.requestedTier = .businessCritical →
            selection'.requestedTier = .businessCritical)) ∧
      ∀ escalation, selection.storageEscalation = some escalation →
        ∃ rejected ∈ catalog.candidates, ∃ target, selection.selected = some target ∧
          rejected.configurationKey = escalation.rejectedConfigurationKey ∧
          target.configurationKey = escalation.selectedConfigurationKey ∧
          rejected.serviceTier = selection.requestedTier ∧
          target.serviceTier = selection.requestedTier := by
  have htier := requestedTier_of_limit h
  refine ⟨fun storage selection' h' => ?_, nggpIopsLimit_le h,
    fun iops storage selection' hiops h' => ?_, fun escalation => escalation_within_tier h⟩
  · have hlimit := nggpIopsLimit_eq_of_shape h h'
    exact ⟨(requestedTier_of_limit h').trans (hlimit ▸ htier.symm), hlimit⟩
  · have hlimit := nggpIopsLimit_eq_of_shape h h'
    refine ⟨hlimit, fun hcritical => ?_⟩
    rw [htier] at hcritical
    rw [requestedTier_of_limit h', hlimit, if_neg]
    intro hwithin
    have hle : request.sourceMaxIops.toNat ≤ selection.nggpIopsLimit :=
      (UInt64.le_iff_toNat_le.mp hiops).trans hwithin
    rw [if_pos hle] at hcritical
    cases hcritical

/-- A candidate on Premium-series hardware with one memory. -/
def exampleCandidate (configurationKey : String) (vcores : UInt32) (memoryGb maximumGb : Nat) :
    TargetCandidate Decimal96 where
  configurationKey := configurationKey
  azureRegion := "eastus"
  serviceTier := .nextGenerationGeneralPurpose
  hardwareFamily := "Premium Series"
  vcores := vcores
  zoneRedundant := false
  includedMemoryGb := ofNat memoryGb
  supportedMemoryGb := [ofNat memoryGb]
  storageArchitecture := "remote"
  maximumStorageGb := some (ofNat maximumGb)

def exampleCatalog : CapabilityCatalog Decimal96 :=
  ⟨[exampleCandidate "nggp-8" 8 64 512, exampleCandidate "nggp-16" 16 128 4096]⟩

def exampleRequest : TargetSelectionRequest Decimal96 where
  azureRegion := "eastus"
  sourceVcpu := 8
  sourceMemoryGb := ofNat 60
  requiredStorageGb := ofNat 800
  sourceMaxIops := 12800
  workbookParityMode := true

theorem exampleSelection_isSome :
    (selectTarget exampleCatalog exampleRequest).toOption.isSome = true := by decide +kernel

theorem exampleCritical_isSome :
    (selectTarget exampleCatalog { exampleRequest with sourceMaxIops := 12801 }).toOption.isSome =
      true := by decide +kernel

/-- One more operation leads to Business Critical, and the limit stays. -/
theorem requestedTier_example : ∃ selection selection',
    selectTarget exampleCatalog exampleRequest = .ok selection ∧
      selectTarget exampleCatalog { exampleRequest with sourceMaxIops := 12801 } =
        .ok selection' ∧
      selection.requestedTier = .nextGenerationGeneralPurpose ∧
      selection'.requestedTier = .businessCritical ∧
      selection'.nggpIopsLimit = selection.nggpIopsLimit :=
  ⟨_, _, eq_ok_get exampleSelection_isSome, eq_ok_get exampleCritical_isSome, by decide +kernel,
    by decide +kernel, ((requestedTier_depends_on_shape
      (eq_ok_get exampleSelection_isSome)).2.2.1 12801 _ _ (by decide)
      (eq_ok_get exampleCritical_isSome)).1⟩

/-! ### Explanations -/

/-- The dimensions in which a target falls below the source. -/
def ShortOf (request : TargetSelectionRequest D) (target : SelectedTarget D) :
    SelectionReasonCode → Prop
  | .insufficientVcores => target.vcores < request.sourceVcpu
  | .insufficientMemory => value target.selectedMemoryGb < value request.sourceMemoryGb
  | _ => False

/-- The first choice when storage is not looked at. -/
def Preferred (catalog : CapabilityCatalog D) (request : TargetSelectionRequest D)
    (tier : ServiceTier) (preferred : EligibleCandidate D) : Prop :=
  FirstLeast (compareCandidates request) preferred
    (catalog.candidates.filterMap (eligibleCandidate request tier false))

theorem mem_candidateEvaluations {evaluation : CandidateEvaluation D}
    (h : evaluation ∈ candidateEvaluations catalog request tier) :
    ∃ candidate ∈ catalog.candidates, candidate.azureRegion = request.azureRegion ∧
      candidate.serviceTier = tier ∧ evaluation = candidateEvaluation request tier candidate := by
  obtain ⟨candidate, hmem, rfl⟩ := List.mem_map.mp ((List.mem_insertionSort _).mp h)
  obtain ⟨hcandidate, hscope⟩ := List.mem_filter.mp hmem
  simp only [Bool.and_eq_true, beq_iff_eq] at hscope
  exact ⟨candidate, hcandidate, hscope.1, hscope.2, rfl⟩

theorem candidateEvaluations_eq_nil (h : candidateEvaluations catalog request tier = []) :
    ∀ candidate ∈ catalog.candidates,
      ¬ (candidate.azureRegion = request.azureRegion ∧ candidate.serviceTier = tier) := by
  rintro candidate hmem ⟨hregion, htier⟩
  have hevaluation : candidateEvaluation request tier candidate ∈
      candidateEvaluations catalog request tier := by
    apply (List.mem_insertionSort _).mpr (List.mem_map_of_mem (List.mem_filter.mpr ⟨hmem, ?_⟩))
    simp [hregion, htier]
  simp [h] at hevaluation

omit [DecimalArith D] in
theorem outcomeReasons_ne_nil (h : ∀ candidate ∈ catalog.candidates,
    ¬ (candidate.azureRegion = request.azureRegion ∧ candidate.serviceTier = tier)) :
    outcomeReasons catalog request tier [] ≠ [] := by
  have hnone : (!catalog.candidates.any fun candidate =>
      candidate.azureRegion == request.azureRegion && candidate.serviceTier == tier) = true := by
    simpa using h
  unfold outcomeReasons
  rw [hnone]
  simp only [List.isEmpty_nil, Bool.not_true, if_true, Bool.false_eq_true, if_false]
  split <;> simp

/-- What is not mapped is explained. -/
theorem noMapping_explained (h : selectTarget catalog request = .ok selection)
    (hstatus : selection.mappingStatus = .noMapping) :
    (∀ evaluation ∈ selection.candidates, evaluation.rejectionReasons ≠ []) ∧
      (selection.candidates = [] → selection.outcomeReasons ≠ []) := by
  obtain ⟨withoutStorage, withStorage, fallback, hfrom⟩ := selectTarget_selectedFrom h
  obtain ⟨rfl, rfl⟩ := hfrom.noMapping_iff.mp hstatus
  constructor
  · intro evaluation hevaluation hreasons
    rw [hfrom.candidates] at hevaluation
    obtain ⟨candidate, hmem, hregion, htier, rfl⟩ := mem_candidateEvaluations hevaluation
    obtain ⟨hshape, hstorage⟩ := (evaluateCandidate_reasons_eq_nil true hregion htier).mp hreasons
    exact (forall_not_meets hfrom.meetingAll).mp rfl candidate hmem ⟨hshape, hstorage rfl⟩
  · intro hcandidates
    rw [hfrom.candidates] at hcandidates
    rw [hfrom.reasons]
    exact outcomeReasons_ne_nil (candidateEvaluations_eq_nil hcandidates)

theorem mem_capacityFallbackReasons (fallback : EligibleCandidate D) {code : SelectionReasonCode} :
    (∃ reason ∈ capacityFallbackReasons request fallback, reason.code = code) ↔
      (code = .insufficientVcores ∧ fallback.candidate.vcores < request.sourceVcpu) ∨
      (code = .insufficientMemory ∧
        value fallback.selectedMemoryGb < value request.sourceMemoryGb) := by
  unfold capacityFallbackReasons
  simp only [List.mem_append, mem_reasonWhen, decide_eq_true_eq]
  constructor
  · rintro ⟨reason, ⟨hvcores, rfl⟩ | ⟨hmemory, rfl⟩, rfl⟩
    · exact .inl ⟨rfl, hvcores⟩
    · exact .inr ⟨rfl, hmemory⟩
  · rintro (⟨rfl, hvcores⟩ | ⟨rfl, hmemory⟩)
    · exact ⟨_, .inl ⟨hvcores, rfl⟩, rfl⟩
    · exact ⟨_, .inr ⟨hmemory, rfl⟩, rfl⟩

/-- A target that meets the request is short of nothing. -/
theorem DescribesTarget.not_shortOf {target : SelectedTarget D}
    (h : DescribesTarget eligible target) (hmeets : MeetsShape request tier eligible.candidate)
    (hmemory : smallestSufficientMemory eligible.candidate request =
      some eligible.selectedMemoryGb) (code : SelectionReasonCode) :
    ¬ ShortOf request target code := by
  have hsufficient := (smallestSufficientMemory_eq_some hmemory).sufficient
  cases code <;> simp only [ShortOf, not_false_eq_true, not_lt, UInt32.not_lt]
  · rw [h.vcores]
    exact hmeets.vcores
  · rw [h.selectedMemoryGb]
    exact hsufficient

/-- A target below the source is a fallback, and its shortfalls are named. -/
theorem shortfall_explained (h : selectTarget catalog request = .ok selection)
    {target : SelectedTarget D} (hselected : selection.selected = some target)
    (hshort : ∃ code, ShortOf request target code) :
    selection.outcomeReasons ≠ [] ∧
      ∀ code, (∃ reason ∈ selection.outcomeReasons, reason.code = code) ↔
        ShortOf request target code := by
  obtain ⟨withoutStorage, withStorage, fallback, hfrom⟩ := selectTarget_selectedFrom h
  obtain ⟨eligible, hor, htarget⟩ := hfrom.of_selected hselected
  have hdescribes := selectedTarget_describes htarget
  obtain ⟨code, hcode⟩ := hshort
  have hnamed : ∀ code, (∃ reason ∈ selection.outcomeReasons, reason.code = code) ↔
      ShortOf request target code := by
    cases withStorage with
    | cons first rest =>
        cases hor
        obtain ⟨-, hmeets, hmemory⟩ := hfrom.mem_meetingAll rfl
        exact absurd hcode (hdescribes.not_shortOf hmeets.toMeetsShape hmemory code)
    | nil =>
        cases hor
        intro code
        rw [hfrom.reasons]
        refine (mem_capacityFallbackReasons eligible).trans ?_
        rw [← hdescribes.vcores, ← hdescribes.selectedMemoryGb]
        cases code <;> simp [ShortOf]
  refine ⟨fun hnil => ?_, hnamed⟩
  obtain ⟨reason, hreason, -⟩ := (hnamed code).mpr hcode
  simp [hnil] at hreason

theorem preferred_iff {withoutStorage : List (EligibleCandidate D)}
    (h : eligibleCandidates catalog request tier false = .ok withoutStorage) :
    Preferred catalog request tier eligible ↔ withoutStorage.head? = some eligible := by
  constructor
  · intro hpreferred
    cases hhead : withoutStorage.head? with
    | none =>
        have hnil := (sortByM_eq_nil h).mp (List.head?_eq_none_iff.mp hhead)
        have hmem := FirstLeast.mem hpreferred
        simp [hnil] at hmem
    | some first =>
        rw [(sortByM_head compareCandidates_orders h hhead).unique hpreferred]
  · exact sortByM_head compareCandidates_orders h

/-- An escalation is reported when the first choice is too small and another
configuration was selected from those large enough. -/
theorem escalation_iff (h : selectTarget catalog request = .ok selection) :
    selection.storageEscalation.isSome = true ↔
      ∃ preferred maximum target, Preferred catalog request selection.requestedTier preferred ∧
        preferred.candidate.maximumStorageGb = some maximum ∧
        value maximum < value request.requiredStorageGb ∧
        selection.selected = some target ∧
        target.configurationKey ≠ preferred.candidate.configurationKey ∧
        ∃ candidate ∈ catalog.candidates, Meets request selection.requestedTier candidate ∧
          target.configurationKey = candidate.configurationKey := by
  obtain ⟨withoutStorage, withStorage, fallback, hfrom⟩ := selectTarget_selectedFrom h
  rw [hfrom.escalation, Option.isSome_iff_exists]
  constructor
  · rintro ⟨escalation, hescalation⟩
    obtain ⟨preferred, selected, maximum, hpreferred, hhead, hkey, hmaximum, hstorage, rfl⟩ :=
      storageEscalation_eq_some.mp hescalation
    obtain ⟨hmem, hmeets, -⟩ := hfrom.mem_meetingAll hhead
    obtain ⟨target, htarget, hdescribes⟩ := hfrom.selected_head hhead
    refine ⟨preferred, maximum, target, (preferred_iff hfrom.meetingShape).mpr hpreferred,
      hmaximum, hstorage, htarget, ?_, selected.candidate, hmem, hmeets,
      hdescribes.configurationKey⟩
    rw [hdescribes.configurationKey]
    exact hkey.symm
  · rintro ⟨preferred, maximum, target, hpreferred, hmaximum, hstorage, htarget, hkey,
      candidate, hmem, hmeets, -⟩
    cases hhead : withStorage.head? with
    | none =>
        have hnil := List.head?_eq_none_iff.mp hhead
        exact absurd hmeets ((forall_not_meets hfrom.meetingAll).mp hnil candidate hmem)
    | some selected =>
        obtain ⟨found, hfound, hdescribes⟩ := hfrom.selected_head hhead
        cases htarget.symm.trans hfound
        refine ⟨_, storageEscalation_eq_some.mpr ⟨preferred, selected, maximum,
          (preferred_iff hfrom.meetingShape).mp hpreferred, hhead, ?_, hmaximum, hstorage, rfl⟩⟩
        rw [← hdescribes.configurationKey]
        exact hkey.symm

/-- Every outcome other than an ideal one is explained. -/
theorem outcome_explained (h : selectTarget catalog request = .ok selection) :
    (selection.mappingStatus = .noMapping →
      (∀ evaluation ∈ selection.candidates, evaluation.rejectionReasons ≠ []) ∧
        (selection.candidates = [] → selection.outcomeReasons ≠ [])) ∧
    (∀ target, selection.selected = some target → (∃ code, ShortOf request target code) →
      selection.outcomeReasons ≠ [] ∧
        ∀ code, (∃ reason ∈ selection.outcomeReasons, reason.code = code) ↔
          ShortOf request target code) ∧
    (selection.storageEscalation.isSome = true ↔
      ∃ preferred maximum target, Preferred catalog request selection.requestedTier preferred ∧
        preferred.candidate.maximumStorageGb = some maximum ∧
        value maximum < value request.requiredStorageGb ∧
        selection.selected = some target ∧
        target.configurationKey ≠ preferred.candidate.configurationKey ∧
        ∃ candidate ∈ catalog.candidates, Meets request selection.requestedTier candidate ∧
          target.configurationKey = candidate.configurationKey) :=
  ⟨noMapping_explained h, fun _ => shortfall_explained h, escalation_iff h⟩

/-- The escalation of the first choice, which has 512 GB where 800 are asked for. -/
theorem outcome_explained_example : ∃ selection,
    selectTarget exampleCatalog exampleRequest = .ok selection ∧
      ∃ preferred maximum target,
        Preferred exampleCatalog exampleRequest selection.requestedTier preferred ∧
        preferred.candidate.maximumStorageGb = some maximum ∧
        value maximum < value exampleRequest.requiredStorageGb ∧
        selection.selected = some target ∧
        target.configurationKey ≠ preferred.candidate.configurationKey ∧
        ∃ candidate ∈ exampleCatalog.candidates,
          Meets exampleRequest selection.requestedTier candidate ∧
          target.configurationKey = candidate.configurationKey :=
  ⟨_, eq_ok_get exampleSelection_isSome,
    (outcome_explained (eq_ok_get exampleSelection_isSome)).2.2.mp (by decide +kernel)⟩

end TcoCalculator.TargetSelector
