/-
Which candidates a SQL target request permits, and which of these meet it.
-/
import TcoCalculator.Calculation.TargetRank

namespace TcoCalculator.TargetSelector

open DecimalArith Fallible Sorting

variable {D : Type} [DecimalArith D] {request : TargetSelectionRequest D} {tier : ServiceTier}
  {candidate : TargetCandidate D} {eligible : EligibleCandidate D}

/-! ### Requirements -/

/-- The candidate is of the region and tier, of one zone, and on hardware that
the request allows. -/
structure Permitted (request : TargetSelectionRequest D) (tier : ServiceTier)
    (candidate : TargetCandidate D) : Prop where
  region : candidate.azureRegion = request.azureRegion
  serviceTier : candidate.serviceTier = tier
  zoneRedundant : candidate.zoneRedundant = false
  hardware : request.workbookParityMode = true → tier = .nextGenerationGeneralPurpose →
    candidate.hardwareFamily = "Premium Series" ∨
      candidate.hardwareFamily = "Premium Series Memory Optimized"

/-- It also has the vCores and the memory of the source. -/
structure MeetsShape (request : TargetSelectionRequest D) (tier : ServiceTier)
    (candidate : TargetCandidate D) : Prop extends Permitted request tier candidate where
  vcores : request.sourceVcpu ≤ candidate.vcores
  memory : ∃ memory ∈ candidate.supportedMemoryGb, value request.sourceMemoryGb ≤ value memory

def HasStorage (request : TargetSelectionRequest D) (candidate : TargetCandidate D) : Prop :=
  ∀ maximum, candidate.maximumStorageGb = some maximum →
    value request.requiredStorageGb ≤ value maximum

/-- The candidate meets the request in everything. -/
structure Meets (request : TargetSelectionRequest D) (tier : ServiceTier)
    (candidate : TargetCandidate D) : Prop extends MeetsShape request tier candidate where
  storage : HasStorage request candidate

/-- The memory is the least supported one not below the source's. -/
structure LeastSufficient (request : TargetSelectionRequest D) (candidate : TargetCandidate D)
    (memory : D) : Prop where
  supported : memory ∈ candidate.supportedMemoryGb
  sufficient : value request.sourceMemoryGb ≤ value memory
  least : ∀ other ∈ candidate.supportedMemoryGb, value request.sourceMemoryGb ≤ value other →
    value memory ≤ value other

theorem smallestSufficientMemory_eq_some {memory : D}
    (h : smallestSufficientMemory candidate request = some memory) :
    LeastSufficient request candidate memory := by
  obtain ⟨hmem, hleast⟩ := minimum?_eq_some h
  obtain ⟨hsupported, hsufficient⟩ := List.mem_filter.mp hmem
  refine ⟨hsupported, of_decide_eq_true hsufficient, fun other hother hother' => ?_⟩
  exact hleast other (List.mem_filter.mpr ⟨hother, decide_eq_true hother'⟩)

theorem smallestSufficientMemory_eq_none : smallestSufficientMemory candidate request = none ↔
    ∀ memory ∈ candidate.supportedMemoryGb, value memory < value request.sourceMemoryGb := by
  simp [smallestSufficientMemory]

theorem smallestSufficientMemory_isNone : (smallestSufficientMemory candidate request).isNone =
    false ↔ ∃ memory ∈ candidate.supportedMemoryGb,
      value request.sourceMemoryGb ≤ value memory := by
  rw [← Bool.not_eq_true, Option.isNone_iff_eq_none, smallestSufficientMemory_eq_none]
  simp

/-! ### Reasons -/

@[simp] theorem reasonWhen_eq_nil {rejected : Bool} {code : SelectionReasonCode}
    {detail : String} : reasonWhen rejected code detail = [] ↔ rejected = false := by
  cases rejected <;> simp [reasonWhen]

@[simp] theorem any_reasonWhen {rejected : Bool} {code : SelectionReasonCode} {detail : String}
    {p : SelectionReason → Bool} :
    (reasonWhen rejected code detail).any p = (rejected && p ⟨code, detail⟩) := by
  cases rejected <;> simp [reasonWhen]

@[simp] theorem mem_reasonWhen {rejected : Bool} {code : SelectionReasonCode} {detail : String}
    {reason : SelectionReason} :
    reason ∈ reasonWhen rejected code detail ↔ rejected = true ∧ reason = ⟨code, detail⟩ := by
  cases rejected <;> simp [reasonWhen]

omit [DecimalArith D] in
/-- The hardware check of a request. -/
theorem hardware_allowed_iff : (request.workbookParityMode &&
    tier == .nextGenerationGeneralPurpose && !(candidate.hardwareFamily == "Premium Series" ||
      candidate.hardwareFamily == "Premium Series Memory Optimized")) = false ↔
    (request.workbookParityMode = true → tier = .nextGenerationGeneralPurpose →
      candidate.hardwareFamily = "Premium Series" ∨
        candidate.hardwareFamily = "Premium Series Memory Optimized") := by
  rw [← Bool.not_eq_true]
  simp only [Bool.and_eq_true, Bool.not_eq_true', Bool.or_eq_false_iff, beq_iff_eq,
    beq_eq_false_iff_ne]
  tauto

theorem storage_allowed_iff {enforceStorage : Bool} :
    (enforceStorage && candidate.maximumStorageGb.any fun maximum =>
      decide (value maximum < value request.requiredStorageGb)) = false ↔
    (enforceStorage = true → HasStorage request candidate) := by
  cases enforceStorage with
  | false => simp
  | true =>
      cases hmaximum : candidate.maximumStorageGb with
      | none => simp [HasStorage, hmaximum]
      | some maximum => simp [HasStorage, hmaximum]

/-- A candidate of the region and tier has no reason against it when it meets
the request. -/
theorem evaluateCandidate_reasons_eq_nil (enforceStorage : Bool)
    (hregion : candidate.azureRegion = request.azureRegion) (htier : candidate.serviceTier = tier) :
    (evaluateCandidate candidate request tier enforceStorage).2 = [] ↔
      MeetsShape request tier candidate ∧ (enforceStorage = true → HasStorage request candidate) := by
  unfold evaluateCandidate
  rw [if_neg (by simp [hregion, htier])]
  simp only [List.append_eq_nil_iff, reasonWhen_eq_nil, hardware_allowed_iff,
    storage_allowed_iff, smallestSufficientMemory_isNone, decide_eq_false_iff_not,
    UInt32.not_lt]
  constructor
  · rintro ⟨⟨⟨⟨hzone, hhardware⟩, hvcores⟩, hmemory⟩, hstorage⟩
    exact ⟨⟨⟨hregion, htier, hzone, hhardware⟩, hvcores, hmemory⟩, hstorage⟩
  · rintro ⟨hshape, hstorage⟩
    exact ⟨⟨⟨⟨hshape.zoneRedundant, hshape.hardware⟩, hshape.vcores⟩, hshape.memory⟩, hstorage⟩

/-- Without storage the reasons other than capacity are zone and hardware. -/
theorem evaluateCandidate_capacity_only (hregion : candidate.azureRegion = request.azureRegion)
    (htier : candidate.serviceTier = tier) :
    ((evaluateCandidate candidate request tier false).2.any fun reason =>
      !isCapacityReason reason) = false ↔ Permitted request tier candidate := by
  unfold evaluateCandidate
  rw [if_neg (by simp [hregion, htier])]
  have hzone : isCapacityReason ⟨.zoneRedundancyUnsupported,
      "Zone-redundant targets are not eligible in v1."⟩ = false := rfl
  have hhardware : isCapacityReason ⟨.hardwareFamilyUnsupported,
      "Workbook-parity NGGP selection requires Premium-series hardware."⟩ = false := rfl
  have hvcores : ∀ detail, isCapacityReason ⟨.insufficientVcores, detail⟩ = true := fun _ => rfl
  have hmemory : ∀ detail, isCapacityReason ⟨.insufficientMemory, detail⟩ = true := fun _ => rfl
  simp only [List.any_append, any_reasonWhen, hzone, hhardware, hvcores, hmemory, Bool.not_false,
    Bool.not_true, Bool.and_true, Bool.and_false, Bool.false_and, Bool.or_false,
    Bool.or_eq_false_iff, hardware_allowed_iff]
  exact ⟨fun h => ⟨hregion, htier, h.1, h.2⟩, fun h => ⟨h.zoneRedundant, h.hardware⟩⟩

/-! ### Candidates -/

theorem eligibleCandidate_eq_some {enforceStorage : Bool} :
    eligibleCandidate request tier enforceStorage candidate = some eligible ↔
      eligible.candidate = candidate ∧ MeetsShape request tier candidate ∧
        (enforceStorage = true → HasStorage request candidate) ∧
        smallestSufficientMemory candidate request = some eligible.selectedMemoryGb := by
  unfold eligibleCandidate
  by_cases hscope : candidate.azureRegion = request.azureRegion ∧ candidate.serviceTier = tier
  · obtain ⟨hregion, htier⟩ := hscope
    have hmemory : (evaluateCandidate candidate request tier enforceStorage).1 =
        smallestSufficientMemory candidate request := by
      unfold evaluateCandidate
      rw [if_neg (by simp [hregion, htier])]
    have hreasons := evaluateCandidate_reasons_eq_nil enforceStorage hregion htier
    simp only [hmemory, List.isEmpty_iff]
    split
    · rename_i hnil
      obtain ⟨hshape, hstorage⟩ := hreasons.mp hnil
      rw [Option.map_eq_some_iff]
      constructor
      · rintro ⟨memory, hsome, rfl⟩
        exact ⟨rfl, hshape, hstorage, hsome⟩
      · rintro ⟨rfl, -, -, hsome⟩
        exact ⟨_, hsome, rfl⟩
    · rename_i hnil
      constructor
      · intro h
        cases h
      · rintro ⟨-, hshape, hstorage, -⟩
        exact absurd (hreasons.mpr ⟨hshape, hstorage⟩) hnil
  · have hnone : evaluateCandidate candidate request tier enforceStorage = (none, []) := by
      unfold evaluateCandidate
      rw [if_pos (by tauto)]
    rw [hnone]
    constructor
    · intro h
      cases h
    · rintro ⟨-, hshape, -⟩
      exact absurd ⟨hshape.region, hshape.serviceTier⟩ hscope

/-- The memory a candidate stands for when none is sufficient. -/
def closestMemory (candidate : TargetCandidate D) (request : TargetSelectionRequest D) :
    Option D :=
  (smallestSufficientMemory candidate request).orElse fun _ =>
    maximum? candidate.supportedMemoryGb

theorem capacityCandidate_eq_some : capacityCandidate request tier candidate = some eligible ↔
    eligible.candidate = candidate ∧ Permitted request tier candidate ∧
      closestMemory candidate request = some eligible.selectedMemoryGb := by
  unfold capacityCandidate
  by_cases hscope : candidate.azureRegion = request.azureRegion ∧ candidate.serviceTier = tier
  · obtain ⟨hregion, htier⟩ := hscope
    have hpermitted := evaluateCandidate_capacity_only hregion htier
    rw [if_neg (by simp [hregion, htier])]
    dsimp only
    split
    · rename_i hany
      constructor
      · intro h
        cases h
      · rintro ⟨-, h, -⟩
        rw [hpermitted.mpr h] at hany
        cases hany
    · rename_i hany
      have h := hpermitted.mp (Bool.not_eq_true _ ▸ hany)
      rw [Option.map_eq_some_iff]
      constructor
      · rintro ⟨memory, hsome, rfl⟩
        exact ⟨rfl, h, hsome⟩
      · rintro ⟨rfl, -, hsome⟩
        exact ⟨_, hsome, rfl⟩
  · rw [if_pos (by tauto)]
    constructor
    · intro h
      cases h
    · rintro ⟨-, h, -⟩
      exact absurd ⟨h.region, h.serviceTier⟩ hscope

/-- The memory of a candidate reaches the source if any supported one does. -/
theorem closestMemory_spec {memory : D} (h : closestMemory candidate request = some memory) :
    memory ∈ candidate.supportedMemoryGb ∧ ∀ other ∈ candidate.supportedMemoryGb,
      value memory < value request.sourceMemoryGb → value other ≤ value memory := by
  unfold closestMemory at h
  cases hsufficient : smallestSufficientMemory candidate request with
  | some least =>
      rw [hsufficient] at h
      cases h
      have hleast := smallestSufficientMemory_eq_some hsufficient
      exact ⟨hleast.supported, fun _ _ hlt => absurd hleast.sufficient hlt.not_ge⟩
  | none =>
      rw [hsufficient] at h
      obtain ⟨hmem, hgreatest⟩ := maximum?_eq_some h
      exact ⟨hmem, fun other hother _ => hgreatest other hother⟩

theorem exists_closestMemory (request : TargetSelectionRequest D)
    (h : candidate.supportedMemoryGb ≠ []) :
    ∃ memory, closestMemory candidate request = some memory := by
  unfold closestMemory
  cases smallestSufficientMemory candidate request with
  | some least => exact ⟨least, rfl⟩
  | none =>
      exact Option.ne_none_iff_exists'.mp fun hnone => h (maximum?_eq_none.mp hnone)

end TcoCalculator.TargetSelector
