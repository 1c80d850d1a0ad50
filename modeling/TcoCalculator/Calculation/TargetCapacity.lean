/-
When the target for a source beyond the catalog gives up capacity that the
catalog has.
-/
import TcoCalculator.Calculation.TargetOutcome

namespace TcoCalculator.TargetSelector

open DecimalArith Fallible Halt Sorting

variable {D : Type} [DecimalArith D] {catalog : CapabilityCatalog D}
  {request : TargetSelectionRequest D} {tier : ServiceTier} {selection : TargetSelection D}
  {eligible other : EligibleCandidate D}

/-! ### Configurations on offer -/

/-- The permitted candidates, each with its closest memory. -/
def permitted (catalog : CapabilityCatalog D) (request : TargetSelectionRequest D)
    (tier : ServiceTier) : List (EligibleCandidate D) :=
  catalog.candidates.filterMap (capacityCandidate request tier)

/-- Those of them with enough storage. -/
def offered (catalog : CapabilityCatalog D) (request : TargetSelectionRequest D)
    (tier : ServiceTier) : List (EligibleCandidate D) :=
  (permitted catalog request tier).filter fun candidate =>
    candidate.candidate.maximumStorageGb.all fun maximum =>
      value request.requiredStorageGb ≤ value maximum

theorem mem_permitted : eligible ∈ permitted catalog request tier ↔
    eligible.candidate ∈ catalog.candidates ∧ Permitted request tier eligible.candidate ∧
      closestMemory eligible.candidate request = some eligible.selectedMemoryGb := by
  unfold permitted
  rw [List.mem_filterMap]
  constructor
  · rintro ⟨candidate, hmem, hcapacity⟩
    obtain ⟨rfl, hrest⟩ := capacityCandidate_eq_some.mp hcapacity
    exact ⟨hmem, hrest⟩
  · rintro ⟨hmem, hrest⟩
    exact ⟨eligible.candidate, hmem, capacityCandidate_eq_some.mpr ⟨rfl, hrest⟩⟩

theorem mem_offered : eligible ∈ offered catalog request tier ↔
    eligible ∈ permitted catalog request tier ∧ HasStorage request eligible.candidate := by
  unfold offered HasStorage
  rw [List.mem_filter]
  cases eligible.candidate.maximumStorageGb <;> simp

/-- What the source asks for in a dimension is not on offer: no permitted
candidate that has a memory and enough storage reaches it. -/
def NotOffered (catalog : CapabilityCatalog D) (request : TargetSelectionRequest D)
    (tier : ServiceTier) : SelectionReasonCode → Prop
  | .insufficientVcores => ∀ candidate ∈ catalog.candidates, Permitted request tier candidate →
      HasStorage request candidate → candidate.supportedMemoryGb ≠ [] →
      candidate.vcores < request.sourceVcpu
  | .insufficientMemory => ∀ candidate ∈ catalog.candidates, Permitted request tier candidate →
      HasStorage request candidate → ∀ memory ∈ candidate.supportedMemoryGb,
      value memory < value request.sourceMemoryGb
  | _ => True

theorem notOffered_vcores : NotOffered catalog request tier .insufficientVcores ↔
    ∀ eligible ∈ offered catalog request tier,
      eligible.candidate.vcores < request.sourceVcpu := by
  constructor
  · intro h eligible hmem
    obtain ⟨hpermitted, hstorage⟩ := mem_offered.mp hmem
    obtain ⟨hlisted, hallowed, hmemory⟩ := mem_permitted.mp hpermitted
    exact h _ hlisted hallowed hstorage (List.ne_nil_of_mem (closestMemory_spec hmemory).1)
  · intro h candidate hlisted hallowed hstorage hsome
    obtain ⟨memory, hmemory⟩ := exists_closestMemory request hsome
    exact h ⟨candidate, memory⟩
      (mem_offered.mpr ⟨mem_permitted.mpr ⟨hlisted, hallowed, hmemory⟩, hstorage⟩)

theorem notOffered_memory : NotOffered catalog request tier .insufficientMemory ↔
    ∀ eligible ∈ offered catalog request tier,
      value eligible.selectedMemoryGb < value request.sourceMemoryGb := by
  constructor
  · intro h eligible hmem
    obtain ⟨hpermitted, hstorage⟩ := mem_offered.mp hmem
    obtain ⟨hlisted, hallowed, hmemory⟩ := mem_permitted.mp hpermitted
    exact h _ hlisted hallowed hstorage _ (closestMemory_spec hmemory).1
  · intro h candidate hlisted hallowed hstorage memory hmemory
    obtain ⟨closest, hclosest⟩ :=
      exists_closestMemory request (List.ne_nil_of_mem hmemory)
    have hshort : value closest < value request.sourceMemoryGb := h ⟨candidate, closest⟩
      (mem_offered.mpr ⟨mem_permitted.mpr ⟨hlisted, hallowed, hclosest⟩, hstorage⟩)
    exact ((closestMemory_spec hclosest).2 memory hmemory hshort).trans_lt hshort

/-! ### What is out of reach -/

/-- No permitted candidate has the vCores of the source. -/
def VcoresOutOfReach (catalog : CapabilityCatalog D) (request : TargetSelectionRequest D)
    (tier : ServiceTier) : Prop :=
  ∀ eligible ∈ permitted catalog request tier, eligible.candidate.vcores < request.sourceVcpu

/-- No permitted candidate has the memory of the source. -/
def MemoryOutOfReach (catalog : CapabilityCatalog D) (request : TargetSelectionRequest D)
    (tier : ServiceTier) : Prop :=
  ∀ eligible ∈ permitted catalog request tier,
    value eligible.selectedMemoryGb < value request.sourceMemoryGb

/-- Nearer to the source: in vCores, then in memory, then by key and place. -/
def Nearer (catalog : CapabilityCatalog D) (request : TargetSelectionRequest D)
    (tier : ServiceTier) (eligible other : EligibleCandidate D) : Prop :=
  let distance (eligible : EligibleCandidate D) :=
    natDistance eligible.candidate.vcores.toNat request.sourceVcpu.toNat
  distance eligible < distance other ∨ distance eligible = distance other ∧
    ∃ near far, decimalDistance eligible.selectedMemoryGb request.sourceMemoryGb = .ok near ∧
      decimalDistance other.selectedMemoryGb request.sourceMemoryGb = .ok far ∧
      (value near < value far ∨ value near = value far ∧
        (eligible.candidate.configurationKey < other.candidate.configurationKey ∨
          eligible.candidate.configurationKey = other.candidate.configurationKey ∧
          Before (offered catalog request tier) eligible other))

def LargestVcores (catalog : CapabilityCatalog D) (request : TargetSelectionRequest D)
    (tier : ServiceTier) (eligible : EligibleCandidate D) : Prop :=
  ∀ other ∈ offered catalog request tier,
    other.candidate.vcores.toNat ≤ eligible.candidate.vcores.toNat

def LargestMemory (catalog : CapabilityCatalog D) (request : TargetSelectionRequest D)
    (tier : ServiceTier) (eligible : EligibleCandidate D) : Prop :=
  ∀ other ∈ offered catalog request tier,
    value other.selectedMemoryGb ≤ value eligible.selectedMemoryGb

/-- Where one dimension alone is out of reach and the other is on offer, the
largest in the first that reach the second stand nearer than those that do not. -/
structure NearestReaches (catalog : CapabilityCatalog D) (request : TargetSelectionRequest D)
    (tier : ServiceTier) : Prop where
  memory : VcoresOutOfReach catalog request tier → ¬ MemoryOutOfReach catalog request tier →
    (∃ eligible ∈ offered catalog request tier,
      value request.sourceMemoryGb ≤ value eligible.selectedMemoryGb) →
    ∃ eligible ∈ offered catalog request tier, LargestVcores catalog request tier eligible ∧
      value request.sourceMemoryGb ≤ value eligible.selectedMemoryGb ∧
      ∀ other ∈ offered catalog request tier, LargestVcores catalog request tier other →
        value other.selectedMemoryGb < value request.sourceMemoryGb →
        Nearer catalog request tier eligible other
  vcores : MemoryOutOfReach catalog request tier → ¬ VcoresOutOfReach catalog request tier →
    (∃ eligible ∈ offered catalog request tier,
      request.sourceVcpu ≤ eligible.candidate.vcores) →
    ∃ eligible ∈ offered catalog request tier, LargestMemory catalog request tier eligible ∧
      request.sourceVcpu ≤ eligible.candidate.vcores ∧
      ∀ other ∈ offered catalog request tier, LargestMemory catalog request tier other →
        other.candidate.vcores < request.sourceVcpu →
        Nearer catalog request tier eligible other

/-! ### The fallback -/

/-- The fallback is the first of the least by the order for what is out of reach. -/
theorem closest_firstLeast
    (h : closestCapacityCandidate catalog request tier true = .ok (some eligible)) :
    ∃ cpu memory : Bool, (cpu = true ↔ VcoresOutOfReach catalog request tier) ∧
      (memory = true ↔ MemoryOutOfReach catalog request tier) ∧ (cpu || memory) = true ∧
      FirstLeast (compareCapacity request cpu memory) eligible (offered catalog request tier) := by
  unfold closestCapacityCandidate at h
  dsimp only at h
  split at h
  · rename_i maximumVcores maximumMemoryGb hvcores hmemory
    split at h
    · cases h
    · rename_i hexceeded
      obtain ⟨sorted, hsorted, hhead⟩ := bind_eq_ok.mp h
      obtain ⟨hvcoresMem, hvcoresMax⟩ := List.max?_eq_some_iff.mp hvcores
      obtain ⟨hmemoryMem, hmemoryMax⟩ := maximum?_eq_some hmemory
      refine ⟨_, _, ?_, ?_, ?_, sortByM_head (compareCapacity_byKeys _ _).orders hsorted
        (Except.ok.inj hhead)⟩
      · rw [decide_eq_true_eq]
        constructor
        · intro hlt eligible hmem
          have hle := hvcoresMax _ (List.mem_map_of_mem hmem)
          exact UInt32.lt_iff_toNat_lt.mpr (hle.trans_lt hlt)
        · intro hout
          obtain ⟨largest, hlargest, heq⟩ := List.mem_map.mp hvcoresMem
          exact heq ▸ UInt32.lt_iff_toNat_lt.mp (hout largest hlargest)
      · rw [decide_eq_true_eq]
        constructor
        · intro hlt eligible hmem
          exact (hmemoryMax _ (List.mem_map_of_mem hmem)).trans_lt hlt
        · intro hout
          obtain ⟨largest, hlargest, heq⟩ := List.mem_map.mp hmemoryMem
          exact heq ▸ hout largest hlargest
      · cases hcpu : decide (maximumVcores < request.sourceVcpu.toNat) <;>
          cases hmem : decide (value maximumMemoryGb < value request.sourceMemoryGb) <;>
          simp_all
  · cases h

section Order

variable {cpu memory : Bool}

/-- What the order looks at first. -/
def lead (cpu memory : Bool) (eligible : EligibleCandidate D) : ℕ × ℚ :=
  (if cpu then eligible.candidate.vcores.toNat else 0,
    if memory then value eligible.selectedMemoryGb else 0)

def vcoreDistance (request : TargetSelectionRequest D) (eligible : EligibleCandidate D) : ℕ :=
  natDistance eligible.candidate.vcores.toNat request.sourceVcpu.toNat

theorem capacityKey_lt_iff (h : lead cpu memory eligible = lead cpu memory other) :
    capacityKey request cpu memory eligible < capacityKey request cpu memory other ↔
      vcoreDistance request eligible < vcoreDistance request other := by
  have hkey : ∀ eligible : EligibleCandidate D, capacityKey request cpu memory eligible =
      toLex (OrderDual.toDual (lead cpu memory eligible).1,
        toLex (OrderDual.toDual (lead cpu memory eligible).2, vcoreDistance request eligible)) :=
    fun _ => rfl
  rw [hkey, hkey, h]
  simp [Prod.Lex.toLex_lt_toLex]

theorem capacityKey_eq_iff (h : lead cpu memory eligible = lead cpu memory other) :
    capacityKey request cpu memory eligible = capacityKey request cpu memory other ↔
      vcoreDistance request eligible = vcoreDistance request other := by
  have hkey : ∀ eligible : EligibleCandidate D, capacityKey request cpu memory eligible =
      toLex (OrderDual.toDual (lead cpu memory eligible).1,
        toLex (OrderDual.toDual (lead cpu memory eligible).2, vcoreDistance request eligible)) :=
    fun _ => rfl
  rw [hkey, hkey, h]
  simp

theorem closenessKey_eq_ok {key : ℚ ×ₗ String} : closenessKey request eligible = .ok key ↔
    ∃ distance, decimalDistance eligible.selectedMemoryGb request.sourceMemoryGb = .ok distance ∧
      key = toLex (value distance, eligible.candidate.configurationKey) := by
  unfold closenessKey
  rw [bind_eq_ok]
  exact exists_congr fun distance => and_congr_right fun _ => by
    rw [pure_eq_ok, Except.ok.injEq, eq_comm]

/-- Nearer in what the order looks at last, and otherwise before it. -/
theorem nearer_iff (h : lead cpu memory eligible = lead cpu memory other) :
    Nearer catalog request tier eligible other ↔
      compareCapacity request cpu memory other eligible = .ok .gt ∨
        capacityKey request cpu memory eligible = capacityKey request cpu memory other ∧
          (∃ key, closenessKey request eligible = .ok key ∧
            closenessKey request other = .ok key) ∧
          Before (offered catalog request tier) eligible other := by
  rw [(compareCapacity_byKeys cpu memory).gt_iff, capacityKey_lt_iff h, capacityKey_eq_iff h.symm,
    capacityKey_eq_iff h]
  simp only [closenessKey_eq_ok]
  constructor
  · rintro (hlt | ⟨heq, near, far, hnear, hfar, hlt | ⟨hvalue, hkey | ⟨hkey, hbefore⟩⟩⟩)
    · exact .inl (.inl hlt)
    · refine .inl (.inr ⟨heq.symm, _, _, ⟨far, hfar, rfl⟩, ⟨near, hnear, rfl⟩, ?_⟩)
      exact Prod.Lex.toLex_lt_toLex.mpr (.inl hlt)
    · refine .inl (.inr ⟨heq.symm, _, _, ⟨far, hfar, rfl⟩, ⟨near, hnear, rfl⟩, ?_⟩)
      exact Prod.Lex.toLex_lt_toLex.mpr (.inr ⟨hvalue, hkey⟩)
    · exact .inr ⟨heq, ⟨_, ⟨near, hnear, rfl⟩, far, hfar, by rw [hvalue, hkey]⟩, hbefore⟩
  · rintro ((hlt | ⟨heq, _, _, ⟨far, hfar, rfl⟩, ⟨near, hnear, rfl⟩, hlt⟩) |
      ⟨heq, ⟨_, ⟨near, hnear, rfl⟩, far, hfar, hkey⟩, hbefore⟩)
    · exact .inl hlt
    · refine .inr ⟨heq.symm, near, far, hnear, hfar, ?_⟩
      rcases Prod.Lex.toLex_lt_toLex.mp hlt with hlt | ⟨hvalue, hkey⟩
      · exact .inl hlt
      · exact .inr ⟨hvalue, .inl hkey⟩
    · have hparts := Prod.mk.inj (toLex.injective hkey)
      exact .inr ⟨heq, near, far, hnear, hfar, .inr ⟨hparts.1, .inr ⟨hparts.2, hbefore⟩⟩⟩

theorem first_nearer
    (h : FirstLeast (compareCapacity request cpu memory) eligible (offered catalog request tier))
    (hlead : lead cpu memory eligible = lead cpu memory other) (hne : other ≠ eligible)
    (hmem : other ∈ offered catalog request tier) : Nearer catalog request tier eligible other := by
  have hkeys : ByKeys (compareCapacity request cpu memory) _ _ := compareCapacity_byKeys cpu memory
  rw [nearer_iff hlead]
  rcases h.cases hkeys.orders hmem with heq | hgt | ⟨hnoLater, hbefore⟩
  · exact absurd heq hne
  · exact .inl hgt
  · rcases hkeys.noLater_iff_gt.mp hnoLater with hgt | ⟨hfirst, hrest⟩
    · exact .inl hgt
    · exact .inr ⟨hfirst, hrest, hbefore⟩

theorem Nearer.asymm (hlead : lead cpu memory eligible = lead cpu memory other)
    (hne : eligible ≠ other) (h : Nearer catalog request tier eligible other) :
    ¬ Nearer catalog request tier other eligible := by
  have hkeys : ByKeys (compareCapacity request cpu memory) _ _ := compareCapacity_byKeys cpu memory
  have hconflict : ∀ {left right : EligibleCandidate D},
      compareCapacity request cpu memory left right = .ok .gt →
      ¬ NoLater (compareCapacity request cpu memory) left right := by
    rintro left right hgt ⟨order, horder, hnot⟩
    cases hgt.symm.trans horder
    exact hnot rfl
  intro h'
  rw [nearer_iff hlead] at h
  rw [nearer_iff hlead.symm] at h'
  rcases h with hgt | ⟨hfirst, ⟨key, hkey, hkey'⟩, hbefore⟩
  · apply hconflict hgt
    rcases h' with hgt' | ⟨hfirst, ⟨key, hkey, hkey'⟩, -⟩
    · exact hkeys.orders.swap _ _ hgt'
    · exact hkeys.noLater_iff_gt.mpr (.inr ⟨hfirst, key, hkey, hkey'⟩)
  · rcases h' with hgt' | ⟨-, -, hbefore'⟩
    · exact hconflict hgt' (hkeys.noLater_iff_gt.mpr (.inr ⟨hfirst, key, hkey, hkey'⟩))
    · exact hbefore.asymm hne hbefore'

theorem capacityKey_le
    (h : FirstLeast (compareCapacity request cpu memory) eligible (offered catalog request tier))
    (hmem : other ∈ offered catalog request tier) :
    capacityKey request cpu memory eligible ≤ capacityKey request cpu memory other := by
  have hkeys : ByKeys (compareCapacity request cpu memory) _ _ := compareCapacity_byKeys cpu memory
  rcases h.noLater hkeys.orders other hmem with rfl | hnoLater
  · exact le_rfl
  · exact (hkeys.noLater_iff.mp hnoLater).elim le_of_lt fun h => h.1.le

theorem largestVcores_of_first
    (h : FirstLeast (compareCapacity request true memory) eligible
      (offered catalog request tier)) : LargestVcores catalog request tier eligible := by
  intro other hmem
  have hle := capacityKey_le h hmem
  simp only [capacityKey, if_true, Prod.Lex.toLex_le_toLex] at hle
  rcases hle with hlt | ⟨heq, -⟩
  · exact (OrderDual.toDual_lt_toDual.mp hlt).le
  · exact (OrderDual.toDual_inj.mp heq).ge

theorem largestMemory_of_first
    (h : FirstLeast (compareCapacity request false true) eligible
      (offered catalog request tier)) : LargestMemory catalog request tier eligible := by
  intro other hmem
  have hle := capacityKey_le h hmem
  simp only [capacityKey, if_true, Bool.false_eq_true, if_false, Prod.Lex.toLex_le_toLex,
    lt_irrefl, true_and, false_or] at hle
  rcases hle with hlt | ⟨heq, -⟩
  · exact (OrderDual.toDual_lt_toDual.mp hlt).le
  · exact (OrderDual.toDual_inj.mp heq).ge

theorem lead_eq_of_largestVcores (hmem : eligible ∈ offered catalog request tier)
    (hmem' : other ∈ offered catalog request tier)
    (h : LargestVcores catalog request tier eligible)
    (h' : LargestVcores catalog request tier other) :
    lead true false eligible = lead true false other := by
  simp [lead, le_antisymm (h' eligible hmem) (h other hmem')]

theorem lead_eq_of_largestMemory (hmem : eligible ∈ offered catalog request tier)
    (hmem' : other ∈ offered catalog request tier)
    (h : LargestMemory catalog request tier eligible)
    (h' : LargestMemory catalog request tier other) :
    lead false true eligible = lead false true other := by
  simp [lead, le_antisymm (h' eligible hmem) (h other hmem')]

end Order

/-! ### What the fallback gives up -/

/-- The candidate falls short only of what is not on offer. -/
structure KeepsCapacity (catalog : CapabilityCatalog D) (request : TargetSelectionRequest D)
    (tier : ServiceTier) (eligible : EligibleCandidate D) : Prop where
  vcores : eligible.candidate.vcores < request.sourceVcpu →
    ∀ other ∈ offered catalog request tier, other.candidate.vcores < request.sourceVcpu
  memory : value eligible.selectedMemoryGb < value request.sourceMemoryGb →
    ∀ other ∈ offered catalog request tier,
      value other.selectedMemoryGb < value request.sourceMemoryGb

theorem vcores_offered_lt (h : VcoresOutOfReach catalog request tier) :
    ∀ other ∈ offered catalog request tier, other.candidate.vcores < request.sourceVcpu :=
  fun other hmem => h other (mem_offered.mp hmem).1

theorem memory_offered_lt (h : MemoryOutOfReach catalog request tier) :
    ∀ other ∈ offered catalog request tier,
      value other.selectedMemoryGb < value request.sourceMemoryGb :=
  fun other hmem => h other (mem_offered.mp hmem).1

theorem keepsCapacity_vcores_out
    (h : FirstLeast (compareCapacity request true false) eligible (offered catalog request tier))
    (hvcores : VcoresOutOfReach catalog request tier)
    (hmemory : ¬ MemoryOutOfReach catalog request tier) :
    KeepsCapacity catalog request tier eligible ↔ NearestReaches catalog request tier := by
  have hlargest := largestVcores_of_first h
  constructor
  · intro hkeeps
    refine ⟨fun _ _ ⟨other, hother, hreaches⟩ => ?_, fun hout => absurd hout hmemory⟩
    have hsufficient : value request.sourceMemoryGb ≤ value eligible.selectedMemoryGb :=
      not_lt.mp fun hshort => (hkeeps.memory hshort other hother).not_ge hreaches
    refine ⟨eligible, h.mem, hlargest, hsufficient, fun short hshortMem hshortLargest hshort => ?_⟩
    apply first_nearer h (lead_eq_of_largestVcores h.mem hshortMem hlargest hshortLargest) _
      hshortMem
    rintro rfl
    exact hshort.not_ge hsufficient
  · intro hnearest
    refine ⟨fun _ => vcores_offered_lt hvcores, fun hshort other hother => ?_⟩
    by_contra hreaches
    obtain ⟨nearest, hmem, hnearestLargest, hsufficient, hnearer⟩ :=
      hnearest.memory hvcores hmemory ⟨other, hother, not_lt.mp hreaches⟩
    have hlead := lead_eq_of_largestVcores h.mem hmem hlargest hnearestLargest
    have hne : nearest ≠ eligible := by
      rintro rfl
      exact hshort.not_ge hsufficient
    exact (first_nearer h hlead hne hmem).asymm hlead hne.symm
      (hnearer eligible h.mem hlargest hshort)

theorem keepsCapacity_memory_out
    (h : FirstLeast (compareCapacity request false true) eligible (offered catalog request tier))
    (hvcores : ¬ VcoresOutOfReach catalog request tier)
    (hmemory : MemoryOutOfReach catalog request tier) :
    KeepsCapacity catalog request tier eligible ↔ NearestReaches catalog request tier := by
  have hlargest := largestMemory_of_first h
  constructor
  · intro hkeeps
    refine ⟨fun hout => absurd hout hvcores, fun _ _ ⟨other, hother, hreaches⟩ => ?_⟩
    have hsufficient : request.sourceVcpu ≤ eligible.candidate.vcores :=
      UInt32.not_lt.mp fun hshort =>
        UInt32.not_lt.mpr hreaches (hkeeps.vcores hshort other hother)
    refine ⟨eligible, h.mem, hlargest, hsufficient, fun short hshortMem hshortLargest hshort => ?_⟩
    apply first_nearer h (lead_eq_of_largestMemory h.mem hshortMem hlargest hshortLargest) _
      hshortMem
    rintro rfl
    exact UInt32.not_lt.mpr hsufficient hshort
  · intro hnearest
    refine ⟨fun hshort other hother => ?_, fun _ => memory_offered_lt hmemory⟩
    by_contra hreaches
    obtain ⟨nearest, hmem, hnearestLargest, hsufficient, hnearer⟩ :=
      hnearest.vcores hmemory hvcores ⟨other, hother, UInt32.not_lt.mp hreaches⟩
    have hlead := lead_eq_of_largestMemory h.mem hmem hlargest hnearestLargest
    have hne : nearest ≠ eligible := by
      rintro rfl
      exact UInt32.not_lt.mpr hsufficient hshort
    exact (first_nearer h hlead hne hmem).asymm hlead hne.symm
      (hnearer eligible h.mem hlargest hshort)

theorem keepsCapacity_iff
    (h : closestCapacityCandidate catalog request tier true = .ok (some eligible)) :
    KeepsCapacity catalog request tier eligible ↔ NearestReaches catalog request tier := by
  obtain ⟨cpu, memory, hcpu, hmemory, hexceeded, hfirst⟩ := closest_firstLeast h
  rcases cpu with _ | _
  · rcases memory with _ | _
    · cases hexceeded
    · exact keepsCapacity_memory_out hfirst (by simpa using hcpu) (hmemory.mp rfl)
  · rcases memory with _ | _
    · exact keepsCapacity_vcores_out hfirst (hcpu.mp rfl) (by simpa using hmemory)
    · have hvcoresOut := hcpu.mp rfl
      have hmemoryOut := hmemory.mp rfl
      exact ⟨fun _ => ⟨fun _ hout => absurd hmemoryOut hout, fun _ hout => absurd hvcoresOut hout⟩,
        fun _ => ⟨fun _ => vcores_offered_lt hvcoresOut, fun _ => memory_offered_lt hmemoryOut⟩⟩

/-- The tier that the shape and the IOPS of the source ask for. -/
def TierAsked (catalog : CapabilityCatalog D) (request : TargetSelectionRequest D)
    (tier : ServiceTier) : Prop :=
  ∃ nggpWithoutStorage,
    eligibleCandidates catalog request .nextGenerationGeneralPurpose false =
      .ok nggpWithoutStorage ∧
    tier = if request.sourceMaxIops.toNat ≤ nggpIopsLimit request nggpWithoutStorage then
      .nextGenerationGeneralPurpose else .businessCritical

theorem requestedTier_eq (h : selectTarget catalog request = .ok selection)
    (htier : TierAsked catalog request tier) : selection.requestedTier = tier := by
  obtain ⟨_, _, _, hfrom⟩ := selectTarget_selectedFrom h
  obtain ⟨nggpWithoutStorage, hnggp, hlimit⟩ := hfrom.limit
  obtain ⟨nggpWithoutStorage', hnggp', rfl⟩ := htier
  cases hnggp.symm.trans hnggp'
  rw [hfrom.requestedTier, hlimit]

/-- A capacity-limited fallback gives up no capacity on offer, and its reasons
are true, when of the candidates largest in what is out of reach one that
reaches the rest stands nearest. -/
theorem fallback_keeps_capacity_iff (h : selectTarget catalog request = .ok selection)
    (htier : TierAsked catalog request tier)
    (hnone : ∀ candidate ∈ catalog.candidates, ¬ Meets request tier candidate)
    {target : SelectedTarget D} (hselected : selection.selected = some target) :
    ((∀ code, ShortOf request target code → NotOffered catalog request tier code) ∧
      ∀ reason ∈ selection.outcomeReasons, NotOffered catalog request tier reason.code) ↔
    NearestReaches catalog request tier := by
  obtain rfl := requestedTier_eq h htier
  obtain ⟨withoutStorage, withStorage, fallback, hfrom⟩ := selectTarget_selectedFrom h
  obtain rfl := (forall_not_meets hfrom.meetingAll).mpr hnone
  obtain ⟨eligible, hor, htarget⟩ := hfrom.of_selected hselected
  cases hor
  have hdescribes := selectedTarget_describes htarget
  rw [← keepsCapacity_iff hfrom.fallback_some.2, hfrom.reasons]
  have hshort : ∀ code, ShortOf request target code ↔
      ∃ reason ∈ capacityFallbackReasons request eligible, reason.code = code := by
    intro code
    rw [mem_capacityFallbackReasons, ← hdescribes.vcores, ← hdescribes.selectedMemoryGb]
    cases code <;> simp [ShortOf]
  have hvcores : ShortOf request target .insufficientVcores ↔
      eligible.candidate.vcores < request.sourceVcpu := by
    rw [← hdescribes.vcores]
    rfl
  have hmemory : ShortOf request target .insufficientMemory ↔
      value eligible.selectedMemoryGb < value request.sourceMemoryGb := by
    rw [← hdescribes.selectedMemoryGb]
    rfl
  constructor
  · rintro ⟨hkept, -⟩
    exact ⟨fun hlt => notOffered_vcores.mp (hkept _ (hvcores.mpr hlt)),
      fun hlt => notOffered_memory.mp (hkept _ (hmemory.mpr hlt))⟩
  · intro hkeeps
    have hkept : ∀ code, ShortOf request target code →
        NotOffered catalog request selection.requestedTier code := by
      intro code hcode
      cases code with
      | insufficientVcores => exact notOffered_vcores.mpr (hkeeps.vcores (hvcores.mp hcode))
      | insufficientMemory => exact notOffered_memory.mpr (hkeeps.memory (hmemory.mp hcode))
      | _ => trivial
    exact ⟨hkept, fun reason hreason => hkept _ ((hshort _).mpr ⟨reason, hreason, rfl⟩)⟩

/-- Two sizes of the reviewed catalog, with as many vCores. -/
def largestCatalog : CapabilityCatalog Decimal96 :=
  ⟨[{ exampleCandidate "managed-vcore-next-gen-general-purpose-premium-series-128" 128 560 32768
      with includedMemoryGb := ofNat 560 },
    { exampleCandidate
        "managed-vcore-next-gen-general-purpose-premium-series-memory-optimized-128" 128 0 32768
      with
      hardwareFamily := "Premium Series Memory Optimized"
      includedMemoryGb := ofScaled 8704 1
      supportedMemoryGb := [ofScaled 8704 1] }]⟩

/-- A source with more vCores than any size, and memory that one of them has. -/
def largeRequest : TargetSelectionRequest Decimal96 where
  azureRegion := "eastus"
  sourceVcpu := 192
  sourceMemoryGb := ofNat 600
  requiredStorageGb := ofNat 1000
  sourceMaxIops := 3000
  workbookParityMode := true

def largeSelection : TargetSelection Decimal96 :=
  (selectTarget largestCatalog largeRequest).toOption.get (by decide +kernel)

theorem largeSelection_eq : selectTarget largestCatalog largeRequest = .ok largeSelection :=
  eq_ok_get _

theorem large_not_meets (tier : ServiceTier) :
    ∀ candidate ∈ largestCatalog.candidates, ¬ Meets largeRequest tier candidate := by
  intro candidate hmem hmeets
  have hvcores : candidate.vcores = 128 := by
    rcases List.mem_cons.mp hmem with rfl | hmem
    · rfl
    · rw [List.mem_singleton.mp hmem]
      rfl
  have hle := hmeets.vcores
  rw [hvcores] at hle
  exact absurd hle (by decide)

theorem large_memory_offered : ¬ NotOffered largestCatalog largeRequest
    .nextGenerationGeneralPurpose .insufficientMemory := by
  intro h
  have hlt := h _ (List.mem_cons_of_mem _ List.mem_cons_self) ⟨rfl, rfl, rfl, fun _ _ => .inr rfl⟩
    (by
      rintro maximum ⟨⟩
      decide +kernel) (ofScaled 8704 1) List.mem_cons_self
  exact absurd hlt (by decide +kernel)

theorem largeSelection_short : ∃ target, largeSelection.selected = some target ∧
    ShortOf largeRequest target .insufficientMemory := by
  refine ⟨largeSelection.selected.get (by decide +kernel), Option.some_get _ |>.symm, ?_⟩
  have hshort : value (largeSelection.selected.get (by decide +kernel)).selectedMemoryGb <
      value largeRequest.sourceMemoryGb := by decide +kernel
  exact hshort

/-- 560 GB are taken for a source with 600, and 870.4 are on offer. -/
theorem fallback_gives_up_memory : ∃ selection target,
    selectTarget largestCatalog largeRequest = .ok selection ∧
      selection.requestedTier = .nextGenerationGeneralPurpose ∧
      (∀ candidate ∈ largestCatalog.candidates,
        ¬ Meets largeRequest selection.requestedTier candidate) ∧
      selection.selected = some target ∧ ShortOf largeRequest target .insufficientMemory ∧
      ¬ NotOffered largestCatalog largeRequest selection.requestedTier .insufficientMemory := by
  obtain ⟨target, htarget, hshort⟩ := largeSelection_short
  have htier : largeSelection.requestedTier = .nextGenerationGeneralPurpose := by decide +kernel
  exact ⟨largeSelection, target, largeSelection_eq, htier, large_not_meets _, htarget, hshort,
    htier ▸ large_memory_offered⟩

/-- So the size that reaches the memory does not stand nearest. -/
theorem fallback_keeps_capacity_iff_example :
    ¬ NearestReaches largestCatalog largeRequest .nextGenerationGeneralPurpose := by
  obtain ⟨target, htarget, hshort⟩ := largeSelection_short
  have htier : TierAsked largestCatalog largeRequest .nextGenerationGeneralPurpose :=
    ⟨[], rfl, by decide +kernel⟩
  intro hnearest
  exact large_memory_offered (((fallback_keeps_capacity_iff largeSelection_eq htier
    (large_not_meets _) htarget).mpr hnearest).1 _ hshort)

end TcoCalculator.TargetSelector
