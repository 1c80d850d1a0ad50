/-
The orders of the SQL targets: of the eligible ones by overage, of those short
of capacity by the largest and then the closest.
-/
import Mathlib.Data.Prod.Lex
import Mathlib.Data.String.Basic
import Mathlib.Order.OrderDual
import TcoCalculator.Calculation.TargetSelector

namespace TcoCalculator.TargetSelector

open DecimalArith Fallible Sorting

variable {D : Type} [DecimalArith D] {request : TargetSelectionRequest D}
  {left right : EligibleCandidate D}

/-! ### Eligible candidates -/

/-- The overages of a candidate, then its tier, vCores and key. -/
def candidateKey (request : TargetSelectionRequest D) (eligible : EligibleCandidate D) :
    Except ArithmeticFault (ℚ ×ₗ ℚ ×ₗ ℕ ×ₗ ℕ ×ₗ String) := do
  let vcpuOverage ← overage (ofNat eligible.candidate.vcores.toNat : D)
    (ofNat request.sourceVcpu.toNat)
  let memoryOverage ← overage eligible.selectedMemoryGb request.sourceMemoryGb
  return toLex (value vcpuOverage, toLex (value memoryOverage,
    toLex (tierPriority eligible.candidate.serviceTier,
      toLex (eligible.candidate.vcores.toNat, eligible.candidate.configurationKey))))

theorem compareCandidates_byKeys :
    ByKeys (compareCandidates request) (fun _ => ()) (candidateKey request) := by
  intro left right order
  simp only [ne_eq, not_true_eq_false, false_and, true_and, false_or]
  unfold compareCandidates candidateKey
  simp only [bind_eq_ok, pure_eq_ok, Except.ok.injEq]
  constructor
  · rintro ⟨leftVcpu, hleftVcpu, rightVcpu, hrightVcpu, leftMemory, hleftMemory,
      rightMemory, hrightMemory, rfl⟩
    refine ⟨_, _, ⟨leftVcpu, hleftVcpu, leftMemory, hleftMemory, rfl⟩,
      ⟨rightVcpu, hrightVcpu, rightMemory, hrightMemory, rfl⟩, ?_⟩
    simp only [Ordering.then_assoc]
    rfl
  · rintro ⟨_, _, ⟨leftVcpu, hleftVcpu, leftMemory, hleftMemory, rfl⟩,
      ⟨rightVcpu, hrightVcpu, rightMemory, hrightMemory, rfl⟩, rfl⟩
    refine ⟨leftVcpu, hleftVcpu, rightVcpu, hrightVcpu, leftMemory, hleftMemory,
      rightMemory, hrightMemory, ?_⟩
    simp only [Ordering.then_assoc]
    rfl

theorem compareCandidates_orders : Orders (compareCandidates request) :=
  compareCandidates_byKeys.orders

/-- Candidates of which neither comes later have one configuration key. -/
theorem configurationKey_eq_of_noLater (h : NoLater (compareCandidates request) left right)
    (h' : NoLater (compareCandidates request) right left) :
    left.candidate.configurationKey = right.candidate.configurationKey := by
  obtain ⟨-, key, hleft, hright⟩ := compareCandidates_byKeys.eq_keys h h'
  obtain ⟨_, -, hleft⟩ := bind_eq_ok.mp hleft
  obtain ⟨_, -, hleft⟩ := bind_eq_ok.mp hleft
  obtain ⟨_, -, hright⟩ := bind_eq_ok.mp hright
  obtain ⟨_, -, hright⟩ := bind_eq_ok.mp hright
  have heq := (Except.ok.inj hleft).trans (Except.ok.inj hright).symm
  exact congrArg (fun key => (ofLex (ofLex (ofLex (ofLex key).2).2).2).2) heq

/-! ### Candidates short of capacity -/

/-- What decides before memory distances are looked at: the largest in what is
out of reach, then the closest in vCores. -/
def capacityKey (request : TargetSelectionRequest D)
    (cpuCapacityExceeded memoryCapacityExceeded : Bool) (eligible : EligibleCandidate D) :
    ℕᵒᵈ ×ₗ ℚᵒᵈ ×ₗ ℕ :=
  toLex (OrderDual.toDual (if cpuCapacityExceeded then eligible.candidate.vcores.toNat else 0),
    toLex (OrderDual.toDual (if memoryCapacityExceeded then value eligible.selectedMemoryGb else 0),
      natDistance eligible.candidate.vcores.toNat request.sourceVcpu.toNat))

/-- What decides then: the closest in memory, and the key. -/
def closenessKey (request : TargetSelectionRequest D) (eligible : EligibleCandidate D) :
    Except ArithmeticFault (ℚ ×ₗ String) := do
  let distance ← decimalDistance eligible.selectedMemoryGb request.sourceMemoryGb
  return toLex (value distance, eligible.candidate.configurationKey)

/-- The order by capacity and distance in vCores. -/
def capacityOrder (request : TargetSelectionRequest D)
    (cpuCapacityExceeded memoryCapacityExceeded : Bool) (left right : EligibleCandidate D) :
    Ordering :=
  ((if cpuCapacityExceeded then
      compare right.candidate.vcores.toNat left.candidate.vcores.toNat else .eq).then
    (if memoryCapacityExceeded then
      compareValues right.selectedMemoryGb left.selectedMemoryGb else .eq)).then
    (compare (natDistance left.candidate.vcores.toNat request.sourceVcpu.toNat)
      (natDistance right.candidate.vcores.toNat request.sourceVcpu.toNat))

theorem capacityOrder_eq (cpuCapacityExceeded memoryCapacityExceeded : Bool) :
    capacityOrder request cpuCapacityExceeded memoryCapacityExceeded left right =
      compare (capacityKey request cpuCapacityExceeded memoryCapacityExceeded left)
        (capacityKey request cpuCapacityExceeded memoryCapacityExceeded right) := by
  unfold capacityOrder
  rw [Ordering.then_assoc]
  cases cpuCapacityExceeded <;> cases memoryCapacityExceeded <;>
    simp [capacityKey] <;> rfl

theorem compareCapacity_byKeys (cpuCapacityExceeded memoryCapacityExceeded : Bool) :
    ByKeys (compareCapacity request cpuCapacityExceeded memoryCapacityExceeded)
      (capacityKey request cpuCapacityExceeded memoryCapacityExceeded)
      (closenessKey request) := by
  intro left right order
  have hcompare : compareCapacity request cpuCapacityExceeded memoryCapacityExceeded left right =
      if capacityOrder request cpuCapacityExceeded memoryCapacityExceeded left right ≠ .eq then
        .ok (capacityOrder request cpuCapacityExceeded memoryCapacityExceeded left right)
      else do
        let leftDistance ← decimalDistance left.selectedMemoryGb request.sourceMemoryGb
        let rightDistance ← decimalDistance right.selectedMemoryGb request.sourceMemoryGb
        return (compareValues leftDistance rightDistance).then
          (compare left.candidate.configurationKey right.candidate.configurationKey) := rfl
  by_cases hkey : capacityKey request cpuCapacityExceeded memoryCapacityExceeded left =
      capacityKey request cpuCapacityExceeded memoryCapacityExceeded right
  · have htie := (capacityOrder_eq _ _).trans (compare_eq_iff_eq.mpr hkey)
    rw [hcompare, if_neg (not_not.mpr htie)]
    unfold closenessKey
    simp only [hkey, ne_eq, not_true_eq_false, false_and, true_and, false_or, bind_eq_ok,
      pure_eq_ok, Except.ok.injEq]
    constructor
    · rintro ⟨leftDistance, hleft, rightDistance, hright, rfl⟩
      exact ⟨_, _, ⟨leftDistance, hleft, rfl⟩, ⟨rightDistance, hright, rfl⟩, rfl⟩
    · rintro ⟨_, _, ⟨leftDistance, hleft, rfl⟩, ⟨rightDistance, hright, rfl⟩, rfl⟩
      exact ⟨leftDistance, hleft, rightDistance, hright, rfl⟩
  · have hne : capacityOrder request cpuCapacityExceeded memoryCapacityExceeded left right ≠ .eq := by
      rw [capacityOrder_eq, ne_eq, compare_eq_iff_eq]
      exact hkey
    rw [hcompare, if_pos hne, capacityOrder_eq]
    simp [hkey]

end TcoCalculator.TargetSelector
