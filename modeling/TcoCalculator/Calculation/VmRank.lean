/-
The order of the eligible VM candidates: by size, then by disk capacity, rate
and name.
-/
import Mathlib.Order.OrderDual
import Mathlib.Order.WithBot
import TcoCalculator.Calculation.VmEligibility

namespace TcoCalculator.VmTargetSelector

open DecimalArith Fallible Sorting

variable {D : Type} [DecimalArith D] {left right : EvaluatedCandidate D}

/-- The order before the disks are looked at. -/
def sizeOrder (left right : EvaluatedCandidate D) : Ordering :=
  (compare (lifecycleRank left.candidate.lifecycle) (lifecycleRank right.candidate.lifecycle))
    |>.then (compare right.candidate.generationRank.toNat left.candidate.generationRank.toNat)
    |>.then (compare left.candidate.vcpus.toNat right.candidate.vcpus.toNat)
    |>.then (compareValues left.candidate.memoryGb right.candidate.memoryGb)

def sizeKey (evaluated : EvaluatedCandidate D) : ℕ ×ₗ ℕᵒᵈ ×ₗ ℕ ×ₗ ℚ :=
  toLex (lifecycleRank evaluated.candidate.lifecycle,
    toLex (OrderDual.toDual evaluated.candidate.generationRank.toNat,
      toLex (evaluated.candidate.vcpus.toNat, value evaluated.candidate.memoryGb)))

/-- An absent rate comes first. -/
def rateKey : Option D → WithBot ℚ
  | none => ⊥
  | some rate => (value rate : ℚ)

/-- What decides between candidates of one size. -/
def tieKey (evaluated : EvaluatedCandidate D) (capacity : D) : ℚ ×ₗ WithBot ℚ ×ₗ String :=
  toLex (value capacity, toLex (rateKey evaluated.hourlyRate, evaluated.candidate.armSkuName))

theorem sizeOrder_eq : sizeOrder left right = compare (sizeKey left) (sizeKey right) := by
  unfold sizeOrder
  rw [Ordering.then_assoc, Ordering.then_assoc]
  rfl

theorem compareRates_eq (left right : Option D) :
    compareRates left right = compare (rateKey left) (rateKey right) := by
  cases left with
  | none =>
      cases right with
      | none => exact (compare_eq_iff_eq.mpr rfl).symm
      | some right => exact (compare_lt_iff_lt.mpr (WithBot.bot_lt_coe (value right))).symm
  | some left =>
      cases right with
      | none => exact (compare_gt_iff_gt.mpr (WithBot.bot_lt_coe (value left))).symm
      | some right =>
          simp only [compareRates, compareValues, rateKey]
          rcases lt_trichotomy (value left) (value right) with hlt | heq | hgt
          · rw [compare_lt_iff_lt.mpr hlt, compare_lt_iff_lt.mpr (WithBot.coe_lt_coe.mpr hlt)]
          · rw [compare_eq_iff_eq.mpr heq, compare_eq_iff_eq.mpr (congrArg _ heq)]
          · rw [compare_gt_iff_gt.mpr hgt, compare_gt_iff_gt.mpr (WithBot.coe_lt_coe.mpr hgt)]

theorem tieOrder_eq (capacity capacity' : D) :
    ((compareValues capacity capacity').then (compareRates left.hourlyRate right.hourlyRate)).then
        (compare left.candidate.armSkuName right.candidate.armSkuName) =
      compare (tieKey left capacity) (tieKey right capacity') := by
  rw [Ordering.then_assoc, compareRates_eq]
  rfl

/-- The size decides, and the capacities are only summed on a tie. -/
theorem rank_eq_ok {order : Ordering} :
    rank left right = .ok order ↔
      (sizeKey left ≠ sizeKey right ∧ compare (sizeKey left) (sizeKey right) = order) ∨
      (sizeKey left = sizeKey right ∧ ∃ capacity capacity', diskCapacity left = .ok capacity ∧
        diskCapacity right = .ok capacity' ∧
        compare (tieKey left capacity) (tieKey right capacity') = order) := by
  have hrank : rank left right = if sizeOrder left right ≠ .eq then .ok (sizeOrder left right)
      else do
        return ((compareValues (← diskCapacity left) (← diskCapacity right)).then
          (compareRates left.hourlyRate right.hourlyRate)).then
          (compare left.candidate.armSkuName right.candidate.armSkuName) := rfl
  by_cases hsize : sizeKey left = sizeKey right
  · have heq : sizeOrder left right = .eq := sizeOrder_eq.trans (compare_eq_iff_eq.mpr hsize)
    rw [hrank, if_neg (not_not.mpr heq)]
    simp only [hsize, ne_eq, not_true_eq_false, false_and, true_and, false_or, bind_eq_ok,
      tieOrder_eq, pure_eq_ok, Except.ok.injEq]
    exact exists_congr fun capacity => by simp only [exists_and_left]
  · have hne : sizeOrder left right ≠ .eq := by
      rw [sizeOrder_eq, ne_eq, compare_eq_iff_eq]
      exact hsize
    rw [hrank, if_pos hne, sizeOrder_eq]
    simp [hsize]

/-- The capacity of the disks, the rate and the name, once the sum is known. -/
def rankKey (evaluated : EvaluatedCandidate D) :
    Except ArithmeticFault (ℚ ×ₗ WithBot ℚ ×ₗ String) := do
  return tieKey evaluated (← diskCapacity evaluated)

theorem rankKey_eq_ok {key : ℚ ×ₗ WithBot ℚ ×ₗ String} : rankKey left = .ok key ↔
    ∃ capacity, diskCapacity left = .ok capacity ∧ tieKey left capacity = key := by
  unfold rankKey
  simp only [bind_eq_ok, pure_eq_ok, Except.ok.injEq]

theorem rank_byKeys : ByKeys (rank : EvaluatedCandidate D → _ → _) sizeKey rankKey := by
  intro left right order
  rw [rank_eq_ok]
  simp only [rankKey_eq_ok]
  apply or_congr_right (and_congr_right fun _ => ?_)
  constructor
  · rintro ⟨capacity, capacity', hleft, hright, rfl⟩
    exact ⟨_, _, ⟨capacity, hleft, rfl⟩, ⟨capacity', hright, rfl⟩, rfl⟩
  · rintro ⟨_, _, ⟨capacity, hleft, rfl⟩, ⟨capacity', hright, rfl⟩, rfl⟩
    exact ⟨capacity, capacity', hleft, hright, rfl⟩

/-- Candidates of which neither comes later have one name. -/
theorem armSkuName_eq_of_noLater (h : NoLater rank left right) (h' : NoLater rank right left) :
    left.candidate.armSkuName = right.candidate.armSkuName := by
  obtain ⟨-, key, hleft, hright⟩ := rank_byKeys.eq_keys h h'
  obtain ⟨capacity, -, hleft⟩ := rankKey_eq_ok.mp hleft
  obtain ⟨capacity', -, hright⟩ := rankKey_eq_ok.mp hright
  exact congrArg (fun key => (ofLex (ofLex key).2).2) (hleft.trans hright.symm)

/-- Equal generation, vCPUs and memory, all eligible candidates being current. -/
structure SameSize (left right : EvaluatedCandidate D) : Prop where
  generationRank : left.candidate.generationRank = right.candidate.generationRank
  vcpus : left.candidate.vcpus = right.candidate.vcpus
  memoryGb : value left.candidate.memoryGb = value right.candidate.memoryGb

theorem sizeKey_eq_iff (hleft : left.candidate.lifecycle = .current)
    (hright : right.candidate.lifecycle = .current) :
    sizeKey left = sizeKey right ↔ SameSize left right := by
  unfold sizeKey
  rw [hleft, hright]
  constructor
  · intro h
    have hgeneration := congrArg (fun key => OrderDual.ofDual (ofLex (ofLex key).2).1) h
    have hvcpus := congrArg (fun key => (ofLex (ofLex (ofLex key).2).2).1) h
    have hmemory := congrArg (fun key => (ofLex (ofLex (ofLex key).2).2).2) h
    exact ⟨UInt32.toNat_inj.mp hgeneration, UInt32.toNat_inj.mp hvcpus, hmemory⟩
  · intro h
    rw [h.generationRank, h.vcpus, h.memoryGb]

theorem rank_returns_of (h : sizeKey left = sizeKey right →
    Returns (diskCapacity left) ∧ Returns (diskCapacity right)) : Returns (rank left right) := by
  by_cases hsize : sizeKey left = sizeKey right
  · obtain ⟨⟨capacity, hleft⟩, capacity', hright⟩ := h hsize
    exact ⟨_, rank_eq_ok.mpr (.inr ⟨hsize, capacity, capacity', hleft, hright, rfl⟩)⟩
  · exact ⟨_, rank_eq_ok.mpr (.inl ⟨hsize, rfl⟩)⟩

end TcoCalculator.VmTargetSelector
