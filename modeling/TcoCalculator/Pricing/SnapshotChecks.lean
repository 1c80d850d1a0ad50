/-
The checks of an Azure snapshot: what they read of the stored records and which
of them a refused snapshot fails.
-/
import TcoCalculator.Pricing.SnapshotIdentity

namespace TcoCalculator

open DecimalArith Fallible Halt PriceSnapshot

namespace PriceSnapshot

variable {R : Type}

/-- What holds of the records of every key holds of every group. -/
theorem forall_groupBy {K : Type} [DecidableEq K] {key : R → K} {records : List R}
    {P : List R → Prop} :
    (∀ group ∈ groupBy key records, P group) ↔
      ∀ record ∈ records, P (records.filter fun other => key other = key record) := by
  rw [groupBy]
  simp only [List.mem_map, List.mem_dedup, forall_exists_index, and_imp,
    forall_apply_eq_imp_iff₂]

/-- The stored records are the given ones, up to their order and their sources. -/
theorem normalizeRecords_perm [RateRecord R] {records given : List R} (h : records.Perm given) :
    (normalizeRecords records).Perm (given.map normalizeProvenance) :=
  (List.perm_insertionSort _ _).trans (h.map _)

end PriceSnapshot

/-! ### Refusals -/

section Refusals

variable {D : Type} [DecimalArith D]

/-- Which check a refused snapshot fails. -/
theorem AzurePriceSnapshot.refusal_cases {sha256 : String → String}
    {metadata : SnapshotCreationMetadata} {targetRegion : String}
    {miRates : List (AzureMiRateRecord D)} {vmRates : List (AzureVmRateRecord D)}
    {managedDiskRates : List (AzureManagedDiskRateRecord D)} {e : Halt SnapshotError}
    (h : createWithVmRates sha256 metadata targetRegion miRates vmRates managedDiskRates =
      .error e) :
    e ∈ [.error .invalidRetrievedAt, .error .invalidScope, .error .unusableStatus,
        .error .invalidRateKeys, .error .invalidRateProvenance] ∨
      validateAzurePurchaseMatrices (normalizeRecords miRates) ≠ .ok () ∧
        e = .error .invalidAzurePurchaseMatrix ∨
      validateAzureVmRates (normalizeRecords vmRates) (normalizeRecords managedDiskRates) =
        .error e := by
  unfold createWithVmRates at h
  simp only [bind_eq_error] at h
  rcases h with h | ⟨_, -, h | ⟨_, -, h | ⟨_, -, h | ⟨_, -, h | ⟨_, -, h⟩⟩⟩⟩⟩
  · unfold validateCreationMetadata at h
    split at h
    · cases h
      simp
    · split_ifs at h <;> cases h <;> simp
  · unfold validateUniqueKeys at h
    split_ifs at h
    · cases h
      simp
    · cases h
  · unfold validateRateProvenance at h
    split_ifs at h
    · cases h
      simp
    · cases h
  · right
    left
    rcases hmatrices : validateAzurePurchaseMatrices (normalizeRecords miRates) with e' | _
    · rw [hmatrices] at h
      cases h
      unfold validateAzurePurchaseMatrices at hmatrices
      split_ifs at hmatrices
      cases hmatrices
      simp
    · rw [hmatrices] at h
      cases h
  · exact .inr (.inr h)
  · cases h

/-- The checks of virtual machines refuse in one way. -/
theorem validateAzureVmRates_error {D : Type} [DecimalArith D]
    {vmRates : List (AzureVmRateRecord D)}
    {managedDiskRates : List (AzureManagedDiskRateRecord D)} {e : SnapshotError}
    (h : validateAzureVmRates vmRates managedDiskRates = .error (.error e)) :
    e = .invalidAzureVmRates := by
  unfold validateAzureVmRates at h
  split at h
  · cases h
    rfl
  rcases bind_eq_error.mp h with hcheck | ⟨valid, -, h⟩
  · rcases hall : allM validVmConfiguration (groupBy (fun record : AzureVmRateRecord D =>
        toAsciiLowercase record.armSkuName) vmRates) with fault | valid
    · rw [hall] at hcheck
      cases hcheck
    · rw [hall] at hcheck
      cases hcheck
  · split_ifs at h <;> cases h <;> rfl

end Refusals

end TcoCalculator
