/-
When the VM selection finds a target although it fixes the disk of each volume
before it looks at prices and at the limits of all disks together.
-/
import TcoCalculator.Calculation.VmEligibility
import TcoCalculator.Domain.Decimal96

namespace TcoCalculator.VmTargetSelector

open DecimalArith Fallible

variable {D : Type} [DecimalArith D]

/-! ### Feasible targets -/

def tierDisk (offer : ManagedDiskOffer D) (volume : VmVolumeRequirement D)
    (tier : ManagedDiskTier D) : SelectedManagedDisk D where
  volumeId := volume.volumeId
  label := volume.label
  role := volume.role
  offerKey := offer.offerKey
  displayName := offer.displayName
  tierKey := some tier.tierKey
  capacityGb := tier.capacityGb
  provisionedIops := tier.provisionedIops
  provisionedThroughputMbps := tier.provisionedThroughputMbps
  billedAdditionalIops := 0
  billedAdditionalThroughputMbps := zero

/-- A disk an offer has for a volume: the one it is provisioned as, or one of
the tiers that fit. -/
inductive Gives (offer : ManagedDiskOffer D) (volume : VmVolumeRequirement D) :
    SelectedManagedDisk D → Prop where
  | independent {disk : SelectedManagedDisk D}
      (hoffer : offer.performanceIsProvisionedIndependently = true)
      (hdisk : independentDisk offer volume = .ok (some disk)) : Gives offer volume disk
  | tier {tier : ManagedDiskTier D}
      (hoffer : offer.performanceIsProvisionedIndependently = false)
      (hmem : tier ∈ offer.tiers) (hfits : tierFits volume tier = true) :
      Gives offer volume (tierDisk offer volume tier)

def FeasibleDisk (catalog : ManagedDiskCatalog D) (azureRegion : String)
    (volume : VmVolumeRequirement D) (disk : SelectedManagedDisk D) : Prop :=
  ∃ offer ∈ openOffers catalog azureRegion volume, Gives offer volume disk

/-- A candidate and a disk for each volume that meet all hard constraints and
have all their prices. -/
structure Feasible (vmCatalog : VmCapabilityCatalog D) (diskCatalog : ManagedDiskCatalog D)
    (request : VmTargetSelectionRequest D) (candidate : VmSizeCandidate D)
    (disks : List (SelectedManagedDisk D)) : Prop where
  listed : candidate ∈ vmCatalog.candidates
  size : SizeFits request candidate
  feasible : List.Forall₂ (FeasibleDisk diskCatalog request.azureRegion) request.volumes disks
  iops : (disks.map fun disk => disk.provisionedIops.toNat).sum ≤ candidate.uncachedDiskIops.toNat
  throughput : (disks.map fun disk => value disk.provisionedThroughputMbps).sum ≤
    candidate.uncachedDiskThroughputMbps.toNat
  priced : Priced request.priceAvailability candidate disks

/-! ### Mapped selections -/

section Mapped

variable {vmCatalog : VmCapabilityCatalog D} {diskCatalog : ManagedDiskCatalog D}
  {request : VmTargetSelectionRequest D} {selection : VmTargetSelection D}

omit [DecimalArith D] in
theorem mappingStatus_outcomeOf (best : Option (EvaluatedCandidate D))
    (candidates : List (VmCandidateEvaluation D)) :
    (outcomeOf request best candidates).mappingStatus = .noMapping ↔ best = none := by
  cases best <;> simp [outcomeOf]

/-- Without an override the selection fails only when no candidate passes with
the smallest disks. -/
theorem noMapping_iff (hoverride : request.requestedTargetArmSku = none)
    (h : selectVmTarget vmCatalog diskCatalog request = .ok selection) :
    selection.mappingStatus = .noMapping ↔
      ¬ ∃ evaluated : EvaluatedCandidate D, evaluated.candidate ∈ vmCatalog.candidates ∧
        Eligible diskCatalog request evaluated := by
  obtain ⟨-, results, hresults, best, hbest, rfl⟩ := selectVmTarget_eq_ok.mp h
  simp only [bestCandidate, hoverride] at hbest
  rw [mappingStatus_outcomeOf]
  have hnone : best = none ↔ eligibleOf results = [] := by
    rw [← Sorting.minByM_eq_none, hbest, Except.ok.injEq]
  rw [hnone, List.eq_nil_iff_forall_not_mem, not_exists]
  exact forall_congr' fun evaluated => not_congr (mem_eligibleOf hresults)

end Mapped

/-! ### A price sheet without the smallest tier -/

def serverVolume : VmVolumeRequirement Decimal96 where
  volumeId := ⟨1⟩
  label := "C:"
  role := .os
  capacityGb := ofNat 32
  iops := 120
  throughputMbps := ofNat 25

def diskTier (tierKey : String) (capacityGb : ℕ) : ManagedDiskTier Decimal96 where
  tierKey := tierKey
  capacityGb := ofNat capacityGb
  provisionedIops := 500
  provisionedThroughputMbps := ofNat 60

def tieredOffer (offerKey tierKey : String) (capacityGb : ℕ) : ManagedDiskOffer Decimal96 where
  offerKey := offerKey
  displayName := offerKey
  allowedRoles := [.os]
  performanceIsProvisionedIndependently := false
  azureRegions := ["swedencentral"]
  includedIops := none
  includedThroughputMbps := none
  maximumIops := 20000
  maximumThroughputMbps := 900
  capacityIncrementGb := none
  minimumCapacityGb := none
  maximumCapacityGb := ofNat 32767
  tiers := [diskTier tierKey capacityGb]

def standardOffer : ManagedDiskOffer Decimal96 := tieredOffer "standard_ssd_lrs" "E10" 128

def twoTierCatalog : ManagedDiskCatalog Decimal96 :=
  ⟨[tieredOffer "premium_ssd_lrs" "P4" 32, standardOffer]⟩

def generalPurposeSize : VmSizeCandidate Decimal96 where
  armSkuName := "Standard_D2s_v5"
  displayFamily := "Dsv5"
  lineage := .generalPurpose
  generation := "v5"
  generationRank := 5
  lifecycle := .current
  azureRegion := "swedencentral"
  cpuArchitecture := "x64"
  windowsEligible := true
  vcpus := 2
  memoryGb := ofNat 8
  maxDataDiskCount := 4
  premiumIo := true
  uncachedDiskIops := 3750
  uncachedDiskThroughputMbps := 85
  localTempDiskGb := none

def serverRequest (managedDiskDimensions : List VmDiskPriceKey) :
    VmTargetSelectionRequest Decimal96 where
  azureRegion := "swedencentral"
  sourceClass := .generalPurpose
  minimumVcpu := 2
  minimumMemoryGb := ofNat 8
  requiresLocalTempDisk := false
  minimumLocalTempDiskGb := zero
  volumes := [serverVolume]
  requestedTargetArmSku := none
  priceAvailability := some {
    vmHourlyRates := [("standard_d2s_v5", ofScaled 96 3)]
    managedDiskDimensions := managedDiskDimensions }

def onlyTheLargerTier : List VmDiskPriceKey := [⟨"standard_ssd_lrs", some "E10", .capacityTier⟩]

def bothTiers : List VmDiskPriceKey :=
  ⟨"premium_ssd_lrs", some "P4", .capacityTier⟩ :: onlyTheLargerTier

end TcoCalculator.VmTargetSelector
