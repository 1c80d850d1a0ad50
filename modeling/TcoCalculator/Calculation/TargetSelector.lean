/-
Selection of an Azure SQL Managed Instance target
(src/rust/src/calculation/target_selector.rs).
-/
import Mathlib.Data.List.Sort
import TcoCalculator.Calculation.Arithmetic
import TcoCalculator.Library.Sorting

namespace TcoCalculator

open DecimalArith Halt

def nggpIopsPerVcore : Nat := 1600
def nggpMaxIops : Nat := 80000

inductive ServiceTier where
  | nextGenerationGeneralPurpose
  | businessCritical
  deriving DecidableEq, Repr

structure TargetCandidate (D : Type) where
  configurationKey : String
  azureRegion : String
  serviceTier : ServiceTier
  hardwareFamily : String
  vcores : UInt32
  zoneRedundant : Bool
  includedMemoryGb : D
  supportedMemoryGb : List D
  storageArchitecture : String
  maximumStorageGb : Option D

structure CapabilityCatalog (D : Type) where
  candidates : List (TargetCandidate D)

structure TargetSelectionRequest (D : Type) where
  azureRegion : String
  sourceVcpu : UInt32
  sourceMemoryGb : D
  requiredStorageGb : D
  sourceMaxIops : UInt64
  workbookParityMode : Bool

inductive MappingStatus where
  | mapped
  | noMapping
  deriving DecidableEq, Repr

structure SelectedTarget (D : Type) where
  configurationKey : String
  azureRegion : String
  serviceTier : ServiceTier
  hardwareFamily : String
  vcores : UInt32
  zoneRedundant : Bool
  includedMemoryGb : D
  selectedMemoryGb : D
  additionalMemoryGb : D
  storageArchitecture : String
  maximumStorageGb : Option D
  deriving DecidableEq

inductive SelectionReasonCode where
  | regionUnavailable
  | tierUnavailable
  | zoneRedundancyUnsupported
  | hardwareFamilyUnsupported
  | insufficientVcores
  | insufficientMemory
  | insufficientStorage
  deriving DecidableEq, Repr

structure SelectionReason where
  code : SelectionReasonCode
  detail : String
  deriving DecidableEq, Repr

structure CandidateEvaluation (D : Type) where
  configurationKey : String
  vcores : UInt32
  selectedMemoryGb : Option D
  eligible : Bool
  rejectionReasons : List SelectionReason
  deriving DecidableEq

structure StorageEscalation (D : Type) where
  rejectedConfigurationKey : String
  rejectedMaximumStorageGb : D
  selectedConfigurationKey : String
  deriving DecidableEq

structure TargetSelection (D : Type) where
  mappingStatus : MappingStatus
  requestedTier : ServiceTier
  nggpIopsLimit : Nat
  selected : Option (SelectedTarget D)
  candidates : List (CandidateEvaluation D)
  outcomeReasons : List SelectionReason
  storageEscalation : Option (StorageEscalation D)
  deriving DecidableEq

inductive TargetSelectionError where
  | invalidSourceVcpu
  | invalidSourceMemory
  | invalidRequiredStorage
  deriving DecidableEq, Repr

structure EligibleCandidate (D : Type) where
  candidate : TargetCandidate D
  selectedMemoryGb : D

namespace TargetSelector

variable {D : Type} [DecimalArith D]

def validateRequest (request : TargetSelectionRequest D) :
    Except (Halt TargetSelectionError) Unit :=
  if request.sourceVcpu = 0 then refuse .invalidSourceVcpu
  else if value request.sourceMemoryGb ≤ 0 then refuse .invalidSourceMemory
  else if value request.requiredStorageGb < 0 then refuse .invalidRequiredStorage
  else .ok ()

/-- The smallest supported memory that meets the source requirement. -/
def smallestSufficientMemory (candidate : TargetCandidate D)
    (request : TargetSelectionRequest D) : Option D :=
  minimum? (candidate.supportedMemoryGb.filter fun memory =>
    value request.sourceMemoryGb ≤ value memory)

def reasonWhen (rejected : Bool) (code : SelectionReasonCode) (detail : String) :
    List SelectionReason :=
  if rejected then [⟨code, detail⟩] else []

/-- The memory a candidate would run with, and why it is rejected. -/
def evaluateCandidate (candidate : TargetCandidate D) (request : TargetSelectionRequest D)
    (tier : ServiceTier) (enforceStorage : Bool) : Option D × List SelectionReason :=
  if candidate.azureRegion ≠ request.azureRegion ∨ candidate.serviceTier ≠ tier then (none, [])
  else
    let selectedMemoryGb := smallestSufficientMemory candidate request
    (selectedMemoryGb,
      reasonWhen candidate.zoneRedundant .zoneRedundancyUnsupported
          "Zone-redundant targets are not eligible in v1." ++
        reasonWhen (request.workbookParityMode && tier == .nextGenerationGeneralPurpose &&
            !(candidate.hardwareFamily == "Premium Series" ||
              candidate.hardwareFamily == "Premium Series Memory Optimized"))
          .hardwareFamilyUnsupported
          "Workbook-parity NGGP selection requires Premium-series hardware." ++
        reasonWhen (candidate.vcores < request.sourceVcpu) .insufficientVcores
          s!"Candidate has {candidate.vcores} vCores but the source requires {request.sourceVcpu}." ++
        reasonWhen selectedMemoryGb.isNone .insufficientMemory
          s!"No supported memory value meets the source requirement of {display request.sourceMemoryGb} GB." ++
        reasonWhen (enforceStorage && candidate.maximumStorageGb.any fun maximum =>
            value maximum < value request.requiredStorageGb) .insufficientStorage
          s!"Candidate storage limit is below the required {display request.requiredStorageGb} GB.")

def tierPriority : ServiceTier → Nat
  | .nextGenerationGeneralPurpose => 0
  | .businessCritical => 1

/-- The share by which an offer exceeds a requirement. -/
def overage (offered required : D) : Except ArithmeticFault D := do
  div (← sub offered required) required

def compareCandidates (request : TargetSelectionRequest D)
    (left right : EligibleCandidate D) : Except ArithmeticFault Ordering := do
  let sourceVcpu : D := ofNat request.sourceVcpu.toNat
  let leftVcpuOverage ← overage (ofNat left.candidate.vcores.toNat) sourceVcpu
  let rightVcpuOverage ← overage (ofNat right.candidate.vcores.toNat) sourceVcpu
  let leftMemoryOverage ← overage left.selectedMemoryGb request.sourceMemoryGb
  let rightMemoryOverage ← overage right.selectedMemoryGb request.sourceMemoryGb
  return compareValues leftVcpuOverage rightVcpuOverage
    |>.then (compareValues leftMemoryOverage rightMemoryOverage)
    |>.then (compare (tierPriority left.candidate.serviceTier)
      (tierPriority right.candidate.serviceTier))
    |>.then (compare left.candidate.vcores.toNat right.candidate.vcores.toNat)
    |>.then (compare left.candidate.configurationKey right.candidate.configurationKey)

def eligibleCandidate (request : TargetSelectionRequest D) (tier : ServiceTier)
    (enforceStorage : Bool) (candidate : TargetCandidate D) : Option (EligibleCandidate D) :=
  let (selectedMemoryGb, rejectionReasons) :=
    evaluateCandidate candidate request tier enforceStorage
  if rejectionReasons.isEmpty then selectedMemoryGb.map (⟨candidate, ·⟩) else none

def eligibleCandidates (catalog : CapabilityCatalog D) (request : TargetSelectionRequest D)
    (tier : ServiceTier) (enforceStorage : Bool) :
    Except ArithmeticFault (List (EligibleCandidate D)) :=
  Sorting.sortByM (compareCandidates request)
    (catalog.candidates.filterMap (eligibleCandidate request tier enforceStorage))

def decimalDistance (left right : D) : Except ArithmeticFault D :=
  if value right ≤ value left then sub left right else sub right left

def natDistance (left right : Nat) : Nat := max left right - min left right

def isCapacityReason (reason : SelectionReason) : Bool :=
  reason.code == .insufficientVcores || reason.code == .insufficientMemory

/-- A candidate that fails on vCores or memory only, with its closest memory. -/
def capacityCandidate (request : TargetSelectionRequest D) (tier : ServiceTier)
    (candidate : TargetCandidate D) : Option (EligibleCandidate D) :=
  if candidate.azureRegion ≠ request.azureRegion ∨ candidate.serviceTier ≠ tier then none
  else
    let (_, rejectionReasons) := evaluateCandidate candidate request tier false
    if rejectionReasons.any fun reason => !isCapacityReason reason then none
    else
      ((smallestSufficientMemory candidate request).orElse fun _ =>
        maximum? candidate.supportedMemoryGb).map (⟨candidate, ·⟩)

def compareCapacity (request : TargetSelectionRequest D)
    (cpuCapacityExceeded memoryCapacityExceeded : Bool)
    (left right : EligibleCandidate D) : Except ArithmeticFault Ordering := do
  let capacityOrder :=
    (if cpuCapacityExceeded then
      compare right.candidate.vcores.toNat left.candidate.vcores.toNat else .eq).then
    (if memoryCapacityExceeded then
      compareValues right.selectedMemoryGb left.selectedMemoryGb else .eq)
  let vcoreOrder := compare (natDistance left.candidate.vcores.toNat request.sourceVcpu.toNat)
    (natDistance right.candidate.vcores.toNat request.sourceVcpu.toNat)
  -- the distances are only computed when the orders before leave a tie
  if capacityOrder.then vcoreOrder ≠ .eq then return capacityOrder.then vcoreOrder
  else
    let leftDistance ← decimalDistance left.selectedMemoryGb request.sourceMemoryGb
    let rightDistance ← decimalDistance right.selectedMemoryGb request.sourceMemoryGb
    return (compareValues leftDistance rightDistance).then
      (compare left.candidate.configurationKey right.candidate.configurationKey)

def closestCapacityCandidate (catalog : CapabilityCatalog D)
    (request : TargetSelectionRequest D) (tier : ServiceTier) (enforceStorage : Bool) :
    Except ArithmeticFault (Option (EligibleCandidate D)) :=
  let candidates := catalog.candidates.filterMap (capacityCandidate request tier)
  match (candidates.map fun candidate => candidate.candidate.vcores.toNat).max?,
      maximum? (candidates.map EligibleCandidate.selectedMemoryGb) with
  | some maximumVcores, some maximumMemoryGb =>
      let cpuCapacityExceeded := decide (maximumVcores < request.sourceVcpu.toNat)
      let memoryCapacityExceeded :=
        decide (value maximumMemoryGb < value request.sourceMemoryGb)
      if !cpuCapacityExceeded && !memoryCapacityExceeded then .ok none
      else do
        let kept := candidates.filter fun candidate => !enforceStorage ||
          candidate.candidate.maximumStorageGb.all fun maximum =>
            value request.requiredStorageGb ≤ value maximum
        let sorted ← Sorting.sortByM
          (compareCapacity request cpuCapacityExceeded memoryCapacityExceeded) kept
        return sorted.head?
  | _, _ => .ok none

def serviceTierLabel : ServiceTier → String
  | .nextGenerationGeneralPurpose => "Next-generation General Purpose"
  | .businessCritical => "Business Critical"

def capacityFallbackReasons (request : TargetSelectionRequest D)
    (fallback : EligibleCandidate D) : List SelectionReason :=
  let tier := serviceTierLabel fallback.candidate.serviceTier
  let offer := "Azure SQL Managed Instance does not offer the source requirement of "
  let validation := "; this capacity-limited match has been applied and requires workload validation."
  reasonWhen (fallback.candidate.vcores < request.sourceVcpu) .insufficientVcores
      s!"{offer}{request.sourceVcpu} vCores in the {tier} tier on {fallback.candidate.hardwareFamily} hardware. The closest available configuration provides {fallback.candidate.vcores} vCores{validation}" ++
    reasonWhen (value fallback.selectedMemoryGb < value request.sourceMemoryGb)
      .insufficientMemory
      s!"{offer}{display request.sourceMemoryGb} GB memory in the {tier} tier on {fallback.candidate.hardwareFamily} hardware. The closest available configuration provides {display fallback.selectedMemoryGb} GB{validation}"

def selectedTarget (eligible : EligibleCandidate D) :
    Except ArithmeticFault (SelectedTarget D) := do
  let additionalMemoryGb ← sub eligible.selectedMemoryGb eligible.candidate.includedMemoryGb
  return {
    configurationKey := eligible.candidate.configurationKey
    azureRegion := eligible.candidate.azureRegion
    serviceTier := eligible.candidate.serviceTier
    hardwareFamily := eligible.candidate.hardwareFamily
    vcores := eligible.candidate.vcores
    zoneRedundant := eligible.candidate.zoneRedundant
    includedMemoryGb := eligible.candidate.includedMemoryGb
    selectedMemoryGb := eligible.selectedMemoryGb
    additionalMemoryGb := DecimalArith.max additionalMemoryGb zero
    storageArchitecture := eligible.candidate.storageArchitecture
    maximumStorageGb := eligible.candidate.maximumStorageGb }

def storageEscalation (withoutStorage withStorage : List (EligibleCandidate D))
    (request : TargetSelectionRequest D) : Option (StorageEscalation D) := do
  let preferred ← withoutStorage.head?
  let selected ← withStorage.head?
  if preferred.candidate.configurationKey = selected.candidate.configurationKey then none
  else
    let maximum ← preferred.candidate.maximumStorageGb
    if value request.requiredStorageGb ≤ value maximum then none
    else some ⟨preferred.candidate.configurationKey, maximum,
      selected.candidate.configurationKey⟩

def candidateEvaluation (request : TargetSelectionRequest D) (tier : ServiceTier)
    (candidate : TargetCandidate D) : CandidateEvaluation D :=
  let (selectedMemoryGb, rejectionReasons) := evaluateCandidate candidate request tier true
  { configurationKey := candidate.configurationKey
    vcores := candidate.vcores
    selectedMemoryGb
    eligible := rejectionReasons.isEmpty
    rejectionReasons }

def evaluationOrder (left right : CandidateEvaluation D) : Ordering :=
  (compare right.eligible left.eligible).then
    ((compare left.vcores.toNat right.vcores.toNat).then
      (compare left.configurationKey right.configurationKey))

def candidateEvaluations (catalog : CapabilityCatalog D) (request : TargetSelectionRequest D)
    (tier : ServiceTier) : List (CandidateEvaluation D) :=
  ((catalog.candidates.filter fun candidate =>
    candidate.azureRegion == request.azureRegion && candidate.serviceTier == tier).map
      (candidateEvaluation request tier)).insertionSort fun left right =>
        evaluationOrder left right ≠ .gt

def outcomeReasons (catalog : CapabilityCatalog D) (request : TargetSelectionRequest D)
    (tier : ServiceTier) (eligible : List (EligibleCandidate D)) : List SelectionReason :=
  if !eligible.isEmpty then []
  else if !catalog.candidates.any fun candidate => candidate.azureRegion == request.azureRegion then
    [⟨.regionUnavailable, s!"The capability catalog has no candidates in {request.azureRegion}."⟩]
  else if !catalog.candidates.any fun candidate =>
      candidate.azureRegion == request.azureRegion && candidate.serviceTier == tier then
    [⟨.tierUnavailable, "The requested service tier is not available in the selected region."⟩]
  else []

/-- The general-purpose IOPS limit at the vCores that would be needed. -/
def nggpIopsLimit (request : TargetSelectionRequest D)
    (nggpWithoutStorage : List (EligibleCandidate D)) : Nat :=
  let thresholdVcores := match nggpWithoutStorage with
    | [] => request.sourceVcpu.toNat
    | first :: _ => first.candidate.vcores.toNat
  Nat.min (Nat.min (thresholdVcores * nggpIopsPerVcore) (2 ^ 64 - 1)) nggpMaxIops

/-- The closest candidate, sought only when none is sufficient. -/
def capacityFallback (catalog : CapabilityCatalog D) (request : TargetSelectionRequest D)
    (tier : ServiceTier) (withStorage : List (EligibleCandidate D)) :
    Except ArithmeticFault (Option (EligibleCandidate D)) :=
  if withStorage.isEmpty then closestCapacityCandidate catalog request tier true else .ok none

def selectTarget (catalog : CapabilityCatalog D) (request : TargetSelectionRequest D) :
    Except (Halt TargetSelectionError) (TargetSelection D) := do
  validateRequest request
  let nggpWithoutStorage ←
    eligibleCandidates catalog request .nextGenerationGeneralPurpose false
  let limit := nggpIopsLimit request nggpWithoutStorage
  let requestedTier : ServiceTier :=
    if request.sourceMaxIops.toNat ≤ limit then .nextGenerationGeneralPurpose
    else .businessCritical
  let withoutStorage ← eligibleCandidates catalog request requestedTier false
  let withStorage ← eligibleCandidates catalog request requestedTier true
  let capacityFallback ← capacityFallback catalog request requestedTier withStorage
  let selected ← arithmetic ((withStorage.head?.or capacityFallback).mapM selectedTarget)
  return {
    mappingStatus := if selected.isSome then .mapped else .noMapping
    requestedTier
    nggpIopsLimit := limit
    selected
    candidates := candidateEvaluations catalog request requestedTier
    outcomeReasons := match capacityFallback with
      | some fallback => capacityFallbackReasons request fallback
      | none => outcomeReasons catalog request requestedTier withStorage
    storageEscalation := storageEscalation withoutStorage withStorage request }

end TargetSelector

end TcoCalculator
