/-
Azure Virtual Machine and managed-disk target selection
(src/rust/src/calculation/vm_target_selector.rs).
-/
import TcoCalculator.Calculation.TargetSelector
import TcoCalculator.Domain.Project

namespace TcoCalculator

open DecimalArith Halt

inductive VmLineage where
  | burstable
  | generalPurpose
  | memoryOptimized
  deriving DecidableEq, Repr

inductive VmLifecycle where
  | current
  | previous
  deriving DecidableEq, Repr

structure VmSizeCandidate (D : Type) where
  armSkuName : String
  displayFamily : String
  lineage : VmLineage
  generation : String
  generationRank : UInt32
  lifecycle : VmLifecycle
  azureRegion : String
  cpuArchitecture : String
  windowsEligible : Bool
  vcpus : UInt32
  memoryGb : D
  maxDataDiskCount : UInt32
  premiumIo : Bool
  uncachedDiskIops : UInt64
  uncachedDiskThroughputMbps : UInt64
  localTempDiskGb : Option D

structure VmCapabilityCatalog (D : Type) where
  candidates : List (VmSizeCandidate D)

structure ManagedDiskTier (D : Type) where
  tierKey : String
  capacityGb : D
  provisionedIops : UInt64
  provisionedThroughputMbps : D

structure ManagedDiskOffer (D : Type) where
  offerKey : String
  displayName : String
  allowedRoles : List VmDiskRole
  performanceIsProvisionedIndependently : Bool
  azureRegions : List String
  includedIops : Option UInt64
  includedThroughputMbps : Option D
  maximumIops : UInt64
  maximumThroughputMbps : UInt64
  capacityIncrementGb : Option D
  minimumCapacityGb : Option D
  maximumCapacityGb : D
  tiers : List (ManagedDiskTier D)

structure ManagedDiskCatalog (D : Type) where
  offers : List (ManagedDiskOffer D)

inductive SourceClass where
  | burstable
  | generalPurpose
  | memoryOptimized
  | highFrequencyMemoryOptimized
  deriving DecidableEq, Repr

/-- Preferred Azure lineage of a source class. -/
def SourceClass.targetLineage : SourceClass → VmLineage
  | .burstable => .burstable
  | .generalPurpose => .generalPurpose
  | .memoryOptimized | .highFrequencyMemoryOptimized => .memoryOptimized

/-- The reviewed instance-family policy; an unlisted family has no class. -/
def classifySourceInstance (instanceType : String) : Option SourceClass :=
  let head := (instanceType.toList.takeWhile (· ≠ '.')).dropWhile isWhiteSpace
  let family := (head.map Char.toLower).takeWhile Char.isAlpha
  if family = ['t'] then some .burstable
  else if family = ['m'] then some .generalPurpose
  else if family = ['r'] then some .memoryOptimized
  else if family = ['z'] then some .highFrequencyMemoryOptimized
  else none

structure VmVolumeRequirement (D : Type) where
  volumeId : Uuid
  label : String
  role : VmDiskRole
  capacityGb : D
  iops : UInt64
  throughputMbps : D
  deriving DecidableEq

inductive VmDiskPriceDimension where
  | capacityTier
  | capacityGb
  | additionalIops
  | additionalThroughput
  deriving DecidableEq, Repr

structure VmDiskPriceKey where
  offerKey : String
  tierKey : Option String
  dimension : VmDiskPriceDimension
  deriving DecidableEq, Repr

/-- The rates by lowercase SKU name, a later one replacing an earlier one. -/
structure VmPriceAvailability (D : Type) where
  vmHourlyRates : List (String × D)
  managedDiskDimensions : List VmDiskPriceKey

structure VmTargetSelectionRequest (D : Type) where
  azureRegion : String
  sourceClass : SourceClass
  minimumVcpu : UInt32
  minimumMemoryGb : D
  requiresLocalTempDisk : Bool
  minimumLocalTempDiskGb : D
  volumes : List (VmVolumeRequirement D)
  requestedTargetArmSku : Option String
  priceAvailability : Option (VmPriceAvailability D)

structure SelectedManagedDisk (D : Type) where
  volumeId : Uuid
  label : String
  role : VmDiskRole
  offerKey : String
  displayName : String
  tierKey : Option String
  capacityGb : D
  provisionedIops : UInt64
  provisionedThroughputMbps : D
  billedAdditionalIops : UInt64
  billedAdditionalThroughputMbps : D
  deriving DecidableEq

structure SelectedVmTarget (D : Type) where
  armSkuName : String
  displayFamily : String
  lineage : VmLineage
  generation : String
  generationRank : UInt32
  lifecycle : VmLifecycle
  azureRegion : String
  vcpus : UInt32
  memoryGb : D
  maxDataDiskCount : UInt32
  uncachedDiskIops : UInt64
  uncachedDiskThroughputMbps : UInt64
  localTempDiskGb : Option D
  disks : List (SelectedManagedDisk D)
  deriving DecidableEq

inductive VmRecommendationStatus where
  | recommended
  | capacityFitReviewRequired
  | incomplete
  | noEligibleTarget
  deriving DecidableEq, Repr

inductive VmSelectionReasonCode where
  | regionUnavailable
  | lineageMismatch
  | lifecycleIneligible
  | windowsUnsupported
  | architectureUnsupported
  | premiumIoUnsupported
  | insufficientVcpu
  | insufficientMemory
  | insufficientLocalTempDisk
  | dataDiskCountExceeded
  | noEligibleDiskOffer
  | aggregateDiskIopsExceeded
  | aggregateDiskThroughputExceeded
  | targetOverrideIneligible
  | burstPolicyReviewRequired
  | instanceStoreReviewRequired
  | ephemeralDataLossIncompatible
  | highFrequencyReviewRequired
  | volumeRoleUnconfirmed
  | priceUnavailable
  deriving DecidableEq, Repr

structure VmSelectionReason where
  code : VmSelectionReasonCode
  detail : String
  deriving DecidableEq, Repr

structure VmCandidateEvaluation (D : Type) where
  armSkuName : String
  vcpus : UInt32
  memoryGb : D
  eligible : Bool
  rejectionReasons : List VmSelectionReason
  deriving DecidableEq

structure VmTargetSelection (D : Type) where
  mappingStatus : MappingStatus
  recommendationStatus : VmRecommendationStatus
  requestedLineage : VmLineage
  selected : Option (SelectedVmTarget D)
  candidates : List (VmCandidateEvaluation D)
  outcomeReasons : List VmSelectionReason
  deriving DecidableEq

inductive VmTargetSelectionError where
  | invalidSourceVcpu
  | invalidSourceMemory
  | noVolumes
  | osVolumeCount
  deriving DecidableEq, Repr

structure EvaluatedCandidate (D : Type) where
  candidate : VmSizeCandidate D
  disks : List (SelectedManagedDisk D)
  hourlyRate : Option D

def toAsciiLowercase (text : String) : String := String.ofList (text.toList.map Char.toLower)

def eqIgnoreAsciiCase (a b : String) : Bool := toAsciiLowercase a == toAsciiLowercase b

namespace VmTargetSelector

variable {D : Type} [DecimalArith D]

def lineageName : VmLineage → String
  | .burstable => "Burstable"
  | .generalPurpose => "GeneralPurpose"
  | .memoryOptimized => "MemoryOptimized"

def reasonWhen (rejected : Bool) (code : VmSelectionReasonCode) (detail : String) :
    List VmSelectionReason :=
  if rejected then [⟨code, detail⟩] else []

def validateRequest (request : VmTargetSelectionRequest D) :
    Except (Halt VmTargetSelectionError) Unit :=
  if request.minimumVcpu = 0 then refuse .invalidSourceVcpu
  else if value request.minimumMemoryGb ≤ 0 then refuse .invalidSourceMemory
  else if request.volumes.isEmpty then refuse .noVolumes
  else if (request.volumes.filter fun volume => volume.role == .os).length ≠ 1 then
    refuse .osVolumeCount
  else .ok ()

/-! ### Disks -/

/-- The capacity rounded up to a whole number of increments. -/
def roundUp (capacity increment : D) : Except ArithmeticFault D := do
  let remainder ← rem capacity increment
  if 0 < value remainder then add capacity (← sub increment remainder) else return capacity

def independentDisk (offer : ManagedDiskOffer D) (volume : VmVolumeRequirement D) :
    Except ArithmeticFault (Option (SelectedManagedDisk D)) :=
  match offer.capacityIncrementGb.filter fun increment => 0 < value increment with
  | none => .ok none
  | some increment => do
      let minimum := offer.minimumCapacityGb.getD zero
      let capacity ← roundUp (DecimalArith.max volume.capacityGb minimum) increment
      if value offer.maximumCapacityGb < value capacity then return none
      else
        let includedIops := offer.includedIops.getD 0
        let includedThroughput := offer.includedThroughputMbps.getD zero
        let provisionedIops := Max.max volume.iops includedIops
        let provisionedThroughput := DecimalArith.max volume.throughputMbps includedThroughput
        let additionalThroughput ← sub provisionedThroughput includedThroughput
        return some {
          volumeId := volume.volumeId
          label := volume.label
          role := volume.role
          offerKey := offer.offerKey
          displayName := offer.displayName
          tierKey := none
          capacityGb := capacity
          provisionedIops
          provisionedThroughputMbps := provisionedThroughput
          billedAdditionalIops := saturatingSub provisionedIops includedIops
          billedAdditionalThroughputMbps := DecimalArith.max additionalThroughput zero }

def tierFits (volume : VmVolumeRequirement D) (tier : ManagedDiskTier D) : Bool :=
  value volume.capacityGb ≤ value tier.capacityGb && volume.iops ≤ tier.provisionedIops &&
    value volume.throughputMbps ≤ value tier.provisionedThroughputMbps

def tierOrder (left right : ManagedDiskTier D) : Ordering :=
  (compareValues left.capacityGb right.capacityGb).then (compare left.tierKey right.tierKey)

/-- The first of the least tiers. -/
def smallestTier : List (ManagedDiskTier D) → Option (ManagedDiskTier D)
  | [] => none
  | tier :: rest =>
      some (rest.foldl (fun best next => if tierOrder best next = .gt then next else best) tier)

def tieredDisk (offer : ManagedDiskOffer D) (volume : VmVolumeRequirement D) :
    Option (SelectedManagedDisk D) :=
  (smallestTier (offer.tiers.filter (tierFits volume))).map fun tier =>
    { volumeId := volume.volumeId
      label := volume.label
      role := volume.role
      offerKey := offer.offerKey
      displayName := offer.displayName
      tierKey := some tier.tierKey
      capacityGb := tier.capacityGb
      provisionedIops := tier.provisionedIops
      provisionedThroughputMbps := tier.provisionedThroughputMbps
      billedAdditionalIops := 0
      billedAdditionalThroughputMbps := zero }

def isIndependent (catalog : ManagedDiskCatalog D) (disk : SelectedManagedDisk D) : Bool :=
  (catalog.offers.find? fun offer => offer.offerKey == disk.offerKey).any
    ManagedDiskOffer.performanceIsProvisionedIndependently

/-- Smaller capacity first, then independent provisioning, then the offer key. -/
def preferDisk (catalog : ManagedDiskCatalog D) (candidate current : SelectedManagedDisk D) :
    Bool :=
  match compareValues candidate.capacityGb current.capacityGb with
  | .lt => true
  | .gt => false
  | .eq =>
      match compare (isIndependent catalog candidate) (isIndependent catalog current) with
      | .gt => true
      | .lt => false
      | .eq => candidate.offerKey < current.offerKey

def offerAdmits (azureRegion : String) (volume : VmVolumeRequirement D)
    (offer : ManagedDiskOffer D) : Bool :=
  offer.azureRegions.any (eqIgnoreAsciiCase · azureRegion) &&
    offer.allowedRoles.contains volume.role && volume.iops ≤ offer.maximumIops &&
    value volume.throughputMbps ≤ value (ofNat offer.maximumThroughputMbps.toNat : D)

def offeredDisk (offer : ManagedDiskOffer D) (volume : VmVolumeRequirement D) :
    Except ArithmeticFault (Option (SelectedManagedDisk D)) :=
  if offer.performanceIsProvisionedIndependently then independentDisk offer volume
  else .ok (tieredDisk offer volume)

def betterDisk (catalog : ManagedDiskCatalog D) (best : Option (SelectedManagedDisk D))
    (disk : Option (SelectedManagedDisk D)) : Option (SelectedManagedDisk D) :=
  match disk, best with
  | none, best => best
  | some disk, none => some disk
  | some disk, some current => if preferDisk catalog disk current then some disk else some current

/-- The smallest capability-fit disk for one volume. -/
def selectDisk (catalog : ManagedDiskCatalog D) (azureRegion : String)
    (volume : VmVolumeRequirement D) :
    Except ArithmeticFault (Option (SelectedManagedDisk D)) :=
  (catalog.offers.filter (offerAdmits azureRegion volume)).foldlM (fun best offer => do
    return betterDisk catalog best (← offeredDisk offer volume)) none

def managedDiskPriceIsComplete (availability : VmPriceAvailability D)
    (disk : SelectedManagedDisk D) : Bool :=
  let priced (dimension : VmDiskPriceDimension) : Bool :=
    availability.managedDiskDimensions.contains ⟨disk.offerKey, disk.tierKey, dimension⟩
  if disk.tierKey.isSome then priced .capacityTier
  else
    priced .capacityGb && (disk.billedAdditionalIops == 0 || priced .additionalIops) &&
      (value disk.billedAdditionalThroughputMbps == 0 || priced .additionalThroughput)

/-! ### Candidates -/

def hourlyRateOf (availability : VmPriceAvailability D) (armSkuName : String) :
    Option D :=
  (availability.vmHourlyRates.reverse.find? fun rate =>
    rate.1 == toAsciiLowercase armSkuName).map Prod.snd

/-- Reasons that do not depend on the disks. -/
def sizeReasons (request : VmTargetSelectionRequest D) (candidate : VmSizeCandidate D) :
    List VmSelectionReason :=
  let localDisk := candidate.localTempDiskGb.getD zero
  let dataDiskCount := (request.volumes.filter fun volume => volume.role == .data).length
  reasonWhen (candidate.lifecycle ≠ .current) .lifecycleIneligible
      s!"{candidate.armSkuName} is not a current generation." ++
    reasonWhen (!candidate.windowsEligible) .windowsUnsupported
      s!"{candidate.armSkuName} is not Windows eligible." ++
    reasonWhen (!eqIgnoreAsciiCase candidate.cpuArchitecture "x64") .architectureUnsupported
      s!"{candidate.armSkuName} reports architecture {candidate.cpuArchitecture}." ++
    reasonWhen (!candidate.premiumIo) .premiumIoUnsupported
      s!"{candidate.armSkuName} does not support Premium I/O." ++
    reasonWhen (candidate.vcpus < request.minimumVcpu) .insufficientVcpu
      s!"{candidate.armSkuName} provides {candidate.vcpus} vCPU against {request.minimumVcpu} required." ++
    reasonWhen (value candidate.memoryGb < value request.minimumMemoryGb) .insufficientMemory
      s!"{candidate.armSkuName} provides {display candidate.memoryGb} GiB against {display request.minimumMemoryGb} GiB required." ++
    reasonWhen (request.requiresLocalTempDisk &&
        value localDisk < value request.minimumLocalTempDiskGb) .insufficientLocalTempDisk
      s!"{candidate.armSkuName} provides {display localDisk} GiB of local temporary storage against {display request.minimumLocalTempDiskGb} GiB required." ++
    reasonWhen (candidate.maxDataDiskCount.toNat < dataDiskCount) .dataDiskCountExceeded
      s!"{candidate.armSkuName} supports {candidate.maxDataDiskCount} data disks against {dataDiskCount} required."

def diskReason (request : VmTargetSelectionRequest D)
    (choice : VmVolumeRequirement D × Option (SelectedManagedDisk D)) :
    List VmSelectionReason :=
  reasonWhen choice.2.isNone .noEligibleDiskOffer
    s!"No managed disk offer in {request.azureRegion} satisfies volume {choice.1.label} at {display choice.1.capacityGb} GiB, {choice.1.iops} IOPS, and {display choice.1.throughputMbps} MB/s."

/-- The limits on all disks together; the sum of IOPS wraps at 64 bits. -/
def aggregateReasons (request : VmTargetSelectionRequest D) (candidate : VmSizeCandidate D)
    (disks : List (SelectedManagedDisk D)) : Except ArithmeticFault (List VmSelectionReason) :=
  if disks.length = request.volumes.length then do
    let aggregateIops := (disks.map SelectedManagedDisk.provisionedIops).foldl (· + ·) 0
    let aggregateThroughput ← sum (disks.map SelectedManagedDisk.provisionedThroughputMbps)
    return reasonWhen (candidate.uncachedDiskIops < aggregateIops) .aggregateDiskIopsExceeded
        s!"{candidate.armSkuName} allows {candidate.uncachedDiskIops} uncached disk IOPS against {aggregateIops} required." ++
      reasonWhen (value (ofNat candidate.uncachedDiskThroughputMbps.toNat : D) <
          value aggregateThroughput) .aggregateDiskThroughputExceeded
        s!"{candidate.armSkuName} allows {candidate.uncachedDiskThroughputMbps} MB/s of uncached disk throughput against {display aggregateThroughput} MB/s required."
  else .ok []

def priceReasons (availability : Option (VmPriceAvailability D)) (candidate : VmSizeCandidate D)
    (hourlyRate : Option D) (disks : List (SelectedManagedDisk D)) : List VmSelectionReason :=
  match availability with
  | none => []
  | some availability =>
      reasonWhen hourlyRate.isNone .priceUnavailable
          s!"{candidate.armSkuName} does not have a PAYG VM rate in the coherent target snapshot." ++
        disks.flatMap fun disk =>
          reasonWhen (!managedDiskPriceIsComplete availability disk) .priceUnavailable
            s!"Managed disk {disk.tierKey.getD disk.offerKey} for volume {disk.label} is missing a required coherent price dimension."

/-- The evaluation of a candidate in the lineage, and the candidate if eligible. -/
def evaluateInLineage (diskCatalog : ManagedDiskCatalog D)
    (request : VmTargetSelectionRequest D) (candidate : VmSizeCandidate D) :
    Except ArithmeticFault (VmCandidateEvaluation D × Option (EvaluatedCandidate D)) := do
  let choices ← request.volumes.mapM fun volume => do
    return (volume, ← selectDisk diskCatalog request.azureRegion volume)
  let disks := choices.filterMap Prod.snd
  let aggregate ← aggregateReasons request candidate disks
  let hourlyRate := request.priceAvailability.bind
    (hourlyRateOf · candidate.armSkuName)
  let rejectionReasons := sizeReasons request candidate ++ choices.flatMap (diskReason request) ++
    aggregate ++ priceReasons request.priceAvailability candidate hourlyRate disks
  let evaluation : VmCandidateEvaluation D := {
    armSkuName := candidate.armSkuName
    vcpus := candidate.vcpus
    memoryGb := candidate.memoryGb
    eligible := rejectionReasons.isEmpty
    rejectionReasons }
  return (evaluation,
    if rejectionReasons.isEmpty then some ⟨candidate, disks, hourlyRate⟩ else none)

/-- Candidates of other regions are passed over, candidates of another lineage
are only reported when they were asked for. -/
def evaluateCandidate (diskCatalog : ManagedDiskCatalog D)
    (request : VmTargetSelectionRequest D) (candidate : VmSizeCandidate D) :
    Except ArithmeticFault
      (Option (VmCandidateEvaluation D × Option (EvaluatedCandidate D))) :=
  let requestedLineage := request.sourceClass.targetLineage
  if !eqIgnoreAsciiCase candidate.azureRegion request.azureRegion then .ok none
  else if candidate.lineage ≠ requestedLineage then
    if request.requestedTargetArmSku.any (eqIgnoreAsciiCase candidate.armSkuName) then
      .ok (some ({
        armSkuName := candidate.armSkuName
        vcpus := candidate.vcpus
        memoryGb := candidate.memoryGb
        eligible := false
        rejectionReasons := [⟨.lineageMismatch,
          s!"{candidate.armSkuName} is not in the required {lineageName requestedLineage} lineage."⟩] },
        none))
    else .ok none
  else some <$> evaluateInLineage diskCatalog request candidate

def lifecycleRank : VmLifecycle → Nat
  | .current => 0
  | .previous => 1

def diskCapacity (evaluated : EvaluatedCandidate D) : Except ArithmeticFault D :=
  sum (evaluated.disks.map SelectedManagedDisk.capacityGb)

/-- An absent rate comes before every rate. -/
def compareRates : Option D → Option D → Ordering
  | none, none => .eq
  | none, some _ => .lt
  | some _, none => .gt
  | some left, some right => compareValues left right

def rank (left right : EvaluatedCandidate D) : Except ArithmeticFault Ordering := do
  let sizeOrder := (compare (lifecycleRank left.candidate.lifecycle)
      (lifecycleRank right.candidate.lifecycle))
    |>.then (compare right.candidate.generationRank.toNat left.candidate.generationRank.toNat)
    |>.then (compare left.candidate.vcpus.toNat right.candidate.vcpus.toNat)
    |>.then (compareValues left.candidate.memoryGb right.candidate.memoryGb)
  -- the capacities are only summed when the orders before leave a tie
  if sizeOrder ≠ .eq then return sizeOrder
  else
    return compareValues (← diskCapacity left) (← diskCapacity right)
      |>.then (compareRates left.hourlyRate right.hourlyRate)
      |>.then (compare left.candidate.armSkuName right.candidate.armSkuName)

def noTargetReason (request : VmTargetSelectionRequest D) : VmSelectionReason :=
  match request.requestedTargetArmSku with
  | some requested => ⟨.targetOverrideIneligible,
      s!"Requested target {requested} is absent or fails the reviewed region, lineage, lifecycle, compute, local-storage, or managed-disk requirements."⟩
  | none => ⟨.lineageMismatch,
      s!"No current {lineageName request.sourceClass.targetLineage} size in {request.azureRegion} satisfies the vCPU, memory, disk, and aggregate limits."⟩

def bestCandidate (request : VmTargetSelectionRequest D)
    (eligible : List (EvaluatedCandidate D)) :
    Except ArithmeticFault (Option (EvaluatedCandidate D)) :=
  match request.requestedTargetArmSku with
  | some requested => .ok (eligible.find? fun evaluated =>
      eqIgnoreAsciiCase evaluated.candidate.armSkuName requested)
  | none => Sorting.minByM rank eligible

def selectedVmTarget (best : EvaluatedCandidate D) : SelectedVmTarget D where
  armSkuName := best.candidate.armSkuName
  displayFamily := best.candidate.displayFamily
  lineage := best.candidate.lineage
  generation := best.candidate.generation
  generationRank := best.candidate.generationRank
  lifecycle := best.candidate.lifecycle
  azureRegion := best.candidate.azureRegion
  vcpus := best.candidate.vcpus
  memoryGb := best.candidate.memoryGb
  maxDataDiskCount := best.candidate.maxDataDiskCount
  uncachedDiskIops := best.candidate.uncachedDiskIops
  uncachedDiskThroughputMbps := best.candidate.uncachedDiskThroughputMbps
  localTempDiskGb := best.candidate.localTempDiskGb
  disks := best.disks

/-- One VM size and one managed disk for each persistent source volume. -/
def selectVmTarget (vmCatalog : VmCapabilityCatalog D) (diskCatalog : ManagedDiskCatalog D)
    (request : VmTargetSelectionRequest D) :
    Except (Halt VmTargetSelectionError) (VmTargetSelection D) := do
  validateRequest request
  let results ← arithmetic (vmCatalog.candidates.mapM (evaluateCandidate diskCatalog request))
  let evaluated := results.filterMap id
  let evaluations := (evaluated.map Prod.fst).insertionSort fun left right =>
    compare left.armSkuName right.armSkuName ≠ .gt
  let requestedLineage := request.sourceClass.targetLineage
  match ← bestCandidate request (evaluated.filterMap Prod.snd) with
  | none => return {
      mappingStatus := .noMapping
      recommendationStatus := .noEligibleTarget
      requestedLineage
      selected := none
      candidates := evaluations
      outcomeReasons := [noTargetReason request] }
  | some best => return {
      mappingStatus := .mapped
      recommendationStatus := .recommended
      requestedLineage
      selected := some (selectedVmTarget best)
      candidates := evaluations
      outcomeReasons := [] }

end VmTargetSelector

end TcoCalculator
