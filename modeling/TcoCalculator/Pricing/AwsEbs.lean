/-
EBS prices (src/rust/src/pricing/aws_ebs.rs): the component rows of gp3 and io2
volumes, merged into at most one rate of each.
-/
import TcoCalculator.Library.OrderedMap
import TcoCalculator.Pricing.ProviderRows

namespace TcoCalculator

inductive EbsNormalizationError where
  | malformedJson
  | unsupportedMeterMap
  | missingLocation
  | missingRequiredMeter
  | unsupportedOffer
  | invalidValue
  | unsupportedUnit
  | conflictingComponent
  | invalidIopsTiers
  deriving DecidableEq, Repr

namespace AwsEbs

open DecimalArith ProviderRows

def gp3IncludedIops : UInt64 := 3000

def gp3IncludedThroughputMibps : UInt64 := 125

inductive ComponentKind where
  | capacity
  | iops
  | throughput
  deriving DecidableEq, Repr

structure RawDimension where
  volumeType : String
  component : ComponentKind
  termType : String
  rateCode : String
  unit : String
  price : String
  beginRange : Option UInt64
  endRange : Option UInt64

structure SelectedLeaf where
  sourceOfferCode : String
  dimensions : List RawDimension

/-- A fetched leaf.  No body: its JSON is malformed. -/
structure EbsLeafPayload where
  sourceUrl : String
  sourceVersion : Option String
  effectiveAt : Option String
  body : Option SelectedLeaf

def EbsLeafPayload.source (payload : EbsLeafPayload) : SourceIdentity where
  sourceUrl := payload.sourceUrl
  sourceVersion := payload.sourceVersion
  effectiveAt := payload.effectiveAt

structure EbsNormalizationContext where
  regionCode : String
  location : String

inductive VolumeType where
  | gp3
  | io2
  deriving DecidableEq, Repr

def VolumeType.asKey : VolumeType → String
  | gp3 => "gp3"
  | io2 => "io2"

structure ComponentRate (D : Type) where
  monthlyRate : D
  meterIds : List String
  source : SourceIdentity

structure RangedRate (D : Type) where
  beginRange : UInt64
  endRange : Option UInt64
  component : ComponentRate D

structure VolumeComponents (D : Type) where
  capacity : Option (ComponentRate D)
  iops : HashMap UInt64 (RangedRate D)
  throughput : Option (RangedRate D)

variable {D : Type} [DecimalArith D]

def VolumeComponents.empty : VolumeComponents D where
  capacity := none
  iops := ∅
  throughput := none

/-! ### Merging -/

def parseNonnegativeDecimal (price : String) : Except EbsNormalizationError D :=
  (nonnegativeDecimal price).elim (.error .invalidValue) .ok

def parseVolumeType (text : String) : Except EbsNormalizationError VolumeType :=
  if text = "gp3" then .ok .gp3
  else if text = "io2" then .ok .io2
  else .error .invalidValue

def ComponentRate.agrees (existing incoming : ComponentRate D) : Bool :=
  value existing.monthlyRate == value incoming.monthlyRate && existing.source == incoming.source

def ComponentRate.merge (existing incoming : ComponentRate D) : ComponentRate D :=
  { existing with meterIds := mergeMeters existing.meterIds incoming.meterIds }

def mergeComponent (slot : Option (ComponentRate D)) (incoming : ComponentRate D) :
    Except EbsNormalizationError (ComponentRate D) :=
  match slot with
  | none => .ok incoming
  | some existing =>
      if existing.agrees incoming then .ok (existing.merge incoming)
      else .error .conflictingComponent

/-- A rate of one begin: the incoming one has to end where the existing one does. -/
def mergeRange (slot : Option (RangedRate D)) (incoming : RangedRate D) :
    Except EbsNormalizationError (RangedRate D) :=
  match slot with
  | none => .ok incoming
  | some existing =>
      if existing.endRange = incoming.endRange ∧ existing.component.agrees incoming.component then
        .ok { existing with component := existing.component.merge incoming.component }
      else .error .conflictingComponent

def mergeRangedComponent (components : HashMap UInt64 (RangedRate D)) (incoming : RangedRate D) :
    Except EbsNormalizationError (HashMap UInt64 (RangedRate D)) := do
  let merged ← mergeRange (components.lookup incoming.beginRange) incoming
  return components.insert incoming.beginRange merged

def mergeSingleRangedComponent (slot : Option (RangedRate D)) (incoming : RangedRate D) :
    Except EbsNormalizationError (RangedRate D) :=
  if slot.any fun existing => existing.beginRange ≠ incoming.beginRange then
    .error .conflictingComponent
  else mergeRange slot incoming

/-- The begin of a range.  What a gp3 volume includes is fixed. -/
def rangeStart (volumeType : VolumeType) (included : UInt64) (dimension : RawDimension) :
    Except EbsNormalizationError UInt64 :=
  match dimension.beginRange with
  | none => .error .invalidValue
  | some start =>
      if volumeType = .gp3 ∧ (start ≠ included ∨ dimension.endRange.isSome) then
        .error .invalidValue
      else .ok start

def addDimension (components : VolumeComponents D) (volumeType : VolumeType)
    (source : SourceIdentity) (dimension : RawDimension) :
    Except EbsNormalizationError (VolumeComponents D) := do
  let monthlyRate ← parseNonnegativeDecimal dimension.price
  let component : ComponentRate D :=
    { monthlyRate := monthlyRate, meterIds := [dimension.rateCode], source := source }
  match dimension.component with
  | .capacity => do
      ensure (dimension.unit = "GB-Mo" ∧ dimension.beginRange = none ∧ dimension.endRange = none)
        .unsupportedUnit
      let capacity ← mergeComponent components.capacity component
      return { components with capacity := some capacity }
  | .iops => do
      ensure (dimension.unit = "IOPS-Mo") .unsupportedUnit
      let start ← rangeStart volumeType gp3IncludedIops dimension
      let iops ← mergeRangedComponent components.iops
        { beginRange := start, endRange := dimension.endRange, component := component }
      return { components with iops := iops }
  | .throughput => do
      ensure (dimension.unit = "MiBps-Mo") .unsupportedUnit
      let start ← rangeStart volumeType gp3IncludedThroughputMibps dimension
      let throughput ← mergeSingleRangedComponent components.throughput
        { beginRange := start, endRange := dimension.endRange, component := component }
      return { components with throughput := some throughput }

abbrev Volumes (D : Type) := HashMap VolumeType (VolumeComponents D)

def addEbsDimension (source : SourceIdentity) (volumes : Volumes D) (dimension : RawDimension) :
    Except EbsNormalizationError (Volumes D) := do
  ensure (dimension.termType = "OnDemand") .invalidValue
  let volumeType ← parseVolumeType dimension.volumeType
  let components ← addDimension ((volumes.lookup volumeType).getD .empty) volumeType source
    dimension
  return volumes.insert volumeType components

def addLeaf (volumes : Volumes D) (payload : EbsLeafPayload) :
    Except EbsNormalizationError (Volumes D) :=
  if payload.sourceUrl = "" then .error .invalidValue
  else
    match payload.body with
    | none => .error .malformedJson
    | some leaf =>
        if leaf.sourceOfferCode = "AmazonEC2" then
          leaf.dimensions.foldlM (addEbsDimension payload.source) volumes
        else .error .unsupportedOffer

/-! ### Records -/

def provenance (source : SourceIdentity) (meterIds : List String) : RateProvenance where
  sourceUrl := source.sourceUrl
  effectiveAt := source.effectiveAt
  sourceVersion := source.sourceVersion
  meterIds := meterIds

def commonSource (first : SourceIdentity) (others : List SourceIdentity) :
    Except EbsNormalizationError SourceIdentity :=
  if others.all (· == first) then .ok first else .error .conflictingComponent

def buildGp3Record (regionCode : String) (components : VolumeComponents D) :
    Except EbsNormalizationError (Option (AwsEbsRateRecord D)) :=
  match components.capacity, components.iops.lookup gp3IncludedIops, components.throughput with
  | some capacity, some iops, some throughput => do
      ensure ((components.iops.erase gp3IncludedIops).entries.isEmpty ∧ iops.endRange.isNone ∧
        throughput.beginRange = gp3IncludedThroughputMibps ∧ throughput.endRange.isNone)
        .invalidValue
      let source ← commonSource capacity.source
        [iops.component.source, throughput.component.source]
      return some {
        stableKey := regionCode ++ "|gp3"
        rate := {
          volumeType := .gp3
          capacityMonthlyPerGb := capacity.monthlyRate
          includedIops := gp3IncludedIops
          iopsMonthlyPerUnit := some iops.component.monthlyRate
          iopsTiers := []
          includedThroughputMibps := ofNat gp3IncludedThroughputMibps.toNat
          throughputMonthlyPerMibps := some throughput.component.monthlyRate }
        provenance := provenance source
          (mergeMeters (mergeMeters capacity.meterIds iops.component.meterIds)
            throughput.component.meterIds) }
  | _, _, _ => .ok none

/-- The begins and ends of the io2 tiers. -/
def io2Tiers : List (UInt64 × Option UInt64) :=
  [(0, some 32000), (32000, some 64000), (64000, none)]

/-- The tier of a begin, with the end and the source it has to have. -/
def io2Tier (iops : HashMap UInt64 (RangedRate D)) (source : SourceIdentity)
    (range : UInt64 × Option UInt64) :
    Except EbsNormalizationError (IopsPriceTier D × List String) :=
  match iops.lookup range.1 with
  | none => .error .invalidIopsTiers
  | some tier =>
      if tier.endRange ≠ range.2 then .error .invalidIopsTiers
      else if tier.component.source ≠ source then .error .conflictingComponent
      else .ok ({ upToInclusive := range.2, monthlyPerIops := tier.component.monthlyRate },
        tier.component.meterIds)

/-- What an io2 volume includes of throughput, and the price of more. -/
def io2Throughput (throughput : Option (RangedRate D)) (source : SourceIdentity) :
    Except EbsNormalizationError (D × Option D × List String) :=
  match throughput with
  | none => .ok (zero, none, [])
  | some throughput =>
      if throughput.endRange.isSome then .error .invalidValue
      else if throughput.component.source ≠ source then .error .conflictingComponent
      else .ok (ofNat throughput.beginRange.toNat, some throughput.component.monthlyRate,
        throughput.component.meterIds)

def buildIo2Record (regionCode : String) (components : VolumeComponents D) :
    Except EbsNormalizationError (Option (AwsEbsRateRecord D)) :=
  match components.capacity with
  | none => .ok none
  | some capacity =>
      if components.iops.entries.isEmpty then .ok none
      else do
        let tiers ← io2Tiers.mapM (io2Tier components.iops capacity.source)
        ensure ((io2Tiers.foldl (fun iops range => iops.erase range.1)
          components.iops).entries.isEmpty) .invalidIopsTiers
        let throughput ← io2Throughput components.throughput capacity.source
        return some {
          stableKey := regionCode ++ "|io2"
          rate := {
            volumeType := .io2
            capacityMonthlyPerGb := capacity.monthlyRate
            includedIops := 0
            iopsMonthlyPerUnit := none
            iopsTiers := tiers.map Prod.fst
            includedThroughputMibps := throughput.1
            throughputMonthlyPerMibps := throughput.2.1 }
          provenance := provenance capacity.source
            (mergeMeters (capacity.meterIds ++ (tiers.map Prod.snd).flatten) throughput.2.2) }

structure EbsNormalization (D : Type) where
  records : List (AwsEbsRateRecord D)
  warnings : List String

def buildRecord (regionCode : String) : VolumeType → VolumeComponents D →
    Except EbsNormalizationError (Option (AwsEbsRateRecord D))
  | .gp3 => buildGp3Record regionCode
  | .io2 => buildIo2Record regionCode

/-- The record of a volume type, or why there is none. -/
def volumeRecord (regionCode : String) (volumes : Volumes D) (volumeType : VolumeType) :
    Except EbsNormalizationError (AwsEbsRateRecord D ⊕ String) :=
  match volumes.lookup volumeType with
  | none => .ok (.inr ("EBS " ++ volumeType.asKey ++ " price dimensions are unavailable."))
  | some components => do
      let record ← buildRecord regionCode volumeType components
      return record.elim (.inr ("EBS " ++ volumeType.asKey ++
        " price dimensions are incomplete; no rate was normalized.")) .inl

def normalizeEbsLeaves (context : EbsNormalizationContext) (leaves : List EbsLeafPayload) :
    Except EbsNormalizationError (EbsNormalization D) := do
  ensure (context.regionCode ≠ "" ∧ context.location ≠ "") .invalidValue
  let volumes : Volumes D ← leaves.foldlM addLeaf ∅
  let outcomes ← [VolumeType.gp3, .io2].mapM (volumeRecord context.regionCode volumes)
  return {
    records := (outcomes.filterMap Sum.getLeft?).insertionSort fun left right =>
      left.stableKey ≤ right.stableKey
    warnings := (outcomes.filterMap Sum.getRight?).insertionSort (· ≤ ·) }

end AwsEbs

end TcoCalculator
