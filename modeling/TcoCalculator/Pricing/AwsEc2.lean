/-
EC2 prices (src/rust/src/pricing/aws_ec2.rs): the dimensions of the calculator
leaves, summed up for each SKU, the SKUs gathered for each instance type, and the
license prices that the instance types without one of their own fall back on.
-/
import Mathlib.Data.String.Basic
import TcoCalculator.Library.OrderedMap
import TcoCalculator.Pricing.ProviderRows

namespace TcoCalculator

inductive Ec2NormalizationError where
  | malformedJson
  | missingLocation
  | invalidRateCode
  | invalidValue
  | unsupportedUnit
  | conflictingComponent
  deriving DecidableEq, Repr

namespace AwsEc2

open DecimalArith Halt ProviderRows

structure Ec2NormalizationContext where
  regionCode : String
  location : String
  effectiveAt : Option String
  sourceVersion : Option String

structure RawDimension where
  rateCode : String
  price : String
  unit : String
  instanceType : String
  memory : String
  vcpu : String
  physicalProcessor : String
  operatingSystem : String
  preinstalledSoftware : String
  termType : String
  tenancy : String
  currentGeneration : String
  licenseModel : String

/-- The dimensions of each location, in the order of their keys. -/
structure Ec2Leaf where
  regions : HashMap String (List RawDimension)

/-- A fetched leaf.  No body: its JSON is malformed. -/
structure Ec2LeafPayload where
  sourceUrl : String
  body : Option Ec2Leaf

inductive SoftwareComponent where
  | compute
  | standard
  | enterprise
  deriving DecidableEq, Repr

structure SkuComponent (D : Type) where
  instanceType : String
  software : SoftwareComponent
  sourceVcpu : UInt32
  memoryGb : D
  hourly : D
  meterIds : List String
  sourceUrl : String

structure InstanceComponents (D : Type) where
  sourceVcpu : Option UInt32
  memoryGb : Option D
  compute : Option (SkuComponent D)
  standard : Option (SkuComponent D)
  enterprise : Option (SkuComponent D)

structure LicenseFallbacks (D : Type) where
  standard : Option D
  enterprise : Option D

structure Ec2Normalization (D : Type) where
  records : List (AwsEc2RateRecord D)
  warnings : List String

variable {D : Type} [DecimalArith D]

/-! ### Rows -/

def softwareComponent (text : String) : Option SoftwareComponent :=
  if text = "NA" then some .compute
  else if text = "SQL Std" then some .standard
  else if text = "SQL Ent" then some .enterprise
  else none

def isSupported (dimension : RawDimension) : Bool :=
  dimension.operatingSystem == "Windows" && dimension.tenancy == "Shared" &&
    dimension.currentGeneration == "Yes" && dimension.termType == "OnDemand" &&
    dimension.licenseModel == "No License required" &&
    (dimension.preinstalledSoftware == "NA" || dimension.preinstalledSoftware == "SQL Std" ||
      dimension.preinstalledSoftware == "SQL Ent") &&
    !containsText "Graviton" dimension.physicalProcessor &&
    !containsText "ARM" dimension.physicalProcessor

/-- The SKU and the offer that a rate code starts with. -/
def parseRateCode (text : String) : Except Ec2NormalizationError (String × String) :=
  match text.toList.splitOn '.' with
  | sku :: offer :: _ =>
      if sku = [] ∨ offer = [] then .error .invalidRateCode
      else .ok (String.ofList sku, String.ofList offer)
  | _ => .error .invalidRateCode

def parseVcpu (text : String) : Except Ec2NormalizationError UInt32 :=
  (parseU32 text).elim (.error .invalidValue) .ok

def parseMemory (text : String) : Except Ec2NormalizationError D :=
  (memoryGb text).elim (.error .invalidValue) .ok

/-- A price must be a number and not negative. -/
def parsePrice (text : String) : Except Ec2NormalizationError D :=
  (nonnegativeDecimal text).elim (.error .invalidValue) .ok

/-- A supported dimension as it is read, before it is merged. -/
structure SkuRow (D : Type) where
  sku : String
  instanceType : String
  software : SoftwareComponent
  sourceVcpu : UInt32
  memoryGb : D
  price : D
  rateCode : String
  sourceUrl : String

def readDimension (sourceUrl : String) (dimension : RawDimension) :
    Except Ec2NormalizationError (SkuRow D) := do
  let (sku, _) ← parseRateCode dimension.rateCode
  let software ← (softwareComponent dimension.preinstalledSoftware).elim (.error .invalidValue) .ok
  let sourceVcpu ← parseVcpu dimension.vcpu
  let memoryGb ← parseMemory dimension.memory
  ensure (sourceVcpu ≠ 0 ∧ dimension.instanceType ≠ "") .invalidValue
  ensure (dimension.unit = "Hrs") .unsupportedUnit
  let price ← parsePrice dimension.price
  return {
    sku := sku
    instanceType := dimension.instanceType
    software := software
    sourceVcpu := sourceVcpu
    memoryGb := memoryGb
    price := price
    rateCode := dimension.rateCode
    sourceUrl := sourceUrl }

/-! ### SKUs -/

def SkuRow.fresh (row : SkuRow D) : SkuComponent D where
  instanceType := row.instanceType
  software := row.software
  sourceVcpu := row.sourceVcpu
  memoryGb := row.memoryGb
  hourly := zero
  meterIds := []
  sourceUrl := row.sourceUrl

def SkuComponent.matchesRow (component : SkuComponent D) (row : SkuRow D) : Bool :=
  component.instanceType == row.instanceType && component.software == row.software &&
    component.sourceVcpu == row.sourceVcpu && value component.memoryGb == value row.memoryGb &&
    component.sourceUrl == row.sourceUrl

def addRow (components : HashMap String (SkuComponent D)) (row : SkuRow D) :
    Except (Halt Ec2NormalizationError) (HashMap String (SkuComponent D)) := do
  let component := (components.lookup row.sku).getD row.fresh
  if component.matchesRow row then
    let hourly ← (add component.hourly row.price : Except ArithmeticFault D)
    return components.insert row.sku { component with
      hourly := hourly
      meterIds := addMeter row.rateCode component.meterIds }
  else refuse .conflictingComponent

def addDimension (sourceUrl : String) (components : HashMap String (SkuComponent D))
    (dimension : RawDimension) :
    Except (Halt Ec2NormalizationError) (HashMap String (SkuComponent D)) := do
  let row ← checked (readDimension sourceUrl dimension)
  addRow components row

def addLeaf (context : Ec2NormalizationContext) (components : HashMap String (SkuComponent D))
    (payload : Ec2LeafPayload) :
    Except (Halt Ec2NormalizationError) (HashMap String (SkuComponent D)) :=
  match payload.body with
  | none => refuse .malformedJson
  | some leaf =>
      match leaf.regions.lookup context.location with
      | none => refuse .missingLocation
      | some dimensions =>
          (dimensions.filter isSupported).foldlM (addDimension payload.sourceUrl) components

/-! ### Instance types -/

def InstanceComponents.empty : InstanceComponents D := ⟨none, none, none, none, none⟩

def InstanceComponents.slot (components : InstanceComponents D) :
    SoftwareComponent → Option (SkuComponent D)
  | .compute => components.compute
  | .standard => components.standard
  | .enterprise => components.enterprise

def InstanceComponents.setSlot (components : InstanceComponents D) (component : SkuComponent D) :
    InstanceComponents D :=
  match component.software with
  | .compute => { components with compute := some component }
  | .standard => { components with standard := some component }
  | .enterprise => { components with enterprise := some component }

def addComponent (instances : HashMap String (InstanceComponents D)) (component : SkuComponent D) :
    Except Ec2NormalizationError (HashMap String (InstanceComponents D)) :=
  let components := (instances.lookup component.instanceType).getD .empty
  if components.sourceVcpu.any (· ≠ component.sourceVcpu) ∨
      components.memoryGb.any (fun memoryGb => value memoryGb ≠ value component.memoryGb) then
    .error .conflictingComponent
  else if (components.slot component.software).isSome then .error .conflictingComponent
  else
    let sized : InstanceComponents D := { components with
      sourceVcpu := some component.sourceVcpu
      memoryGb := some component.memoryGb }
    .ok (instances.insert component.instanceType (sized.setSlot component))

/-! ### Licenses -/

/-- SQL Server is licensed for four cores at least. -/
def billableCores (sourceVcpu : UInt32) : D := ofNat (Max.max sourceVcpu.toNat 4)

/-- What a SKU with SQL Server costs more than the instance alone. -/
def licenseDelta (compute : SkuComponent D) (licensed : Option (SkuComponent D)) :
    Except (Halt Ec2NormalizationError) (Option D) :=
  match licensed with
  | none => .ok none
  | some licensed => do
      let delta ← (sub licensed.hourly compute.hourly : Except ArithmeticFault D)
      if value delta ≤ 0 then refuse .invalidValue else return some delta

/-- The license price of a core on an instance type that has one. -/
def perCoreDelta (compute : SkuComponent D) (licensed : Option (SkuComponent D))
    (sourceVcpu : UInt32) : Except (Halt Ec2NormalizationError) (Option D) := do
  match ← licenseDelta compute licensed with
  | none => return none
  | some delta =>
      let perCore ← (div delta (billableCores sourceVcpu) : Except ArithmeticFault D)
      return some perCore

/-- The license prices of a core that an instance type contributes. -/
def instanceDeltas (components : InstanceComponents D) :
    Except (Halt Ec2NormalizationError) (Option D × Option D) :=
  match components.compute with
  | none => .ok (none, none)
  | some compute => do
      let sourceVcpu ← checked (components.sourceVcpu.elim (.error .invalidValue) .ok)
      let standard ← perCoreDelta compute components.standard sourceVcpu
      let enterprise ← perCoreDelta compute components.enterprise sourceVcpu
      return (standard, enterprise)

def regionalLicenseFallbacks (instances : List (InstanceComponents D)) :
    Except (Halt Ec2NormalizationError) (LicenseFallbacks D) := do
  let deltas ← instances.mapM instanceDeltas
  return {
    standard := minimum? (deltas.filterMap Prod.fst)
    enterprise := minimum? (deltas.filterMap Prod.snd) }

def licenseHourly (compute : SkuComponent D) (licensed : Option (SkuComponent D))
    (sourceVcpu : UInt32) (fallback : Option D) :
    Except (Halt Ec2NormalizationError) (Option D) := do
  match ← licenseDelta compute licensed, fallback with
  | some delta, _ => return some delta
  | none, some rate =>
      let hourly ← (mul (billableCores sourceVcpu) rate : Except ArithmeticFault D)
      return some hourly
  | none, none => return none

/-! ### Records -/

def fallbackWarning (edition instanceType : String) : String :=
  "EC2 " ++ edition ++ " SQL rate for " ++ instanceType ++
    " uses the regional four-core-minimum fallback."

/-- The warning on a license price that is not the instance type's own. -/
def fallbackWarnings (edition instanceType : String) (licensed : Option (SkuComponent D))
    (hourly : Option D) : List String :=
  if licensed.isNone ∧ hourly.isSome then [fallbackWarning edition instanceType] else []

/-- The record of an instance type and the warnings on it. -/
structure PricedInstance (D : Type) where
  record : AwsEc2RateRecord D
  warnings : List String

def componentMeters (component : Option (SkuComponent D)) : List String :=
  (component.map SkuComponent.meterIds).getD []

def priceInstance (context : Ec2NormalizationContext) (fallbacks : LicenseFallbacks D)
    (entry : String × InstanceComponents D) :
    Except (Halt Ec2NormalizationError) (Option (PricedInstance D)) :=
  let (instanceType, components) := entry
  match components.compute with
  | none => .ok none
  | some compute => do
      let sourceVcpu ← checked (components.sourceVcpu.elim (.error .invalidValue) .ok)
      let memoryGb ← checked (components.memoryGb.elim (.error .invalidValue) .ok)
      let standard ← licenseHourly compute components.standard sourceVcpu fallbacks.standard
      let enterprise ← licenseHourly compute components.enterprise sourceVcpu fallbacks.enterprise
      return some {
        record := {
          stableKey := context.regionCode ++ "|on-demand|shared|windows|" ++ instanceType
          instanceType := instanceType
          rate := {
            sourceVcpu := sourceVcpu
            catalogMemoryGb := memoryGb
            computeHourly := compute.hourly
            standardLicenseHourly := standard
            enterpriseLicenseHourly := enterprise }
          provenance := {
            sourceUrl := compute.sourceUrl
            effectiveAt := context.effectiveAt
            sourceVersion := context.sourceVersion
            meterIds := PriceSnapshot.sortedUnique (compute.meterIds ++
              componentMeters components.standard ++ componentMeters components.enterprise) } }
        warnings := fallbackWarnings "Standard" instanceType components.standard standard ++
          fallbackWarnings "Enterprise" instanceType components.enterprise enterprise }

def normalizeEc2Leaves (context : Ec2NormalizationContext) (leaves : List Ec2LeafPayload) :
    Except (Halt Ec2NormalizationError) (Ec2Normalization D) := do
  if context.regionCode = "" ∨ context.location = "" then refuse .invalidValue
  else
    let skuComponents ← leaves.foldlM (addLeaf context) ∅
    let instances ← checked ((skuComponents.toSortedList.map Prod.snd).foldlM addComponent ∅)
    let fallbacks ← regionalLicenseFallbacks (instances.toSortedList.map Prod.snd)
    let priced ← instances.toSortedList.mapM (priceInstance context fallbacks)
    let priced := priced.filterMap id
    return {
      records := (priced.map PricedInstance.record).insertionSort fun left right =>
        left.stableKey ≤ right.stableKey
      warnings := (priced.flatMap PricedInstance.warnings).insertionSort (· ≤ ·) }

end AwsEc2

end TcoCalculator
