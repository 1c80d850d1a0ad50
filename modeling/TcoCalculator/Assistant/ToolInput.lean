/-
Tools of the assistant and their arguments
(src/rust/src/assistant/tools.rs).
-/
import TcoCalculator.Assistant.Context
import TcoCalculator.Domain.Project
import TcoCalculator.Library.Locked

namespace TcoCalculator.Assistant

open DecimalArith

def maxProposalChanges : Nat := 500
def maxExtractionNotes : Nat := 100
def maxExtractionNoteChars : Nat := 500
def maxQuestionChars : Nat := 1000

inductive ToolRisk where
  | read
  | draft
  | persist
  | destructive
  deriving DecidableEq, Repr

inductive ProjectRequirement where
  | any
  | selected
  | unselected
  deriving DecidableEq, Repr

namespace ToolRisk

def isMutating : ToolRisk → Bool
  | persist | destructive => true
  | read | draft => false

def requiresConfirmation (risk : ToolRisk) : Bool := risk.isMutating

end ToolRisk

/-- A registered tool; its description and schema are texts for the model. -/
structure ToolDefinition where
  name : String
  phase : TurnPhase
  risk : ToolRisk
  projectRequirement : ProjectRequirement
  deriving DecidableEq, Repr

def ToolDefinition.isAvailable (tool : ToolDefinition) (context : TurnContext) : Bool :=
  let phaseAvailable := tool.phase = context.phase ∨ tool.phase = .readPlan ∧ tool.risk = .read
  let projectAvailable := match tool.projectRequirement with
    | .any => true
    | .selected => context.project.isSome
    | .unselected => context.project.isNone
  phaseAvailable && projectAvailable

/-- Every registered tool. -/
def tools : List ToolDefinition := [
  ⟨"get_agent_capabilities", .readPlan, .read, .any⟩,
  ⟨"get_application_help", .readPlan, .read, .any⟩,
  ⟨"get_current_project", .readPlan, .read, .selected⟩,
  ⟨"validate_project_patch", .readPlan, .read, .selected⟩,
  ⟨"calculate_project_draft", .readPlan, .read, .selected⟩,
  ⟨"stage_project_patch", .propose, .draft, .selected⟩,
  ⟨"stage_new_project_draft", .propose, .draft, .unselected⟩]

def find (name : String) : Option ToolDefinition := tools.find? fun tool => tool.name == name

/-- The names of the tools shown to the model. -/
def schemasForContext (context : TurnContext) : List String :=
  (tools.filter fun tool => tool.isAvailable context).map ToolDefinition.name

/-! ### Inputs -/

structure ProjectPatch (D : Type) where
  name : Option String
  description : Option String
  settings : Option (ProjectSettings D)
  resources : Option (List (Resource D))
  deriving DecidableEq

/-- The candidate changes on a base project. -/
def ProjectPatch.apply {D : Type} (patch : ProjectPatch D) (base : EditableProject D) :
    EditableProject D where
  name := patch.name.getD base.name
  description := patch.description.or base.description
  settings := patch.settings.getD base.settings
  resources := patch.resources.getD base.resources
  awsPriceSnapshotId := base.awsPriceSnapshotId
  azurePriceSnapshotId := base.azurePriceSnapshotId

structure ApplicationHelpInput where
  question : String
  controlId : Option String
  deriving DecidableEq

structure StageProjectPatchInput (D : Type) where
  patch : ProjectPatch D
  omissions : List String
  uncertainties : List String
  deriving DecidableEq

structure NewSqlPaygSettingsInput (D : Type) where
  enterpriseLicensedCores : Option UInt32
  standardLicensedCores : Option UInt32
  softwareAssuranceAnnualUsd : Option D
  deriving DecidableEq

structure NewProjectSettingsInput (D : Type) where
  awsRegion : Option String
  azureRegion : Option String
  sourceComputeDiscount : Option D
  sourceLicenseDiscount : Option D
  sourceStorageDiscount : Option D
  azureComputeDiscount : Option D
  azureLicenseDiscount : Option D
  azureStorageDiscount : Option D
  selectedParityAdjustment : Option D
  defaultAnnualHours : Option D
  defaultMiPurchaseOption : Option PurchaseOption
  enterpriseLicenseSaUsdPerTwoCorePack : Option D
  standardLicenseSaUsdPerTwoCorePack : Option D
  remainingCoverageMonths : Option UInt8
  electricityRateUsdPerKwh : Option D
  sqlPayg : Option (NewSqlPaygSettingsInput D)
  deriving DecidableEq

structure NewVolumeInput (D : Type) where
  label : Option String
  awsVolumeId : Option String
  volumeType : Option EbsVolumeType
  capacityGb : Option D
  provisionedIops : Option UInt64
  throughputMibps : Option D
  deriving DecidableEq

structure NewResourceInput (D : Type) where
  sourceType : ProjectType
  workloadName : Option String
  quantity : Option UInt32
  sqlEdition : Option SqlEdition
  licenseBasis : Option LicenseBasis
  sqlDataGbPerInstance : Option D
  sourceRamGbPerInstance : Option D
  annualHoursPerInstance : Option D
  miPurchaseOption : Option PurchaseOption
  vmPurchaseOption : Option VmPurchaseOption
  instanceType : Option String
  volumes : Option (List (NewVolumeInput D))
  deployment : Option RdsDeployment
  commercialTerm : Option String
  storageClass : Option String
  sourceVcpu : Option UInt32
  licensableCores : Option UInt32
  sourceMaxIops : Option UInt64
  hardwareCapexUsd : Option D
  depreciationYears : Option D
  averagePowerKwOverride : Option D
  deriving DecidableEq

def NewResourceInput.fieldsMatchSourceType {D : Type} (input : NewResourceInput D) : Bool :=
  let ec2Fields := input.volumes.isSome
  let rdsFields :=
    input.deployment.isSome || input.commercialTerm.isSome || input.storageClass.isSome
  let onPremFields :=
    input.sourceVcpu.isSome || input.licensableCores.isSome || input.hardwareCapexUsd.isSome ||
      input.depreciationYears.isSome || input.averagePowerKwOverride.isSome
  match input.sourceType with
  | .ec2 => !rdsFields && !onPremFields && input.vmPurchaseOption.isNone
  | .ec2Vm => !rdsFields && !onPremFields && input.sqlEdition.isNone &&
      input.licenseBasis.isNone && input.sqlDataGbPerInstance.isNone &&
      input.miPurchaseOption.isNone
  | .rds => !ec2Fields && !onPremFields && input.vmPurchaseOption.isNone
  | .onPrem => input.instanceType.isNone && !ec2Fields && !rdsFields &&
      input.vmPurchaseOption.isNone
  | .sqlPayg => false

structure StageNewProjectDraftInput (D : Type) where
  projectType : ProjectType
  name : Option String
  description : Option String
  settings : NewProjectSettingsInput D
  resources : List (NewResourceInput D)
  omissions : List String
  uncertainties : List String
  deriving DecidableEq

/-- Typed arguments of one registered tool. -/
inductive ToolInput (D : Type) where
  | agentCapabilities
  | applicationHelp (input : ApplicationHelpInput)
  | currentProject
  | validateProjectPatch (patch : ProjectPatch D)
  | calculateProjectDraft (patch : ProjectPatch D)
  | stageProjectPatch (input : StageProjectPatchInput D)
  | stageNewProjectDraft (input : StageNewProjectDraftInput D)
  deriving DecidableEq

inductive InvalidToolArguments where
  | malformedJson
  | unknownField
  | missingField
  | typeMismatch
  | unknownVariant
  | invalidScalarValue
  | invalidShape
  | inputBounds
  | extractionNotes
  | resourceFieldMismatch
  | unregisteredTool
  deriving DecidableEq, Repr

/-! ### Measurements -/

inductive StorageUnit where
  | gb
  | gib
  | tb
  | tib
  deriving DecidableEq, Repr

structure StorageMeasurement (D : Type) where
  value : D
  unit : StorageUnit
  deriving DecidableEq

def storageMeasurementFields : List String :=
  ["sql_data_gb_per_instance", "source_ram_gb_per_instance", "capacity_gb"]

/-- An error of the JSON library. -/
structure JsonError where
  isSyntax : Bool
  isEof : Bool
  message : String
  deriving DecidableEq, Repr

/-- The JSON library on the types above: a text to a value or to a typed input,
and a value to a typed input. -/
structure JsonLibrary (D : Type) where
  valueFromStr : String → Except JsonError Json
  emptyInputFromStr : String → Except JsonError Unit
  applicationHelpFromStr : String → Except JsonError ApplicationHelpInput
  measurementFromValue : Json → Except JsonError (StorageMeasurement D)
  projectPatchFromValue : Json → Except JsonError (ProjectPatch D)
  stageProjectPatchFromValue : Json → Except JsonError (StageProjectPatchInput D)
  stageNewProjectDraftFromValue : Json → Except JsonError (StageNewProjectDraftInput D)

def classifyJsonInputError (error : JsonError) : InvalidToolArguments :=
  if error.isSyntax || error.isEof then .malformedJson
  else if error.message.startsWith "unknown field " then .unknownField
  else if error.message.startsWith "missing field " then .missingField
  else if error.message.startsWith "invalid type:" then .typeMismatch
  else if error.message.startsWith "unknown variant " then .unknownVariant
  else if error.message.startsWith "invalid value:" then .invalidScalarValue
  else .invalidShape

/-- `str::trim`. -/
@[irreducible] def trim (text : String) : String :=
  String.ofList ((text.toList.dropWhile isWhiteSpace).reverse.dropWhile isWhiteSpace).reverse

/-- Control characters of the Unicode general category. -/
def isControl (c : Char) : Bool := c.toNat < 32 || 127 ≤ c.toNat && c.toNat < 160

def normalizeExtractionNotes (notes : List String) : Except InvalidToolArguments (List String) :=
  if maxExtractionNotes < notes.length then .error .extractionNotes
  else notes.mapM fun note =>
    let trimmed := trim note
    if trimmed = "" ∨ maxExtractionNoteChars < trimmed.length ∨ trimmed.toList.any isControl then
      .error .extractionNotes
    else .ok trimmed

section Parsing

variable {D : Type} [DecimalArith D] (library : JsonLibrary D)

/-- A decimal product that overflows panics. -/
def StorageMeasurement.intoGb (measurement : StorageMeasurement D) :
    Outcome InvalidToolArguments D :=
  match measurement.unit with
  | .gb | .gib => .ok measurement.value
  | .tb | .tib =>
      match mul measurement.value (ofNat 1024) with
      | .ok gb => .ok gb
      | .error _ => .panic

/-- A step of the JSON library, its error classified. -/
def parsed {α : Type} (result : Except JsonError α) : Outcome InvalidToolArguments α :=
  match result with
  | .ok value => .ok value
  | .error error => .err (classifyJsonInputError error)

/-- A measurement under one of the storage fields becomes its size in GB. -/
def normalizedMeasurement (value : Json) : Outcome InvalidToolArguments Json := do
  let measurement ← parsed (library.measurementFromValue value)
  let gb ← measurement.intoGb
  return ResourceJson.decimal gb

mutual

def normalizeStorageMeasurements : Json → Outcome InvalidToolArguments Json
  | .array items => (normalizeItems items).map .array
  | .object fields => (normalizeFields fields).map .object
  | .null => .ok .null
  | .bool b => .ok (.bool b)
  | .number n => .ok (.number n)
  | .string s => .ok (.string s)

def normalizeItems : List Json → Outcome InvalidToolArguments (List Json)
  | [] => .ok []
  | item :: rest => do
      let item ← normalizeStorageMeasurements item
      let rest ← normalizeItems rest
      return item :: rest

def normalizeFields : List (String × Json) → Outcome InvalidToolArguments (List (String × Json))
  | [] => .ok []
  | (field, value) :: rest => do
      let value ← match value with
        | .object members =>
            if field ∈ storageMeasurementFields then normalizedMeasurement library (.object members)
            else normalizeStorageMeasurements (.object members)
        | other => normalizeStorageMeasurements other
      let rest ← normalizeFields rest
      return (field, value) :: rest

end

def parseJsonInputWithStorageNormalization {α : Type} (fromValue : Json → Except JsonError α)
    (arguments : String) : Outcome InvalidToolArguments α := do
  let value ← parsed (library.valueFromStr arguments)
  let value ← normalizeStorageMeasurements library value
  parsed (fromValue value)

def applicationHelpInput (arguments : String) :
    Outcome InvalidToolArguments ApplicationHelpInput := do
  let input ← parsed (library.applicationHelpFromStr arguments)
  let questionChars := (trim input.question).length
  if questionChars < 1 ∨ maxQuestionChars < questionChars then .err .inputBounds
  else if input.controlId.any fun id => id.length < 1 || 64 < id.length then .err .inputBounds
  else .ok input

def stageProjectPatchInput (arguments : String) :
    Outcome InvalidToolArguments (StageProjectPatchInput D) := do
  let input ← parseJsonInputWithStorageNormalization library library.stageProjectPatchFromValue
    arguments
  let omissions ← Outcome.lift (normalizeExtractionNotes input.omissions)
  let uncertainties ← Outcome.lift (normalizeExtractionNotes input.uncertainties)
  return { input with omissions := omissions, uncertainties := uncertainties }

def stageNewProjectDraftInput (arguments : String) :
    Outcome InvalidToolArguments (StageNewProjectDraftInput D) := do
  let input ← parseJsonInputWithStorageNormalization library library.stageNewProjectDraftFromValue
    arguments
  let omissions ← Outcome.lift (normalizeExtractionNotes input.omissions)
  let uncertainties ← Outcome.lift (normalizeExtractionNotes input.uncertainties)
  if input.resources.any fun resource =>
      resource.sourceType ≠ input.projectType || !resource.fieldsMatchSourceType then
    .err .resourceFieldMismatch
  else return { input with omissions := omissions, uncertainties := uncertainties }

/-- Untrusted arguments as the typed input of a registered tool. -/
def parseInput (definition : ToolDefinition) (arguments : String) :
    Outcome InvalidToolArguments (ToolInput D) :=
  let arguments := if isBlank arguments then "\x7b\x7d" else arguments
  match definition.name with
  | "get_agent_capabilities" =>
      (parsed (library.emptyInputFromStr arguments)).map fun _ => .agentCapabilities
  | "get_application_help" => (applicationHelpInput library arguments).map .applicationHelp
  | "get_current_project" =>
      (parsed (library.emptyInputFromStr arguments)).map fun _ => .currentProject
  | "validate_project_patch" =>
      (parseJsonInputWithStorageNormalization library library.projectPatchFromValue arguments).map
        .validateProjectPatch
  | "calculate_project_draft" =>
      (parseJsonInputWithStorageNormalization library library.projectPatchFromValue arguments).map
        .calculateProjectDraft
  | "stage_project_patch" => (stageProjectPatchInput library arguments).map .stageProjectPatch
  | "stage_new_project_draft" =>
      (stageNewProjectDraftInput library arguments).map .stageNewProjectDraft
  | _ => .err .unregisteredTool

end Parsing

end TcoCalculator.Assistant
