/-
Tool outcomes and the dispatch of one accepted call
(src/rust/src/assistant/tools.rs, src/rust/src/assistant/model.rs).
-/
import TcoCalculator.Assistant.Help
import TcoCalculator.Assistant.NewProjectDraft
import TcoCalculator.Assistant.ProjectPatchChanges
import TcoCalculator.Persistence.ProjectRepositoryRun

namespace TcoCalculator.Assistant

open DecimalArith

/-! ### The model boundary -/

structure ProposedToolCall where
  id : String
  name : String
  arguments : String
  deriving DecidableEq, Repr

inductive TranscriptMessage where
  | user (content : String)
  | assistant (content : String)
  | assistantToolCalls (calls : List ProposedToolCall)
  | toolResult (callId toolName content : String)
  deriving DecidableEq, Repr

structure ModelImage where
  bytes : List UInt8
  deriving DecidableEq

structure ModelTurnRequest where
  systemInstruction : String
  promptVersion : String
  messages : List TranscriptMessage
  image : Option ModelImage
  tools : List String
  requiredTool : Option String
  maxOutputTokens : Nat
  timeoutMillis : Nat
  deriving DecidableEq

inductive ModelOutput where
  | message (text : String)
  | toolCalls (proposed : List ProposedToolCall)
  deriving DecidableEq

structure ModelTurnResponse where
  output : ModelOutput
  routedModel : Option String
  deriving DecidableEq

inductive ModelError where
  | unavailable
  | timeout
  | transport
  | malformedResponse
  | contentFiltered
  | quotaExceeded
  deriving DecidableEq, Repr

inductive PolicyError where
  | emptyBatch
  | ungroundedResponse
  | batchTooLarge
  | budgetExhausted
  | invalidCallId
  | unknownTool
  | phaseNotAllowed
  | projectContextNotAllowed
  | tooManyMutations
  | invalidArguments (reason : InvalidToolArguments)
  | classificationMismatch
  | missingConfirmation
  deriving DecidableEq, Repr

inductive TurnError where
  | question (issues : List ValidationIssue)
  | deadline
  | budget (error : BudgetError)
  | policy (error : PolicyError)
  | model (error : ModelError)
  deriving DecidableEq

structure ValidatedToolCall (D : Type) where
  id : String
  definition : ToolDefinition
  input : ToolInput D
  deriving DecidableEq

/-! ### Outcomes -/

structure ProjectPatchProposal (D : Type) where
  action : String
  patch : ProjectPatch D
  changes : List ProjectPatchChange
  deriving DecidableEq

structure NewProjectDraftProposal (D : Type) where
  action : String
  project : EditableProject D
  deriving DecidableEq

inductive AssistantProposal (D : Type) where
  | projectPatch (proposal : ProjectPatchProposal D)
  | newProjectDraft (proposal : NewProjectDraftProposal D)
  deriving DecidableEq

def AssistantProposal.action {D : Type} : AssistantProposal D → String
  | projectPatch proposal => proposal.action
  | newProjectDraft proposal => proposal.action

/-- The structured result of one tool call. -/
inductive ToolOutcome (D : Type) where
  | ok (result : Json)
  | staged (proposal : Option (AssistantProposal D)) (omissions uncertainties : List String)
  | invalid (errors : List ValidationIssue)
  | unavailable (code : String)
  | error (code : String)
  deriving DecidableEq

namespace ToolOutcome

variable {D : Type}

def proposal : ToolOutcome D → Option (AssistantProposal D)
  | staged proposal _ _ => proposal
  | _ => none

def extractionNotes : ToolOutcome D → Option (List String × List String)
  | staged _ omissions uncertainties => some (omissions, uncertainties)
  | _ => none

def historyStatus : ToolOutcome D → String
  | ok _ => "completed"
  | staged (some _) _ _ => "staged"
  | staged none _ _ => "reported"
  | invalid _ => "invalid"
  | unavailable _ => "unavailable"
  | error _ => "error"

def issueJson (issue : ValidationIssue) : Json := .object [
  ("pointer", .string issue.pointer),
  ("code", .string issue.code),
  ("message", .string issue.message)]

/-- What the model is told of an outcome. -/
def toJson : ToolOutcome D → Json
  | ok result => .object [("status", .string "ok"), ("result", result)]
  | staged proposal _ _ => .object [
      ("result", .object [
        ("action", ResourceJson.option .string (proposal.map AssistantProposal.action)),
        ("report_recorded", .bool true),
        ("staged", .bool proposal.isSome)]),
      ("status", .string "ok")]
  | invalid errors => .object [("status", .string "invalid"),
      ("errors", .array (errors.map issueJson))]
  | unavailable code => .object [("status", .string "unavailable"), ("code", .string code)]
  | error code => .object [("status", .string "error"), ("code", .string code)]

def toBoundedJson (outcome : ToolOutcome D) : String :=
  let serialized := outcome.toJson.render
  if maxToolResultChars < serialized.length then
    (Json.object [("status", .string "error"), ("code", .string "result_too_large")]).render
  else serialized

end ToolOutcome

/-! ### What a turn does and meets -/

/-- What a turn does outside its own state, and the verdicts on the batches. -/
inductive TurnEvent (D : Type) where
  | respond (request : ModelTurnRequest)
  | preflight (batch : List ProposedToolCall)
      (verdict : Outcome PolicyError (List (ValidatedToolCall D)))
  | dispatch (call : ValidatedToolCall D)
  | store (ownerId : String) (call : ProjectRepository.Call D)

/-- What a turn has done so far, the latest first. -/
abbrev History (D : Type) := List (TurnEvent D)

/-- The services a turn calls.  Each answer may depend on all that the turn has
done: nothing is assumed of the model, of the clock or of other requests. -/
structure Host (D : Type) where
  systemInstruction : String
  helpEntries : List HelpEntry
  jsonLibrary : JsonLibrary D
  engine : CalculationEngine D
  respond : History D → ModelTurnRequest → Except ModelError ModelTurnResponse
  remainingMillis : History D → Nat
  isExpired : History D → Bool
  getProject : History D → String → Uuid →
    Outcome ProjectRepository.RepositoryError (ProjectDocument D)
  resolveAws : History D → String → String → Option (AwsPriceSnapshot D)
  getAws : History D → String → Except Unit (Option (AwsPriceSnapshot D))
  getAzure : History D → String → Except Unit (Option (AzurePriceSnapshot D))
  calculationSlotFree : History D → Bool
  freshId : History D → Nat → Nat → Uuid

abbrev TurnM (D : Type) := Locked (History D) TurnError

def record {D : Type} (event : TurnEvent D) : TurnM D PUnit := Locked.write (event :: ·)

/-! ### Tools -/

section Tools

variable {D : Type} [DecimalArith D] (host : Host D) (context : TurnContext)

def agentCapabilities : ToolOutcome D := .ok (.object [
  ("programming", .string "A bounded Rust-hosted reasoning loop backed by Microsoft Foundry inference. The host owns identity, authorization, validation, calculations, persistence, and tool execution."),
  ("available_tools", .array ((schemasForContext context).map .string)),
  ("selected_project", .bool context.project.isSome),
  ("supported_actions", .array ((if context.project.isSome then
      ["read the selected project", "validate project changes", "calculate a project draft",
        "stage a reviewed project patch", "analyze a JPEG or PNG for project inputs"]
    else
      ["explain application controls", "describe agent capabilities",
        "stage a validated new unsaved project draft",
        "analyze a JPEG or PNG into a new unsaved project draft"]).map .string)),
  ("action_boundary", .string "Project changes are staged for review. Persisted changes require a separate explicit confirmation."),
  ("memory_boundary", .string "Conversation, image, and action history are request-scoped. There is no hidden or cross-session memory.")])

def helpResponseJson (response : HelpResponse) : Json := .object [
  ("answer", .string response.answer),
  ("references", .array (response.references.map fun reference => .object [
    ("control_id", .string reference.controlId),
    ("label", .string reference.label)]))]

def applicationHelp (input : ApplicationHelpInput) : ToolOutcome D :=
  match input.controlId with
  | some controlId => match Help.explainControl host.helpEntries controlId with
      | some response => .ok (helpResponseJson response)
      | none => .error "unknown_control_id"
  | none => match Help.answerQuestion host.helpEntries input.question with
      | .ok response => .ok (helpResponseJson response)
      | .error errors => .invalid errors

omit [DecimalArith D] in
/-- The part of a document that a user edits. -/
def editableProject (document : ProjectDocument D) : EditableProject D where
  name := document.name
  description := document.description
  settings := document.settings
  resources := document.resources
  awsPriceSnapshotId := document.awsPriceSnapshotId
  azurePriceSnapshotId := document.azurePriceSnapshotId

/-- The editable part of an answer of the repository, or the outcome to report. -/
def projectOf (answer : Outcome ProjectRepository.RepositoryError (ProjectDocument D)) :
    Outcome (ToolOutcome D) (EditableProject D) :=
  match answer with
  | .ok document => .ok (editableProject document)
  | .err .notFound => .err (.error "project_not_found")
  | .err _ => .err (.unavailable "storage_unavailable")
  | .panic => .panic

/-- Go on with the selected project, or report why there is none. -/
def withSelectedProject (next : EditableProject D → TurnM D (ToolOutcome D)) :
    TurnM D (ToolOutcome D) :=
  match context.project with
  | none => pure (.unavailable "no_selected_project")
  | some selected => do
      let history ← Locked.read
      record (.store context.ownerId (.get selected.id))
      match projectOf (host.getProject history context.ownerId selected.id) with
      | .ok project => next project
      | .err outcome => pure outcome
      | .panic => Locked.panic

/-! #### The project as the model sees it -/

structure ProjectView (D : Type) where
  settings : ProjectSettings D
  resources : List (Resource D)
  resourceCount : Nat
  hasAwsPriceSnapshot : Bool
  hasAzurePriceSnapshot : Bool
  deriving DecidableEq

omit [DecimalArith D] in
def redactShared (shared : SharedResource D) (index : Nat) : SharedResource D :=
  { shared with workloadName := "workload-" ++ toString (index + 1) }

omit [DecimalArith D] in
def redactEbsVolume (index : Nat) (volume : EbsVolume D) : EbsVolume D :=
  { volume with label := "volume-" ++ toString (index + 1), awsVolumeId := none }

omit [DecimalArith D] in
def redactVmVolume (index : Nat) (volume : VmVolume D) : VmVolume D :=
  { volume with label := "volume-" ++ toString (index + 1), awsVolumeId := none }

omit [DecimalArith D] in
def redactResource (index : Nat) : Resource D → Resource D
  | .ec2 ec2 => .ec2 { ec2 with
      shared := redactShared ec2.shared index
      volumes := ec2.volumes.mapIdx redactEbsVolume }
  | .ec2Vm vm => .ec2Vm { vm with
      shared := redactShared vm.shared index
      volumes := vm.volumes.mapIdx redactVmVolume }
  | .rds rds => .rds { rds with shared := redactShared rds.shared index }
  | .onPrem onPrem => .onPrem { onPrem with shared := redactShared onPrem.shared index }

omit [DecimalArith D] in
def ProjectView.fromProject (project : EditableProject D) : ProjectView D where
  settings := project.settings
  resources := project.resources.mapIdx redactResource
  resourceCount := project.resources.length
  hasAwsPriceSnapshot := project.awsPriceSnapshotId.isSome
  hasAzurePriceSnapshot := project.azurePriceSnapshotId.isSome

def ProjectView.toJson (view : ProjectView D) : Json := .object [
  ("settings", ProjectJson.settings view.settings),
  ("resources", ProjectJson.resources view.resources),
  ("resource_count", .number view.resourceCount),
  ("has_aws_price_snapshot", .bool view.hasAwsPriceSnapshot),
  ("has_azure_price_snapshot", .bool view.hasAzurePriceSnapshot)]

/-- What the model is shown of a project. -/
def projectView (project : EditableProject D) : ToolOutcome D :=
  .ok (ProjectView.fromProject project).toJson

def currentProject : TurnM D (ToolOutcome D) :=
  withSelectedProject host context fun project => pure (projectView project)

/-! #### Patches -/

def validateProjectPatch (patch : ProjectPatch D) : TurnM D (ToolOutcome D) :=
  withSelectedProject host context fun project =>
    let issues := (patch.apply project).validate
    if issues = [] then pure (.ok (.object [("valid", .bool true)]))
    else pure (.invalid issues)

def mappingStatusName : MappingStatus → String
  | .mapped => "mapped"
  | .noMapping => "no_mapping"

def pricingStatusName : PricingStatus → String
  | .fresh => "fresh"
  | .cached => "cached"
  | .stale => "stale"
  | .unavailable => "unavailable"
  | .notRequired => "not_required"

def portfolioTotalsJson (totals : PortfolioTotals D) : Json := .object [
  ("aws_all_rows_total", ResourceJson.option ResourceJson.decimal totals.awsAllRowsTotal),
  ("aws_mapped_rows_total", ResourceJson.decimal totals.awsMappedRowsTotal),
  ("azure_mapped_rows_total", ResourceJson.decimal totals.azureMappedRowsTotal),
  ("required_portfolio_adjustment", ResourceJson.decimal totals.requiredPortfolioAdjustment),
  ("selected_parity_adjustment", ResourceJson.decimal totals.selectedParityAdjustment),
  ("portfolio_after_selected_parity", ResourceJson.decimal totals.portfolioAfterSelectedParity),
  ("portfolio_difference", ResourceJson.decimal totals.portfolioDifference),
  ("comparable_resource_count", .number totals.comparableResourceCount),
  ("no_mapping_resource_count", .number totals.noMappingResourceCount),
  ("price_unavailable_resource_count", .number totals.priceUnavailableResourceCount)]

def calculatedResourceJson (result : ResourceCalculation D) : Json := .object [
  ("resource_id", .string result.resourceId.text),
  ("mapping_status",
    ResourceJson.option (fun status => .string (mappingStatusName status)) result.mappingStatus),
  ("aws_pricing_status", .string (pricingStatusName result.awsPricingStatus)),
  ("azure_pricing_status", .string (pricingStatusName result.azurePricingStatus)),
  ("selected_target_configuration_key", ResourceJson.option .string
    ((result.targetSelection.bind TargetSelection.selected).map SelectedTarget.configurationKey)),
  ("unresolved_component_codes",
    .array (result.unresolvedComponents.map fun component => .string component.code))]

def calculationView (revision : CalculationRevision D) : Json := .object [
  ("formula_version", .string revision.formulaVersion),
  ("portfolio_totals", portfolioTotalsJson revision.portfolioTotals),
  ("warnings", .array (revision.warnings.map .string)),
  ("resources", .array (revision.resourceResults.map calculatedResourceJson))]

/-- A snapshot named by a project: the answer of the pricing service. -/
def snapshotNamed {S : Type} (answer : String → Except Unit (Option S)) :
    Option String → Option (Option S)
  | none => some none
  | some snapshotId => match answer snapshotId with
      | .ok (some snapshot) => some (some snapshot)
      | _ => none

/-- `calculate_project`; nothing stands for a problem, whose text is not used. -/
def calculateProject (history : History D) (project : EditableProject D) :
    Outcome Unit (CalculationRevision D) :=
  match snapshotNamed (host.getAws history) project.awsPriceSnapshotId,
      snapshotNamed (host.getAzure history) project.azurePriceSnapshotId with
  | some awsSnapshot, some azureSnapshot =>
      match Workflow.calculate host.engine {
        settings := project.settings
        resources := project.resources
        awsSnapshot := awsSnapshot
        azureSnapshot := azureSnapshot
        expectedFormulaVersion := none } with
      | .ok revision => .ok revision
      | .error (.error _) => .err ()
      | .error (.panic _) => .panic
  | _, _ => .err ()

def calculateProjectDraft (patch : ProjectPatch D) : TurnM D (ToolOutcome D) :=
  withSelectedProject host context fun project => do
    let candidate := patch.apply project
    let issues := candidate.validate
    if issues ≠ [] then return .invalid issues
    let history ← Locked.read
    if !host.calculationSlotFree history then return .unavailable "calculation_busy"
    match calculateProject host history candidate with
    | .ok revision => return .ok (calculationView revision)
    | .err _ => return .error "calculation_failed"
    | .panic => Locked.panic

/-- What staging a patch on a project gives. -/
def stagedPatch (project : EditableProject D) (input : StageProjectPatchInput D) :
    ToolOutcome D :=
  let candidate := input.patch.apply project
  let issues := candidate.validate
  if issues ≠ [] then .invalid issues
  else match projectPatchChanges project candidate input.patch with
    | .error _ => .invalid [⟨"/patch", "limit",
        "A proposal may change at most 500 individual fields."⟩]
    | .ok changes =>
        if changes = [] ∧ input.omissions = [] ∧ input.uncertainties = [] then
          .invalid [⟨"/patch", "required", "The extraction report must propose a change or identify an omission or uncertainty."⟩]
        else .staged
          (if changes = [] then none
            else some (.projectPatch ⟨"apply_project_patch", input.patch, changes⟩))
          input.omissions input.uncertainties

def stageProjectPatch (input : StageProjectPatchInput D) : TurnM D (ToolOutcome D) :=
  withSelectedProject host context fun project => pure (stagedPatch project input)

/-! #### New drafts -/

def ec2CatalogRamUnavailable : String := "Source RAM was not visible and authoritative AWS catalog memory was unavailable, so no project draft was created."

def gp3AssumedIops : String := "Provisioned IOPS were not visible for at least one gp3 volume, so the draft uses the AWS gp3 baseline of 3,000 IOPS, which AWS includes at no additional cost."

def io2AssumedIops : String := "Provisioned IOPS were not visible for at least one io2 volume, so the draft uses the AWS io2 minimum of 100 IOPS. Confirm the provisioned value because io2 bills every provisioned IOPS."

omit [DecimalArith D] in
def ec2CatalogRamMissing (ec2CatalogMemory : String → Option D)
    (input : StageNewProjectDraftInput D) : Bool :=
  isEc2Source input.projectType &&
    if input.resources = [] then (ec2CatalogMemory defaultEc2InstanceType).isNone
    else input.resources.any fun resource => resource.sourceRamGbPerInstance.isNone &&
      (ec2CatalogMemory (resource.instanceType.getD defaultEc2InstanceType)).isNone

omit [DecimalArith D] in
/-- Some volume of the draft has this type and no IOPS of its own. -/
def assumedIops (input : StageNewProjectDraftInput D) (assumed : EbsVolumeType) : Bool :=
  isEc2Source input.projectType && input.resources.any fun resource =>
    (resource.volumes.getD []).any fun volume =>
      volume.provisionedIops.isNone && volume.volumeType = some assumed

omit [DecimalArith D] in
/-- The defaults a draft rests on, as notes for its reviewer. -/
def assumptionNotes (input : StageNewProjectDraftInput D) : List String :=
  (if assumedIops input .gp3 then [gp3AssumedIops] else []) ++
    (if assumedIops input .io2 then [io2AssumedIops] else []) ++
    (if input.projectType = .onPrem ∧
        (input.settings.enterpriseLicenseSaUsdPerTwoCorePack.isNone ∨
          input.settings.standardLicenseSaUsdPerTwoCorePack.isNone) then
      ["Missing License + SA pack prices use the reviewed SQL Server 2022 public-book reference verified 2026-08-07."]
    else []) ++
    (if input.projectType = .sqlPayg ∧ input.settings.sqlPayg.all fun settings =>
        settings.softwareAssuranceAnnualUsd.isNone then
      ["Annual Software Assurance or renewal spend was not visible and is temporarily set to USD 0 for review."]
    else [])

/-- Nothing stands for a panic. -/
def stageNewProjectDraftWithEc2Memory (freshId : Nat → Nat → Uuid)
    (input : StageNewProjectDraftInput D) (ec2CatalogMemory : String → Option D) :
    Option (ToolOutcome D) :=
  if context.project.isSome then some (.unavailable "project_already_selected")
  else if ec2CatalogRamMissing ec2CatalogMemory input then
    some (.staged none input.omissions
      (if input.uncertainties.length < maxExtractionNotes then
        input.uncertainties ++ [ec2CatalogRamUnavailable]
      else input.uncertainties))
  else (newProjectDraft ec2CatalogMemory freshId input).map fun project =>
    let issues := project.validate
    if issues ≠ [] then .invalid issues
    else .staged (some (.newProjectDraft ⟨"open_project_draft", project⟩)) input.omissions
      (input.uncertainties ++ assumptionNotes input)

def stageNewProjectDraft (input : StageNewProjectDraftInput D) : TurnM D (ToolOutcome D) := do
  let history ← Locked.read
  let awsRegion := input.settings.awsRegion.getD "eu-west-1"
  let awsSnapshot :=
    if isEc2Source input.projectType then host.resolveAws history "USD" awsRegion else none
  Locked.expect (stageNewProjectDraftWithEc2Memory context (host.freshId history) input
    fun instanceType => (awsSnapshot.bind fun snapshot =>
      snapshot.ec2Rates.find? fun record => record.instanceType == instanceType).map fun record =>
        record.rate.catalogMemoryGb)

/-- One accepted call against the application services. -/
def dispatch : ToolInput D → TurnM D (ToolOutcome D)
  | .agentCapabilities => pure (agentCapabilities context)
  | .applicationHelp input => pure (applicationHelp host input)
  | .currentProject => currentProject host context
  | .validateProjectPatch patch => validateProjectPatch host context patch
  | .calculateProjectDraft patch => calculateProjectDraft host context patch
  | .stageProjectPatch input => stageProjectPatch host context input
  | .stageNewProjectDraft input => stageNewProjectDraft host context input

end Tools

end TcoCalculator.Assistant
