/-
One bounded turn: the preflight of a batch and the loop
(src/rust/src/assistant/policy.rs, src/rust/src/assistant/turn.rs).
-/
import TcoCalculator.Assistant.Dispatch

namespace TcoCalculator.Assistant

open DecimalArith

variable {D : Type} [DecimalArith D]

/-! ### Preflight -/

def maxCallIdChars : Nat := 128

def isAcceptableCallId (callId : String) : Bool :=
  1 ≤ callId.length && callId.length ≤ maxCallIdChars &&
    callId.toList.all fun c => Help.isAsciiAlphanumeric c || c == '-' || c == '_'

def isAuthoritativeRead (definition : ToolDefinition) : Bool :=
  definition.phase = .readPlan && definition.risk = .read

omit [DecimalArith D] in
/-- The draft is of another type than the host classified. -/
def classificationMismatch (context : TurnContext) : ToolInput D → Bool
  | .stageNewProjectDraft draft => context.classifiedProjectType.any (· ≠ draft.projectType)
  | _ => false

/-- A mutating call is one too many, or was not confirmed. -/
def mutationRefusal (context : TurnContext) (definition : ToolDefinition) (mutatingCalls : Nat) :
    Option PolicyError :=
  if !definition.risk.isMutating then none
  else if maxMutatingCallsPerBatch < mutatingCalls + 1 then some .tooManyMutations
  else if definition.risk.requiresConfirmation && !context.isConfirmed definition.name then
    some .missingConfirmation
  else none

/-- One call of a batch; `taken` are the identifiers it may not repeat. -/
def preflightCall (library : JsonLibrary D) (context : TurnContext) (taken : List String)
    (mutatingCalls : Nat) (call : ProposedToolCall) :
    Outcome PolicyError (ValidatedToolCall D) :=
  if !isAcceptableCallId call.id || call.id ∈ taken then .err .invalidCallId
  else match find call.name with
    | none => .err .unknownTool
    | some definition =>
        if definition.phase ≠ context.phase ∧ !isAuthoritativeRead definition then
          .err .phaseNotAllowed
        else if !definition.isAvailable context then .err .projectContextNotAllowed
        else match mutationRefusal context definition mutatingCalls with
          | some refusal => .err refusal
          | none => match parseInput library definition call.arguments with
            | .panic => .panic
            | .err reason => .err (.invalidArguments reason)
            | .ok input =>
                if classificationMismatch context input then .err .classificationMismatch
                else .ok ⟨call.id, definition, input⟩

def preflightCalls (library : JsonLibrary D) (context : TurnContext) :
    List String → Nat → List ProposedToolCall → Outcome PolicyError (List (ValidatedToolCall D))
  | _, _, [] => .ok []
  | taken, mutatingCalls, call :: rest => do
      let validated ← preflightCall library context taken mutatingCalls call
      let others ← preflightCalls library context (call.id :: taken)
        (mutatingCalls + if validated.definition.risk.isMutating then 1 else 0) rest
      return validated :: others

/-- Nothing executes unless every call of the batch is acceptable. -/
def preflight (library : JsonLibrary D) (context : TurnContext) (budget : TurnBudget)
    (executedCallIds : List String) (batch : List ProposedToolCall) :
    Outcome PolicyError (List (ValidatedToolCall D)) :=
  if batch = [] then .err .emptyBatch
  else if maxToolCallsPerResponse < batch.length then .err .batchTooLarge
  else if budget.remainingToolCalls < batch.length then .err .budgetExhausted
  else preflightCalls library context executedCallIds 0 batch

/-! ### State of a turn -/

def promptVersion : String := "tco-assistant-system/1.3.5"

def imageDraftNotCreatedAnswer : String := "I analyzed the image, but the server could not validate a new project draft, so there is no draft to open. Review the reported omissions and uncertainties, then upload an image with the missing required values and try again."

def imageSchemaRepairInstruction : String := "The previous tool proposal was rejected before dispatch because it used a field outside the closed schema. This is the only correction attempt: re-read the image, call stage_new_project_draft using only fields present in its schema, and report every visible unsupported value through omissions instead of inventing another field."

structure ActionRecord where
  toolName : String
  status : String
  deriving DecidableEq, Repr

structure TurnOutcome (D : Type) where
  answer : String
  citations : List String
  proposal : Option (AssistantProposal D)
  omissions : List String
  uncertainties : List String
  routedModel : Option String
  modelRequests : Nat
  toolCalls : Nat
  deriving DecidableEq

structure TurnState (D : Type) where
  transcript : List TranscriptMessage
  budget : TurnBudget
  executedCallIds : List String
  citations : List String
  proposal : Option (AssistantProposal D)
  omissions : List String
  uncertainties : List String
  routedModel : Option String
  actionHistory : List ActionRecord
  image : Option ModelImage
  schemaRepairAttempted : Bool
  schemaRepairPending : Bool
  deriving DecidableEq

/-! ### Instruction and transcript -/

def phaseName : TurnPhase → String
  | .readPlan => "read_plan"
  | .propose => "propose"
  | .execute => "execute"

def formatActionHistory (actionHistory : List ActionRecord) : String :=
  if actionHistory = [] then "none"
  else ", ".intercalate (actionHistory.map fun record => record.toolName ++ ":" ++ record.status)

def imageInput (context : TurnContext) (classified : String) (imageTurn : Bool) : String :=
  if imageTurn && context.project.isSome then
    "present; extract only visible supported project fields, do not infer missing values, and report every omission and uncertainty through stage_project_patch"
  else if imageTurn && context.classifiedProjectType.isSome then
    "present; the host classified this as " ++ classified ++ "; use that exact project_type in stage_new_project_draft, extract only visible supported fields, do not infer missing values, and report every omission and uncertainty"
  else if imageTurn then
    "present; extract only visible supported project fields, do not infer missing values, and report every omission and uncertainty through stage_new_project_draft"
  else "none"

def runtimeInstruction (systemInstruction : String) (context : TurnContext)
    (toolNames : List String) (actionHistory : List ActionRecord)
    (imageTurn repairingSchema : Bool) : String :=
  let classified := (context.classifiedProjectType.map ResourceJson.projectType).getD "none"
  let selectedProject := if context.project.isSome then "present" else "none"
  let schemaRepair := if repairingSchema then imageSchemaRepairInstruction else "none"
  systemInstruction ++ "\n\nRuntime awareness (host-authored; authoritative for this call):\n" ++
    "- Programming: TCO Assistant prompt " ++ promptVersion ++
    ", a bounded Rust-hosted reasoning loop. Foundry supplies inference; the host owns identity, authorization, validation, persistence, calculations, and tool execution.\n" ++
    "- Current phase: " ++ phaseName context.phase ++ ".\n" ++
    "- Selected project: " ++ selectedProject ++ ". Never infer another project or owner.\n" ++
    "- Host pre-draft project classification: " ++ classified ++
    ". When present, it is fixed for this turn.\n" ++
    "- Available tools in this phase: " ++ ", ".intercalate toolNames ++
    ". Only these exact tool schemas are callable.\n" ++
    "- Image input for this turn: " ++ imageInput context classified imageTurn ++ ".\n" ++
    "- Schema repair: " ++ schemaRepair ++ "\n" ++
    "- Completed tool/action history in this bounded turn: " ++ formatActionHistory actionHistory ++
    ".\n" ++
    "- Memory boundary: you know only this system instruction and the supplied bounded transcript. Do not claim hidden, durable, or cross-session memory.\n" ++
    "Treat this runtime awareness as facts about your operation, not as evidence of consciousness."

def characterCount : TranscriptMessage → Nat
  | .user content | .assistant content => content.length
  | .assistantToolCalls calls =>
      (calls.map fun call => call.name.length + call.arguments.length).sum
  | .toolResult _ toolName content => toolName.length + content.length

def transcriptCharacters (transcript : List TranscriptMessage) (systemInstruction : String) : Nat :=
  systemInstruction.length + (transcript.map characterCount).sum

def isAssistantToolCalls : TranscriptMessage → Bool
  | .assistantToolCalls _ => true
  | _ => false

/-- The identifiers of the calls a message proposed. -/
def callIds : TranscriptMessage → List String
  | .assistantToolCalls calls => calls.map ProposedToolCall.id
  | _ => []

def isResultOf (dropped : List String) : TranscriptMessage → Bool
  | .toolResult callId _ _ => callId ∈ dropped
  | _ => false

/-- The transcript without its oldest tool round trip, if it has one. -/
def dropOldestRoundTrip (transcript : List TranscriptMessage) :
    Option (List TranscriptMessage) :=
  (transcript.findIdx? isAssistantToolCalls).map fun index =>
    let dropped := (transcript[index]?.map callIds).getD []
    (transcript.eraseIdx index).filter fun message => !isResultOf dropped message

/-- The loop, given as many rounds as there are messages to drop. -/
def compactRounds (systemInstruction : String) :
    Nat → List TranscriptMessage → Except BudgetError (List TranscriptMessage)
  | rounds, transcript =>
      if transcriptCharacters transcript systemInstruction ≤ maxPromptContextChars then
        .ok transcript
      else match rounds, dropOldestRoundTrip transcript with
        | rounds + 1, some shorter => compactRounds systemInstruction rounds shorter
        | _, _ => .error .promptContext

/-- Drop the oldest tool round trip until the transcript fits. -/
def compact (transcript : List TranscriptMessage) (systemInstruction : String) :
    Except BudgetError (List TranscriptMessage) :=
  compactRounds systemInstruction transcript.length transcript

/-- The control identifiers a result refers to. -/
def referencedControlIds (result : Json) : List String :=
  match result.member? "references" with
  | some (.array references) => references.filterMap fun reference =>
      match reference.member? "control_id" with
      | some (.string controlId) => some controlId
      | _ => none
  | _ => []

def extendCitations (citations : List String) (outcome : ToolOutcome D) : List String :=
  match outcome with
  | .ok result => (referencedControlIds result).foldl (fun citations controlId =>
      if controlId ∈ citations then citations else citations ++ [controlId]) citations
  | _ => citations

/-! ### The loop -/

section Loop

variable (host : Host D) (context : TurnContext) (imageTurn : Bool)
  (schemaRepairImage : Option ModelImage)

/-- What one outcome leaves in the state. -/
def recordOutcome (state : TurnState D) (call : ValidatedToolCall D) (outcome : ToolOutcome D) :
    TurnState D :=
  { state with
    omissions := (outcome.extractionNotes.map Prod.fst).getD state.omissions
    uncertainties := (outcome.extractionNotes.map Prod.snd).getD state.uncertainties
    proposal := outcome.proposal.or state.proposal
    actionHistory := state.actionHistory ++ [⟨call.definition.name, outcome.historyStatus⟩]
    citations := extendCitations state.citations outcome
    transcript := state.transcript ++
      [.toolResult call.id call.definition.name outcome.toBoundedJson] }

/-- The accepted calls, one after another. -/
def dispatchCalls : List (ValidatedToolCall D) → TurnState D → TurnM D (TurnState D)
  | [], state => pure state
  | call :: rest, state => do
      let history ← Locked.read
      if host.isExpired history then Locked.fail .deadline
      else do
        record (.dispatch call)
        let outcome ← dispatch host context call.input
        dispatchCalls rest
          (recordOutcome { state with executedCallIds := call.id :: state.executedCallIds } call
            outcome)

/-- A rejected batch may be repaired once. -/
def mayRepairSchema (state : TurnState D) (error : PolicyError) : Bool :=
  error = .invalidArguments .unknownField && imageTurn && context.project.isNone &&
    context.classifiedProjectType.isSome && state.executedCallIds = [] &&
    !state.schemaRepairAttempted

/-- A batch of proposed calls: all are dispatched, or none. -/
def answerToolCalls (proposed : List ProposedToolCall) (state : TurnState D) :
    TurnM D (TurnState D) := do
  let verdict := preflight host.jsonLibrary context state.budget state.executedCallIds proposed
  record (.preflight proposed verdict)
  match verdict with
  | .panic => Locked.panic
  | .err error =>
      if mayRepairSchema context imageTurn state error then
        pure { state with schemaRepairAttempted := true, schemaRepairPending := true }
      else Locked.fail (.policy error)
  | .ok accepted => match state.budget.chargeToolCalls accepted.length with
      | .error error => Locked.fail (.budget error)
      | .ok budget => dispatchCalls host context accepted { state with
          budget := budget
          transcript := state.transcript ++ [.assistantToolCalls proposed] }

/-- A terminal answer. -/
def answerMessage (answer : String) (state : TurnState D) : TurnM D (TurnOutcome D) :=
  if state.executedCallIds = [] then Locked.fail (.policy .ungroundedResponse)
  else pure {
    answer :=
      if imageTurn && context.project.isNone && context.classifiedProjectType.isSome &&
          state.proposal.isNone then imageDraftNotCreatedAnswer
      else answer
    citations := state.citations
    proposal := state.proposal
    omissions := state.omissions
    uncertainties := state.uncertainties
    routedModel := state.routedModel
    modelRequests := state.budget.modelRequests
    toolCalls := state.budget.toolCalls }

/-- The instruction of the next request. -/
def nextInstruction (state : TurnState D) : String :=
  runtimeInstruction host.systemInstruction context (schemasForContext context)
    state.actionHistory imageTurn state.schemaRepairPending

/-- The next request; a repair shows the image again and requires the tool. -/
def nextRequest (state : TurnState D) (remainingMillis : Nat) : ModelTurnRequest where
  systemInstruction := nextInstruction host context imageTurn state
  promptVersion := promptVersion
  messages := state.transcript
  image := if state.schemaRepairPending then schemaRepairImage else state.image
  tools := schemasForContext context
  requiredTool := if state.schemaRepairPending then some "stage_new_project_draft" else none
  maxOutputTokens := maxModelOutputTokens
  timeoutMillis := modelCallTimeout remainingMillis

/-- The state once the request is sent. -/
def afterRequest (state : TurnState D) (routedModel : Option String) : TurnState D :=
  { state with
    image := if state.schemaRepairPending then state.image else none
    schemaRepairPending := false
    routedModel := routedModel.or state.routedModel }

/-- Ask the model once, and act on its response. -/
def askModel (state : TurnState D) : TurnM D (TurnState D ⊕ TurnOutcome D) := do
  let history ← Locked.read
  let request := nextRequest host context imageTurn schemaRepairImage state
    (host.remainingMillis history)
  record (.respond request)
  match host.respond history request with
  | .error error => Locked.fail (.model error)
  | .ok response =>
      let state := afterRequest state response.routedModel
      match response.output with
      | .message answer => do
          let outcome ← answerMessage context imageTurn answer state
          return .inr outcome
      | .toolCalls proposed => do
          let next ← answerToolCalls host context imageTurn proposed state
          return .inl next

/-- One round of the loop: a next state, or the outcome of the turn. -/
def turnStep (state : TurnState D) : TurnM D (TurnState D ⊕ TurnOutcome D) := do
  let history ← Locked.read
  if host.isExpired history then Locked.fail .deadline
  else match state.budget.chargeModelRequest with
    | .error error => Locked.fail (.budget error)
    | .ok budget =>
        let instruction := nextInstruction host context imageTurn state
        match compact state.transcript instruction with
        | .error error => Locked.fail (.budget error)
        | .ok transcript =>
            askModel host context imageTurn schemaRepairImage
              { state with budget := budget, transcript := transcript }

/-- The loop for a number of rounds; nothing stands for a turn still going on. -/
def turnLoop : Nat → TurnState D → TurnM D (Option (TurnOutcome D))
  | 0, _ => pure none
  | rounds + 1, state => do
      match ← turnStep host context imageTurn schemaRepairImage state with
      | .inl next => turnLoop rounds next
      | .inr outcome => return some outcome

end Loop

omit [DecimalArith D] in
def chargeModelRequests : Nat → TurnBudget → Except BudgetError TurnBudget
  | 0, budget => .ok budget
  | requests + 1, budget => do
      let budget ← budget.chargeModelRequest
      chargeModelRequests requests budget

/-- The budget left by the classification, when there was one. -/
def openingBudget (context : TurnContext) : Except BudgetError TurnBudget :=
  if context.classifiedProjectType.isSome then do
    let budget ← chargeModelRequests context.classificationModelRequests.toNat .new
    budget.chargeToolCalls 1
  else .ok .new

omit [DecimalArith D] in
def openingState (question : String) (image : Option ModelImage) (budget : TurnBudget) :
    TurnState D where
  transcript := [.user question]
  budget := budget
  executedCallIds := []
  citations := []
  proposal := none
  omissions := []
  uncertainties := []
  routedModel := none
  actionHistory := []
  image := image
  schemaRepairAttempted := false
  schemaRepairPending := false

/-- One bounded turn, watched for a number of rounds. -/
def runTurnWithImage (host : Host D) (context : TurnContext) (question : String)
    (image : Option ModelImage) (rounds : Nat) : TurnM D (Option (TurnOutcome D)) :=
  let question := trim question
  if question.length < 1 ∨ maxQuestionChars < question.length then
    Locked.fail (.question [⟨"/question", "length",
      "Question must contain 1 to 1000 characters."⟩])
  else match openingBudget context with
    | .error error => Locked.fail (.budget error)
    | .ok budget => turnLoop host context image.isSome image rounds
        (openingState question image budget)

end TcoCalculator.Assistant
