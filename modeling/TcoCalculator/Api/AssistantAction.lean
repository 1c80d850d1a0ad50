/-
Proposals of the assistant bound to an owner and a tag, and their confirmation
(src/rust/src/api/assistant.rs).
-/
import TcoCalculator.Api.Projects
import TcoCalculator.Assistant.Turn

namespace TcoCalculator.Assistant

open ProjectRepository

def actionInstance : String := "/api/v1/assistant/actions"

def actionConfirmationValue : String := "apply_project_patch"

inductive AssistantAction where
  | applyProjectPatch
  deriving DecidableEq, Repr

def AssistantAction.text : AssistantAction → String
  | .applyProjectPatch => "apply_project_patch"

structure BoundProjectPatchProposal (D : Type) where
  proposalId : String
  action : AssistantAction
  projectId : Uuid
  expectedEtag : String
  patch : ProjectPatch D
  changes : List ProjectPatchChange
  deriving DecidableEq

structure BoundNewProjectDraftProposal (D : Type) where
  proposalId : String
  action : String
  project : EditableProject D
  deriving DecidableEq

inductive BoundAssistantProposal (D : Type) where
  | projectPatch (proposal : BoundProjectPatchProposal D)
  | newProjectDraft (proposal : BoundNewProjectDraftProposal D)
  deriving DecidableEq

structure ActionRequest (D : Type) where
  proposalId : String
  action : AssistantAction
  projectId : Uuid
  expectedEtag : String
  patch : ProjectPatch D
  deriving DecidableEq

/-! ### Binding -/

section Binding

variable {D : Type} [DecimalArith D]

/-- Absent members are written as nulls. -/
def ProjectPatch.toJson (patch : ProjectPatch D) : Json := .object [
  ("name", ResourceJson.option .string patch.name),
  ("description", ResourceJson.option .string patch.description),
  ("settings", ResourceJson.option ProjectJson.settings patch.settings),
  ("resources", ResourceJson.option ProjectJson.resources patch.resources)]

/-- What the identifier of a patch proposal is the digest of. -/
def patchBinding (ownerId : String) (projectId : Uuid) (expectedEtag : String)
    (action : AssistantAction) (patch : ProjectPatch D) : Json := .object [
  ("version", .string "assistant-proposal/1"),
  ("owner_id", .string ownerId),
  ("project_id", .string projectId.text),
  ("expected_etag", .string expectedEtag),
  ("action", .string action.text),
  ("patch", patch.toJson)]

/- The hexadecimal digest of a text. -/
variable (sha256 : String → String)

def proposalId (ownerId : String) (projectId : Uuid) (expectedEtag : String)
    (action : AssistantAction) (patch : ProjectPatch D) : String :=
  "sha256:" ++ sha256 (patchBinding ownerId projectId expectedEtag action patch).render

def bindProjectPatchProposal (ownerId : String) (projectId : Uuid) (expectedEtag : String)
    (proposal : ProjectPatchProposal D) : BoundProjectPatchProposal D where
  proposalId := proposalId sha256 ownerId projectId expectedEtag .applyProjectPatch proposal.patch
  action := .applyProjectPatch
  projectId := projectId
  expectedEtag := expectedEtag
  patch := proposal.patch
  changes := proposal.changes

def bindNewProjectDraft (ownerId : String) (proposal : NewProjectDraftProposal D) :
    BoundNewProjectDraftProposal D where
  proposalId := "sha256:" ++ sha256 (Json.object [
    ("version", .string "assistant-project-draft/1"),
    ("owner_id", .string ownerId),
    ("action", .string proposal.action),
    ("project", ProjectJson.editable proposal.project)]).render
  action := proposal.action
  project := proposal.project

def bindProposal (ownerId : String) (selected : Option SelectedProject) (instancePath : String) :
    AssistantProposal D → Except Problem (BoundAssistantProposal D)
  | .projectPatch proposal => match selected with
      | none => .error (.internal instancePath)
      | some selected => .ok (.projectPatch
          (bindProjectPatchProposal sha256 ownerId selected.id selected.etag proposal))
  | .newProjectDraft proposal => match selected with
      | some _ => .error (.internal instancePath)
      | none => .ok (.newProjectDraft (bindNewProjectDraft sha256 ownerId proposal))

/-- The context of a turn about a project, as it was read at the start. -/
def turnContext (ownerId : String) (requestId : Uuid) (project : ProjectDocument D) : TurnContext :=
  (TurnContext.new ownerId requestId .propose).withProject {
    id := project.id
    etag := project.etag
    awsPriceSnapshotId := project.awsPriceSnapshotId
    azurePriceSnapshotId := project.azurePriceSnapshotId }

/-- The proposal a turn returns. -/
def boundProposal (context : TurnContext) (instancePath : String) (outcome : TurnOutcome D) :
    Except Problem (Option (BoundAssistantProposal D)) :=
  match outcome.proposal with
  | none => .ok none
  | some proposal =>
      (bindProposal sha256 context.ownerId context.project instancePath proposal).map some

end Binding

/-! ### Confirmation -/

inductive JsonRejection where
  | payloadTooLarge
  | malformed
  deriving DecidableEq, Repr

def jsonRejection (instancePath : String) : JsonRejection → Problem
  | .payloadTooLarge => .payloadTooLarge instancePath
  | .malformed => .malformedRequest instancePath

/-- The owner of the identity that the headers resolve to, if any. -/
def requirePrincipal (principal : Except Unit (Option String)) (instancePath : String) :
    Except Problem String :=
  match principal with
  | .error _ => .error (.unauthorized instancePath "A valid Microsoft identity is required.")
  | .ok none => .error
      (.unauthorized instancePath "Sign in with Microsoft to access saved projects.")
  | .ok (some ownerId) => .ok ownerId

/-- `confirmation` is the confirmation header, where it is a text. -/
def requireActionConfirmation (confirmation : Option String) : Except Problem Unit :=
  ensure (confirmation = some actionConfirmationValue) (.actionConfirmationRequired actionInstance)

def mapActionProjectError : RepositoryError → Problem
  | .notFound => .notFound actionInstance "The requested project does not exist."
  | .payloadTooLarge => .payloadTooLarge actionInstance
  | .preconditionFailed => .preconditionFailed actionInstance none
  | .unavailable => .internal actionInstance

section Action

variable {D : Type} [DecimalArith D]

/-- The project read back after the write is the one that was meant. -/
def verifyWritten (written authoritative : ProjectDocument D) (expected : EditableProject D) :
    Except Problem Unit :=
  ensure (authoritative.etag = written.etag ∧
    ProjectJson.editable (editableProject authoritative) = ProjectJson.editable expected)
    (.preconditionFailed actionInstance (some authoritative.etag))

def proposalMismatch : Problem :=
  .validation actionInstance [⟨"/proposal_id", "mismatch",
    "The confirmed proposal does not match this action request."⟩]

/-- The request once its owner is known and its body is read. -/
def confirmedAction (sha256 : String → String) (services : Services D) (ownerId : String)
    (request : ActionRequest D) : StoreHandler D (Projects.ProjectResponse D) := do
  Handler.check (ensure (request.proposalId = proposalId sha256 ownerId request.projectId
    request.expectedEtag request.action request.patch) proposalMismatch)
  let current ← Projects.readProject ownerId request.projectId mapActionProjectError
  Handler.check (ensure (current.etag = request.expectedEtag)
    (Problem.preconditionFailed actionInstance (some current.etag)))
  let candidate := request.patch.apply (editableProject current)
  let written ← Projects.updateProjectDocument services ownerId request.projectId
    request.expectedEtag candidate actionInstance
  let authoritative ← Projects.readProject ownerId request.projectId mapActionProjectError
  Handler.check (verifyWritten written authoritative candidate)
  Handler.check (Projects.projectResponse authoritative)

/-- Apply one exact patch after a separate confirmation. -/
def action (sha256 : String → String) (services : Services D)
    (principal : Except Unit (Option String)) (confirmation : Option String)
    (body : Except JsonRejection (ActionRequest D)) :
    StoreHandler D (Projects.ProjectResponse D) := do
  let ownerId ← Handler.check (requirePrincipal principal actionInstance)
  Handler.check (requireActionConfirmation confirmation)
  let request ← Handler.check (match body with
    | .ok request => Except.ok request
    | .error rejection => .error (jsonRejection actionInstance rejection))
  confirmedAction sha256 services ownerId request

end Action

end TcoCalculator.Assistant
