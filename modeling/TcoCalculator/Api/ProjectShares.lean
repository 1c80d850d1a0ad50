/-
Handlers of project links, and of the end of a project, which takes its links with it
(src/rust/src/api/project_shares.rs, src/rust/src/api/projects.rs).
-/
import TcoCalculator.Api.AssistantAction
import TcoCalculator.Library.RequestPool
import TcoCalculator.Persistence.CalculatorLaunch
import TcoCalculator.Persistence.ProjectShareRun

namespace TcoCalculator.ProjectShares

open ProjectRepository (RepositoryError)
open ProjectShare
open Rfc3339 (UtcDateTime)

variable {D : Type}

/-- A call of one of the stores that the handlers share. -/
inductive ServiceCall (D : Type) where
  | projects (ownerId : String) (call : ProjectRepository.Call D)
  | shares (call : ProjectShare.Call D)
  | purgeLaunches (ownerId : String) (projectId : Uuid)

inductive ServiceAnswer (D : Type) where
  | projects (answer : StoreAnswer D)
  | shares (answer : Outcome ProjectShareError (ProjectShare.Answer D))
  | launches (answer : Outcome CalculatorLaunch.CalculatorLaunchError Unit)

abbrev ServiceHandler (D α : Type) := Handler (ServiceCall D) (ServiceAnswer D) Problem α

def createInstance : String := "/api/v1/projects/\x7bproject_id\x7d/shares"

def resolveInstance : String := "/api/v1/project-shares/resolve"

def revokeInstance : String := "/api/v1/projects/\x7bproject_id\x7d/shares/\x7bshare_id\x7d"

/-! ### Responses -/

inductive Body (D : Type) where
  | created (shareId secret : Uuid) (expiresAt : String)
  | project (project : EditableProject D)
  | empty

structure Response (D : Type) where
  status : Nat
  cacheControl : Option String
  body : Body D

def noStoreJson (status : Nat) (payload : Body D) : Response D := ⟨status, some "no-store", payload⟩

def createdResponse (created : CreatedProjectShare) : Response D :=
  noStoreJson 201
    (.created created.credentials.shareId created.credentials.secret created.expiresAt)

def mapProjectError (instancePath : String) : RepositoryError → Problem
  | .notFound => .notFound instancePath "The requested project does not exist."
  | .payloadTooLarge => .payloadTooLarge instancePath
  | .preconditionFailed | .unavailable => .internal instancePath

def mapShareError (instancePath : String) : ProjectShareError → Problem
  | .notFound => .notFound instancePath "The requested project share does not exist."
  | .expired => .gone instancePath "The project share has expired. Ask its owner for a new link."
  | .payloadTooLarge => .payloadTooLarge instancePath
  | .unavailable => .internal instancePath

def editableProject (document : ProjectDocument D) : EditableProject D where
  name := document.name
  description := document.description
  settings := document.settings
  resources := document.resources
  awsPriceSnapshotId := document.awsPriceSnapshotId
  azurePriceSnapshotId := document.azurePriceSnapshotId

/-! ### Answers -/

/- A store answers a call with what the call asks for, and with nothing else. -/

def projectAnswer : ServiceAnswer D → Outcome RepositoryError (ProjectDocument D)
  | .projects answer => Projects.documentOf answer
  | _ => .panic

def deleteAnswer : ServiceAnswer D → Outcome RepositoryError Unit
  | .projects answer => answer.map fun _ => ()
  | _ => .panic

def createAnswer : ServiceAnswer D → Outcome ProjectShareError CreatedProjectShare
  | .shares (.ok (.created share)) => .ok share
  | .shares (.err failure) => .err failure
  | _ => .panic

def resolveAnswer : ServiceAnswer D → Outcome ProjectShareError (EditableProject D)
  | .shares (.ok (.project project)) => .ok project
  | .shares (.err failure) => .err failure
  | _ => .panic

def revokeAnswer : ServiceAnswer D → Outcome ProjectShareError Unit
  | .shares answer => answer.map fun _ => ()
  | _ => .panic

def purgeAnswer : ServiceAnswer D → Outcome CalculatorLaunch.CalculatorLaunchError Unit
  | .launches answer => answer
  | _ => .panic

/-- The question mark operator on an answer. -/
def orProblem {ε α : Type} (problem : ε → Problem) (answer : Outcome ε α) : ServiceHandler D α :=
  Handler.lift (match answer with
    | .ok value => .ok value
    | .err failure => .err (problem failure)
    | .panic => .panic)

/-! ### Handlers -/

/-- The owner of the request, and the identifiers in its path where they can be read. -/
def authorized {α : Type} (principal : Except Unit (Option String)) (path : Option α)
    (instancePath : String) : ServiceHandler D (String × α) := do
  let ownerId ← Handler.check (Assistant.requirePrincipal principal instancePath)
  let ids ← Handler.check (path.elim (.error (.malformedRequest instancePath)) .ok)
  return (ownerId, ids)

/-- Take the new share back, its project being gone. -/
def revokeCreated (ownerId : String) (projectId : Uuid) (created : CreatedProjectShare)
    (failure : RepositoryError) : ServiceHandler D (Response D) := do
  let answer ← Handler.call (.shares (.revoke ownerId projectId created.credentials.shareId))
  orProblem (mapShareError createInstance) (revokeAnswer answer)
  Handler.fail (mapProjectError createInstance failure)

/-- Answer with the new share if its project is still there. -/
def recheckCreated (ownerId : String) (projectId : Uuid) (created : CreatedProjectShare) :
    ServiceHandler D (Response D) := do
  let answer ← Handler.call (.projects ownerId (.get projectId))
  match projectAnswer answer with
  | .ok _ => return createdResponse created
  | .err failure => revokeCreated ownerId projectId created failure
  | .panic => Handler.lift .panic

/-- The share gets the random identifiers of `credentials`. -/
def createShared (ownerId : String) (projectId : Uuid) (credentials : ProjectShareCredentials)
    (source : ProjectDocument D) : ServiceHandler D (Response D) := do
  let answer ← Handler.call
    (.shares (.create credentials ownerId projectId (editableProject source)))
  let created ← orProblem (mapShareError createInstance) (createAnswer answer)
  recheckCreated ownerId projectId created

def create (principal : Except Unit (Option String)) (path : Option Uuid)
    (credentials : ProjectShareCredentials) : ServiceHandler D (Response D) := do
  let (ownerId, projectId) ← authorized principal path createInstance
  let answer ← Handler.call (.projects ownerId (.get projectId))
  let source ← orProblem (mapProjectError createInstance) (projectAnswer answer)
  createShared ownerId projectId credentials source

/-- The lookup in the share store; a share found expired is dropped on the way out. -/
def resolveShare (credentials : ProjectShareCredentials) :
    ServiceHandler D (Outcome ProjectShareError (EditableProject D)) := do
  let answer ← Handler.call (.shares (.resolve credentials))
  match resolveAnswer answer with
  | .err .expired => do
      let answer ← Handler.call (.shares (.dropExpired credentials.shareId))
      match revokeAnswer answer with
      | .ok () => return .err .expired
      | .err _ => return .err .unavailable
      | .panic => Handler.lift .panic
  | outcome => return outcome

def resolve (principal : Except Unit (Option String))
    (request : Except Assistant.JsonRejection ProjectShareCredentials) :
    ServiceHandler D (Response D) := do
  let _ ← Handler.check (Assistant.requirePrincipal principal resolveInstance)
  let credentials ← Handler.check
    (request.mapError (Assistant.jsonRejection resolveInstance))
  let outcome ← resolveShare credentials
  let project ← orProblem (mapShareError resolveInstance) outcome
  return noStoreJson 200 (.project project)

def revoke (principal : Except Unit (Option String)) (path : Option (Uuid × Uuid)) :
    ServiceHandler D (Response D) := do
  let (ownerId, projectId, shareId) ← authorized principal path revokeInstance
  let answer ← Handler.call (.shares (.revoke ownerId projectId shareId))
  orProblem (mapShareError revokeInstance) (revokeAnswer answer)
  return ⟨204, none, .empty⟩

/-- What the end of a project does with its links, before and after. -/
def revokeShares (ownerId : String) (projectId : Uuid) : ServiceHandler D Unit := do
  let answer ← Handler.call (.shares (.revokeProject ownerId projectId))
  orProblem (fun _ => .internal Projects.itemInstance) (revokeAnswer answer)

def deleteProject (principal : Except Unit (Option String)) (path : Option Uuid) :
    ServiceHandler D (Response D) := do
  let (ownerId, projectId) ← authorized principal path Projects.itemInstance
  revokeShares ownerId projectId
  let answer ← Handler.call (.purgeLaunches ownerId projectId)
  orProblem (fun _ => .internal Projects.itemInstance) (purgeAnswer answer)
  let answer ← Handler.call (.projects ownerId (.delete projectId))
  orProblem (Projects.mapRepositoryError Projects.itemInstance) (deleteAnswer answer)
  revokeShares ownerId projectId
  return ⟨204, none, .empty⟩

end TcoCalculator.ProjectShares
