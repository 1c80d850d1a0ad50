/-
Requests that create, read and update saved projects (src/rust/src/api/projects.rs).
-/
import TcoCalculator.Api.AssistantAction

namespace TcoCalculator.Projects

open ProjectRepository
open Assistant (JsonRejection jsonRejection requirePrincipal)

variable {D : Type}

def collectionInstance : String := "/api/v1/projects"

def requestBody (body : Except JsonRejection (EditableProject D)) (instancePath : String) :
    Except Problem (EditableProject D) :=
  body.mapError (jsonRejection instancePath)

/-- The identifier in the path, where it can be read. -/
def projectId (path : Option Uuid) : Except Problem Uuid :=
  path.elim (.error (.malformedRequest itemInstance)) .ok

/-- The header, where there is one and it is a text. -/
def requiredTag : Option (Option String) → Except Problem String
  | none => .error (.preconditionRequired itemInstance)
  | some none => .error (.preconditionFailed itemInstance none)
  | some (some text) => .ok text

def get (principal : Except Unit (Option String)) (path : Option Uuid) :
    StoreHandler D (ProjectResponse D) := do
  let ownerId ← Handler.check (requirePrincipal principal itemInstance)
  let projectId ← Handler.check (projectId path)
  let document ← readProject ownerId projectId (mapRepositoryError itemInstance)
  Handler.check (projectResponse document)

variable [DecimalArith D] (services : Services D)

/-- `id` is the fresh random identifier that the store gives the project. -/
def create (principal : Except Unit (Option String))
    (body : Except JsonRejection (EditableProject D)) (id : Uuid) :
    StoreHandler D (ProjectResponse D) := do
  let ownerId ← Handler.check (requirePrincipal principal collectionInstance)
  let project ← Handler.check (requestBody body collectionInstance)
  Handler.check (validateProject project collectionInstance)
  let revision ← Handler.lift (calculateRevisionIfPriced services project collectionInstance)
  let answer ← Handler.call (ownerId, .create id project revision)
  let document ← orProblem (mapRepositoryError collectionInstance) (documentOf answer)
  Handler.check (projectResponse document)

def update (principal : Except Unit (Option String)) (path : Option Uuid)
    (ifMatch : Option (Option String)) (body : Except JsonRejection (EditableProject D)) :
    StoreHandler D (ProjectResponse D) := do
  let ownerId ← Handler.check (requirePrincipal principal itemInstance)
  let projectId ← Handler.check (projectId path)
  let tag ← Handler.check (requiredTag ifMatch)
  let project ← Handler.check (requestBody body itemInstance)
  let document ← updateProjectDocument services ownerId projectId tag project itemInstance
  Handler.check (projectResponse document)

end TcoCalculator.Projects
