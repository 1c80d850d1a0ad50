/-
Handlers of saved projects: the calculation of one project and its update under a
tag (src/rust/src/api/calculations.rs, src/rust/src/api/projects.rs).
-/
import TcoCalculator.Api.Problem
import TcoCalculator.Library.Interaction
import TcoCalculator.Persistence.ProjectTimeline

namespace TcoCalculator

open ProjectRepository

/-- A call of the project store on behalf of an owner. -/
abbrev StoreCall (D : Type) := String × Call D

abbrev StoreAnswer (D : Type) := Outcome RepositoryError (Answer D)

/-- A request that calls the project store. -/
abbrev StoreHandler (D α : Type) := Handler (StoreCall D) (StoreAnswer D) Problem α

/-- What a handler uses besides the project store. -/
structure Services (D : Type) where
  engine : CalculationEngine D
  getAws : String → Except Unit (Option (AwsPriceSnapshot D))
  getAzure : String → Except Unit (Option (AzurePriceSnapshot D))
  calculationSlotFree : Bool

/-! ### Calculations -/

namespace Calculations

variable {D : Type} [DecimalArith D]

def instancePath : String := "/api/v1/calculations"

def mapCalculationError : CalculationError → Problem
  | .validation issues => .validation instancePath issues
  | .formulaVersionMismatch => .validation instancePath [⟨"/expected_formula_version", "mismatch",
      "Expected formula version does not match the server version."⟩]
  | .snapshotScopeMismatch _ => .snapshotUnavailable instancePath
  | .emptyCapabilityCatalog | .invalidTargetSelection | .targetSelection _
  | .vmTargetSelection _ | .cost _ | .sqlPayg _ => .internal instancePath

/-- The snapshot a project names, from the pricing service. -/
def snapshotNamed {S : Type} (answer : String → Except Unit (Option S)) :
    Option String → Except Problem (Option S)
  | none => .ok none
  | some snapshotId => match answer snapshotId with
      | .error _ => .error (.internal instancePath)
      | .ok none => .error (.snapshotUnavailable instancePath)
      | .ok (some snapshot) => .ok (some snapshot)

def calculateProject (services : Services D) (project : EditableProject D)
    (expectedFormulaVersion : Option String) : Outcome Problem (CalculationRevision D) := do
  let awsSnapshot ← Outcome.lift (snapshotNamed services.getAws project.awsPriceSnapshotId)
  let azureSnapshot ← Outcome.lift (snapshotNamed services.getAzure project.azurePriceSnapshotId)
  match Workflow.calculate services.engine {
    settings := project.settings
    resources := project.resources
    awsSnapshot := awsSnapshot
    azureSnapshot := azureSnapshot
    expectedFormulaVersion := expectedFormulaVersion } with
  | .ok revision => .ok revision
  | .error (.error error) => .err (mapCalculationError error)
  | .error (.panic _) => .panic

end Calculations

/-! ### Projects -/

namespace Projects

variable {D : Type} [DecimalArith D]

def itemInstance : String := "/api/v1/projects/\x7bproject_id\x7d"

def mapRepositoryError (instancePath : String) : RepositoryError → Problem
  | .notFound => .notFound instancePath "The requested project does not exist."
  | .preconditionFailed => .preconditionFailed instancePath none
  | .payloadTooLarge => .payloadTooLarge instancePath
  | .unavailable => .internal instancePath

def validateProject (project : EditableProject D) (instancePath : String) :
    Except Problem Unit :=
  ensure (project.validate = []) (.validation instancePath project.validate)

def calculateRevisionIfPriced (services : Services D) (project : EditableProject D)
    (instancePath : String) : Outcome Problem (Option (CalculationRevision D)) :=
  let isSqlPayg := project.settings.projectType == .sqlPayg
  let sourceSnapshotAvailable := project.settings.projectType == .onPrem || isSqlPayg ||
    project.awsPriceSnapshotId.isSome
  if isSqlPayg || (sourceSnapshotAvailable && project.azurePriceSnapshotId.isSome) then
    if services.calculationSlotFree then
      (Calculations.calculateProject services project none).map some
    else .err (.rateLimited instancePath 1)
  else .ok none

omit [DecimalArith D] in
/-- The document in the answer to a read or an update; these answer with nothing else. -/
def documentOf : StoreAnswer D → Outcome RepositoryError (ProjectDocument D)
  | .ok (.document document) => .ok document
  | .ok _ => .panic
  | .err error => .err error
  | .panic => .panic

omit [DecimalArith D] in
/-- The question mark operator on a call of the store. -/
def orProblem (problem : RepositoryError → Problem) :
    Outcome RepositoryError (ProjectDocument D) → StoreHandler D (ProjectDocument D)
  | .ok document => pure document
  | .err error => Handler.fail (problem error)
  | .panic => Handler.lift .panic

omit [DecimalArith D] in
/-- Read a project, its failure as a problem. -/
def readProject (ownerId : String) (projectId : Uuid) (problem : RepositoryError → Problem) :
    StoreHandler D (ProjectDocument D) := do
  let answer ← Handler.call (ownerId, .get projectId)
  orProblem problem (documentOf answer)

omit [DecimalArith D] in
/-- What an update answers; after a failed precondition the project is read again. -/
def updateAnswered (ownerId : String) (projectId : Uuid) (instancePath : String) :
    Outcome RepositoryError (ProjectDocument D) → StoreHandler D (ProjectDocument D)
  | .ok document => pure document
  | .err .preconditionFailed => do
      let answer ← Handler.call (ownerId, .get projectId)
      match documentOf answer with
      | .ok current => Handler.fail (.preconditionFailed instancePath (some current.etag))
      | .err _ => Handler.fail (.preconditionFailed instancePath none)
      | .panic => Handler.lift .panic
  | .err error => Handler.fail (mapRepositoryError instancePath error)
  | .panic => Handler.lift .panic

def updateProjectDocument (services : Services D) (ownerId : String) (projectId : Uuid)
    (ifMatch : String) (project : EditableProject D) (instancePath : String) :
    StoreHandler D (ProjectDocument D) := do
  Handler.check (validateProject project instancePath)
  let current ← readProject ownerId projectId (mapRepositoryError instancePath)
  Handler.check (ensure (current.etag = ifMatch)
    (Problem.preconditionFailed instancePath (some current.etag)))
  let revision ← Handler.lift (if pricingInputsUnchanged current project then .ok none
    else calculateRevisionIfPriced services project instancePath)
  let answer ← Handler.call (ownerId, .update projectId ifMatch project revision)
  updateAnswered ownerId projectId instancePath (documentOf answer)

/-- What a client is shown of a project, under its tag. -/
structure ProjectResponse (D : Type) where
  id : Uuid
  name : String
  description : Option String
  settings : ProjectSettings D
  resources : List (Resource D)
  awsPriceSnapshotId : Option String
  azurePriceSnapshotId : Option String
  createdAt : String
  updatedAt : String
  formulaVersion : String
  schemaVersion : String
  latestCalculationRevision : Option (CalculationRevision D)
  etag : String
  deriving DecidableEq

omit [DecimalArith D] in
def projectResponse (document : ProjectDocument D) : Except Problem (ProjectResponse D) := do
  ensure (Problem.isHeaderValue document.etag) (.internal itemInstance)
  return {
    id := document.id
    name := document.name
    description := document.description
    settings := document.settings
    resources := document.resources
    awsPriceSnapshotId := document.awsPriceSnapshotId
    azurePriceSnapshotId := document.azurePriceSnapshotId
    createdAt := document.createdAt
    updatedAt := document.updatedAt
    formulaVersion := document.formulaVersion
    schemaVersion := document.schemaVersion
    latestCalculationRevision := document.latestCalculationRevision
    etag := document.etag }

end Projects

end TcoCalculator
