/-
Saved projects and their in-memory repository
(src/rust/src/persistence/repository.rs).
-/
import TcoCalculator.Calculation.Workflow
import TcoCalculator.Domain.Project
import TcoCalculator.Library.Fallible
import TcoCalculator.Library.HashMap
import TcoCalculator.Library.JsonUnambiguous
import TcoCalculator.Library.Locked

namespace TcoCalculator

namespace Config

def formulaVersion : String := "1.3.0"
def schemaVersion : String := "1.0.0"

end Config

structure ProjectDocument (D : Type) where
  id : Uuid
  documentType : String
  ownerId : String
  name : String
  description : Option String
  settings : ProjectSettings D
  resources : List (Resource D)
  awsPriceSnapshotId : Option String
  azurePriceSnapshotId : Option String
  latestCalculationRevision : Option (CalculationRevision D)
  formulaVersion : String
  schemaVersion : String
  createdAt : String
  updatedAt : String
  etag : String
  deriving DecidableEq

namespace ProjectRepository

open Rfc3339

def maxProjectDocumentBytes : Nat := 1800000
def projectDocumentType : String := "project"

inductive RepositoryError where
  | notFound
  | preconditionFailed
  | payloadTooLarge
  | unavailable
  deriving DecidableEq, Repr

structure StoredProject (D : Type) where
  document : ProjectDocument D
  version : Nat
  deriving DecidableEq

abbrev ProjectKey := String × Uuid

abbrev ProjectMap (D : Type) := HashMap ProjectKey (StoredProject D)

/-- The in-memory repository. -/
abbrev Repository (D : Type) := RwLock (ProjectMap D)

def emptyRepository {D : Type} : Repository D := ⟨∅, false⟩

def currentTimestamp (now : UtcDateTime) : Except RepositoryError String :=
  match format now with
  | some text => .ok text
  | none => .error .unavailable

def projectEtag (version : Nat) : String := "\"" ++ toString version ++ "\""

/-! ### Documents -/

section Documents

variable {D : Type} [DecimalArith D]
/- The length of a document's JSON text in bytes. -/
variable (documentBytes : ProjectDocument D → Nat)

def enforceDocumentSize (document : ProjectDocument D) : Except RepositoryError Unit :=
  ensure (documentBytes document < maxProjectDocumentBytes) .payloadTooLarge

/-- The document of a new project, before its size is checked. -/
def freshDocument (ownerId : String) (id : Uuid) (project : EditableProject D)
    (calculationRevision : Option (CalculationRevision D)) (timestamp etag : String) :
    ProjectDocument D where
  id := id
  documentType := projectDocumentType
  ownerId := ownerId
  name := project.name
  description := project.description
  settings := project.settings
  resources := project.resources
  awsPriceSnapshotId := project.awsPriceSnapshotId
  azurePriceSnapshotId := project.azurePriceSnapshotId
  latestCalculationRevision := calculationRevision
  formulaVersion := Config.formulaVersion
  schemaVersion := Config.schemaVersion
  createdAt := timestamp
  updatedAt := timestamp
  etag := etag

def newProjectDocument (ownerId : String) (id : Uuid) (project : EditableProject D)
    (calculationRevision : Option (CalculationRevision D)) (timestamp etag : String) :
    Except RepositoryError (ProjectDocument D) := do
  let document := freshDocument ownerId id project calculationRevision timestamp etag
  enforceDocumentSize documentBytes document
  return document

/-- What a calculation depends on, as one value. -/
def pricingInputs (settings : ProjectSettings D) (resources : List (Resource D))
    (awsPriceSnapshotId azurePriceSnapshotId : Option String) : Json :=
  .array [ProjectJson.settings settings, ProjectJson.resources resources,
    ResourceJson.option .string awsPriceSnapshotId,
    ResourceJson.option .string azurePriceSnapshotId]

def pricingInputsUnchanged (stored : ProjectDocument D) (editable : EditableProject D) : Bool :=
  (pricingInputs stored.settings stored.resources stored.awsPriceSnapshotId
      stored.azurePriceSnapshotId).render ==
    (pricingInputs editable.settings editable.resources editable.awsPriceSnapshotId
      editable.azurePriceSnapshotId).render

/-- The revision an update stores: the stored one while the pricing inputs
stand, the new one otherwise. -/
def updatedRevision (stored : ProjectDocument D) (project : EditableProject D)
    (calculationRevision : Option (CalculationRevision D)) : Option (CalculationRevision D) :=
  if pricingInputsUnchanged stored project then stored.latestCalculationRevision
  else calculationRevision

/-- The document of an updated project, before its size is checked. -/
def revisedDocument (stored : ProjectDocument D) (project : EditableProject D)
    (calculationRevision : Option (CalculationRevision D)) (timestamp etag : String) :
    ProjectDocument D where
  id := stored.id
  documentType := projectDocumentType
  ownerId := stored.ownerId
  name := project.name
  description := project.description
  settings := project.settings
  resources := project.resources
  awsPriceSnapshotId := project.awsPriceSnapshotId
  azurePriceSnapshotId := project.azurePriceSnapshotId
  latestCalculationRevision := updatedRevision stored project calculationRevision
  formulaVersion := Config.formulaVersion
  schemaVersion := Config.schemaVersion
  createdAt := stored.createdAt
  updatedAt := timestamp
  etag := etag

def updatedProjectDocument (stored : ProjectDocument D) (project : EditableProject D)
    (calculationRevision : Option (CalculationRevision D)) (timestamp etag : String) :
    Except RepositoryError (ProjectDocument D) := do
  let document := revisedDocument stored project calculationRevision timestamp etag
  enforceDocumentSize documentBytes document
  return document

end Documents

/-! ### Repository operations -/

section Operations

variable {D : Type} [DecimalArith D] (documentBytes : ProjectDocument D → Nat)

abbrev ProjectM (D : Type) := Locked (ProjectMap D) RepositoryError

/-- The document of a project created now, under its first version. -/
def createdDocument (now : UtcDateTime) (id : Uuid) (ownerId : String)
    (project : EditableProject D) (calculationRevision : Option (CalculationRevision D)) :
    Except RepositoryError (ProjectDocument D) := do
  let timestamp ← currentTimestamp now
  newProjectDocument documentBytes ownerId id project calculationRevision timestamp (projectEtag 1)

/-- `id` is the fresh random identifier. -/
def create (now : UtcDateTime) (id : Uuid) (ownerId : String) (project : EditableProject D)
    (calculationRevision : Option (CalculationRevision D)) (repository : Repository D) :
    Outcome RepositoryError (ProjectDocument D) × Repository D :=
  match createdDocument documentBytes now id ownerId project calculationRevision with
  | .error failure => (.err failure, repository)
  | .ok document => repository.withWrite .unavailable do
      Locked.write fun projects => projects.insert (ownerId, id) ⟨document, 1⟩
      return document

def getLocked (ownerId : String) (projectId : Uuid) (projects : ProjectMap D) :
    Outcome RepositoryError (ProjectDocument D) :=
  match projects.lookup (ownerId, projectId) with
  | some stored => .ok stored.document
  | none => .err .notFound

def get (ownerId : String) (projectId : Uuid) (repository : Repository D) :
    Outcome RepositoryError (ProjectDocument D) :=
  repository.withRead .unavailable (getLocked ownerId projectId)

/-- Later updates come first, ties by identifier. -/
def ListedBefore (left right : ProjectDocument D) : Prop :=
  right.updatedAt < left.updatedAt ∨
    left.updatedAt = right.updatedAt ∧ left.id.bits.toNat ≤ right.id.bits.toNat

instance : DecidableRel (ListedBefore (D := D)) := fun left right =>
  inferInstanceAs (Decidable (right.updatedAt < left.updatedAt ∨
    left.updatedAt = right.updatedAt ∧ left.id.bits.toNat ≤ right.id.bits.toNat))

/-- The owner's documents, in the order of the map. -/
def ownDocuments (ownerId : String) (projects : ProjectMap D) : List (ProjectDocument D) :=
  (projects.entries.filter fun entry => entry.1.1 == ownerId).map fun entry => entry.2.document

def list (ownerId : String) (repository : Repository D) :
    Outcome RepositoryError (List (ProjectDocument D)) :=
  repository.withRead .unavailable fun projects =>
    .ok ((ownDocuments ownerId projects).insertionSort ListedBefore)

/-- `checked_add(1)` on the version counter. -/
def nextVersion (version : Nat) : Except RepositoryError Nat :=
  if version + 1 < 2 ^ 64 then .ok (version + 1) else .error .unavailable

/-- What an update makes of a stored project. -/
def updateStored (now : UtcDateTime) (ifMatch : String) (project : EditableProject D)
    (calculationRevision : Option (CalculationRevision D)) (stored : StoredProject D) :
    Except RepositoryError (StoredProject D) := do
  ensure (stored.document.etag = ifMatch) .preconditionFailed
  let version ← nextVersion stored.version
  let timestamp ← currentTimestamp now
  let document ← updatedProjectDocument documentBytes stored.document project
    calculationRevision timestamp (projectEtag version)
  return ⟨document, version⟩

def updateLocked (now : UtcDateTime) (ownerId : String) (projectId : Uuid) (ifMatch : String)
    (project : EditableProject D) (calculationRevision : Option (CalculationRevision D)) :
    ProjectM D (ProjectDocument D) := do
  let projects ← Locked.read
  match projects.lookup (ownerId, projectId) with
  | none => Locked.fail .notFound
  | some stored =>
      let updated ← Locked.check
        (updateStored documentBytes now ifMatch project calculationRevision stored)
      Locked.write fun projects => projects.replace (ownerId, projectId) updated
      return updated.document

def update (now : UtcDateTime) (ownerId : String) (projectId : Uuid) (ifMatch : String)
    (project : EditableProject D) (calculationRevision : Option (CalculationRevision D))
    (repository : Repository D) :
    Outcome RepositoryError (ProjectDocument D) × Repository D :=
  repository.withWrite .unavailable
    (updateLocked documentBytes now ownerId projectId ifMatch project calculationRevision)

def deleteLocked (ownerId : String) (projectId : Uuid) : ProjectM D Unit := do
  let projects ← Locked.read
  match projects.lookup (ownerId, projectId) with
  | none => Locked.fail .notFound
  | some _ =>
      Locked.write fun projects => projects.erase (ownerId, projectId)
      return ()

def delete (ownerId : String) (projectId : Uuid) (repository : Repository D) :
    Outcome RepositoryError Unit × Repository D :=
  repository.withWrite .unavailable (deleteLocked ownerId projectId)

end Operations

/-! ### What the operations do -/

section Effects

variable {D : Type} {documentBytes : ProjectDocument D → Nat}

/-- A create stores one new document or leaves the repository alone. -/
theorem create_cases (now : UtcDateTime) (id : Uuid) (ownerId : String)
    (project : EditableProject D) (calculationRevision : Option (CalculationRevision D))
    (repository : Repository D) :
    (∃ failure, create documentBytes now id ownerId project calculationRevision repository =
        (.err failure, repository)) ∨
    ∃ timestamp,
      let document := freshDocument ownerId id project calculationRevision timestamp (projectEtag 1)
      create documentBytes now id ownerId project calculationRevision repository =
        (.ok document,
          ⟨repository.value.insert (ownerId, id) ⟨document, 1⟩, false⟩) := by
  unfold create
  cases hdocument : createdDocument documentBytes now id ownerId project calculationRevision with
  | error failure => exact .inl ⟨failure, rfl⟩
  | ok document =>
      cases hpoisoned : repository.poisoned with
      | true =>
          simp only [RwLock.withWrite_poisoned hpoisoned]
          exact .inl ⟨_, rfl⟩
      | false =>
          obtain ⟨timestamp, _, hnew⟩ := Fallible.bind_eq_ok.mp hdocument
          obtain ⟨_, _, hfresh⟩ := Fallible.bind_eq_ok.mp hnew
          cases hfresh
          refine .inr ⟨timestamp, ?_⟩
          simp [RwLock.withWrite, hpoisoned, Outcome.isPanic]

theorem get_eq_ok {ownerId : String} {projectId : Uuid} {repository : Repository D}
    {document : ProjectDocument D} (h : get ownerId projectId repository = .ok document) :
    ∃ stored, repository.value.lookup (ownerId, projectId) = some stored ∧
      stored.document = document := by
  unfold get RwLock.withRead at h
  split at h
  · cases h
  · unfold getLocked at h
    split at h
    · rename_i stored hstored
      cases h
      exact ⟨stored, hstored, rfl⟩
    · cases h

/-- A delete removes one stored project or leaves the repository alone. -/
theorem delete_cases (ownerId : String) (projectId : Uuid) (repository : Repository D) :
    (∃ failure, delete ownerId projectId repository = (.err failure, repository)) ∨
    delete ownerId projectId repository =
      (.ok (), ⟨repository.value.erase (ownerId, projectId), false⟩) := by
  unfold delete
  cases hpoisoned : repository.poisoned with
  | true =>
      rw [RwLock.withWrite_poisoned hpoisoned]
      exact .inl ⟨_, rfl⟩
  | false =>
      cases hstored : repository.value.lookup (ownerId, projectId) with
      | none =>
          refine .inl ⟨.notFound, ?_⟩
          simp [RwLock.withWrite, hpoisoned, deleteLocked, hstored, Outcome.isPanic,
            RwLock.ext_iff]
      | some stored =>
          refine .inr ?_
          simp [RwLock.withWrite, hpoisoned, deleteLocked, hstored, Outcome.isPanic]

variable [DecimalArith D]

/-- Pricing inputs with one text name the same project type, the same resources
and the same target snapshot. -/
theorem of_pricingInputsUnchanged {stored : ProjectDocument D} {editable : EditableProject D}
    (h : pricingInputsUnchanged stored editable = true) :
    stored.settings.projectType = editable.settings.projectType ∧
      stored.resources.map (fun resource => resource.shared.id) =
        editable.resources.map (fun resource => resource.shared.id) ∧
      stored.azurePriceSnapshotId = editable.azurePriceSnapshotId := by
  have hjson := Json.render_injective (eq_of_beq h)
  simp only [pricingInputs, Json.array.injEq, List.cons.injEq, and_true] at hjson
  obtain ⟨hsettings, hresources, _, hazure⟩ := hjson
  exact ⟨ProjectJson.settings_projectType hsettings, ProjectJson.resources_ids hresources,
    ResourceJson.option_string_injective hazure⟩

theorem updateStored_eq_ok {now : UtcDateTime} {ifMatch : String} {project : EditableProject D}
    {calculationRevision : Option (CalculationRevision D)} {stored updated : StoredProject D}
    (h : updateStored documentBytes now ifMatch project calculationRevision stored =
      .ok updated) :
    stored.document.etag = ifMatch ∧ ∃ timestamp,
      updated = ⟨revisedDocument stored.document project calculationRevision timestamp
        (projectEtag (stored.version + 1)), stored.version + 1⟩ := by
  obtain ⟨_, hetag, hrest⟩ := Fallible.bind_eq_ok.mp h
  obtain ⟨version, hversion, hrest⟩ := Fallible.bind_eq_ok.mp hrest
  obtain ⟨timestamp, _, hrest⟩ := Fallible.bind_eq_ok.mp hrest
  obtain ⟨document, hdocument, hupdated⟩ := Fallible.bind_eq_ok.mp hrest
  obtain ⟨_, _, hrevised⟩ := Fallible.bind_eq_ok.mp hdocument
  cases hrevised
  cases hupdated
  obtain rfl : stored.version + 1 = version := by
    unfold nextVersion at hversion
    split at hversion
    · exact Except.ok.inj hversion
    · cases hversion
  exact ⟨Fallible.ensure_eq_ok.mp hetag, timestamp, rfl⟩

/-- An update rewrites one stored project or leaves the repository alone. -/
theorem update_cases (now : UtcDateTime) (ownerId : String) (projectId : Uuid)
    (ifMatch : String) (project : EditableProject D)
    (calculationRevision : Option (CalculationRevision D)) (repository : Repository D) :
    (∃ failure, update documentBytes now ownerId projectId ifMatch project calculationRevision
        repository = (.err failure, repository)) ∨
    ∃ stored timestamp,
      let document := revisedDocument stored.document project calculationRevision timestamp
        (projectEtag (stored.version + 1))
      repository.value.lookup (ownerId, projectId) = some stored ∧
      stored.document.etag = ifMatch ∧
      update documentBytes now ownerId projectId ifMatch project calculationRevision repository =
        (.ok document,
          ⟨repository.value.replace (ownerId, projectId) ⟨document, stored.version + 1⟩,
            false⟩) := by
  unfold update
  cases hpoisoned : repository.poisoned with
  | true =>
      rw [RwLock.withWrite_poisoned hpoisoned]
      exact .inl ⟨_, rfl⟩
  | false =>
      cases hstored : repository.value.lookup (ownerId, projectId) with
      | none =>
          refine .inl ⟨.notFound, ?_⟩
          simp [RwLock.withWrite, hpoisoned, updateLocked, hstored, Outcome.isPanic,
            RwLock.ext_iff]
      | some stored =>
          cases hupdated : updateStored documentBytes now ifMatch project calculationRevision
              stored with
          | error failure =>
              refine .inl ⟨failure, ?_⟩
              simp [RwLock.withWrite, hpoisoned, updateLocked, hstored, hupdated,
                Outcome.isPanic, RwLock.ext_iff]
          | ok updated =>
              obtain ⟨hetag, timestamp, rfl⟩ := updateStored_eq_ok hupdated
              refine .inr ⟨stored, timestamp, rfl, hetag, ?_⟩
              simp [RwLock.withWrite, hpoisoned, updateLocked, hstored, hupdated,
                Outcome.isPanic]

end Effects

end ProjectRepository

end TcoCalculator
