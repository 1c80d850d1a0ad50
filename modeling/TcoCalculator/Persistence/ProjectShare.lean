/-
Shared copies of projects and their in-memory repository
(src/rust/src/persistence/project_share.rs).
-/
import TcoCalculator.Library.Bytes
import TcoCalculator.Persistence.ProjectRepository

namespace TcoCalculator

/-- The bytes of an identifier, the highest first. -/
def Uuid.asBytes (id : Uuid) : List UInt8 := Bytes.bigEndian 16 id.bits.toNat

namespace ProjectShare

open ProjectRepository (maxProjectDocumentBytes)
open Rfc3339

def projectShareDocumentType : String := "project_share"
def projectSharePartition : String := "project-shares"
def shareLifetimeDays : Nat := 30

structure ProjectShareDocument (D : Type) where
  id : Uuid
  documentType : String
  partitionKey : String
  sourceOwnerId : String
  sourceProjectId : Uuid
  secretSha256 : String
  project : EditableProject D
  createdAt : String
  expiresAt : String
  deriving DecidableEq

structure ProjectShareCredentials where
  shareId : Uuid
  secret : Uuid
  deriving DecidableEq, Repr

structure CreatedProjectShare where
  credentials : ProjectShareCredentials
  expiresAt : String
  deriving DecidableEq, Repr

inductive ProjectShareError where
  | notFound
  | expired
  | payloadTooLarge
  | unavailable
  deriving DecidableEq, Repr

abbrev ShareMap (D : Type) := HashMap Uuid (ProjectShareDocument D)

/-- The in-memory repository. -/
abbrev Shares (D : Type) := RwLock (ShareMap D)

def noShares {D : Type} : Shares D := ⟨∅, false⟩

/-! ### Documents -/

section Documents

variable {D : Type} (sha256 : List UInt8 → List UInt8)
/- The length of a document's JSON text in bytes. -/
variable (documentBytes : ProjectShareDocument D → Nat)

def digestSecret (secret : Uuid) : String := Bytes.hexText (sha256 secret.asBytes)

def formatTimestamp (timestamp : UtcDateTime) : Except ProjectShareError String :=
  match format timestamp with
  | some text => .ok text
  | none => .error .unavailable

def validateDocument (document : ProjectShareDocument D) (expectedId : Uuid) :
    Except ProjectShareError Unit := do
  ensure (document.id = expectedId ∧ document.documentType = projectShareDocumentType ∧
    document.partitionKey = projectSharePartition ∧ document.sourceOwnerId ≠ "" ∧
    document.secretSha256.utf8ByteSize = 64) .unavailable
  ensure (documentBytes document < maxProjectDocumentBytes) .payloadTooLarge

/-- The document of a share, before it is checked. -/
def shareDocument (sourceOwnerId : String) (sourceProjectId : Uuid) (project : EditableProject D)
    (credentials : ProjectShareCredentials) (createdAt expiresAt : String) :
    ProjectShareDocument D where
  id := credentials.shareId
  documentType := projectShareDocumentType
  partitionKey := projectSharePartition
  sourceOwnerId := sourceOwnerId
  sourceProjectId := sourceProjectId
  secretSha256 := digestSecret sha256 credentials.secret
  project := project
  createdAt := createdAt
  expiresAt := expiresAt

/-- When a share made at a time ends. -/
def expiry (now : UtcDateTime) : Except ProjectShareError UtcDateTime :=
  match now.addSeconds? (shareLifetimeDays * 86400) with
  | some expires => .ok expires
  | none => .error .unavailable

def newShareDocument (sourceOwnerId : String) (sourceProjectId : Uuid)
    (project : EditableProject D) (credentials : ProjectShareCredentials) (now : UtcDateTime) :
    Except ProjectShareError (ProjectShareDocument D) := do
  let expires ← expiry now
  let createdAt ← formatTimestamp now
  let expiresAt ← formatTimestamp expires
  let document := shareDocument sha256 sourceOwnerId sourceProjectId project credentials createdAt
    expiresAt
  validateDocument documentBytes document credentials.shareId
  return document

def resolveDocument (document : ProjectShareDocument D) (credentials : ProjectShareCredentials)
    (now : UtcDateTime) : Except ProjectShareError (EditableProject D) := do
  validateDocument documentBytes document credentials.shareId
  ensure (document.secretSha256 = digestSecret sha256 credentials.secret) .notFound
  match parse document.expiresAt with
  | none => .error .unavailable
  | some expiresAt =>
      ensure (now.nanos < expiresAt.nanos) .expired
      return document.project

end Documents

/-! ### Repository operations -/

section Operations

variable {D : Type} (sha256 : List UInt8 → List UInt8)
  (documentBytes : ProjectShareDocument D → Nat)

/-- The identifiers of `credentials` are fresh random ones. -/
def create (now : UtcDateTime) (credentials : ProjectShareCredentials) (sourceOwnerId : String)
    (sourceProjectId : Uuid) (project : EditableProject D) (shares : Shares D) :
    Outcome ProjectShareError CreatedProjectShare × Shares D :=
  match newShareDocument sha256 documentBytes sourceOwnerId sourceProjectId project credentials
    now with
  | .error failure => (.err failure, shares)
  | .ok document => shares.withWrite .unavailable do
      Locked.write fun shares => shares.insert credentials.shareId document
      return ⟨credentials, document.expiresAt⟩

/-- What a lookup under the read lock answers. -/
def resolve (now : UtcDateTime) (credentials : ProjectShareCredentials) (shares : Shares D) :
    Outcome ProjectShareError (EditableProject D) :=
  shares.withRead .unavailable fun shares =>
    match shares.lookup credentials.shareId with
    | none => .err .notFound
    | some document => .lift (resolveDocument sha256 documentBytes document credentials now)

/-- What a lookup that found a share expired goes on to do, under a lock of its own. -/
def dropExpired (shareId : Uuid) (shares : Shares D) : Outcome ProjectShareError Unit × Shares D :=
  shares.withWrite .unavailable do
    Locked.write fun shares => shares.erase shareId
    return ()

def revokeLocked (sourceOwnerId : String) (sourceProjectId shareId : Uuid) :
    Locked (ShareMap D) ProjectShareError Unit := do
  let shares ← Locked.read
  match shares.lookup shareId with
  | none => Locked.fail .notFound
  | some document =>
      if document.sourceOwnerId ≠ sourceOwnerId ∨ document.sourceProjectId ≠ sourceProjectId then
        Locked.fail .notFound
      else
        Locked.write fun shares => shares.erase shareId
        return ()

def revoke (sourceOwnerId : String) (sourceProjectId shareId : Uuid) (shares : Shares D) :
    Outcome ProjectShareError Unit × Shares D :=
  shares.withWrite .unavailable (revokeLocked sourceOwnerId sourceProjectId shareId)

def revokeProject (sourceOwnerId : String) (sourceProjectId : Uuid) (shares : Shares D) :
    Outcome ProjectShareError Unit × Shares D :=
  shares.withWrite .unavailable do
    Locked.write fun shares => shares.retain fun _ document =>
      decide (document.sourceOwnerId ≠ sourceOwnerId ∨ document.sourceProjectId ≠ sourceProjectId)
    return ()

end Operations

end ProjectShare

end TcoCalculator
