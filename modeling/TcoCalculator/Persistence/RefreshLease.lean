/-
The refresh lease over one stored document (claim_refresh_lease and
publish_refresh_lease in src/rust/src/persistence/cosmos.rs): any number of
calls interleave at every clock reading, read and conditional write.
-/
import TcoCalculator.Library.EtagCell
import TcoCalculator.Library.Transition
import TcoCalculator.Persistence.PricingCache

namespace TcoCalculator.RefreshLease

open PricingCache Rfc3339 Transition

/-! ### Calls between their store operations -/

/-- Where a claim stands; `left` counts the attempts after the current one. -/
inductive ClaimState where
  | sample (left : Nat)
  | create (left : Nat) (now : UtcDateTime) (candidate : RefreshLeaseDocument)
  | read (left : Nat) (now : UtcDateTime) (candidate : RefreshLeaseDocument)
  | replace (left : Nat) (candidate : RefreshLeaseDocument) (etag : Nat)
  | done (result : Except SnapshotRepositoryError RefreshLeaseDecision)
  | panicked
  deriving DecidableEq

def ClaimState.attempt : Nat → ClaimState
  | 0 => .done (.ok .pending)
  | left + 1 => .sample left

inductive PublishState where
  | read (left : Nat)
  | complete (left : Nat) (existing : RefreshLeaseDocument) (etag : Nat)
  | replace (left : Nat) (completed : RefreshLeaseDocument) (etag : Nat)
  | done (result : Except SnapshotRepositoryError Unit)
  deriving DecidableEq

def PublishState.attempt : Nat → PublishState
  | 0 => .done (.error .unavailable)
  | left + 1 => .read left

/-- A call in progress: its arguments and where it stands. -/
inductive Process where
  | claim (ownerToken : String) (requestStartedAt : Int) (state : ClaimState)
  | publish (ownerToken : String) (outcome : RefreshLeaseOutcome) (state : PublishState)
  deriving DecidableEq

/-- `parse_utc_timestamp` on the request start. -/
def beginClaim (ownerToken requestStartedAt : String) : Process :=
  match parseTimestamp requestStartedAt with
  | .ok started => .claim ownerToken started.nanos (.attempt conditionalWriteAttempts)
  | .error _ => .claim ownerToken 0 (.done (.error .invalidData))

def beginPublish (ownerToken : String) (outcome : RefreshLeaseOutcome) : Process :=
  .publish ownerToken outcome (.attempt conditionalWriteAttempts)

def claimSampled (cacheKeySha256 ownerToken : String) (left : Nat) (now : UtcDateTime) :
    ClaimState :=
  match RefreshLeaseDocument.new cacheKeySha256 ownerToken now with
  | .ok candidate => .create left now candidate
  | .err _ => .done (.error .invalidData)
  | .panic => .panicked

def claimCreated (left : Nat) (now : UtcDateTime) (candidate : RefreshLeaseDocument) :
    WriteReport → ClaimState
  | .ok => .done (.ok .acquired)
  | .rejected => .read left now candidate
  | .failed status => .done (.error (mapSnapshotCosmosError status))

/-- The document is validated when it is read, before it decides the claim. -/
def claimRead (requestStartedAt : Int) (left : Nat) (now : UtcDateTime)
    (candidate : RefreshLeaseDocument) : Option (EtagItem RefreshLeaseDocument) → ClaimState
  | none => .attempt left
  | some item =>
      match item.value.validate with
      | .error _ => .done (.error .invalidData)
      | .ok _ =>
          match item.value.decision requestStartedAt now with
          | .error _ => .done (.error .invalidData)
          | .ok (some decision) => .done (.ok decision)
          | .ok none =>
              match candidate.validate with
              | .error _ => .done (.error .invalidData)
              | .ok _ => .replace left candidate item.etag

def claimReplaced (left : Nat) : WriteReport → ClaimState
  | .ok => .done (.ok .acquired)
  | .rejected => .attempt left
  | .failed status => .done (.error (mapSnapshotCosmosError status))

def publishRead (ownerToken : String) (outcome : RefreshLeaseOutcome) (left : Nat) :
    Option (EtagItem RefreshLeaseDocument) → PublishState
  | none => .done (.error .unavailable)
  | some item =>
      match item.value.validate with
      | .error _ => .done (.error .invalidData)
      | .ok _ =>
          if item.value.ownerToken ≠ ownerToken then .done (.error .unavailable)
          else
            match item.value.matchesOutcome ownerToken outcome with
            | .error _ => .done (.error .invalidData)
            | .ok true => .done (.ok ())
            | .ok false => .complete left item.value item.etag

def publishCompleted (ownerToken : String) (outcome : RefreshLeaseOutcome) (left : Nat)
    (existing : RefreshLeaseDocument) (etag : Nat) (now : UtcDateTime) : PublishState :=
  match existing.complete ownerToken outcome now with
  | .error _ => .done (.error .unavailable)
  | .ok completed =>
      match completed.validate with
      | .error _ => .done (.error .invalidData)
      | .ok _ => .replace left completed etag

def publishReplaced (left : Nat) : WriteReport → PublishState
  | .ok => .done (.ok ())
  | .rejected => .attempt left
  | .failed status => .done (.error (mapSnapshotCosmosError status))

/-! ### The system -/

/-- Ghost record of a write that took effect on the lease document. -/
inductive LeaseWrite where
  | leased (etag : Nat) (document : RefreshLeaseDocument)
  | completed (etag : Nat) (previous document : RefreshLeaseDocument)

/-- The stored lease document, the shared clock and the ghost history. -/
structure LeaseStore where
  cell : EtagCell RefreshLeaseDocument
  clock : UtcDateTime
  history : List LeaseWrite

structure System extends LeaseStore where
  processes : Nat → Option Process

def initial (clock : UtcDateTime) : System :=
  { cell := .empty, clock, history := [], processes := fun _ => none }

inductive Action where
  | tick (now : UtcDateTime)
  | expire
  | beginClaim (pid : Nat) (ownerToken requestStartedAt : String)
  | beginPublish (pid : Nat) (ownerToken : String) (outcome : RefreshLeaseOutcome)
  | sample (pid : Nat)
  | read (pid : Nat) (failure : Option Nat)
  | write (pid : Nat) (applied : Bool) (report : WriteReport)

def System.setProcess (s : System) (pid : Nat) (process : Process) : System :=
  { s with processes := Function.update s.processes pid (some process) }

/-- The lifetime the store gives a document, in nanoseconds. -/
def leaseTtl (document : RefreshLeaseDocument) : Int := document.ttl * nanosPerSecond

/-- The write of a candidate lease. -/
def LeaseStore.writeLease (s : LeaseStore) (precondition : Precondition)
    (candidate : RefreshLeaseDocument) (applied : Bool) (report : WriteReport) :
    Option LeaseStore := do
  let cell ← s.cell.write precondition candidate s.clock.nanos applied report
  let history := if applied then .leased s.cell.nextEtag candidate :: s.history else s.history
  return { s with cell, history }

/-- The write of a terminal outcome over the document read before. -/
def LeaseStore.writeCompletion (s : LeaseStore) (etag : Nat)
    (completed : RefreshLeaseDocument) (applied : Bool) (report : WriteReport) :
    Option LeaseStore := do
  let cell ← s.cell.write (.ifMatch etag) completed s.clock.nanos applied report
  let history := match applied, s.cell.item with
    | true, some item => .completed item.etag item.value completed :: s.history
    | _, _ => s.history
  return { s with cell, history }

def claimStep (cacheKeySha256 ownerToken : String) (requestStartedAt : Int)
    (s : System) (pid : Nat) : ClaimState → Action → Option System
  | .sample left, .sample _ =>
      some (s.setProcess pid (.claim ownerToken requestStartedAt
        (claimSampled cacheKeySha256 ownerToken left s.clock)))
  | .create left now candidate, .write _ applied report => do
      let store ← s.writeLease .absent candidate applied report
      return { s with toLeaseStore := store }.setProcess pid (.claim ownerToken requestStartedAt
        (claimCreated left now candidate report))
  | .read left now candidate, .read _ none =>
      some (s.setProcess pid (.claim ownerToken requestStartedAt
        (claimRead requestStartedAt left now candidate s.cell.item)))
  | .read _ _ _, .read _ (some status) =>
      some (s.setProcess pid (.claim ownerToken requestStartedAt
        (.done (.error (mapSnapshotCosmosError status)))))
  | .replace left candidate etag, .write _ applied report => do
      let store ← s.writeLease (.ifMatch etag) candidate applied report
      return { s with toLeaseStore := store }.setProcess pid (.claim ownerToken requestStartedAt
        (claimReplaced left report))
  | _, _ => none

def publishStep (ownerToken : String) (outcome : RefreshLeaseOutcome)
    (s : System) (pid : Nat) : PublishState → Action → Option System
  | .read left, .read _ none =>
      some (s.setProcess pid (.publish ownerToken outcome
        (publishRead ownerToken outcome left s.cell.item)))
  | .read _, .read _ (some status) =>
      some (s.setProcess pid (.publish ownerToken outcome
        (.done (.error (mapSnapshotCosmosError status)))))
  | .complete left existing etag, .sample _ =>
      some (s.setProcess pid (.publish ownerToken outcome
        (publishCompleted ownerToken outcome left existing etag s.clock)))
  | .replace left completed etag, .write _ applied report => do
      let store ← s.writeCompletion etag completed applied report
      return { s with toLeaseStore := store }.setProcess pid (.publish ownerToken outcome
        (publishReplaced left report))
  | _, _ => none

def processStep (cacheKeySha256 : String) (s : System) (pid : Nat) (action : Action) :
    Option System :=
  match s.processes pid with
  | some (.claim ownerToken requestStartedAt state) =>
      claimStep cacheKeySha256 ownerToken requestStartedAt s pid state action
  | some (.publish ownerToken outcome state) =>
      publishStep ownerToken outcome s pid state action
  | none => none

/-- One step of the system: the clock advances, the store drops the document,
a call begins, or a call takes its next step. -/
def step (cacheKeySha256 : String) (s : System) (action : Action) : Option System :=
  match action with
  | .tick now => if s.clock ≤ now then some { s with clock := now } else none
  | .expire => (s.cell.expire leaseTtl s.clock.nanos).map fun cell => { s with cell }
  | .beginClaim pid ownerToken requestStartedAt =>
      if (s.processes pid).isNone then
        some (s.setProcess pid (RefreshLease.beginClaim ownerToken requestStartedAt))
      else none
  | .beginPublish pid ownerToken outcome =>
      if (s.processes pid).isNone then
        some (s.setProcess pid (RefreshLease.beginPublish ownerToken outcome))
      else none
  | .sample pid => processStep cacheKeySha256 s pid action
  | .read pid _ => processStep cacheKeySha256 s pid action
  | .write pid _ _ => processStep cacheKeySha256 s pid action

end TcoCalculator.RefreshLease
