/-
The refresh quota of one identity over one stored document
(consume_refresh_quota in src/rust/src/persistence/cosmos.rs): calls interleave
at every clock reading, read and conditional write.
-/
import TcoCalculator.Library.EtagCell
import TcoCalculator.Library.Transition
import TcoCalculator.Persistence.PricingCache

namespace TcoCalculator.RefreshQuota

open PricingCache Rfc3339 Transition

inductive RefreshQuotaDecision where
  | allowed
  | limited (retryAfterSeconds : Nat)
  deriving DecidableEq, Repr

inductive RefreshQuotaError where
  | unavailable
  | invalidData
  deriving DecidableEq, Repr

/-! ### Calls between their store operations -/

/-- Where a call stands; `left` counts the attempts after the current one.  The
window a document belongs to is ghost data: no branch looks at it. -/
inductive ConsumeState where
  | start
  | read (left : Nat)
  | open (left : Nat)
  | create (left : Nat) (candidate : RefreshQuotaDocument)
  | consume (left window : Nat) (current : RefreshQuotaDocument) (etag : Nat)
  | replace (left : Nat) (window : Option Nat) (updated : RefreshQuotaDocument) (etag : Nat)
  | done (result : Except RefreshQuotaError RefreshQuotaDecision)
  | panicked
  deriving DecidableEq

def ConsumeState.attempt : Nat → ConsumeState
  | 0 => .done (.error .unavailable)
  | left + 1 => .read left

/-- A call in progress: its operation, its limit and where it stands. -/
structure Process where
  operationToken : String
  limit : Nat
  state : ConsumeState
  deriving DecidableEq

/-- The first document only supplies the id and checks the arguments. -/
def consumeStarted (identitySha256 : String) (process : Process) (now : UtcDateTime) :
    ConsumeState :=
  match RefreshQuotaDocument.new identitySha256 process.operationToken process.limit now with
  | .ok _ => .attempt conditionalWriteAttempts
  | .err _ => .done (.error .invalidData)
  | .panic => .panicked

/-- A failed read is retried; a stored document is validated before use. -/
def consumeRead (left : Nat) :
    Option (EtagItem (Nat × RefreshQuotaDocument)) → ConsumeState
  | none => .open left
  | some item =>
      match item.value.2.validate with
      | .error _ => .done (.error .invalidData)
      | .ok _ => .consume left item.value.1 item.value.2 item.etag

def consumeOpened (identitySha256 : String) (process : Process) (left : Nat)
    (now : UtcDateTime) : ConsumeState :=
  match RefreshQuotaDocument.new identitySha256 process.operationToken process.limit now with
  | .ok candidate => .create left candidate
  | .err _ => .done (.error .invalidData)
  | .panic => .panicked

/-- Every report but success leads to another attempt. -/
def consumeWritten (left : Nat) : WriteReport → ConsumeState
  | .ok => .done (.ok .allowed)
  | .rejected => .attempt left
  | .failed _ => .attempt left

/-- An update stays in the window it started from, a reset opens another. -/
def windowOf (window : Nat) (current updated : RefreshQuotaDocument) : Option Nat :=
  if updated.operationTokens.take current.operationTokens.length = current.operationTokens
  then some window else none

def consumeDecided (identitySha256 : String) (process : Process) (left window : Nat)
    (current : RefreshQuotaDocument) (etag : Nat) (now : UtcDateTime) : ConsumeState :=
  match current.consume identitySha256 process.operationToken process.limit now with
  | .err _ => .done (.error .invalidData)
  | .panic => .panicked
  | .ok .allowed => .done (.ok .allowed)
  | .ok (.limited retryAfterSeconds) => .done (.ok (.limited retryAfterSeconds))
  | .ok (.replace updated) =>
      match updated.validate with
      | .error _ => .done (.error .invalidData)
      | .ok _ => .replace left (windowOf window current updated) updated etag

/-! ### The system -/

/-- The stored quota document with its ghost window number, the clock, and two
ghost records: the last document of every window, and the operations answered
as allowed with the window that counted them. -/
structure QuotaStore where
  cell : EtagCell (Nat × RefreshQuotaDocument)
  clock : UtcDateTime
  windows : Nat → Option RefreshQuotaDocument
  allowed : List (Nat × String)

structure System extends QuotaStore where
  processes : Nat → Option Process

def initial (clock : UtcDateTime) : System :=
  { cell := .empty, clock, windows := fun _ => none, allowed := [],
    processes := fun _ => none }

inductive Action where
  | tick (now : UtcDateTime)
  | expire
  | begin (pid : Nat) (operationToken : String) (limit : Nat)
  | sample (pid : Nat)
  | read (pid : Nat) (failed : Bool)
  | write (pid : Nat) (applied : Bool) (report : WriteReport)

def System.setState (s : System) (pid : Nat) (process : Process) (state : ConsumeState) :
    System :=
  { s with processes := Function.update s.processes pid (some { process with state }) }

/-- The lifetime the store gives a document, in nanoseconds. -/
def quotaTtl (value : Nat × RefreshQuotaDocument) : Int := value.2.ttl * nanosPerSecond

/-- A conditional write in a window, new when none is given. -/
def QuotaStore.writeWindow (s : QuotaStore) (precondition : Precondition)
    (window : Option Nat) (document : RefreshQuotaDocument) (operationToken : String)
    (applied : Bool) (report : WriteReport) : Option QuotaStore := do
  let id := window.getD s.cell.nextEtag
  let cell ← s.cell.write precondition (id, document) s.clock.nanos applied report
  let windows := if applied then Function.update s.windows id (some document) else s.windows
  let allowed := if report = .ok then (id, operationToken) :: s.allowed else s.allowed
  return { s with cell, windows, allowed }

/-- An operation found in a document was counted in that document's window. -/
def QuotaStore.recordAllowed (s : QuotaStore) (window : Nat) (operationToken : String)
    (state : ConsumeState) : QuotaStore :=
  if state = .done (.ok .allowed) then
    { s with allowed := (window, operationToken) :: s.allowed }
  else s

def consumeStep (identitySha256 : String) (s : System) (pid : Nat) (process : Process) :
    ConsumeState → Action → Option System
  | .start, .sample _ =>
      some (s.setState pid process (consumeStarted identitySha256 process s.clock))
  | .read left, .read _ true => some (s.setState pid process (.attempt left))
  | .read left, .read _ false =>
      some (s.setState pid process (consumeRead left s.cell.item))
  | .open left, .sample _ =>
      some (s.setState pid process (consumeOpened identitySha256 process left s.clock))
  | .create left candidate, .write _ applied report => do
      let store ← s.writeWindow .absent none candidate process.operationToken applied report
      return { s with toQuotaStore := store }.setState pid process (consumeWritten left report)
  | .consume left window current etag, .sample _ =>
      let state := consumeDecided identitySha256 process left window current etag s.clock
      some ({ s with
        toQuotaStore := s.recordAllowed window process.operationToken state }.setState pid
          process state)
  | .replace left window updated etag, .write _ applied report => do
      let store ← s.writeWindow (.ifMatch etag) window updated process.operationToken
        applied report
      return { s with toQuotaStore := store }.setState pid process (consumeWritten left report)
  | _, _ => none

def processStep (identitySha256 : String) (s : System) (pid : Nat) (action : Action) :
    Option System :=
  match s.processes pid with
  | some process => consumeStep identitySha256 s pid process process.state action
  | none => none

/-- One step of the system: the clock advances, the store drops the document,
a call begins, or a call takes its next step. -/
def step (identitySha256 : String) (s : System) (action : Action) : Option System :=
  match action with
  | .tick now => if s.clock ≤ now then some { s with clock := now } else none
  | .expire => (s.cell.expire quotaTtl s.clock.nanos).map fun cell => { s with cell }
  | .begin pid operationToken limit =>
      if (s.processes pid).isNone then
        some { s with processes :=
          Function.update s.processes pid (some ⟨operationToken, limit, .start⟩) }
      else none
  | .sample pid => processStep identitySha256 s pid action
  | .read pid _ => processStep identitySha256 s pid action
  | .write pid _ _ => processStep identitySha256 s pid action

end TcoCalculator.RefreshQuota
