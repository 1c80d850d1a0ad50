/-
Durable writes of snapshot documents (put_document in
src/rust/src/persistence/cosmos.rs): a document is created if its identifier is
free and replaces what is stored only if it was retrieved later.
-/
import TcoCalculator.Library.EtagCell
import TcoCalculator.Library.Transition
import TcoCalculator.Persistence.AwsPriceDocuments

namespace TcoCalculator.SnapshotWrite

open PricingCache Rfc3339 Transition

def snapshotWriteAttempts : Nat := 3

def parseUtcTimestamp (value : String) : Except SnapshotRepositoryError ParsedDateTime :=
  match parse value with
  | some timestamp => if timestamp.isUtc then .ok timestamp else .error .invalidData
  | none => .error .invalidData

def retrievedLater (incoming existing : String) : Except SnapshotRepositoryError Bool := do
  let incoming ← parseUtcTimestamp incoming
  let existing ← parseUtcTimestamp existing
  return decide (existing.nanos < incoming.nanos)

def mapCacheDocumentError (_ : PricingCacheDocumentError) : SnapshotRepositoryError := .invalidData

/-- A kind of document with an identifier and a retrieval time, which every
valid document of the kind states in UTC. -/
structure SnapshotDocument (T : Type) where
  id : T → String
  retrievedAt : T → String
  validate : T → Outcome SnapshotRepositoryError Unit
  retrievedAt_of_validate : ∀ document, validate document = .ok () →
    ∃ timestamp, parseUtcTimestamp (retrievedAt document) = .ok timestamp

/-! ### The two kinds -/

theorem parseUtcTimestamp_of_parseTimestamp {value : String} {timestamp : ParsedDateTime}
    (h : parseTimestamp value = .ok timestamp) : parseUtcTimestamp value = .ok timestamp := by
  rcases hparse : parse value with _ | parsed
  · simp only [parseTimestamp, hparse] at h
    cases h
  · by_cases hutc : parsed.isUtc = true
    · simp only [parseTimestamp, parseUtcTimestamp, hparse, hutc, if_true] at h ⊢
      cases h
      rfl
    · simp only [parseTimestamp, hparse, hutc] at h
      cases h

def awsState : SnapshotDocument AwsSnapshotStateDocument where
  id := AwsSnapshotStateDocument.id
  retrievedAt document := document.metadata.retrievedAt
  validate document := Outcome.lift (document.validate.mapError mapCacheDocumentError)
  retrievedAt_of_validate document h := by
    cases hvalid : document.validate with
    | error e => simp [hvalid, Except.mapError, Outcome.lift] at h
    | ok u =>
        obtain ⟨_, -, hretrieved⟩ := Fallible.bind_eq_ok.mp hvalid
        obtain ⟨timestamp, hparse, -⟩ := Fallible.bind_eq_ok.mp hretrieved
        exact ⟨timestamp, parseUtcTimestamp_of_parseTimestamp hparse⟩

/-- Validating the stored prices again may panic like any other calculation. -/
def validateAzureDocument {D : Type} [DecimalArith D] (sha256 : String → String)
    (document : AzureSnapshotDocument D) : Outcome SnapshotRepositoryError Unit :=
  match document.intoSnapshot sha256 with
  | .ok _ => .ok ()
  | .error (.error e) => .err (mapCacheDocumentError e)
  | .error (.panic _) => .panic

theorem mapError_eq_ok {ε ε' α : Type} {f : ε → ε'} {x : Except (Halt ε) α} {a : α} :
    Halt.mapError f x = .ok a ↔ x = .ok a := by
  cases x with
  | ok b => simp [Halt.mapError]
  | error halt => cases halt <;> simp [Halt.mapError]

def azureSnapshot {D : Type} [DecimalArith D] (sha256 : String → String) :
    SnapshotDocument (AzureSnapshotDocument D) where
  id := AzureSnapshotDocument.id
  retrievedAt := AzureSnapshotDocument.retrievedAt
  validate := validateAzureDocument sha256
  retrievedAt_of_validate document h := by
    cases hsnapshot : document.intoSnapshot sha256 with
    | error halt => cases halt <;> simp [validateAzureDocument, hsnapshot] at h
    | ok snapshot =>
        obtain ⟨_, henvelope, hstored⟩ := Fallible.bind_eq_ok.mp hsnapshot
        obtain ⟨-, -, -, -, -, -, -, hretrieved⟩ :=
          Fallible.ensure_eq_ok.mp (Halt.checked_eq_ok.mp henvelope)
        obtain ⟨rebuilt, hcreate, -⟩ := Fallible.bind_eq_ok.mp (mapError_eq_ok.mp hstored)
        obtain ⟨_, hmetadata, -⟩ := Fallible.bind_eq_ok.mp hcreate
        have hvalid := Halt.checked_eq_ok.mp hmetadata
        unfold PriceSnapshot.validateCreationMetadata at hvalid
        split at hvalid
        · cases hvalid
        · rename_i timestamp hparse
          refine ⟨timestamp, ?_⟩
          rw [hretrieved]
          unfold parseUtcTimestamp
          simp only [creationMetadata] at hparse
          rw [hparse]
          split at hvalid
          · cases hvalid
          · rename_i hutc
            exact if_pos (by simpa using hutc)

/-! ### Calls between their store operations -/

/-- Where a call stands; `left` counts the attempts after the current one. -/
inductive PutState where
  | create
  | read (left : Nat)
  | createAgain (left : Nat)
  | replace (left : Nat) (etag : Nat)
  | done (result : Except SnapshotRepositoryError Unit)
  | panicked
  deriving DecidableEq

def PutState.attempt : Nat → PutState
  | 0 => .done (.error .unavailable)
  | left + 1 => .read left

/-- A call in progress: the document it puts and where it stands. -/
structure Process (T : Type) where
  document : T
  state : PutState

/-- How the store answers a read; a document may come without its tag. -/
inductive ReadAnswer where
  | served
  | untagged
  | failed (status : Nat)
  deriving DecidableEq, Repr

section Calls

variable {T : Type} (kind : SnapshotDocument T)

def beginPut (document : T) : PutState :=
  match kind.validate document with
  | .ok _ => .create
  | .err e => .done (.error e)
  | .panic => .panicked

/-- A document is replaced only by one that was retrieved later. -/
def putExisting (document existing : T) (left etag : Nat) : PutState :=
  match kind.validate existing with
  | .err e => .done (.error e)
  | .panic => .panicked
  | .ok _ =>
      match retrievedLater (kind.retrievedAt document) (kind.retrievedAt existing) with
      | .error e => .done (.error e)
      | .ok false => .done (.ok ())
      | .ok true => .replace left etag

def putRead (document : T) (left : Nat) : ReadAnswer → Option (EtagItem T) → PutState
  | .failed status, _ => .done (.error (mapSnapshotCosmosError status))
  | _, none => .createAgain left
  | .untagged, some _ => .done (.error .invalidData)
  | .served, some item => putExisting kind document item.value left item.etag

/-- After a write that found its precondition broken the attempts go on. -/
def putWritten (left : Nat) : WriteReport → PutState
  | .ok => .done (.ok ())
  | .rejected => .attempt left
  | .failed status => .done (.error (mapSnapshotCosmosError status))

/-- The condition of a call's next write and the attempts left after it. -/
def nextWrite : PutState → Option (Precondition × Nat)
  | .create => some (.absent, snapshotWriteAttempts)
  | .createAgain left => some (.absent, left)
  | .replace left etag => some (.ifMatch etag, left)
  | _ => none

/-! ### The system -/

/-- The document stored under one identifier and the calls that put it. -/
structure System (T : Type) where
  cell : EtagCell T
  processes : Nat → Option (Process T)

/-- Something may have been stored before the first call. -/
def initial (existing : Option T) : System T :=
  ⟨⟨existing.map fun value => ⟨value, 0, 0⟩, 1⟩, fun _ => none⟩

def System.setProcess (s : System T) (pid : Nat) (process : Process T) : System T :=
  { s with processes := Function.update s.processes pid (some process) }

inductive Action (T : Type) where
  | begin (pid : Nat) (document : T)
  | read (pid : Nat) (answer : ReadAnswer)
  | write (pid : Nat) (now : Int) (applied : Bool) (report : WriteReport)

/-- A call's write takes effect, or not, and the call goes on with the report. -/
def System.writeStep (s : System T) (pid : Nat) (process : Process T) (now : Int)
    (applied : Bool) (report : WriteReport) : Option (System T) := do
  let (precondition, left) ← nextWrite process.state
  let cell ← s.cell.write precondition process.document now applied report
  return System.setProcess { s with cell := cell } pid ⟨process.document, putWritten left report⟩

def System.readStep (s : System T) (pid : Nat) (process : Process T) (answer : ReadAnswer) :
    Option (System T) :=
  match process.state with
  | .read left => some (s.setProcess pid
      ⟨process.document, putRead kind process.document left answer s.cell.item⟩)
  | _ => none

/-- One step of the system: a call of this identifier begins, or a call reads or
writes. -/
def step (id : String) (s : System T) : Action T → Option (System T)
  | .begin pid document =>
      if (s.processes pid).isNone ∧ kind.id document = id then
        some (s.setProcess pid ⟨document, beginPut kind document⟩)
      else none
  | .read pid answer => do
      let process ← s.processes pid
      s.readStep kind pid process answer
  | .write pid now applied report => do
      let process ← s.processes pid
      s.writeStep pid process now applied report

end Calls

end TcoCalculator.SnapshotWrite
