/-
The pricing coordinator (src/rust/src/pricing/coordinator.rs) as calls that
interleave at every step on a store: a look into memory, an answer of the
durable repository or of the loader, a write back into memory.
-/
import Mathlib.Logic.Function.Basic
import TcoCalculator.Library.Transition
import TcoCalculator.Pricing.Repository

namespace TcoCalculator

open Rfc3339 PricingCache PriceSnapshotKind

/-- Currency and region. -/
abbrev PriceScope := String × String

/-- Snapshots of one provider that are looked up by scope. -/
class ScopedSnapshotKind (S : Type) [PriceSnapshotKind S] where
  matchesScope : S → PriceScope → Bool
  matchesScope_unique : ∀ snapshot scope scope', matchesScope snapshot scope = true →
    matchesScope snapshot scope' = true → scope = scope'
  matchesScope_withStatus : ∀ snapshot status scope,
    matchesScope (withStatus snapshot status) scope = matchesScope snapshot scope
  retrievedAt_withStatus : ∀ (snapshot : S) status,
    (metadata (withStatus snapshot status)).retrievedAt = (metadata snapshot).retrievedAt

instance {D : Type} : ScopedSnapshotKind (AwsPriceSnapshot D) where
  matchesScope snapshot scope := snapshot.matchesScope scope.1 scope.2
  matchesScope_unique snapshot scope scope' h h' := by
    simp only [AwsPriceSnapshot.matchesScope, Bool.and_eq_true, beq_iff_eq] at h h'
    exact Prod.ext (h.1.2.symm.trans h'.1.2) (h.2.symm.trans h'.2)
  matchesScope_withStatus _ _ _ := rfl
  retrievedAt_withStatus _ _ := rfl

instance {D : Type} : ScopedSnapshotKind (AzurePriceSnapshot D) where
  matchesScope snapshot scope := snapshot.matchesScope scope.1 scope.2
  matchesScope_unique snapshot scope scope' h h' := by
    simp only [AzurePriceSnapshot.matchesScope, Bool.and_eq_true, beq_iff_eq] at h h'
    exact Prod.ext (h.1.2.symm.trans h'.1.2) (h.2.symm.trans h'.2)
  matchesScope_withStatus _ _ _ := rfl
  retrievedAt_withStatus _ _ := rfl

namespace SnapshotRepository

open ScopedSnapshotKind

variable {S : Type} [PriceSnapshotKind S] [ScopedSnapshotKind S]

omit [ScopedSnapshotKind S] in
/-- The last of the snapshots whose retrieval texts are greatest. -/
def latest : List S → Option S
  | [] => none
  | snapshot :: rest =>
      match latest rest with
      | some other =>
          if (metadata snapshot).retrievedAt ≤ (metadata other).retrievedAt then some other
          else some snapshot
      | none => some snapshot

/-- The entries of a scope, in no particular order. -/
def inScope (scope : PriceScope) (entries : List ((_ : String) × HotSnapshot S)) : List S :=
  (entries.map fun entry => entry.2.snapshot).filter fun snapshot => matchesScope snapshot scope

def find (now : UtcDateTime) (scope : PriceScope) (hot : HotSnapshots S) : Option S :=
  (latest (inScope scope hot.entries.entries)).bind fun snapshot => classify snapshot now

def findHot (now : UtcDateTime) (instant : Int) (scope : PriceScope) (hot : HotSnapshots S) :
    Option S :=
  (latest (inScope scope (hot.entries.entries.filter fun entry =>
    instant - entry.2.insertedAt ≤ hotEntryMaxAge))).bind fun snapshot => classify snapshot now

end SnapshotRepository

namespace PricingCoordinator

open SnapshotRepository ScopedSnapshotKind Transition

variable {S : Type} [PriceSnapshotKind S] [ScopedSnapshotKind S]

/-! ### Calls -/

/-- What a lookup asks for. -/
inductive Query where
  | scope (scope : PriceScope)
  | snapshotId (snapshotId : String)
  deriving DecidableEq

/-- Why a call runs.  `since` is what had been returned for the scope when the
call began; a refresh that failed looks for what is stored, and after a failure
of the repository once more in memory. -/
inductive Purpose where
  | resolve (scope : PriceScope) (since : Option Int)
  | get (snapshotId : String)
  | listLatest
  | refresh (scope : PriceScope)
  | refreshFailed (scope : PriceScope) (byRepository : Bool)
  deriving DecidableEq

def Purpose.query : Purpose → Option Query
  | .resolve scope _ => some (.scope scope)
  | .get snapshotId => some (.snapshotId snapshotId)
  | .listLatest => none
  | .refresh scope => some (.scope scope)
  | .refreshFailed scope _ => some (.scope scope)

/-- Where a call stands.  The first five are the lookup in memory and in the
durable repository, the next those of a refresh, the last of a list. -/
inductive CallState (S : Type) where
  | lookup
  | lookupHot (fallback : Option S)
  | readDurable (fallback : Option S)
  | writeBack (snapshot : S)
  | getBack (snapshotId : String)
  | lookupLast
  | load
  | putDurable (snapshot : S)
  | publish (snapshot : S)
  | putMemory (snapshot : S)
  | readShared (snapshotId : String)
  | cacheShared (snapshot : S)
  | getShared (snapshotId : String)
  | listDurable
  | listPut (snapshots : List S)
  /-- The list has been put together; its value is not followed. -/
  | listed
  | done (result : Except SnapshotRepositoryError (Option S))

structure Call (S : Type) where
  purpose : Purpose
  state : CallState S

/-- What is answered from outside the process. -/
inductive Answer (S : Type) where
  | found (snapshot : Option S)
  | listed (snapshots : List S)
  | failed (error : SnapshotRepositoryError)
  /-- The loader's snapshot, with or without a lease to publish. -/
  | loaded (snapshot : S)
  /-- Another owner of the lease has succeeded. -/
  | succeeded (snapshotId : String)
  | providerFailed
  | stored (snapshot : S) (leased : Bool)
  | published

/-- The lookup in memory that falls back on entries of any age. -/
def lookup (now : UtcDateTime) (hot : HotSnapshots S) : Query → Option S
  | .scope scope => find now scope hot
  | .snapshotId snapshotId => SnapshotRepository.get now snapshotId hot

def lookupHot (now : UtcDateTime) (instant : Int) (hot : HotSnapshots S) : Query → Option S
  | .scope scope => findHot now instant scope hot
  | .snapshotId snapshotId => getHot now instant snapshotId hot

/-- A refresh that failed goes on with the lookup of its scope. -/
def failRefresh (scope : PriceScope) (byRepository : Bool) : Call S :=
  ⟨.refreshFailed scope byRepository, .lookup⟩

/-- What comes of a durable read that failed. -/
def readFailed (purpose : Purpose) (fallback : Option S) (error : SnapshotRepositoryError) :
    CallState S :=
  if fallback.isSome then .done (.ok fallback)
  else if purpose matches .refreshFailed _ true then .lookupLast
  else .done (.error error)

/-- The snapshot a call is about to put into memory. -/
def pendingPut : CallState S → Option S
  | .writeBack snapshot => some (withStatus snapshot .cached)
  | .putMemory snapshot => some snapshot
  | .cacheShared snapshot => some (withStatus snapshot .cached)
  | .listPut (snapshot :: _) => some (withStatus snapshot .cached)
  | _ => none

/-- Where a call stands after it has put that snapshot. -/
def afterPut : CallState S → CallState S
  | .writeBack snapshot => .getBack (metadata snapshot).snapshotId
  | .putMemory snapshot => .done (.ok (some snapshot))
  | .cacheShared snapshot => .getShared (metadata snapshot).snapshotId
  | .listPut (_ :: rest) => .listPut rest
  | state => state

/-- A look into memory. -/
def look (now : UtcDateTime) (instant : Int) (hot : HotSnapshots S) (call : Call S) :
    Option (Call S) :=
  match call.state, call.purpose, call.purpose.query with
  | .lookup, purpose, some query => some ⟨purpose, .lookupHot (lookup now hot query)⟩
  | .lookupHot fallback, purpose, some query =>
      match lookupHot now instant hot query with
      | some snapshot => some ⟨purpose, .done (.ok (some snapshot))⟩
      | none => some ⟨purpose, .readDurable fallback⟩
  | .getBack snapshotId, purpose, _ =>
      some ⟨purpose, .done (.ok (SnapshotRepository.get now snapshotId hot))⟩
  | .lookupLast, purpose, some query => some ⟨purpose, .done (.ok (lookup now hot query))⟩
  | .getShared snapshotId, .refresh scope, _ =>
      match SnapshotRepository.get now snapshotId hot with
      | some snapshot => some ⟨.refresh scope, .done (.ok (some snapshot))⟩
      | none => some (failRefresh scope true)
  | .listPut [], purpose, _ => some ⟨purpose, .listed⟩
  | _, _, _ => none

/-- An answer from outside. -/
def receive (call : Call S) (answer : Answer S) : Option (Call S) :=
  match call.purpose, call.state, answer with
  | purpose, .readDurable _, .found (some snapshot) => some ⟨purpose, .writeBack snapshot⟩
  | purpose, .readDurable fallback, .found none => some ⟨purpose, .done (.ok fallback)⟩
  | purpose, .readDurable fallback, .failed error => some ⟨purpose, readFailed purpose fallback error⟩
  | .refresh scope, .load, .loaded snapshot => some ⟨.refresh scope, .putDurable snapshot⟩
  | .refresh scope, .load, .succeeded snapshotId => some ⟨.refresh scope, .readShared snapshotId⟩
  | .refresh scope, .load, .providerFailed => some (failRefresh scope false)
  | .refresh scope, .load, .failed _ => some (failRefresh scope true)
  | .refresh scope, .putDurable _, .stored snapshot leased =>
      some ⟨.refresh scope, if leased then .publish snapshot else .putMemory snapshot⟩
  | .refresh scope, .putDurable _, .failed _ => some (failRefresh scope true)
  | .refresh scope, .publish snapshot, .published => some ⟨.refresh scope, .putMemory snapshot⟩
  | .refresh scope, .publish _, .failed _ => some (failRefresh scope true)
  | .refresh scope, .readShared _, .found (some snapshot) =>
      if matchesScope snapshot scope then some ⟨.refresh scope, .cacheShared snapshot⟩
      else some (failRefresh scope true)
  | .refresh scope, .readShared _, .found none => some (failRefresh scope true)
  | .refresh scope, .readShared _, .providerFailed => some (failRefresh scope false)
  | .refresh scope, .readShared _, .failed _ => some (failRefresh scope true)
  | purpose, .listDurable, .listed snapshots => some ⟨purpose, .listPut snapshots⟩
  | purpose, .listDurable, .failed _ => some ⟨purpose, .listed⟩
  | _, _, _ => none

/-! ### The system -/

omit [ScopedSnapshotKind S] in
/-- The instant a snapshot was retrieved at. -/
def retrieved (snapshot : S) : Option Int :=
  (parse (metadata snapshot).retrievedAt).map fun retrievedAt => retrievedAt.nanos

/-- One process.  The last three are ghosts: the snapshot put into memory last
for each scope, the newest retrieval the durable repository has stored or served,
and the newest one a refresh has returned. -/
structure System (S : Type) [PriceSnapshotKind S] where
  now : UtcDateTime
  instant : Int
  memory : HotSnapshots S
  calls : Nat → Option (Call S)
  newest : PriceScope → Option S
  durable : PriceScope → Option Int
  returned : PriceScope → Option Int

def initial (now : UtcDateTime) (instant : Int) : System S :=
  ⟨now, instant, .empty, fun _ => none, fun _ => none, fun _ => none, fun _ => none⟩

inductive Request where
  | resolve (scope : PriceScope)
  | get (snapshotId : String)
  | listLatest
  | refresh (scope : PriceScope) (configured : Bool)

inductive Action (S : Type) where
  | tick (now : UtcDateTime) (instant : Int)
  | begin (pid : Nat) (request : Request)
  | look (pid : Nat)
  | put (pid : Nat)
  | answer (pid : Nat) (answer : Answer S)

/-- Without a loader a refresh only looks for what is stored. -/
def start (returned : PriceScope → Option Int) : Request → Call S
  | .resolve scope => ⟨.resolve scope (returned scope), .lookup⟩
  | .get snapshotId => ⟨.get snapshotId, .lookup⟩
  | .listLatest => ⟨.listLatest, .listDurable⟩
  | .refresh scope true => ⟨.refresh scope, .load⟩
  | .refresh scope false => failRefresh scope false

/-- The greater of a recorded instant and another one. -/
def raise (floor : PriceScope → Option Int) (scope : PriceScope) (nanos : Option Int) :
    PriceScope → Option Int :=
  Function.update floor scope
    (match floor scope, nanos with
      | some old, some new => some (max old new)
      | old, none => old
      | none, new => new)

/-- What a finished refresh has returned. -/
def raiseReturned (returned : PriceScope → Option Int) (call : Call S) :
    PriceScope → Option Int :=
  match call.purpose, call.state with
  | .refresh scope, .done (.ok (some snapshot)) => raise returned scope (retrieved snapshot)
  | .refreshFailed scope _, .done (.ok (some snapshot)) =>
      raise returned scope (retrieved snapshot)
  | _, _ => returned

def System.setCall (s : System S) (pid : Nat) (call : Call S) : System S :=
  { s with
    calls := Function.update s.calls pid (some call)
    returned := raiseReturned s.returned call }

section Step

-- The scope a content-derived identifier stands for.
variable (scopeOf : String → PriceScope)

/-- A snapshot is of the scope its identifier stands for and states when it was
retrieved. -/
def named (snapshot : S) : Bool :=
  matchesScope snapshot (scopeOf (metadata snapshot).snapshotId) && (retrieved snapshot).isSome

/-- No older than what the durable repository has stored or served. -/
def current (durable : PriceScope → Option Int) (scope : PriceScope) (snapshot : S) : Bool :=
  (durable scope).all fun floor => (retrieved snapshot).any fun nanos => floor ≤ nanos

/-- What the durable repository and the loader are relied on for: a lookup is
answered for what it asks, and the newest document of a scope wins. -/
def answerAllowed (durable : PriceScope → Option Int) (call : Call S) : Answer S → Bool
  | .found (some snapshot) => named scopeOf snapshot &&
      match call.state, call.purpose.query with
      | .readShared snapshotId, _ => (metadata snapshot).snapshotId == snapshotId
      | _, some (.scope scope) => matchesScope snapshot scope && current durable scope snapshot
      | _, some (.snapshotId snapshotId) => (metadata snapshot).snapshotId == snapshotId
      | _, none => true
  | .listed snapshots => snapshots.all (named scopeOf)
  | .loaded snapshot | .stored snapshot _ =>
      named scopeOf snapshot &&
        match call.purpose with
        | .refresh scope => matchesScope snapshot scope
        | _ => true
  | _ => true

/-- What the durable repository has served or stored with an answer. -/
def raiseDurable (durable : PriceScope → Option Int) : Answer S → PriceScope → Option Int
  | .found (some snapshot) | .stored snapshot _ =>
      raise durable (scopeOf (metadata snapshot).snapshotId) (retrieved snapshot)
  | .listed snapshots => snapshots.foldl (fun floor snapshot =>
      raise floor (scopeOf (metadata snapshot).snapshotId) (retrieved snapshot)) durable
  | _ => durable

def System.putMemory (s : System S) (snapshot : S) : System S :=
  { s with
    memory := SnapshotRepository.put s.instant snapshot s.memory
    newest := Function.update s.newest (scopeOf (metadata snapshot).snapshotId) (some snapshot) }

def step (s : System S) : Action S → Option (System S)
  | .tick now instant => if s.instant ≤ instant then some { s with now, instant } else none
  | .begin pid request =>
      if (s.calls pid).isNone then some (s.setCall pid (start s.returned request)) else none
  | .look pid => do
      let call ← s.calls pid
      let call ← look s.now s.instant s.memory call
      return s.setCall pid call
  | .put pid => do
      let call ← s.calls pid
      let snapshot ← pendingPut call.state
      return (s.putMemory scopeOf snapshot).setCall pid ⟨call.purpose, afterPut call.state⟩
  | .answer pid answer => do
      let call ← s.calls pid
      if answerAllowed scopeOf s.durable call answer then
        let call ← receive call answer
        return { s with durable := raiseDurable scopeOf s.durable answer }.setCall pid call
      else none

end Step

end PricingCoordinator

end TcoCalculator
