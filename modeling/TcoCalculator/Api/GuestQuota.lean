/-
The quotas of guests (src/rust/src/rate_limit.rs): whose request it is, and whether
it goes on to its handler.
-/
import TcoCalculator.Api.Auth
import TcoCalculator.Api.Problem
import TcoCalculator.Api.TokenBucket
import TcoCalculator.Library.Bytes
import TcoCalculator.Library.IpAddr

namespace TcoCalculator

/-! ### The quota of live refreshes -/

inductive RefreshQuotaDecision where
  | allowed
  | limited (retryAfterSeconds : ℕ)

inductive RefreshQuotaError where
  | unavailable
  | invalidData

/-- A store of refresh quotas that the replicas share. -/
structure RefreshQuotaRepository (Store : Type) where
  consumeRefreshQuota : (identitySha256 operationToken : String) → (limit : ℕ) → (now : Instant) →
    Store → Except RefreshQuotaError RefreshQuotaDecision × Store

structure RefreshQuota (Store : Type) where
  limit : ℕ
  localBucket : Option TokenBucket
  distributed : Option (RefreshQuotaRepository Store)

/-- The entries of the local bucket and the shared store. -/
structure RefreshQuotaState (Store : Type) where
  entries : BucketEntries (List UInt8)
  store : Store

namespace RefreshQuota

variable {Store : Type}

def new (limit : ℕ) (distributed : Option (RefreshQuotaRepository Store)) :
    RefreshQuota Store where
  limit := limit
  localBucket :=
    if distributed.isNone then some (TokenBucket.new limit (.ofSecs (60 * 60) (by decide)))
    else none
  distributed := distributed

def digestHex (sha256 : String → List UInt8) (value : String) : String :=
  Bytes.hexText (sha256 value)

/-- The seconds to wait, if any.  A fresh token marks the operation in the store. -/
def check (quota : RefreshQuota Store) (sha256 : String → List UInt8)
    (identity operationToken : String) (now : Instant) (state : RefreshQuotaState Store) :
    Except RefreshQuotaError (Option ℕ) × RefreshQuotaState Store :=
  match quota.distributed with
  | some repository =>
      let (decision, store) := repository.consumeRefreshQuota (digestHex sha256 identity)
        operationToken quota.limit now state.store
      (decision.map fun
          | .allowed => none
          | .limited retryAfterSeconds => some retryAfterSeconds,
        { state with store })
  | none =>
      match quota.localBucket with
      | none => (.error .unavailable, state)
      | some bucket =>
          let (answer, entries) := bucket.check (sha256 identity) now state.entries
          (.ok answer, { state with entries })

end RefreshQuota

/-! ### Requests -/

/-- What the quotas read of the configuration, whose quotas are positive. -/
structure QuotaConfig where
  environment : Auth.AppEnvironment
  localAuth : Option Auth.LocalAuthSettings
  guestRequestsPerMinute : ℕ
  providerRefreshesPerHour : ℕ
  guest_pos : 1 ≤ guestRequestsPerMinute
  refresh_pos : 1 ≤ providerRefreshesPerHour

abbrev HeaderValue := List UInt8

/-- What the quotas read of a request: its path and time, the principal's header, the
lines of `X-Forwarded-For`, the peer of the socket and the operation's token. -/
structure QuotaRequest where
  path : String
  now : Instant
  principal : Option HeaderValue
  forwardedFor : List HeaderValue
  peer : Option IpAddr
  operationToken : String

namespace GuestQuota

open Auth (AuthLibrary Principal)
open Assistant (trim)

variable (library : AuthLibrary HeaderValue) (config : QuotaConfig)

/-- `str::split` at commas, the first piece. -/
def firstElement (value : String) : String := String.ofList (value.toList.takeWhile (· ≠ ','))

/-- The address that the first element of the first line names. -/
def forwardedIp (forwardedFor : List HeaderValue) : Option IpAddr :=
  ((forwardedFor.head?.bind library.toStr).map firstElement).bind fun value =>
    IpAddr.parse (trim value)

def requesterKey (request : QuotaRequest) : String :=
  let forwarded :=
    if config.environment ≠ .local then forwardedIp library request.forwardedFor else none
  let ip := ((forwarded.or request.peer).map IpAddr.text).getD "unknown"
  "ip:" ++ ip

/-- The principal of a request that has one and states it well. -/
def principalOf (request : QuotaRequest) : Option Principal :=
  (Auth.resolvePrincipal library config.environment config.localAuth
    request.principal).toOption.join

def guestBucket : TokenBucket :=
  TokenBucket.new config.guestRequestsPerMinute (.ofSecs 60 (by decide))

/-- The problem that answers the request, unless it goes on. -/
def enforceGuestQuota (sha256 : String → List UInt8) (request : QuotaRequest)
    (entries : BucketEntries (List UInt8)) :
    Except Problem Unit × BucketEntries (List UInt8) :=
  if (principalOf library config request).isSome then (.ok (), entries)
  else
    match (guestBucket config).check (sha256 (requesterKey library config request)) request.now
        entries with
    | (some retryAfter, entries) => (.error (Problem.rateLimited request.path retryAfter), entries)
    | (none, entries) => (.ok (), entries)

def enforceRefreshQuota {Store : Type} (quota : RefreshQuota Store)
    (sha256 : String → List UInt8) (request : QuotaRequest) (state : RefreshQuotaState Store) :
    Except Problem Unit × RefreshQuotaState Store :=
  let key := ((principalOf library config request).map fun principal =>
    "principal:" ++ principal.ownerId).getD (requesterKey library config request)
  match quota.check sha256 key request.operationToken request.now state with
  | (.ok (some retryAfter), state) =>
      (.error (Problem.rateLimited request.path retryAfter), state)
  | (.error _, state) => (.error (Problem.internal request.path), state)
  | (.ok none, state) => (.ok (), state)

end GuestQuota

end TcoCalculator
