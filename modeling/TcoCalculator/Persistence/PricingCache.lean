/-
Refresh documents of the pricing cache (src/rust/src/persistence/pricing_cache.rs):
the lease that elects one refresher and the quota that bounds refreshes per hour.
-/
import TcoCalculator.Library.Fallible
import TcoCalculator.Library.Locked
import TcoCalculator.Library.Rfc3339
import TcoCalculator.Pricing.Provider

namespace TcoCalculator.PricingCache

open Rfc3339

def pricingCachePartition : String := "pricing"
def refreshLeaseDocumentType : String := "pricing_refresh_lease"
def refreshLeaseTtlSeconds : Nat := 150
def refreshQuotaDocumentType : String := "pricing_refresh_quota"
def refreshQuotaTtlSeconds : Nat := 60 * 60
def refreshLeaseIdPrefix : String := "refresh-lease-"
def refreshQuotaIdPrefix : String := "refresh-quota-"
def maxProviderRefreshesPerHour : Nat := 10000

def conditionalWriteAttempts : Nat := 5

inductive SnapshotRepositoryError where
  | unavailable
  | invalidData
  | payloadTooLarge
  deriving DecidableEq, Repr

def mapSnapshotCosmosError (status : Nat) : SnapshotRepositoryError :=
  if status = 413 then .payloadTooLarge else .unavailable

inductive PricingCacheDocumentError where
  | envelopeMismatch
  | snapshot (error : SnapshotError)
  deriving DecidableEq, Repr

/-- Only timestamps written in UTC are accepted. -/
def parseTimestamp (value : String) : Except PricingCacheDocumentError ParsedDateTime :=
  match parse value with
  | some parsed => if parsed.isUtc then .ok parsed else .error .envelopeMismatch
  | none => .error .envelopeMismatch

def formatTimestamp (value : UtcDateTime) : Except PricingCacheDocumentError String :=
  match format value with
  | some text => .ok text
  | none => .error .envelopeMismatch

theorem parseTimestamp_format {t : UtcDateTime} {text : String}
    (h : formatTimestamp t = .ok text) : parseTimestamp text = .ok ⟨t.nanos, 0⟩ := by
  unfold formatTimestamp at h
  split at h
  · rename_i formatted hformat
    cases h
    rw [parseTimestamp, parse_format hformat]
    rfl
  · cases h

/-! ### Refresh lease -/

inductive RefreshLeaseStatus where
  | inProgress
  | succeeded (snapshotId : String)
  | failed (error : ProviderError)
  deriving DecidableEq, Repr

inductive RefreshLeaseOutcome where
  | succeeded (snapshotId : String)
  | failed (error : ProviderError)
  deriving DecidableEq, Repr

inductive RefreshLeaseDecision where
  | acquired
  | pending
  | succeeded (snapshotId : String)
  | failed (error : ProviderError)
  deriving DecidableEq, Repr

structure RefreshLeaseDocument where
  id : String
  documentType : String
  cachePartition : String
  cacheKeySha256 : String
  ownerToken : String
  leasedAt : String
  expiresAt : String
  completedAt : Option String
  status : RefreshLeaseStatus
  ttl : Int
  deriving DecidableEq

namespace RefreshLeaseDocument

/-- The status and the completion time belong together. -/
def validateCompletion (status : RefreshLeaseStatus) (completedAt : Option String)
    (leasedAt expiresAt : Int) : Except PricingCacheDocumentError Unit :=
  match status, completedAt with
  | .inProgress, none => .ok ()
  | .succeeded snapshotId, some completedAt => do
      ensure (validSnapshotId snapshotId) .envelopeMismatch
      let completed ← parseTimestamp completedAt
      ensure (leasedAt ≤ completed.nanos ∧ completed.nanos ≤ expiresAt) .envelopeMismatch
  | .failed _, some completedAt => do
      let completed ← parseTimestamp completedAt
      ensure (leasedAt ≤ completed.nanos ∧ completed.nanos ≤ expiresAt) .envelopeMismatch
  | _, _ => .error .envelopeMismatch

def validate (document : RefreshLeaseDocument) : Except PricingCacheDocumentError Unit := do
  let leasedAt ← parseTimestamp document.leasedAt
  let expiresAt ← parseTimestamp document.expiresAt
  ensure (validHash document.cacheKeySha256
      ∧ document.id = refreshLeaseIdPrefix ++ document.cacheKeySha256
      ∧ document.documentType = refreshLeaseDocumentType
      ∧ document.cachePartition = pricingCachePartition
      ∧ isCanonicalUuid document.ownerToken
      ∧ expiresAt.nanos - leasedAt.nanos = refreshLeaseTtlSeconds * nanosPerSecond
      ∧ document.ttl = refreshLeaseTtlSeconds) .envelopeMismatch
  validateCompletion document.status document.completedAt leasedAt.nanos expiresAt.nanos

/-- A new lease.  The addition to the clock reading panics past year 9999. -/
def new (cacheKeySha256 ownerToken : String) (now : UtcDateTime) :
    Outcome PricingCacheDocumentError RefreshLeaseDocument := do
  let expiry ← Outcome.expect (now.addSeconds? refreshLeaseTtlSeconds)
  let leasedAt ← Outcome.lift (formatTimestamp now)
  let expiresAt ← Outcome.lift (formatTimestamp expiry)
  let document : RefreshLeaseDocument := {
    id := refreshLeaseIdPrefix ++ cacheKeySha256
    documentType := refreshLeaseDocumentType
    cachePartition := pricingCachePartition
    cacheKeySha256 := cacheKeySha256
    ownerToken := ownerToken
    leasedAt := leasedAt
    expiresAt := expiresAt
    completedAt := none
    status := .inProgress
    ttl := refreshLeaseTtlSeconds }
  Outcome.lift document.validate
  return document

def completedFor (document : RefreshLeaseDocument) (requestStartedAt : Int) :
    Except PricingCacheDocumentError Bool :=
  match document.completedAt with
  | none => .ok false
  | some completedAt => do
      let completed ← parseTimestamp completedAt
      return requestStartedAt ≤ completed.nanos

def decision (document : RefreshLeaseDocument) (requestStartedAt : Int) (now : UtcDateTime) :
    Except PricingCacheDocumentError (Option RefreshLeaseDecision) := do
  document.validate
  match document.status with
  | .inProgress => do
      let expiresAt ← parseTimestamp document.expiresAt
      return if expiresAt.nanos ≤ now.nanos then none else some .pending
  | .succeeded snapshotId => do
      let completed ← document.completedFor requestStartedAt
      return if completed then some (.succeeded snapshotId) else none
  | .failed error => do
      let completed ← document.completedFor requestStartedAt
      return if completed then some (.failed error) else none

/-- The terminal status of an outcome; a snapshot id must be well formed. -/
def completedStatus : RefreshLeaseOutcome → Except PricingCacheDocumentError RefreshLeaseStatus
  | .succeeded snapshotId =>
      if validSnapshotId snapshotId then .ok (.succeeded snapshotId)
      else .error .envelopeMismatch
  | .failed error => .ok (.failed error)

def complete (document : RefreshLeaseDocument) (ownerToken : String)
    (outcome : RefreshLeaseOutcome) (now : UtcDateTime) :
    Except PricingCacheDocumentError RefreshLeaseDocument := do
  document.validate
  ensure (document.ownerToken = ownerToken ∧ document.status = .inProgress) .envelopeMismatch
  let expiresAt ← parseTimestamp document.expiresAt
  ensure (now.nanos < expiresAt.nanos) .envelopeMismatch
  let completedText ← formatTimestamp now
  let status ← completedStatus outcome
  let completed := { document with completedAt := some completedText, status }
  completed.validate
  return completed

def statusMatches : RefreshLeaseStatus → RefreshLeaseOutcome → Bool
  | .succeeded stored, .succeeded expected => stored == expected
  | .failed stored, .failed expected => stored == expected
  | _, _ => false

def matchesOutcome (document : RefreshLeaseDocument) (ownerToken : String)
    (outcome : RefreshLeaseOutcome) : Except PricingCacheDocumentError Bool := do
  document.validate
  return document.ownerToken == ownerToken && statusMatches document.status outcome

/-- The answer a status gives to a claim that may see it. -/
def decisionOf : RefreshLeaseStatus → RefreshLeaseDecision
  | .inProgress => .pending
  | .succeeded snapshotId => .succeeded snapshotId
  | .failed error => .failed error

/-- The document records a completion at or after the given instant. -/
def CompletedSince (document : RefreshLeaseDocument) (instant : Int) : Prop :=
  ∃ text completed, document.completedAt = some text ∧
    parseTimestamp text = .ok completed ∧ instant ≤ completed.nanos

/-- The lease has ended by the given instant. -/
def ExpiredBy (document : RefreshLeaseDocument) (instant : Int) : Prop :=
  ∃ expires, parseTimestamp document.expiresAt = .ok expires ∧ expires.nanos ≤ instant

/-- The lease lasts beyond the given instant. -/
def ActiveAt (document : RefreshLeaseDocument) (instant : Int) : Prop :=
  ∃ expires, parseTimestamp document.expiresAt = .ok expires ∧ instant < expires.nanos

theorem ExpiredBy.later {document : RefreshLeaseDocument} {instant later : Int}
    (h : document.ExpiredBy instant) (hle : instant ≤ later) : document.ExpiredBy later := by
  obtain ⟨expires, hparse, hexpired⟩ := h
  exact ⟨expires, hparse, hexpired.trans hle⟩

theorem ExpiredBy.not_active {document : RefreshLeaseDocument} {instant later : Int}
    (h : document.ExpiredBy instant) (hle : instant ≤ later) : ¬ document.ActiveAt later := by
  obtain ⟨expires, hparse, hexpired⟩ := h
  rintro ⟨expires', hparse', hactive⟩
  rw [hparse] at hparse'
  cases hparse'
  omega

theorem validate_times {document : RefreshLeaseDocument} (h : document.validate = .ok ()) :
    ∃ leased expires, parseTimestamp document.leasedAt = .ok leased ∧
      parseTimestamp document.expiresAt = .ok expires ∧
      expires.nanos = leased.nanos + refreshLeaseTtlSeconds * nanosPerSecond ∧
      document.ttl = refreshLeaseTtlSeconds := by
  simp only [validate, Fallible.bind_eq_ok, Fallible.ensure_eq_ok] at h
  obtain ⟨leased, hleased, expires, hexpires, -, hfields, -⟩ := h
  refine ⟨leased, expires, hleased, hexpires, ?_, hfields.2.2.2.2.2.2⟩
  have hlength := hfields.2.2.2.2.2.1
  omega

theorem new_eq_ok {cacheKeySha256 ownerToken : String} {now : UtcDateTime}
    {document : RefreshLeaseDocument} (h : new cacheKeySha256 ownerToken now = .ok document) :
    document.validate = .ok () ∧ document.ownerToken = ownerToken ∧
      document.status = .inProgress ∧
      parseTimestamp document.leasedAt = .ok ⟨now.nanos, 0⟩ := by
  simp only [new, Outcome.bind_eq_ok, Outcome.lift_eq_ok, Outcome.pure_eq_ok] at h
  obtain ⟨expiry, -, leasedAt, hleased, expiresAt, -, _, hvalid, rfl⟩ := h
  exact ⟨hvalid, rfl, rfl, parseTimestamp_format hleased⟩

theorem completedFor_eq_true {document : RefreshLeaseDocument} {instant : Int}
    (h : document.completedFor instant = .ok true) : document.CompletedSince instant := by
  unfold completedFor at h
  split at h
  · cases h
  · rename_i text htext
    simp only [Fallible.bind_eq_ok, Fallible.pure_eq_ok, Except.ok.injEq,
      decide_eq_true_eq] at h
    obtain ⟨completed, hparse, hle⟩ := h
    exact ⟨text, completed, htext, hparse, hle⟩

/-- A decision tells the stored status, and a terminal one only to a request
that started no later than its completion. -/
theorem decision_eq_some {document : RefreshLeaseDocument} {requestStartedAt : Int}
    {now : UtcDateTime} {decision : RefreshLeaseDecision}
    (h : document.decision requestStartedAt now = .ok (some decision)) :
    decision = decisionOf document.status ∧
      (document.status ≠ .inProgress → document.CompletedSince requestStartedAt) := by
  simp only [RefreshLeaseDocument.decision, Fallible.bind_eq_ok] at h
  obtain ⟨-, -, h⟩ := h
  cases hstatus : document.status with
  | inProgress =>
      simp only [hstatus, Fallible.bind_eq_ok, Fallible.pure_eq_ok, Except.ok.injEq] at h
      obtain ⟨expires, -, h⟩ := h
      split at h
      · cases h
      · cases h
        exact ⟨rfl, fun hne => absurd rfl hne⟩
  | succeeded snapshotId =>
      simp only [hstatus, Fallible.bind_eq_ok, Fallible.pure_eq_ok, Except.ok.injEq] at h
      obtain ⟨completed, hcompleted, h⟩ := h
      cases completed with
      | false => cases h
      | true =>
          cases h
          exact ⟨rfl, fun _ => completedFor_eq_true hcompleted⟩
  | failed error =>
      simp only [hstatus, Fallible.bind_eq_ok, Fallible.pure_eq_ok, Except.ok.injEq] at h
      obtain ⟨completed, hcompleted, h⟩ := h
      cases completed with
      | false => cases h
      | true =>
          cases h
          exact ⟨rfl, fun _ => completedFor_eq_true hcompleted⟩

/-- A document that leaves the claim open does not hold an unexpired lease. -/
theorem decision_eq_none {document : RefreshLeaseDocument} {requestStartedAt : Int}
    {now : UtcDateTime} (h : document.decision requestStartedAt now = .ok none)
    (hstatus : document.status = .inProgress) : document.ExpiredBy now.nanos := by
  simp only [decision, hstatus, Fallible.bind_eq_ok, Fallible.pure_eq_ok,
    Except.ok.injEq] at h
  obtain ⟨-, -, expires, hparse, h⟩ := h
  split at h
  · rename_i hexpired
    exact ⟨expires, hparse, hexpired⟩
  · cases h

/-- What a successful completion started from and what it wrote. -/
structure Completes (previous document : RefreshLeaseDocument) (ownerToken : String)
    (outcome : RefreshLeaseOutcome) (now : UtcDateTime) : Prop where
  previousOwner : previous.ownerToken = ownerToken
  previousStatus : previous.status = .inProgress
  active : previous.ActiveAt now.nanos
  owner : document.ownerToken = ownerToken
  status : statusMatches document.status outcome = true
  completedAt : ∃ text, document.completedAt = some text ∧
    parseTimestamp text = .ok ⟨now.nanos, 0⟩
  leasedAt : document.leasedAt = previous.leasedAt
  valid : document.validate = .ok ()

theorem statusMatches_completedStatus {outcome : RefreshLeaseOutcome}
    {status : RefreshLeaseStatus} (h : completedStatus outcome = .ok status) :
    statusMatches status outcome = true := by
  unfold completedStatus at h
  split at h
  · split at h
    · cases h
      simp [statusMatches]
    · cases h
  · cases h
    simp [statusMatches]

theorem statusMatches_ne_inProgress {status : RefreshLeaseStatus}
    {outcome : RefreshLeaseOutcome} (h : statusMatches status outcome = true) :
    status ≠ .inProgress := by
  rintro rfl
  cases outcome <;> cases h

theorem complete_eq_ok {previous document : RefreshLeaseDocument} {ownerToken : String}
    {outcome : RefreshLeaseOutcome} {now : UtcDateTime}
    (h : previous.complete ownerToken outcome now = .ok document) :
    Completes previous document ownerToken outcome now := by
  simp only [complete, Fallible.bind_eq_ok, Fallible.ensure_eq_ok, Fallible.pure_eq_ok,
    Except.ok.injEq] at h
  obtain ⟨_, -, _, ⟨howner, hstatus⟩, expires, hexpires, _, hactive, text, htext, status,
    houtcome, _, hvalid, rfl⟩ := h
  exact ⟨howner, hstatus, ⟨expires, hexpires, hactive⟩, howner,
    statusMatches_completedStatus houtcome, ⟨text, rfl, parseTimestamp_format htext⟩, rfl,
    hvalid⟩

theorem matchesOutcome_eq_true {document : RefreshLeaseDocument} {ownerToken : String}
    {outcome : RefreshLeaseOutcome}
    (h : document.matchesOutcome ownerToken outcome = .ok true) :
    document.ownerToken = ownerToken ∧ statusMatches document.status outcome = true := by
  simp only [matchesOutcome, Fallible.bind_eq_ok, Fallible.pure_eq_ok, Except.ok.injEq,
    Bool.and_eq_true, beq_iff_eq] at h
  obtain ⟨_, -, hmatches⟩ := h
  exact hmatches

end RefreshLeaseDocument

/-! ### Refresh quota -/

structure RefreshQuotaDocument where
  id : String
  documentType : String
  cachePartition : String
  identitySha256 : String
  windowStartedAt : String
  expiresAt : String
  limit : Nat
  count : Nat
  operationTokens : List String
  ttl : Int
  deriving DecidableEq

inductive RefreshQuotaMutation where
  | allowed
  | limited (retryAfterSeconds : Nat)
  | replace (document : RefreshQuotaDocument)
  deriving DecidableEq

def validateQuotaInputs (identitySha256 operationToken : String) (limit : Nat) :
    Except PricingCacheDocumentError Unit :=
  ensure (validHash identitySha256
      ∧ isCanonicalUuid operationToken
      ∧ 1 ≤ limit ∧ limit ≤ maxProviderRefreshesPerHour) .envelopeMismatch

/-- Seconds until an expiry, rounded up and at most one window. -/
def remainingSeconds (expiresAt : Int) (now : UtcDateTime) : Nat :=
  let remaining := expiresAt - now.nanos
  if remaining ≤ 0 then 0
  else
    let wholeSeconds := remaining.toNat / nanosPerSecond
    let roundedSeconds :=
      if remaining.toNat > wholeSeconds * nanosPerSecond then wholeSeconds + 1
      else wholeSeconds
    min roundedSeconds refreshQuotaTtlSeconds

namespace RefreshQuotaDocument

def validate (document : RefreshQuotaDocument) : Except PricingCacheDocumentError Unit := do
  let windowStartedAt ← parseTimestamp document.windowStartedAt
  let expiresAt ← parseTimestamp document.expiresAt
  ensure (validHash document.identitySha256
      ∧ document.id = refreshQuotaIdPrefix ++ document.identitySha256
      ∧ document.documentType = refreshQuotaDocumentType
      ∧ document.cachePartition = pricingCachePartition
      ∧ document.limit ≠ 0
      ∧ document.limit ≤ maxProviderRefreshesPerHour
      ∧ document.count ≠ 0
      ∧ document.count = document.operationTokens.length
      ∧ document.count ≤ document.limit
      ∧ (document.operationTokens.Nodup ∧ ∀ token ∈ document.operationTokens,
          isCanonicalUuid token)
      ∧ expiresAt.nanos - windowStartedAt.nanos = refreshQuotaTtlSeconds * nanosPerSecond
      ∧ 1 ≤ document.ttl ∧ document.ttl ≤ refreshQuotaTtlSeconds) .envelopeMismatch

/-- A window opened by its first operation. -/
def new (identitySha256 operationToken : String) (limit : Nat) (now : UtcDateTime) :
    Outcome PricingCacheDocumentError RefreshQuotaDocument := do
  Outcome.lift (validateQuotaInputs identitySha256 operationToken limit)
  let windowStartedAt ← Outcome.lift (formatTimestamp now)
  let expiry ← Outcome.expect (now.addSeconds? refreshQuotaTtlSeconds)
  let expiresAt ← Outcome.lift (formatTimestamp expiry)
  let document : RefreshQuotaDocument := {
    id := refreshQuotaIdPrefix ++ identitySha256
    documentType := refreshQuotaDocumentType
    cachePartition := pricingCachePartition
    identitySha256 := identitySha256
    windowStartedAt := windowStartedAt
    expiresAt := expiresAt
    limit := limit
    count := 1
    operationTokens := [operationToken]
    ttl := refreshQuotaTtlSeconds }
  Outcome.lift document.validate
  return document

/-- The document with one more operation, its lifetime cut to the rest of the
window. -/
def withOperation (document : RefreshQuotaDocument) (operationToken : String)
    (retryAfter : Nat) : RefreshQuotaDocument :=
  { document with
    count := document.count + 1
    operationTokens := document.operationTokens ++ [operationToken]
    ttl := retryAfter }

def consume (document : RefreshQuotaDocument) (identitySha256 operationToken : String)
    (limit : Nat) (now : UtcDateTime) :
    Outcome PricingCacheDocumentError RefreshQuotaMutation := do
  Outcome.lift document.validate
  Outcome.lift (validateQuotaInputs identitySha256 operationToken limit)
  Outcome.lift (ensure (document.identitySha256 = identitySha256) .envelopeMismatch)
  if operationToken ∈ document.operationTokens then
    return .allowed
  else
    let expiresAt ← Outcome.lift (parseTimestamp document.expiresAt)
    if expiresAt.nanos ≤ now.nanos then
      (new identitySha256 operationToken limit now).map .replace
    else
      let retryAfter := remainingSeconds expiresAt.nanos now
      if min document.limit limit ≤ document.count then
        return .limited retryAfter
      else
        let updated := document.withOperation operationToken retryAfter
        Outcome.lift updated.validate
        return .replace updated

/-- The window of the document began by the given instant. -/
def StartedBy (document : RefreshQuotaDocument) (instant : Int) : Prop :=
  ∃ started, parseTimestamp document.windowStartedAt = .ok started ∧ started.nanos ≤ instant

/-- The window of the document has ended by the given instant. -/
def EndedBy (document : RefreshQuotaDocument) (instant : Int) : Prop :=
  ∃ expires, parseTimestamp document.expiresAt = .ok expires ∧ expires.nanos ≤ instant

theorem StartedBy.later {document : RefreshQuotaDocument} {instant later : Int}
    (h : document.StartedBy instant) (hle : instant ≤ later) : document.StartedBy later := by
  obtain ⟨started, hparse, hstarted⟩ := h
  exact ⟨started, hparse, hstarted.trans hle⟩

theorem EndedBy.later {document : RefreshQuotaDocument} {instant later : Int}
    (h : document.EndedBy instant) (hle : instant ≤ later) : document.EndedBy later := by
  obtain ⟨expires, hparse, hended⟩ := h
  exact ⟨expires, hparse, hended.trans hle⟩

/-- The window ends an hour after it began. -/
theorem validate_window {document : RefreshQuotaDocument} (h : document.validate = .ok ()) :
    ∃ started expires, parseTimestamp document.windowStartedAt = .ok started ∧
      parseTimestamp document.expiresAt = .ok expires ∧
      expires.nanos = started.nanos + refreshQuotaTtlSeconds * nanosPerSecond := by
  simp only [validate, Fallible.bind_eq_ok, Fallible.ensure_eq_ok] at h
  obtain ⟨started, hstarted, expires, hexpires, hfields⟩ := h
  refine ⟨started, expires, hstarted, hexpires, ?_⟩
  have hlength := hfields.2.2.2.2.2.2.2.2.2.2.1
  omega

/-- The count is the number of recorded operations, all distinct. -/
theorem validate_count {document : RefreshQuotaDocument} (h : document.validate = .ok ()) :
    document.operationTokens ≠ [] ∧ document.operationTokens.Nodup ∧
      document.count = document.operationTokens.length ∧ document.count ≤ document.limit := by
  simp only [validate, Fallible.bind_eq_ok, Fallible.ensure_eq_ok] at h
  obtain ⟨-, -, -, -, -, -, -, -, -, -, hcounted, hcount, hlimit, ⟨hnodup, -⟩, -⟩ := h
  refine ⟨?_, hnodup, hcount, hlimit⟩
  rintro hnil
  rw [hcount, hnil] at hcounted
  exact hcounted rfl

theorem new_eq_ok {identitySha256 operationToken : String} {limit : Nat} {now : UtcDateTime}
    {document : RefreshQuotaDocument}
    (h : new identitySha256 operationToken limit now = .ok document) :
    document.validate = .ok () ∧ document.operationTokens = [operationToken] ∧
      document.limit = limit ∧ document.ttl = refreshQuotaTtlSeconds ∧
      parseTimestamp document.windowStartedAt = .ok ⟨now.nanos, 0⟩ := by
  simp only [new, Outcome.bind_eq_ok, Outcome.lift_eq_ok, Outcome.pure_eq_ok] at h
  obtain ⟨_, -, started, hstarted, expiry, -, expires, -, _, hvalid, rfl⟩ := h
  exact ⟨hvalid, rfl, rfl, rfl, parseTimestamp_format hstarted⟩

/-- Rounding up never cuts the rest of a window short. -/
theorem le_add_remainingSeconds {started expiresAt : Int} {now : UtcDateTime}
    (hwindow : expiresAt = started + refreshQuotaTtlSeconds * nanosPerSecond)
    (hstarted : started ≤ now.nanos) :
    expiresAt ≤ now.nanos + remainingSeconds expiresAt now * nanosPerSecond := by
  simp only [refreshQuotaTtlSeconds, nanosPerSecond] at hwindow
  by_cases hended : expiresAt - now.nanos ≤ 0
  · simp only [remainingSeconds, hended, if_true]
    omega
  · by_cases hround : (expiresAt - now.nanos).toNat >
        (expiresAt - now.nanos).toNat / nanosPerSecond * nanosPerSecond
    · simp only [remainingSeconds, hended, hround, if_true, if_false]
      simp only [refreshQuotaTtlSeconds, nanosPerSecond]
      omega
    · simp only [remainingSeconds, hended, hround, if_false]
      simp only [refreshQuotaTtlSeconds, nanosPerSecond] at hround ⊢
      omega

/-- An update that counts one more operation in the window of a document. -/
structure Counts (current updated : RefreshQuotaDocument) (operationToken : String)
    (limit : Nat) (now : UtcDateTime) : Prop where
  valid : updated.validate = .ok ()
  fresh : operationToken ∉ current.operationTokens
  tokens : updated.operationTokens = current.operationTokens ++ [operationToken]
  sameLimit : updated.limit = current.limit
  sameStart : updated.windowStartedAt = current.windowStartedAt
  sameEnd : updated.expiresAt = current.expiresAt
  below : current.count < min current.limit limit
  lasting : current.StartedBy now.nanos →
    updated.EndedBy (now.nanos + updated.ttl * nanosPerSecond)

/-- A reset of an ended window by an operation it has not counted. -/
structure Resets (current updated : RefreshQuotaDocument)
    (identitySha256 operationToken : String) (limit : Nat) (now : UtcDateTime) : Prop where
  ended : current.EndedBy now.nanos
  fresh : operationToken ∉ current.operationTokens
  opened : new identitySha256 operationToken limit now = .ok updated

theorem counts_withOperation {current : RefreshQuotaDocument} {operationToken : String}
    {limit : Nat} {now : UtcDateTime} {expires : ParsedDateTime}
    (hvalid : current.validate = .ok ())
    (hexpires : parseTimestamp current.expiresAt = .ok expires)
    (hfresh : operationToken ∉ current.operationTokens)
    (hbelow : current.count < min current.limit limit)
    (hupdated : (current.withOperation operationToken
      (remainingSeconds expires.nanos now)).validate = .ok ()) :
    Counts current (current.withOperation operationToken (remainingSeconds expires.nanos now))
      operationToken limit now := by
  refine ⟨hupdated, hfresh, rfl, rfl, rfl, rfl, hbelow, ?_⟩
  rintro ⟨started, hstarted, hpast⟩
  obtain ⟨started', expires', hstarted', hexpires', hwindow⟩ := validate_window hvalid
  rw [hstarted] at hstarted'
  rw [hexpires] at hexpires'
  cases hstarted'
  cases hexpires'
  exact ⟨expires, hexpires, le_add_remainingSeconds hwindow hpast⟩

/-- A consumed operation is allowed when it was counted before, refused when
the window is full, counted in a window with room, or opens the next window. -/
theorem consume_eq_ok {current : RefreshQuotaDocument} {identitySha256 operationToken : String}
    {limit : Nat} {now : UtcDateTime} {mutation : RefreshQuotaMutation}
    (h : current.consume identitySha256 operationToken limit now = .ok mutation) :
    match mutation with
    | .allowed => operationToken ∈ current.operationTokens
    | .limited _ => operationToken ∉ current.operationTokens ∧
        min current.limit limit ≤ current.count
    | .replace updated => Counts current updated operationToken limit now ∨
        Resets current updated identitySha256 operationToken limit now := by
  simp only [consume, Outcome.bind_eq_ok, Outcome.lift_eq_ok] at h
  obtain ⟨_, hvalid, _, -, _, -, h⟩ := h
  split at h
  · rename_i hrecorded
    cases h
    exact hrecorded
  · rename_i hfresh
    simp only [Outcome.bind_eq_ok, Outcome.lift_eq_ok] at h
    obtain ⟨expires, hexpires, h⟩ := h
    split at h
    · rename_i hended
      obtain ⟨updated, hopened, rfl⟩ := Outcome.map_eq_ok.mp h
      exact .inr ⟨⟨expires, hexpires, hended⟩, hfresh, hopened⟩
    · split at h
      · rename_i hfull
        cases h
        exact ⟨hfresh, hfull⟩
      · rename_i hroom
        simp only [Outcome.bind_eq_ok, Outcome.lift_eq_ok, Outcome.pure_eq_ok] at h
        obtain ⟨_, hupdated, rfl⟩ := h
        exact .inl (counts_withOperation hvalid hexpires hfresh (not_le.mp hroom) hupdated)

end RefreshQuotaDocument

end TcoCalculator.PricingCache
