/-
The client that fetches pricing documents (src/rust/src/pricing/http.rs,
PricingHttpClient): which addresses it asks, how it reads an answer, and the attempts
that a resolution makes within its budget.
-/
import TcoCalculator.Library.Pipeline
import TcoCalculator.Library.TimedRuns
import TcoCalculator.Pricing.RdsProjection

namespace TcoCalculator

structure HttpPayload (β : Type) where
  sourceUrl : String
  sourceVersion : Option String
  effectiveAt : Option String
  body : β
  deriving DecidableEq

inductive AttemptFailure where
  | terminal (error : ProviderError)
  | temporary (retryAfter : Option Nat)
  deriving DecidableEq, Repr

/-- What the client looks at of a parsed address. -/
structure Url where
  text : String
  scheme : String
  username : String
  password : Option String
  port : Option Nat
  host : Option String

namespace HttpClient

/-! ### Durations, in nanoseconds -/

def milliseconds (count : Nat) : Nat := 1000000 * count

def seconds (count : Nat) : Nat := milliseconds (1000 * count)

def requestTimeout : Nat := seconds 30

def resolutionBudget : Nat := seconds 120

def maxAttempts : Nat := 3

/-! ### Addresses -/

def allowedHosts : List String :=
  ["calculator.aws", "b0.p.awsstatic.com", "pricing.us-east-1.amazonaws.com",
    "prices.azure.com", "azure.microsoft.com"]

def validateUrl (parseUrl : String → Option Url) (sourceUrl : String) :
    Except ProviderError Url :=
  match parseUrl sourceUrl with
  | none => .error .unsupported
  | some url =>
      if url.scheme = "https" ∧ url.username = "" ∧ url.password = none ∧ url.port = none ∧
          url.host.any allowedHosts.contains then .ok url
      else .error .unsupported

/-! ### Answers -/

/-- The headers are those that can be read as text; a chunk that is missing is a failure of
the connection. -/
structure Response where
  status : Nat
  receivedAt : Int
  retryAfter : Option String
  etag : Option String
  lastModified : Option String
  contentLength : Option Nat
  chunks : List (Option (List UInt8))

def Response.isSuccess (response : Response) : Bool :=
  200 ≤ response.status && response.status < 300

/-- `str::parse::<u64>`. -/
def parseU64 (text : String) : Option Nat :=
  let digits := match text.toList with
    | '+' :: rest => rest
    | all => all
  if digits.isEmpty || !digits.all Char.isDigit then none
  else
    let number := digits.foldl (fun n c => 10 * n + (c.toNat - 48)) 0
    if number < 2 ^ 64 then some number else none

/-- The dates of mail messages are read by `rfc2822`, as nanoseconds of the epoch. -/
def parseRetryAfter (rfc2822 : String → Option Int) (response : Response) : Option Nat := do
  let value ← response.retryAfter
  match parseU64 value with
  | some count => return seconds count
  | none =>
      let retryAt ← rfc2822 value
      return seconds ((retryAt - response.receivedAt).tdiv 1000000000).toNat

def classifyStatus (rfc2822 : String → Option Int) (response : Response) : AttemptFailure :=
  if response.status = 404 then .terminal .notFound
  else if response.status = 408 ∨ response.status = 429 ∨
      500 ≤ response.status ∧ response.status < 600 then
    .temporary (parseRetryAfter rfc2822 response)
  else .terminal .unsupported

def headerValue (value : Option String) : Option String := value.filter (· ≠ "")

def appendChunk (body chunk : List UInt8) (maxResponseBytes : Nat) :
    Except ProviderError (List UInt8) :=
  if maxResponseBytes - body.length < chunk.length then .error .schemaChanged
  else .ok (body ++ chunk)

def readBody (maxResponseBytes : Nat) :
    List (Option (List UInt8)) → List UInt8 → Except AttemptFailure (List UInt8)
  | [], body => .ok body
  | none :: _, _ => .error (.temporary none)
  | some chunk :: rest, body =>
      match appendChunk body chunk maxResponseBytes with
      | .error error => .error (.terminal error)
      | .ok body => readBody maxResponseBytes rest body

/-- An answer whose body is worth reading. -/
def accept (rfc2822 : String → Option Int) (maxResponseBytes : Nat) :
    Option Response → Except AttemptFailure Response
  | none => .error (.temporary none)
  | some response =>
      if ¬ response.isSuccess then .error (classifyStatus rfc2822 response)
      else if response.contentLength.any fun length => maxResponseBytes < length then
        .error (.terminal .schemaChanged)
      else .ok response

def sendOnce (rfc2822 : String → Option Int) (maxResponseBytes : Nat) (url : Url)
    (answer : Option Response) : Except AttemptFailure (HttpPayload (List UInt8)) := do
  let response ← accept rfc2822 maxResponseBytes answer
  let body ← readBody maxResponseBytes response.chunks []
  return {
    sourceUrl := url.text
    sourceVersion := headerValue response.etag
    effectiveAt := headerValue response.lastModified
    body := body }

def failureOf : Pipeline.Failure → AttemptFailure
  | .failed => .temporary none
  | .tooLarge => .terminal .schemaChanged

theorem readBody_eq (maxResponseBytes : Nat) (chunks : List (Option (List UInt8)))
    (body : List UInt8) :
    readBody maxResponseBytes chunks body =
      (Pipeline.receiveAll maxResponseBytes chunks body).mapError failureOf := by
  induction chunks generalizing body with
  | nil => rfl
  | cons event rest ih =>
      cases event with
      | none => rfl
      | some chunk =>
          by_cases hlarge : maxResponseBytes - body.length < chunk.length
          · rw [readBody, appendChunk, Pipeline.receiveAll, if_pos hlarge, if_pos hlarge]
            rfl
          · rw [readBody, appendChunk, Pipeline.receiveAll, if_neg hlarge, if_neg hlarge]
            exact ih (body ++ chunk)

/-! ### Attempts -/

inductive ClientCall where
  | elapsed
  | send (timeout : Nat)
  | sleep (delay : Nat)

abbrev ClientReply (ρ : Type) : ClientCall → Type
  | .elapsed => Nat
  | .send _ => ρ
  | .sleep _ => Unit

abbrev Resolution (ρ α : Type) := Timed ClientCall (ClientReply ρ) (Except ProviderError α)

abbrev Calls (ρ : Type) := List (TimedCall ClientCall (ClientReply ρ))

/-- The first sixteen bits of the digest spread the attempts. -/
def retryDelay (sha256 : String → List UInt8) (url : Url) (attempt : Nat) : Nat :=
  let digest := sha256 (url.text ++ "|" ++ toString attempt)
  let jitter := ((digest.getD 0 0).toNat * 256 + (digest.getD 1 0).toNat) % 251
  milliseconds (250 * 2 ^ (attempt - 1) + jitter)

/-- What is left of the budget, if it is not overdrawn. -/
def remaining (elapsed : Nat) : Option Nat :=
  if elapsed ≤ resolutionBudget then some (resolutionBudget - elapsed) else none

section Resolve

variable {ρ α : Type} (outcome : ρ → Except AttemptFailure α) (delays : Nat → Nat)

/-- The loop that `get` and `get_rds_offer` share, over the attempts still to be made. -/
def resolve : List Nat → Resolution ρ α
  | [] => .done (.error .temporarilyUnavailable)
  | attempt :: rest => .ask .elapsed fun (elapsed : Nat) =>
      match (remaining elapsed).filter (0 < ·) with
      | none => .done (.error .temporarilyUnavailable)
      | some left => .ask (.send (min left requestTimeout)) fun reply =>
          match outcome reply with
          | .ok payload => .done (.ok payload)
          | .error (.terminal error) => .done (.error error)
          | .error (.temporary retryAfter) =>
              if attempt < maxAttempts then .ask .elapsed fun (elapsed : Nat) =>
                match remaining elapsed with
                | none => .done (.error .temporarilyUnavailable)
                | some left =>
                    let delay := retryAfter.getD (delays attempt)
                    if left ≤ delay then .done (.error .temporarilyUnavailable)
                    else .ask (.sleep delay) fun _ => resolve rest
              else .done (.error .temporarilyUnavailable)

end Resolve

variable (parseUrl : String → Option Url) (sha256 : String → List UInt8)
  (rfc2822 : String → Option Int) (maxResponseBytes : Nat)

def get (sourceUrl : String) : Resolution (Option Response) (HttpPayload (List UInt8)) :=
  match validateUrl parseUrl sourceUrl with
  | .error error => .done (.error error)
  | .ok url => resolve (sendOnce rfc2822 maxResponseBytes url) (retryDelay sha256 url)
      (List.range' 1 maxAttempts)

/-- What `send_rds_once` gives is the reply itself. -/
def getRdsOffer (sourceUrl expectedOfferCode : String) :
    Resolution (Except AttemptFailure (HttpPayload AwsRds.SelectedLeaf))
      (HttpPayload AwsRds.SelectedLeaf) :=
  match validateUrl parseUrl sourceUrl with
  | .error error => .done (.error error)
  | .ok url =>
      if expectedOfferCode ≠ "AmazonRDS" ∧ expectedOfferCode ≠ "AmazonRDSOCPULicenseFees" then
        .done (.error .unsupported)
      else resolve id (retryDelay sha256 url) (List.range' 1 maxAttempts)

end HttpClient

end TcoCalculator
