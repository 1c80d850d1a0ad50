/-
The offer file that is projected while it is received (src/rust/src/pricing/http.rs,
send_rds_once) beside the one that is received first (PricingSource::fetch_rds_offer as the
trait has it).
-/
import TcoCalculator.Pricing.HttpBudget
import TcoCalculator.Pricing.RdsProjectionOnce

namespace TcoCalculator.HttpClient

open Pipeline
open RdsProjection (ProjectedRdsOffer projectRdsOffer)

/-- How many chunks may wait for the projection. -/
def channelCapacity : Nat := 2

abbrev RdsReader := Reader UInt8 (Except RdsProjectionError ProjectedRdsOffer)

def mapRdsProjectionError : RdsProjectionError → ProviderError
  | .unsupportedOffer => .unsupported
  | .malformedJson | .invalidManifest => .schemaChanged

def offerPayload (sourceUrl : String) (projected : ProjectedRdsOffer) :
    HttpPayload AwsRds.SelectedLeaf where
  sourceUrl := sourceUrl
  sourceVersion := some projected.sourceVersion
  effectiveAt := some projected.effectiveAt
  body := projected.body

def projectedPayload (sourceUrl : String)
    (projected : Except RdsProjectionError ProjectedRdsOffer) :
    Except ProviderError (HttpPayload AwsRds.SelectedLeaf) :=
  (projected.mapError mapRdsProjectionError).map (offerPayload sourceUrl)

/-- What both sides of the stream come to. -/
def streamOutcome (sourceUrl : String) (stop : Stop)
    (projected : Except RdsProjectionError ProjectedRdsOffer) :
    Except AttemptFailure (HttpPayload AwsRds.SelectedLeaf) :=
  match stop with
  | .closed => (projectedPayload sourceUrl projected).mapError .terminal
  | .broken failure => .error (failureOf failure)

variable (library : JsonLibrary) (rfc2822 : String → Option Int) (maxResponseBytes : Nat)

/-- One side receives the body, the other one reads it, in whatever order they get on. -/
inductive SendsRdsOnce (reader : RdsReader) (url : Url) :
    Option Response → Except AttemptFailure (HttpPayload AwsRds.SelectedLeaf) → Prop
  | refused {answer : Option Response} {failure : AttemptFailure}
      (refused : accept rfc2822 maxResponseBytes answer = .error failure) :
      SendsRdsOnce reader url answer (.error failure)
  | streamed {answer : Option Response} {response : Response}
      {pipe : Pipe UInt8 (Except RdsProjectionError ProjectedRdsOffer)} {stop : Stop}
      {projected : Except RdsProjectionError ProjectedRdsOffer}
      (accepted : accept rfc2822 maxResponseBytes answer = .ok response)
      (reaches : Reaches channelCapacity maxResponseBytes reader (Pipe.start response.chunks) pipe)
      (ended : Ended pipe stop projected) :
      SendsRdsOnce reader url answer (streamOutcome url.text stop projected)

/-- The offer that is projected after it has been received. -/
def fetchRdsOffer (expectedOfferCode : String) (payload : HttpPayload (List UInt8)) :
    Except ProviderError (HttpPayload AwsRds.SelectedLeaf) :=
  projectedPayload payload.sourceUrl (projectRdsOffer library payload.body expectedOfferCode)

/-- The same attempt, received first. -/
def sendThenProject (expectedOfferCode : String) (url : Url) (answer : Option Response) :
    Except AttemptFailure (HttpPayload AwsRds.SelectedLeaf) := do
  let payload ← sendOnce rfc2822 maxResponseBytes url answer
  (fetchRdsOffer library expectedOfferCode payload).mapError .terminal

section Agreement

variable {library rfc2822 maxResponseBytes} {expectedOfferCode : String} {reader : RdsReader}
  {url : Url} {answer : Option Response}
  {outcome : Except AttemptFailure (HttpPayload AwsRds.SelectedLeaf)}

/-- No text is a document whatever follows it. -/
def Refutable (library : JsonLibrary) : Prop :=
  ∀ bytes, ∃ more, library.parse (bytes ++ more) = none

/-- What is known of a document before its end is that it is malformed. -/
theorem malformed_of_early (hlibrary : Refutable library)
    (hcode : expectedOfferCode = "AmazonRDS" ∨ expectedOfferCode = "AmazonRDSOCPULicenseFees")
    {bytes : List UInt8} {projected : Except RdsProjectionError ProjectedRdsOffer}
    (h : ∀ more, projectRdsOffer library (bytes ++ more) expectedOfferCode = projected) :
    projected = .error .malformedJson := by
  obtain ⟨more, hmore⟩ := hlibrary bytes
  rw [← h more, projectRdsOffer, if_neg (by tauto), hmore]
  rfl

/-- The connection fails after a document that is refused whatever follows it: the one
client reports the document, the other one the connection. -/
structure RefusedBeforeFailure (library : JsonLibrary) (rfc2822 : String → Option Int)
    (maxResponseBytes : Nat) (expectedOfferCode : String) (url : Url) (answer : Option Response)
    (outcome : Except AttemptFailure (HttpPayload AwsRds.SelectedLeaf)) : Prop where
  refused : outcome = .error (.terminal .schemaChanged)
  failed : sendThenProject library rfc2822 maxResponseBytes expectedOfferCode url answer =
    .error (.temporary none)
  received : ∃ response chunks rest, answer = some response ∧
    response.chunks = List.map some chunks ++ rest ∧
    ∀ more, projectRdsOffer library (chunks.flatten ++ more) expectedOfferCode =
      .error .malformedJson

theorem accept_some {response : Response}
    (h : accept rfc2822 maxResponseBytes answer = .ok response) : answer = some response := by
  cases answer with
  | none => cases h
  | some sent =>
      rw [accept] at h
      split at h
      · cases h
      · split at h
        · cases h
        · cases h
          rfl

theorem sendThenProject_accepted {response : Response}
    (h : accept rfc2822 maxResponseBytes answer = .ok response) :
    sendThenProject library rfc2822 maxResponseBytes expectedOfferCode url answer =
      match receiveAll maxResponseBytes response.chunks [] with
      | .ok body => (projectedPayload url.text
          (projectRdsOffer library body expectedOfferCode)).mapError .terminal
      | .error failure => .error (failureOf failure) := by
  simp only [sendThenProject, sendOnce, h, bind, Except.bind, readBody_eq]
  cases receiveAll maxResponseBytes response.chunks [] with
  | ok body => rfl
  | error failure => rfl

theorem sendThenProject_refused {failure : AttemptFailure}
    (h : accept rfc2822 maxResponseBytes answer = .error failure) :
    sendThenProject library rfc2822 maxResponseBytes expectedOfferCode url answer =
      .error failure := by
  rw [sendThenProject, sendOnce, h]
  rfl

theorem SendsRdsOnce.agrees (hlibrary : Refutable library)
    (hreader : reader.Decides fun bytes => projectRdsOffer library bytes expectedOfferCode)
    (hcode : expectedOfferCode = "AmazonRDS" ∨ expectedOfferCode = "AmazonRDSOCPULicenseFees")
    (h : SendsRdsOnce rfc2822 maxResponseBytes reader url answer outcome) :
    outcome = sendThenProject library rfc2822 maxResponseBytes expectedOfferCode url answer ∨
      RefusedBeforeFailure library rfc2822 maxResponseBytes expectedOfferCode url answer
        outcome := by
  cases h with
  | refused refused => exact .inl (sendThenProject_refused refused).symm
  | @streamed response pipe stop projected accepted reaches ended =>
      have hbuffered : sendThenProject library rfc2822 maxResponseBytes expectedOfferCode url
          answer = _ := sendThenProject_accepted accepted
      have hagrees := ended_agrees hreader reaches ended
      cases hreceived : receiveAll maxResponseBytes response.chunks [] with
      | ok body =>
          simp only [hreceived] at hagrees hbuffered
          obtain ⟨rfl, rfl⟩ := hagrees
          exact .inl hbuffered.symm
      | error failure =>
          simp only [hreceived] at hagrees hbuffered
          rw [hbuffered]
          rcases hagrees with rfl | ⟨rfl, chunks, rest, hchunks, hmore⟩
          · exact .inl rfl
          · have hmalformed := malformed_of_early hlibrary hcode hmore
            subst hmalformed
            cases failure with
            | failed =>
                exact .inr ⟨rfl, hbuffered, response, chunks, rest, accept_some accepted, hchunks,
                  hmore⟩
            | tooLarge => exact .inl rfl

/-- However the receiving and the reading side get on, both come to an end, and the offer is
the one that would have been projected after it was received. -/
theorem streamed_offer_agrees (hlibrary : Refutable library)
    (hreader : reader.Decides fun bytes => projectRdsOffer library bytes expectedOfferCode)
    (hcode : expectedOfferCode = "AmazonRDS" ∨ expectedOfferCode = "AmazonRDSOCPULicenseFees") :
    (∀ run : Nat → Pipe UInt8 (Except RdsProjectionError ProjectedRdsOffer),
      ¬ ∀ time, Step channelCapacity maxResponseBytes reader (run time) (run (time + 1))) ∧
    (∀ pipe : Pipe UInt8 (Except RdsProjectionError ProjectedRdsOffer),
      (∃ stop projected, Ended pipe stop projected) ∨
        ∃ after, Step channelCapacity maxResponseBytes reader pipe after) ∧
    (∃ outcome, SendsRdsOnce rfc2822 maxResponseBytes reader url answer outcome) ∧
    ∀ outcome, SendsRdsOnce rfc2822 maxResponseBytes reader url answer outcome →
      outcome = sendThenProject library rfc2822 maxResponseBytes expectedOfferCode url answer ∨
        RefusedBeforeFailure library rfc2822 maxResponseBytes expectedOfferCode url answer
          outcome := by
  refine ⟨not_endless, fun pipe => ?_, ?_, fun outcome h => h.agrees hlibrary hreader hcode⟩
  · by_cases hended : ∃ stop projected, Ended pipe stop projected
    · exact .inl hended
    · exact .inr (exists_step (by decide) hended)
  · cases haccept : accept rfc2822 maxResponseBytes answer with
    | error failure => exact ⟨_, .refused haccept⟩
    | ok response =>
        obtain ⟨pipe, stop, projected, hreaches, hended⟩ :
            ∃ pipe stop projected, Reaches channelCapacity maxResponseBytes reader
              (Pipe.start response.chunks) pipe ∧ Ended pipe stop projected :=
          exists_ended (by decide) _
        exact ⟨_, .streamed haccept hreaches hended⟩

end Agreement

namespace StreamWitness

open RdsProjection

def bytes : List UInt8 := bytesOf onceOffer

/-- A reader that reads to the end. -/
def patient : RdsReader where
  early _ := none
  final bytes := projectRdsOffer (libraryOf onceOffer) bytes "AmazonRDS"

theorem patient_decides :
    patient.Decides fun bytes => projectRdsOffer (libraryOf onceOffer) bytes "AmazonRDS" where
  early seen rest result hearly := by cases hearly
  final items := rfl

theorem refutable_libraryOf (document : JsonDocument) : Refutable (libraryOf document) := by
  intro prior
  refine ⟨bytesOf document ++ [0], if_neg fun heq => ?_⟩
  have hlength := congrArg List.length heq
  simp only [bytesOf, List.length_append, List.length_singleton] at hlength
  omega

def url : Url where
  text := "https://pricing.us-east-1.amazonaws.com/offers/v1.0/aws/AmazonRDS/index.json"
  scheme := "https"
  username := ""
  password := none
  port := none
  host := some "pricing.us-east-1.amazonaws.com"

/-- The document in two chunks. -/
def response : Response where
  status := 200
  receivedAt := 0
  retryAfter := none
  etag := none
  lastModified := none
  contentLength := none
  chunks := [some (bytes.take 100), some (bytes.drop 100)]

theorem receives : receiveAll 65536 response.chunks [] = .ok bytes := by
  have hbytes : [bytes.take 100, bytes.drop 100].flatten = bytes := by simp
  have hfits : ([] ++ [bytes.take 100, bytes.drop 100].flatten).length ≤ 65536 := by
    rw [List.nil_append, hbytes]
    decide +kernel
  have hreceives : receiveAll 65536 ([bytes.take 100, bytes.drop 100].map some ++ []) [] =
      receiveAll 65536 [] ([] ++ [bytes.take 100, bytes.drop 100].flatten) :=
    receiveAll_append hfits
  rwa [List.nil_append, hbytes] at hreceives

end StreamWitness

open StreamWitness RdsProjection in
/-- An offer of two chunks is projected as it is received. -/
theorem streamed_offer_agrees_two_chunks : ∃ offer,
    projectRdsOffer (libraryOf onceOffer) bytes "AmazonRDS" = .ok offer ∧
      SendsRdsOnce (fun _ => none) 65536 patient url (some response)
        (.ok (offerPayload url.text offer)) := by
  obtain ⟨offer, hoffer⟩ := exists_project_libraryOf onceOffer (by decide +kernel)
  obtain ⟨-, -, ⟨outcome, hsends⟩, hagrees⟩ :=
    @streamed_offer_agrees (libraryOf onceOffer) (fun _ => none) 65536 "AmazonRDS" patient url
      (some response) (refutable_libraryOf onceOffer) patient_decides (.inl rfl)
  have hbuffered : sendThenProject (libraryOf onceOffer) (fun _ => none) 65536 "AmazonRDS" url
      (some response) = .ok (offerPayload url.text offer) := by
    rw [sendThenProject_accepted rfl, receives]
    change (projectedPayload url.text (projectRdsOffer (libraryOf onceOffer)
      (bytesOf onceOffer) "AmazonRDS")).mapError AttemptFailure.terminal = _
    rw [hoffer]
    rfl
  refine ⟨offer, hoffer, ?_⟩
  rcases hagrees outcome hsends with houtcome | hrefused
  · rwa [houtcome, hbuffered] at hsends
  · cases hbuffered.symm.trans hrefused.failed

end TcoCalculator.HttpClient
