/-
Problem responses (src/rust/src/problem.rs).  The request identifier, which every
response carries, is left to the caller.
-/
import TcoCalculator.Domain.Project

namespace TcoCalculator

structure Problem where
  status : Nat
  problemType : String
  title : String
  detail : String
  instancePath : String
  errors : Option (List ValidationIssue)
  currentEtag : Option String
  headers : List (String × String)
  deriving DecidableEq, Repr

namespace Problem

/-- A text a header may carry: visible ASCII and tabs. -/
def isHeaderValue (text : String) : Bool :=
  text.toList.all fun c => c.toNat == 9 || (32 ≤ c.toNat && c.toNat < 127)

def new (status : Nat) (problemType title instancePath detail : String) : Problem where
  status := status
  problemType := problemType
  title := title
  detail := detail
  instancePath := instancePath
  errors := none
  currentEtag := none
  headers := []

def malformedRequest (instancePath : String) : Problem :=
  new 400 "urn:azure-sql-tco:problem:malformed-request" "Malformed Request" instancePath
    "The request body is not valid for this operation."

def unauthorized (instancePath detail : String) : Problem :=
  new 401 "urn:azure-sql-tco:problem:unauthorized" "Unauthorized" instancePath detail

def notFound (instancePath detail : String) : Problem :=
  new 404 "urn:azure-sql-tco:problem:not-found" "Not Found" instancePath detail

def gone (instancePath detail : String) : Problem :=
  new 410 "urn:azure-sql-tco:problem:gone" "Gone" instancePath detail

def validation (instancePath : String) (errors : List ValidationIssue) : Problem :=
  { new 422 "urn:azure-sql-tco:problem:validation-error" "Validation Error" instancePath
      "One or more request fields are invalid." with
    errors := some errors }

def preconditionRequired (instancePath : String) : Problem :=
  new 428 "urn:azure-sql-tco:problem:precondition-required" "Precondition Required" instancePath
    "The If-Match header is required."

def actionConfirmationRequired (instancePath : String) : Problem :=
  new 428 "urn:azure-sql-tco:problem:action-confirmation-required"
    "Action Confirmation Required" instancePath
    "Confirm this exact assistant action in the application before applying it."

def preconditionFailed (instancePath : String) (currentEtag : Option String) : Problem :=
  { new 412 "urn:azure-sql-tco:problem:precondition-failed" "Precondition Failed" instancePath
      "The project has changed; reload it before saving again." with
    currentEtag := currentEtag
    headers := match currentEtag with
      | some etag => if isHeaderValue etag then [("etag", etag)] else []
      | none => [] }

def payloadTooLarge (instancePath : String) : Problem :=
  new 413 "urn:azure-sql-tco:problem:payload-too-large" "Payload Too Large" instancePath
    "The request or persisted project exceeds the allowed size."

def snapshotUnavailable (instancePath : String) : Problem :=
  new 409 "urn:azure-sql-tco:problem:snapshot-unavailable" "Snapshot Unavailable" instancePath
    "A referenced price snapshot is unknown, expired, or does not match the project scope."

def rateLimited (instancePath : String) (retryAfterSeconds : Nat) : Problem :=
  { new 429 "urn:azure-sql-tco:problem:rate-limited" "Rate Limited" instancePath
      "The request quota has been exceeded. Retry after the indicated delay." with
    headers := [("retry-after", toString retryAfterSeconds)] }

def internal (instancePath : String) : Problem :=
  new 500 "urn:azure-sql-tco:problem:internal-error" "Internal Error" instancePath
    "The server could not complete the request."

end Problem

end TcoCalculator
