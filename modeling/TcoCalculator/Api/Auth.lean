/-
The principal of a request, read from the platform's claims, and what it may do
as the Calculator companion.
-/
import TcoCalculator.Assistant.ToolInput
import TcoCalculator.Domain.Uuid
import TcoCalculator.Library.Fallible

namespace TcoCalculator.Auth

open Assistant (trim isControl)

def maxPrincipalHeaderBytes : Nat := 16384

/-! ### Claim families -/

def tenantIdClaims : List String :=
  ["tid", "http://schemas.microsoft.com/identity/claims/tenantid"]

def objectIdClaims : List String :=
  ["oid", "http://schemas.microsoft.com/identity/claims/objectidentifier"]

def displayNameClaims : List String :=
  ["name", "http://schemas.xmlsoap.org/ws/2005/05/identity/claims/name"]

def emailClaims : List (List String) :=
  [["email", "http://schemas.xmlsoap.org/ws/2005/05/identity/claims/emailaddress"],
    ["preferred_username"]]

def scopeClaims : List String :=
  ["scp", "http://schemas.microsoft.com/identity/claims/scope"]

def clientClaims : List String := ["azp", "appid"]

def tokenTypeClaims : List String := ["idtyp"]

/-! ### Principals -/

structure CompanionAccessClaims where
  authorizedParty : Uuid
  scopes : List String
  appOnly : Bool
  deriving DecidableEq

structure Principal where
  tenantId : Uuid
  objectId : Uuid
  displayName : Option String
  emailAddress : Option String
  companionAccess : Option CompanionAccessClaims
  deriving DecidableEq

inductive AuthError where
  | malformedPrincipal
  | missingIdentityClaims
  | ambiguousIdentityClaims
  | missingDelegatedAccess
  | companionAccessDenied
  deriving DecidableEq, Repr

namespace Principal

def ownerId (principal : Principal) : String :=
  "entra:" ++ principal.tenantId.text ++ ":" ++ principal.objectId.text

def authorizeCompanion (principal : Principal) (authorizedParty : Uuid) (requiredScope : String) :
    Except AuthError Unit :=
  match principal.companionAccess with
  | none => .error .missingDelegatedAccess
  | some access =>
      if access.appOnly ∨ access.authorizedParty ≠ authorizedParty ∨
          requiredScope ∉ access.scopes then
        .error .companionAccessDenied
      else .ok ()

end Principal

structure PlatformClaim where
  typ : String
  val : String
  deriving DecidableEq

/-- The libraries that read a header: its text, Base64, the claims of a JSON text,
and identifiers. -/
structure AuthLibrary (Header : Type) where
  toStr : Header → Option String
  base64Decode : String → Option ByteArray
  claimsFromSlice : ByteArray → Option (List PlatformClaim)
  uuidParseStr : String → Option Uuid

/-! ### Claims -/

/-- The values of the claims of some accepted types, in their order. -/
def claimValues (claims : List PlatformClaim) (acceptedTypes : List String) : List String :=
  (claims.filter fun claim => acceptedTypes.contains claim.typ).map PlatformClaim.val

def uniqueClaim (claims : List PlatformClaim) (acceptedTypes : List String) :
    Except AuthError (Option String) :=
  match claimValues claims acceptedTypes with
  | [] => .ok none
  | [value] => .ok (some value)
  | _ :: _ :: _ => .error .ambiguousIdentityClaims

def isEmailAddress (value : String) : Bool :=
  if value.length < 3 ∨ 254 < value.length ∨ value ≠ trim value ∨
      (value.toList.any fun c => isControl c || isWhiteSpace c || c == ',' || c == ';') = true then
    false
  else
    match value.toList.splitOn '@' with
    | [part, domain] =>
        part ≠ [] && part.length ≤ 64 && domain ≠ [] && domain.length ≤ 253 &&
          domain.head? ≠ some '.' && domain.getLast? ≠ some '.'
    | _ => false

/-- The first family that has claims and names one email address. -/
def optionalEmailAmong (claims : List PlatformClaim) : List (List String) → Option String
  | [] => none
  | acceptedTypes :: rest =>
      match (claimValues claims acceptedTypes).map trim with
      | [] => optionalEmailAmong claims rest
      | candidate :: values =>
          if values.any (· ≠ candidate) then none
          else if isEmailAddress candidate then some candidate
          else optionalEmailAmong claims rest

def optionalEmailClaim (claims : List PlatformClaim) : Option String :=
  optionalEmailAmong claims emailClaims

/-- A display name of a length that can be shown, without control characters. -/
def isDisplayName (value : String) : Bool :=
  1 ≤ value.length && value.length ≤ 200 && !value.toList.any isControl

def isAsciiWhitespace (c : Char) : Bool :=
  c == ' ' || c == '\t' || c == '\n' || c == '\x0c' || c == '\r'

def splitAsciiWhitespace (text : String) : List String :=
  ((text.toList.splitOnP isAsciiWhitespace).filter (· ≠ [])).map String.ofList

def scopesOf (scope : String) : List String := (splitAsciiWhitespace scope).filter (· ≠ "")

/-- At most 200 bytes, each an ASCII letter or digit or one of four marks. -/
def isScope (value : String) : Bool :=
  value.utf8ByteSize ≤ 200 &&
    value.toList.all fun c => c.isAlphanum || c == '.' || c == '_' || c == '-' || c == '/'

def isAppToken (value : String) : Bool := value.toList.map Char.toLower == ['a', 'p', 'p']

section Resolution

variable {Header : Type} (library : AuthLibrary Header)

def parseIdentityId (value : String) : Except AuthError Uuid :=
  match library.uuidParseStr value with
  | some id => .ok id
  | none => .error .malformedPrincipal

/-- The identifier of a claim that must be there. -/
def requiredId (claims : List PlatformClaim) (acceptedTypes : List String) :
    Except AuthError Uuid := do
  match ← uniqueClaim claims acceptedTypes with
  | none => .error .missingIdentityClaims
  | some value => parseIdentityId library value

def companionAccessClaims (claims : List PlatformClaim) :
    Except AuthError (Option CompanionAccessClaims) := do
  let scope ← uniqueClaim claims scopeClaims
  let authorizedParty ← uniqueClaim claims clientClaims
  match scope, authorizedParty with
  | none, none => return none
  | none, some _ | some _, none => .error .missingDelegatedAccess
  | some scope, some authorizedParty =>
      let authorizedParty ← parseIdentityId library authorizedParty
      let scopes := scopesOf scope
      ensure (scopes ≠ [] ∧ scopes.length ≤ 32 ∧ scopes.all isScope = true) .malformedPrincipal
      let tokenType ← uniqueClaim claims tokenTypeClaims
      return some { authorizedParty, scopes, appOnly := tokenType.any isAppToken }

/-- The principal of the platform's claims. -/
def principalOfClaims (claims : List PlatformClaim) : Except AuthError Principal := do
  let tenantId ← requiredId library claims tenantIdClaims
  let objectId ← requiredId library claims objectIdClaims
  let displayName := (← uniqueClaim claims displayNameClaims).filter isDisplayName
  let emailAddress := optionalEmailClaim claims
  let companionAccess ← companionAccessClaims library claims
  return { tenantId, objectId, displayName, emailAddress, companionAccess }

/-- The claims in the header. -/
def platformClaims (header : Header) : Option (List PlatformClaim) := do
  let encoded ← library.toStr header
  guard (encoded ≠ "" ∧ encoded.utf8ByteSize ≤ maxPrincipalHeaderBytes)
  let decoded ← library.base64Decode encoded
  guard (decoded.size ≤ maxPrincipalHeaderBytes)
  library.claimsFromSlice decoded

def parsePlatformPrincipal (header : Header) : Except AuthError Principal :=
  match platformClaims library header with
  | none => .error .malformedPrincipal
  | some claims => principalOfClaims library claims

/-! ### Requests -/

inductive AppEnvironment where
  | local
  | development
  | production
  deriving DecidableEq, Repr

structure LocalAuthSettings where
  tenantId : Uuid
  objectId : Uuid
  displayName : String

def LocalAuthSettings.principal (settings : LocalAuthSettings) : Principal where
  tenantId := settings.tenantId
  objectId := settings.objectId
  displayName := some settings.displayName
  emailAddress := none
  companionAccess := none

/-- The principal of a request by its header, in the local environment by the settings. -/
def resolvePrincipal (environment : AppEnvironment) (localAuth : Option LocalAuthSettings)
    (header : Option Header) : Except AuthError (Option Principal) :=
  if environment = .local then .ok (localAuth.map LocalAuthSettings.principal)
  else header.mapM (parsePlatformPrincipal library)

end Resolution

end TcoCalculator.Auth
