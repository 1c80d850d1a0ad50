/-
The retail price listing of Azure (src/rust/src/pricing/loader.rs,
load_azure_retail_pages, with the URLs of src/rust/src/pricing/live.rs): pages that
are fetched one after the other, each by the link that the page before it carries.
-/
import Mathlib.Algebra.Group.Nat.Defs
import TcoCalculator.Library.Fallible
import TcoCalculator.Pricing.Provider

namespace TcoCalculator.RetailListing

open Fallible

/-! ### URLs -/

/-- The URL type of the HTTP client, as far as the links of the listing use it. -/
structure UrlLibrary where
  Url : Type
  parse : String → Option Url
  scheme : Url → String
  hostStr : Url → Option String
  username : Url → String
  password : Url → Option String
  port : Url → Option Nat
  path : Url → String
  fragment : Url → Option String
  queryPairs : Url → List (String × String)
  appendPair : Url → String → String → Url
  toText : Url → String

structure AzureRegionScope where
  armName : String
  calculatorSlug : String
  displayName : String

inductive AzureRetailService where
  | sqlManagedInstance
  | virtualMachines
  | managedDisks
  deriving DecidableEq, Repr

def azureRetailBase : String := "https://prices.azure.com/api/retail/prices"

def azureVmRetailApiVersion : String := "2023-01-01-preview"

def azureRetailPageSize : Nat := 1000

def azureRetailMaxPages : Nat := 32

def azureRetailMaxSkip : Nat := (azureRetailMaxPages - 1) * azureRetailPageSize

def azureRetailFilter (scope : AzureRegionScope) : AzureRetailService → String
  | .sqlManagedInstance =>
      "serviceName eq 'SQL Managed Instance' and armRegionName eq '" ++ scope.armName ++ "'"
  | .virtualMachines =>
      "serviceName eq 'Virtual Machines' and armRegionName eq '" ++ scope.armName ++ "'"
  | .managedDisks =>
      "serviceName eq 'Storage' and armRegionName eq '" ++ scope.armName ++
        "' and (productName eq 'Premium SSD Managed Disks' or " ++
        "productName eq 'Azure Premium SSD v2')"

variable (library : UrlLibrary)

/-- The URL of the first page. -/
def azureRetailUrlFor (scope : AzureRegionScope) (currency : String)
    (service : AzureRetailService) : Except ProviderError library.Url := do
  ensure (currency = "USD") .unsupported
  let url ← (library.parse azureRetailBase).elim (.error .unsupported) .ok
  let url := library.appendPair url "currencyCode" currency
  let url := library.appendPair url "$filter" (azureRetailFilter scope service)
  if service = .virtualMachines then
    return library.appendPair url "api-version" azureVmRetailApiVersion
  else return url

/-- `str::parse::<u64>` of digits. -/
def parseDigits (text : String) : Option Nat :=
  let digits := text.toList
  if digits.isEmpty || !digits.all Char.isDigit then none
  else
    let number := digits.foldl (fun n c => 10 * n + (c.toNat - 48)) 0
    if number < 2 ^ 64 then some number else none

/-- A number of items to skip: a whole number of pages within the listing's limit. -/
def isSkip (value : String) : Bool :=
  (parseDigits value).any fun skip =>
    azureRetailPageSize ≤ skip ∧ skip ≤ azureRetailMaxSkip ∧ skip % azureRetailPageSize = 0

/-- How often each of the names that a link may have was seen. -/
structure PairCounts where
  currency : Nat
  filter : Nat
  skip : Nat
  apiVersion : Nat
  deriving DecidableEq

def countPair (currency expectedFilter : String) (service : AzureRetailService)
    (counts : PairCounts) (pair : String × String) : Except ProviderError PairCounts :=
  let (name, value) := pair
  if name = "currencyCode" ∧ value = currency then
    .ok { counts with currency := counts.currency + 1 }
  else if name = "$filter" ∧ value = expectedFilter then
    .ok { counts with filter := counts.filter + 1 }
  else if name = "api-version" ∧ service = .virtualMachines ∧ value = azureVmRetailApiVersion then
    .ok { counts with apiVersion := counts.apiVersion + 1 }
  else if name = "$skip" ∧ isSkip value then .ok { counts with skip := counts.skip + 1 }
  else .error .unsupported

/-- Whether a URL is that of the listing, its query apart. -/
def isListingUrl (url : library.Url) : Bool :=
  library.scheme url == "https" && library.hostStr url == some "prices.azure.com" &&
    library.username url == "" && library.password url == none &&
    !(library.port url).any (· ≠ 443) && library.path url == "/api/retail/prices" &&
    library.fragment url == none

/-- The URL that the link of a page leads to. -/
def azureRetailContinuationUrlFor (scope : AzureRegionScope) (currency sourceUrl : String)
    (service : AzureRetailService) : Except ProviderError library.Url := do
  ensure (currency = "USD") .unsupported
  let url ← (library.parse sourceUrl).elim (.error .unsupported) .ok
  ensure (isListingUrl library url) .unsupported
  let counts ← (library.queryPairs url).foldlM
    (countPair currency (azureRetailFilter scope service) service) ⟨0, 0, 0, 0⟩
  ensure (counts = ⟨1, 1, 1, if service = .virtualMachines then 1 else 0⟩) .unsupported
  return url

/-! ### Pages -/

/-- The link to the next page as the page has it. -/
inductive NextPageLink where
  | null
  | text (link : String)
  | other
  deriving DecidableEq

structure AzureRetailPageEnvelope where
  billingCurrency : String
  itemCount : Nat
  nextPageLink : NextPageLink
  count : Nat

/-- A fetched page.  No body: its JSON is not an envelope. -/
structure HttpPayload where
  sourceUrl : String
  sourceVersion : Option String
  effectiveAt : Option String
  body : Option AzureRetailPageEnvelope

/-- The URL that a page leads on to, if any. -/
def projectAzureRetailPage (body : Option AzureRetailPageEnvelope) (scope : AzureRegionScope)
    (currency : String) (service : AzureRetailService) :
    Except ProviderError (Option library.Url) := do
  let page ← body.elim (.error .schemaChanged) .ok
  ensure (page.billingCurrency = currency ∧ page.count = page.itemCount ∧
    page.count ≤ azureRetailPageSize) .schemaChanged
  match page.nextPageLink with
  | .null => return none
  | .text link =>
      if 0 < page.count then
        (azureRetailContinuationUrlFor library scope currency link service).toOption.elim
          (.error .schemaChanged) fun url => .ok (some url)
      else .error .schemaChanged
  | .other => .error .schemaChanged

/-! ### The listing -/

/-- The pages read so far and the URLs that were fetched for them. -/
structure Listing where
  pages : List HttpPayload
  nextUrl : Option library.Url
  seenUrls : List String
  fetched : List library.Url

/-- The URLs that were fetched, and the pages or the error. -/
structure Outcome where
  fetched : List library.Url
  result : Except ProviderError (List HttpPayload)

/-- What a fetch leaves: the page with the URL it leads on to. -/
def readPage (answer : Except ProviderError HttpPayload) (scope : AzureRegionScope)
    (service : AzureRetailService) :
    Except ProviderError (HttpPayload × Option library.Url) := do
  let page ← answer
  let nextUrl ← projectAzureRetailPage library page.body scope "USD" service
  return (page, nextUrl)

/-- The loop over the next URL, for so many rounds at most. -/
def readOn (answers : Nat → Except ProviderError HttpPayload) (scope : AzureRegionScope)
    (service : AzureRetailService) : Nat → Listing library → Option (Outcome library)
  | 0, _ => none
  | rounds + 1, listing =>
      match listing.nextUrl with
      | none => some ⟨listing.fetched, .ok listing.pages⟩
      | some url =>
          if azureRetailMaxPages ≤ listing.pages.length ∨
              library.toText url ∈ listing.seenUrls then
            some ⟨listing.fetched, .error .schemaChanged⟩
          else
            match readPage library (answers listing.fetched.length) scope service with
            | .error e => some ⟨listing.fetched ++ [url], .error e⟩
            | .ok (page, nextUrl) => readOn answers scope service rounds {
                pages := listing.pages ++ [page]
                nextUrl := nextUrl
                seenUrls := library.toText url :: listing.seenUrls
                fetched := listing.fetched ++ [url] }

/-- The n-th fetch is answered by the n-th answer of the provider. -/
def loadAzureRetailPages (answers : Nat → Except ProviderError HttpPayload)
    (initialUrl : library.Url) (scope : AzureRegionScope) (service : AzureRetailService)
    (rounds : Nat) : Option (Outcome library) :=
  match readPage library (answers 0) scope service with
  | .error e => some ⟨[initialUrl], .error e⟩
  | .ok (page, nextUrl) => readOn library answers scope service rounds {
      pages := [page]
      nextUrl := nextUrl
      seenUrls := [library.toText initialUrl]
      fetched := [initialUrl] }

end TcoCalculator.RetailListing
