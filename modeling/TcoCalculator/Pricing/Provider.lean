/-
Providers, the status of their data and their errors
(src/rust/src/pricing/provider.rs, the error type of pricing/snapshot.rs), with
the text formats their identifiers share.
-/
import Mathlib.Data.List.Basic

namespace TcoCalculator

inductive Provider where
  | aws
  | azure
  deriving DecidableEq, Repr

inductive ResolutionStatus where
  | fresh
  | cached
  | stale
  | unavailable
  deriving DecidableEq, Repr

inductive ProviderError where
  | notFound
  | unsupported
  | temporarilyUnavailable
  | schemaChanged
  deriving DecidableEq, Repr

inductive SnapshotError where
  | invalidRetrievedAt
  | invalidScope
  | unusableStatus
  | invalidRateKeys
  | invalidRateProvenance
  | invalidAwsRates
  | invalidAzurePurchaseMatrix
  | invalidAzureVmRates
  | canonicalization
  | storedSnapshotMismatch
  deriving DecidableEq, Repr

def isLowerHex (c : Char) : Bool := c.isDigit || ('a' ≤ c && c ≤ 'f')

/-- Sixty-four lowercase hexadecimal digits. -/
def validHash (value : String) : Bool :=
  value.toList.length == 64 && value.toList.all isLowerHex

def stripPrefix (lead value : String) : Option String :=
  if lead.toList.isPrefixOf value.toList then
    some (String.ofList (value.toList.drop lead.toList.length))
  else none

def validSnapshotId (value : String) : Bool :=
  ((stripPrefix "aws-" value).orElse fun _ => stripPrefix "azure-" value).any validHash

/-- The text is an identifier in the form it is printed in: lowercase digits
in groups of 8, 4, 4, 4 and 12. -/
def isCanonicalUuid (value : String) : Bool :=
  value.toList.length == 36 && value.toList.zipIdx.all fun (c, i) =>
    if i = 8 ∨ i = 13 ∨ i = 18 ∨ i = 23 then c == '-' else isLowerHex c

end TcoCalculator
