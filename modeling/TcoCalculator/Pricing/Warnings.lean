/-
The snapshot warnings that concern a project's resources
(src/rust/src/pricing/warnings.rs).
-/
import TcoCalculator.Domain.Resource
import TcoCalculator.Pricing.Provider

namespace TcoCalculator.PricingWarnings

def ec2StandardPrefix : String := "EC2 Standard SQL rate for "
def ec2EnterprisePrefix : String := "EC2 Enterprise SQL rate for "
def ec2FallbackSuffix : String := " uses the regional four-core-minimum fallback."
def rdsStoragePrefix : String := "RDS "
def rdsStorageSuffix : String := " has no matching SQL Server storage rate."
def rdsStandardLicensePrefix : String := "RDS Standard OCPU license meter is unavailable;"
def rdsEnterpriseLicensePrefix : String := "RDS Enterprise OCPU license meter is unavailable;"

def stripSuffix (tail text : String) : Option String :=
  if tail.toList.isSuffixOf text.toList then
    some (String.ofList (text.toList.take (text.toList.length - tail.toList.length)))
  else none

/-- What stands between a prefix and a suffix that do not overlap. -/
def stripBoth (lead tail text : String) : Option String :=
  (stripPrefix lead text).bind (stripSuffix tail)

/-- The text before and after the first blank. -/
def splitOnceBlank (text : String) : Option (String × String) :=
  match text.toList.span (· ≠ ' ') with
  | (before, ' ' :: after) => some (String.ofList before, String.ofList after)
  | _ => none

variable {D : Type}

def hasEc2 (resources : List (Resource D)) (instanceType : String) (edition : SqlEdition) :
    Bool :=
  resources.any fun
    | .ec2 ec2 => ec2.instanceType == instanceType && ec2.sql.sqlEdition == edition
    | _ => false

def hasRdsEdition (resources : List (Resource D)) (edition : SqlEdition) : Bool :=
  resources.any fun
    | .rds rds => rds.sql.sqlEdition == edition
    | _ => false

def rdsDeploymentKey : RdsDeployment → String
  | .singleAz => "single-az"
  | .multiAz => "multi-az"

def hasRdsDeployment (resources : List (Resource D)) (instanceType deployment : String) : Bool :=
  resources.any fun
    | .rds rds => rds.instanceType == instanceType && rdsDeploymentKey rds.deployment == deployment
    | _ => false

def isRelevant (resources : List (Resource D)) (warning : String) : Bool :=
  match stripBoth ec2StandardPrefix ec2FallbackSuffix warning with
  | some instanceType => hasEc2 resources instanceType .standard
  | none =>
  match stripBoth ec2EnterprisePrefix ec2FallbackSuffix warning with
  | some instanceType => hasEc2 resources instanceType .enterprise
  | none =>
  match stripBoth rdsStoragePrefix rdsStorageSuffix warning with
  | some instanceAndDeployment =>
      match splitOnceBlank instanceAndDeployment with
      | some (instanceType, deployment) => hasRdsDeployment resources instanceType deployment
      | none => true
  | none =>
      if (stripPrefix rdsStandardLicensePrefix warning).isSome then
        hasRdsEdition resources .standard
      else if (stripPrefix rdsEnterpriseLicensePrefix warning).isSome then
        hasRdsEdition resources .enterprise
      else true

def relevantForResources (warnings : List String) (resources : List (Resource D)) :
    List String :=
  warnings.filter (isRelevant resources)

end TcoCalculator.PricingWarnings
