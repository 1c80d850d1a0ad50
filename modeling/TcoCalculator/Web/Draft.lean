/-
Drafts of projects in the browser: what it takes from a project of the server and
what it sends back (src/web/src/lib/draft.ts).
-/
import Mathlib.Data.List.DropRight
import TcoCalculator.Library.JsRecord

namespace TcoCalculator.Draft

/-- What a call throws. -/
inductive Thrown where
  | typeError
  | error (message : String)
  deriving DecidableEq

/-! ### Values -/

/-- White space and line ends. -/
def isTrimmed (c : Char) : Bool :=
  let n := c.toNat
  (9 ≤ n && n ≤ 13) || n == 0x20 || n == 0xA0 || n == 0x1680 || (0x2000 ≤ n && n ≤ 0x200A) ||
    n == 0x2028 || n == 0x2029 || n == 0x202F || n == 0x205F || n == 0x3000 || n == 0xFEFF

/-- `text.trim()` -/
def trim (text : String) : String :=
  String.ofList ((text.toList.dropWhile isTrimmed).rdropWhile isTrimmed)

def isText (text : String) : Option Json → Bool
  | some (.string s) => s == text
  | _ => false

def isTruthy : Option Json → Bool
  | none | some .null | some (.bool false) | some (.number 0) | some (.string "") => false
  | _ => true

def asRecord : Option Json → Option JsRecord
  | some (.object record) => some record
  | _ => none

/-- The members of a value; what is no record has none of those that are asked for. -/
def membersOf (value : Option Json) : JsRecord := (asRecord value).getD []

def itemsOf : Option Json → Except Thrown (List Json)
  | some (.array items) => .ok items
  | _ => .error .typeError

/-- A value where the types have a record. -/
def recordOf (value : Option Json) : Except Thrown JsRecord :=
  match asRecord value with
  | some record => .ok record
  | none => .error .typeError

def nullable {α : Type} (toJson : α → Json) : Option α → Json
  | some value => toJson value
  | none => .null

/-- `typeof value === 'string' ? value : null` -/
def textOrNull : Option Json → Option String
  | some (.string s) => some s
  | _ => none

/-- `typeof value === 'boolean' ? value : null` -/
def booleanOrNull : Option Json → Option Bool
  | some (.bool b) => some b
  | _ => none

/-- One of some texts, or else another text. -/
def choice (choices : List String) (value : Option Json) (fallback : String) : String :=
  match value with
  | some (.string s) => if s ∈ choices then s else fallback
  | _ => fallback

def requiredDecimal (value : Option Json) (label : String) : Except Thrown String :=
  match value with
  | some (.string s) => if trim s ≠ "" then .ok s else .error (.error (label ++ " is required."))
  | some (.number n) => .ok (Double.text n)
  | _ => .error (.error (label ++ " is required."))

def optionalDecimal : Option Json → Option String
  | some (.string s) => if s = "" then none else some s
  | some (.number n) => some (Double.text n)
  | _ => none

def optionalText : Option Json → Option String
  | some (.string s) => if trim s = "" then none else some (trim s)
  | _ => none

section Integers

-- `Number(text)`, where that is a whole number.
variable (toNumber : String → Option Int)

def requiredInteger (value : Option Json) (label : String) : Except Thrown Int :=
  let found := match value with
    | some (.number n) => some n
    | some (.string s) => if trim s ≠ "" then toNumber s else none
    | _ => none
  match found with
  | some n => if Double.isSafeInteger n then .ok n else .error (.error (label ++ " is required."))
  | none => .error (.error (label ++ " is required."))

def optionalInteger (value : Option Json) : Except Thrown (Option Int) :=
  match value with
  | none | some .null | some (.string "") => .ok none
  | _ => (requiredInteger toNumber value "Integer value").map some

def optionalCoverageMonths (value : Option Json) : Except Thrown (Option Int) := do
  let months ← optionalInteger toNumber value
  if months = none ∨ months = some 12 ∨ months = some 24 ∨ months = some 36 then return months
  else .error (.error "Remaining coverage months must be 12, 24, or 36.")

end Integers

/-! ### From a project of the server -/

structure ProjectDraft where
  name : String
  description : Option String
  settings : JsRecord
  resources : List JsRecord
  awsPriceSnapshotId : Option String
  azurePriceSnapshotId : Option String

/-- A draft as it is written. -/
def ProjectDraft.json (project : ProjectDraft) : Json := .object [
  ("name", .string project.name),
  ("description", nullable .string project.description),
  ("settings", .object project.settings),
  ("resources", .array (project.resources.map .object)),
  ("aws_price_snapshot_id", nullable .string project.awsPriceSnapshotId),
  ("azure_price_snapshot_id", nullable .string project.azurePriceSnapshotId)]

structure Ec2VmRequirementsDraft where
  burstPolicy : String
  instanceStoreUse : String
  requiredLocalTempDiskGb : Option String
  ephemeralDataLossAcceptable : Option Bool
  highFrequencyRequirement : String
  requestedTargetArmSku : Option String

def Ec2VmRequirementsDraft.json (requirements : Ec2VmRequirementsDraft) : Json := .object [
  ("burst_policy", .string requirements.burstPolicy),
  ("instance_store_use", .string requirements.instanceStoreUse),
  ("required_local_temp_disk_gb", nullable .string requirements.requiredLocalTempDiskGb),
  ("ephemeral_data_loss_acceptable", nullable .bool requirements.ephemeralDataLossAcceptable),
  ("high_frequency_requirement", .string requirements.highFrequencyRequirement),
  ("requested_target_arm_sku", nullable .string requirements.requestedTargetArmSku)]

def projectTypes : List String := ["ec2", "ec2_vm", "rds", "on_prem", "sql_payg"]

def vmPurchaseOptions : List String :=
  ["payg", "ahb", "one-year", "ahbone-year", "three-year", "ahbthree-year", "sv-one-year",
    "ahbsv-one-year", "sv-three-year", "ahbsv-three-year"]

def createVmRequirements (instanceType : String) : Ec2VmRequirementsDraft where
  burstPolicy :=
    if instanceType.startsWith "t3." then "confirmed_burst_compatible" else "not_applicable"
  instanceStoreUse := "not_used"
  requiredLocalTempDiskGb := none
  ephemeralDataLossAcceptable := none
  highFrequencyRequirement :=
    if instanceType.startsWith "z1d." then "capacity_fit_accepted" else "not_applicable"
  requestedTargetArmSku := none

def editableVmRequirements (value : Option Json) (instanceType : Option Json) :
    Except Thrown Ec2VmRequirementsDraft :=
  match instanceType with
  | some (.string instanceType) =>
      let defaults := createVmRequirements instanceType
      match asRecord value with
      | some value => .ok {
          burstPolicy := choice
            ["confirmed_burst_compatible", "requires_sustained_cpu", "unknown", "not_applicable"]
            (value.member "burst_policy") defaults.burstPolicy
          instanceStoreUse := choice ["unknown", "not_used", "used"]
            (value.member "instance_store_use") defaults.instanceStoreUse
          requiredLocalTempDiskGb := optionalDecimal (value.member "required_local_temp_disk_gb")
          ephemeralDataLossAcceptable :=
            booleanOrNull (value.member "ephemeral_data_loss_acceptable")
          highFrequencyRequirement := choice
            ["required", "unknown", "capacity_fit_accepted", "not_applicable"]
            (value.member "high_frequency_requirement") defaults.highFrequencyRequirement
          requestedTargetArmSku := optionalText (value.member "requested_target_arm_sku") }
      | none => .ok defaults
  -- Nothing else has a method `startsWith`.
  | _ => .error .typeError

/-- The loop over the resources. -/
def editableResource (value : Json) : Except Thrown JsRecord := do
  let resource ← recordOf (some value)
  let resource :=
    resource.withMember "server_name" (nullable .string (textOrNull (resource.member "server_name")))
  if isText "ec2_vm" (resource.member "source_type") then
    let purchaseOption := choice vmPurchaseOptions (resource.member "vm_purchase_option") "payg"
    let resource := resource.withMember "vm_purchase_option" (.string purchaseOption)
    let requirements ←
      editableVmRequirements (resource.member "requirements") (resource.member "instance_type")
    return resource.withMember "requirements" requirements.json
  else return resource

def editableProject (value : Json) : Except Thrown (Option ProjectDraft) :=
  let value := asRecord (some value)
  let member (name : String) := value.bind fun value => value.member name
  match asRecord (member "settings"), member "resources", member "name" with
  | some settings, some (.array resources), some (.string name) =>
      if projectTypes.any fun projectType => isText projectType (settings.member "project_type")
      then do
        let resources ← resources.mapM editableResource
        return some {
          name
          description := textOrNull (member "description")
          settings
          resources
          awsPriceSnapshotId := textOrNull (member "aws_price_snapshot_id")
          azurePriceSnapshotId := textOrNull (member "azure_price_snapshot_id") }
      else return none
  | _, _, _ => return none

/-! ### What is sent -/

/-- A decimal of a record, set in another one. -/
def setRequiredDecimal (source : JsRecord) (name label : String) (record : JsRecord) :
    Except Thrown JsRecord := do
  let decimal ← requiredDecimal (source.member name) label
  return record.withMember name (.string decimal)

def setOptionalDecimal (source : JsRecord) (name : String) (record : JsRecord) : JsRecord :=
  record.withMember name (nullable .string (optionalDecimal (source.member name)))

section Requests

variable (toNumber : String → Option Int)

def requestSqlPayg (value : Option Json) : Except Thrown Json := do
  if isTruthy value then
    let sqlPayg := membersOf value
    let enterprise ← requiredInteger toNumber (sqlPayg.member "enterprise_licensed_cores")
      "Enterprise licensed cores"
    let standard ← requiredInteger toNumber (sqlPayg.member "standard_licensed_cores")
      "Standard licensed cores"
    let softwareAssurance ← requiredDecimal (sqlPayg.member "software_assurance_annual_usd")
      "Annual Software Assurance spend"
    return .object [
      ("enterprise_licensed_cores", .number enterprise),
      ("standard_licensed_cores", .number standard),
      ("software_assurance_annual_usd", .string softwareAssurance)]
  else return .null

def requestSettings (settings : JsRecord) : Except Thrown JsRecord := do
  let record ← setRequiredDecimal settings "source_compute_discount" "Source compute discount"
    settings
  let record ← setRequiredDecimal settings "source_license_discount" "Source license discount"
    record
  let record ← setRequiredDecimal settings "source_storage_discount" "Source storage discount"
    record
  let record ← setRequiredDecimal settings "azure_compute_discount" "Azure compute discount" record
  let record ← setRequiredDecimal settings "azure_license_discount" "Azure license discount" record
  let record ← setRequiredDecimal settings "azure_storage_discount" "Azure storage discount" record
  let record ← setRequiredDecimal settings "selected_parity_adjustment"
    "Selected parity adjustment" record
  let record ← setRequiredDecimal settings "default_annual_hours" "Default annual hours" record
  let record := setOptionalDecimal settings "enterprise_license_sa_usd_per_two_core_pack" record
  let record := setOptionalDecimal settings "standard_license_sa_usd_per_two_core_pack" record
  let months ← optionalCoverageMonths toNumber (settings.member "remaining_coverage_months")
  let record := record.withMember "remaining_coverage_months" (nullable .number months)
  let record := setOptionalDecimal settings "electricity_rate_usd_per_kwh" record
  let sqlPayg ← requestSqlPayg toNumber (settings.member "sql_payg")
  return record.withMember "sql_payg" sqlPayg

/-- The members that every resource has. -/
def requestShared (workload : String) (resource : JsRecord) : Except Thrown JsRecord := do
  let quantity ← requiredInteger toNumber (resource.member "quantity") (workload ++ " quantity")
  let sourceRam ← requiredDecimal (resource.member "source_ram_gb_per_instance")
    (workload ++ " source RAM")
  let annualHours ← requiredDecimal (resource.member "annual_hours_per_instance")
    (workload ++ " annual hours")
  return .literal [
    ("id", resource.member "id"),
    ("workload_name", resource.member "workload_name"),
    ("server_name", some (nullable .string (optionalText (resource.member "server_name")))),
    ("quantity", some (.number quantity)),
    ("source_ram_gb_per_instance", some (.string sourceRam)),
    ("annual_hours_per_instance", some (.string annualHours))]

def requestSql (workload : String) (resource : JsRecord) : Except Thrown JsRecord := do
  let sqlData ← requiredDecimal (resource.member "sql_data_gb_per_instance")
    (workload ++ " SQL data")
  return .literal [
    ("sql_edition", resource.member "sql_edition"),
    ("license_basis", resource.member "license_basis"),
    ("sql_data_gb_per_instance", some (.string sqlData)),
    ("mi_purchase_option", resource.member "mi_purchase_option")]

/-- A volume with its IOPS read as one of the two kinds reads them. -/
def requestVolume (iops : Option Json → String → Except Thrown Json) (workload : String)
    (value : Json) (volumeIndex : Nat) : Except Thrown Json := do
  let lead := workload ++ " volume " ++ toString (volumeIndex + 1)
  let volume ← recordOf (some value)
  let record ← setRequiredDecimal volume "capacity_gb" (lead ++ " capacity") volume
  let provisioned ← iops (volume.member "provisioned_iops") (lead ++ " provisioned IOPS")
  let record := record.withMember "provisioned_iops" provisioned
  return .object (setOptionalDecimal volume "throughput_mibps" record)

def requestVmVolume (workload : String) (value : Json) (volumeIndex : Nat) :
    Except Thrown Json :=
  requestVolume (fun value label => (requiredInteger toNumber value label).map .number) workload
    value volumeIndex

def requestEbsVolume (workload : String) (value : Json) (volumeIndex : Nat) :
    Except Thrown Json :=
  requestVolume (fun value _ => (optionalInteger toNumber value).map (nullable .number)) workload
    value volumeIndex

def requestVolumes (request : Json → Nat → Except Thrown Json) (value : Option Json) :
    Except Thrown Json := do
  let volumes ← (← itemsOf value).zipIdx.mapM fun volume => request volume.1 volume.2
  return .array volumes

def requestRequirements (value : Option Json) : Except Thrown Json := do
  let requirements ← recordOf value
  let record := setOptionalDecimal requirements "required_local_temp_disk_gb" requirements
  return .object (record.withMember "requested_target_arm_sku"
    (nullable .string (optionalText (requirements.member "requested_target_arm_sku"))))

def requestResource (resource : JsRecord) (index : Nat) : Except Thrown JsRecord := do
  let workload := "Workload " ++ toString (index + 1)
  let shared ← requestShared toNumber workload resource
  if isText "ec2_vm" (resource.member "source_type") then
    let requirements ← requestRequirements (resource.member "requirements")
    let volumes ← requestVolumes (requestVmVolume toNumber workload) (resource.member "volumes")
    return shared ++ .literal [
      ("source_type", some (.string "ec2_vm")),
      ("instance_type", resource.member "instance_type"),
      ("vm_purchase_option", resource.member "vm_purchase_option"),
      ("requirements", some requirements),
      ("volumes", some volumes)]
  else
    let sql ← requestSql workload resource
    if isText "ec2" (resource.member "source_type") then
      let volumes ← requestVolumes (requestEbsVolume toNumber workload) (resource.member "volumes")
      return shared ++ sql ++ .literal [
        ("source_type", some (.string "ec2")),
        ("instance_type", resource.member "instance_type"),
        ("volumes", some volumes)]
    else if isText "rds" (resource.member "source_type") then
      let sourceMaxIops ← requiredInteger toNumber (resource.member "source_max_iops")
        (workload ++ " maximum source IOPS")
      return shared ++ sql ++ .literal [
        ("source_type", some (.string "rds")),
        ("instance_type", resource.member "instance_type"),
        ("deployment", resource.member "deployment"),
        ("commercial_term", resource.member "commercial_term"),
        ("storage_class", resource.member "storage_class"),
        ("source_max_iops", some (.number sourceMaxIops))]
    else
      let sourceVcpu ← requiredInteger toNumber (resource.member "source_vcpu")
        (workload ++ " source vCPU")
      let licensableCores ← requiredInteger toNumber (resource.member "licensable_cores")
        (workload ++ " licensable cores")
      let sourceMaxIops ← requiredInteger toNumber (resource.member "source_max_iops")
        (workload ++ " maximum source IOPS")
      let hardwareCapex ← requiredDecimal (resource.member "hardware_capex_usd")
        (workload ++ " hardware capex")
      let depreciationYears ← requiredDecimal (resource.member "depreciation_years")
        (workload ++ " depreciation years")
      return shared ++ sql ++ .literal [
        ("source_type", some (.string "on_prem")),
        ("source_vcpu", some (.number sourceVcpu)),
        ("licensable_cores", some (.number licensableCores)),
        ("source_max_iops", some (.number sourceMaxIops)),
        ("hardware_capex_usd", some (.string hardwareCapex)),
        ("depreciation_years", some (.string depreciationYears)),
        ("average_power_kw_override",
          some (nullable .string (optionalDecimal (resource.member "average_power_kw_override"))))]

def projectRequestPayload (project : ProjectDraft) : Except Thrown ProjectDraft := do
  let settings ← requestSettings toNumber project.settings
  let resources ← project.resources.zipIdx.mapM fun resource =>
    requestResource toNumber resource.1 resource.2
  return { project with settings, resources }

end Requests

end TcoCalculator.Draft
