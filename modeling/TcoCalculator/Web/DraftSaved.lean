/-
A resource that the browser opens and sends back: its members in another order, its
server name trimmed.
-/
import TcoCalculator.Domain.ProjectAdmission
import TcoCalculator.Web.DraftValues

namespace TcoCalculator.Draft

open DecimalArith (display)
open Fallible (ok_then)
open ProjectReading (SafeIops SafeNumbers resourceFields)
open ResourceJson (decimal option)

variable {toNumber : String → Option Int}

/-! ### Volumes -/

theorem parsed_iops {iops : Option UInt64} (h : SafeIops iops) :
    (option (fun n : UInt64 => Json.number n.toNat) iops).parsed =
      option (fun n : UInt64 => Json.number n.toNat) iops := by
  cases iops with
  | none => rfl
  | some n => exact parsed_number (h n rfl)

theorem parsed_option_string (text : Option String) :
    (option Json.string text).parsed = option Json.string text := by
  cases text <;> rfl

theorem parsed_option_decimal (number : Option Decimal96) :
    (option decimal number).parsed = option decimal number := by
  cases number <;> rfl

theorem parsed_option_bool (flag : Option Bool) :
    (option Json.bool flag).parsed = option Json.bool flag := by
  cases flag <;> rfl

theorem parsed_ebsVolume {volume : EbsVolume Decimal96} (h : SafeIops volume.provisionedIops) :
    (ResourceJson.ebsVolume volume).parsed = ResourceJson.ebsVolume volume := by
  simp only [ResourceJson.ebsVolume, Json.parsed, Json.parsedFields, parsed_iops h,
    parsed_option_string, parsed_option_decimal]
  rfl

theorem parsed_vmVolume {volume : VmVolume Decimal96} (h : SafeIops volume.provisionedIops) :
    (ResourceJson.vmVolume volume).parsed = ResourceJson.vmVolume volume := by
  simp only [ResourceJson.vmVolume, Json.parsed, Json.parsedFields, parsed_iops h,
    parsed_option_string, parsed_option_decimal]
  rfl

/-- The members of a volume that a request reads. -/
structure VolumeMembers (record : JsRecord) (capacity : Decimal96) (iops : Option UInt64)
    (throughput : Option Decimal96) : Prop where
  capacity : record.member "capacity_gb" = some (decimal capacity)
  iops : record.member "provisioned_iops" =
    some (option (fun n : UInt64 => Json.number n.toNat) iops).parsed
  throughput : record.member "throughput_mibps" = some (option decimal throughput)

/-- A volume whose IOPS are accepted is sent as it is. -/
theorem requestVolume_eq_ok {read : Option Json → String → Except Thrown Json} {record : JsRecord}
    {capacity : Decimal96} {iops : Option UInt64} {throughput : Option Decimal96}
    (hmembers : VolumeMembers record capacity iops throughput) (hsafe : SafeIops iops)
    (hread : ∀ label, read (some (option (fun n : UInt64 => Json.number n.toNat) iops)) label =
      .ok (option (fun n : UInt64 => Json.number n.toNat) iops)) (workload : String) (index : Nat) :
    requestVolume read workload (.object record) index = .ok (.object record) := by
  have hiops := hmembers.iops
  rw [parsed_iops hsafe] at hiops
  apply ok_then (show recordOf (some (.object record)) = .ok record from rfl)
  apply ok_then (setRequiredDecimal_self _ hmembers.capacity hmembers.capacity)
  rw [hiops]
  apply ok_then (hread _)
  simp only [JsRecord.withMember_self hiops,
    setOptionalDecimal_self hmembers.throughput hmembers.throughput]
  rfl

theorem optionalInteger_number (n : Int) : optionalInteger toNumber (some (.number n)) =
    (requiredInteger toNumber (some (.number n)) "Integer value").map some := rfl

theorem optionalInteger_iops {iops : Option UInt64} (h : SafeIops iops) :
    (optionalInteger toNumber (some (option (fun n : UInt64 => Json.number n.toNat) iops))).map
        (nullable .number) =
      .ok (option (fun n : UInt64 => Json.number n.toNat) iops) := by
  cases iops with
  | none => rfl
  | some n =>
      rw [option, optionalInteger_number, requiredInteger_number (h n rfl)]
      rfl

theorem requestEbsVolume_eq_ok {volume : EbsVolume Decimal96} (h : SafeIops volume.provisionedIops)
    (workload : String) (index : Nat) :
    requestEbsVolume toNumber workload (ResourceJson.ebsVolume volume) index =
      .ok (ResourceJson.ebsVolume volume) :=
  requestVolume_eq_ok ⟨rfl, by rw [parsed_iops h]; rfl, rfl⟩ h
    (fun _ => optionalInteger_iops h) workload index

theorem requestVmVolume_eq_ok {volume : VmVolume Decimal96} {n : UInt64}
    (hiops : volume.provisionedIops = some n) (h : SafeIops volume.provisionedIops)
    (workload : String) (index : Nat) :
    requestVmVolume toNumber workload (ResourceJson.vmVolume volume) index =
      .ok (ResourceJson.vmVolume volume) := by
  refine requestVolume_eq_ok ⟨rfl, by rw [parsed_iops h]; rfl, rfl⟩ h (fun label => ?_) workload
    index
  rw [hiops, option, requiredInteger_number (h n hiops)]
  rfl

/-- A volume that is sent has had its IOPS accepted. -/
theorem exists_read_of_requestVolume {read : Option Json → String → Except Thrown Json}
    {record : JsRecord} {workload : String} {index : Nat} {sent : Json}
    (h : requestVolume read workload (.object record) index = .ok sent) :
    ∃ label found, read (record.member "provisioned_iops") label = .ok found := by
  simp only [requestVolume, Fallible.bind_eq_ok] at h
  obtain ⟨volume, hvolume, _, _, found, hfound, _⟩ := h
  cases hvolume
  exact ⟨_, found, hfound⟩

theorem exists_of_map_eq_ok {α β : Type} {x : Except Thrown α} {f : α → β} {b : β}
    (h : x.map f = .ok b) : ∃ a, x = .ok a := by
  cases x with
  | error e => cases h
  | ok a => exact ⟨a, rfl⟩

theorem safeIops_of_requestEbsVolume {volume : EbsVolume Decimal96} {workload : String}
    {index : Nat} {sent : Json}
    (h : requestEbsVolume toNumber workload (ResourceJson.ebsVolume volume).parsed index =
      .ok sent) : SafeIops volume.provisionedIops := by
  obtain ⟨label, found, hfound⟩ := exists_read_of_requestVolume h
  intro n hn
  change (optionalInteger toNumber (some (option (fun n : UInt64 => Json.number n.toNat)
    volume.provisionedIops).parsed)).map (nullable .number) = .ok found at hfound
  rw [hn] at hfound
  obtain ⟨read, hread⟩ := exists_of_map_eq_ok hfound
  obtain ⟨m, hm⟩ := exists_of_map_eq_ok hread
  exact lt_of_requiredInteger hm

theorem safeIops_of_requestVmVolume {volume : VmVolume Decimal96} {workload : String}
    {index : Nat} {sent : Json}
    (h : requestVmVolume toNumber workload (ResourceJson.vmVolume volume).parsed index =
      .ok sent) : SafeIops volume.provisionedIops := by
  obtain ⟨label, found, hfound⟩ := exists_read_of_requestVolume h
  intro n hn
  change (requiredInteger toNumber (some (option (fun n : UInt64 => Json.number n.toNat)
    volume.provisionedIops).parsed) label).map .number = .ok found at hfound
  rw [hn] at hfound
  obtain ⟨m, hm⟩ := exists_of_map_eq_ok hfound
  exact lt_of_requiredInteger hm

theorem mapM_zipIdx_same {request : Json → Nat → Except Thrown Json} {items : List Json}
    (h : ∀ item ∈ items, ∀ index, request item index = .ok item) (start : Nat) :
    ((items.zipIdx start).mapM fun volume => request volume.1 volume.2) = .ok items := by
  induction items generalizing start with
  | nil => rfl
  | cons item rest ih =>
      rw [List.forall_mem_cons] at h
      rw [List.zipIdx_cons, List.mapM_cons, h.1, ih h.2]
      rfl

theorem requestVolumes_same {request : Json → Nat → Except Thrown Json} {items : List Json}
    (h : ∀ item ∈ items, ∀ index, request item index = .ok item) :
    requestVolumes request (some (.array items)) = .ok (.array items) := by
  apply ok_then (show itemsOf (some (.array items)) = .ok items from rfl)
  exact ok_then (mapM_zipIdx_same h 0) rfl

/-- Where the volumes are sent each was. -/
theorem exists_of_requestVolumes {request : Json → Nat → Except Thrown Json} {items : List Json}
    {sent : Json} (h : requestVolumes request (some (.array items)) = .ok sent) :
    ∀ item ∈ items, ∃ index sent, request item index = .ok sent := by
  simp only [requestVolumes, Fallible.bind_eq_ok] at h
  obtain ⟨found, hfound, volumes, hvolumes, _⟩ := h
  cases hfound
  intro item hitem
  obtain ⟨index, hindex⟩ := List.mem_iff_getElem?.mp hitem
  obtain ⟨sent, hsent⟩ := Fallible.returns_of_mapM hvolumes
    (List.mk_mem_zipIdx_iff_getElem?.mpr hindex)
  exact ⟨index, sent, hsent⟩

/-! ### Resources -/

/-- What the browser leaves of a server name. -/
def trimmedShared (shared : SharedResource Decimal96) : SharedResource Decimal96 :=
  { shared with
    serverName := shared.serverName.bind fun name => optionalText (some (.string name)) }

def trimmedName : Resource Decimal96 → Resource Decimal96
  | .ec2 resource => .ec2 { resource with shared := trimmedShared resource.shared }
  | .ec2Vm resource => .ec2Vm { resource with shared := trimmedShared resource.shared }
  | .rds resource => .rds { resource with shared := trimmedShared resource.shared }
  | .onPrem resource => .onPrem { resource with shared := trimmedShared resource.shared }

/-- The members of a resource in the order in which the browser writes them. -/
def sentFields : Resource Decimal96 → JsRecord
  | .ec2 resource => ResourceJson.sharedFields resource.shared ++
      ResourceJson.sqlFields resource.sql ++ [
        ("source_type", .string "ec2"),
        ("instance_type", .string resource.instanceType),
        ("volumes", .array (resource.volumes.map ResourceJson.ebsVolume))]
  | .ec2Vm resource => ResourceJson.sharedFields resource.shared ++ [
      ("source_type", .string "ec2_vm"),
      ("instance_type", .string resource.instanceType),
      ("vm_purchase_option", .string resource.vmPurchaseOption.asStr),
      ("requirements", ResourceJson.requirements resource.requirements),
      ("volumes", .array (resource.volumes.map ResourceJson.vmVolume))]
  | .rds resource => ResourceJson.sharedFields resource.shared ++
      ResourceJson.sqlFields resource.sql ++ [
        ("source_type", .string "rds"),
        ("instance_type", .string resource.instanceType),
        ("deployment", .string (ResourceJson.deployment resource.deployment)),
        ("commercial_term", .string resource.commercialTerm),
        ("storage_class", .string resource.storageClass),
        ("source_max_iops", .number resource.sourceMaxIops.toNat)]
  | .onPrem resource => ResourceJson.sharedFields resource.shared ++
      ResourceJson.sqlFields resource.sql ++ [
        ("source_type", .string "on_prem"),
        ("source_vcpu", .number resource.sourceVcpu.toNat),
        ("licensable_cores", .number resource.licensableCores.toNat),
        ("source_max_iops", .number resource.sourceMaxIops.toNat),
        ("hardware_capex_usd", decimal resource.hardwareCapexUsd),
        ("depreciation_years", decimal resource.depreciationYears),
        ("average_power_kw_override", option decimal resource.averagePowerKwOverride)]

theorem sentFields_perm (resource : Resource Decimal96) :
    (sentFields resource).Perm (resourceFields resource) := by
  cases resource with
  | ec2 resource => exact (List.perm_middle).trans (by rw [List.append_assoc]; exact .refl _)
  | ec2Vm resource => exact List.perm_middle
  | rds resource => exact (List.perm_middle).trans (by rw [List.append_assoc]; exact .refl _)
  | onPrem resource => exact (List.perm_middle).trans (by rw [List.append_assoc]; exact .refl _)

/-- Every one of some members is found with its value. -/
def Has (record : JsRecord) (members : List (String × Json)) : Prop :=
  ∀ entry ∈ members, record.member entry.1 = some entry.2

theorem Has.append {record front back : JsRecord} :
    Has record (front ++ back) ↔ Has record front ∧ Has record back := List.forall_mem_append

theorem Has.cons {record members : JsRecord} {entry : String × Json} :
    Has record (entry :: members) ↔ record.member entry.1 = some entry.2 ∧ Has record members :=
  List.forall_mem_cons

theorem Has.self (resource : Resource Decimal96) :
    Has (resourceFields resource) (resourceFields resource) := by
  have hnodup : ((resourceFields resource).map Prod.fst).Nodup := by
    rw [ProjectReading.names_resourceFields]
    exact ProjectReading.nodup_resourceNames resource
  exact fun entry hentry => (JsonDocument.lookup_eq_some_of_nodup hnodup).mpr hentry

theorem optionalText_option (name : Option String) :
    nullable .string (optionalText (some (option .string name))) =
      option .string (name.bind fun name => optionalText (some (.string name))) := by
  cases name with
  | none => rfl
  | some name =>
      rw [Option.bind_some, option]
      cases optionalText (some (.string name)) <;> rfl

theorem requestShared_eq_ok {record : JsRecord} {shared : SharedResource Decimal96}
    (h : Has record (ResourceJson.sharedFields shared)) (workload : String) :
    requestShared toNumber workload record = .ok (ResourceJson.sharedFields (trimmedShared shared)) := by
  simp only [ResourceJson.sharedFields, Has.cons] at h
  obtain ⟨hid, hname, hserver, hquantity, hram, hhours, -⟩ := h
  have hlt : shared.quantity.toNat < 2 ^ 53 := shared.quantity.toNat_lt.trans (by decide)
  rw [requestShared, hquantity, hram, hhours, hid, hname, hserver, optionalText_option]
  apply ok_then (requiredInteger_number hlt _)
  apply ok_then (requiredDecimal_decimal shared.sourceRamGbPerInstance _)
  apply ok_then (requiredDecimal_decimal shared.annualHoursPerInstance _)
  rfl

theorem requestSql_eq_ok {record : JsRecord} {sql : SqlWorkload Decimal96}
    (h : Has record (ResourceJson.sqlFields sql)) (workload : String) :
    requestSql workload record = .ok (ResourceJson.sqlFields sql) := by
  simp only [ResourceJson.sqlFields, Has.cons] at h
  obtain ⟨hedition, hbasis, hdata, hpurchase, -⟩ := h
  rw [requestSql, hedition, hbasis, hdata, hpurchase]
  apply ok_then (requiredDecimal_decimal sql.sqlDataGbPerInstance _)
  rfl

/-- The text names a SKU. -/
def NamesSku (target : Option String) : Prop :=
  ∀ text, target = some text → ProjectValidation.isArmSkuName text = true

theorem optionalText_sku {target : Option String} (h : NamesSku target) :
    optionalText (some (option .string target)) = target := by
  cases target with
  | none => rfl
  | some text =>
      have hsku := h text rfl
      simp only [ProjectValidation.isArmSkuName, Bool.and_eq_true, decide_eq_true_eq,
        List.all_eq_true] at hsku
      obtain ⟨⟨hne, -⟩, hchars⟩ := hsku
      have htrim : trim text = text := trim_of_kept fun c hc => isTrimmed_of_sku (hchars c hc)
      rw [option, optionalText, htrim, if_neg hne]

theorem requestRequirements_eq_ok {needs : Ec2VmRequirements Decimal96}
    (h : NamesSku needs.requestedTargetArmSku) :
    requestRequirements (some (ResourceJson.requirements needs)) =
      .ok (ResourceJson.requirements needs) := by
  let record := membersOf (some (ResourceJson.requirements needs))
  have htemp : record.member "required_local_temp_disk_gb" =
      some (option decimal needs.requiredLocalTempDiskGb) := rfl
  have htarget : record.member "requested_target_arm_sku" =
      some (option .string needs.requestedTargetArmSku) := rfl
  have hsku : nullable .string (optionalText (record.member "requested_target_arm_sku")) =
      option .string needs.requestedTargetArmSku := by
    rw [htarget, optionalText_sku h]
    cases needs.requestedTargetArmSku <;> rfl
  apply ok_then (show recordOf (some (ResourceJson.requirements needs)) = .ok record from rfl)
  simp only [setOptionalDecimal_self htemp htemp, hsku, JsRecord.withMember_self htarget]
  rfl

/-- What the browser needs of a virtual machine. -/
def Complete : Resource Decimal96 → Prop
  | .ec2Vm resource => NamesSku resource.requirements.requestedTargetArmSku ∧
      ∀ volume ∈ resource.volumes, ∃ n, volume.provisionedIops = some n
  | _ => True

section Request

variable {record : JsRecord} (index : Nat)

theorem requestEc2_eq_ok {resource : Ec2Resource Decimal96}
    (hhas : Has record (resourceFields (.ec2 resource))) (hsafe : SafeNumbers (.ec2 resource)) :
    requestResource toNumber record index = .ok (sentFields (trimmedName (.ec2 resource))) := by
  simp only [resourceFields, ResourceJson.ownFields, Has.append, Has.cons] at hhas
  obtain ⟨⟨hsource, hshared⟩, hsql, htype, hvolumes, -⟩ := hhas
  have hsource : record.member "source_type" = some (.string "ec2") := hsource
  have hsent : ∀ item ∈ resource.volumes.map ResourceJson.ebsVolume, ∀ number,
      requestEbsVolume toNumber ("Workload " ++ toString (index + 1)) item number = .ok item := by
    rw [List.forall_mem_map]
    exact fun volume hvolume => requestEbsVolume_eq_ok (hsafe volume hvolume) _
  rw [requestResource, hsource]
  apply ok_then (requestShared_eq_ok hshared _)
  rw [if_neg (by decide)]
  apply ok_then (requestSql_eq_ok hsql _)
  rw [if_pos (by decide), hvolumes]
  apply ok_then (requestVolumes_same hsent)
  rw [htype]
  rfl

theorem requestEc2Vm_eq_ok {resource : Ec2VmResource Decimal96}
    (hhas : Has record (resourceFields (.ec2Vm resource))) (hsafe : SafeNumbers (.ec2Vm resource))
    (hcomplete : Complete (.ec2Vm resource)) :
    requestResource toNumber record index = .ok (sentFields (trimmedName (.ec2Vm resource))) := by
  simp only [resourceFields, ResourceJson.ownFields, Has.append, Has.cons] at hhas
  obtain ⟨⟨hsource, hshared⟩, htype, hpurchase, hrequirements, hvolumes, -⟩ := hhas
  have hsource : record.member "source_type" = some (.string "ec2_vm") := hsource
  have hsent : ∀ item ∈ resource.volumes.map ResourceJson.vmVolume, ∀ number,
      requestVmVolume toNumber ("Workload " ++ toString (index + 1)) item number = .ok item := by
    rw [List.forall_mem_map]
    intro volume hvolume number
    obtain ⟨n, hn⟩ := hcomplete.2 volume hvolume
    exact requestVmVolume_eq_ok hn (hsafe volume hvolume) _ number
  rw [requestResource, hsource]
  apply ok_then (requestShared_eq_ok hshared _)
  rw [if_pos (by decide), hrequirements]
  apply ok_then (requestRequirements_eq_ok hcomplete.1)
  rw [hvolumes]
  apply ok_then (requestVolumes_same hsent)
  rw [htype, hpurchase]
  rfl

theorem requestRds_eq_ok {resource : RdsResource Decimal96}
    (hhas : Has record (resourceFields (.rds resource))) (hsafe : SafeNumbers (.rds resource)) :
    requestResource toNumber record index = .ok (sentFields (trimmedName (.rds resource))) := by
  simp only [resourceFields, ResourceJson.ownFields, Has.append, Has.cons] at hhas
  obtain ⟨⟨hsource, hshared⟩, hsql, htype, hdeployment, hterm, hclass, hiops, -⟩ := hhas
  have hsource : record.member "source_type" = some (.string "rds") := hsource
  rw [requestResource, hsource]
  apply ok_then (requestShared_eq_ok hshared _)
  rw [if_neg (by decide)]
  apply ok_then (requestSql_eq_ok hsql _)
  rw [if_neg (by decide), if_pos (by decide), hiops]
  apply ok_then (requiredInteger_number hsafe _)
  rw [htype, hdeployment, hterm, hclass]
  rfl

theorem requestOnPrem_eq_ok {resource : OnPremResource Decimal96}
    (hhas : Has record (resourceFields (.onPrem resource)))
    (hsafe : SafeNumbers (.onPrem resource)) :
    requestResource toNumber record index = .ok (sentFields (trimmedName (.onPrem resource))) := by
  simp only [resourceFields, ResourceJson.ownFields, Has.append, Has.cons] at hhas
  obtain ⟨⟨hsource, hshared⟩, hsql, hvcpu, hcores, hiops, hcapex, hyears, hpower, -⟩ := hhas
  have hsource : record.member "source_type" = some (.string "on_prem") := hsource
  have hvcpuLt : resource.sourceVcpu.toNat < 2 ^ 53 :=
    resource.sourceVcpu.toNat_lt.trans (by decide)
  have hcoresLt : resource.licensableCores.toNat < 2 ^ 53 :=
    resource.licensableCores.toNat_lt.trans (by decide)
  rw [requestResource, hsource]
  apply ok_then (requestShared_eq_ok hshared _)
  rw [if_neg (by decide)]
  apply ok_then (requestSql_eq_ok hsql _)
  rw [if_neg (by decide), if_neg (by decide), hvcpu, hcores, hiops, hcapex, hyears, hpower,
    optionalDecimal_decimal]
  apply ok_then (requiredInteger_number hvcpuLt _)
  apply ok_then (requiredInteger_number hcoresLt _)
  apply ok_then (requiredInteger_number hsafe _)
  apply ok_then (requiredDecimal_decimal resource.hardwareCapexUsd _)
  apply ok_then (requiredDecimal_decimal resource.depreciationYears _)
  rfl

/-- A resource whose numbers are safe is sent with its server name trimmed. -/
theorem requestResource_eq_ok {resource : Resource Decimal96}
    (hhas : Has record (resourceFields resource)) (hsafe : SafeNumbers resource)
    (hcomplete : Complete resource) :
    requestResource toNumber record index = .ok (sentFields (trimmedName resource)) := by
  cases resource with
  | ec2 resource => exact requestEc2_eq_ok index hhas hsafe
  | ec2Vm resource => exact requestEc2Vm_eq_ok index hhas hsafe hcomplete
  | rds resource => exact requestRds_eq_ok index hhas hsafe
  | onPrem resource => exact requestOnPrem_eq_ok index hhas hsafe

end Request

end TcoCalculator.Draft
