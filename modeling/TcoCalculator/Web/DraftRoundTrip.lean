/-
A project opened in the browser and saved unchanged: what is sent reads back as the
project with its server names trimmed.
-/
import TcoCalculator.Web.DraftSaved

namespace TcoCalculator.Draft

open Fallible (ok_then)
open ProjectReading (SafeIops SafeNumbers resourceFields)
open ResourceJson (decimal option)

variable {toNumber : String → Option Int}

/-! ### Opening -/

theorem nullable_eq_option {α : Type} (toJson : α → Json) (value : Option α) :
    nullable toJson value = option toJson value := by
  cases value <;> rfl

theorem textOrNull_option (text : Option String) :
    textOrNull (some (option .string text)) = text := by
  cases text <;> rfl

theorem serverName_self {record : JsRecord} {name : Option String}
    (h : record.member "server_name" = some (option .string name)) :
    record.withMember "server_name" (nullable .string (textOrNull (record.member "server_name"))) =
      record := by
  rw [h, textOrNull_option, nullable_eq_option]
  exact JsRecord.withMember_self h

theorem choice_of_mem {choices : List String} {text : String} (h : text ∈ choices)
    (fallback : String) : choice choices (some (.string text)) fallback = text := if_pos h

theorem asStr_mem (purchaseOption : VmPurchaseOption) :
    purchaseOption.asStr ∈ vmPurchaseOptions := by
  cases purchaseOption <;> decide +kernel

theorem burstPolicy_mem (policy : VmBurstPolicy) : ResourceJson.burstPolicy policy ∈
    ["confirmed_burst_compatible", "requires_sustained_cpu", "unknown", "not_applicable"] := by
  cases policy <;> decide +kernel

theorem instanceStoreUse_mem (use : VmInstanceStoreUse) :
    ResourceJson.instanceStoreUse use ∈ ["unknown", "not_used", "used"] := by
  cases use <;> decide +kernel

theorem highFrequencyRequirement_mem (requirement : VmHighFrequencyRequirement) :
    ResourceJson.highFrequencyRequirement requirement ∈
      ["required", "unknown", "capacity_fit_accepted", "not_applicable"] := by
  cases requirement <;> decide +kernel

theorem parsed_requirements (needs : Ec2VmRequirements Decimal96) :
    (ResourceJson.requirements needs).parsed = ResourceJson.requirements needs := by
  simp only [ResourceJson.requirements, Json.parsed, Json.parsedFields, parsed_option_string,
    parsed_option_decimal, parsed_option_bool]

theorem Has.of_nodup {record : JsRecord} (h : (record.map Prod.fst).Nodup) : Has record record :=
  fun _ hentry => (JsonDocument.lookup_eq_some_of_nodup h).mpr hentry

theorem booleanOrNull_option (flag : Option Bool) :
    booleanOrNull (some (option .bool flag)) = flag := by
  cases flag <;> rfl

/-- The requirements of a virtual machine are opened as they are. -/
theorem editableVmRequirements_eq_ok {needs : Ec2VmRequirements Decimal96} {value : JsRecord}
    (hsku : NamesSku needs.requestedTargetArmSku)
    (hvalue : Has value (membersOf (some (ResourceJson.requirements needs))))
    (instanceType : String) :
    ∃ draft, editableVmRequirements (some (.object value)) (some (.string instanceType)) =
        .ok draft ∧ draft.json = ResourceJson.requirements needs := by
  change Has value [_, _, _, _, _, _] at hvalue
  simp only [Has.cons] at hvalue
  obtain ⟨hburst, hstore, htemp, hloss, hfrequency, htarget, -⟩ := hvalue
  refine ⟨_, rfl, ?_⟩
  simp only [Ec2VmRequirementsDraft.json, hburst, hstore, htemp, hloss, hfrequency, htarget,
    choice_of_mem (burstPolicy_mem _), choice_of_mem (instanceStoreUse_mem _),
    choice_of_mem (highFrequencyRequirement_mem _), optionalDecimal_decimal, booleanOrNull_option,
    optionalText_sku hsku]
  simp only [nullable_eq_option]
  rfl

theorem editableEc2Vm_eq_ok {record : JsRecord} {resource : Ec2VmResource Decimal96}
    (h : Complete (.ec2Vm resource))
    (hserver : record.member "server_name" = some (option .string resource.shared.serverName))
    (htype : record.member "instance_type" = some (.string resource.instanceType))
    (hpurchase : record.member "vm_purchase_option" = some (.string resource.vmPurchaseOption.asStr))
    (hneeds : record.member "requirements" = some (ResourceJson.requirements resource.requirements))
    (hsource : record.member "source_type" = some (.string "ec2_vm")) :
    editableResource (.object record) = .ok record := by
  have hvalue : Has (membersOf (some (ResourceJson.requirements resource.requirements)))
      (membersOf (some (ResourceJson.requirements resource.requirements))) :=
    Has.of_nodup (by simp [membersOf, asRecord, ResourceJson.requirements])
  obtain ⟨draft, hdraft, hjson⟩ := editableVmRequirements_eq_ok h.1 hvalue resource.instanceType
  apply ok_then (show recordOf (some (.object record)) = .ok record from rfl)
  rw [serverName_self hserver]
  dsimp only
  rw [hsource, if_pos (by decide), hpurchase, choice_of_mem (asStr_mem resource.vmPurchaseOption),
    JsRecord.withMember_self hpurchase, hneeds, htype]
  apply ok_then hdraft
  rw [hjson, JsRecord.withMember_self hneeds]
  rfl

theorem editableOther_eq_ok {record : JsRecord} {name : Option String}
    (hserver : record.member "server_name" = some (option .string name))
    (hsource : isText "ec2_vm" (record.member "source_type") = false) :
    editableResource (.object record) = .ok record := by
  apply ok_then (show recordOf (some (.object record)) = .ok record from rfl)
  rw [serverName_self hserver]
  dsimp only
  rw [if_neg (by rw [hsource]; decide)]
  rfl

/-- A resource is opened with its members as they were written. -/
theorem editableResource_eq_ok {resource : Resource Decimal96} (h : Complete resource) :
    editableResource (ResourceJson.resource resource).parsed =
      .ok (Json.parsedFields (resourceFields resource)) := by
  have hserver : JsRecord.member (Json.parsedFields (resourceFields resource)) "server_name" =
      some (option .string resource.shared.serverName) := by
    cases resource <;> exact congrArg some (parsed_option_string _)
  cases resource with
  | ec2Vm resource =>
      exact editableEc2Vm_eq_ok h hserver rfl rfl
        (congrArg some (parsed_requirements resource.requirements)) rfl
  | ec2 resource | rds resource | onPrem resource => exact editableOther_eq_ok hserver rfl

/-! ### Settings -/

def settingsFields (settings : ProjectSettings Decimal96) : JsRecord :=
  membersOf (some (ProjectJson.settings settings))

/-- The months that a request accepts. -/
def AcceptedMonths (months : Option UInt8) : Prop :=
  months = none ∨ months = some 12 ∨ months = some 24 ∨ months = some 36

theorem parsed_months (months : Option UInt8) :
    (option (fun n : UInt8 => Json.number n.toNat) months).parsed =
      option (fun n : UInt8 => Json.number n.toNat) months := by
  cases months with
  | none => rfl
  | some n => exact parsed_number (n.toNat_lt.trans (by decide))

theorem parsed_sqlPayg (sqlPayg : Option (SqlPaygSettings Decimal96)) :
    (option ProjectJson.sqlPayg sqlPayg).parsed = option ProjectJson.sqlPayg sqlPayg := by
  cases sqlPayg with
  | none => rfl
  | some settings =>
      have henterprise : settings.enterpriseLicensedCores.toNat < 2 ^ 53 :=
        settings.enterpriseLicensedCores.toNat_lt.trans (by decide)
      have hstandard : settings.standardLicensedCores.toNat < 2 ^ 53 :=
        settings.standardLicensedCores.toNat_lt.trans (by decide)
      simp only [option, ProjectJson.sqlPayg, Json.parsed, Json.parsedFields, decimal,
        Double.ofInt_natCast, Double.nearest_of_lt henterprise, Double.nearest_of_lt hstandard]

theorem parsedFields_settings (settings : ProjectSettings Decimal96) :
    Json.parsedFields (settingsFields settings) = settingsFields settings := by
  simp only [settingsFields, membersOf, asRecord, ProjectJson.settings, Option.getD_some,
    Json.parsedFields, Json.parsed, parsed_option_string, parsed_option_decimal, parsed_months,
    parsed_sqlPayg, decimal]

theorem requestSqlPayg_eq_ok (sqlPayg : Option (SqlPaygSettings Decimal96)) :
    requestSqlPayg toNumber (some (option ProjectJson.sqlPayg sqlPayg)) =
      .ok (option ProjectJson.sqlPayg sqlPayg) := by
  cases sqlPayg with
  | none => rfl
  | some settings =>
      have henterprise : settings.enterpriseLicensedCores.toNat < 2 ^ 53 :=
        settings.enterpriseLicensedCores.toNat_lt.trans (by decide)
      have hstandard : settings.standardLicensedCores.toNat < 2 ^ 53 :=
        settings.standardLicensedCores.toNat_lt.trans (by decide)
      have htruthy : isTruthy (some (option ProjectJson.sqlPayg (some settings))) = true := rfl
      rw [requestSqlPayg, if_pos htruthy]
      apply ok_then (requiredInteger_number henterprise _)
      apply ok_then (requiredInteger_number hstandard _)
      apply ok_then (requiredDecimal_decimal settings.softwareAssuranceAnnualUsd _)
      rfl

theorem optionalInteger_months (months : Option UInt8) :
    optionalInteger toNumber (some (option (fun n : UInt8 => Json.number n.toNat) months)) =
      .ok (months.map fun n => (n.toNat : Int)) := by
  cases months with
  | none => rfl
  | some n =>
      rw [option, optionalInteger_number,
        requiredInteger_number (n.toNat_lt.trans (by decide))]
      rfl

theorem map_toNat_eq_some {months : Option UInt8} {n : UInt8} :
    months.map (fun n => (n.toNat : Int)) = some (n.toNat : Int) ↔ months = some n := by
  cases months with
  | none => simp
  | some m => simp [UInt8.toNat_inj]

theorem acceptedMonths_iff {months : Option UInt8} :
    (months.map (fun n => (n.toNat : Int)) = none ∨ months.map (fun n => (n.toNat : Int)) = some 12 ∨
      months.map (fun n => (n.toNat : Int)) = some 24 ∨
      months.map (fun n => (n.toNat : Int)) = some 36) ↔ AcceptedMonths months :=
  or_congr Option.map_eq_none_iff
    (or_congr (map_toNat_eq_some (n := 12))
      (or_congr (map_toNat_eq_some (n := 24)) (map_toNat_eq_some (n := 36))))

theorem optionalCoverageMonths_eq_ok {months : Option UInt8} (h : AcceptedMonths months) :
    optionalCoverageMonths toNumber (some (option (fun n : UInt8 => Json.number n.toNat) months)) =
      .ok (months.map fun n => (n.toNat : Int)) := by
  apply ok_then (optionalInteger_months months)
  exact if_pos (acceptedMonths_iff.mpr h)

theorem acceptedMonths_of_ok {months : Option UInt8} {found : Option Int}
    (h : optionalCoverageMonths toNumber
      (some (option (fun n : UInt8 => Json.number n.toNat) months)) = .ok found) :
    AcceptedMonths months := by
  rw [optionalCoverageMonths, optionalInteger_months, Fallible.ok_bind] at h
  by_contra hrefused
  rw [if_neg (fun hsome => hrefused (acceptedMonths_iff.mp hsome))] at h
  cases h

theorem nullable_months (months : Option UInt8) :
    nullable .number (months.map fun n => (n.toNat : Int)) =
      option (fun n : UInt8 => Json.number n.toNat) months := by
  cases months <;> rfl

/-- The settings are sent as they are. -/
theorem requestSettings_eq_ok {settings : ProjectSettings Decimal96} {record : JsRecord}
    (hhas : Has record (settingsFields settings))
    (hmonths : AcceptedMonths settings.remainingCoverageMonths) :
    requestSettings toNumber record = .ok record := by
  change Has record [_, _, _, _, _, _, _, _, _, _, _, _, _, _, _, _, _, _] at hhas
  simp only [Has.cons] at hhas
  obtain ⟨-, -, -, -, hsourceCompute, hsourceLicense, hsourceStorage, hazureCompute, hazureLicense,
    hazureStorage, hparity, hhours, -, henterprise, hstandard, hcoverage, helectricity, hsqlPayg,
    -⟩ := hhas
  apply ok_then (setRequiredDecimal_self _ hsourceCompute hsourceCompute)
  apply ok_then (setRequiredDecimal_self _ hsourceLicense hsourceLicense)
  apply ok_then (setRequiredDecimal_self _ hsourceStorage hsourceStorage)
  apply ok_then (setRequiredDecimal_self _ hazureCompute hazureCompute)
  apply ok_then (setRequiredDecimal_self _ hazureLicense hazureLicense)
  apply ok_then (setRequiredDecimal_self _ hazureStorage hazureStorage)
  apply ok_then (setRequiredDecimal_self _ hparity hparity)
  apply ok_then (setRequiredDecimal_self _ hhours hhours)
  simp only [setOptionalDecimal_self henterprise henterprise,
    setOptionalDecimal_self hstandard hstandard, hcoverage, hsqlPayg]
  apply ok_then (optionalCoverageMonths_eq_ok hmonths)
  simp only [nullable_months, JsRecord.withMember_self hcoverage,
    setOptionalDecimal_self helectricity helectricity]
  apply ok_then (requestSqlPayg_eq_ok settings.sqlPayg)
  rw [JsRecord.withMember_self hsqlPayg]
  rfl

theorem acceptedMonths_of_requestSettings {settings : ProjectSettings Decimal96}
    {record sent : JsRecord} (hhas : Has record (settingsFields settings))
    (h : requestSettings toNumber record = .ok sent) :
    AcceptedMonths settings.remainingCoverageMonths := by
  have hcoverage := hhas ("remaining_coverage_months",
    option (fun n : UInt8 => Json.number n.toNat) settings.remainingCoverageMonths)
    (by simp [settingsFields, membersOf, asRecord, ProjectJson.settings])
  simp only [requestSettings, Fallible.bind_eq_ok] at h
  obtain ⟨_, _, _, _, _, _, _, _, _, _, _, _, _, _, _, _, months, hmonths, _⟩ := h
  rw [hcoverage] at hmonths
  exact acceptedMonths_of_ok hmonths

/-! ### Projects -/

/-- The draft of a project that was opened. -/
def openedDraft (project : EditableProject Decimal96) : ProjectDraft where
  name := project.name
  description := project.description
  settings := settingsFields project.settings
  resources := project.resources.map fun resource => Json.parsedFields (resourceFields resource)
  awsPriceSnapshotId := project.awsPriceSnapshotId
  azurePriceSnapshotId := project.azurePriceSnapshotId

theorem isText_projectType (projectType : ProjectType) :
    (projectTypes.any fun name => isText name (some (.string (ResourceJson.projectType projectType)))) =
      true := by
  cases projectType <;> decide +kernel

theorem mapM_editableResource {resources : List (Resource Decimal96)}
    (h : ∀ resource ∈ resources, Complete resource) :
    (Json.parsedItems (resources.map ResourceJson.resource)).mapM editableResource =
      .ok (resources.map fun resource => Json.parsedFields (resourceFields resource)) := by
  induction resources with
  | nil => rfl
  | cons resource rest ih =>
      rw [List.forall_mem_cons] at h
      rw [List.map_cons, Json.parsedItems, List.mapM_cons, editableResource_eq_ok h.1, ih h.2]
      rfl

/-- A project of the server is opened. -/
theorem editableProject_parsed {project : EditableProject Decimal96}
    (h : ∀ resource ∈ project.resources, Complete resource) :
    editableProject (ProjectJson.editable project).parsed = .ok (some (openedDraft project)) := by
  change (if (projectTypes.any fun projectType => isText projectType
      (JsRecord.member (Json.parsedFields (settingsFields project.settings)) "project_type")) = true
    then do
      let resources ← (Json.parsedItems (project.resources.map ResourceJson.resource)).mapM
        editableResource
      return some ({
        name := project.name
        description := textOrNull (some (option .string project.description).parsed)
        settings := Json.parsedFields (settingsFields project.settings)
        resources
        awsPriceSnapshotId := textOrNull (some (option .string project.awsPriceSnapshotId).parsed)
        azurePriceSnapshotId :=
          textOrNull (some (option .string project.azurePriceSnapshotId).parsed) } : ProjectDraft)
    else return none) = _
  have htype : (settingsFields project.settings).member "project_type" =
      some (.string (ResourceJson.projectType project.settings.projectType)) := rfl
  simp only [parsedFields_settings, parsed_option_string, textOrNull_option, htype]
  rw [if_pos (isText_projectType project.settings.projectType), mapM_editableResource h]
  rfl

theorem mapM_zipIdx_eq_ok {α β γ : Type} {f : α → Nat → Except Thrown β} {g : γ → α} {sent : γ → β}
    {items : List γ} (h : ∀ item ∈ items, ∀ index, f (g item) index = .ok (sent item))
    (start : Nat) :
    (((items.map g).zipIdx start).mapM fun entry => f entry.1 entry.2) = .ok (items.map sent) := by
  induction items generalizing start with
  | nil => rfl
  | cons item rest ih =>
      rw [List.forall_mem_cons] at h
      rw [List.map_cons, List.zipIdx_cons, List.mapM_cons, h.1, ih h.2]
      rfl

/-- The projects that are sent. -/
structure Savable (project : EditableProject Decimal96) : Prop where
  months : AcceptedMonths project.settings.remainingCoverageMonths
  numbers : ∀ resource ∈ project.resources, SafeNumbers resource

def withTrimmedNames (project : EditableProject Decimal96) : EditableProject Decimal96 :=
  { project with resources := project.resources.map trimmedName }

theorem parsed_array {items : List Json} (h : ∀ item ∈ items, item.parsed = item) :
    (Json.array items).parsed = .array items := by
  rw [Json.parsed, Json.parsedItems_eq_map, List.map_congr_left h, List.map_id']

theorem parsedFields_append (front back : List (String × Json)) :
    Json.parsedFields (front ++ back) = Json.parsedFields front ++ Json.parsedFields back := by
  simp only [Json.parsedFields_eq_map, List.map_append]

theorem parsedFields_shared (shared : SharedResource Decimal96) :
    Json.parsedFields (ResourceJson.sharedFields shared) = ResourceJson.sharedFields shared := by
  have hquantity : shared.quantity.toNat < 2 ^ 53 := shared.quantity.toNat_lt.trans (by decide)
  simp only [ResourceJson.sharedFields, Json.parsedFields, parsed_option_string, decimal,
    Json.parsed, Double.ofInt_natCast, Double.nearest_of_lt hquantity]

theorem parsedFields_sql (sql : SqlWorkload Decimal96) :
    Json.parsedFields (ResourceJson.sqlFields sql) = ResourceJson.sqlFields sql := rfl

theorem parsedFields_own {resource : Resource Decimal96} (h : SafeNumbers resource) :
    Json.parsedFields (ResourceJson.ownFields resource) = ResourceJson.ownFields resource := by
  cases resource with
  | ec2 resource =>
      have hvolumes : (Json.array (resource.volumes.map ResourceJson.ebsVolume)).parsed =
          .array (resource.volumes.map ResourceJson.ebsVolume) := by
        apply parsed_array
        rw [List.forall_mem_map]
        exact fun volume hvolume => parsed_ebsVolume (h volume hvolume)
      simp only [ResourceJson.ownFields, parsedFields_append, parsedFields_sql, Json.parsedFields,
        hvolumes]
      rfl
  | ec2Vm resource =>
      have hvolumes : (Json.array (resource.volumes.map ResourceJson.vmVolume)).parsed =
          .array (resource.volumes.map ResourceJson.vmVolume) := by
        apply parsed_array
        rw [List.forall_mem_map]
        exact fun volume hvolume => parsed_vmVolume (h volume hvolume)
      simp only [ResourceJson.ownFields, Json.parsedFields, hvolumes, parsed_requirements]
      rfl
  | rds resource =>
      simp only [ResourceJson.ownFields, parsedFields_append, parsedFields_sql, Json.parsedFields,
        parsed_number h]
      rfl
  | onPrem resource =>
      have hvcpu : resource.sourceVcpu.toNat < 2 ^ 53 :=
        resource.sourceVcpu.toNat_lt.trans (by decide)
      have hcores : resource.licensableCores.toNat < 2 ^ 53 :=
        resource.licensableCores.toNat_lt.trans (by decide)
      simp only [ResourceJson.ownFields, parsedFields_append, parsedFields_sql, Json.parsedFields,
        parsed_number h, parsed_number hvcpu, parsed_number hcores, parsed_option_decimal]
      rfl

theorem parsedFields_resource {resource : Resource Decimal96} (h : SafeNumbers resource) :
    Json.parsedFields (resourceFields resource) = resourceFields resource := by
  rw [resourceFields, List.cons_append, Json.parsedFields, parsedFields_append,
    parsedFields_shared, parsedFields_own h, Json.parsed]

/-- The project that is sent for an opened one. -/
def sentDraft (project : EditableProject Decimal96) : ProjectDraft :=
  { openedDraft project with
    resources := project.resources.map fun resource => sentFields (trimmedName resource) }

theorem projectRequestPayload_eq_ok {project : EditableProject Decimal96}
    (hcomplete : ∀ resource ∈ project.resources, Complete resource) (hsavable : Savable project) :
    projectRequestPayload toNumber (openedDraft project) = .ok (sentDraft project) := by
  have hsettings : Has (settingsFields project.settings) (settingsFields project.settings) :=
    Has.of_nodup (by simp [settingsFields, membersOf, asRecord, ProjectJson.settings])
  apply ok_then (requestSettings_eq_ok hsettings hsavable.months)
  have hresources : ∀ resource ∈ project.resources, ∀ index,
      requestResource toNumber (Json.parsedFields (resourceFields resource)) index =
        .ok (sentFields (trimmedName resource)) := by
    intro resource hresource index
    rw [parsedFields_resource (hsavable.numbers resource hresource)]
    exact requestResource_eq_ok index (Has.self resource) (hsavable.numbers resource hresource)
      (hcomplete resource hresource)
  exact ok_then (mapM_zipIdx_eq_ok hresources 0) rfl

/-! ### What was sent was safe -/

theorem safeNumbers_of_requestEc2 {resource : Ec2Resource Decimal96} {index : Nat} {sent : JsRecord}
    (h : requestResource toNumber (Json.parsedFields (resourceFields (.ec2 resource))) index =
      .ok sent) : SafeNumbers (.ec2 resource) := by
  let record := Json.parsedFields (resourceFields (.ec2 resource))
  have hsource : JsRecord.member record "source_type" = some (.string "ec2") := rfl
  have hvolumes : JsRecord.member record "volumes" =
      some (Json.array (resource.volumes.map ResourceJson.ebsVolume)).parsed := rfl
  change requestResource toNumber record index = .ok sent at h
  rw [requestResource, hsource, hvolumes] at h
  obtain ⟨shared, -, h⟩ := Fallible.bind_eq_ok.mp h
  rw [if_neg (by decide)] at h
  obtain ⟨sql, -, h⟩ := Fallible.bind_eq_ok.mp h
  rw [if_pos (by decide)] at h
  obtain ⟨volumes, hsent, -⟩ := Fallible.bind_eq_ok.mp h
  have heach := exists_of_requestVolumes hsent
  rw [Json.parsedItems_eq_map, List.map_map, List.forall_mem_map] at heach
  intro volume hvolume
  obtain ⟨number, sent, hvolumeSent⟩ := heach volume hvolume
  exact safeIops_of_requestEbsVolume hvolumeSent

theorem safeNumbers_of_requestEc2Vm {resource : Ec2VmResource Decimal96} {index : Nat}
    {sent : JsRecord}
    (h : requestResource toNumber (Json.parsedFields (resourceFields (.ec2Vm resource))) index =
      .ok sent) : SafeNumbers (.ec2Vm resource) := by
  let record := Json.parsedFields (resourceFields (.ec2Vm resource))
  have hsource : JsRecord.member record "source_type" = some (.string "ec2_vm") := rfl
  have hvolumes : JsRecord.member record "volumes" =
      some (Json.array (resource.volumes.map ResourceJson.vmVolume)).parsed := rfl
  change requestResource toNumber record index = .ok sent at h
  rw [requestResource, hsource, hvolumes] at h
  obtain ⟨shared, -, h⟩ := Fallible.bind_eq_ok.mp h
  rw [if_pos (by decide)] at h
  obtain ⟨needs, -, h⟩ := Fallible.bind_eq_ok.mp h
  obtain ⟨volumes, hsent, -⟩ := Fallible.bind_eq_ok.mp h
  have heach := exists_of_requestVolumes hsent
  rw [Json.parsedItems_eq_map, List.map_map, List.forall_mem_map] at heach
  intro volume hvolume
  obtain ⟨number, sent, hvolumeSent⟩ := heach volume hvolume
  exact safeIops_of_requestVmVolume hvolumeSent

theorem safeNumbers_of_requestRds {resource : RdsResource Decimal96} {index : Nat} {sent : JsRecord}
    (h : requestResource toNumber (Json.parsedFields (resourceFields (.rds resource))) index =
      .ok sent) : SafeNumbers (.rds resource) := by
  let record := Json.parsedFields (resourceFields (.rds resource))
  have hsource : JsRecord.member record "source_type" = some (.string "rds") := rfl
  have hiops : JsRecord.member record "source_max_iops" =
      some (Json.number resource.sourceMaxIops.toNat).parsed := rfl
  change requestResource toNumber record index = .ok sent at h
  rw [requestResource, hsource, hiops] at h
  obtain ⟨shared, -, h⟩ := Fallible.bind_eq_ok.mp h
  rw [if_neg (by decide)] at h
  obtain ⟨sql, -, h⟩ := Fallible.bind_eq_ok.mp h
  rw [if_neg (by decide), if_pos (by decide)] at h
  obtain ⟨iops, hsent, -⟩ := Fallible.bind_eq_ok.mp h
  exact lt_of_requiredInteger hsent

theorem safeNumbers_of_requestOnPrem {resource : OnPremResource Decimal96} {index : Nat}
    {sent : JsRecord}
    (h : requestResource toNumber (Json.parsedFields (resourceFields (.onPrem resource))) index =
      .ok sent) : SafeNumbers (.onPrem resource) := by
  let record := Json.parsedFields (resourceFields (.onPrem resource))
  have hsource : JsRecord.member record "source_type" = some (.string "on_prem") := rfl
  have hiops : JsRecord.member record "source_max_iops" =
      some (Json.number resource.sourceMaxIops.toNat).parsed := rfl
  change requestResource toNumber record index = .ok sent at h
  rw [requestResource, hsource, hiops] at h
  obtain ⟨shared, -, h⟩ := Fallible.bind_eq_ok.mp h
  rw [if_neg (by decide)] at h
  obtain ⟨sql, -, h⟩ := Fallible.bind_eq_ok.mp h
  rw [if_neg (by decide), if_neg (by decide)] at h
  obtain ⟨vcpu, -, h⟩ := Fallible.bind_eq_ok.mp h
  obtain ⟨cores, -, h⟩ := Fallible.bind_eq_ok.mp h
  obtain ⟨iops, hsent, -⟩ := Fallible.bind_eq_ok.mp h
  exact lt_of_requiredInteger hsent

theorem safeNumbers_of_requestResource {resource : Resource Decimal96} {index : Nat}
    {sent : JsRecord}
    (h : requestResource toNumber (Json.parsedFields (resourceFields resource)) index = .ok sent) :
    SafeNumbers resource := by
  cases resource with
  | ec2 resource => exact safeNumbers_of_requestEc2 h
  | ec2Vm resource => exact safeNumbers_of_requestEc2Vm h
  | rds resource => exact safeNumbers_of_requestRds h
  | onPrem resource => exact safeNumbers_of_requestOnPrem h

theorem savable_of_ok {project : EditableProject Decimal96} {payload : ProjectDraft}
    (h : projectRequestPayload toNumber (openedDraft project) = .ok payload) : Savable project := by
  obtain ⟨settings, hsettings, h⟩ := Fallible.bind_eq_ok.mp h
  obtain ⟨resources, hresources, -⟩ := Fallible.bind_eq_ok.mp h
  constructor
  · exact acceptedMonths_of_requestSettings
      (Has.of_nodup (by simp [settingsFields, membersOf, asRecord, ProjectJson.settings])) hsettings
  · intro resource hresource
    obtain ⟨index, hindex⟩ := List.mem_iff_getElem?.mp (List.mem_map_of_mem hresource)
    obtain ⟨sent, hsent⟩ := Fallible.returns_of_mapM hresources
      (List.mk_mem_zipIdx_iff_getElem?.mpr hindex)
    exact safeNumbers_of_requestResource hsent

/-! ### Valid projects -/

theorem complete_of_ec2VmIssues {lead : String} {volumeIds : List Uuid}
    {resource : Ec2VmResource Decimal96}
    (h : ProjectValidation.ec2VmIssues lead volumeIds resource = []) :
    Complete (.ec2Vm resource) := by
  have hadmitted := ProjectValidation.ec2VmAdmitted_of_issues h
  simp only [ProjectValidation.ec2VmIssues, List.append_eq_nil_iff] at h
  obtain ⟨⟨⟨⟨-, hneeds⟩, -⟩, -⟩, hvolumes⟩ := h
  constructor
  · intro text htext
    simp only [ProjectValidation.requirementsIssues, List.append_eq_nil_iff,
      ProjectValidation.issueWhen_eq_nil, htext, Option.any_some, Bool.not_eq_false'] at hneeds
    exact hneeds.2
  · intro volume hvolume
    obtain ⟨_, _, hcheck⟩ := ProjectValidation.check_of_volumesIssues hvolumes volume hvolume
    simp only [ProjectValidation.vmVolumeIssues, ProjectValidation.volumePerformanceIssues,
      List.append_eq_nil_iff, ProjectValidation.issueWhen_eq_nil] at hcheck
    have hpersistent := hadmitted.persistent volume hvolume
    have hsome : volume.provisionedIops.isSome = true := by
      simpa [hpersistent] using hcheck.2.1
    exact Option.isSome_iff_exists.mp hsome

theorem complete_of_validate {project : EditableProject Decimal96} (h : project.validate = []) :
    ∀ resource ∈ project.resources, Complete resource := by
  rw [EditableProject.validate, List.append_eq_nil_iff] at h
  intro resource hresource
  obtain ⟨_, _, _, hchecked⟩ := ProjectValidation.checked_of_resourcesIssues h.2 resource hresource
  cases resource with
  | ec2Vm resource => exact complete_of_ec2VmIssues (List.append_eq_nil_iff.mp hchecked).2
  | ec2 resource | rds resource | onPrem resource => trivial

/-- What is sent for an opened project reads back as the project with its server names
trimmed. -/
theorem editableProject_sentDraft {library : ScalarLibrary Decimal96}
    (hids : ProjectReading.ReadsIds library) {project : EditableProject Decimal96}
    (hsavable : Savable project) :
    ProjectReading.editableProject library (sentDraft project).json.stringified =
      some (withTrimmedNames project) := by
  have hsafe : ∀ found ∈ (withTrimmedNames project).resources, SafeNumbers found := by
    rw [withTrimmedNames, List.forall_mem_map]
    intro resource hresource
    have hnumbers := hsavable.numbers resource hresource
    cases resource <;> exact hnumbers
  have hitems : ProjectReading.ReorderedResources (withTrimmedNames project).resources
      ((project.resources.map fun resource => sentFields (trimmedName resource)).map .object) := by
    rw [withTrimmedNames, List.map_map, ProjectReading.ReorderedResources, List.forall₂_map_left_iff,
      List.forall₂_map_right_iff, List.forall₂_same]
    exact fun resource _ => ⟨_, rfl, sentFields_perm _⟩
  have hread := ProjectReading.editableProject_stringified hids hsafe hitems
  simp only [ProjectDraft.json, nullable_eq_option]
  exact hread

end TcoCalculator.Draft
