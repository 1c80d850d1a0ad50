/-
The fields of a draft in the project that is made of it.
-/
import TcoCalculator.Assistant.DraftStaging

namespace TcoCalculator.Resource

variable {D : Type}

def rds? : Resource D → Option (RdsResource D)
  | .rds resource => some resource
  | _ => none

def onPrem? : Resource D → Option (OnPremResource D)
  | .onPrem resource => some resource
  | _ => none

def ec2Vm? : Resource D → Option (Ec2VmResource D)
  | .ec2Vm resource => some resource
  | _ => none

/-- The machine a resource runs on, where its provider names one. -/
def instanceType? : Resource D → Option String
  | .ec2 resource => some resource.instanceType
  | .ec2Vm resource => some resource.instanceType
  | .rds resource => some resource.instanceType
  | .onPrem _ => none

def sourceMaxIops? : Resource D → Option UInt64
  | .rds resource => some resource.sourceMaxIops
  | .onPrem resource => some resource.sourceMaxIops
  | .ec2 _ | .ec2Vm _ => none

/-- A volume of a virtual machine without its role. -/
def volumeOfVm (volume : VmVolume D) : EbsVolume D where
  id := volume.id
  label := volume.label
  awsVolumeId := volume.awsVolumeId
  volumeType := volume.volumeType
  capacityGb := volume.capacityGb
  provisionedIops := volume.provisionedIops
  throughputMibps := volume.throughputMibps

def volumes? : Resource D → Option (List (EbsVolume D))
  | .ec2 resource => some resource.volumes
  | .ec2Vm resource => some (resource.volumes.map volumeOfVm)
  | .rds _ | .onPrem _ => none

end TcoCalculator.Resource

namespace TcoCalculator.Assistant

section Fields

variable {D : Type} [DecimalArith D] {host : Host D} {context : TurnContext}

/-! ### Places for fields -/

/-- A value that was supplied stands at its place.  Nothing stands for a place that
the project does not have, where no supplied value appears. -/
def Appears {α : Type} (supplied place : Option α) : Prop :=
  ∀ given, supplied = some given → place = some given

namespace Appears

variable {α : Type}

@[simp] theorem none_iff {supplied : Option α} : Appears supplied none ↔ supplied = none := by
  cases supplied <;> simp [Appears]

@[simp] theorem of_none (place : Option α) : Appears none place := fun _ h => nomatch h

@[simp] theorem some_getD (supplied : Option α) (default : α) :
    Appears supplied (some (supplied.getD default)) :=
  fun given h => by rw [h, Option.getD_some]

@[simp] theorem some_or_getD (supplied fallback : Option α) (default : α) :
    Appears supplied (some ((supplied.or fallback).getD default)) :=
  fun given h => by rw [h, Option.some_or, Option.getD_some]

@[simp] theorem or (supplied default : Option α) : Appears supplied (supplied.or default) :=
  fun given h => by rw [h, Option.some_or]

@[simp] theorem self (supplied : Option α) : Appears supplied supplied := fun _ h => h

end Appears

structure VolumeAppears (input : NewVolumeInput D) (volume : EbsVolume D) : Prop where
  label : Appears input.label (some volume.label)
  awsVolumeId : Appears input.awsVolumeId volume.awsVolumeId
  volumeType : Appears input.volumeType (some volume.volumeType)
  capacityGb : Appears input.capacityGb (some volume.capacityGb)
  provisionedIops : Appears input.provisionedIops volume.provisionedIops
  throughputMibps : Appears input.throughputMibps volume.throughputMibps

/-- Every field supplied for a resource stands in the resource. -/
structure ResourceAppears (input : NewResourceInput D) (resource : Resource D) : Prop where
  sourceType : resource.projectType = input.sourceType
  workloadName : Appears input.workloadName (some resource.shared.workloadName)
  quantity : Appears input.quantity (some resource.shared.quantity)
  sourceRamGbPerInstance :
    Appears input.sourceRamGbPerInstance (some resource.shared.sourceRamGbPerInstance)
  annualHoursPerInstance :
    Appears input.annualHoursPerInstance (some resource.shared.annualHoursPerInstance)
  sqlEdition : Appears input.sqlEdition (resource.sql.map SqlWorkload.sqlEdition)
  licenseBasis : Appears input.licenseBasis (resource.sql.map SqlWorkload.licenseBasis)
  sqlDataGbPerInstance :
    Appears input.sqlDataGbPerInstance (resource.sql.map SqlWorkload.sqlDataGbPerInstance)
  miPurchaseOption :
    Appears input.miPurchaseOption (resource.sql.map SqlWorkload.miPurchaseOption)
  vmPurchaseOption :
    Appears input.vmPurchaseOption (resource.ec2Vm?.map Ec2VmResource.vmPurchaseOption)
  instanceType : Appears input.instanceType resource.instanceType?
  volumes : ∀ given, input.volumes = some given → ∃ volumes, resource.volumes? = some volumes ∧
    List.Forall₂ VolumeAppears given volumes
  deployment : Appears input.deployment (resource.rds?.map RdsResource.deployment)
  commercialTerm : Appears input.commercialTerm (resource.rds?.map RdsResource.commercialTerm)
  storageClass : Appears input.storageClass (resource.rds?.map RdsResource.storageClass)
  sourceVcpu : Appears input.sourceVcpu (resource.onPrem?.map OnPremResource.sourceVcpu)
  licensableCores :
    Appears input.licensableCores (resource.onPrem?.map OnPremResource.licensableCores)
  sourceMaxIops : Appears input.sourceMaxIops resource.sourceMaxIops?
  hardwareCapexUsd :
    Appears input.hardwareCapexUsd (resource.onPrem?.map OnPremResource.hardwareCapexUsd)
  depreciationYears :
    Appears input.depreciationYears (resource.onPrem?.map OnPremResource.depreciationYears)
  averagePowerKwOverride : Appears input.averagePowerKwOverride
    (resource.onPrem?.bind OnPremResource.averagePowerKwOverride)

structure SqlPaygAppears (input : NewSqlPaygSettingsInput D) (settings : SqlPaygSettings D) :
    Prop where
  enterpriseLicensedCores :
    Appears input.enterpriseLicensedCores (some settings.enterpriseLicensedCores)
  standardLicensedCores :
    Appears input.standardLicensedCores (some settings.standardLicensedCores)
  softwareAssuranceAnnualUsd :
    Appears input.softwareAssuranceAnnualUsd (some settings.softwareAssuranceAnnualUsd)

structure SettingsAppear (input : NewProjectSettingsInput D) (settings : ProjectSettings D) :
    Prop where
  awsRegion : Appears input.awsRegion settings.awsRegion
  azureRegion : Appears input.azureRegion (some settings.azureRegion)
  sourceComputeDiscount :
    Appears input.sourceComputeDiscount (some settings.sourceComputeDiscount)
  sourceLicenseDiscount :
    Appears input.sourceLicenseDiscount (some settings.sourceLicenseDiscount)
  sourceStorageDiscount :
    Appears input.sourceStorageDiscount (some settings.sourceStorageDiscount)
  azureComputeDiscount : Appears input.azureComputeDiscount (some settings.azureComputeDiscount)
  azureLicenseDiscount : Appears input.azureLicenseDiscount (some settings.azureLicenseDiscount)
  azureStorageDiscount : Appears input.azureStorageDiscount (some settings.azureStorageDiscount)
  selectedParityAdjustment :
    Appears input.selectedParityAdjustment (some settings.selectedParityAdjustment)
  defaultAnnualHours : Appears input.defaultAnnualHours (some settings.defaultAnnualHours)
  defaultMiPurchaseOption :
    Appears input.defaultMiPurchaseOption (some settings.defaultMiPurchaseOption)
  enterpriseLicenseSaUsdPerTwoCorePack : Appears input.enterpriseLicenseSaUsdPerTwoCorePack
    settings.enterpriseLicenseSaUsdPerTwoCorePack
  standardLicenseSaUsdPerTwoCorePack : Appears input.standardLicenseSaUsdPerTwoCorePack
    settings.standardLicenseSaUsdPerTwoCorePack
  remainingCoverageMonths :
    Appears input.remainingCoverageMonths settings.remainingCoverageMonths
  electricityRateUsdPerKwh :
    Appears input.electricityRateUsdPerKwh settings.electricityRateUsdPerKwh
  sqlPayg : ∀ given, input.sqlPayg = some given →
    ∃ kept, settings.sqlPayg = some kept ∧ SqlPaygAppears given kept

/-- Every field of a draft stands in the project, the resources at their positions. -/
structure DraftAppears (input : StageNewProjectDraftInput D) (project : EditableProject D) :
    Prop where
  settings : SettingsAppear input.settings project.settings
  resources : ∀ (index : Nat) given, input.resources[index]? = some given →
    ∃ resource, project.resources[index]? = some resource ∧ ResourceAppears given resource

/-! ### Resources -/

omit [DecimalArith D] in
theorem forall₂_mapIdx {α β : Type} {R : α → β → Prop} {f : Nat → α → β}
    (h : ∀ index a, R a (f index a)) (xs : List α) : List.Forall₂ R xs (xs.mapIdx f) := by
  induction xs generalizing f with
  | nil => simp
  | cons x rest ih =>
      rw [List.mapIdx_cons]
      exact .cons (h 0 x) (ih fun index a => h (index + 1) a)

theorem newVolume_appears (id : Uuid) (input : NewVolumeInput D) :
    VolumeAppears input (newVolume id input) :=
  ⟨Appears.some_getD _ _, Appears.self _, Appears.some_getD _ _, Appears.some_getD _ _,
    Appears.or _ _, Appears.self _⟩

theorem newVmVolume_appears (id : Uuid) (input : NewVolumeInput D) (index : Nat) :
    VolumeAppears input (Resource.volumeOfVm (newVmVolume id input index)) where
  label := fun given h => by simp [Resource.volumeOfVm, newVmVolume, newVolume, h]
  awsVolumeId := Appears.self _
  volumeType := fun given h => by simp [Resource.volumeOfVm, newVmVolume, newVolume, h]
  capacityGb := Appears.some_getD _ _
  provisionedIops := Appears.or _ _
  throughputMibps := Appears.self _

/-- Of what is accepted for a resource, the maximum IOPS of an EC2 source and an empty
list of volumes of a virtual machine have no place in it. -/
theorem resourceAppears_iff {memory : String → Option D} {freshId : Nat → Uuid}
    {input : NewResourceInput D} {resource : Resource D}
    (h : newResource memory freshId input = some resource)
    (hfields : input.fieldsMatchSourceType = true) :
    ResourceAppears input resource ↔
      (isEc2Source input.sourceType = true → input.sourceMaxIops = none) ∧
      (input.sourceType = .ec2Vm → input.volumes ≠ some []) := by
  simp only [newResource] at h
  cases hsource : input.sourceType with
  | ec2 =>
      simp only [hsource, Option.some.injEq] at h
      subst h
      simp only [NewResourceInput.fieldsMatchSourceType, hsource, Option.not_isSome, Bool.not_or,
        Bool.and_eq_true, Option.isNone_iff_eq_none] at hfields
      constructor
      · intro happears
        exact ⟨fun _ => Appears.none_iff.mp happears.sourceMaxIops, fun hvm => (by cases hvm)⟩
      · rintro ⟨hiops, -⟩
        replace hiops := hiops rfl
        constructor
        case volumes =>
          intro given hgiven
          refine ⟨_, rfl, ?_⟩
          rw [hgiven, Option.getD_some]
          exact forall₂_mapIdx (fun index volume => newVolume_appears _ volume) given
        all_goals simp [Resource.projectType, Resource.shared, newShared, Resource.sql, newSql,
          Resource.ec2Vm?, Resource.rds?, Resource.onPrem?, Resource.instanceType?,
          Resource.sourceMaxIops?, hsource, hfields, hiops]
  | ec2Vm =>
      simp only [hsource, Option.some.injEq] at h
      subst h
      simp only [NewResourceInput.fieldsMatchSourceType, hsource, Option.not_isSome, Bool.not_or,
        Bool.and_eq_true, Option.isNone_iff_eq_none] at hfields
      constructor
      · intro happears
        refine ⟨fun _ => Appears.none_iff.mp happears.sourceMaxIops, fun _ hempty => ?_⟩
        obtain ⟨volumes, hvolumes, hall⟩ := happears.volumes [] hempty
        obtain rfl := List.forall₂_nil_left_iff.mp hall
        simp [Resource.volumes?, hempty] at hvolumes
      · rintro ⟨hiops, hvolumes⟩
        replace hiops := hiops rfl
        replace hvolumes := hvolumes rfl
        constructor
        case volumes =>
          intro given hgiven
          refine ⟨_, rfl, ?_⟩
          cases given with
          | nil => exact absurd hgiven hvolumes
          | cons first rest =>
              rw [hgiven, List.forall₂_map_right_iff]
              exact forall₂_mapIdx (f := fun index volume => newVmVolume (freshId (index + 1))
                volume index) (fun index volume => newVmVolume_appears _ volume index) _
        all_goals simp [Resource.projectType, Resource.shared, newShared, Resource.sql,
          Resource.ec2Vm?, Resource.rds?, Resource.onPrem?, Resource.instanceType?,
          Resource.sourceMaxIops?, hsource, hfields, hiops]
  | rds =>
      simp only [hsource, Option.some.injEq] at h
      subst h
      simp only [NewResourceInput.fieldsMatchSourceType, hsource, Option.not_isSome, Bool.not_or,
        Bool.and_eq_true, Option.isNone_iff_eq_none] at hfields
      refine iff_of_true ?_ ⟨fun hec2 => (by cases hec2), fun hvm => (by cases hvm)⟩
      constructor
      all_goals simp [Resource.projectType, Resource.shared, newShared, Resource.sql, newSql,
        Resource.ec2Vm?, Resource.rds?, Resource.onPrem?, Resource.instanceType?,
        Resource.sourceMaxIops?, hsource, hfields]
  | onPrem =>
      simp only [hsource, Option.some.injEq] at h
      subst h
      simp only [NewResourceInput.fieldsMatchSourceType, hsource, Option.not_isSome, Bool.not_or,
        Bool.and_eq_true, Option.isNone_iff_eq_none] at hfields
      refine iff_of_true ?_ ⟨fun hec2 => (by cases hec2), fun hvm => (by cases hvm)⟩
      constructor
      all_goals simp [Resource.projectType, Resource.shared, newShared, Resource.sql, newSql,
        Resource.ec2Vm?, Resource.rds?, Resource.onPrem?, Resource.instanceType?,
        Resource.sourceMaxIops?, hsource, hfields]
  | sqlPayg => simp [hsource] at h

/-! ### Drafts -/

theorem settingsAppear_iff (projectType : ProjectType) (input : NewProjectSettingsInput D) :
    SettingsAppear input (newSettings projectType input) ↔
      (input.awsRegion = none ∨ projectType ∈ [.ec2, .ec2Vm, .rds]) ∧
      (input.sqlPayg = none ∨ projectType = .sqlPayg) := by
  have hregion : Appears input.awsRegion (newSettings projectType input).awsRegion ↔
      input.awsRegion = none ∨ projectType ∈ [.ec2, .ec2Vm, .rds] := by
    cases projectType <;> simp [newSettings]
  have hpayg : (∀ given, input.sqlPayg = some given →
      ∃ kept, (newSettings projectType input).sqlPayg = some kept ∧ SqlPaygAppears given kept) ↔
        input.sqlPayg = none ∨ projectType = .sqlPayg := by
    by_cases htype : projectType = .sqlPayg
    · refine iff_of_true (fun given hgiven => ?_) (.inr htype)
      refine ⟨newSqlPayg input.sqlPayg, by simp [newSettings, htype], ?_⟩
      rw [hgiven]
      exact ⟨Appears.some_getD _ _, Appears.some_getD _ _, Appears.some_getD _ _⟩
    · cases hgiven : input.sqlPayg <;> simp [newSettings, htype]
  rw [← hregion, ← hpayg]
  refine ⟨fun h => ⟨h.awsRegion, h.sqlPayg⟩, fun h => ?_⟩
  constructor
  case awsRegion => exact h.1
  case sqlPayg => exact h.2
  all_goals simp [newSettings]

/-- What a draft may supply and its project has a place for: an AWS region where the
source is on AWS, pay-as-you-go settings where the project is of that type, maximum
IOPS where the source is not EC2, and volumes of a virtual machine if there are any. -/
structure FieldsHavePlaces (input : StageNewProjectDraftInput D) : Prop where
  awsRegion : input.settings.awsRegion = none ∨ input.projectType ∈ [.ec2, .ec2Vm, .rds]
  sqlPayg : input.settings.sqlPayg = none ∨ input.projectType = .sqlPayg
  sourceMaxIops : ∀ resource ∈ input.resources,
    isEc2Source input.projectType = true → resource.sourceMaxIops = none
  volumes : ∀ resource ∈ input.resources,
    input.projectType = .ec2Vm → resource.volumes ≠ some []

/-- A draft that is accepted and staged loses no field exactly when the project has a
place for each. -/
theorem draft_fields_appear_iff {definition : ToolDefinition} {arguments action : String}
    {input : StageNewProjectDraftInput D} {history later : History D}
    {project : EditableProject D} {omissions uncertainties : List String}
    (hparse : parseInput host.jsonLibrary definition arguments = .ok (.stageNewProjectDraft input))
    (hdispatch : dispatch host context (.stageNewProjectDraft input) history =
      (.ok (.staged (some (.newProjectDraft ⟨action, project⟩)) omissions uncertainties), later)) :
    DraftAppears input project ↔ FieldsHavePlaces input := by
  obtain ⟨haccepted, hproject, -⟩ := dispatch_eq_newProjectDraft hparse hdispatch
  have hsettings := settingsAppear_iff input.projectType input.settings
  rw [← (newProjectDraft_eq_some hproject).1] at hsettings
  have hresource : ∀ (index : Nat) given, input.resources[index]? = some given →
      ∃ resource, project.resources[index]? = some resource ∧ (ResourceAppears given resource ↔
        (isEc2Source input.projectType = true → given.sourceMaxIops = none) ∧
        (input.projectType = .ec2Vm → given.volumes ≠ some [])) := by
    intro index given hgiven
    have hmem := List.mem_of_getElem? hgiven
    obtain ⟨hsource, hfields⟩ := haccepted given hmem
    have hpayg : input.projectType ≠ .sqlPayg := by
      intro hpayg
      simp [NewResourceInput.fieldsMatchSourceType, hsource, hpayg] at hfields
    have hmade := newProjectDraft_getElem? hproject index
    rw [draftResources, if_neg hpayg, if_neg (List.ne_nil_of_mem hmem), hgiven, Option.map_some,
      eq_comm, Option.map_eq_some_iff] at hmade
    obtain ⟨resource, hat, hmade⟩ := hmade
    rw [← hsource]
    exact ⟨resource, hat, resourceAppears_iff hmade.symm hfields⟩
  constructor
  · rintro ⟨hkept, happears⟩
    obtain ⟨hregion, hpayg⟩ := hsettings.mp hkept
    have heach : ∀ given ∈ input.resources,
        (isEc2Source input.projectType = true → given.sourceMaxIops = none) ∧
        (input.projectType = .ec2Vm → given.volumes ≠ some []) := by
      intro given hgiven
      obtain ⟨index, hindex⟩ := List.mem_iff_getElem?.mp hgiven
      obtain ⟨resource, hat, hiff⟩ := hresource index given hindex
      obtain ⟨resource', hat', hthere⟩ := happears index given hindex
      obtain rfl := Option.some.inj (hat.symm.trans hat')
      exact hiff.mp hthere
    exact ⟨hregion, hpayg, fun given hgiven => (heach given hgiven).1,
      fun given hgiven => (heach given hgiven).2⟩
  · intro hplaces
    refine ⟨hsettings.mpr ⟨hplaces.awsRegion, hplaces.sqlPayg⟩, fun index given hgiven => ?_⟩
    obtain ⟨resource, hat, hiff⟩ := hresource index given hgiven
    have hmem := List.mem_of_getElem? hgiven
    exact ⟨resource, hat,
      hiff.mpr ⟨hplaces.sourceMaxIops given hmem, hplaces.volumes given hmem⟩⟩

end Fields

namespace FieldsWitness

open DecimalArith DraftWitness

/-- An EC2 source of 64 GB, with or without its maximum IOPS. -/
def source (sourceMaxIops : Option UInt64) : NewResourceInput Decimal96 :=
  { starterResource .ec2 with
    sourceRamGbPerInstance := some (ofNat 64)
    sourceMaxIops := sourceMaxIops }

def sourceJson (sourceMaxIops : Option UInt64) : Json := .object [
  ("source_max_iops", ResourceJson.option (fun iops => .number iops.toNat) sourceMaxIops),
  ("source_ram_gb_per_instance", .string "64"),
  ("source_type", .string "ec2")]

def sourceFields (sourceMaxIops : Option UInt64) : List (String × Json) :=
  draftFields .ec2 [sourceJson sourceMaxIops] []

def sourceDraft (sourceMaxIops : Option UInt64) : StageNewProjectDraftInput Decimal96 :=
  draft .ec2 [source sourceMaxIops] []

def sourceHost (sourceMaxIops : Option UInt64) : Host Decimal96 :=
  draftHost (.object (sourceFields sourceMaxIops)) (sourceDraft sourceMaxIops)

theorem parseInput_source (sourceMaxIops : Option UInt64) :
    parseInput (sourceHost sourceMaxIops).jsonLibrary draftTool
      (Json.object (sourceFields sourceMaxIops)).render =
        .ok (.stageNewProjectDraft (sourceDraft sourceMaxIops)) :=
  parseInput_draft (normalize_draftFields (by cases sourceMaxIops <;> rfl)) rfl rfl rfl

def sourceProject : EditableProject Decimal96 where
  name := "SQL TCO estimate"
  description := none
  settings := newSettings .ec2 noSettings
  resources := (newResource (fun _ => none) (fun volume => ⟨BitVec.ofNat 128 volume⟩)
    (source none)).toList
  awsPriceSnapshotId := none
  azurePriceSnapshotId := none

/-- The project is the same with the maximum IOPS and without. -/
theorem dispatch_source (sourceMaxIops : Option UInt64) :
    dispatch (sourceHost sourceMaxIops) newContext
      (.stageNewProjectDraft (sourceDraft sourceMaxIops)) [] =
        (.ok (.staged (some (.newProjectDraft ⟨"open_project_draft", sourceProject⟩)) []
          ([] ++ assumptionNotes (sourceDraft sourceMaxIops))), []) :=
  dispatch_stageNewProjectDraft rfl rfl rfl (by decide +kernel)

end FieldsWitness

open FieldsWitness DraftWitness in
/-- The fields of an EC2 source without its maximum IOPS all appear. -/
theorem draft_fields_appear_source : DraftAppears (sourceDraft none) sourceProject :=
  (draft_fields_appear_iff (parseInput_source none) (dispatch_source none)).mpr
    ⟨.inl rfl, .inl rfl, fun _ hresource _ => List.mem_singleton.mp hresource ▸ rfl,
      fun _ _ hvm => (nomatch hvm)⟩

open FieldsWitness DraftWitness in
/-- The maximum IOPS of an EC2 source are accepted and dropped. -/
theorem source_max_iops_dropped :
    parseInput (sourceHost (some 5000)).jsonLibrary draftTool
        (Json.object (sourceFields (some 5000))).render =
          .ok (.stageNewProjectDraft (sourceDraft (some 5000))) ∧
      dispatch (sourceHost (some 5000)) newContext
        (.stageNewProjectDraft (sourceDraft (some 5000))) [] =
          (.ok (.staged (some (.newProjectDraft ⟨"open_project_draft", sourceProject⟩)) []
            ([] ++ assumptionNotes (sourceDraft (some 5000)))), []) ∧
      ¬ DraftAppears (sourceDraft (some 5000)) sourceProject := by
  refine ⟨parseInput_source _, dispatch_source _, fun happears => ?_⟩
  obtain ⟨resource, hresource, hthere⟩ := happears.resources 0 (source (some 5000)) rfl
  obtain rfl := Option.some.inj hresource
  exact absurd (hthere.sourceMaxIops 5000 rfl) (by decide)

end TcoCalculator.Assistant
