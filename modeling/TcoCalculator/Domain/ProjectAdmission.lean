/-
What a project without validation issues is known to hold.
-/
import TcoCalculator.Domain.Project

namespace TcoCalculator

open DecimalArith

namespace ProjectValidation

variable {D : Type} [DecimalArith D]

@[simp] theorem issueWhen_eq_nil {failed : Bool} {pointer code message : String} :
    issueWhen failed pointer code message = [] ↔ failed = false := by
  cases failed <;> simp [issueWhen]

theorem validateDecimalRange_eq_nil {pointer message : String} {number minimum maximum : D}
    {minimumExclusive : Bool} :
    validateDecimalRange pointer number minimum maximum minimumExclusive message = [] ↔
      (if minimumExclusive then value minimum < value number
        else value minimum ≤ value number) ∧ value number ≤ value maximum := by
  cases minimumExclusive <;> simp [validateDecimalRange]

/-! ### Resources -/

structure SharedAdmitted (shared : SharedResource D) : Prop where
  quantity : 1 ≤ shared.quantity ∧ shared.quantity ≤ 10000
  sourceRam : value (zero : D) < value shared.sourceRamGbPerInstance ∧
    value shared.sourceRamGbPerInstance ≤ value (ofNat 1000000 : D)
  annualHours : value (zero : D) ≤ value shared.annualHoursPerInstance ∧
    value shared.annualHoursPerInstance ≤ value (ofNat 8784 : D)

structure SqlAdmitted (sql : SqlWorkload D) : Prop where
  sqlData : value (zero : D) ≤ value sql.sqlDataGbPerInstance ∧
    value sql.sqlDataGbPerInstance ≤ value (ofNat 1000000000 : D)

structure Ec2Admitted (resource : Ec2Resource D) : Prop where
  volumeCount : 1 ≤ resource.volumes.length ∧ resource.volumes.length ≤ 50
  capacity : ∀ volume ∈ resource.volumes, 0 ≤ value volume.capacityGb
  throughput : ∀ volume ∈ resource.volumes, ∀ mibps, volume.throughputMibps = some mibps →
    0 ≤ value mibps

structure Ec2VmAdmitted (resource : Ec2VmResource D) : Prop where
  volumeCount : 1 ≤ resource.volumes.length ∧ resource.volumes.length ≤ 50
  osVolume : (resource.volumes.filter fun volume => volume.role == .os).length = 1
  capacity : ∀ volume ∈ resource.volumes, 0 ≤ value volume.capacityGb
  persistent : ∀ volume ∈ resource.volumes, volume.volumeType ≠ .ephemeral
  throughput : ∀ volume ∈ resource.volumes, ∀ mibps, volume.throughputMibps = some mibps →
    0 ≤ value mibps

structure OnPremAdmitted (resource : OnPremResource D) : Prop where
  sourceVcpu : 1 ≤ resource.sourceVcpu ∧ resource.sourceVcpu ≤ 100000
  licensableCores : 1 ≤ resource.licensableCores ∧ resource.licensableCores ≤ 100000
  hardwareCapex : 0 ≤ value resource.hardwareCapexUsd
  depreciationYears : value (zero : D) < value resource.depreciationYears ∧
    value resource.depreciationYears ≤ value (ofNat 50 : D)

/-- What is known of a resource by its kind. -/
def KindAdmitted : Resource D → Prop
  | .ec2 resource => Ec2Admitted resource
  | .ec2Vm resource => Ec2VmAdmitted resource
  | .rds _ => True
  | .onPrem resource => OnPremAdmitted resource

structure ResourceAdmitted (projectType : ProjectType) (resource : Resource D) : Prop where
  projectType_eq : resource.projectType = projectType
  shared : SharedAdmitted resource.shared
  sql : ∀ sql, resource.sql = some sql → SqlAdmitted sql
  kind : KindAdmitted resource

/-- Every volume was checked against some earlier volumes. -/
theorem check_of_volumesIssues {V : Type} {idOf : V → Uuid}
    {check : String → List Uuid → V → List ValidationIssue} {lead : String} {index : Nat}
    {seen : List Uuid} {volumes : List V}
    (h : volumesIssues idOf check lead index seen volumes = []) :
    ∀ volume ∈ volumes, ∃ lead' seen', check lead' seen' volume = [] := by
  induction volumes generalizing index seen with
  | nil => exact fun volume hmem => nomatch hmem
  | cons first rest ih =>
      obtain ⟨hfirst, hrest⟩ := List.append_eq_nil_iff.mp h
      intro volume hmem
      rcases List.mem_cons.mp hmem with rfl | hmem
      · exact ⟨_, _, hfirst⟩
      · exact ih hrest volume hmem

theorem sharedAdmitted_of_issues {lead : String} {resourceIds : List Uuid}
    {shared : SharedResource D} {sql : Option (SqlWorkload D)}
    (h : sharedIssues lead resourceIds shared sql = []) : SharedAdmitted shared := by
  simp only [sharedIssues, List.append_eq_nil_iff, issueWhen_eq_nil,
    validateDecimalRange_eq_nil] at h
  obtain ⟨⟨⟨⟨_, hquantity⟩, _⟩, hram⟩, hhours⟩ := h
  constructor
  · simpa using hquantity
  · simpa using hram
  · simpa using hhours

theorem sqlAdmitted_of_issues {lead : String} {resourceIds : List Uuid}
    {shared : SharedResource D} {sql : SqlWorkload D}
    (h : sharedIssues lead resourceIds shared (some sql) = []) : SqlAdmitted sql := by
  simp only [sharedIssues, sqlIssues, List.append_eq_nil_iff, issueWhen_eq_nil,
    validateDecimalRange_eq_nil] at h
  obtain ⟨⟨⟨_, hdata⟩, _⟩, _⟩ := h
  exact ⟨by simpa using hdata⟩

theorem volumeCount_of_issues {lead message : String} {count : Nat}
    (h : volumeCountIssues lead count message = []) : 1 ≤ count ∧ count ≤ 50 := by
  simpa [volumeCountIssues] using h

theorem capacity_of_issues {lead : String} {seen : List Uuid} {id : Uuid} {label : String}
    {awsVolumeId : Option String} {capacityGb : D}
    (h : volumeLabelIssues lead seen id label awsVolumeId capacityGb = []) :
    0 ≤ value capacityGb := by
  simp only [volumeLabelIssues, List.append_eq_nil_iff, issueWhen_eq_nil] at h
  simpa [isNegative] using h.2

theorem throughput_of_issues {lead : String} {volumeType : EbsVolumeType}
    {provisionedIops : Option UInt64} {throughputMibps : Option D}
    (h : volumePerformanceIssues lead volumeType provisionedIops throughputMibps = [])
    {mibps : D} (hmibps : throughputMibps = some mibps) : 0 ≤ value mibps := by
  simp only [volumePerformanceIssues, List.append_eq_nil_iff, issueWhen_eq_nil] at h
  simpa [isNegative, hmibps] using h.2

theorem ec2Admitted_of_issues {lead : String} {volumeIds : List Uuid} {resource : Ec2Resource D}
    (h : ec2Issues lead volumeIds resource = []) : Ec2Admitted resource := by
  simp only [ec2Issues, List.append_eq_nil_iff] at h
  obtain ⟨⟨_, hcount⟩, hvolumes⟩ := h
  have hchecked := check_of_volumesIssues hvolumes
  constructor
  · exact volumeCount_of_issues hcount
  · intro volume hmem
    obtain ⟨_, _, hcheck⟩ := hchecked volume hmem
    exact capacity_of_issues (List.append_eq_nil_iff.mp hcheck).1
  · intro volume hmem mibps hmibps
    obtain ⟨_, _, hcheck⟩ := hchecked volume hmem
    exact throughput_of_issues (List.append_eq_nil_iff.mp hcheck).2 hmibps

theorem ec2VmAdmitted_of_issues {lead : String} {volumeIds : List Uuid}
    {resource : Ec2VmResource D} (h : ec2VmIssues lead volumeIds resource = []) :
    Ec2VmAdmitted resource := by
  simp only [ec2VmIssues, List.append_eq_nil_iff, issueWhen_eq_nil] at h
  obtain ⟨⟨⟨_, hcount⟩, hos⟩, hvolumes⟩ := h
  have hchecked := check_of_volumesIssues hvolumes
  constructor
  · exact volumeCount_of_issues hcount
  · simpa using hos
  · intro volume hmem
    obtain ⟨_, _, hcheck⟩ := hchecked volume hmem
    simp only [vmVolumeIssues, List.append_eq_nil_iff] at hcheck
    exact capacity_of_issues hcheck.1.1.1
  · intro volume hmem
    obtain ⟨_, _, hcheck⟩ := hchecked volume hmem
    simp only [vmVolumeIssues, List.append_eq_nil_iff, issueWhen_eq_nil] at hcheck
    simpa using hcheck.1.1.2
  · intro volume hmem mibps hmibps
    obtain ⟨_, _, hcheck⟩ := hchecked volume hmem
    simp only [vmVolumeIssues, List.append_eq_nil_iff] at hcheck
    exact throughput_of_issues hcheck.2 hmibps

theorem coreCount_of_issues {lead field : String} {count : UInt32}
    (h : coreCountIssues lead field count = []) : 1 ≤ count ∧ count ≤ 100000 := by
  simpa [coreCountIssues] using h

theorem onPremAdmitted_of_issues {lead : String} {resource : OnPremResource D}
    (h : onPremIssues lead resource = []) : OnPremAdmitted resource := by
  simp only [onPremIssues, List.append_eq_nil_iff, issueWhen_eq_nil,
    validateDecimalRange_eq_nil] at h
  obtain ⟨⟨⟨⟨⟨hvcpu, hcores⟩, _⟩, hcapex⟩, hyears⟩, _⟩ := h
  constructor
  · exact coreCount_of_issues hvcpu
  · exact coreCount_of_issues hcores
  · simpa [isNegative] using hcapex
  · simpa using hyears

theorem resourceAdmitted_of_issues {projectType : ProjectType} {lead : String}
    {resourceIds volumeIds : List Uuid} {resource : Resource D}
    (h : resourceIssues projectType lead resourceIds volumeIds resource = []) :
    ResourceAdmitted projectType resource := by
  simp only [resourceIssues, List.append_eq_nil_iff, issueWhen_eq_nil] at h
  obtain ⟨⟨htype, hshared⟩, hkind⟩ := h
  constructor
  · simpa using htype
  · exact sharedAdmitted_of_issues hshared
  · intro sql hsql
    rw [hsql] at hshared
    exact sqlAdmitted_of_issues hshared
  · cases resource with
    | ec2 resource => exact ec2Admitted_of_issues hkind
    | ec2Vm resource => exact ec2VmAdmitted_of_issues hkind
    | rds resource => trivial
    | onPrem resource => exact onPremAdmitted_of_issues hkind

/-- Every resource was checked against some earlier resources and volumes. -/
theorem checked_of_resourcesIssues {projectType : ProjectType} {index : Nat}
    {resourceIds volumeIds : List Uuid} {resources : List (Resource D)}
    (h : resourcesIssues projectType index resourceIds volumeIds resources = []) :
    ∀ resource ∈ resources, ∃ lead resourceIds volumeIds,
      resourceIssues projectType lead resourceIds volumeIds resource = [] := by
  induction resources generalizing index resourceIds volumeIds with
  | nil => exact fun resource hmem => nomatch hmem
  | cons first rest ih =>
      obtain ⟨hfirst, hrest⟩ := List.append_eq_nil_iff.mp h
      intro resource hmem
      rcases List.mem_cons.mp hmem with rfl | hmem
      · exact ⟨_, _, _, hfirst⟩
      · exact ih hrest resource hmem

theorem admitted_of_resourcesIssues {projectType : ProjectType} {index : Nat}
    {resourceIds volumeIds : List Uuid} {resources : List (Resource D)}
    (h : resourcesIssues projectType index resourceIds volumeIds resources = []) :
    ∀ resource ∈ resources, ResourceAdmitted projectType resource := by
  intro resource hmem
  obtain ⟨_, _, _, hchecked⟩ := checked_of_resourcesIssues h resource hmem
  exact resourceAdmitted_of_issues hchecked

/-! ### Settings -/

structure OnPremSettingsAdmitted (settings : ProjectSettings D) : Prop where
  enterprisePack : ∃ price, settings.enterpriseLicenseSaUsdPerTwoCorePack = some price ∧
    0 < value price
  standardPack : ∃ price, settings.standardLicenseSaUsdPerTwoCorePack = some price ∧
    0 < value price
  coverage : ∃ months, settings.remainingCoverageMonths = some months ∧
    isCoverageMonths months = true
  electricity : ∃ rate, settings.electricityRateUsdPerKwh = some rate ∧ 0 ≤ value rate

structure SqlPaygAdmitted (sqlPayg : SqlPaygSettings D) : Prop where
  licensed : ¬ (sqlPayg.enterpriseLicensedCores = 0 ∧ sqlPayg.standardLicensedCores = 0)
  cores : sqlPayg.enterpriseLicensedCores ≤ 100000 ∧ sqlPayg.standardLicensedCores ≤ 100000
  softwareAssurance : 0 ≤ value sqlPayg.softwareAssuranceAnnualUsd

structure SettingsAdmitted (settings : ProjectSettings D) : Prop where
  selectedParityAdjustment : isPercent settings.selectedParityAdjustment = true
  annualHours : value (zero : D) ≤ value settings.defaultAnnualHours ∧
    value settings.defaultAnnualHours ≤ value (ofNat 8784 : D)
  onPrem : settings.projectType = .onPrem → OnPremSettingsAdmitted settings
  sqlPayg : settings.projectType = .sqlPayg →
    ∃ sqlPayg, settings.sqlPayg = some sqlPayg ∧ SqlPaygAdmitted sqlPayg

theorem pack_of_issues {pointer : String} {price : Option D}
    (h : licensePackIssues pointer price = []) : ∃ number, price = some number ∧ 0 < value number := by
  cases price with
  | none => simp [licensePackIssues] at h
  | some number => exact ⟨number, rfl, by simpa [licensePackIssues, isNotPositive] using h⟩

theorem onPremSettingsAdmitted_of_issues {settings : ProjectSettings D}
    (h : onPremSettingsIssues settings = []) : OnPremSettingsAdmitted settings := by
  simp only [onPremSettingsIssues, List.append_eq_nil_iff, issueWhen_eq_nil] at h
  obtain ⟨⟨⟨⟨_, henterprise⟩, hstandard⟩, hcoverage⟩, helectricity⟩ := h
  constructor
  · exact pack_of_issues henterprise
  · exact pack_of_issues hstandard
  · cases hmonths : settings.remainingCoverageMonths with
    | none => simp [hmonths] at hcoverage
    | some months => exact ⟨months, rfl, by simpa [hmonths] using hcoverage⟩
  · cases hrate : settings.electricityRateUsdPerKwh with
    | none => simp [hrate] at helectricity
    | some rate => exact ⟨rate, rfl, by simpa [hrate, isNegative] using helectricity⟩

theorem sqlPaygAdmitted_of_issues {sqlPayg : Option (SqlPaygSettings D)}
    (h : sqlPaygIssues sqlPayg = []) :
    ∃ settings, sqlPayg = some settings ∧ SqlPaygAdmitted settings := by
  cases sqlPayg with
  | none => simp [sqlPaygIssues] at h
  | some settings =>
      simp only [sqlPaygIssues, List.append_eq_nil_iff, issueWhen_eq_nil] at h
      obtain ⟨⟨hcores, hlicensed⟩, hassurance⟩ := h
      refine ⟨settings, rfl, ?_, ?_, ?_⟩
      · simpa using hlicensed
      · simpa using hcores
      · simpa [isNegative] using hassurance

theorem settingsAdmitted_of_issues {settings : ProjectSettings D}
    (h : validateSettings settings = []) : SettingsAdmitted settings := by
  simp only [validateSettings, List.append_eq_nil_iff, validateDecimalRange_eq_nil] at h
  obtain ⟨⟨⟨⟨_, hparity⟩, hhours⟩, honPrem⟩, hsqlPayg⟩ := h
  constructor
  · simpa [discountIssues] using hparity
  · simpa using hhours
  · intro htype
    rw [if_pos htype] at honPrem
    exact onPremSettingsAdmitted_of_issues honPrem
  · intro htype
    rw [if_pos htype] at hsqlPayg
    exact sqlPaygAdmitted_of_issues hsqlPayg

/-- No resource has the id of an earlier one. -/
theorem nodup_ids_of_resourcesIssues {projectType : ProjectType} {index : Nat}
    {resourceIds volumeIds : List Uuid} {resources : List (Resource D)}
    (h : resourcesIssues projectType index resourceIds volumeIds resources = []) :
    (resources.map fun resource => resource.shared.id).Nodup ∧
      ∀ resource ∈ resources, resource.shared.id ∉ resourceIds := by
  induction resources generalizing index resourceIds volumeIds with
  | nil => exact ⟨List.nodup_nil, fun resource hmem => nomatch hmem⟩
  | cons resource rest ih =>
      obtain ⟨hfirst, hrest⟩ := List.append_eq_nil_iff.mp h
      obtain ⟨hnodup, hnew⟩ := ih hrest
      simp only [resourceIssues, sharedIssues, List.append_eq_nil_iff, issueWhen_eq_nil,
        decide_eq_false_iff_not] at hfirst
      obtain ⟨⟨_, ⟨⟨⟨⟨⟨⟨hid, _⟩, _⟩, _⟩, _⟩, _⟩, _⟩⟩, _⟩ := hfirst
      constructor
      · rw [List.map_cons, List.nodup_cons]
        refine ⟨fun hmem => ?_, hnodup⟩
        obtain ⟨other, hother, hsame⟩ := List.mem_map.mp hmem
        exact hnew other hother (hsame ▸ List.mem_cons_self)
      · intro other hother
        rcases List.mem_cons.mp hother with rfl | hother
        · exact hid
        · exact fun hmem => hnew other hother (List.mem_cons_of_mem _ hmem)

end ProjectValidation

open ProjectValidation in
theorem EditableProject.nodup_ids_of_validate {D : Type} [DecimalArith D]
    {project : EditableProject D} (h : project.validate = []) :
    (project.resources.map fun resource => resource.shared.id).Nodup := by
  rw [EditableProject.validate, List.append_eq_nil_iff] at h
  exact (nodup_ids_of_resourcesIssues h.2).1

open ProjectValidation in
/-- A project without issues has admitted settings and admitted resources. -/
theorem EditableProject.admitted_of_validate {D : Type} [DecimalArith D]
    {project : EditableProject D} (h : project.validate = []) :
    SettingsAdmitted project.settings ∧
      ∀ resource ∈ project.resources, ResourceAdmitted project.settings.projectType resource := by
  simp only [EditableProject.validate, List.append_eq_nil_iff] at h
  obtain ⟨⟨_, hsettings⟩, hresources⟩ := h
  exact ⟨settingsAdmitted_of_issues hsettings, admitted_of_resourcesIssues hresources⟩

end TcoCalculator
