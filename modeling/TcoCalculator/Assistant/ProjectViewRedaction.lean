/-
What the model is shown of a project depends on no name or identifier chosen by
the customer but the server names, which it repeats.
-/
import TcoCalculator.Assistant.Dispatch
import TcoCalculator.Domain.Decimal96

namespace TcoCalculator.Assistant

variable {D : Type}

/-! ### Projects without names -/

def namelessShared (shared : SharedResource D) : SharedResource D :=
  { shared with workloadName := "", serverName := none }

def namelessEbsVolume (volume : EbsVolume D) : EbsVolume D :=
  { volume with label := "", awsVolumeId := none }

def namelessVmVolume (volume : VmVolume D) : VmVolume D :=
  { volume with label := "", awsVolumeId := none }

def namelessResource : Resource D → Resource D
  | .ec2 ec2 => .ec2 { ec2 with
      shared := namelessShared ec2.shared
      volumes := ec2.volumes.map namelessEbsVolume }
  | .ec2Vm vm => .ec2Vm { vm with
      shared := namelessShared vm.shared
      volumes := vm.volumes.map namelessVmVolume }
  | .rds rds => .rds { rds with shared := namelessShared rds.shared }
  | .onPrem onPrem => .onPrem { onPrem with shared := namelessShared onPrem.shared }

/-- A project without the names and provider identifiers its customer chose. -/
def nameless (project : EditableProject D) : EditableProject D :=
  { project with
    name := ""
    description := none
    resources := project.resources.map namelessResource }

/-- The projects differ in nothing but such names and identifiers. -/
def SameButNames (first second : EditableProject D) : Prop := nameless first = nameless second

def serverNames (project : EditableProject D) : List (Option String) :=
  project.resources.map fun resource => resource.shared.serverName

/-! ### What redaction keeps -/

def withServerName (serverName : Option String) : Resource D → Resource D
  | .ec2 ec2 => .ec2 { ec2 with shared := { ec2.shared with serverName := serverName } }
  | .ec2Vm vm => .ec2Vm { vm with shared := { vm.shared with serverName := serverName } }
  | .rds rds => .rds { rds with shared := { rds.shared with serverName := serverName } }
  | .onPrem onPrem =>
      .onPrem { onPrem with shared := { onPrem.shared with serverName := serverName } }

@[simp] theorem mapIdx_redactEbsVolume_nameless (volumes : List (EbsVolume D)) :
    (volumes.map namelessEbsVolume).mapIdx redactEbsVolume = volumes.mapIdx redactEbsVolume :=
  List.ext_getElem (by simp) (by simp [redactEbsVolume, namelessEbsVolume])

@[simp] theorem mapIdx_redactVmVolume_nameless (volumes : List (VmVolume D)) :
    (volumes.map namelessVmVolume).mapIdx redactVmVolume = volumes.mapIdx redactVmVolume :=
  List.ext_getElem (by simp) (by simp [redactVmVolume, namelessVmVolume])

@[simp] theorem redactResource_serverName (index : Nat) (resource : Resource D) :
    (redactResource index resource).shared.serverName = resource.shared.serverName := by
  cases resource <;> rfl

/-- A redacted resource is the redacted nameless one, with its server name. -/
theorem redactResource_eq (index : Nat) (resource : Resource D) :
    redactResource index resource =
      withServerName resource.shared.serverName
        (redactResource index (namelessResource resource)) := by
  cases resource <;>
    simp [redactResource, namelessResource, withServerName, redactShared, namelessShared,
      Resource.shared]

theorem redactResource_congr {first second : Resource D}
    (hnameless : namelessResource first = namelessResource second)
    (hserver : first.shared.serverName = second.shared.serverName) (index : Nat) :
    redactResource index first = redactResource index second := by
  rw [redactResource_eq index first, redactResource_eq index second, hnameless, hserver]

theorem mapIdx_redactResource_congr {first second : List (Resource D)}
    (hnameless : first.map namelessResource = second.map namelessResource)
    (hserver : first.map (fun resource => resource.shared.serverName) =
      second.map fun resource => resource.shared.serverName) :
    first.mapIdx redactResource = second.mapIdx redactResource := by
  have hlength : first.length = second.length := by
    simpa using congrArg List.length hnameless
  apply List.ext_getElem
  · simp [hlength]
  · intro index hfirst hsecond
    simp only [List.getElem_mapIdx]
    simp only [List.length_mapIdx] at hfirst hsecond
    apply redactResource_congr
    · simpa [hfirst, hsecond] using congrArg (fun list => list[index]?) hnameless
    · simpa [hfirst, hsecond] using congrArg (fun list => list[index]?) hserver

/-! ### The view -/

theorem fromProject_congr {first second : EditableProject D} (h : SameButNames first second)
    (hserver : serverNames first = serverNames second) :
    ProjectView.fromProject first = ProjectView.fromProject second := by
  simp only [SameButNames, nameless, EditableProject.mk.injEq] at h
  obtain ⟨-, -, hsettings, hresources, haws, hazure⟩ := h
  have hlength : first.resources.length = second.resources.length := by
    simpa using congrArg List.length hresources
  simp only [ProjectView.fromProject, hsettings, haws, hazure, hlength,
    mapIdx_redactResource_congr hresources hserver]

variable [DecimalArith D]

/-- The view repeats the server names. -/
theorem serverNames_of_projectView {first second : EditableProject D}
    (h : projectView first = projectView second) : serverNames first = serverNames second := by
  simp only [projectView, ProjectView.toJson, ProjectView.fromProject, ToolOutcome.ok.injEq,
    Json.object.injEq, List.cons.injEq, Prod.mk.injEq] at h
  have hnames := ProjectJson.resources_map ResourceJson.resource_serverName h.2.1.2
  have hkept : ∀ resources : List (Resource D),
      (resources.mapIdx redactResource).map (fun resource => resource.shared.serverName) =
        resources.map fun resource => resource.shared.serverName := by
    intro resources
    apply List.ext_getElem
    · simp
    · simp
  rw [hkept, hkept] at hnames
  exact hnames

theorem projectView_eq_iff {first second : EditableProject D} (h : SameButNames first second) :
    projectView first = projectView second ↔ serverNames first = serverNames second := by
  constructor
  · exact serverNames_of_projectView
  · intro hserver
    rw [projectView, projectView, fromProject_congr h hserver]

/-- Reading a stored project shows its view. -/
theorem currentProject_fst {host : Host D} {context : TurnContext} {history : History D}
    {selected : SelectedProject} {document : ProjectDocument D}
    (hselected : context.project = some selected)
    (hread : host.getProject history context.ownerId selected.id = .ok document) :
    (currentProject host context history).1 = .ok (projectView (editableProject document)) := by
  simp [currentProject, withSelectedProject, hselected, record, projectOf, hread]

/-- Two reads of projects that differ in names alone show the same exactly when
the server names agree. -/
theorem current_project_hides_names_iff {first second : Host D} {context : TurnContext}
    {history history' : History D} {selected : SelectedProject}
    {document document' : ProjectDocument D} (hselected : context.project = some selected)
    (hfirst : first.getProject history context.ownerId selected.id = .ok document)
    (hsecond : second.getProject history' context.ownerId selected.id = .ok document')
    (hsame : SameButNames (editableProject document) (editableProject document')) :
    (currentProject first context history).1 = (currentProject second context history').1 ↔
      serverNames (editableProject document) = serverNames (editableProject document') := by
  rw [currentProject_fst hselected hfirst, currentProject_fst hselected hsecond,
    Outcome.ok.injEq, projectView_eq_iff hsame]

namespace ViewWitness

open DecimalArith

def settings : ProjectSettings Decimal96 where
  projectType := .rds
  awsRegion := some "eu-west-1"
  azureRegion := "swedencentral"
  currency := "USD"
  sourceComputeDiscount := zero
  sourceLicenseDiscount := zero
  sourceStorageDiscount := zero
  azureComputeDiscount := zero
  azureLicenseDiscount := zero
  azureStorageDiscount := zero
  selectedParityAdjustment := zero
  defaultAnnualHours := ofNat 8760
  defaultMiPurchaseOption := .payg
  enterpriseLicenseSaUsdPerTwoCorePack := none
  standardLicenseSaUsdPerTwoCorePack := none
  remainingCoverageMonths := none
  electricityRateUsdPerKwh := none
  sqlPayg := none

def resource (workloadName : String) (serverName : Option String) : Resource Decimal96 := .rds {
  shared := {
    id := ⟨1⟩
    workloadName := workloadName
    serverName := serverName
    quantity := 1
    sourceRamGbPerInstance := ofNat 128
    annualHoursPerInstance := ofNat 8760 }
  sql := ⟨.enterprise, .byol, ofNat 1024, .payg⟩
  instanceType := "db.m6i.8xlarge"
  deployment := .singleAz
  commercialTerm := "on-demand"
  storageClass := "gp3"
  sourceMaxIops := 3000 }

/-- One workload, named and on a named server. -/
def document (workloadName : String) (serverName : Option String) : ProjectDocument Decimal96 where
  id := ⟨7⟩
  documentType := ProjectRepository.projectDocumentType
  ownerId := "owner"
  name := "Finance Migration"
  description := none
  settings := settings
  resources := [resource workloadName serverName]
  awsPriceSnapshotId := none
  azurePriceSnapshotId := none
  latestCalculationRevision := none
  formulaVersion := Config.formulaVersion
  schemaVersion := Config.schemaVersion
  createdAt := "2026-08-23T12:00:00Z"
  updatedAt := "2026-08-23T12:00:00Z"
  etag := ProjectRepository.projectEtag 1

def selected : SelectedProject := ⟨⟨7⟩, ProjectRepository.projectEtag 1, none, none⟩

def context : TurnContext := (TurnContext.new "owner" ⟨9⟩ .propose).withProject selected

def candidate : TargetCandidate Decimal96 where
  configurationKey := "gp-gen5-8"
  azureRegion := "swedencentral"
  serviceTier := .nextGenerationGeneralPurpose
  hardwareFamily := "Gen5"
  vcores := 8
  zoneRedundant := false
  includedMemoryGb := ofNat 41
  supportedMemoryGb := []
  storageArchitecture := "remote"
  maximumStorageGb := none

/-- A host whose store answers with one document. -/
def host (document : ProjectDocument Decimal96) : Host Decimal96 where
  systemInstruction := ""
  helpEntries := []
  jsonLibrary := {
    valueFromStr := fun _ => .ok (.object [])
    emptyInputFromStr := fun _ => .ok ()
    applicationHelpFromStr := fun _ => .error ⟨false, false, "missing field"⟩
    measurementFromValue := fun _ => .error ⟨false, false, "missing field"⟩
    projectPatchFromValue := fun _ => .ok ⟨none, none, none, none⟩
    stageProjectPatchFromValue := fun _ => .error ⟨false, false, "missing field"⟩
    stageNewProjectDraftFromValue := fun _ => .error ⟨false, false, "missing field"⟩ }
  engine := ⟨⟨[candidate]⟩, ⟨[]⟩, ⟨[]⟩, Config.formulaVersion, List.cons_ne_nil _ _⟩
  respond := fun _ _ => .error .unavailable
  remainingMillis := fun _ => 120000
  isExpired := fun _ => false
  getProject := fun _ _ _ => .ok document
  resolveAws := fun _ _ _ => none
  getAws := fun _ _ => .ok none
  getAzure := fun _ _ => .ok none
  calculationSlotFree := fun _ => true
  freshId := fun _ resource volume => ⟨BitVec.ofNat 128 (64 * resource + volume)⟩

end ViewWitness

open ViewWitness in
/-- Another workload name shows the same. -/
theorem current_project_hides_workload_name :
    (currentProject (host (document "CONTOSO-SQLPROD-01" none)) context []).1 =
      (currentProject (host (document "SQL workload" none)) context []).1 :=
  (@current_project_hides_names_iff _ _ (host (document "CONTOSO-SQLPROD-01" none))
    (host (document "SQL workload" none)) context [] [] selected _ _ rfl rfl rfl rfl).mpr rfl

open ViewWitness in
/-- Another server name shows: the redaction passes over it. -/
theorem server_name_reaches_the_model :
    SameButNames (editableProject (document "SQL workload" (some "CONTOSO-SQLPROD-01")))
        (editableProject (document "SQL workload" none)) ∧
      (currentProject (host (document "SQL workload" (some "CONTOSO-SQLPROD-01"))) context []).1 ≠
        (currentProject (host (document "SQL workload" none)) context []).1 := by
  refine ⟨rfl, fun hshown => ?_⟩
  have hselected : context.project = some selected := rfl
  rw [currentProject_fst hselected rfl, currentProject_fst hselected rfl,
    Outcome.ok.injEq] at hshown
  exact absurd (serverNames_of_projectView hshown) (by decide)

end TcoCalculator.Assistant
