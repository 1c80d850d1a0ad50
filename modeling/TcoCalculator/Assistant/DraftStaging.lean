/-
What an accepted staging call can report: its own notes, and for a new draft the
notes of the host.
-/
import TcoCalculator.Assistant.ProjectViewRedaction
import TcoCalculator.Assistant.TurnRuns
import TcoCalculator.Library.ReadEach

namespace TcoCalculator.Assistant

open Locked

section Staging

variable {D : Type} [DecimalArith D] {host : Host D} {context : TurnContext}

/-! ### Accepted arguments -/

theorem parseInput_stageProjectPatch {library : JsonLibrary D} {definition : ToolDefinition}
    {arguments : String} {input : StageProjectPatchInput D}
    (h : parseInput library definition arguments = .ok (.stageProjectPatch input)) :
    ∃ text, stageProjectPatchInput library text = .ok input := by
  simp only [parseInput] at h
  split at h <;> simp only [Outcome.map_eq_ok, reduceCtorEq, and_false, exists_false,
    ToolInput.stageProjectPatch.injEq, exists_eq_right] at h
  exact ⟨_, h⟩

theorem parseInput_stageNewProjectDraft {library : JsonLibrary D} {definition : ToolDefinition}
    {arguments : String} {input : StageNewProjectDraftInput D}
    (h : parseInput library definition arguments = .ok (.stageNewProjectDraft input)) :
    ∃ text, stageNewProjectDraftInput library text = .ok input := by
  simp only [parseInput] at h
  split at h <;> simp only [Outcome.map_eq_ok, reduceCtorEq, and_false, exists_false,
    ToolInput.stageNewProjectDraft.injEq, exists_eq_right] at h
  exact ⟨_, h⟩

theorem stageProjectPatchInput_eq_ok {library : JsonLibrary D} {text : String}
    {input : StageProjectPatchInput D} (h : stageProjectPatchInput library text = .ok input) :
    ∃ omissions uncertainties, normalizeExtractionNotes omissions = .ok input.omissions ∧
      normalizeExtractionNotes uncertainties = .ok input.uncertainties := by
  simp only [stageProjectPatchInput, Outcome.bind_eq_ok, Outcome.lift_eq_ok,
    Outcome.pure_eq_ok] at h
  obtain ⟨raw, -, omissions, homissions, uncertainties, huncertainties, rfl⟩ := h
  exact ⟨raw.omissions, raw.uncertainties, homissions, huncertainties⟩

/-- An accepted draft: its notes are normalized, and every resource is of its type
and has fields of this type alone. -/
theorem stageNewProjectDraftInput_eq_ok {library : JsonLibrary D} {text : String}
    {input : StageNewProjectDraftInput D} (h : stageNewProjectDraftInput library text = .ok input) :
    (∃ omissions uncertainties, normalizeExtractionNotes omissions = .ok input.omissions ∧
      normalizeExtractionNotes uncertainties = .ok input.uncertainties) ∧
    ∀ resource ∈ input.resources,
      resource.sourceType = input.projectType ∧ resource.fieldsMatchSourceType = true := by
  simp only [stageNewProjectDraftInput, Outcome.bind_eq_ok, Outcome.lift_eq_ok] at h
  obtain ⟨raw, -, omissions, homissions, uncertainties, huncertainties, h⟩ := h
  by_cases hmismatch : (raw.resources.any fun resource =>
      resource.sourceType ≠ raw.projectType || !resource.fieldsMatchSourceType) = true
  · rw [if_pos hmismatch] at h
    cases h
  · rw [if_neg hmismatch, Outcome.pure_eq_ok] at h
    subst h
    refine ⟨⟨raw.omissions, raw.uncertainties, homissions, huncertainties⟩, ?_⟩
    intro resource hresource
    simpa using fun hnot => hmismatch (List.any_eq_true.mpr ⟨resource, hresource, hnot⟩)

/-! ### What is staged -/

/-- The memory of an instance type as the host knows it at this moment. -/
def catalogMemory (host : Host D) (history : History D) (input : StageNewProjectDraftInput D)
    (instanceType : String) : Option D :=
  let awsRegion := input.settings.awsRegion.getD "eu-west-1"
  let awsSnapshot :=
    if isEc2Source input.projectType then host.resolveAws history "USD" awsRegion else none
  (awsSnapshot.bind fun snapshot =>
    snapshot.ec2Rates.find? fun record => record.instanceType == instanceType).map fun record =>
      record.rate.catalogMemoryGb

/-- A draft that is staged: without memory of its machines only its notes, or else
a valid project. -/
theorem stageNewProjectDraft_eq_staged {freshId : Nat → Nat → Uuid}
    {input : StageNewProjectDraftInput D} {memory : String → Option D}
    {proposal : Option (AssistantProposal D)} {omissions uncertainties : List String}
    (h : stageNewProjectDraftWithEc2Memory context freshId input memory =
      some (.staged proposal omissions uncertainties)) :
    omissions = input.omissions ∧
      (ec2CatalogRamMissing memory input = true ∧ proposal = none ∧
        uncertainties = (if input.uncertainties.length < maxExtractionNotes then
          input.uncertainties ++ [ec2CatalogRamUnavailable] else input.uncertainties) ∨
      ec2CatalogRamMissing memory input = false ∧ ∃ project,
        newProjectDraft memory freshId input = some project ∧ project.validate = [] ∧
        proposal = some (.newProjectDraft ⟨"open_project_draft", project⟩) ∧
        uncertainties = input.uncertainties ++ assumptionNotes input) := by
  simp only [stageNewProjectDraftWithEc2Memory] at h
  by_cases hselected : context.project.isSome = true
  · simp [hselected] at h
  rw [if_neg hselected] at h
  by_cases hmissing : ec2CatalogRamMissing memory input = true
  · simp only [hmissing, if_true, Option.some.injEq, ToolOutcome.staged.injEq] at h
    obtain ⟨rfl, rfl, rfl⟩ := h
    exact ⟨rfl, .inl ⟨hmissing, rfl, rfl⟩⟩
  · rw [if_neg hmissing] at h
    obtain ⟨project, hproject, h⟩ := Option.map_eq_some_iff.mp h
    by_cases hvalid : project.validate = []
    · simp only [hvalid, ne_eq, not_true_eq_false, if_false, ToolOutcome.staged.injEq] at h
      obtain ⟨rfl, rfl, rfl⟩ := h
      exact ⟨rfl, .inr ⟨by simpa using hmissing, project, hproject, hvalid, rfl, rfl⟩⟩
    · simp [hvalid] at h

theorem stagedPatch_eq_staged {project : EditableProject D} {input : StageProjectPatchInput D}
    {proposal : Option (AssistantProposal D)} {omissions uncertainties : List String}
    (h : stagedPatch project input = .staged proposal omissions uncertainties) :
    omissions = input.omissions ∧ uncertainties = input.uncertainties := by
  simp only [stagedPatch] at h
  split_ifs at h
  split at h
  · exact nomatch h
  · split_ifs at h <;> simp only [ToolOutcome.staged.injEq] at h <;> exact ⟨h.2.1.symm, h.2.2.symm⟩

omit [DecimalArith D] in
/-- A tool on the selected project reports no notes before it has the project. -/
theorem withSelectedProject_eq_ok {next : EditableProject D → TurnM D (ToolOutcome D)}
    {history later : History D} {outcome : ToolOutcome D}
    (h : withSelectedProject host context next history = (.ok outcome, later)) :
    outcome.extractionNotes = none ∨
      ∃ project history', next project history' = (.ok outcome, later) := by
  simp only [withSelectedProject] at h
  cases hselected : context.project with
  | none =>
      simp only [hselected, pure_apply, Prod.mk.injEq, Outcome.ok.injEq] at h
      exact .inl (h.1 ▸ rfl)
  | some selected =>
      simp only [hselected, read_bind, record, write_bind] at h
      cases hread : host.getProject history context.ownerId selected.id with
      | ok document =>
          simp only [hread, projectOf] at h
          exact .inr ⟨_, _, h⟩
      | err error =>
          cases error <;> simp only [hread, projectOf, pure_apply, Prod.mk.injEq,
            Outcome.ok.injEq] at h <;> exact .inl (h.1 ▸ rfl)
      | panic => simp [hread, projectOf, Locked.panic] at h

/-- Only the staging tools report notes: a patch its own, a draft as staged. -/
theorem dispatch_eq_staged {input : ToolInput D} {history later : History D}
    {proposal : Option (AssistantProposal D)} {omissions uncertainties : List String}
    (h : dispatch host context input history =
      (.ok (.staged proposal omissions uncertainties), later)) :
    (∃ patch, input = .stageProjectPatch patch ∧ omissions = patch.omissions ∧
      uncertainties = patch.uncertainties) ∨
    ∃ draft, input = .stageNewProjectDraft draft ∧
      stageNewProjectDraftWithEc2Memory context (host.freshId history) draft
        (catalogMemory host history draft) = some (.staged proposal omissions uncertainties) := by
  cases input with
  | stageProjectPatch patch =>
      rcases withSelectedProject_eq_ok h with hnone | ⟨project, history', hstaged⟩
      · exact nomatch hnone
      · simp only [pure_apply, Prod.mk.injEq, Outcome.ok.injEq] at hstaged
        exact .inl ⟨patch, rfl, stagedPatch_eq_staged hstaged.1⟩
  | stageNewProjectDraft draft =>
      change Locked.expect (stageNewProjectDraftWithEc2Memory context (host.freshId history) draft
        (catalogMemory host history draft)) history = _ at h
      cases hstaged : stageNewProjectDraftWithEc2Memory context (host.freshId history) draft
          (catalogMemory host history draft) with
      | none => simp [hstaged, Locked.expect] at h
      | some outcome =>
          simp only [hstaged, Locked.expect, Prod.mk.injEq, Outcome.ok.injEq] at h
          exact .inr ⟨draft, rfl, hstaged.trans (congrArg some h.1)⟩
  | agentCapabilities => simp [dispatch, agentCapabilities] at h
  | applicationHelp help =>
      simp only [dispatch, pure_apply, Prod.mk.injEq, Outcome.ok.injEq, applicationHelp] at h
      split at h <;> split at h <;> exact nomatch h.1
  | currentProject =>
      rcases withSelectedProject_eq_ok h with hnone | ⟨project, history', hview⟩
      · exact nomatch hnone
      · simp [projectView] at hview
  | validateProjectPatch patch =>
      rcases withSelectedProject_eq_ok h with hnone | ⟨project, history', hvalid⟩
      · exact nomatch hnone
      · dsimp only at hvalid
        split_ifs at hvalid <;> simp at hvalid
  | calculateProjectDraft patch =>
      rcases withSelectedProject_eq_ok h with hnone | ⟨project, history', hcalculated⟩
      · exact nomatch hnone
      · dsimp only at hcalculated
        split_ifs at hcalculated
        · simp at hcalculated
        · rw [read_bind] at hcalculated
          split_ifs at hcalculated
          · simp at hcalculated
          · cases hrevision : calculateProject host history' (patch.apply project) with
            | ok revision => simp [hrevision] at hcalculated
            | err error => simp [hrevision] at hcalculated
            | panic => simp [hrevision, Locked.panic] at hcalculated

/-- An accepted draft that proposes a project: its resources are of its type, and the
project is made of it. -/
theorem dispatch_eq_newProjectDraft {definition : ToolDefinition} {arguments action : String}
    {input : StageNewProjectDraftInput D} {history later : History D}
    {project : EditableProject D} {omissions uncertainties : List String}
    (hparse : parseInput host.jsonLibrary definition arguments = .ok (.stageNewProjectDraft input))
    (hdispatch : dispatch host context (.stageNewProjectDraft input) history =
      (.ok (.staged (some (.newProjectDraft ⟨action, project⟩)) omissions uncertainties), later)) :
    (∀ resource ∈ input.resources,
      resource.sourceType = input.projectType ∧ resource.fieldsMatchSourceType = true) ∧
    newProjectDraft (catalogMemory host history input) (host.freshId history) input =
      some project ∧
    uncertainties = input.uncertainties ++ assumptionNotes input := by
  obtain ⟨text, htext⟩ := parseInput_stageNewProjectDraft hparse
  rcases dispatch_eq_staged hdispatch with ⟨_, heq, -⟩ | ⟨draft, heq, hstaged⟩
  · exact nomatch heq
  obtain rfl := ToolInput.stageNewProjectDraft.inj heq
  obtain ⟨-, ⟨-, hnone, -⟩ | ⟨-, project', hproject, -, hproposal, huncertainties⟩⟩ :=
    stageNewProjectDraft_eq_staged hstaged
  · exact nomatch hnone
  simp only [Option.some.injEq, AssistantProposal.newProjectDraft.injEq,
    NewProjectDraftProposal.mk.injEq] at hproposal
  obtain ⟨-, rfl⟩ := hproposal
  exact ⟨(stageNewProjectDraftInput_eq_ok htext).2, hproject, huncertainties⟩

/-- A draft with a valid project is staged with the notes of the host. -/
theorem dispatch_stageNewProjectDraft {input : StageNewProjectDraftInput D} {history : History D}
    {project : EditableProject D} (hselected : context.project = none)
    (hmemory : ec2CatalogRamMissing (catalogMemory host history input) input = false)
    (hproject : newProjectDraft (catalogMemory host history input) (host.freshId history) input =
      some project) (hvalid : project.validate = []) :
    dispatch host context (.stageNewProjectDraft input) history =
      (.ok (.staged (some (.newProjectDraft ⟨"open_project_draft", project⟩)) input.omissions
        (input.uncertainties ++ assumptionNotes input)), history) := by
  change Locked.expect (stageNewProjectDraftWithEc2Memory context (host.freshId history) input
    (catalogMemory host history input)) history = _
  simp [stageNewProjectDraftWithEc2Memory, hselected, hmemory, hproject, hvalid, Locked.expect]

/-! ### The project of a draft -/

/-- The resources a draft is made of: those given, or a starter workload. -/
def draftResources (input : StageNewProjectDraftInput D) : List (NewResourceInput D) :=
  if input.projectType = .sqlPayg then []
  else if input.resources = [] then [starterResource input.projectType]
  else input.resources

theorem newProjectDraft_eq_some {memory : String → Option D} {freshId : Nat → Nat → Uuid}
    {input : StageNewProjectDraftInput D} {project : EditableProject D}
    (h : newProjectDraft memory freshId input = some project) :
    project.settings = newSettings input.projectType input.settings ∧
      (draftResources input).mapIdx (fun index resource =>
        newResource memory (freshId index) resource) = project.resources.map some := by
  simp only [newProjectDraft, Option.bind_eq_bind, Option.bind_eq_some_iff, Option.pure_def,
    Option.some.injEq] at h
  obtain ⟨resources, hresources, rfl⟩ := h
  refine ⟨rfl, ?_⟩
  rw [ReadEach.mapM_eq_some, List.map_id] at hresources
  exact hresources

/-- The resource at a position is made of the one given there. -/
theorem newProjectDraft_getElem? {memory : String → Option D} {freshId : Nat → Nat → Uuid}
    {input : StageNewProjectDraftInput D} {project : EditableProject D}
    (h : newProjectDraft memory freshId input = some project) (index : Nat) :
    (draftResources input)[index]?.map (newResource memory (freshId index)) =
      project.resources[index]?.map some := by
  have hresources := congrArg (·[index]?) (newProjectDraft_eq_some h).2
  simpa only [List.getElem?_mapIdx, List.getElem?_map] using hresources

omit [DecimalArith D] in
theorem sourceType_of_draftResources {input : StageNewProjectDraftInput D}
    (h : ∀ resource ∈ input.resources, resource.sourceType = input.projectType)
    {resource : NewResourceInput D} (hresource : resource ∈ draftResources input) :
    resource.sourceType = input.projectType := by
  rw [draftResources] at hresource
  split_ifs at hresource with hpayg hnone
  · exact absurd hresource List.not_mem_nil
  · rw [List.mem_singleton.mp hresource]
    rfl
  · exact h resource hresource

end Staging

/-! ### Drafts to stage -/

namespace DraftWitness

def draftTool : ToolDefinition := ⟨"stage_new_project_draft", .propose, .draft, .unselected⟩

/-- A turn without a selected project. -/
def newContext : TurnContext := TurnContext.new "owner" ⟨9⟩ .propose

def noSettings : NewProjectSettingsInput Decimal96 where
  awsRegion := none
  azureRegion := none
  sourceComputeDiscount := none
  sourceLicenseDiscount := none
  sourceStorageDiscount := none
  azureComputeDiscount := none
  azureLicenseDiscount := none
  azureStorageDiscount := none
  selectedParityAdjustment := none
  defaultAnnualHours := none
  defaultMiPurchaseOption := none
  enterpriseLicenseSaUsdPerTwoCorePack := none
  standardLicenseSaUsdPerTwoCorePack := none
  remainingCoverageMonths := none
  electricityRateUsdPerKwh := none
  sqlPayg := none

/-- A draft of one type with nothing but these resources and uncertainties. -/
def draft (projectType : ProjectType) (resources : List (NewResourceInput Decimal96))
    (uncertainties : List String) : StageNewProjectDraftInput Decimal96 where
  projectType := projectType
  name := none
  description := none
  settings := noSettings
  resources := resources
  omissions := []
  uncertainties := uncertainties

/-- The arguments of a draft: its type, its resources and its uncertainties. -/
def draftFields (projectType : ProjectType) (resources : List Json)
    (uncertainties : List String) : List (String × Json) := [
  ("omissions", .array []),
  ("project_type", .string (ResourceJson.projectType projectType)),
  ("resources", .array resources),
  ("uncertainties", .array (uncertainties.map .string))]

/-- A host whose JSON library reads these arguments as this draft. -/
def draftHost (arguments : Json) (input : StageNewProjectDraftInput Decimal96) : Host Decimal96 :=
  { ViewWitness.host (ViewWitness.document "SQL workload" none) with
    jsonLibrary := { (ViewWitness.host (ViewWitness.document "SQL workload" none)).jsonLibrary with
      valueFromStr := fun text =>
        if text = arguments.render then .ok arguments else .error ⟨true, false, "expected value"⟩
      stageNewProjectDraftFromValue := fun value =>
        if value = arguments then .ok input else .error ⟨false, false, "missing field"⟩ } }

theorem isBlank_object (fields : List (String × Json)) :
    isBlank (Json.object fields).render = false := by
  rw [isBlank, Json.render, String.toList_ofList]
  cases fields <;> simp [Json.renderChars, isWhiteSpace]

theorem normalizeItems_strings (library : JsonLibrary Decimal96) (texts : List String) :
    normalizeItems library (texts.map .string) = .ok (texts.map .string) := by
  induction texts with
  | nil => rfl
  | cons text rest ih =>
      rw [List.map_cons, normalizeItems, normalizeStorageMeasurements, ih]
      rfl

/-- Nothing of a draft is a measurement unless a resource has one. -/
theorem normalize_draftFields {library : JsonLibrary Decimal96} {projectType : ProjectType}
    {resources : List Json} {uncertainties : List String}
    (h : normalizeItems library resources = .ok resources) :
    normalizeStorageMeasurements library
      (.object (draftFields projectType resources uncertainties)) =
        .ok (.object (draftFields projectType resources uncertainties)) := by
  simp only [draftFields, normalizeStorageMeasurements, normalizeFields, normalizeItems, h,
    normalizeItems_strings]
  rfl

theorem parseInput_draft {fields : List (String × Json)}
    {input : StageNewProjectDraftInput Decimal96}
    (hmeasured : normalizeStorageMeasurements (draftHost (.object fields) input).jsonLibrary
      (.object fields) = .ok (.object fields))
    (homissions : normalizeExtractionNotes input.omissions = .ok input.omissions)
    (huncertainties : normalizeExtractionNotes input.uncertainties = .ok input.uncertainties)
    (hmatches : (input.resources.any fun resource =>
      resource.sourceType ≠ input.projectType || !resource.fieldsMatchSourceType) = false) :
    parseInput (draftHost (.object fields) input).jsonLibrary draftTool
      (Json.object fields).render = .ok (.stageNewProjectDraft input) := by
  have htext : (draftHost (.object fields) input).jsonLibrary.valueFromStr
      (Json.object fields).render = .ok (.object fields) := if_pos rfl
  have hvalue : (draftHost (.object fields) input).jsonLibrary.stageNewProjectDraftFromValue
      (.object fields) = .ok input := if_pos rfl
  have hread : stageNewProjectDraftInput (draftHost (.object fields) input).jsonLibrary
      (Json.object fields).render = .ok input := by
    rw [stageNewProjectDraftInput, Outcome.bind_eq_ok]
    refine ⟨input, ?_, ?_⟩
    · rw [parseJsonInputWithStorageNormalization, htext, Outcome.bind_eq_ok]
      exact ⟨_, rfl, Outcome.bind_eq_ok.mpr ⟨_, hmeasured, by rw [hvalue]; rfl⟩⟩
    · rw [homissions, huncertainties, hmatches]
      rfl
  have hparse : parseInput (draftHost (.object fields) input).jsonLibrary draftTool
      (Json.object fields).render = (stageNewProjectDraftInput
        (draftHost (.object fields) input).jsonLibrary (Json.object fields).render).map
          .stageNewProjectDraft := by
    simp [parseInput, isBlank_object, draftTool]
  rw [hparse, hread]
  rfl

end DraftWitness

end TcoCalculator.Assistant
