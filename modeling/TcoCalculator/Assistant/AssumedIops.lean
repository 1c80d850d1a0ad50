/-
Provisioned IOPS that the host supplies for the volumes of a draft, and their
disclosure.
-/
import TcoCalculator.Assistant.DraftStaging

namespace TcoCalculator.Assistant

section Disclosure

variable {D : Type} [DecimalArith D] {host : Host D} {context : TurnContext}

/-! ### Volumes with and without IOPS of the model -/

omit [DecimalArith D] in
/-- The type and the provisioned IOPS of every volume of a resource. -/
def volumeIops : Resource D → List (EbsVolumeType × Option UInt64)
  | .ec2 ec2 => ec2.volumes.map fun volume => (volume.volumeType, volume.provisionedIops)
  | .ec2Vm vm => vm.volumes.map fun volume => (volume.volumeType, volume.provisionedIops)
  | .rds _ | .onPrem _ => []

/-- The IOPS the model gave for the volume at a position of a resource. -/
def suppliedIops (input : StageNewProjectDraftInput D) (resource volume : Nat) :
    Option UInt64 := do
  let resource ← input.resources[resource]?
  let volumes ← resource.volumes
  let volume ← volumes[volume]?
  volume.provisionedIops

/-- The project has a volume of this type with IOPS that the model did not give. -/
def HostSuppliesIops (input : StageNewProjectDraftInput D) (project : EditableProject D)
    (volumeType : EbsVolumeType) : Prop :=
  ∃ index resource volume iops, project.resources[index]? = some resource ∧
    (volumeIops resource)[volume]? = some (volumeType, some iops) ∧
    suppliedIops input index volume = none

/-- Each kind of IOPS from the host is disclosed by its note, and by nothing else. -/
structure IopsDisclosed (input : StageNewProjectDraftInput D) (project : EditableProject D)
    (uncertainties : List String) : Prop where
  gp3 : HostSuppliesIops input project .gp3 ↔ gp3AssumedIops ∈ uncertainties
  io2 : HostSuppliesIops input project .io2 ↔ io2AssumedIops ∈ uncertainties

/-- A virtual machine whose operating system disk is left to the host: it is given
neither a type nor IOPS, or not given at all. -/
def defaultOsDisk (input : StageNewProjectDraftInput D) : Bool :=
  input.projectType = .ec2Vm && (input.resources.isEmpty || input.resources.any fun resource =>
    match resource.volumes with
    | some (first :: _) => first.volumeType.isNone && first.provisionedIops.isNone
    | _ => true)

/-! ### The volumes a draft is made of -/

def draftVolumes (resource : NewResourceInput D) : List (NewVolumeInput D) :=
  match resource.sourceType with
  | .ec2 => resource.volumes.getD [emptyVolumeInput]
  | .ec2Vm => match resource.volumes with
      | some (first :: rest) => first :: rest
      | _ => [emptyVolumeInput]
  | _ => []

/-- The type a volume gets at its position. -/
def draftVolumeType (sourceType : ProjectType) (index : Nat) (volume : NewVolumeInput D) :
    EbsVolumeType :=
  volume.volumeType.getD (if sourceType = .ec2Vm ∧ index = 0 then .gp3 else .ephemeral)

/-- The IOPS of the host for a volume of this type. -/
def hostIops : EbsVolumeType → Option UInt64
  | .gp3 => some gp3BaselineIops
  | .io2 => some io2MinimumIops
  | .ephemeral => none

theorem newVolume_iops (id : Uuid) (volume : NewVolumeInput D) :
    ((newVolume id volume).volumeType, (newVolume id volume).provisionedIops) =
      (volume.volumeType.getD .ephemeral,
        volume.provisionedIops.or (hostIops (volume.volumeType.getD .ephemeral))) := by
  simp only [newVolume]
  cases volume.volumeType.getD .ephemeral <;> rfl

theorem newVmVolume_iops (id : Uuid) (volume : NewVolumeInput D) (index : Nat) :
    ((newVmVolume id volume index).volumeType, (newVmVolume id volume index).provisionedIops) =
      (draftVolumeType .ec2Vm index volume,
        volume.provisionedIops.or (hostIops (draftVolumeType .ec2Vm index volume))) := by
  refine (newVolume_iops id _).trans ?_
  have htype : (volume.volumeType.or (if index = 0 then some .gp3 else none)).getD .ephemeral =
      draftVolumeType .ec2Vm index volume := by
    rw [draftVolumeType]
    cases volume.volumeType <;> by_cases hfirst : index = 0 <;> simp [hfirst]
  rw [htype]

/-- The volumes of a resource have the type of their draft, and where the draft gives
no IOPS those of the host. -/
theorem volumeIops_newResource {memory : String → Option D} {freshId : Nat → Uuid}
    {input : NewResourceInput D} {resource : Resource D}
    (h : newResource memory freshId input = some resource) (number : Nat) :
    (volumeIops resource)[number]? = (draftVolumes input)[number]?.map fun volume =>
      (draftVolumeType input.sourceType number volume,
        volume.provisionedIops.or (hostIops (draftVolumeType input.sourceType number volume))) := by
  simp only [newResource] at h
  cases hsource : input.sourceType with
  | ec2 =>
      simp only [hsource, Option.some.injEq] at h
      subst h
      have hvolume : ∀ (id : Uuid) (volume : NewVolumeInput D), _ := newVolume_iops
      simp [volumeIops, draftVolumes, hsource, draftVolumeType, Function.comp_def, hvolume]
  | ec2Vm =>
      simp only [hsource, Option.some.injEq] at h
      subst h
      simp only [volumeIops, draftVolumes, hsource, List.getElem?_map, List.getElem?_mapIdx,
        Option.map_map, Function.comp_def, newVmVolume_iops]
      all_goals rfl
  | rds =>
      simp only [hsource, Option.some.injEq] at h
      subst h
      simp [volumeIops, draftVolumes, hsource]
  | onPrem =>
      simp only [hsource, Option.some.injEq] at h
      subst h
      simp [volumeIops, draftVolumes, hsource]
  | sqlPayg => simp [hsource] at h

omit [DecimalArith D] in
theorem eq_emptyVolumeInput {volume : NewVolumeInput D} {number : Nat}
    (h : [emptyVolumeInput][number]? = some volume) : volume = emptyVolumeInput :=
  List.mem_singleton.mp (List.mem_of_getElem? h)

omit [DecimalArith D] in
/-- A volume of the draft has the IOPS that were given at its position. -/
theorem provisionedIops_eq {resource : NewResourceInput D} {number : Nat}
    {volume : NewVolumeInput D} (h : (draftVolumes resource)[number]? = some volume) :
    (resource.volumes.bind fun volumes => volumes[number]?.bind NewVolumeInput.provisionedIops) =
      volume.provisionedIops := by
  simp only [draftVolumes] at h
  cases hsource : resource.sourceType with
  | ec2 =>
      cases hvolumes : resource.volumes with
      | none =>
          simp only [hsource, hvolumes, Option.getD_none] at h
          rw [eq_emptyVolumeInput h]
          rfl
      | some volumes =>
          simp only [hsource, hvolumes, Option.getD_some] at h
          simp [h]
  | ec2Vm =>
      cases hvolumes : resource.volumes with
      | none =>
          simp only [hsource, hvolumes] at h
          rw [eq_emptyVolumeInput h]
          rfl
      | some volumes =>
          cases volumes with
          | nil =>
              simp only [hsource, hvolumes] at h
              rw [eq_emptyVolumeInput h]
              simp [emptyVolumeInput]
          | cons first rest =>
              simp only [hsource, hvolumes] at h
              simp [h]
  | rds => simp [hsource] at h
  | onPrem => simp [hsource] at h
  | sqlPayg => simp [hsource] at h

omit [DecimalArith D] in
theorem suppliedIops_eq {input : StageNewProjectDraftInput D} {index number : Nat}
    {resource : NewResourceInput D} {volume : NewVolumeInput D}
    (hresource : (draftResources input)[index]? = some resource)
    (hvolume : (draftVolumes resource)[number]? = some volume) :
    suppliedIops input index number = volume.provisionedIops := by
  rw [draftResources] at hresource
  split_ifs at hresource with hpayg hnone
  · simp at hresource
  · obtain rfl := List.mem_singleton.mp (List.mem_of_getElem? hresource)
    rw [← provisionedIops_eq hvolume, suppliedIops, hnone]
    rfl
  · rw [← provisionedIops_eq hvolume, suppliedIops, hresource]
    rfl

/-- The host supplies IOPS of a type where a volume of the draft gets this type and
gives none. -/
theorem hostSuppliesIops_iff {memory : String → Option D} {freshId : Nat → Nat → Uuid}
    {input : StageNewProjectDraftInput D} {project : EditableProject D}
    (h : newProjectDraft memory freshId input = some project) {volumeType : EbsVolumeType}
    (hassumed : (hostIops volumeType).isSome = true) :
    HostSuppliesIops input project volumeType ↔ ∃ resource ∈ draftResources input,
      ∃ number volume, (draftVolumes resource)[number]? = some volume ∧
        draftVolumeType resource.sourceType number volume = volumeType ∧
        volume.provisionedIops = none := by
  constructor
  · rintro ⟨index, resource, number, iops, hresource, hvolume, hsupplied⟩
    have hmade := newProjectDraft_getElem? h index
    rw [hresource, Option.map_some, Option.map_eq_some_iff] at hmade
    obtain ⟨given, hgiven, hmade⟩ := hmade
    rw [volumeIops_newResource hmade, Option.map_eq_some_iff] at hvolume
    obtain ⟨volume, hvolume, heq⟩ := hvolume
    obtain ⟨htype, -⟩ := Prod.mk.inj heq
    rw [suppliedIops_eq hgiven hvolume] at hsupplied
    exact ⟨given, List.mem_of_getElem? hgiven, number, volume, hvolume, htype, hsupplied⟩
  · rintro ⟨given, hgiven, number, volume, hvolume, htype, hnone⟩
    obtain ⟨index, hindex⟩ := List.mem_iff_getElem?.mp hgiven
    have hmade := newProjectDraft_getElem? h index
    rw [hindex, Option.map_some, eq_comm, Option.map_eq_some_iff] at hmade
    obtain ⟨resource, hresource, hmade⟩ := hmade
    obtain ⟨iops, hiops⟩ := Option.isSome_iff_exists.mp hassumed
    refine ⟨index, resource, number, iops, hresource, ?_, (suppliedIops_eq hindex hvolume).trans hnone⟩
    rw [volumeIops_newResource hmade.symm, hvolume, Option.map_some, htype, hnone, Option.none_or,
      hiops]

/-! ### Where the host supplies IOPS -/

omit [DecimalArith D] in
/-- A volume of a type that bills IOPS has it from the model, or it is the operating
system disk of a virtual machine. -/
theorem draftVolumeType_eq_iff {sourceType : ProjectType} {number : Nat}
    {volume : NewVolumeInput D} {volumeType : EbsVolumeType} (h : volumeType ≠ .ephemeral) :
    draftVolumeType sourceType number volume = volumeType ↔ volume.volumeType = some volumeType ∨
      volumeType = .gp3 ∧ sourceType = .ec2Vm ∧ number = 0 ∧ volume.volumeType = none := by
  rw [draftVolumeType]
  cases volume.volumeType with
  | some given => simp
  | none =>
      rw [Option.getD_none]
      by_cases hos : sourceType = .ec2Vm ∧ number = 0
      · simp [hos, eq_comm]
      · rw [if_neg hos]
        simp only [reduceCtorEq, and_true, false_or]
        exact ⟨fun heq => absurd heq.symm h, fun hdisk => absurd ⟨hdisk.2.1, hdisk.2.2⟩ hos⟩

omit [DecimalArith D] in
/-- A volume with a type is one the model gave. -/
theorem mem_draftVolumes_iff {resource : NewResourceInput D} {volume : NewVolumeInput D}
    (h : volume.volumeType ≠ none) : volume ∈ draftVolumes resource ↔
      isEc2Source resource.sourceType = true ∧ volume ∈ resource.volumes.getD [] := by
  have hgiven : volume ≠ emptyVolumeInput := fun heq => h (heq ▸ rfl)
  rw [draftVolumes]
  cases resource.sourceType with
  | ec2 => cases resource.volumes <;> simp [isEc2Source, hgiven]
  | ec2Vm =>
      cases resource.volumes with
      | none => simp [isEc2Source, hgiven]
      | some volumes => cases volumes <;> simp [isEc2Source, hgiven]
  | _ => simp [isEc2Source]

omit [DecimalArith D] in
theorem exists_typed_volume_iff {input : StageNewProjectDraftInput D} {volumeType : EbsVolumeType}
    (hmatches : ∀ resource ∈ input.resources, resource.sourceType = input.projectType) :
    (∃ resource ∈ draftResources input, ∃ volume ∈ draftVolumes resource,
      volume.volumeType = some volumeType ∧ volume.provisionedIops = none) ↔
      assumedIops input volumeType = true := by
  simp only [assumedIops, Bool.and_eq_true, List.any_eq_true, decide_eq_true_eq,
    Option.isNone_iff_eq_none]
  constructor
  · rintro ⟨resource, hresource, volume, hvolume, htype, hiops⟩
    have hsome : volume.volumeType ≠ none := by simp [htype]
    obtain ⟨hsource, hgiven⟩ := (mem_draftVolumes_iff hsome).mp hvolume
    rw [sourceType_of_draftResources hmatches hresource] at hsource
    rw [draftResources] at hresource
    split_ifs at hresource with hpayg hnone
    · exact absurd hresource List.not_mem_nil
    · rw [List.mem_singleton.mp hresource] at hgiven
      exact absurd hgiven List.not_mem_nil
    · exact ⟨hsource, resource, hresource, volume, hgiven, hiops, htype⟩
  · rintro ⟨hsource, resource, hresource, volume, hgiven, hiops, htype⟩
    have hdraft : resource ∈ draftResources input := by
      have hpayg : input.projectType ≠ .sqlPayg := fun heq => by simp [heq, isEc2Source] at hsource
      rw [draftResources, if_neg hpayg, if_neg (List.ne_nil_of_mem hresource)]
      exact hresource
    have hsome : volume.volumeType ≠ none := by simp [htype]
    exact ⟨resource, hdraft, volume, (mem_draftVolumes_iff hsome).mpr
      ⟨hmatches resource hresource ▸ hsource, hgiven⟩, htype, hiops⟩

omit [DecimalArith D] in
/-- The first volume of a virtual machine has neither type nor IOPS from the model. -/
theorem first_volume_default_iff {resource : NewResourceInput D} (h : resource.sourceType = .ec2Vm) :
    (∃ volume, (draftVolumes resource)[0]? = some volume ∧ volume.volumeType = none ∧
      volume.provisionedIops = none) ↔
    (match resource.volumes with
      | some (first :: _) => first.volumeType.isNone && first.provisionedIops.isNone
      | _ => true) = true := by
  rw [draftVolumes, h]
  cases resource.volumes with
  | none => simp [emptyVolumeInput]
  | some volumes => cases volumes <;> simp [emptyVolumeInput]

omit [DecimalArith D] in
theorem exists_default_disk_iff {input : StageNewProjectDraftInput D}
    (hmatches : ∀ resource ∈ input.resources, resource.sourceType = input.projectType) :
    (∃ resource ∈ draftResources input, resource.sourceType = .ec2Vm ∧
      ∃ volume, (draftVolumes resource)[0]? = some volume ∧ volume.volumeType = none ∧
        volume.provisionedIops = none) ↔ defaultOsDisk input = true := by
  by_cases hvm : input.projectType = .ec2Vm
  · simp only [defaultOsDisk, hvm, decide_true, Bool.true_and, Bool.or_eq_true,
      List.isEmpty_iff]
    by_cases hnone : input.resources = []
    · have hstarter : draftResources input = [starterResource .ec2Vm] := by
        simp [draftResources, hvm, hnone]
      simp only [hnone, true_or, iff_true, hstarter, List.mem_singleton, exists_eq_left]
      exact ⟨rfl, emptyVolumeInput, rfl, rfl, rfl⟩
    · have hgiven : draftResources input = input.resources := by
        simp [draftResources, hvm, hnone]
      simp only [hgiven, hnone, false_or, List.any_eq_true]
      refine exists_congr fun resource => and_congr_right fun hresource => ?_
      have hsource := (hmatches resource hresource).trans hvm
      rw [← first_volume_default_iff hsource]
      exact and_iff_right hsource
  · simp only [defaultOsDisk, hvm, decide_false, Bool.false_and, Bool.false_eq_true, iff_false]
    rintro ⟨resource, hresource, hsource, -⟩
    exact hvm ((sourceType_of_draftResources hmatches hresource).symm.trans hsource)

/-- IOPS of the host: a volume whose type alone was given, or a disk of the host. -/
theorem hostSuppliesIops_gp3_iff {memory : String → Option D} {freshId : Nat → Nat → Uuid}
    {input : StageNewProjectDraftInput D} {project : EditableProject D}
    (h : newProjectDraft memory freshId input = some project)
    (hmatches : ∀ resource ∈ input.resources, resource.sourceType = input.projectType) :
    HostSuppliesIops input project .gp3 ↔
      assumedIops input .gp3 = true ∨ defaultOsDisk input = true := by
  rw [hostSuppliesIops_iff h rfl, ← exists_typed_volume_iff hmatches,
    ← exists_default_disk_iff hmatches]
  simp only [draftVolumeType_eq_iff (show EbsVolumeType.gp3 ≠ .ephemeral from nofun), true_and]
  constructor
  · rintro ⟨resource, hresource, number, volume, hvolume, htype | ⟨hvm, rfl, hnone⟩, hiops⟩
    · exact .inl ⟨resource, hresource, volume, List.mem_of_getElem? hvolume, htype, hiops⟩
    · exact .inr ⟨resource, hresource, hvm, volume, hvolume, hnone, hiops⟩
  · rintro (⟨resource, hresource, volume, hvolume, htype, hiops⟩ |
      ⟨resource, hresource, hvm, volume, hvolume, hnone, hiops⟩)
    · obtain ⟨number, hnumber⟩ := List.mem_iff_getElem?.mp hvolume
      exact ⟨resource, hresource, number, volume, hnumber, .inl htype, hiops⟩
    · exact ⟨resource, hresource, 0, volume, hvolume, .inr ⟨hvm, rfl, hnone⟩, hiops⟩

theorem hostSuppliesIops_io2_iff {memory : String → Option D} {freshId : Nat → Nat → Uuid}
    {input : StageNewProjectDraftInput D} {project : EditableProject D}
    (h : newProjectDraft memory freshId input = some project)
    (hmatches : ∀ resource ∈ input.resources, resource.sourceType = input.projectType) :
    HostSuppliesIops input project .io2 ↔ assumedIops input .io2 = true := by
  rw [hostSuppliesIops_iff h rfl, ← exists_typed_volume_iff hmatches]
  simp only [draftVolumeType_eq_iff (show EbsVolumeType.io2 ≠ .ephemeral from nofun), reduceCtorEq,
    false_and, or_false]
  constructor
  · rintro ⟨resource, hresource, number, volume, hvolume, htype, hiops⟩
    exact ⟨resource, hresource, volume, List.mem_of_getElem? hvolume, htype, hiops⟩
  · rintro ⟨resource, hresource, volume, hvolume, htype, hiops⟩
    obtain ⟨number, hnumber⟩ := List.mem_iff_getElem?.mp hvolume
    exact ⟨resource, hresource, number, volume, hnumber, htype, hiops⟩

/-! ### Where it says so -/

theorem mem_ite_singleton {condition : Prop} [Decidable condition] {text note : String} :
    (note ∈ if condition then [text] else []) ↔ condition ∧ note = text := by
  split_ifs with h <;> simp [h]

omit [DecimalArith D] in
theorem gp3AssumedIops_mem_iff {input : StageNewProjectDraftInput D} :
    gp3AssumedIops ∈ assumptionNotes input ↔ assumedIops input .gp3 = true := by
  simp only [assumptionNotes, List.mem_append, mem_ite_singleton]
  simp [gp3AssumedIops, io2AssumedIops]

omit [DecimalArith D] in
theorem io2AssumedIops_mem_iff {input : StageNewProjectDraftInput D} :
    io2AssumedIops ∈ assumptionNotes input ↔ assumedIops input .io2 = true := by
  simp only [assumptionNotes, List.mem_append, mem_ite_singleton]
  simp [gp3AssumedIops, io2AssumedIops]

/-- Where both sides have a cause in common, only the other causes can differ. -/
theorem supplied_iff_noted {common supplied noted : Prop} :
    (common ∨ supplied ↔ noted ∨ common) ↔ common ∨ (supplied ↔ noted) := by
  by_cases h : common
  · simp [h]
  · simp [h]

theorem supplied_iff_noted' {common noted : Prop} :
    (common ↔ noted ∨ common) ↔ common ∨ ¬ noted := by
  by_cases h : common
  · simp [h]
  · simp [h]

/-- Unless a volume that was given as gp3 calls for the note, an operating system disk
left to the host goes with a note of the model to the same effect; and the model writes
the io2 note only where a volume calls for it. -/
def DisclosureApplies (input : StageNewProjectDraftInput D) : Prop :=
  (assumedIops input .gp3 = true ∨
    (defaultOsDisk input = true ↔ gp3AssumedIops ∈ input.uncertainties)) ∧
  (assumedIops input .io2 = true ∨ io2AssumedIops ∉ input.uncertainties)

/-- What the host supplies is what it discloses, but for the default operating system
disk of a virtual machine, which no note is written for, and for a note of the host's
wording that the model wrote itself. -/
theorem assumed_iops_disclosed_iff {definition : ToolDefinition} {arguments action : String}
    {input : StageNewProjectDraftInput D} {history later : History D}
    {project : EditableProject D} {omissions uncertainties : List String}
    (hparse : parseInput host.jsonLibrary definition arguments = .ok (.stageNewProjectDraft input))
    (hdispatch : dispatch host context (.stageNewProjectDraft input) history =
      (.ok (.staged (some (.newProjectDraft ⟨action, project⟩)) omissions uncertainties), later)) :
    IopsDisclosed input project uncertainties ↔ DisclosureApplies input := by
  obtain ⟨haccepted, hproject, rfl⟩ := dispatch_eq_newProjectDraft hparse hdispatch
  have hmatches := fun resource hresource => (haccepted resource hresource).1
  have hparts : IopsDisclosed input project (input.uncertainties ++ assumptionNotes input) ↔
      (HostSuppliesIops input project .gp3 ↔
        gp3AssumedIops ∈ input.uncertainties ++ assumptionNotes input) ∧
      (HostSuppliesIops input project .io2 ↔
        io2AssumedIops ∈ input.uncertainties ++ assumptionNotes input) :=
    ⟨fun h => ⟨h.gp3, h.io2⟩, fun h => ⟨h.1, h.2⟩⟩
  rw [hparts, hostSuppliesIops_gp3_iff hproject hmatches, hostSuppliesIops_io2_iff hproject hmatches,
    List.mem_append, List.mem_append, gp3AssumedIops_mem_iff, io2AssumedIops_mem_iff]
  exact and_congr supplied_iff_noted supplied_iff_noted'

end Disclosure

namespace IopsWitness

open DecimalArith DraftWitness

/-- A virtual machine with one volume of 128 GB, of a given type or of none. -/
def machine (volumeType : Option EbsVolumeType) : NewResourceInput Decimal96 :=
  { starterResource .ec2Vm with
    sourceRamGbPerInstance := some (ofNat 64)
    volumes := some [{ emptyVolumeInput with
      volumeType := volumeType
      capacityGb := some (ofNat 128) }] }

def machineJson (volumeType : List (String × Json)) : Json := .object [
  ("source_ram_gb_per_instance", .string "64"),
  ("source_type", .string "ec2_vm"),
  ("volumes", .array [.object (("capacity_gb", .string "128") :: volumeType)])]

def machineFields (volumeType : List (String × Json)) : List (String × Json) :=
  draftFields .ec2Vm [machineJson volumeType] []

def machineDraft (volumeType : Option EbsVolumeType) : StageNewProjectDraftInput Decimal96 :=
  draft .ec2Vm [machine volumeType] []

def machineHost (fields : List (String × Json)) (volumeType : Option EbsVolumeType) :
    Host Decimal96 :=
  draftHost (.object (machineFields fields)) (machineDraft volumeType)

theorem parseInput_machine {fields : List (String × Json)} {volumeType : Option EbsVolumeType}
    (h : normalizeItems (machineHost fields volumeType).jsonLibrary [machineJson fields] =
      .ok [machineJson fields]) :
    parseInput (machineHost fields volumeType).jsonLibrary draftTool
      (Json.object (machineFields fields)).render =
        .ok (.stageNewProjectDraft (machineDraft volumeType)) :=
  parseInput_draft (normalize_draftFields h) rfl rfl rfl

def machineProject (volumeType : Option EbsVolumeType) : EditableProject Decimal96 where
  name := "SQL TCO estimate"
  description := none
  settings := newSettings .ec2Vm noSettings
  resources := (newResource (fun _ => none) (fun volume => ⟨BitVec.ofNat 128 volume⟩)
    (machine volumeType)).toList
  awsPriceSnapshotId := none
  azurePriceSnapshotId := none

theorem dispatch_machine (fields : List (String × Json)) (volumeType : Option EbsVolumeType)
    (hvalid : (machineProject volumeType).validate = []) :
    dispatch (machineHost fields volumeType) newContext
      (.stageNewProjectDraft (machineDraft volumeType)) [] =
        (.ok (.staged (some (.newProjectDraft ⟨"open_project_draft", machineProject volumeType⟩)) []
          ([] ++ assumptionNotes (machineDraft volumeType))), []) :=
  dispatch_stageNewProjectDraft rfl rfl rfl hvalid

end IopsWitness

open IopsWitness DraftWitness in
/-- A disk that was given its type but no IOPS is disclosed. -/
theorem assumed_iops_disclosed_gp3 : IopsDisclosed (machineDraft (some .gp3))
    (machineProject (some .gp3)) ([] ++ assumptionNotes (machineDraft (some .gp3))) :=
  (assumed_iops_disclosed_iff
    (@parseInput_machine [("volume_type", .string "gp3")] (some .gp3) rfl)
    (dispatch_machine _ (some .gp3) (by decide +kernel))).mpr
      ⟨.inl (by decide), .inr List.not_mem_nil⟩

open IopsWitness DraftWitness in
/-- A disk that was given only its size gets the IOPS of the host without a note. -/
theorem default_disk_iops_undisclosed :
    parseInput (machineHost [] none).jsonLibrary draftTool
        (Json.object (machineFields [])).render = .ok (.stageNewProjectDraft (machineDraft none)) ∧
      dispatch (machineHost [] none) newContext (.stageNewProjectDraft (machineDraft none)) [] =
        (.ok (.staged (some (.newProjectDraft ⟨"open_project_draft", machineProject none⟩)) []
          ([] ++ assumptionNotes (machineDraft none))), []) ∧
      ¬ IopsDisclosed (machineDraft none) (machineProject none)
        ([] ++ assumptionNotes (machineDraft none)) := by
  refine ⟨parseInput_machine rfl, dispatch_machine [] none (by decide +kernel), fun hdisclosed => ?_⟩
  have hsupplied : HostSuppliesIops (machineDraft none) (machineProject none) .gp3 :=
    ⟨0, _, 0, _, rfl, rfl, rfl⟩
  exact absurd (hdisclosed.gp3.mp hsupplied) (by decide)

end TcoCalculator.Assistant
