/-
Which candidates pass the filters of the VM selection, and with which disks.
-/
import TcoCalculator.Calculation.VmDiskChoice

namespace TcoCalculator.VmTargetSelector

open DecimalArith Fallible Halt

variable {D : Type} [DecimalArith D]

/-! ### Filters -/

/-- What a size must be and offer, whatever its disks. -/
structure SizeFits (request : VmTargetSelectionRequest D) (candidate : VmSizeCandidate D) :
    Prop where
  region : eqIgnoreAsciiCase candidate.azureRegion request.azureRegion = true
  lineage : candidate.lineage = request.sourceClass.targetLineage
  lifecycle : candidate.lifecycle = .current
  windows : candidate.windowsEligible = true
  architecture : eqIgnoreAsciiCase candidate.cpuArchitecture "x64" = true
  premiumIo : candidate.premiumIo = true
  vcpus : request.minimumVcpu ≤ candidate.vcpus
  memory : value request.minimumMemoryGb ≤ value candidate.memoryGb
  localDisk : request.requiresLocalTempDisk = true →
    value request.minimumLocalTempDiskGb ≤ value (candidate.localTempDiskGb.getD zero)
  dataDisks : (request.volumes.filter fun volume => volume.role == .data).length ≤
    candidate.maxDataDiskCount.toNat

/-- The sums over the disks are within the limits.  The check takes the sum of
IOPS modulo 2^64. -/
structure AggregateFits (candidate : VmSizeCandidate D) (disks : List (SelectedManagedDisk D)) :
    Prop where
  iops : (disks.map SelectedManagedDisk.provisionedIops).foldl (· + ·) 0 ≤
    candidate.uncachedDiskIops
  throughput : ∃ total, sum (disks.map SelectedManagedDisk.provisionedThroughputMbps) = .ok total ∧
    value total ≤ value (ofNat candidate.uncachedDiskThroughputMbps.toNat : D)

/-- Where prices are asked for, the size and its disks have them. -/
def Priced (availability : Option (VmPriceAvailability D)) (candidate : VmSizeCandidate D)
    (disks : List (SelectedManagedDisk D)) : Prop :=
  ∀ rates, availability = some rates → (hourlyRateOf rates candidate.armSkuName).isSome = true ∧
    ∀ disk ∈ disks, managedDiskPriceIsComplete rates disk = true

/-- A candidate that passes every filter with the smallest disk for each volume. -/
structure Eligible (catalog : ManagedDiskCatalog D) (request : VmTargetSelectionRequest D)
    (evaluated : EvaluatedCandidate D) : Prop where
  size : SizeFits request evaluated.candidate
  disks : List.Forall₂ (SmallestDisk catalog request.azureRegion) request.volumes evaluated.disks
  aggregate : AggregateFits evaluated.candidate evaluated.disks
  priced : Priced request.priceAvailability evaluated.candidate evaluated.disks
  hourlyRate : evaluated.hourlyRate =
    request.priceAvailability.bind (hourlyRateOf · evaluated.candidate.armSkuName)

/-- All candidates of a request get the same disks. -/
theorem smallestDisks_unique {catalog : ManagedDiskCatalog D} {azureRegion : String}
    {volumes : List (VmVolumeRequirement D)} {disks disks' : List (SelectedManagedDisk D)}
    (h : List.Forall₂ (SmallestDisk catalog azureRegion) volumes disks)
    (h' : List.Forall₂ (SmallestDisk catalog azureRegion) volumes disks') : disks = disks' := by
  have hunique : Relator.RightUnique (SmallestDisk catalog azureRegion) :=
    fun _ _ _ => SmallestDisk.unique
  exact List.right_unique_forall₂' hunique h h'

/-- A candidate is evaluated in one way. -/
theorem Eligible.unique {catalog : ManagedDiskCatalog D} {request : VmTargetSelectionRequest D}
    {left right : EvaluatedCandidate D} (hleft : Eligible catalog request left)
    (hright : Eligible catalog request right) (h : left.candidate = right.candidate) :
    left = right := by
  obtain ⟨candidate, disks, hourlyRate⟩ := left
  obtain ⟨candidate', disks', hourlyRate'⟩ := right
  have hrate := hleft.hourlyRate
  have hrate' := hright.hourlyRate
  have hdisks : disks = disks' := smallestDisks_unique hleft.disks hright.disks
  dsimp only at h hrate hrate'
  rw [h, hdisks, hrate, hrate', h]

/-! ### Reasons -/

@[simp] theorem reasonWhen_eq_nil {rejected : Bool} {code : VmSelectionReasonCode}
    {detail : String} : reasonWhen rejected code detail = [] ↔ rejected = false := by
  cases rejected <;> simp [reasonWhen]

theorem sizeReasons_eq_nil {request : VmTargetSelectionRequest D} {candidate : VmSizeCandidate D}
    (hregion : eqIgnoreAsciiCase candidate.azureRegion request.azureRegion = true)
    (hlineage : candidate.lineage = request.sourceClass.targetLineage) :
    sizeReasons request candidate = [] ↔ SizeFits request candidate := by
  simp only [sizeReasons, List.append_eq_nil_iff, reasonWhen_eq_nil, decide_eq_false_iff_not,
    Bool.not_eq_false', Bool.and_eq_false_iff, not_lt, UInt32.not_lt, ne_eq, not_not, and_assoc]
  constructor
  · rintro ⟨hlifecycle, hwindows, harchitecture, hpremium, hvcpus, hmemory, hlocal, hdata⟩
    exact ⟨hregion, hlineage, hlifecycle, hwindows, harchitecture, hpremium, hvcpus, hmemory,
      fun hrequired => hlocal.resolve_left (by simp [hrequired]), hdata⟩
  · intro h
    refine ⟨h.lifecycle, h.windows, h.architecture, h.premiumIo, h.vcpus, h.memory, ?_,
      h.dataDisks⟩
    by_cases hrequired : request.requiresLocalTempDisk = true
    · exact .inr (h.localDisk hrequired)
    · exact .inl (by simpa using hrequired)

theorem aggregateReasons_eq_nil {request : VmTargetSelectionRequest D}
    {candidate : VmSizeCandidate D} {disks : List (SelectedManagedDisk D)}
    (hlength : disks.length = request.volumes.length) {reasons : List VmSelectionReason}
    (h : aggregateReasons request candidate disks = .ok reasons) :
    reasons = [] ↔ AggregateFits candidate disks := by
  unfold aggregateReasons at h
  rw [if_pos hlength] at h
  obtain ⟨total, htotal, h⟩ := bind_eq_ok.mp h
  cases h
  simp only [List.append_eq_nil_iff, reasonWhen_eq_nil, decide_eq_false_iff_not, not_lt,
    UInt64.not_lt]
  constructor
  · rintro ⟨hiops, hthroughput⟩
    exact ⟨hiops, total, htotal, hthroughput⟩
  · rintro ⟨hiops, total', htotal', hthroughput⟩
    cases htotal.symm.trans htotal'
    exact ⟨hiops, hthroughput⟩

theorem priceReasons_eq_nil {availability : Option (VmPriceAvailability D)}
    {candidate : VmSizeCandidate D} {disks : List (SelectedManagedDisk D)} :
    priceReasons availability candidate
        (availability.bind (hourlyRateOf · candidate.armSkuName)) disks = [] ↔
      Priced availability candidate disks := by
  cases availability with
  | none => simp [priceReasons, Priced]
  | some rates =>
      simp [priceReasons, Priced, List.append_eq_nil_iff, List.flatMap_eq_nil_iff,
        Option.isSome_iff_ne_none]

/-! ### Disks of a request -/

/-- A volume with the disk selected for it. -/
def SelectedFor (catalog : ManagedDiskCatalog D) (azureRegion : String)
    (volume : VmVolumeRequirement D)
    (choice : VmVolumeRequirement D × Option (SelectedManagedDisk D)) : Prop :=
  choice.1 = volume ∧ selectDisk catalog azureRegion volume = .ok choice.2

theorem selected_of_choices {catalog : ManagedDiskCatalog D} {azureRegion : String}
    {volumes : List (VmVolumeRequirement D)}
    {choices : List (VmVolumeRequirement D × Option (SelectedManagedDisk D))}
    (h : volumes.mapM (fun volume => do
      return (volume, ← selectDisk catalog azureRegion volume)) = .ok choices) :
    List.Forall₂ (SelectedFor catalog azureRegion) volumes choices := by
  refine (mapM_eq_ok.mp h).imp fun volume choice hchoice => ?_
  obtain ⟨best, hbest, hpair⟩ := bind_eq_ok.mp hchoice
  cases hpair
  exact ⟨rfl, hbest⟩

/-- The chosen disks are the smallest ones of all volumes. -/
theorem smallest_of_choices {catalog : ManagedDiskCatalog D} {azureRegion : String}
    {volumes : List (VmVolumeRequirement D)}
    {choices : List (VmVolumeRequirement D × Option (SelectedManagedDisk D))}
    (h : List.Forall₂ (SelectedFor catalog azureRegion) volumes choices)
    (hall : ∀ choice ∈ choices, choice.2.isSome = true) :
    List.Forall₂ (SmallestDisk catalog azureRegion) volumes (choices.filterMap Prod.snd) := by
  induction h with
  | nil => exact .nil
  | @cons volume choice _ choices hfirst _ ih =>
      obtain ⟨disk, hdisk⟩ := Option.isSome_iff_exists.mp (hall choice List.mem_cons_self)
      rw [List.filterMap_cons_some hdisk]
      exact .cons (smallestDisk_of_select (hdisk ▸ hfirst.2))
        (ih fun other hother => hall other (List.mem_cons_of_mem choice hother))

theorem choices_of_smallest {catalog : ManagedDiskCatalog D} {azureRegion : String}
    {volumes : List (VmVolumeRequirement D)}
    {choices : List (VmVolumeRequirement D × Option (SelectedManagedDisk D))}
    (h : List.Forall₂ (SelectedFor catalog azureRegion) volumes choices)
    {disks : List (SelectedManagedDisk D)}
    (hdisks : List.Forall₂ (SmallestDisk catalog azureRegion) volumes disks) :
    choices.filterMap Prod.snd = disks ∧ ∀ choice ∈ choices, choice.2.isSome = true := by
  induction h generalizing disks with
  | nil => simp [List.forall₂_nil_left_iff.mp hdisks]
  | @cons volume choice _ choices hfirst _ ih =>
      obtain ⟨disk, rest, hdisk, hrest, rfl⟩ := List.forall₂_cons_left_iff.mp hdisks
      obtain ⟨hchosen, hall⟩ := ih hrest
      have hsome := (selectDisk_eq_some_iff hfirst.2).mpr hdisk
      rw [List.filterMap_cons_some hsome, hchosen]
      refine ⟨rfl, fun other hother => ?_⟩
      rcases List.mem_cons.mp hother with rfl | hother
      · simp [hsome]
      · exact hall other hother

theorem diskReasons_eq_nil {request : VmTargetSelectionRequest D}
    {choices : List (VmVolumeRequirement D × Option (SelectedManagedDisk D))} :
    choices.flatMap (diskReason request) = [] ↔ ∀ choice ∈ choices, choice.2.isSome = true := by
  simp [diskReason, List.flatMap_eq_nil_iff, Option.isSome_iff_ne_none]

/-! ### Evaluation -/

theorem evaluateInLineage_eligible {catalog : ManagedDiskCatalog D}
    {request : VmTargetSelectionRequest D} {candidate : VmSizeCandidate D}
    {evaluation : VmCandidateEvaluation D} {found : Option (EvaluatedCandidate D)}
    (h : evaluateInLineage catalog request candidate = .ok (evaluation, found))
    (hregion : eqIgnoreAsciiCase candidate.azureRegion request.azureRegion = true)
    (hlineage : candidate.lineage = request.sourceClass.targetLineage)
    {evaluated : EvaluatedCandidate D} :
    found = some evaluated ↔ evaluated.candidate = candidate ∧ Eligible catalog request evaluated := by
  unfold evaluateInLineage at h
  obtain ⟨choices, hchoices, h⟩ := bind_eq_ok.mp h
  obtain ⟨aggregate, haggregate, h⟩ := bind_eq_ok.mp h
  have hselected := selected_of_choices hchoices
  obtain ⟨-, hfound⟩ := Prod.mk.inj (Except.ok.inj h)
  rw [← hfound]
  simp only [Option.ite_none_right_eq_some, List.isEmpty_iff, List.append_eq_nil_iff,
    diskReasons_eq_nil, priceReasons_eq_nil, sizeReasons_eq_nil hregion hlineage, Option.some.injEq]
  constructor
  · rintro ⟨⟨⟨⟨hsize, hall⟩, hnone⟩, hpriced⟩, rfl⟩
    have hdisks := smallest_of_choices hselected hall
    exact ⟨rfl, hsize, hdisks,
      (aggregateReasons_eq_nil hdisks.length_eq.symm haggregate).mp hnone, hpriced, rfl⟩
  · rintro ⟨rfl, heligible⟩
    obtain ⟨hchosen, hall⟩ := choices_of_smallest hselected heligible.disks
    rw [hchosen] at haggregate ⊢
    refine ⟨⟨⟨⟨heligible.size, hall⟩, ?_⟩, heligible.priced⟩, ?_⟩
    · exact (aggregateReasons_eq_nil heligible.disks.length_eq.symm haggregate).mpr
        heligible.aggregate
    · rw [← heligible.hourlyRate]

/-- A candidate is found eligible when it passes the filters. -/
theorem evaluateCandidate_eligible {catalog : ManagedDiskCatalog D}
    {request : VmTargetSelectionRequest D} {candidate : VmSizeCandidate D}
    {result : Option (VmCandidateEvaluation D × Option (EvaluatedCandidate D))}
    (h : evaluateCandidate catalog request candidate = .ok result)
    {evaluated : EvaluatedCandidate D} :
    result.bind Prod.snd = some evaluated ↔
      evaluated.candidate = candidate ∧ Eligible catalog request evaluated := by
  unfold evaluateCandidate at h
  dsimp only at h
  split at h
  · rename_i hregion
    cases h
    constructor
    · simp
    · rintro ⟨rfl, heligible⟩
      simp [heligible.size.region] at hregion
  · rename_i hregion
    split at h
    · rename_i hlineage
      constructor
      · split at h <;> cases h <;> simp
      · rintro ⟨rfl, heligible⟩
        exact absurd heligible.size.lineage hlineage
    · rename_i hlineage
      cases hevaluate : evaluateInLineage catalog request candidate with
      | error fault => simp [hevaluate] at h
      | ok pair =>
          simp only [hevaluate] at h
          cases h
          exact evaluateInLineage_eligible hevaluate (by simpa using hregion)
            (not_not.mp hlineage)

/-! ### Selection -/

/-- The candidates found eligible, in the order of the catalog. -/
def eligibleOf
    (results : List (Option (VmCandidateEvaluation D × Option (EvaluatedCandidate D)))) :
    List (EvaluatedCandidate D) :=
  (results.filterMap id).filterMap Prod.snd

omit [DecimalArith D] in
theorem eligibleOf_eq
    (results : List (Option (VmCandidateEvaluation D × Option (EvaluatedCandidate D)))) :
    eligibleOf results = results.filterMap fun result => result.bind Prod.snd := by
  unfold eligibleOf
  rw [List.filterMap_filterMap]
  rfl

theorem mem_eligibleOf {catalog : ManagedDiskCatalog D} {request : VmTargetSelectionRequest D}
    {candidates : List (VmSizeCandidate D)}
    {results : List (Option (VmCandidateEvaluation D × Option (EvaluatedCandidate D)))}
    (h : candidates.mapM (evaluateCandidate catalog request) = .ok results)
    {evaluated : EvaluatedCandidate D} :
    evaluated ∈ eligibleOf results ↔
      evaluated.candidate ∈ candidates ∧ Eligible catalog request evaluated := by
  rw [eligibleOf_eq]
  induction mapM_eq_ok.mp h with
  | nil => simp
  | @cons candidate result _ _ hfirst hrest ih =>
      rw [List.mem_filterMap] at ih ⊢
      rw [List.exists_mem_cons_iff, evaluateCandidate_eligible hfirst, ih (mapM_eq_ok.mpr hrest),
        List.mem_cons, or_and_right]

/-- The candidates found eligible stand in the order of the catalog. -/
theorem eligibleOf_sublist {catalog : ManagedDiskCatalog D} {request : VmTargetSelectionRequest D}
    {candidates : List (VmSizeCandidate D)}
    {results : List (Option (VmCandidateEvaluation D × Option (EvaluatedCandidate D)))}
    (h : candidates.mapM (evaluateCandidate catalog request) = .ok results) :
    ((eligibleOf results).map EvaluatedCandidate.candidate).Sublist candidates := by
  rw [eligibleOf_eq]
  induction mapM_eq_ok.mp h with
  | nil => exact .slnil
  | @cons candidate result _ _ hfirst hrest ih =>
      have ih := ih (mapM_eq_ok.mpr hrest)
      cases hresult : result.bind Prod.snd with
      | none =>
          simp only [List.filterMap_cons, hresult]
          exact ih.cons candidate
      | some evaluated =>
          simp only [List.filterMap_cons, hresult, List.map_cons]
          rw [((evaluateCandidate_eligible hfirst).mp hresult).1]
          exact ih.cons_cons candidate

/-- The selection made of the best candidate. -/
def outcomeOf (request : VmTargetSelectionRequest D) (best : Option (EvaluatedCandidate D))
    (candidates : List (VmCandidateEvaluation D)) : VmTargetSelection D where
  mappingStatus := if best.isSome then .mapped else .noMapping
  recommendationStatus := if best.isSome then .recommended else .noEligibleTarget
  requestedLineage := request.sourceClass.targetLineage
  selected := best.map selectedVmTarget
  candidates := candidates
  outcomeReasons := if best.isSome then [] else [noTargetReason request]

theorem selectVmTarget_eq_ok {vmCatalog : VmCapabilityCatalog D}
    {diskCatalog : ManagedDiskCatalog D} {request : VmTargetSelectionRequest D}
    {selection : VmTargetSelection D} :
    selectVmTarget vmCatalog diskCatalog request = .ok selection ↔
      validateRequest request = .ok () ∧
      ∃ results, vmCatalog.candidates.mapM (evaluateCandidate diskCatalog request) = .ok results ∧
      ∃ best, bestCandidate request (eligibleOf results) = .ok best ∧
        selection = outcomeOf request best (((results.filterMap id).map Prod.fst).insertionSort
          fun left right => compare left.armSkuName right.armSkuName ≠ .gt) := by
  unfold selectVmTarget
  constructor
  · intro h
    obtain ⟨_, hvalid, h⟩ := bind_eq_ok.mp h
    obtain ⟨results, hresults, h⟩ := bind_eq_ok.mp h
    obtain ⟨best, hbest, h⟩ := bind_eq_ok.mp h
    refine ⟨hvalid, results, liftM_eq_ok.mp hresults, best, liftM_eq_ok.mp hbest, ?_⟩
    cases best <;> cases h <;> rfl
  · rintro ⟨hvalid, results, hresults, best, hbest, rfl⟩
    rw [hvalid, ok_bind, hresults]
    refine bind_eq_ok.mpr ⟨results, rfl, bind_eq_ok.mpr ⟨best, liftM_eq_ok.mpr hbest, ?_⟩⟩
    cases best <;> rfl

theorem mem_of_bestCandidate {request : VmTargetSelectionRequest D}
    {eligible : List (EvaluatedCandidate D)} {best : EvaluatedCandidate D}
    (h : bestCandidate request eligible = .ok (some best)) : best ∈ eligible := by
  unfold bestCandidate at h
  split at h
  · exact List.mem_of_find?_eq_some (Except.ok.inj h)
  · exact Sorting.minByM_mem h

/-- A selected target is an eligible candidate of the catalog. -/
theorem passes_of_selected {vmCatalog : VmCapabilityCatalog D}
    {diskCatalog : ManagedDiskCatalog D} {request : VmTargetSelectionRequest D}
    {selection : VmTargetSelection D} {selected : SelectedVmTarget D}
    (h : selectVmTarget vmCatalog diskCatalog request = .ok selection)
    (hselected : selection.selected = some selected) :
    ∃ evaluated, selectedVmTarget evaluated = selected ∧
      evaluated.candidate ∈ vmCatalog.candidates ∧ Eligible diskCatalog request evaluated := by
  obtain ⟨-, results, hresults, best, hbest, rfl⟩ := selectVmTarget_eq_ok.mp h
  obtain ⟨evaluated, rfl, htarget⟩ := Option.map_eq_some_iff.mp hselected
  exact ⟨evaluated, htarget, (mem_eligibleOf hresults).mp (mem_of_bestCandidate hbest)⟩

end TcoCalculator.VmTargetSelector
