/-
The VM selection is sound, best by rank and blind to the order of the catalogs
as long as the sum of IOPS does not wrap, the override names one candidate, and
a tie does not need a capacity beyond the decimals.
-/
import Mathlib.Data.UInt
import TcoCalculator.Calculation.VmCompleteness
import TcoCalculator.Calculation.VmSelection

namespace TcoCalculator.VmTargetSelector

open DecimalArith Fallible Sorting

/-! ### Candidates -/

theorem eqIgnoreAsciiCase_iff {a b : String} :
    eqIgnoreAsciiCase a b = true ↔ toAsciiLowercase a = toAsciiLowercase b :=
  beq_iff_eq

/-- No two candidates of a region share a name. -/
def DistinctSkus (catalog : VmCapabilityCatalog Decimal96) : Prop :=
  catalog.candidates.Pairwise fun left right =>
    eqIgnoreAsciiCase left.azureRegion right.azureRegion = true →
      left.armSkuName ≠ right.armSkuName

/-- The candidate is the one asked for, where one is. -/
def Requested (request : VmTargetSelectionRequest Decimal96)
    (candidate : VmSizeCandidate Decimal96) : Prop :=
  ∀ requested, request.requestedTargetArmSku = some requested →
    eqIgnoreAsciiCase candidate.armSkuName requested = true

/-- A candidate of the catalog that passes all filters. -/
def Passes (vmCatalog : VmCapabilityCatalog Decimal96) (diskCatalog : ManagedDiskCatalog Decimal96)
    (request : VmTargetSelectionRequest Decimal96) (evaluated : EvaluatedCandidate Decimal96) :
    Prop :=
  evaluated.candidate ∈ vmCatalog.candidates ∧ Eligible diskCatalog request evaluated

section Candidates

variable {vmCatalog : VmCapabilityCatalog Decimal96} {diskCatalog : ManagedDiskCatalog Decimal96}
  {request : VmTargetSelectionRequest Decimal96} {left right : EvaluatedCandidate Decimal96}

/-- A name stands for one candidate. -/
theorem Passes.eq_of_name (hdistinct : DistinctSkus vmCatalog)
    (hleft : Passes vmCatalog diskCatalog request left)
    (hright : Passes vmCatalog diskCatalog request right)
    (h : left.candidate.armSkuName = right.candidate.armSkuName) : left = right := by
  apply hleft.2.unique hright.2
  by_contra hne
  have _ : Std.Symm fun left right : VmSizeCandidate Decimal96 =>
      eqIgnoreAsciiCase left.azureRegion right.azureRegion = true →
        left.armSkuName ≠ right.armSkuName := by
    constructor
    intro a b hab hregion
    rw [eqIgnoreAsciiCase_iff] at hregion
    exact (hab (eqIgnoreAsciiCase_iff.mpr hregion.symm)).symm
  have hregion : eqIgnoreAsciiCase left.candidate.azureRegion right.candidate.azureRegion =
      true := by
    have hl := eqIgnoreAsciiCase_iff.mp hleft.2.size.region
    have hr := eqIgnoreAsciiCase_iff.mp hright.2.size.region
    exact eqIgnoreAsciiCase_iff.mpr (hl.trans hr.symm)
  exact List.Pairwise.forall hdistinct hleft.1 hright.1 hne hregion h

theorem nodup_of_distinctSkus (h : DistinctSkus vmCatalog) : vmCatalog.candidates.Nodup := by
  apply List.Pairwise.imp _ h
  rintro left _ hnames rfl
  exact hnames (eqIgnoreAsciiCase_iff.mpr rfl) rfl

end Candidates

/-! ### The best candidate -/

section Best

variable {request : VmTargetSelectionRequest Decimal96}
  {eligible : List (EvaluatedCandidate Decimal96)} {best : EvaluatedCandidate Decimal96}

theorem requested_of_none (hoverride : request.requestedTargetArmSku = none)
    (candidate : VmSizeCandidate Decimal96) : Requested request candidate := by
  intro requested hrequested
  rw [hoverride] at hrequested
  exact absurd hrequested (by simp)

theorem requested_iff {requested : String} (hoverride : request.requestedTargetArmSku = some requested)
    (candidate : VmSizeCandidate Decimal96) :
    Requested request candidate ↔ eqIgnoreAsciiCase candidate.armSkuName requested = true := by
  simp [Requested, hoverride]

theorem bestCandidate_some (h : bestCandidate request eligible = .ok (some best)) :
    best ∈ eligible ∧ Requested request best.candidate ∧
      (request.requestedTargetArmSku = none →
        ∀ other ∈ eligible, other = best ∨ NoLater rank best other) := by
  unfold bestCandidate at h
  cases hoverride : request.requestedTargetArmSku with
  | none =>
      rw [hoverride] at h
      have hfirst := rank_byKeys.minByM_first h
      exact ⟨hfirst.mem, requested_of_none hoverride _, fun _ => hfirst.noLater rank_byKeys.orders⟩
  | some requested =>
      rw [hoverride] at h
      have hfind := Except.ok.inj h
      have hname := List.find?_some hfind
      exact ⟨List.mem_of_find?_eq_some hfind, (requested_iff hoverride _).mpr hname, by simp⟩

theorem bestCandidate_none (h : bestCandidate request eligible = .ok none) :
    ∀ other ∈ eligible, ¬ Requested request other.candidate := by
  unfold bestCandidate at h
  cases hoverride : request.requestedTargetArmSku with
  | none =>
      rw [hoverride] at h
      rw [minByM_eq_none.mp h]
      simp
  | some requested =>
      rw [hoverride] at h
      intro other hother hrequested
      exact List.find?_eq_none.mp (Except.ok.inj h) other hother
        ((requested_iff hoverride _).mp hrequested)

end Best

/-! ### Reordered catalogs -/

section Reordered

variable {vmCatalog vmCatalog' : VmCapabilityCatalog Decimal96}
  {diskCatalog diskCatalog' : ManagedDiskCatalog Decimal96}
  {request : VmTargetSelectionRequest Decimal96}

/-- A candidate is evaluated alike whatever the order of the offers. -/
theorem evaluateCandidate_perm (hdistinct : DistinctOffers diskCatalog)
    (hperm : diskCatalog.offers.Perm diskCatalog'.offers) {candidate : VmSizeCandidate Decimal96}
    {result : Option (VmCandidateEvaluation Decimal96 × Option (EvaluatedCandidate Decimal96))}
    (h : evaluateCandidate diskCatalog request candidate = .ok result) :
    evaluateCandidate diskCatalog' request candidate = .ok result := by
  unfold evaluateCandidate at h ⊢
  dsimp only at h ⊢
  split at h
  · rename_i hregion
    rw [if_pos hregion]
    exact h
  · rename_i hregion
    rw [if_neg hregion]
    split at h
    · rename_i hlineage
      rw [if_pos hlineage]
      exact h
    · rename_i hlineage
      rw [if_neg hlineage]
      cases hevaluate : evaluateInLineage diskCatalog request candidate with
      | error fault => simp [hevaluate] at h
      | ok pair =>
          have hagain : evaluateInLineage diskCatalog' request candidate = .ok pair := by
            unfold evaluateInLineage at hevaluate ⊢
            obtain ⟨choices, hchoices, hrest⟩ := bind_eq_ok.mp hevaluate
            refine bind_eq_ok.mpr ⟨choices, mapM_eq_ok.mpr ?_, hrest⟩
            refine (mapM_eq_ok.mp hchoices).imp fun volume choice hchoice => ?_
            obtain ⟨best, hbest, hpair⟩ := bind_eq_ok.mp hchoice
            exact bind_eq_ok.mpr ⟨best, selectDisk_perm hdistinct hperm hbest, hpair⟩
          rw [hagain]
          rw [hevaluate] at h
          exact h

/-- All candidates of a reordered catalog are evaluated. -/
theorem evaluateCandidates_perm (hoffers : DistinctOffers diskCatalog)
    (hcandidates : vmCatalog.candidates.Perm vmCatalog'.candidates)
    (hperm : diskCatalog.offers.Perm diskCatalog'.offers)
    {results : List (Option (VmCandidateEvaluation Decimal96 × Option (EvaluatedCandidate Decimal96)))}
    (h : vmCatalog.candidates.mapM (evaluateCandidate diskCatalog request) = .ok results) :
    ∃ results', vmCatalog'.candidates.mapM (evaluateCandidate diskCatalog request) = .ok results' ∧
      vmCatalog'.candidates.mapM (evaluateCandidate diskCatalog' request) = .ok results' := by
  have hreturns : ∀ candidate ∈ vmCatalog'.candidates,
      Returns (evaluateCandidate diskCatalog request candidate) := by
    intro candidate hmem
    exact returns_of_mapM h (hcandidates.mem_iff.mpr hmem)
  obtain ⟨results', hresults'⟩ := Returns.mapM _ hreturns
  refine ⟨results', hresults', mapM_eq_ok.mpr ?_⟩
  exact (mapM_eq_ok.mp hresults').imp fun _ _ => evaluateCandidate_perm hoffers hperm

end Reordered

/-! ### Correct selections -/

section Correct

variable (vmCatalog : VmCapabilityCatalog Decimal96) (diskCatalog : ManagedDiskCatalog Decimal96)
  (request : VmTargetSelectionRequest Decimal96)

/-- The candidate meets every limit with a disk for each volume, is the one
asked for, and comes no later than the others. -/
structure CorrectTarget (evaluated : EvaluatedCandidate Decimal96) : Prop where
  listed : evaluated.candidate ∈ vmCatalog.candidates
  size : SizeFits request evaluated.candidate
  disks : List.Forall₂ (Serves diskCatalog request.azureRegion) request.volumes evaluated.disks
  limits : WithinLimits evaluated.candidate evaluated.disks
  priced : Priced request.priceAvailability evaluated.candidate evaluated.disks
  requested : Requested request evaluated.candidate
  least : request.requestedTargetArmSku = none → ∀ other, Passes vmCatalog diskCatalog request other →
    other = evaluated ∨ NoLater rank evaluated other

/-- A mapped selection has a correct target, and reordered catalogs have the
same outcome, but for the evaluation of the candidates. -/
structure CorrectSelection (selection : VmTargetSelection Decimal96) : Prop where
  mapped : selection.mappingStatus = .mapped → ∃ evaluated,
    selection.selected = some (selectedVmTarget evaluated) ∧
      CorrectTarget vmCatalog diskCatalog request evaluated
  reordered : ∀ vmCatalog' diskCatalog', vmCatalog.candidates.Perm vmCatalog'.candidates →
    diskCatalog.offers.Perm diskCatalog'.offers →
    ∃ selection', selectVmTarget vmCatalog' diskCatalog' request = .ok selection' ∧
      { selection' with candidates := selection.candidates } = selection

/-- What the selection needs: a sum of IOPS under 2^64, one candidate of the
requested name, and on a tie of sizes capacities whose sum is a decimal. -/
structure Selectable : Prop where
  iops : ∀ evaluated, Passes vmCatalog diskCatalog request evaluated →
    Requested request evaluated.candidate →
    (evaluated.disks.map fun disk => disk.provisionedIops.toNat).sum < 2 ^ 64
  name : request.requestedTargetArmSku ≠ none → ∀ left right,
    Passes vmCatalog diskCatalog request left → Passes vmCatalog diskCatalog request right →
    Requested request left.candidate → Requested request right.candidate →
    left.candidate.armSkuName = right.candidate.armSkuName
  capacity : request.requestedTargetArmSku = none → ∀ left right,
    Passes vmCatalog diskCatalog request left → Passes vmCatalog diskCatalog request right →
    left ≠ right → SameSize left right → Returns (diskCapacity left)

end Correct

section Selections

variable {vmCatalog vmCatalog' : VmCapabilityCatalog Decimal96}
  {diskCatalog diskCatalog' : ManagedDiskCatalog Decimal96}
  {request : VmTargetSelectionRequest Decimal96} {selection : VmTargetSelection Decimal96}
  {left right : EvaluatedCandidate Decimal96}

omit vmCatalog' diskCatalog' in
/-- The candidates of a selection, and the best of them. -/
theorem exists_best (h : selectVmTarget vmCatalog diskCatalog request = .ok selection) :
    ∃ eligible best, (∀ evaluated, evaluated ∈ eligible ↔
        Passes vmCatalog diskCatalog request evaluated) ∧
      bestCandidate request eligible = .ok best ∧
      selection = outcomeOf request best selection.candidates := by
  obtain ⟨-, results, hresults, best, hbest, rfl⟩ := selectVmTarget_eq_ok.mp h
  exact ⟨_, best, fun _ => mem_eligibleOf hresults, hbest, rfl⟩

/-- The candidate put first is the one found under its name. -/
theorem selected_of_first {rest : List (VmSizeCandidate Decimal96)}
    (hcandidates : vmCatalog'.candidates = left.candidate :: rest)
    (hleft : Passes vmCatalog diskCatalog request left)
    (hrequested : Requested request left.candidate)
    (hoverride : request.requestedTargetArmSku ≠ none)
    (h : selectVmTarget vmCatalog' diskCatalog request = .ok selection) :
    selection.selected = some (selectedVmTarget left) := by
  obtain ⟨-, results, hresults, best, hbest, rfl⟩ := selectVmTarget_eq_ok.mp h
  obtain ⟨requested, hsome⟩ := Option.ne_none_iff_exists'.mp hoverride
  rw [hcandidates] at hresults
  obtain ⟨first, others, hfirst, -, rfl⟩ :=
    List.forall₂_cons_left_iff.mp (mapM_eq_ok.mp hresults)
  have hfound := (evaluateCandidate_eligible hfirst).mpr ⟨rfl, hleft.2⟩
  have hname := (requested_iff hsome _).mp hrequested
  simp only [bestCandidate, hsome, eligibleOf_eq, List.filterMap_cons, hfound, Except.ok.injEq,
    List.find?_cons, hname] at hbest
  rw [← hbest]
  rfl

/-- Two candidates put first are compared. -/
theorem rank_returns_of_first {rest : List (VmSizeCandidate Decimal96)}
    (hcandidates : vmCatalog'.candidates = left.candidate :: right.candidate :: rest)
    (hleft : Passes vmCatalog diskCatalog request left)
    (hright : Passes vmCatalog diskCatalog request right)
    (hoverride : request.requestedTargetArmSku = none)
    (h : selectVmTarget vmCatalog' diskCatalog request = .ok selection) :
    Returns (rank left right) := by
  obtain ⟨-, results, hresults, best, hbest, rfl⟩ := selectVmTarget_eq_ok.mp h
  rw [hcandidates] at hresults
  obtain ⟨first, others, hfirst, hothers, rfl⟩ :=
    List.forall₂_cons_left_iff.mp (mapM_eq_ok.mp hresults)
  obtain ⟨second, others, hsecond, -, rfl⟩ := List.forall₂_cons_left_iff.mp hothers
  have hfound := (evaluateCandidate_eligible hfirst).mpr ⟨rfl, hleft.2⟩
  have hfound' := (evaluateCandidate_eligible hsecond).mpr ⟨rfl, hright.2⟩
  simp only [bestCandidate, hoverride, eligibleOf_eq, List.filterMap_cons, hfound, hfound',
    minByM, leastByM] at hbest
  obtain ⟨_, hleast, -⟩ := bind_eq_ok.mp hbest
  obtain ⟨order, horder, -⟩ := bind_eq_ok.mp hleast
  exact ⟨order, horder⟩

theorem exists_first {candidates : List (VmSizeCandidate Decimal96)}
    {candidate : VmSizeCandidate Decimal96} (h : candidate ∈ candidates) :
    ∃ rest, candidates.Perm (candidate :: rest) := by
  obtain ⟨before, after, rfl⟩ := List.append_of_mem h
  exact ⟨before ++ after, List.perm_middle⟩

/-- Correct selections need what makes them so. -/
theorem Selectable.of_correct (hselect : selectVmTarget vmCatalog diskCatalog request = .ok selection)
    (h : CorrectSelection vmCatalog diskCatalog request selection) :
    Selectable vmCatalog diskCatalog request where
  iops := by
    intro evaluated hpasses hrequested
    obtain ⟨eligible, best, hmembers, hbest, hselection⟩ := exists_best hselect
    cases best with
    | none => exact absurd hrequested (bestCandidate_none hbest evaluated ((hmembers _).mpr hpasses))
    | some best =>
        have hmapped : selection.mappingStatus = .mapped := by rw [hselection]; rfl
        obtain ⟨target, htarget, hcorrect⟩ := h.mapped hmapped
        rw [hselection] at htarget
        have hdisks : best.disks = target.disks :=
          congrArg SelectedVmTarget.disks (Option.some.inj htarget)
        have heligible := ((hmembers best).mp (bestCandidate_some hbest).1).2
        rw [smallestDisks_unique hpasses.2.disks heligible.disks, hdisks]
        exact hcorrect.limits.iops.trans_lt target.candidate.uncachedDiskIops.toNat_lt
  name := by
    intro hoverride left right hleft hright hleftName hrightName
    have hselected : ∀ evaluated, Passes vmCatalog diskCatalog request evaluated →
        Requested request evaluated.candidate →
        selection.selected = some (selectedVmTarget evaluated) := by
      intro evaluated hpasses hrequested
      obtain ⟨rest, hperm⟩ := exists_first hpasses.1
      obtain ⟨selection', hselection', hsame⟩ :=
        h.reordered ⟨evaluated.candidate :: rest⟩ diskCatalog hperm (.refl _)
      have hfirst := selected_of_first rfl hpasses hrequested hoverride hselection'
      rw [← hsame]
      exact hfirst
    have htargets := (hselected left hleft hleftName).symm.trans (hselected right hright hrightName)
    exact congrArg SelectedVmTarget.armSkuName (Option.some.inj htargets)
  capacity := by
    intro hoverride left right hleft hright hne hsize
    have hcandidates : right.candidate ≠ left.candidate :=
      fun heq => hne (hleft.2.unique hright.2 heq.symm)
    obtain ⟨rest, hperm⟩ := exists_first hleft.1
    have hmem := (List.mem_cons.mp (hperm.mem_iff.mp hright.1)).resolve_left hcandidates
    obtain ⟨rest', hperm'⟩ := exists_first hmem
    obtain ⟨selection', hselection', -⟩ := h.reordered
      ⟨left.candidate :: right.candidate :: rest'⟩ diskCatalog (hperm.trans (hperm'.cons _)) (.refl _)
    obtain ⟨order, horder⟩ := rank_returns_of_first rfl hleft hright hoverride hselection'
    have hkey := (sizeKey_eq_iff hleft.2.size.lifecycle hright.2.size.lifecycle).mpr hsize
    rcases rank_eq_ok.mp horder with ⟨hdiffer, -⟩ | ⟨-, capacity, -, hcapacity, -⟩
    · exact absurd hkey hdiffer
    · exact ⟨capacity, hcapacity⟩

/-- The target of a selection is correct when the sum of IOPS does not wrap. -/
theorem correctTarget_of_best {eligible : List (EvaluatedCandidate Decimal96)}
    {best : EvaluatedCandidate Decimal96} (hselectable : Selectable vmCatalog diskCatalog request)
    (hmembers : ∀ evaluated, evaluated ∈ eligible ↔ Passes vmCatalog diskCatalog request evaluated)
    (hbest : bestCandidate request eligible = .ok (some best)) :
    CorrectTarget vmCatalog diskCatalog request best := by
  obtain ⟨hmem, hrequested, hleast⟩ := bestCandidate_some hbest
  obtain ⟨hlisted, heligible⟩ := (hmembers best).mp hmem
  exact {
    listed := hlisted
    size := heligible.size
    disks := heligible.disks.imp fun _ _ => serves_of_smallestDisk
    limits := withinLimits_of_aggregateFits heligible.aggregate
      (hselectable.iops best ⟨hlisted, heligible⟩ hrequested)
    priced := heligible.priced
    requested := hrequested
    least := fun hoverride other hother => hleast hoverride other ((hmembers other).mpr hother) }

/-- The best of the candidates does not depend on their order. -/
theorem bestCandidate_reordered (hdistinct : DistinctSkus vmCatalog)
    (hselectable : Selectable vmCatalog diskCatalog request)
    {eligible eligible' : List (EvaluatedCandidate Decimal96)}
    (hmembers : ∀ evaluated, evaluated ∈ eligible ↔ Passes vmCatalog diskCatalog request evaluated)
    (hmembers' : ∀ evaluated, evaluated ∈ eligible' ↔
      Passes vmCatalog diskCatalog request evaluated) (hnodup : eligible'.Nodup)
    {best : Option (EvaluatedCandidate Decimal96)}
    (hbest : bestCandidate request eligible = .ok best) :
    bestCandidate request eligible' = .ok best := by
  have hmem : ∀ evaluated, evaluated ∈ eligible ↔ evaluated ∈ eligible' :=
    fun evaluated => (hmembers evaluated).trans (hmembers' evaluated).symm
  unfold bestCandidate at hbest ⊢
  cases hoverride : request.requestedTargetArmSku with
  | some requested =>
      simp only [hoverride] at hbest ⊢
      rw [← hbest]
      congr 1
      refine (KeyedGroups.find?_eq_of_mem hmem fun left hleft right hright hl hr => ?_).symm
      have hleft := (hmembers left).mp hleft
      have hright := (hmembers right).mp hright
      exact hleft.eq_of_name hdistinct hright (hselectable.name (by simp [hoverride]) left right
        hleft hright ((requested_iff hoverride _).mpr hl) ((requested_iff hoverride _).mpr hr))
  | none =>
      simp only [hoverride] at hbest ⊢
      have hpairs : eligible'.Pairwise fun left right => Returns (rank left right) := by
        refine List.Pairwise.imp_of_mem (fun {left right} hl hr hne => ?_) hnodup
        have hleft := (hmembers' left).mp hl
        have hright := (hmembers' right).mp hr
        refine rank_returns_of fun hkey => ?_
        have hsize := (sizeKey_eq_iff hleft.2.size.lifecycle hright.2.size.lifecycle).mp hkey
        have hcapacity := hselectable.capacity hoverride left right hleft hright hne hsize
        refine ⟨hcapacity, ?_⟩
        rwa [diskCapacity, ← smallestDisks_unique hleft.2.disks hright.2.disks]
      obtain ⟨best', hbest'⟩ := minByM_returns hpairs
      rw [hbest']
      congr 1
      cases best with
      | none =>
          have hempty : eligible' = [] := by
            rw [List.eq_nil_iff_forall_not_mem]
            intro evaluated hevaluated
            rw [← hmem, minByM_eq_none.mp hbest] at hevaluated
            exact absurd hevaluated List.not_mem_nil
          rw [hempty] at hbest'
          exact (Except.ok.inj hbest').symm
      | some best =>
          have hfirst := rank_byKeys.minByM_first hbest
          have hin := hfirst.mem
          have hleast := hfirst.noLater rank_byKeys.orders
          cases best' with
          | none =>
              rw [hmem, minByM_eq_none.mp hbest'] at hin
              exact absurd hin List.not_mem_nil
          | some best' =>
              have hfirst' := rank_byKeys.minByM_first hbest'
              have hin' := hfirst'.mem
              have hleast' := hfirst'.noLater rank_byKeys.orders
              congr 1
              rcases hleast best' ((hmem _).mpr hin') with heq | hle
              · exact heq
              · rcases hleast' best ((hmem _).mp hin) with heq | hle'
                · exact heq.symm
                · exact ((hmembers best').mp ((hmem _).mpr hin')).eq_of_name hdistinct
                    ((hmembers best).mp hin) (armSkuName_eq_of_noLater hle' hle)

/-- With what the selection needs, every order of the catalogs has its outcome. -/
theorem CorrectSelection.of_selectable (hdistinct : DistinctSkus vmCatalog)
    (hoffers : DistinctOffers diskCatalog)
    (hselect : selectVmTarget vmCatalog diskCatalog request = .ok selection)
    (h : Selectable vmCatalog diskCatalog request) :
    CorrectSelection vmCatalog diskCatalog request selection where
  mapped := by
    intro hmapped
    obtain ⟨eligible, best, hmembers, hbest, hselection⟩ := exists_best hselect
    cases best with
    | none =>
        rw [hselection] at hmapped
        exact absurd hmapped (by simp [outcomeOf])
    | some best =>
        refine ⟨best, ?_, correctTarget_of_best h hmembers hbest⟩
        rw [hselection]
        rfl
  reordered := by
    intro vmCatalog' diskCatalog' hcandidates hperm
    obtain ⟨hvalid, results, hresults, best, hbest, rfl⟩ := selectVmTarget_eq_ok.mp hselect
    obtain ⟨results', hresults', hagain⟩ := evaluateCandidates_perm hoffers hcandidates hperm hresults
    have hmembers' : ∀ evaluated, evaluated ∈ eligibleOf results' ↔
        Passes vmCatalog diskCatalog request evaluated := by
      intro evaluated
      rw [mem_eligibleOf hresults', ← hcandidates.mem_iff]
      rfl
    have hnodup : (eligibleOf results').Nodup := by
      have hcatalog := hcandidates.nodup_iff.mp (nodup_of_distinctSkus hdistinct)
      exact ((eligibleOf_sublist hresults').nodup hcatalog).of_map
    have hbest' := bestCandidate_reordered hdistinct h (fun _ => mem_eligibleOf hresults) hmembers'
      hnodup hbest
    exact ⟨_, selectVmTarget_eq_ok.mpr ⟨hvalid, results', hagain, best, hbest', rfl⟩, rfl⟩

/-- A selection is sound, best by rank and the same for every order of the
catalogs just when the sum of IOPS does not wrap, the override names one
candidate and a tie has a sum of capacities. -/
theorem select_vm_target_correct_iff (hdistinct : DistinctSkus vmCatalog)
    (hoffers : DistinctOffers diskCatalog)
    (hselect : selectVmTarget vmCatalog diskCatalog request = .ok selection) :
    CorrectSelection vmCatalog diskCatalog request selection ↔
      Selectable vmCatalog diskCatalog request :=
  ⟨Selectable.of_correct hselect, CorrectSelection.of_selectable hdistinct hoffers hselect⟩

end Selections

/-! ### Two volumes whose IOPS sum to nothing -/

def ultraOffer : ManagedDiskOffer Decimal96 where
  offerKey := "ultra_disk_lrs"
  displayName := "Ultra Disk"
  allowedRoles := [.os, .data]
  performanceIsProvisionedIndependently := true
  azureRegions := ["swedencentral"]
  includedIops := none
  includedThroughputMbps := none
  maximumIops := 18446744073709551615
  maximumThroughputMbps := 10000
  capacityIncrementGb := some one
  minimumCapacityGb := none
  maximumCapacityGb := ofNat 65536
  tiers := []

def volumeOf (id : BitVec 128) (role : VmDiskRole) (iops : UInt64) :
    VmVolumeRequirement Decimal96 where
  volumeId := ⟨id⟩
  label := "volume"
  role := role
  capacityGb := ofNat 64
  iops := iops
  throughputMbps := ofNat 10

def twoVolumes (iops : UInt64) : VmTargetSelectionRequest Decimal96 where
  azureRegion := "swedencentral"
  sourceClass := .generalPurpose
  minimumVcpu := 2
  minimumMemoryGb := ofNat 8
  requiresLocalTempDisk := false
  minimumLocalTempDiskGb := zero
  volumes := [volumeOf 1 .os iops, volumeOf 2 .data iops]
  requestedTargetArmSku := none
  priceAvailability := none

theorem distinct_small : DistinctSkus ⟨[generalPurposeSize]⟩ := List.pairwise_singleton _ _

theorem distinct_ultra : DistinctOffers (⟨[ultraOffer]⟩ : ManagedDiskCatalog Decimal96) :=
  List.nodup_singleton _

/-- Twice 2^63 IOPS are mapped to a size that allows 3750. -/
theorem select_vm_target_wraps :
    ∃ selection, selectVmTarget ⟨[generalPurposeSize]⟩ ⟨[ultraOffer]⟩ (twoVolumes (2 ^ 63)) =
        .ok selection ∧
      DistinctSkus ⟨[generalPurposeSize]⟩ ∧ DistinctOffers (⟨[ultraOffer]⟩ : ManagedDiskCatalog Decimal96) ∧
      ¬ CorrectSelection ⟨[generalPurposeSize]⟩ ⟨[ultraOffer]⟩ (twoVolumes (2 ^ 63)) selection := by
  have hreturns : (selectVmTarget ⟨[generalPurposeSize]⟩ ⟨[ultraOffer]⟩
      (twoVolumes (2 ^ 63))).toOption.any (fun selection =>
        selection.mappingStatus = .mapped ∧ selection.selected.all fun target =>
          target.uncachedDiskIops.toNat <
            (target.disks.map fun disk => disk.provisionedIops.toNat).sum) = true := by
    decide +kernel
  obtain ⟨selection, hselect, hresult⟩ := exists_ok_of_any hreturns
  obtain ⟨hmapped, hexceeds⟩ := of_decide_eq_true hresult
  refine ⟨selection, hselect, distinct_small, distinct_ultra, fun hcorrect => ?_⟩
  obtain ⟨evaluated, hselected, htarget⟩ := hcorrect.mapped hmapped
  rw [hselected] at hexceeds
  exact absurd htarget.limits.iops (not_le.mpr (of_decide_eq_true hexceeds))

/-- With 500 IOPS each the selection is correct. -/
theorem select_vm_target_correct_small :
    ∃ selection, selectVmTarget ⟨[generalPurposeSize]⟩ ⟨[ultraOffer]⟩ (twoVolumes 500) = .ok selection ∧
      selection.mappingStatus = .mapped ∧
      CorrectSelection ⟨[generalPurposeSize]⟩ ⟨[ultraOffer]⟩ (twoVolumes 500) selection := by
  have hreturns : (selectVmTarget ⟨[generalPurposeSize]⟩ ⟨[ultraOffer]⟩ (twoVolumes 500)).toOption.any
      (fun selection => selection.mappingStatus = .mapped ∧ selection.selected.all fun target =>
        (target.disks.map fun disk => disk.provisionedIops.toNat).sum < 2 ^ 64) = true := by
    decide +kernel
  obtain ⟨selection, hselect, hresult⟩ := exists_ok_of_any hreturns
  obtain ⟨hmapped, hsum⟩ := of_decide_eq_true hresult
  refine ⟨selection, hselect, hmapped,
    (select_vm_target_correct_iff distinct_small distinct_ultra hselect).mpr ?_⟩
  obtain ⟨eligible, best, hmembers, hbest, hselection⟩ := exists_best hselect
  have hone : ∀ left right, Passes ⟨[generalPurposeSize]⟩ ⟨[ultraOffer]⟩ (twoVolumes 500) left →
      Passes ⟨[generalPurposeSize]⟩ ⟨[ultraOffer]⟩ (twoVolumes 500) right → left = right := by
    intro left right hleft hright
    exact hleft.2.unique hright.2
      ((List.mem_singleton.mp hleft.1).trans (List.mem_singleton.mp hright.1).symm)
  cases best with
  | none =>
      rw [hselection] at hmapped
      exact absurd hmapped (by simp [outcomeOf])
  | some best =>
      rw [hselection] at hsum
      have hpasses := (hmembers best).mp (bestCandidate_some hbest).1
      exact {
        iops := fun evaluated hevaluated _ => by
          rw [hone evaluated best hevaluated hpasses]
          exact of_decide_eq_true hsum
        name := fun hoverride => absurd rfl hoverride
        capacity := fun _ left right hleft hright hne => absurd (hone left right hleft hright) hne }

end TcoCalculator.VmTargetSelector
