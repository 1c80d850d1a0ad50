/-
What a confirmed action applies: the patch that was previewed, to the project it
was previewed on, and once.
-/
import TcoCalculator.Api.ActionAtomic
import TcoCalculator.Assistant.ProposalNotes
import TcoCalculator.Assistant.StagedProposal

namespace TcoCalculator.Assistant

open ProjectRepository ProjectRepository.Timeline

variable {D : Type} [DecimalArith D]

/-! ### Proposals -/

/-- A staged proposal describes what its patch does to the project it was staged on. -/
theorem describes_of_stagedPatch {project : EditableProject D} {input : StageProjectPatchInput D}
    {staged : ProjectPatchProposal D}
    (h : (stagedPatch project input).proposal = some (.projectPatch staged)) :
    Describes (ProjectJson.editable project) (ProjectJson.editable (staged.patch.apply project))
      staged.changes := by
  simp only [stagedPatch] at h
  by_cases hissues : (input.patch.apply project).validate ≠ []
  · rw [if_pos hissues] at h
    cases h
  rw [if_neg hissues] at h
  cases hchanges : projectPatchChanges project (input.patch.apply project) input.patch with
  | error _ =>
      rw [hchanges] at h
      cases h
  | ok changes =>
      rw [hchanges] at h
      dsimp only at h
      split_ifs at h with hnothing hempty
      · cases h
      · cases h
      · obtain rfl := AssistantProposal.projectPatch.inj (Option.some.inj h)
        exact projectPatchChanges_describes hchanges

omit [DecimalArith D] in
/-- Optional members of one persisted form stand for one value, given one default. -/
theorem getD_congr_of_option {α : Type} {toJson : α → Json} (hnull : ∀ value, toJson value ≠ .null)
    {first second : Option α}
    (h : ResourceJson.option toJson first = ResourceJson.option toJson second) (base : α) :
    toJson (first.getD base) = toJson (second.getD base) := by
  cases first with
  | none =>
      cases second with
      | none => rfl
      | some second => exact absurd h.symm (hnull second)
  | some first =>
      cases second with
      | none => exact absurd h (hnull first)
      | some second => exact h

/-- Patches of one persisted form do the same to a project. -/
theorem editable_apply_eq {patch other : ProjectPatch D} (h : patch.toJson = other.toJson)
    (base : EditableProject D) : ProjectJson.editable (patch.apply base) =
      ProjectJson.editable (other.apply base) := by
  simp only [ProjectPatch.toJson, Json.object.injEq, List.cons.injEq, Prod.mk.injEq, true_and,
    and_true] at h
  obtain ⟨hname, hdescription, hsettings, hresources⟩ := h
  simp only [ProjectJson.editable, ProjectPatch.apply,
    ResourceJson.option_string_injective hname,
    ResourceJson.option_string_injective hdescription,
    getD_congr_of_option (by simp [ProjectJson.settings]) hsettings base.settings,
    getD_congr_of_option (by simp [ProjectJson.resources]) hresources base.resources]

/-- An identifier binds the owner, the project, its tag and the patch. -/
theorem proposalId_injective {sha256 : String → String} (hsha : Function.Injective sha256)
    {ownerId ownerId' : String} {projectId projectId' : Uuid} {etag etag' : String}
    {action action' : AssistantAction} {patch patch' : ProjectPatch D}
    (h : proposalId sha256 ownerId projectId etag action patch =
      proposalId sha256 ownerId' projectId' etag' action' patch') :
    ownerId = ownerId' ∧ projectId = projectId' ∧ etag = etag' ∧ patch.toJson = patch'.toJson := by
  have hjson := Json.render_injective (hsha ((String.append_right_inj _).mp h))
  simp only [patchBinding, Json.object.injEq, List.cons.injEq, Prod.mk.injEq, Json.string.injEq,
    true_and, and_true] at hjson
  exact ⟨hjson.1, Uuid.text_injective hjson.2.1, hjson.2.2.1, hjson.2.2.2⟩

/-! ### Writes of an action -/

section Writes

variable {timeline : Timeline D} {documentBytes : ProjectDocument D → Nat}
  {sha256 : String → String} {services : Services D}

/-- A call that writes does so for the owner, the project and the tag that the
identifier of the request binds. -/
def WritesAsBound (sha256 : String → String) (request : ActionRequest D) (asked : StoreCall D) :
    Prop :=
  ∀ projectId ifMatch project revision, asked.2 = .update projectId ifMatch project revision →
    projectId = request.projectId ∧ ifMatch = request.expectedEtag ∧
    request.proposalId = proposalId sha256 asked.1 request.projectId request.expectedEtag
      request.action request.patch

omit [DecimalArith D] in
theorem asks_readProject {P : StoreCall D → Prop} {ownerId : String} {projectId : Uuid}
    (problem : RepositoryError → Problem) (hread : P (ownerId, .get projectId)) :
    Handler.Asks P (Projects.readProject ownerId projectId problem) := by
  refine Handler.asks_call_bind hread fun answer => ?_
  cases Projects.documentOf answer <;> exact Handler.asks_lift P _

theorem asks_updateProjectDocument {P : StoreCall D → Prop} {ownerId : String} {projectId : Uuid}
    {ifMatch : String} {project : EditableProject D} {instancePath : String}
    (hread : P (ownerId, .get projectId))
    (hwrite : ∀ revision, P (ownerId, .update projectId ifMatch project revision)) :
    Handler.Asks P (Projects.updateProjectDocument services ownerId projectId ifMatch project
      instancePath) := by
  rw [Projects.updateProjectDocument]
  apply Handler.asks_check_bind
  intro _ _
  apply Handler.Asks.bind (asks_readProject _ hread)
  intro current
  apply Handler.asks_check_bind
  intro _ _
  apply Handler.Asks.bind (Handler.asks_lift P _)
  intro revision
  apply Handler.asks_call_bind (hwrite revision)
  intro answer
  rcases Projects.documentOf answer with document | error | _
  · exact Handler.asks_lift P (.ok document)
  · cases error with
    | preconditionFailed =>
        apply Handler.asks_call_bind hread
        intro reply
        cases Projects.documentOf reply <;> exact Handler.asks_lift P _
    | notFound | payloadTooLarge | unavailable => exact Handler.asks_lift P _
  · exact Handler.asks_lift P .panic

/-- An action writes what its request binds, or nothing. -/
theorem asks_action {principal : Except Unit (Option String)} {confirmation : Option String}
    {request : ActionRequest D} :
    Handler.Asks (WritesAsBound sha256 request)
      (action sha256 services principal confirmation (.ok request)) := by
  have hread : ∀ ownerId, WritesAsBound sha256 request (ownerId, .get request.projectId) :=
    fun ownerId _ _ _ _ hcall => nomatch hcall
  rw [action]
  apply Handler.asks_check_bind
  intro ownerId _
  apply Handler.asks_check_bind
  intro _ _
  apply Handler.asks_check_bind
  intro body hbody
  obtain rfl := Except.ok.inj hbody
  rw [confirmedAction]
  apply Handler.asks_check_bind
  intro _ hbound
  apply Handler.Asks.bind (asks_readProject _ (hread ownerId))
  intro current
  apply Handler.asks_check_bind
  intro _ _
  apply Handler.Asks.bind
  · apply asks_updateProjectDocument (hread ownerId)
    rintro revision _ _ _ _ ⟨⟩
    exact ⟨rfl, rfl, Fallible.ensure_eq_ok.mp hbound⟩
  · intro written
    apply Handler.Asks.bind (asks_readProject _ (hread ownerId))
    intro authoritative
    apply Handler.asks_check_bind
    intro _ _
    exact Handler.asks_lift _ _

/-- An action that succeeds has written the patched project over the one it read. -/
theorem action_ok {principal : Except Unit (Option String)} {confirmation : Option String}
    {request : ActionRequest D} {start finish : Nat} {calls : List (Nat × StoreCall D)}
    {response : Projects.ProjectResponse D}
    (h : Handler.Runs (timeline.Served documentBytes) start
      (action sha256 services principal confirmation (.ok request)) calls finish (.ok response)) :
    ∃ ownerId read write current before latest revision,
      request.proposalId = proposalId sha256 ownerId request.projectId request.expectedEtag
        request.action request.patch ∧
      start ≤ read ∧ read < write ∧
      (write, (ownerId, Call.update request.projectId request.expectedEtag
        (request.patch.apply (editableProject current.document)) revision)) ∈ calls ∧
      (timeline.stateAt documentBytes read).value.lookup (ownerId, request.projectId) =
        some current ∧
      current.document.etag = request.expectedEtag ∧
      (timeline.stateAt documentBytes write).value.lookup (ownerId, request.projectId) =
        some before ∧
      before.document.etag = request.expectedEtag ∧
      (timeline.stateAt documentBytes (write + 1)).value.lookup (ownerId, request.projectId) =
        some latest ∧
      editableProject latest.document =
        request.patch.apply (editableProject current.document) ∧
      (Entry.mk (timeline.event write) (timeline.answerAt documentBytes write)).Updates
        (ownerId, request.projectId) request.expectedEtag := by
  obtain ⟨ownerId, -, h⟩ := Handler.runs_check_bind_ok.mp h
  obtain ⟨_, -, h⟩ := Handler.runs_check_bind_ok.mp h
  obtain ⟨_, hrequest, h⟩ := Handler.runs_check_bind_ok.mp h
  obtain rfl := Except.ok.inj hrequest
  obtain ⟨_, hbound, h⟩ := Handler.runs_check_bind_ok.mp h
  obtain ⟨_, document, _, _, rfl, hread, h⟩ := Handler.runs_bind_ok.mp h
  obtain ⟨read, rfl, hle, rfl, -, hfound⟩ := Projects.runs_readProject hread
  obtain ⟨current, hdocument, hcurrent⟩ | ⟨_, herr, -⟩ := hfound
  swap
  · cases herr
  obtain rfl := Outcome.ok.inj hdocument
  obtain ⟨_, hetag, h⟩ := Handler.runs_check_bind_ok.mp h
  obtain ⟨_, written, _, _, rfl, hupdate, -⟩ := Handler.runs_bind_ok.mp h
  obtain ⟨reread, write, revision, rfl, hreread, hwrite, rfl, howner, hcall, hanswer⟩ :=
    Projects.runs_updateProjectDocument_ok hupdate
  obtain ⟨before, timestamp, hbefore, htag, hlatest, -⟩ := of_update hcall hanswer
  rw [howner] at hbefore hlatest
  exact ⟨ownerId, read, write, current, before, _, revision, Fallible.ensure_eq_ok.mp hbound, hle,
    by omega, by simp, hcurrent, Fallible.ensure_eq_ok.mp hetag, hbefore, htag, hlatest, rfl,
    howner, ⟨_, revision, hcall⟩, _, hanswer⟩

end Writes

/-! ### What was previewed -/

/-- The successful reads of the project by a host show the store as it is at the times of a
clock that never goes back. -/
structure Follows (host : Host D) (timeline : Timeline D)
    (documentBytes : ProjectDocument D → Nat) (clock : History D → Nat) (key : ProjectKey) :
    Prop where
  monotone : ∀ event history, clock history ≤ clock (event :: history)
  reads : ∀ history document, host.getProject history key.1 key.2 = .ok document →
    get key.1 key.2 (timeline.stateAt documentBytes (clock history)) = .ok document

theorem Follows.clock_le {host : Host D} {timeline : Timeline D}
    {documentBytes : ProjectDocument D → Nat} {clock : History D → Nat} {key : ProjectKey}
    (h : Follows host timeline documentBytes clock key) {past history : History D}
    (hpast : past <:+ history) : clock past ≤ clock history := by
  obtain ⟨later, rfl⟩ := hpast
  induction later with
  | nil => exact le_rfl
  | cons event later ih => exact ih.trans (h.monotone event _)

/-- A bound patch proposal of a turn about a project stems from a staged one. -/
theorem boundProposal_eq_projectPatch {sha256 : String → String} {ownerId instancePath : String}
    {requestId : Uuid} {document : ProjectDocument D} {outcome : TurnOutcome D}
    {bound : BoundProjectPatchProposal D}
    (h : boundProposal sha256 (turnContext ownerId requestId document) instancePath outcome =
      .ok (some (.projectPatch bound))) :
    ∃ staged, outcome.proposal = some (.projectPatch staged) ∧
      bound = bindProjectPatchProposal sha256 ownerId document.id document.etag staged := by
  cases hproposal : outcome.proposal with
  | none =>
      rw [boundProposal, hproposal] at h
      cases h
  | some proposal =>
      rw [boundProposal, hproposal] at h
      cases proposal with
      | newProjectDraft draft => cases h
      | projectPatch staged =>
          obtain rfl := BoundAssistantProposal.projectPatch.inj (Option.some.inj (Except.ok.inj h))
          exact ⟨staged, rfl, rfl⟩

section Confirmed

variable {timeline : Timeline D} {documentBytes : ProjectDocument D → Nat}
  {sha256 : String → String}

/-- Every writer whose request carries the identifier writes under one tag of one project. -/
theorem updates_of_action {services : Services D} {principal : Except Unit (Option String)}
    {confirmation : Option String} {request : ActionRequest D} {start finish : Nat}
    {calls : List (Nat × StoreCall D)} {result : Outcome Problem (Projects.ProjectResponse D)}
    (h : Handler.Runs (timeline.Served documentBytes) start
      (action sha256 services principal confirmation (.ok request)) calls finish result)
    {write : Nat} {ownerId ifMatch : String} {projectId : Uuid} {project : EditableProject D}
    {revision : Option (CalculationRevision D)} {answer : Answer D}
    (hcall : (write, (ownerId, Call.update projectId ifMatch project revision)) ∈ calls)
    (hanswer : timeline.answerAt documentBytes write = .ok answer) :
    request.proposalId = proposalId sha256 ownerId request.projectId request.expectedEtag
      request.action request.patch ∧
    (Entry.mk (timeline.event write) (timeline.answerAt documentBytes write)).Updates
      (ownerId, request.projectId) request.expectedEtag := by
  obtain ⟨rfl, rfl, hbound⟩ := Interaction.Runs.asks h asks_action _ hcall _ _ _ _ rfl
  obtain ⟨_, howner, hevent, -⟩ := Interaction.Runs.served_calls h _ hcall
  exact ⟨hbound, howner, ⟨project, revision, hevent⟩, answer, hanswer⟩

end Confirmed

namespace ConfirmedWitness

open ViewWitness NotesWitness
open ProjectRepository.ProjectWitness (noon)
open ActionWitness (digest)

def bytes (_ : ProjectDocument Decimal96) : Nat := 900

def saved : ProjectDocument Decimal96 := document "SQL workload" none

def renamed : EditableProject Decimal96 := rename.patch.apply NotesWitness.project

/-- The project is created, read twice and renamed. -/
def timeline : Timeline Decimal96 where
  event
    | 0 => ⟨noon, "owner", .create ⟨7⟩ NotesWitness.project none⟩
    | 3 => ⟨noon, "owner", .update ⟨7⟩ (projectEtag 1) renamed none⟩
    | _ => ⟨noon, "owner", .get ⟨7⟩⟩
  isDown _ := false

theorem lookup_created : (timeline.stateAt bytes 1).value.lookup ("owner", ⟨7⟩) =
    some ⟨saved, 1⟩ := by
  decide +kernel

theorem lookup_saved {time : Nat} (hfirst : 1 ≤ time) (hlast : time ≤ 3) :
    (timeline.stateAt bytes time).value.lookup ("owner", ⟨7⟩) = some ⟨saved, 1⟩ := by
  have hsecond : timeline.stateAt bytes 2 = timeline.stateAt bytes 1 := stateAt_of_get rfl
  have hthird : timeline.stateAt bytes 3 = timeline.stateAt bytes 2 := stateAt_of_get rfl
  interval_cases time
  · exact lookup_created
  · rw [hsecond, lookup_created]
  · rw [hthird, hsecond, lookup_created]

theorem freshIds : timeline.FreshIds bytes := by
  have hcreates : ∀ time outcome key, 0 < time →
      ¬ (Entry.mk (timeline.event time) outcome).event.Creates key := by
    rintro time outcome key hpos ⟨-, project, revision, hcall⟩
    rcases time with _ | _ | _ | _ | time
    · cases hpos
    · cases hcall
    · cases hcall
    · cases hcall
    · cases hcall
  intro time
  induction time with
  | zero => exact List.Pairwise.nil
  | succ time ih =>
      refine List.pairwise_append.mpr ⟨ih, List.pairwise_singleton _ _, ?_⟩
      intro first hfirst second hsecond key _
      obtain rfl := List.mem_singleton.mp hsecond
      cases time with
      | zero => exact absurd hfirst List.not_mem_nil
      | succ time => exact hcreates _ _ _ (Nat.succ_pos _)

/-- The reads of the turn show the project as it was saved. -/
theorem follows : Follows (stagingHost [renameCall]) timeline bytes (fun _ => 1)
    ("owner", ⟨7⟩) where
  monotone _ _ := le_rfl
  reads _ document hread := by
    obtain rfl : saved = document := Outcome.ok.inj hread
    have hopen : (timeline.stateAt bytes 1).poisoned = false := by decide +kernel
    simp only [ProjectRepository.get, RwLock.withRead, hopen, Bool.false_eq_true, if_false,
      getLocked, lookup_created]

def services : Services Decimal96 where
  engine := (ViewWitness.host saved).engine
  getAws := fun _ => .ok none
  getAzure := fun _ => .ok none
  calculationSlotFree := true

def request : ActionRequest Decimal96 where
  proposalId := proposalId digest "owner" ⟨7⟩ (projectEtag 1) .applyProjectPatch rename.patch
  action := .applyProjectPatch
  projectId := ⟨7⟩
  expectedEtag := projectEtag 1
  patch := rename.patch

theorem isHeaderValue_etag : Problem.isHeaderValue (projectEtag 2) = true := by decide +kernel

/-- The confirmed action reads, writes and reads back. -/
theorem action_runs : ∃ calls response, Handler.Runs (timeline.Served bytes) 1
    (action digest services (.ok (some "owner")) (some actionConfirmationValue) (.ok request))
    calls 5 (.ok response) := by
  have hanswered : (timeline.answerAt bytes 3).map (fun _ => ()) = .ok () := by decide +kernel
  obtain ⟨answer, hok, -⟩ := Outcome.map_eq_ok.mp hanswered
  obtain ⟨stored, timestamp, hstored, -, hwritten, rfl⟩ := of_update rfl hok
  obtain rfl : ⟨saved, 1⟩ = stored :=
    Option.some.inj ((lookup_saved (by decide) le_rfl).symm.trans hstored)
  have hvalid : renamed.validate = [] := by decide +kernel
  have hcurrent : ∀ problem, Handler.Runs (timeline.Served bytes) 1
      (Projects.readProject "owner" ⟨7⟩ problem) [(1, ("owner", .get ⟨7⟩))] 2 (.ok saved) :=
    fun problem => Projects.readProject_runs (by rfl) (by rfl) le_rfl rfl
      (lookup_saved (by decide) (by decide))
  have hagain : ∀ problem, Handler.Runs (timeline.Served bytes) 2
      (Projects.readProject "owner" ⟨7⟩ problem) [(2, ("owner", .get ⟨7⟩))] 3 (.ok saved) :=
    fun problem => Projects.readProject_runs (by rfl) (by rfl) le_rfl rfl
      (lookup_saved (by decide) (by decide))
  have hlast : ∀ problem, Handler.Runs (timeline.Served bytes) 4
      (Projects.readProject "owner" ⟨7⟩ problem) [(4, ("owner", .get ⟨7⟩))] 5
      (.ok (revisedDocument saved renamed none timestamp (projectEtag 2))) :=
    fun problem => Projects.readProject_runs (by rfl) (by rfl) le_rfl rfl hwritten
  have hupdate : Handler.Runs (timeline.Served bytes) 2
      (Projects.updateProjectDocument services "owner" ⟨7⟩ (projectEtag 1) renamed actionInstance)
      ([(2, ("owner", .get ⟨7⟩))] ++ [(3, ("owner", .update ⟨7⟩ (projectEtag 1) renamed none))])
      4 (.ok (revisedDocument saved renamed none timestamp (projectEtag 2))) := by
    refine Handler.Runs.check_bind (Fallible.ensure_of hvalid _) ((hagain _).bind
      (Handler.Runs.check_bind (Fallible.ensure_of rfl _)
      (Handler.Runs.lift_bind (if_pos (beq_self_eq_true _)) ?_)))
    refine Handler.runs_call_bind.mpr ⟨3, _, [], rfl, le_rfl, ⟨rfl, rfl, hok⟩, ?_⟩
    exact Handler.runs_pure.mpr ⟨rfl, rfl, rfl⟩
  obtain ⟨response, hresponse⟩ : ∃ response, Projects.projectResponse
      (revisedDocument saved renamed none timestamp (projectEtag 2)) = .ok response :=
    ⟨_, Fallible.bind_eq_ok.mpr ⟨(), Fallible.ensure_of isHeaderValue_etag _, rfl⟩⟩
  have hverified : Handler.Runs (timeline.Served bytes) 4 (do
        let authoritative ← Projects.readProject "owner" ⟨7⟩ mapActionProjectError
        Handler.check (verifyWritten (revisedDocument saved renamed none timestamp (projectEtag 2))
          authoritative renamed)
        Handler.check (Projects.projectResponse authoritative))
      ([(4, ("owner", .get ⟨7⟩))] ++ []) 5 (.ok response) :=
    (hlast _).bind (Handler.Runs.check_bind (Fallible.ensure_of ⟨rfl, rfl⟩ _)
      (Handler.runs_check.mpr ⟨rfl, rfl, (Outcome.lift_eq_ok.mpr hresponse).symm⟩))
  exact ⟨_, response, Handler.Runs.check_bind rfl
    (Handler.Runs.check_bind (Fallible.ensure_of rfl _) (Handler.Runs.check_bind rfl
    (Handler.Runs.check_bind (Fallible.ensure_of rfl _) ((hcurrent _).bind
    (Handler.Runs.check_bind (Fallible.ensure_of rfl _) (hupdate.bind hverified))))))⟩

def patchOf : AssistantProposal Decimal96 → Option (ProjectPatch Decimal96)
  | .projectPatch staged => some staged.patch
  | .newProjectDraft _ => none

theorem patchOf_rename :
    (stagedPatch NotesWitness.project rename).proposal.bind patchOf = some rename.patch := by
  decide +kernel

/-- The turn stages the new name. -/
theorem turn_runs : ∃ turn history staged,
    runTurnWithImage (stagingHost [renameCall]) context question none 2 [] =
      (.ok (some turn), history) ∧
    turn.proposal = some (.projectPatch staged) ∧ staged.patch = rename.patch := by
  obtain ⟨turn, history, request, hrun, houtcomes⟩ := @exists_turn [renameCall]
    [validated renameCall rename] (staging (accepting [renameCall]) renameCall rename)
    (fun request => stagingEvents renameCall rename
      [.preflight [renameCall] (.ok [validated renameCall rename]), .respond request])
    (by decide +kernel) rfl (fun _ => rfl) (fun _ => List.cons_ne_nil _ _) rfl
    (List.cons_ne_nil _ _) rfl (by decide +kernel)
  have hproposal := (runTurnWithImage_holdsOf hrun).proposal
  rw [houtcomes, outcomes_stagingEvents] at hproposal
  simp only [producer, List.find?_cons, stagedPatch_rename.1, Option.bind_some] at hproposal
  obtain ⟨proposal, hstaged, hpatch⟩ := Option.bind_eq_some_iff.mp patchOf_rename
  cases proposal with
  | newProjectDraft draft => cases hpatch
  | projectPatch staged =>
      exact ⟨turn, history, staged, hrun, hproposal.trans hstaged, Option.some.inj hpatch⟩

/-- The proposal as it is returned to the client. -/
def bound (staged : ProjectPatchProposal Decimal96) : BoundProjectPatchProposal Decimal96 :=
  bindProjectPatchProposal digest "owner" ⟨7⟩ (projectEtag 1) staged

end ConfirmedWitness

end TcoCalculator.Assistant
