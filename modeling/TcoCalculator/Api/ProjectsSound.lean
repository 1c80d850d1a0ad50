/-
What the requests keep of the stored projects: a stored project is valid, and its
calculation revision is the one of its own pricing inputs.
-/
import TcoCalculator.Api.ActionAtomic
import TcoCalculator.Api.ProjectRequests
import TcoCalculator.Library.AtomicCalls
import TcoCalculator.Persistence.CosmosProjects

namespace TcoCalculator.Projects

open ProjectRepository
open Assistant (JsonRejection ActionRequest)
open ProjectStore (Store Does Acts Operation Writes Known Observed)
open Linearization (Later)

variable {D : Type} [DecimalArith D]

/-! ### Sound documents -/

section Sound

/- The services that requests are handled with, over time. -/
variable (Offered : Services D → Prop)

/-- The revision of a project with these pricing inputs, or none where it has no prices. -/
def Priced (document : ProjectDocument D) (revision : Option (CalculationRevision D)) : Prop :=
  ∃ services project instancePath, Offered services ∧
    pricingInputsUnchanged document project = true ∧
    calculateRevisionIfPriced services project instancePath = .ok revision

/-- A document lies under its own key, its project is valid, and its revision is that of its
pricing inputs. -/
structure Sound (key : ProjectKey) (document : ProjectDocument D) : Prop where
  filed : document.ownerId = key.1 ∧ document.id = key.2
  valid : (Assistant.editableProject document).validate = []
  priced : Priced Offered document document.latestCalculationRevision

variable {Offered} {services : Services D} {project : EditableProject D} {instancePath : String}
  {revision : Option (CalculationRevision D)} {timestamp tag : String}

theorem validateProject_ok (h : validateProject project instancePath = .ok ()) :
    project.validate = [] := Fallible.ensure_eq_ok.mp h

/-- A project that was validated and calculated is stored as a sound document. -/
theorem sound_freshDocument (ownerId : String) (id : Uuid) (hoffered : Offered services)
    (hvalid : project.validate = [])
    (hrevision : calculateRevisionIfPriced services project instancePath = .ok revision) :
    Sound Offered (ownerId, id) (freshDocument ownerId id project revision timestamp tag) where
  filed := ⟨rfl, rfl⟩
  valid := hvalid
  priced := ⟨services, project, instancePath, hoffered, beq_self_eq_true _, hrevision⟩

/-- A sound document is revised to a sound one: where the pricing inputs stand the revision
stands, and where they change it is calculated. -/
theorem Sound.revised {key : ProjectKey} {stored : ProjectDocument D}
    (h : Sound Offered key stored) (hoffered : Offered services) (hvalid : project.validate = [])
    (hrevision : pricingInputsUnchanged stored project = false →
      calculateRevisionIfPriced services project instancePath = .ok revision) :
    Sound Offered key (revisedDocument stored project revision timestamp tag) where
  filed := h.filed
  valid := hvalid
  priced := by
    by_cases hunchanged : pricingInputsUnchanged stored project = true
    · obtain ⟨services, priced, instancePath, hoffered, hinputs, hcalculated⟩ := h.priced
      refine ⟨services, priced, instancePath, hoffered, ?_, ?_⟩
      · exact beq_iff_eq.mpr ((eq_of_beq hunchanged).symm.trans (eq_of_beq hinputs))
      · simpa [revisedDocument, updatedRevision, hunchanged] using hcalculated
    · have hchanged : pricingInputsUnchanged stored project = false :=
        Bool.eq_false_of_not_eq_true hunchanged
      refine ⟨services, project, instancePath, hoffered, beq_self_eq_true _, ?_⟩
      simpa [revisedDocument, updatedRevision, hchanged] using hrevision hchanged

/-- All documents of the store are sound, and their tags are among those used. -/
structure AllSound (Offered : Services D → Prop) (store : Store D) : Prop where
  known : ∀ key, Known key store
  sound : ∀ key document, store.found key = some document → Sound Offered key document

theorem allSound_empty : AllSound Offered (Store.empty : Store D) where
  known _ := ProjectStore.known_empty
  sound _ _ hfound := by cases hfound

end Sound

/-! ### Calls -/

section Calls

variable (documentBytes : ProjectDocument D → Nat) (Offered : Services D → Prop)

omit [DecimalArith D] in
/-- The operation serves the call, at whatever clock reading. -/
def Issues (question : StoreCall D) (operation : Operation D) : Prop :=
  operation.1.ownerId = question.1 ∧ operation.1.call = question.2

/-- A call of the store, served at one stroke. -/
abbrev Serves : Store D → StoreCall D → StoreAnswer D → Store D → Prop :=
  Clients.Answers Issues (Acts documentBytes)

/-- The handler leaves every stored project sound, whatever others do meanwhile. -/
abbrev Keeps {α : Type} (body : StoreHandler D α) (seen : Store D) : Prop :=
  Handler.Keeps (Serves documentBytes) (AllSound Offered) body seen

variable {documentBytes Offered} {store after seen : Store D} {ownerId : String}
  {projectId : Uuid} {call : Call D} {answer : StoreAnswer D}

theorem does_of_serves (h : Serves documentBytes store (ownerId, call) answer after) :
    ∃ now, Does documentBytes store ⟨now, ownerId, call⟩ answer after := by
  obtain ⟨⟨⟨now, owner, asked⟩, _⟩, ⟨howner, hcall⟩, hdoes⟩ := h
  cases howner
  cases hcall
  exact ⟨now, hdoes⟩

theorem AllSound.does {event : Event D} {outcome : Outcome RepositoryError (Answer D)}
    (h : AllSound Offered store) (hdoes : Does documentBytes store event outcome after)
    (hwrites : ∀ key document, Writes store event key document → Sound Offered key document) :
    AllSound Offered after where
  known key := (h.known key).moves (hdoes.moves key)
  sound key document hfound := by
    rcases hdoes.found_after hfound with hbefore | hwritten
    · exact h.sound key document hbefore
    · exact hwrites key document hwritten

theorem observed_later {key : ProjectKey} {document : ProjectDocument D}
    (hobserved : Observed key document seen) (h : Later (Serves documentBytes) seen store) :
    Observed key document store := by
  induction h with
  | refl => exact hobserved
  | tail _ hstep ih =>
      obtain ⟨⟨ownerId, call⟩, answer, hserved⟩ := hstep
      obtain ⟨now, hdoes⟩ := does_of_serves hserved
      exact hdoes.observed ih

/-- A call that stores no document. -/
def StoresNothing (question : StoreCall D) : Prop :=
  ∃ projectId, question.2 = .get projectId ∨ question.2 = .delete projectId

/-- Requests that only read and delete keep the stored projects sound. -/
theorem keeps_of_asks {α : Type} {body : StoreHandler D α} (hasks : body.Asks StoresNothing)
    (seen : Store D) : Keeps documentBytes Offered body seen := by
  refine Handler.Asks.keeps hasks ?_ seen
  rintro ⟨ownerId, call⟩ ⟨projectId, hcall⟩ state answer after hsound hserved
  obtain ⟨now, hdoes⟩ := does_of_serves hserved
  refine hsound.does hdoes ?_
  intro key document hwritten
  cases hwritten with
  | created created =>
      rcases hcall with hcall | hcall
      · cases created.symm.trans hcall
      · cases created.symm.trans hcall
  | updated updated =>
      rcases hcall with hcall | hcall
      · cases updated.symm.trans hcall
      · cases updated.symm.trans hcall

omit [DecimalArith D] in
theorem asks_orProblem {problem : RepositoryError → Problem}
    (outcome : Outcome RepositoryError (ProjectDocument D)) :
    (orProblem problem outcome).Asks StoresNothing := by
  cases outcome with
  | ok document => exact trivial
  | err failure => exact trivial
  | panic => exact trivial

omit [DecimalArith D] in
theorem asks_readProject (problem : RepositoryError → Problem) :
    (readProject ownerId projectId problem : StoreHandler D _).Asks StoresNothing :=
  Handler.asks_call_bind ⟨projectId, .inl rfl⟩ fun _ => asks_orProblem _

omit [DecimalArith D] in
theorem asks_updateAnswered (instancePath : String)
    (outcome : Outcome RepositoryError (ProjectDocument D)) :
    (updateAnswered ownerId projectId instancePath outcome).Asks StoresNothing := by
  cases outcome with
  | ok document => exact trivial
  | panic => exact trivial
  | err failure =>
      cases failure with
      | preconditionFailed =>
          refine Handler.asks_call_bind ⟨projectId, .inl rfl⟩ fun answer => ?_
          cases documentOf answer with
          | ok current => exact trivial
          | err failure => exact trivial
          | panic => exact trivial
      | notFound => exact trivial
      | payloadTooLarge => exact trivial
      | unavailable => exact trivial

/-- What a request goes on with has been read from the store. -/
theorem keeps_readProject {α : Type} {problem : RepositoryError → Problem}
    {next : ProjectDocument D → StoreHandler D α}
    (hnext : ∀ document seen, Observed (ownerId, projectId) document seen →
      Sound Offered (ownerId, projectId) document →
        Keeps documentBytes Offered (next document) seen) :
    Keeps documentBytes Offered (readProject ownerId projectId problem >>= next) seen := by
  rw [readProject, Handler.bind_assoc]
  refine Handler.keeps_call_bind ?_
  intro state answer after _ hsound hserved
  obtain ⟨now, hdoes⟩ := does_of_serves hserved
  obtain ⟨rfl, hread⟩ := hdoes.read rfl
  refine ⟨hsound, ?_⟩
  cases answer with
  | err failure => exact Handler.keeps_lift
  | panic => exact Handler.keeps_lift
  | ok answer =>
      cases answer with
      | documents _ => exact Handler.keeps_lift
      | done => exact Handler.keeps_lift
      | document document =>
          have hfound := hread document rfl
          exact hnext document _ ((hsound.known _).observed hfound) (hsound.sound _ _ hfound)

end Calls

/-! ### Requests -/

section Requests

variable {documentBytes : ProjectDocument D → Nat} {Offered : Services D → Prop}
  {services : Services D}

theorem keeps_updateProjectDocument (hoffered : Offered services) (ownerId : String)
    (projectId : Uuid) (ifMatch : String) (project : EditableProject D) (instancePath : String)
    (seen : Store D) : Keeps documentBytes Offered
      (updateProjectDocument services ownerId projectId ifMatch project instancePath) seen := by
  unfold updateProjectDocument
  refine Handler.keeps_check_bind fun _ hvalid => ?_
  refine keeps_readProject fun current seen hobserved hsound => ?_
  refine Handler.keeps_check_bind fun _ hmatched => ?_
  refine Handler.keeps_lift_bind fun revision hrevision => ?_
  refine Handler.keeps_call_bind ?_
  intro state answer after hlater hall hserved
  refine ⟨?_, keeps_of_asks (asks_updateAnswered _ _) _⟩
  obtain ⟨now, hdoes⟩ := does_of_serves hserved
  refine hall.does hdoes ?_
  intro key document hwritten
  cases hwritten with
  | created call => cases call
  | @updated projectId ifMatch project revision stored timestamp tag call named found matched =>
      cases call
      cases named
      -- The tag still stands, so the document is the one that was read.
      have hetag : current.etag = ifMatch := Fallible.ensure_eq_ok.mp hmatched
      obtain rfl : stored = current :=
        (observed_later hobserved hlater).2 stored found (matched.trans hetag.symm)
      have hcalculated : pricingInputsUnchanged stored project = false →
          calculateRevisionIfPriced services project instancePath = .ok revision := by
        intro hchanged
        simpa [hchanged] using hrevision
      exact hsound.revised hoffered (validateProject_ok hvalid) hcalculated

theorem keeps_create (hoffered : Offered services) (principal : Except Unit (Option String))
    (body : Except JsonRejection (EditableProject D)) (id : Uuid) (seen : Store D) :
    Keeps documentBytes Offered (create services principal body id) seen := by
  refine Handler.keeps_check_bind fun ownerId _ => ?_
  refine Handler.keeps_check_bind fun project _ => ?_
  refine Handler.keeps_check_bind fun _ hvalid => ?_
  refine Handler.keeps_lift_bind fun revision hrevision => ?_
  refine Handler.keeps_call_bind ?_
  intro state answer after _ hall hserved
  refine ⟨?_, keeps_of_asks ((asks_orProblem _).bind fun _ => Handler.asks_lift _ _) _⟩
  obtain ⟨now, hdoes⟩ := does_of_serves hserved
  refine hall.does hdoes ?_
  intro key document hwritten
  cases hwritten with
  | created call named =>
      cases call
      cases named
      exact sound_freshDocument ownerId id hoffered (validateProject_ok hvalid) hrevision
  | updated call => cases call

theorem keeps_update (hoffered : Offered services) (principal : Except Unit (Option String))
    (path : Option Uuid) (ifMatch : Option (Option String))
    (body : Except JsonRejection (EditableProject D)) (seen : Store D) :
    Keeps documentBytes Offered (update services principal path ifMatch body) seen := by
  refine Handler.keeps_check_bind fun ownerId _ => ?_
  refine Handler.keeps_check_bind fun projectId _ => ?_
  refine Handler.keeps_check_bind fun tag _ => ?_
  refine Handler.keeps_check_bind fun project _ => ?_
  exact (keeps_updateProjectDocument hoffered _ _ _ _ _ _).bind fun _ _ => Handler.keeps_lift

theorem keeps_action (sha256 : String → String) (hoffered : Offered services)
    (principal : Except Unit (Option String)) (confirmation : Option String)
    (body : Except JsonRejection (ActionRequest D)) (seen : Store D) : Keeps documentBytes Offered
      (Assistant.action sha256 services principal confirmation body) seen := by
  refine Handler.keeps_check_bind fun ownerId _ => ?_
  refine Handler.keeps_check_bind fun _ _ => ?_
  refine Handler.keeps_check_bind fun request _ => ?_
  refine Handler.keeps_check_bind fun _ _ => ?_
  refine keeps_readProject fun current seen _ _ => ?_
  refine Handler.keeps_check_bind fun _ _ => ?_
  refine (keeps_updateProjectDocument hoffered _ _ _ _ _ _).bind fun written seen => ?_
  refine keeps_of_asks ((asks_readProject _).bind fun authoritative => ?_) _
  exact Handler.asks_check_bind fun _ _ => Handler.asks_lift _ _

variable (Offered) in
/-- A request of the application that calls the store of projects. -/
inductive Request : StoreHandler D (ProjectResponse D) → Prop
  | create {services : Services D} (offered : Offered services)
      (principal : Except Unit (Option String)) (body : Except JsonRejection (EditableProject D))
      (id : Uuid) : Request (create services principal body id)
  | update {services : Services D} (offered : Offered services)
      (principal : Except Unit (Option String)) (path : Option Uuid)
      (ifMatch : Option (Option String)) (body : Except JsonRejection (EditableProject D)) :
      Request (update services principal path ifMatch body)
  | action {services : Services D} (offered : Offered services) (sha256 : String → String)
      (principal : Except Unit (Option String)) (confirmation : Option String)
      (body : Except JsonRejection (ActionRequest D)) :
      Request (Assistant.action sha256 services principal confirmation body)
  | other {request : StoreHandler D (ProjectResponse D)} (asks : request.Asks StoresNothing) :
      Request request

theorem Request.keeps {request : StoreHandler D (ProjectResponse D)}
    (h : Request Offered request) (seen : Store D) : Keeps documentBytes Offered request seen := by
  cases h with
  | create offered => exact keeps_create offered _ _ _ _
  | update offered => exact keeps_update offered _ _ _ _ _
  | action offered => exact keeps_action _ offered _ _ _ _
  | other asks => exact keeps_of_asks asks seen

/-- Any store that meets the specification holds sound documents only. -/
theorem allSound_reaches {pool : Pool (Store D) (StoreCall D) (StoreAnswer D)
      (Outcome Problem (ProjectResponse D))}
    (h : Pool.Reaches (Request Offered) (Serves documentBytes) ⟨Store.empty, []⟩ pool) :
    AllSound Offered pool.state :=
  (Pool.kept_reaches (fun _ hrequest seen => (hrequest.keeps seen).interaction) allSound_empty
    h).holds

/-- Requests in progress over the container of documents. -/
abbrev Running (D : Type) := Clients (CosmosProjects.Container D) (CosmosProjects.ContainerCall D)
  (CosmosProjects.ContainerReply D) (StoreAnswer D) (StoreCall D)
  (Outcome Problem (ProjectResponse D))

/-- However requests interleave, down to the reads and writes of the container that their
calls take, and whichever of these fail or go unanswered: every document in the container
lies under its own key, its project is valid, and its revision is that of its pricing
inputs. -/
theorem stored_projects_sound (hbytes : CosmosProjects.IgnoresEtag documentBytes)
    {running : Running D} (h : Clients.Reaches (Request Offered) Issues
      (CosmosProjects.perform documentBytes) EtagStore.Serves ⟨EtagStore.empty, []⟩ running)
    {key : ProjectKey} {item : Tagged (ProjectDocument D)}
    (hitem : running.state.items.lookup key = some item) :
    Sound Offered key (CosmosProjects.shown item) := by
  have hbody : ∀ container, Later EtagStore.Serves EtagStore.empty container →
      ∀ operation, CosmosProjects.Performs documentBytes operation
        (CosmosProjects.perform documentBytes operation) container :=
    fun _ hlater => CosmosProjects.performs_operation hbytes
      (EtagStore.tagsIssued_later EtagStore.tagsIssued_empty hlater)
  obtain ⟨pool, hreaches, hsimulates⟩ := Clients.simulates_reaches hbody h
  rw [CosmosProjects.view_empty] at hreaches
  apply (allSound_reaches hreaches).sound key
  rw [hsimulates.state]
  exact CosmosProjects.view_found hitem

end Requests

namespace SoundWitness

open ProjectRepository.ProjectWitness (noon project bytes)
open CosmosProjects.CosmosWitness (key stamp clock ignoresEtag_bytes)
open Assistant.ActionWitness (pricing)

theorem calculates : ∃ revision,
    calculateRevisionIfPriced pricing (project "Licensing") collectionInstance =
      .ok (some revision) := by
  have hsome : (calculateRevisionIfPriced pricing (project "Licensing") collectionInstance).map
      Option.isSome = .ok true := by
    decide +kernel
  obtain ⟨revision, hrevision, hisSome⟩ := Outcome.map_eq_ok.mp hsome
  obtain ⟨found, rfl⟩ := Option.isSome_iff_exists.mp hisSome
  exact ⟨found, hrevision⟩

/-- One set of services is offered at all times. -/
def offered (services : Services ℚ) : Prop := services = pricing

def request : StoreHandler ℚ (ProjectResponse ℚ) :=
  create pricing (.ok (some "owner")) (.ok (project "Licensing")) ⟨1⟩

/-- What the request does with the answer of the store. -/
def answered (answer : StoreAnswer ℚ) : StoreHandler ℚ (ProjectResponse ℚ) := do
  let document ← orProblem (mapRepositoryError collectionInstance) (documentOf answer)
  Handler.check (projectResponse document)

theorem request_eq {revision : Option (CalculationRevision ℚ)}
    (hrevision : calculateRevisionIfPriced pricing (project "Licensing") collectionInstance =
      .ok revision) :
    request = .ask ("owner", .create ⟨1⟩ (project "Licensing") revision) answered := by
  have hvalid : validateProject (project "Licensing") collectionInstance = .ok () := by
    decide +kernel
  have hbody : requestBody (.ok (project "Licensing")) collectionInstance =
      .ok (project "Licensing") := rfl
  simp only [request, create, Assistant.requirePrincipal, Handler.check_ok_bind, hbody, hvalid,
    hrevision]
  rfl

def written (revision : Option (CalculationRevision ℚ)) : Tagged (ProjectDocument ℚ) :=
  ⟨freshDocument "owner" ⟨1⟩ (project "Licensing") revision stamp "", "a"⟩

def operation (revision : Option (CalculationRevision ℚ)) : Operation ℚ :=
  ⟨⟨noon, "owner", .create ⟨1⟩ (project "Licensing") revision⟩, by simp⟩

/-- The project is in the container, and its request not answered yet. -/
theorem reaches_written {revision : Option (CalculationRevision ℚ)}
    (hrevision : calculateRevisionIfPriced pricing (project "Licensing") collectionInstance =
      .ok revision) :
    ∃ running : Running ℚ, Clients.Reaches (Request offered) Issues
      (CosmosProjects.perform bytes) EtagStore.Serves ⟨EtagStore.empty, []⟩ running ∧
        running.state.items.lookup key = some (written revision) := by
  have hrequest : Request (fun services => services = pricing) request :=
    @Request.create _ _ offered pricing rfl _ _ _
  rw [request_eq hrevision] at hrequest
  have hbody : CosmosProjects.perform bytes (operation revision) = _ :=
    CosmosProjects.perform_create _ clock rfl
  have hwritten : EtagStore.Serves EtagStore.empty
      (.create key (written revision).value) (.written (some "a"))
      (EtagStore.empty.put key (written revision).value "a") := by
    refine .done (.create rfl ⟨by decide, ?_⟩)
    simp [EtagStore.empty]
  have hbegin := @Clients.Step.begin _ _ _ _ _ _ _ (Request offered)
    Issues (CosmosProjects.perform bytes) EtagStore.Serves EtagStore.empty
    ("owner", .create ⟨1⟩ (project "Licensing") revision) (operation revision) answered [] []
    ⟨rfl, rfl⟩
  rw [hbody] at hbegin
  exact ⟨_, ((Relation.ReflTransGen.single (.arrive hrequest)).tail hbegin).tail
    (@Clients.Step.serve _ _ _ _ _ _ _ _ _ _ _ _ _ _ _ _ _ [] [] hwritten),
    AList.lookup_insert _⟩

end SoundWitness

open SoundWitness in
/-- A licensing project is stored with its calculation. -/
theorem stored_projects_sound_licensing : ∃ revision,
    Sound offered CosmosProjects.CosmosWitness.key
      (CosmosProjects.shown (written (some revision))) := by
  obtain ⟨revision, hrevision⟩ := calculates
  obtain ⟨running, hreaches, hitem⟩ := reaches_written hrevision
  exact ⟨revision, stored_projects_sound CosmosProjects.CosmosWitness.ignoresEtag_bytes hreaches
    hitem⟩

end TcoCalculator.Projects
