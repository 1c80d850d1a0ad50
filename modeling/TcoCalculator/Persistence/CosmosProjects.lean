/-
The repository of projects over a container of documents
(src/rust/src/persistence/cosmos.rs): its calls read and write in several steps, and
still act at one stroke.
-/
import TcoCalculator.Library.EtagStore
import TcoCalculator.Persistence.ProjectStore

namespace TcoCalculator.CosmosProjects

open ProjectRepository
open ProjectStore (Store Does Changes Refuses Acts Operation currentTimestamp_error enforced_ok
  enforced_error)
open Rfc3339 (UtcDateTime)
open Linearization (AtomicReaches)

/-- The documents of projects, by partition and identifier. -/
abbrev Container (D : Type) := EtagStore ProjectKey (ProjectDocument D)

abbrev ContainerCall (D : Type) := EtagStore.Call ProjectKey (ProjectDocument D)

abbrev ContainerReply (D : Type) := EtagStore.Reply (ProjectDocument D)

abbrev ContainerHandler (D α : Type) :=
  Handler (ContainerCall D) (ContainerReply D) RepositoryError α

variable {D : Type}

/-! ### Operations -/

def mapCosmosError (status : Nat) : RepositoryError :=
  if status = 404 then .notFound
  else if status = 412 then .preconditionFailed
  else if status = 413 then .payloadTooLarge
  else .unavailable

def responseEtag (header : Option String) : Except RepositoryError String :=
  match header.filter fun etag => etag ≠ "" with
  | some etag => .ok etag
  | none => .error .unavailable

/-- The tag of a write that succeeded. -/
def written : ContainerReply D → Except RepositoryError String
  | .written header => responseEtag header
  | .failed status => .error (mapCosmosError status)
  | .item _ _ | .deleted => .error .unavailable

section Operations

variable [DecimalArith D] (documentBytes : ProjectDocument D → Nat)

def validateStoredDocument (document : ProjectDocument D) (ownerId : String)
    (expectedId : Option Uuid) : Except RepositoryError Unit := do
  ensure (document.documentType = projectDocumentType ∧ document.ownerId = ownerId ∧
    (∀ id ∈ expectedId, document.id = id) ∧ document.etag ≠ "") .unavailable
  enforceDocumentSize documentBytes document

/-- The document in the answer to a read, under the tag of its header. -/
def itemRead (ownerId : String) (projectId : Uuid) :
    ContainerReply D → Except RepositoryError (ProjectDocument D)
  | .item document header => do
      let etag ← responseEtag header
      let document := { document with etag := etag }
      validateStoredDocument documentBytes document ownerId (some projectId)
      return document
  | .failed status => .error (mapCosmosError status)
  | .written _ | .deleted => .error .unavailable

def get (ownerId : String) (projectId : Uuid) : ContainerHandler D (ProjectDocument D) := do
  let reply ← Handler.call (.read (ownerId, projectId))
  Handler.check (itemRead documentBytes ownerId projectId reply)

/-- `id` is the fresh random identifier. -/
def create (now : UtcDateTime) (id : Uuid) (ownerId : String) (project : EditableProject D)
    (calculationRevision : Option (CalculationRevision D)) :
    ContainerHandler D (ProjectDocument D) := do
  let timestamp ← Handler.check (currentTimestamp now)
  let document ← Handler.check
    (newProjectDocument documentBytes ownerId id project calculationRevision timestamp "")
  let reply ← Handler.call (.create (ownerId, id) document)
  let etag ← Handler.check (written reply)
  return { document with etag := etag }

/-- What an update does with the document that it read. -/
def replaceCurrent (now : UtcDateTime) (ownerId : String) (projectId : Uuid) (ifMatch : String)
    (project : EditableProject D) (calculationRevision : Option (CalculationRevision D))
    (current : ProjectDocument D) : ContainerHandler D (ProjectDocument D) := do
  Handler.check (ensure (current.etag = ifMatch) .preconditionFailed)
  let timestamp ← Handler.check (currentTimestamp now)
  let document ← Handler.check
    (updatedProjectDocument documentBytes current project calculationRevision timestamp "")
  let reply ← Handler.call (.replace (ownerId, projectId) document ifMatch)
  let etag ← Handler.check (written reply)
  return { document with etag := etag }

def update (now : UtcDateTime) (ownerId : String) (projectId : Uuid) (ifMatch : String)
    (project : EditableProject D) (calculationRevision : Option (CalculationRevision D)) :
    ContainerHandler D (ProjectDocument D) := do
  let current ← get documentBytes ownerId projectId
  replaceCurrent documentBytes now ownerId projectId ifMatch project calculationRevision current

omit [DecimalArith D] in
def delete (ownerId : String) (projectId : Uuid) : ContainerHandler D Unit := do
  let reply ← Handler.call (.delete (ownerId, projectId))
  match reply with
  | .deleted => return ()
  | .failed status => Handler.fail (mapCosmosError status)
  | .item _ _ | .written _ => Handler.fail .unavailable

/-- The request of an operation. -/
def perform (operation : Operation D) : ContainerHandler D (Answer D) :=
  let event := operation.1
  match hcall : event.call with
  | .create id project calculationRevision => do
      let document ← create documentBytes event.now id event.ownerId project calculationRevision
      return .document document
  | .get projectId => do
      let document ← get documentBytes event.ownerId projectId
      return .document document
  | .update projectId ifMatch project calculationRevision => do
      let document ← update documentBytes event.now event.ownerId projectId ifMatch project
        calculationRevision
      return .document document
  | .delete projectId => do
      delete event.ownerId projectId
      return .done
  | .list => absurd hcall operation.2

end Operations

/-! ### What the container shows -/

section View

/-- The document a client reads. -/
def shown (item : Tagged (ProjectDocument D)) : ProjectDocument D :=
  { item.value with etag := item.etag }

def view (container : Container D) : Store D where
  found key := (container.items.lookup key).map shown
  tags key tag := tag ∈ container.issued key

theorem view_put (container : Container D) (key : ProjectKey) (value : ProjectDocument D)
    (etag : String) : view (container.put key value etag) =
      (view container).put key { value with etag := etag } := by
  apply ProjectStore.Store.ext
  · funext other
    by_cases hkey : other = key
    · subst hkey
      simp [view, EtagStore.put, shown]
    · rw [Store.put_found_ne _ _ hkey]
      simp [view, EtagStore.put, AList.lookup_insert_ne hkey]
  · funext other tag
    by_cases hkey : other = key
    · subst hkey
      simp [view, EtagStore.put]
    · rw [Store.put_tags_ne _ _ hkey]
      simp [view, EtagStore.put, hkey]

theorem view_remove (container : Container D) (key : ProjectKey) :
    view (container.remove key) = (view container).remove key := by
  apply ProjectStore.Store.ext
  · funext other
    by_cases hkey : other = key
    · subst hkey
      simp [view, EtagStore.remove]
    · rw [Store.remove_found_ne _ hkey]
      simp [view, EtagStore.remove, AList.lookup_erase_ne hkey]
  · rfl

theorem view_found {container : Container D} {key : ProjectKey}
    {item : Tagged (ProjectDocument D)} (h : container.items.lookup key = some item) :
    (view container).found key = some (shown item) := by
  simp [view, h]

theorem view_missing {container : Container D} {key : ProjectKey}
    (h : container.items.lookup key = none) : (view container).found key = none := by
  simp [view, h]

end View

/-! ### Each operation acts at one stroke -/

section Performs

open EtagStore (Serves Effect Refusal Outage)
open Linearization (Later Returns)

theorem mapCosmosError_of_outage {status : Nat} (h : Outage status) :
    mapCosmosError status = .unavailable := by
  rw [mapCosmosError, if_neg h.1, if_neg h.2.1, if_neg h.2.2]

theorem responseEtag_some {etag : String} (h : etag ≠ "") :
    responseEtag (some etag) = .ok etag := by
  simp [responseEtag, Option.filter, h]

variable [DecimalArith D] (documentBytes : ProjectDocument D → Nat)

/-- The request acts at one stroke as the operation does. -/
abbrev Performs (operation : Operation D) (body : ContainerHandler D (Answer D))
    (seen : Container D) : Prop :=
  Linearization.Performs Serves view (Acts documentBytes) operation body seen

variable {documentBytes} {operation : Operation D} {seen : Container D}

theorem performs_fail {failure : RepositoryError}
    (h : Refuses documentBytes (view seen) operation.1 failure) :
    Performs documentBytes operation (Interaction.done (.err failure)) seen :=
  Does.refused h

/-- A write that ends with the tag that it reports, or with an error. -/
theorem performs_write {call : ContainerCall D} {answer : String → Answer D}
    (heffect : ∀ state reply after, Later Serves seen state → Effect state call reply after →
      ∃ etag, reply = .written (some etag) ∧ etag ≠ "" ∧
        Changes documentBytes (view state) operation.1 (answer etag) (view after))
    (hrefusal : ∀ state status, Later Serves seen state → Refusal state call status →
      Refuses documentBytes (view state) operation.1 (mapCosmosError status)) :
    Performs documentBytes operation (do
      let reply ← Handler.call call
      let etag ← Handler.check (written reply)
      return answer etag) seen := by
  intro state reply after hlater hserved
  right
  change ∃ result, Acts documentBytes (view state) operation result (view after) ∧
    Returns Serves view result
      (Handler.check (written reply) >>= fun etag => pure (answer etag) :
        ContainerHandler D (Answer D))
  cases hserved with
  | done effect =>
      obtain ⟨etag, rfl, hetag, hchanges⟩ := heffect state reply after hlater effect
      refine ⟨_, .succeeds hchanges, ?_⟩
      simp only [written, responseEtag_some hetag]
      rfl
  | readUntagged found =>
      obtain ⟨etag, hreply, -⟩ := heffect state _ state hlater (.read found)
      cases hreply
  | writtenUntagged effect =>
      obtain ⟨etag, hreply, -, hchanges⟩ := heffect state _ after hlater effect
      exact ⟨_, .unanswered hchanges, rfl⟩
  | refused refusal => exact ⟨_, .refused (hrefusal state _ hlater refusal), rfl⟩
  | down outage =>
      refine ⟨_, .refused .unavailable, ?_⟩
      simp only [written, mapCosmosError_of_outage outage]
      rfl
  | lost effect outage =>
      obtain ⟨etag, -, -, hchanges⟩ := heffect state _ after hlater effect
      refine ⟨_, .unanswered hchanges, ?_⟩
      simp only [written, mapCosmosError_of_outage outage]
      rfl

/-- The tag is not part of the stored text. -/
def IgnoresEtag (documentBytes : ProjectDocument D → Nat) : Prop :=
  ∀ document etag, documentBytes { document with etag := etag } = documentBytes document

/-- A new project that can be stored is written in one call. -/
theorem perform_create {now : UtcDateTime} {ownerId : String} {id : Uuid}
    {project : EditableProject D} {revision : Option (CalculationRevision D)}
    (hlist : Call.create id project revision ≠ .list) {timestamp : String}
    (hclock : currentTimestamp now = .ok timestamp)
    (hsize : enforceDocumentSize documentBytes
      (freshDocument ownerId id project revision timestamp "") = .ok ()) :
    perform documentBytes ⟨⟨now, ownerId, .create id project revision⟩, hlist⟩ = (do
      let reply ← Handler.call
        (.create (ownerId, id) (freshDocument ownerId id project revision timestamp ""))
      let etag ← Handler.check (written reply)
      return .document (freshDocument ownerId id project revision timestamp etag)) := by
  simp only [perform, create, hclock, Handler.check_ok_bind, newProjectDocument, hsize,
    Fallible.ok_bind, Fallible.pure_eq_ok, Handler.bind_assoc, Handler.pure_bind]
  rfl

theorem performs_create (hbytes : IgnoresEtag documentBytes) (now : UtcDateTime)
    (ownerId : String) (id : Uuid) (project : EditableProject D)
    (revision : Option (CalculationRevision D)) (hlist : Call.create id project revision ≠ .list) :
    Performs documentBytes ⟨⟨now, ownerId, .create id project revision⟩, hlist⟩
      (perform documentBytes ⟨⟨now, ownerId, .create id project revision⟩, hlist⟩) seen := by
  cases hclock : currentTimestamp now with
  | error failure =>
      obtain rfl := currentTimestamp_error hclock
      simp only [perform, create, hclock]
      exact performs_fail .unavailable
  | ok timestamp =>
      cases hsize : enforceDocumentSize documentBytes
          (freshDocument ownerId id project revision timestamp "") with
      | error failure =>
          obtain ⟨rfl, hlarge⟩ := enforced_error hsize
          simp only [perform, create, hclock, Handler.check_ok_bind, newProjectDocument, hsize]
          exact performs_fail (.createTooLarge rfl hclock hlarge)
      | ok _ =>
          rw [perform_create hlist hclock hsize]
          refine performs_write ?_ ?_
          · intro state reply after _ heffect
            cases heffect with
            | @create _ _ etag absent fresh =>
                refine ⟨etag, rfl, fresh.1, ?_⟩
                rw [view_put]
                refine .created rfl hclock (view_missing absent) fresh ?_
                have hsame := hbytes (freshDocument ownerId id project revision timestamp "") etag
                exact hsame.trans_lt (enforced_ok hsize)
          · intro state status _ hrefusal
            cases hrefusal
            exact .unavailable

omit [DecimalArith D] in
theorem responseEtag_eq_ok {header : Option String} {etag : String}
    (h : responseEtag header = .ok etag) : header = some etag := by
  unfold responseEtag at h
  split at h
  · rename_i found hfound
    cases h
    exact (Option.filter_eq_some_iff.mp hfound).1
  · cases h

omit [DecimalArith D] in
theorem responseEtag_error {header : Option String} {failure : RepositoryError}
    (h : responseEtag header = .error failure) : failure = .unavailable := by
  unfold responseEtag at h
  split at h
  · cases h
  · cases h
    rfl

omit [DecimalArith D] in
theorem itemRead_ok {ownerId : String} {projectId : Uuid} {item : Tagged (ProjectDocument D)}
    {document : ProjectDocument D}
    (h : itemRead documentBytes ownerId projectId (.item item.value (some item.etag)) =
      .ok document) : document = shown item := by
  obtain ⟨etag, hetag, h⟩ := Fallible.bind_eq_ok.mp h
  obtain ⟨_, -, h⟩ := Fallible.bind_eq_ok.mp h
  cases responseEtag_eq_ok hetag
  cases h
  rfl

omit [DecimalArith D] in
theorem itemRead_error {ownerId : String} {projectId : Uuid} {item : Tagged (ProjectDocument D)}
    {failure : RepositoryError}
    (h : itemRead documentBytes ownerId projectId (.item item.value (some item.etag)) =
      .error failure) :
    failure = .unavailable ∨
      failure = .payloadTooLarge ∧ maxProjectDocumentBytes ≤ documentBytes (shown item) := by
  rcases Fallible.bind_eq_error.mp h with hetag | ⟨etag, hetag, h⟩
  · exact .inl (responseEtag_error hetag)
  · cases responseEtag_eq_ok hetag
    rcases Fallible.bind_eq_error.mp h with hvalid | ⟨_, -, h⟩
    · rcases Fallible.bind_eq_error.mp hvalid with hkept | ⟨_, -, hsize⟩
      · exact .inl (Fallible.ensure_eq_error.mp hkept).2.symm
      · exact .inr (enforced_error hsize)
    · cases h

/-- A read leaves the container as it is; it finds the document, or fails for a reason that
the call may give. -/
theorem read_cases {state after : Container D} {reply : ContainerReply D} {event : Event D}
    {projectId : Uuid} (hnamed : ProjectStore.named event.call = some projectId)
    (hserved : Serves state (.read (event.ownerId, projectId)) reply after) :
    after = state ∧
      ((∃ item, state.items.lookup (event.ownerId, projectId) = some item ∧
        itemRead documentBytes event.ownerId projectId reply = .ok (shown item)) ∨
      ∃ failure, itemRead documentBytes event.ownerId projectId reply = .error failure ∧
        Refuses documentBytes (view state) event failure) := by
  cases hserved with
  | done effect =>
      cases effect with
      | @read _ item found =>
          refine ⟨rfl, ?_⟩
          cases hread : itemRead documentBytes event.ownerId projectId
              (.item item.value (some item.etag)) with
          | ok document => exact .inl ⟨item, found, by rw [itemRead_ok hread]⟩
          | error failure =>
              right
              rcases itemRead_error hread with rfl | ⟨rfl, hlarge⟩
              · exact ⟨_, rfl, .unavailable⟩
              · exact ⟨_, rfl, .storedTooLarge hnamed (view_found found) hlarge⟩
  | readUntagged found => exact ⟨rfl, .inr ⟨_, rfl, .unavailable⟩⟩
  | writtenUntagged effect => cases effect
  | refused refusal =>
      cases refusal with
      | readMissing absent => exact ⟨rfl, .inr ⟨_, rfl, .missing hnamed (view_missing absent)⟩⟩
  | down outage =>
      refine ⟨rfl, .inr ⟨.unavailable, ?_, .unavailable⟩⟩
      simp only [itemRead, mapCosmosError_of_outage outage]
  | lost effect outage =>
      cases effect
      refine ⟨rfl, .inr ⟨.unavailable, ?_, .unavailable⟩⟩
      simp only [itemRead, mapCosmosError_of_outage outage]

theorem performs_get (now : UtcDateTime) (ownerId : String) (projectId : Uuid)
    (hlist : (Call.get projectId : Call D) ≠ .list) :
    Performs documentBytes ⟨⟨now, ownerId, .get projectId⟩, hlist⟩
      (perform documentBytes ⟨⟨now, ownerId, .get projectId⟩, hlist⟩) seen := by
  simp only [perform, get, Handler.bind_assoc]
  intro state reply after hlater hserved
  right
  change ∃ result, Acts documentBytes (view state) _ result (view after) ∧
    Returns Serves view result (Handler.check (itemRead documentBytes ownerId projectId reply) >>=
      fun document => pure (.document document) : ContainerHandler D (Answer D))
  obtain ⟨rfl, ⟨item, hfound, hread⟩ | ⟨failure, hread, hrefuses⟩⟩ :=
    @read_cases _ _ documentBytes _ _ _ ⟨now, ownerId, .get projectId⟩ _ rfl hserved
  · rw [hread]
    exact ⟨_, .succeeds (.read rfl (view_found hfound)), rfl⟩
  · rw [hread]
    exact ⟨_, .refused hrefuses, rfl⟩

theorem performs_delete (now : UtcDateTime) (ownerId : String) (projectId : Uuid)
    (hlist : (Call.delete projectId : Call D) ≠ .list) :
    Performs documentBytes ⟨⟨now, ownerId, .delete projectId⟩, hlist⟩
      (perform documentBytes ⟨⟨now, ownerId, .delete projectId⟩, hlist⟩) seen := by
  simp only [perform, delete, Handler.bind_assoc]
  intro state reply after hlater hserved
  right
  cases hserved with
  | done effect =>
      cases effect with
      | delete found =>
          rw [view_remove]
          exact ⟨_, .succeeds (.deleted rfl (view_found found)), rfl⟩
  | writtenUntagged effect => cases effect
  | refused refusal =>
      cases refusal with
      | deleteMissing absent => exact ⟨_, .refused (.missing rfl (view_missing absent)), rfl⟩
  | @down _ status outage =>
      refine ⟨.err (mapCosmosError status), ?_, rfl⟩
      rw [mapCosmosError_of_outage outage]
      exact .refused .unavailable
  | @lost _ _ _ status effect outage =>
      cases effect with
      | delete found =>
          refine ⟨.err (mapCosmosError status), ?_, rfl⟩
          rw [mapCosmosError_of_outage outage, view_remove]
          exact .unanswered (.deleted rfl (view_found found))

theorem revisedDocument_etag (stored : ProjectDocument D) (project : EditableProject D)
    (revision : Option (CalculationRevision D)) (timestamp etag : String) :
    { revisedDocument stored project revision timestamp "" with etag := etag } =
      revisedDocument stored project revision timestamp etag := by
  simp only [revisedDocument]

/-- An update that can be stored is written in one call. -/
theorem replaceCurrent_eq {now : UtcDateTime} {ownerId : String} {projectId : Uuid}
    {ifMatch : String} {project : EditableProject D} {revision : Option (CalculationRevision D)}
    {current : ProjectDocument D} {timestamp : String} (hetag : current.etag = ifMatch)
    (hclock : currentTimestamp now = .ok timestamp)
    (hsize : enforceDocumentSize documentBytes
      (revisedDocument current project revision timestamp "") = .ok ()) :
    replaceCurrent documentBytes now ownerId projectId ifMatch project revision current = (do
      let reply ← Handler.call (.replace (ownerId, projectId)
        (revisedDocument current project revision timestamp "") ifMatch)
      let etag ← Handler.check (written reply)
      return revisedDocument current project revision timestamp etag) := by
  simp only [replaceCurrent, ensure, if_pos hetag, hclock, Handler.check_ok_bind,
    updatedProjectDocument, hsize, Fallible.ok_bind, Fallible.pure_eq_ok, revisedDocument_etag]

/-- The document that was read is still the one stored whenever its tag is. -/
theorem performs_replaceCurrent (hbytes : IgnoresEtag documentBytes) {event : Event D}
    {projectId : Uuid} {ifMatch : String} {project : EditableProject D}
    {revision : Option (CalculationRevision D)} (hlist : event.call ≠ .list)
    (hcall : event.call = .update projectId ifMatch project revision)
    {item : Tagged (ProjectDocument D)}
    (hfound : seen.items.lookup (event.ownerId, projectId) = some item)
    (hissued : seen.TagsIssued) :
    Performs documentBytes ⟨event, hlist⟩ (do
      let document ← replaceCurrent documentBytes event.now event.ownerId projectId ifMatch project
        revision (shown item)
      return .document document) seen := by
  by_cases hetag : (shown item).etag = ifMatch
  · cases hclock : currentTimestamp event.now with
    | error failure =>
        obtain rfl := currentTimestamp_error hclock
        simp only [replaceCurrent, ensure, if_pos hetag, hclock]
        exact performs_fail .unavailable
    | ok timestamp =>
        cases hsize : enforceDocumentSize documentBytes
            (revisedDocument (shown item) project revision timestamp "") with
        | error failure =>
            obtain ⟨rfl, hlarge⟩ := enforced_error hsize
            simp only [replaceCurrent, ensure, if_pos hetag, hclock, Handler.check_ok_bind,
              updatedProjectDocument, hsize]
            exact performs_fail (.updateTooLarge hcall hclock (view_found hfound) hetag hlarge)
        | ok _ =>
            rw [replaceCurrent_eq hetag hclock hsize]
            simp only [Handler.bind_assoc, Handler.pure_bind]
            refine performs_write ?_ ?_
            · intro state reply after hlater heffect
              cases heffect with
              | @replace _ _ found etag hagain fresh =>
                  -- The tag still stands, so the document is the one that was read.
                  have hobserved := (hissued.observed hfound).later hlater
                  have hsame : found = item := hobserved.2 found hagain hetag.symm
                  subst hsame
                  refine ⟨etag, rfl, fresh.1, ?_⟩
                  rw [view_put, revisedDocument_etag]
                  refine .updated hcall hclock (view_found hagain) rfl fresh ?_
                  rw [← revisedDocument_etag, hbytes]
                  exact enforced_ok hsize
            · intro state status _ hrefusal
              cases hrefusal with
              | replaceMissing absent =>
                  exact .missing (by rw [hcall]; rfl) (view_missing absent)
              | unmatched found unmatched => exact .stale hcall (view_found found) unmatched
  · simp only [replaceCurrent, ensure, if_neg hetag]
    exact performs_fail (.stale hcall (view_found hfound) hetag)

theorem perform_update (now : UtcDateTime) (ownerId : String) (projectId : Uuid)
    (ifMatch : String) (project : EditableProject D) (revision : Option (CalculationRevision D))
    (hlist : Call.update projectId ifMatch project revision ≠ .list) :
    perform documentBytes ⟨⟨now, ownerId, .update projectId ifMatch project revision⟩, hlist⟩ = (do
      let reply ← Handler.call (.read (ownerId, projectId))
      let current ← Handler.check (itemRead documentBytes ownerId projectId reply)
      let document ← replaceCurrent documentBytes now ownerId projectId ifMatch project revision
        current
      return .document document) := by
  simp only [perform, update, get, Handler.bind_assoc]

theorem performs_update (hbytes : IgnoresEtag documentBytes) (now : UtcDateTime)
    (ownerId : String) (projectId : Uuid) (ifMatch : String) (project : EditableProject D)
    (revision : Option (CalculationRevision D))
    (hlist : Call.update projectId ifMatch project revision ≠ .list) (hissued : seen.TagsIssued) :
    Performs documentBytes ⟨⟨now, ownerId, .update projectId ifMatch project revision⟩, hlist⟩
      (perform documentBytes
        ⟨⟨now, ownerId, .update projectId ifMatch project revision⟩, hlist⟩) seen := by
  rw [perform_update]
  intro state reply after hlater hserved
  obtain ⟨rfl, ⟨item, hfound, hread⟩ | ⟨failure, hread, hrefuses⟩⟩ :=
    @read_cases _ _ documentBytes _ _ _
      ⟨now, ownerId, .update projectId ifMatch project revision⟩ _ rfl hserved
  · left
    refine ⟨rfl, ?_⟩
    change Performs documentBytes _
      (Handler.check (itemRead documentBytes ownerId projectId reply) >>= fun current =>
        replaceCurrent documentBytes now ownerId projectId ifMatch project revision current >>=
          fun document => pure (.document document)) after
    rw [hread]
    exact performs_replaceCurrent hbytes hlist rfl hfound
      (EtagStore.tagsIssued_later hissued hlater)
  · right
    refine ⟨_, .refused hrefuses, ?_⟩
    change Returns Serves view _ (Handler.check (itemRead documentBytes ownerId projectId reply) >>=
      fun current => replaceCurrent documentBytes now ownerId projectId ifMatch project revision
        current >>= fun document => pure (.document document) : ContainerHandler D (Answer D))
    rw [hread]
    rfl

theorem performs_operation (hbytes : IgnoresEtag documentBytes) (hissued : seen.TagsIssued)
    (operation : Operation D) :
    Performs documentBytes operation (perform documentBytes operation) seen := by
  obtain ⟨⟨now, ownerId, call⟩, hlist⟩ := operation
  cases call with
  | create id project revision =>
      exact performs_create hbytes now ownerId id project revision hlist
  | get projectId => exact performs_get now ownerId projectId hlist
  | update projectId ifMatch project revision =>
      exact performs_update hbytes now ownerId projectId ifMatch project revision hlist hissued
  | delete projectId => exact performs_delete now ownerId projectId hlist
  | list => exact absurd rfl hlist

end Performs

/-! ### Operations side by side -/

section Runs

open Linearization (AtomicReaches Reaches Server)

variable [DecimalArith D] {documentBytes : ProjectDocument D → Nat}

/-- What is left of an operation. -/
abbrev Request (D : Type) :=
  Interaction (ContainerCall D) (ContainerReply D) (Outcome RepositoryError (Answer D))

/-- The container and the operations in progress on it. -/
abbrev Clients (D : Type) := Server (Container D) (Operation D) (Request D)

omit [DecimalArith D] in
theorem view_empty : view (EtagStore.empty : Container D) = Store.empty := by
  apply ProjectStore.Store.ext
  · funext key
    simp [view, EtagStore.empty, Store.empty]
  · funext key tag
    simp [view, EtagStore.empty, Store.empty]

theorem simulated (hbytes : IgnoresEtag documentBytes) {clients : Clients D}
    (h : Reaches (perform documentBytes) EtagStore.Serves ⟨EtagStore.empty, []⟩ clients) :
    ∃ operations, AtomicReaches (Acts documentBytes) ⟨Store.empty, []⟩ operations ∧
      Linearization.Simulates EtagStore.Serves view (Acts documentBytes) clients operations := by
  have hbody : ∀ container, Linearization.Later EtagStore.Serves EtagStore.empty container →
      ∀ operation, Performs documentBytes operation (perform documentBytes operation) container :=
    fun _ hlater => performs_operation hbytes
      (EtagStore.tagsIssued_later EtagStore.tagsIssued_empty hlater)
  obtain ⟨operations, hreaches, hsimulates⟩ := Linearization.linearizable hbody h
  rw [view_empty] at hreaches
  exact ⟨operations, hreaches, hsimulates⟩

/-- The operation has ended, having updated the project under the tag. -/
def UpdateEnded (key : ProjectKey) (ifMatch : String) (client : Operation D × Request D) : Prop :=
  ProjectStore.Updates client.1.1 key ifMatch ∧ ∃ answer, client.2 = .done (.ok answer)

omit [DecimalArith D] in
theorem UpdateEnded.updated {key : ProjectKey} {ifMatch : String} {client : Operation D × Request D}
    {slot : ProjectStore.Slot D} (h : UpdateEnded key ifMatch client)
    (hslot : slot.1 = client.1 ∧ ∀ result, client.2 = .done result → slot.2 = some result) :
    ProjectStore.Updated key ifMatch slot := by
  obtain ⟨hupdates, answer, hdone⟩ := h
  refine ⟨?_, answer, hslot.2 _ hdone⟩
  rw [hslot.1]
  exact hupdates

/-- Of the updates of a project under one tag at most one succeeds. -/
theorem tag_updates_once (hbytes : IgnoresEtag documentBytes) {clients : Clients D}
    (h : Reaches (perform documentBytes) EtagStore.Serves ⟨EtagStore.empty, []⟩ clients) :
    clients.slots.Pairwise fun first second => ∀ key ifMatch,
      UpdateEnded key ifMatch first → ¬ UpdateEnded key ifMatch second := by
  obtain ⟨operations, hreaches, hsimulates⟩ := simulated hbytes h
  refine Linearization.pairwise_of_forall₂ hsimulates.ended ?_
    (ProjectStore.updatedOnce_reaches hreaches).once
  intro first second slot other hslot hother hapart key ifMatch hone htwo
  exact hapart key ifMatch (hone.updated hslot) (htwo.updated hother)

end Runs

namespace CosmosWitness

open ProjectRepository.ProjectWitness (noon project bytes)
open Linearization (Reaches Step)

def key : ProjectKey := ("owner", ⟨1⟩)

def stamp : String := "2026-08-23T12:00:00Z"

theorem clock : currentTimestamp noon = .ok stamp := by decide +kernel

def createOperation : Operation ℚ :=
  ⟨⟨noon, "owner", .create ⟨1⟩ (project "Licensing") none⟩, by simp⟩

/-- Two writers hold the tag of the first version. -/
def updateOperation (name : String) : Operation ℚ :=
  ⟨⟨noon, "owner", .update ⟨1⟩ "a" (project name) none⟩, by simp⟩

def first : Tagged (ProjectDocument ℚ) :=
  ⟨freshDocument "owner" ⟨1⟩ (project "Licensing") none stamp "", "a"⟩

def second : Tagged (ProjectDocument ℚ) :=
  ⟨revisedDocument (shown first) (project "First") none stamp "", "b"⟩

def created : Container ℚ := EtagStore.empty.put key first.value first.etag

def updated : Container ℚ := created.put key second.value second.etag

theorem created_first : created.items.lookup key = some first := AList.lookup_insert _

theorem updated_second : updated.items.lookup key = some second := AList.lookup_insert _

/-- What is left of an update that has read the first version. -/
def afterRead (name : String) : ContainerHandler ℚ (Answer ℚ) := do
  let document ← replaceCurrent bytes noon "owner" ⟨1⟩ "a" (project name) none (shown first)
  return .document document

/-- An operation and what is left of it. -/
def client (operation : Operation ℚ) (left : ContainerHandler ℚ (Answer ℚ)) :
    Operation ℚ × Request ℚ := (operation, left)

def createEnded : Operation ℚ × Request ℚ := client createOperation
  (Handler.lift (.ok (.document (freshDocument "owner" ⟨1⟩ (project "Licensing") none stamp "a"))))

def firstEnded : Operation ℚ × Request ℚ := client (updateOperation "First")
  (Handler.lift (.ok (.document (revisedDocument (shown first) (project "First") none stamp "b"))))

def secondEnded : Operation ℚ × Request ℚ :=
  client (updateOperation "Second") (Handler.fail .preconditionFailed)

/-- The two updates interleave: both read, then both write. -/
def clients : Clients ℚ := ⟨updated, [secondEnded, firstEnded, createEnded]⟩

theorem step_create : Step (perform bytes) EtagStore.Serves
    ⟨EtagStore.empty, [client createOperation (perform bytes createOperation)]⟩
    ⟨created, [createEnded]⟩ := by
  have hbody : perform bytes createOperation = _ := perform_create _ clock rfl
  rw [client, hbody]
  refine @Step.serve _ _ _ _ _ _ _ _ _ _ _ _ _ [] _
    (EtagStore.Serves.done (.create ?_ ⟨by decide, ?_⟩))
  · rfl
  · simp [EtagStore.empty]

theorem step_read (name : String) (before rest : List (Operation ℚ × Request ℚ)) :
    Step (perform bytes) EtagStore.Serves
      ⟨created, before ++ client (updateOperation name) (perform bytes (updateOperation name)) ::
        rest⟩
      ⟨created, before ++ client (updateOperation name) (afterRead name) :: rest⟩ := by
  have hbody : perform bytes (updateOperation name) = _ := perform_update _ _ _ _ _ _ _
  rw [client, hbody]
  exact Step.serve (EtagStore.Serves.done (.read created_first))

theorem afterRead_eq (name : String) : afterRead name = (do
    let reply ← Handler.call
      (.replace key (revisedDocument (shown first) (project name) none stamp "") "a")
    let etag ← Handler.check (written reply)
    return .document (revisedDocument (shown first) (project name) none stamp etag)) := by
  have hetag : (shown first).etag = "a" := rfl
  rw [afterRead, replaceCurrent_eq hetag clock rfl]
  simp only [Handler.bind_assoc, Handler.pure_bind, key]

theorem step_first : Step (perform bytes) EtagStore.Serves
    ⟨created, [client (updateOperation "Second") (afterRead "Second"),
      client (updateOperation "First") (afterRead "First"), createEnded]⟩
    ⟨updated, [client (updateOperation "Second") (afterRead "Second"), firstEnded,
      createEnded]⟩ := by
  rw [afterRead_eq "First"]
  exact @Step.serve _ _ _ _ _ _ _ _ _ _ _ _ _ [_] _
    (EtagStore.Serves.done (.replace created_first ⟨by decide, by decide⟩))

theorem step_second : Step (perform bytes) EtagStore.Serves
    ⟨updated, [client (updateOperation "Second") (afterRead "Second"), firstEnded, createEnded]⟩
    clients := by
  rw [afterRead_eq "Second"]
  exact @Step.serve _ _ _ _ _ _ _ _ _ _ _ _ _ [] _
    (EtagStore.Serves.refused (.unmatched updated_second (by decide)))

theorem reaches_clients :
    Reaches (perform bytes) EtagStore.Serves ⟨EtagStore.empty, []⟩ clients := by
  have hcreated : Reaches (perform bytes) EtagStore.Serves ⟨EtagStore.empty, []⟩
      ⟨created, [createEnded]⟩ :=
    (Relation.ReflTransGen.single (.begin createOperation)).tail step_create
  have hfirst := (hcreated.tail (.begin (updateOperation "First"))).tail
    (step_read "First" [] [createEnded])
  have hsecond := (hfirst.tail (.begin (updateOperation "Second"))).tail
    (step_read "Second" [] [client (updateOperation "First") (afterRead "First"), createEnded])
  exact (hsecond.tail step_first).tail step_second

theorem ignoresEtag_bytes : IgnoresEtag bytes := fun _ _ => rfl

end CosmosWitness

open CosmosWitness in
theorem tag_updates_once_two_writers :
    UpdateEnded key "a" firstEnded ∧
      [secondEnded, firstEnded, createEnded].Pairwise fun first second => ∀ key ifMatch,
        UpdateEnded key ifMatch first → ¬ UpdateEnded key ifMatch second :=
  ⟨⟨⟨_, _, rfl, rfl⟩, _, rfl⟩, tag_updates_once ignoresEtag_bytes reaches_clients⟩

end TcoCalculator.CosmosProjects
