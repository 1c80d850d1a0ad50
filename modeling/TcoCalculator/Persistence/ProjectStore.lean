/-
What a store of projects is for, whichever of the two implements it: documents under
tags that are never used twice, and calls that act at one stroke.
-/
import TcoCalculator.Library.Linearization
import TcoCalculator.Persistence.ProjectRepositoryRun

namespace TcoCalculator.ProjectStore

open ProjectRepository
open Rfc3339 (UtcDateTime)

/-- The document of each project, and every tag a document of it has had. -/
@[ext] structure Store (D : Type) where
  found : ProjectKey → Option (ProjectDocument D)
  tags : ProjectKey → String → Prop

variable {D : Type}

def Store.empty : Store D := ⟨fun _ => none, fun _ _ => False⟩

open Classical in
/-- A document is stored under its tag. -/
noncomputable def Store.put (store : Store D) (key : ProjectKey) (document : ProjectDocument D) :
    Store D where
  found := Function.update store.found key (some document)
  tags := Function.update store.tags key fun tag => tag = document.etag ∨ store.tags key tag

open Classical in
noncomputable def Store.remove (store : Store D) (key : ProjectKey) : Store D where
  found := Function.update store.found key none
  tags := store.tags

section Calls

variable [DecimalArith D] (documentBytes : ProjectDocument D → Nat)

/-- A tag that a new document of the project may get. -/
def Store.Fresh (store : Store D) (key : ProjectKey) (tag : String) : Prop :=
  tag ≠ "" ∧ ¬ store.tags key tag

/-- What a call that succeeds does and answers. -/
inductive Changes (store : Store D) (event : Event D) : Answer D → Store D → Prop
  | read {projectId : Uuid} {document : ProjectDocument D} (call : event.call = .get projectId)
      (found : store.found (event.ownerId, projectId) = some document) :
      Changes store event (.document document) store
  | listed {documents : List (ProjectDocument D)} (call : event.call = .list)
      (complete : ∀ document, document ∈ documents ↔
        ∃ id, store.found (event.ownerId, id) = some document)
      (distinct : documents.Nodup) (ordered : documents.Pairwise ListedBefore) :
      Changes store event (.documents documents) store
  | created {id : Uuid} {project : EditableProject D} {revision : Option (CalculationRevision D)}
      {timestamp tag : String} (call : event.call = .create id project revision)
      (clock : currentTimestamp event.now = .ok timestamp)
      (absent : store.found (event.ownerId, id) = none)
      (fresh : store.Fresh (event.ownerId, id) tag)
      (size : documentBytes (freshDocument event.ownerId id project revision timestamp tag) <
        maxProjectDocumentBytes) :
      Changes store event
        (.document (freshDocument event.ownerId id project revision timestamp tag))
        (store.put (event.ownerId, id)
          (freshDocument event.ownerId id project revision timestamp tag))
  | updated {projectId : Uuid} {ifMatch : String} {project : EditableProject D}
      {revision : Option (CalculationRevision D)} {stored : ProjectDocument D}
      {timestamp tag : String} (call : event.call = .update projectId ifMatch project revision)
      (clock : currentTimestamp event.now = .ok timestamp)
      (found : store.found (event.ownerId, projectId) = some stored)
      (matched : stored.etag = ifMatch)
      (fresh : store.Fresh (event.ownerId, projectId) tag)
      (size : documentBytes (revisedDocument stored project revision timestamp tag) <
        maxProjectDocumentBytes) :
      Changes store event
        (.document (revisedDocument stored project revision timestamp tag))
        (store.put (event.ownerId, projectId)
          (revisedDocument stored project revision timestamp tag))
  | deleted {projectId : Uuid} {stored : ProjectDocument D}
      (call : event.call = .delete projectId)
      (found : store.found (event.ownerId, projectId) = some stored) :
      Changes store event .done (store.remove (event.ownerId, projectId))

/-- The project that a call names, unless it makes one. -/
def named : Call D → Option Uuid
  | .get projectId | .update projectId _ _ _ | .delete projectId => some projectId
  | .create _ _ _ | .list => none

/-- Why a call is refused; it then changes nothing. -/
inductive Refuses (store : Store D) (event : Event D) : RepositoryError → Prop
  | missing {projectId : Uuid} (call : named event.call = some projectId)
      (absent : store.found (event.ownerId, projectId) = none) : Refuses store event .notFound
  | stale {projectId : Uuid} {ifMatch : String} {project : EditableProject D}
      {revision : Option (CalculationRevision D)} {stored : ProjectDocument D}
      (call : event.call = .update projectId ifMatch project revision)
      (found : store.found (event.ownerId, projectId) = some stored)
      (unmatched : stored.etag ≠ ifMatch) : Refuses store event .preconditionFailed
  | createTooLarge {id : Uuid} {project : EditableProject D}
      {revision : Option (CalculationRevision D)} {timestamp tag : String}
      (call : event.call = .create id project revision)
      (clock : currentTimestamp event.now = .ok timestamp)
      (size : maxProjectDocumentBytes ≤
        documentBytes (freshDocument event.ownerId id project revision timestamp tag)) :
      Refuses store event .payloadTooLarge
  | updateTooLarge {projectId : Uuid} {ifMatch : String} {project : EditableProject D}
      {revision : Option (CalculationRevision D)} {stored : ProjectDocument D}
      {timestamp tag : String} (call : event.call = .update projectId ifMatch project revision)
      (clock : currentTimestamp event.now = .ok timestamp)
      (found : store.found (event.ownerId, projectId) = some stored)
      (matched : stored.etag = ifMatch)
      (size : maxProjectDocumentBytes ≤
        documentBytes (revisedDocument stored project revision timestamp tag)) :
      Refuses store event .payloadTooLarge
  | storedTooLarge {projectId : Uuid} {stored : ProjectDocument D}
      (call : named event.call = some projectId)
      (found : store.found (event.ownerId, projectId) = some stored)
      (size : maxProjectDocumentBytes ≤ documentBytes stored) :
      Refuses store event .payloadTooLarge
  | unavailable : Refuses store event .unavailable

/-- What a call may do.  A store that fails may have done what it was asked. -/
inductive Does (store : Store D) (event : Event D) :
    Outcome RepositoryError (Answer D) → Store D → Prop
  | succeeds {answer : Answer D} {after : Store D}
      (changes : Changes documentBytes store event answer after) :
      Does store event (.ok answer) after
  | refused {failure : RepositoryError} (refuses : Refuses documentBytes store event failure) :
      Does store event (.err failure) store
  | unanswered {answer : Answer D} {after : Store D}
      (changes : Changes documentBytes store event answer after) :
      Does store event (.err .unavailable) after

end Calls

/-! ### Tags -/

section Tags

variable {store after : Store D} {key key' : ProjectKey} {document : ProjectDocument D}

@[simp] theorem Store.put_found_self (store : Store D) (key : ProjectKey)
    (document : ProjectDocument D) : (store.put key document).found key = some document := by
  simp [Store.put]

theorem Store.put_found_ne (store : Store D) (document : ProjectDocument D) (h : key' ≠ key) :
    (store.put key document).found key' = store.found key' := by
  simp [Store.put, h]

@[simp] theorem Store.put_tags_self (store : Store D) (key : ProjectKey)
    (document : ProjectDocument D) (tag : String) :
    (store.put key document).tags key tag ↔ tag = document.etag ∨ store.tags key tag := by
  simp [Store.put]

theorem Store.put_tags_ne (store : Store D) (document : ProjectDocument D) (h : key' ≠ key) :
    (store.put key document).tags key' = store.tags key' := by
  simp [Store.put, h]

@[simp] theorem Store.remove_found_self (store : Store D) (key : ProjectKey) :
    (store.remove key).found key = none := by
  simp [Store.remove]

theorem Store.remove_found_ne (store : Store D) (h : key' ≠ key) :
    (store.remove key).found key' = store.found key' := by
  simp [Store.remove, h]

/-- What can become of one project: it stays as it was, is stored under a fresh tag, or
goes. -/
inductive Moves (key : ProjectKey) (store after : Store D) : Prop
  | stays (found : after.found key = store.found key) (tags : after.tags key = store.tags key)
  | stored (document : ProjectDocument D) (fresh : store.Fresh key document.etag)
      (found : after.found key = some document)
      (tags : ∀ tag, after.tags key tag ↔ tag = document.etag ∨ store.tags key tag)
  | gone (found : after.found key = none) (tags : after.tags key = store.tags key)

theorem moves_put {other : ProjectKey} (hfresh : store.Fresh key document.etag) :
    Moves other store (store.put key document) := by
  by_cases hkey : other = key
  · rw [hkey]
    exact .stored document hfresh (Store.put_found_self _ _ _) (Store.put_tags_self _ _ _)
  · exact .stays (Store.put_found_ne _ _ hkey) (Store.put_tags_ne _ _ hkey)

theorem moves_remove {other : ProjectKey} : Moves other store (store.remove key) := by
  by_cases hkey : other = key
  · rw [hkey]
    exact .gone (Store.remove_found_self _ _) rfl
  · exact .stays (Store.remove_found_ne _ hkey) rfl

/-- The tag of the stored document is one of those used. -/
def Known (key : ProjectKey) (store : Store D) : Prop :=
  ∀ document, store.found key = some document → store.tags key document.etag

/-- Whenever the project shows the tag of the document again, it is that document. -/
def Observed (key : ProjectKey) (document : ProjectDocument D) (store : Store D) : Prop :=
  store.tags key document.etag ∧
    ∀ found, store.found key = some found → found.etag = document.etag → found = document

/-- The tag was used, and no longer is. -/
def Spent (key : ProjectKey) (tag : String) (store : Store D) : Prop :=
  store.tags key tag ∧ ∀ found, store.found key = some found → found.etag ≠ tag

theorem known_empty : Known key (Store.empty : Store D) := by
  intro document hfound
  cases hfound

theorem Known.moves (hknown : Known key store) (h : Moves key store after) : Known key after := by
  intro document hfound
  cases h with
  | stays found tags =>
      rw [tags]
      exact hknown document (found.symm.trans hfound)
  | stored new _ found tags =>
      cases found.symm.trans hfound
      exact (tags _).mpr (.inl rfl)
  | gone found => cases found.symm.trans hfound

theorem Known.observed (hknown : Known key store) (hfound : store.found key = some document) :
    Observed key document store := by
  refine ⟨hknown document hfound, ?_⟩
  intro found hagain _
  exact Option.some.inj (hagain.symm.trans hfound)

theorem Observed.moves (hobserved : Observed key document store) (h : Moves key store after) :
    Observed key document after := by
  cases h with
  | stays found tags => exact ⟨tags ▸ hobserved.1, fun other hother =>
      hobserved.2 other (found.symm.trans hother)⟩
  | stored new fresh found tags =>
      refine ⟨(tags _).mpr (.inr hobserved.1), ?_⟩
      intro other hother hetag
      cases found.symm.trans hother
      exact absurd (hetag ▸ hobserved.1) fresh.2
  | gone found tags =>
      refine ⟨tags ▸ hobserved.1, ?_⟩
      intro other hother
      cases found.symm.trans hother

theorem Spent.moves {tag : String} (hspent : Spent key tag store) (h : Moves key store after) :
    Spent key tag after := by
  cases h with
  | stays found tags => exact ⟨tags ▸ hspent.1, fun other hother =>
      hspent.2 other (found.symm.trans hother)⟩
  | stored new fresh found tags =>
      refine ⟨(tags _).mpr (.inr hspent.1), ?_⟩
      rintro other hother rfl
      cases found.symm.trans hother
      exact fresh.2 hspent.1
  | gone found tags =>
      refine ⟨tags ▸ hspent.1, ?_⟩
      intro other hother
      cases found.symm.trans hother

end Tags

/-! ### Why a document is not stored -/

section Documents

variable {documentBytes : ProjectDocument D → Nat} {document : ProjectDocument D}
  {failure : RepositoryError}

theorem currentTimestamp_error {now : UtcDateTime}
    (h : currentTimestamp now = .error failure) : failure = .unavailable := by
  unfold currentTimestamp at h
  split at h
  · cases h
  · cases h
    rfl

theorem enforced_ok
    (h : enforceDocumentSize documentBytes document = .ok ()) :
    documentBytes document < maxProjectDocumentBytes := Fallible.ensure_eq_ok.mp h

theorem enforced_error
    (h : enforceDocumentSize documentBytes document = .error failure) :
    failure = .payloadTooLarge ∧ maxProjectDocumentBytes ≤ documentBytes document := by
  obtain ⟨hsize, rfl⟩ := Fallible.ensure_eq_error.mp h
  exact ⟨rfl, Nat.le_of_not_lt hsize⟩

end Documents

/-! ### Calls -/

section Steps

variable {store after : Store D} {key : ProjectKey} [DecimalArith D]
  {documentBytes : ProjectDocument D → Nat} {event : Event D} {answer : Answer D}
  {outcome : Outcome RepositoryError (Answer D)}

theorem Changes.moves (h : Changes documentBytes store event answer after) (key : ProjectKey) :
    Moves key store after := by
  cases h with
  | read => exact .stays rfl rfl
  | listed => exact .stays rfl rfl
  | created _ _ _ fresh => exact moves_put fresh
  | updated _ _ _ _ fresh => exact moves_put fresh
  | deleted => exact moves_remove

theorem Does.moves (h : Does documentBytes store event outcome after) (key : ProjectKey) :
    Moves key store after := by
  cases h with
  | succeeds changes => exact changes.moves key
  | refused => exact .stays rfl rfl
  | unanswered changes => exact changes.moves key

theorem Does.observed (h : Does documentBytes store event outcome after)
    {document : ProjectDocument D} (hobserved : Observed key document store) :
    Observed key document after := hobserved.moves (h.moves key)

/-- The document is what the call makes of its project. -/
inductive Writes (store : Store D) (event : Event D) (key : ProjectKey) :
    ProjectDocument D → Prop
  | created {id : Uuid} {project : EditableProject D} {revision : Option (CalculationRevision D)}
      {timestamp tag : String} (call : event.call = .create id project revision)
      (named : key = (event.ownerId, id)) :
      Writes store event key (freshDocument event.ownerId id project revision timestamp tag)
  | updated {projectId : Uuid} {ifMatch : String} {project : EditableProject D}
      {revision : Option (CalculationRevision D)} {stored : ProjectDocument D}
      {timestamp tag : String} (call : event.call = .update projectId ifMatch project revision)
      (named : key = (event.ownerId, projectId)) (found : store.found key = some stored)
      (matched : stored.etag = ifMatch) :
      Writes store event key (revisedDocument stored project revision timestamp tag)

theorem Changes.found_after (h : Changes documentBytes store event answer after)
    {document : ProjectDocument D} (hfound : after.found key = some document) :
    store.found key = some document ∨ Writes store event key document := by
  cases h with
  | read => exact .inl hfound
  | listed => exact .inl hfound
  | @created id project revision timestamp tag call =>
      by_cases hkey : key = (event.ownerId, id)
      · rw [hkey, Store.put_found_self] at hfound
        cases hfound
        exact .inr (.created call hkey)
      · rw [Store.put_found_ne _ _ hkey] at hfound
        exact .inl hfound
  | @updated projectId ifMatch project revision stored timestamp tag call _ found matched =>
      by_cases hkey : key = (event.ownerId, projectId)
      · rw [hkey, Store.put_found_self] at hfound
        cases hfound
        exact .inr (.updated call hkey (hkey ▸ found) matched)
      · rw [Store.put_found_ne _ _ hkey] at hfound
        exact .inl hfound
  | @deleted projectId =>
      by_cases hkey : key = (event.ownerId, projectId)
      · rw [hkey, Store.remove_found_self] at hfound
        cases hfound
      · rw [Store.remove_found_ne _ hkey] at hfound
        exact .inl hfound

/-- A document found after a call was found before, or is what the call made. -/
theorem Does.found_after (h : Does documentBytes store event outcome after)
    {document : ProjectDocument D} (hfound : after.found key = some document) :
    store.found key = some document ∨ Writes store event key document := by
  cases h with
  | succeeds changes => exact changes.found_after hfound
  | refused => exact .inl hfound
  | unanswered changes => exact changes.found_after hfound

/-- A read changes nothing, and answers with the document that is stored. -/
theorem Does.read {projectId : Uuid} (h : Does documentBytes store event outcome after)
    (hcall : event.call = .get projectId) : after = store ∧
      ∀ document, outcome = .ok (.document document) →
        store.found (event.ownerId, projectId) = some document := by
  have hchanges : ∀ {answer : Answer D} {after : Store D},
      Changes documentBytes store event answer after → after = store ∧
        ∀ document, answer = .document document →
          store.found (event.ownerId, projectId) = some document := by
    intro answer after changes
    cases changes with
    | read call found =>
        cases hcall.symm.trans call
        refine ⟨rfl, ?_⟩
        intro document hanswer
        cases hanswer
        exact found
    | listed call => cases hcall.symm.trans call
    | created call => cases hcall.symm.trans call
    | updated call => cases hcall.symm.trans call
    | deleted call => cases hcall.symm.trans call
  cases h with
  | succeeds changes =>
      obtain ⟨rfl, hdocument⟩ := hchanges changes
      refine ⟨rfl, ?_⟩
      intro document houtcome
      exact hdocument document (Outcome.ok.inj houtcome)
  | refused => exact ⟨rfl, by simp⟩
  | unanswered changes => exact ⟨(hchanges changes).1, by simp⟩

/-- The call updates the project under the tag. -/
def Updates (event : Event D) (key : ProjectKey) (ifMatch : String) : Prop :=
  ∃ project revision, event.call = .update key.2 ifMatch project revision ∧ event.ownerId = key.1

/-- An update that succeeds found its tag in use, and uses it up. -/
theorem Does.spent {ifMatch : String} (h : Does documentBytes store event (.ok answer) after)
    (hupdates : Updates event key ifMatch) (hknown : Known key store) :
    ¬ Spent key ifMatch store ∧ Spent key ifMatch after := by
  obtain ⟨project, revision, hcall, howner⟩ := hupdates
  cases h with
  | succeeds changes =>
      cases changes with
      | read call => cases hcall.symm.trans call
      | listed call => cases hcall.symm.trans call
      | created call => cases hcall.symm.trans call
      | deleted call => cases hcall.symm.trans call
      | @updated projectId _ _ _ stored timestamp tag call _ found matched fresh =>
          cases hcall.symm.trans call
          have hkey : (event.ownerId, key.2) = key := by rw [howner]
          rw [hkey] at found fresh ⊢
          subst matched
          refine ⟨fun hspent => hspent.2 stored found rfl, ?_, ?_⟩
          · exact (Store.put_tags_self _ _ _ _).mpr (.inr (hknown stored found))
          · intro other hother
            rw [Store.put_found_self] at hother
            cases hother
            rintro (rfl : tag = stored.etag)
            exact fresh.2 (hknown stored found)

end Steps

/-! ### Operations side by side -/

section Slots

open Linearization (AtomicStep AtomicReaches Server)

variable [DecimalArith D] (documentBytes : ProjectDocument D → Nat)

/-- A call that acts at one stroke; a list is put together from several. -/
abbrev Operation (D : Type) := { event : Event D // event.call ≠ .list }

/-- An operation and what it answered, once it did. -/
abbrev Slot (D : Type) := Operation D × Option (Outcome RepositoryError (Answer D))

abbrev Operations (D : Type) :=
  Server (Store D) (Operation D) (Option (Outcome RepositoryError (Answer D)))

/-- What an operation may do. -/
def Acts (store : Store D) (operation : Operation D) :
    Outcome RepositoryError (Answer D) → Store D → Prop :=
  Does documentBytes store operation.1

variable {documentBytes}

/-- The operation updated the project under the tag. -/
def Updated (key : ProjectKey) (ifMatch : String) (slot : Slot D) : Prop :=
  Updates slot.1.1 key ifMatch ∧ ∃ answer, slot.2 = some (.ok answer)

/-- Not both operations updated one project under one tag. -/
def Apart (first second : Slot D) : Prop :=
  ∀ key ifMatch, Updated key ifMatch first → ¬ Updated key ifMatch second

omit [DecimalArith D] in
theorem Apart.symm {first second : Slot D} (h : Apart first second) : Apart second first :=
  fun key ifMatch hsecond hfirst => h key ifMatch hfirst hsecond

omit [DecimalArith D] in
theorem not_updated_waiting {key : ProjectKey} {ifMatch : String}
    {operation : Operation D} : ¬ Updated key ifMatch (operation, none) := by
  rintro ⟨-, answer, hanswer⟩
  cases hanswer

/-- No two of the operations updated one project under one tag. -/
structure UpdatedOnce (operations : Operations D) : Prop where
  known : ∀ key, Known key operations.state
  spent : ∀ slot ∈ operations.slots, ∀ key ifMatch, Updated key ifMatch slot →
    Spent key ifMatch operations.state
  once : operations.slots.Pairwise Apart

omit [DecimalArith D] in
theorem updatedOnce_empty : UpdatedOnce (⟨Store.empty, []⟩ : Operations D) where
  known _ := known_empty
  spent _ hslot := absurd hslot List.not_mem_nil
  once := List.Pairwise.nil

theorem UpdatedOnce.step {operations after : Operations D} (h : UpdatedOnce operations)
    (hstep : AtomicStep (Acts documentBytes) operations after) : UpdatedOnce after := by
  cases hstep with
  | begin operation =>
      refine ⟨h.known, ?_, List.pairwise_cons.mpr ⟨?_, h.once⟩⟩
      · intro slot hslot key ifMatch hupdated
        rcases List.mem_cons.mp hslot with rfl | hslot
        · exact absurd hupdated not_updated_waiting
        · exact h.spent slot hslot key ifMatch hupdated
      · intro slot _ key ifMatch hupdated
        exact absurd hupdated not_updated_waiting
  | @act store after operation answer before rest does =>
      have hothers : ∀ slot ∈ before ++ rest, ∀ key ifMatch, Updated key ifMatch slot →
          Spent key ifMatch store := by
        intro slot hslot
        apply h.spent slot
        rcases List.mem_append.mp hslot with hslot | hslot
        · exact List.mem_append_left _ hslot
        · exact List.mem_append_right _ (List.mem_cons_of_mem _ hslot)
      have hnew : ∀ key ifMatch, Updated key ifMatch (operation, some answer) →
          ¬ Spent key ifMatch store ∧ Spent key ifMatch after := by
        rintro key ifMatch ⟨hupdates, _, hanswer⟩
        cases hanswer
        exact Does.spent does hupdates (h.known key)
      refine ⟨fun key => (h.known key).moves (Does.moves does key), ?_, ?_⟩
      · intro slot hslot key ifMatch hupdated
        rcases List.mem_append.mp hslot with hslot | hslot
        · exact (hothers slot (List.mem_append_left _ hslot) key ifMatch hupdated).moves
            (Does.moves does key)
        · rcases List.mem_cons.mp hslot with rfl | hslot
          · exact (hnew key ifMatch hupdated).2
          · exact (hothers slot (List.mem_append_right _ hslot) key ifMatch hupdated).moves
              (Does.moves does key)
      · have honce := (List.pairwise_middle Apart.symm).mp h.once
        refine (List.pairwise_middle Apart.symm).mpr (List.pairwise_cons.mpr ⟨?_, ?_⟩)
        · intro slot hslot key ifMatch hupdated hother
          exact (hnew key ifMatch hupdated).1 (hothers slot hslot key ifMatch hother)
        · exact (List.pairwise_cons.mp honce).2

theorem updatedOnce_reaches {operations : Operations D}
    (h : AtomicReaches (Acts documentBytes) ⟨Store.empty, []⟩ operations) :
    UpdatedOnce operations := by
  induction h with
  | refl => exact updatedOnce_empty
  | tail _ hstep ih => exact ih.step hstep

end Slots

end TcoCalculator.ProjectStore
