/-
The in-memory repository of projects (src/rust/src/persistence/repository.rs) is one of
the stores that the specification describes: it numbers the versions of a project, and a
new number is a tag that the project has not had.
-/
import TcoCalculator.Persistence.ProjectStore

namespace TcoCalculator.MemoryProjects

open ProjectRepository
open ProjectStore (Store Does Changes Refuses Known currentTimestamp_error enforced_ok
  enforced_error)
open Rfc3339 (UtcDateTime)

variable {D : Type}

/-! ### What a call writes -/

section Documents

variable [DecimalArith D] (documentBytes : ProjectDocument D → Nat) (now : UtcDateTime)
  (project : EditableProject D) (revision : Option (CalculationRevision D))

omit [DecimalArith D] in
/-- A new document is stamped with the time and fits, or there is a reason why not. -/
theorem createdDocument_cases (id : Uuid) (ownerId : String) :
    (∃ timestamp, currentTimestamp now = .ok timestamp ∧
      let document := freshDocument ownerId id project revision timestamp (projectEtag 1)
      createdDocument documentBytes now id ownerId project revision = .ok document ∧
        documentBytes document < maxProjectDocumentBytes) ∨
    (createdDocument documentBytes now id ownerId project revision = .error .unavailable) ∨
    ∃ timestamp, currentTimestamp now = .ok timestamp ∧
      createdDocument documentBytes now id ownerId project revision = .error .payloadTooLarge ∧
        maxProjectDocumentBytes ≤ documentBytes
          (freshDocument ownerId id project revision timestamp (projectEtag 1)) := by
  unfold createdDocument
  cases hclock : currentTimestamp now with
  | error failure =>
      obtain rfl := currentTimestamp_error hclock
      exact .inr (.inl rfl)
  | ok timestamp =>
      simp only [Fallible.ok_bind, newProjectDocument]
      cases hsize : enforceDocumentSize documentBytes
          (freshDocument ownerId id project revision timestamp (projectEtag 1)) with
      | ok _ => exact .inl ⟨timestamp, rfl, rfl, enforced_ok hsize⟩
      | error failure =>
          obtain ⟨rfl, hlarge⟩ := enforced_error hsize
          exact .inr (.inr ⟨timestamp, rfl, rfl, hlarge⟩)

/-- A stored document found under its tag is rewritten, or there is a reason why not. -/
theorem updateStored_cases {ifMatch : String} {stored : StoredProject D}
    (hetag : stored.document.etag = ifMatch) :
    (∃ timestamp, currentTimestamp now = .ok timestamp ∧
      let document := revisedDocument stored.document project revision timestamp
        (projectEtag (stored.version + 1))
      updateStored documentBytes now ifMatch project revision stored =
          .ok ⟨document, stored.version + 1⟩ ∧
        documentBytes document < maxProjectDocumentBytes) ∨
    (updateStored documentBytes now ifMatch project revision stored = .error .unavailable) ∨
    ∃ timestamp, currentTimestamp now = .ok timestamp ∧
      updateStored documentBytes now ifMatch project revision stored = .error .payloadTooLarge ∧
        maxProjectDocumentBytes ≤ documentBytes (revisedDocument stored.document project revision
          timestamp (projectEtag (stored.version + 1))) := by
  by_cases hversion : stored.version + 1 < 2 ^ 64
  · have hnext : nextVersion stored.version = .ok (stored.version + 1) := if_pos hversion
    cases hclock : currentTimestamp now with
    | error failure =>
        obtain rfl := currentTimestamp_error hclock
        refine .inr (.inl ?_)
        simp only [updateStored, ensure, if_pos hetag, hnext, hclock, Fallible.ok_bind,
          Fallible.error_bind]
    | ok timestamp =>
        simp only [updateStored, ensure, if_pos hetag, hnext, hclock, Fallible.ok_bind,
          updatedProjectDocument]
        cases hsize : enforceDocumentSize documentBytes (revisedDocument stored.document project
            revision timestamp (projectEtag (stored.version + 1))) with
        | ok _ => exact .inl ⟨timestamp, rfl, rfl, enforced_ok hsize⟩
        | error failure =>
            obtain ⟨rfl, hlarge⟩ := enforced_error hsize
            exact .inr (.inr ⟨timestamp, rfl, rfl, hlarge⟩)
  · have hnext : nextVersion stored.version = .error .unavailable := if_neg hversion
    refine .inr (.inl ?_)
    simp only [updateStored, ensure, if_pos hetag, hnext, Fallible.ok_bind, Fallible.error_bind]

end Documents

/-! ### What the repository shows -/

section Shows

/-- The repository holds what the store shows, and its versions count the tags used. -/
structure Shows (log : List (Entry D)) (repository : Repository D) (store : Store D) : Prop where
  opened : repository.poisoned = false
  keyed : Keyed repository.value
  found : ∀ key, store.found key = (repository.value.lookup key).map StoredProject.document
  counted : ∀ key stored tag, repository.value.lookup key = some stored → store.tags key tag →
    ∃ version ≤ stored.version, tag = projectEtag version
  known : ∀ key, Known key store
  made : ∀ key tag, store.tags key tag → ∃ entry ∈ log, entry.event.Creates key

variable {log : List (Entry D)} {entry : Entry D} {repository : Repository D} {store : Store D}
  {key : ProjectKey} {stored : StoredProject D}

theorem shows_empty : Shows [] (emptyRepository : Repository D) Store.empty where
  opened := rfl
  keyed _ _ hnone := absurd hnone (by simp [emptyRepository])
  found _ := rfl
  counted _ _ _ hnone := absurd hnone (by simp [emptyRepository])
  known _ := ProjectStore.known_empty
  made _ _ hnone := False.elim hnone

theorem Shows.found_some (h : Shows log repository store)
    (hstored : repository.value.lookup key = some stored) :
    store.found key = some stored.document := by
  rw [h.found, hstored]
  rfl

theorem Shows.found_none (h : Shows log repository store)
    (hnone : repository.value.lookup key = none) : store.found key = none := by
  rw [h.found, hnone]
  rfl

/-- A call that leaves the repository alone leaves the store alone. -/
theorem Shows.kept (h : Shows log repository store) : Shows (log ++ [entry]) repository store where
  opened := h.opened
  keyed := h.keyed
  found := h.found
  counted := h.counted
  known := h.known
  made key tag htag := by
    obtain ⟨created, hmem, hcreates⟩ := h.made key tag htag
    exact ⟨created, List.mem_append_left _ hmem, hcreates⟩

/-- Storing one project stores its document. -/
theorem Shows.put {value : ProjectMap D} {latest : StoredProject D}
    (h : Shows log repository store) (hself : value.lookup key = some latest)
    (hothers : ∀ other, other ≠ key → value.lookup other = repository.value.lookup other)
    (hkeyed : latest.document.ownerId = key.1 ∧ latest.document.id = key.2 ∧
      latest.document.etag = projectEtag latest.version)
    (hfresh : store.Fresh key latest.document.etag)
    (hcounted : ∀ tag, store.tags key tag → ∃ version ≤ latest.version, tag = projectEtag version)
    (hmade : ∃ created ∈ log ++ [entry], created.event.Creates key) :
    Shows (log ++ [entry]) ⟨value, false⟩ (store.put key latest.document) where
  opened := rfl
  keyed other stored hother := by
    by_cases hkey : other = key
    · subst hkey
      cases hself.symm.trans hother
      exact hkeyed
    · exact h.keyed other stored ((hothers other hkey).symm.trans hother)
  found other := by
    by_cases hkey : other = key
    · subst hkey
      rw [Store.put_found_self, hself]
      rfl
    · rw [Store.put_found_ne _ _ hkey, h.found, ← hothers other hkey]
  counted other stored tag hother htag := by
    by_cases hkey : other = key
    · subst hkey
      cases hself.symm.trans hother
      rcases (Store.put_tags_self _ _ _ _).mp htag with rfl | hused
      · exact ⟨latest.version, le_rfl, hkeyed.2.2⟩
      · exact hcounted tag hused
    · rw [Store.put_tags_ne _ _ hkey] at htag
      exact h.counted other stored tag ((hothers other hkey).symm.trans hother) htag
  known other := (h.known other).moves (ProjectStore.moves_put hfresh)
  made other tag htag := by
    by_cases hkey : other = key
    · subst hkey
      exact hmade
    · rw [Store.put_tags_ne _ _ hkey] at htag
      obtain ⟨created, hmem, hcreates⟩ := h.made other tag htag
      exact ⟨created, List.mem_append_left _ hmem, hcreates⟩

theorem Shows.removed (h : Shows log repository store) :
    Shows (log ++ [entry]) ⟨repository.value.erase key, false⟩ (store.remove key) where
  opened := rfl
  keyed other stored hother := by
    by_cases hkey : other = key
    · rw [hkey, AList.lookup_erase] at hother
      cases hother
    · exact h.keyed other stored ((AList.lookup_erase_ne hkey).symm.trans hother)
  found other := by
    by_cases hkey : other = key
    · rw [hkey, Store.remove_found_self, AList.lookup_erase]
      rfl
    · rw [Store.remove_found_ne _ hkey, h.found, AList.lookup_erase_ne hkey]
  counted other stored tag hother htag := by
    by_cases hkey : other = key
    · rw [hkey, AList.lookup_erase] at hother
      cases hother
    · exact h.counted other stored tag ((AList.lookup_erase_ne hkey).symm.trans hother) htag
  known other := (h.known other).moves ProjectStore.moves_remove
  made := h.kept.made

end Shows

/-! ### One call -/

section Calls

variable [DecimalArith D] {documentBytes : ProjectDocument D → Nat} {log : List (Entry D)}
  {repository : Repository D} {store : Store D} {now : UtcDateTime} {ownerId : String}

variable (documentBytes) in
/-- The store does what the call did, and is shown by the repository again. -/
def Followed (log : List (Entry D)) (store : Store D) (event : Event D)
    (result : Outcome RepositoryError (Answer D) × Repository D) : Prop :=
  ∃ after, Does documentBytes store event result.1 after ∧
    Shows (log ++ [⟨event, result.1⟩]) result.2 after

theorem Shows.refused (h : Shows log repository store) {event : Event D}
    {failure : RepositoryError} (hrefuses : Refuses documentBytes store event failure) :
    Followed documentBytes log store event (.err failure, repository) :=
  ⟨store, .refused hrefuses, h.kept⟩

theorem followed_create (h : Shows log repository store) (id : Uuid) (project : EditableProject D)
    (revision : Option (CalculationRevision D))
    (hfresh : ∀ entry ∈ log, ¬ entry.event.Creates (ownerId, id)) :
    Followed documentBytes log store ⟨now, ownerId, .create id project revision⟩
      (perform documentBytes ⟨now, ownerId, .create id project revision⟩ repository) := by
  have hunused : ∀ tag, ¬ store.tags (ownerId, id) tag := by
    intro tag htag
    obtain ⟨entry, hentry, hcreates⟩ := h.made _ tag htag
    exact hfresh entry hentry hcreates
  have habsent : store.found (ownerId, id) = none := by
    by_contra hfound
    obtain ⟨document, hdocument⟩ := Option.ne_none_iff_exists'.mp hfound
    exact hunused _ (h.known _ document hdocument)
  simp only [perform, create]
  rcases createdDocument_cases documentBytes now project revision id ownerId with
    ⟨timestamp, hclock, hcreated, hsize⟩ | hcreated | ⟨timestamp, hclock, hcreated, hlarge⟩
  · have hnew : store.Fresh (ownerId, id) (projectEtag 1) := ⟨by decide, hunused _⟩
    simp only [hcreated, RwLock.withWrite, h.opened, Bool.false_eq_true, if_false,
      Locked.write_bind, Locked.pure_apply]
    refine ⟨_, .succeeds (.created rfl hclock habsent hnew hsize), ?_⟩
    refine h.put (AList.lookup_insert _) ?_ ⟨rfl, rfl, rfl⟩ hnew ?_ ?_
    · intro other hother
      exact AList.lookup_insert_ne hother
    · intro tag htag
      exact absurd htag (hunused tag)
    · exact ⟨_, List.mem_append_right _ List.mem_cons_self, rfl, project, revision, rfl⟩
  · simp only [hcreated]
    exact h.refused .unavailable
  · simp only [hcreated]
    exact h.refused (.createTooLarge rfl hclock hlarge)

theorem followed_get (h : Shows log repository store) (projectId : Uuid) :
    Followed documentBytes log store ⟨now, ownerId, .get projectId⟩
      (perform documentBytes ⟨now, ownerId, .get projectId⟩ repository) := by
  simp only [perform, ProjectRepository.get, RwLock.withRead, h.opened, Bool.false_eq_true,
    if_false, getLocked]
  cases hstored : repository.value.lookup (ownerId, projectId) with
  | none =>
      refine h.refused ?_
      exact .missing rfl (h.found_none hstored)
  | some stored =>
      refine ⟨store, .succeeds ?_, h.kept⟩
      exact .read rfl (h.found_some hstored)

theorem followed_list (h : Shows log repository store) :
    Followed documentBytes log store ⟨now, ownerId, .list⟩
      (perform documentBytes ⟨now, ownerId, .list⟩ repository) := by
  simp only [perform, list, RwLock.withRead, h.opened, Bool.false_eq_true, if_false]
  refine ⟨store, .succeeds (.listed rfl ?_ ?_ ?_), h.kept⟩
  · intro document
    rw [List.mem_insertionSort]
    constructor
    · intro hmem
      obtain ⟨⟨⟨owner, id⟩, stored⟩, hentry, rfl⟩ := List.mem_map.mp hmem
      obtain ⟨rfl, hstored⟩ := mem_ownEntries.mp hentry
      exact ⟨id, h.found_some hstored⟩
    · rintro ⟨id, hfound⟩
      rw [h.found] at hfound
      obtain ⟨stored, hstored, rfl⟩ := Option.map_eq_some_iff.mp hfound
      exact List.mem_map.mpr ⟨⟨(ownerId, id), stored⟩, mem_ownEntries.mpr ⟨rfl, hstored⟩, rfl⟩
  · refine (List.perm_insertionSort _ _).nodup_iff.mpr ?_
    refine List.Nodup.map_on ?_ (repository.value.nodupKeys.nodup.filter _)
    rintro ⟨⟨owner, id⟩, stored⟩ hentry ⟨⟨owner', id'⟩, stored'⟩ hentry' hdocument
    obtain ⟨rfl, hstored⟩ := mem_ownEntries.mp hentry
    obtain ⟨hsame, hstored'⟩ := mem_ownEntries.mp hentry'
    cases hsame
    -- Both entries lie under the identifier of the one document.
    obtain rfl : id = id' := (h.keyed _ _ hstored).2.1.symm.trans
      ((congrArg ProjectDocument.id hdocument).trans (h.keyed _ _ hstored').2.1)
    cases hstored.symm.trans hstored'
    rfl
  · exact @List.pairwise_insertionSort _ _ _ ⟨ListedBefore.total⟩
      ⟨fun _ _ _ => ListedBefore.trans⟩ _

theorem followed_update (h : Shows log repository store) (projectId : Uuid) (ifMatch : String)
    (project : EditableProject D) (revision : Option (CalculationRevision D)) :
    Followed documentBytes log store ⟨now, ownerId, .update projectId ifMatch project revision⟩
      (perform documentBytes ⟨now, ownerId, .update projectId ifMatch project revision⟩
        repository) := by
  obtain ⟨projects, poisoned⟩ := repository
  obtain rfl : poisoned = false := h.opened
  simp only [perform, update, RwLock.withWrite, Bool.false_eq_true, if_false,
    updateLocked, Locked.read_bind]
  cases hstored : projects.lookup (ownerId, projectId) with
  | none =>
      refine h.refused ?_
      exact .missing rfl (h.found_none hstored)
  | some stored =>
      have hfound := h.found_some hstored
      by_cases hetag : stored.document.etag = ifMatch
      · rcases updateStored_cases documentBytes now project revision hetag with
          ⟨timestamp, hclock, hupdated, hsize⟩ | hupdated | ⟨timestamp, hclock, hupdated, hlarge⟩
        · simp only [hupdated, Locked.check_ok_bind, Locked.write_bind, Locked.pure_apply]
          have hnew : store.Fresh (ownerId, projectId) (projectEtag (stored.version + 1)) := by
            refine ⟨by simp [projectEtag], ?_⟩
            intro hused
            obtain ⟨version, hle, hsame⟩ := h.counted _ stored _ hstored hused
            have := projectEtag_injective hsame
            omega
          refine ⟨_, .succeeds (.updated rfl hclock hfound hetag hnew hsize), ?_⟩
          obtain ⟨howner, hid, -⟩ := h.keyed _ stored hstored
          refine h.put (HashMap.lookup_replace _ _ (HashMap.mem_of_lookup hstored)) ?_
            ⟨howner, hid, rfl⟩ hnew ?_ ?_
          · intro other hother
            exact HashMap.lookup_replace_ne _ _ hother
          · intro tag htag
            obtain ⟨version, hle, rfl⟩ := h.counted _ stored tag hstored htag
            exact ⟨version, Nat.le_succ_of_le hle, rfl⟩
          · exact h.kept.made _ _ (h.known _ _ hfound)
        · simp only [hupdated, Locked.check_error_bind]
          exact h.refused .unavailable
        · simp only [hupdated, Locked.check_error_bind]
          refine h.refused ?_
          exact .updateTooLarge rfl hclock hfound hetag hlarge
      · have hstale : updateStored documentBytes now ifMatch project revision stored =
            .error .preconditionFailed := by
          simp only [updateStored, ensure, if_neg hetag, Fallible.error_bind]
        simp only [hstale, Locked.check_error_bind]
        refine h.refused ?_
        exact .stale rfl hfound hetag

theorem followed_delete (h : Shows log repository store) (projectId : Uuid) :
    Followed documentBytes log store ⟨now, ownerId, .delete projectId⟩
      (perform documentBytes ⟨now, ownerId, .delete projectId⟩ repository) := by
  obtain ⟨projects, poisoned⟩ := repository
  obtain rfl : poisoned = false := h.opened
  simp only [perform, delete, RwLock.withWrite, Bool.false_eq_true, if_false,
    deleteLocked, Locked.read_bind]
  cases hstored : projects.lookup (ownerId, projectId) with
  | none =>
      refine h.refused ?_
      exact .missing rfl (h.found_none hstored)
  | some stored => exact ⟨_, .succeeds (.deleted rfl (h.found_some hstored)), h.removed⟩

/-- Whatever is asked next, the store follows. -/
theorem followed (h : Shows log repository store) (event : Event D)
    (hfresh : ∀ key, event.Creates key → ∀ entry ∈ log, ¬ entry.event.Creates key) :
    Followed documentBytes log store event (perform documentBytes event repository) := by
  obtain ⟨now, ownerId, call⟩ := event
  cases call with
  | create id project revision =>
      exact followed_create h id project revision (hfresh _ ⟨rfl, project, revision, rfl⟩)
  | get projectId => exact followed_get h projectId
  | list => exact followed_list h
  | update projectId ifMatch project revision =>
      exact followed_update h projectId ifMatch project revision
  | delete projectId => exact followed_delete h projectId

end Calls

/-! ### Any run -/

section Runs

variable [DecimalArith D] {documentBytes : ProjectDocument D → Nat}

variable (documentBytes) in
/-- The calls with the answers that they got, from the empty store to the last one. -/
inductive Served : List (Entry D) → Store D → Prop
  | start : Served [] Store.empty
  | step {log : List (Entry D)} {store after : Store D} {entry : Entry D}
      (served : Served log store)
      (does : Does documentBytes store entry.event entry.outcome after) :
      Served (log ++ [entry]) after

/-- Whatever calls are made in whatever order, the answers are those of a store as the
specification has it, and the repository holds what that store shows. -/
theorem run_served {log : List (Entry D)} {repository : Repository D}
    (run : Run documentBytes emptyRepository log repository) (hfresh : FreshIds log) :
    ∃ store, Served documentBytes log store ∧ Shows log repository store := by
  induction run with
  | start => exact ⟨Store.empty, .start, shows_empty⟩
  | @step log current run event ih =>
      obtain ⟨hbefore, -, hlast⟩ := List.pairwise_append.mp hfresh
      obtain ⟨store, hserved, hshows⟩ := ih hbefore
      have hnew : ∀ key, event.Creates key → ∀ entry ∈ log, ¬ entry.event.Creates key :=
        fun key hcreates entry hentry hagain =>
          hlast entry hentry _ List.mem_cons_self key hagain hcreates
      obtain ⟨after, hdoes, hafter⟩ := followed hshows event hnew
      exact ⟨after, hserved.step hdoes, hafter⟩

end Runs

open ProjectRepository.ProjectWitness in
/-- Two writers under one tag. -/
theorem run_served_two_writers :
    ∃ store, Served bytes log store ∧
      Shows log (ProjectRepository.perform bytes (updateEvent "Second") updated).2 store :=
  run_served run_log freshIds_log

end TcoCalculator.MemoryProjects
