/-
Runs of the project repository: optimistic concurrency, error atomicity and the
isolation of owners, from what one call can do.
-/
import Mathlib.Data.String.Basic
import TcoCalculator.Domain.ExactDecimal
import TcoCalculator.Library.JsonUnambiguous
import TcoCalculator.Library.Sorting
import TcoCalculator.Persistence.ProjectRepository

namespace TcoCalculator.ProjectRepository

open Rfc3339

variable {D : Type}

/-! ### Calls -/

inductive Call (D : Type) where
  | create (id : Uuid) (project : EditableProject D)
      (calculationRevision : Option (CalculationRevision D))
  | get (projectId : Uuid)
  | list
  | update (projectId : Uuid) (ifMatch : String) (project : EditableProject D)
      (calculationRevision : Option (CalculationRevision D))
  | delete (projectId : Uuid)

/-- A call of one owner at a clock reading. -/
structure Event (D : Type) where
  now : UtcDateTime
  ownerId : String
  call : Call D

inductive Answer (D : Type) where
  | document (document : ProjectDocument D)
  | documents (documents : List (ProjectDocument D))
  | done

variable [DecimalArith D] (documentBytes : ProjectDocument D → Nat)

def perform (event : Event D) (repository : Repository D) :
    Outcome RepositoryError (Answer D) × Repository D :=
  match event.call with
  | .create id project calculationRevision =>
      let result := create documentBytes event.now id event.ownerId project calculationRevision
        repository
      (result.1.map .document, result.2)
  | .get projectId => ((get event.ownerId projectId repository).map .document, repository)
  | .list => ((list event.ownerId repository).map .documents, repository)
  | .update projectId ifMatch project calculationRevision =>
      let result := update documentBytes event.now event.ownerId projectId ifMatch project
        calculationRevision repository
      (result.1.map .document, result.2)
  | .delete projectId =>
      let result := delete event.ownerId projectId repository
      (result.1.map fun _ => .done, result.2)

/-- Everything a call can do to the store. -/
inductive Change (event : Event D) (repository : Repository D) :
    Outcome RepositoryError (Answer D) → Repository D → Prop
  | refused (failure : RepositoryError) : Change event repository (.err failure) repository
  | observed (answer : Answer D) (noUpdate : ∀ projectId ifMatch project revision,
      event.call ≠ .update projectId ifMatch project revision) :
      Change event repository (.ok answer) repository
  | created {id : Uuid} {project : EditableProject D}
      {revision : Option (CalculationRevision D)} {timestamp : String}
      (call : event.call = .create id project revision) :
      Change event repository
        (.ok (.document (freshDocument event.ownerId id project revision timestamp
          (projectEtag 1))))
        ⟨repository.value.insert (event.ownerId, id)
          ⟨freshDocument event.ownerId id project revision timestamp (projectEtag 1), 1⟩, false⟩
  | updated {projectId : Uuid} {ifMatch : String} {project : EditableProject D}
      {revision : Option (CalculationRevision D)} {stored : StoredProject D} {timestamp : String}
      (call : event.call = .update projectId ifMatch project revision)
      (found : repository.value.lookup (event.ownerId, projectId) = some stored)
      (etag : stored.document.etag = ifMatch) :
      Change event repository
        (.ok (.document (revisedDocument stored.document project revision timestamp
          (projectEtag (stored.version + 1)))))
        ⟨repository.value.replace (event.ownerId, projectId)
          ⟨revisedDocument stored.document project revision timestamp
            (projectEtag (stored.version + 1)), stored.version + 1⟩, false⟩
  | deleted {projectId : Uuid} (call : event.call = .delete projectId) :
      Change event repository (.ok .done)
        ⟨repository.value.erase (event.ownerId, projectId), false⟩

variable {documentBytes}

omit [DecimalArith D] in
theorem get_ne_panic (ownerId : String) (projectId : Uuid) (repository : Repository D) :
    get ownerId projectId repository ≠ .panic := by
  unfold get RwLock.withRead getLocked
  split
  · nofun
  · split <;> nofun

theorem perform_change (event : Event D) (repository : Repository D) :
    Change event repository (perform documentBytes event repository).1
      (perform documentBytes event repository).2 := by
  cases hcall : event.call with
  | create id project revision =>
      simp only [perform, hcall]
      rcases create_cases event.now id event.ownerId project revision repository with
        ⟨failure, hrun⟩ | ⟨timestamp, hrun⟩
      · rw [hrun]
        exact .refused failure
      · rw [hrun]
        exact .created hcall
  | get projectId =>
      simp only [perform, hcall]
      cases hget : get event.ownerId projectId repository with
      | ok document => exact .observed _ (by simp [hcall])
      | err failure => exact .refused failure
      | panic => exact absurd hget (get_ne_panic _ _ _)
  | list =>
      simp only [perform, hcall, list, RwLock.withRead]
      split
      · exact .refused _
      · exact .observed _ (by simp [hcall])
  | update projectId ifMatch project revision =>
      simp only [perform, hcall]
      rcases update_cases event.now event.ownerId projectId ifMatch project revision repository
        with ⟨failure, hrun⟩ | ⟨stored, timestamp, hfound, hetag, hrun⟩
      · rw [hrun]
        exact .refused failure
      · rw [hrun]
        exact .updated hcall hfound hetag
  | delete projectId =>
      simp only [perform, hcall]
      rcases delete_cases event.ownerId projectId repository with ⟨failure, hrun⟩ | hrun
      · rw [hrun]
        exact .refused failure
      · rw [hrun]
        exact .deleted hcall

/-! ### What a call keeps -/

/-- Every document lies under its own owner and identifier, and its tag is that
of its version. -/
def Keyed (projects : ProjectMap D) : Prop :=
  ∀ key stored, projects.lookup key = some stored →
    stored.document.ownerId = key.1 ∧ stored.document.id = key.2 ∧
      stored.document.etag = projectEtag stored.version

theorem Change.keyed {event : Event D} {repository after : Repository D}
    {outcome : Outcome RepositoryError (Answer D)} (h : Change event repository outcome after)
    (hkeyed : Keyed repository.value) : Keyed after.value := by
  intro key stored hfound
  cases h with
  | refused => exact hkeyed key stored hfound
  | observed => exact hkeyed key stored hfound
  | @created id =>
      by_cases hkey : key = (event.ownerId, id)
      · subst hkey
        rw [AList.lookup_insert] at hfound
        cases hfound
        exact ⟨rfl, rfl, rfl⟩
      · rw [AList.lookup_insert_ne hkey] at hfound
        exact hkeyed key stored hfound
  | @updated projectId _ _ _ current _ _ found =>
      by_cases hkey : key = (event.ownerId, projectId)
      · subst hkey
        rw [HashMap.lookup_replace _ _ (HashMap.mem_of_lookup found)] at hfound
        cases hfound
        obtain ⟨howner, hid, -⟩ := hkeyed _ current found
        exact ⟨howner, hid, rfl⟩
      · rw [HashMap.lookup_replace_ne _ _ hkey] at hfound
        exact hkeyed key stored hfound
  | @deleted projectId =>
      by_cases hkey : key = (event.ownerId, projectId)
      · subst hkey
        rw [AList.lookup_erase] at hfound
        cases hfound
      · rw [AList.lookup_erase_ne hkey] at hfound
        exact hkeyed key stored hfound

theorem Change.poisoned {event : Event D} {repository after : Repository D}
    {outcome : Outcome RepositoryError (Answer D)} (h : Change event repository outcome after)
    (hpoisoned : repository.poisoned = false) : after.poisoned = false := by
  cases h with
  | refused => exact hpoisoned
  | observed => exact hpoisoned
  | _ => rfl

theorem Change.eq_of_err {event : Event D} {repository after : Repository D}
    {failure : RepositoryError} (h : Change event repository (.err failure) after) :
    after = repository := by
  cases h
  rfl

/-- A call touches keys of its own owner only. -/
theorem Change.lookup_of_ne_owner {event : Event D} {repository after : Repository D}
    {outcome : Outcome RepositoryError (Answer D)} (h : Change event repository outcome after)
    {key : ProjectKey} (hne : key.1 ≠ event.ownerId) :
    after.value.lookup key = repository.value.lookup key := by
  have hkey : ∀ id : Uuid, key ≠ (event.ownerId, id) := by
    rintro id rfl
    exact hne rfl
  cases h with
  | refused => rfl
  | observed => rfl
  | created => exact AList.lookup_insert_ne (hkey _)
  | updated => exact HashMap.lookup_replace_ne _ _ (hkey _)
  | deleted => exact AList.lookup_erase_ne (hkey _)

/-- The call creates the project of the key. -/
def Event.Creates (event : Event D) (key : ProjectKey) : Prop :=
  event.ownerId = key.1 ∧ ∃ project revision, event.call = .create key.2 project revision

/-- What stays the same over a document's life, and what only grows. -/
structure Descends (before after : StoredProject D) : Prop where
  createdAt : after.document.createdAt = before.document.createdAt
  id : after.document.id = before.document.id
  ownerId : after.document.ownerId = before.document.ownerId
  version : before.version ≤ after.version

omit [DecimalArith D] in
theorem Descends.refl (stored : StoredProject D) : Descends stored stored :=
  ⟨rfl, rfl, rfl, le_rfl⟩

omit [DecimalArith D] in
theorem Descends.trans {first second third : StoredProject D} (h : Descends first second)
    (h' : Descends second third) : Descends first third where
  createdAt := h'.createdAt.trans h.createdAt
  id := h'.id.trans h.id
  ownerId := h'.ownerId.trans h.ownerId
  version := h.version.trans h'.version

/-- A document found after a call that did not create it descends from the one
found before. -/
theorem Change.descends {event : Event D} {repository after : Repository D}
    {outcome : Outcome RepositoryError (Answer D)} (h : Change event repository outcome after)
    {key : ProjectKey} (hcreates : ¬ event.Creates key) {latest : StoredProject D}
    (hfound : after.value.lookup key = some latest) :
    ∃ stored, repository.value.lookup key = some stored ∧ Descends stored latest := by
  cases h with
  | refused => exact ⟨latest, hfound, .refl latest⟩
  | observed => exact ⟨latest, hfound, .refl latest⟩
  | @created id project revision _ call =>
      have hkey : key ≠ (event.ownerId, id) := by
        rintro rfl
        exact hcreates ⟨rfl, project, revision, call⟩
      rw [AList.lookup_insert_ne hkey] at hfound
      exact ⟨latest, hfound, .refl latest⟩
  | @updated projectId _ _ _ current _ _ found =>
      by_cases hkey : key = (event.ownerId, projectId)
      · subst hkey
        rw [HashMap.lookup_replace _ _ (HashMap.mem_of_lookup found)] at hfound
        cases hfound
        exact ⟨current, found, rfl, rfl, rfl, Nat.le_succ _⟩
      · rw [HashMap.lookup_replace_ne _ _ hkey] at hfound
        exact ⟨latest, hfound, .refl latest⟩
  | @deleted projectId =>
      by_cases hkey : key = (event.ownerId, projectId)
      · subst hkey
        rw [AList.lookup_erase] at hfound
        cases hfound
      · rw [AList.lookup_erase_ne hkey] at hfound
        exact ⟨latest, hfound, .refl latest⟩

theorem projectEtag_injective {m n : Nat} (h : projectEtag m = projectEtag n) : m = n := by
  have hchars := congrArg String.toList h
  simp only [projectEtag, String.toList_append, List.append_cancel_right_eq,
    List.append_cancel_left_eq] at hchars
  exact Json.toDigits_injective (by rw [← Json.toString_nat, ← Json.toString_nat, hchars])

/-! ### Runs -/

/-- A call with the answer it got. -/
structure Entry (D : Type) where
  event : Event D
  outcome : Outcome RepositoryError (Answer D)

/-- Calls in any order, each atomic. -/
inductive Run (documentBytes : ProjectDocument D → Nat) (repository : Repository D) :
    List (Entry D) → Repository D → Prop
  | start : Run documentBytes repository [] repository
  | step {log : List (Entry D)} {current : Repository D}
      (run : Run documentBytes repository log current) (event : Event D) :
      Run documentBytes repository
        (log ++ [⟨event, (perform documentBytes event current).1⟩])
        (perform documentBytes event current).2

theorem Run.keyed {repository current : Repository D} {log : List (Entry D)}
    (run : Run documentBytes repository log current) (hkeyed : Keyed repository.value) :
    Keyed current.value := by
  induction run with
  | start => exact hkeyed
  | step _ event ih => exact (perform_change event _).keyed ih

theorem Run.poisoned {repository current : Repository D} {log : List (Entry D)}
    (run : Run documentBytes repository log current)
    (hpoisoned : repository.poisoned = false) : current.poisoned = false := by
  induction run with
  | start => exact hpoisoned
  | step _ event ih => exact (perform_change event _).poisoned ih

/-- Along a run that does not create it again, a document only descends. -/
theorem Run.descends {repository current : Repository D} {log : List (Entry D)}
    (run : Run documentBytes repository log current) {key : ProjectKey}
    (hcreates : ∀ entry ∈ log, ¬ entry.event.Creates key) {latest : StoredProject D}
    (hfound : current.value.lookup key = some latest) :
    ∃ stored, repository.value.lookup key = some stored ∧ Descends stored latest := by
  induction run generalizing latest with
  | start => exact ⟨latest, hfound, .refl latest⟩
  | step _ event ih =>
      have hlast := hcreates ⟨event, _⟩ (List.mem_append_right _ List.mem_cons_self)
      obtain ⟨middle, hmiddle, hstep⟩ := (perform_change event _).descends hlast hfound
      obtain ⟨stored, hstored, hbefore⟩ :=
        ih (fun entry hentry => hcreates entry (List.mem_append_left _ hentry)) hmiddle
      exact ⟨stored, hstored, hbefore.trans hstep⟩

/-- What a run from the empty repository holds has been created in it. -/
theorem Run.created {current : Repository D} {log : List (Entry D)}
    (run : Run documentBytes emptyRepository log current) {key : ProjectKey}
    {stored : StoredProject D} (hfound : current.value.lookup key = some stored) :
    ∃ entry ∈ log, entry.event.Creates key := by
  by_contra hnone
  have hcreates : ∀ entry ∈ log, ¬ entry.event.Creates key :=
    fun entry hentry hcreate => hnone ⟨entry, hentry, hcreate⟩
  obtain ⟨first, hfirst, -⟩ := run.descends hcreates hfound
  cases hfirst

/-! ### Updates under one tag -/

/-- The entry is a successful update of the project under the tag. -/
def Entry.Updates (entry : Entry D) (key : ProjectKey) (ifMatch : String) : Prop :=
  entry.event.ownerId = key.1 ∧
    (∃ project revision, entry.event.call = .update key.2 ifMatch project revision) ∧
    ∃ answer, entry.outcome = .ok answer

/-- A successful update finds the project under its tag and raises its version. -/
theorem Change.of_update {event : Event D} {repository after : Repository D}
    {outcome : Outcome RepositoryError (Answer D)} (h : Change event repository outcome after)
    {key : ProjectKey} {ifMatch : String} (hupdates : Entry.Updates ⟨event, outcome⟩ key ifMatch) :
    ∃ stored latest, repository.value.lookup key = some stored ∧
      stored.document.etag = ifMatch ∧ after.value.lookup key = some latest ∧
      latest.version = stored.version + 1 := by
  obtain ⟨howner, ⟨project, revision, hcall⟩, answer, houtcome⟩ := hupdates
  change event.call = _ at hcall
  cases h with
  | refused => cases houtcome
  | observed _ noUpdate => exact absurd hcall (noUpdate _ _ _ _)
  | created call => rw [hcall] at call; cases call
  | deleted call => rw [hcall] at call; cases call
  | updated call found etag =>
      rw [hcall] at call
      cases call
      obtain ⟨ownerId, projectId⟩ := key
      obtain rfl : event.ownerId = ownerId := howner
      exact ⟨_, _, found, etag, HashMap.lookup_replace _ _ (HashMap.mem_of_lookup found), rfl⟩

/-- No two creates of the log drew the same identifier for one owner. -/
def FreshIds (log : List (Entry D)) : Prop :=
  log.Pairwise fun first second => ∀ key, first.event.Creates key → ¬ second.event.Creates key

/-- A project updated under a tag has moved past the version of the tag. -/
theorem Run.past_tag {current : Repository D} {log : List (Entry D)}
    (run : Run documentBytes emptyRepository log current) (hfresh : FreshIds log)
    {key : ProjectKey} {ifMatch : String} {entry : Entry D} (hentry : entry ∈ log)
    (hupdates : entry.Updates key ifMatch) :
    (∃ entry ∈ log, entry.event.Creates key) ∧
      ∀ stored, current.value.lookup key = some stored →
        ∃ n, ifMatch = projectEtag n ∧ n < stored.version := by
  induction run with
  | start => cases hentry
  | @step log current run event ih =>
      have hchange := @perform_change _ _ documentBytes event current
      have hkeyed := run.keyed fun _ _ hnone => nomatch hnone
      obtain ⟨hbefore, -, hlast⟩ := List.pairwise_append.mp hfresh
      rcases List.mem_append.mp hentry with hold | hnew
      · obtain ⟨⟨create, hcreate, hcreates⟩, hpast⟩ := ih hbefore hold
        refine ⟨⟨create, List.mem_append_left _ hcreate, hcreates⟩, ?_⟩
        intro latest hlatest
        have hother := hlast create hcreate ⟨event, _⟩ List.mem_cons_self key hcreates
        obtain ⟨stored, hstored, hdescends⟩ := hchange.descends hother hlatest
        obtain ⟨n, htag, hlt⟩ := hpast stored hstored
        exact ⟨n, htag, hlt.trans_le hdescends.version⟩
      · obtain rfl := List.mem_singleton.mp hnew
        obtain ⟨stored, latest, hstored, hetag, hlatest, hversion⟩ := hchange.of_update hupdates
        obtain ⟨create, hcreate, hcreates⟩ := run.created hstored
        refine ⟨⟨create, List.mem_append_left _ hcreate, hcreates⟩, ?_⟩
        intro found hfound
        obtain rfl : latest = found := Option.some.inj (hlatest.symm.trans hfound)
        exact ⟨stored.version, hetag.symm.trans (hkeyed key stored hstored).2.2, by omega⟩

/-- Of the updates that carry one tag for one project at most one succeeds. -/
theorem Run.update_once {current : Repository D} {log : List (Entry D)}
    (run : Run documentBytes emptyRepository log current) (hfresh : FreshIds log) :
    log.Pairwise fun first second => ∀ key ifMatch, first.Updates key ifMatch →
      ¬ second.Updates key ifMatch := by
  induction run with
  | start => exact List.Pairwise.nil
  | @step log current run event ih =>
      have hbefore := (List.pairwise_append.mp hfresh).1
      refine List.pairwise_append.mpr ⟨ih hbefore, List.pairwise_singleton _ _, ?_⟩
      intro first hfirst second hsecond key ifMatch hupdates hagain
      obtain rfl := List.mem_singleton.mp hsecond
      have hchange := @perform_change _ _ documentBytes event current
      have hkeyed := run.keyed fun _ _ hnone => nomatch hnone
      obtain ⟨stored, -, hstored, hetag, -⟩ := hchange.of_update hagain
      obtain ⟨n, htag, hlt⟩ := (run.past_tag hbefore hfirst hupdates).2 stored hstored
      have htags : projectEtag n = projectEtag stored.version :=
        htag.symm.trans (hetag.symm.trans (hkeyed key stored hstored).2.2)
      rw [projectEtag_injective htags] at hlt
      exact lt_irrefl _ hlt

/-! ### Isolation of owners -/

/-- Both stores hold the same documents of the owner. -/
def Agree (ownerId : String) (projects other : ProjectMap D) : Prop :=
  ∀ id, projects.lookup (ownerId, id) = other.lookup (ownerId, id)

omit [DecimalArith D] in
theorem mem_ownEntries {ownerId : String} {projects : ProjectMap D}
    {entry : (_ : ProjectKey) × StoredProject D} :
    entry ∈ projects.entries.filter (fun entry => entry.1.1 == ownerId) ↔
      entry.1.1 = ownerId ∧ projects.lookup entry.1 = some entry.2 := by
  rw [List.mem_filter, beq_iff_eq, ← Option.mem_def, AList.mem_lookup_iff]
  exact and_comm

omit [DecimalArith D] in
theorem Agree.ownDocuments_perm {ownerId : String} {projects other : ProjectMap D}
    (h : Agree ownerId projects other) :
    (ownDocuments ownerId projects).Perm (ownDocuments ownerId other) := by
  apply List.Perm.map
  apply (List.perm_ext_iff_of_nodup (projects.nodupKeys.nodup.filter _)
    (other.nodupKeys.nodup.filter _)).mpr
  rintro ⟨⟨owner, id⟩, stored⟩
  rw [mem_ownEntries, mem_ownEntries]
  constructor
  · rintro ⟨rfl, hfound⟩
    exact ⟨rfl, (h id).symm.trans hfound⟩
  · rintro ⟨rfl, hfound⟩
    exact ⟨rfl, (h id).trans hfound⟩

omit [DecimalArith D] in
theorem Keyed.eq_of_id_eq {projects : ProjectMap D} (hkeyed : Keyed projects)
    {ownerId : String} {left right : ProjectDocument D}
    (hleft : left ∈ ownDocuments ownerId projects)
    (hright : right ∈ ownDocuments ownerId projects) (hid : left.id = right.id) :
    left = right := by
  obtain ⟨⟨⟨owner, id⟩, stored⟩, hentry, rfl⟩ := List.mem_map.mp hleft
  obtain ⟨⟨⟨owner', id'⟩, stored'⟩, hentry', rfl⟩ := List.mem_map.mp hright
  obtain ⟨rfl, hfound⟩ := mem_ownEntries.mp hentry
  obtain ⟨rfl, hfound'⟩ := mem_ownEntries.mp hentry'
  obtain rfl : id = id' :=
    (hkeyed _ _ hfound).2.1.symm.trans (hid.trans (hkeyed _ _ hfound').2.1)
  exact congrArg StoredProject.document (Option.some.inj (hfound.symm.trans hfound'))

omit [DecimalArith D] in
theorem ListedBefore.total (left right : ProjectDocument D) :
    ListedBefore left right ∨ ListedBefore right left := by
  unfold ListedBefore
  rcases lt_trichotomy left.updatedAt right.updatedAt with hlt | heq | hgt
  · exact .inr (.inl hlt)
  · rcases le_total left.id.bits.toNat right.id.bits.toNat with hle | hle
    · exact .inl (.inr ⟨heq, hle⟩)
    · exact .inr (.inr ⟨heq.symm, hle⟩)
  · exact .inl (.inl hgt)

omit [DecimalArith D] in
theorem ListedBefore.trans {first second third : ProjectDocument D}
    (h : ListedBefore first second) (h' : ListedBefore second third) :
    ListedBefore first third := by
  rcases h with hlt | ⟨heq, hle⟩
  · rcases h' with hlt' | ⟨heq', -⟩
    · exact .inl (hlt'.trans hlt)
    · exact .inl (heq' ▸ hlt)
  · rcases h' with hlt' | ⟨heq', hle'⟩
    · exact .inl (heq ▸ hlt')
    · exact .inr ⟨heq.trans heq', hle.trans hle'⟩

omit [DecimalArith D] in
theorem ListedBefore.id_eq {left right : ProjectDocument D} (h : ListedBefore left right)
    (h' : ListedBefore right left) : left.id = right.id := by
  rcases h with hlt | ⟨heq, hle⟩
  · rcases h' with hlt' | ⟨heq', -⟩
    · exact absurd (hlt.trans hlt') (lt_irrefl _)
    · exact absurd (heq' ▸ hlt) (lt_irrefl _)
  · rcases h' with hlt' | ⟨-, hle'⟩
    · exact absurd (heq ▸ hlt') (lt_irrefl _)
    · exact congrArg Uuid.mk (BitVec.eq_of_toNat_eq (le_antisymm hle hle'))

/-- What a call answers and does to its owner's documents depends on these only. -/
theorem perform_agree {event : Event D} {repository other : Repository D}
    (hkeyed : Keyed repository.value) (hopen : repository.poisoned = false)
    (hopen' : other.poisoned = false)
    (hagree : Agree event.ownerId repository.value other.value) :
    (perform documentBytes event repository).1 = (perform documentBytes event other).1 ∧
      Agree event.ownerId (perform documentBytes event repository).2.value
        (perform documentBytes event other).2.value := by
  cases hcall : event.call with
  | create id project revision =>
      simp only [perform, hcall, create]
      cases createdDocument documentBytes event.now id event.ownerId project revision with
      | error failure => exact ⟨rfl, hagree⟩
      | ok document =>
          simp only [RwLock.withWrite, hopen, hopen', Bool.false_eq_true, if_false]
          refine ⟨rfl, fun other => ?_⟩
          by_cases hid : other = id
          · subst hid
            simp
          · have hne : (event.ownerId, other) ≠ (event.ownerId, id) :=
              fun heq => hid (Prod.mk.inj heq).2
            simp only [Locked.write_bind, Locked.pure_apply]
            rw [AList.lookup_insert_ne hne, AList.lookup_insert_ne hne, hagree]
  | get projectId =>
      simp only [perform, hcall, get, RwLock.withRead, hopen, hopen', Bool.false_eq_true,
        if_false, getLocked, hagree projectId]
      exact ⟨trivial, hagree⟩
  | list =>
      simp only [perform, hcall, list, RwLock.withRead, hopen, hopen', Bool.false_eq_true,
        if_false]
      refine ⟨?_, hagree⟩
      rw [Sorting.insertionSort_eq_of_perm ListedBefore.total
        (fun _ _ _ => ListedBefore.trans) hagree.ownDocuments_perm]
      intro left hleft right hright hbefore hafter
      exact hkeyed.eq_of_id_eq hleft hright (hbefore.id_eq hafter)
  | update projectId ifMatch project revision =>
      simp only [perform, hcall, update, RwLock.withWrite, hopen, hopen', Bool.false_eq_true,
        if_false, updateLocked, Locked.read_bind, ← hagree projectId]
      cases hfound : repository.value.lookup (event.ownerId, projectId) with
      | none => exact ⟨rfl, hagree⟩
      | some stored =>
          have hfound' : other.value.lookup (event.ownerId, projectId) = some stored :=
            (hagree projectId).symm.trans hfound
          cases hupdated : updateStored documentBytes event.now ifMatch project revision stored with
          | error failure =>
              simp only [hupdated, Locked.check_error_bind]
              exact ⟨trivial, hagree⟩
          | ok updated =>
              simp only [hupdated, Locked.check_ok_bind, Locked.write_bind, Locked.pure_apply]
              refine ⟨trivial, fun id => ?_⟩
              by_cases hid : id = projectId
              · subst hid
                rw [HashMap.lookup_replace _ _ (HashMap.mem_of_lookup hfound),
                  HashMap.lookup_replace _ _ (HashMap.mem_of_lookup hfound')]
              · have hne : (event.ownerId, id) ≠ (event.ownerId, projectId) :=
                  fun heq => hid (Prod.mk.inj heq).2
                rw [HashMap.lookup_replace_ne _ _ hne, HashMap.lookup_replace_ne _ _ hne, hagree]
  | delete projectId =>
      simp only [perform, hcall, delete, RwLock.withWrite, hopen, hopen', Bool.false_eq_true,
        if_false, deleteLocked, Locked.read_bind, ← hagree projectId]
      cases repository.value.lookup (event.ownerId, projectId) with
      | none => exact ⟨rfl, hagree⟩
      | some stored =>
          simp only [Locked.write_bind, Locked.pure_apply]
          refine ⟨trivial, fun id => ?_⟩
          by_cases hid : id = projectId
          · subst hid
            rw [AList.lookup_erase, AList.lookup_erase]
          · have hne : (event.ownerId, id) ≠ (event.ownerId, projectId) :=
              fun heq => hid (Prod.mk.inj heq).2
            rw [AList.lookup_erase_ne hne, AList.lookup_erase_ne hne, hagree]

/-! ### The store as a whole -/

/-- Any calls by any owners, from the empty store on: of the updates under one
tag of a project at most one succeeds; a failing call leaves the store as it was
and none panics; an owner's calls leave the documents of others alone and depend
on the owner's own documents only; and a document keeps its owner, identifier
and creation time. -/
theorem project_store_safety {repository : Repository D} {log : List (Entry D)}
    (run : Run documentBytes emptyRepository log repository) :
    (FreshIds log → log.Pairwise fun first second => ∀ key ifMatch,
      first.Updates key ifMatch → ¬ second.Updates key ifMatch) ∧
    (∀ event : Event D,
      (∀ failure, (perform documentBytes event repository).1 = .err failure →
        (perform documentBytes event repository).2 = repository) ∧
      (perform documentBytes event repository).1 ≠ .panic ∧
      (∀ key : ProjectKey, key.1 ≠ event.ownerId →
        (perform documentBytes event repository).2.value.lookup key =
          repository.value.lookup key) ∧
      ∀ {log' : List (Entry D)} {other : Repository D},
        Run documentBytes emptyRepository log' other →
        Agree event.ownerId repository.value other.value →
        (perform documentBytes event repository).1 = (perform documentBytes event other).1 ∧
          Agree event.ownerId (perform documentBytes event repository).2.value
            (perform documentBytes event other).2.value) ∧
    (∀ key stored, repository.value.lookup key = some stored →
      stored.document.ownerId = key.1 ∧ stored.document.id = key.2 ∧
      ∀ {log' : List (Entry D)} {later : Repository D},
        Run documentBytes repository log' later → FreshIds (log ++ log') →
        ∀ latest, later.value.lookup key = some latest →
          latest.document.createdAt = stored.document.createdAt ∧
            latest.document.id = stored.document.id ∧
            latest.document.ownerId = stored.document.ownerId) := by
  have hkeyed := run.keyed fun _ _ hnone => nomatch hnone
  have hopen := run.poisoned rfl
  refine ⟨run.update_once, ?_, ?_⟩
  · intro event
    have hchange := @perform_change _ _ documentBytes event repository
    refine ⟨?_, ?_, fun key => hchange.lookup_of_ne_owner, ?_⟩
    · intro failure hfailure
      rw [hfailure] at hchange
      exact hchange.eq_of_err
    · intro hpanic
      rw [hpanic] at hchange
      cases hchange
    · intro log' other run' hagree
      exact perform_agree hkeyed hopen (run'.poisoned rfl) hagree
  · intro key stored hfound
    refine ⟨(hkeyed key stored hfound).1, (hkeyed key stored hfound).2.1, ?_⟩
    intro log' later run' hfresh latest hlatest
    obtain ⟨create, hcreate, hcreates⟩ := run.created hfound
    have hother : ∀ entry ∈ log', ¬ entry.event.Creates key := fun entry hentry =>
      (List.pairwise_append.mp hfresh).2.2 create hcreate entry hentry key hcreates
    obtain ⟨first, hfirst, hdescends⟩ := run'.descends hother hlatest
    obtain rfl : stored = first := Option.some.inj (hfound.symm.trans hfirst)
    exact ⟨hdescends.createdAt, hdescends.id, hdescends.ownerId⟩

namespace ProjectWitness

theorem noon_inRange : Rfc3339.minNanos ≤ 63954705600000000000 ∧
    63954705600000000000 < Rfc3339.endNanos := by decide

/-- 2026-08-23T12:00:00Z. -/
def noon : UtcDateTime := ⟨63954705600000000000, noon_inRange⟩

def settings : ProjectSettings ℚ where
  projectType := .sqlPayg
  awsRegion := none
  azureRegion := "eastus"
  currency := "USD"
  sourceComputeDiscount := 0
  sourceLicenseDiscount := 0
  sourceStorageDiscount := 0
  azureComputeDiscount := 0
  azureLicenseDiscount := 0
  azureStorageDiscount := 0
  selectedParityAdjustment := 0
  defaultAnnualHours := 8760
  defaultMiPurchaseOption := .payg
  enterpriseLicenseSaUsdPerTwoCorePack := none
  standardLicenseSaUsdPerTwoCorePack := none
  remainingCoverageMonths := none
  electricityRateUsdPerKwh := none
  sqlPayg := some ⟨8, 0, 12000⟩

def project (name : String) : EditableProject ℚ := ⟨name, none, settings, [], none, none⟩

def bytes (_ : ProjectDocument ℚ) : Nat := 900

def createEvent : Event ℚ := ⟨noon, "owner", .create ⟨1⟩ (project "Licensing") none⟩

/-- Two writers hold the tag of the first version. -/
def updateEvent (name : String) : Event ℚ :=
  ⟨noon, "owner", .update ⟨1⟩ (projectEtag 1) (project name) none⟩

def created : Repository ℚ := (perform bytes createEvent emptyRepository).2

def updated : Repository ℚ := (perform bytes (updateEvent "First") created).2

def log : List (Entry ℚ) := [
  ⟨createEvent, (perform bytes createEvent emptyRepository).1⟩,
  ⟨updateEvent "First", (perform bytes (updateEvent "First") created).1⟩,
  ⟨updateEvent "Second", (perform bytes (updateEvent "Second") updated).1⟩]

theorem run_log :
    Run bytes emptyRepository log (perform bytes (updateEvent "Second") updated).2 :=
  ((Run.start.step createEvent).step (updateEvent "First")).step (updateEvent "Second")

theorem freshIds_log : FreshIds log := by
  have hupdate : ∀ name outcome key,
      ¬ (Entry.mk (updateEvent name) outcome).event.Creates key := by
    rintro name outcome key ⟨-, _, _, hcall⟩
    cases hcall
  simp only [FreshIds, log, List.pairwise_cons, List.mem_cons, List.not_mem_nil, or_false]
  refine ⟨?_, ?_, ?_, List.Pairwise.nil⟩
  · rintro _ (rfl | rfl) key -
    · exact hupdate _ _ key
    · exact hupdate _ _ key
  · rintro _ rfl key -
    exact hupdate _ _ key
  · exact fun _ hnone => hnone.elim

end ProjectWitness

open ProjectWitness in
/-- The first of the two writers wins, the second is refused. -/
theorem project_store_safety_two_writers :
    (∃ answer, (perform bytes (updateEvent "First") created).1 = .ok answer) ∧
      log.Pairwise fun first second => ∀ key ifMatch,
        first.Updates key ifMatch → ¬ second.Updates key ifMatch := by
  refine ⟨?_, (project_store_safety run_log).1 freshIds_log⟩
  have hanswer : (perform bytes (updateEvent "First") created).1.map (fun _ => ()) = .ok () := by
    decide +kernel
  obtain ⟨answer, h, -⟩ := Outcome.map_eq_ok.mp hanswer
  exact ⟨answer, h⟩

end TcoCalculator.ProjectRepository
