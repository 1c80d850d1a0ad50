/-
Runs of the calculator-launch repository: what any sequence of calls by any
owners keeps, from what one call can do.
-/
import Mathlib.Logic.Relation
import TcoCalculator.Domain.ExactDecimal
import TcoCalculator.Persistence.CalculatorLaunchCalls

namespace TcoCalculator.CalculatorLaunch

open Rfc3339

variable {D : Type} [DecimalArith D] {sha256 : String → String}

/-! ### Progress of a launch -/

/-- Any number of moves: ready, then claimed, then consumed. -/
def Progress : CalculatorLaunchDocument D → CalculatorLaunchDocument D → Prop :=
  Relation.ReflTransGen Advance

omit [DecimalArith D] in
theorem Advance.status {document moved : CalculatorLaunchDocument D}
    (h : Advance document moved) :
    (document.status = .ready ∧ moved.status = .claimed) ∨
      (document.status = .claimed ∧ moved.status = .consumed) := by
  cases h with
  | claim ready => exact .inl ⟨ready, rfl⟩
  | consume claimed => exact .inr ⟨claimed, rfl⟩

omit [DecimalArith D] in
theorem Advance.payloadAbsent {document moved : CalculatorLaunchDocument D}
    (h : Advance document moved) (hconsumed : moved.status = .consumed) :
    PayloadAbsent moved := by
  cases h with
  | claim => cases hconsumed
  | consume => exact ⟨rfl, rfl, rfl, rfl, rfl, rfl⟩

omit [DecimalArith D] in
theorem Advance.companionInstanceId {document moved : CalculatorLaunchDocument D}
    (h : Advance document moved) (hclaimed : document.status ≠ .ready) :
    moved.companionInstanceId = document.companionInstanceId := by
  cases h with
  | claim ready => exact absurd ready hclaimed
  | consume => rfl

omit [DecimalArith D] in
/-- Until it is consumed a launch keeps its manifest and its source project. -/
theorem Progress.payload {document moved : CalculatorLaunchDocument D}
    (h : Progress document moved) (hactive : moved.status ≠ .consumed) :
    moved.manifest = document.manifest ∧
      moved.sourceProjectId = document.sourceProjectId := by
  induction h with
  | refl => exact ⟨rfl, rfl⟩
  | tail _ hstep ih =>
      cases hstep with
      | claim ready => exact ih (by rw [ready]; decide)
      | consume => exact absurd rfl hactive

/-- The effect of a call on a valid map is a valid map. -/
theorem Effect.mapValid {event : Event D} {launches after : LaunchMap D}
    {outcome : Outcome CalculatorLaunchError (Answer D)}
    (h : Effect sha256 event launches outcome after)
    (hmap : MapValid sha256 launches event.now) : MapValid sha256 after event.now := by
  have hkey : ∀ key stored, after.lookup key = some stored →
      DocumentValid sha256 stored.document key.1 key.2 ∧
      (stored.document.status = .consumed → PayloadAbsent stored.document) ∧
      0 ≤ event.now.nanos := by
    intro key stored hfound
    cases hbefore : launches.lookup key with
    | none =>
        obtain ⟨hvalid, hready, hstarted⟩ := h.lookup_of_absent hbefore hfound
        refine ⟨hvalid, ?_, hstarted⟩
        intro hconsumed
        rw [hready] at hconsumed
        cases hconsumed
    | some before =>
        have hstarted := hmap.started key before hbefore
        rcases h.lookup_of_found hbefore with hsame | ⟨moved, hmoved, hadvance, hvalid⟩ |
          ⟨hnone, -⟩
        · obtain rfl : before = stored := by simpa [hsame] using hfound
          exact ⟨hmap.document key before hbefore, hmap.payloadAbsent key before hbefore,
            hstarted⟩
        · obtain rfl : moved = stored := by simpa [hmoved] using hfound
          exact ⟨hvalid, hadvance.payloadAbsent, hstarted⟩
        · rw [hnone] at hfound
          cases hfound
  exact ⟨fun key stored hfound => (hkey key stored hfound).1,
    fun key stored hfound => (hkey key stored hfound).2.1,
    fun key stored hfound => (hkey key stored hfound).2.2⟩

/-! ### Runs -/

/-- A call with the answer it got. -/
structure Entry (D : Type) where
  event : Event D
  outcome : Outcome CalculatorLaunchError (Answer D)

/-- Calls in any order, each atomic, at clock readings that do not decrease. -/
inductive Run (sha256 : String → String) (repository : Repository D) (clock : UtcDateTime) :
    List (Entry D) → Repository D → UtcDateTime → Prop
  | start : Run sha256 repository clock [] repository clock
  | step {log : List (Entry D)} {current : Repository D} {reading : UtcDateTime}
      (run : Run sha256 repository clock log current reading) (event : Event D)
      (later : reading ≤ event.now) :
      Run sha256 repository clock (log ++ [⟨event, (perform sha256 event current).1⟩])
        (perform sha256 event current).2 event.now

theorem Run.mapValid {repository current : Repository D} {clock reading : UtcDateTime}
    {log : List (Entry D)} (run : Run sha256 repository clock log current reading)
    (hmap : MapValid sha256 repository.value clock) :
    MapValid sha256 current.value reading := by
  induction run with
  | start => exact hmap
  | step _ event later ih =>
      exact (perform_effect (ih.later later)).mapValid (ih.later later)

/-- The entry is a successful claim of the launch, answered with a document. -/
def Entry.Claims (entry : Entry D) (key : LaunchKey)
    (document : CalculatorLaunchDocument D) : Prop :=
  entry.event.ownerId = key.1 ∧ entry.outcome = .ok (.claimed document) ∧
    ∃ companionInstanceId companionVersion,
      entry.event.call = .claim key.2 companionInstanceId companionVersion

/-- The entry is a successful purge of the owner's project. -/
def Entry.Purges (entry : Entry D) (ownerId : String) (projectId : Option Uuid) : Prop :=
  entry.event.ownerId = ownerId ∧ entry.outcome = .ok .done ∧
    ∃ id, entry.event.call = .purgeProject id ∧ projectId = some id

/-- A successful claim answers with the document then stored, which is claimed. -/
theorem Effect.claims {event : Event D} {launches after : LaunchMap D}
    {document : CalculatorLaunchDocument D} {key : LaunchKey}
    (h : Effect sha256 event launches (.ok (.claimed document)) after)
    (howner : event.ownerId = key.1) {companionInstanceId : Uuid} {companionVersion : String}
    (hcall : event.call = .claim key.2 companionInstanceId companionVersion) :
    ∃ stored, after.lookup key = some stored ∧ stored.document = document ∧
      document.status = .claimed := by
  generalize houtcome : Outcome.ok (Answer.claimed document) = outcome at h
  cases h with
  | @reclaimed launchId _ _ stored call found claimed =>
      cases houtcome
      rw [hcall] at call
      cases call
      refine ⟨stored, ?_, rfl, claimed⟩
      rw [← found, howner]
  | @claimed launchId _ _ stored _ _ _ _ _ _ call found ready _ answer =>
      rw [hcall] at call
      cases call
      rw [howner] at found ⊢
      subst houtcome
      refine ⟨_, HashMap.lookup_replace _ _ (HashMap.mem_of_lookup found), ?_⟩
      rcases answer with h | h
      · cases h
        exact ⟨rfl, rfl⟩
      · cases h
  | acknowledged _ _ _ _ _ answer =>
      subst houtcome
      rcases answer with h | h <;> cases h
  | _ => cases houtcome

/-- The same for the entry a run has just logged. -/
theorem Entry.Claims.latest {event : Event D} {repository : Repository D}
    {document : CalculatorLaunchDocument D} {key : LaunchKey} {latest : StoredLaunch D}
    (hclaim : Entry.Claims ⟨event, (perform sha256 event repository).1⟩ key document)
    (hmap : MapValid sha256 repository.value event.now)
    (hlatest : (perform sha256 event repository).2.value.lookup key = some latest) :
    latest.document = document ∧ document.status = .claimed := by
  obtain ⟨howner, hanswer, _, _, hcall⟩ := hclaim
  have heffect := perform_effect hmap
  change (perform sha256 event repository).1 = _ at hanswer
  rw [hanswer] at heffect
  obtain ⟨stored, hstored, rfl, hclaimed⟩ := heffect.claims howner hcall
  obtain rfl : latest = stored := by simpa [hlatest] using hstored
  exact ⟨rfl, hclaimed⟩

/-- Along a run that does not purge it, a launch only progresses, and every
successful claim of it was answered with its claimant and its manifest. -/
theorem Run.progress {repository current : Repository D} {clock reading : UtcDateTime}
    {log : List (Entry D)} (run : Run sha256 repository clock log current reading)
    (hmap : MapValid sha256 repository.value clock) {key : LaunchKey}
    {stored : StoredLaunch D} (hfound : repository.value.lookup key = some stored)
    (hkept : ∀ entry ∈ log, ¬ entry.Purges key.1 stored.document.sourceProjectId) :
    ∃ latest, current.value.lookup key = some latest ∧
      Progress stored.document latest.document ∧
      ∀ entry ∈ log, ∀ document, entry.Claims key document →
        latest.document.status ≠ .ready ∧
        document.companionInstanceId = latest.document.companionInstanceId ∧
        document.manifest = stored.document.manifest := by
  induction run with
  | start => exact ⟨stored, hfound, .refl, by simp⟩
  | @step log current reading run event later ih =>
      obtain ⟨latest, hlatest, hprogress, hclaims⟩ :=
        ih fun entry hentry => hkept entry (List.mem_append_left _ hentry)
      have hvalid := (run.mapValid hmap).later later
      have heffect := perform_effect hvalid
      have hlast := hkept ⟨event, _⟩ (List.mem_append_right _ List.mem_cons_self)
      rcases heffect.lookup_of_found hlatest with hsame | ⟨moved, hmoved, hadvance, -⟩ |
        ⟨-, hactive, howner, hdone, projectId, hcall, hsource⟩
      · refine ⟨latest, hsame, hprogress, ?_⟩
        intro entry hentry document hclaim
        rcases List.mem_append.mp hentry with hold | hnew
        · exact hclaims entry hold document hclaim
        · obtain rfl := List.mem_singleton.mp hnew
          obtain ⟨rfl, hclaimed⟩ := hclaim.latest hvalid hsame
          have hpayload := hprogress.payload (by rw [hclaimed]; decide)
          exact ⟨by rw [hclaimed]; decide, rfl, hpayload.1⟩
      · refine ⟨moved, hmoved, hprogress.tail hadvance, ?_⟩
        intro entry hentry document hclaim
        have hnotReady : moved.document.status ≠ .ready := by
          rcases hadvance.status with ⟨-, h⟩ | ⟨-, h⟩ <;> rw [h] <;> decide
        rcases List.mem_append.mp hentry with hold | hnew
        · obtain ⟨hclaimed, hcompanion, hmanifest⟩ := hclaims entry hold document hclaim
          exact ⟨hnotReady, hcompanion.trans (hadvance.companionInstanceId hclaimed).symm,
            hmanifest⟩
        · obtain rfl := List.mem_singleton.mp hnew
          obtain ⟨rfl, hclaimed⟩ := hclaim.latest hvalid hmoved
          have hpayload := Progress.payload (hprogress.tail hadvance)
            (by rw [hclaimed]; decide)
          exact ⟨hnotReady, rfl, hpayload.1⟩
      · exfalso
        have hpayload := hprogress.payload hactive
        exact hlast ⟨howner, hdone, projectId, hcall, hpayload.2.symm.trans hsource⟩

/-- A consumed launch stays exactly as it is and is never claimed again. -/
theorem Run.consumed {repository current : Repository D} {clock reading : UtcDateTime}
    {log : List (Entry D)} (run : Run sha256 repository clock log current reading)
    (hmap : MapValid sha256 repository.value clock) {key : LaunchKey}
    {stored : StoredLaunch D} (hfound : repository.value.lookup key = some stored)
    (hconsumed : stored.document.status = .consumed) :
    current.value.lookup key = some stored ∧
      ∀ entry ∈ log, ∀ document, ¬ entry.Claims key document := by
  induction run with
  | start => exact ⟨hfound, by simp⟩
  | @step log current reading run event later ih =>
      obtain ⟨hlatest, hclaims⟩ := ih
      have hvalid := (run.mapValid hmap).later later
      have heffect := perform_effect hvalid
      have hsame : (perform sha256 event current).2.value.lookup key = some stored := by
        rcases heffect.lookup_of_found hlatest with hsame | ⟨_, -, hadvance, -⟩ |
          ⟨-, hactive, -⟩
        · exact hsame
        · rcases hadvance.status with ⟨h, -⟩ | ⟨h, -⟩ <;> rw [hconsumed] at h <;> cases h
        · exact absurd hconsumed hactive
      refine ⟨hsame, ?_⟩
      intro entry hentry document hclaim
      rcases List.mem_append.mp hentry with hold | hnew
      · exact hclaims entry hold document hclaim
      · obtain rfl := List.mem_singleton.mp hnew
        obtain ⟨rfl, hclaimed⟩ := hclaim.latest hvalid hsame
        rw [hconsumed] at hclaimed
        cases hclaimed

/-! ### Owners do not see each other -/

/-- Two repositories hold the same launches of an owner. -/
def Agree (ownerId : String) (left right : LaunchMap D) : Prop :=
  ∀ id, left.lookup (ownerId, id) = right.lookup (ownerId, id)

omit [DecimalArith D] in
theorem HasActive.iff_of_agree {left right : LaunchMap D} {ownerId : String}
    (hagree : Agree ownerId left right) (now : UtcDateTime) :
    HasActive left ownerId now ↔ HasActive right ownerId now := by
  unfold HasActive
  simp only [hagree _]

omit [DecimalArith D] in
theorem Agree.withNew {left right : LaunchMap D} {ownerId : String}
    (hagree : Agree ownerId left right) (id : Uuid) (new : Option (StoredLaunch D)) :
    Agree ownerId (withNew left (ownerId, id) new) (withNew right (ownerId, id) new) := by
  intro other
  cases new with
  | none => exact hagree other
  | some stored =>
      by_cases hid : other = id
      · subst hid
        simp only [CalculatorLaunch.withNew, AList.lookup_insert]
      · have hne : (ownerId, other) ≠ (ownerId, id) := by simp [hid]
        simp only [CalculatorLaunch.withNew, AList.lookup_insert_ne hne, hagree other]

omit [DecimalArith D] in
theorem withStored_agree {α : Type} {left right : LaunchMap D} {ownerId : String}
    (hagree : Agree ownerId left right) (id : Uuid) (body : StoredM D α) :
    (withStored (ownerId, id) body left).1 = (withStored (ownerId, id) body right).1 ∧
      Agree ownerId (withStored (ownerId, id) body left).2
        (withStored (ownerId, id) body right).2 := by
  cases hleft : left.lookup (ownerId, id) with
  | none =>
      have hright := (hagree id).symm.trans hleft
      rw [withStored_none hleft, withStored_none hright]
      exact ⟨rfl, hagree⟩
  | some stored =>
      have hright := (hagree id).symm.trans hleft
      rw [withStored_some hleft, withStored_some hright]
      refine ⟨rfl, fun other => ?_⟩
      by_cases hid : other = id
      · subst hid
        rw [HashMap.lookup_replace _ _ (HashMap.mem_of_lookup hleft),
          HashMap.lookup_replace _ _ (HashMap.mem_of_lookup hright)]
      · have hne : (ownerId, other) ≠ (ownerId, id) := by simp [hid]
        rw [HashMap.lookup_replace_ne _ _ hne, HashMap.lookup_replace_ne _ _ hne, hagree other]

theorem createLocked_agree {left right : LaunchMap D} {clock : UtcDateTime}
    (hleft : MapValid sha256 left clock) (hright : MapValid sha256 right clock)
    {ownerId : String} (hagree : Agree ownerId left right) (now : UtcDateTime)
    (launch : NewCalculatorLaunch D) :
    (createLocked sha256 now ownerId launch left).1 =
        (createLocked sha256 now ownerId launch right).1 ∧
      Agree ownerId (createLocked sha256 now ownerId launch left).2
        (createLocked sha256 now ownerId launch right).2 := by
  obtain ⟨active, hactive, hiff⟩ := hleft.hasActiveLaunch_eq ownerId now
  obtain ⟨active', hactive', hiff'⟩ := hright.hasActiveLaunch_eq ownerId now
  obtain rfl : active = active' := by
    rw [Bool.eq_iff_iff, hiff, hiff', HasActive.iff_of_agree hagree]
  obtain ⟨outcome, new, hrun, -⟩ := createLocked_cases sha256 now ownerId launch
    (left.lookup (ownerId, launch.id)) (.ok active)
  rw [hrun left rfl hactive, hrun right (hagree _).symm hactive']
  exact ⟨rfl, hagree.withNew launch.id new⟩

omit [DecimalArith D] in
theorem withWrite_agree {ε α : Type} {left right : Repository D} {ownerId : String}
    (hlock : left.poisoned = right.poisoned) (hagree : Agree ownerId left.value right.value)
    (refused : ε) (body : Locked (LaunchMap D) ε α)
    (hbody : (body left.value).1 = (body right.value).1 ∧
      Agree ownerId (body left.value).2 (body right.value).2) :
    (left.withWrite refused body).1 = (right.withWrite refused body).1 ∧
      Agree ownerId (left.withWrite refused body).2.value
        (right.withWrite refused body).2.value := by
  cases hpoisoned : left.poisoned with
  | true =>
      rw [RwLock.withWrite_poisoned hpoisoned, RwLock.withWrite_poisoned (hlock ▸ hpoisoned)]
      exact ⟨rfl, hagree⟩
  | false =>
      rw [RwLock.withWrite_fst hpoisoned, RwLock.withWrite_fst (hlock ▸ hpoisoned),
        RwLock.withWrite_value hpoisoned, RwLock.withWrite_value (hlock ▸ hpoisoned)]
      exact hbody

/-- What an owner's call answers, and what it makes of the owner's launches,
does not depend on the launches of other owners. -/
theorem perform_agree {event : Event D} {left right : Repository D}
    (hleft : MapValid sha256 left.value event.now)
    (hright : MapValid sha256 right.value event.now)
    (hlock : left.poisoned = right.poisoned)
    (hagree : Agree event.ownerId left.value right.value) :
    (perform sha256 event left).1 = (perform sha256 event right).1 ∧
      Agree event.ownerId (perform sha256 event left).2.value
        (perform sha256 event right).2.value := by
  cases hcall : event.call with
  | create launch =>
      simp only [perform, hcall, create]
      cases hmanifest : validateManifest launch.manifest with
      | error e => exact ⟨rfl, hagree⟩
      | ok _ =>
          obtain ⟨hanswer, hafter⟩ := withWrite_agree hlock hagree .unavailable _
            (createLocked_agree hleft hright hagree event.now launch)
          exact ⟨by rw [hanswer], hafter⟩
  | claim launchId companionInstanceId companionVersion =>
      obtain ⟨hanswer, hafter⟩ := withWrite_agree hlock hagree .unavailable _
        (withStored_agree hagree launchId (claimStored sha256 event.now event.ownerId
          launchId companionInstanceId companionVersion))
      simp only [perform, hcall, claim]
      exact ⟨by rw [hanswer], hafter⟩
  | acknowledge launchId companionInstanceId ifMatch =>
      obtain ⟨hanswer, hafter⟩ := withWrite_agree hlock hagree .unavailable _
        (withStored_agree hagree launchId (acknowledgeStored sha256 event.now event.ownerId
          launchId companionInstanceId ifMatch))
      simp only [perform, hcall, acknowledge]
      exact ⟨by rw [hanswer], hafter⟩
  | purgeProject projectId =>
      have hbody : Agree event.ownerId
          (left.value.retain (survivesPurge event.ownerId projectId))
          (right.value.retain (survivesPurge event.ownerId projectId)) := by
        intro id
        rw [HashMap.lookup_retain, HashMap.lookup_retain, hagree id]
      obtain ⟨hanswer, hafter⟩ := withWrite_agree hlock hagree
        CalculatorLaunchError.unavailable (do
          Locked.write fun launches => launches.retain (survivesPurge event.ownerId projectId)
          return ()) ⟨rfl, hbody⟩
      simp only [perform, hcall, purgeProject]
      exact ⟨by rw [hanswer], hafter⟩

/-! ### The state machine -/

theorem perform_eq_of_err {event : Event D} {repository : Repository D}
    (hmap : MapValid sha256 repository.value event.now) {e : CalculatorLaunchError}
    (herr : (perform sha256 event repository).1 = .err e) :
    (perform sha256 event repository).2.value = repository.value := by
  have heffect := perform_effect hmap
  rw [herr] at heffect
  exact heffect.eq_of_err

/-- A create that answers with a new launch has stored it, ready. -/
theorem perform_created {event : Event D} {repository : Repository D}
    (hmap : MapValid sha256 repository.value event.now) {launch : NewCalculatorLaunch D}
    (hcall : event.call = .create launch) {document : CalculatorLaunchDocument D}
    (hcreated : (perform sha256 event repository).1 = .ok (.created ⟨document, true⟩)) :
    document.status = .ready ∧ document.manifest = some launch.manifest ∧
      document.sourceProjectId = some launch.sourceProjectId ∧
      (perform sha256 event repository).2.value.lookup (event.ownerId, launch.id) =
        some ⟨document, 1⟩ := by
  have heffect := perform_effect hmap
  rw [hcreated] at heffect
  generalize houtcome : Outcome.ok (Answer.created ⟨document, true⟩) = outcome at heffect
  generalize (perform sha256 event repository).2.value = after at heffect
  cases heffect with
  | inserted call absent =>
      rw [hcall] at call
      cases call
      cases houtcome
      exact ⟨rfl, rfl, rfl, AList.lookup_insert _⟩
  | claimed _ _ _ _ answer =>
      subst houtcome
      rcases answer with h | h <;> cases h
  | acknowledged _ _ _ _ _ answer =>
      subst houtcome
      rcases answer with h | h <;> cases h
  | _ => cases houtcome

/-- The launch repository as a state machine, in every state a run reaches. -/
theorem launch_state_machine {log : List (Entry D)} {repository : Repository D}
    {start clock : UtcDateTime}
    (run : Run sha256 emptyRepository start log repository clock) :
    (∀ key stored, repository.value.lookup key = some stored →
      validateDocument sha256 stored.document key.1 (some key.2) = .ok ()) ∧
    (∀ event : Event D, clock ≤ event.now →
      (∀ e, (perform sha256 event repository).1 = .err e →
        (perform sha256 event repository).2.value = repository.value) ∧
      (∀ key : LaunchKey, key.1 ≠ event.ownerId →
        (perform sha256 event repository).2.value.lookup key =
          repository.value.lookup key) ∧
      (∀ {log' : List (Entry D)} {other : Repository D} {start' clock' : UtcDateTime},
        Run sha256 emptyRepository start' log' other clock' → clock' ≤ event.now →
        repository.poisoned = other.poisoned →
        Agree event.ownerId repository.value other.value →
        (perform sha256 event repository).1 = (perform sha256 event other).1 ∧
          Agree event.ownerId (perform sha256 event repository).2.value
            (perform sha256 event other).2.value) ∧
      (∀ launch document, event.call = .create launch →
        (perform sha256 event repository).1 = .ok (.created ⟨document, true⟩) →
        ∀ {log' : List (Entry D)} {current : Repository D} {clock' : UtcDateTime},
        Run sha256 (perform sha256 event repository).2 event.now log' current clock' →
        (∀ entry ∈ log', ¬ entry.Purges event.ownerId (some launch.sourceProjectId)) →
        document.status = .ready ∧
        ∃ latest, current.value.lookup (event.ownerId, launch.id) = some latest ∧
          Progress document latest.document ∧
          ∀ entry ∈ log', ∀ claimed, entry.Claims (event.ownerId, launch.id) claimed →
            claimed.companionInstanceId = latest.document.companionInstanceId ∧
            claimed.manifest = some launch.manifest)) ∧
    (∀ key stored, repository.value.lookup key = some stored →
      ∀ {log' : List (Entry D)} {current : Repository D} {clock' : UtcDateTime},
        Run sha256 repository clock log' current clock' →
        (∀ entry ∈ log', ¬ entry.Purges key.1 stored.document.sourceProjectId) →
        ∃ latest, current.value.lookup key = some latest ∧
          Progress stored.document latest.document) ∧
    (∀ key stored, repository.value.lookup key = some stored →
      stored.document.status = .consumed →
      PayloadAbsent stored.document ∧
      ∀ {log' : List (Entry D)} {current : Repository D} {clock' : UtcDateTime},
        Run sha256 repository clock log' current clock' →
        current.value.lookup key = some stored ∧
          ∀ entry ∈ log', ∀ document, ¬ entry.Claims key document) := by
  have hmap := run.mapValid (MapValid.empty sha256 start)
  refine ⟨?_, ?_, ?_, ?_⟩
  · intro key stored hfound
    exact validateDocument_eq_ok_iff.mpr (hmap.document key stored hfound)
  · intro event hlater
    have hnow := hmap.later hlater
    refine ⟨fun e => perform_eq_of_err hnow, ?_, ?_, ?_⟩
    · intro key hne
      exact (perform_effect hnow).lookup_of_ne_owner hne
    · intro log' other start' clock' run' hlater' hlock hagree
      have hother := (run'.mapValid (MapValid.empty sha256 start')).later hlater'
      exact perform_agree hnow hother hlock hagree
    · intro launch document hcall hcreated log' current clock' run' hkept
      obtain ⟨hready, hmanifest, hproject, hstored⟩ := perform_created hnow hcall hcreated
      have hafter := (perform_effect hnow).mapValid hnow
      rw [← hproject] at hkept
      obtain ⟨latest, hlatest, hprogress, hclaims⟩ := run'.progress hafter hstored hkept
      refine ⟨hready, latest, hlatest, hprogress, ?_⟩
      intro entry hentry claimed hclaim
      obtain ⟨-, hcompanion, hsame⟩ := hclaims entry hentry claimed hclaim
      exact ⟨hcompanion, hsame.trans hmanifest⟩
  · intro key stored hfound log' current clock' run' hkept
    obtain ⟨latest, hlatest, hprogress, -⟩ := run'.progress hmap hfound hkept
    exact ⟨latest, hlatest, hprogress⟩
  · intro key stored hfound hconsumed
    exact ⟨hmap.payloadAbsent key stored hfound hconsumed,
      fun run' => run'.consumed hmap hfound hconsumed⟩

namespace LaunchWitness

theorem noon_inRange : Rfc3339.minNanos ≤ 63954705600000000000 ∧
    63954705600000000000 < Rfc3339.endNanos := by decide

/-- 2026-08-23T12:00:00Z. -/
def noon : UtcDateTime := ⟨63954705600000000000, noon_inRange⟩

def manifest : CalculatorManifest ℚ where
  schemaVersion := 2
  calculatorContractVersion := "2026-08-24"
  calculatorUrl := "https://azure.microsoft.com/en-us/pricing/calculator/"
  generatedAt := "2026-08-23T12:00:00Z"
  currency := "USD"
  locale := "en-US"
  estimateName := "Workload 1 EC2 SQL"
  items := [{
    itemKey := "001"
    displayName := "VM5"
    product := .azureSqlManagedInstance
    region := "eastus"
    deploymentModel := .singleInstance
    serviceTier := .nextGenerationGeneralPurpose
    hardwareFamily := .premiumSeries
    vcores := 8
    selectedMemoryGb := 64
    zoneRedundant := false
    quantity := 1
    hoursPerMonth := 730
    purchaseOption := .payg
    azureHybridBenefit := false
    dataStorageGb := 256
    backupStorageGb := 0
    expectedPublicAnnual := ⟨1000, 0, 500, 100, 1600⟩ }]

/-- Agrees with SHA-256 on the text of `manifest`. -/
def digest (_ : String) : String :=
  "3c6824f4b0bd472193c9f84704ede3581556d7b992f560ca68d40bac6d163547"

def launch : NewCalculatorLaunch ℚ where
  id := ⟨1⟩
  sourceProjectId := ⟨2⟩
  sourceProjectEtag := "\"project-1\""
  sourceFormulaVersion := "1.3.0"
  sourceAzureSnapshotId := "azure-snapshot"
  manifest := manifest

/-- The launch is created, claimed and acknowledged by its claimant. -/
def events : List (Event ℚ) := [
  ⟨noon, "owner", .create launch⟩,
  ⟨noon, "owner", .claim ⟨1⟩ ⟨3⟩ "1.0.0"⟩,
  ⟨noon, "owner", .acknowledge ⟨1⟩ ⟨3⟩ (launchEtag 2)⟩]

def finalRepository : Repository ℚ :=
  events.foldl (fun repository event => (perform digest event repository).2) emptyRepository

theorem run_events : ∃ log, Run digest emptyRepository noon log finalRepository noon :=
  ⟨_, (((Run.start.step ⟨noon, "owner", .create launch⟩ le_rfl).step
    ⟨noon, "owner", .claim ⟨1⟩ ⟨3⟩ "1.0.0"⟩ le_rfl).step
    ⟨noon, "owner", .acknowledge ⟨1⟩ ⟨3⟩ (launchEtag 2)⟩ le_rfl)⟩

end LaunchWitness

open LaunchWitness in
/-- The three calls leave one consumed launch, which the theorem covers. -/
theorem launch_state_machine_three_calls :
    ∃ stored, finalRepository.value.lookup ("owner", ⟨1⟩) = some stored ∧
      stored.document.status = .consumed ∧ PayloadAbsent stored.document := by
  obtain ⟨log, run⟩ := run_events
  have hstatus : (finalRepository.value.lookup ("owner", ⟨1⟩)).map (·.document.status) =
      some .consumed := by decide +kernel
  obtain ⟨stored, hfound, hconsumed⟩ := Option.map_eq_some_iff.mp hstatus
  exact ⟨stored, hfound, hconsumed,
    ((launch_state_machine run).2.2.2 _ stored hfound hconsumed).1⟩

end TcoCalculator.CalculatorLaunch
