/-
An owner has one active calculator launch at a time: ready or claimed, and not
yet past the end of its claim window.
-/
import TcoCalculator.Persistence.CalculatorLaunchRun

namespace TcoCalculator.CalculatorLaunch

open Rfc3339

variable {D : Type} {sha256 : String → String}

/-- The launch is ready or claimed and its claim window ends after the instant. -/
def CalculatorLaunchDocument.ActiveAt (document : CalculatorLaunchDocument D)
    (now : UtcDateTime) : Prop :=
  (document.status = .ready ∨ document.status = .claimed) ∧
    ∃ expires, parse document.claimExpiresAt = some expires ∧ now.nanos < expires.nanos

theorem isExpired_eq_false {document : CalculatorLaunchDocument D} {now : UtcDateTime} :
    isExpired document now = .ok false ↔
      ∃ expires, parse document.claimExpiresAt = some expires ∧ now.nanos < expires.nanos := by
  unfold isExpired
  constructor
  · intro h
    obtain ⟨expires, hparse, hvalue⟩ := Fallible.bind_eq_ok.mp h
    refine ⟨expires, parseTimestamp_eq_ok.mp hparse, ?_⟩
    simpa [pure, Except.pure] using hvalue
  · rintro ⟨expires, hparse, hlt⟩
    rw [parseTimestamp_eq_ok.mpr hparse]
    simp [hlt]

theorem CalculatorLaunchDocument.ActiveAt.earlier {document : CalculatorLaunchDocument D}
    {now later : UtcDateTime} (h : document.ActiveAt later) (hle : now ≤ later) :
    document.ActiveAt now := by
  obtain ⟨hstatus, expires, hparse, hlt⟩ := h
  rw [UtcDateTime.le_def] at hle
  exact ⟨hstatus, expires, hparse, hle.trans_lt hlt⟩

theorem hasActive_of_activeAt {launches : LaunchMap D} {key : LaunchKey}
    {stored : StoredLaunch D} {now : UtcDateTime} (hfound : launches.lookup key = some stored)
    (h : stored.document.ActiveAt now) : HasActive launches key.1 now :=
  ⟨key.2, stored, hfound, h.1, isExpired_eq_false.mpr h.2⟩

variable [DecimalArith D]

/-! ### Calls that the expiry refuses -/

/-- A create that finds an active launch leaves the map alone. -/
theorem createLocked_of_active {launches : LaunchMap D} {now : UtcDateTime} {ownerId : String}
    (hactive : hasActiveLaunch ownerId now launches.values = .ok true)
    (launch : NewCalculatorLaunch D) :
    (createLocked sha256 now ownerId launch launches).2 = launches := by
  cases hfound : launches.lookup (ownerId, launch.id) with
  | none => simp [createLocked, hfound, hactive]
  | some stored =>
      by_cases hsame : sameBinding sha256 stored.document launch = true ∧
          stored.document.status = .ready
      · cases hexpired : ensureNotExpired stored.document now with
        | error e => simp [createLocked, hfound, hsame, hexpired]
        | ok _ => simp [createLocked, hfound, hsame, hexpired]
      · simp only [createLocked, Locked.read_bind, hfound, if_neg hsame]
        rfl

/-- A claim of an expired launch leaves it alone. -/
theorem claimStored_of_expired {stored : StoredLaunch D} {ownerId : String} {launchId : Uuid}
    {now : UtcDateTime} (hvalid : DocumentValid sha256 stored.document ownerId launchId)
    (hexpired : isExpired stored.document now = .ok true) (companionInstanceId : Uuid)
    (companionVersion : String) :
    claimStored sha256 now ownerId launchId companionInstanceId companionVersion stored =
      (.err .expired, stored) := by
  have hcheck := validateDocument_eq_ok_iff.mpr hvalid
  have hrefused : ensureNotExpired stored.document now = .error .expired := by
    simp [ensureNotExpired, hexpired]
  unfold claimStored
  simp only [Locked.read_bind, hcheck, Locked.check_ok_bind, hrefused,
    Locked.check_error_bind]

theorem perform_create_of_active {event : Event D} {repository : Repository D}
    (hmap : MapValid sha256 repository.value event.now) {launch : NewCalculatorLaunch D}
    (hcall : event.call = .create launch)
    (hactive : HasActive repository.value event.ownerId event.now) :
    (perform sha256 event repository).2.value = repository.value := by
  obtain ⟨active, hscan, hiff⟩ := hmap.hasActiveLaunch_eq event.ownerId event.now
  rw [hiff.mpr hactive] at hscan
  simp only [perform, hcall, create]
  split
  · rfl
  · cases hpoisoned : repository.poisoned with
    | true => rw [RwLock.withWrite_poisoned hpoisoned]
    | false =>
        rw [RwLock.withWrite_value hpoisoned]
        exact createLocked_of_active hscan launch

theorem perform_claim_of_expired {event : Event D} {repository : Repository D}
    (hmap : MapValid sha256 repository.value event.now)
    {launchId companionInstanceId : Uuid} {companionVersion : String}
    (hcall : event.call = .claim launchId companionInstanceId companionVersion)
    {stored : StoredLaunch D}
    (hfound : repository.value.lookup (event.ownerId, launchId) = some stored)
    (hexpired : isExpired stored.document event.now = .ok true) :
    (perform sha256 event repository).2.value = repository.value := by
  simp only [perform, hcall, claim]
  cases hpoisoned : repository.poisoned with
  | true => rw [RwLock.withWrite_poisoned hpoisoned]
  | false =>
      rw [RwLock.withWrite_value hpoisoned, withStored_some hfound,
        claimStored_of_expired (hmap.document _ stored hfound) hexpired]
      exact HashMap.replace_eq_self hfound

/-! ### One call -/

/-- A launch active after a call was active before it, or the call created it
while its owner had none. -/
theorem active_of_perform {event : Event D} {repository : Repository D}
    (hmap : MapValid sha256 repository.value event.now) {key : LaunchKey}
    {stored : StoredLaunch D}
    (hfound : (perform sha256 event repository).2.value.lookup key = some stored)
    (hactive : stored.document.ActiveAt event.now) :
    (∃ before, repository.value.lookup key = some before ∧
      before.document.ActiveAt event.now) ∨
    ∃ launch, event.call = .create launch ∧ key = (event.ownerId, launch.id) ∧
      ¬ HasActive repository.value event.ownerId event.now := by
  have heffect := perform_effect hmap
  generalize (perform sha256 event repository).1 = outcome at heffect
  generalize hafter : (perform sha256 event repository).2.value = after at heffect hfound
  cases heffect with
  | @inserted launch _ _ call absent =>
      by_cases hkey : key = (event.ownerId, launch.id)
      · refine .inr ⟨launch, call, hkey, ?_⟩
        intro hbusy
        rw [perform_create_of_active hmap call hbusy] at hafter
        rw [hafter, AList.lookup_insert] at absent
        cases absent
      · rw [AList.lookup_insert_ne hkey] at hfound
        exact .inl ⟨stored, hfound, hactive⟩
  | @claimed launchId _ _ current _ _ _ _ _ _ call found ready valid =>
      by_cases hkey : key = (event.ownerId, launchId)
      · subst hkey
        refine .inl ⟨current, found, .inl ready, isExpired_eq_false.mp ?_⟩
        obtain ⟨expired, hexpired⟩ := exists_isExpired (hmap.document _ current found) event.now
        cases expired with
        | false => exact hexpired
        | true =>
            rw [perform_claim_of_expired hmap call found hexpired] at hafter
            have hsame := congrArg (AList.lookup (event.ownerId, launchId)) hafter
            rw [HashMap.lookup_replace _ _ (HashMap.mem_of_lookup found), found] at hsame
            rw [Option.some.inj hsame] at ready
            cases ready
      · rw [HashMap.lookup_replace_ne _ _ hkey] at hfound
        exact .inl ⟨stored, hfound, hactive⟩
  | @acknowledged launchId _ _ current _ _ _ _ _ _ call found =>
      by_cases hkey : key = (event.ownerId, launchId)
      · subst hkey
        rw [HashMap.lookup_replace _ _ (HashMap.mem_of_lookup found)] at hfound
        cases hfound
        rcases hactive.1 with hstatus | hstatus <;> cases hstatus
      · rw [HashMap.lookup_replace_ne _ _ hkey] at hfound
        exact .inl ⟨stored, hfound, hactive⟩
  | purged =>
      rw [HashMap.lookup_retain] at hfound
      exact .inl ⟨stored, (Option.filter_eq_some_iff.mp hfound).1, hactive⟩
  | _ => exact .inl ⟨stored, hfound, hactive⟩

/-! ### Runs -/

/-- No owner has two active launches at the instant. -/
def OneActive (launches : LaunchMap D) (now : UtcDateTime) : Prop :=
  ∀ ownerId id id' stored stored',
    launches.lookup (ownerId, id) = some stored → stored.document.ActiveAt now →
    launches.lookup (ownerId, id') = some stored' → stored'.document.ActiveAt now → id = id'

omit [DecimalArith D] in
theorem OneActive.later {launches : LaunchMap D} {now later : UtcDateTime}
    (h : OneActive launches now) (hle : now ≤ later) : OneActive launches later := by
  intro ownerId id id' stored stored' hfound hactive hfound' hactive'
  exact h ownerId id id' stored stored' hfound (hactive.earlier hle) hfound'
    (hactive'.earlier hle)

theorem OneActive.perform {event : Event D} {repository : Repository D}
    (h : OneActive repository.value event.now)
    (hmap : MapValid sha256 repository.value event.now) :
    OneActive (perform sha256 event repository).2.value event.now := by
  intro ownerId id id' stored stored' hfound hactive hfound' hactive'
  rcases active_of_perform hmap hfound hactive with
    ⟨before, hbefore, hlive⟩ | ⟨launch, hcall, hkey, hnone⟩
  · rcases active_of_perform hmap hfound' hactive' with
      ⟨before', hbefore', hlive'⟩ | ⟨launch', hcall', hkey', hnone'⟩
    · exact h ownerId id id' before before' hbefore hlive hbefore' hlive'
    · obtain ⟨rfl, -⟩ := Prod.mk.inj hkey'
      exact absurd (hasActive_of_activeAt hbefore hlive) hnone'
  · rcases active_of_perform hmap hfound' hactive' with
      ⟨before', hbefore', hlive'⟩ | ⟨launch', hcall', hkey', hnone'⟩
    · obtain ⟨rfl, -⟩ := Prod.mk.inj hkey
      exact absurd (hasActive_of_activeAt hbefore' hlive') hnone
    · rw [hcall] at hcall'
      cases hcall'
      rw [(Prod.mk.inj hkey).2, (Prod.mk.inj hkey').2]

theorem Run.oneActive {repository current : Repository D} {clock reading : UtcDateTime}
    {log : List (Entry D)} (run : Run sha256 repository clock log current reading)
    (hmap : MapValid sha256 repository.value clock)
    (hone : OneActive repository.value clock) : OneActive current.value reading := by
  induction run with
  | start => exact hone
  | step run event later ih => exact (ih.later later).perform ((run.mapValid hmap).later later)

/-- In every state a run from the empty repository reaches, and at every time
from its last call on, an owner has at most one launch that is ready or
claimed and whose claim window is still open. -/
theorem at_most_one_active_launch {current : Repository D} {clock reading now : UtcDateTime}
    {log : List (Entry D)} (run : Run sha256 emptyRepository clock log current reading)
    (later : reading ≤ now) (ownerId : String) {id id' : Uuid} {stored stored' : StoredLaunch D}
    (hfound : current.value.lookup (ownerId, id) = some stored)
    (hactive : stored.document.ActiveAt now)
    (hfound' : current.value.lookup (ownerId, id') = some stored')
    (hactive' : stored'.document.ActiveAt now) : id = id' := by
  have hempty : OneActive (emptyRepository : Repository D).value clock := by
    intro _ _ _ _ _ hnone
    cases hnone
  exact (run.oneActive (MapValid.empty sha256 clock) hempty).later later ownerId id id'
    stored stored' hfound hactive hfound' hactive'

namespace ActiveWitness

open LaunchWitness

/-- Ten minutes after noon, when the launch of noon has expired. -/
def laterNoon : UtcDateTime := ⟨63954706200000000000, by decide⟩

def secondLaunch : NewCalculatorLaunch ℚ := { launch with id := ⟨4⟩ }

def firstEvent : Event ℚ := ⟨noon, "owner", .create launch⟩

def secondEvent : Event ℚ := ⟨laterNoon, "owner", .create secondLaunch⟩

/-- The repository after both creates. -/
def repository : Repository ℚ :=
  (perform digest secondEvent (perform digest firstEvent emptyRepository).2).2

end ActiveWitness

open ActiveWitness LaunchWitness in
/-- Of the two launches only the second is active. -/
theorem at_most_one_active_launch_second :
    repository.value.entries.length = 2 ∧
      ∀ id stored, repository.value.lookup ("owner", id) = some stored →
        stored.document.ActiveAt laterNoon → id = ⟨4⟩ := by
  refine ⟨by decide +kernel, ?_⟩
  intro id stored hfound hactive
  have hsecond : (repository.value.lookup ("owner", ⟨4⟩)).map (fun stored =>
      (stored.document.status, (isExpired stored.document laterNoon).toOption)) =
      some (.ready, some false) := by decide +kernel
  obtain ⟨second, hlookup, hfields⟩ := Option.map_eq_some_iff.mp hsecond
  obtain ⟨hready, hopen⟩ := Prod.mk.inj hfields
  have hunexpired : isExpired second.document laterNoon = .ok false := by
    cases hcheck : isExpired second.document laterNoon with
    | error e => rw [hcheck] at hopen; cases hopen
    | ok expired => rw [hcheck] at hopen; cases hopen; rfl
  have run : Run digest emptyRepository noon _ repository laterNoon :=
    (Run.start.step firstEvent le_rfl).step secondEvent (by decide)
  exact at_most_one_active_launch run le_rfl "owner" hfound hactive hlookup
    ⟨.inl hready, isExpired_eq_false.mp hunexpired⟩

end TcoCalculator.CalculatorLaunch
