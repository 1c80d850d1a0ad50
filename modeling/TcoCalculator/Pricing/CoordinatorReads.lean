/-
What a resolve reads after a refresh.  As long as memory only takes snapshots
no older than those it took before, prices never go back in time; a write back of
an older durable read makes them.
-/
import Mathlib.Data.String.Basic
import TcoCalculator.Domain.ExactDecimal
import TcoCalculator.Pricing.Coordinator

namespace TcoCalculator.PricingCoordinator

open SnapshotRepository PriceSnapshotKind ScopedSnapshotKind Transition PricingCache Rfc3339

variable {S : Type} [PriceSnapshotKind S] [ScopedSnapshotKind S] {scopeOf : String → PriceScope}

/-! ### Retrieval times -/

/-- A snapshot that was not retrieved after another, neither as an instant nor
in the order of the texts. -/
structure NotAfter (snapshot other : S) : Prop where
  text : (metadata snapshot).retrievedAt ≤ (metadata other).retrievedAt
  instant : ∃ nanos nanos', retrieved snapshot = some nanos ∧ retrieved other = some nanos' ∧
    nanos ≤ nanos'

omit [ScopedSnapshotKind S] in
theorem NotAfter.trans {first second third : S} (h : NotAfter first second)
    (h' : NotAfter second third) : NotAfter first third := by
  obtain ⟨nanos, middle, hfirst, hsecond, hle⟩ := h.instant
  obtain ⟨middle', nanos', hsecond', hthird, hle'⟩ := h'.instant
  obtain rfl : middle = middle' := Option.some.inj (hsecond.symm.trans hsecond')
  exact ⟨h.text.trans h'.text, nanos, nanos', hfirst, hthird, hle.trans hle'⟩

omit [ScopedSnapshotKind S] in
theorem NotAfter.refl {snapshot : S} {nanos : Int} (h : retrieved snapshot = some nanos) :
    NotAfter snapshot snapshot :=
  ⟨le_rfl, nanos, nanos, h, h, le_rfl⟩

@[simp] theorem retrieved_withStatus (snapshot : S) (status : ResolutionStatus) :
    retrieved (withStatus snapshot status) = retrieved snapshot := by
  rw [retrieved, retrieved, retrievedAt_withStatus]

@[simp] theorem named_withStatus (snapshot : S) (status : ResolutionStatus) :
    named scopeOf (withStatus snapshot status) = named scopeOf snapshot := by
  rw [named, named, retrieved_withStatus, snapshotId_withStatus, matchesScope_withStatus]

/-- The scope of a snapshot's identifier. -/
def idScope (scopeOf : String → PriceScope) (snapshot : S) : PriceScope :=
  scopeOf (metadata snapshot).snapshotId

omit [ScopedSnapshotKind S] in
@[simp] theorem idScope_withStatus (snapshot : S) (status : ResolutionStatus) :
    idScope scopeOf (withStatus snapshot status) = idScope scopeOf snapshot := by
  rw [idScope, idScope, snapshotId_withStatus]

theorem named_eq_true {snapshot : S} : named scopeOf snapshot = true ↔
    matchesScope snapshot (idScope scopeOf snapshot) = true ∧
      ∃ nanos, retrieved snapshot = some nanos := by
  rw [named, Bool.and_eq_true, Option.isSome_iff_exists, idScope]

theorem idScope_of_matches {snapshot : S} {scope : PriceScope}
    (hnamed : named scopeOf snapshot = true) (h : matchesScope snapshot scope = true) :
    idScope scopeOf snapshot = scope :=
  matchesScope_unique snapshot _ _ (named_eq_true.mp hnamed).1 h

/-- A recorded instant is no earlier than another one. -/
def AtLeast (floor : Option Int) (nanos : Int) : Prop := ∃ recorded, floor = some recorded ∧ nanos ≤ recorded

theorem atLeast_raise_self (floor : PriceScope → Option Int) (scope : PriceScope) (nanos : Int) :
    AtLeast (raise floor scope (some nanos) scope) nanos := by
  unfold raise
  rw [Function.update_self]
  cases floor scope with
  | none => exact ⟨nanos, rfl, le_rfl⟩
  | some old => exact ⟨max old nanos, rfl, le_max_right old nanos⟩

theorem AtLeast.raise {floor : PriceScope → Option Int} {scope : PriceScope} {nanos : Int}
    (h : AtLeast (floor scope) nanos) (other : PriceScope) (new : Option Int) :
    AtLeast (raise floor other new scope) nanos := by
  unfold PricingCoordinator.raise
  by_cases hscope : scope = other
  · subst hscope
    obtain ⟨recorded, hrecorded, hle⟩ := h
    rw [Function.update_self, hrecorded]
    cases new with
    | none => exact ⟨recorded, rfl, hle⟩
    | some nanos' => exact ⟨max recorded nanos', rfl, hle.trans (le_max_left recorded nanos')⟩
  · rwa [Function.update_of_ne hscope]

/-! ### Memory -/

omit [ScopedSnapshotKind S] in
theorem latest_eq_some {snapshots : List S} {found : S} (h : latest snapshots = some found) :
    found ∈ snapshots ∧
      ∀ snapshot ∈ snapshots, (metadata snapshot).retrievedAt ≤ (metadata found).retrievedAt := by
  induction snapshots generalizing found with
  | nil => cases h
  | cons snapshot rest ih =>
      unfold latest at h
      cases hrest : latest rest with
      | none =>
          rw [hrest] at h
          cases h
          have hnil : rest = [] := by
            cases rest with
            | nil => rfl
            | cons other others =>
                unfold latest at hrest
                split at hrest
                · split at hrest <;> cases hrest
                · cases hrest
          subst hnil
          simp
      | some other =>
          obtain ⟨hmem, hmax⟩ := ih hrest
          rw [hrest] at h
          simp only at h
          split at h
          · rename_i hle
            cases h
            refine ⟨List.mem_cons_of_mem _ hmem, ?_⟩
            intro candidate hcandidate
            obtain rfl | hcandidate := List.mem_cons.mp hcandidate
            · exact hle
            · exact hmax candidate hcandidate
          · rename_i hnot
            cases h
            refine ⟨List.mem_cons_self, ?_⟩
            intro candidate hcandidate
            obtain rfl | hcandidate := List.mem_cons.mp hcandidate
            · exact le_rfl
            · exact (hmax candidate hcandidate).trans (le_of_lt (not_le.mp hnot))

omit [ScopedSnapshotKind S] in
/-- How a lookup by identifier sees an insertion. -/
theorem lookup_put (instant : Int) (snapshot : S) (hot : HotSnapshots S) (key : String) :
    (put instant snapshot hot).entries.lookup key =
      if key = (metadata snapshot).snapshotId then some ⟨snapshot, instant⟩
      else if evictedId hot (metadata snapshot).snapshotId = some key then none
      else hot.entries.lookup key := by
  unfold put
  by_cases hkey : key = (metadata snapshot).snapshotId
  · subst hkey
    rw [if_pos rfl]
    exact AList.lookup_insert _
  · rw [if_neg hkey]
    refine (AList.lookup_insert_ne hkey).trans ?_
    cases hevicted : evictedId hot (metadata snapshot).snapshotId with
    | none => simp [evict]
    | some evicted =>
        by_cases hsame : evicted = key
        · subst hsame
          rw [if_pos rfl]
          exact AList.lookup_erase _ _
        · rw [if_neg (by simpa using hsame)]
          exact AList.lookup_erase_ne (Ne.symm hsame)

/-- The newest snapshot put for the scope of an entry was not retrieved before
it, and an entry of that time is in memory, inserted no earlier. -/
structure EntryValid (scopeOf : String → PriceScope) (newest : PriceScope → Option S)
    (hot : HotSnapshots S) (entry : HotSnapshot S) (last : S) (key : String)
    (kept : HotSnapshot S) : Prop where
  named : named scopeOf entry.snapshot = true
  newest : newest (idScope scopeOf entry.snapshot) = some last
  behind : NotAfter entry.snapshot last
  lookup : hot.entries.lookup key = some kept
  scope : scopeOf key = idScope scopeOf entry.snapshot
  text : (metadata kept.snapshot).retrievedAt = (metadata last).retrievedAt
  inserted : entry.insertedAt ≤ kept.insertedAt

/-- What is known of memory at a reading of the monotonic clock. -/
structure MemoryValid (scopeOf : String → PriceScope) (newest : PriceScope → Option S)
    (hot : HotSnapshots S) (instant : Int) : Prop where
  past : ∀ key entry, hot.entries.lookup key = some entry → entry.insertedAt ≤ instant
  entries : ∀ key entry, hot.entries.lookup key = some entry →
    ∃ last keptKey kept, EntryValid scopeOf newest hot entry last keptKey kept

/-- The snapshot is no older than those put for its scope before. -/
def NotOlder (scopeOf : String → PriceScope) (newest : PriceScope → Option S) (snapshot : S) :
    Prop :=
  ∀ last, newest (idScope scopeOf snapshot) = some last → NotAfter last snapshot

/-- The entry that makes way was inserted before the other entries of its scope. -/
def EvictsOldest (scopeOf : String → PriceScope) (hot : HotSnapshots S) (snapshotId : String) :
    Prop :=
  ∀ evicted entry, evictedId hot snapshotId = some evicted →
    hot.entries.lookup evicted = some entry →
    ∀ key other, key ≠ evicted → scopeOf key = scopeOf evicted →
      hot.entries.lookup key = some other → entry.insertedAt < other.insertedAt

/-- The newest snapshots after one more has been put. -/
def putNewest (scopeOf : String → PriceScope) (newest : PriceScope → Option S) (snapshot : S) :
    PriceScope → Option S :=
  Function.update newest (idScope scopeOf snapshot) (some snapshot)

theorem MemoryValid.put {newest : PriceScope → Option S} {hot : HotSnapshots S} {instant : Int}
    (h : MemoryValid scopeOf newest hot instant) {snapshot : S}
    (hnamed : PricingCoordinator.named scopeOf snapshot = true)
    (holder : NotOlder scopeOf newest snapshot)
    (hevicts : EvictsOldest scopeOf hot (metadata snapshot).snapshotId) :
    MemoryValid scopeOf (putNewest scopeOf newest snapshot)
      (SnapshotRepository.put instant snapshot hot) instant := by
  obtain ⟨-, nanos, hnanos⟩ := named_eq_true.mp hnamed
  have hself : (SnapshotRepository.put instant snapshot hot).entries.lookup
      (metadata snapshot).snapshotId = some ⟨snapshot, instant⟩ := by
    rw [lookup_put, if_pos rfl]
  constructor
  · intro key entry hentry
    rw [lookup_put] at hentry
    split_ifs at hentry
    · cases hentry
      exact le_rfl
    · exact h.past key entry hentry
  · intro key entry hentry
    rw [lookup_put] at hentry
    split_ifs at hentry with hkey hkeyEvicted
    · cases hentry
      refine ⟨snapshot, _, _, hnamed, ?_, .refl hnanos, hself, rfl, rfl, le_rfl⟩
      exact Function.update_self _ _ _
    · obtain ⟨last, keptKey, kept, hvalid⟩ := h.entries key entry hentry
      by_cases hscope : idScope scopeOf entry.snapshot = idScope scopeOf snapshot
      · -- The scope just written: the new entry takes over.
        have hlast : newest (idScope scopeOf snapshot) = some last := hscope ▸ hvalid.newest
        refine ⟨snapshot, _, _, hvalid.named, ?_, hvalid.behind.trans (holder last hlast), hself,
          hscope.symm, rfl, h.past key entry hentry⟩
        rw [putNewest, hscope, Function.update_self]
      · -- Another scope: its kept entry is neither overwritten nor evicted.
        have hkeptKey : keptKey ≠ (metadata snapshot).snapshotId := by
          rintro rfl
          exact hscope hvalid.scope.symm
        have hkeptStays : evictedId hot (metadata snapshot).snapshotId ≠ some keptKey := by
          intro hevicted
          have hne : key ≠ keptKey := fun hsame => hkeyEvicted (hsame ▸ hevicted)
          have hentryScope : scopeOf key = scopeOf keptKey := by
            rw [hvalid.scope, idScope, hot.keyed key entry hentry]
          have hlt := hevicts keptKey kept hevicted hvalid.lookup key entry hne hentryScope hentry
          exact absurd hvalid.inserted (not_le.mpr hlt)
        refine ⟨last, keptKey, kept, hvalid.named, ?_, hvalid.behind, ?_, hvalid.scope,
          hvalid.text, hvalid.inserted⟩
        · rw [putNewest, Function.update_of_ne hscope]
          exact hvalid.newest
        · rw [lookup_put, if_neg hkeptKey, if_neg hkeptStays]
          exact hvalid.lookup

theorem MemoryValid.tick {newest : PriceScope → Option S} {hot : HotSnapshots S}
    {instant later : Int} (h : MemoryValid scopeOf newest hot instant) (hle : instant ≤ later) :
    MemoryValid scopeOf newest hot later :=
  ⟨fun key entry hentry => (h.past key entry hentry).trans hle, h.entries⟩

/-! ### Lookups -/

theorem mem_inScope {scope : PriceScope} {entries : List ((_ : String) × HotSnapshot S)}
    {snapshot : S} : snapshot ∈ inScope scope entries ↔
      ∃ entry ∈ entries, entry.2.snapshot = snapshot ∧ matchesScope snapshot scope = true := by
  rw [inScope, List.mem_filter, List.mem_map]
  constructor
  · rintro ⟨⟨entry, hentry, rfl⟩, hmatches⟩
    exact ⟨entry, hentry, rfl, hmatches⟩
  · rintro ⟨entry, hentry, rfl, hmatches⟩
    exact ⟨⟨entry, hentry, rfl⟩, hmatches⟩

omit [ScopedSnapshotKind S] in
theorem lookup_of_mem {hot : HotSnapshots S} {entry : (_ : String) × HotSnapshot S}
    (h : entry ∈ hot.entries.entries) : hot.entries.lookup entry.1 = some entry.2 :=
  AList.mem_lookup_iff.mpr h

omit [ScopedSnapshotKind S] in
theorem mem_of_lookup {hot : HotSnapshots S} {key : String} {entry : HotSnapshot S}
    (h : hot.entries.lookup key = some entry) : ⟨key, entry⟩ ∈ hot.entries.entries :=
  AList.mem_lookup_iff.mp h

theorem retrieved_classify {snapshot classified : S} {now : UtcDateTime}
    (h : classify snapshot now = some classified) : retrieved classified = retrieved snapshot := by
  obtain ⟨status, -, rfl⟩ := Option.map_eq_some_iff.mp h
  exact retrieved_withStatus snapshot status

omit [ScopedSnapshotKind S] in
theorem retrieved_eq_of_text {snapshot other : S}
    (h : (metadata snapshot).retrievedAt = (metadata other).retrievedAt) :
    retrieved snapshot = retrieved other := by
  rw [retrieved, retrieved, h]

/-- Among entries that leave out only earlier insertions the latest one was
retrieved when the newest snapshot of the scope was. -/
theorem MemoryValid.latest_retrieved {newest : PriceScope → Option S} {hot : HotSnapshots S}
    {instant : Int} (h : MemoryValid scopeOf newest hot instant) {scope : PriceScope}
    {entries : List ((_ : String) × HotSnapshot S)} (hsub : entries ⊆ hot.entries.entries)
    (hupward : ∀ entry ∈ entries, ∀ other ∈ hot.entries.entries,
      entry.2.insertedAt ≤ other.2.insertedAt → other ∈ entries) {found : S}
    (hfound : latest (inScope scope entries) = some found) :
    ∃ last, newest scope = some last ∧ retrieved found = retrieved last := by
  obtain ⟨hmem, hmax⟩ := latest_eq_some hfound
  obtain ⟨entry, hentry, rfl, hmatches⟩ := mem_inScope.mp hmem
  obtain ⟨last, keptKey, kept, hvalid⟩ := h.entries _ _ (lookup_of_mem (hsub hentry))
  have hscope : idScope scopeOf entry.2.snapshot = scope :=
    idScope_of_matches hvalid.named hmatches
  have hkeptMem := mem_of_lookup hvalid.lookup
  have hkept := hupward entry hentry _ hkeptMem hvalid.inserted
  obtain ⟨_, _, _, hkeptValid⟩ := h.entries _ _ hvalid.lookup
  have hkeptScope : idScope scopeOf kept.snapshot = scope := by
    rw [idScope, hot.keyed keptKey kept hvalid.lookup, hvalid.scope, hscope]
  have hkeptMatches : matchesScope kept.snapshot scope = true :=
    hkeptScope ▸ (named_eq_true.mp hkeptValid.named).1
  have hle := hmax kept.snapshot (mem_inScope.mpr ⟨_, hkept, rfl, hkeptMatches⟩)
  refine ⟨last, hscope ▸ hvalid.newest, retrieved_eq_of_text (le_antisymm ?_ ?_)⟩
  · exact hvalid.behind.text
  · rwa [hvalid.text] at hle

theorem MemoryValid.find_retrieved {newest : PriceScope → Option S} {hot : HotSnapshots S}
    {instant : Int} (h : MemoryValid scopeOf newest hot instant) {now : UtcDateTime}
    {scope : PriceScope} {found : S} (hfound : find now scope hot = some found) :
    ∃ last, newest scope = some last ∧ retrieved found = retrieved last := by
  obtain ⟨snapshot, hlatest, hclassify⟩ := Option.bind_eq_some_iff.mp hfound
  rw [retrieved_classify hclassify]
  exact h.latest_retrieved (List.Subset.refl _) (fun _ _ _ hother _ => hother) hlatest

theorem MemoryValid.findHot_retrieved {newest : PriceScope → Option S} {hot : HotSnapshots S}
    {instant : Int} (h : MemoryValid scopeOf newest hot instant) {now : UtcDateTime}
    {reading : Int} {scope : PriceScope} {found : S}
    (hfound : findHot now reading scope hot = some found) :
    ∃ last, newest scope = some last ∧ retrieved found = retrieved last := by
  obtain ⟨snapshot, hlatest, hclassify⟩ := Option.bind_eq_some_iff.mp hfound
  rw [retrieved_classify hclassify]
  apply h.latest_retrieved (List.filter_subset_self _) _ hlatest
  intro entry hentry other hother hle
  simp only [List.mem_filter, decide_eq_true_eq] at hentry ⊢
  exact ⟨hother, by omega⟩

/-- An entry found by its identifier is not newer than its scope's newest. -/
theorem MemoryValid.get_retrieved {newest : PriceScope → Option S} {hot : HotSnapshots S}
    {instant : Int} (h : MemoryValid scopeOf newest hot instant) {snapshotId : String}
    {entry : HotSnapshot S} (hentry : hot.entries.lookup snapshotId = some entry) :
    ∃ last, newest (scopeOf snapshotId) = some last ∧ NotAfter entry.snapshot last := by
  obtain ⟨last, _, _, hvalid⟩ := h.entries _ _ hentry
  refine ⟨last, ?_, hvalid.behind⟩
  rw [← hot.keyed snapshotId entry hentry]
  exact hvalid.newest

/-! ### Calls -/

/-- The scope a call is about. -/
def Purpose.scope? (scopeOf : String → PriceScope) (purpose : Purpose) : Option PriceScope :=
  purpose.query.map fun query =>
    match query with
    | .scope scope => scope
    | .snapshotId snapshotId => scopeOf snapshotId

/-- What the call must not go behind. -/
def Purpose.since? : Purpose → Option Int
  | .resolve _ since => since
  | _ => none

/-- A snapshot as new as the given instant has been put for the scope. -/
def Seen (s : System S) (scope : PriceScope) (nanos : Int) : Prop :=
  ∃ last, s.newest scope = some last ∧ AtLeast (retrieved last) nanos

/-- A snapshot a call may return. -/
def Returnable (scopeOf : String → PriceScope) (s : System S) (purpose : Purpose)
    (snapshot : S) : Prop :=
  ∃ nanos, retrieved snapshot = some nanos ∧
    (∀ since, purpose.since? = some since → since ≤ nanos) ∧
    ∀ scope, purpose.scope? scopeOf = some scope → Seen s scope nanos

/-- A snapshot that has been served by the durable repository. -/
def Served (scopeOf : String → PriceScope) (s : System S) (snapshot : S) : Prop :=
  named scopeOf snapshot = true ∧ ∃ nanos, retrieved snapshot = some nanos ∧
    AtLeast (s.durable (idScope scopeOf snapshot)) nanos

/-- A served snapshot of a call's scope that the call may put and return. -/
def Held (scopeOf : String → PriceScope) (s : System S) (purpose : Purpose) (snapshot : S) :
    Prop :=
  Served scopeOf s snapshot ∧
    (∀ scope, purpose.scope? scopeOf = some scope → idScope scopeOf snapshot = scope) ∧
    ∀ since, purpose.since? = some since → AtLeast (retrieved snapshot) since

/-- What a call knows where it stands. -/
def StateValid (scopeOf : String → PriceScope) (s : System S) (purpose : Purpose) :
    CallState S → Prop
  | .lookupHot fallback | .readDurable fallback =>
      ∀ snapshot, fallback = some snapshot → Returnable scopeOf s purpose snapshot
  | .writeBack snapshot | .publish snapshot | .putMemory snapshot | .cacheShared snapshot =>
      Held scopeOf s purpose snapshot
  | .getBack snapshotId | .getShared snapshotId =>
      (∀ scope, purpose.scope? scopeOf = some scope → scopeOf snapshotId = scope) ∧
        ∀ entry, s.memory.entries.lookup snapshotId = some entry →
          ∀ since, purpose.since? = some since → AtLeast (retrieved entry.snapshot) since
  | .listPut snapshots => ∀ snapshot ∈ snapshots, Served scopeOf s snapshot
  | .done result => ∀ snapshot, result = .ok (some snapshot) →
      Returnable scopeOf s purpose snapshot
  | .lookup | .lookupLast | .load | .putDurable _ | .readShared _ | .listDurable | .listed => True

structure CallValid (scopeOf : String → PriceScope) (s : System S) (call : Call S) : Prop where
  since : ∀ scope since, call.purpose.scope? scopeOf = some scope →
    call.purpose.since? = some since → Seen s scope since
  state : StateValid scopeOf s call.purpose call.state

/-- What is known of the process. -/
structure System.Valid (scopeOf : String → PriceScope) (s : System S) : Prop where
  memory : MemoryValid scopeOf s.newest s.memory s.instant
  newest : ∀ scope last, s.newest scope = some last →
    ∃ nanos, retrieved last = some nanos ∧ AtLeast (s.durable scope) nanos
  returned : ∀ scope nanos, s.returned scope = some nanos → Seen s scope nanos
  calls : ∀ pid call, s.calls pid = some call → CallValid scopeOf s call

/-- Facts about an earlier state that stay true. -/
structure Later (scopeOf : String → PriceScope) (s s' : System S) : Prop where
  seen : ∀ scope nanos, Seen s scope nanos → Seen s' scope nanos
  durable : ∀ scope nanos, AtLeast (s.durable scope) nanos → AtLeast (s'.durable scope) nanos
  /-- An entry under an identifier is the old one or as new as what was seen. -/
  lookup : ∀ snapshotId entry', s'.memory.entries.lookup snapshotId = some entry' →
    s.memory.entries.lookup snapshotId = some entry' ∨
      ∀ nanos, Seen s (scopeOf snapshotId) nanos → AtLeast (retrieved entry'.snapshot) nanos

omit [ScopedSnapshotKind S] in
theorem Returnable.later {s s' : System S} (hlater : Later scopeOf s s')
    {purpose : Purpose} {snapshot : S} (h : Returnable scopeOf s purpose snapshot) :
    Returnable scopeOf s' purpose snapshot := by
  obtain ⟨nanos, hnanos, hsince, hseen⟩ := h
  exact ⟨nanos, hnanos, hsince, fun scope hscope => hlater.seen scope nanos (hseen scope hscope)⟩

theorem Served.later {s s' : System S} (hlater : Later scopeOf s s') {snapshot : S}
    (h : Served scopeOf s snapshot) : Served scopeOf s' snapshot := by
  obtain ⟨hnamed, nanos, hnanos, hfloor⟩ := h
  exact ⟨hnamed, nanos, hnanos, hlater.durable _ _ hfloor⟩

theorem Held.later {s s' : System S} (hlater : Later scopeOf s s') {purpose : Purpose}
    {snapshot : S} (h : Held scopeOf s purpose snapshot) : Held scopeOf s' purpose snapshot :=
  ⟨h.1.later hlater, h.2⟩

theorem scope_of_since {purpose : Purpose} {since : Int} (h : purpose.since? = some since) :
    ∃ scope, purpose.scope? scopeOf = some scope := by
  cases purpose with
  | resolve scope since => exact ⟨scope, rfl⟩
  | get | listLatest | refresh | refreshFailed => cases h

theorem CallValid.later {s s' : System S} (hlater : Later scopeOf s s') {call : Call S}
    (h : CallValid scopeOf s call) : CallValid scopeOf s' call := by
  refine ⟨fun scope since hscope hsince =>
    hlater.seen scope since (h.since scope since hscope hsince), ?_⟩
  have hstate := h.state
  have hentry : ∀ snapshotId, StateValid scopeOf s call.purpose (.getBack snapshotId) →
      StateValid scopeOf s' call.purpose (.getBack snapshotId) := by
    rintro snapshotId ⟨hscopeOf, hold⟩
    refine ⟨hscopeOf, fun entry' hentry' since hsince => ?_⟩
    obtain ⟨scope, hscope⟩ := scope_of_since hsince
    obtain hsame | hnew := hlater.lookup snapshotId entry' hentry'
    · exact hold entry' hsame since hsince
    · apply hnew
      rw [hscopeOf scope hscope]
      exact h.since scope since hscope hsince
  cases hcall : call.state with
  | lookup | lookupLast | load | putDurable | readShared | listDurable | listed => trivial
  | lookupHot fallback | readDurable fallback =>
      rw [hcall] at hstate
      exact fun snapshot hsnapshot => (hstate snapshot hsnapshot).later hlater
  | writeBack snapshot | publish snapshot | putMemory snapshot | cacheShared snapshot =>
      rw [hcall] at hstate
      exact Held.later hlater hstate
  | getBack snapshotId | getShared snapshotId =>
      rw [hcall] at hstate
      exact hentry snapshotId hstate
  | listPut snapshots =>
      rw [hcall] at hstate
      exact fun snapshot hsnapshot => (hstate snapshot hsnapshot).later hlater
  | done result =>
      rw [hcall] at hstate
      exact fun snapshot hsnapshot => (hstate snapshot hsnapshot).later hlater

/-! ### Looks into memory -/

section Looks

variable {s : System S}

omit [ScopedSnapshotKind S] in
theorem Seen.of_newest {scope : PriceScope} {last : S} {nanos : Int}
    (hlast : s.newest scope = some last) (hnanos : AtLeast (retrieved last) nanos) :
    Seen s scope nanos :=
  ⟨last, hlast, hnanos⟩

/-- What was retrieved when the newest snapshot of the scope was may be returned. -/
theorem returnable_of_newest (hvalid : s.Valid scopeOf) {call : Call S}
    (hcall : CallValid scopeOf s call) {scope : PriceScope}
    (hscope : call.purpose.scope? scopeOf = some scope) {found last : S}
    (hlast : s.newest scope = some last) (hsame : retrieved found = retrieved last) :
    Returnable scopeOf s call.purpose found := by
  obtain ⟨nanos, hnanos, -⟩ := hvalid.newest scope last hlast
  refine ⟨nanos, hsame.trans hnanos, ?_, ?_⟩
  · intro since hsince
    obtain ⟨other, hother, recorded, hrecorded, hle⟩ := hcall.since scope since hscope hsince
    obtain rfl : last = other := Option.some.inj (hlast.symm.trans hother)
    obtain rfl : nanos = recorded := Option.some.inj (hnanos.symm.trans hrecorded)
    exact hle
  · intro other hother
    obtain rfl : scope = other := Option.some.inj (hscope.symm.trans hother)
    exact .of_newest hlast ⟨nanos, hnanos, le_rfl⟩

/-- An entry as new as the call asks for may be returned. -/
theorem returnable_of_get (hvalid : s.Valid scopeOf) {purpose : Purpose} {now : UtcDateTime}
    {snapshotId : String} {found : S}
    (hstate : StateValid scopeOf s purpose (.getBack snapshotId))
    (hfound : SnapshotRepository.get now snapshotId s.memory = some found) :
    Returnable scopeOf s purpose found := by
  obtain ⟨entry, hentry, hclassify⟩ := Option.bind_eq_some_iff.mp hfound
  obtain ⟨last, hlast, hbehind⟩ := hvalid.memory.get_retrieved hentry
  obtain ⟨nanos, nanos', hnanos, hnanos', hle⟩ := hbehind.instant
  rw [← retrieved_classify hclassify] at hnanos
  refine ⟨nanos, hnanos, ?_, ?_⟩
  · intro since hsince
    obtain ⟨recorded, hrecorded, hsinceLe⟩ := hstate.2 entry hentry since hsince
    rw [← retrieved_classify hclassify, hnanos] at hrecorded
    cases hrecorded
    exact hsinceLe
  · intro scope hscope
    rw [← hstate.1 scope hscope]
    exact .of_newest hlast ⟨nanos', hnanos', hle⟩

/-- A lookup by identifier has no earlier answer to go behind. -/
theorem getBack_of_query {purpose : Purpose} {snapshotId : String}
    (hquery : purpose.query = some (.snapshotId snapshotId)) :
    StateValid scopeOf s purpose (.getBack snapshotId) := by
  cases purpose with
  | get other =>
      cases hquery
      refine ⟨fun scope hscope => ?_, fun _ _ since hsince => nomatch hsince⟩
      simpa [Purpose.scope?, Purpose.query] using hscope
  | resolve | listLatest | refresh | refreshFailed => cases hquery

theorem returnable_of_lookup (hvalid : s.Valid scopeOf) {call : Call S}
    (hcall : CallValid scopeOf s call) {query : Query} (hquery : call.purpose.query = some query)
    {now : UtcDateTime} {found : S} (hfound : lookup now s.memory query = some found) :
    Returnable scopeOf s call.purpose found := by
  cases query with
  | scope scope =>
      obtain ⟨last, hlast, hsame⟩ := hvalid.memory.find_retrieved hfound
      exact returnable_of_newest hvalid hcall (by rw [Purpose.scope?, hquery]; rfl) hlast hsame
  | snapshotId snapshotId =>
      exact returnable_of_get hvalid (getBack_of_query hquery) hfound

theorem returnable_of_lookupHot (hvalid : s.Valid scopeOf) {call : Call S}
    (hcall : CallValid scopeOf s call) {query : Query} (hquery : call.purpose.query = some query)
    {now : UtcDateTime} {instant : Int} {found : S}
    (hfound : lookupHot now instant s.memory query = some found) :
    Returnable scopeOf s call.purpose found := by
  cases query with
  | scope scope =>
      obtain ⟨last, hlast, hsame⟩ := hvalid.memory.findHot_retrieved hfound
      exact returnable_of_newest hvalid hcall (by rw [Purpose.scope?, hquery]; rfl) hlast hsame
  | snapshotId snapshotId =>
      obtain ⟨entry, hentry, hclassify⟩ := Option.bind_eq_some_iff.mp hfound
      have hlookup := (Option.filter_eq_some_iff.mp hentry).1
      have hget : SnapshotRepository.get now snapshotId s.memory = some found := by
        rw [SnapshotRepository.get, hlookup]
        exact hclassify
      exact returnable_of_get hvalid (getBack_of_query hquery) hget

theorem callValid_failRefresh (scope : PriceScope) (byRepository : Bool) :
    CallValid scopeOf s (failRefresh scope byRepository) :=
  ⟨fun _ _ _ hsince => (nomatch hsince), trivial⟩

theorem CallValid.look (hvalid : s.Valid scopeOf) {call call' : Call S}
    (h : CallValid scopeOf s call)
    (hlook : PricingCoordinator.look s.now s.instant s.memory call = some call') :
    CallValid scopeOf s call' := by
  obtain ⟨purpose, state⟩ := call
  have hstate := h.state
  unfold PricingCoordinator.look at hlook
  dsimp only at hlook hstate
  split at hlook
  · rename_i query hquery
    cases hlook
    exact ⟨h.since, fun snapshot hfound => returnable_of_lookup hvalid h hquery hfound⟩
  · rename_i query hquery
    split at hlook
    · rename_i snapshot hfound
      cases hlook
      refine ⟨h.since, ?_⟩
      rintro found ⟨⟩
      exact returnable_of_lookupHot hvalid h hquery hfound
    · cases hlook
      exact ⟨h.since, hstate⟩
  · cases hlook
    refine ⟨h.since, fun found hfound => ?_⟩
    exact returnable_of_get hvalid hstate (Except.ok.inj hfound)
  · rename_i query hquery
    cases hlook
    refine ⟨h.since, fun found hfound => ?_⟩
    exact returnable_of_lookup hvalid h hquery (Except.ok.inj hfound)
  · split at hlook
    · rename_i snapshot hfound
      cases hlook
      refine ⟨h.since, ?_⟩
      rintro found ⟨⟩
      exact returnable_of_get hvalid hstate hfound
    · cases hlook
      exact callValid_failRefresh _ true
  · cases hlook
    exact ⟨h.since, trivial⟩
  · cases hlook

end Looks

/-! ### Answers from outside -/

section Answers

variable {s : System S}

omit [ScopedSnapshotKind S] in
/-- What the durable repository serves or stores it never falls behind. -/
theorem atLeast_raiseDurable {durable : PriceScope → Option Int} {scope : PriceScope}
    {nanos : Int} (h : AtLeast (durable scope) nanos) (answer : Answer S) :
    AtLeast (raiseDurable scopeOf durable answer scope) nanos := by
  cases answer with
  | found snapshot =>
      cases snapshot with
      | none => exact h
      | some snapshot => exact h.raise _ _
  | stored snapshot leased => exact h.raise _ _
  | listed snapshots =>
      unfold raiseDurable
      induction snapshots generalizing durable with
      | nil => exact h
      | cons snapshot rest ih => exact ih (h.raise _ _)
  | failed | loaded | succeeded | providerFailed | published => exact h

omit [ScopedSnapshotKind S] in
theorem later_durable (scopeOf : String → PriceScope) (s : System S) (answer : Answer S) :
    Later scopeOf s { s with durable := raiseDurable scopeOf s.durable answer } :=
  ⟨fun _ _ h => h, fun _ _ h => atLeast_raiseDurable h answer, fun _ _ h => .inl h⟩

/-- A snapshot that has just been served or stored. -/
theorem served_of_raise {durable : PriceScope → Option Int} {snapshot : S}
    (hnamed : named scopeOf snapshot = true)
    (hdurable : s.durable = raise durable (idScope scopeOf snapshot) (retrieved snapshot)) :
    Served scopeOf s snapshot := by
  obtain ⟨-, nanos, hnanos⟩ := named_eq_true.mp hnamed
  refine ⟨hnamed, nanos, hnanos, ?_⟩
  rw [hdurable, hnanos]
  exact atLeast_raise_self durable _ nanos

theorem served_of_listed {snapshots : List S} (hnamed : snapshots.all (named scopeOf) = true)
    {durable : PriceScope → Option Int}
    (hdurable : s.durable = raiseDurable scopeOf durable (.listed snapshots)) :
    ∀ snapshot ∈ snapshots, Served scopeOf s snapshot := by
  rw [List.all_eq_true] at hnamed
  intro snapshot hsnapshot
  obtain ⟨-, nanos, hnanos⟩ := named_eq_true.mp (hnamed snapshot hsnapshot)
  refine ⟨hnamed snapshot hsnapshot, nanos, hnanos, ?_⟩
  rw [hdurable]
  clear hdurable hnamed
  induction snapshots generalizing durable with
  | nil => cases hsnapshot
  | cons head rest ih =>
      obtain rfl | hrest := List.mem_cons.mp hsnapshot
      · have hraised : AtLeast (raise durable (scopeOf (metadata snapshot).snapshotId)
            (retrieved snapshot) (idScope scopeOf snapshot)) nanos := by
          rw [hnanos]
          exact atLeast_raise_self durable _ nanos
        exact atLeast_raiseDurable hraised (.listed rest)
      · exact ih hrest

/-- What the durable repository finds for a scope is as new as what was seen. -/
theorem atLeast_of_current (hvalid : s.Valid scopeOf) {scope : PriceScope} {snapshot : S}
    (hcurrent : current s.durable scope snapshot = true) {since : Int}
    (hseen : Seen s scope since) : AtLeast (retrieved snapshot) since := by
  obtain ⟨last, hlast, recorded, hrecorded, hle⟩ := hseen
  obtain ⟨nanos, hnanos, floor, hfloor, hnanosLe⟩ := hvalid.newest scope last hlast
  obtain rfl : nanos = recorded := Option.some.inj (hnanos.symm.trans hrecorded)
  rw [current, hfloor, Option.all_some, Option.any_eq_true] at hcurrent
  obtain ⟨found, hfound, hfloorLe⟩ := hcurrent
  exact ⟨found, hfound, hle.trans (hnanosLe.trans (by simpa using hfloorLe))⟩

/-- A durable lookup's answer may be put and returned. -/
theorem held_of_found (hvalid : s.Valid scopeOf) {purpose : Purpose} {fallback : Option S}
    {snapshot : S} (h : CallValid scopeOf s ⟨purpose, .readDurable fallback⟩)
    (hallowed : answerAllowed scopeOf s.durable ⟨purpose, .readDurable fallback⟩
      (.found (some snapshot)) = true) :
    Held scopeOf { s with durable := raiseDurable scopeOf s.durable (.found (some snapshot)) }
      purpose snapshot := by
  rw [answerAllowed, Bool.and_eq_true] at hallowed
  obtain ⟨hnamed, hanswers⟩ := hallowed
  refine ⟨served_of_raise hnamed rfl, ?_, ?_⟩
  · intro scope hscope
    obtain ⟨query, hquery, rfl⟩ := Option.map_eq_some_iff.mp hscope
    rw [hquery] at hanswers
    cases query with
    | scope scope =>
        simp only [Bool.and_eq_true] at hanswers
        exact idScope_of_matches hnamed hanswers.1
    | snapshotId snapshotId => exact congrArg scopeOf (by simpa using hanswers)
  · intro since hsince
    cases purpose with
    | resolve scope other =>
        simp only [Purpose.query, Bool.and_eq_true] at hanswers
        exact atLeast_of_current hvalid hanswers.2 (h.since scope since rfl hsince)
    | get | listLatest | refresh | refreshFailed => cases hsince

/-- A refresh's own snapshot, or one another owner has stored. -/
theorem held_of_refresh {durable : PriceScope → Option Int} {scope : PriceScope} {snapshot : S}
    (hnamed : named scopeOf snapshot = true) (hmatches : matchesScope snapshot scope = true)
    (hdurable : s.durable = raise durable (idScope scopeOf snapshot) (retrieved snapshot)) :
    Held scopeOf s (.refresh scope) snapshot := by
  refine ⟨served_of_raise hnamed hdurable, ?_, fun _ hsince => nomatch hsince⟩
  rintro other ⟨⟩
  exact idScope_of_matches hnamed hmatches

theorem callValid_readFailed {purpose : Purpose} {fallback : Option S}
    (h : CallValid scopeOf s ⟨purpose, .readDurable fallback⟩)
    (error : SnapshotRepositoryError) :
    CallValid scopeOf s ⟨purpose, readFailed purpose fallback error⟩ := by
  refine ⟨h.since, ?_⟩
  dsimp only
  unfold readFailed
  split
  · exact fun snapshot hsnapshot => h.state snapshot (Except.ok.inj hsnapshot)
  · split
    · trivial
    · exact fun snapshot hsnapshot => nomatch hsnapshot

theorem CallValid.receive (hvalid : s.Valid scopeOf) {call call' : Call S}
    (h : CallValid scopeOf s call) {answer : Answer S}
    (hallowed : answerAllowed scopeOf s.durable call answer = true)
    (hreceive : PricingCoordinator.receive call answer = some call') :
    CallValid scopeOf { s with durable := raiseDurable scopeOf s.durable answer } call' := by
  have hlater := later_durable scopeOf s answer
  have hrefresh : ∀ scope, ∀ other since, (Purpose.refresh scope).scope? scopeOf = some other →
      (Purpose.refresh scope).since? = some since →
      Seen { s with durable := raiseDurable scopeOf s.durable answer } other since :=
    fun _ _ _ _ hsince => nomatch hsince
  obtain ⟨purpose, state⟩ := call
  have hcall := h.later hlater
  have hstate := hcall.state
  unfold PricingCoordinator.receive at hreceive
  dsimp only at hreceive hstate
  split at hreceive
  · cases hreceive
    exact ⟨hcall.since, held_of_found hvalid h hallowed⟩
  · cases hreceive
    exact ⟨hcall.since, fun snapshot hsnapshot => hstate snapshot (Except.ok.inj hsnapshot)⟩
  · cases hreceive
    exact callValid_readFailed hcall _
  · cases hreceive
    exact ⟨hrefresh _, trivial⟩
  · cases hreceive
    exact ⟨hrefresh _, trivial⟩
  · cases hreceive
    exact callValid_failRefresh _ false
  · cases hreceive
    exact callValid_failRefresh _ true
  · rename_i scope _ snapshot leased
    cases hreceive
    simp only [answerAllowed, Bool.and_eq_true] at hallowed
    refine ⟨hrefresh _, ?_⟩
    cases leased with
    | false => exact held_of_refresh hallowed.1 hallowed.2 rfl
    | true => exact held_of_refresh hallowed.1 hallowed.2 rfl
  · cases hreceive
    exact callValid_failRefresh _ true
  · cases hreceive
    exact ⟨hrefresh _, hstate⟩
  · cases hreceive
    exact callValid_failRefresh _ true
  · split at hreceive
    · rename_i hmatches
      cases hreceive
      simp only [answerAllowed, Bool.and_eq_true] at hallowed
      exact ⟨hrefresh _, held_of_refresh hallowed.1 hmatches rfl⟩
    · cases hreceive
      exact callValid_failRefresh _ true
  · cases hreceive
    exact callValid_failRefresh _ true
  · cases hreceive
    exact callValid_failRefresh _ false
  · cases hreceive
    exact callValid_failRefresh _ true
  · cases hreceive
    exact ⟨hcall.since, served_of_listed hallowed rfl⟩
  · cases hreceive
    exact ⟨hcall.since, trivial⟩
  · cases hreceive

end Answers

/-! ### Writes into memory -/

section Writes

variable {s : System S}

/-- What is about to be put has been served, and the call may return it. -/
theorem CallValid.pendingPut {call : Call S} (h : CallValid scopeOf s call) {snapshot : S}
    (hpending : PricingCoordinator.pendingPut call.state = some snapshot) :
    Served scopeOf s snapshot := by
  have hcached : ∀ stored : S, Served scopeOf s stored →
      Served scopeOf s (withStatus stored .cached) := by
    rintro stored ⟨hnamed, nanos, hnanos, hfloor⟩
    exact ⟨by rwa [named_withStatus], nanos, by rwa [retrieved_withStatus],
      by rwa [idScope_withStatus]⟩
  have hstate := h.state
  cases hcall : call.state with
  | writeBack stored =>
      rw [hcall] at hstate hpending
      cases hpending
      exact hcached stored hstate.1
  | putMemory stored =>
      rw [hcall] at hstate hpending
      cases hpending
      exact hstate.1
  | cacheShared stored =>
      rw [hcall] at hstate hpending
      cases hpending
      exact hcached stored hstate.1
  | listPut snapshots =>
      rw [hcall] at hstate hpending
      cases snapshots with
      | nil => cases hpending
      | cons stored rest =>
          cases hpending
          exact hcached stored (hstate stored List.mem_cons_self)
  | _ =>
      rw [hcall] at hpending
      cases hpending

/-- A snapshot no older than those before it takes nothing back. -/
theorem later_putMemory {snapshot : S} (hserved : Served scopeOf s snapshot)
    (holder : NotOlder scopeOf s.newest snapshot) :
    Later scopeOf s (s.putMemory scopeOf snapshot) := by
  obtain ⟨-, nanos, hnanos, -⟩ := hserved
  have hseen : ∀ other, Seen s (idScope scopeOf snapshot) other →
      AtLeast (retrieved snapshot) other := by
    rintro other ⟨last, hlast, recorded, hrecorded, hle⟩
    obtain ⟨before, after, hbefore, hafter, hbeforeLe⟩ := (holder last hlast).instant
    obtain rfl : recorded = before := Option.some.inj (hrecorded.symm.trans hbefore)
    exact ⟨after, hafter, hle.trans hbeforeLe⟩
  refine ⟨?_, fun _ _ h => h, ?_⟩
  · intro scope other h
    by_cases hscope : scope = idScope scopeOf snapshot
    · subst hscope
      exact ⟨snapshot, Function.update_self _ _ _, hseen other h⟩
    · obtain ⟨last, hlast, hother⟩ := h
      exact ⟨last, (Function.update_of_ne hscope _ _).trans hlast, hother⟩
  · intro snapshotId entry' hentry'
    change (SnapshotRepository.put s.instant snapshot s.memory).entries.lookup snapshotId =
      some entry' at hentry'
    rw [lookup_put] at hentry'
    split_ifs at hentry' with hkey
    · cases hentry'
      subst hkey
      exact .inr fun other h => hseen other h
    · exact .inl hentry'

theorem CallValid.afterPut {call : Call S} (h : CallValid scopeOf s call) {snapshot : S}
    (hpending : PricingCoordinator.pendingPut call.state = some snapshot)
    (holder : NotOlder scopeOf s.newest snapshot) :
    CallValid scopeOf (s.putMemory scopeOf snapshot)
      ⟨call.purpose, PricingCoordinator.afterPut call.state⟩ := by
  have hserved := h.pendingPut hpending
  have hlater := later_putMemory hserved holder
  have hcall := h.later hlater
  have hself : (SnapshotRepository.put s.instant snapshot s.memory).entries.lookup
      (metadata snapshot).snapshotId = some ⟨snapshot, s.instant⟩ := by
    rw [lookup_put, if_pos rfl]
  refine ⟨hcall.since, ?_⟩
  have hback : ∀ stored : S, Held scopeOf s call.purpose stored →
      snapshot = withStatus stored .cached →
      StateValid scopeOf (s.putMemory scopeOf snapshot) call.purpose
        (.getBack (metadata stored).snapshotId) := by
    rintro stored ⟨-, hscope, hsince⟩ rfl
    refine ⟨hscope, fun entry hentry since hsome => ?_⟩
    rw [snapshotId_withStatus] at hself
    obtain rfl := Option.some.inj (hself.symm.trans hentry)
    rw [retrieved_withStatus]
    exact hsince since hsome
  have hstate := h.state
  cases hstep : call.state with
  | writeBack stored =>
      rw [hstep] at hstate hpending
      exact hback stored hstate (Option.some.inj hpending).symm
  | putMemory stored =>
      rw [hstep] at hstate hpending
      cases hpending
      rintro found ⟨⟩
      obtain ⟨⟨-, nanos, hnanos, -⟩, hscope, hsince⟩ := hstate
      refine ⟨nanos, hnanos, fun since hsome => ?_, fun scope hsome => ?_⟩
      · obtain ⟨recorded, hrecorded, hle⟩ := hsince since hsome
        cases hnanos.symm.trans hrecorded
        exact hle
      · rw [← hscope scope hsome]
        exact ⟨snapshot, Function.update_self _ _ _, nanos, hnanos, le_rfl⟩
  | cacheShared stored =>
      rw [hstep] at hstate hpending
      exact hback stored hstate (Option.some.inj hpending).symm
  | listPut snapshots =>
      rw [hstep] at hstate hpending
      cases snapshots with
      | nil => cases hpending
      | cons stored rest =>
          exact fun other hother =>
            (hstate other (List.mem_cons_of_mem stored hother)).later hlater
  | _ =>
      rw [hstep] at hpending
      cases hpending

end Writes

/-! ### Runs -/

/-- A put keeps the newest prices of each scope in memory. -/
def KeepsNewest (scopeOf : String → PriceScope) (s : System S) : Action S → Prop
  | .put pid => ∀ call snapshot, s.calls pid = some call →
      pendingPut call.state = some snapshot →
      NotOlder scopeOf s.newest snapshot ∧
        EvictsOldest scopeOf s.memory (metadata snapshot).snapshotId
  | _ => True

theorem valid_initial (now : UtcDateTime) (instant : Int) :
    (initial now instant : System S).Valid scopeOf :=
  ⟨⟨fun _ _ h => (nomatch h), fun _ _ h => (nomatch h)⟩, fun _ _ h => (nomatch h),
    fun _ _ h => (nomatch h), fun _ _ h => (nomatch h)⟩

omit [ScopedSnapshotKind S] in
theorem seen_raise {s : System S} {scope : PriceScope} {nanos : Int}
    (h : ∀ scope nanos, s.returned scope = some nanos → Seen s scope nanos)
    (hnew : Seen s scope nanos) (other : PriceScope) (found : Int)
    (hfound : raise s.returned scope (some nanos) other = some found) : Seen s other found := by
  unfold raise at hfound
  by_cases hscope : other = scope
  · subst hscope
    rw [Function.update_self] at hfound
    cases hold : s.returned other with
    | none =>
        rw [hold] at hfound
        cases hfound
        exact hnew
    | some old =>
        rw [hold] at hfound
        cases hfound
        obtain hle | hle := le_total old nanos
        · rwa [max_eq_right hle]
        · rw [max_eq_left hle]
          exact h other old hold
  · rw [Function.update_of_ne hscope] at hfound
    exact h other found hfound

omit [ScopedSnapshotKind S] in
theorem raiseReturned_cases (scopeOf : String → PriceScope) (returned : PriceScope → Option Int) (call : Call S) :
    raiseReturned returned call = returned ∨ ∃ scope snapshot,
      call.purpose.scope? scopeOf = some scope ∧ call.state = .done (.ok (some snapshot)) ∧
        raiseReturned returned call = raise returned scope (retrieved snapshot) := by
  obtain ⟨purpose, state⟩ := call
  unfold raiseReturned
  split
  · rename_i scope snapshot hpurpose hdone
    exact .inr ⟨scope, snapshot, by rw [hpurpose]; rfl, hdone, rfl⟩
  · rename_i scope byRepository snapshot hpurpose hdone
    exact .inr ⟨scope, snapshot, by rw [hpurpose]; rfl, hdone, rfl⟩
  · exact .inl rfl

/-- What a finished refresh has returned has been seen. -/
theorem seen_raiseReturned {s : System S}
    (h : ∀ scope nanos, s.returned scope = some nanos → Seen s scope nanos) {call : Call S}
    (hcall : CallValid scopeOf s call) (scope : PriceScope) (nanos : Int)
    (hnanos : raiseReturned s.returned call scope = some nanos) : Seen s scope nanos := by
  obtain hsame | ⟨refreshed, snapshot, hscope, hdone, hraise⟩ :=
    raiseReturned_cases scopeOf s.returned call
  · rw [hsame] at hnanos
    exact h scope nanos hnanos
  · have hstate := hcall.state
    rw [hdone] at hstate
    obtain ⟨found, hfound, -, hseen⟩ := hstate snapshot rfl
    rw [hraise, hfound] at hnanos
    exact seen_raise h (hseen refreshed hscope) scope nanos hnanos

omit [ScopedSnapshotKind S] in
theorem later_setCall (scopeOf : String → PriceScope) (s : System S) (pid : Nat) (call : Call S) :
    Later scopeOf s (s.setCall pid call) :=
  ⟨fun _ _ h => h, fun _ _ h => h, fun _ _ h => .inl h⟩

theorem System.Valid.setCall {s : System S} (h : s.Valid scopeOf) {pid : Nat} {call : Call S}
    (hcall : CallValid scopeOf s call) : (s.setCall pid call).Valid scopeOf := by
  have hlater := later_setCall scopeOf s pid call
  refine ⟨h.memory, h.newest, fun scope nanos hnanos =>
    hlater.seen scope nanos (seen_raiseReturned h.returned hcall scope nanos hnanos), ?_⟩
  intro other found hfound
  by_cases hother : other = pid
  · subst hother
    obtain rfl : call = found := by simpa [System.setCall] using hfound
    exact hcall.later hlater
  · have hold : s.calls other = some found := by simpa [System.setCall, hother] using hfound
    exact (h.calls other found hold).later hlater

theorem callValid_start {s : System S} (h : s.Valid scopeOf) (request : Request) :
    CallValid scopeOf s (start s.returned request) := by
  cases request with
  | resolve scope =>
      refine ⟨?_, trivial⟩
      rintro other since ⟨⟩ hsince
      exact h.returned scope since hsince
  | get snapshotId => exact ⟨fun _ _ _ hsince => (nomatch hsince), trivial⟩
  | listLatest => exact ⟨fun _ _ _ hsince => (nomatch hsince), trivial⟩
  | refresh scope configured =>
      cases configured with
      | false => exact callValid_failRefresh scope false
      | true => exact ⟨fun _ _ _ hsince => (nomatch hsince), trivial⟩

theorem System.Valid.answer {s : System S} (h : s.Valid scopeOf) (answer : Answer S) :
    System.Valid scopeOf { s with durable := raiseDurable scopeOf s.durable answer } := by
  have hlater := later_durable scopeOf s answer
  refine ⟨h.memory, fun scope last hlast => ?_, fun scope nanos hnanos =>
    hlater.seen scope nanos (h.returned scope nanos hnanos), fun pid call hcall =>
    (h.calls pid call hcall).later hlater⟩
  obtain ⟨nanos, hnanos, hfloor⟩ := h.newest scope last hlast
  exact ⟨nanos, hnanos, hlater.durable scope nanos hfloor⟩

theorem System.Valid.putMemory {s : System S} (h : s.Valid scopeOf) {snapshot : S}
    (hserved : Served scopeOf s snapshot) (holder : NotOlder scopeOf s.newest snapshot)
    (hevicts : EvictsOldest scopeOf s.memory (metadata snapshot).snapshotId) :
    (s.putMemory scopeOf snapshot).Valid scopeOf := by
  have hlater := later_putMemory hserved holder
  refine ⟨h.memory.put hserved.1 holder hevicts, fun scope last hlast => ?_,
    fun scope nanos hnanos => hlater.seen scope nanos (h.returned scope nanos hnanos),
    fun pid call hcall => (h.calls pid call hcall).later hlater⟩
  by_cases hscope : scope = idScope scopeOf snapshot
  · subst hscope
    have hself : (s.putMemory scopeOf snapshot).newest (idScope scopeOf snapshot) =
        some snapshot := Function.update_self _ _ _
    obtain rfl : snapshot = last := Option.some.inj (hself.symm.trans hlast)
    exact hserved.2
  · have hother : (s.putMemory scopeOf snapshot).newest scope = s.newest scope :=
      Function.update_of_ne hscope _ _
    exact h.newest scope last (hother.symm.trans hlast)

theorem valid_step {s s' : System S} {action : Action S} (h : s.Valid scopeOf)
    (hkeeps : KeepsNewest scopeOf s action) (hstep : step scopeOf s action = some s') :
    s'.Valid scopeOf := by
  cases action with
  | tick now instant =>
      simp only [step] at hstep
      split at hstep
      · rename_i hle
        cases hstep
        have hlater : Later scopeOf s { s with now := now, instant := instant } :=
          ⟨fun _ _ h => h, fun _ _ h => h, fun _ _ h => .inl h⟩
        exact ⟨h.memory.tick hle, h.newest, h.returned, fun pid call hcall =>
          (h.calls pid call hcall).later hlater⟩
      · cases hstep
  | begin pid request =>
      simp only [step] at hstep
      split at hstep
      · cases hstep
        exact h.setCall (callValid_start h request)
      · cases hstep
  | look pid =>
      obtain ⟨call, hcall, hrest⟩ := Option.bind_eq_some_iff.mp hstep
      obtain ⟨call', hlook, hdone⟩ := Option.bind_eq_some_iff.mp hrest
      cases hdone
      exact h.setCall ((h.calls pid call hcall).look h hlook)
  | put pid =>
      obtain ⟨call, hcall, hput⟩ := Option.bind_eq_some_iff.mp hstep
      obtain ⟨snapshot, hpending, hdone⟩ := Option.bind_eq_some_iff.mp hput
      cases hdone
      obtain ⟨holder, hevicts⟩ := hkeeps call snapshot hcall hpending
      have hvalid := h.calls pid call hcall
      have hnext := h.putMemory (hvalid.pendingPut hpending) holder hevicts
      exact hnext.setCall (hvalid.afterPut hpending holder)
  | answer pid answer =>
      obtain ⟨call, hcall, hanswer⟩ := Option.bind_eq_some_iff.mp hstep
      split at hanswer
      · rename_i hallowed
        obtain ⟨call', hreceive, hdone⟩ := Option.bind_eq_some_iff.mp hanswer
        cases hdone
        exact (h.answer answer).setCall ((h.calls pid call hcall).receive h hallowed hreceive)
      · cases hanswer

theorem valid_of_reachable {now : UtcDateTime} {instant : Int} {s : System S}
    (reached : ReachableWhen (step scopeOf) (KeepsNewest scopeOf) (initial now instant) s) :
    s.Valid scopeOf :=
  reached.invariant (valid_initial now instant) fun _ _ _ => valid_step

/-- A resolve that has returned nothing retrieved before what a refresh of its
scope had returned when it began. -/
def NeverBack (s : System S) : Prop :=
  ∀ pid scope since snapshot,
    s.calls pid = some ⟨.resolve scope (some since), .done (.ok (some snapshot))⟩ →
    AtLeast (retrieved snapshot) since

/-- Prices never go back in time for a reader, in every run whose writes into
memory bring nothing older than what was put for the scope before. -/
theorem resolve_never_goes_back {now : UtcDateTime} {instant : Int} {s : System S}
    (reached : ReachableWhen (step scopeOf) (KeepsNewest scopeOf) (initial now instant) s) :
    NeverBack s := by
  intro pid scope since snapshot hcall
  obtain ⟨nanos, hnanos, hsince, -⟩ :=
    ((valid_of_reachable reached).calls pid _ hcall).state snapshot rfl
  exact ⟨nanos, hnanos, hsince since rfl⟩

/-! ### Two runs -/

namespace ReadWitness

theorem noon_inRange : Rfc3339.minNanos ≤ 63953582400000000000 ∧
    63953582400000000000 < Rfc3339.endNanos := by decide

/-- 2026-08-10T12:00:00Z. -/
def noon : UtcDateTime := ⟨63953582400000000000, noon_inRange⟩

def scope : PriceScope := ("EUR", "eu-west-1")

def snapshot (retrievedAt : String) : AwsPriceSnapshot ℚ where
  metadata := ⟨"aws-1", .aws, .fresh, retrievedAt, none, "EUR", [], "1", "1", []⟩
  sourceRegion := "eu-west-1"
  ec2Rates := []
  rdsRates := []
  ebsRates := []

/-- The same prices, retrieved twice. -/
def eight : AwsPriceSnapshot ℚ := snapshot "2026-08-10T08:00:00Z"
def nine : AwsPriceSnapshot ℚ := snapshot "2026-08-10T09:00:00Z"

/-- A refresh up to the write into memory. -/
def refreshLoaded : List (Action (AwsPriceSnapshot ℚ)) :=
  [.begin 1 (.refresh scope true), .answer 1 (.loaded nine), .answer 1 (.stored nine false)]

def resolveAfter : List (Action (AwsPriceSnapshot ℚ)) :=
  [.begin 2 (.resolve scope), .look 2, .look 2]

/-- A resolve reads the durable snapshot of eight o'clock and writes it back
after a refresh has returned the one of nine. -/
def staleWriteBack : List (Action (AwsPriceSnapshot ℚ)) :=
  [.begin 0 (.resolve scope), .look 0, .look 0, .answer 0 (.found (some eight))] ++
    refreshLoaded ++ [.put 1, .put 0] ++ resolveAfter

def run (actions : List (Action (AwsPriceSnapshot ℚ))) : Option (System (AwsPriceSnapshot ℚ)) :=
  runActions (step fun _ => scope) (initial noon 0) actions

/-- The resolve began after a refresh had returned, and its answer is older. -/
def wentBack (s : System (AwsPriceSnapshot ℚ)) : Bool :=
  match s.calls 2 with
  | some ⟨.resolve _ (some since), .done (.ok (some found))⟩ =>
      (retrieved found).any fun nanos => nanos < since
  | _ => false

theorem wentBack_staleWriteBack : (run staleWriteBack).any wentBack = true := by
  decide +kernel

theorem not_neverBack {s : System (AwsPriceSnapshot ℚ)} (h : wentBack s = true) :
    ¬ NeverBack s := by
  intro hnever
  unfold wentBack at h
  split at h
  · rename_i scope since found hcall
    obtain ⟨nanos, hnanos, hlt⟩ := (Option.any_eq_true _ _).mp h
    obtain ⟨recorded, hrecorded, hle⟩ := hnever 2 scope since found hcall
    rw [hnanos] at hrecorded
    cases hrecorded
    exact absurd hle (not_le.mpr (by simpa using hlt))
  · cases h

end ReadWitness

open ReadWitness in
/-- A write back of an older durable read takes the place of the newer prices:
the next resolve goes back in time. -/
theorem stale_write_back_goes_back :
    ∃ s : System (AwsPriceSnapshot ℚ),
      Reachable (step fun _ => scope) (initial noon 0) s ∧ ¬ NeverBack s := by
  obtain ⟨s, hrun, hback⟩ := (Option.any_eq_true _ _).mp wentBack_staleWriteBack
  exact ⟨s, reachable_of_runActions .init hrun, not_neverBack hback⟩

open ReadWitness in
/-- Without the stale write back the resolve finds what the refresh returned. -/
theorem resolve_never_goes_back_refreshed :
    ∃ s : System (AwsPriceSnapshot ℚ),
      (∃ since found, s.calls 2 =
        some ⟨.resolve scope (some since), .done (.ok (some found))⟩) ∧ NeverBack s := by
  have hrun : (run refreshLoaded).any (fun s =>
      (s.newest scope).isNone && s.memory.entries.entries.isEmpty &&
        (runActions (step fun _ => scope) s ([.put 1] ++ resolveAfter)).any fun s =>
          match s.calls 2 with
          | some ⟨.resolve other (some _), .done (.ok (some _))⟩ => other == scope
          | _ => false) = true := by
    decide +kernel
  obtain ⟨loaded, hloaded, hrest⟩ := (Option.any_eq_true _ _).mp hrun
  simp only [Bool.and_eq_true, Option.isNone_iff_eq_none, List.isEmpty_iff] at hrest
  obtain ⟨⟨hnewest, hempty⟩, hrest⟩ := hrest
  obtain ⟨s, hs, hdone⟩ := (Option.any_eq_true _ _).mp hrest
  rw [runActions_append, runActions_singleton] at hs
  obtain ⟨stored, hput, hresolve⟩ := Option.bind_eq_some_iff.mp hs
  have hguard : KeepsNewest (fun _ => scope) loaded (.put 1) := by
    intro call snapshot _ _
    refine ⟨fun last hlast => ?_, fun evicted entry _ hentry => ?_⟩
    · rw [idScope, hnewest] at hlast
      cases hlast
    · have hmem := mem_of_lookup hentry
      rw [hempty] at hmem
      cases hmem
  have hreached : ReachableWhen (step fun _ => scope) (KeepsNewest fun _ => scope)
      (initial noon 0) loaded := by
    apply reachableWhen_of_runActions .init _ hloaded
    simp [refreshLoaded, KeepsNewest]
  have hdoneReached := reachableWhen_of_runActions (hreached.step hguard hput)
    (by simp [resolveAfter, KeepsNewest]) hresolve
  refine ⟨s, ?_, resolve_never_goes_back hdoneReached⟩
  split at hdone
  · rename_i other since found hcall
    rw [eq_of_beq hdone] at hcall
    exact ⟨since, found, hcall⟩
  · cases hdone

end TcoCalculator.PricingCoordinator
