/-
Which of the snapshots in memory is the latest.  The lookups compare the texts
of the retrieval times, the durable repository the instants.
-/
import Mathlib.Data.List.MinMax
import Mathlib.Data.Prod.Lex
import TcoCalculator.Domain.Decimal96
import TcoCalculator.Library.OrderedMap
import TcoCalculator.Library.Rfc3339Order
import TcoCalculator.Persistence.SnapshotWrite
import TcoCalculator.Pricing.CoordinatorReads

namespace TcoCalculator.SnapshotRepository

open PriceSnapshotKind ScopedSnapshotKind PricingCoordinator Rfc3339 PricingCache

section Latest

variable {S : Type} [PriceSnapshotKind S] [ScopedSnapshotKind S]

/-- The snapshots of a scope in memory. -/
def stored (memory : HotSnapshots S) (scope : PriceScope) : List S :=
  inScope scope memory.entries.entries

omit [ScopedSnapshotKind S] in
/-- The retrieval time is one the constructors accept. -/
def StatesRetrieval (snapshot : S) : Prop :=
  (parse (metadata snapshot).retrievedAt).any ParsedDateTime.isUtc = true

omit [ScopedSnapshotKind S] in
instance (snapshot : S) : Decidable (StatesRetrieval snapshot) :=
  inferInstanceAs (Decidable (_ = true))

omit [ScopedSnapshotKind S] in
theorem StatesRetrieval.parsed {snapshot : S} (h : StatesRetrieval snapshot) :
    ∃ parsed, parse (metadata snapshot).retrievedAt = some parsed ∧ parsed.isUtc = true :=
  (Option.any_eq_true _ _).mp h

omit [ScopedSnapshotKind S] in
/-- The snapshots in memory, of all scopes. -/
def snapshots (memory : HotSnapshots S) : List S :=
  memory.entries.values.map HotSnapshot.snapshot

theorem mem_snapshots_of_stored {memory : HotSnapshots S} {scope : PriceScope} {snapshot : S}
    (h : snapshot ∈ stored memory scope) : snapshot ∈ snapshots memory := by
  have hmem := (List.mem_filter.mp h).1
  rwa [snapshots, HashMap.values, List.map_map]

/-- No snapshot of the scope was retrieved later, and the durable repository
would not take one of them for later either. -/
structure IsLatest (memory : HotSnapshots S) (scope : PriceScope) (snapshot : S) : Prop where
  mem : snapshot ∈ stored memory scope
  greatest : ∀ other ∈ stored memory scope, ∃ nanos nanos',
    retrieved other = some nanos ∧ retrieved snapshot = some nanos' ∧ nanos ≤ nanos'
  durable : ∀ other ∈ stored memory scope,
    SnapshotWrite.retrievedLater (metadata other).retrievedAt (metadata snapshot).retrievedAt =
      .ok false

/-- At any time the lookup of a scope answers with a latest snapshot of it, if
that one is usable. -/
def FindsLatest (memory : HotSnapshots S) : Prop :=
  ∀ now scope, if stored memory scope = [] then find now scope memory = none
    else ∃ snapshot, IsLatest memory scope snapshot ∧
      find now scope memory = classify snapshot now

/-- For each snapshot that is not a latest one of its scope a latest one is not
spelt before it. -/
def SpeltInOrder (memory : HotSnapshots S) : Prop :=
  ∀ scope, ∀ snapshot ∈ stored memory scope, ¬ IsLatest memory scope snapshot →
    ∃ last, IsLatest memory scope last ∧
      ¬ SpeltAfter (metadata snapshot).retrievedAt (metadata last).retrievedAt

/-! ### Instants -/

omit [ScopedSnapshotKind S] in
theorem StatesRetrieval.retrieved {snapshot : S} (h : StatesRetrieval snapshot) :
    ∃ nanos, PricingCoordinator.retrieved snapshot = some nanos := by
  obtain ⟨parsed, hparsed, -⟩ := h.parsed
  exact ⟨parsed.nanos, by rw [PricingCoordinator.retrieved, hparsed, Option.map_some]⟩

omit [ScopedSnapshotKind S] in
theorem retrievedLater_eq {snapshot other : S} (h : StatesRetrieval snapshot)
    (h' : StatesRetrieval other) {nanos nanos' : Int} (hnanos : retrieved snapshot = some nanos)
    (hnanos' : retrieved other = some nanos') :
    SnapshotWrite.retrievedLater (metadata snapshot).retrievedAt (metadata other).retrievedAt =
      .ok (decide (nanos' < nanos)) := by
  obtain ⟨parsed, hparsed, hutc⟩ := h.parsed
  obtain ⟨parsed', hparsed', hutc'⟩ := h'.parsed
  rw [retrieved, hparsed, Option.map_some] at hnanos
  rw [retrieved, hparsed', Option.map_some] at hnanos'
  cases hnanos
  cases hnanos'
  simp [SnapshotWrite.retrievedLater, SnapshotWrite.parseUtcTimestamp, hparsed, hparsed', hutc,
    hutc', bind, Except.bind, pure, Except.pure]

omit [ScopedSnapshotKind S] in
/-- Texts out of order, for a snapshot retrieved later than another. -/
theorem text_lt_iff {snapshot other : S} (h : StatesRetrieval snapshot)
    (h' : StatesRetrieval other) {nanos nanos' : Int} (hnanos : retrieved snapshot = some nanos)
    (hnanos' : retrieved other = some nanos') (hlt : nanos < nanos') :
    (metadata other).retrievedAt < (metadata snapshot).retrievedAt ↔
      SpeltAfter (metadata snapshot).retrievedAt (metadata other).retrievedAt := by
  obtain ⟨parsed, hparsed, hutc⟩ := h.parsed
  obtain ⟨parsed', hparsed', hutc'⟩ := h'.parsed
  rw [retrieved, hparsed, Option.map_some] at hnanos
  rw [retrieved, hparsed', Option.map_some] at hnanos'
  cases hnanos
  cases hnanos'
  exact text_lt_iff_speltAfter hparsed hutc hparsed' hutc' hlt

omit [ScopedSnapshotKind S] in
/-- The instant of a retrieval is a time the process can be at. -/
theorem exists_now {snapshot : S} (h : StatesRetrieval snapshot) {nanos : Int}
    (hnanos : retrieved snapshot = some nanos) : ∃ now : UtcDateTime, now.nanos = nanos := by
  obtain ⟨parsed, hparsed, hutc⟩ := h.parsed
  obtain ⟨spelling, -, hspells⟩ := exists_spelling hparsed hutc
  rw [retrieved, hparsed, Option.map_some] at hnanos
  cases hnanos
  exact ⟨⟨parsed.nanos, hspells.inRange⟩, rfl⟩

omit [ScopedSnapshotKind S] in
theorem classify_at_retrieval {snapshot : S} {now : UtcDateTime}
    (h : retrieved snapshot = some now.nanos) : classify snapshot now ≠ none := by
  obtain ⟨parsed, hparsed, hnanos⟩ := Option.map_eq_some_iff.mp h
  have hfresh : ¬ freshMaxAge < 0 := by decide
  have husable : ¬ usableMaxAge < 0 := by decide
  simp only [classify, effectiveStatus, hparsed, hnanos, sub_self, lt_irrefl, false_or, husable,
    if_false, hfresh]
  split <;> simp

omit [ScopedSnapshotKind S] in
theorem classify_before_retrieval {snapshot : S} {now : UtcDateTime} {nanos : Int}
    (h : retrieved snapshot = some nanos) (hlt : now.nanos < nanos) :
    classify snapshot now = none := by
  obtain ⟨parsed, hparsed, rfl⟩ := Option.map_eq_some_iff.mp h
  have hage : now.nanos - parsed.nanos < 0 := by omega
  simp [classify, effectiveStatus, hparsed, hage]

/-! ### Lookups of a scope -/

omit [ScopedSnapshotKind S] in
theorem latest_eq_none {snapshots : List S} : latest snapshots = none ↔ snapshots = [] := by
  cases snapshots with
  | nil => simp [latest]
  | cons snapshot rest =>
      rw [latest]
      cases latest rest with
      | none => simp
      | some other =>
          simp only
          split <;> simp

variable {memory : HotSnapshots S} {scope : PriceScope}

theorem IsLatest.of_greatest (haccepted : ∀ other ∈ stored memory scope, StatesRetrieval other)
    {snapshot : S} (hmem : snapshot ∈ stored memory scope) {nanos : Int}
    (hnanos : retrieved snapshot = some nanos) (hgreatest : ∀ other ∈ stored memory scope,
      ∀ nanos', retrieved other = some nanos' → nanos' ≤ nanos) :
    IsLatest memory scope snapshot := by
  refine ⟨hmem, fun other hother => ?_, fun other hother => ?_⟩
  · obtain ⟨nanos', hnanos'⟩ := (haccepted other hother).retrieved
    exact ⟨nanos', nanos, hnanos', hnanos, hgreatest other hother nanos' hnanos'⟩
  · obtain ⟨nanos', hnanos'⟩ := (haccepted other hother).retrieved
    rw [retrievedLater_eq (haccepted other hother) (haccepted snapshot hmem) hnanos' hnanos,
      decide_eq_false (not_lt.mpr (hgreatest other hother nanos' hnanos'))]

/-- A snapshot that is not a latest one was retrieved before each latest one. -/
theorem IsLatest.retrieved_lt (haccepted : ∀ other ∈ stored memory scope, StatesRetrieval other)
    {snapshot last : S} (hlast : IsLatest memory scope last)
    (hmem : snapshot ∈ stored memory scope) (hnot : ¬ IsLatest memory scope snapshot) :
    ∃ nanos nanos', retrieved snapshot = some nanos ∧ retrieved last = some nanos' ∧
      nanos < nanos' := by
  obtain ⟨nanos, nanos', hnanos, hnanos', hle⟩ := hlast.greatest snapshot hmem
  refine ⟨nanos, nanos', hnanos, hnanos', lt_of_le_of_ne hle ?_⟩
  rintro rfl
  refine hnot (.of_greatest haccepted hmem hnanos fun other hother nanos' hother' => ?_)
  obtain ⟨nanos₁, nanos₂, h₁, h₂, hle'⟩ := hlast.greatest other hother
  rw [hother'] at h₁
  rw [hnanos'] at h₂
  cases h₁
  cases h₂
  exact hle'

theorem exists_isLatest (haccepted : ∀ other ∈ stored memory scope, StatesRetrieval other)
    (hne : stored memory scope ≠ []) : ∃ last, IsLatest memory scope last := by
  let instant : S → Int := fun snapshot => (retrieved snapshot).getD 0
  have hsome : (stored memory scope).argmax instant ≠ none :=
    fun hnone => hne (List.argmax_eq_none.mp hnone)
  obtain ⟨last, hlast⟩ := Option.ne_none_iff_exists'.mp hsome
  have hmem := List.argmax_mem hlast
  obtain ⟨nanos, hnanos⟩ := (haccepted last hmem).retrieved
  refine ⟨last, .of_greatest haccepted hmem hnanos fun other hother nanos' hnanos' => ?_⟩
  have hle := List.le_of_mem_argmax hother hlast
  simpa [instant, hnanos, hnanos'] using hle

/-- What the lookup of a scope picks: a snapshot whose text is greatest. -/
theorem find_eq (hne : stored memory scope ≠ []) :
    ∃ picked ∈ stored memory scope,
      (∀ other ∈ stored memory scope,
        (metadata other).retrievedAt ≤ (metadata picked).retrievedAt) ∧
      ∀ now, find now scope memory = classify picked now := by
  have hsome : latest (stored memory scope) ≠ none :=
    fun hnone => hne (latest_eq_none.mp hnone)
  obtain ⟨picked, hpicked⟩ := Option.ne_none_iff_exists'.mp hsome
  obtain ⟨hmem, hgreatest⟩ := latest_eq_some hpicked
  refine ⟨picked, hmem, hgreatest, fun now => ?_⟩
  change (latest (stored memory scope)).bind _ = _
  rw [hpicked, Option.bind_some]

theorem find_of_empty (now : UtcDateTime) (h : stored memory scope = []) :
    find now scope memory = none := by
  change (latest (stored memory scope)).bind _ = _
  rw [h]
  rfl

/-- A snapshot whose text is greatest is a latest one, where the spelling keeps
the order. -/
theorem SpeltInOrder.isLatest (hspelt : SpeltInOrder memory)
    (haccepted : ∀ other ∈ stored memory scope, StatesRetrieval other) {picked : S}
    (hmem : picked ∈ stored memory scope) (hgreatest : ∀ other ∈ stored memory scope,
      (metadata other).retrievedAt ≤ (metadata picked).retrievedAt) :
    IsLatest memory scope picked := by
  by_contra hnot
  obtain ⟨last, hlast, hspelling⟩ := hspelt scope picked hmem hnot
  obtain ⟨nanos, nanos', hnanos, hnanos', hlt⟩ := hlast.retrieved_lt haccepted hmem hnot
  rw [← text_lt_iff (haccepted picked hmem) (haccepted last hlast.mem) hnanos hnanos' hlt]
    at hspelling
  have htext := le_antisymm (hgreatest last hlast.mem) (not_lt.mp hspelling)
  rw [retrieved_eq_of_text htext, hnanos] at hnanos'
  cases hnanos'
  exact absurd hlt (lt_irrefl nanos)

theorem SpeltInOrder.findsLatest (hspelt : SpeltInOrder memory)
    (haccepted : ∀ scope, ∀ other ∈ stored memory scope, StatesRetrieval other) :
    FindsLatest memory := by
  intro now scope
  split_ifs with hempty
  · exact find_of_empty now hempty
  · obtain ⟨picked, hmem, hgreatest, hfind⟩ := find_eq hempty
    exact ⟨picked, hspelt.isLatest (haccepted scope) hmem hgreatest, hfind now⟩

/-- Otherwise the lookup at the time the picked snapshot was retrieved answers
with it, where a latest one is still to come. -/
theorem speltInOrder_of_findsLatest (hfinds : FindsLatest memory)
    (haccepted : ∀ scope, ∀ other ∈ stored memory scope, StatesRetrieval other) :
    SpeltInOrder memory := by
  intro scope snapshot hmem hnot
  have hne : stored memory scope ≠ [] := List.ne_nil_of_mem hmem
  obtain ⟨picked, hpicked, hgreatest, hfind⟩ := find_eq hne
  have haccepted := haccepted scope
  have hlast : IsLatest memory scope picked := by
    by_contra hnotLast
    obtain ⟨nanos, hnanos⟩ := (haccepted picked hpicked).retrieved
    obtain ⟨now, rfl⟩ := exists_now (haccepted picked hpicked) hnanos
    have hanswer := hfinds now scope
    rw [if_neg hne, hfind now] at hanswer
    obtain ⟨last, hlast, hclassify⟩ := hanswer
    obtain ⟨nanos, nanos', hnanos', hlater, hlt⟩ :=
      hlast.retrieved_lt haccepted hpicked hnotLast
    rw [hnanos] at hnanos'
    cases hnanos'
    exact classify_at_retrieval hnanos
      (hclassify.trans (classify_before_retrieval hlater hlt))
  obtain ⟨nanos, nanos', hnanos, hnanos', hlt⟩ := hlast.retrieved_lt haccepted hmem hnot
  refine ⟨picked, hlast, ?_⟩
  rw [← text_lt_iff (haccepted snapshot hmem) (haccepted picked hpicked) hnanos hnanos' hlt]
  exact not_lt.mpr (hgreatest snapshot hmem)

/-! ### Usable snapshots -/

/-- The snapshot has a usable effective status. -/
def Usable (snapshot : S) (now : UtcDateTime) : Prop :=
  (effectiveStatus (metadata snapshot) now).isSome = true

omit [ScopedSnapshotKind S] in
instance (snapshot : S) (now : UtcDateTime) : Decidable (Usable snapshot now) :=
  inferInstanceAs (Decidable (_ = true))

omit [ScopedSnapshotKind S] in
theorem isSome_classify {snapshot : S} {now : UtcDateTime} :
    (classify snapshot now).isSome = true ↔ Usable snapshot now := by
  rw [classify, Option.isSome_map, Usable]

omit [ScopedSnapshotKind S] in
theorem usable_iff_of_text {snapshot other : S} {now : UtcDateTime}
    (h : (metadata snapshot).retrievedAt = (metadata other).retrievedAt) :
    Usable snapshot now ↔ Usable other now := by
  unfold Usable effectiveStatus
  rw [h]
  cases parse (metadata other).retrievedAt with
  | none => exact Iff.rfl
  | some parsed =>
      simp only
      split_ifs <;> simp

/-- A usable snapshot of the scope is in memory. -/
def HasUsable (memory : HotSnapshots S) (scope : PriceScope) (now : UtcDateTime) : Prop :=
  ∃ snapshot ∈ stored memory scope, Usable snapshot now

/-- The text of every snapshot that is not usable comes before that of a usable one. -/
def UsableSpeltLast (memory : HotSnapshots S) (scope : PriceScope) (now : UtcDateTime) : Prop :=
  ∀ snapshot ∈ stored memory scope, ¬ Usable snapshot now →
    ∃ usable ∈ stored memory scope, Usable usable now ∧
      (metadata snapshot).retrievedAt < (metadata usable).retrievedAt

theorem usableSpeltLast_of_picked {picked : S} {now : UtcDateTime}
    (hmem : picked ∈ stored memory scope) (hgreatest : ∀ other ∈ stored memory scope,
      (metadata other).retrievedAt ≤ (metadata picked).retrievedAt) :
    Usable picked now ↔ UsableSpeltLast memory scope now ∧ HasUsable memory scope now := by
  constructor
  · intro husable
    refine ⟨fun snapshot hsnapshot hnot => ⟨picked, hmem, husable, ?_⟩, picked, hmem, husable⟩
    refine lt_of_le_of_ne (hgreatest snapshot hsnapshot) fun htext => hnot ?_
    exact (usable_iff_of_text htext).mpr husable
  · rintro ⟨hspelt, -⟩
    by_contra hnot
    obtain ⟨usable, husable, -, hlt⟩ := hspelt picked hmem hnot
    exact absurd (hgreatest usable husable) (not_le.mpr hlt)

theorem isSome_find_iff {now : UtcDateTime} :
    (find now scope memory).isSome = true ↔
      UsableSpeltLast memory scope now ∧ HasUsable memory scope now := by
  by_cases hempty : stored memory scope = []
  · rw [find_of_empty now hempty]
    simp [HasUsable, hempty]
  · obtain ⟨picked, hmem, hgreatest, hfind⟩ := find_eq hempty
    rw [hfind now, isSome_classify, usableSpeltLast_of_picked hmem hgreatest]

/-- A usable snapshot is found whenever there is one, unless the text of one that
is not usable comes last. -/
theorem usable_found_iff (memory : HotSnapshots S) (scope : PriceScope) (now : UtcDateTime) :
    (HasUsable memory scope now → (find now scope memory).isSome = true) ↔
      (HasUsable memory scope now → UsableSpeltLast memory scope now) := by
  rw [isSome_find_iff]
  exact ⟨fun h husable => (h husable).1, fun h husable => ⟨h husable, husable⟩⟩

end Latest

/-! ### The latest snapshot of every scope -/

section List

variable {D : Type}

/-- The key of a snapshot in the list of the latest ones. -/
def scopeKey (snapshot : AwsPriceSnapshot D) : String ×ₗ String :=
  toLex (snapshot.metadata.currency, snapshot.sourceRegion)

def keepLatest (latest : HashMap (String ×ₗ String) (AwsPriceSnapshot D))
    (snapshot : AwsPriceSnapshot D) : HashMap (String ×ₗ String) (AwsPriceSnapshot D) :=
  match latest.lookup (scopeKey snapshot) with
  | some current =>
      if snapshot.metadata.retrievedAt ≤ current.metadata.retrievedAt then latest
      else latest.insert (scopeKey snapshot) snapshot
  | none => latest.insert (scopeKey snapshot) snapshot

def latestByScope (snapshots : List (AwsPriceSnapshot D)) :
    HashMap (String ×ₗ String) (AwsPriceSnapshot D) :=
  snapshots.foldl keepLatest ∅

def listLatestAws (now : UtcDateTime) (memory : HotSnapshots (AwsPriceSnapshot D)) :
    List (AwsPriceSnapshot D) :=
  let latest := latestByScope (snapshots memory)
  (latest.toSortedList.map Prod.snd).filterMap fun snapshot => classify snapshot now

/-- What is kept for a key is one of the snapshots, and no text is greater. -/
structure KeptFor (snapshots : List (AwsPriceSnapshot D)) (key : String ×ₗ String)
    (kept : AwsPriceSnapshot D) : Prop where
  mem : kept ∈ snapshots
  keyed : scopeKey kept = key
  greatest : ∀ snapshot ∈ snapshots, scopeKey snapshot = key →
    snapshot.metadata.retrievedAt ≤ kept.metadata.retrievedAt

/-- What the map holds after some snapshots. -/
structure KeepsLatest (snapshots : List (AwsPriceSnapshot D))
    (latest : HashMap (String ×ₗ String) (AwsPriceSnapshot D)) : Prop where
  kept : ∀ key kept, latest.lookup key = some kept → KeptFor snapshots key kept
  covered : ∀ snapshot ∈ snapshots, ∃ kept, latest.lookup (scopeKey snapshot) = some kept

theorem KeptFor.snoc {snapshots : List (AwsPriceSnapshot D)} {key : String ×ₗ String}
    {kept snapshot : AwsPriceSnapshot D} (h : KeptFor snapshots key kept)
    (hle : scopeKey snapshot = key →
      snapshot.metadata.retrievedAt ≤ kept.metadata.retrievedAt) :
    KeptFor (snapshots ++ [snapshot]) key kept := by
  refine ⟨List.mem_append_left _ h.mem, h.keyed, fun other hother hkey => ?_⟩
  rcases List.mem_append.mp hother with hother | hother
  · exact h.greatest other hother hkey
  · obtain rfl := List.mem_singleton.mp hother
    exact hle hkey

theorem KeepsLatest.insert {snapshots : List (AwsPriceSnapshot D)}
    {latest : HashMap (String ×ₗ String) (AwsPriceSnapshot D)} (h : KeepsLatest snapshots latest)
    {snapshot : AwsPriceSnapshot D} (hgreatest : ∀ other ∈ snapshots,
      scopeKey other = scopeKey snapshot →
        other.metadata.retrievedAt ≤ snapshot.metadata.retrievedAt) :
    KeepsLatest (snapshots ++ [snapshot]) (latest.insert (scopeKey snapshot) snapshot) := by
  constructor
  · intro key kept hlookup
    rcases HashMap.lookup_insert_eq_some hlookup with ⟨rfl, rfl⟩ | ⟨hkey, hlookup⟩
    · refine ⟨List.mem_append_right _ List.mem_cons_self, rfl, fun other hother hkey => ?_⟩
      rcases List.mem_append.mp hother with hother | hother
      · exact hgreatest other hother hkey
      · rw [List.mem_singleton.mp hother]
    · exact (h.kept key kept hlookup).snoc fun hsame => absurd hsame.symm hkey
  · intro other hother
    by_cases hkey : scopeKey other = scopeKey snapshot
    · exact ⟨snapshot, by rw [hkey, AList.lookup_insert]⟩
    · rcases List.mem_append.mp hother with hother | hother
      · obtain ⟨kept, hkept⟩ := h.covered other hother
        exact ⟨kept, by rw [AList.lookup_insert_ne hkey, hkept]⟩
      · exact absurd (congrArg scopeKey (List.mem_singleton.mp hother)) hkey

theorem KeepsLatest.step {snapshots : List (AwsPriceSnapshot D)}
    {latest : HashMap (String ×ₗ String) (AwsPriceSnapshot D)} (h : KeepsLatest snapshots latest)
    (snapshot : AwsPriceSnapshot D) :
    KeepsLatest (snapshots ++ [snapshot]) (keepLatest latest snapshot) := by
  unfold keepLatest
  cases hlookup : latest.lookup (scopeKey snapshot) with
  | none =>
      refine h.insert fun other hother hkey => ?_
      obtain ⟨kept, hkept⟩ := h.covered other hother
      rw [hkey, hlookup] at hkept
      cases hkept
  | some current =>
      have hcurrent := h.kept _ current hlookup
      by_cases hle : snapshot.metadata.retrievedAt ≤ current.metadata.retrievedAt
      · simp only [if_pos hle]
        refine ⟨fun key kept hkept => (h.kept key kept hkept).snoc fun hkey => ?_, ?_⟩
        · rw [← hkey, hlookup] at hkept
          cases hkept
          exact hle
        · intro other hother
          rcases List.mem_append.mp hother with hother | hother
          · exact h.covered other hother
          · rw [List.mem_singleton.mp hother]
            exact ⟨current, hlookup⟩
      · simp only [if_neg hle]
        refine h.insert fun other hother hkey => ?_
        exact (hcurrent.greatest other hother hkey).trans (le_of_lt (not_le.mp hle))

theorem keepsLatest_foldl {seen snapshots : List (AwsPriceSnapshot D)}
    {latest : HashMap (String ×ₗ String) (AwsPriceSnapshot D)} (h : KeepsLatest seen latest) :
    KeepsLatest (seen ++ snapshots) (snapshots.foldl keepLatest latest) := by
  induction snapshots generalizing seen latest with
  | nil => simpa using h
  | cons snapshot rest ih =>
      have hrest := ih (h.step snapshot)
      rwa [List.append_assoc, List.singleton_append] at hrest

theorem keepsLatest_latestByScope (snapshots : List (AwsPriceSnapshot D)) :
    KeepsLatest snapshots (latestByScope snapshots) :=
  @keepsLatest_foldl D [] _ _ ⟨fun _ _ h => (nomatch h), fun _ h => (nomatch h)⟩

/-- The list holds one answer for each scope in memory, that of a latest snapshot. -/
def ListsLatest (memory : HotSnapshots (AwsPriceSnapshot D)) : Prop :=
  ∀ now, ∃ snapshots : List (AwsPriceSnapshot D),
    listLatestAws now memory = snapshots.filterMap (fun snapshot => classify snapshot now) ∧
      (snapshots.map scopeKey).Nodup ∧
      (∀ snapshot ∈ snapshots, IsLatest memory (ofLex (scopeKey snapshot)) snapshot) ∧
      ∀ scope, stored memory scope ≠ [] → ∃ snapshot ∈ snapshots, ofLex (scopeKey snapshot) = scope

theorem mem_stored {memory : HotSnapshots (AwsPriceSnapshot D)} {scope : PriceScope}
    {snapshot : AwsPriceSnapshot D} : snapshot ∈ stored memory scope ↔
      snapshot ∈ snapshots memory ∧
        snapshot.metadata.provider = .aws ∧ ofLex (scopeKey snapshot) = scope := by
  rw [stored, inScope, List.mem_filter, snapshots, HashMap.values, List.map_map]
  refine and_congr_right fun _ => ?_
  simp [matchesScope, AwsPriceSnapshot.matchesScope, scopeKey, Prod.ext_iff, and_assoc]

theorem SpeltInOrder.listsLatest {memory : HotSnapshots (AwsPriceSnapshot D)}
    (hspelt : SpeltInOrder memory)
    (hprovider : ∀ snapshot ∈ snapshots memory, snapshot.metadata.provider = .aws)
    (haccepted : ∀ scope, ∀ other ∈ stored memory scope, StatesRetrieval other) :
    ListsLatest memory := by
  intro now
  have hkeeps := keepsLatest_latestByScope (snapshots memory)
  refine ⟨_, rfl, ?_, ?_, ?_⟩
  · have hkeys : ∀ entry ∈ (latestByScope (snapshots memory)).toSortedList,
        scopeKey entry.2 = entry.1 :=
      fun entry hentry => (hkeeps.kept _ _ (HashMap.mem_toSortedList.mp hentry)).keyed
    rw [List.map_map, List.map_congr_left (f := scopeKey ∘ Prod.snd) hkeys]
    exact HashMap.nodup_keys_toSortedList _
  · intro snapshot hsnapshot
    obtain ⟨⟨key, snapshot⟩, hentry, rfl⟩ := List.mem_map.mp hsnapshot
    obtain ⟨hmem, rfl, hgreatest⟩ := hkeeps.kept key snapshot (HashMap.mem_toSortedList.mp hentry)
    refine hspelt.isLatest (haccepted _) (mem_stored.mpr ⟨hmem, hprovider _ hmem, rfl⟩) ?_
    intro other hother
    obtain ⟨hother, -, hkey⟩ := mem_stored.mp hother
    exact hgreatest other hother (ofLex.injective hkey)
  · intro scope hne
    obtain ⟨snapshot, hsnapshot⟩ := List.exists_mem_of_ne_nil _ hne
    obtain ⟨hmem, -, rfl⟩ := mem_stored.mp hsnapshot
    obtain ⟨kept, hkept⟩ := hkeeps.covered snapshot hmem
    exact ⟨kept, List.mem_map.mpr ⟨_, HashMap.mem_toSortedList.mpr hkept, rfl⟩,
      congrArg ofLex (hkeeps.kept _ kept hkept).keyed⟩

/-- The three lookups answer with latest snapshots exactly where the retrieval
times are spelt in their order. -/
theorem finds_latest_iff {aws : HotSnapshots (AwsPriceSnapshot D)}
    {azure : HotSnapshots (AzurePriceSnapshot D)}
    (hprovider : ∀ snapshot ∈ snapshots aws, snapshot.metadata.provider = .aws)
    (haws : ∀ snapshot ∈ snapshots aws, StatesRetrieval snapshot)
    (hazure : ∀ snapshot ∈ snapshots azure, StatesRetrieval snapshot) :
    (FindsLatest aws ∧ ListsLatest aws) ∧ FindsLatest azure ↔
      SpeltInOrder aws ∧ SpeltInOrder azure := by
  have haws : ∀ scope, ∀ snapshot ∈ stored aws scope, StatesRetrieval snapshot :=
    fun scope snapshot hmem => haws snapshot (mem_snapshots_of_stored hmem)
  have hazure : ∀ scope, ∀ snapshot ∈ stored azure scope, StatesRetrieval snapshot :=
    fun scope snapshot hmem => hazure snapshot (mem_snapshots_of_stored hmem)
  constructor
  · rintro ⟨⟨hfinds, -⟩, hfindsAzure⟩
    exact ⟨speltInOrder_of_findsLatest hfinds haws,
      speltInOrder_of_findsLatest hfindsAzure hazure⟩
  · rintro ⟨hspelt, hspeltAzure⟩
    exact ⟨⟨hspelt.findsLatest haws,
      hspelt.listsLatest hprovider haws⟩, hspeltAzure.findsLatest hazure⟩

end List

namespace LatestWitness

def scope : PriceScope := ("EUR", "eu-west-1")

def snapshot (snapshotId retrievedAt : String) : AwsPriceSnapshot Decimal96 where
  metadata := ⟨snapshotId, .aws, .fresh, retrievedAt, none, "EUR", [], "1", "1", []⟩
  sourceRegion := "eu-west-1"
  ec2Rates := []
  rdsRates := []
  ebsRates := []

theorem noon_inRange : Rfc3339.minNanos ≤ 63953582400000000000 ∧
    63953582400000000000 < Rfc3339.endNanos := by decide

/-- 2026-08-10T12:00:00Z. -/
def noon : UtcDateTime := ⟨63953582400000000000, noon_inRange⟩

/-- Two snapshots of one scope, put one after the other. -/
def memory (first second : String) : HotSnapshots (AwsPriceSnapshot Decimal96) :=
  put 1 (snapshot "aws-2" second) (put 0 (snapshot "aws-1" first) .empty)

/-- The second one was retrieved half a second later. -/
def fraction : HotSnapshots (AwsPriceSnapshot Decimal96) :=
  memory "2026-08-10T12:00:00Z" "2026-08-10T12:00:00.5Z"

/-- The second one is due in five minutes. -/
def ahead : HotSnapshots (AwsPriceSnapshot Decimal96) :=
  memory "2026-08-10T11:00:00Z" "2026-08-10T12:05:00Z"

end LatestWitness

open LatestWitness in
/-- Half a second is spelt before none: the earlier snapshot is found. -/
theorem find_fraction :
    ((∀ snapshot ∈ snapshots fraction, snapshot.metadata.provider = .aws) ∧
      ∀ snapshot ∈ snapshots fraction, StatesRetrieval snapshot) ∧
      ¬ FindsLatest fraction := by
  refine ⟨by decide +kernel, fun hfinds => ?_⟩
  have hstored : stored fraction scope = [snapshot "aws-2" "2026-08-10T12:00:00.5Z",
      snapshot "aws-1" "2026-08-10T12:00:00Z"] := by decide +kernel
  have hfind := hfinds noon scope
  rw [hstored, if_neg (List.cons_ne_nil _ _)] at hfind
  obtain ⟨last, hlast, hclassify⟩ := hfind
  have hmem := hlast.mem
  rw [hstored] at hmem
  rcases List.mem_pair.mp hmem with rfl | rfl
  · exact absurd (congrArg Option.isSome hclassify) (by decide +kernel)
  · have hdurable := hlast.durable (snapshot "aws-2" "2026-08-10T12:00:00.5Z")
      (by rw [hstored]; exact List.mem_cons_self)
    exact absurd hdurable (by decide +kernel)

open LatestWitness in
theorem finds_latest_iff_fraction :
    (FindsLatest fraction ∧ ListsLatest fraction) ∧
      FindsLatest (.empty : HotSnapshots (AzurePriceSnapshot Decimal96)) ↔
    SpeltInOrder fraction ∧
      SpeltInOrder (.empty : HotSnapshots (AzurePriceSnapshot Decimal96)) :=
  finds_latest_iff (by decide +kernel) (by decide +kernel) (by decide +kernel)

open LatestWitness in
/-- A snapshot that is not due yet hides a usable one. -/
theorem find_ahead :
    HasUsable ahead scope noon ∧ (find noon scope ahead).isSome = false := by
  refine ⟨⟨snapshot "aws-1" "2026-08-10T11:00:00Z", ?_, ?_⟩, ?_⟩ <;> decide +kernel

end TcoCalculator.SnapshotRepository
