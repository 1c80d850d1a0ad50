/-
What becomes of a snapshot in memory: its status as time goes by, and the
answers and the size of memory over every sequence of inserts and lookups.
-/
import TcoCalculator.Pricing.LatestSnapshot

namespace TcoCalculator.SnapshotRepository

open PriceSnapshotKind ScopedSnapshotKind PricingCoordinator Rfc3339 PricingCache

/-! ### Age -/

/-- How far a status is from fresh; without one a snapshot is not usable. -/
def statusRank : Option ResolutionStatus → Nat
  | some .fresh => 0
  | some .cached => 1
  | some .stale => 2
  | some .unavailable | none => 3

/-- The status by age, for a snapshot that was retrieved already. -/
theorem statusRank_effectiveStatus {metadata : SnapshotMetadata} {now : UtcDateTime}
    {parsed : ParsedDateTime} (hparsed : parse metadata.retrievedAt = some parsed)
    (hnow : parsed.nanos ≤ now.nanos) :
    statusRank (effectiveStatus metadata now) =
      if usableMaxAge < now.nanos - parsed.nanos then 3
      else if freshMaxAge < now.nanos - parsed.nanos then 2
      else if hotCacheMaxAge < now.nanos - parsed.nanos ∨ metadata.status ≠ .fresh then 1
      else 0 := by
  have hage : ¬ now.nanos - parsed.nanos < 0 := by omega
  simp only [effectiveStatus, hparsed, hage, false_or]
  split_ifs <;> rfl

/-- A status only gets worse after the retrieval. -/
theorem statusRank_mono (metadata : SnapshotMetadata) {now later : UtcDateTime}
    (hnow : ∀ parsed, parse metadata.retrievedAt = some parsed → parsed.nanos ≤ now.nanos)
    (hle : now ≤ later) :
    statusRank (effectiveStatus metadata now) ≤ statusRank (effectiveStatus metadata later) := by
  cases hparsed : parse metadata.retrievedAt with
  | none => simp [effectiveStatus, hparsed]
  | some parsed =>
      have hnow := hnow parsed hparsed
      have hle := UtcDateTime.le_def.mp hle
      rw [statusRank_effectiveStatus hparsed hnow,
        statusRank_effectiveStatus hparsed (hnow.trans hle)]
      have hfresh : hotCacheMaxAge ≤ freshMaxAge := by decide
      have husable : freshMaxAge ≤ usableMaxAge := by decide
      by_cases hstatus : metadata.status = .fresh
      · simp only [hstatus, ne_eq, not_true_eq_false, or_false]
        split_ifs <;> omega
      · simp only [hstatus, ne_eq, not_false_eq_true, or_true, if_true]
        split_ifs <;> omega

theorem effectiveStatus_ne_unavailable (metadata : SnapshotMetadata) (now : UtcDateTime) :
    effectiveStatus metadata now ≠ some .unavailable := by
  unfold effectiveStatus
  cases parse metadata.retrievedAt with
  | none => simp
  | some parsed =>
      simp only
      split_ifs <;> simp

/-! ### Memory over a run -/

variable {S : Type} [PriceSnapshotKind S] [ScopedSnapshotKind S]

inductive Operation (S : Type) where
  | put (instant : Int) (snapshot : S)
  | get (now : UtcDateTime) (snapshotId : String)
  | getHot (now : UtcDateTime) (instant : Int) (snapshotId : String)
  | find (now : UtcDateTime) (scope : PriceScope)
  | findHot (now : UtcDateTime) (instant : Int) (scope : PriceScope)

/-- Only an insert changes memory. -/
def apply (memory : HotSnapshots S) : Operation S → HotSnapshots S
  | .put instant snapshot => put instant snapshot memory
  | .get .. | .getHot .. | .find .. | .findHot .. => memory

/-- What a lookup answers, and when. -/
def answer (memory : HotSnapshots S) : Operation S → Option (UtcDateTime × S)
  | .put .. => none
  | .get now snapshotId => (get now snapshotId memory).map (now, ·)
  | .getHot now instant snapshotId => (getHot now instant snapshotId memory).map (now, ·)
  | .find now scope => (find now scope memory).map (now, ·)
  | .findHot now instant scope => (findHot now instant scope memory).map (now, ·)

def memoryAfter (operations : List (Operation S)) : HotSnapshots S :=
  operations.foldl apply .empty

/-- The snapshot an operation inserts under an identifier. -/
def inserted (snapshotId : String) : Operation S → Option S
  | .put _ snapshot => if (metadata snapshot).snapshotId = snapshotId then some snapshot else none
  | .get .. | .getHot .. | .find .. | .findHot .. => none

def lastInserted (operations : List (Operation S)) (snapshotId : String) : Option S :=
  (operations.filterMap (inserted snapshotId)).getLast?

/-- What is known of memory after some operations. -/
structure MemoryInvariant (operations : List (Operation S)) (memory : HotSnapshots S) : Prop where
  bounded : memory.entries.entries.length ≤ maxHotSnapshotsPerProvider
  current : ∀ snapshotId entry, memory.entries.lookup snapshotId = some entry →
    lastInserted operations snapshotId = some entry.snapshot

omit [ScopedSnapshotKind S] in
theorem lastInserted_snoc (operations : List (Operation S)) (operation : Operation S)
    (snapshotId : String) : lastInserted (operations ++ [operation]) snapshotId =
      (inserted snapshotId operation).or (lastInserted operations snapshotId) := by
  rw [lastInserted, List.filterMap_append]
  cases hinserted : inserted snapshotId operation with
  | none => simp [hinserted, lastInserted]
  | some snapshot => simp [hinserted]

omit [PriceSnapshotKind S] [ScopedSnapshotKind S] in
theorem oldest_eq_none {entries : List ((_ : String) × HotSnapshot S)} :
    oldest entries = none ↔ entries = [] := by
  cases entries with
  | nil => simp [oldest]
  | cons first rest =>
      rw [oldest]
      cases oldest rest with
      | none => simp
      | some other =>
          simp only
          split_ifs <;> simp

omit [PriceSnapshotKind S] [ScopedSnapshotKind S] in
/-- What makes way is in memory, and nothing was inserted before it. -/
theorem oldest_eq_some {entries : List ((_ : String) × HotSnapshot S)}
    {entry : (_ : String) × HotSnapshot S} (h : oldest entries = some entry) :
    entry ∈ entries ∧ ∀ other ∈ entries, entry.2.insertedAt ≤ other.2.insertedAt := by
  induction entries generalizing entry with
  | nil => cases h
  | cons first rest ih =>
      rw [oldest] at h
      cases hrest : oldest rest with
      | none =>
          rw [hrest] at h
          cases h
          simp [oldest_eq_none.mp hrest]
      | some other =>
          obtain ⟨hmem, hleast⟩ := ih hrest
          simp only [hrest] at h
          split_ifs at h with hlt
          · cases h
            refine ⟨List.mem_cons_of_mem _ hmem, fun next hnext => ?_⟩
            rcases List.mem_cons.mp hnext with rfl | hnext
            · exact hlt.le
            · exact hleast next hnext
          · cases h
            refine ⟨List.mem_cons_self, fun next hnext => ?_⟩
            rcases List.mem_cons.mp hnext with rfl | hnext
            · exact le_rfl
            · exact (not_lt.mp hlt).trans (hleast next hnext)

omit [ScopedSnapshotKind S] in
theorem length_keys (memory : HotSnapshots S) :
    memory.entries.keys.length = memory.entries.entries.length :=
  List.length_map _

omit [ScopedSnapshotKind S] in
/-- A full map loses an entry before it takes one under a new identifier. -/
theorem length_evict {memory : HotSnapshots S} {snapshotId : String}
    (hbounded : memory.entries.entries.length ≤ maxHotSnapshotsPerProvider)
    (hnew : snapshotId ∉ memory.entries) :
    (evict memory (evictedId memory snapshotId)).entries.entries.length <
      maxHotSnapshotsPerProvider := by
  by_cases hfull : maxHotSnapshotsPerProvider ≤ memory.entries.entries.length
  · have hpositive : 0 < maxHotSnapshotsPerProvider := by decide
    have hsome : oldest memory.entries.entries ≠ none :=
      fun hnone => by simp [oldest_eq_none.mp hnone] at hfull; omega
    obtain ⟨entry, hentry⟩ := Option.ne_none_iff_exists'.mp hsome
    have hmem : entry.1 ∈ memory.entries.keys :=
      List.mem_map_of_mem (oldest_eq_some hentry).1
    rw [evictedId, if_pos ⟨hnew, hfull⟩, hentry, Option.map_some, evict, ← length_keys,
      AList.keys_erase, List.length_erase_of_mem hmem, length_keys]
    omega
  · rw [evictedId, if_neg (fun h => hfull h.2), evict]
    exact not_le.mp hfull

omit [ScopedSnapshotKind S] in
theorem length_put {memory : HotSnapshots S}
    (hbounded : memory.entries.entries.length ≤ maxHotSnapshotsPerProvider) (instant : Int)
    (snapshot : S) :
    (put instant snapshot memory).entries.entries.length ≤ maxHotSnapshotsPerProvider := by
  rw [← length_keys, put, AList.keys_insert, List.length_cons]
  by_cases hmem : (metadata snapshot).snapshotId ∈ memory.entries
  · have hkey : (metadata snapshot).snapshotId ∈ memory.entries.keys := hmem
    rw [evictedId, if_neg (fun h => h.1 hmem), evict, List.length_erase_of_mem hkey, length_keys]
    have hpositive := List.length_pos_of_mem hkey
    rw [length_keys] at hpositive
    omega
  · have hroom := length_evict hbounded hmem
    have hle := List.length_erase_le (a := (metadata snapshot).snapshotId)
      (l := (evict memory (evictedId memory (metadata snapshot).snapshotId)).entries.keys)
    rw [length_keys] at hle
    omega

omit [ScopedSnapshotKind S] in
theorem MemoryInvariant.put {operations : List (Operation S)} {memory : HotSnapshots S}
    (h : MemoryInvariant operations memory) (instant : Int) (snapshot : S) :
    MemoryInvariant (operations ++ [.put instant snapshot])
      (SnapshotRepository.put instant snapshot memory) := by
  refine ⟨length_put h.bounded instant snapshot, fun snapshotId entry hentry => ?_⟩
  rw [lookup_put] at hentry
  rw [lastInserted_snoc, inserted]
  by_cases hsame : snapshotId = (metadata snapshot).snapshotId
  · rw [if_pos hsame] at hentry
    cases hentry
    rw [if_pos hsame.symm, Option.some_or]
  · rw [if_neg hsame] at hentry
    split_ifs at hentry
    rw [if_neg (Ne.symm hsame), Option.none_or]
    exact h.current snapshotId entry hentry

omit [ScopedSnapshotKind S] in
theorem MemoryInvariant.step {operations : List (Operation S)} {memory : HotSnapshots S}
    (h : MemoryInvariant operations memory) (operation : Operation S) :
    MemoryInvariant (operations ++ [operation]) (apply memory operation) := by
  cases operation with
  | put instant snapshot => exact h.put instant snapshot
  | get | getHot | find | findHot =>
      refine ⟨h.bounded, fun snapshotId entry hentry => ?_⟩
      rw [lastInserted_snoc, inserted, Option.none_or]
      exact h.current snapshotId entry hentry

omit [ScopedSnapshotKind S] in
theorem memoryInvariant_foldl {seen operations : List (Operation S)} {memory : HotSnapshots S}
    (h : MemoryInvariant seen memory) :
    MemoryInvariant (seen ++ operations) (operations.foldl apply memory) := by
  induction operations generalizing seen memory with
  | nil => simpa using h
  | cons operation rest ih =>
      have hrest := ih (h.step operation)
      rwa [List.append_assoc, List.singleton_append] at hrest

omit [ScopedSnapshotKind S] in
theorem memoryInvariant_memoryAfter (operations : List (Operation S)) :
    MemoryInvariant operations (memoryAfter operations) :=
  @memoryInvariant_foldl S _ [] operations .empty
    ⟨Nat.zero_le _, fun _ _ h => (nomatch h)⟩

/-! ### Answers -/

/-- The identifier a lookup asks for. -/
def askedId : Operation S → Option String
  | .get _ snapshotId | .getHot _ _ snapshotId => some snapshotId
  | .put .. | .find .. | .findHot .. => none

/-- An answer is what is kept under its identifier, classified at its time. -/
structure AnswersFrom (memory : HotSnapshots S) (now : UtcDateTime) (found : S) : Prop where
  entry : ∃ entry, memory.entries.lookup (metadata found).snapshotId = some entry ∧
    classify entry.snapshot now = some found

omit [ScopedSnapshotKind S] in
theorem answersFrom_of_lookup {memory : HotSnapshots S} {now : UtcDateTime} {found : S}
    {snapshotId : String} {entry : HotSnapshot S}
    (hentry : memory.entries.lookup snapshotId = some entry)
    (h : classify entry.snapshot now = some found) : AnswersFrom memory now found := by
  refine ⟨entry, ?_, h⟩
  rwa [snapshotId_classify h, memory.keyed snapshotId entry hentry]

theorem answersFrom_of_latest {memory : HotSnapshots S} {now : UtcDateTime} {scope : PriceScope}
    {found : S} {entries : List ((_ : String) × HotSnapshot S)}
    (hsub : entries ⊆ memory.entries.entries)
    (h : (latest (inScope scope entries)).bind (fun snapshot => classify snapshot now) =
      some found) : AnswersFrom memory now found := by
  obtain ⟨snapshot, hlatest, hclassify⟩ := Option.bind_eq_some_iff.mp h
  obtain ⟨entry, hentry, rfl, -⟩ := mem_inScope.mp (latest_eq_some hlatest).1
  exact answersFrom_of_lookup (lookup_of_mem (hsub hentry)) hclassify

theorem answersFrom_of_answer {memory : HotSnapshots S} {operation : Operation S}
    {now : UtcDateTime} {found : S} (h : answer memory operation = some (now, found)) :
    AnswersFrom memory now found ∧
      ∀ snapshotId, askedId operation = some snapshotId →
        (metadata found).snapshotId = snapshotId := by
  cases operation with
  | put => cases h
  | get asked snapshotId =>
      obtain ⟨_, hget, heq⟩ := Option.map_eq_some_iff.mp h
      cases heq
      obtain ⟨entry, hentry, hclassify⟩ := Option.bind_eq_some_iff.mp hget
      refine ⟨answersFrom_of_lookup hentry hclassify, ?_⟩
      rintro _ ⟨⟩
      exact snapshotId_get hget
  | getHot asked instant snapshotId =>
      obtain ⟨_, hget, heq⟩ := Option.map_eq_some_iff.mp h
      cases heq
      obtain ⟨entry, hentry, hclassify⟩ := Option.bind_eq_some_iff.mp hget
      refine ⟨answersFrom_of_lookup (Option.filter_eq_some_iff.mp hentry).1 hclassify, ?_⟩
      rintro _ ⟨⟩
      exact snapshotId_getHot hget
  | find asked scope =>
      obtain ⟨_, hfind, heq⟩ := Option.map_eq_some_iff.mp h
      cases heq
      exact ⟨answersFrom_of_latest (List.Subset.refl _) hfind, fun _ hasked => (nomatch hasked)⟩
  | findHot asked instant scope =>
      obtain ⟨_, hfind, heq⟩ := Option.map_eq_some_iff.mp h
      cases heq
      exact ⟨answersFrom_of_latest (List.filter_subset_self _) hfind,
        fun _ hasked => (nomatch hasked)⟩

/-- What holds of memory after any inserts and lookups. -/
structure CacheLaws (operations : List (Operation S)) : Prop where
  bounded : (memoryAfter operations).entries.entries.length ≤ maxHotSnapshotsPerProvider
  keepsInserted : ∀ instant snapshot,
    (memoryAfter (operations ++ [.put instant snapshot])).entries.lookup
      (metadata snapshot).snapshotId = some ⟨snapshot, instant⟩
  evictsOldest : ∀ snapshotId evicted, evictedId (memoryAfter operations) snapshotId =
    some evicted → evicted ≠ snapshotId ∧
      ∃ entry, (memoryAfter operations).entries.lookup evicted = some entry ∧
        ∀ key other, (memoryAfter operations).entries.lookup key = some other →
          entry.insertedAt ≤ other.insertedAt
  answers : ∀ operation now found,
    answer (memoryAfter operations) operation = some (now, found) →
      (∀ snapshotId, askedId operation = some snapshotId →
        (metadata found).snapshotId = snapshotId) ∧
      ∃ snapshot, lastInserted operations (metadata found).snapshotId = some snapshot ∧
        classify snapshot now = some found

theorem cacheLaws (operations : List (Operation S)) : CacheLaws operations := by
  have hinvariant := memoryInvariant_memoryAfter operations
  constructor
  · exact hinvariant.bounded
  · intro instant snapshot
    rw [memoryAfter, List.foldl_append]
    change (put instant snapshot (memoryAfter operations)).entries.lookup _ = _
    rw [lookup_put, if_pos rfl]
  · intro snapshotId evicted hevicted
    unfold evictedId at hevicted
    split_ifs at hevicted with hfull
    obtain ⟨entry, hentry, rfl⟩ := Option.map_eq_some_iff.mp hevicted
    obtain ⟨hmem, hleast⟩ := oldest_eq_some hentry
    refine ⟨?_, entry.2, lookup_of_mem hmem, fun key other hother => ?_⟩
    · rintro rfl
      exact hfull.1 (List.mem_map_of_mem hmem)
    · exact hleast _ (mem_of_lookup hother)
  · intro operation now found hanswer
    obtain ⟨⟨entry, hentry, hclassify⟩, hasked⟩ := answersFrom_of_answer hanswer
    exact ⟨hasked, entry.snapshot, hinvariant.current _ entry hentry, hclassify⟩

/-- The list of the latest snapshots answers with what was inserted last, too. -/
theorem listed_lastInserted {D : Type} {operations : List (Operation (AwsPriceSnapshot D))}
    {now : UtcDateTime} {found : AwsPriceSnapshot D}
    (h : found ∈ listLatestAws now (memoryAfter operations)) :
    ∃ snapshot, lastInserted operations (metadata found).snapshotId = some snapshot ∧
      classify snapshot now = some found := by
  obtain ⟨kept, hkept, hclassify⟩ := List.mem_filterMap.mp h
  obtain ⟨⟨key, kept⟩, hentry, rfl⟩ := List.mem_map.mp hkept
  have hmem := ((keepsLatest_latestByScope _).kept key kept
    (HashMap.mem_toSortedList.mp hentry)).mem
  obtain ⟨entry, hvalue, rfl⟩ := List.mem_map.mp hmem
  obtain ⟨snapshotId, hlookup⟩ := HashMap.mem_values.mp hvalue
  obtain ⟨entry, hentry, hclassify⟩ := answersFrom_of_lookup hlookup hclassify
  exact ⟨entry.snapshot, (memoryInvariant_memoryAfter operations).current _ entry hentry,
    hclassify⟩

/-- The status of a snapshot never improves, and the memory that holds it stays
bounded and answers with what it took last. -/
theorem cached_status_never_improves {D : Type} :
    (∀ metadata : SnapshotMetadata, ∀ now later : UtcDateTime,
      effectiveStatus metadata now ≠ some .unavailable ∧
        ((∀ parsed, parse metadata.retrievedAt = some parsed → parsed.nanos ≤ now.nanos) →
          now ≤ later → statusRank (effectiveStatus metadata now) ≤
            statusRank (effectiveStatus metadata later))) ∧
      (∀ operations : List (Operation (AwsPriceSnapshot D)), CacheLaws operations ∧
        ∀ now, ∀ found ∈ listLatestAws now (memoryAfter operations), ∃ snapshot,
          lastInserted operations (metadata found).snapshotId = some snapshot ∧
            classify snapshot now = some found) ∧
      ∀ operations : List (Operation (AzurePriceSnapshot D)), CacheLaws operations :=
  ⟨fun metadata now _ => ⟨effectiveStatus_ne_unavailable metadata now,
    fun hnow hle => statusRank_mono metadata hnow hle⟩,
    fun operations => ⟨cacheLaws operations, fun _ _ hfound => listed_lastInserted hfound⟩,
    cacheLaws⟩

end TcoCalculator.SnapshotRepository
