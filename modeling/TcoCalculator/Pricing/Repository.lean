/-
Snapshots kept in memory under their identifiers and the lookups a calculation
makes (src/rust/src/pricing/repository.rs and coordinator.rs).
-/
import TcoCalculator.Library.HashMap
import TcoCalculator.Persistence.PricingCache
import TcoCalculator.Pricing.Snapshot

namespace TcoCalculator

open Rfc3339 PricingCache

/-- What the two kinds of snapshots share. -/
class PriceSnapshotKind (S : Type) where
  metadata : S → SnapshotMetadata
  withStatus : S → ResolutionStatus → S
  snapshotId_withStatus : ∀ snapshot status,
    (metadata (withStatus snapshot status)).snapshotId = (metadata snapshot).snapshotId

instance {D : Type} : PriceSnapshotKind (AwsPriceSnapshot D) where
  metadata := AwsPriceSnapshot.metadata
  withStatus snapshot status := { snapshot with metadata.status := status }
  snapshotId_withStatus _ _ := rfl

instance {D : Type} : PriceSnapshotKind (AzurePriceSnapshot D) where
  metadata := AzurePriceSnapshot.metadata
  withStatus snapshot status := { snapshot with metadata.status := status }
  snapshotId_withStatus _ _ := rfl

namespace SnapshotRepository

open PriceSnapshotKind

def hotCacheMaxAge : Int := 15 * 60 * nanosPerSecond
def freshMaxAge : Int := 24 * 3600 * nanosPerSecond
def usableMaxAge : Int := 7 * 86400 * nanosPerSecond
def hotEntryMaxAge : Int := 15 * 60 * nanosPerSecond
def maxHotSnapshotsPerProvider : Nat := 256

/-- A snapshot and the monotonic clock reading of its insertion. -/
structure HotSnapshot (S : Type) where
  snapshot : S
  insertedAt : Int

variable {S : Type} [PriceSnapshotKind S]

/-- The snapshots of one provider, each under its own identifier. -/
structure HotSnapshots (S : Type) [PriceSnapshotKind S] where
  entries : HashMap String (HotSnapshot S)
  keyed : ∀ snapshotId entry, entries.lookup snapshotId = some entry →
    (metadata entry.snapshot).snapshotId = snapshotId

def HotSnapshots.empty : HotSnapshots S := ⟨∅, fun _ _ h => nomatch h⟩

def effectiveStatus (metadata : SnapshotMetadata) (now : UtcDateTime) :
    Option ResolutionStatus :=
  match parse metadata.retrievedAt with
  | none => none
  | some retrievedAt =>
      let age := now.nanos - retrievedAt.nanos
      if age < 0 ∨ usableMaxAge < age then none
      else if freshMaxAge < age then some .stale
      else if hotCacheMaxAge < age ∨ metadata.status ≠ .fresh then some .cached
      else some .fresh

def classify (snapshot : S) (now : UtcDateTime) : Option S :=
  (effectiveStatus (metadata snapshot) now).map (withStatus snapshot)

/-- The entry that was inserted first. -/
def oldest : List ((_ : String) × HotSnapshot S) → Option ((_ : String) × HotSnapshot S)
  | [] => none
  | entry :: rest =>
      match oldest rest with
      | some other =>
          if other.2.insertedAt < entry.2.insertedAt then some other else some entry
      | none => some entry

/-- The identifier that makes way for a new one in a full map. -/
def evictedId (hot : HotSnapshots S) (snapshotId : String) : Option String :=
  if snapshotId ∉ hot.entries ∧ maxHotSnapshotsPerProvider ≤ hot.entries.entries.length then
    (oldest hot.entries.entries).map Sigma.fst
  else none

def evict (hot : HotSnapshots S) : Option String → HotSnapshots S
  | none => hot
  | some evicted =>
      ⟨hot.entries.erase evicted, fun snapshotId entry hentry => by
        apply hot.keyed snapshotId entry
        rw [← hentry, AList.lookup_erase_ne]
        rintro rfl
        rw [AList.lookup_erase] at hentry
        cases hentry⟩

/-- Insert under the snapshot's own identifier; a full map first loses its
oldest entry. -/
def put (instant : Int) (snapshot : S) (hot : HotSnapshots S) : HotSnapshots S :=
  let snapshotId := (metadata snapshot).snapshotId
  let kept := evict hot (evictedId hot snapshotId)
  ⟨kept.entries.insert snapshotId ⟨snapshot, instant⟩, fun key entry hentry => by
    by_cases hkey : key = snapshotId
    · subst hkey
      rw [AList.lookup_insert] at hentry
      cases hentry
      rfl
    · rw [AList.lookup_insert_ne hkey] at hentry
      exact kept.keyed key entry hentry⟩

def get (now : UtcDateTime) (snapshotId : String) (hot : HotSnapshots S) : Option S :=
  (hot.entries.lookup snapshotId).bind fun entry => classify entry.snapshot now

def getHot (now : UtcDateTime) (instant : Int) (snapshotId : String) (hot : HotSnapshots S) :
    Option S :=
  ((hot.entries.lookup snapshotId).filter fun entry =>
      instant - entry.insertedAt ≤ hotEntryMaxAge).bind fun entry => classify entry.snapshot now

def cacheDurable (now : UtcDateTime) (instant : Int) (snapshot : S) (hot : HotSnapshots S) :
    Option S × HotSnapshots S :=
  let cached := put instant (withStatus snapshot .cached) hot
  (get now (metadata snapshot).snapshotId cached, cached)

/-- A durable store answers for the identifier it is asked for. -/
structure DurableSnapshots (S : Type) [PriceSnapshotKind S] where
  get : String → Except SnapshotRepositoryError (Option S)
  get_id : ∀ snapshotId snapshot, get snapshotId = .ok (some snapshot) →
    (metadata snapshot).snapshotId = snapshotId

/-- The coordinator's lookup: memory first, then the durable store, whose
failure an older entry in memory makes up for. -/
def coordinatorGet (now : UtcDateTime) (instant : Int) (durable : Option (DurableSnapshots S))
    (snapshotId : String) (hot : HotSnapshots S) :
    Except SnapshotRepositoryError (Option S) × HotSnapshots S :=
  let fallback := get now snapshotId hot
  match durable with
  | none => (.ok fallback, hot)
  | some durable =>
      match getHot now instant snapshotId hot with
      | some snapshot => (.ok (some snapshot), hot)
      | none =>
          match durable.get snapshotId with
          | .ok (some snapshot) =>
              let cached := cacheDurable now instant snapshot hot
              (.ok cached.1, cached.2)
          | .ok none => (.ok fallback, hot)
          | .error failure =>
              if fallback.isSome then (.ok fallback, hot) else (.error failure, hot)

/-! ### A lookup answers for the identifier it was asked for -/

theorem snapshotId_classify {snapshot classified : S} {now : UtcDateTime}
    (h : classify snapshot now = some classified) :
    (metadata classified).snapshotId = (metadata snapshot).snapshotId := by
  obtain ⟨status, _, rfl⟩ := Option.map_eq_some_iff.mp h
  exact snapshotId_withStatus snapshot status

theorem snapshotId_get {hot : HotSnapshots S} {now : UtcDateTime} {snapshotId : String}
    {snapshot : S} (h : get now snapshotId hot = some snapshot) :
    (metadata snapshot).snapshotId = snapshotId := by
  obtain ⟨entry, hentry, hclassify⟩ := Option.bind_eq_some_iff.mp h
  rw [snapshotId_classify hclassify]
  exact hot.keyed snapshotId entry hentry

theorem snapshotId_getHot {hot : HotSnapshots S} {now : UtcDateTime} {instant : Int}
    {snapshotId : String} {snapshot : S} (h : getHot now instant snapshotId hot = some snapshot) :
    (metadata snapshot).snapshotId = snapshotId := by
  obtain ⟨entry, hentry, hclassify⟩ := Option.bind_eq_some_iff.mp h
  rw [snapshotId_classify hclassify]
  exact hot.keyed snapshotId entry (Option.filter_eq_some_iff.mp hentry).1

theorem snapshotId_coordinatorGet {hot : HotSnapshots S} {now : UtcDateTime} {instant : Int}
    {durable : Option (DurableSnapshots S)} {snapshotId : String} {snapshot : S}
    (h : (coordinatorGet now instant durable snapshotId hot).1 = .ok (some snapshot)) :
    (metadata snapshot).snapshotId = snapshotId := by
  unfold coordinatorGet at h
  cases durable with
  | none => exact snapshotId_get (Except.ok.inj h)
  | some durable =>
      cases hhot : getHot now instant snapshotId hot with
      | some found =>
          simp only [hhot] at h
          cases h
          exact snapshotId_getHot hhot
      | none =>
          simp only [hhot] at h
          cases hlookup : durable.get snapshotId with
          | ok answer =>
              cases answer with
              | some stored =>
                  simp only [hlookup] at h
                  rw [← durable.get_id snapshotId stored hlookup]
                  exact snapshotId_get (Except.ok.inj h)
              | none =>
                  simp only [hlookup] at h
                  exact snapshotId_get (Except.ok.inj h)
          | error failure =>
              simp only [hlookup] at h
              split at h
              · exact snapshotId_get (Except.ok.inj h)
              · cases h

end SnapshotRepository

/-- The price lookups of one calculation: each answers for its own identifier. -/
structure PricingLookups (D : Type) where
  getAws : String → Except SnapshotRepositoryError (Option (AwsPriceSnapshot D))
  getAzure : String → Except SnapshotRepositoryError (Option (AzurePriceSnapshot D))
  getAws_id : ∀ snapshotId snapshot, getAws snapshotId = .ok (some snapshot) →
    snapshot.metadata.snapshotId = snapshotId
  getAzure_id : ∀ snapshotId snapshot, getAzure snapshotId = .ok (some snapshot) →
    snapshot.metadata.snapshotId = snapshotId

/-- The coordinator over both memories and its durable stores. -/
def PricingLookups.coordinator {D : Type} (now : UtcDateTime) (instant : Int)
    (durableAws : Option (SnapshotRepository.DurableSnapshots (AwsPriceSnapshot D)))
    (durableAzure : Option (SnapshotRepository.DurableSnapshots (AzurePriceSnapshot D)))
    (aws : SnapshotRepository.HotSnapshots (AwsPriceSnapshot D))
    (azure : SnapshotRepository.HotSnapshots (AzurePriceSnapshot D)) : PricingLookups D where
  getAws snapshotId :=
    (SnapshotRepository.coordinatorGet now instant durableAws snapshotId aws).1
  getAzure snapshotId :=
    (SnapshotRepository.coordinatorGet now instant durableAzure snapshotId azure).1
  getAws_id _ _ h := SnapshotRepository.snapshotId_coordinatorGet h
  getAzure_id _ _ h := SnapshotRepository.snapshotId_coordinatorGet h

end TcoCalculator
