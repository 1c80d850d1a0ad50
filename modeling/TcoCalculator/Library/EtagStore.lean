/-
A container of documents with entity tags, as a service of many clients.  Every write
gets a tag its document never had before, a replacement takes effect only under the tag
it names, and a call may fail with its effect done or not.
-/
import TcoCalculator.Library.HashMap
import TcoCalculator.Library.Linearization

namespace TcoCalculator

variable {κ α : Type}

/-- A stored value and the tag of its last write. -/
structure Tagged (α : Type) where
  value : α
  etag : String

/-- The values and all tags that were issued for each key. -/
structure EtagStore (κ α : Type) where
  items : HashMap κ (Tagged α)
  issued : κ → List String

namespace EtagStore

inductive Call (κ α : Type) where
  | read (key : κ)
  | create (key : κ) (value : α)
  | replace (key : κ) (value : α) (ifMatch : String)
  | delete (key : κ)

/-- An answer; its tag is the one in the header, which may be missing. -/
inductive Reply (α : Type) where
  | item (value : α) (etag : Option String)
  | written (etag : Option String)
  | deleted
  | failed (status : Nat)

/-- A status that says nothing about the document. -/
def Outage (status : Nat) : Prop := status ≠ 404 ∧ status ≠ 412 ∧ status ≠ 413

def empty : EtagStore κ α := ⟨∅, fun _ => []⟩

variable [DecidableEq κ]

def put (store : EtagStore κ α) (key : κ) (value : α) (etag : String) : EtagStore κ α :=
  ⟨store.items.insert key ⟨value, etag⟩,
    Function.update store.issued key (etag :: store.issued key)⟩

def remove (store : EtagStore κ α) (key : κ) : EtagStore κ α :=
  ⟨store.items.erase key, store.issued⟩

/-- A tag for the next write. -/
def Fresh (store : EtagStore κ α) (key : κ) (etag : String) : Prop :=
  etag ≠ "" ∧ etag ∉ store.issued key

/-- What a call does when it is served. -/
inductive Effect (store : EtagStore κ α) : Call κ α → Reply α → EtagStore κ α → Prop
  | read {key : κ} {item : Tagged α} (found : store.items.lookup key = some item) :
      Effect store (.read key) (.item item.value (some item.etag)) store
  | create {key : κ} {value : α} {etag : String} (absent : store.items.lookup key = none)
      (fresh : store.Fresh key etag) :
      Effect store (.create key value) (.written (some etag)) (store.put key value etag)
  | replace {key : κ} {value : α} {item : Tagged α} {etag : String}
      (found : store.items.lookup key = some item) (fresh : store.Fresh key etag) :
      Effect store (.replace key value item.etag) (.written (some etag)) (store.put key value etag)
  | delete {key : κ} {item : Tagged α} (found : store.items.lookup key = some item) :
      Effect store (.delete key) .deleted (store.remove key)

/-- Why a call is refused. -/
inductive Refusal (store : EtagStore κ α) : Call κ α → Nat → Prop
  | readMissing {key : κ} (absent : store.items.lookup key = none) : Refusal store (.read key) 404
  | exists {key : κ} {value : α} {item : Tagged α} (found : store.items.lookup key = some item) :
      Refusal store (.create key value) 409
  | replaceMissing {key : κ} {value : α} {ifMatch : String}
      (absent : store.items.lookup key = none) : Refusal store (.replace key value ifMatch) 404
  | unmatched {key : κ} {value : α} {ifMatch : String} {item : Tagged α}
      (found : store.items.lookup key = some item) (unmatched : item.etag ≠ ifMatch) :
      Refusal store (.replace key value ifMatch) 412
  | deleteMissing {key : κ} (absent : store.items.lookup key = none) :
      Refusal store (.delete key) 404

/-- What a client may be answered.  An outage leaves open whether the call took effect, and
an answer may come without its tag. -/
inductive Serves : EtagStore κ α → Call κ α → Reply α → EtagStore κ α → Prop
  | done {store after : EtagStore κ α} {call : Call κ α} {reply : Reply α}
      (effect : Effect store call reply after) : Serves store call reply after
  | readUntagged {store : EtagStore κ α} {key : κ} {item : Tagged α}
      (found : store.items.lookup key = some item) :
      Serves store (.read key) (.item item.value none) store
  | writtenUntagged {store after : EtagStore κ α} {call : Call κ α} {etag : String}
      (effect : Effect store call (.written (some etag)) after) :
      Serves store call (.written none) after
  | refused {store : EtagStore κ α} {call : Call κ α} {status : Nat}
      (refusal : Refusal store call status) : Serves store call (.failed status) store
  | down {store : EtagStore κ α} {call : Call κ α} {status : Nat} (outage : Outage status) :
      Serves store call (.failed status) store
  | lost {store after : EtagStore κ α} {call : Call κ α} {reply : Reply α} {status : Nat}
      (effect : Effect store call reply after) (outage : Outage status) :
      Serves store call (.failed status) after

/-! ### Tags -/

/-- Tags in use have been issued. -/
def TagsIssued (store : EtagStore κ α) : Prop :=
  ∀ key item, store.items.lookup key = some item → item.etag ∈ store.issued key

/-- The value was read under the tag: whenever the key shows the tag again, it still has
that value. -/
def Observed (key : κ) (item : Tagged α) (store : EtagStore κ α) : Prop :=
  item.etag ∈ store.issued key ∧ ∀ found, store.items.lookup key = some found →
    found.etag = item.etag → found = item

variable {store after : EtagStore κ α} {call : Call κ α} {reply : Reply α} {key : κ}
  {item : Tagged α}

theorem tagsIssued_empty : TagsIssued (empty : EtagStore κ α) := by
  intro key item hfound
  simp [empty] at hfound

theorem put_issued_self (store : EtagStore κ α) (key : κ) (value : α) (etag : String) :
    (store.put key value etag).issued key = etag :: store.issued key := by
  simp [put]

theorem put_issued_ne (store : EtagStore κ α) (value : α) (etag : String) {other : κ}
    (h : other ≠ key) : (store.put key value etag).issued other = store.issued other := by
  simp [put, h]

theorem TagsIssued.put (h : store.TagsIssued) (value : α) (etag : String) :
    (store.put key value etag).TagsIssued := by
  intro other found hfound
  rcases HashMap.lookup_insert_eq_some hfound with ⟨rfl, rfl⟩ | ⟨hother, hfound⟩
  · rw [put_issued_self]
    exact List.mem_cons_self
  · rw [put_issued_ne _ _ _ hother]
    exact h other found hfound

theorem TagsIssued.remove (h : store.TagsIssued) : (store.remove key).TagsIssued := by
  intro other found hfound
  by_cases hkey : other = key
  · rw [hkey, EtagStore.remove, AList.lookup_erase] at hfound
    cases hfound
  · rw [EtagStore.remove, AList.lookup_erase_ne hkey] at hfound
    exact h other found hfound

theorem TagsIssued.observed (h : store.TagsIssued) (hfound : store.items.lookup key = some item) :
    Observed key item store := by
  refine ⟨h key item hfound, ?_⟩
  intro found hagain _
  exact Option.some.inj (hagain.symm.trans hfound)

theorem Observed.put (h : Observed key item store) {other : κ} {value : α} {etag : String}
    (hfresh : store.Fresh other etag) : Observed key item (store.put other value etag) := by
  by_cases hkey : key = other
  · subst hkey
    refine ⟨?_, ?_⟩
    · rw [put_issued_self]
      exact List.mem_cons_of_mem _ h.1
    · rintro found hfound hetag
      rcases HashMap.lookup_insert_eq_some hfound with ⟨-, rfl⟩ | ⟨hother, -⟩
      · have hissued := h.1
        rw [← hetag] at hissued
        exact absurd hissued hfresh.2
      · exact absurd rfl hother
  · refine ⟨?_, ?_⟩
    · rw [put_issued_ne _ _ _ hkey]
      exact h.1
    · intro found hfound hetag
      rw [EtagStore.put, AList.lookup_insert_ne hkey] at hfound
      exact h.2 found hfound hetag

theorem Observed.remove (h : Observed key item store) {other : κ} :
    Observed key item (store.remove other) := by
  refine ⟨h.1, ?_⟩
  intro found hfound hetag
  by_cases hkey : key = other
  · rw [hkey, EtagStore.remove, AList.lookup_erase] at hfound
    cases hfound
  · rw [EtagStore.remove, AList.lookup_erase_ne hkey] at hfound
    exact h.2 found hfound hetag

theorem Effect.tagsIssued (h : Effect store call reply after) (hissued : store.TagsIssued) :
    after.TagsIssued := by
  cases h with
  | read => exact hissued
  | create => exact hissued.put _ _
  | replace => exact hissued.put _ _
  | delete => exact hissued.remove

theorem Effect.observed (h : Effect store call reply after) (hobserved : Observed key item store) :
    Observed key item after := by
  cases h with
  | read => exact hobserved
  | create _ fresh => exact hobserved.put fresh
  | replace _ fresh => exact hobserved.put fresh
  | delete => exact hobserved.remove

theorem Serves.tagsIssued (h : Serves store call reply after) (hissued : store.TagsIssued) :
    after.TagsIssued := by
  cases h with
  | done effect => exact effect.tagsIssued hissued
  | readUntagged => exact hissued
  | writtenUntagged effect => exact effect.tagsIssued hissued
  | refused => exact hissued
  | down => exact hissued
  | lost effect => exact effect.tagsIssued hissued

theorem Serves.observed (h : Serves store call reply after) (hobserved : Observed key item store) :
    Observed key item after := by
  cases h with
  | done effect => exact effect.observed hobserved
  | readUntagged => exact hobserved
  | writtenUntagged effect => exact effect.observed hobserved
  | refused => exact hobserved
  | down => exact hobserved
  | lost effect => exact effect.observed hobserved

theorem tagsIssued_later (hissued : store.TagsIssued) (h : Linearization.Later Serves store after) :
    after.TagsIssued := by
  induction h with
  | refl => exact hissued
  | tail _ hstep ih =>
      obtain ⟨call, reply, hserves⟩ := hstep
      exact hserves.tagsIssued ih

theorem Observed.later (hobserved : Observed key item store)
    (h : Linearization.Later Serves store after) :
    Observed key item after := by
  induction h with
  | refl => exact hobserved
  | tail _ hstep ih =>
      obtain ⟨call, reply, hserves⟩ := hstep
      exact hserves.observed ih

end EtagStore

end TcoCalculator
