/-
One document of a store with entity tags and a time to live.  Every write gets
a fresh tag, a conditional write takes effect only while its precondition
holds, and its report may be lost after it took effect.
-/
import Mathlib.Data.Option.Basic

namespace TcoCalculator

universe u

/-- A stored value with the tag and the time of its last write. -/
structure EtagItem (α : Type u) where
  value : α
  etag : Nat
  writtenAt : Int

structure EtagCell (α : Type u) where
  item : Option (EtagItem α)
  nextEtag : Nat

inductive Precondition where
  | absent
  | ifMatch (etag : Nat)
  deriving DecidableEq, Repr

/-- How the store answers a write: done, refused because of its precondition,
or an error status that leaves open whether the write took effect. -/
inductive WriteReport where
  | ok
  | rejected
  | failed (status : Nat)
  deriving DecidableEq, Repr

namespace EtagCell

variable {α : Type u}

def empty : EtagCell α := ⟨none, 0⟩

def admits (cell : EtagCell α) : Precondition → Bool
  | .absent => cell.item.isNone
  | .ifMatch etag => cell.item.any fun item => item.etag == etag

def put (cell : EtagCell α) (value : α) (now : Int) : EtagCell α :=
  ⟨some ⟨value, cell.nextEtag, now⟩, cell.nextEtag + 1⟩

/-- A conditional write that takes effect or not, with its report.  A write
reported as done has taken effect; every other report is possible either way. -/
def write (cell : EtagCell α) (precondition : Precondition) (value : α) (now : Int)
    (applied : Bool) (report : WriteReport) : Option (EtagCell α) :=
  if applied then
    if cell.admits precondition then some (cell.put value now) else none
  else if report = .ok then none
  else some cell

/-- The store drops a value once its time to live has passed since its write. -/
def expire (cell : EtagCell α) (ttl : α → Int) (now : Int) : Option (EtagCell α) :=
  match cell.item with
  | some item => if item.writtenAt + ttl item.value ≤ now then some ⟨none, cell.nextEtag⟩ else none
  | none => none

theorem write_eq_some {cell cell' : EtagCell α} {precondition : Precondition} {value : α}
    {now : Int} {applied : Bool} {report : WriteReport}
    (h : cell.write precondition value now applied report = some cell') :
    (applied = true ∧ cell.admits precondition = true ∧ cell' = cell.put value now) ∨
      (applied = false ∧ report ≠ .ok ∧ cell' = cell) := by
  unfold write at h
  split at h
  · rename_i happlied
    split at h
    · rename_i hadmits
      exact .inl ⟨happlied, hadmits, (Option.some.inj h).symm⟩
    · cases h
  · rename_i happlied
    split at h
    · cases h
    · rename_i hreport
      exact .inr ⟨by simpa using happlied, hreport, (Option.some.inj h).symm⟩

theorem expire_eq_some {cell cell' : EtagCell α} {ttl : α → Int} {now : Int}
    (h : cell.expire ttl now = some cell') :
    ∃ item, cell.item = some item ∧ item.writtenAt + ttl item.value ≤ now ∧
      cell' = ⟨none, cell.nextEtag⟩ := by
  unfold expire at h
  split at h
  · rename_i item hitem
    split at h
    · rename_i hdue
      exact ⟨item, hitem, hdue, (Option.some.inj h).symm⟩
    · cases h
  · cases h

theorem admits_absent {cell : EtagCell α} : cell.admits .absent = true ↔ cell.item = none := by
  simp [admits]

theorem admits_ifMatch {cell : EtagCell α} {etag : Nat} :
    cell.admits (.ifMatch etag) = true ↔ ∃ item, cell.item = some item ∧ item.etag = etag := by
  simp [admits, Option.any_eq_true]

/-- Tags in use have been issued. -/
def TagsIssued (cell : EtagCell α) : Prop :=
  ∀ item, cell.item = some item → item.etag < cell.nextEtag

theorem TagsIssued.put {cell : EtagCell α} (value : α) (now : Int) :
    (cell.put value now).TagsIssued := by
  rintro item ⟨⟩
  exact Nat.lt_succ_self _

theorem TagsIssued.dropped (etag : Nat) : TagsIssued (⟨none, etag⟩ : EtagCell α) :=
  fun _ h => (nomatch h)

/-- The value was read under the tag: whenever the cell shows the tag again,
it still holds that value. -/
def Observed (cell : EtagCell α) (value : α) (etag : Nat) : Prop :=
  etag < cell.nextEtag ∧ ∀ item, cell.item = some item → item.etag = etag → item.value = value

theorem Observed.of_item {cell : EtagCell α} (hissued : cell.TagsIssued)
    {item : EtagItem α} (hitem : cell.item = some item) :
    cell.Observed item.value item.etag := by
  refine ⟨hissued item hitem, ?_⟩
  intro other hother _
  obtain rfl : item = other := Option.some.inj (hitem.symm.trans hother)
  rfl

theorem Observed.put {cell : EtagCell α} {value : α} {etag : Nat}
    (h : cell.Observed value etag) (new : α) (now : Int) :
    (cell.put new now).Observed value etag := by
  refine ⟨Nat.lt_succ_of_lt h.1, ?_⟩
  rintro item ⟨⟩ hetag
  exact absurd hetag (Nat.ne_of_gt h.1)

theorem Observed.dropped {cell : EtagCell α} {value : α} {etag : Nat}
    (h : cell.Observed value etag) : Observed ⟨none, cell.nextEtag⟩ value etag :=
  ⟨h.1, fun _ hitem => (nomatch hitem)⟩

/-- A write conditional on an observed tag replaces the observed value. -/
theorem Observed.admits {cell : EtagCell α} {value : α} {etag : Nat}
    (h : cell.Observed value etag) (hadmits : cell.admits (.ifMatch etag) = true) :
    ∃ item, cell.item = some item ∧ item.etag = etag ∧ item.value = value := by
  obtain ⟨item, hitem, hetag⟩ := admits_ifMatch.mp hadmits
  exact ⟨item, hitem, hetag, h.2 item hitem hetag⟩

end EtagCell

end TcoCalculator
