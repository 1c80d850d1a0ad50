/-
Maps that are gone through in the order of their keys.
-/
import Mathlib.Data.List.Sort
import TcoCalculator.Library.HashMap
import TcoCalculator.Library.Sorting

namespace TcoCalculator

universe u v

variable {κ : Type u} {α : Type v}

namespace HashMap

/-- The entries in the order of their keys. -/
def toSortedList [LinearOrder κ] (m : HashMap κ α) : List (κ × α) :=
  (m.entries.map fun entry => (entry.1, entry.2)).insertionSort fun left right =>
    left.1 ≤ right.1

theorem mem_toSortedList [DecidableEq κ] [LinearOrder κ] {m : HashMap κ α} {key : κ} {value : α} :
    (key, value) ∈ m.toSortedList ↔ m.lookup key = some value := by
  unfold toSortedList
  rw [(List.perm_insertionSort _ _).mem_iff, List.mem_map]
  constructor
  · rintro ⟨⟨key', value'⟩, hentry, heq⟩
    cases heq
    exact AList.mem_lookup_iff.mpr hentry
  · intro hlookup
    exact ⟨⟨key, value⟩, AList.mem_lookup_iff.mp hlookup, rfl⟩

theorem nodup_keys_toSortedList [LinearOrder κ] (m : HashMap κ α) :
    (m.toSortedList.map Prod.fst).Nodup := by
  unfold toSortedList
  rw [((List.perm_insertionSort _ _).map Prod.fst).nodup_iff, List.map_map]
  exact m.nodupKeys

/-- Maps that answer alike are gone through alike. -/
theorem toSortedList_eq_of_lookup {κ α : Type} [DecidableEq κ] [LinearOrder κ]
    {m m' : HashMap κ α} (h : ∀ key, m.lookup key = m'.lookup key) :
    m.toSortedList = m'.toSortedList := by
  have hperm : (m.entries.map fun entry => (entry.1, entry.2)).Perm
      (m'.entries.map fun entry => (entry.1, entry.2)) := by
    refine List.Perm.map _ ?_
    rw [List.perm_ext_iff_of_nodup (List.NodupKeys.nodup m.nodupKeys)
      (List.NodupKeys.nodup m'.nodupKeys)]
    rintro ⟨key, value⟩
    rw [← AList.mem_lookup_iff, ← AList.mem_lookup_iff, h key]
  unfold toSortedList
  refine Sorting.insertionSort_eq_of_perm (fun a b => le_total a.1 b.1)
    (fun _ _ _ hab hbc => hab.trans hbc) hperm fun a ha b hb hab hba => ?_
  obtain ⟨entry, hentry, rfl⟩ := List.mem_map.mp ha
  obtain ⟨entry', hentry', rfl⟩ := List.mem_map.mp hb
  have hkey : entry.1 = entry'.1 := le_antisymm hab hba
  have hvalue := AList.mem_lookup_iff.mpr hentry
  rw [hkey, AList.mem_lookup_iff.mpr hentry'] at hvalue
  exact Prod.ext hkey (Option.some.inj hvalue).symm

end HashMap

end TcoCalculator
