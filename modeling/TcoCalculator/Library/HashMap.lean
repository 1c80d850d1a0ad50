/-
In-memory hash maps as association lists with distinct keys: the operations a
repository guarded by one lock uses, and how a lookup sees each of them.
-/
import Mathlib.Data.List.AList

namespace TcoCalculator

universe u v

variable {κ : Type u} {α : Type v}

/-- A hash map.  Iteration order is that of the entries. -/
abbrev HashMap (κ : Type u) (α : Type v) := AList (fun _ : κ => α)

namespace HashMap

def values (m : HashMap κ α) : List α := m.entries.map Sigma.snd

def len (m : HashMap κ α) : Nat := m.entries.length

/-- Keep the entries that satisfy a predicate. -/
def retain (m : HashMap κ α) (keep : κ → α → Bool) : HashMap κ α where
  entries := m.entries.filter fun entry => keep entry.1 entry.2
  nodupKeys := m.nodupKeys.sublist List.filter_sublist

variable [DecidableEq κ]

theorem mem_values {m : HashMap κ α} {value : α} :
    value ∈ m.values ↔ ∃ key, m.lookup key = some value := by
  constructor
  · intro hmem
    obtain ⟨⟨key, stored⟩, hentry, rfl⟩ := List.mem_map.mp hmem
    exact ⟨key, AList.mem_lookup_iff.mpr hentry⟩
  · rintro ⟨key, hlookup⟩
    exact List.mem_map.mpr ⟨⟨key, value⟩, AList.mem_lookup_iff.mp hlookup, rfl⟩

theorem lookup_retain (m : HashMap κ α) (keep : κ → α → Bool) (key : κ) :
    (m.retain keep).lookup key = (m.lookup key).filter (keep key) := by
  apply Option.ext
  intro value
  rw [← Option.mem_def, AList.mem_lookup_iff, ← Option.mem_def, Option.mem_filter_iff,
    AList.mem_lookup_iff]
  exact List.mem_filter

theorem lookup_insert_eq_some {m : HashMap κ α} {key key' : κ} {value value' : α}
    (h : (m.insert key value).lookup key' = some value') :
    key' = key ∧ value' = value ∨ key' ≠ key ∧ m.lookup key' = some value' := by
  by_cases hkey : key' = key
  · subst hkey
    rw [AList.lookup_insert] at h
    exact .inl ⟨rfl, (Option.some.inj h).symm⟩
  · rw [AList.lookup_insert_ne hkey] at h
    exact .inr ⟨hkey, h⟩

theorem lookup_insert_eq_none {m : HashMap κ α} {key key' : κ} {value : α}
    (h : (m.insert key value).lookup key' = none) : key' ≠ key ∧ m.lookup key' = none := by
  by_cases hkey : key' = key
  · subst hkey
    rw [AList.lookup_insert] at h
    cases h
  · rw [AList.lookup_insert_ne hkey] at h
    exact ⟨hkey, h⟩

theorem kreplace_cons_eq (key : κ) (stored value : α) (rest : List ((_ : κ) × α)) :
    List.kreplace key value (⟨key, stored⟩ :: rest) = ⟨key, value⟩ :: rest :=
  List.lookmap_cons_some _ _ (if_pos rfl)

theorem kreplace_cons_ne {key head : κ} (stored value : α) (rest : List ((_ : κ) × α))
    (hne : key ≠ head) :
    List.kreplace key value (⟨head, stored⟩ :: rest) =
      ⟨head, stored⟩ :: List.kreplace key value rest :=
  List.lookmap_cons_none _ _ (if_neg hne)

theorem lookup_replace (m : HashMap κ α) {key : κ} (value : α) (hkey : key ∈ m) :
    (m.replace key value).lookup key = some value := by
  rw [AList.mem_keys, AList.keys] at hkey
  change List.dlookup key (List.kreplace key value m.entries) = some value
  generalize m.entries = entries at hkey
  induction entries with
  | nil => simp at hkey
  | cons entry rest ih =>
      obtain ⟨head, stored⟩ := entry
      by_cases hhead : key = head
      · subst hhead
        rw [kreplace_cons_eq, List.dlookup_cons_eq]
      · have hrest : key ∈ rest.keys := by simpa [hhead] using hkey
        rw [kreplace_cons_ne _ _ _ hhead, List.dlookup_cons_ne _ _ hhead]
        exact ih hrest

theorem lookup_replace_ne (m : HashMap κ α) {key other : κ} (value : α)
    (hne : other ≠ key) : (m.replace key value).lookup other = m.lookup other := by
  change List.dlookup other (List.kreplace key value m.entries) = List.dlookup other m.entries
  generalize m.entries = entries
  induction entries with
  | nil => rfl
  | cons entry rest ih =>
      obtain ⟨head, stored⟩ := entry
      by_cases hhead : key = head
      · subst hhead
        rw [kreplace_cons_eq, List.dlookup_cons_ne _ _ hne, List.dlookup_cons_ne _ _ hne]
      · rw [kreplace_cons_ne _ _ _ hhead]
        by_cases hother : other = head
        · subst hother
          rw [List.dlookup_cons_eq, List.dlookup_cons_eq]
        · rw [List.dlookup_cons_ne _ _ hother, List.dlookup_cons_ne _ _ hother, ih]

theorem replace_eq_self {m : HashMap κ α} {key : κ} {value : α}
    (hlookup : m.lookup key = some value) : m.replace key value = m :=
  AList.ext (List.kreplace_self m.nodupKeys (AList.mem_lookup_iff.mp hlookup))

omit [DecidableEq κ] in
theorem len_retain_le (m : HashMap κ α) (keep : κ → α → Bool) : (m.retain keep).len ≤ m.len :=
  List.length_filter_le _ _

omit [DecidableEq κ] in
theorem len_eq_keys (m : HashMap κ α) : m.len = m.keys.length :=
  (List.length_map _).symm

theorem len_insert_of_mem {m : HashMap κ α} {key : κ} (value : α) (h : key ∈ m) :
    len (m.insert key value) = m.len := by
  have hmem : key ∈ m.keys := AList.mem_keys.mp h
  rw [len_eq_keys, AList.keys_insert, List.length_cons, List.length_erase_add_one hmem,
    len_eq_keys]

theorem len_insert_of_notMem {m : HashMap κ α} {key : κ} (value : α) (h : key ∉ m) :
    len (m.insert key value) = m.len + 1 := by
  have hmem : key ∉ m.keys := fun hkey => h (AList.mem_keys.mpr hkey)
  rw [len_eq_keys, AList.keys_insert, List.length_cons, List.erase_of_not_mem hmem, len_eq_keys]

theorem mem_of_lookup {m : HashMap κ α} {key : κ} {value : α}
    (hlookup : m.lookup key = some value) : key ∈ m :=
  AList.lookup_isSome.mp (by rw [hlookup]; rfl)

end HashMap

end TcoCalculator
