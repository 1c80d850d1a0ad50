/-
Records that come in groups, each group under the key of its owner: the records
of a key are the group of the owner.
-/
import Mathlib.Data.List.Forall2
import Mathlib.Data.List.Nodup
import Mathlib.Data.List.Perm.Basic

namespace KeyedGroups

variable {α R : Type} {Owns : α → List R → Prop} {owners : List α} {groups : List (List R)}

/-- A result is one of an element. -/
theorem exists_mem_of_forall₂ {β : Type} {S : α → β → Prop} {xs : List α} {ys : List β}
    (h : List.Forall₂ S xs ys) {y : β} (hy : y ∈ ys) : ∃ x ∈ xs, S x y := by
  induction h with
  | nil => exact absurd hy List.not_mem_nil
  | @cons x first _ _ hfirst _ ih =>
      rcases List.mem_cons.mp hy with rfl | hrest
      · exact ⟨x, List.mem_cons_self, hfirst⟩
      · obtain ⟨x', hx', hS⟩ := ih hrest
        exact ⟨x', List.mem_cons_of_mem x hx', hS⟩

theorem exists_owner (h : List.Forall₂ Owns owners groups) {record : R}
    (hrecord : record ∈ groups.flatten) :
    ∃ owner ∈ owners, ∃ group, Owns owner group ∧ record ∈ group := by
  obtain ⟨group, hgroup, hrecord⟩ := List.mem_flatten.mp hrecord
  obtain ⟨owner, howner, howns⟩ := exists_mem_of_forall₂ h hgroup
  exact ⟨owner, howner, group, howns, hrecord⟩

section Keys

variable {K : Type} [DecidableEq K] {ownerKey : α → K} {key : R → K}

theorem filter_eq_nil (key : R → K) (records : List R) {k : K}
    (h : ∀ record ∈ records, key record ≠ k) :
    records.filter (fun record => key record = k) = [] := by
  rw [List.filter_eq_nil_iff]
  intro record hrecord hkey
  exact h record hrecord (of_decide_eq_true hkey)

/-- The records under the key of an owner are its own. -/
theorem filter_ownerKey (h : List.Forall₂ Owns owners groups)
    (hkey : ∀ owner group, Owns owner group → ∀ record ∈ group, key record = ownerKey owner)
    (hnodup : (owners.map ownerKey).Nodup) {owner : α} (howner : owner ∈ owners) :
    ∃ group, Owns owner group ∧
      groups.flatten.filter (fun record => key record = ownerKey owner) = group := by
  induction h with
  | nil => exact absurd howner List.not_mem_nil
  | @cons first group rest groups hfirst hrest ih =>
      obtain ⟨hfresh, hnodup⟩ := List.nodup_cons.mp hnodup
      rw [List.flatten_cons, List.filter_append]
      rcases List.mem_cons.mp howner with rfl | hmem
      · refine ⟨group, hfirst, ?_⟩
        rw [filter_eq_nil key groups.flatten, List.append_nil, List.filter_eq_self]
        · intro record hrecord
          exact decide_eq_true (hkey owner group hfirst record hrecord)
        · intro record hrecord hsame
          obtain ⟨other, hother, _, howns, hmem⟩ := exists_owner hrest hrecord
          rw [hkey other _ howns record hmem] at hsame
          exact hfresh (hsame ▸ List.mem_map_of_mem hother)
      · obtain ⟨own, howns, hown⟩ := ih hnodup hmem
        refine ⟨own, howns, ?_⟩
        rw [filter_eq_nil key group, List.nil_append]
        · exact hown
        · intro record hrecord hsame
          rw [hkey first group hfirst record hrecord] at hsame
          exact hfresh (hsame ▸ List.mem_map_of_mem hmem)

/-- The one element a test is passed by is found wherever it stands. -/
theorem find?_eq_of_mem {p : R → Bool} {xs ys : List R} (hmem : ∀ a, a ∈ xs ↔ a ∈ ys)
    (hunique : ∀ a ∈ xs, ∀ b ∈ xs, p a = true → p b = true → a = b) : xs.find? p = ys.find? p := by
  rcases hfind : ys.find? p with _ | b
  · rw [List.find?_eq_none] at hfind ⊢
    exact fun a ha => hfind a ((hmem a).mp ha)
  · have hb := (hmem b).mpr (List.mem_of_find?_eq_some hfind)
    have hpb := List.find?_some hfind
    rcases hfound : xs.find? p with _ | a
    · exact absurd hpb (List.find?_eq_none.mp hfound b hb)
    · rw [hunique a (List.mem_of_find?_eq_some hfound) b hb (List.find?_some hfound) hpb]

/-- A record under a key is found, if not itself then an earlier one. -/
theorem find?_of_mem {records : List R} {k : K} (h : ∃ record ∈ records, key record = k) :
    ∃ record ∈ records, key record = k ∧
      records.find? (fun record => key record == k) = some record := by
  obtain ⟨record, hrecord, hk⟩ := h
  rcases hfind : records.find? (fun record => key record == k) with _ | found
  · exact absurd (beq_iff_eq.mpr hk) (List.find?_eq_none.mp hfind record hrecord)
  · have hfound := List.find?_some hfind
    exact ⟨found, List.mem_of_find?_eq_some hfind, beq_iff_eq.mp hfound, rfl⟩

omit [DecidableEq K] in
/-- Names that tell the records of a group apart, and show its key, tell all apart. -/
theorem nodup_map_flatten {N : Type} {name : R → N} (h : List.Forall₂ Owns owners groups)
    (hkey : ∀ owner group, Owns owner group → ∀ record ∈ group, key record = ownerKey owner)
    (hnodup : (owners.map ownerKey).Nodup)
    (hown : ∀ owner group, Owns owner group → (group.map name).Nodup)
    (hname : ∀ left right, name left = name right → key left = key right) :
    (groups.flatten.map name).Nodup := by
  induction h with
  | nil => exact List.nodup_nil
  | @cons owner group rest groups hfirst hrest ih =>
      obtain ⟨hfresh, hnodup⟩ := List.nodup_cons.mp hnodup
      rw [List.flatten_cons, List.map_append]
      refine List.Nodup.append (hown owner group hfirst) (ih hnodup) fun n hown hothers => ?_
      obtain ⟨left, hleft, rfl⟩ := List.mem_map.mp hown
      obtain ⟨right, hright, hsame⟩ := List.mem_map.mp hothers
      obtain ⟨other, hother, _, howns, hmem⟩ := exists_owner hrest hright
      have hkeys := hname right left hsame
      rw [hkey other _ howns right hmem, hkey owner group hfirst left hleft] at hkeys
      exact hfresh (hkeys ▸ List.mem_map_of_mem hother)

end Keys

end KeyedGroups
