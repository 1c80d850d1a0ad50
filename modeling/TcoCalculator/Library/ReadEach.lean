/-
Lists that are read element by element, where a reading may fail.
-/
import Mathlib.Data.List.Basic

namespace TcoCalculator.ReadEach

variable {α β : Type} {read : α → Option β}

theorem mapM_eq_some {xs : List α} {ys : List β} :
    xs.mapM read = some ys ↔ xs.map read = ys.map some := by
  induction xs generalizing ys with
  | nil => cases ys <;> simp
  | cons x rest ih =>
      cases ys with
      | nil => simp [List.mapM_cons, Option.bind_eq_some_iff]
      | cons y ys => simp [List.mapM_cons, Option.bind_eq_some_iff, ih]

theorem mapM_cons_eq_some {x : α} {rest : List α} {ys : List β} :
    (x :: rest).mapM read = some ys ↔
      ∃ y, read x = some y ∧ ∃ others, rest.mapM read = some others ∧ ys = y :: others := by
  simp only [List.mapM_cons, Option.bind_eq_bind, Option.bind_eq_some_iff, Option.pure_def,
    Option.some.injEq, eq_comm (a := ys)]

theorem mapM_isSome {xs : List α} (h : ∀ x ∈ xs, (read x).isSome) :
    ∃ ys, xs.mapM read = some ys := by
  induction xs with
  | nil => exact ⟨[], rfl⟩
  | cons x rest ih =>
      obtain ⟨y, hy⟩ := Option.isSome_iff_exists.mp (h x List.mem_cons_self)
      obtain ⟨ys, hys⟩ := ih fun x' hx' => h x' (List.mem_cons_of_mem x hx')
      exact ⟨y :: ys, by simp [hy, hys]⟩

theorem isSome_of_mapM {xs : List α} {ys : List β} (h : xs.mapM read = some ys) {x : α}
    (hx : x ∈ xs) : (read x).isSome := by
  have hmem := List.mem_map_of_mem (f := read) hx
  rw [mapM_eq_some.mp h] at hmem
  obtain ⟨y, -, hy⟩ := List.mem_map.mp hmem
  rw [← hy]
  rfl

/-- A list that was read after it was written by an inverse of the reading. -/
theorem mapM_map_eq_some {write : β → α} {ys : List β} :
    (ys.map write).mapM read = some ys ↔ ∀ y ∈ ys, read (write y) = some y := by
  rw [mapM_eq_some, List.map_map, List.map_inj_left]
  rfl

/-- What the elements of a list were read as, one after the other. -/
theorem flatten_of_mapM {read : α → Option (List β)} {xs : List α} {ys : List (List β)}
    (h : xs.mapM read = some ys) : ys.flatten = xs.flatMap fun x => (read x).getD [] := by
  have hmap := congrArg (List.map fun y => y.getD []) (mapM_eq_some.mp h)
  rw [List.map_map, List.map_map] at hmap
  rw [List.flatMap_def]
  exact congrArg List.flatten ((List.map_id ys).symm.trans hmap.symm)

theorem flatten_mapM {read : α → Option (List β)} {g : α → List β}
    (hg : ∀ x ys, read x = some ys → ys = g x) {xs : List α} {ys : List (List β)}
    (h : xs.mapM read = some ys) : ys.flatten = xs.flatMap g := by
  rw [flatten_of_mapM h]
  apply List.flatMap_congr
  intro x hx
  obtain ⟨y, hy⟩ := Option.isSome_iff_exists.mp (isSome_of_mapM h hx)
  rw [hy, ← hg x y hy, Option.getD_some]

end TcoCalculator.ReadEach
