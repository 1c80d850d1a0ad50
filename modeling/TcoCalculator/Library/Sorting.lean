/-
Stable sorting and least elements by a comparison that may fail.
-/
import Mathlib.Data.List.Destutter
import Mathlib.Data.List.Sort
import TcoCalculator.Library.Fallible

namespace TcoCalculator.Sorting

variable {ε α : Type}

/-- Insert before the first element that does not come earlier. -/
def insertByM (cmp : α → α → Except ε Ordering) (a : α) : List α → Except ε (List α)
  | [] => .ok [a]
  | b :: rest => do
      match ← cmp a b with
      | .gt => return b :: (← insertByM cmp a rest)
      | _ => return a :: b :: rest

/-- Elements that compare equal keep their order. -/
def sortByM (cmp : α → α → Except ε Ordering) : List α → Except ε (List α)
  | [] => .ok []
  | a :: rest => do insertByM cmp a (← sortByM cmp rest)

/-- The first of the least elements. -/
def leastByM (cmp : α → α → Except ε Ordering) : α → List α → Except ε α
  | best, [] => .ok best
  | best, a :: rest => do
      match ← cmp best a with
      | .gt => leastByM cmp a rest
      | _ => leastByM cmp best rest

def minByM (cmp : α → α → Except ε Ordering) : List α → Except ε (Option α)
  | [] => .ok none
  | a :: rest => do return some (← leastByM cmp a rest)

/-- A comparison that succeeds on the elements of a list. -/
def Compares (cmp : α → α → Except ε Ordering) (xs : List α) : Prop :=
  ∀ a ∈ xs, ∀ b ∈ xs, ∃ order, cmp a b = .ok order

theorem Compares.subset {cmp : α → α → Except ε Ordering} {xs ys : List α}
    (h : Compares cmp ys) (hsubset : xs ⊆ ys) : Compares cmp xs :=
  fun a ha b hb => h a (hsubset ha) b (hsubset hb)

theorem insertByM_ok {cmp : α → α → Except ε Ordering} (a : α) (xs : List α)
    (h : Compares cmp (a :: xs)) :
    ∃ inserted, insertByM cmp a xs = .ok inserted ∧ inserted.Perm (a :: xs) := by
  induction xs with
  | nil => exact ⟨[a], rfl, .refl _⟩
  | cons b rest ih =>
      obtain ⟨order, horder⟩ := h a List.mem_cons_self b
        (List.mem_cons_of_mem _ List.mem_cons_self)
      have hrest : a :: rest ⊆ a :: b :: rest :=
        List.cons_subset_cons a (List.subset_cons_self b rest)
      obtain ⟨inserted, hinserted, hperm⟩ := ih (h.subset hrest)
      cases order with
      | gt =>
          refine ⟨b :: inserted, ?_, ?_⟩
          · simp [insertByM, horder, hinserted]
          · exact (hperm.cons b).trans (List.Perm.swap a b rest)
      | lt => exact ⟨a :: b :: rest, by simp [insertByM, horder], .refl _⟩
      | eq => exact ⟨a :: b :: rest, by simp [insertByM, horder], .refl _⟩

theorem sortByM_ok {cmp : α → α → Except ε Ordering} (xs : List α) (h : Compares cmp xs) :
    ∃ sorted, sortByM cmp xs = .ok sorted ∧ sorted.Perm xs := by
  induction xs with
  | nil => exact ⟨[], rfl, .refl _⟩
  | cons a rest ih =>
      obtain ⟨sorted, hsorted, hperm⟩ := ih (h.subset (List.subset_cons_self a rest))
      have hcompares : Compares cmp (a :: sorted) :=
        h.subset (List.cons_subset_cons a hperm.subset)
      obtain ⟨inserted, hinserted, hinsert⟩ := insertByM_ok a sorted hcompares
      exact ⟨inserted, by simp [sortByM, hsorted, hinserted], hinsert.trans (hperm.cons a)⟩

theorem leastByM_ok {cmp : α → α → Except ε Ordering} (best : α) (xs : List α)
    (h : Compares cmp (best :: xs)) :
    ∃ least, leastByM cmp best xs = .ok least ∧ least ∈ best :: xs := by
  induction xs generalizing best with
  | nil => exact ⟨best, rfl, List.mem_cons_self⟩
  | cons a rest ih =>
      obtain ⟨order, horder⟩ := h best List.mem_cons_self a
        (List.mem_cons_of_mem _ List.mem_cons_self)
      have hkeep : best :: rest ⊆ best :: a :: rest :=
        List.cons_subset_cons best (List.subset_cons_self a rest)
      have hmove : a :: rest ⊆ best :: a :: rest := List.subset_cons_self best _
      obtain ⟨kept, hkept, hkeptMem⟩ := ih best (h.subset hkeep)
      obtain ⟨moved, hmoved, hmovedMem⟩ := ih a (h.subset hmove)
      cases order with
      | gt => exact ⟨moved, by simp [leastByM, horder, hmoved], hmove hmovedMem⟩
      | lt => exact ⟨kept, by simp [leastByM, horder, hkept], hkeep hkeptMem⟩
      | eq => exact ⟨kept, by simp [leastByM, horder, hkept], hkeep hkeptMem⟩

theorem minByM_ok {cmp : α → α → Except ε Ordering} (xs : List α) (h : Compares cmp xs) :
    ∃ least, minByM cmp xs = .ok least ∧ ∀ a, least = some a → a ∈ xs := by
  cases xs with
  | nil => exact ⟨none, rfl, fun _ hnone => nomatch hnone⟩
  | cons a rest =>
      obtain ⟨least, hleast, hmem⟩ := leastByM_ok a rest h
      refine ⟨some least, by simp [minByM, hleast], ?_⟩
      rintro found ⟨⟩
      exact hmem

theorem minByM_eq_none {cmp : α → α → Except ε Ordering} {xs : List α} :
    minByM cmp xs = .ok none ↔ xs = [] := by
  cases xs with
  | nil => simp [minByM]
  | cons a rest =>
      simp only [minByM, reduceCtorEq, iff_false]
      intro h
      obtain ⟨least, -, hnone⟩ := Fallible.bind_eq_ok.mp h
      simp at hnone

theorem leastByM_mem {cmp : α → α → Except ε Ordering} {best least : α} {xs : List α}
    (h : leastByM cmp best xs = .ok least) : least ∈ best :: xs := by
  induction xs generalizing best with
  | nil =>
      cases h
      exact List.mem_cons_self
  | cons next rest ih =>
      obtain ⟨order, -, h⟩ := Fallible.bind_eq_ok.mp h
      split at h
      · exact List.mem_cons_of_mem best (ih h)
      · exact List.cons_subset_cons best (List.subset_cons_self next rest) (ih h)

theorem minByM_mem {cmp : α → α → Except ε Ordering} {least : α} {xs : List α}
    (h : minByM cmp xs = .ok (some least)) : least ∈ xs := by
  cases xs with
  | nil => simp [minByM] at h
  | cons a rest =>
      obtain ⟨found, hfound, heq⟩ := Fallible.bind_eq_ok.mp h
      cases heq
      exact leastByM_mem hfound

/-- A result of the comparison says the first element comes no later. -/
def NoLater (cmp : α → α → Except ε Ordering) (a b : α) : Prop :=
  ∃ order, cmp a b = .ok order ∧ order ≠ .gt

/-- Compared pairs can be turned around, and chained. -/
structure Orders (cmp : α → α → Except ε Ordering) : Prop where
  swap : ∀ a b, cmp a b = .ok .gt → NoLater cmp b a
  trans : ∀ a b c, NoLater cmp a b → NoLater cmp b c → NoLater cmp a c

theorem leastByM_returns {cmp : α → α → Except ε Ordering} {best : α} {xs : List α}
    (h : (best :: xs).Pairwise fun a b => Fallible.Returns (cmp a b)) :
    Fallible.Returns (leastByM cmp best xs) := by
  induction xs generalizing best with
  | nil => exact .ok best
  | cons next rest ih =>
      obtain ⟨hbest, hrest⟩ := List.pairwise_cons.mp h
      obtain ⟨order, horder⟩ := hbest next List.mem_cons_self
      have hkept : (best :: rest).Pairwise fun a b => Fallible.Returns (cmp a b) :=
        List.pairwise_cons.mpr ⟨fun a ha => hbest a (List.mem_cons_of_mem next ha),
          (List.pairwise_cons.mp hrest).2⟩
      rw [leastByM, horder, Fallible.ok_bind]
      cases order with
      | gt => exact ih hrest
      | lt => exact ih hkept
      | eq => exact ih hkept

theorem minByM_returns {cmp : α → α → Except ε Ordering} {xs : List α}
    (h : xs.Pairwise fun a b => Fallible.Returns (cmp a b)) :
    Fallible.Returns (minByM cmp xs) := by
  cases xs with
  | nil => exact .ok none
  | cons a rest => exact (leastByM_returns h).bind fun least _ => .ok (some least)

/-! ### The head of a sorted list -/

section Sorted

variable {cmp : α → α → Except ε Ordering} {a b : α} {xs ys sorted sorted' : List α}

theorem insertByM_cons {order : Ordering} {rest inserted : List α} (horder : cmp a b = .ok order)
    (h : insertByM cmp a (b :: rest) = .ok inserted) :
    order = .gt ∧ (∃ tail, insertByM cmp a rest = .ok tail ∧ inserted = b :: tail) ∨
      order ≠ .gt ∧ inserted = a :: b :: rest := by
  unfold insertByM at h
  rw [horder, Fallible.ok_bind] at h
  cases order with
  | gt =>
      obtain ⟨tail, htail, h⟩ := Fallible.bind_eq_ok.mp h
      exact .inl ⟨rfl, tail, htail, (Except.ok.inj h).symm⟩
  | lt => exact .inr ⟨by simp, (Except.ok.inj h).symm⟩
  | eq => exact .inr ⟨by simp, (Except.ok.inj h).symm⟩

theorem insertByM_compares {rest inserted : List α}
    (h : insertByM cmp a (b :: rest) = .ok inserted) : ∃ order, cmp a b = .ok order := by
  obtain ⟨order, horder, -⟩ := Fallible.bind_eq_ok.mp h
  exact ⟨order, horder⟩

theorem insertByM_perm {inserted : List α} (h : insertByM cmp a xs = .ok inserted) :
    inserted.Perm (a :: xs) := by
  induction xs generalizing inserted with
  | nil =>
      cases h
      exact .refl _
  | cons b rest ih =>
      obtain ⟨order, horder⟩ := insertByM_compares h
      rcases insertByM_cons horder h with ⟨-, tail, htail, rfl⟩ | ⟨-, rfl⟩
      · exact ((ih htail).cons b).trans (List.Perm.swap a b rest)
      · exact .refl _

theorem sortByM_cons_eq_ok : sortByM cmp (a :: xs) = .ok sorted ↔
    ∃ rest, sortByM cmp xs = .ok rest ∧ insertByM cmp a rest = .ok sorted :=
  Fallible.bind_eq_ok

theorem sortByM_perm (h : sortByM cmp xs = .ok sorted) : sorted.Perm xs := by
  induction xs generalizing sorted with
  | nil =>
      cases h
      exact .refl _
  | cons a rest ih =>
      obtain ⟨sortedRest, hrest, hinsert⟩ := sortByM_cons_eq_ok.mp h
      exact (insertByM_perm hinsert).trans ((ih hrest).cons a)

theorem insertByM_pairwise (horders : Orders cmp) {inserted : List α}
    (hsorted : xs.Pairwise (NoLater cmp)) (h : insertByM cmp a xs = .ok inserted) :
    inserted.Pairwise (NoLater cmp) := by
  induction xs generalizing inserted with
  | nil =>
      cases h
      simp
  | cons b rest ih =>
      obtain ⟨hb, hrest⟩ := List.pairwise_cons.mp hsorted
      obtain ⟨order, horder⟩ := insertByM_compares h
      rcases insertByM_cons horder h with ⟨rfl, tail, htail, rfl⟩ | ⟨hgt, rfl⟩
      · refine List.pairwise_cons.mpr ⟨fun c hc => ?_, ih hrest htail⟩
        rcases List.mem_cons.mp ((insertByM_perm htail).mem_iff.mp hc) with rfl | hc
        · exact horders.swap c b horder
        · exact hb c hc
      · have hab : NoLater cmp a b := ⟨order, horder, hgt⟩
        refine List.pairwise_cons.mpr ⟨fun c hc => ?_, hsorted⟩
        rcases List.mem_cons.mp hc with rfl | hc
        · exact hab
        · exact horders.trans a b c hab (hb c hc)

theorem sortByM_pairwise (horders : Orders cmp) (h : sortByM cmp xs = .ok sorted) :
    sorted.Pairwise (NoLater cmp) := by
  induction xs generalizing sorted with
  | nil =>
      cases h
      exact .nil
  | cons a rest ih =>
      obtain ⟨sortedRest, hrest, hinsert⟩ := sortByM_cons_eq_ok.mp h
      exact insertByM_pairwise horders (ih hrest) hinsert

/-- Sorting forgets the order of a list whose elements the comparison tells apart. -/
theorem sortByM_eq_of_perm (horders : Orders cmp) (hperm : xs.Perm ys)
    (hantisymm : ∀ a ∈ xs, ∀ b ∈ xs, NoLater cmp a b → NoLater cmp b a → a = b)
    (h : sortByM cmp xs = .ok sorted) (h' : sortByM cmp ys = .ok sorted') : sorted = sorted' := by
  have hsorted := sortByM_perm h
  have hboth : sorted.Perm sorted' := hsorted.trans (hperm.trans (sortByM_perm h').symm)
  apply hboth.eq_of_pairwise _ (sortByM_pairwise horders h) (sortByM_pairwise horders h')
  intro a b ha hb hab hba
  exact hantisymm a (hsorted.mem_iff.mp ha) b (hsorted.mem_iff.mp (hboth.mem_iff.mpr hb)) hab hba

/-- The first of the least elements of a list. -/
structure FirstLeast (cmp : α → α → Except ε Ordering) (least : α) (xs : List α) : Prop where
  split : ∃ earlier later, xs = earlier ++ least :: later ∧
    (∀ b ∈ earlier, cmp b least = .ok .gt) ∧ ∀ b ∈ later, NoLater cmp least b

theorem FirstLeast.mem (h : FirstLeast cmp a xs) : a ∈ xs := by
  obtain ⟨earlier, later, rfl, -⟩ := h.split
  simp

theorem FirstLeast.noLater (horders : Orders cmp) (h : FirstLeast cmp a xs) :
    ∀ b ∈ xs, b = a ∨ NoLater cmp a b := by
  obtain ⟨earlier, later, rfl, hearlier, hlater⟩ := h.split
  intro b hb
  rcases List.mem_append.mp hb with hb | hb
  · exact .inr (horders.swap b a (hearlier b hb))
  · exact (List.mem_cons.mp hb).imp id (hlater b)

theorem FirstLeast.unique (h : FirstLeast cmp a xs) (h' : FirstLeast cmp b xs) : a = b := by
  obtain ⟨earlier, later, rfl, hearlier, hlater⟩ := h.split
  obtain ⟨earlier', later', heq, hearlier', hlater'⟩ := h'.split
  have hconflict : ∀ {x y : α}, cmp x y = .ok .gt → NoLater cmp x y → False := by
    rintro x y hgt ⟨order, horder, hne⟩
    cases hgt.symm.trans horder
    exact hne rfl
  rcases List.append_eq_append_iff.mp heq with ⟨between, rfl, htail⟩ | ⟨between, rfl, htail⟩
  · rcases between with _ | ⟨first, between⟩
    · exact (List.cons.inj htail).1
    · obtain ⟨rfl, rfl⟩ := List.cons.inj htail
      exact (hconflict (hearlier' a (by simp)) (hlater b (by simp))).elim
  · rcases between with _ | ⟨first, between⟩
    · exact (List.cons.inj htail).1.symm
    · obtain ⟨rfl, rfl⟩ := List.cons.inj htail
      exact (hconflict (hearlier b (by simp)) (hlater' a (by simp))).elim

theorem FirstLeast.cons (horders : Orders cmp) {order : Ordering} (h : FirstLeast cmp b xs)
    (horder : cmp a b = .ok order) : FirstLeast cmp (if order = .gt then b else a) (a :: xs) := by
  have hnoLater := h.noLater horders
  obtain ⟨earlier, later, rfl, hearlier, hlater⟩ := h.split
  split
  · rename_i hgt
    subst hgt
    exact ⟨a :: earlier, later, rfl, by simpa [horder] using hearlier, hlater⟩
  · rename_i hgt
    have hab : NoLater cmp a b := ⟨order, horder, hgt⟩
    refine ⟨[], earlier ++ b :: later, rfl, by simp, fun c hc => ?_⟩
    rcases hnoLater c hc with rfl | hbc
    · exact hab
    · exact horders.trans a b c hab hbc

/-- The one element stands before every occurrence of the other. -/
def Before (xs : List α) (a b : α) : Prop :=
  ∃ earlier later, xs = earlier ++ a :: later ∧ b ∉ earlier

theorem Before.asymm (hne : a ≠ b) (h : Before xs a b) : ¬ Before xs b a := by
  rintro ⟨earlier', later', heq, hnot'⟩
  obtain ⟨earlier, later, rfl, hnot⟩ := h
  rcases List.append_eq_append_iff.mp heq with ⟨between, rfl, htail⟩ | ⟨between, rfl, htail⟩
  · rcases between with _ | ⟨first, between⟩
    · exact hne (List.cons.inj htail).1
    · obtain ⟨rfl, -⟩ := List.cons.inj htail
      exact hnot' (by simp)
  · rcases between with _ | ⟨first, between⟩
    · exact hne (List.cons.inj htail).1.symm
    · obtain ⟨rfl, -⟩ := List.cons.inj htail
      exact hnot (by simp)

/-- Against every other element the comparison or the place decides. -/
theorem FirstLeast.cases (horders : Orders cmp) (h : FirstLeast cmp a xs) (hb : b ∈ xs) :
    b = a ∨ cmp b a = .ok .gt ∨ NoLater cmp a b ∧ Before xs a b := by
  by_cases hgt : cmp b a = .ok .gt
  · exact .inr (.inl hgt)
  · rcases h.noLater horders b hb with rfl | hnoLater
    · exact .inl rfl
    · obtain ⟨earlier, later, heq, hearlier, -⟩ := h.split
      exact .inr (.inr ⟨hnoLater, earlier, later, heq, fun hmem => hgt (hearlier b hmem)⟩)

/-- A sorted list starts with the first of the least elements. -/
theorem sortByM_head (horders : Orders cmp) (h : sortByM cmp xs = .ok sorted)
    (hhead : sorted.head? = some a) : FirstLeast cmp a xs := by
  induction xs generalizing sorted a with
  | nil =>
      cases h
      cases hhead
  | cons b rest ih =>
      obtain ⟨sortedRest, hrest, hinsert⟩ := sortByM_cons_eq_ok.mp h
      cases sortedRest with
      | nil =>
          cases hinsert
          cases hhead
          cases List.eq_nil_of_length_eq_zero (sortByM_perm hrest).length_eq.symm
          exact ⟨[], [], rfl, by simp, by simp⟩
      | cons head tail =>
          have hleast := ih hrest rfl
          obtain ⟨order, horder⟩ := insertByM_compares hinsert
          have hcons := hleast.cons horders horder
          rcases insertByM_cons horder hinsert with ⟨rfl, _, -, rfl⟩ | ⟨hgt, rfl⟩
          · cases hhead
            exact hcons
          · cases hhead
            rwa [if_neg hgt] at hcons

theorem sortByM_eq_nil (h : sortByM cmp xs = .ok sorted) : sorted = [] ↔ xs = [] := by
  rw [← List.length_eq_zero_iff, ← List.length_eq_zero_iff, (sortByM_perm h).length_eq]

end Sorted

/-! ### Comparison by keys -/

section Keys

variable {κ κ' : Type} [LinearOrder κ] [LinearOrder κ'] {cmp : α → α → Except ε Ordering}
  {first : α → κ} {rest : α → Except ε κ'} {a b : α}

/-- Compared by one key and, on a tie, by a second one that may fail. -/
def ByKeys (cmp : α → α → Except ε Ordering) (first : α → κ) (rest : α → Except ε κ') : Prop :=
  ∀ left right order, cmp left right = .ok order ↔
    (first left ≠ first right ∧ compare (first left) (first right) = order) ∨
    (first left = first right ∧ ∃ key key', rest left = .ok key ∧ rest right = .ok key' ∧
      compare key key' = order)

theorem ByKeys.noLater_iff (h : ByKeys cmp first rest) : NoLater cmp a b ↔
    first a < first b ∨ (first a = first b ∧
      ∃ key key', rest a = .ok key ∧ rest b = .ok key' ∧ key ≤ key') := by
  constructor
  · rintro ⟨order, horder, hgt⟩
    rcases (h a b order).mp horder with ⟨hne, rfl⟩ | ⟨heq, key, key', ha, hb, rfl⟩
    · rw [ne_eq, compare_gt_iff_gt, not_lt] at hgt
      exact .inl (lt_of_le_of_ne hgt hne)
    · rw [ne_eq, compare_gt_iff_gt, not_lt] at hgt
      exact .inr ⟨heq, key, key', ha, hb, hgt⟩
  · rintro (hlt | ⟨heq, key, key', ha, hb, hle⟩)
    · exact ⟨.lt, (h a b _).mpr (.inl ⟨hlt.ne, compare_lt_iff_lt.mpr hlt⟩), by simp⟩
    · refine ⟨_, (h a b _).mpr (.inr ⟨heq, key, key', ha, hb, rfl⟩), ?_⟩
      rwa [ne_eq, compare_gt_iff_gt, not_lt]

theorem ByKeys.gt_iff (h : ByKeys cmp first rest) : cmp a b = .ok .gt ↔
    first b < first a ∨ (first a = first b ∧
      ∃ key key', rest a = .ok key ∧ rest b = .ok key' ∧ key' < key) := by
  rw [h a b]
  simp only [compare_gt_iff_gt]
  exact or_congr ⟨fun h => h.2, fun h => ⟨h.ne', h⟩⟩ .rfl

/-- No later is earlier, or equal in both keys. -/
theorem ByKeys.noLater_iff_gt (h : ByKeys cmp first rest) : NoLater cmp a b ↔
    cmp b a = .ok .gt ∨ first a = first b ∧ ∃ key, rest a = .ok key ∧ rest b = .ok key := by
  rw [h.noLater_iff, h.gt_iff]
  constructor
  · rintro (hlt | ⟨heq, key, key', ha, hb, hle⟩)
    · exact .inl (.inl hlt)
    · rcases hle.lt_or_eq with hlt | rfl
      · exact .inl (.inr ⟨heq.symm, key', key, hb, ha, hlt⟩)
      · exact .inr ⟨heq, key, ha, hb⟩
  · rintro ((hlt | ⟨heq, key', key, hb, ha, hlt⟩) | ⟨heq, key, ha, hb⟩)
    · exact .inl hlt
    · exact .inr ⟨heq.symm, key, key', ha, hb, hlt.le⟩
    · exact .inr ⟨heq, key, key, ha, hb, le_rfl⟩

theorem ByKeys.orders (h : ByKeys cmp first rest) : Orders cmp where
  swap := by
    intro a b hgt
    rw [h.noLater_iff]
    rcases h.gt_iff.mp hgt with hlt | ⟨heq, key, key', ha, hb, hlt⟩
    · exact .inl hlt
    · exact .inr ⟨heq.symm, key', key, hb, ha, hlt.le⟩
  trans := by
    intro a b c hab hbc
    rw [h.noLater_iff] at hab hbc ⊢
    rcases hab with hlt | ⟨heq, key, key', ha, hb, hle⟩
    · rcases hbc with hlt' | ⟨heq', -⟩
      · exact .inl (hlt.trans hlt')
      · exact .inl (hlt.trans_eq heq')
    · rcases hbc with hlt' | ⟨heq', again, key'', hagain, hc, hle'⟩
      · exact .inl (heq.trans_lt hlt')
      · cases hb.symm.trans hagain
        exact .inr ⟨heq.trans heq', key, key'', ha, hc, hle.trans hle'⟩

/-- Elements of which neither comes later have equal keys. -/
theorem ByKeys.eq_keys (h : ByKeys cmp first rest) (hab : NoLater cmp a b)
    (hba : NoLater cmp b a) : first a = first b ∧ ∃ key, rest a = .ok key ∧ rest b = .ok key := by
  rw [h.noLater_iff] at hab hba
  rcases hab with hlt | ⟨heq, key, key', ha, hb, hle⟩
  · rcases hba with hlt' | ⟨heq', -⟩
    · exact absurd hlt hlt'.not_gt
    · exact absurd heq' hlt.ne'
  · rcases hba with hlt' | ⟨-, again, again', hagain, hagain', hle'⟩
    · exact absurd heq hlt'.ne'
    · cases ha.symm.trans hagain'
      cases hb.symm.trans hagain
      exact ⟨heq, key, ha, by rw [hb, le_antisymm hle hle']⟩

theorem ByKeys.gt_of_gt_of_noLater {c : α} (h : ByKeys cmp first rest) (hac : cmp a c = .ok .gt)
    (hab : NoLater cmp a b) : cmp b c = .ok .gt := by
  rw [h.gt_iff] at hac ⊢
  rcases h.noLater_iff.mp hab with hlt | ⟨heq, key, key', ha, hb, hle⟩
  · rcases hac with hlt' | ⟨heq', -⟩
    · exact .inl (hlt'.trans hlt)
    · exact .inl (heq'.symm.trans_lt hlt)
  · rcases hac with hlt' | ⟨heq', again, key'', hagain, hc, hlt'⟩
    · exact .inl (hlt'.trans_eq heq)
    · cases ha.symm.trans hagain
      exact .inr ⟨heq.symm.trans heq', key', key'', hb, hc, hlt'.trans_le hle⟩

/-- The search for a least element keeps the first one. -/
theorem ByKeys.leastByM_first (h : ByKeys cmp first rest) {best least : α} {xs : List α}
    (hleast : leastByM cmp best xs = .ok least) : FirstLeast cmp least (best :: xs) := by
  induction xs generalizing best with
  | nil =>
      cases hleast
      exact ⟨[], [], rfl, by simp, by simp⟩
  | cons next others ih =>
      obtain ⟨order, horder, hleast⟩ := Fallible.bind_eq_ok.mp hleast
      by_cases hgt : order = .gt
      · subst hgt
        obtain ⟨earlier, later, heq, hearlier, hlater⟩ := (ih hleast).split
        refine ⟨best :: earlier, later, by rw [heq]; rfl, fun b hb => ?_, hlater⟩
        rcases List.mem_cons.mp hb with rfl | hb
        · -- the next element is the least one, or comes after it
          rcases earlier with _ | ⟨second, earlier⟩
          · cases (List.cons.inj heq).1
            exact horder
          · cases (List.cons.inj heq).1
            exact h.gt_of_gt_of_noLater (hearlier next List.mem_cons_self)
              (h.orders.swap b next horder)
        · exact hearlier b hb
      · have hkeep : leastByM cmp best others = .ok least := by
          cases order with
          | gt => exact absurd rfl hgt
          | lt => exact hleast
          | eq => exact hleast
        have hnext : NoLater cmp best next := ⟨order, horder, hgt⟩
        obtain ⟨earlier, later, heq, hearlier, hlater⟩ := (ih hkeep).split
        rcases earlier with _ | ⟨second, earlier⟩
        · obtain ⟨rfl, rfl⟩ := List.cons.inj heq
          exact ⟨[], next :: others, rfl, by simp, by simpa [hnext] using hlater⟩
        · obtain ⟨rfl, rfl⟩ := List.cons.inj heq
          have hbest := hearlier best List.mem_cons_self
          refine ⟨best :: next :: earlier, later, rfl, fun b hb => ?_, hlater⟩
          rcases List.mem_cons.mp hb with rfl | hb
          · exact hbest
          · rcases List.mem_cons.mp hb with rfl | hb
            · exact h.gt_of_gt_of_noLater hbest hnext
            · exact hearlier b (List.mem_cons_of_mem _ hb)

theorem ByKeys.minByM_first (h : ByKeys cmp first rest) {least : α} {xs : List α}
    (hleast : minByM cmp xs = .ok (some least)) : FirstLeast cmp least xs := by
  cases xs with
  | nil => simp [minByM] at hleast
  | cons a others =>
      obtain ⟨found, hfound, heq⟩ := Fallible.bind_eq_ok.mp hleast
      cases heq
      exact h.leastByM_first hfound

end Keys

/-- Sorting forgets the order of a list whose elements the order tells apart. -/
theorem insertionSort_eq_of_perm {r : α → α → Prop} [DecidableRel r]
    (htotal : ∀ a b, r a b ∨ r b a) (htrans : ∀ a b c, r a b → r b c → r a c)
    {xs ys : List α} (hperm : xs.Perm ys)
    (hantisymm : ∀ a ∈ xs, ∀ b ∈ xs, r a b → r b a → a = b) :
    xs.insertionSort r = ys.insertionSort r := by
  have _ : Std.Total r := ⟨htotal⟩
  have _ : IsTrans α r := ⟨htrans⟩
  have hsorted : (xs.insertionSort r).Perm (ys.insertionSort r) :=
    (List.perm_insertionSort r xs).trans (hperm.trans (List.perm_insertionSort r ys).symm)
  apply List.Perm.eq_of_pairwise _ (List.pairwise_insertionSort r xs)
    (List.pairwise_insertionSort r ys) hsorted
  intro a b ha hb hab hba
  have hb' := hperm.mem_iff.mpr ((List.mem_insertionSort r).mp hb)
  exact hantisymm a ((List.mem_insertionSort r).mp ha) b hb' hab hba

/-- Sorting a sorted list changes nothing. -/
theorem insertionSort_idem {r : α → α → Prop} [DecidableRel r]
    (htotal : ∀ a b, r a b ∨ r b a) (htrans : ∀ a b c, r a b → r b c → r a c)
    (xs : List α) : (xs.insertionSort r).insertionSort r = xs.insertionSort r := by
  have _ : Std.Total r := ⟨htotal⟩
  have _ : IsTrans α r := ⟨htrans⟩
  exact (List.pairwise_insertionSort r xs).insertionSort_eq

/-- A fold that picks the better of two finds one of the best. -/
theorem foldl_pick {r : α → α → Prop} {pick : α → α → α} (hrefl : ∀ a, r a a)
    (htrans : ∀ a b c, r a b → r b c → r a c)
    (hpick : ∀ a b, (pick a b = a ∨ pick a b = b) ∧ r (pick a b) a ∧ r (pick a b) b)
    (xs : List α) (best : α) :
    xs.foldl pick best ∈ best :: xs ∧ ∀ a ∈ best :: xs, r (xs.foldl pick best) a := by
  induction xs generalizing best with
  | nil => simp [hrefl]
  | cons next rest ih =>
      obtain ⟨hmem, hbest⟩ := ih (pick best next)
      obtain ⟨heq, hleft, hright⟩ := hpick best next
      rw [List.foldl_cons]
      constructor
      · rcases List.mem_cons.mp hmem with hfound | hfound
        · rw [hfound]
          rcases heq with heq | heq <;> simp [heq]
        · simp [hfound]
      · have hpicked := hbest _ List.mem_cons_self
        intro a ha
        rcases List.mem_cons.mp ha with rfl | ha
        · exact htrans _ _ _ hpicked hleft
        · rcases List.mem_cons.mp ha with rfl | ha
          · exact htrans _ _ _ hpicked hright
          · exact hbest a (List.mem_cons_of_mem _ ha)

section Members

variable [LinearOrder α]

/-- The sorted elements of a list, each once. -/
theorem sorted_destutter (xs : List α) :
    (xs.insertionSort (· ≤ ·)).destutter (· ≠ ·) = (xs.insertionSort (· ≤ ·)).dedup :=
  (List.pairwise_insertionSort (· ≤ ·) xs).destutter_eq_dedup

/-- Sorting and dropping repeats forgets all but the members. -/
theorem sorted_destutter_eq_of_mem {xs ys : List α} (h : ∀ a, a ∈ xs ↔ a ∈ ys) :
    (xs.insertionSort (· ≤ ·)).destutter (· ≠ ·) =
      (ys.insertionSort (· ≤ ·)).destutter (· ≠ ·) := by
  rw [sorted_destutter, sorted_destutter]
  have hperm : (xs.insertionSort (· ≤ ·)).dedup.Perm (ys.insertionSort (· ≤ ·)).dedup := by
    rw [List.perm_ext_iff_of_nodup (List.nodup_dedup _) (List.nodup_dedup _)]
    intro a
    rw [List.mem_dedup, List.mem_dedup, List.mem_insertionSort, List.mem_insertionSort]
    exact h a
  apply hperm.eq_of_pairwise fun a b _ _ => le_antisymm
  · exact (List.pairwise_insertionSort (· ≤ ·) xs).sublist (List.dedup_sublist _)
  · exact (List.pairwise_insertionSort (· ≤ ·) ys).sublist (List.dedup_sublist _)

theorem nodup_sorted_destutter (xs : List α) :
    ((xs.insertionSort (· ≤ ·)).destutter (· ≠ ·)).Nodup := by
  rw [sorted_destutter]
  exact List.nodup_dedup _

theorem mem_sorted_destutter {xs : List α} {a : α} :
    a ∈ (xs.insertionSort (· ≤ ·)).destutter (· ≠ ·) ↔ a ∈ xs := by
  rw [sorted_destutter, List.mem_dedup, List.mem_insertionSort]

theorem sorted_destutter_idem (xs : List α) :
    (((xs.insertionSort (· ≤ ·)).destutter (· ≠ ·)).insertionSort (· ≤ ·)).destutter (· ≠ ·) =
      (xs.insertionSort (· ≤ ·)).destutter (· ≠ ·) :=
  sorted_destutter_eq_of_mem fun _ => mem_sorted_destutter

end Members

end TcoCalculator.Sorting
