/-
Loops over a state made of slots.  Every entry is merged into the slot of its
key, so that the loop is one small loop for each slot; what the loops of the
slots do not see of the order of the entries, the whole loop does not see.
-/
import Mathlib.Data.List.Perm.Basic
import Mathlib.Logic.Function.Basic
import Mathlib.Order.Lattice
import TcoCalculator.Library.Fallible

namespace TcoCalculator

universe u v w x

/-! ### Loops seen through a view -/

namespace Fallible

variable {ε : Type u} {α β γ : Type v}

/-- A loop and its view go the same way when each of their steps does. -/
theorem foldlM_view {step : β → α → Except ε β} {viewStep : γ → α → Option γ} {view : β → γ}
    (hstep : ∀ state a, (step state a).toOption.map view = viewStep (view state) a)
    (xs : List α) (state : β) :
    (xs.foldlM step state).toOption.map view = xs.foldlM viewStep (view state) := by
  induction xs generalizing state with
  | nil => rfl
  | cons a rest ih =>
      rw [List.foldlM_cons, List.foldlM_cons, toOption_bind, ← hstep]
      cases step state a with
      | error e => rfl
      | ok next => exact ih next

/-- Reading an element and going through what it holds, for each element, is
reading all of them first. -/
theorem foldlM_read {read : α → Option (List β)} {step : γ → β → Option γ} (xs : List α)
    (state : γ) :
    xs.foldlM (fun state a => (read a).bind fun entries => entries.foldlM step state) state =
      (xs.mapM read).bind fun entries => entries.flatten.foldlM step state := by
  induction xs generalizing state with
  | nil => rfl
  | cons a rest ih =>
      rw [List.foldlM_cons, List.mapM_cons]
      cases read a with
      | none => rfl
      | some entries =>
          cases hrest : rest.mapM read with
          | none =>
              have hfails : ∀ state, rest.foldlM (fun state a => (read a).bind fun entries =>
                  entries.foldlM step state) state = none := by
                intro state
                rw [ih, hrest]
                rfl
              simp [hfails]
          | some others =>
              simp [ih, hrest, List.foldlM_append]

end Fallible

namespace Slots

variable {κ : Type u} [DecidableEq κ] {τ β : Type v}

def mergeAt (merge : κ → τ → β → Option τ) (slots : κ → τ) (entry : κ × β) : Option (κ → τ) :=
  (merge entry.1 (slots entry.1) entry.2).map (Function.update slots entry.1)

/-- What the entries hold under a key, in order. -/
def entriesOf (entries : List (κ × β)) (key : κ) : List β :=
  (entries.filter fun entry => entry.1 = key).map Prod.snd

@[simp] theorem entriesOf_nil (key : κ) : entriesOf ([] : List (κ × β)) key = [] := rfl

theorem entriesOf_cons_same (entry : κ × β) (rest : List (κ × β)) :
    entriesOf (entry :: rest) entry.1 = entry.2 :: entriesOf rest entry.1 := by
  simp [entriesOf]

theorem entriesOf_cons_other {entry : κ × β} {key : κ} (h : entry.1 ≠ key)
    (rest : List (κ × β)) : entriesOf (entry :: rest) key = entriesOf rest key := by
  simp [entriesOf, h]

theorem mem_entriesOf {entries : List (κ × β)} {key : κ} {b : β} :
    b ∈ entriesOf entries key ↔ (key, b) ∈ entries := by
  simp [entriesOf]

theorem entriesOf_perm {entries entries' : List (κ × β)} (h : entries.Perm entries') (key : κ) :
    (entriesOf entries key).Perm (entriesOf entries' key) :=
  (h.filter _).map _

/-- The loop is the loops of the slots. -/
theorem foldlM_mergeAt {merge : κ → τ → β → Option τ} {entries : List (κ × β)}
    {slots slots' : κ → τ} :
    entries.foldlM (mergeAt merge) slots = some slots' ↔
      ∀ key, (entriesOf entries key).foldlM (merge key) (slots key) = some (slots' key) := by
  induction entries generalizing slots with
  | nil =>
      simp only [List.foldlM_nil, entriesOf_nil, Option.pure_def, Option.some.injEq]
      exact funext_iff
  | cons entry rest ih =>
      rw [List.foldlM_cons, mergeAt]
      constructor
      · intro h key
        cases hmerge : merge entry.1 (slots entry.1) entry.2 with
        | none =>
            rw [hmerge] at h
            cases h
        | some merged =>
            rw [hmerge] at h
            have hrest := ih.mp h key
            by_cases hkey : entry.1 = key
            · subst hkey
              rw [Function.update_self] at hrest
              rw [entriesOf_cons_same, List.foldlM_cons, hmerge]
              exact hrest
            · rw [Function.update_of_ne (Ne.symm hkey)] at hrest
              rw [entriesOf_cons_other hkey]
              exact hrest
      · intro h
        have hsame := h entry.1
        rw [entriesOf_cons_same, List.foldlM_cons] at hsame
        cases hmerge : merge entry.1 (slots entry.1) entry.2 with
        | none =>
            rw [hmerge] at hsame
            cases hsame
        | some merged =>
            rw [hmerge] at hsame
            refine ih.mpr fun key => ?_
            by_cases hkey : entry.1 = key
            · subst hkey
              rw [Function.update_self]
              exact hsame
            · rw [Function.update_of_ne (Ne.symm hkey), ← entriesOf_cons_other hkey]
              exact h key

/-- The loop goes through when those of the slots do. -/
theorem exists_foldlM_mergeAt {merge : κ → τ → β → Option τ} {entries : List (κ × β)}
    {slots : κ → τ}
    (h : ∀ key, ∃ slot, (entriesOf entries key).foldlM (merge key) (slots key) = some slot) :
    ∃ slots', entries.foldlM (mergeAt merge) slots = some slots' := by
  choose slots' hslots using h
  exact ⟨slots', foldlM_mergeAt.mpr hslots⟩

end Slots

/-! ### The latest entry -/

namespace Latest

variable {β δ : Type u} [DecidableEq β] [LinearOrder δ] {date : β → δ}

/-- A later entry takes the slot, an earlier one is passed over, and entries of
one date have to be the same. -/
def merge (date : β → δ) (slot : Option β) (entry : β) : Option (Option β) :=
  match slot with
  | none => some (some entry)
  | some held =>
      if date held < date entry then some (some entry)
      else if date entry = date held then if entry = held then some (some held) else none
      else some (some held)

theorem merge_later {held entry : β} (h : date held < date entry) :
    merge date (some held) entry = some (some entry) := if_pos h

theorem merge_same {held entry : β} (h : date entry = date held) :
    merge date (some held) entry = if entry = held then some (some held) else none := by
  rw [merge, if_neg h.le.not_gt, if_pos h]

theorem merge_earlier {held entry : β} (hlater : ¬ date held < date entry)
    (hsame : date entry ≠ date held) : merge date (some held) entry = some (some held) := by
  rw [merge, if_neg hlater, if_neg hsame]

/-- The slot holds the only entry of the latest date. -/
def Holds (date : β → δ) (entries : List β) (slot : Option β) : Prop :=
  slot.elim (entries = []) fun held => held ∈ entries ∧ ∀ entry ∈ entries,
    date entry ≤ date held ∧ (date entry = date held → entry = held)

/-- Entries of one date are the same. -/
def Undisputed (date : β → δ) (entries : List β) : Prop :=
  ∀ left ∈ entries, ∀ right ∈ entries, date left = date right → left = right

theorem Holds.step {entries : List β} {slot slot' : Option β} {entry : β}
    (hholds : Holds date entries slot) (h : merge date slot entry = some slot') :
    Holds date (entries ++ [entry]) slot' := by
  cases slot with
  | none =>
      obtain rfl : entries = [] := hholds
      cases h
      exact ⟨List.mem_singleton_self entry, by simp⟩
  | some held =>
      obtain ⟨hmem, hlatest⟩ := hholds
      rw [merge] at h
      split_ifs at h with hlater hsame heq
      · cases h
        refine ⟨by simp, fun other hother => ?_⟩
        rcases List.mem_append.mp hother with hold | hnew
        · have hearlier : date other < date entry := lt_of_le_of_lt (hlatest other hold).1 hlater
          exact ⟨hearlier.le, fun hdate => absurd hdate hearlier.ne⟩
        · obtain rfl := List.mem_singleton.mp hnew
          exact ⟨le_rfl, fun _ => rfl⟩
      all_goals
        cases h
        refine ⟨List.mem_append_left _ hmem, fun other hother => ?_⟩
        rcases List.mem_append.mp hother with hold | hnew
        · exact hlatest other hold
        · obtain rfl := List.mem_singleton.mp hnew
          exact ⟨not_lt.mp hlater, fun hdate => by first | exact heq | exact absurd hdate hsame⟩

theorem holds_of_foldlM {entries : List β} {slot : Option β}
    (h : entries.foldlM (merge date) none = some slot) : Holds date entries slot := by
  suffices hrun : ∀ (rest done : List β) (held : Option β), Holds date done held →
      rest.foldlM (merge date) held = some slot → Holds date (done ++ rest) slot from
    hrun entries [] none rfl h
  intro rest
  induction rest with
  | nil =>
      intro done held hholds hdone
      cases hdone
      rwa [List.append_nil]
  | cons entry rest ih =>
      intro done held hholds hrun
      rw [List.foldlM_cons] at hrun
      obtain ⟨next, hnext, hrun⟩ := Option.bind_eq_some_iff.mp hrun
      have := ih (done ++ [entry]) next (hholds.step hnext) hrun
      rwa [List.append_assoc, List.singleton_append] at this

omit [DecidableEq β] in
/-- Which entry is held is a matter of which entries there are. -/
theorem Holds.unique {entries entries' : List β} {slot slot' : Option β}
    (h : Holds date entries slot) (h' : Holds date entries' slot')
    (hsame : ∀ entry, entry ∈ entries ↔ entry ∈ entries') : slot = slot' := by
  cases slot with
  | none =>
      obtain rfl : entries = [] := h
      cases slot' with
      | none => rfl
      | some held => exact absurd ((hsame held).mpr h'.1) List.not_mem_nil
  | some held =>
      cases slot' with
      | none =>
          obtain rfl : entries' = [] := h'
          exact absurd ((hsame held).mp h.1) List.not_mem_nil
      | some held' =>
          have hle := (h'.2 held ((hsame held).mp h.1)).1
          have hge := (h.2 held' ((hsame held').mpr h'.1)).1
          exact congrArg some ((h'.2 held ((hsame held).mp h.1)).2 (le_antisymm hle hge))

theorem foldlM_of_undisputed {entries : List β} (h : Undisputed date entries) :
    ∃ slot, entries.foldlM (merge date) none = some slot := by
  suffices hrun : ∀ (rest : List β) (held : Option β), (∀ entry ∈ rest, entry ∈ entries) →
      (∀ entry, held = some entry → entry ∈ entries) →
        ∃ slot, rest.foldlM (merge date) held = some slot from
    hrun entries none (fun _ hmem => hmem) (fun _ hnone => nomatch hnone)
  intro rest
  induction rest with
  | nil => exact fun held _ _ => ⟨held, rfl⟩
  | cons entry rest ih =>
      intro held hrest hheld
      have hentry := hrest entry List.mem_cons_self
      have htail : ∀ other ∈ rest, other ∈ entries :=
        fun other hother => hrest other (List.mem_cons_of_mem entry hother)
      obtain ⟨next, hnext, hmem⟩ : ∃ next, merge date held entry = some next ∧
          ∀ other, next = some other → other ∈ entries := by
        cases held with
        | none => exact ⟨some entry, rfl, fun _ hsome => Option.some.inj hsome ▸ hentry⟩
        | some held =>
            have hheld := hheld held rfl
            by_cases hlater : date held < date entry
            · exact ⟨some entry, if_pos hlater, fun _ hsome => Option.some.inj hsome ▸ hentry⟩
            · refine ⟨some held, ?_, fun _ hsome => Option.some.inj hsome ▸ hheld⟩
              by_cases hsame : date entry = date held
              · simp [merge, h entry hentry held hheld hsame]
              · simp [merge, hlater, hsame]
      obtain ⟨slot, hslot⟩ := ih next htail hmem
      refine ⟨slot, ?_⟩
      rw [List.foldlM_cons, hnext]
      exact hslot

/-- Entries of the latest date that are not the same end every loop. -/
theorem foldlM_eq_none {entries : List β} {left right : β} (hleft : left ∈ entries)
    (hright : right ∈ entries) (hne : left ≠ right) (hsame : date left = date right)
    (hlatest : ∀ entry ∈ entries, date entry ≤ date left) :
    entries.foldlM (merge date) none = none := by
  rw [Option.eq_none_iff_forall_ne_some]
  intro slot hrun
  cases slot with
  | none =>
      obtain rfl : entries = [] := holds_of_foldlM hrun
      exact absurd hleft List.not_mem_nil
  | some held =>
      obtain ⟨hmem, hheld⟩ := holds_of_foldlM hrun
      have hdate := le_antisymm (hheld left hleft).1 (hlatest held hmem)
      exact hne (((hheld left hleft).2 hdate).trans
        ((hheld right hright).2 (hsame ▸ hdate)).symm)

end Latest

end TcoCalculator
