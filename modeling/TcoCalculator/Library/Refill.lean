/-
Accounts that refill at a constant rate up to a capacity and pay one unit for each
grant: how much they hold at a later time, and how often they can pay in a window.
-/
import Mathlib.Algebra.Order.Field.Basic
import Mathlib.Tactic.Linarith
import Mathlib.Tactic.Ring

namespace Refill

variable {K : Type} [Field K] [LinearOrder K] [IsStrictOrderedRing K]

/-- What an account holds at a time. -/
structure Account (K : Type) where
  level : K
  time : K

namespace Account

variable (capacity rate : K) (account : Account K)

/-- What the account holds later. -/
def levelAt (now : K) : K := min (account.level + (now - account.time) * rate) capacity

/-- The account after it was asked for a unit. -/
def asked (now : K) : Account K :=
  if 1 ≤ account.levelAt capacity rate now then ⟨account.levelAt capacity rate now - 1, now⟩
  else ⟨account.levelAt capacity rate now, now⟩

/-- How often the account pays at the times that count. -/
def granted (counts : K → Bool) (account : Account K) : List K → ℕ
  | [] => 0
  | now :: rest =>
      (if 1 ≤ account.levelAt capacity rate now ∧ counts now = true then 1 else 0) +
        granted counts (account.asked capacity rate now) rest

variable {capacity rate account}

omit [IsStrictOrderedRing K] in
theorem levelAt_le_capacity (now : K) : account.levelAt capacity rate now ≤ capacity :=
  min_le_right _ _

theorem levelAt_nonneg (hcapacity : 0 ≤ capacity) (hrate : 0 ≤ rate) (hlevel : 0 ≤ account.level)
    {now : K} (htime : account.time ≤ now) : 0 ≤ account.levelAt capacity rate now := by
  have helapsed : 0 ≤ (now - account.time) * rate := mul_nonneg (sub_nonneg.mpr htime) hrate
  exact le_min (add_nonneg hlevel helapsed) hcapacity

/-- Nothing is gained but by the rate. -/
theorem levelAt_le_add (hrate : 0 ≤ rate) {start now : K} (h : start ≤ now) :
    account.levelAt capacity rate now ≤
      account.levelAt capacity rate start + (now - start) * rate := by
  have helapsed : 0 ≤ (now - start) * rate := mul_nonneg (sub_nonneg.mpr h) hrate
  have hsplit : account.level + (now - account.time) * rate =
      account.level + (start - account.time) * rate + (now - start) * rate := by ring
  rw [levelAt, levelAt, hsplit, ← min_add_add_right]
  exact min_le_min_left _ (le_add_of_nonneg_right helapsed)

theorem levelAt_mono (hrate : 0 ≤ rate) {start now : K} (h : start ≤ now) :
    account.levelAt capacity rate start ≤ account.levelAt capacity rate now := by
  have helapsed := mul_le_mul_of_nonneg_right (sub_le_sub_right h account.time) hrate
  exact min_le_min_right _ (add_le_add_right helapsed _)

/-- An account that was looked at goes on as it was. -/
theorem levelAt_levelAt (hrate : 0 ≤ rate) {start now : K} (h : start ≤ now) :
    (⟨account.levelAt capacity rate start, start⟩ : Account K).levelAt capacity rate now =
      account.levelAt capacity rate now := by
  have helapsed : 0 ≤ (now - start) * rate := mul_nonneg (sub_nonneg.mpr h) hrate
  have hsplit : account.level + (now - account.time) * rate =
      account.level + (start - account.time) * rate + (now - start) * rate := by ring
  simp only [levelAt]
  rw [← min_add_add_right, min_assoc, min_eq_right (le_add_of_nonneg_right helapsed), hsplit]

omit [IsStrictOrderedRing K] in
/-- After the time that fills it an account is full. -/
theorem levelAt_eq_capacity {now : K}
    (h : capacity ≤ account.level + (now - account.time) * rate) :
    account.levelAt capacity rate now = capacity :=
  min_eq_right h

omit [IsStrictOrderedRing K] in
theorem asked_time (now : K) : (account.asked capacity rate now).time = now := by
  unfold asked
  split_ifs <;> rfl

omit [IsStrictOrderedRing K] in
theorem asked_level (now : K) : (account.asked capacity rate now).level =
    account.levelAt capacity rate now -
      if 1 ≤ account.levelAt capacity rate now then 1 else 0 := by
  unfold asked
  split_ifs
  · rfl
  · exact (sub_zero _).symm

theorem asked_level_nonneg {now : K} (h : 0 ≤ account.levelAt capacity rate now) :
    0 ≤ (account.asked capacity rate now).level := by
  rw [asked_level]
  split_ifs with hunit
  · exact sub_nonneg.mpr hunit
  · rw [sub_zero]
    exact h

theorem asked_level_le (now : K) : (account.asked capacity rate now).level ≤ capacity := by
  rw [asked_level]
  split_ifs
  · exact (sub_le_self _ zero_le_one).trans (levelAt_le_capacity now)
  · rw [sub_zero]
    exact levelAt_le_capacity now

omit [IsStrictOrderedRing K] in
/-- An account at its own time holds its level. -/
theorem levelAt_self (h : account.level ≤ capacity) :
    account.levelAt capacity rate account.time = account.level := by
  rw [levelAt, sub_self, zero_mul, add_zero, min_eq_left h]

/-! ### Windows -/

/-- Whether a time lies in a window. -/
def inWindow (start stop now : K) : Bool := decide (start ≤ now ∧ now ≤ stop)

omit [IsStrictOrderedRing K] in
theorem granted_eq_zero {counts : K → Bool} {times : List K}
    (h : ∀ now ∈ times, counts now = false) : granted capacity rate counts account times = 0 := by
  induction times generalizing account with
  | nil => rfl
  | cons now rest ih =>
      have hrest : ∀ later ∈ rest, counts later = false :=
        fun later hlater => h later (List.mem_cons_of_mem now hlater)
      rw [granted, ih hrest, h now List.mem_cons_self]
      simp

omit [IsStrictOrderedRing K] in
/-- After a window nothing is paid in it. -/
theorem granted_eq_zero_of_after {start stop now : K} {rest : List K}
    (hsorted : (now :: rest).Pairwise (· ≤ ·)) (hafter : ¬ now ≤ stop) :
    granted capacity rate (inWindow start stop) account (now :: rest) = 0 := by
  refine granted_eq_zero fun later hmem => decide_eq_false fun h => hafter ?_
  rcases List.mem_cons.mp hmem with rfl | hmem
  · exact h.2
  · exact ((List.pairwise_cons.mp hsorted).1 later hmem).trans h.2

/-- From the start of a window on, an account pays at most what it holds and gains. -/
theorem granted_le_levelAt (hcapacity : 0 ≤ capacity) (hrate : 0 ≤ rate) {opening start stop : K}
    {times : List K} (hsorted : times.Pairwise (· ≤ ·)) (hopening : opening ≤ start)
    (htime : account.time ≤ start) (hlevel : 0 ≤ account.level)
    (htimes : ∀ now ∈ times, start ≤ now) (hstop : start ≤ stop) :
    (granted capacity rate (inWindow opening stop) account times : K) ≤
      account.levelAt capacity rate start + (stop - start) * rate := by
  have hgained : 0 ≤ (stop - start) * rate := mul_nonneg (sub_nonneg.mpr hstop) hrate
  have hheld := levelAt_nonneg hcapacity hrate hlevel htime
  induction times generalizing account start with
  | nil =>
      rw [granted, Nat.cast_zero]
      exact add_nonneg hheld hgained
  | cons now rest ih =>
      obtain ⟨hlater, hrest⟩ := List.pairwise_cons.mp hsorted
      have hnow := htimes now List.mem_cons_self
      by_cases hinside : now ≤ stop
      · have hnonneg := levelAt_nonneg hcapacity hrate hlevel (htime.trans hnow)
        have hleft := asked_level_nonneg hnonneg
        have hself : (account.asked capacity rate now).levelAt capacity rate now =
            (account.asked capacity rate now).level := by
          have hown : (account.asked capacity rate now).levelAt capacity rate _ = _ :=
            levelAt_self (asked_level_le now)
          rwa [asked_time] at hown
        have hbound := ih hrest (hopening.trans hnow) (asked_time now).le hleft hlater hinside
          (mul_nonneg (sub_nonneg.mpr hinside) hrate) (hself.symm ▸ hleft)
        rw [hself, asked_level] at hbound
        have hgain : account.levelAt capacity rate now ≤ _ := levelAt_le_add hrate hnow
        have hcounts : inWindow opening stop now = true :=
          decide_eq_true ⟨hopening.trans hnow, hinside⟩
        have hcount : ((if 1 ≤ account.levelAt capacity rate now ∧
            inWindow opening stop now = true then 1 else 0 : ℕ) : K) =
            if 1 ≤ account.levelAt capacity rate now then 1 else 0 := by
          simp [hcounts]
        rw [granted, Nat.cast_add, hcount]
        linarith
      · rw [granted_eq_zero_of_after hsorted hinside, Nat.cast_zero]
        exact add_nonneg hheld hgained

/-- In a window an account pays at most its capacity and what the window gains. -/
theorem granted_le_window (hcapacity : 0 ≤ capacity) (hrate : 0 ≤ rate) {start stop : K}
    {times : List K} (hsorted : times.Pairwise (· ≤ ·)) (hlevel : 0 ≤ account.level)
    (htimes : ∀ now ∈ times, account.time ≤ now) (hstop : start ≤ stop) :
    (granted capacity rate (inWindow start stop) account times : K) ≤
      capacity + (stop - start) * rate := by
  have hgained : 0 ≤ (stop - start) * rate := mul_nonneg (sub_nonneg.mpr hstop) hrate
  induction times generalizing account with
  | nil =>
      rw [granted, Nat.cast_zero]
      exact add_nonneg hcapacity hgained
  | cons now rest ih =>
      obtain ⟨hlater, hrest⟩ := List.pairwise_cons.mp hsorted
      have hnow := htimes now List.mem_cons_self
      by_cases hbefore : now < start
      · have hnonneg := levelAt_nonneg hcapacity hrate hlevel hnow
        have hcounts : inWindow start stop now = false :=
          decide_eq_false fun h => absurd h.1 (not_le.mpr hbefore)
        have hbound := ih hrest (asked_level_nonneg hnonneg)
          fun later hmem => (asked_time now).le.trans (hlater later hmem)
        rw [granted, hcounts]
        simpa using hbound
      · have hstart := not_lt.mp hbefore
        by_cases hinside : now ≤ stop
        · have hbound := granted_le_levelAt hcapacity hrate hsorted hstart hnow hlevel
            (List.forall_mem_cons.mpr ⟨le_rfl, hlater⟩) hinside
          have hheld : account.levelAt capacity rate now ≤ capacity := levelAt_le_capacity now
          have hshorter : (stop - now) * rate ≤ (stop - start) * rate :=
            mul_le_mul_of_nonneg_right (sub_le_sub_left hstart stop) hrate
          exact hbound.trans (add_le_add hheld hshorter)
        · rw [granted_eq_zero_of_after hsorted hinside, Nat.cast_zero]
          exact add_nonneg hcapacity hgained

end Account

end Refill
