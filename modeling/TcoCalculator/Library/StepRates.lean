/-
Rates that change from step to step: a step bills its rate for every unit up to
its bound, an open one has no bound.
-/
import Mathlib.Algebra.BigOperators.Intervals
import Mathlib.Algebra.Order.BigOperators.Group.Finset
import Mathlib.Algebra.Order.Ring.Defs
import Mathlib.Data.List.Pairwise
import Mathlib.Data.Nat.Cast.WithTop

namespace TcoCalculator.StepRates

universe u

variable {K : Type u}

structure Step (K : Type u) where
  bound : WithTop ℕ
  rate : K

/-- The rate of the first step that reaches the unit. -/
def rateAt [Zero K] (steps : List (Step K)) (unit : ℕ) : K :=
  (steps.find? fun step => (unit : WithTop ℕ) ≤ step.bound).elim 0 Step.rate

/-- The units above one count and up to another, each at its own rate. -/
def total [AddCommMonoid K] (steps : List (Step K)) (previous upTo : ℕ) : K :=
  ∑ unit ∈ Finset.Ioc previous upTo, rateAt steps unit

/-- Bounds increase from the one before on. -/
def Increasing (previous : WithTop ℕ) (steps : List (Step K)) : Prop :=
  (previous :: steps.map Step.bound).Pairwise (· < ·)

/-- Some of the first steps reach the count, have increasing bounds and no
negative rate. -/
def Covered [LE K] [Zero K] (previous : WithTop ℕ) (upTo : ℕ) (steps : List (Step K)) : Prop :=
  ∃ first, first <+: steps ∧ (∀ step ∈ first, 0 ≤ step.rate) ∧ Increasing previous first ∧
    ∃ step ∈ first, (upTo : WithTop ℕ) ≤ step.bound

theorem increasing_cons {previous : WithTop ℕ} {step : Step K} {rest : List (Step K)} :
    Increasing previous (step :: rest) ↔
      previous < step.bound ∧ Increasing step.bound rest := by
  unfold Increasing
  rw [List.map_cons, List.pairwise_cons]
  refine and_congr_left fun hrest => ?_
  constructor
  · intro h
    exact h step.bound List.mem_cons_self
  · intro h bound hmem
    rcases List.mem_cons.mp hmem with rfl | hmem
    · exact h
    · exact h.trans ((List.pairwise_cons.mp hrest).1 bound hmem)

section Covered

variable [LE K] [Zero K] {previous : WithTop ℕ} {upTo : ℕ}

theorem not_covered_nil : ¬ Covered previous upTo ([] : List (Step K)) := by
  rintro ⟨first, hfirst, -, -, step, hstep, -⟩
  rw [List.prefix_nil.mp hfirst] at hstep
  cases hstep

/-- The first step covers the count, or the ones after it do. -/
theorem covered_cons {step : Step K} {rest : List (Step K)} :
    Covered previous upTo (step :: rest) ↔ 0 ≤ step.rate ∧ previous < step.bound ∧
      ((upTo : WithTop ℕ) ≤ step.bound ∨ Covered step.bound upTo rest) := by
  constructor
  · rintro ⟨first, hfirst, hrates, hbounds, last, hlast, hreaches⟩
    cases first with
    | nil => cases hlast
    | cons head tail =>
        obtain ⟨rfl, htail⟩ := List.cons_prefix_cons.mp hfirst
        obtain ⟨hhead, htailBounds⟩ := increasing_cons.mp hbounds
        refine ⟨hrates head List.mem_cons_self, hhead, ?_⟩
        rcases List.mem_cons.mp hlast with rfl | hlast
        · exact .inl hreaches
        · exact .inr ⟨tail, htail, fun other hother => hrates other (List.mem_cons_of_mem _ hother),
            htailBounds, last, hlast, hreaches⟩
  · rintro ⟨hrate, hbound, hreaches | ⟨first, hfirst, hrates, hbounds, last, hlast, hreaches⟩⟩
    · refine ⟨[step], List.cons_prefix_cons.mpr ⟨rfl, List.nil_prefix⟩, ?_, ?_, step,
        List.mem_singleton_self step, hreaches⟩
      · simpa using hrate
      · exact increasing_cons.mpr ⟨hbound, List.pairwise_singleton _ _⟩
    · refine ⟨step :: first, List.cons_prefix_cons.mpr ⟨rfl, hfirst⟩, ?_,
        increasing_cons.mpr ⟨hbound, hbounds⟩, last, List.mem_cons_of_mem _ hlast, hreaches⟩
      simpa using ⟨hrate, hrates⟩

end Covered

/-! ### Totals -/

section Total

variable [Semiring K] {step : Step K} {rest : List (Step K)} {previous upTo limit : ℕ}

theorem rateAt_within {unit : ℕ} (h : (unit : WithTop ℕ) ≤ step.bound) :
    rateAt (step :: rest) unit = step.rate := by
  simp [rateAt, h]

theorem rateAt_beyond {unit : ℕ} (h : ¬ (unit : WithTop ℕ) ≤ step.bound) :
    rateAt (step :: rest) unit = rateAt rest unit := by
  simp [rateAt, h]

/-- One step alone: as many units, each at its rate. -/
theorem total_within (h : (upTo : WithTop ℕ) ≤ step.bound) :
    total (step :: rest) previous upTo = (upTo - previous : ℕ) * step.rate := by
  have hrates : ∀ unit ∈ Finset.Ioc previous upTo, rateAt (step :: rest) unit = step.rate := by
    intro unit hunit
    have hle : (unit : WithTop ℕ) ≤ upTo := WithTop.coe_le_coe.mpr (Finset.mem_Ioc.mp hunit).2
    exact rateAt_within (hle.trans h)
  rw [total, Finset.sum_congr rfl hrates, Finset.sum_const, Nat.card_Ioc, nsmul_eq_mul]

/-- The units of the first step and those of the ones after it. -/
theorem total_beyond (hbound : step.bound = limit) (hprevious : previous ≤ limit)
    (hupTo : limit ≤ upTo) :
    total (step :: rest) previous upTo =
      (limit - previous : ℕ) * step.rate + total rest limit upTo := by
  have hrates : ∀ unit ∈ Finset.Ioc limit upTo,
      rateAt (step :: rest) unit = rateAt rest unit := by
    intro unit hunit
    apply rateAt_beyond
    rw [hbound, not_le]
    exact WithTop.coe_lt_coe.mpr (Finset.mem_Ioc.mp hunit).1
  have hsplit := Finset.sum_Ioc_consecutive (rateAt (step :: rest)) hprevious hupTo
  rw [total, ← hsplit, Finset.sum_congr rfl hrates, ← total, ← total,
    total_within (le_of_eq hbound.symm)]

end Total

section Order

variable [Semiring K] [PartialOrder K] {steps : List (Step K)}

theorem rateAt_nonneg (h : ∀ step ∈ steps, 0 ≤ step.rate) (unit : ℕ) : 0 ≤ rateAt steps unit := by
  unfold rateAt
  cases hfound : steps.find? fun step => (unit : WithTop ℕ) ≤ step.bound with
  | none => exact le_rfl
  | some step => exact h step (List.mem_of_find?_eq_some hfound)

/-- More units cost no less. -/
theorem total_mono [IsOrderedAddMonoid K] (h : ∀ step ∈ steps, 0 ≤ step.rate) (previous : ℕ) {upTo upTo' : ℕ}
    (hle : upTo ≤ upTo') : total steps previous upTo ≤ total steps previous upTo' :=
  Finset.sum_le_sum_of_subset_of_nonneg (Finset.Ioc_subset_Ioc_right hle)
    fun unit _ _ => rateAt_nonneg h unit

end Order

end TcoCalculator.StepRates
