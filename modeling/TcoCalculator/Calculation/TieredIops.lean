/-
The tiers of provisioned IOPS bill every single IOPS at the rate of the tier it
falls in, and a schedule is refused exactly when no tiers reach the count.
-/
import TcoCalculator.Calculation.CostTotality
import TcoCalculator.Library.StepRates

namespace TcoCalculator.Cost

open DecimalArith ExactDecimal Fallible Halt StepRates

variable {D : Type} [DecimalArith D]

/-- A tier as a step of the schedule. -/
def stepOf (tier : IopsPriceTier D) : Step ℚ where
  bound := tier.upToInclusive.elim ⊤ fun limit => (limit.toNat : WithTop ℕ)
  rate := value tier.monthlyPerIops

def tierSteps (tiers : List (IopsPriceTier D)) : List (Step ℚ) :=
  tiers.map stepOf

@[simp] theorem tierSteps_cons (tier : IopsPriceTier D) (rest : List (IopsPriceTier D)) :
    tierSteps (tier :: rest) = stepOf tier :: tierSteps rest := rfl

/-- The bounds increase and the last tier is open. -/
def Complete (tiers : List (IopsPriceTier D)) : Prop :=
  Increasing 0 (tierSteps tiers) ∧
    ∃ closed last, tiers = closed ++ [last] ∧ last.upToInclusive = none

def NonnegativeRates (tiers : List (IopsPriceTier D)) : Prop :=
  ∀ tier ∈ tiers, 0 ≤ value tier.monthlyPerIops

theorem step_closed {tier : IopsPriceTier D} {limit : UInt64}
    (h : tier.upToInclusive = some limit) :
    (stepOf tier).bound = (limit.toNat : WithTop ℕ) := by
  simp [stepOf, h]

theorem step_open {tier : IopsPriceTier D} (h : tier.upToInclusive = none) :
    (stepOf tier).bound = ⊤ := by
  simp [stepOf, h]

theorem natCast_withTop_le {m n : ℕ} : (m : WithTop ℕ) ≤ n ↔ m ≤ n := WithTop.coe_le_coe

theorem natCast_withTop_lt {m n : ℕ} : (m : WithTop ℕ) < n ↔ m < n := WithTop.coe_lt_coe

/-! ### One tier -/

theorem min_cases (a b : UInt64) : a ≤ b ∧ Min.min a b = a ∨ b < a ∧ Min.min a b = b := by
  by_cases h : a ≤ b
  · exact .inl ⟨h, if_pos h⟩
  · exact .inr ⟨UInt64.not_le.mp h, if_neg h⟩

/-- A tier bills what is left up to its bound, which lies above the one before. -/
theorem tierUnits_eq_ok {previousLimit remaining units : UInt64} {tier : IopsPriceTier D}
    (h : tierUnits previousLimit remaining tier.upToInclusive = .ok units) :
    (previousLimit.toNat : WithTop ℕ) < (stepOf tier).bound ∧
      (units = remaining ∧
          ((previousLimit.toNat + remaining.toNat : ℕ) : WithTop ℕ) ≤ (stepOf tier).bound ∨
        ∃ limit, tier.upToInclusive = some limit ∧ units.toNat < remaining.toNat ∧
          previousLimit.toNat + units.toNat = limit.toNat) := by
  cases hlimit : tier.upToInclusive with
  | none =>
      rw [hlimit] at h
      cases h
      rw [step_open hlimit]
      exact ⟨WithTop.coe_lt_top _, .inl ⟨rfl, le_top⟩⟩
  | some limit =>
      rw [hlimit, tierUnits] at h
      split_ifs at h with hbelow
      swap
      · cases h
      cases h
      rw [step_closed hlimit, natCast_withTop_lt, natCast_withTop_le]
      have hdiff : (limit - previousLimit).toNat = limit.toNat - previousLimit.toNat :=
        UInt64.toNat_sub_of_le _ _ (UInt64.le_of_lt hbelow)
      have hbelow : previousLimit.toNat < limit.toNat := UInt64.lt_iff_toNat_lt.mp hbelow
      refine ⟨hbelow, ?_⟩
      rcases min_cases remaining (limit - previousLimit) with ⟨hle, hmin⟩ | ⟨hlt, hmin⟩
      · have hle := UInt64.le_iff_toNat_le.mp hle
        exact .inl ⟨hmin, by omega⟩
      · have hlt := UInt64.lt_iff_toNat_lt.mp hlt
        rw [hmin]
        exact .inr ⟨limit, rfl, hlt, by omega⟩

theorem tierUnits_le {previousLimit remaining units : UInt64} {limit : Option UInt64}
    (h : tierUnits previousLimit remaining limit = .ok units) : units ≤ remaining := by
  cases limit with
  | none =>
      cases h
      exact UInt64.le_refl _
  | some limit =>
      rw [tierUnits] at h
      split_ifs at h
      swap
      · cases h
      cases h
      rcases min_cases remaining (limit - previousLimit) with ⟨-, hmin⟩ | ⟨hlt, hmin⟩
      · rw [hmin]
        exact UInt64.le_refl _
      · rw [hmin]
        exact UInt64.le_of_lt hlt

/-- Above the bound before it a tier always has units to bill. -/
theorem exists_tierUnits {previousLimit : UInt64} (remaining : UInt64) {tier : IopsPriceTier D}
    (h : (previousLimit.toNat : WithTop ℕ) < (stepOf tier).bound) :
    ∃ units, tierUnits previousLimit remaining tier.upToInclusive = .ok units := by
  cases hlimit : tier.upToInclusive with
  | none => exact ⟨remaining, rfl⟩
  | some limit =>
      rw [step_closed hlimit, natCast_withTop_lt] at h
      exact ⟨_, if_pos (UInt64.lt_iff_toNat_lt.mpr h)⟩

theorem validateRate_eq_ok {rate : D} : validateRate rate = .ok () ↔ 0 ≤ value rate := by
  unfold validateRate
  split_ifs with hnegative
  · exact ⟨fun h => (nomatch h), fun h => absurd hnegative (not_lt.mpr h)⟩
  · exact ⟨fun _ => not_lt.mp hnegative, fun _ => rfl⟩

/-! ### The loop -/

/-- What one pass of the loop does when the loop returns. -/
theorem tieredIops_cons_eq_ok {previousLimit remaining : UInt64} {before cost : D}
    {tier : IopsPriceTier D} {rest : List (IopsPriceTier D)}
    (h : tieredIops previousLimit remaining before (tier :: rest) = .ok cost) :
    0 ≤ value tier.monthlyPerIops ∧ ∃ units price after,
      tierUnits previousLimit remaining tier.upToInclusive = .ok units ∧
      mul (ofNat units.toNat) tier.monthlyPerIops = .ok price ∧ add before price = .ok after ∧
      (remaining - units = 0 ∧ cost = after ∨ remaining - units ≠ 0 ∧
        ∃ limit, tier.upToInclusive = some limit ∧
          tieredIops limit (remaining - units) after rest = .ok cost) := by
  rw [tieredIops] at h
  obtain ⟨_, hrate, h⟩ := bind_eq_ok.mp h
  obtain ⟨units, hunits, h⟩ := bind_eq_ok.mp h
  obtain ⟨price, hprice, h⟩ := bind_eq_ok.mp h
  obtain ⟨after, hafter, h⟩ := bind_eq_ok.mp h
  refine ⟨validateRate_eq_ok.mp hrate, units, price, after, hunits, liftM_eq_ok.mp hprice,
    liftM_eq_ok.mp hafter, ?_⟩
  split_ifs at h with hdone
  · exact .inl ⟨hdone, (Except.ok.inj h).symm⟩
  · refine .inr ⟨hdone, ?_⟩
    cases hlimit : tier.upToInclusive with
    | none =>
        rw [hlimit] at h
        cases h
    | some limit =>
        rw [hlimit] at h
        exact ⟨limit, rfl, h⟩

theorem remaining_toNat {previousLimit remaining units limit : UInt64}
    (hunits : units.toNat < remaining.toNat)
    (hlimit : previousLimit.toNat + units.toNat = limit.toNat) :
    limit.toNat + (remaining - units).toNat = previousLimit.toNat + remaining.toNat := by
  rw [UInt64.toNat_sub_of_le _ _ (UInt64.le_iff_toNat_le.mpr hunits.le)]
  omega

/-- Where units are left the tier is closed and has billed all of its own. -/
theorem tierUnits_of_left {previousLimit remaining units limit : UInt64} {tier : IopsPriceTier D}
    (hunits : tierUnits previousLimit remaining tier.upToInclusive = .ok units)
    (hleft : remaining - units ≠ 0) (hlimit : tier.upToInclusive = some limit) :
    units.toNat < remaining.toNat ∧ previousLimit.toNat + units.toNat = limit.toNat := by
  obtain ⟨-, ⟨rfl, -⟩ | ⟨limit', hlimit', hlt, hsum⟩⟩ := tierUnits_eq_ok hunits
  · exact absurd (UInt64.sub_self _) hleft
  · rw [hlimit] at hlimit'
    cases hlimit'
    exact ⟨hlt, hsum⟩

theorem tierUnits_of_done {previousLimit remaining units : UInt64} {tier : IopsPriceTier D}
    (hunits : tierUnits previousLimit remaining tier.upToInclusive = .ok units)
    (hdone : remaining - units = 0) : units = remaining ∧
      ((previousLimit.toNat + remaining.toNat : ℕ) : WithTop ℕ) ≤ (stepOf tier).bound := by
  obtain ⟨-, ⟨rfl, hreaches⟩ | ⟨limit, -, hlt, -⟩⟩ := tierUnits_eq_ok hunits
  · exact ⟨rfl, hreaches⟩
  · have hzero := congrArg UInt64.toNat hdone
    rw [UInt64.toNat_sub_of_le _ _ (UInt64.le_iff_toNat_le.mpr hlt.le), UInt64.toNat_zero] at hzero
    omega

/-- The loop adds the price of every IOPS that is left. -/
theorem tieredIops_eq {tiers : List (IopsPriceTier ℚ)} {previousLimit remaining : UInt64}
    {before cost : ℚ} (h : tieredIops previousLimit remaining before tiers = .ok cost) :
    cost = before + total (tierSteps tiers) previousLimit.toNat
      (previousLimit.toNat + remaining.toNat) := by
  induction tiers generalizing previousLimit remaining before with
  | nil => cases h
  | cons tier rest ih =>
      obtain ⟨-, units, price, after, hunits, hprice, hafter, hrest⟩ := tieredIops_cons_eq_ok h
      have hprice : price = units.toNat * tier.monthlyPerIops := by
        rw [ofNat_eq, mul_eq] at hprice
        exact (Except.ok.inj hprice).symm
      have hafter : after = before + price := (Except.ok.inj hafter).symm
      rcases hrest with ⟨hdone, rfl⟩ | ⟨hleft, limit, hlimit, hrest⟩
      · obtain ⟨rfl, hreaches⟩ := tierUnits_of_done hunits hdone
        rw [tierSteps_cons, total_within hreaches, hafter, hprice, Nat.add_sub_cancel_left]
        rfl
      · obtain ⟨hlt, hsum⟩ := tierUnits_of_left hunits hleft hlimit
        rw [ih hrest, remaining_toNat hlt hsum, tierSteps_cons,
          total_beyond (step_closed hlimit) (by omega) (by omega), hafter, hprice, ← hsum,
          Nat.add_sub_cancel_left, add_assoc]
        rfl

/-- A loop that returns has found tiers that reach the count. -/
theorem covered_of_tieredIops {tiers : List (IopsPriceTier D)} {previousLimit remaining : UInt64}
    {before cost : D} (h : tieredIops previousLimit remaining before tiers = .ok cost) :
    Covered (previousLimit.toNat : WithTop ℕ) (previousLimit.toNat + remaining.toNat)
      (tierSteps tiers) := by
  induction tiers generalizing previousLimit remaining before with
  | nil => cases h
  | cons tier rest ih =>
      obtain ⟨hrate, units, price, after, hunits, -, -, hrest⟩ := tieredIops_cons_eq_ok h
      refine covered_cons.mpr ⟨hrate, (tierUnits_eq_ok hunits).1, ?_⟩
      rcases hrest with ⟨hdone, -⟩ | ⟨hleft, limit, hlimit, hrest⟩
      · exact .inl (tierUnits_of_done hunits hdone).2
      · obtain ⟨hlt, hsum⟩ := tierUnits_of_left hunits hleft hlimit
        have hcovered := ih hrest
        rw [remaining_toNat hlt hsum] at hcovered
        exact .inr (step_closed hlimit ▸ hcovered)

/-- Tiers that reach the count are not refused. -/
theorem noRefusal_of_covered {tiers : List (IopsPriceTier D)} {previousLimit remaining : UInt64}
    (before : D) (h : Covered (previousLimit.toNat : WithTop ℕ)
      (previousLimit.toNat + remaining.toNat) (tierSteps tiers)) :
    NoRefusal (tieredIops previousLimit remaining before tiers) := by
  induction tiers generalizing previousLimit remaining before with
  | nil => exact absurd h not_covered_nil
  | cons tier rest ih =>
      obtain ⟨hrate, hbound, hreaches⟩ := covered_cons.mp h
      obtain ⟨units, hunits⟩ := exists_tierUnits remaining hbound
      rw [tieredIops, validateRate_eq_ok.mpr hrate, ok_bind, hunits, ok_bind]
      refine NoRefusal.bind (.lift _) fun price _ => NoRefusal.bind (.lift _) fun after _ => ?_
      split_ifs with hdone
      · exact noRefusal_ok after
      obtain ⟨-, ⟨rfl, -⟩ | ⟨limit, hlimit, hlt, hsum⟩⟩ := tierUnits_eq_ok hunits
      · exact absurd (UInt64.sub_self _) hdone
      · rw [hlimit]
        apply ih
        rw [remaining_toNat hlt hsum]
        rw [step_closed hlimit] at hreaches
        refine hreaches.resolve_left fun hle => ?_
        have hle := natCast_withTop_le.mp hle
        omega

/-! ### Checked subtraction -/

/-- A subtraction that panics where it would underflow. -/
def checkedSub (a b : UInt64) : Except ArithmeticFault UInt64 :=
  if a < b then .error .overflow else .ok (a - b)

theorem checkedSub_of_le {a b : UInt64} (h : b ≤ a) : checkedSub a b = .ok (a - b) :=
  if_neg (UInt64.not_lt.mpr h)

def checkedTierUnits (previousLimit remaining : UInt64) :
    Option UInt64 → Except (Halt CostError) UInt64
  | some limit => do
      if previousLimit < limit then
        let units ← checkedSub limit previousLimit
        return Min.min remaining units
      else refuse .invalidIopsTiers
  | none => .ok remaining

/-- The loop with both of its subtractions checked. -/
def checkedTieredIops (previousLimit remaining : UInt64) (before : D) :
    List (IopsPriceTier D) → Except (Halt CostError) D
  | [] => refuse .invalidIopsTiers
  | tier :: rest => do
      validateRate tier.monthlyPerIops
      let units ← checkedTierUnits previousLimit remaining tier.upToInclusive
      let after ← add before (← mul (ofNat units.toNat) tier.monthlyPerIops)
      let left ← checkedSub remaining units
      if left = 0 then return after
      else
        match tier.upToInclusive with
        | some limit => checkedTieredIops limit left after rest
        | none => refuse .invalidIopsTiers

theorem checkedTierUnits_eq (previousLimit remaining : UInt64) (limit : Option UInt64) :
    checkedTierUnits previousLimit remaining limit = tierUnits previousLimit remaining limit := by
  cases limit with
  | none => rfl
  | some limit =>
      rw [checkedTierUnits, tierUnits]
      split_ifs with hbelow
      · rw [checkedSub_of_le (UInt64.le_of_lt hbelow)]
        rfl
      · rfl

/-- No subtraction of the loop underflows. -/
theorem checkedTieredIops_eq (tiers : List (IopsPriceTier D)) (previousLimit remaining : UInt64)
    (before : D) : checkedTieredIops previousLimit remaining before tiers =
      tieredIops previousLimit remaining before tiers := by
  induction tiers generalizing previousLimit remaining before with
  | nil => rfl
  | cons tier rest ih =>
      rw [checkedTieredIops, tieredIops, checkedTierUnits_eq]
      refine congrArg (validateRate tier.monthlyPerIops >>= ·) (funext fun _ => ?_)
      cases hunits : tierUnits previousLimit remaining tier.upToInclusive with
      | error halt => rfl
      | ok units =>
          rw [ok_bind, ok_bind]
          refine congrArg (_ >>= ·) (funext fun price => ?_)
          refine congrArg (_ >>= ·) (funext fun after => ?_)
          rw [checkedSub_of_le (tierUnits_le hunits), liftM_ok, ok_bind]
          cases tier.upToInclusive with
          | none => rfl
          | some limit => simp only [ih]

/-! ### Schedules -/

theorem increasing_append_open {closed : List (IopsPriceTier D)} {last : IopsPriceTier D}
    (hopen : last.upToInclusive = none) (upTo : ℕ) (previous : WithTop ℕ)
    (hincreasing : Increasing previous (tierSteps (closed ++ [last])))
    (hrates : NonnegativeRates (closed ++ [last])) :
    Covered previous upTo (tierSteps (closed ++ [last])) := by
  refine ⟨_, List.prefix_rfl, ?_, hincreasing, stepOf last, ?_, ?_⟩
  · intro step hstep
    obtain ⟨tier, htier, rfl⟩ := List.mem_map.mp hstep
    exact hrates tier htier
  · exact List.mem_map_of_mem (List.mem_append_right _ (List.mem_singleton_self last))
  · rw [step_open hopen]
    exact le_top

theorem covered_of_complete {tiers : List (IopsPriceTier D)} (hcomplete : Complete tiers)
    (hrates : NonnegativeRates tiers) (upTo : ℕ) : Covered 0 upTo (tierSteps tiers) := by
  obtain ⟨hincreasing, closed, last, rfl, hopen⟩ := hcomplete
  exact increasing_append_open hopen upTo 0 hincreasing hrates

theorem total_zero (steps : List (Step ℚ)) : total steps 0 0 = 0 := by
  rw [total, Finset.Ioc_self, Finset.sum_empty]

theorem tieredIopsCost_eq {tiers : List (IopsPriceTier ℚ)} {count : UInt64} {cost : ℚ}
    (h : tieredIopsCost count tiers = .ok cost) : cost = total (tierSteps tiers) 0 count.toNat := by
  rw [tieredIopsCost] at h
  split_ifs at h with hzero
  · subst hzero
    rw [UInt64.toNat_zero, total_zero]
    exact (Except.ok.inj h).symm.trans zero_eq
  · rw [tieredIops_eq h, zero_eq, zero_add, UInt64.toNat_zero, Nat.zero_add]

theorem tieredIopsCost_noPanic (count : UInt64) (tiers : List (IopsPriceTier ℚ)) :
    NoPanic (tieredIopsCost count tiers) :=
  NoPanic.ite (fun _ => noPanic_ok _) fun _ => tieredIops_noPanic _ _ _ _

theorem returns_of_noPanic {ε α : Type} {x : Except (Halt ε) α} (hpanic : NoPanic x)
    (hrefusal : NoRefusal x) : ∃ a, x = .ok a := by
  cases hx : x with
  | ok a => exact ⟨a, rfl⟩
  | error halt =>
      cases halt with
      | error e => exact absurd hx (hrefusal e)
      | panic fault => exact absurd hx (hpanic fault)

/-- A positive count is billed exactly when some of the first tiers reach it. -/
theorem tieredIopsCost_returns_iff {count : UInt64} (hcount : 0 < count)
    (tiers : List (IopsPriceTier ℚ)) :
    (∃ cost, tieredIopsCost count tiers = .ok cost) ↔
      Covered 0 count.toNat (tierSteps tiers) := by
  have hpositive : count ≠ 0 := by
    rintro rfl
    exact UInt64.lt_irrefl 0 hcount
  have hstart : (UInt64.toNat 0 + count.toNat) = count.toNat := Nat.zero_add _
  constructor
  · rintro ⟨cost, h⟩
    rw [tieredIopsCost, if_neg hpositive] at h
    exact hstart ▸ covered_of_tieredIops h
  · intro h
    apply returns_of_noPanic (tieredIopsCost_noPanic count tiers)
    rw [tieredIopsCost, if_neg hpositive]
    exact noRefusal_of_covered _ (by rwa [hstart])

theorem tieredIopsCost_of_complete {tiers : List (IopsPriceTier ℚ)} (hcomplete : Complete tiers)
    (hrates : NonnegativeRates tiers) (count : UInt64) :
    tieredIopsCost count tiers = .ok (total (tierSteps tiers) 0 count.toNat) := by
  have hreturns : ∃ cost, tieredIopsCost count tiers = .ok cost := by
    by_cases hzero : count = 0
    · exact ⟨_, if_pos hzero⟩
    · exact (tieredIopsCost_returns_iff (UInt64.pos_iff_ne_zero.mpr hzero) tiers).mpr
        (covered_of_complete hcomplete hrates _)
  obtain ⟨cost, hcost⟩ := hreturns
  rw [hcost, tieredIopsCost_eq hcost]

end TcoCalculator.Cost
