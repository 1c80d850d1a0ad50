/-
Requests in progress over a state they share, and what is owed there: an item may
stay owed only while a request is on its way to pay it.
-/
import Mathlib.Logic.Relation
import TcoCalculator.Library.Interaction

namespace TcoCalculator

variable {σ C R ε α β ι : Type}

/-- The shared state and the requests in progress. -/
structure Pool (σ C R α : Type) where
  state : σ
  requests : List (Interaction C R α)

namespace Interaction

section Debts

/- What the service may answer in a state and the state it leaves. -/
variable (Serves : σ → C → R → σ → Prop)
/- What is owed in a state. -/
variable (Owed : σ → ι → Prop)

/-- Whatever it is answered, the request leaves the item paid before it ends. -/
def Pays (item : ι) : Interaction C R α → Prop
  | done _ => False
  | ask call next => ∀ state reply after, Serves state call reply after → Owed after item →
      Pays item (next reply)

/-- Whatever the request comes to owe, it pays. -/
def Careful : Interaction C R α → Prop
  | done _ => True
  | ask call next => ∀ state reply after, Serves state call reply after →
      Careful (next reply) ∧ ∀ item, Owed after item → Owed state item ∨
        Pays Serves Owed item (next reply)

variable {Serves Owed}

/-- A request none of whose calls makes anything owed is careful. -/
theorem Asks.careful {P : C → Prop} {request : Interaction C R α} (hasks : request.Asks P)
    (hcalls : ∀ call, P call → ∀ state reply after, Serves state call reply after →
      ∀ item, Owed after item → Owed state item) : Careful Serves Owed request := by
  induction request with
  | done => exact trivial
  | ask call next ih =>
      intro state reply after hserved
      exact ⟨ih reply (hasks.2 reply), fun item howed =>
        .inl (hcalls call hasks.1 state reply after hserved item howed)⟩

end Debts

end Interaction

namespace Pool

/-- A request arrives, or the service answers what one of them asks next. -/
inductive Step (Admitted : Interaction C R α → Prop) (Serves : σ → C → R → σ → Prop) :
    Pool σ C R α → Pool σ C R α → Prop
  | arrive {state : σ} {requests : List (Interaction C R α)} {request : Interaction C R α}
      (admitted : Admitted request) :
      Step Admitted Serves ⟨state, requests⟩ ⟨state, request :: requests⟩
  | serve {state after : σ} {call : C} {reply : R} {next : R → Interaction C R α}
      {before rest : List (Interaction C R α)} (served : Serves state call reply after) :
      Step Admitted Serves ⟨state, before ++ .ask call next :: rest⟩
        ⟨after, before ++ next reply :: rest⟩

/-- The pools that requests served in any order lead to. -/
abbrev Reaches (Admitted : Interaction C R α → Prop) (Serves : σ → C → R → σ → Prop) :
    Pool σ C R α → Pool σ C R α → Prop := Relation.ReflTransGen (Step Admitted Serves)

/-- All requests of the pool are careful, and one of them pays each item owed. -/
structure Settles (Serves : σ → C → R → σ → Prop) (Owed : σ → ι → Prop) (pool : Pool σ C R α) :
    Prop where
  careful : ∀ request ∈ pool.requests, request.Careful Serves Owed
  paid : ∀ item, Owed pool.state item →
    ∃ request ∈ pool.requests, request.Pays Serves Owed item

variable {Admitted : Interaction C R α → Prop} {Serves : σ → C → R → σ → Prop}
  {Owed : σ → ι → Prop} {pool after : Pool σ C R α}

theorem Settles.step (hadmitted : ∀ request, Admitted request → request.Careful Serves Owed)
    (h : Settles Serves Owed pool) (hstep : Step Admitted Serves pool after) :
    Settles Serves Owed after := by
  cases hstep with
  | arrive admitted =>
      refine ⟨?_, ?_⟩
      · exact List.forall_mem_cons.mpr ⟨hadmitted _ admitted, h.careful⟩
      · intro item howed
        obtain ⟨payer, hpayer, hpays⟩ := h.paid item howed
        exact ⟨payer, List.mem_cons_of_mem _ hpayer, hpays⟩
  | @serve state after call reply next before rest served =>
      have hnext := h.careful (.ask call next) (by simp) state reply after served
      refine ⟨?_, ?_⟩
      · intro _ hrequest
        rcases List.mem_append.mp hrequest with hrequest | hrequest
        · exact h.careful _ (List.mem_append_left _ hrequest)
        · rcases List.mem_cons.mp hrequest with rfl | hrequest
          · exact hnext.1
          · exact h.careful _ (List.mem_append_right _ (List.mem_cons_of_mem _ hrequest))
      · intro item howed
        rcases hnext.2 item howed with hbefore | hpays
        -- An old debt: its payer waits as before, or is the one that was answered.
        · obtain ⟨payer, hpayer, hpays⟩ := h.paid item hbefore
          rcases List.mem_append.mp hpayer with hpayer | hpayer
          · exact ⟨payer, List.mem_append_left _ hpayer, hpays⟩
          · rcases List.mem_cons.mp hpayer with rfl | hpayer
            · exact ⟨next reply, by simp, hpays state reply after served howed⟩
            · exact ⟨payer, List.mem_append_right _ (List.mem_cons_of_mem _ hpayer), hpays⟩
        · exact ⟨next reply, by simp, hpays⟩

theorem Settles.reaches (hadmitted : ∀ request, Admitted request → request.Careful Serves Owed)
    (h : Settles Serves Owed pool) (hreaches : Reaches Admitted Serves pool after) :
    Settles Serves Owed after := by
  induction hreaches with
  | refl => exact h
  | tail _ hstep ih => exact ih.step hadmitted hstep

theorem settles_idle {start : σ} (h : ∀ item, ¬ Owed start item) :
    Settles Serves Owed (⟨start, []⟩ : Pool σ C R α) where
  careful _ hrequest := absurd hrequest List.not_mem_nil
  paid item howed := absurd howed (h item)

/-- When all requests have ended nothing is owed. -/
theorem Settles.not_owed (h : Settles Serves Owed pool)
    (hended : ∀ request ∈ pool.requests, ∃ result, request = .done result) (item : ι) :
    ¬ Owed pool.state item := by
  intro howed
  obtain ⟨payer, hpayer, hpays⟩ := h.paid item howed
  obtain ⟨result, rfl⟩ := hended payer hpayer
  exact hpays

end Pool

namespace Handler

variable (Serves : σ → C → R → σ → Prop) (Owed : σ → ι → Prop)

def Pays (item : ι) (body : Handler C R ε α) : Prop := Interaction.Pays Serves Owed item body

def Careful (body : Handler C R ε α) : Prop := Interaction.Careful Serves Owed body

variable {Serves Owed}

theorem careful_lift_bind {value : Outcome ε α} {next : α → Handler C R ε β}
    (hnext : ∀ a, value = .ok a → Careful Serves Owed (next a)) :
    Careful Serves Owed (lift value >>= next) := by
  cases value with
  | ok a => exact hnext a rfl
  | err e => exact trivial
  | panic => exact trivial

theorem careful_check_bind {value : Except ε α} {next : α → Handler C R ε β}
    (hnext : ∀ a, value = .ok a → Careful Serves Owed (next a)) :
    Careful Serves Owed (check value >>= next) :=
  careful_lift_bind fun a ha => hnext a (Outcome.lift_eq_ok.mp ha)

theorem careful_call_bind {call : C} {next : R → Handler C R ε β}
    (hnext : ∀ state reply after, Serves state call reply after →
      Careful Serves Owed (next reply) ∧
        ∀ item, Owed after item → Owed state item ∨ Pays Serves Owed item (next reply)) :
    Careful Serves Owed (Handler.call call >>= next) := hnext

theorem pays_call_bind {call : C} {next : R → Handler C R ε β} {item : ι}
    (hnext : ∀ state reply after, Serves state call reply after → Owed after item →
      Pays Serves Owed item (next reply)) :
    Pays Serves Owed item (Handler.call call >>= next) := hnext

end Handler

end TcoCalculator
