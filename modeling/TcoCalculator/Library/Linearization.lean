/-
Operations that take several calls of a shared service and still act at one instant:
however the calls interleave, the answers are those of operations performed one after
another, each between its start and its end.
-/
import Mathlib.Data.List.Forall2
import Mathlib.Logic.Relation
import TcoCalculator.Library.Interaction

namespace TcoCalculator.Linearization

variable {σ τ C R O A : Type}

/-- The states that calls of anyone may lead to. -/
abbrev Later (Serves : σ → C → R → σ → Prop) : σ → σ → Prop :=
  Relation.ReflTransGen fun state after => ∃ call reply, Serves state call reply after

/-! ### One operation -/

section Operation

/- What the service may answer in a state and the state it leaves, what a state looks like
from outside, and what an operation may answer and do there. -/
variable (Serves : σ → C → R → σ → Prop) (view : σ → τ) (Does : τ → O → A → τ → Prop)

/-- The request has acted: nothing more is seen of it, and it ends with the answer. -/
def Returns (answer : A) : Interaction C R A → Prop
  | .done result => result = answer
  | .ask call next => ∀ state reply after, Serves state call reply after →
      view after = view state ∧ Returns answer (next reply)

/-- From the state on that it saw last, the request acts once as the operation may, and
ends with what the operation answered. -/
def Performs (operation : O) : Interaction C R A → σ → Prop
  | .done result, seen => Does (view seen) operation result (view seen)
  | .ask call next, seen => ∀ state reply after, Later Serves seen state →
      Serves state call reply after →
        (view after = view state ∧ Performs operation (next reply) after) ∨
          ∃ answer, Does (view state) operation answer (view after) ∧
            Returns Serves view answer (next reply)

end Operation

/-! ### Many operations -/

/-- A shared state and what became of the operations begun so far. -/
structure Server (σ O P : Type) where
  state : σ
  slots : List (O × P)

/-- An operation begins, or the service answers what one of them asks next. -/
inductive Step (body : O → Interaction C R A) (Serves : σ → C → R → σ → Prop) :
    Server σ O (Interaction C R A) → Server σ O (Interaction C R A) → Prop
  | begin {state : σ} {slots : List (O × Interaction C R A)} (operation : O) :
      Step body Serves ⟨state, slots⟩ ⟨state, (operation, body operation) :: slots⟩
  | serve {state after : σ} {operation : O} {call : C} {reply : R} {next : R → Interaction C R A}
      {before rest : List (O × Interaction C R A)} (served : Serves state call reply after) :
      Step body Serves ⟨state, before ++ (operation, .ask call next) :: rest⟩
        ⟨after, before ++ (operation, next reply) :: rest⟩

/-- An operation begins, or one of them is performed at one stroke. -/
inductive AtomicStep (Does : τ → O → A → τ → Prop) :
    Server τ O (Option A) → Server τ O (Option A) → Prop
  | begin {state : τ} {slots : List (O × Option A)} (operation : O) :
      AtomicStep Does ⟨state, slots⟩ ⟨state, (operation, none) :: slots⟩
  | act {state after : τ} {operation : O} {answer : A} {before rest : List (O × Option A)}
      (does : Does state operation answer after) :
      AtomicStep Does ⟨state, before ++ (operation, none) :: rest⟩
        ⟨after, before ++ (operation, some answer) :: rest⟩

abbrev Reaches (body : O → Interaction C R A) (Serves : σ → C → R → σ → Prop) :
    Server σ O (Interaction C R A) → Server σ O (Interaction C R A) → Prop :=
  Relation.ReflTransGen (Step body Serves)

abbrev AtomicReaches (Does : τ → O → A → τ → Prop) :
    Server τ O (Option A) → Server τ O (Option A) → Prop :=
  Relation.ReflTransGen (AtomicStep Does)

section Simulation

variable (Serves : σ → C → R → σ → Prop) (view : σ → τ) (Does : τ → O → A → τ → Prop)

/-- A request in progress and the operation it stands for, not performed yet or performed. -/
inductive Stands (state : σ) : O × Interaction C R A → O × Option A → Prop
  | waits {operation : O} {call : C} {next : R → Interaction C R A} {seen : σ}
      (later : Later Serves seen state)
      (performs : Performs Serves view Does operation (.ask call next) seen) :
      Stands state (operation, .ask call next) (operation, none)
  | acted {operation : O} {request : Interaction C R A} {answer : A}
      (returns : Returns Serves view answer request) :
      Stands state (operation, request) (operation, some answer)

/-- The one server does what the other does at one stroke. -/
structure Simulates (server : Server σ O (Interaction C R A)) (atomic : Server τ O (Option A)) :
    Prop where
  state : atomic.state = view server.state
  slots : List.Forall₂ (Stands Serves view Does server.state) server.slots atomic.slots

variable {Serves view Does} {body : O → Interaction C R A}

theorem forall₂_append_left {α β : Type} {P : α → β → Prop} {first second : List α}
    {others : List β} (h : List.Forall₂ P (first ++ second) others) :
    ∃ first' second', List.Forall₂ P first first' ∧ List.Forall₂ P second second' ∧
      others = first' ++ second' := by
  induction first generalizing others with
  | nil => exact ⟨[], others, .nil, h, rfl⟩
  | cons a first ih =>
      cases h with
      | @cons _ b _ others hab hrest =>
          obtain ⟨first', second', hfirst, hsecond, rfl⟩ := ih hrest
          exact ⟨b :: first', second', .cons hab hfirst, hsecond, rfl⟩

theorem Stands.later {state after : σ} {slot : O × Interaction C R A} {atomic : O × Option A}
    (h : Stands Serves view Does state slot atomic)
    (hlater : Later Serves state after) : Stands Serves view Does after slot atomic := by
  cases h with
  | waits later performs => exact .waits (later.trans hlater) performs
  | acted returns => exact .acted returns

/-- What holds of any two of the ones holds of any two of the others. -/
theorem pairwise_of_forall₂ {α β : Type} {P : α → β → Prop} {Q : α → α → Prop}
    {Q' : β → β → Prop} {first : List α} {second : List β} (h : List.Forall₂ P first second)
    (hstep : ∀ a a' b b', P a b → P a' b' → Q' b b' → Q a a') (hsecond : second.Pairwise Q') :
    first.Pairwise Q := by
  rw [List.pairwise_iff_getElem] at hsecond ⊢
  intro i j hi hj hij
  have hi' : i < second.length := h.length_eq ▸ hi
  have hj' : j < second.length := h.length_eq ▸ hj
  exact hstep _ _ _ _ (h.get hi hi') (h.get hj hj') (hsecond i j hi' hj' hij)

/-- A request that performs its operation stands for it, once it acted if it has ended. -/
theorem simulates_next {operation : O} {request : Interaction C R A} {state : σ}
    (hperforms : Performs Serves view Does operation request state)
    (before rest : List (O × Option A)) :
    ∃ slot, Stands Serves view Does state (operation, request) slot ∧
      AtomicReaches Does ⟨view state, before ++ (operation, none) :: rest⟩
        ⟨view state, before ++ slot :: rest⟩ := by
  cases request with
  | done result => exact ⟨(operation, some result), .acted rfl, .single (.act hperforms)⟩
  | ask call next => exact ⟨(operation, none), .waits .refl hperforms, .refl⟩

theorem Simulates.step {server after : Server σ O (Interaction C R A)}
    {atomic : Server τ O (Option A)}
    (hbody : ∀ operation, Performs Serves view Does operation (body operation) server.state)
    (h : Simulates Serves view Does server atomic) (hstep : Step body Serves server after) :
    ∃ atomic', AtomicReaches Does atomic atomic' ∧ Simulates Serves view Does after atomic' := by
  obtain ⟨shown, shownSlots⟩ := atomic
  obtain ⟨hstate, hslots⟩ := h
  cases hstate
  cases hstep with
  | @begin state slots operation =>
      obtain ⟨slot, hslot, hreaches⟩ := simulates_next (hbody operation) [] shownSlots
      exact ⟨_, .head (.begin operation) hreaches, rfl, .cons hslot hslots⟩
  | @serve state after operation call reply next before rest served =>
      obtain ⟨shownBefore, shownRest, hbefore, hrest, rfl⟩ := forall₂_append_left hslots
      have hlater : Later Serves state after := .single ⟨call, reply, served⟩
      have hbefore' := hbefore.imp fun _ _ hstands => Stands.later hstands hlater
      cases hrest with
      | @cons _ slot _ shownRest hslot hrest =>
          have hrest' := hrest.imp fun _ _ hstands => Stands.later hstands hlater
          cases hslot with
          | waits later performs =>
              rcases performs state reply after later served with
                ⟨hview, hnext⟩ | ⟨answer, hdoes, hreturns⟩
              · obtain ⟨slot, hslot, hreaches⟩ := simulates_next hnext shownBefore shownRest
                rw [hview] at hreaches
                exact ⟨_, hreaches, hview.symm, List.rel_append hbefore' (.cons hslot hrest')⟩
              · refine ⟨_, .single (.act hdoes), rfl, ?_⟩
                exact List.rel_append hbefore' (.cons (.acted hreturns) hrest')
          | acted returns =>
              obtain ⟨hview, hnext⟩ := returns state reply after served
              exact ⟨_, .refl, hview.symm, List.rel_append hbefore' (.cons (.acted hnext) hrest')⟩

theorem Step.later {server after : Server σ O (Interaction C R A)}
    (h : Step body Serves server after) : Later Serves server.state after.state := by
  cases h with
  | begin => exact .refl
  | serve served => exact .single ⟨_, _, served⟩

/-- Requests that perform their operations do so one after another, in some order. -/
theorem linearizable {start : σ} (hbody : ∀ state, Later Serves start state →
      ∀ operation, Performs Serves view Does operation (body operation) state)
    {server : Server σ O (Interaction C R A)} (h : Reaches body Serves ⟨start, []⟩ server) :
    ∃ atomic, AtomicReaches Does ⟨view start, []⟩ atomic ∧
      Simulates Serves view Does server atomic := by
  suffices hlater : Later Serves start server.state ∧ ∃ atomic,
      AtomicReaches Does ⟨view start, []⟩ atomic ∧ Simulates Serves view Does server atomic from
    hlater.2
  induction h with
  | refl => exact ⟨.refl, _, .refl, rfl, .nil⟩
  | tail _ hstep ih =>
      obtain ⟨hlater, atomic, hreaches, hsimulates⟩ := ih
      obtain ⟨atomic', hreaches', hsimulates'⟩ := hsimulates.step (hbody _ hlater) hstep
      exact ⟨hlater.trans hstep.later, atomic', hreaches.trans hreaches', hsimulates'⟩

/-- A request that has ended ended with what its operation answered. -/
theorem Stands.answer {state : σ} {operation : O} {result : A} {atomic : O × Option A}
    (h : Stands Serves view Does state (operation, .done result) atomic) :
    atomic = (operation, some result) := by
  cases h with
  | acted returns => rw [show result = _ from returns]

/-- The requests that have ended ended with what their operations answered. -/
theorem Simulates.ended {server : Server σ O (Interaction C R A)} {atomic : Server τ O (Option A)}
    (h : Simulates Serves view Does server atomic) :
    List.Forall₂ (fun slot shown => shown.1 = slot.1 ∧
      ∀ result, slot.2 = .done result → shown.2 = some result) server.slots atomic.slots := by
  refine h.slots.imp ?_
  rintro ⟨operation, request⟩ shown hstands
  refine ⟨?_, ?_⟩
  · cases hstands <;> rfl
  · rintro result rfl
    rw [hstands.answer]

end Simulation

end TcoCalculator.Linearization
