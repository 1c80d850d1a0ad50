/-
Clients of operations that take several calls of a shared service.  Where each operation
acts at one stroke the clients cannot tell it from one call, and what all clients of such
calls keep is kept.
-/
import TcoCalculator.Library.Linearization
import TcoCalculator.Library.RequestPool

namespace TcoCalculator

variable {σ τ C R O A Q α : Type}

open Linearization (Later Returns Performs)

/-! ### What requests keep -/

namespace Interaction

/-- Whatever others have done since the request last saw the state, it keeps the invariant. -/
def Keeps (Serves : σ → C → R → σ → Prop) (Holds : σ → Prop) : Interaction C R α → σ → Prop
  | done _, _ => True
  | ask call next, seen => ∀ state reply after, Later Serves seen state → Holds state →
      Serves state call reply after → Holds after ∧ Keeps Serves Holds (next reply) after

variable {Serves : σ → C → R → σ → Prop} {Holds : σ → Prop}

theorem Keeps.later {request : Interaction C R α} {seen state : σ}
    (h : request.Keeps Serves Holds seen) (hlater : Later Serves seen state) :
    request.Keeps Serves Holds state := by
  cases request with
  | done => exact trivial
  | ask call next =>
      intro now reply after hnow
      exact h now reply after (hlater.trans hnow)

/-- A request each of whose calls keeps the invariant. -/
theorem Asks.keeps {P : C → Prop} {request : Interaction C R α} (hasks : request.Asks P)
    (hcalls : ∀ call, P call → ∀ state reply after, Holds state →
      Serves state call reply after → Holds after) (seen : σ) :
    request.Keeps Serves Holds seen := by
  induction request generalizing seen with
  | done => exact trivial
  | ask call next ih =>
      intro state reply after _ hholds hserved
      exact ⟨hcalls call hasks.1 state reply after hholds hserved, ih reply (hasks.2 reply) after⟩

end Interaction

namespace Handler

variable {ε β : Type} {Serves : σ → C → R → σ → Prop} {Holds : σ → Prop} {seen : σ}

variable (Serves Holds) in
def Keeps (body : Handler C R ε α) (seen : σ) : Prop := Interaction.Keeps Serves Holds body seen

theorem keeps_lift {value : Outcome ε α} : Keeps Serves Holds (lift value) seen := trivial

theorem keeps_lift_bind {value : Outcome ε α} {next : α → Handler C R ε β}
    (hnext : ∀ a, value = .ok a → Keeps Serves Holds (next a) seen) :
    Keeps Serves Holds (lift value >>= next) seen := by
  cases value with
  | ok a => exact hnext a rfl
  | err e => exact trivial
  | panic => exact trivial

theorem keeps_check_bind {value : Except ε α} {next : α → Handler C R ε β}
    (hnext : ∀ a, value = .ok a → Keeps Serves Holds (next a) seen) :
    Keeps Serves Holds (check value >>= next) seen :=
  keeps_lift_bind fun a ha => hnext a (Outcome.lift_eq_ok.mp ha)

theorem keeps_call_bind {call : C} {next : R → Handler C R ε β}
    (hnext : ∀ state reply after, Later Serves seen state → Holds state →
      Serves state call reply after → Holds after ∧ Keeps Serves Holds (next reply) after) :
    Keeps Serves Holds (Handler.call call >>= next) seen := hnext

/-- Handlers that keep the invariant one after the other. -/
theorem Keeps.bind {x : Handler C R ε α} {next : α → Handler C R ε β}
    (hx : Keeps Serves Holds x seen) (hnext : ∀ a seen, Keeps Serves Holds (next a) seen) :
    Keeps Serves Holds (x >>= next) seen := by
  change Interaction.Keeps Serves Holds (Interaction.bind x (andThen next)) seen
  induction x generalizing seen with
  | done result =>
      cases result with
      | ok a => exact hnext a seen
      | err e => exact trivial
      | panic => exact trivial
  | ask call follow ih =>
      intro state reply after hlater hholds hserved
      obtain ⟨hafter, hrest⟩ := hx state reply after hlater hholds hserved
      exact ⟨hafter, ih reply hrest⟩

theorem Asks.keeps {P : C → Prop} {body : Handler C R ε α} (hasks : body.Asks P)
    (hcalls : ∀ call, P call → ∀ state reply after, Holds state →
      Serves state call reply after → Holds after) (seen : σ) : Keeps Serves Holds body seen :=
  Interaction.Asks.keeps hasks hcalls seen

theorem Keeps.interaction {body : Handler C R ε α} (h : Keeps Serves Holds body seen) :
    Interaction.Keeps Serves Holds body seen := h

-- A goal about a handler is met by the rules above, one for each of its steps.
attribute [irreducible] Keeps

end Handler

namespace Pool

variable {Admitted : Interaction C R α → Prop} {Serves : σ → C → R → σ → Prop}
  {Holds : σ → Prop}

/-- The invariant holds, and every request in progress keeps it. -/
structure Kept (Serves : σ → C → R → σ → Prop) (Holds : σ → Prop) (pool : Pool σ C R α) :
    Prop where
  holds : Holds pool.state
  keeps : ∀ request ∈ pool.requests, request.Keeps Serves Holds pool.state

theorem Kept.step {pool after : Pool σ C R α} (hadmitted : ∀ request, Admitted request →
      ∀ seen, request.Keeps Serves Holds seen)
    (h : Kept Serves Holds pool) (hstep : Step Admitted Serves pool after) :
    Kept Serves Holds after := by
  cases hstep with
  | arrive admitted =>
      exact ⟨h.holds, List.forall_mem_cons.mpr ⟨hadmitted _ admitted _, h.keeps⟩⟩
  | @serve state after call reply next before rest served =>
      obtain ⟨hholds, hnext⟩ :=
        h.keeps (.ask call next) (by simp) state reply after .refl h.holds served
      have hlater : Later Serves state after := .single ⟨call, reply, served⟩
      refine ⟨hholds, ?_⟩
      intro request hrequest
      rcases List.mem_append.mp hrequest with hrequest | hrequest
      · exact (h.keeps request (List.mem_append_left _ hrequest)).later hlater
      · rcases List.mem_cons.mp hrequest with rfl | hrequest
        · exact hnext
        · exact (h.keeps request
            (List.mem_append_right _ (List.mem_cons_of_mem _ hrequest))).later hlater

/-- What every admitted request keeps holds in every state that is reached. -/
theorem kept_reaches {start : σ} {pool : Pool σ C R α} (hadmitted : ∀ request,
      Admitted request → ∀ seen, request.Keeps Serves Holds seen) (hstart : Holds start)
    (h : Reaches Admitted Serves ⟨start, []⟩ pool) : Kept Serves Holds pool := by
  induction h with
  | refl => exact ⟨hstart, by simp⟩
  | tail _ hstep ih => exact ih.step hadmitted hstep

end Pool

/-! ### Clients of operations -/

/-- A client, between its calls or in the middle of an operation that serves one. -/
inductive Client (C R A Q α : Type) where
  | idle (request : Interaction Q A α)
  | calling (operation : Interaction C R A) (next : A → Interaction Q A α)

structure Clients (σ C R A Q α : Type) where
  state : σ
  clients : List (Client C R A Q α)

namespace Clients

/-- A client arrives, begins an operation for its next call, has the service answer what
the operation asks next, or goes on with what the operation answered. -/
inductive Step (Admitted : Interaction Q A α → Prop) (Issues : Q → O → Prop)
    (body : O → Interaction C R A) (Serves : σ → C → R → σ → Prop) :
    Clients σ C R A Q α → Clients σ C R A Q α → Prop
  | arrive {state : σ} {clients : List (Client C R A Q α)} {request : Interaction Q A α}
      (admitted : Admitted request) :
      Step Admitted Issues body Serves ⟨state, clients⟩ ⟨state, .idle request :: clients⟩
  | begin {state : σ} {question : Q} {operation : O} {next : A → Interaction Q A α}
      {before rest : List (Client C R A Q α)} (issues : Issues question operation) :
      Step Admitted Issues body Serves ⟨state, before ++ .idle (.ask question next) :: rest⟩
        ⟨state, before ++ .calling (body operation) next :: rest⟩
  | serve {state after : σ} {call : C} {reply : R} {follow : R → Interaction C R A}
      {next : A → Interaction Q A α} {before rest : List (Client C R A Q α)}
      (served : Serves state call reply after) :
      Step Admitted Issues body Serves ⟨state, before ++ .calling (.ask call follow) next :: rest⟩
        ⟨after, before ++ .calling (follow reply) next :: rest⟩
  | resume {state : σ} {answer : A} {next : A → Interaction Q A α}
      {before rest : List (Client C R A Q α)} :
      Step Admitted Issues body Serves ⟨state, before ++ .calling (.done answer) next :: rest⟩
        ⟨state, before ++ .idle (next answer) :: rest⟩

abbrev Reaches (Admitted : Interaction Q A α → Prop) (Issues : Q → O → Prop)
    (body : O → Interaction C R A) (Serves : σ → C → R → σ → Prop) :
    Clients σ C R A Q α → Clients σ C R A Q α → Prop :=
  Relation.ReflTransGen (Step Admitted Issues body Serves)

/-- A call served at one stroke, by an operation that it may be served by. -/
def Answers (Issues : Q → O → Prop) (Does : τ → O → A → τ → Prop) (state : τ) (question : Q)
    (answer : A) (after : τ) : Prop :=
  ∃ operation, Issues question operation ∧ Does state operation answer after

section Simulation

variable (Issues : Q → O → Prop) (Serves : σ → C → R → σ → Prop) (view : σ → τ)
  (Does : τ → O → A → τ → Prop)

/-- A client and the request it stands for, whose call is not served yet or was served. -/
inductive Mirrors (state : σ) : Client C R A Q α → Interaction Q A α → Prop
  | idle {request : Interaction Q A α} : Mirrors state (.idle request) request
  | waits {question : Q} {operation : O} {call : C} {follow : R → Interaction C R A}
      {next : A → Interaction Q A α} {seen : σ} (issues : Issues question operation)
      (later : Later Serves seen state)
      (performs : Performs Serves view Does operation (.ask call follow) seen) :
      Mirrors state (.calling (.ask call follow) next) (.ask question next)
  | acted {operation : Interaction C R A} {next : A → Interaction Q A α} {answer : A}
      (returns : Returns Serves view answer operation) :
      Mirrors state (.calling operation next) (next answer)

/-- The pool serves the same clients at one stroke. -/
structure Simulates (clients : Clients σ C R A Q α) (pool : Pool τ Q A α) : Prop where
  state : pool.state = view clients.state
  requests : List.Forall₂ (Mirrors Issues Serves view Does clients.state) clients.clients
    pool.requests

variable {Issues Serves view Does} {Admitted : Interaction Q A α → Prop}
  {body : O → Interaction C R A}

theorem Mirrors.later {state after : σ} {client : Client C R A Q α} {request : Interaction Q A α}
    (h : Mirrors Issues Serves view Does state client request)
    (hlater : Later Serves state after) : Mirrors Issues Serves view Does after client request := by
  cases h with
  | idle => exact .idle
  | waits issues later performs => exact .waits issues (later.trans hlater) performs
  | acted returns => exact .acted returns

/-- An operation on its way stands for its call, which was served if the operation ended. -/
theorem mirrors_calling {question : Q} {operation : O} {request : Interaction C R A} {state : σ}
    {next : A → Interaction Q A α} (hissues : Issues question operation)
    (hperforms : Performs Serves view Does operation request state)
    (before rest : List (Interaction Q A α)) :
    ∃ mirrored, Mirrors Issues Serves view Does state (.calling request next) mirrored ∧
      Pool.Reaches Admitted (Answers Issues Does) ⟨view state, before ++ .ask question next :: rest⟩
        ⟨view state, before ++ mirrored :: rest⟩ := by
  cases request with
  | done result => exact ⟨_, .acted rfl, .single (.serve ⟨operation, hissues, hperforms⟩)⟩
  | ask call follow => exact ⟨_, .waits hissues .refl hperforms, .refl⟩

theorem Simulates.step {clients after : Clients σ C R A Q α} {pool : Pool τ Q A α}
    (hbody : ∀ operation, Performs Serves view Does operation (body operation) clients.state)
    (h : Simulates Issues Serves view Does clients pool)
    (hstep : Step Admitted Issues body Serves clients after) :
    ∃ pool', Pool.Reaches Admitted (Answers Issues Does) pool pool' ∧
      Simulates Issues Serves view Does after pool' := by
  obtain ⟨shown, requests⟩ := pool
  obtain ⟨hstate, hrequests⟩ := h
  cases hstate
  cases hstep with
  | arrive admitted => exact ⟨_, .single (.arrive admitted), rfl, .cons .idle hrequests⟩
  | @begin state question operation next before rest issues =>
      obtain ⟨before', rest', hbefore, hrest, rfl⟩ := Linearization.forall₂_append_left hrequests
      cases hrest with
      | cons hclient hrest =>
          cases hclient
          obtain ⟨mirrored, hmirrored, hreaches⟩ :=
            mirrors_calling issues (hbody operation) before' _
          exact ⟨_, hreaches, rfl, List.rel_append hbefore (.cons hmirrored hrest)⟩
  | @serve state after call reply follow next before rest served =>
      obtain ⟨before', rest', hbefore, hrest, rfl⟩ := Linearization.forall₂_append_left hrequests
      have hlater : Later Serves state after := .single ⟨call, reply, served⟩
      have hbefore' := hbefore.imp fun _ _ hmirrors => Mirrors.later hmirrors hlater
      cases hrest with
      | @cons _ _ _ restShown hclient hrest =>
          have hrest' := hrest.imp fun _ _ hmirrors => Mirrors.later hmirrors hlater
          cases hclient with
          | @waits question operation _ _ _ seen issues later performs =>
              rcases performs state reply after later served with
                ⟨hview, hnext⟩ | ⟨answer, hdoes, hreturns⟩
              · obtain ⟨mirrored, hmirrored, hreaches⟩ :=
                  mirrors_calling issues hnext before' restShown
                rw [hview] at hreaches
                exact ⟨_, hreaches, hview.symm, List.rel_append hbefore' (.cons hmirrored hrest')⟩
              · refine ⟨_, .single (.serve ⟨operation, issues, hdoes⟩), rfl, ?_⟩
                exact List.rel_append hbefore' (.cons (.acted hreturns) hrest')
          | acted returns =>
              obtain ⟨hview, hnext⟩ := returns state reply after served
              refine ⟨_, .refl, hview.symm, ?_⟩
              exact List.rel_append hbefore' (.cons (.acted hnext) hrest')
  | @resume state answer next before rest =>
      obtain ⟨before', rest', hbefore, hrest, rfl⟩ := Linearization.forall₂_append_left hrequests
      cases hrest with
      | cons hclient hrest =>
          cases hclient with
          | acted returns =>
              cases returns
              exact ⟨_, .refl, rfl, List.rel_append hbefore (.cons .idle hrest)⟩

theorem Step.later {clients after : Clients σ C R A Q α}
    (h : Step Admitted Issues body Serves clients after) :
    Later Serves clients.state after.state := by
  cases h with
  | serve served => exact .single ⟨_, _, served⟩
  | _ => exact .refl

/-- Clients of operations that act at one stroke are clients of calls served at one stroke. -/
theorem simulates_reaches {start : σ} (hbody : ∀ state, Later Serves start state →
      ∀ operation, Performs Serves view Does operation (body operation) state)
    {clients : Clients σ C R A Q α}
    (h : Reaches Admitted Issues body Serves ⟨start, []⟩ clients) :
    ∃ pool, Pool.Reaches Admitted (Answers Issues Does) ⟨view start, []⟩ pool ∧
      Simulates Issues Serves view Does clients pool := by
  suffices hlater : Later Serves start clients.state ∧ ∃ pool,
      Pool.Reaches Admitted (Answers Issues Does) ⟨view start, []⟩ pool ∧
        Simulates Issues Serves view Does clients pool from hlater.2
  induction h with
  | refl => exact ⟨.refl, _, .refl, rfl, .nil⟩
  | tail _ hstep ih =>
      obtain ⟨hlater, pool, hreaches, hsimulates⟩ := ih
      obtain ⟨pool', hreaches', hsimulates'⟩ := hsimulates.step (hbody _ hlater) hstep
      exact ⟨hlater.trans hstep.later, pool', hreaches.trans hreaches', hsimulates'⟩

end Simulation

end Clients

end TcoCalculator
