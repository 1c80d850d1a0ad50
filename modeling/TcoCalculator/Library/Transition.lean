/-
Transition systems given by a partial step function: reachable states, runs,
and the rule that carries an invariant from one step to every reachable state.
-/
import Mathlib.Logic.Basic

namespace TcoCalculator.Transition

universe u v

variable {σ : Type u} {α : Type v} {step : σ → α → Option σ} {init : σ}
  {guard : σ → α → Prop}

/-- States reached from `init` by steps whose actions all meet the guard. -/
inductive ReachableWhen (step : σ → α → Option σ) (guard : σ → α → Prop) (init : σ) :
    σ → Prop
  | init : ReachableWhen step guard init init
  | step {s s' : σ} {a : α} (reached : ReachableWhen step guard init s)
      (allowed : guard s a) (taken : step s a = some s') :
      ReachableWhen step guard init s'

/-- States reached from `init` by any steps. -/
def Reachable (step : σ → α → Option σ) (init : σ) : σ → Prop :=
  ReachableWhen step (fun _ _ => True) init

theorem ReachableWhen.invariant {P : σ → Prop} (hinit : P init)
    (hstep : ∀ s a s', P s → guard s a → step s a = some s' → P s') {s : σ}
    (h : ReachableWhen step guard init s) : P s := by
  induction h with
  | init => exact hinit
  | step _ allowed taken ih => exact hstep _ _ _ ih allowed taken

theorem Reachable.invariant {P : σ → Prop} (hinit : P init)
    (hstep : ∀ s a s', P s → step s a = some s' → P s') {s : σ}
    (h : Reachable step init s) : P s :=
  ReachableWhen.invariant hinit (fun s a s' hs _ => hstep s a s' hs) h

theorem Reachable.next {s s' : σ} (h : Reachable step init s) {a : α}
    (taken : step s a = some s') : Reachable step init s' :=
  ReachableWhen.step h trivial taken

/-- Take the listed actions in order. -/
def runActions (step : σ → α → Option σ) : σ → List α → Option σ
  | s, [] => some s
  | s, a :: rest => (step s a).bind fun s' => runActions step s' rest

theorem runActions_singleton (s : σ) (a : α) : runActions step s [a] = step s a := by
  cases htaken : step s a <;> simp [runActions, htaken]

theorem runActions_append (s : σ) (first second : List α) :
    runActions step s (first ++ second) =
      (runActions step s first).bind fun s' => runActions step s' second := by
  induction first generalizing s with
  | nil => rfl
  | cons a rest ih =>
      cases htaken : step s a with
      | none => simp [runActions, htaken]
      | some s' => simp [runActions, htaken, ih]

theorem reachableWhen_of_runActions {actions : List α} {s s' : σ}
    (h : ReachableWhen step guard init s) (hguard : ∀ a ∈ actions, ∀ s, guard s a)
    (hrun : runActions step s actions = some s') : ReachableWhen step guard init s' := by
  induction actions generalizing s with
  | nil =>
      cases hrun
      exact h
  | cons a rest ih =>
      obtain ⟨middle, htaken, hrest⟩ := Option.bind_eq_some_iff.mp hrun
      have hmiddle := h.step (hguard a List.mem_cons_self s) htaken
      exact ih hmiddle (fun b hb => hguard b (List.mem_cons_of_mem a hb)) hrest

theorem reachable_of_runActions {actions : List α} {s s' : σ}
    (h : Reachable step init s) (hrun : runActions step s actions = some s') :
    Reachable step init s' :=
  reachableWhen_of_runActions h (fun _ _ _ => trivial) hrun

end TcoCalculator.Transition
