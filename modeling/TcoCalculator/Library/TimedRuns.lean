/-
Programs that call their environment under a clock: each call is answered in its own
type, and takes the time it takes.
-/
import Mathlib.Data.List.Basic

namespace TcoCalculator

/-- A program that has ended, or waits for the reply to a call. -/
inductive Timed (C : Type) (R : C → Type) (α : Type) where
  | done (result : α)
  | ask (call : C) (next : R call → Timed C R α)

/-- A call with the instants at which it was made and answered. -/
structure TimedCall (C : Type) (R : C → Type) where
  made : Nat
  call : C
  reply : R call
  back : Nat

namespace Timed

variable {C : Type} {R : C → Type} {α : Type}

/-- The program starts at an instant, makes these calls one after another and ends with a
result. -/
inductive Runs (Serves : TimedCall C R → Prop) : Nat → Timed C R α → List (TimedCall C R) → α →
    Prop
  | done {start : Nat} {result : α} : Runs Serves start (.done result) [] result
  | ask {start made back : Nat} {call : C} {reply : R call} {next : R call → Timed C R α}
      {calls : List (TimedCall C R)} {result : α} (waits : start ≤ made) (takes : made ≤ back)
      (served : Serves ⟨made, call, reply, back⟩)
      (rest : Runs Serves back (next reply) calls result) :
      Runs Serves start (.ask call next) (⟨made, call, reply, back⟩ :: calls) result

variable {Serves : TimedCall C R → Prop} {start : Nat} {result : α} {calls : List (TimedCall C R)}

theorem runs_done {value : α} :
    Runs Serves start (.done value) calls result ↔ calls = [] ∧ result = value := by
  constructor
  · rintro ⟨⟩
    exact ⟨rfl, rfl⟩
  · rintro ⟨rfl, rfl⟩
    exact .done

theorem runs_ask {call : C} {next : R call → Timed C R α} :
    Runs Serves start (.ask call next) calls result ↔ ∃ made reply back rest,
      calls = ⟨made, call, reply, back⟩ :: rest ∧ start ≤ made ∧ made ≤ back ∧
      Serves ⟨made, call, reply, back⟩ ∧ Runs Serves back (next reply) rest result := by
  constructor
  · rintro (_ | ⟨waits, takes, served, rest⟩)
    exact ⟨_, _, _, _, rfl, waits, takes, served, rest⟩
  · rintro ⟨made, reply, back, rest, rfl, waits, takes, served, hrest⟩
    exact .ask waits takes served hrest

end Timed

end TcoCalculator
