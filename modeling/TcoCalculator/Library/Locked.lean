/-
Computations that mutate a value in place under a poisoning lock.  A body may
return, fail or panic; whatever it had already written stays written, and a
panic poisons the lock for every later caller.
-/
import Mathlib.Logic.Basic

namespace TcoCalculator

universe u

inductive Outcome (ε α : Type u) where
  | ok (value : α)
  | err (error : ε)
  | panic
  deriving DecidableEq, Repr

namespace Outcome

variable {ε α β : Type u}

def isPanic : Outcome ε α → Bool
  | .panic => true
  | _ => false

def map (f : α → β) : Outcome ε α → Outcome ε β
  | .ok a => .ok (f a)
  | .err e => .err e
  | .panic => .panic

def bind (x : Outcome ε α) (f : α → Outcome ε β) : Outcome ε β :=
  match x with
  | .ok a => f a
  | .err e => .err e
  | .panic => .panic

instance : Monad (Outcome ε) where
  pure := .ok
  bind := bind

/-- A fallible expression that cannot panic. -/
def lift : Except ε α → Outcome ε α
  | .ok a => .ok a
  | .error e => .err e

/-- An expression that panics when it has no value. -/
def expect : Option α → Outcome ε α
  | some a => .ok a
  | none => .panic

theorem bind_eq_ok {x : Outcome ε α} {f : α → Outcome ε β} {b : β} :
    (x >>= f) = .ok b ↔ ∃ a, x = .ok a ∧ f a = .ok b := by
  cases x <;> simp [Bind.bind, bind]

/-- A computation before a step that cannot panic panics on its own. -/
theorem bind_eq_panic_iff {x : Outcome ε α} {f : α → Outcome ε β} (h : ∀ a, f a ≠ .panic) :
    (x >>= f) = .panic ↔ x = .panic := by
  cases x with
  | ok a => exact iff_of_false (h a) nofun
  | err e => exact iff_of_false nofun nofun
  | panic => exact iff_of_true rfl rfl

theorem ite_ne_panic {condition : Prop} [Decidable condition] {x y : Outcome ε α}
    (hx : x ≠ .panic) (hy : y ≠ .panic) : (if condition then x else y) ≠ .panic := by
  by_cases h : condition
  · rw [if_pos h]
    exact hx
  · rw [if_neg h]
    exact hy

@[simp] theorem map_eq_panic {f : α → β} {x : Outcome ε α} : x.map f = .panic ↔ x = .panic := by
  cases x <;> simp [map]

theorem map_eq_err {f : α → β} {x : Outcome ε α} {e : ε} : x.map f = .err e ↔ x = .err e := by
  cases x <;> simp [map]

theorem lift_bind_ne_panic {x : Except ε α} {f : α → Outcome ε β} (h : ∀ a, f a ≠ .panic) :
    (lift x >>= f) ≠ .panic := by
  cases x with
  | ok a => exact h a
  | error e => exact nofun

@[simp] theorem lift_eq_ok {x : Except ε α} {a : α} : lift x = .ok a ↔ x = .ok a := by
  cases x <;> simp [lift]

@[simp] theorem lift_eq_err {x : Except ε α} {e : ε} : lift x = .err e ↔ x = .error e := by
  cases x <;> simp [lift]

@[simp] theorem expect_eq_ok {x : Option α} {a : α} :
    (expect x : Outcome ε α) = .ok a ↔ x = some a := by
  cases x <;> simp [expect]

@[simp] theorem pure_eq_ok {a b : α} : (pure a : Outcome ε α) = .ok b ↔ a = b := by
  simp [pure]

@[simp] theorem map_eq_ok {f : α → β} {x : Outcome ε α} {b : β} :
    x.map f = .ok b ↔ ∃ a, x = .ok a ∧ f a = b := by
  cases x <;> simp [map]

end Outcome

/-- A body run on a mutable value. -/
def Locked (σ ε α : Type u) := σ → Outcome ε α × σ

namespace Locked

variable {σ ε α β : Type u}

def bind (body : Locked σ ε α) (next : α → Locked σ ε β) : Locked σ ε β := fun s =>
  match body s with
  | (.ok a, s') => next a s'
  | (.err e, s') => (.err e, s')
  | (.panic, s') => (.panic, s')

instance : Monad (Locked σ ε) where
  pure a := fun s => (.ok a, s)
  bind := bind

def read : Locked σ ε σ := fun s => (.ok s, s)

def write (f : σ → σ) : Locked σ ε PUnit := fun s => (.ok ⟨⟩, f s)

def fail (e : ε) : Locked σ ε α := fun s => (.err e, s)

def panic : Locked σ ε α := fun s => (.panic, s)

/-- A fallible expression followed by the question mark operator. -/
def check (result : Except ε α) : Locked σ ε α := fun s =>
  match result with
  | .ok a => (.ok a, s)
  | .error e => (.err e, s)

/-- An expression that panics when it has no value. -/
def expect (value : Option α) : Locked σ ε α := fun s =>
  match value with
  | some a => (.ok a, s)
  | none => (.panic, s)

@[simp] theorem pure_apply (a : α) (s : σ) :
    (pure a : Locked σ ε α) s = (.ok a, s) := rfl

@[simp] theorem read_bind (next : σ → Locked σ ε β) (s : σ) :
    (read >>= next) s = next s s := rfl

@[simp] theorem write_bind (f : σ → σ) (next : PUnit → Locked σ ε β) (s : σ) :
    (write f >>= next) s = next ⟨⟩ (f s) := rfl

@[simp] theorem fail_apply (e : ε) (s : σ) : (fail e : Locked σ ε α) s = (.err e, s) := rfl

@[simp] theorem check_ok_bind (a : α) (next : α → Locked σ ε β) (s : σ) :
    (check (.ok a) >>= next) s = next a s := rfl

@[simp] theorem check_error_bind (e : ε) (next : α → Locked σ ε β) (s : σ) :
    (check (.error e) >>= next) s = (.err e, s) := rfl

@[simp] theorem expect_some_bind (a : α) (next : α → Locked σ ε β) (s : σ) :
    (expect (some a) >>= next) s = next a s := rfl

@[simp] theorem expect_none_bind (next : α → Locked σ ε β) (s : σ) :
    (expect none >>= next) s = (.panic, s) := rfl

theorem bind_eq_ok {body : Locked σ ε α} {next : α → Locked σ ε β} {s s'' : σ} {b : β} :
    (body >>= next) s = (.ok b, s'') ↔
      ∃ a s', body s = (.ok a, s') ∧ next a s' = (.ok b, s'') := by
  change Locked.bind body next s = (.ok b, s'') ↔ _
  rw [Locked.bind]
  rcases body s with ⟨a | e | _, s'⟩
  · constructor
    · exact fun h => ⟨a, s', rfl, h⟩
    · rintro ⟨_, _, heq, h⟩
      obtain ⟨rfl, rfl⟩ := Prod.mk.inj heq |>.imp_left Outcome.ok.inj
      exact h
  · simp
  · simp

/-! ### Assertions -/

/-- How a body ended: as the postcondition says, or where it failed or panicked
as the last assertion says. -/
def Ends (post : α → σ → Prop) (halted : σ → Prop) : Outcome ε α × σ → Prop
  | (.ok a, s) => post a s
  | (.err _, s) => halted s
  | (.panic, s) => halted s

/-- From a state that meets the precondition the body ends so. -/
def Triple (pre : σ → Prop) (body : Locked σ ε α) (post : α → σ → Prop) (halted : σ → Prop) :
    Prop :=
  ∀ s, pre s → Ends post halted (body s)

namespace Triple

variable {pre : σ → Prop} {post : α → σ → Prop} {halted : σ → Prop} {body : Locked σ ε α}

/-- What follows from each way to end holds of the result. -/
theorem result {P : Outcome ε α × σ → Prop} {s : σ} (h : Triple pre body post halted) (hs : pre s)
    (hok : ∀ a s, post a s → P (.ok a, s)) (herr : ∀ e s, halted s → P (.err e, s))
    (hpanic : ∀ s, halted s → P (.panic, s)) : P (body s) := by
  have hbody := h s hs
  revert hbody
  rcases body s with ⟨a | e | _, s'⟩
  · exact hok a s'
  · exact herr e s'
  · exact hpanic s'

/-- The rule of consequence. -/
theorem mono {pre' halted' : σ → Prop} {post' : α → σ → Prop}
    (h : Triple pre' body post' halted') (hpre : ∀ s, pre s → pre' s)
    (hpost : ∀ a s, post' a s → post a s) (hhalted : ∀ s, halted' s → halted s) :
    Triple pre body post halted := by
  intro s hs
  have hbody := h s (hpre s hs)
  revert hbody
  rcases body s with ⟨_ | _ | _, s'⟩
  · exact hpost _ s'
  · exact hhalted s'
  · exact hhalted s'

theorem pure {a : α} (h : ∀ s, pre s → post a s) :
    Triple pre (Pure.pure a : Locked σ ε α) post halted := h

theorem fail {e : ε} (h : ∀ s, pre s → halted s) :
    Triple pre (Locked.fail e : Locked σ ε α) post halted := h

theorem panic (h : ∀ s, pre s → halted s) :
    Triple pre (Locked.panic : Locked σ ε α) post halted := h

theorem bind {mid : α → σ → Prop} {next : α → Locked σ ε β} {post : β → σ → Prop}
    (hbody : Triple pre body mid halted) (hnext : ∀ a, Triple (mid a) (next a) post halted) :
    Triple pre (body >>= next) post halted := by
  intro s hs
  have hmid := hbody s hs
  change Ends post halted (Locked.bind body next s)
  rw [Locked.bind]
  revert hmid
  rcases body s with ⟨a | e | _, s'⟩
  · exact hnext a s'
  · exact id
  · exact id

/-- A body that starts by reading the state. -/
theorem read_bind {next : σ → Locked σ ε β} {post : β → σ → Prop}
    (h : ∀ s, pre s → Triple (· = s) (next s) post halted) :
    Triple pre (read >>= next) post halted :=
  fun s hs => h s hs s rfl

/-- A body that starts by writing the state. -/
theorem write_bind {f : σ → σ} {next : PUnit → Locked σ ε β} {post : β → σ → Prop}
    (mid : σ → Prop) (hwrite : ∀ s, pre s → mid (f s))
    (hnext : Triple mid (next ⟨⟩) post halted) : Triple pre (write f >>= next) post halted :=
  fun s hs => hnext (f s) (hwrite s hs)

theorem expect {value : Option α} (hsome : ∀ a s, value = some a → pre s → post a s)
    (hnone : ∀ s, pre s → halted s) : Triple pre (Locked.expect value : Locked σ ε α) post halted := by
  intro s hs
  rcases value with _ | a
  · exact hnone s hs
  · exact hsome a s rfl hs

theorem ite {condition : Prop} [Decidable condition] {other : Locked σ ε α}
    (hthen : condition → Triple pre body post halted)
    (helse : ¬ condition → Triple pre other post halted) :
    Triple pre (if condition then body else other) post halted := by
  by_cases h : condition
  · rw [if_pos h]
    exact hthen h
  · rw [if_neg h]
    exact helse h

end Triple

end Locked

/-- A value behind a lock. -/
@[ext] structure RwLock (σ : Type u) where
  value : σ
  poisoned : Bool
  deriving DecidableEq

namespace RwLock

variable {σ ε α : Type u}

/-- Run a body under the write lock; a poisoned lock refuses with an error. -/
def withWrite (lock : RwLock σ) (refused : ε) (body : Locked σ ε α) :
    Outcome ε α × RwLock σ :=
  if lock.poisoned then (.err refused, lock)
  else
    let result := body lock.value
    (result.1, ⟨result.2, result.1.isPanic⟩)

/-- Evaluate under the read lock, which never poisons. -/
def withRead (lock : RwLock σ) (refused : ε) (body : σ → Outcome ε α) : Outcome ε α :=
  if lock.poisoned then .err refused else body lock.value

theorem withWrite_poisoned {lock : RwLock σ} (h : lock.poisoned = true) (refused : ε)
    (body : Locked σ ε α) : lock.withWrite refused body = (.err refused, lock) := by
  simp [withWrite, h]

theorem withWrite_fst {lock : RwLock σ} (h : lock.poisoned = false) (refused : ε)
    (body : Locked σ ε α) :
    (lock.withWrite refused body).1 = (body lock.value).1 := by
  simp [withWrite, h]

theorem withWrite_value {lock : RwLock σ} (h : lock.poisoned = false) (refused : ε)
    (body : Locked σ ε α) :
    (lock.withWrite refused body).2.value = (body lock.value).2 := by
  simp [withWrite, h]

end RwLock

end TcoCalculator
