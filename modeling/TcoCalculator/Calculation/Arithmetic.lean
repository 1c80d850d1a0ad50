/-
Calculations on decimals: an operator may panic, a check may refuse, and sums
run from the left.
-/
import TcoCalculator.Domain.Decimal
import TcoCalculator.Library.Sorting

namespace TcoCalculator

/-- How a calculation ends early. -/
inductive Halt (ε : Type) where
  | error (e : ε)
  | panic (fault : ArithmeticFault)
  deriving DecidableEq, Repr

namespace Halt

open Fallible

variable {ε ε' α β : Type}

/-- Operators on decimals inside a calculation. -/
def arithmetic : Except ArithmeticFault α → Except (Halt ε) α
  | .ok a => .ok a
  | .error fault => .error (.panic fault)

instance : MonadLift (Except ArithmeticFault) (Except (Halt ε)) := ⟨arithmetic⟩

@[simp] theorem monadLift_ok (a : α) :
    (MonadLift.monadLift (Except.ok a : Except ArithmeticFault α) : Except (Halt ε) α) = .ok a :=
  rfl

@[simp] theorem liftM_ok (a : α) :
    (liftM (Except.ok a : Except ArithmeticFault α) : Except (Halt ε) α) = .ok a :=
  rfl

def refuse (e : ε) : Except (Halt ε) α := .error (.error e)

/-- The value, or a refusal when there is none. -/
def okOr (value : Option α) (e : ε) : Except (Halt ε) α :=
  match value with
  | some a => .ok a
  | none => refuse e

/-- A check that cannot panic. -/
def checked : Except ε α → Except (Halt ε) α
  | .ok a => .ok a
  | .error e => refuse e

@[simp] theorem checked_eq_ok {x : Except ε α} {a : α} :
    (checked x : Except (Halt ε) α) = .ok a ↔ x = .ok a := by
  cases x <;> simp [checked, refuse]

theorem liftM_eq_ok {x : Except ArithmeticFault α} {a : α} :
    (liftM x : Except (Halt ε) α) = .ok a ↔ x = .ok a := by
  rcases x with fault | b
  · constructor <;> intro h <;> cases h
  · constructor <;> intro h <;> cases h <;> rfl

/-- The outcome of a calculation whose refusals are handled here. -/
def attempt : Except (Halt ε) α → Except ArithmeticFault (Except ε α)
  | .ok a => .ok (.ok a)
  | .error (.error e) => .ok (.error e)
  | .error (.panic fault) => .error fault

def mapError (f : ε → ε') : Except (Halt ε) α → Except (Halt ε') α
  | .ok a => .ok a
  | .error (.error e) => .error (.error (f e))
  | .error (.panic fault) => .error (.panic fault)

@[simp] theorem mapError_eq_ok {f : ε → ε'} {x : Except (Halt ε) α} {a : α} :
    mapError f x = .ok a ↔ x = .ok a := by
  rcases x with (e | fault) | a <;> simp [mapError]

/-- The calculation returns or refuses, but no operator panics. -/
def NoPanic (x : Except (Halt ε) α) : Prop := ∀ fault, x ≠ .error (.panic fault)

theorem noPanic_ok (a : α) : NoPanic (.ok a : Except (Halt ε) α) := fun _ h => nomatch h

theorem noPanic_refuse (e : ε) : NoPanic (refuse e : Except (Halt ε) α) := fun _ h => nomatch h

theorem NoPanic.bind {x : Except (Halt ε) α} {f : α → Except (Halt ε) β} (hx : NoPanic x)
    (hf : ∀ a, x = .ok a → NoPanic (f a)) : NoPanic (x >>= f) := by
  cases hvalue : x with
  | ok a => exact hf a hvalue
  | error halt =>
      rintro fault h
      apply hx fault
      rw [hvalue]
      exact congrArg Except.error (Except.error.inj h)

theorem NoPanic.of_returns {x : Except (Halt ε) α} (h : Returns x) : NoPanic x := by
  obtain ⟨a, ha⟩ := h
  rw [ha]
  exact noPanic_ok a

/-- Operators that return do not panic inside a calculation. -/
theorem Returns.lift {x : Except ArithmeticFault α} (h : Returns x) :
    Returns (liftM x : Except (Halt ε) α) := by
  obtain ⟨a, ha⟩ := h
  rw [ha]
  exact .ok a

theorem Returns.arithmetic {x : Except ArithmeticFault α} (h : Returns x) :
    Returns (Halt.arithmetic x : Except (Halt ε) α) :=
  Returns.lift h

theorem NoPanic.lift {x : Except ArithmeticFault α} (h : Returns x) :
    NoPanic (liftM x : Except (Halt ε) α) :=
  .of_returns (Returns.lift h)

/-- One arithmetic step of a calculation. -/
theorem NoPanic.step {x : Except ArithmeticFault α} {f : α → Except (Halt ε) β} (hx : Returns x)
    (hf : ∀ a, NoPanic (f a)) : NoPanic ((liftM x : Except (Halt ε) α) >>= f) :=
  NoPanic.bind (.lift hx) fun a _ => hf a

theorem NoPanic.ite {condition : Prop} [Decidable condition] {x y : Except (Halt ε) α}
    (hx : condition → NoPanic x) (hy : ¬ condition → NoPanic y) :
    NoPanic (if condition then x else y) := by
  by_cases h : condition
  · rw [if_pos h]
    exact hx h
  · rw [if_neg h]
    exact hy h

/-- One arithmetic step of a calculation that returns. -/
theorem Returns.step {x : Except ArithmeticFault α} {f : α → Except (Halt ε) β} (hx : Returns x)
    (hf : ∀ a, Returns (f a)) : Returns ((liftM x : Except (Halt ε) α) >>= f) :=
  Returns.bind (Returns.lift hx) fun a _ => hf a

theorem NoPanic.attempt {x : Except (Halt ε) α} (h : NoPanic x) : Returns (attempt x) := by
  cases hvalue : x with
  | ok a => exact .ok _
  | error halt =>
      cases halt with
      | error e => exact .ok _
      | panic fault => exact absurd hvalue (h fault)

theorem NoPanic.foldlM {f : β → α → Except (Halt ε) β} (xs : List α)
    (h : ∀ b, ∀ a ∈ xs, NoPanic (f b a)) (b : β) : NoPanic (xs.foldlM f b) := by
  induction xs generalizing b with
  | nil => exact noPanic_ok b
  | cons a rest ih =>
      rw [List.foldlM_cons]
      apply NoPanic.bind (h b a List.mem_cons_self)
      intro b' _
      exact ih (fun b'' a' ha' => h b'' a' (List.mem_cons_of_mem a ha')) b'

theorem Returns.mapError {x : Except (Halt ε) α} (h : Returns x) (f : ε → ε') :
    Returns (mapError f x) := by
  obtain ⟨a, ha⟩ := h
  rw [ha]
  exact .ok a

/-- The calculation returns or panics, but no check refuses. -/
def NoRefusal (x : Except (Halt ε) α) : Prop := ∀ e, x ≠ refuse e

theorem noRefusal_ok (a : α) : NoRefusal (.ok a : Except (Halt ε) α) := fun _ h => nomatch h

theorem not_noRefusal (e : ε) : ¬ NoRefusal (refuse e : Except (Halt ε) α) := fun h => h e rfl

theorem NoRefusal.bind {x : Except (Halt ε) α} {f : α → Except (Halt ε) β} (hx : NoRefusal x)
    (hf : ∀ a, x = .ok a → NoRefusal (f a)) : NoRefusal (x >>= f) := by
  cases hvalue : x with
  | ok a => exact hf a hvalue
  | error halt =>
      rintro e h
      apply hx e
      rw [hvalue]
      exact congrArg Except.error (Except.error.inj h)

theorem NoRefusal.lift (x : Except ArithmeticFault α) :
    NoRefusal (liftM x : Except (Halt ε) α) := by
  cases x with
  | ok a => exact noRefusal_ok a
  | error fault => exact fun _ h => nomatch h

/-- What is left of a calculation without refusals once they are handled. -/
theorem NoRefusal.attempt {x : Except (Halt ε) α} (h : NoRefusal x) :
    (∃ a, x = .ok a ∧ attempt x = .ok (.ok a)) ∨ ∃ fault, attempt x = .error fault := by
  cases hvalue : x with
  | ok a => exact .inl ⟨a, rfl, rfl⟩
  | error halt =>
      cases halt with
      | error e => exact absurd hvalue (h e)
      | panic fault => exact .inr ⟨fault, rfl⟩

theorem NoPanic.okOr (value : Option α) (e : ε) : NoPanic (Halt.okOr value e) := by
  cases value with
  | none => exact noPanic_refuse e
  | some a => exact noPanic_ok a

end Halt

def saturatingSub (a b : UInt64) : UInt64 := if a < b then 0 else a - b

namespace DecimalArith

variable {D : Type} [DecimalArith D]

def sum (numbers : List D) : Except ArithmeticFault D := numbers.foldlM add zero

theorem sum_concat {numbers : List D} {number total total' : D}
    (hsum : sum numbers = .ok total) (hadd : add total number = .ok total') :
    sum (numbers ++ [number]) = .ok total' := by
  unfold sum at hsum ⊢
  rw [List.foldlM_append, hsum, Fallible.ok_bind, List.foldlM_cons, hadd, Fallible.ok_bind]
  rfl

/-- The order of the numbers themselves. -/
def compareValues (a b : D) : Ordering := compare (value a) (value b)

/-- The first of the least numbers. -/
def minimum? : List D → Option D
  | [] => none
  | a :: rest => some (rest.foldl (fun best b => if value b < value best then b else best) a)

/-- The last of the greatest numbers. -/
def maximum? : List D → Option D
  | [] => none
  | a :: rest => some (rest.foldl (fun best b => if value b < value best then best else b) a)

theorem minimum?_eq_some {numbers : List D} {least : D} (h : minimum? numbers = some least) :
    least ∈ numbers ∧ ∀ number ∈ numbers, value least ≤ value number := by
  rcases numbers with _ | ⟨first, rest⟩
  · cases h
  · cases h
    apply Sorting.foldl_pick (r := fun a b : D => value a ≤ value b) (fun a => le_rfl)
      (fun a b c => le_trans)
    intro a b
    by_cases hlt : value b < value a
    · simp [hlt, hlt.le]
    · simp [hlt, not_lt.mp hlt]

theorem maximum?_eq_some {numbers : List D} {greatest : D}
    (h : maximum? numbers = some greatest) :
    greatest ∈ numbers ∧ ∀ number ∈ numbers, value number ≤ value greatest := by
  rcases numbers with _ | ⟨first, rest⟩
  · cases h
  · cases h
    apply Sorting.foldl_pick (r := fun a b : D => value b ≤ value a) (fun a => le_rfl)
      (fun a b c hab hbc => hbc.trans hab)
    intro a b
    by_cases hlt : value b < value a
    · simp [hlt, hlt.le]
    · simp [hlt, not_lt.mp hlt]

@[simp] theorem minimum?_eq_none {numbers : List D} : minimum? numbers = none ↔ numbers = [] := by
  cases numbers <;> simp [minimum?]

@[simp] theorem maximum?_eq_none {numbers : List D} : maximum? numbers = none ↔ numbers = [] := by
  cases numbers <;> simp [maximum?]

end DecimalArith

end TcoCalculator
