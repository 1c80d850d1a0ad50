/-
Requests that call a shared service: what a request asks next, and its runs
among the calls of all other requests.
-/
import TcoCalculator.Library.Locked

namespace TcoCalculator

/-- A request in progress: it has ended, or waits for the reply to a call. -/
inductive Interaction (C R α : Type) where
  | done (result : α)
  | ask (call : C) (next : R → Interaction C R α)

namespace Interaction

variable {C R ε α β : Type}

def bind : Interaction C R α → (α → Interaction C R β) → Interaction C R β
  | done result, next => next result
  | ask call rest, next => ask call fun reply => bind (rest reply) next

/-- The request ends with the listed calls, each served at its own time.  Between
two of them anything may be served to others. -/
inductive Runs (served : Nat → C → R → Prop) :
    Nat → Interaction C R α → List (Nat × C) → Nat → α → Prop
  | done (time : Nat) (result : α) : Runs served time (.done result) [] time result
  | ask {start time finish : Nat} {call : C} {reply : R} {next : R → Interaction C R α}
      {calls : List (Nat × C)} {result : α} (hle : start ≤ time)
      (hserved : served time call reply)
      (rest : Runs served (time + 1) (next reply) calls finish result) :
      Runs served start (.ask call next) ((time, call) :: calls) finish result

variable {served : Nat → C → R → Prop}

theorem runs_done {start finish : Nat} {calls : List (Nat × C)} {a b : α} :
    Runs served start (.done a) calls finish b ↔ calls = [] ∧ finish = start ∧ b = a := by
  constructor
  · rintro ⟨⟩
    exact ⟨rfl, rfl, rfl⟩
  · rintro ⟨rfl, rfl, rfl⟩
    exact .done _ _

theorem runs_ask {start finish : Nat} {call : C} {next : R → Interaction C R α}
    {calls : List (Nat × C)} {b : α} :
    Runs served start (.ask call next) calls finish b ↔ ∃ time reply rest,
      calls = (time, call) :: rest ∧ start ≤ time ∧ served time call reply ∧
      Runs served (time + 1) (next reply) rest finish b := by
  constructor
  · rintro (_ | ⟨hle, hserved, hrest⟩)
    exact ⟨_, _, _, rfl, hle, hserved, hrest⟩
  · rintro ⟨time, reply, rest, rfl, hle, hserved, hrest⟩
    exact .ask hle hserved hrest

/-- A sequence runs one part after the other. -/
theorem runs_bind {x : Interaction C R α} {f : α → Interaction C R β} {start finish : Nat}
    {calls : List (Nat × C)} {b : β} :
    Runs served start (x.bind f) calls finish b ↔ ∃ middle a before after,
      calls = before ++ after ∧ Runs served start x before middle a ∧
      Runs served middle (f a) after finish b := by
  induction x generalizing start calls with
  | done result =>
      constructor
      · exact fun h => ⟨start, result, [], calls, rfl, .done _ _, h⟩
      · rintro ⟨middle, a, before, after, rfl, hbefore, hafter⟩
        obtain ⟨rfl, rfl, rfl⟩ := runs_done.mp hbefore
        exact hafter
  | ask call next ih =>
      rw [bind, runs_ask]
      constructor
      · rintro ⟨time, reply, rest, rfl, hle, hserved, hrest⟩
        obtain ⟨middle, a, before, after, rfl, hbefore, hafter⟩ := (ih reply).mp hrest
        exact ⟨middle, a, _, after, rfl, .ask hle hserved hbefore, hafter⟩
      · rintro ⟨middle, a, before, after, rfl, hbefore, hafter⟩
        obtain ⟨time, reply, rest, rfl, hle, hserved, hrest⟩ := runs_ask.mp hbefore
        exact ⟨time, reply, rest ++ after, rfl, hle, hserved,
          (ih reply).mpr ⟨middle, a, rest, after, rfl, hrest, hafter⟩⟩

/-- Every listed call has been served. -/
theorem Runs.served_calls {start finish : Nat} {body : Interaction C R α} {calls : List (Nat × C)}
    {result : α} (h : Runs served start body calls finish result) :
    ∀ call ∈ calls, ∃ reply, served call.1 call.2 reply := by
  induction h with
  | done => exact fun _ hcall => absurd hcall List.not_mem_nil
  | ask _ hserved _ ih =>
      intro call hcall
      rcases List.mem_cons.mp hcall with rfl | hcall
      · exact ⟨_, hserved⟩
      · exact ih call hcall

/-- Whatever the replies, the request makes no other calls. -/
def Asks (P : C → Prop) : Interaction C R α → Prop
  | done _ => True
  | ask call next => P call ∧ ∀ reply, Asks P (next reply)

theorem Asks.bind {P : C → Prop} {x : Interaction C R α} {f : α → Interaction C R β}
    (hx : x.Asks P) (hf : ∀ a, (f a).Asks P) : (x.bind f).Asks P := by
  induction x with
  | done result => exact hf result
  | ask call next ih => exact ⟨hx.1, fun reply => ih reply (hx.2 reply)⟩

theorem Runs.asks {P : C → Prop} {start finish : Nat} {body : Interaction C R α}
    {calls : List (Nat × C)} {result : α} (h : Runs served start body calls finish result)
    (hasks : body.Asks P) : ∀ call ∈ calls, P call.2 := by
  induction h with
  | done => exact fun _ hcall => absurd hcall List.not_mem_nil
  | ask _ _ _ ih =>
      intro call hcall
      rcases List.mem_cons.mp hcall with rfl | hcall
      · exact hasks.1
      · exact ih (hasks.2 _) call hcall

end Interaction

/-- A request that may end with an error or a panic. -/
def Handler (C R ε α : Type) := Interaction C R (Outcome ε α)

namespace Handler

variable {C R ε α β : Type}

/-- Go on after success. -/
def andThen (next : α → Handler C R ε β) : Outcome ε α → Handler C R ε β
  | .ok a => next a
  | .err e => Interaction.done (.err e)
  | .panic => Interaction.done .panic

instance : Monad (Handler C R ε) where
  pure a := Interaction.done (.ok a)
  bind x next := Interaction.bind x (andThen next)

def lift (result : Outcome ε α) : Handler C R ε α := Interaction.done result

def check (result : Except ε α) : Handler C R ε α := lift (.lift result)

def fail (e : ε) : Handler C R ε α := lift (.err e)

theorem pure_bind (a : α) (next : α → Handler C R ε β) : (pure a >>= next) = next a := rfl

theorem bind_assoc {γ : Type} (x : Handler C R ε α) (f : α → Handler C R ε β)
    (g : β → Handler C R ε γ) : (x >>= f) >>= g = x >>= fun a => f a >>= g := by
  change Interaction.bind (Interaction.bind x (andThen f)) (andThen g) =
    Interaction.bind x (andThen fun a => Interaction.bind (f a) (andThen g))
  induction x with
  | done result => cases result <;> rfl
  | ask call next ih =>
      simp only [Interaction.bind]
      exact congrArg _ (funext ih)

theorem check_ok_bind (a : α) (next : α → Handler C R ε β) :
    (check (.ok a) >>= next) = next a := rfl

theorem check_error_bind (e : ε) (next : α → Handler C R ε β) :
    (check (.error e) >>= next) = Interaction.done (.err e) := rfl

/-- One call of the service; its reply is a value here, whatever it says. -/
def call (call : C) : Handler C R ε R := Interaction.ask call fun reply => .done (.ok reply)

abbrev Runs (served : Nat → C → R → Prop) (start : Nat) (body : Handler C R ε α)
    (calls : List (Nat × C)) (finish : Nat) (result : Outcome ε α) : Prop :=
  Interaction.Runs served start body calls finish result

variable {served : Nat → C → R → Prop} {start finish : Nat} {calls : List (Nat × C)}

@[simp] theorem runs_lift {value result : Outcome ε α} :
    Runs served start (lift value) calls finish result ↔
      calls = [] ∧ finish = start ∧ result = value :=
  Interaction.runs_done

@[simp] theorem runs_pure {a : α} {result : Outcome ε α} :
    Runs served start (pure a : Handler C R ε α) calls finish result ↔
      calls = [] ∧ finish = start ∧ result = .ok a :=
  Interaction.runs_done

theorem runs_call_bind {question : C} {next : R → Handler C R ε β} {result : Outcome ε β} :
    Runs served start (call question >>= next) calls finish result ↔ ∃ time reply rest,
      calls = (time, question) :: rest ∧ start ≤ time ∧ served time question reply ∧
      Runs served (time + 1) (next reply) rest finish result :=
  Interaction.runs_ask

def Asks (P : C → Prop) (body : Handler C R ε α) : Prop := Interaction.Asks P body

theorem asks_lift (P : C → Prop) (result : Outcome ε α) :
    Asks P (lift result : Handler C R ε α) := trivial

theorem asks_call_bind {P : C → Prop} {question : C} {next : R → Handler C R ε β}
    (hcall : P question) (hnext : ∀ reply, Asks P (next reply)) :
    Asks P (call question >>= next) := ⟨hcall, hnext⟩

theorem Asks.bind {P : C → Prop} {x : Handler C R ε α} {next : α → Handler C R ε β}
    (hx : Asks P x) (hnext : ∀ a, Asks P (next a)) : Asks P (x >>= next) := by
  refine Interaction.Asks.bind hx fun result => ?_
  rcases result with a | e | _
  · exact hnext a
  · exact trivial
  · exact trivial

theorem asks_check_bind {P : C → Prop} {value : Except ε α} {next : α → Handler C R ε β}
    (hnext : ∀ a, value = .ok a → Asks P (next a)) : Asks P (check value >>= next) := by
  cases value with
  | ok a => exact hnext a rfl
  | error e => exact trivial

/-- A sequence that succeeds runs both parts. -/
theorem runs_bind_ok {x : Handler C R ε α} {next : α → Handler C R ε β} {b : β} :
    Runs served start (x >>= next) calls finish (.ok b) ↔ ∃ middle a before after,
      calls = before ++ after ∧ Runs served start x before middle (.ok a) ∧
      Runs served middle (next a) after finish (.ok b) := by
  refine Interaction.runs_bind.trans ⟨?_, ?_⟩
  · rintro ⟨middle, a | e | _, before, after, rfl, hbefore, hafter⟩
    · exact ⟨middle, a, before, after, rfl, hbefore, hafter⟩
    · exact nomatch (Interaction.runs_done.mp hafter).2.2
    · exact nomatch (Interaction.runs_done.mp hafter).2.2
  · rintro ⟨middle, a, before, after, rfl, hbefore, hafter⟩
    exact ⟨middle, .ok a, before, after, rfl, hbefore, hafter⟩

/-- A sequence that fails does so in the first part, or in the second. -/
theorem runs_bind_err {x : Handler C R ε α} {next : α → Handler C R ε β} {e : ε} :
    Runs served start (x >>= next) calls finish (.err e) ↔
      Runs served start x calls finish (.err e) ∨ ∃ middle a before after,
        calls = before ++ after ∧ Runs served start x before middle (.ok a) ∧
        Runs served middle (next a) after finish (.err e) := by
  refine Interaction.runs_bind.trans ⟨?_, ?_⟩
  · rintro ⟨middle, a | failure | _, before, after, rfl, hbefore, hafter⟩
    · exact .inr ⟨middle, a, before, after, rfl, hbefore, hafter⟩
    · obtain ⟨rfl, rfl, heq⟩ := Interaction.runs_done.mp hafter
      obtain rfl := Outcome.err.inj heq
      rw [List.append_nil]
      exact .inl hbefore
    · exact nomatch (Interaction.runs_done.mp hafter).2.2
  · rintro (hbefore | ⟨middle, a, before, after, rfl, hbefore, hafter⟩)
    · exact ⟨finish, .err e, calls, [], (List.append_nil _).symm, hbefore, .done _ _⟩
    · exact ⟨middle, .ok a, before, after, rfl, hbefore, hafter⟩

/-- A first part that succeeds, and any second part. -/
theorem Runs.bind {x : Handler C R ε α} {next : α → Handler C R ε β} {middle : Nat} {a : α}
    {before after : List (Nat × C)} {result : Outcome ε β}
    (hbefore : Runs served start x before middle (.ok a))
    (hafter : Runs served middle (next a) after finish result) :
    Runs served start (x >>= next) (before ++ after) finish result :=
  Interaction.runs_bind.mpr ⟨middle, .ok a, before, after, rfl, hbefore, hafter⟩

theorem Runs.lift_bind {value : Outcome ε α} {next : α → Handler C R ε β} {a : α}
    {result : Outcome ε β} (hvalue : value = .ok a)
    (hnext : Runs served start (next a) calls finish result) :
    Runs served start (lift value >>= next) calls finish result := by
  subst hvalue
  exact hnext

theorem Runs.check_bind {value : Except ε α} {next : α → Handler C R ε β} {a : α}
    {result : Outcome ε β} (hvalue : value = .ok a)
    (hnext : Runs served start (next a) calls finish result) :
    Runs served start (check value >>= next) calls finish result :=
  Runs.lift_bind (Outcome.lift_eq_ok.mpr hvalue) hnext

theorem runs_lift_bind_ok {value : Outcome ε α} {next : α → Handler C R ε β} {b : β} :
    Runs served start (lift value >>= next) calls finish (.ok b) ↔ ∃ a, value = .ok a ∧
      Runs served start (next a) calls finish (.ok b) := by
  rw [runs_bind_ok]
  simp only [runs_lift]
  constructor
  · rintro ⟨middle, a, before, after, rfl, ⟨rfl, rfl, rfl⟩, hafter⟩
    exact ⟨a, rfl, hafter⟩
  · rintro ⟨a, rfl, hafter⟩
    exact ⟨start, a, [], calls, rfl, ⟨rfl, rfl, rfl⟩, hafter⟩

theorem runs_lift_bind_err {value : Outcome ε α} {next : α → Handler C R ε β} {e : ε} :
    Runs served start (lift value >>= next) calls finish (.err e) ↔
      (calls = [] ∧ finish = start ∧ value = .err e) ∨ ∃ a, value = .ok a ∧
        Runs served start (next a) calls finish (.err e) := by
  rw [runs_bind_err]
  simp only [runs_lift, eq_comm (a := Outcome.err e)]
  refine or_congr_right ⟨?_, ?_⟩
  · rintro ⟨middle, a, before, after, rfl, ⟨rfl, rfl, rfl⟩, hafter⟩
    exact ⟨a, rfl, hafter⟩
  · rintro ⟨a, rfl, hafter⟩
    exact ⟨start, a, [], calls, rfl, ⟨rfl, rfl, rfl⟩, hafter⟩

theorem runs_check_bind_ok {value : Except ε α} {next : α → Handler C R ε β} {b : β} :
    Runs served start (check value >>= next) calls finish (.ok b) ↔ ∃ a, value = .ok a ∧
      Runs served start (next a) calls finish (.ok b) := by
  rw [check, runs_lift_bind_ok]
  simp only [Outcome.lift_eq_ok]

theorem runs_check_bind_err {value : Except ε α} {next : α → Handler C R ε β} {e : ε} :
    Runs served start (check value >>= next) calls finish (.err e) ↔
      (calls = [] ∧ finish = start ∧ value = .error e) ∨ ∃ a, value = .ok a ∧
        Runs served start (next a) calls finish (.err e) := by
  rw [check, runs_lift_bind_err]
  simp only [Outcome.lift_eq_ok, Outcome.lift_eq_err]

@[simp] theorem runs_check {value : Except ε α} {result : Outcome ε α} :
    Runs served start (check value) calls finish result ↔
      calls = [] ∧ finish = start ∧ result = .lift value :=
  Interaction.runs_done

end Handler

end TcoCalculator
