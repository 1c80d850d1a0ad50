/-
Fallible computations: when a sequence of checks returns, and with what.
-/
import Mathlib.Data.List.Forall2

namespace TcoCalculator

universe u v

/-- Refuse with an error unless a condition holds. -/
def ensure {ε : Type u} (condition : Prop) [Decidable condition] (error : ε) :
    Except ε Unit :=
  if condition then .ok () else .error error

namespace Fallible

variable {ε : Type u} {α β : Type v}

theorem bind_eq_ok {x : Except ε α} {f : α → Except ε β} {b : β} :
    (x >>= f) = .ok b ↔ ∃ a, x = .ok a ∧ f a = .ok b := by
  cases x with
  | error e => exact ⟨nofun, fun ⟨_, h, _⟩ => nomatch h⟩
  | ok a => exact ⟨fun h => ⟨a, rfl, h⟩, fun ⟨_, ha, h⟩ => by cases ha; exact h⟩

theorem bind_eq_error {x : Except ε α} {f : α → Except ε β} {e : ε} :
    (x >>= f) = .error e ↔ x = .error e ∨ ∃ a, x = .ok a ∧ f a = .error e := by
  cases x <;> simp [Bind.bind, Except.bind]

/-- A step that returns is taken. -/
theorem ok_then {x : Except ε α} {f : α → Except ε β} {a : α} {result : Except ε β}
    (hx : x = .ok a) (hf : f a = result) : (x >>= f) = result := by
  rw [hx]
  exact hf

@[simp] theorem ok_bind (a : α) (f : α → Except ε β) : (Except.ok a >>= f) = f a := rfl

@[simp] theorem error_bind (e : ε) (f : α → Except ε β) :
    ((Except.error e : Except ε α) >>= f) = .error e := rfl

@[simp] theorem pure_eq_ok (a : α) : (pure a : Except ε α) = .ok a := rfl

@[simp] theorem throw_eq_error (e : ε) : (throw e : Except ε α) = .error e := rfl

@[simp] theorem ensure_eq_ok {condition : Prop} [Decidable condition] {e : ε} {u : Unit} :
    ensure condition e = .ok u ↔ condition := by
  unfold ensure
  split <;> simp_all

@[simp] theorem ensure_eq_error {condition : Prop} [Decidable condition] {e e' : ε} :
    ensure condition e = .error e' ↔ ¬ condition ∧ e = e' := by
  unfold ensure
  split <;> simp_all

theorem ensure_of {condition : Prop} [Decidable condition] (h : condition) (e : ε) :
    ensure condition e = .ok () := by
  simp [h]

@[simp] theorem exists_unit_eq_ok {x : Except ε Unit} :
    (∃ u, x = .ok u) ↔ x = .ok () :=
  ⟨fun ⟨_, h⟩ => h, fun h => ⟨(), h⟩⟩

theorem exists_eq_ok_or_error (x : Except ε α) : (∃ a, x = .ok a) ∨ ∃ e, x = .error e := by
  cases x with
  | ok a => exact .inl ⟨a, rfl⟩
  | error e => exact .inr ⟨e, rfl⟩

theorem toOption_bind (x : Except ε α) (f : α → Except ε β) :
    (x >>= f).toOption = x.toOption.bind fun a => (f a).toOption := by
  cases x <;> rfl

theorem toOption_eq_some {x : Except ε α} {a : α} : x.toOption = some a ↔ x = .ok a := by
  cases x <;> simp [Except.toOption]

theorem toOption_ensure {condition : Prop} [Decidable condition] (e : ε) :
    (ensure condition e).toOption = if condition then some () else none := by
  unfold ensure
  split_ifs <;> rfl

theorem elim_eq_ok {found : Option α} {failure : ε} {a : α}
    (h : found.elim (.error failure) .ok = (.ok a : Except ε α)) : found = some a := by
  rcases found with _ | b
  · cases h
  · cases h
    rfl

theorem exists_ok_of_isSome {x : Except ε α} (h : x.toOption.isSome = true) :
    ∃ a, x = .ok a := by
  cases x with
  | ok a => exact ⟨a, rfl⟩
  | error e => cases h

theorem exists_ok_of_any {x : Except ε α} {p : α → Bool} (h : x.toOption.any p = true) :
    ∃ a, x = .ok a ∧ p a = true := by
  cases x with
  | ok a => exact ⟨a, rfl, h⟩
  | error e => cases h

/-- The computation returns a value. -/
def Returns (x : Except ε α) : Prop := ∃ a, x = .ok a

theorem Returns.ok (a : α) : Returns (.ok a : Except ε α) := ⟨a, rfl⟩

theorem Returns.bind {x : Except ε α} {f : α → Except ε β} (hx : Returns x)
    (hf : ∀ a, x = .ok a → Returns (f a)) : Returns (x >>= f) := by
  obtain ⟨a, ha⟩ := hx
  rw [ha]
  exact hf a ha

theorem Returns.ite {condition : Prop} [Decidable condition] {x y : Except ε α}
    (hx : condition → Returns x) (hy : ¬ condition → Returns y) :
    Returns (if condition then x else y) := by
  by_cases h : condition
  · rw [if_pos h]
    exact hx h
  · rw [if_neg h]
    exact hy h

theorem Returns.map {x : Except ε α} (hx : Returns x) (f : α → β) : Returns (f <$> x) := by
  obtain ⟨a, ha⟩ := hx
  rw [ha]
  exact .ok (f a)

theorem Returns.mapM {f : α → Except ε β} (xs : List α) (h : ∀ a ∈ xs, Returns (f a)) :
    Returns (xs.mapM f) := by
  induction xs with
  | nil => exact .ok []
  | cons a rest ih =>
      rw [List.mapM_cons]
      apply Returns.bind (h a List.mem_cons_self)
      intro b _
      apply Returns.bind (ih fun a' ha' => h a' (List.mem_cons_of_mem a ha'))
      intro bs _
      exact .ok (b :: bs)

theorem Returns.mapOption {f : α → Except ε β} (value : Option α)
    (h : ∀ a, value = some a → Returns (f a)) : Returns (value.mapM f) := by
  cases value with
  | none => exact .ok none
  | some a => exact (h a rfl).map some

theorem Returns.foldlM {f : β → α → Except ε β} (xs : List α)
    (h : ∀ b, ∀ a ∈ xs, Returns (f b a)) (b : β) : Returns (xs.foldlM f b) := by
  induction xs generalizing b with
  | nil => exact .ok b
  | cons a rest ih =>
      rw [List.foldlM_cons]
      apply Returns.bind (h b a List.mem_cons_self)
      intro b' _
      exact ih (fun b'' a' ha' => h b'' a' (List.mem_cons_of_mem a ha')) b'

/-- What the computation returns, if it returns, has the property. -/
def Ensures (x : Except ε α) (P : α → Prop) : Prop := ∀ a, x = .ok a → P a

theorem Ensures.ok {P : α → Prop} {a : α} (h : P a) : Ensures (.ok a : Except ε α) P := by
  rintro _ ⟨⟩
  exact h

theorem Ensures.error {P : α → Prop} (e : ε) : Ensures (.error e : Except ε α) P := nofun

theorem Ensures.bind {x : Except ε α} {f : α → Except ε β} {P : β → Prop}
    (h : ∀ a, x = .ok a → Ensures (f a) P) : Ensures (x >>= f) P := by
  intro b hb
  obtain ⟨a, hx, hf⟩ := bind_eq_ok.mp hb
  exact h a hx b hf

theorem Ensures.ite {condition : Prop} [Decidable condition] {x y : Except ε α} {P : α → Prop}
    (hx : condition → Ensures x P) (hy : ¬ condition → Ensures y P) :
    Ensures (if condition then x else y) P := by
  by_cases h : condition
  · simpa [h] using hx h
  · simpa [h] using hy h

theorem Ensures.imp {x : Except ε α} {P Q : α → Prop} (h : Ensures x P) (himp : ∀ a, P a → Q a) :
    Ensures x Q := fun a ha => himp a (h a ha)

theorem eq_ok_get {x : Except ε α} (h : x.toOption.isSome = true) :
    x = .ok (x.toOption.get h) := by
  rcases x with e | a
  · cases h
  · rfl

/-- All of a list computed: element by element. -/
theorem mapM_eq_ok {f : α → Except ε β} {xs : List α} {ys : List β} :
    xs.mapM f = .ok ys ↔ List.Forall₂ (fun x y => f x = .ok y) xs ys := by
  induction xs generalizing ys with
  | nil =>
      rw [List.mapM_nil, List.forall₂_nil_left_iff]
      exact ⟨fun h => (Except.ok.inj h).symm, fun h => h ▸ rfl⟩
  | cons x rest ih =>
      rw [List.mapM_cons, List.forall₂_cons_left_iff]
      constructor
      · intro h
        obtain ⟨y, hy, h⟩ := bind_eq_ok.mp h
        obtain ⟨ys', hys', h⟩ := bind_eq_ok.mp h
        exact ⟨y, ys', hy, ih.mp hys', (Except.ok.inj h).symm⟩
      · rintro ⟨y, ys', hy, hys', rfl⟩
        exact bind_eq_ok.mpr ⟨y, hy, bind_eq_ok.mpr ⟨ys', ih.mpr hys', rfl⟩⟩

/-- A computation that only returns what a function says maps the list by it. -/
theorem eq_map_of_mapM {f : α → Except ε β} {g : α → β} {xs : List α} {ys : List β}
    (h : xs.mapM f = .ok ys) (hf : ∀ x y, f x = .ok y → y = g x) : ys = xs.map g := by
  induction mapM_eq_ok.mp h with
  | nil => rfl
  | cons hfirst hrest ih =>
      rw [List.map_cons, hf _ _ hfirst, ih (mapM_eq_ok.mpr hrest)]

theorem returns_of_mapM {f : α → Except ε β} {xs : List α} {ys : List β}
    (h : xs.mapM f = .ok ys) {x : α} (hx : x ∈ xs) : Returns (f x) := by
  induction mapM_eq_ok.mp h with
  | nil => exact absurd hx List.not_mem_nil
  | @cons _ y _ _ hfirst hrest ih =>
      rcases List.mem_cons.mp hx with rfl | hx
      · exact ⟨y, hfirst⟩
      · exact ih (mapM_eq_ok.mpr hrest) hx

/-! ### Checks -/

section Checks

variable {x y : Except ε Bool} {P Q : Prop}

/-- The check returns, and says whether the statement holds. -/
def Decides (x : Except ε Bool) (P : Prop) : Prop := x = .ok true ∧ P ∨ x = .ok false ∧ ¬ P

theorem Decides.intro {b : Bool} (hx : x = .ok b) (hb : b = true ↔ P) : Decides x P := by
  rcases b with _ | _
  · exact .inr ⟨hx, fun hP => Bool.false_ne_true (hb.mpr hP)⟩
  · exact .inl ⟨hx, hb.mp rfl⟩

theorem Decides.eq_true_iff (h : Decides x P) : x = .ok true ↔ P := by
  rcases h with ⟨hx, hP⟩ | ⟨hx, hP⟩
  · exact ⟨fun _ => hP, fun _ => hx⟩
  · rw [hx]
    exact ⟨fun h => (nomatch h), fun h => absurd h hP⟩

theorem Decides.congr (h : Decides x P) (hiff : P ↔ Q) : Decides x Q := by
  rw [Decides, ← hiff]
  exact h

/-- The second check runs where the first one passes. -/
theorem Decides.and (hx : Decides x P) (hy : P → Decides y Q) :
    Decides (do if ← x then y else return false) (P ∧ Q) := by
  rcases hx with ⟨rfl, hP⟩ | ⟨rfl, hP⟩
  · exact (hy hP).congr (and_iff_right hP).symm
  · exact .inr ⟨rfl, fun h => hP h.1⟩

end Checks

/-! ### Loops -/

section Loops

universe w

variable {γ : Type w} {f : β → γ → Except ε β}

/-- The loop rule: an assertion about the elements gone through and the state,
true before the first and kept by each, holds of all of them at the end. -/
theorem foldlM_rule (P : List γ → β → Prop) {xs : List γ} {b b' : β}
    (hrun : xs.foldlM f b = .ok b') (hstart : P [] b)
    (hstep : ∀ done a state state', a ∈ xs → P done state → f state a = .ok state' →
      P (done ++ [a]) state') : P xs b' := by
  suffices h : ∀ (rest done : List γ) (state : β), (∀ a ∈ rest, a ∈ xs) →
      rest.foldlM f state = .ok b' → P done state → P (done ++ rest) b' from
    h xs [] b (fun _ ha => ha) hrun hstart
  intro rest
  induction rest with
  | nil =>
      intro done state _ hdone hP
      cases hdone
      rw [List.append_nil]
      exact hP
  | cons a rest ih =>
      intro done state hsub hdone hP
      rw [List.foldlM_cons, bind_eq_ok] at hdone
      obtain ⟨next, hnext, hrest⟩ := hdone
      have hP' := hstep done a state next (hsub a List.mem_cons_self) hP hnext
      have := ih (done ++ [a]) next (fun x hx => hsub x (List.mem_cons_of_mem a hx)) hrest hP'
      rwa [List.append_assoc, List.singleton_append] at this

/-- A loop that ends has gone through each of its elements. -/
theorem foldlM_step_of_mem {xs : List γ} {b b' : β} {a : γ} (hrun : xs.foldlM f b = .ok b')
    (ha : a ∈ xs) : ∃ state state', f state a = .ok state' := by
  induction xs generalizing b with
  | nil => exact nomatch ha
  | cons head rest ih =>
      rw [List.foldlM_cons, bind_eq_ok] at hrun
      obtain ⟨next, hnext, hrest⟩ := hrun
      rcases List.mem_cons.mp ha with rfl | ha
      · exact ⟨b, next, hnext⟩
      · exact ih hrest ha

variable {α : Type u} {β : Type v} {f : α → Option β} {x : α} {y : β}

/-- What a loop has picked, one element further. -/
theorem filterMap_concat_some (xs : List α) (h : f x = some y) :
    (xs ++ [x]).filterMap f = xs.filterMap f ++ [y] := by
  rw [List.filterMap_append, List.filterMap_cons_some h, List.filterMap_nil]

theorem filterMap_concat_none (xs : List α) (h : f x = none) :
    (xs ++ [x]).filterMap f = xs.filterMap f := by
  rw [List.filterMap_append, List.filterMap_cons_none h, List.filterMap_nil, List.append_nil]

end Loops

end Fallible

end TcoCalculator
