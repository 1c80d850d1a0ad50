/-
Two calculations side by side: wherever the first returns the second does, with
a result related to that of the first.
-/
import Mathlib.Data.List.Forall2
import TcoCalculator.Library.Fallible

namespace TcoCalculator.Fallible

variable {ε ε' α α' β β' : Type}

def Follows (R : α → α' → Prop) (x : Except ε α) (x' : Except ε' α') : Prop :=
  ∀ a, x = .ok a → ∃ a', x' = .ok a' ∧ R a a'

namespace Follows

variable {R : α → α' → Prop} {S : β → β' → Prop}

theorem ok {a : α} {a' : α'} (h : R a a') :
    Follows R (.ok a : Except ε α) (.ok a' : Except ε' α') := by
  rintro _ ⟨⟩
  exact ⟨a', rfl, h⟩

theorem error (e : ε) (x' : Except ε' α') : Follows R (.error e) x' := nofun

theorem refl (x : Except ε α) : Follows Eq x x := fun a ha => ⟨a, ha, rfl⟩

theorem imp {R' : α → α' → Prop} {x : Except ε α} {x' : Except ε' α'} (h : Follows R x x')
    (himp : ∀ a a', R a a' → R' a a') : Follows R' x x' := by
  intro a ha
  obtain ⟨a', ha', hR⟩ := h a ha
  exact ⟨a', ha', himp a a' hR⟩

theorem bind {x : Except ε α} {x' : Except ε' α'} {f : α → Except ε β} {f' : α' → Except ε' β'}
    (hx : Follows R x x') (hf : ∀ a a', R a a' → Follows S (f a) (f' a')) :
    Follows S (x >>= f) (x' >>= f') := by
  intro b hb
  obtain ⟨a, ha, hb⟩ := bind_eq_ok.mp hb
  obtain ⟨a', ha', hR⟩ := hx a ha
  obtain ⟨b', hb', hS⟩ := hf a a' hR b hb
  exact ⟨b', bind_eq_ok.mpr ⟨a', ha', hb'⟩, hS⟩

theorem ensure {condition condition' : Prop} [Decidable condition] [Decidable condition'] {e : ε}
    {e' : ε'} (h : condition → condition') :
    Follows (fun (_ _ : Unit) => True) (ensure condition e) (ensure condition' e') := by
  intro u hu
  exact ⟨u, ensure_eq_ok.mpr (h (ensure_eq_ok.mp hu)), trivial⟩

theorem mapM {f : β → Except ε α} {f' : β' → Except ε' α'} {xs : List β} {xs' : List β'}
    (hxs : List.Forall₂ S xs xs') (h : ∀ b b', S b b' → Follows R (f b) (f' b')) :
    Follows (List.Forall₂ R) (xs.mapM f) (xs'.mapM f') := by
  induction hxs with
  | nil => exact .ok .nil
  | cons hhead _ ih =>
      rw [List.mapM_cons, List.mapM_cons]
      refine (h _ _ hhead).bind fun a a' ha => ih.bind fun rest rest' hrest => ?_
      exact .ok (.cons ha hrest)

theorem mapM_same {f : β → Except ε α} {f' : β → Except ε' α'} (xs : List β)
    (h : ∀ b, Follows R (f b) (f' b)) : Follows (List.Forall₂ R) (xs.mapM f) (xs.mapM f') :=
  mapM (S := Eq) (List.forall₂_eq_eq_eq ▸ rfl) fun b _ hb => hb ▸ h b

theorem foldlM {γ : Type} {f : α → γ → Except ε α} {f' : α' → γ → Except ε' α'} (xs : List γ)
    {state : α} {state' : α'} (hstate : R state state')
    (h : ∀ a a', R a a' → ∀ x ∈ xs, Follows R (f a x) (f' a' x)) :
    Follows R (xs.foldlM f state) (xs.foldlM f' state') := by
  induction xs generalizing state state' with
  | nil => exact .ok hstate
  | cons x rest ih =>
      rw [List.foldlM_cons, List.foldlM_cons]
      refine (h state state' hstate x List.mem_cons_self).bind fun a a' ha => ih ha ?_
      intro b b' hb y hy
      exact h b b' hb y (List.mem_cons_of_mem x hy)

end Follows

end TcoCalculator.Fallible
