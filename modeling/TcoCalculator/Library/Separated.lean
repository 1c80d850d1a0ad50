/-
Texts joined by a separator: the part before the first separator and the part
behind the last one can be read back.
-/
import Mathlib.Data.List.Basic
import Std.Data.String

namespace Separated

section Lists

variable {α : Type} {sep : α}

/-- Separators are found from the left. -/
theorem first_inj {xs ys rest rest' : List α} (hxs : sep ∉ xs) (hys : sep ∉ ys) :
    xs ++ sep :: rest = ys ++ sep :: rest' ↔ xs = ys ∧ rest = rest' := by
  constructor
  · intro h
    induction xs generalizing ys with
    | nil =>
        rcases ys with _ | ⟨y, ys⟩
        · exact ⟨rfl, (List.cons.inj h).2⟩
        · exact absurd ((List.cons.inj h).1 ▸ List.mem_cons_self) hys
    | cons x xs ih =>
        rcases ys with _ | ⟨y, ys⟩
        · exact absurd ((List.cons.inj h).1 ▸ List.mem_cons_self) hxs
        · obtain ⟨rfl, htail⟩ := List.cons.inj h
          obtain ⟨rfl, hrest⟩ := ih (List.not_mem_of_not_mem_cons hxs)
            (List.not_mem_of_not_mem_cons hys) htail
          exact ⟨rfl, hrest⟩
  · rintro ⟨rfl, rfl⟩
    rfl

/-- Separators are found from the right. -/
theorem last_inj {xs ys rest rest' : List α} (hrest : sep ∉ rest) (hrest' : sep ∉ rest') :
    xs ++ sep :: rest = ys ++ sep :: rest' ↔ xs = ys ∧ rest = rest' := by
  rw [← List.reverse_inj, List.reverse_append, List.reverse_append, List.reverse_cons,
    List.reverse_cons, List.append_assoc, List.append_assoc, List.singleton_append,
    List.singleton_append, first_inj (by simpa using hrest) (by simpa using hrest'),
    List.reverse_inj, List.reverse_inj, and_comm]

end Lists

section Texts

variable {sep : Char} {left left' right right' : String}

theorem toList_join :
    (left ++ String.singleton sep ++ right).toList = left.toList ++ sep :: right.toList := by
  simp

theorem first_text_inj (hleft : sep ∉ left.toList) (hleft' : sep ∉ left'.toList) :
    left ++ String.singleton sep ++ right = left' ++ String.singleton sep ++ right' ↔
      left = left' ∧ right = right' := by
  rw [← String.toList_inj, toList_join, toList_join, first_inj hleft hleft', String.toList_inj,
    String.toList_inj]

theorem last_text_inj (hright : sep ∉ right.toList) (hright' : sep ∉ right'.toList) :
    left ++ String.singleton sep ++ right = left' ++ String.singleton sep ++ right' ↔
      left = left' ∧ right = right' := by
  rw [← String.toList_inj, toList_join, toList_join, last_inj hright hright', String.toList_inj,
    String.toList_inj]

end Texts

/-- Numbers hold no separator. -/
theorem notMem_toString {sep : Char} (hsep : sep.isDigit = false) (n : Nat) :
    sep ∉ (toString n).toList := by
  intro hmem
  rw [Nat.toString_eq_repr, Nat.toList_repr] at hmem
  have hdigit := Nat.isDigit_of_mem_toDigits (by decide) (by decide) hmem
  rw [hsep] at hdigit
  cases hdigit

theorem toString_inj {m n : Nat} : toString m = toString n ↔ m = n := by
  rw [Nat.toString_eq_repr, Nat.toString_eq_repr]
  exact Nat.repr_inj

/-! ### Parts -/

section Parts

variable {α : Type} {p : α → Bool}

/-- A part of a list between two separators or ends, without a separator in it. -/
def IsPart (p : α → Bool) (part whole : List α) : Prop :=
  (∀ x ∈ part, p x = false) ∧ ∃ before after, whole = before ++ part ++ after ∧
    (∀ x ∈ before.getLast?, p x = true) ∧ ∀ x ∈ after.head?, p x = true

theorem IsPart.append_separator {part whole : List α} (h : IsPart p part whole) {sep : α}
    (hsep : p sep = true) (rest : List α) : IsPart p part (whole ++ sep :: rest) := by
  obtain ⟨hpart, before, after, rfl, hbefore, hafter⟩ := h
  refine ⟨hpart, before, after ++ sep :: rest, by simp, hbefore, ?_⟩
  cases after with
  | nil => simpa using hsep
  | cons x after => simpa using hafter

theorem IsPart.prepend_separator {part whole : List α} (h : IsPart p part whole) {sep : α}
    (hsep : p sep = true) (first : List α) : IsPart p part (first ++ sep :: whole) := by
  obtain ⟨hpart, before, after, rfl, hbefore, hafter⟩ := h
  refine ⟨hpart, first ++ sep :: before, after, by simp, ?_, hafter⟩
  rcases List.eq_nil_or_concat before with rfl | ⟨before, x, rfl⟩
  · simpa using hsep
  · have hconcat : first ++ sep :: before.concat x = first ++ sep :: before ++ [x] := by simp
    rw [List.concat_eq_append, List.getLast?_concat] at hbefore
    rw [hconcat, List.getLast?_concat]
    exact hbefore

theorem mem_splitOnP_iff {part whole : List α} :
    part ∈ whole.splitOnP p ↔ IsPart p part whole := by
  constructor
  · intro h
    -- By induction on the length, cut at any separator.
    induction hlength : whole.length using Nat.strongRecOn generalizing whole with
    | ind length ih =>
      subst hlength
      by_cases hnone : ∀ x ∈ whole, p x = false
      · rw [List.splitOnP_eq_singleton hnone, List.mem_singleton] at h
        subst h
        exact ⟨hnone, [], [], by simp, by simp, by simp⟩
      · push Not at hnone
        obtain ⟨sep, hmem, hsep⟩ := hnone
        obtain ⟨first, rest, rfl⟩ := List.append_of_mem hmem
        have hsep : p sep = true := by simpa using hsep
        rw [List.splitOnP_append_cons first rest hsep, List.mem_append] at h
        rcases h with h | h
        · exact (ih first.length (by simp) h rfl).append_separator hsep rest
        · exact (ih rest.length (by simp; omega) h rfl).prepend_separator hsep first
  · rintro ⟨hpart, before, after, rfl, hbefore, hafter⟩
    have hrest : part ∈ (part ++ after).splitOnP p := by
      cases after with
      | nil => simp [List.splitOnP_eq_singleton hpart]
      | cons sep after =>
          rw [List.splitOnP_append_cons part after (hafter sep rfl),
            List.splitOnP_eq_singleton hpart]
          exact List.mem_cons_self
    rcases List.eq_nil_or_concat before with rfl | ⟨before, sep, rfl⟩
    · simpa using hrest
    · rw [List.append_assoc, List.concat_eq_append, List.append_assoc, List.singleton_append,
        List.splitOnP_append_cons before _ (hbefore sep (by simp))]
      exact List.mem_append_right _ hrest

end Parts

end Separated
