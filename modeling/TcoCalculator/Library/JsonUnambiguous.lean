/-
The compact text of a JSON value determines the value.
-/
import Mathlib.Tactic.IntervalCases
import Mathlib.Tactic.SplitIfs
import TcoCalculator.Library.Json

namespace TcoCalculator.Json

/-! ### Strings -/

/-- Read one character back from its escaped form. -/
def unescapeChar : List Char → Option (Char × List Char)
  | '\\' :: 'b' :: rest => some (Char.ofNat 8, rest)
  | '\\' :: 't' :: rest => some (Char.ofNat 9, rest)
  | '\\' :: 'n' :: rest => some (Char.ofNat 10, rest)
  | '\\' :: 'f' :: rest => some (Char.ofNat 12, rest)
  | '\\' :: 'r' :: rest => some (Char.ofNat 13, rest)
  | '\\' :: 'u' :: '0' :: '0' :: high :: low :: rest =>
      (List.range 32).findSome? fun n =>
        if hexDigit (n / 16) = high ∧ hexDigit n = low then some (Char.ofNat n, rest) else none
  | '\\' :: c :: rest => some (c, rest)
  | c :: rest => some (c, rest)
  | [] => none

theorem unescapeChar_control : ∀ n < 32, ∀ rest : List Char,
    unescapeChar ('\\' :: 'u' :: '0' :: '0' :: hexDigit (n / 16) :: hexDigit n :: rest) =
      some (Char.ofNat n, rest) := by
  intro n hn rest
  interval_cases n <;> rfl

theorem unescapeChar_escapeChar (c : Char) (rest : List Char) :
    unescapeChar (escapeChar c ++ rest) = some (c, rest) := by
  have hchar : ∀ n, c.toNat = n → Char.ofNat n = c := by
    rintro n rfl
    exact Char.ofNat_toNat c
  unfold escapeChar
  split_ifs with hquote hslash hb ht hn hf hr hcontrol
  · subst hquote
    rfl
  · subst hslash
    rfl
  · rw [← hchar 8 hb]
    rfl
  · rw [← hchar 9 ht]
    rfl
  · rw [← hchar 10 hn]
    rfl
  · rw [← hchar 12 hf]
    rfl
  · rw [← hchar 13 hr]
    rfl
  · simp only [List.cons_append, List.nil_append]
    rw [unescapeChar_control c.toNat hcontrol rest, Char.ofNat_toNat]
  · unfold unescapeChar
    split <;> simp_all

theorem escapeChar_ne_quote (c : Char) (rest rest' : List Char) :
    escapeChar c ++ rest ≠ '"' :: rest' := by
  unfold escapeChar
  split_ifs <;> simp_all

theorem escaped_unambiguous (cs cs' rest rest' : List Char)
    (h : cs.flatMap escapeChar ++ '"' :: rest = cs'.flatMap escapeChar ++ '"' :: rest') :
    cs = cs' ∧ rest = rest' := by
  induction cs generalizing cs' with
  | nil =>
      cases cs' with
      | nil => exact ⟨rfl, (List.cons.inj h).2⟩
      | cons d ds =>
          rw [List.flatMap_cons, List.append_assoc] at h
          exact absurd h.symm (escapeChar_ne_quote d _ _)
  | cons c cs ih =>
      cases cs' with
      | nil =>
          rw [List.flatMap_cons, List.append_assoc] at h
          exact absurd h (escapeChar_ne_quote c _ _)
      | cons d ds =>
          rw [List.flatMap_cons, List.flatMap_cons, List.append_assoc, List.append_assoc] at h
          have hread := congrArg unescapeChar h
          rw [unescapeChar_escapeChar, unescapeChar_escapeChar] at hread
          obtain ⟨rfl, htail⟩ := Prod.mk.inj (Option.some.inj hread)
          obtain ⟨rfl, hrest⟩ := ih ds htail
          exact ⟨rfl, hrest⟩

theorem renderString_unambiguous {s s' : String} {rest rest' : List Char}
    (h : renderString s ++ rest = renderString s' ++ rest') : s = s' ∧ rest = rest' := by
  simp only [renderString, List.cons_append, List.append_assoc, List.nil_append,
    List.cons.injEq, true_and] at h
  obtain ⟨hchars, hrest⟩ := escaped_unambiguous _ _ _ _ h
  exact ⟨String.toList_injective hchars, hrest⟩

/-! ### Numbers -/

/-- No character of a number follows. -/
def Ends (rest : List Char) : Prop :=
  ∀ c tail, rest = c :: tail → c.isDigit = false

theorem span_unambiguous {p : Char → Bool} {xs ys rest rest' : List Char}
    (hxs : ∀ c ∈ xs, p c = true) (hys : ∀ c ∈ ys, p c = true)
    (hrest : ∀ c tail, rest = c :: tail → p c = false)
    (hrest' : ∀ c tail, rest' = c :: tail → p c = false)
    (h : xs ++ rest = ys ++ rest') : xs = ys ∧ rest = rest' := by
  induction xs generalizing ys with
  | nil =>
      cases ys with
      | nil => exact ⟨rfl, h⟩
      | cons y ys =>
          have hhead := hrest y (ys ++ rest') h
          rw [hys y List.mem_cons_self] at hhead
          cases hhead
  | cons x xs ih =>
      cases ys with
      | nil =>
          have hhead := hrest' x (xs ++ rest) h.symm
          rw [hxs x List.mem_cons_self] at hhead
          cases hhead
      | cons y ys =>
          obtain ⟨rfl, htail⟩ := List.cons.inj h
          obtain ⟨rfl, hsame⟩ := ih (fun c hc => hxs c (List.mem_cons_of_mem _ hc))
            (fun c hc => hys c (List.mem_cons_of_mem _ hc)) htail
          exact ⟨rfl, hsame⟩

theorem toString_nat (n : Nat) : (toString n).toList = Nat.toDigits 10 n :=
  String.toList_ofList

theorem toString_ofNat (n : Nat) : (toString (Int.ofNat n)).toList = Nat.toDigits 10 n :=
  toString_nat n

theorem toString_negSucc (n : Nat) :
    (toString (Int.negSucc n)).toList = '-' :: Nat.toDigits 10 (n + 1) := by
  change ("-" ++ toString (n + 1)).toList = _
  rw [String.toList_append, toString_nat]
  rfl

theorem toDigits_isDigit (n : Nat) : ∀ c ∈ Nat.toDigits 10 n, c.isDigit = true :=
  fun _ hc => Nat.isDigit_of_mem_toDigits (by decide) (by decide) hc

theorem toDigits_injective {m n : Nat} (h : Nat.toDigits 10 m = Nat.toDigits 10 n) : m = n := by
  have hread := congrArg (fun digits => Nat.ofDigitChars 10 digits 0) h
  simpa only [Nat.ofDigitChars_ten_toDigits] using hread

theorem digits_unambiguous {m n : Nat} {rest rest' : List Char} (hrest : Ends rest)
    (hrest' : Ends rest')
    (h : Nat.toDigits 10 m ++ rest = Nat.toDigits 10 n ++ rest') : m = n ∧ rest = rest' := by
  obtain ⟨hdigits, hsame⟩ := span_unambiguous (toDigits_isDigit m) (toDigits_isDigit n)
    hrest hrest' h
  exact ⟨toDigits_injective hdigits, hsame⟩

theorem toDigits_ne_minus (n : Nat) (rest tail : List Char) :
    Nat.toDigits 10 n ++ rest ≠ '-' :: tail := by
  intro h
  cases hdigits : Nat.toDigits 10 n with
  | nil => exact absurd hdigits Nat.toDigits_ne_nil
  | cons c cs =>
      rw [hdigits] at h
      obtain ⟨rfl, -⟩ := List.cons.inj h
      have hdigit := toDigits_isDigit n '-' (hdigits ▸ List.mem_cons_self)
      cases hdigit

theorem number_unambiguous {m n : Int} {rest rest' : List Char} (hrest : Ends rest)
    (hrest' : Ends rest')
    (h : (toString m).toList ++ rest = (toString n).toList ++ rest') :
    m = n ∧ rest = rest' := by
  rcases m with m | m <;> rcases n with n | n
  · rw [toString_ofNat, toString_ofNat] at h
    obtain ⟨rfl, hsame⟩ := digits_unambiguous hrest hrest' h
    exact ⟨rfl, hsame⟩
  · rw [toString_ofNat, toString_negSucc] at h
    exact absurd h (toDigits_ne_minus m rest _)
  · rw [toString_ofNat, toString_negSucc] at h
    exact absurd h.symm (toDigits_ne_minus n rest' _)
  · rw [toString_negSucc, toString_negSucc] at h
    obtain ⟨hsucc, hsame⟩ := digits_unambiguous hrest hrest' (List.cons.inj h).2
    obtain rfl : m = n := Nat.succ.inj hsucc
    exact ⟨rfl, hsame⟩

/-! ### Values -/

/-- The constructor of a value, which its first character tells. -/
def kind : Json → Nat
  | null => 0
  | bool _ => 1
  | number _ => 2
  | string _ => 3
  | array _ => 4
  | object _ => 5

def leadKind (c : Char) : Nat :=
  if c = 'n' then 0
  else if c = 't' ∨ c = 'f' then 1
  else if c = '"' then 3
  else if c = '[' then 4
  else if c = '{' then 5
  else if c = ']' then 6
  else 2

theorem leadKind_digit {c : Char} (h : c.isDigit = true) : leadKind c = 2 := by
  unfold leadKind
  split_ifs with hn ht hq hb ho hc
  · subst hn; cases h
  · rcases ht with rfl | rfl <;> cases h
  · subst hq; cases h
  · subst hb; cases h
  · subst ho; cases h
  · subst hc; cases h
  · rfl

theorem lead_number (n : Int) :
    ∃ c tail, (toString n).toList = c :: tail ∧ leadKind c = 2 := by
  rcases n with n | n
  · rw [toString_ofNat]
    cases hdigits : Nat.toDigits 10 n with
    | nil => exact absurd hdigits Nat.toDigits_ne_nil
    | cons c cs =>
        exact ⟨c, cs, rfl, leadKind_digit (toDigits_isDigit n c (hdigits ▸ List.mem_cons_self))⟩
  · exact ⟨'-', _, toString_negSucc n, rfl⟩

theorem lead_renderChars (value : Json) :
    ∃ c tail, renderChars value = c :: tail ∧ leadKind c = kind value := by
  cases value with
  | null => exact ⟨'n', "ull".toList, rfl, rfl⟩
  | bool b =>
      cases b with
      | false => exact ⟨'f', "alse".toList, rfl, rfl⟩
      | true => exact ⟨'t', "rue".toList, rfl, rfl⟩
  | number n => exact lead_number n
  | string s => exact ⟨'"', _, rfl, rfl⟩
  | array items => exact ⟨'[', _, rfl, rfl⟩
  | object fields => exact ⟨'{', _, rfl, rfl⟩

theorem kind_eq {value value' : Json} {rest rest' : List Char}
    (h : renderChars value ++ rest = renderChars value' ++ rest') : kind value = kind value' := by
  obtain ⟨c, tail, hlead, hkind⟩ := lead_renderChars value
  obtain ⟨c', tail', hlead', hkind'⟩ := lead_renderChars value'
  rw [hlead, hlead'] at h
  obtain ⟨rfl, -⟩ := List.cons.inj h
  rw [← hkind, ← hkind']

theorem renderChars_ne_close (value : Json) (rest rest' : List Char) :
    renderChars value ++ rest ≠ ']' :: rest' := by
  obtain ⟨c, tail, hlead, hkind⟩ := lead_renderChars value
  rw [hlead]
  rintro hclose
  obtain ⟨rfl, -⟩ := List.cons.inj hclose
  cases value <;> cases hkind

theorem ends_of_head {c : Char} (hc : c.isDigit = false) (rest : List Char) :
    Ends (c :: rest) := by
  rintro d tail ⟨⟩
  exact hc

theorem renderItems_cons (item next : Json) (items : List Json) (rest : List Char) :
    renderItems (item :: next :: items) ++ rest =
      renderChars item ++ ',' :: (renderItems (next :: items) ++ rest) := by
  simp [renderItems]

theorem renderFields_singleton (name : String) (value : Json) (rest : List Char) :
    renderFields [(name, value)] ++ rest =
      renderString name ++ ':' :: (renderChars value ++ rest) := by
  simp [renderFields]

theorem renderFields_cons (name : String) (value : Json) (next : String × Json)
    (fields : List (String × Json)) (rest : List Char) :
    renderFields ((name, value) :: next :: fields) ++ rest =
      renderString name ++ ':' ::
        (renderChars value ++ ',' :: (renderFields (next :: fields) ++ rest)) := by
  simp [renderFields]

mutual

theorem renderChars_unambiguous (value value' : Json) (rest rest' : List Char)
    (hrest : Ends rest) (hrest' : Ends rest')
    (h : renderChars value ++ rest = renderChars value' ++ rest') :
    value = value' ∧ rest = rest' := by
  have hkind := kind_eq h
  match value, value' with
  | null, null => exact ⟨rfl, List.append_cancel_left h⟩
  | bool b, bool b' =>
      cases b <;> cases b'
      · exact ⟨rfl, List.append_cancel_left h⟩
      · exact absurd (List.cons.inj h).1 (by decide)
      · exact absurd (List.cons.inj h).1 (by decide)
      · exact ⟨rfl, List.append_cancel_left h⟩
  | number m, number n =>
      obtain ⟨rfl, hsame⟩ := number_unambiguous hrest hrest' h
      exact ⟨rfl, hsame⟩
  | string s, string s' =>
      obtain ⟨rfl, hsame⟩ := renderString_unambiguous h
      exact ⟨rfl, hsame⟩
  | array items, array items' =>
      simp only [renderChars, List.cons_append, List.append_assoc, List.nil_append,
        List.cons.injEq, true_and] at h
      obtain ⟨rfl, hsame⟩ := renderItems_unambiguous items items' rest rest' h
      exact ⟨rfl, hsame⟩
  | object fields, object fields' =>
      simp only [renderChars, List.cons_append, List.append_assoc, List.nil_append,
        List.cons.injEq, true_and] at h
      obtain ⟨rfl, hsame⟩ := renderFields_unambiguous fields fields' rest rest' h
      exact ⟨rfl, hsame⟩

theorem renderItems_unambiguous (items items' : List Json) (rest rest' : List Char)
    (h : renderItems items ++ ']' :: rest = renderItems items' ++ ']' :: rest') :
    items = items' ∧ rest = rest' := by
  match items, items' with
  | [], [] => exact ⟨rfl, (List.cons.inj h).2⟩
  | [], [item] => exact absurd h.symm (renderChars_ne_close item _ _)
  | [], item :: next :: items =>
      rw [renderItems_cons] at h
      exact absurd h.symm (renderChars_ne_close item _ _)
  | [item], [] => exact absurd h (renderChars_ne_close item _ _)
  | item :: next :: items, [] =>
      rw [renderItems_cons] at h
      exact absurd h (renderChars_ne_close item _ _)
  | [item], [item'] =>
      obtain ⟨rfl, hsame⟩ := renderChars_unambiguous item item' _ _ (ends_of_head rfl _)
        (ends_of_head rfl _) h
      exact ⟨rfl, (List.cons.inj hsame).2⟩
  | [item], item' :: next :: items =>
      rw [renderItems_cons] at h
      obtain ⟨-, hsame⟩ := renderChars_unambiguous item item' _ _ (ends_of_head rfl _)
        (ends_of_head rfl _) h
      exact absurd (List.cons.inj hsame).1 (by decide)
  | item :: next :: items, [item'] =>
      rw [renderItems_cons] at h
      obtain ⟨-, hsame⟩ := renderChars_unambiguous item item' _ _ (ends_of_head rfl _)
        (ends_of_head rfl _) h
      exact absurd (List.cons.inj hsame).1 (by decide)
  | item :: next :: items, item' :: next' :: items' =>
      rw [renderItems_cons, renderItems_cons] at h
      obtain ⟨rfl, hsame⟩ := renderChars_unambiguous item item' _ _ (ends_of_head rfl _)
        (ends_of_head rfl _) h
      obtain ⟨htail, hrest⟩ := renderItems_unambiguous (next :: items) (next' :: items')
        rest rest' (List.cons.inj hsame).2
      exact ⟨congrArg (item :: ·) htail, hrest⟩

theorem renderFields_unambiguous (fields fields' : List (String × Json))
    (rest rest' : List Char)
    (h : renderFields fields ++ '}' :: rest = renderFields fields' ++ '}' :: rest') :
    fields = fields' ∧ rest = rest' := by
  match fields, fields' with
  | [], [] => exact ⟨rfl, (List.cons.inj h).2⟩
  | [], [(name, value)] => exact absurd (List.cons.inj h).1 (by decide)
  | [], (name, value) :: next :: fields =>
      rw [renderFields_cons] at h
      exact absurd (List.cons.inj h).1 (by decide)
  | [(name, value)], [] => exact absurd (List.cons.inj h).1 (by decide)
  | (name, value) :: next :: fields, [] =>
      rw [renderFields_cons] at h
      exact absurd (List.cons.inj h).1 (by decide)
  | [(name, value)], [(name', value')] =>
      rw [renderFields_singleton, renderFields_singleton] at h
      obtain ⟨rfl, hvalue⟩ := renderString_unambiguous h
      obtain ⟨rfl, hsame⟩ := renderChars_unambiguous value value' _ _ (ends_of_head rfl _)
        (ends_of_head rfl _) (List.cons.inj hvalue).2
      exact ⟨rfl, (List.cons.inj hsame).2⟩
  | [(name, value)], (name', value') :: next :: fields =>
      rw [renderFields_singleton, renderFields_cons] at h
      obtain ⟨rfl, hvalue⟩ := renderString_unambiguous h
      obtain ⟨-, hsame⟩ := renderChars_unambiguous value value' _ _ (ends_of_head rfl _)
        (ends_of_head rfl _) (List.cons.inj hvalue).2
      exact absurd (List.cons.inj hsame).1 (by decide)
  | (name, value) :: next :: fields, [(name', value')] =>
      rw [renderFields_singleton, renderFields_cons] at h
      obtain ⟨rfl, hvalue⟩ := renderString_unambiguous h
      obtain ⟨-, hsame⟩ := renderChars_unambiguous value value' _ _ (ends_of_head rfl _)
        (ends_of_head rfl _) (List.cons.inj hvalue).2
      exact absurd (List.cons.inj hsame).1 (by decide)
  | (name, value) :: next :: fields, (name', value') :: next' :: fields' =>
      rw [renderFields_cons, renderFields_cons] at h
      obtain ⟨rfl, hvalue⟩ := renderString_unambiguous h
      obtain ⟨rfl, hsame⟩ := renderChars_unambiguous value value' _ _ (ends_of_head rfl _)
        (ends_of_head rfl _) (List.cons.inj hvalue).2
      obtain ⟨htail, hrest⟩ := renderFields_unambiguous (next :: fields) (next' :: fields')
        rest rest' (List.cons.inj hsame).2
      exact ⟨congrArg ((name, value) :: ·) htail, hrest⟩

end

/-- Values with the same text are the same value. -/
theorem render_injective {value value' : Json} (h : render value = render value') :
    value = value' := by
  have hends : Ends [] := fun _ _ hnil => nomatch hnil
  have hchars : renderChars value ++ [] = renderChars value' ++ [] := by
    rw [List.append_nil, List.append_nil]
    exact String.ofList_injective h
  exact (renderChars_unambiguous value value' [] [] hends hends hchars).1

instance : DecidableEq Json := fun value value' =>
  decidable_of_iff (render value = render value') ⟨render_injective, congrArg render⟩

end TcoCalculator.Json
