/-
How long the compact text of a value can get, in bytes.
-/
import Mathlib.Algebra.BigOperators.Group.List.Basic
import Mathlib.Data.List.Forall2
import Mathlib.Data.Nat.Digits.Defs
import Mathlib.Data.String.Basic
import TcoCalculator.Library.JsonUnambiguous

namespace TcoCalculator.Json

/-- The length of a text in UTF-8 bytes. -/
def bytes (chars : List Char) : Nat := (chars.map Char.utf8Size).sum

@[simp] theorem bytes_nil : bytes [] = 0 := rfl

@[simp] theorem bytes_cons (c : Char) (chars : List Char) :
    bytes (c :: chars) = c.utf8Size + bytes chars := by
  simp [bytes]

@[simp] theorem bytes_append (chars chars' : List Char) :
    bytes (chars ++ chars') = bytes chars + bytes chars' := by
  simp [bytes]

theorem byteLength_eq (value : Json) : byteLength value = bytes (renderChars value) := rfl

/-- Every character takes at least a byte. -/
theorem length_le_utf8ByteSize (text : String) : text.length ≤ text.utf8ByteSize := by
  rw [← String.length_toList, ← String.utf8Len_toList]
  induction text.toList with
  | nil => exact Nat.zero_le _
  | cons c rest ih =>
      have hc := c.utf8Size_pos
      rw [List.length_cons, String.utf8Len]
      omega

/-- The characters of ASCII are a byte each. -/
theorem bytes_of_ascii {chars : List Char} (h : ∀ c ∈ chars, c.utf8Size = 1) :
    bytes chars = chars.length := by
  induction chars with
  | nil => rfl
  | cons c rest ih =>
      rw [bytes_cons, List.length_cons, h c List.mem_cons_self,
        ih fun other hother => h other (List.mem_cons_of_mem c hother), Nat.add_comm]

theorem utf8Size_hexDigit (n : Nat) : (hexDigit n).utf8Size = 1 := by
  have hall : ∀ digit < 16, digit.digitChar.utf8Size = 1 := by decide
  exact hall (n % 16) (Nat.mod_lt n (by decide))

theorem utf8Size_of_isDigit {c : Char} (h : c.isDigit = true) : c.utf8Size = 1 := by
  rw [Char.isDigit, Bool.and_eq_true, decide_eq_true_eq, decide_eq_true_eq] at h
  refine if_pos (UInt32.le_trans h.2 ?_)
  decide

/-- An escape takes six bytes at most. -/
theorem bytes_escapeChar_le (c : Char) : bytes (escapeChar c) ≤ 6 := by
  have hc := Char.utf8Size_le_four c
  unfold escapeChar
  split_ifs
  any_goals decide
  · simp only [bytes_cons, bytes_nil, utf8Size_hexDigit]
    decide
  · simp only [bytes_cons, bytes_nil]
    omega

theorem bytes_escaped_le (chars : List Char) :
    bytes (chars.flatMap escapeChar) ≤ 6 * chars.length := by
  induction chars with
  | nil => rfl
  | cons c rest ih =>
      have hc := bytes_escapeChar_le c
      rw [List.flatMap_cons, bytes_append, List.length_cons]
      omega

theorem bytes_renderString_le (s : String) : bytes (renderString s) ≤ 6 * s.length + 2 := by
  have hquote : ('"').utf8Size = 1 := rfl
  have hescaped := bytes_escaped_le s.toList
  rw [String.length_toList] at hescaped
  simp only [renderString, bytes_cons, bytes_append, bytes_nil, hquote]
  omega

theorem byteLength_string_le (s : String) : byteLength (.string s) ≤ 6 * s.length + 2 :=
  bytes_renderString_le s

theorem byteLength_nat_le {n digits : Nat} (hpos : 0 < digits) (h : n < 10 ^ digits) :
    byteLength (.number n) ≤ digits := by
  have htext : renderChars (.number n) = Nat.toDigits 10 n := toString_ofNat n
  rw [byteLength_eq, htext, bytes_of_ascii fun c hc => utf8Size_of_isDigit (toDigits_isDigit n c hc)]
  exact Nat.toDigits_length 10 n digits hpos h

theorem byteLength_bool_le (b : Bool) : byteLength (.bool b) ≤ 5 := by
  cases b <;> decide

theorem bytes_renderItems_le (items : List Json) :
    bytes (renderItems items) ≤ (items.map fun item => byteLength item + 1).sum := by
  induction items with
  | nil => exact Nat.zero_le _
  | cons item rest ih =>
      have hcomma : (',').utf8Size = 1 := rfl
      cases rest with
      | nil =>
          rw [renderItems, List.map_singleton, List.sum_singleton, byteLength_eq]
          exact Nat.le_succ _
      | cons next rest =>
          rw [List.map_cons, List.sum_cons]
          simp only [renderItems, byteLength_eq, bytes_append, bytes_cons, hcomma] at ih ⊢
          omega

theorem byteLength_array_le (items : List Json) :
    byteLength (.array items) ≤ 2 + (items.map fun item => byteLength item + 1).sum := by
  have hopen : ('[').utf8Size = 1 := rfl
  have hclose : (']').utf8Size = 1 := rfl
  have hitems := bytes_renderItems_le items
  rw [byteLength_eq, renderChars, bytes_cons, bytes_append, bytes_cons, bytes_nil, hopen, hclose]
  omega

theorem bytes_renderFields_le (fields : List (String × Json)) :
    bytes (renderFields fields) ≤
      (fields.map fun field => 6 * field.1.length + byteLength field.2 + 4).sum := by
  induction fields with
  | nil => exact Nat.zero_le _
  | cons field rest ih =>
      obtain ⟨name, value⟩ := field
      have hcomma : (',').utf8Size = 1 := rfl
      have hcolon : (':').utf8Size = 1 := rfl
      have hname := bytes_renderString_le name
      cases rest with
      | nil =>
          simp only [renderFields, List.map_singleton, List.sum_singleton, byteLength_eq,
            bytes_append, bytes_cons, hcolon]
          omega
      | cons next rest =>
          obtain ⟨name', value'⟩ := next
          rw [List.map_cons, List.sum_cons]
          simp only [renderFields, byteLength_eq, bytes_append, bytes_cons, hcolon, hcomma] at ih ⊢
          omega

theorem byteLength_object_le (fields : List (String × Json)) :
    byteLength (.object fields) ≤
      2 + (fields.map fun field => 6 * field.1.length + byteLength field.2 + 4).sum := by
  have hopen : ('\x7b').utf8Size = 1 := rfl
  have hclose : ('\x7d').utf8Size = 1 := rfl
  have hfields := bytes_renderFields_le fields
  rw [byteLength_eq, renderChars, bytes_cons, bytes_append, bytes_cons, bytes_nil, hopen, hclose]
  omega

def FitsIn (value : Json) (bound : Nat) : Prop := byteLength value ≤ bound

theorem sum_byteLength_le {values : List Json} {bounds : List Nat}
    (h : List.Forall₂ FitsIn values bounds) :
    (values.map byteLength).sum ≤ bounds.sum := by
  induction h with
  | nil => exact Nat.zero_le _
  | cons hvalue _ ih =>
      rw [List.map_cons, List.sum_cons, List.sum_cons]
      exact Nat.add_le_add hvalue ih

/-- An object with names up to a length, and values each up to a bound. -/
theorem byteLength_object_le_of {fields : List (String × Json)} (longest : Nat)
    (bounds : List Nat) (hnames : ∀ name ∈ fields.map Prod.fst, name.length ≤ longest)
    (hvalues : List.Forall₂ FitsIn (fields.map Prod.snd) bounds) :
    byteLength (.object fields) ≤ 2 + (6 * longest + 4) * bounds.length + bounds.sum := by
  have hbounds := sum_byteLength_le hvalues
  have hlength : fields.length = bounds.length := by simpa using hvalues.length_eq
  rw [← hlength]
  have hsum : (fields.map fun field => 6 * field.1.length + byteLength field.2 + 4).sum ≤
      (6 * longest + 4) * fields.length + ((fields.map Prod.snd).map byteLength).sum := by
    clear hvalues hbounds hlength
    induction fields with
    | nil => exact Nat.zero_le _
    | cons field rest ih =>
        rw [List.map_cons, List.forall_mem_cons] at hnames
        have hfield := hnames.1
        have hrest := ih hnames.2
        simp only [List.map_cons, List.sum_cons, List.length_cons, Nat.mul_succ]
        omega
  have hobject := byteLength_object_le fields
  omega

end TcoCalculator.Json
