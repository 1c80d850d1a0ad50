/-
What the readers of the browser make of the values that the server writes.
-/
import TcoCalculator.Domain.ProjectReadBack
import TcoCalculator.Library.Fallible
import TcoCalculator.Web.Draft

namespace TcoCalculator.Draft

open DecimalArith (display)
open ResourceJson (decimal option)

/-! ### Texts -/

theorem trim_ne_empty {text : String} {c : Char} (hc : c ∈ text.toList)
    (hkept : isTrimmed c = false) : trim text ≠ "" := by
  intro hempty
  have hnil : (text.toList.dropWhile isTrimmed).rdropWhile isTrimmed = [] := by
    rw [← String.toList_ofList (l := (text.toList.dropWhile isTrimmed).rdropWhile isTrimmed)]
    exact congrArg String.toList hempty
  have hall := List.rdropWhile_eq_nil_iff.mp hnil
  cases hrest : text.toList.dropWhile isTrimmed with
  | nil =>
      rw [List.dropWhile_eq_nil_iff.mp hrest c hc] at hkept
      cases hkept
  | cons first rest =>
      have hne : text.toList.dropWhile isTrimmed ≠ [] := by
        rw [hrest]
        exact List.cons_ne_nil first rest
      have hfirst := List.head_dropWhile_not isTrimmed hne
      rw [hall _ (List.head_mem hne)] at hfirst
      cases hfirst

/-- A text without white space is trimmed. -/
theorem trim_of_kept {text : String} (h : ∀ c ∈ text.toList, isTrimmed c = false) :
    trim text = text := by
  have hfront : text.toList.dropWhile isTrimmed = text.toList := by
    rw [List.dropWhile_eq_self_iff]
    intro hl
    rw [h _ (List.getElem_mem hl)]
    exact Bool.false_ne_true
  have hback : text.toList.rdropWhile isTrimmed = text.toList := by
    rw [List.rdropWhile_eq_self_iff]
    intro hne
    rw [h _ (List.getLast_mem hne)]
    exact Bool.false_ne_true
  rw [trim, hfront, hback, String.ofList_toList]

theorem isTrimmed_of_graphic {c : Char} (hlow : 33 ≤ c.toNat) (hhigh : c.toNat ≤ 126) :
    isTrimmed c = false := by
  simp only [isTrimmed, Bool.or_eq_false_iff, Bool.and_eq_false_iff, decide_eq_false_iff_not,
    beq_eq_false_iff_ne]
  omega

theorem isTrimmed_of_digit {c : Char} (h : c.isDigit = true) : isTrimmed c = false := by
  simp only [Char.isDigit, Bool.and_eq_true, decide_eq_true_eq, ge_iff_le,
    UInt32.le_iff_toNat_le] at h
  have hlow : 48 ≤ c.toNat := h.1
  have hhigh : c.toNat ≤ 57 := h.2
  exact isTrimmed_of_graphic (by omega) (by omega)

/-- Letters, digits and the three marks of a SKU name are no white space. -/
theorem isTrimmed_of_sku {c : Char}
    (h : (c.isAlphanum || c == '_' || c == '-' || c == '.') = true) : isTrimmed c = false := by
  change (((decide (c.val ≥ 'A'.val ∧ c.val ≤ 'Z'.val) ||
    (c.val ≥ 'a'.val && c.val ≤ 'z'.val)) || c.isDigit) || c == '_' || c == '-' || c == '.') =
      true at h
  simp only [Bool.or_eq_true, Bool.and_eq_true, decide_eq_true_eq, ge_iff_le,
    UInt32.le_iff_toNat_le, beq_iff_eq] at h
  obtain (((((hupper | hlower) | hdigit) | rfl) | rfl) | rfl) := h
  · have hlow : 65 ≤ c.toNat := hupper.1
    have hhigh : c.toNat ≤ 90 := hupper.2
    exact isTrimmed_of_graphic (by omega) (by omega)
  · have hlow : 97 ≤ c.toNat := hlower.1
    have hhigh : c.toNat ≤ 122 := hlower.2
    exact isTrimmed_of_graphic (by omega) (by omega)
  · exact isTrimmed_of_digit hdigit
  · rfl
  · rfl
  · rfl

theorem exists_digit_display (number : Decimal96) :
    ∃ c ∈ (display number).toList, c.isDigit = true := by
  obtain ⟨c, hc⟩ := List.exists_mem_of_ne_nil _
    (Nat.toDigits_ne_nil (b := 10) (n := number.mantissa.natAbs / 10 ^ number.scale))
  refine ⟨c, ?_, Nat.isDigit_of_mem_toDigits (by decide) (by decide) hc⟩
  change c ∈ (Decimal96.display number).toList
  rw [Decimal96.display]
  split <;> split <;> simp [hc]

/-! ### Decimals -/

theorem trim_display_ne (number : Decimal96) : trim (display number) ≠ "" := by
  obtain ⟨c, hc, hdigit⟩ := exists_digit_display number
  exact trim_ne_empty hc (isTrimmed_of_digit hdigit)

theorem requiredDecimal_decimal (number : Decimal96) (label : String) :
    requiredDecimal (some (decimal number)) label = .ok (display number) := by
  rw [decimal, requiredDecimal]
  exact if_pos (trim_display_ne number)

theorem optionalDecimal_decimal (number : Option Decimal96) :
    nullable .string (optionalDecimal (some (option decimal number))) = option decimal number := by
  cases number with
  | none => rfl
  | some number =>
      have hne : display number ≠ "" := by
        intro hempty
        obtain ⟨c, hc, -⟩ := exists_digit_display number
        rw [hempty] at hc
        cases hc
      rw [option, decimal, optionalDecimal, if_neg hne]
      rfl

theorem setRequiredDecimal_self {source record : JsRecord} {name : String} {number : Decimal96}
    (label : String) (hsource : source.member name = some (decimal number))
    (hrecord : record.member name = some (decimal number)) :
    setRequiredDecimal source name label record = .ok record := by
  rw [setRequiredDecimal, hsource, requiredDecimal_decimal]
  exact congrArg Except.ok (JsRecord.withMember_self hrecord)

theorem setOptionalDecimal_self {source record : JsRecord} {name : String}
    {number : Option Decimal96} (hsource : source.member name = some (option decimal number))
    (hrecord : record.member name = some (option decimal number)) :
    setOptionalDecimal source name record = record := by
  rw [setOptionalDecimal, hsource, optionalDecimal_decimal]
  exact JsRecord.withMember_self hrecord

/-! ### Numbers -/

section Integers

variable {toNumber : String → Option Int}

theorem parsed_number {n : Nat} (h : n < 2 ^ 53) : (Json.number n).parsed = .number n := by
  rw [Json.parsed, Double.ofInt_natCast, Double.nearest_of_lt h]

theorem requiredInteger_number {n : Nat} (h : n < 2 ^ 53) (label : String) :
    requiredInteger toNumber (some (.number n)) label = .ok n := by
  have hsafe : Double.isSafeInteger n = true := by
    rw [Double.isSafeInteger, Int.natAbs_natCast, Double.maxSafeInteger, decide_eq_true_eq]
    omega
  rw [requiredInteger]
  exact if_pos hsafe

/-- A number that the browser accepts is one that it has kept. -/
theorem lt_of_requiredInteger {n : Nat} {label : String} {m : Int}
    (h : requiredInteger toNumber (some (Json.number n).parsed) label = .ok m) : n < 2 ^ 53 := by
  rw [Json.parsed, requiredInteger, Double.isSafeInteger_ofInt] at h
  by_contra hlarge
  rw [decide_eq_false hlarge] at h
  cases h

end Integers

end TcoCalculator.Draft
