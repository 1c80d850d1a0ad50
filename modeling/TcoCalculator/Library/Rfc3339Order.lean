/-
The order of the texts of UTC timestamps against the order of their instants:
the texts are compared as texts, and only some spellings turn the order around.
-/
import Mathlib.Data.String.Basic
import TcoCalculator.Library.Rfc3339

namespace TcoCalculator.Rfc3339

/-! ### Days in order -/

theorem sum_take_add_getD_le (lens : List Nat) {i j : Nat} (h : i < j) :
    (lens.take i).sum + lens.getD i 0 ≤ (lens.take j).sum := by
  induction lens generalizing i j with
  | nil => simp
  | cons len rest ih =>
      obtain ⟨j, rfl⟩ : ∃ k, j = k + 1 := ⟨j - 1, by omega⟩
      cases i with
      | zero => simp
      | succ i =>
          have hrest := ih (show i < j by omega)
          simp only [List.take_succ_cons, List.sum_cons, List.getD_cons_succ]
          omega

/-- Days before the first of a year. -/
def yearStart (year : Nat) : Nat := year / 400 * cycleDays + (cycleYears.take (year % 400)).sum

theorem yearStart_add_le {year year' : Nat} (h : year < year') :
    yearStart year + yearDays year ≤ yearStart year' := by
  have hlt : year % 400 < 400 := Nat.mod_lt _ (by decide)
  have hdays : cycleYears.getD (year % 400) 0 = yearDays year := by
    rw [cycleYears_getD hlt, yearDays, yearDays, ← isLeap_cycle_add (year / 400) (year % 400),
      Nat.div_add_mod]
  unfold yearStart
  by_cases hcycle : year / 400 = year' / 400
  · have hle := sum_take_add_getD_le cycleYears (show year % 400 < year' % 400 by omega)
    rw [hdays] at hle
    rw [hcycle]
    omega
  · have hle := sum_take_add_getD_le cycleYears hlt
    have hall : cycleYears.take 400 = cycleYears :=
      List.take_of_length_le (by simp [cycleYears])
    rw [hdays, hall, sum_cycleYears] at hle
    have hnext : year / 400 + 1 ≤ year' / 400 := by omega
    have hcycles := Nat.mul_le_mul_right cycleDays hnext
    rw [Nat.add_mul, Nat.one_mul] at hcycles
    omega

/-- Year, then month, then day. -/
def CivilDate.Before (date date' : CivilDate) : Prop :=
  date.year < date'.year ∨ date.year = date'.year ∧
    (date.month < date'.month ∨ date.month = date'.month ∧ date.day < date'.day)

theorem CivilDate.toDays_eq (date : CivilDate) : date.toDays =
    yearStart date.year + (((monthLengths date.year).take (date.month - 1)).sum +
      (date.day - 1)) := by
  rw [toDays, yearStart, Nat.add_assoc]

theorem CivilDate.IsValid.inYear_lt {date : CivilDate} (h : date.IsValid) :
    ((monthLengths date.year).take (date.month - 1)).sum + (date.day - 1) <
      yearDays date.year := by
  obtain ⟨hmonth, hday⟩ := h
  have hle := sum_take_add_getD_le (monthLengths date.year)
    (show date.month - 1 < 12 by omega)
  rw [List.take_of_length_le (show (monthLengths date.year).length ≤ 12 from le_rfl),
    sum_monthLengths] at hle
  omega

theorem CivilDate.Before.toDays_lt {date date' : CivilDate} (h : date.Before date')
    (hvalid : date.IsValid) : date.toDays < date'.toDays := by
  rw [toDays_eq, toDays_eq]
  rcases h with hyear | ⟨hyear, hmonth | ⟨hmonth, hday⟩⟩
  · have hle := yearStart_add_le hyear
    have hlt := hvalid.inYear_lt
    omega
  · obtain ⟨hmonthValid, hdayValid⟩ := hvalid
    have hle := sum_take_add_getD_le (monthLengths date.year)
      (show date.month - 1 < date'.month - 1 by omega)
    rw [← hyear]
    omega
  · obtain ⟨-, hdayValid⟩ := hvalid
    rw [← hyear, ← hmonth]
    omega

/-! ### Digits in order -/

theorem append_lt_append_iff {a b c d : List Char} (h : a.length = b.length) :
    a ++ c < b ++ d ↔ a < b ∨ a = b ∧ c < d := by
  induction a generalizing b with
  | nil =>
      obtain rfl := List.length_eq_zero_iff.mp h.symm
      simp
  | cons x xs ih =>
      cases b with
      | nil => simp at h
      | cons y ys =>
          have hrest := ih (show xs.length = ys.length by simpa using h)
          simp only [List.cons_append, List.cons_lt_cons_iff, hrest, List.cons.injEq]
          tauto

theorem cons_lt_cons_same {c : Char} {a b : List Char} : c :: a < c :: b ↔ a < b := by
  simp

/-- The number some digits spell. -/
def digitsNumber : List Char → Nat
  | [] => 0
  | c :: rest => digitsNumber rest + digitValue c * 10 ^ rest.length

structure Digits (width : Nat) (digits : List Char) : Prop where
  length_eq : digits.length = width
  isDigit : ∀ c ∈ digits, c.isDigit = true

theorem isDigit_iff {c : Char} : c.isDigit = true ↔ 48 ≤ c.toNat ∧ c.toNat ≤ 57 := by
  simp [Char.isDigit, UInt32.le_iff_toNat_le]

theorem digitValue_lt {c : Char} (h : c.isDigit = true) : digitValue c < 10 := by
  have h := isDigit_iff.mp h
  rw [digitValue]
  omega

theorem Digits.tail {width : Nat} {c : Char} {rest : List Char} (h : Digits width (c :: rest)) :
    Digits rest.length rest :=
  ⟨rfl, fun d hd => h.isDigit d (List.mem_cons_of_mem _ hd)⟩

theorem digitsNumber_lt_pow {width : Nat} {digits : List Char} (h : Digits width digits) :
    digitsNumber digits < 10 ^ digits.length := by
  induction digits generalizing width with
  | nil => simp [digitsNumber]
  | cons c rest ih =>
      have hrest := ih h.tail
      have hdigit := digitValue_lt (h.isDigit c List.mem_cons_self)
      have hle := Nat.mul_le_mul_right (10 ^ rest.length) (show digitValue c ≤ 9 by omega)
      rw [digitsNumber, List.length_cons, pow_succ]
      omega

/-- Digits of one width are in the order of their numbers. -/
theorem digitsNumber_lt {width : Nat} {digits digits' : List Char} (h : Digits width digits)
    (h' : Digits width digits') (hlt : digits < digits') :
    digitsNumber digits < digitsNumber digits' := by
  have hlength : digits'.length = digits.length := h'.length_eq.trans h.length_eq.symm
  clear h'
  induction digits generalizing width digits' with
  | nil =>
      obtain rfl := List.length_eq_zero_iff.mp hlength
      exact absurd hlt (lt_irrefl _)
  | cons c rest ih =>
      cases digits' with
      | nil => simp at hlength
      | cons c' rest' =>
          have hlengthRest : rest'.length = rest.length := by simpa using hlength
          rw [digitsNumber, digitsNumber, hlengthRest]
          rcases List.cons_lt_cons_iff.mp hlt with hc | ⟨rfl, hltRest⟩
          · have hrest := digitsNumber_lt_pow h.tail
            have hdigit := isDigit_iff.mp (h.isDigit c List.mem_cons_self)
            have hc : c.toNat < c'.toNat := hc
            have hstep : digitValue c + 1 ≤ digitValue c' := by
              simp only [digitValue]
              omega
            have hle := Nat.mul_le_mul_right (10 ^ rest.length) hstep
            rw [Nat.add_mul, Nat.one_mul] at hle
            omega
          · have hrest := ih h.tail hltRest hlengthRest
            omega

theorem readDigits_eq_some {width acc number : Nat} {cs rest : List Char}
    (h : readDigits width acc cs = some (number, rest)) :
    ∃ digits, Digits width digits ∧ cs = digits ++ rest ∧
      number = acc * 10 ^ width + digitsNumber digits := by
  induction width generalizing acc cs with
  | zero =>
      simp only [readDigits, Option.some.injEq, Prod.mk.injEq] at h
      obtain ⟨rfl, rfl⟩ := h
      exact ⟨[], ⟨rfl, by simp⟩, rfl, by simp [digitsNumber]⟩
  | succ width ih =>
      cases cs with
      | nil => simp [readDigits] at h
      | cons c cs =>
          rw [readDigits] at h
          split_ifs at h with hdigit
          obtain ⟨digits, hdigits, rfl, rfl⟩ := ih h
          refine ⟨c :: digits, ⟨by simp [hdigits.length_eq], ?_⟩, rfl, ?_⟩
          · simpa [hdigit] using hdigits.isDigit
          · rw [digitsNumber, hdigits.length_eq, pow_succ]
            ring

/-- A fraction stays below a second. -/
theorem readFraction_lt (width value : Nat) (cs : List Char) :
    (readFraction (10 ^ width / 10) value cs).1 < value + 10 ^ width := by
  induction cs generalizing width value with
  | nil => simp [readFraction]
  | cons c cs ih =>
      rw [readFraction]
      split_ifs with hdigit
      · have hvalue := digitValue_lt hdigit
        cases width with
        | zero => simpa using ih 0 value
        | succ width =>
            have hpow : 10 ^ (width + 1) / 10 = 10 ^ width := by
              rw [pow_succ, Nat.mul_div_cancel _ (by decide)]
            rw [hpow]
            have hrest := ih width (value + digitValue c * 10 ^ width)
            have hle : digitValue c * 10 ^ width ≤ 9 * 10 ^ width :=
              Nat.mul_le_mul_right _ (by omega)
            rw [pow_succ]
            omega
      · simp

/-! ### Spellings -/

/-- A text cut into what the parser reads; the rest is the fraction and the
offset. -/
structure Spelling where
  year : List Char
  month : List Char
  day : List Char
  separator : Char
  hour : List Char
  minute : List Char
  second : List Char
  rest : List Char

namespace Spelling

variable (spelling : Spelling)

def date : List Char :=
  spelling.year ++ '-' :: (spelling.month ++ '-' :: spelling.day)

def clock : List Char :=
  spelling.hour ++ ':' :: (spelling.minute ++ ':' :: spelling.second)

def chars : List Char :=
  spelling.date ++ ([spelling.separator] ++ (spelling.clock ++ spelling.rest))

def civilDate : CivilDate :=
  ⟨digitsNumber spelling.year, digitsNumber spelling.month, digitsNumber spelling.day⟩

/-- The seconds since midnight, as the clock is written. -/
def seconds : Nat :=
  digitsNumber spelling.hour * 3600 + digitsNumber spelling.minute * 60 +
    digitsNumber spelling.second

structure WellFormed : Prop where
  year : Digits 4 spelling.year
  month : Digits 2 spelling.month
  day : Digits 2 spelling.day
  hour : Digits 2 spelling.hour
  minute : Digits 2 spelling.minute
  second : Digits 2 spelling.second

/-- The spelling of a UTC instant; second 60 stands for the end of second 59. -/
structure Spells (nanos : Int) : Prop where
  wellFormed : spelling.WellFormed
  valid : spelling.civilDate.IsValid
  hour : digitsNumber spelling.hour ≤ 23
  minute : digitsNumber spelling.minute ≤ 59
  second : digitsNumber spelling.second ≤ 60
  instant : ∃ nanosecond < nanosPerSecond,
    nanos = spelling.civilDate.toDays * nanosPerDay + spelling.seconds * nanosPerSecond +
      nanosecond ∧ digitsNumber spelling.second ≤ 59 ∨
    nanos + 1 = spelling.civilDate.toDays * nanosPerDay + spelling.seconds * nanosPerSecond ∧
      digitsNumber spelling.second = 60

end Spelling

theorem expectChar_eq_some {expected : Char} {cs rest : List Char} :
    expectChar expected cs = some rest ↔ cs = expected :: rest := by
  cases cs with
  | nil => simp [expectChar]
  | cons c cs =>
      by_cases h : c = expected
      · simp [expectChar, h]
      · simp [expectChar, h]

theorem parseDate_eq_some {cs rest : List Char} {date : CivilDate}
    (h : parseDate cs = some (date, rest)) :
    ∃ year month day, Digits 4 year ∧ Digits 2 month ∧ Digits 2 day ∧
      cs = (year ++ '-' :: (month ++ '-' :: day)) ++ rest ∧
      date = ⟨digitsNumber year, digitsNumber month, digitsNumber day⟩ := by
  simp only [parseDate, Option.bind_eq_bind, Option.bind_eq_some_iff, Prod.exists,
    expectChar_eq_some] at h
  obtain ⟨_, _, hyear, _, rfl, _, _, hmonth, _, rfl, _, _, hday, hdate⟩ := h
  obtain ⟨year, hyearDigits, rfl, rfl⟩ := readDigits_eq_some hyear
  obtain ⟨month, hmonthDigits, rfl, rfl⟩ := readDigits_eq_some hmonth
  obtain ⟨day, hdayDigits, rfl, rfl⟩ := readDigits_eq_some hday
  cases hdate
  exact ⟨year, month, day, hyearDigits, hmonthDigits, hdayDigits, by simp, by simp⟩

theorem parseClock_eq_some {cs rest : List Char} {numbers : Nat × Nat × Nat}
    (h : parseClock cs = some (numbers, rest)) :
    ∃ hour minute second, Digits 2 hour ∧ Digits 2 minute ∧ Digits 2 second ∧
      cs = (hour ++ ':' :: (minute ++ ':' :: second)) ++ rest ∧
      numbers = (digitsNumber hour, digitsNumber minute, digitsNumber second) := by
  simp only [parseClock, Option.bind_eq_bind, Option.bind_eq_some_iff, Prod.exists,
    expectChar_eq_some] at h
  obtain ⟨_, _, hhour, _, rfl, _, _, hminute, _, rfl, _, _, hsecond, hnumbers⟩ := h
  obtain ⟨hour, hhourDigits, rfl, rfl⟩ := readDigits_eq_some hhour
  obtain ⟨minute, hminuteDigits, rfl, rfl⟩ := readDigits_eq_some hminute
  obtain ⟨second, hsecondDigits, rfl, rfl⟩ := readDigits_eq_some hsecond
  cases hnumbers
  exact ⟨hour, minute, second, hhourDigits, hminuteDigits, hsecondDigits, by simp, by simp⟩

theorem parseFraction_lt {cs rest : List Char} {nanosecond : Nat}
    (h : parseFraction cs = some (nanosecond, rest)) : nanosecond < nanosPerSecond := by
  unfold parseFraction at h
  split at h
  · rename_i c cs
    split_ifs at h
    have hlt := readFraction_lt 9 0 (c :: cs)
    rw [Option.some.inj h] at hlt
    exact lt_of_lt_of_eq hlt (by decide)
  · cases h
  · cases h
    decide

/-- The instant a date and a clock reading stand for in UTC. -/
theorem assemble_utc {date : CivilDate} {hour minute second nanosecond : Nat} {offset : Int}
    {parsed : ParsedDateTime}
    (h : assemble date hour minute second nanosecond offset = some parsed)
    (hutc : parsed.isUtc = true) :
    (date.IsValid ∧ hour ≤ 23 ∧ minute ≤ 59) ∧
      (parsed.nanos = date.toDays * nanosPerDay +
          (hour * 3600 + minute * 60 + second) * nanosPerSecond + nanosecond ∧ second ≤ 59 ∨
        parsed.nanos + 1 = date.toDays * nanosPerDay +
          (hour * 3600 + minute * 60 + second) * nanosPerSecond ∧ second = 60) := by
  by_cases hleap : second = 60
  · subst hleap
    simp only [assemble, guard, beq_self_eq_true, if_true, Option.bind_eq_bind,
      Option.bind_eq_some_iff] at h
    obtain ⟨_, hvalid, _, -, hparsed⟩ := h
    split_ifs at hvalid with hrange
    obtain ⟨hdate, hhour, hminute, -⟩ := hrange
    cases hparsed
    have hoffset : offset = 0 := by simpa [ParsedDateTime.isUtc] using hutc
    refine ⟨⟨hdate, hhour, hminute⟩, .inr ⟨?_, rfl⟩⟩
    subst hoffset
    push_cast
    simp only [nanosPerSecond]
    ring
  · have hbeq : (second == 60) = false := beq_eq_false_iff_ne.mpr hleap
    simp only [assemble, guard, hbeq, Bool.false_eq_true, if_false, Option.bind_eq_bind,
      Option.bind_eq_some_iff] at h
    obtain ⟨_, hvalid, _, -, hparsed⟩ := h
    split_ifs at hvalid with hrange
    obtain ⟨hdate, hhour, hminute, hsecond⟩ := hrange
    cases hparsed
    have hoffset : offset = 0 := by simpa [ParsedDateTime.isUtc] using hutc
    refine ⟨⟨hdate, hhour, hminute⟩, .inl ⟨?_, hsecond⟩⟩
    subst hoffset
    push_cast
    ring

theorem exists_spelling {text : String} {parsed : ParsedDateTime} (h : parse text = some parsed)
    (hutc : parsed.isUtc = true) :
    ∃ spelling : Spelling, text.toList = spelling.chars ∧ spelling.Spells parsed.nanos := by
  simp only [parse, parseChars, Option.bind_eq_bind, Option.bind_eq_some_iff, Prod.exists] at h
  obtain ⟨_, afterDate, hdate, afterSeparator, hseparator, _, _, _, _, hclock, nanosecond, _,
    hfraction, offset, _, -, _, -, hassemble⟩ := h
  obtain ⟨year, month, day, hyear, hmonth, hday, hchars, rfl⟩ := parseDate_eq_some hdate
  obtain ⟨hour, minute, second, hhour, hminute, hsecond, rfl, hnumbers⟩ :=
    parseClock_eq_some hclock
  cases afterDate with
  | nil => cases hseparator
  | cons separator afterDate =>
      cases hseparator
      cases hnumbers
      obtain ⟨⟨hvalid, hhourLe, hminuteLe⟩, hinstant⟩ := assemble_utc hassemble hutc
      refine ⟨⟨year, month, day, separator, hour, minute, second, _⟩, hchars, ?_⟩
      refine ⟨⟨hyear, hmonth, hday, hhour, hminute, hsecond⟩, hvalid, hhourLe, hminuteLe, ?_,
        nanosecond, parseFraction_lt hfraction, ?_⟩
      · rcases hinstant with ⟨-, hle⟩ | ⟨-, heq⟩
        · exact hle.trans (by decide)
        · exact heq.le
      · simpa [Spelling.seconds, Spelling.civilDate] using hinstant

/-! ### The order of spellings -/

namespace Spelling

variable {first second : Spelling} {nanos nanos' : Int}

theorem Spells.inDay (h : first.Spells nanos) :
    first.civilDate.toDays * nanosPerDay ≤ nanos ∧
      nanos < (first.civilDate.toDays + 1 : Nat) * nanosPerDay := by
  have hhour := h.hour
  have hminute := h.minute
  have hsecond := h.second
  obtain ⟨nanosecond, hlt, hinstant⟩ := h.instant
  simp only [seconds, nanosPerDay, nanosPerSecond] at hlt hinstant ⊢
  omega

theorem Spells.date_not_lt (hfirst : first.Spells nanos) (hsecond : second.Spells nanos')
    (hlt : nanos < nanos') : ¬ second.date < first.date := by
  intro htext
  have hbefore : second.civilDate.Before first.civilDate := by
    have hyear : second.year.length = first.year.length :=
      hsecond.wellFormed.year.length_eq.trans hfirst.wellFormed.year.length_eq.symm
    have hmonth : second.month.length = first.month.length :=
      hsecond.wellFormed.month.length_eq.trans hfirst.wellFormed.month.length_eq.symm
    rw [Spelling.date, Spelling.date, append_lt_append_iff hyear, cons_lt_cons_same,
      append_lt_append_iff hmonth, cons_lt_cons_same] at htext
    rcases htext with hless | ⟨heq, hless | ⟨heq', hless⟩⟩
    · exact .inl (digitsNumber_lt hsecond.wellFormed.year hfirst.wellFormed.year hless)
    · exact .inr ⟨congrArg digitsNumber heq,
        .inl (digitsNumber_lt hsecond.wellFormed.month hfirst.wellFormed.month hless)⟩
    · exact .inr ⟨congrArg digitsNumber heq, .inr ⟨congrArg digitsNumber heq',
        digitsNumber_lt hsecond.wellFormed.day hfirst.wellFormed.day hless⟩⟩
  have hdays := hbefore.toDays_lt hsecond.valid
  have hend := hsecond.inDay.2
  have hstart := hfirst.inDay.1
  have hle : (second.civilDate.toDays + 1) * nanosPerDay ≤ first.civilDate.toDays * nanosPerDay :=
    Nat.mul_le_mul_right _ hdays
  omega

theorem civilDate_eq_of_date (hfirst : first.WellFormed) (hsecond : second.WellFormed)
    (h : second.date = first.date) : second.civilDate = first.civilDate := by
  obtain ⟨hyear, htail⟩ := List.append_inj h
    (hsecond.year.length_eq.trans hfirst.year.length_eq.symm)
  obtain ⟨hmonth, htail⟩ := List.append_inj (List.cons.inj htail).2
    (hsecond.month.length_eq.trans hfirst.month.length_eq.symm)
  rw [civilDate, civilDate, hyear, hmonth, (List.cons.inj htail).2]

theorem Spells.clock_not_lt (hfirst : first.Spells nanos) (hsecond : second.Spells nanos')
    (hdate : second.date = first.date) (hlt : nanos < nanos') :
    ¬ second.clock < first.clock := by
  intro htext
  have hdays := civilDate_eq_of_date hfirst.wellFormed hsecond.wellFormed hdate
  have hhour : second.hour.length = first.hour.length :=
    hsecond.wellFormed.hour.length_eq.trans hfirst.wellFormed.hour.length_eq.symm
  have hminute : second.minute.length = first.minute.length :=
    hsecond.wellFormed.minute.length_eq.trans hfirst.wellFormed.minute.length_eq.symm
  have hminuteLe := hsecond.minute
  have hsecondLe := hsecond.second
  obtain ⟨ns, hns, hinstant⟩ := hfirst.instant
  obtain ⟨ns', hns', hinstant'⟩ := hsecond.instant
  rw [hdays] at hinstant'
  rw [clock, clock, append_lt_append_iff hhour, cons_lt_cons_same,
    append_lt_append_iff hminute, cons_lt_cons_same] at htext
  simp only [seconds, nanosPerDay, nanosPerSecond] at hns hns' hinstant hinstant'
  rcases htext with hless | ⟨heq, hless | ⟨heq', hless⟩⟩
  · have hnumber := digitsNumber_lt hsecond.wellFormed.hour hfirst.wellFormed.hour hless
    omega
  · have hnumber := digitsNumber_lt hsecond.wellFormed.minute hfirst.wellFormed.minute hless
    rw [heq] at hinstant'
    omega
  · have hnumber := digitsNumber_lt hsecond.wellFormed.second hfirst.wellFormed.second hless
    rw [heq, heq'] at hinstant'
    omega

section Lengths

variable {spelling : Spelling} (h : spelling.WellFormed)
include h

theorem length_date : spelling.date.length = 10 := by
  simp [date, h.year.length_eq, h.month.length_eq, h.day.length_eq]

theorem length_clock : spelling.clock.length = 8 := by
  simp [clock, h.hour.length_eq, h.minute.length_eq, h.second.length_eq]

theorem take_date : spelling.chars.take 10 = spelling.date :=
  List.take_left' (length_date h)

theorem drop_date : spelling.chars.drop 10 =
    spelling.separator :: (spelling.clock ++ spelling.rest) :=
  List.drop_left' (length_date h)

theorem length_take_clock :
    (spelling.date ++ spelling.separator :: spelling.clock).length = 19 := by
  simp [length_date h, length_clock h]

omit h in
theorem chars_eq : spelling.chars =
    (spelling.date ++ spelling.separator :: spelling.clock) ++ spelling.rest := by
  simp [chars]

theorem take_clock : spelling.chars.take 19 =
    spelling.date ++ spelling.separator :: spelling.clock := by
  rw [chars_eq]
  exact List.take_left' (length_take_clock h)

theorem drop_clock : spelling.chars.drop 19 = spelling.rest := by
  rw [chars_eq]
  exact List.drop_left' (length_take_clock h)

end Lengths

/-- The later spelling comes first as a text: same date, and a smaller
separator, or the same clock too and a smaller rest. -/
theorem Spells.chars_lt_iff (hfirst : first.Spells nanos) (hsecond : second.Spells nanos')
    (hlt : nanos < nanos') : second.chars < first.chars ↔
      second.date = first.date ∧ (second.separator < first.separator ∨
        second.separator = first.separator ∧ second.clock = first.clock ∧
          second.rest < first.rest) := by
  have hdateLength : second.date.length = first.date.length :=
    (length_date hsecond.wellFormed).trans (length_date hfirst.wellFormed).symm
  have hclockLength : second.clock.length = first.clock.length :=
    (length_clock hsecond.wellFormed).trans (length_clock hfirst.wellFormed).symm
  rw [chars, chars, append_lt_append_iff hdateLength, List.singleton_append,
    List.singleton_append, List.cons_lt_cons_iff, append_lt_append_iff hclockLength]
  have hdate := hfirst.date_not_lt hsecond hlt
  have hclock : second.date = first.date → ¬ second.clock < first.clock :=
    fun hdate => hfirst.clock_not_lt hsecond hdate hlt
  tauto

end Spelling

/-- Years have four digits, so the instant is one the clock type holds. -/
theorem Spelling.Spells.inRange {spelling : Spelling} {nanos : Int} (h : spelling.Spells nanos) :
    minNanos ≤ nanos ∧ nanos < endNanos := by
  have hyear : spelling.civilDate.year < 10000 := by
    have hlt := digitsNumber_lt_pow h.wellFormed.year
    rw [h.wellFormed.year.length_eq] at hlt
    exact hlt
  have hstart := yearStart_add_le hyear
  have hday := h.valid.inYear_lt
  have hend : yearStart 10000 = 3652425 := by decide
  have hdays : spelling.civilDate.toDays + 1 ≤ 3652425 := by
    rw [CivilDate.toDays_eq]
    omega
  have hinDay := h.inDay
  have hle := Nat.mul_le_mul_right nanosPerDay hdays
  simp only [minNanos, endNanos, nanosPerDay, nanosPerSecond] at hinDay hle ⊢
  omega

/-- A later instant whose text comes first: the date is the same, and so is the
clock unless the separator already differs. -/
def SpeltAfter (earlier later : String) : Prop :=
  later.toList.take 10 = earlier.toList.take 10 ∧
    ((later.toList.drop 10).take 1 < (earlier.toList.drop 10).take 1 ∨
      later.toList.take 19 = earlier.toList.take 19 ∧
        later.toList.drop 19 < earlier.toList.drop 19)

instance (earlier later : String) : Decidable (SpeltAfter earlier later) :=
  inferInstanceAs (Decidable (_ ∧ _))

/-- The texts of two UTC instants are out of order exactly when they are spelt so. -/
theorem text_lt_iff_speltAfter {earlier later : String} {first second : ParsedDateTime}
    (hfirst : parse earlier = some first) (hfirstUtc : first.isUtc = true)
    (hsecond : parse later = some second) (hsecondUtc : second.isUtc = true)
    (hlt : first.nanos < second.nanos) : later < earlier ↔ SpeltAfter earlier later := by
  obtain ⟨spelling, hchars, hspells⟩ := exists_spelling hfirst hfirstUtc
  obtain ⟨spelling', hchars', hspells'⟩ := exists_spelling hsecond hsecondUtc
  have hlength : spelling'.date.length = spelling.date.length :=
    (Spelling.length_date hspells'.wellFormed).trans
      (Spelling.length_date hspells.wellFormed).symm
  rw [String.lt_iff_toList_lt, SpeltAfter, hchars, hchars', hspells.chars_lt_iff hspells' hlt,
    Spelling.take_date hspells.wellFormed, Spelling.take_date hspells'.wellFormed,
    Spelling.drop_date hspells.wellFormed, Spelling.drop_date hspells'.wellFormed,
    Spelling.take_clock hspells.wellFormed, Spelling.take_clock hspells'.wellFormed,
    Spelling.drop_clock hspells.wellFormed, Spelling.drop_clock hspells'.wellFormed]
  have hsame : spelling'.date ++ spelling'.separator :: spelling'.clock =
      spelling.date ++ spelling.separator :: spelling.clock ↔
        spelling'.date = spelling.date ∧ spelling'.separator = spelling.separator ∧
          spelling'.clock = spelling.clock := by
    constructor
    · intro heq
      obtain ⟨hdate, htail⟩ := List.append_inj heq hlength
      exact ⟨hdate, List.cons.inj htail⟩
    · rintro ⟨hdate, hseparator, hclock⟩
      rw [hdate, hseparator, hclock]
  simp only [hsame, List.take_succ_cons, List.take_zero, List.cons_lt_cons_iff, lt_irrefl,
    and_false, or_false]
  tauto

end TcoCalculator.Rfc3339
