/-
RFC 3339 timestamps over the proleptic Gregorian calendar: UTC instants in
nanoseconds, the text the formatter writes, the text the parser accepts, and
the round trip between the two.
-/
import Mathlib.Algebra.BigOperators.Group.List.Basic
import Mathlib.Data.List.GetD
import Mathlib.Order.Lattice
import Mathlib.Tactic.IntervalCases
import Mathlib.Tactic.Ring

namespace TcoCalculator.Rfc3339

/-! ### Splitting a count over consecutive lengths -/

/-- The segment a count falls in and the offset left inside it. -/
def locate : List Nat → Nat → Nat × Nat
  | [], n => (0, n)
  | len :: rest, n =>
      if n < len then (0, n)
      else ((locate rest (n - len)).1 + 1, (locate rest (n - len)).2)

theorem locate_fst_lt (lens : List Nat) (n : Nat) (hn : n < lens.sum) :
    (locate lens n).1 < lens.length := by
  induction lens generalizing n with
  | nil => simp at hn
  | cons len rest ih =>
      rw [List.sum_cons] at hn
      by_cases h : n < len
      · simp [locate, h]
      · have hrest := ih (n - len) (by omega)
        simp only [locate, h, if_false, List.length_cons]
        omega

theorem locate_snd_lt (lens : List Nat) (n : Nat) (hn : n < lens.sum) :
    (locate lens n).2 < lens.getD (locate lens n).1 0 := by
  induction lens generalizing n with
  | nil => simp at hn
  | cons len rest ih =>
      rw [List.sum_cons] at hn
      by_cases h : n < len
      · simp [locate, h]
      · have hrest := ih (n - len) (by omega)
        simpa only [locate, h, if_false, List.getD_cons_succ] using hrest

theorem sum_take_locate (lens : List Nat) (n : Nat) (hn : n < lens.sum) :
    (lens.take (locate lens n).1).sum + (locate lens n).2 = n := by
  induction lens generalizing n with
  | nil => simp at hn
  | cons len rest ih =>
      rw [List.sum_cons] at hn
      by_cases h : n < len
      · simp [locate, h]
      · have hrest := ih (n - len) (by omega)
        simp only [locate, h, if_false, List.take_succ_cons, List.sum_cons]
        omega

/-! ### Calendar -/

def isLeap (year : Nat) : Bool :=
  year % 4 == 0 && (year % 100 != 0 || year % 400 == 0)

def yearDays (year : Nat) : Nat := if isLeap year then 366 else 365

def monthLengths (year : Nat) : List Nat :=
  [31, if isLeap year then 29 else 28, 31, 30, 31, 30, 31, 31, 30, 31, 30, 31]

/-- Lengths of the years of one 400-year cycle, starting at a multiple of 400. -/
def cycleYears : List Nat := (List.range 400).map yearDays

def cycleDays : Nat := 146097

theorem sum_cycleYears : cycleYears.sum = cycleDays := by decide +kernel

theorem sum_monthLengths (year : Nat) :
    (monthLengths year).sum = yearDays year := by
  unfold monthLengths yearDays
  cases isLeap year <;> rfl

theorem isLeap_cycle_add (cycle year : Nat) :
    isLeap (400 * cycle + year) = isLeap year := by
  have h4 : (400 * cycle + year) % 4 = year % 4 := by omega
  have h100 : (400 * cycle + year) % 100 = year % 100 := by omega
  have h400 : (400 * cycle + year) % 400 = year % 400 := by omega
  simp only [isLeap, h4, h100, h400]

theorem monthLengths_cycle_add (cycle year : Nat) :
    monthLengths (400 * cycle + year) = monthLengths year := by
  simp only [monthLengths, isLeap_cycle_add]

structure CivilDate where
  year : Nat
  month : Nat
  day : Nat
  deriving DecidableEq, Repr

/-- The civil date of a day counted from 0000-01-01. -/
def civilOfDays (days : Nat) : CivilDate :=
  let inCycle := locate cycleYears (days % cycleDays)
  let inYear := locate (monthLengths inCycle.1) inCycle.2
  { year := 400 * (days / cycleDays) + inCycle.1
    month := inYear.1 + 1
    day := inYear.2 + 1 }

def CivilDate.IsValid (date : CivilDate) : Prop :=
  (1 ≤ date.month ∧ date.month ≤ 12) ∧ 1 ≤ date.day ∧
    date.day ≤ (monthLengths date.year).getD (date.month - 1) 0

instance (date : CivilDate) : Decidable date.IsValid :=
  inferInstanceAs (Decidable (_ ∧ _))

/-- Days since 0000-01-01 of a valid civil date. -/
def CivilDate.toDays (date : CivilDate) : Nat :=
  date.year / 400 * cycleDays + (cycleYears.take (date.year % 400)).sum +
    ((monthLengths date.year).take (date.month - 1)).sum + (date.day - 1)

theorem cycleYears_getD {year : Nat} (h : year < 400) :
    cycleYears.getD year 0 = yearDays year := by
  simp [cycleYears, List.getD_eq_getElem?_getD, h]

theorem locate_cycleYears_snd_lt (days : Nat) :
    (locate cycleYears (days % cycleDays)).2 <
      (monthLengths (locate cycleYears (days % cycleDays)).1).sum := by
  have hlt : days % cycleDays < cycleYears.sum := by
    rw [sum_cycleYears]
    exact Nat.mod_lt _ (by decide)
  have hfst := locate_fst_lt cycleYears _ hlt
  have hsnd := locate_snd_lt cycleYears _ hlt
  have hlen : cycleYears.length = 400 := by simp [cycleYears]
  rw [hlen] at hfst
  rw [cycleYears_getD hfst] at hsnd
  rwa [sum_monthLengths]

theorem locate_cycleYears_fst_lt (days : Nat) :
    (locate cycleYears (days % cycleDays)).1 < 400 := by
  have hlt : days % cycleDays < cycleYears.sum := by
    rw [sum_cycleYears]
    exact Nat.mod_lt _ (by decide)
  have hfst := locate_fst_lt cycleYears _ hlt
  simpa [cycleYears] using hfst

theorem isValid_civilOfDays (days : Nat) : (civilOfDays days).IsValid := by
  have hsum := locate_cycleYears_snd_lt days
  have hmonth := locate_fst_lt _ _ hsum
  have hday := locate_snd_lt _ _ hsum
  have hlen : (monthLengths (locate cycleYears (days % cycleDays)).1).length = 12 := rfl
  rw [hlen] at hmonth
  simp only [CivilDate.IsValid, civilOfDays, monthLengths_cycle_add,
    Nat.add_sub_cancel]
  omega

theorem toDays_civilOfDays (days : Nat) : (civilOfDays days).toDays = days := by
  have hlt : days % cycleDays < cycleYears.sum := by
    rw [sum_cycleYears]
    exact Nat.mod_lt _ (by decide)
  have hyear := locate_cycleYears_fst_lt days
  have hcycle := sum_take_locate cycleYears _ hlt
  have hmonth := sum_take_locate _ _ (locate_cycleYears_snd_lt days)
  have hdiv : (400 * (days / cycleDays) + (locate cycleYears (days % cycleDays)).1) / 400
      = days / cycleDays := by omega
  have hmod : (400 * (days / cycleDays) + (locate cycleYears (days % cycleDays)).1) % 400
      = (locate cycleYears (days % cycleDays)).1 := by omega
  have hdays := Nat.div_add_mod days cycleDays
  rw [Nat.mul_comm] at hdays
  simp only [CivilDate.toDays, civilOfDays, monthLengths_cycle_add, hdiv, hmod,
    Nat.add_sub_cancel]
  omega

theorem civilOfDays_year_lt {days : Nat} (h : days < 3652425) :
    (civilOfDays days).year < 10000 := by
  have hyear := locate_cycleYears_fst_lt days
  have hdiv : days / cycleDays < 25 := by
    rw [Nat.div_lt_iff_lt_mul (by decide)]
    exact h
  simp only [civilOfDays]
  omega

theorem civilOfDays_month_lt (days : Nat) : (civilOfDays days).month < 100 := by
  have h := isValid_civilOfDays days
  have hle := h.1.2
  omega

theorem monthLengths_getD_le (year month : Nat) :
    (monthLengths year).getD month 0 ≤ 31 := by
  by_cases hmonth : month < 12
  · unfold monthLengths
    cases isLeap year <;> interval_cases month <;> decide
  · have hlen : (monthLengths year).length ≤ month := by
      change 12 ≤ month
      omega
    rw [List.getD_eq_default _ _ hlen]
    omega

theorem civilOfDays_day_lt (days : Nat) : (civilOfDays days).day < 100 := by
  have h := isValid_civilOfDays days
  have hlen := monthLengths_getD_le (civilOfDays days).year ((civilOfDays days).month - 1)
  have hle := h.2.2
  omega

/-! ### Digits -/

def digitValue (c : Char) : Nat := c.toNat - 48

theorem digitChar_isDigit {d : Nat} (h : d < 10) : d.digitChar.isDigit = true := by
  interval_cases d <;> decide

theorem digitValue_digitChar {d : Nat} (h : d < 10) : digitValue d.digitChar = d := by
  interval_cases d <;> decide

/-- The `width` low decimal digits of a number, most significant first. -/
def renderDigits : Nat → Nat → List Char
  | 0, _ => []
  | width + 1, n => (n / 10 ^ width % 10).digitChar :: renderDigits width n

/-- Reads exactly `width` digits onto an accumulator. -/
def readDigits : Nat → Nat → List Char → Option (Nat × List Char)
  | 0, acc, cs => some (acc, cs)
  | _ + 1, _, [] => none
  | width + 1, acc, c :: cs =>
      if c.isDigit then readDigits width (acc * 10 + digitValue c) cs else none

theorem readDigits_renderDigits (width acc n : Nat) (rest : List Char) :
    readDigits width acc (renderDigits width n ++ rest) =
      some (acc * 10 ^ width + n % 10 ^ width, rest) := by
  induction width generalizing acc with
  | zero => simp [readDigits, renderDigits, Nat.mod_one]
  | succ width ih =>
      have hlt : n / 10 ^ width % 10 < 10 := Nat.mod_lt _ (by decide)
      have hsplit : n % 10 ^ (width + 1) =
          n % 10 ^ width + 10 ^ width * (n / 10 ^ width % 10) := by
        rw [pow_succ, Nat.mod_mul]
      simp only [renderDigits, List.cons_append, readDigits, digitChar_isDigit hlt,
        if_true, digitValue_digitChar hlt, ih, hsplit]
      congr 2
      ring

/-- The digits of a fraction below `10 ^ width` with trailing zeros dropped. -/
def fractionDigits : Nat → Nat → List Char
  | 0, _ => []
  | width + 1, n =>
      if n = 0 then []
      else (n / 10 ^ width).digitChar :: fractionDigits width (n % 10 ^ width)

/-- Reads as many digits as follow, each weighted by a tenth of the one before. -/
def readFraction : Nat → Nat → List Char → Nat × List Char
  | _, value, [] => (value, [])
  | multiplier, value, c :: cs =>
      if c.isDigit then
        readFraction (multiplier / 10) (value + digitValue c * multiplier) cs
      else (value, c :: cs)

theorem readFraction_fractionDigits (width value n : Nat) (c : Char) (rest : List Char)
    (hn : n < 10 ^ width) (hc : c.isDigit = false) :
    readFraction (10 ^ width / 10) value (fractionDigits width n ++ c :: rest) =
      (value + n, c :: rest) := by
  induction width generalizing value n with
  | zero =>
      obtain rfl : n = 0 := by simpa using hn
      simp [fractionDigits, readFraction, hc]
  | succ width ih =>
      by_cases h0 : n = 0
      · simp [fractionDigits, h0, readFraction, hc]
      · have hpos : 0 < 10 ^ width := by positivity
        have hdigit : n / 10 ^ width < 10 := by
          rw [Nat.div_lt_iff_lt_mul hpos, ← pow_succ']
          exact hn
        have hpow : 10 ^ (width + 1) / 10 = 10 ^ width := by
          rw [pow_succ, Nat.mul_div_cancel _ (by decide)]
        have hsplit := Nat.div_add_mod' n (10 ^ width)
        simp only [fractionDigits, h0, if_false, List.cons_append, readFraction,
          digitChar_isDigit hdigit, if_true, digitValue_digitChar hdigit, hpow]
        rw [ih _ _ (Nat.mod_lt _ hpos)]
        congr 1
        omega

/-! ### Instants -/

def nanosPerSecond : Nat := 1000000000

def nanosPerDay : Nat := 86400 * nanosPerSecond

/-- The first instant of year -9999, the earliest date the clock type holds. -/
def minNanos : Int := -3652059 * nanosPerDay

/-- One past the last instant of year 9999. -/
def endNanos : Int := 3652425 * nanosPerDay

/-- A UTC date and time as nanoseconds since 0000-01-01T00:00:00Z, inside the
range the clock type can represent. -/
@[ext] structure UtcDateTime where
  nanos : Int
  inRange : minNanos ≤ nanos ∧ nanos < endNanos
  deriving DecidableEq

instance : LinearOrder UtcDateTime :=
  LinearOrder.lift' UtcDateTime.nanos fun _ _ => UtcDateTime.ext

theorem UtcDateTime.le_def {a b : UtcDateTime} : a ≤ b ↔ a.nanos ≤ b.nanos := Iff.rfl

theorem UtcDateTime.lt_def {a b : UtcDateTime} : a < b ↔ a.nanos < b.nanos := Iff.rfl

/-- The instant some seconds later, when the clock type can represent it. -/
def UtcDateTime.addSeconds? (t : UtcDateTime) (seconds : Nat) : Option UtcDateTime :=
  if h : t.nanos + seconds * nanosPerSecond < endNanos then
    some ⟨t.nanos + seconds * nanosPerSecond, by
      have hmin := t.inRange.1
      have hstep : 0 ≤ (seconds : Int) * nanosPerSecond :=
        Int.mul_nonneg (Int.natCast_nonneg _) (Int.natCast_nonneg _)
      omega, h⟩
  else none

theorem UtcDateTime.addSeconds?_eq_some {t u : UtcDateTime} {seconds : Nat} :
    t.addSeconds? seconds = some u ↔ u.nanos = t.nanos + seconds * nanosPerSecond := by
  unfold UtcDateTime.addSeconds?
  split
  · rw [Option.some_inj, UtcDateTime.ext_iff, eq_comm]
  · rename_i h
    have hu := u.inRange.2
    constructor
    · intro hsome
      cases hsome
    · intro heq
      omega

/-- What the parser returns: the instant and the offset it was written with. -/
structure ParsedDateTime where
  nanos : Int
  offsetMinutes : Int
  deriving DecidableEq, Repr

def ParsedDateTime.isUtc (t : ParsedDateTime) : Bool := t.offsetMinutes == 0

/-! ### Formatting -/

def formatDate (date : CivilDate) : List Char :=
  renderDigits 4 date.year ++ '-' :: (renderDigits 2 date.month ++
    '-' :: renderDigits 2 date.day)

def formatFraction (nanosecond : Nat) : List Char :=
  if nanosecond = 0 then [] else '.' :: fractionDigits 9 nanosecond

/-- The time of day, from the seconds since midnight. -/
def formatClock (seconds : Nat) : List Char :=
  renderDigits 2 (seconds / 3600) ++ ':' :: (renderDigits 2 (seconds / 60 % 60) ++
    ':' :: renderDigits 2 (seconds % 60))

/-- The text of an instant given as nanoseconds since year 0. -/
def formatNanos (nanos : Nat) : List Char :=
  formatDate (civilOfDays (nanos / nanosPerDay)) ++
    'T' :: (formatClock (nanos / nanosPerSecond % 86400) ++
    (formatFraction (nanos % nanosPerSecond) ++ ['Z']))

/-- RFC 3339 has no text for years before 0. -/
def format (t : UtcDateTime) : Option String :=
  if 0 ≤ t.nanos then some (String.ofList (formatNanos t.nanos.toNat)) else none

/-! ### Parsing -/

def expectChar (expected : Char) : List Char → Option (List Char)
  | c :: cs => if c = expected then some cs else none
  | [] => none

/-- RFC 3339 lets an application write any separator between date and time. -/
def skipSeparator : List Char → Option (List Char)
  | _ :: cs => some cs
  | [] => none

/-- The fraction after a point; without one the fraction is zero. -/
def parseFraction : List Char → Option (Nat × List Char)
  | '.' :: c :: cs =>
      if c.isDigit then some (readFraction (10 ^ 9 / 10) 0 (c :: cs)) else none
  | ['.'] => none
  | cs => some (0, cs)

/-- The offset in minutes: `Z` in either case, or a signed hour and minute. -/
def parseOffset : List Char → Option (Int × List Char)
  | c :: cs => do
      if c = 'Z' ∨ c = 'z' then
        return (0, cs)
      guard (c = '+' ∨ c = '-')
      let (hour, cs) ← readDigits 2 0 cs
      guard (hour ≤ 23)
      let cs ← expectChar ':' cs
      let (minute, cs) ← readDigits 2 0 cs
      guard (minute ≤ 59)
      let offset : Int := hour * 60 + minute
      return (if c = '-' then -offset else offset, cs)
  | [] => none

/-- A leap second can only end a month in UTC. -/
def isLeapSecondStandIn (nanos : Int) : Bool :=
  (nanos + 1) % nanosPerDay == 0 &&
    (civilOfDays ((nanos + 1) / nanosPerDay).toNat).day == 1

/-- The instant of parsed components.  Second 60 stands for the last
nanosecond of the second before it. -/
def assemble (date : CivilDate) (hour minute second nanosecond : Nat)
    (offsetMinutes : Int) : Option ParsedDateTime := do
  let leap := second == 60
  let second := if leap then 59 else second
  let nanosecond := if leap then 999999999 else nanosecond
  guard (date.IsValid ∧ hour ≤ 23 ∧ minute ≤ 59 ∧ second ≤ 59)
  let localNanos := date.toDays * nanosPerDay +
    (hour * 3600 + minute * 60 + second) * nanosPerSecond + nanosecond
  let nanos : Int := localNanos - offsetMinutes * 60 * nanosPerSecond
  guard (leap = false ∨ isLeapSecondStandIn nanos)
  return { nanos, offsetMinutes }

def parseDate (cs : List Char) : Option (CivilDate × List Char) := do
  let (year, cs) ← readDigits 4 0 cs
  let cs ← expectChar '-' cs
  let (month, cs) ← readDigits 2 0 cs
  let cs ← expectChar '-' cs
  let (day, cs) ← readDigits 2 0 cs
  return (⟨year, month, day⟩, cs)

def parseClock (cs : List Char) : Option ((Nat × Nat × Nat) × List Char) := do
  let (hour, cs) ← readDigits 2 0 cs
  let cs ← expectChar ':' cs
  let (minute, cs) ← readDigits 2 0 cs
  let cs ← expectChar ':' cs
  let (second, cs) ← readDigits 2 0 cs
  return ((hour, minute, second), cs)

def parseChars (cs : List Char) : Option ParsedDateTime := do
  let (date, cs) ← parseDate cs
  let cs ← skipSeparator cs
  let ((hour, minute, second), cs) ← parseClock cs
  let (nanosecond, cs) ← parseFraction cs
  let (offset, cs) ← parseOffset cs
  guard (cs = [])
  assemble date hour minute second nanosecond offset

def parse (text : String) : Option ParsedDateTime := parseChars text.toList

/-! ### Round trip -/

theorem parseFraction_formatFraction (n : Nat) (rest : List Char) (hn : n < 10 ^ 9) :
    parseFraction (formatFraction n ++ 'Z' :: rest) = some (n, 'Z' :: rest) := by
  by_cases h0 : n = 0
  · simp [formatFraction, h0, parseFraction]
  · have hread := readFraction_fractionDigits 9 0 n 'Z' rest hn (by decide)
    have hdigit : n / 10 ^ 8 < 10 := by omega
    simp only [formatFraction, h0, if_false, fractionDigits, List.cons_append] at hread ⊢
    simp only [parseFraction, digitChar_isDigit hdigit, if_true, hread, Nat.zero_add]

theorem assemble_of_valid {date : CivilDate} {hour minute second : Nat}
    (nanosecond : Nat) (offset : Int) (hdate : date.IsValid) (hhour : hour ≤ 23)
    (hminute : minute ≤ 59) (hsecond : second ≤ 59) :
    assemble date hour minute second nanosecond offset =
      some ⟨((date.toDays * nanosPerDay +
        (hour * 3600 + minute * 60 + second) * nanosPerSecond + nanosecond : Nat) : Int)
          - offset * 60 * nanosPerSecond, offset⟩ := by
  have hleap : (second == 60) = false := by
    rw [beq_eq_false_iff_ne]
    omega
  have hguard : date.IsValid ∧ hour ≤ 23 ∧ minute ≤ 59 ∧ second ≤ 59 :=
    ⟨hdate, hhour, hminute, hsecond⟩
  simp only [assemble, hleap, Bool.false_eq_true, if_false, guard, hguard, if_true,
    true_or, and_self]
  rfl

theorem assemble_civilOfDays (n : Nat) :
    assemble (civilOfDays (n / nanosPerDay)) (n / nanosPerSecond % 86400 / 3600)
      (n / nanosPerSecond % 86400 / 60 % 60) (n / nanosPerSecond % 86400 % 60)
      (n % nanosPerSecond) 0 = some ⟨n, 0⟩ := by
  have hsum : n / nanosPerDay * nanosPerDay +
      (n / nanosPerSecond % 86400 / 3600 * 3600 +
        n / nanosPerSecond % 86400 / 60 % 60 * 60 +
        n / nanosPerSecond % 86400 % 60) * nanosPerSecond + n % nanosPerSecond = n := by
    unfold nanosPerDay nanosPerSecond
    omega
  rw [assemble_of_valid _ _ (isValid_civilOfDays _) (by omega) (by omega) (by omega),
    toDays_civilOfDays, hsum, Int.zero_mul, Int.zero_mul, Int.sub_zero]

theorem parseDate_formatDate {date : CivilDate} (hyear : date.year < 10 ^ 4)
    (hmonth : date.month < 10 ^ 2) (hday : date.day < 10 ^ 2) (rest : List Char) :
    parseDate (formatDate date ++ rest) = some (date, rest) := by
  simp only [parseDate, formatDate, List.append_assoc, List.cons_append,
    readDigits_renderDigits, Nat.mod_eq_of_lt hyear, Nat.mod_eq_of_lt hmonth,
    Nat.mod_eq_of_lt hday, Option.bind_eq_bind, Option.bind_some, expectChar, if_true,
    Nat.zero_mul, Nat.zero_add]
  rfl

theorem parseClock_formatClock {seconds : Nat} (h : seconds < 86400) (rest : List Char) :
    parseClock (formatClock seconds ++ rest) =
      some ((seconds / 3600, seconds / 60 % 60, seconds % 60), rest) := by
  have hhour : seconds / 3600 % 10 ^ 2 = seconds / 3600 := by omega
  have hminute : seconds / 60 % 60 % 10 ^ 2 = seconds / 60 % 60 := by omega
  have hsecond : seconds % 60 % 10 ^ 2 = seconds % 60 := by omega
  simp only [parseClock, formatClock, List.append_assoc, List.cons_append,
    readDigits_renderDigits, hhour, hminute, hsecond, Option.bind_eq_bind,
    Option.bind_some, expectChar, if_true, Nat.zero_mul, Nat.zero_add]
  rfl

theorem parseChars_formatNanos (n : Nat) (hn : n < 3652425 * nanosPerDay) :
    parseChars (formatNanos n) = some ⟨n, 0⟩ := by
  have hdays : n / nanosPerDay < 3652425 := by
    rw [Nat.div_lt_iff_lt_mul (by decide)]
    exact hn
  have hfraction : n % nanosPerSecond < 10 ^ 9 := Nat.mod_lt _ (by decide)
  have hclock : n / nanosPerSecond % 86400 < 86400 := Nat.mod_lt _ (by decide)
  rw [parseChars, formatNanos, parseDate_formatDate (civilOfDays_year_lt hdays)
    (civilOfDays_month_lt _) (civilOfDays_day_lt _)]
  simp only [Option.bind_eq_bind, Option.bind_some, skipSeparator,
    parseClock_formatClock hclock, parseFraction_formatFraction _ _ hfraction]
  exact assemble_civilOfDays n

/-- What the formatter writes, the parser reads back as the same UTC instant. -/
theorem parse_format {t : UtcDateTime} {text : String} (h : format t = some text) :
    parse text = some ⟨t.nanos, 0⟩ := by
  unfold format at h
  split at h
  · rename_i hnonneg
    cases h
    have hlt : t.nanos.toNat < 3652425 * nanosPerDay := by
      have hmax := t.inRange.2
      unfold endNanos at hmax
      omega
    rw [parse, String.toList_ofList, parseChars_formatNanos _ hlt,
      Int.toNat_of_nonneg hnonneg]
  · cases h

theorem format_isSome_iff (t : UtcDateTime) : (format t).isSome ↔ 0 ≤ t.nanos := by
  unfold format
  split <;> simp_all

theorem exists_format {t : UtcDateTime} (h : 0 ≤ t.nanos) :
    ∃ text, format t = some text :=
  Option.isSome_iff_exists.mp ((format_isSome_iff t).mpr h)

theorem format_injective {t u : UtcDateTime} {text : String}
    (ht : format t = some text) (hu : format u = some text) : t = u := by
  have heq := (parse_format ht).symm.trans (parse_format hu)
  apply UtcDateTime.ext
  simpa using heq

end TcoCalculator.Rfc3339
