/-
Dates in the fixed format of HTTP headers: a day name, the date with a month
name, and the time of day in GMT.  Their texts come after every RFC 3339 text.
-/
import TcoCalculator.Library.Rfc3339Order

namespace TcoCalculator.HttpDate

open Rfc3339

def dayNames : List (List Char) :=
  [['M', 'o', 'n'], ['T', 'u', 'e'], ['W', 'e', 'd'], ['T', 'h', 'u'], ['F', 'r', 'i'],
    ['S', 'a', 't'], ['S', 'u', 'n']]

def monthNames : List (List Char) :=
  [['J', 'a', 'n'], ['F', 'e', 'b'], ['M', 'a', 'r'], ['A', 'p', 'r'], ['M', 'a', 'y'],
    ['J', 'u', 'n'], ['J', 'u', 'l'], ['A', 'u', 'g'], ['S', 'e', 'p'], ['O', 'c', 't'],
    ['N', 'o', 'v'], ['D', 'e', 'c']]

/-- The place of the name that comes first, and what follows it. -/
def readName (names : List (List Char)) (cs : List Char) : Option (Nat × List Char) :=
  (names.idxOf? (cs.take 3)).map fun index => (index, cs.drop 3)

/-- The instant of the components; the day name is not compared with the date. -/
def parseChars (cs : List Char) : Option ParsedDateTime := do
  let (_, cs) ← readName dayNames cs
  let cs ← expectChar ',' cs
  let cs ← expectChar ' ' cs
  let (day, cs) ← readDigits 2 0 cs
  let cs ← expectChar ' ' cs
  let (month, cs) ← readName monthNames cs
  let cs ← expectChar ' ' cs
  let (year, cs) ← readDigits 4 0 cs
  let cs ← expectChar ' ' cs
  let ((hour, minute, second), cs) ← parseClock cs
  guard (cs = [' ', 'G', 'M', 'T'])
  assemble ⟨year, month + 1, day⟩ hour minute second 0 0

def parse (text : String) : Option ParsedDateTime := parseChars text.toList

/-- An HTTP date begins with a capital letter. -/
theorem exists_letter {text : String} {parsed : ParsedDateTime} (h : parse text = some parsed) :
    ∃ c rest, text.toList = c :: rest ∧ 65 ≤ c.toNat := by
  simp only [parse, parseChars, Option.bind_eq_bind, Option.bind_eq_some_iff, Prod.exists] at h
  obtain ⟨index, _, hname, -⟩ := h
  rw [readName, Option.map_eq_some_iff] at hname
  obtain ⟨_, hindex, -⟩ := hname
  have hmem : text.toList.take 3 ∈ dayNames := by
    by_contra hnot
    rw [List.idxOf?_eq_none_iff.mpr hnot] at hindex
    cases hindex
  cases htext : text.toList with
  | nil =>
      rw [htext] at hmem
      exact absurd hmem (by decide)
  | cons c rest =>
      refine ⟨c, rest, rfl, ?_⟩
      rw [htext, List.take_succ_cons] at hmem
      simp only [dayNames, List.mem_cons, List.cons.injEq, List.not_mem_nil, or_false] at hmem
      obtain ⟨rfl, -⟩ | ⟨rfl, -⟩ | ⟨rfl, -⟩ | ⟨rfl, -⟩ | ⟨rfl, -⟩ | ⟨rfl, -⟩ | ⟨rfl, -⟩ := hmem <;>
        decide

/-- An RFC 3339 text begins with a digit. -/
theorem exists_digit {text : String} {parsed : ParsedDateTime}
    (h : Rfc3339.parse text = some parsed) :
    ∃ c rest, text.toList = c :: rest ∧ c.toNat ≤ 57 := by
  simp only [Rfc3339.parse, Rfc3339.parseChars, Option.bind_eq_bind, Option.bind_eq_some_iff,
    Prod.exists] at h
  obtain ⟨_, _, hdate, -⟩ := h
  obtain ⟨year, month, day, hyear, -, -, htext, -⟩ := parseDate_eq_some hdate
  have hlength := hyear.length_eq
  cases year with
  | nil => simp at hlength
  | cons c year =>
      exact ⟨c, _, htext, (isDigit_iff.mp (hyear.isDigit c List.mem_cons_self)).2⟩

theorem text_lt {text httpText : String} {parsed httpParsed : ParsedDateTime}
    (h : Rfc3339.parse text = some parsed) (hhttp : parse httpText = some httpParsed) :
    text < httpText := by
  obtain ⟨c, rest, htext, hdigit⟩ := exists_digit h
  obtain ⟨c', rest', htext', hletter⟩ := exists_letter hhttp
  rw [String.lt_iff_toList_lt, htext, htext', List.cons_lt_cons_iff]
  left
  change c.toNat < c'.toNat
  omega

end TcoCalculator.HttpDate
