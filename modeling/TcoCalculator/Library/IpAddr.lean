/-
Internet addresses: how the standard library reads and writes them.  Two addresses
are never written alike.
-/
import Mathlib.Data.List.Basic
import Mathlib.Data.List.Induction
import Mathlib.Order.Basic
import Std.Data.String

namespace TcoCalculator

inductive IpAddr where
  | v4 (octets : Vector UInt8 4)
  | v6 (segments : Vector UInt16 8)
  deriving DecidableEq

namespace IpAddr

/-! ### Writing -/

def decimal (octet : UInt8) : List Char := Nat.toDigits 10 octet.toNat

def hex (segment : UInt16) : List Char := Nat.toDigits 16 segment.toNat

def dotted (octets : List UInt8) : List Char := ['.'].intercalate (octets.map decimal)

def colons (segments : List UInt16) : List Char := [':'].intercalate (segments.map hex)

/-- A run of segments that are zero. -/
structure Span where
  start : Nat
  len : Nat

/-- The position in the segments, the run that ends there and the first longest run. -/
structure Spans where
  index : Nat
  current : Span
  longest : Span

/-- The run of zeros that a zero at the position goes on, or starts. -/
def Spans.extended (spans : Spans) : Span :=
  ⟨if spans.current.len = 0 then spans.index else spans.current.start, spans.current.len + 1⟩

def Spans.step (spans : Spans) (segment : UInt16) : Spans :=
  if segment = 0 then
    ⟨spans.index + 1, spans.extended,
      if spans.longest.len < spans.extended.len then spans.extended else spans.longest⟩
  else ⟨spans.index + 1, ⟨0, 0⟩, spans.longest⟩

def zeroes (segments : List UInt16) : Span :=
  (segments.foldl Spans.step ⟨0, ⟨0, 0⟩, ⟨0, 0⟩⟩).longest

def octetsOf (segment : UInt16) : List UInt8 := [(segment >>> 8).toUInt8, segment.toUInt8]

/-- An IPv4 address mapped into the IPv6 ones. -/
def isMapped (segments : List UInt16) : Bool :=
  segments.take 6 == [0, 0, 0, 0, 0, 0xffff]

def v6Chars (segments : List UInt16) : List Char :=
  if isMapped segments then
    [':', ':', 'f', 'f', 'f', 'f', ':'] ++ dotted ((segments.drop 6).flatMap octetsOf)
  else
    let span := zeroes segments
    if 1 < span.len then
      colons (segments.take span.start) ++ [':', ':'] ++
        colons (segments.drop (span.start + span.len))
    else colons segments

def chars : IpAddr → List Char
  | v4 octets => dotted octets.toList
  | v6 segments => v6Chars segments.toList

def text (address : IpAddr) : String := String.ofList address.chars

/-! ### Reading -/

/-- A reader of a value at the start of a text, with what is left. -/
abbrev Reader (α : Type) := List Char → Option (α × List Char)

def digitOf (radix : Nat) (c : Char) : Option Nat :=
  let value :=
    if c.isDigit then some (c.toNat - '0'.toNat)
    else if 'a' ≤ c ∧ c ≤ 'z' then some (c.toNat - 'a'.toNat + 10)
    else if 'A' ≤ c ∧ c ≤ 'Z' then some (c.toNat - 'A'.toNat + 10)
    else none
  value.filter (· < radix)

/-- A number of at most some digits, all that are there. -/
def readNumber (radix maxDigits : Nat) (allowZeroPrefix : Bool) : Reader Nat := fun text =>
  let digits := text.takeWhile fun c => (digitOf radix c).isSome
  if digits = [] ∨ maxDigits < digits.length ∨
      (allowZeroPrefix = false ∧ digits.head? = some '0' ∧ 1 < digits.length) then none
  else
    some ((digits.filterMap (digitOf radix)).foldl (fun value digit => value * radix + digit) 0,
      text.dropWhile fun c => (digitOf radix c).isSome)

/-- A value behind a separator, which the first one does not have. -/
def readSeparator {α : Type} (separator : Char) (index : Nat) (inner : Reader α) : Reader α :=
  fun text =>
    if index = 0 then inner text
    else
      match text with
      | [] => none
      | c :: rest => if c = separator then inner rest else none

def readOctet : Reader UInt8 := fun text =>
  match readNumber 10 3 false text with
  | some (value, rest) => if value < 256 then some (UInt8.ofNat value, rest) else none
  | none => none

/-- Some octets with dots between them, counted from an index. -/
def readOctets : Nat → Nat → Reader (List UInt8)
  | 0, _, text => some ([], text)
  | count + 1, index, text => do
      let (octet, rest) ← readSeparator '.' index readOctet text
      let (octets, rest) ← readOctets count (index + 1) rest
      return (octet :: octets, rest)

def readIpv4Addr : Reader (List UInt8) := readOctets 4 0

def segmentOf (high low : UInt8) : UInt16 := high.toUInt16 <<< 8 ||| low.toUInt16

def segmentsOf : List UInt8 → List UInt16
  | high :: low :: rest => segmentOf high low :: segmentsOf rest
  | _ => []

/-- At most some groups with colons between them, the last two perhaps as an IPv4
address, and whether they were. -/
def readGroups : Nat → Nat → List Char → List UInt16 × Bool × List Char
  | 0, _, text => ([], false, text)
  | count + 1, index, text =>
      match (if 0 < count then readSeparator ':' index readIpv4Addr text else none) with
      | some (octets, rest) => (segmentsOf octets, true, rest)
      | none =>
          match readSeparator ':' index (readNumber 16 4 true) text with
          | some (group, rest) =>
              let (groups, mapped, rest) := readGroups count (index + 1) rest
              (UInt16.ofNat group :: groups, mapped, rest)
          | none => ([], false, text)

def readIpv6Addr : Reader (List UInt16) := fun text =>
  let (head, mapped, rest) := readGroups 8 0 text
  if head.length = 8 then some (head, rest)
  else if mapped then none
  else
    match rest with
    | ':' :: ':' :: rest =>
        let (tail, _, rest) := readGroups (8 - (head.length + 1)) 0 rest
        some (head ++ List.replicate (8 - head.length - tail.length) 0 ++ tail, rest)
    | _ => none

def readIpAddr : Reader IpAddr := fun text =>
  match readIpv4Addr text with
  | some (octets, rest) => some (.v4 (Vector.ofFn fun i => octets.getD i 0), rest)
  | none =>
      match readIpv6Addr text with
      | some (segments, rest) => some (.v6 (Vector.ofFn fun i => segments.getD i 0), rest)
      | none => none

/-- The address a text is, to its end. -/
def parse (text : String) : Option IpAddr :=
  match readIpAddr text.toList with
  | some (address, []) => some address
  | _ => none

example : (parse "2001:DB8::1").map text = some "2001:db8::1" := by decide +kernel

example : (parse "::ffff:192.0.2.1").map text = some "::ffff:192.0.2.1" := by decide +kernel

example : parse "192.0.2.01" = none := by decide +kernel

/-! ### Digits -/

theorem digitChar_inj {m n : Nat} (hm : m < 16) (hn : n < 16) (h : m.digitChar = n.digitChar) :
    m = n := by
  have hall : ∀ m < 16, ∀ n < 16, m.digitChar = n.digitChar → m = n := by decide
  exact hall m hm n hn h

theorem toDigits_inj {base m n : Nat} (hbase : 1 < base) (hle : base ≤ 16)
    (h : Nat.toDigits base m = Nat.toDigits base n) : m = n := by
  induction m using Nat.strongRecOn generalizing n with
  | ind m ih =>
    have hmod : ∀ k, k % base < 16 := fun k =>
      Nat.lt_of_lt_of_le (Nat.mod_lt k (Nat.zero_lt_of_lt hbase)) hle
    have hlast : ∀ k, ∃ before, Nat.toDigits base k = before ++ [(k % base).digitChar] ∧
        (k < base ∧ before = [] ∨ base ≤ k ∧ before = Nat.toDigits base (k / base)) := by
      intro k
      rw [Nat.toDigits_eq_if hbase]
      split_ifs with hsmall
      · exact ⟨[], by rw [Nat.mod_eq_of_lt hsmall, List.nil_append], .inl ⟨hsmall, rfl⟩⟩
      · exact ⟨_, rfl, .inr ⟨Nat.not_lt.mp hsmall, rfl⟩⟩
    obtain ⟨before, hm, hbefore⟩ := hlast m
    obtain ⟨before', hn, hbefore'⟩ := hlast n
    rw [hm, hn] at h
    obtain ⟨hfront, hdigit⟩ := List.append_inj' h rfl
    have hrest := digitChar_inj (hmod m) (hmod n) (List.singleton_inj.mp hdigit)
    rcases hbefore with ⟨hsmall, rfl⟩ | ⟨hlarge, rfl⟩
    · rcases hbefore' with ⟨hsmall', rfl⟩ | ⟨hlarge', rfl⟩
      · rwa [Nat.mod_eq_of_lt hsmall, Nat.mod_eq_of_lt hsmall'] at hrest
      · exact absurd hfront.symm Nat.toDigits_ne_nil
    · rcases hbefore' with ⟨hsmall', rfl⟩ | ⟨hlarge', rfl⟩
      · exact absurd hfront Nat.toDigits_ne_nil
      · have hdiv := ih (m / base) (Nat.div_lt_self (by omega) hbase) hfront
        rw [← Nat.div_add_mod m base, ← Nat.div_add_mod n base, hdiv, hrest]

theorem exists_of_mem_toDigits {base n : Nat} (hbase : 1 < base) {c : Char}
    (h : c ∈ Nat.toDigits base n) : ∃ digit < base, c = digit.digitChar := by
  induction n using Nat.strongRecOn with
  | ind n ih =>
    rw [Nat.toDigits_eq_if hbase] at h
    split_ifs at h with hsmall
    · exact ⟨n, hsmall, List.mem_singleton.mp h⟩
    · rcases List.mem_append.mp h with h | h
      · exact ih (n / base) (Nat.div_lt_self (by omega) hbase) h
      · exact ⟨n % base, Nat.mod_lt n (by omega), List.mem_singleton.mp h⟩

theorem ne_separator_of_mem_toDigits {base n : Nat} (hbase : 1 < base) (hle : base ≤ 16) {c : Char}
    (h : c ∈ Nat.toDigits base n) : c ≠ ':' ∧ c ≠ '.' ∧ c ≠ 'u' := by
  have hall : ∀ digit < 16, digit.digitChar ≠ ':' ∧ digit.digitChar ≠ '.' ∧
      digit.digitChar ≠ 'u' := by decide
  obtain ⟨digit, hdigit, rfl⟩ := exists_of_mem_toDigits hbase h
  exact hall digit (Nat.lt_of_lt_of_le hdigit hle)

theorem decimal_injective : Function.Injective decimal :=
  fun _ _ h => UInt8.toNat.inj (toDigits_inj (by decide) (by decide) h)

theorem hex_injective : Function.Injective hex :=
  fun _ _ h => UInt16.toNat.inj (toDigits_inj (by decide) (by decide) h)

theorem ne_separator_of_mem_decimal {octet : UInt8} {c : Char} (h : c ∈ decimal octet) :
    c ≠ ':' ∧ c ≠ '.' ∧ c ≠ 'u' :=
  ne_separator_of_mem_toDigits (by decide) (by decide) h

theorem ne_separator_of_mem_hex {segment : UInt16} {c : Char} (h : c ∈ hex segment) :
    c ≠ ':' ∧ c ≠ '.' ∧ c ≠ 'u' :=
  ne_separator_of_mem_toDigits (by decide) (by decide) h

theorem hex_ne_nil (segment : UInt16) : hex segment ≠ [] := Nat.toDigits_ne_nil

/-! ### Octets -/

theorem splitOn_dotted {octets : List UInt8} (hne : octets ≠ []) :
    (dotted octets).splitOn '.' = octets.map decimal := by
  refine List.splitOn_intercalate '.' ?_ (by simpa using hne)
  intro part hpart hmem
  obtain ⟨octet, -, rfl⟩ := List.mem_map.mp hpart
  exact (ne_separator_of_mem_decimal hmem).2.1 rfl

theorem dotted_inj {octets octets' : List UInt8} (hne : octets ≠ []) (hne' : octets' ≠ [])
    (h : dotted octets = dotted octets') : octets = octets' := by
  have hmaps : octets.map decimal = octets'.map decimal := by
    rw [← splitOn_dotted hne, h, splitOn_dotted hne']
  exact List.map_injective_iff.mpr decimal_injective hmaps

/-- Several octets have a dot between them. -/
theorem dot_mem_dotted {octets : List UInt8} (hlength : 1 < octets.length) :
    '.' ∈ dotted octets := by
  have hne : octets ≠ [] := List.ne_nil_of_length_pos (by omega)
  by_contra hnone
  have hparts := splitOn_dotted hne
  rw [List.splitOn_eq_singleton hnone] at hparts
  have hlengths := congrArg List.length hparts
  rw [List.length_singleton, List.length_map] at hlengths
  omega

/-- What is joined by a separator is of the parts or the separator. -/
theorem mem_of_mem_intercalate {sep c : Char} {parts : List (List Char)}
    (h : c ∈ [sep].intercalate parts) : c = sep ∨ ∃ part ∈ parts, c ∈ part := by
  induction parts with
  | nil => cases h
  | cons part parts ih =>
      cases parts with
      | nil => exact .inr ⟨part, List.mem_cons_self, by simpa using h⟩
      | cons next parts =>
          rw [List.intercalate_cons_cons, List.mem_append, List.mem_append] at h
          rcases h with (h | h) | h
          · exact .inr ⟨part, List.mem_cons_self, h⟩
          · exact .inl (List.mem_singleton.mp h)
          · exact (ih h).imp_right fun ⟨other, hother, hc⟩ =>
              ⟨other, List.mem_cons_of_mem part hother, hc⟩

/-- Dotted octets are digits and dots. -/
theorem ne_of_mem_dotted {c : Char} {octets : List UInt8} (h : c ∈ dotted octets) :
    c ≠ ':' ∧ c ≠ 'u' := by
  rcases mem_of_mem_intercalate h with rfl | ⟨part, hpart, hc⟩
  · decide
  · obtain ⟨octet, -, rfl⟩ := List.mem_map.mp hpart
    exact ⟨(ne_separator_of_mem_decimal hc).1, (ne_separator_of_mem_decimal hc).2.2⟩

theorem length_octetsOf (segment : UInt16) : (octetsOf segment).length = 2 := rfl

theorem octetsOf_inj {segment segment' : UInt16} (h : octetsOf segment = octetsOf segment') :
    segment = segment' := by
  obtain ⟨hhigh, hlow⟩ := List.cons.inj h
  have hhigh' := congrArg UInt8.toNat hhigh
  have hlow' := congrArg UInt8.toNat (List.singleton_inj.mp hlow)
  simp only [UInt16.toNat_toUInt8, UInt16.toNat_shiftRight] at hhigh' hlow'
  have hsmall := segment.toNat_lt
  have hsmall' := segment'.toNat_lt
  apply UInt16.toNat.inj
  simp [Nat.shiftRight_eq_div_pow] at hhigh'
  omega

theorem flatMap_octetsOf_inj {segments segments' : List UInt16}
    (h : segments.flatMap octetsOf = segments'.flatMap octetsOf) : segments = segments' := by
  induction segments generalizing segments' with
  | nil =>
      cases segments' with
      | nil => rfl
      | cons segment' rest' => cases h
  | cons segment rest ih =>
      cases segments' with
      | nil => cases h
      | cons segment' rest' =>
          rw [List.flatMap_cons, List.flatMap_cons] at h
          obtain ⟨hfirst, hrest⟩ := List.append_inj h rfl
          rw [octetsOf_inj hfirst, ih hrest]

/-! ### Runs of zeros -/

/-- The segments of a run are zero. -/
def Span.IsZero (segments : List UInt16) (span : Span) : Prop :=
  ∀ i, span.start ≤ i → i < span.start + span.len → segments[i]? = some 0

/-- What the search knows of the segments it has seen. -/
structure Spans.Seen (segments : List UInt16) (spans : Spans) : Prop where
  index : spans.index = segments.length
  current : spans.current.IsZero segments
  ends : spans.current.len = 0 ∨ spans.current.start + spans.current.len = segments.length
  longest : spans.longest.IsZero segments

theorem Span.IsZero.append {segments : List UInt16} {span : Span} (h : span.IsZero segments)
    (rest : List UInt16) : span.IsZero (segments ++ rest) := by
  intro i hstart hstop
  have hzero := h i hstart hstop
  have hlt : i < segments.length := (List.getElem?_eq_some_iff.mp hzero).1
  rwa [List.getElem?_append_left hlt]

theorem Spans.Seen.extended {segments : List UInt16} {spans : Spans} (h : spans.Seen segments) :
    spans.extended.IsZero (segments ++ [0]) ∧
      spans.extended.start + spans.extended.len = segments.length + 1 := by
  have hends := h.ends
  have hindex := h.index
  constructor
  · intro i hstart hstop
    simp only [Spans.extended] at hstart hstop
    by_cases hlast : i = segments.length
    · subst hlast
      rw [List.getElem?_concat_length]
    · refine h.current.append [0] i ?_ ?_
      · split_ifs at hstart hstop <;> omega
      · split_ifs at hstart hstop <;> omega
  · simp only [Spans.extended]
    split_ifs
    · omega
    · omega

theorem Spans.Seen.step {segments : List UInt16} {spans : Spans} (h : spans.Seen segments)
    (segment : UInt16) : (spans.step segment).Seen (segments ++ [segment]) := by
  have hlongest := h.longest.append [segment]
  have hlength : spans.index + 1 = (segments ++ [segment]).length := by
    rw [List.length_append, List.length_singleton, h.index]
  by_cases hzero : segment = 0
  · subst hzero
    obtain ⟨hextended, hends⟩ := h.extended
    rw [Spans.step, if_pos rfl]
    refine ⟨hlength, hextended, .inr (hends.trans ?_), ?_⟩
    · rw [List.length_append, List.length_singleton]
    · simp only
      split_ifs
      · exact hextended
      · exact hlongest
  · rw [Spans.step, if_neg hzero]
    refine ⟨hlength, ?_, .inl rfl, hlongest⟩
    intro i _ hstop
    exact absurd hstop (Nat.not_lt_zero i)

theorem zeroes_isZero (segments : List UInt16) : (zeroes segments).IsZero segments := by
  have hempty : ∀ i, ¬ i < 0 + 0 := fun i => Nat.not_lt_zero i
  have hseen : (segments.foldl Spans.step ⟨0, ⟨0, 0⟩, ⟨0, 0⟩⟩).Seen segments := by
    induction segments using List.reverseRecOn with
    | nil => exact ⟨rfl, fun i _ h => absurd h (hempty i), .inl rfl, fun i _ h => absurd h (hempty i)⟩
    | append_singleton segments segment ih =>
        rw [List.foldl_append]
        exact ih.step segment
  exact hseen.longest

/-- Segments are what is before a run of zeros, the run, and what is behind it. -/
theorem eq_around_zero {segments : List UInt16} {span : Span} (h : span.IsZero segments)
    (hlen : 0 < span.len) : span.start + span.len ≤ segments.length ∧
      segments = segments.take span.start ++ List.replicate span.len 0 ++
        segments.drop (span.start + span.len) := by
  have hend : span.start + span.len ≤ segments.length := by
    have hlast := h (span.start + span.len - 1) (by omega) (by omega)
    have hlt := (List.getElem?_eq_some_iff.mp hlast).1
    omega
  have hrun : (segments.drop span.start).take span.len = List.replicate span.len 0 := by
    apply List.ext_getElem?
    intro i
    rw [List.getElem?_take, List.getElem?_drop, List.getElem?_replicate]
    split_ifs with hi
    · exact h _ (by omega) (by omega)
    · rfl
  refine ⟨hend, ?_⟩
  rw [← hrun, List.append_assoc, ← List.drop_drop, List.take_append_drop, List.take_append_drop]

/-! ### Segments -/

/-- The parts before and behind the first empty one, of a text cut at its colons. -/
def sides (text : List Char) : List (List Char) × List (List Char) :=
  ((text.splitOn ':').takeWhile (· ≠ []), ((text.splitOn ':').dropWhile (· ≠ [])).filter (· ≠ []))

theorem splitOn_colons (segments : List UInt16) :
    (colons segments).splitOn ':' = if segments = [] then [[]] else segments.map hex := by
  split_ifs with hne
  · subst hne
    exact List.splitOn_nil ':'
  · refine List.splitOn_intercalate ':' ?_ (by simpa using hne)
    intro part hpart hmem
    obtain ⟨segment, -, rfl⟩ := List.mem_map.mp hpart
    exact (ne_separator_of_mem_hex hmem).1 rfl

theorem takeWhile_map_hex (segments : List UInt16) (rest : List (List Char)) :
    (segments.map hex ++ rest).takeWhile (· ≠ []) =
      segments.map hex ++ rest.takeWhile (· ≠ []) := by
  refine List.takeWhile_append_of_pos fun part hpart => ?_
  obtain ⟨segment, -, rfl⟩ := List.mem_map.mp hpart
  exact decide_eq_true (hex_ne_nil segment)

theorem dropWhile_map_hex (segments : List UInt16) (rest : List (List Char)) :
    (segments.map hex ++ rest).dropWhile (· ≠ []) = rest.dropWhile (· ≠ []) := by
  refine List.dropWhile_append_of_pos fun part hpart => ?_
  obtain ⟨segment, -, rfl⟩ := List.mem_map.mp hpart
  exact decide_eq_true (hex_ne_nil segment)

theorem filter_map_hex (segments : List UInt16) :
    (segments.map hex).filter (· ≠ []) = segments.map hex := by
  refine List.filter_eq_self.mpr fun part hpart => ?_
  obtain ⟨segment, -, rfl⟩ := List.mem_map.mp hpart
  exact decide_eq_true (hex_ne_nil segment)

theorem sides_colons {segments : List UInt16} (hne : segments ≠ []) :
    sides (colons segments) = (segments.map hex, []) := by
  have htake := takeWhile_map_hex segments []
  have hdrop := dropWhile_map_hex segments []
  rw [List.append_nil] at htake hdrop
  rw [sides, splitOn_colons, if_neg hne, htake, hdrop]
  simp

theorem sides_compressed (front back : List UInt16) :
    sides (colons front ++ [':', ':'] ++ colons back) = (front.map hex, back.map hex) := by
  have hbehind : ((colons back).splitOn ':').filter (· ≠ []) = back.map hex := by
    rw [splitOn_colons]
    split_ifs with hempty
    · subst hempty
      rfl
    · exact filter_map_hex back
  have hparts : (colons front ++ [':', ':'] ++ colons back).splitOn ':' =
      (colons front).splitOn ':' ++ [] :: (colons back).splitOn ':' := by
    have hcut : colons front ++ [':', ':'] ++ colons back =
        colons front ++ ':' :: ([] ++ ':' :: colons back) := by simp
    rw [hcut, List.splitOn_append_cons_self, List.splitOn_append_cons_self, List.splitOn_nil,
      List.singleton_append]
  rw [sides, hparts, splitOn_colons]
  split_ifs with hempty
  · subst hempty
    simpa using hbehind
  · rw [takeWhile_map_hex, dropWhile_map_hex]
    simpa using hbehind

theorem sides_mapped {octets : List UInt8} (hlength : 1 < octets.length) :
    sides ([':', ':', 'f', 'f', 'f', 'f', ':'] ++ dotted octets) =
      ([], [['f', 'f', 'f', 'f'], dotted octets]) := by
  have hcut : [':', ':', 'f', 'f', 'f', 'f', ':'] ++ dotted octets =
      [] ++ ':' :: ([] ++ ':' :: (['f', 'f', 'f', 'f'] ++ ':' :: dotted octets)) := rfl
  have hdotted : (dotted octets).splitOn ':' = [dotted octets] :=
    List.splitOn_eq_singleton fun hmem => (ne_of_mem_dotted hmem).1 rfl
  have hfour : ['f', 'f', 'f', 'f'].splitOn ':' = [['f', 'f', 'f', 'f']] := by decide
  have hsome : dotted octets ≠ [] := List.ne_nil_of_mem (dot_mem_dotted hlength)
  rw [sides, hcut, List.splitOn_append_cons_self, List.splitOn_append_cons_self,
    List.splitOn_append_cons_self, hdotted, hfour, List.splitOn_nil]
  simp [hsome]

/-- What the text of segments says about them. -/
inductive Shown (segments : List UInt16) : List (List Char) × List (List Char) → Prop
  | plain (front back : List UInt16)
      (h : segments = front ++ List.replicate (8 - front.length - back.length) 0 ++ back) :
      Shown segments (front.map hex, back.map hex)
  | mapped (h : isMapped segments = true) :
      Shown segments ([], [['f', 'f', 'f', 'f'], dotted ((segments.drop 6).flatMap octetsOf)])

theorem length_mapped {segments : List UInt16} (hlength : segments.length = 8) :
    ((segments.drop 6).flatMap octetsOf).length = 4 := by
  rw [List.length_flatMap]
  simp [length_octetsOf, hlength]

theorem shown_v6Chars {segments : List UInt16} (hlength : segments.length = 8) :
    Shown segments (sides (v6Chars segments)) := by
  by_cases hmapped : isMapped segments = true
  · rw [v6Chars, if_pos hmapped, sides_mapped (by rw [length_mapped hlength]; decide)]
    exact .mapped hmapped
  · rw [v6Chars, if_neg hmapped]
    by_cases hspan : 1 < (zeroes segments).len
    · obtain ⟨hend, hsegments⟩ := eq_around_zero (zeroes_isZero segments) (by omega)
      rw [if_pos hspan, sides_compressed]
      refine .plain _ _ ?_
      have hcount : 8 - (segments.take (zeroes segments).start).length -
          (segments.drop ((zeroes segments).start + (zeroes segments).len)).length =
            (zeroes segments).len := by
        rw [List.length_take, List.length_drop]
        omega
      rwa [hcount]
    · have hne : segments ≠ [] := List.ne_nil_of_length_pos (by omega)
      rw [if_neg hspan, sides_colons hne]
      exact .plain segments [] (by simp [hlength])

theorem hex_map_ne_mapped {back : List UInt16} {octets : List UInt8}
    (hlength : 1 < octets.length) : back.map hex ≠ [['f', 'f', 'f', 'f'], dotted octets] := by
  intro h
  have hmem : dotted octets ∈ back.map hex := by simp [h]
  obtain ⟨segment, -, hsegment⟩ := List.mem_map.mp hmem
  exact (ne_separator_of_mem_hex (hsegment ▸ dot_mem_dotted hlength)).2.1 rfl

theorem Shown.inj {segments segments' : List UInt16} {sides sides' : List (List Char) × List (List Char)}
    (hlength : segments.length = 8) (hlength' : segments'.length = 8)
    (h : Shown segments sides) (h' : Shown segments' sides') (hsides : sides = sides') :
    segments = segments' := by
  have hfour : 1 < ((segments.drop 6).flatMap octetsOf).length := by
    rw [length_mapped hlength]
    decide
  have hfour' : 1 < ((segments'.drop 6).flatMap octetsOf).length := by
    rw [length_mapped hlength']
    decide
  cases h with
  | plain front back h =>
      cases h' with
      | plain front' back' h' =>
          obtain ⟨hfront, hback⟩ := Prod.mk.inj hsides
          rw [h, h', List.map_injective_iff.mpr hex_injective hfront,
            List.map_injective_iff.mpr hex_injective hback]
      | mapped h' => exact absurd (Prod.mk.inj hsides).2 (hex_map_ne_mapped hfour')
  | mapped h =>
      cases h' with
      | plain front' back' h' => exact absurd (Prod.mk.inj hsides).2.symm (hex_map_ne_mapped hfour)
      | mapped h' =>
          have hdotted := (List.cons.inj (List.cons.inj (Prod.mk.inj hsides).2).2).1
          have hdrop := flatMap_octetsOf_inj (dotted_inj (List.ne_nil_of_length_pos (by omega))
            (List.ne_nil_of_length_pos (by omega)) hdotted)
          rw [← List.take_append_drop 6 segments, ← List.take_append_drop 6 segments', hdrop,
            eq_of_beq h, eq_of_beq h']

theorem v6Chars_inj {segments segments' : List UInt16} (hlength : segments.length = 8)
    (hlength' : segments'.length = 8) (h : v6Chars segments = v6Chars segments') :
    segments = segments' :=
  Shown.inj hlength hlength' (shown_v6Chars hlength) (shown_v6Chars hlength') (congrArg _ h)

/-! ### Addresses -/

theorem colon_mem_colons {segments : List UInt16} (hlength : 1 < segments.length) :
    ':' ∈ colons segments := by
  have hne : segments ≠ [] := List.ne_nil_of_length_pos (by omega)
  by_contra hnone
  have hparts := splitOn_colons segments
  rw [List.splitOn_eq_singleton hnone, if_neg hne] at hparts
  have hlengths := congrArg List.length hparts
  rw [List.length_singleton, List.length_map] at hlengths
  omega

theorem colon_mem_v6Chars {segments : List UInt16} (hlength : segments.length = 8) :
    ':' ∈ v6Chars segments := by
  rw [v6Chars]
  split_ifs
  · exact List.mem_append_left _ (by simp)
  · simp only
    split_ifs
    · simp
    · exact colon_mem_colons (by omega)

theorem colon_notMem_chars_v4 (octets : Vector UInt8 4) : ':' ∉ (v4 octets).chars :=
  fun hmem => (ne_of_mem_dotted hmem).1 rfl

theorem colon_mem_chars_v6 (segments : Vector UInt16 8) : ':' ∈ (v6 segments).chars :=
  colon_mem_v6Chars (by simp)

theorem chars_injective : Function.Injective chars := by
  intro address address' h
  cases address with
  | v4 octets =>
      cases address' with
      | v4 octets' =>
          have hne : octets.toList ≠ [] := List.ne_nil_of_length_pos (by simp)
          have hne' : octets'.toList ≠ [] := List.ne_nil_of_length_pos (by simp)
          rw [Vector.toList_inj.mp (dotted_inj hne hne' h)]
      | v6 segments' => exact absurd (h ▸ colon_mem_chars_v6 segments') (colon_notMem_chars_v4 octets)
  | v6 segments =>
      cases address' with
      | v4 octets' => exact absurd (h ▸ colon_mem_chars_v6 segments) (colon_notMem_chars_v4 octets')
      | v6 segments' => rw [Vector.toList_inj.mp (v6Chars_inj (by simp) (by simp) h)]

theorem text_injective : Function.Injective text :=
  fun _ _ h => chars_injective (String.ofList_injective h)

theorem text_ne_unknown (address : IpAddr) : address.text ≠ "unknown" := by
  intro h
  have hchars : address.chars = ['u', 'n', 'k', 'n', 'o', 'w', 'n'] :=
    String.ofList_injective (h.trans rfl)
  cases address with
  | v4 octets =>
      have hmem : 'u' ∈ (v4 octets).chars := hchars ▸ List.mem_cons_self
      exact (ne_of_mem_dotted hmem).2 rfl
  | v6 segments =>
      have hunknown : ':' ∈ ['u', 'n', 'k', 'n', 'o', 'w', 'n'] :=
        hchars ▸ colon_mem_chars_v6 segments
      revert hunknown
      decide

end IpAddr

end TcoCalculator
