/-
Places in a JSON value: the tokens that lead to one, and the pointer text that
spells them.
-/
import Mathlib.Data.List.Basic
import TcoCalculator.Library.Json
import TcoCalculator.Library.Separated

namespace TcoCalculator.Json

/-! ### Pointer texts -/

/-- A token with its tildes and slashes escaped. -/
def escapeToken (token : List Char) : List Char :=
  token.flatMap fun c => if c = '~' then ['~', '0'] else if c = '/' then ['~', '1'] else [c]

def unescapeToken : List Char → List Char
  | '~' :: '0' :: rest => '~' :: unescapeToken rest
  | '~' :: '1' :: rest => '/' :: unescapeToken rest
  | c :: rest => c :: unescapeToken rest
  | [] => []

def pointerChars (path : List String) : List Char :=
  path.flatMap fun token => '/' :: escapeToken token.toList

def pointerText (path : List String) : String := String.ofList (pointerChars path)

/-- The tokens a pointer spells, unless it does not start with a slash. -/
def pointerTokens (pointer : String) : Option (List String) :=
  match pointer.toList.splitOn '/' with
  | [] :: tokens => some (tokens.map fun token => String.ofList (unescapeToken token))
  | _ => none

theorem escapeToken_cons (c : Char) (token : List Char) :
    escapeToken (c :: token) =
      (if c = '~' then ['~', '0'] else if c = '/' then ['~', '1'] else [c]) ++
        escapeToken token := rfl

theorem slash_notMem_escapeToken (token : List Char) : '/' ∉ escapeToken token := by
  induction token with
  | nil => simp [escapeToken]
  | cons c token ih =>
      rw [escapeToken_cons, List.mem_append, not_or]
      refine ⟨?_, ih⟩
      by_cases htilde : c = '~'
      · simp [htilde]
      · by_cases hslash : c = '/'
        · simp [hslash]
        · simp [htilde, hslash, Ne.symm hslash]

@[simp] theorem unescapeToken_escapeToken (token : List Char) :
    unescapeToken (escapeToken token) = token := by
  induction token with
  | nil => rfl
  | cons c token ih =>
      rw [escapeToken_cons]
      by_cases htilde : c = '~'
      · simp [htilde, unescapeToken, ih]
      · by_cases hslash : c = '/'
        · simp [hslash, unescapeToken, ih]
        · simp only [htilde, hslash, if_false, List.singleton_append]
          rw [unescapeToken, ih]
          · exact fun _ heq => absurd heq htilde
          · exact fun _ heq => absurd heq htilde

theorem splitOn_pointerChars (path : List String) :
    (pointerChars path).splitOn '/' = [] :: path.map fun token => escapeToken token.toList := by
  have hjoin : ['/'].intercalate ([] :: path.map fun token => escapeToken token.toList) =
      pointerChars path := by
    induction path with
    | nil => rfl
    | cons token path ih =>
        rw [List.map_cons, List.intercalate_cons_cons, pointerChars, List.flatMap_cons]
        rw [pointerChars] at ih
        rw [← ih]
        rcases path with _ | ⟨next, path⟩
        · simp [List.intercalate]
        · simp [List.intercalate_cons_cons]
  rw [← hjoin]
  apply List.splitOn_intercalate
  · simp only [List.mem_cons, List.mem_map]
    rintro _ (rfl | ⟨token, -, rfl⟩)
    · exact List.not_mem_nil
    · exact slash_notMem_escapeToken _
  · exact List.cons_ne_nil _ _

/-- A pointer text spells the tokens it is made of. -/
@[simp] theorem pointerTokens_pointerText (path : List String) :
    pointerTokens (pointerText path) = some path := by
  simp [pointerTokens, pointerText, splitOn_pointerChars, Function.comp_def]

/-! ### Places -/

/-- The item whose index the token spells, the first item having the index given. -/
def itemNamed (token : String) : Nat → List Json → Option Json
  | _, [] => none
  | index, item :: rest =>
      if toString index = token then some item else itemNamed token (index + 1) rest

/-- The member of an object, or the item of an array, that a token names. -/
def child (token : String) : Json → Option Json
  | .object fields => fields.lookup token
  | .array items => itemNamed token 0 items
  | _ => none

/-- The value the tokens lead to. -/
def atPath : Option Json → List String → Option Json
  | value, [] => value
  | value, token :: rest => atPath (value.bind (child token)) rest

/-- The value a pointer leads to. -/
def pointer (value : Json) (text : String) : Option Json :=
  (pointerTokens text).bind (atPath (some value))

/-- What a value says at its own place: a scalar in full, of a container the kind. -/
inductive Head where
  | null
  | bool (b : Bool)
  | number (n : Int)
  | string (s : String)
  | array
  | object
  deriving DecidableEq

def head : Json → Head
  | .null => .null
  | .bool b => .bool b
  | .number n => .number n
  | .string s => .string s
  | .array _ => .array
  | .object _ => .object

@[simp] theorem atPath_none (path : List String) : atPath none path = none := by
  induction path with
  | nil => rfl
  | cons token path ih => exact ih

@[simp] theorem pointer_pointerText (value : Json) (path : List String) :
    value.pointer (pointerText path) = atPath (some value) path := by
  simp [pointer]

theorem itemNamed_toString (items : List Json) (first index : Nat) :
    itemNamed (toString (first + index)) first items = items[index]? := by
  induction items generalizing first index with
  | nil => rfl
  | cons item rest ih =>
      cases index with
      | zero => simp [itemNamed]
      | succ index =>
          have hne : toString first ≠ toString (first + (index + 1)) := by
            rw [Ne, Separated.toString_inj]
            omega
          rw [itemNamed, if_neg hne, List.getElem?_cons_succ, ← ih (first + 1) index]
          congr 2
          omega

/-- A token that spells no index names no item. -/
theorem itemNamed_eq_none {items : List Json} {token : String} {first : Nat}
    (h : ∀ index < items.length, token ≠ toString (first + index)) :
    itemNamed token first items = none := by
  induction items generalizing first with
  | nil => rfl
  | cons item rest ih =>
      have hhead : toString first ≠ token := (h 0 (Nat.succ_pos _)).symm
      rw [itemNamed, if_neg hhead]
      apply ih
      intro index hindex
      rw [Nat.add_assoc, Nat.add_comm 1]
      exact h (index + 1) (Nat.succ_lt_succ hindex)

@[simp] theorem child_array_toString (items : List Json) (index : Nat) :
    (Json.array items).child (toString index) = items[index]? := by
  rw [child, ← Nat.zero_add index, itemNamed_toString, Nat.zero_add]

theorem child_array_eq_none {items : List Json} {token : String}
    (h : ∀ index < items.length, token ≠ toString index) :
    (Json.array items).child token = none := by
  apply itemNamed_eq_none
  simpa using h

end TcoCalculator.Json
