/-
JSON documents as a streaming reader meets them: the members of an object in the
order in which they stand, repeated names included.
-/
import Mathlib.Data.String.Basic
import TcoCalculator.Library.Json
import TcoCalculator.Library.OrderedMap

namespace TcoCalculator

inductive JsonDocument where
  | null
  | bool (b : Bool)
  | number (text : String)
  | string (s : String)
  | array (items : List JsonDocument)
  | object (members : List (String × JsonDocument))

/-- The JSON library: a text as a document, unless it is malformed, and the text of a
number as it is printed again, unless it is out of range. -/
structure JsonLibrary where
  parse : List UInt8 → Option JsonDocument
  printNumber : String → Option String

namespace JsonDocument

variable {α β : Type}

abbrev Members := List (String × JsonDocument)

/-! ### Maps -/

/-- A map as it is gone through: of the entries of one name the last counts. -/
def btreeMap (entries : List (String × α)) : List (String × α) :=
  (entries.foldl (fun map entry => map.insert entry.1 entry.2)
    (∅ : HashMap String α)).toSortedList

/-- The entries of one name. -/
def ofName (name : String) (entries : List (String × α)) : List (String × α) :=
  entries.filter fun entry => entry.1 = name

theorem lookup_foldl_insert (entries : List (String × α)) (map : HashMap String α)
    (name : String) :
    (entries.foldl (fun map entry => map.insert entry.1 entry.2) map).lookup name =
      ((ofName name entries).getLast?.map Prod.snd).or (map.lookup name) := by
  induction entries generalizing map with
  | nil => simp [ofName]
  | cons entry rest ih =>
      rw [List.foldl_cons, ih]
      by_cases hname : entry.1 = name
      · subst hname
        have hinsert : (map.insert entry.1 entry.2).lookup entry.1 = some entry.2 :=
          AList.lookup_insert map
        have hcons : ofName entry.1 (entry :: rest) = entry :: ofName entry.1 rest := by
          simp [ofName]
        rw [hinsert, hcons, List.getLast?_cons]
        cases (ofName entry.1 rest).getLast? <;> rfl
      · have hinsert : (map.insert entry.1 entry.2).lookup name = map.lookup name :=
          AList.lookup_insert_ne (Ne.symm hname)
        have hcons : ofName name (entry :: rest) = ofName name rest := by
          simp [ofName, hname]
        rw [hinsert, hcons]

theorem mem_btreeMap {entries : List (String × α)} {name : String} {value : α} :
    (name, value) ∈ btreeMap entries ↔
      (ofName name entries).getLast?.map Prod.snd = some value := by
  rw [btreeMap, HashMap.mem_toSortedList, lookup_foldl_insert]
  have hempty : (∅ : HashMap String α).lookup name = none := AList.lookup_empty name
  rw [hempty, Option.or_none]

theorem mem_of_mem_btreeMap {entries : List (String × α)} {entry : String × α}
    (h : entry ∈ btreeMap entries) : entry ∈ entries := by
  obtain ⟨last, hlast, hvalue⟩ := Option.map_eq_some_iff.mp (mem_btreeMap.mp h)
  have hmem := List.mem_of_getLast? hlast
  have hname : last.1 = entry.1 := of_decide_eq_true (List.mem_filter.mp hmem).2
  rw [show entry = last from Prod.ext hname.symm hvalue.symm]
  exact (List.mem_filter.mp hmem).1

/-- Every name of the entries has one entry in the map. -/
theorem exists_mem_btreeMap {entries : List (String × α)} {name : String}
    (h : name ∈ entries.map Prod.fst) : ∃ value, (name, value) ∈ btreeMap entries := by
  obtain ⟨entry, hentry, rfl⟩ := List.mem_map.mp h
  have hmem : entry ∈ ofName entry.1 entries := List.mem_filter.mpr ⟨hentry, by simp⟩
  have hlast := List.getLast?_eq_some_getLast (List.ne_nil_of_mem hmem)
  exact ⟨_, mem_btreeMap.mpr (by rw [hlast]; rfl)⟩

theorem nodup_names_btreeMap (entries : List (String × α)) :
    ((btreeMap entries).map Prod.fst).Nodup :=
  HashMap.nodup_keys_toSortedList _

theorem btreeMap_congr {entries entries' : List (String × α)}
    (h : ∀ name, ofName name entries = ofName name entries') :
    btreeMap entries = btreeMap entries' := by
  refine HashMap.toSortedList_eq_of_lookup fun name => ?_
  rw [lookup_foldl_insert, lookup_foldl_insert, h]

theorem lookup_eq_ofName (entries : List (String × α)) (name : String) :
    entries.lookup name = (ofName name entries).head?.map Prod.snd := by
  induction entries with
  | nil => rfl
  | cons entry rest ih =>
      obtain ⟨head, value⟩ := entry
      by_cases hname : head = name
      · subst hname
        simp [ofName]
      · have hne : (name == head) = false := by simp [Ne.symm hname]
        rw [List.lookup_cons, hne, ih]
        simp [ofName, hname]

theorem lookup_eq_some_of_nodup {entries : List (String × α)} {name : String} {value : α}
    (hnodup : (entries.map Prod.fst).Nodup) :
    entries.lookup name = some value ↔ (name, value) ∈ entries := by
  induction entries with
  | nil => simp
  | cons entry rest ih =>
      obtain ⟨head, first⟩ := entry
      have hrest := List.nodup_cons.mp hnodup
      by_cases hname : name = head
      · subst hname
        have hnot : (name, value) ∉ rest := fun hmem =>
          hrest.1 (List.mem_map.mpr ⟨_, hmem, rfl⟩)
        simp [hnot, eq_comm]
      · have hne : (name == head) = false := by simp [hname]
        rw [List.lookup_cons, hne]
        simpa [hname] using ih hrest.2

/-! ### Reading -/

def asString : JsonDocument → Option String
  | string s => some s
  | _ => none

/-- An `Option<String>`. -/
def asOptional : JsonDocument → Option (Option String)
  | null => some none
  | string s => some (some s)
  | _ => none

def asMembers : JsonDocument → Option Members
  | object members => some members
  | _ => none

/-- The fields of a derived structure.  A repeated field is refused and other members are
left out; an array stands for the fields in their order, those with a default last. -/
def fields (names : List String) (needed : Nat) :
    JsonDocument → Option (String → Option JsonDocument)
  | object members =>
      if ((members.map Prod.fst).filter (· ∈ names)).Nodup then
        some fun name => members.lookup name
      else none
  | array items =>
      if needed ≤ items.length ∧ items.length ≤ names.length then
        some fun name => (names.zip items).lookup name
      else none
  | _ => none

/-- A field that has to be there. -/
def required (read : JsonDocument → Option α) (get : String → Option JsonDocument)
    (name : String) : Option α :=
  (get name).bind read

/-- A field that stands for a value of its own where it is missing. -/
def withDefault (read : JsonDocument → Option α) (fallback : α)
    (get : String → Option JsonDocument) (name : String) : Option α :=
  match get name with
  | some value => read value
  | none => some fallback

/-- An `Option<String>` field: missing and `null` are alike. -/
def optional (get : String → Option JsonDocument) (name : String) : Option (Option String) :=
  withDefault asOptional none get name

/-- Each member read for itself, until one fails. -/
def readEach (read : String → JsonDocument → Option α) : Members → Option (List (String × α))
  | [] => some []
  | (name, value) :: rest => do
      let first ← read name value
      let others ← readEach read rest
      return (name, first) :: others

/-- The entries that a reader keeps. -/
def kept (entries : List (String × Option α)) : List (String × α) :=
  entries.filterMap fun entry => entry.2.map fun value => (entry.1, value)

/-- A `BTreeMap`. -/
def readMap (read : JsonDocument → Option α) (document : JsonDocument) :
    Option (List (String × α)) := do
  let entries ← readEach (fun _ => read) (← document.asMembers)
  return btreeMap entries

/-! ### Texts -/

mutual

def textChars : JsonDocument → List Char
  | null => "null".toList
  | bool b => (if b then "true" else "false").toList
  | number text => text.toList
  | string s => Json.renderString s
  | array items => '[' :: (itemChars items ++ [']'])
  | object members => '{' :: (memberChars members ++ ['}'])

def itemChars : List JsonDocument → List Char
  | [] => []
  | [item] => textChars item
  | item :: rest => textChars item ++ ',' :: itemChars rest

def memberChars : Members → List Char
  | [] => []
  | [(name, value)] => Json.renderString name ++ ':' :: textChars value
  | (name, value) :: rest =>
      Json.renderString name ++ ':' :: (textChars value ++ ',' :: memberChars rest)

end

/-- The compact text of a document. -/
def text (document : JsonDocument) : String := String.ofList document.textChars

mutual

/-- A document that is kept as it is, a `serde_json::Value`: its objects are maps and its
numbers are as they are printed. -/
def toValue (library : JsonLibrary) : JsonDocument → Option JsonDocument
  | number text => (library.printNumber text).map number
  | array items => (toItems library items).map array
  | object members => (toEntries library members).map fun entries => object (btreeMap entries)
  | null => some null
  | bool b => some (bool b)
  | string s => some (string s)

def toItems (library : JsonLibrary) : List JsonDocument → Option (List JsonDocument)
  | [] => some []
  | item :: rest => do return (← toValue library item) :: (← toItems library rest)

def toEntries (library : JsonLibrary) : Members → Option Members
  | [] => some []
  | (name, value) :: rest => do
      return (name, ← toValue library value) :: (← toEntries library rest)

end

/-- The text of a value: a string's own, or any other value as printed. -/
def valueText (library : JsonLibrary) (document : JsonDocument) : Option String := do
  match ← toValue library document with
  | string s => return s
  | value => return value.text

end JsonDocument

end TcoCalculator
