/-
Values of a browser as JSON values whose numbers are whole doubles, and records of
them: reading a member, spreading a record with a member of one's own, parsing and
writing.
-/
import TcoCalculator.Library.Double
import TcoCalculator.Library.JsonDocument

namespace TcoCalculator

/-! ### Records -/

/-- The members of an object in their order. -/
abbrev JsRecord := List (String × Json)

namespace JsRecord

/-- `record.name`, none for `undefined`. -/
def member (record : JsRecord) (name : String) : Option Json := record.lookup name

/-- `{ ...record, name: value }` -/
def withMember (record : JsRecord) (name : String) (value : Json) : JsRecord :=
  match record with
  | [] => [(name, value)]
  | (head, old) :: rest =>
      if head = name then (head, value) :: rest else (head, old) :: withMember rest name value

/-- The record of some members; what is `undefined` is not written. -/
def literal (members : List (String × Option Json)) : JsRecord :=
  members.filterMap fun member => member.2.map fun value => (member.1, value)

/-- A member set to what it has changes nothing. -/
theorem withMember_self {record : JsRecord} {name : String} {value : Json}
    (h : record.member name = some value) : record.withMember name value = record := by
  induction record with
  | nil => cases h
  | cons member rest ih =>
      obtain ⟨head, old⟩ := member
      rw [member, List.lookup_cons] at h
      by_cases hname : head = name
      · subst hname
        rw [beq_self_eq_true, Option.some.injEq] at h
        rw [withMember, if_pos rfl, h]
      · have hne : (name == head) = false := beq_false_of_ne (Ne.symm hname)
        rw [hne] at h
        rw [withMember, if_neg hname, ih h]

end JsRecord

/-! ### Texts -/

namespace Json

mutual

/-- `JSON.parse` of the text of a value without repeated names. -/
def parsed : Json → Json
  | number n => number (Double.ofInt n)
  | array items => array (parsedItems items)
  | object fields => object (parsedFields fields)
  | null => null
  | bool b => bool b
  | string s => string s

def parsedItems : List Json → List Json
  | [] => []
  | item :: rest => parsed item :: parsedItems rest

def parsedFields : List (String × Json) → List (String × Json)
  | [] => []
  | (name, value) :: rest => (name, parsed value) :: parsedFields rest

end

mutual

/-- The document of which `JSON.stringify` writes the text. -/
def stringified : Json → JsonDocument
  | number n => .number (Double.text n)
  | array items => .array (stringifiedItems items)
  | object fields => .object (stringifiedFields fields)
  | null => .null
  | bool b => .bool b
  | string s => .string s

def stringifiedItems : List Json → List JsonDocument
  | [] => []
  | item :: rest => stringified item :: stringifiedItems rest

def stringifiedFields : List (String × Json) → JsonDocument.Members
  | [] => []
  | (name, value) :: rest => (name, stringified value) :: stringifiedFields rest

end

theorem parsedItems_eq_map (items : List Json) : parsedItems items = items.map parsed := by
  induction items with
  | nil => rfl
  | cons item rest ih => rw [parsedItems, ih, List.map_cons]

theorem parsedFields_eq_map (fields : List (String × Json)) :
    parsedFields fields = fields.map fun field => (field.1, field.2.parsed) := by
  induction fields with
  | nil => rfl
  | cons field rest ih => rw [parsedFields, ih, List.map_cons]

theorem stringifiedItems_eq_map (items : List Json) :
    stringifiedItems items = items.map stringified := by
  induction items with
  | nil => rfl
  | cons item rest ih => rw [stringifiedItems, ih, List.map_cons]

theorem stringifiedFields_eq_map (fields : List (String × Json)) :
    stringifiedFields fields = fields.map fun field => (field.1, field.2.stringified) := by
  induction fields with
  | nil => rfl
  | cons field rest ih => rw [stringifiedFields, ih, List.map_cons]

end Json

end TcoCalculator
