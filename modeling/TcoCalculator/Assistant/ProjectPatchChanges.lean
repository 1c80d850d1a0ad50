/-
What a project patch changes, field by field
(project_patch_changes and collect_changes in src/rust/src/assistant/tools.rs).
-/
import Mathlib.Data.List.Sort
import Mathlib.Data.String.Basic
import TcoCalculator.Assistant.ToolInput
import TcoCalculator.Library.JsonUnambiguous

namespace TcoCalculator

namespace Json

/-- A member of an object, or nothing. -/
def member? (name : String) : Json → Option Json
  | .object fields => fields.lookup name
  | _ => none

end Json

namespace Assistant

structure ProjectPatchChange where
  pointer : String
  before : Option Json
  after : Option Json
  deriving DecidableEq

/-- What is done with the value that stands at a pointer afterwards. -/
abbrev Collector :=
  String → Option Json → List ProjectPatchChange → Except Unit (List ProjectPatchChange)

def pushChange (before : Option Json) : Collector := fun pointer after changes =>
  if maxProposalChanges ≤ changes.length then .error ()
  else .ok (changes ++ [⟨pointer, before, after⟩])

/-- Nothing stood at the pointer before. -/
def collectAbsent : Collector := fun pointer after changes =>
  if after = none then .ok changes else pushChange none pointer after changes

def escapePointer (name : String) : String :=
  String.ofList (name.toList.flatMap fun c =>
    if c = '~' then ['~', '0'] else if c = '/' then ['~', '1'] else [c])

/-- The names of both objects, sorted and once each. -/
def memberNames (before after : List (String × Json)) : List String :=
  ((before.map Prod.fst ++ after.map Prod.fst).dedup).insertionSort (· ≤ ·)

def collectScalar (before : Json) : Collector := fun pointer after changes =>
  if after = some before then .ok changes else pushChange (some before) pointer after changes

-- The recursion is on the value before; the value after is looked up on the way.
mutual

def collectFrom : Json → Collector
  | .object before => fun pointer after changes =>
      if after = some (.object before) then .ok changes
      else match after with
        | some (.object members) => (memberNames before members).foldlM (fun changes name =>
            ((memberCollectors before).lookup name).getD collectAbsent
              (pointer ++ "/" ++ escapePointer name) (members.lookup name) changes) changes
        | other => pushChange (some (.object before)) pointer other changes
  | .array before => fun pointer after changes =>
      if after = some (.array before) then .ok changes
      else match after with
        | some (.array items) =>
            (List.range (max before.length items.length)).foldlM (fun changes index =>
              ((itemCollectors before)[index]?).getD collectAbsent
                (pointer ++ "/" ++ toString index) items[index]? changes) changes
        | other => pushChange (some (.array before)) pointer other changes
  | .null => collectScalar .null
  | .bool b => collectScalar (.bool b)
  | .number n => collectScalar (.number n)
  | .string s => collectScalar (.string s)

def memberCollectors : List (String × Json) → List (String × Collector)
  | [] => []
  | (name, value) :: rest => (name, collectFrom value) :: memberCollectors rest

def itemCollectors : List Json → List Collector
  | [] => []
  | item :: rest => collectFrom item :: itemCollectors rest

end

def collectChanges (pointer : String) (before : Option Json) : Option Json →
    List ProjectPatchChange → Except Unit (List ProjectPatchChange) :=
  (before.elim collectAbsent collectFrom) pointer

section Patch

variable {D : Type} [DecimalArith D]

/-- The members a patch names. -/
def ProjectPatch.roots (patch : ProjectPatch D) : List String :=
  (if patch.name.isSome then ["name"] else []) ++
    (if patch.description.isSome then ["description"] else []) ++
    (if patch.settings.isSome then ["settings"] else []) ++
    (if patch.resources.isSome then ["resources"] else [])

def projectPatchChanges (base candidate : EditableProject D) (patch : ProjectPatch D) :
    Except Unit (List ProjectPatchChange) :=
  patch.roots.foldlM (fun changes root =>
    collectChanges ("/" ++ root) ((ProjectJson.editable base).member? root)
      ((ProjectJson.editable candidate).member? root) changes) []

end Patch

end Assistant

end TcoCalculator
