/-
The preview of a patch is exact: its changes are all the differences the patch makes,
and setting them turns the project before into the one afterwards.
-/
import TcoCalculator.Assistant.ProjectPatchMeaning

namespace TcoCalculator.Assistant

open Json

/-! ### Pointers -/

/-- Each tilde of the text starts an escape. -/
def wellEscaped : List Char → Bool
  | '~' :: '0' :: rest => wellEscaped rest
  | '~' :: '1' :: rest => wellEscaped rest
  | '~' :: _ => false
  | _ :: rest => wellEscaped rest
  | [] => true

/-- A pointer of RFC 6901: empty, or reference tokens each behind a slash. -/
def IsPointer (pointer : String) : Prop :=
  (pointer = "" ∨ pointer.toList.head? = some '/') ∧ wellEscaped pointer.toList = true

theorem wellEscaped_escapeToken (token rest : List Char) :
    wellEscaped (escapeToken token ++ rest) = wellEscaped rest := by
  induction token with
  | nil => rfl
  | cons c token ih =>
      rw [escapeToken_cons, List.append_assoc]
      by_cases htilde : c = '~'
      · rw [if_pos htilde]
        exact ih
      · by_cases hslash : c = '/'
        · rw [if_neg htilde, if_pos hslash]
          exact ih
        · rw [if_neg htilde, if_neg hslash, List.singleton_append, wellEscaped, ih]
          · exact fun _ h => absurd h htilde
          · exact fun _ h => absurd h htilde
          · exact fun h => absurd h htilde

theorem isPointer_pointerText (path : List String) : IsPointer (pointerText path) := by
  rw [IsPointer, pointerText, String.toList_ofList]
  constructor
  · cases path with
    | nil => exact .inl rfl
    | cons token path => exact .inr rfl
  · induction path with
    | nil => rfl
    | cons token path ih =>
        rw [pointerChars, List.flatMap_cons, ← pointerChars, List.cons_append, wellEscaped,
          wellEscaped_escapeToken, ih]
        · exact fun _ h => absurd h (by decide)
        · exact fun _ h => absurd h (by decide)
        · exact fun h => absurd h (by decide)

/-- A value after the places of pointers are set, all at once; a place without a value
is removed. -/
def setPointers (value : Json) (settings : List (String × Option Json)) : Option Json :=
  setAll value (settings.filterMap fun setting =>
    (pointerTokens setting.1).map (·, setting.2))

/-! ### Exact changes -/

/-- The changes are the differences between two values, each said once. -/
structure AreExact (before after : Json) (changes : List ProjectPatchChange) : Prop where
  pointers : ∀ change ∈ changes, IsPointer change.pointer
  distinct : (changes.map ProjectPatchChange.pointer).Nodup
  /-- No reference tokens of a pointer start those of another one. -/
  apart : changes.Pairwise fun change change' => ∀ path path',
    pointerTokens change.pointer = some path → pointerTokens change'.pointer = some path' →
      ¬ path <+: path' ∧ ¬ path' <+: path
  values : ∀ change ∈ changes, change.before = before.pointer change.pointer ∧
    change.after = after.pointer change.pointer
  /-- A place that differs lies at or under exactly one pointer. -/
  differing : ∀ path, (atPath (some before) path).map head ≠ (atPath (some after) path).map head →
    ∃! change, change ∈ changes ∧
      ∃ listed, pointerTokens change.pointer = some listed ∧ listed <+: path
  setting : Same (setPointers before (changes.map fun change => (change.pointer, change.after)))
    (some after)

section Exact

variable {before after : Json} {paths : List (List String)}

theorem areExact_of_listing (h : Listing (some before) (some after) paths) :
    AreExact before after (paths.map (changeAt "" (some before) (some after))) where
  pointers := by
    intro change hchange
    obtain ⟨path, -, rfl⟩ := List.mem_map.mp hchange
    rw [pointer_changeAt]
    exact isPointer_pointerText path
  distinct := by
    rw [List.map_map]
    refine h.nodup.map fun path path' heq => ?_
    rw [Function.comp_apply, Function.comp_apply, pointer_changeAt, pointer_changeAt] at heq
    have htokens := congrArg pointerTokens heq
    rw [pointerTokens_pointerText, pointerTokens_pointerText] at htokens
    exact Option.some.inj htokens
  apart := by
    refine List.pairwise_map.mpr (h.pairwise.imp fun {path path'} hapart tokens tokens' => ?_)
    rw [pointer_changeAt, pointer_changeAt, pointerTokens_pointerText, pointerTokens_pointerText]
    rintro ⟨rfl⟩ ⟨rfl⟩
    exact hapart
  values := by
    intro change hchange
    obtain ⟨path, -, rfl⟩ := List.mem_map.mp hchange
    rw [pointer_changeAt, pointer_pointerText, pointer_pointerText]
    exact ⟨rfl, rfl⟩
  differing := by
    intro path hne
    obtain ⟨listed, hstarts, hdiffers⟩ := exists_differs hne
    refine ⟨changeAt "" (some before) (some after) listed,
      ⟨List.mem_map_of_mem ((h.mem_iff listed).mpr hdiffers), listed, ?_, hstarts⟩, ?_⟩
    · rw [pointer_changeAt, pointerTokens_pointerText]
    · rintro change ⟨hchange, tokens, htokens, hstarts'⟩
      obtain ⟨listed', hlisted', rfl⟩ := List.mem_map.mp hchange
      rw [pointer_changeAt, pointerTokens_pointerText] at htokens
      obtain rfl := Option.some.inj htokens
      rw [((h.mem_iff listed').mp hlisted').unique hstarts' hdiffers hstarts]
  setting := by
    have hsettings : ((paths.map (changeAt "" (some before) (some after))).map
        fun change => (change.pointer, change.after)).filterMap (fun setting =>
          (pointerTokens setting.1).map (·, setting.2)) =
        paths.map fun path => (path, atPath (some after) path) := by
      rw [List.map_map, List.filterMap_map]
      refine List.filterMap_eq_map_iff_forall_eq_some.mpr fun path _ => ?_
      rw [Function.comp_apply, Function.comp_apply, pointer_changeAt, pointerTokens_pointerText]
      rfl
    rw [setPointers, hsettings]
    refine setAll_same before (some after) _ ⟨?_, ?_⟩
    · rw [List.map_map]
      simpa [Function.comp_def] using h
    · intro setting hsetting
      obtain ⟨path, -, rfl⟩ := List.mem_map.mp hsetting
      rfl

end Exact

/-! ### The preview of a patch -/

theorem addChanges_eq_error {new changes : List ProjectPatchChange} :
    addChanges new changes = .error () ↔ maxProposalChanges < changes.length + new.length := by
  rw [addChanges]
  split_ifs with hmany
  · exact iff_of_true rfl hmany
  · exact iff_of_false (fun h => by cases h) hmany

section Preview

variable {D : Type} [DecimalArith D]

/-- What the preview of a patch says of the project before and afterwards. -/
structure PreviewIsExact (base : EditableProject D) (patch : ProjectPatch D) : Prop where
  empty_iff : projectPatchChanges base (patch.apply base) patch = .ok [] ↔
    Same (some (ProjectJson.editable base)) (some (ProjectJson.editable (patch.apply base)))
  exact : ∀ changes, projectPatchChanges base (patch.apply base) patch = .ok changes →
    AreExact (ProjectJson.editable base) (ProjectJson.editable (patch.apply base)) changes
  error_iff : projectPatchChanges base (patch.apply base) patch = .error () ↔
    maxProposalChanges < {path | Differs (some (ProjectJson.editable base))
      (some (ProjectJson.editable (patch.apply base))) path}.ncard

theorem projectPatchChanges_exact (base : EditableProject D) (patch : ProjectPatch D) :
    PreviewIsExact base patch := by
  obtain ⟨paths, hlisting, hchanges⟩ := projectPatchChanges_eq base patch
  constructor
  · have hempty : addChanges (paths.map (changeAt "" (some (ProjectJson.editable base))
        (some (ProjectJson.editable (patch.apply base))))) [] = .ok [] ↔ paths = [] := by
      constructor
      · intro hok
        exact List.map_eq_nil_iff.mp (addChanges_eq_ok hok).symm
      · rintro rfl
        rfl
    rw [hchanges, hempty, same_iff_not_differs, List.eq_nil_iff_forall_not_mem]
    exact forall_congr' fun path => not_congr (hlisting.mem_iff path)
  · intro changes hok
    rw [hchanges] at hok
    rw [addChanges_eq_ok hok, List.nil_append]
    exact areExact_of_listing hlisting
  · rw [hchanges, hlisting.ncard_differs, addChanges_eq_error, List.length_map, List.length_nil,
      Nat.zero_add]

end Preview

end TcoCalculator.Assistant
