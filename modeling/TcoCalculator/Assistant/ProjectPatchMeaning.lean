/-
What the listed changes of a patch say: they are the first differences between the
values before and after, each once, as long as there are not too many.
-/
import Mathlib.Data.List.Dedup
import TcoCalculator.Assistant.ProjectPatchChanges
import TcoCalculator.Library.Fallible
import TcoCalculator.Library.JsonDifference

namespace TcoCalculator.Assistant

open Json

/-! ### Lists of changes -/

theorem pointerText_nil (lead : String) : lead ++ pointerText [] = lead := by
  simp [pointerText, pointerChars]

theorem escapePointer_eq (name : String) :
    (escapePointer name).toList = escapeToken name.toList := by
  simp [escapePointer, escapeToken]

theorem pointerText_cons (lead token : String) (path : List String) :
    lead ++ "/" ++ escapePointer token ++ pointerText path =
      lead ++ pointerText (token :: path) := by
  rw [← String.toList_inj]
  simp [pointerText, pointerChars, escapePointer_eq]

theorem escapePointer_of_plain {name : String} (htilde : '~' ∉ name.toList)
    (hslash : '/' ∉ name.toList) : escapePointer name = name := by
  rw [← String.toList_inj, escapePointer_eq]
  generalize name.toList = token at htilde hslash
  induction token with
  | nil => rfl
  | cons c token ih =>
      simp only [List.mem_cons, not_or] at htilde hslash
      rw [escapeToken_cons, ih htilde.2 hslash.2, if_neg (Ne.symm htilde.1),
        if_neg (Ne.symm hslash.1), List.singleton_append]

theorem escapePointer_index (index : Nat) : escapePointer (toString index) = toString index :=
  escapePointer_of_plain (Separated.notMem_toString (by decide) index)
    (Separated.notMem_toString (by decide) index)

/-- The change at a place under a pointer. -/
def changeAt (pointer : String) (before after : Option Json) (path : List String) :
    ProjectPatchChange :=
  ⟨pointer ++ pointerText path, atPath before path, atPath after path⟩

/-- More changes are listed unless they are too many in all. -/
def addChanges (new changes : List ProjectPatchChange) : Except Unit (List ProjectPatchChange) :=
  if maxProposalChanges < changes.length + new.length then .error () else .ok (changes ++ new)

theorem addChanges_nil {changes : List ProjectPatchChange}
    (h : changes.length ≤ maxProposalChanges) : addChanges [] changes = .ok changes := by
  rw [addChanges, List.length_nil, Nat.add_zero, if_neg (Nat.not_lt.mpr h), List.append_nil]

theorem addChanges_append (first second changes : List ProjectPatchChange) :
    (addChanges first changes >>= addChanges second) = addChanges (first ++ second) changes := by
  unfold addChanges
  by_cases hfirst : maxProposalChanges < changes.length + first.length
  · have hall : maxProposalChanges < changes.length + (first ++ second).length := by
      rw [List.length_append]
      omega
    rw [if_pos hfirst, if_pos hall]
    rfl
  · rw [if_neg hfirst, Fallible.ok_bind, List.length_append, List.length_append, Nat.add_assoc,
      List.append_assoc]

theorem foldlM_congr {ι σ : Type} {elements : List ι} {step step' : σ → ι → Except Unit σ}
    (h : ∀ element ∈ elements, ∀ state, step state element = step' state element) (state : σ) :
    elements.foldlM step state = elements.foldlM step' state := by
  induction elements generalizing state with
  | nil => rfl
  | cons element rest ih =>
      rw [List.foldlM_cons, List.foldlM_cons, h element List.mem_cons_self state]
      exact congrArg _ (funext fun next => ih (fun other hother =>
        h other (List.mem_cons_of_mem _ hother)) next)

/-- A loop that lists the changes of its elements lists them all. -/
theorem foldlM_addChanges {ι : Type} {elements : List ι} {new : ι → List ProjectPatchChange}
    {step : List ProjectPatchChange → ι → Except Unit (List ProjectPatchChange)}
    (hstep : ∀ element ∈ elements, ∀ changes : List ProjectPatchChange,
      changes.length ≤ maxProposalChanges → step changes element = addChanges (new element) changes)
    {changes : List ProjectPatchChange} (h : changes.length ≤ maxProposalChanges) :
    elements.foldlM step changes = addChanges (elements.flatMap new) changes := by
  induction elements generalizing changes with
  | nil => exact (addChanges_nil h).symm
  | cons element rest ih =>
      rw [List.foldlM_cons, hstep element List.mem_cons_self changes h, List.flatMap_cons,
        ← addChanges_append]
      cases hfirst : addChanges (new element) changes with
      | error error => rfl
      | ok next =>
          rw [Fallible.ok_bind, Fallible.ok_bind]
          apply ih fun other hother => hstep other (List.mem_cons_of_mem _ hother)
          unfold addChanges at hfirst
          split at hfirst
          · cases hfirst
          · cases hfirst
            rw [List.length_append]
            omega

/-! ### Collectors -/

/-- A collector lists the first differences from the value it stands for. -/
def Collects (collect : Collector) (before : Option Json) : Prop :=
  ∀ after, ∃ paths, Listing before after paths ∧
    ∀ (pointer : String) (changes : List ProjectPatchChange),
      changes.length ≤ maxProposalChanges →
      collect pointer after changes =
        addChanges (paths.map (changeAt pointer before after)) changes

theorem pushChange_eq (before after : Option Json) (pointer : String)
    (changes : List ProjectPatchChange) :
    pushChange before pointer after changes =
      addChanges ([[]].map (changeAt pointer before after)) changes := by
  rw [List.map_singleton, changeAt, pointerText_nil]
  unfold pushChange addChanges
  rw [List.length_singleton]
  by_cases hfull : maxProposalChanges ≤ changes.length
  · rw [if_pos hfull, if_pos (Nat.lt_succ_of_le hfull)]
  · rw [if_neg hfull, if_neg fun h => hfull (Nat.le_of_lt_succ h)]
    rfl

theorem collects_collectAbsent : Collects collectAbsent none := by
  intro after
  cases after with
  | none => exact ⟨[], .same (.refl none), fun _ _ h => (addChanges_nil h).symm⟩
  | some after =>
      exact ⟨[[]], .whole nofun, fun pointer changes _ => pushChange_eq none _ pointer changes⟩

theorem collects_collectScalar {before : Json}
    (hscalar : before.head ≠ .array ∧ before.head ≠ .object) :
    Collects (collectScalar before) (some before) := by
  intro after
  by_cases hafter : after = some before
  · subst hafter
    refine ⟨[], .same (.refl _), fun pointer changes h => ?_⟩
    rw [collectScalar, if_pos rfl]
    exact (addChanges_nil h).symm
  · refine ⟨[[]], .whole fun hheads => hafter (eq_of_scalar_head hheads hscalar), ?_⟩
    intro pointer changes _
    rw [collectScalar, if_neg hafter]
    exact pushChange_eq _ _ pointer changes

/-- The loop over the children of two containers of one kind. -/
theorem exists_listing_of_children {ι : Type} (before after : Json) (elements : List ι)
    (token : ι → String) {collect : ι → Collector} (hhead : before.head = after.head)
    (hnodup : (elements.map token).Nodup)
    (hcollect : ∀ element, Collects (collect element) (before.child (token element)))
    (helse : ∀ other ∉ elements.map token, before.child other = after.child other) :
    ∃ paths, Listing (some before) (some after) paths ∧
      ∀ (pointer : String) (changes : List ProjectPatchChange),
        changes.length ≤ maxProposalChanges →
        elements.foldlM (fun changes element =>
          collect element (pointer ++ "/" ++ escapePointer (token element))
            (after.child (token element)) changes) changes =
          addChanges (paths.map (changeAt pointer (some before) (some after))) changes := by
  choose paths hlisting hadds using fun element => hcollect element (after.child (token element))
  refine ⟨_, .children token paths hhead hnodup (fun element _ => hlisting element) helse, ?_⟩
  intro pointer changes hchanges
  have hadd := foldlM_addChanges (fun element (_ : element ∈ elements) changes h =>
    hadds element (pointer ++ "/" ++ escapePointer (token element)) changes h) hchanges
  rw [hadd, List.map_flatMap]
  congr 1
  refine List.flatMap_congr fun element _ => ?_
  rw [List.map_map]
  refine List.map_congr_left fun path _ => ?_
  simp only [changeAt, Function.comp_apply, pointerText_cons, atPath, Option.bind_some]

/-- A name of neither object is a member of none. -/
theorem child_eq_of_notMem_memberNames {before after : List (String × Json)} {token : String}
    (h : token ∉ memberNames before after) :
    (Json.object before).child token = (Json.object after).child token := by
  have hnone : ∀ fields : List (String × Json), token ∉ fields.map Prod.fst →
      fields.lookup token = none := by
    intro fields hfields
    rw [List.lookup_eq_none_iff]
    intro field hfield
    exact bne_iff_ne.mpr fun heq => hfields (List.mem_map.mpr ⟨field, hfield, heq.symm⟩)
  simp only [memberNames, List.mem_insertionSort, List.mem_dedup, List.mem_append, not_or] at h
  simp only [child, hnone before h.1, hnone after h.2]

/-- An index of neither list names no item. -/
theorem child_eq_of_notMem_indices {before after : List Json} {token : String}
    (h : token ∉ (List.range (max before.length after.length)).map toString) :
    (Json.array before).child token = (Json.array after).child token := by
  have hne : ∀ index < max before.length after.length, token ≠ toString index :=
    fun index hindex heq =>
      h (List.mem_map.mpr ⟨index, List.mem_range.mpr hindex, heq.symm⟩)
  rw [child_array_eq_none fun index hindex => hne index (lt_max_of_lt_left hindex),
    child_array_eq_none fun index hindex => hne index (lt_max_of_lt_right hindex)]

theorem nodup_memberNames (before after : List (String × Json)) :
    (memberNames before after).Nodup :=
  (List.perm_insertionSort _ _).nodup_iff.mpr (List.nodup_dedup _)

theorem nodup_indices (count : Nat) : ((List.range count).map fun index => toString index).Nodup :=
  List.nodup_range.map fun _ _ h => Separated.toString_inj.mp h

mutual

/-- The collector of a value lists its differences, by recursion on the value. -/
theorem collects_collectFrom : (before : Json) → Collects (collectFrom before) (some before)
  | .object fields => by
      intro after
      by_cases hafter : after = some (.object fields)
      · subst hafter
        refine ⟨[], .same (.refl _), fun pointer changes h => ?_⟩
        simp only [collectFrom, if_true]
        exact (addChanges_nil h).symm
      · by_cases hheads : (some (Json.object fields)).map head = after.map head
        · obtain ⟨members, rfl⟩ := eq_object_of_head hheads
          obtain ⟨paths, hlisting, hadds⟩ := exists_listing_of_children (.object fields)
            (.object members) _ id rfl (by simpa using nodup_memberNames fields members)
            (collects_memberCollectors fields)
            fun token htoken => child_eq_of_notMem_memberNames (by simpa using htoken)
          refine ⟨paths, hlisting, fun pointer changes h => ?_⟩
          simp only [collectFrom, if_neg hafter]
          exact hadds pointer changes h
        · refine ⟨[[]], .whole hheads, fun pointer changes _ => ?_⟩
          simp only [collectFrom, if_neg hafter]
          split
          · exact absurd rfl hheads
          · exact pushChange_eq _ _ pointer changes
  | .array items => by
      intro after
      by_cases hafter : after = some (.array items)
      · subst hafter
        refine ⟨[], .same (.refl _), fun pointer changes h => ?_⟩
        simp only [collectFrom, if_true]
        exact (addChanges_nil h).symm
      · by_cases hheads : (some (Json.array items)).map head = after.map head
        · obtain ⟨others, rfl⟩ := eq_array_of_head hheads
          have hcollect : ∀ index : Nat, Collects (((itemCollectors items)[index]?).getD
              collectAbsent) ((Json.array items).child (toString index)) := by
            intro index
            rw [child_array_toString]
            exact collects_itemCollectors items index
          obtain ⟨paths, hlisting, hadds⟩ := exists_listing_of_children (.array items)
            (.array others) _ (fun index => toString index) rfl (nodup_indices _) hcollect
            fun token htoken => child_eq_of_notMem_indices htoken
          refine ⟨paths, hlisting, fun pointer changes h => ?_⟩
          simp only [collectFrom, if_neg hafter]
          simp only [escapePointer_index, child_array_toString] at hadds
          exact hadds pointer changes h
        · refine ⟨[[]], .whole hheads, fun pointer changes _ => ?_⟩
          simp only [collectFrom, if_neg hafter]
          split
          · exact absurd rfl hheads
          · exact pushChange_eq _ _ pointer changes
  | .null => collects_collectScalar ⟨nofun, nofun⟩
  | .bool _ => collects_collectScalar ⟨nofun, nofun⟩
  | .number _ => collects_collectScalar ⟨nofun, nofun⟩
  | .string _ => collects_collectScalar ⟨nofun, nofun⟩

theorem collects_memberCollectors : (fields : List (String × Json)) → (name : String) →
    Collects (((memberCollectors fields).lookup name).getD collectAbsent) (fields.lookup name)
  | [], _ => collects_collectAbsent
  | (key, value) :: rest, name => by
      simp only [memberCollectors, List.lookup_cons]
      by_cases hname : name == key
      · simp only [hname]
        exact collects_collectFrom value
      · simp only [hname]
        exact collects_memberCollectors rest name

theorem collects_itemCollectors : (items : List Json) → (index : Nat) →
    Collects (((itemCollectors items)[index]?).getD collectAbsent) (items[index]?)
  | [], _ => collects_collectAbsent
  | item :: _, 0 => collects_collectFrom item
  | _ :: rest, index + 1 => collects_itemCollectors rest index

end

theorem collects_collectChanges (before : Option Json) :
    Collects (fun pointer => collectChanges pointer before) before := by
  cases before with
  | none => exact collects_collectAbsent
  | some before => exact collects_collectFrom before

/-! ### The changes of a patch -/

section Patch

variable {D : Type} [DecimalArith D]

omit [DecimalArith D] in
theorem ProjectPatch.mem_roots {patch : ProjectPatch D} {root : String} :
    root ∈ patch.roots ↔ (root = "name" ∧ patch.name.isSome) ∨
      (root = "description" ∧ patch.description.isSome) ∨
      (root = "settings" ∧ patch.settings.isSome) ∨
      (root = "resources" ∧ patch.resources.isSome) := by
  simp [ProjectPatch.roots, and_comm]

/-- A member a patch does not name stays as it was. -/
theorem ProjectPatch.child_apply (patch : ProjectPatch D) (base : EditableProject D)
    {token : String} (htoken : token ∉ patch.roots) :
    (ProjectJson.editable base).child token =
      (ProjectJson.editable (patch.apply base)).child token := by
  simp only [ProjectPatch.mem_roots, not_or, not_and, Bool.not_eq_true,
    Option.isSome_eq_false_iff, Option.isNone_iff_eq_none] at htoken
  obtain ⟨hname, hdescription, hsettings, hresources⟩ := htoken
  simp only [child, ProjectJson.editable, ProjectPatch.apply, List.lookup_cons]
  -- Up to the member of the token the objects are skipped alike; that member the patch leaves.
  split
  · rename_i h
    rw [hname (eq_of_beq h), Option.getD_none]
  split
  · rename_i h
    rw [hdescription (eq_of_beq h), Option.none_or]
  split
  · rename_i h
    rw [hsettings (eq_of_beq h), Option.getD_none]
  split
  · rename_i h
    rw [hresources (eq_of_beq h), Option.getD_none]
  rfl

omit [DecimalArith D] in
theorem ProjectPatch.nodup_roots (patch : ProjectPatch D) : patch.roots.Nodup := by
  unfold ProjectPatch.roots
  split_ifs <;> decide

/-- The changes of a patch are the first differences it makes to the project. -/
theorem projectPatchChanges_eq (base : EditableProject D) (patch : ProjectPatch D) :
    ∃ paths, Listing (some (ProjectJson.editable base))
        (some (ProjectJson.editable (patch.apply base))) paths ∧
      projectPatchChanges base (patch.apply base) patch =
        addChanges (paths.map (changeAt "" (some (ProjectJson.editable base))
          (some (ProjectJson.editable (patch.apply base))))) [] := by
  obtain ⟨paths, hlisting, hadds⟩ := exists_listing_of_children
    (ProjectJson.editable base) (ProjectJson.editable (patch.apply base)) patch.roots id rfl (by simpa using patch.nodup_roots)
    (fun root => collects_collectChanges ((ProjectJson.editable base).child root))
    fun token htoken => patch.child_apply base (by simpa using htoken)
  refine ⟨paths, hlisting, ?_⟩
  rw [← hadds "" [] (Nat.zero_le _)]
  refine foldlM_congr (fun root hroot changes => ?_) []
  have hplain : escapePointer root = root := by
    rcases ProjectPatch.mem_roots.mp hroot with ⟨rfl, -⟩ | ⟨rfl, -⟩ | ⟨rfl, -⟩ | ⟨rfl, -⟩ <;>
      decide
  rw [id, hplain]
  rfl

end Patch

/-- The changes name the values before and after at their pointers, and no place
outside the listed ones differs. -/
structure Describes (before after : Json) (changes : List ProjectPatchChange) : Prop where
  exact : ∀ change ∈ changes, before.pointer change.pointer = change.before ∧
    after.pointer change.pointer = change.after
  elsewhere : ∀ path, (∀ change ∈ changes, ∀ listed,
    pointerTokens change.pointer = some listed → ¬ listed <+: path) →
    (atPath (some before) path).map head = (atPath (some after) path).map head

section Describes

variable {before after : Json} {paths : List (List String)}

theorem pointer_changeAt (path : List String) :
    (changeAt "" (some before) (some after) path).pointer = pointerText path :=
  String.empty_append

theorem describes_of_listing (h : Listing (some before) (some after) paths) :
    Describes before after (paths.map (changeAt "" (some before) (some after))) where
  exact := by
    intro change hchange
    obtain ⟨path, -, rfl⟩ := List.mem_map.mp hchange
    rw [pointer_changeAt, pointer_pointerText, pointer_pointerText]
    exact ⟨rfl, rfl⟩
  elsewhere := by
    intro path hpath
    by_contra hne
    obtain ⟨listed, hstarts, hdiffers⟩ := exists_differs hne
    refine hpath _ (List.mem_map_of_mem ((h.mem_iff listed).mpr hdiffers)) listed ?_ hstarts
    rw [pointer_changeAt, pointerTokens_pointerText]

end Describes

theorem addChanges_eq_ok {new changes result : List ProjectPatchChange}
    (h : addChanges new changes = .ok result) : result = changes ++ new := by
  unfold addChanges at h
  split at h
  · cases h
  · exact (Except.ok.inj h).symm

/-- The changes listed for a patch say exactly what it does to the project. -/
theorem projectPatchChanges_describes {D : Type} [DecimalArith D] {base : EditableProject D}
    {patch : ProjectPatch D} {changes : List ProjectPatchChange}
    (h : projectPatchChanges base (patch.apply base) patch = .ok changes) :
    Describes (ProjectJson.editable base) (ProjectJson.editable (patch.apply base)) changes := by
  obtain ⟨paths, hlisting, heq⟩ := projectPatchChanges_eq base patch
  rw [heq] at h
  rw [addChanges_eq_ok h, List.nil_append]
  exact describes_of_listing hlisting

end TcoCalculator.Assistant
