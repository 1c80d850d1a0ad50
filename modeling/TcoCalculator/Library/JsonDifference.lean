/-
The places where two JSON values first differ on the way down, and the value that
results when all these places are set at once.
-/
import Mathlib.Data.List.Dedup
import Mathlib.Data.List.Nodup
import Mathlib.Data.List.Perm.Subperm
import Mathlib.Data.Set.Card
import TcoCalculator.Library.JsonPointer

namespace TcoCalculator.Json

/-! ### Values without an order of members -/

/-- The same stands at every place of two values; members have no order. -/
def Same (value value' : Option Json) : Prop :=
  ∀ path, (atPath value path).map head = (atPath value' path).map head

section Same

variable {value value' value'' : Option Json}

@[refl] theorem Same.refl (value : Option Json) : Same value value := fun _ => rfl

theorem Same.of_eq (h : value = value') : Same value value' := h ▸ .refl value

theorem Same.heads (h : Same value value') : value.map head = value'.map head := h []

theorem Same.child (h : Same value value') (token : String) :
    Same (value.bind (child token)) (value'.bind (Json.child token)) :=
  fun path => h (token :: path)

theorem same_of_children (hheads : value.map head = value'.map head)
    (hchildren : ∀ token, Same (value.bind (child token)) (value'.bind (child token))) :
    Same value value'
  | [] => hheads
  | token :: path => hchildren token path

end Same

/-! ### First differences -/

/-- Two values differ at a place and nowhere on the way to it. -/
def Differs (before after : Option Json) : List String → Prop
  | [] => before.map head ≠ after.map head
  | token :: path => before.map head = after.map head ∧
      Differs (before.bind (child token)) (after.bind (child token)) path

section Differs

variable {before after : Option Json} {path path' : List String}

theorem Differs.heads (h : Differs before after path) :
    (atPath before path).map head ≠ (atPath after path).map head := by
  induction path generalizing before after with
  | nil => exact h
  | cons token path ih => exact ih h.2

/-- A difference lies under the first one on its way. -/
theorem exists_differs (h : (atPath before path).map head ≠ (atPath after path).map head) :
    ∃ listed, listed <+: path ∧ Differs before after listed := by
  induction path generalizing before after with
  | nil => exact ⟨[], List.nil_prefix, h⟩
  | cons token path ih =>
      by_cases hheads : before.map head = after.map head
      · obtain ⟨listed, hstarts, hlisted⟩ := ih h
        exact ⟨token :: listed, (List.prefix_cons_inj token).mpr hstarts, hheads, hlisted⟩
      · exact ⟨[], List.nil_prefix, hheads⟩

/-- No first difference lies under another one. -/
theorem Differs.eq_of_starts (h : Differs before after path) (h' : Differs before after path')
    (hstarts : path <+: path') : path = path' := by
  induction path generalizing before after path' with
  | nil =>
      cases path' with
      | nil => rfl
      | cons token path' => exact absurd h'.1 h
  | cons token path ih =>
      cases path' with
      | nil => exact absurd hstarts.length_le (by simp)
      | cons token' path' =>
          obtain ⟨rfl, hrest⟩ := List.cons_prefix_cons.mp hstarts
          rw [ih h.2 h'.2 hrest]

/-- Of first differences on the way to one place there is one. -/
theorem Differs.unique {listed listed' : List String} (h : Differs before after listed)
    (hstarts : listed <+: path) (h' : Differs before after listed') (hstarts' : listed' <+: path) :
    listed = listed' := by
  rcases List.prefix_or_prefix_of_prefix hstarts hstarts' with hstart | hstart
  · exact h.eq_of_starts h' hstart
  · exact (h'.eq_of_starts h hstart).symm

theorem same_iff_not_differs : Same before after ↔ ∀ path, ¬ Differs before after path := by
  constructor
  · intro h path hdiffers
    exact hdiffers.heads (h path)
  · intro h path
    by_contra hne
    obtain ⟨listed, -, hlisted⟩ := exists_differs hne
    exact h listed hlisted

end Differs

/-- The paths of all first differences, each once. -/
structure Listing (before after : Option Json) (paths : List (List String)) : Prop where
  nodup : paths.Nodup
  mem_iff : ∀ path, path ∈ paths ↔ Differs before after path

section Listing

variable {before after : Option Json}

theorem Listing.same (h : Same before after) : Listing before after [] where
  nodup := List.nodup_nil
  mem_iff path := by
    have hnot := same_iff_not_differs.mp h path
    simp [hnot]

/-- Values of unlike heads differ as a whole and nowhere else. -/
theorem Listing.whole (h : before.map head ≠ after.map head) : Listing before after [[]] where
  nodup := List.nodup_singleton _
  mem_iff path := by
    cases path with
    | nil => exact ⟨fun _ => h, fun _ => List.mem_singleton_self []⟩
    | cons token path =>
        constructor
        · intro hmem
          cases List.mem_singleton.mp hmem
        · intro hdiffers
          exact absurd hdiffers.1 h

/-- Containers of one kind differ where their children do. -/
theorem Listing.children {ι : Type} {before after : Json} {elements : List ι}
    (token : ι → String) (paths : ι → List (List String)) (hhead : before.head = after.head)
    (hnodup : (elements.map token).Nodup)
    (hbelow : ∀ element ∈ elements, Listing (before.child (token element))
      (after.child (token element)) (paths element))
    (helse : ∀ other ∉ elements.map token, before.child other = after.child other) :
    Listing (some before) (some after)
      (elements.flatMap fun element => (paths element).map (token element :: ·)) where
  nodup := by
    rw [List.nodup_flatMap]
    constructor
    · intro element helement
      exact (hbelow element helement).nodup.map (List.cons_injective)
    · refine (List.pairwise_map.mp hnodup).imp ?_
      intro element element' hne path hpath hpath'
      obtain ⟨rest, -, rfl⟩ := List.mem_map.mp hpath
      obtain ⟨rest', -, heq⟩ := List.mem_map.mp hpath'
      exact hne (List.cons.inj heq).1.symm
  mem_iff path := by
    have hheads : (some before).map head = (some after).map head := congrArg some hhead
    rw [List.mem_flatMap]
    constructor
    · rintro ⟨element, helement, hpath⟩
      obtain ⟨rest, hrest, rfl⟩ := List.mem_map.mp hpath
      exact ⟨hheads, ((hbelow element helement).mem_iff rest).mp hrest⟩
    · intro h
      cases path with
      | nil => exact absurd hheads h
      | cons other rest =>
          have hmem : other ∈ elements.map token := by
            by_contra hother
            have hsame : Same (before.child other) (after.child other) :=
              .of_eq (helse other hother)
            exact same_iff_not_differs.mp hsame rest h.2
          obtain ⟨element, helement, rfl⟩ := List.mem_map.mp hmem
          exact ⟨element, helement, List.mem_map.mpr
            ⟨rest, ((hbelow element helement).mem_iff rest).mpr h.2, rfl⟩⟩

variable {paths : List (List String)}

/-- No first difference starts another one. -/
theorem Listing.pairwise (h : Listing before after paths) :
    paths.Pairwise fun path path' => ¬ path <+: path' ∧ ¬ path' <+: path := by
  refine h.nodup.imp_of_mem fun {path path'} hpath hpath' hne => ?_
  have hdiffers := (h.mem_iff path).mp hpath
  have hdiffers' := (h.mem_iff path').mp hpath'
  exact ⟨fun hstarts => hne (hdiffers.eq_of_starts hdiffers' hstarts),
    fun hstarts => hne (hdiffers'.eq_of_starts hdiffers hstarts).symm⟩

theorem Listing.ncard_differs (h : Listing before after paths) :
    {path | Differs before after path}.ncard = paths.length := by
  have hset : {path | Differs before after path} = ↑paths.toFinset := by
    ext path
    rw [Set.mem_ofPred_eq, List.coe_toFinset, Set.mem_ofPred_eq, h.mem_iff]
  rw [hset, Set.ncard_coe_finset, List.toFinset_card_of_nodup h.nodup]

end Listing

/-! ### Setting places -/

/-- Places and the values they are set to; a place without one is removed. -/
abbrev Settings := List (List String × Option Json)

/-- The settings under a token. -/
def Settings.below (token : String) (settings : Settings) : Settings :=
  settings.filterMap fun setting => match setting.1 with
    | [] => none
    | first :: path => if first = token then some (path, setting.2) else none

/-- The child a token names: a present one with the settings under the token, an
absent one as it is set. -/
def setChild (present : Option (Settings → Option Json)) (token : String) (settings : Settings) :
    Option Json :=
  match present with
  | some setChildAll => setChildAll (settings.below token)
  | none => (settings.lookup [token]).join

-- The value itself may be set; else its children are, and new ones follow the old.
mutual

/-- A value after places in it are set or removed, all at once. -/
def setAll : Json → Settings → Option Json
  | .object fields => fun settings =>
      let names := (fields.map Prod.fst ++ settings.filterMap (·.1.head?)).dedup
      (settings.lookup []).getD (some (.object (names.filterMap fun name =>
        (setChild ((memberSetters fields).lookup name) name settings).map (name, ·))))
  | .array items => fun settings =>
      (settings.lookup []).getD (some (.array
        ((List.range (items.length + settings.length)).filterMap fun index =>
          setChild (itemSetters items)[index]? (toString index) settings)))
  | .null => fun settings => (settings.lookup []).getD (some .null)
  | .bool b => fun settings => (settings.lookup []).getD (some (.bool b))
  | .number n => fun settings => (settings.lookup []).getD (some (.number n))
  | .string s => fun settings => (settings.lookup []).getD (some (.string s))

def memberSetters : List (String × Json) → List (String × (Settings → Option Json))
  | [] => []
  | (name, value) :: rest => (name, setAll value) :: memberSetters rest

def itemSetters : List Json → List (Settings → Option Json)
  | [] => []
  | item :: rest => setAll item :: itemSetters rest

end

/-! ### Settings from one value to another -/

/-- Settings of the first differences to what stands there afterwards. -/
structure Settings.Leads (before after : Option Json) (settings : Settings) : Prop where
  listing : Listing before after (settings.map Prod.fst)
  value : ∀ setting ∈ settings, setting.2 = atPath after setting.1

section Leads

variable {before after : Option Json} {settings : Settings} {path : List String} {token : String}

theorem lookup_settings (h : ∀ setting ∈ settings, setting.2 = atPath after setting.1)
    (path : List String) : settings.lookup path =
      if path ∈ settings.map Prod.fst then some (atPath after path) else none := by
  induction settings with
  | nil => rfl
  | cons setting rest ih =>
      have hrest := ih fun other hother => h other (List.mem_cons_of_mem _ hother)
      rw [List.lookup_cons, List.map_cons]
      by_cases hpath : path = setting.1
      · rw [beq_iff_eq.mpr hpath, hpath, if_pos List.mem_cons_self,
          ← h setting List.mem_cons_self]
      · rw [beq_eq_false_iff_ne.mpr hpath, hrest]
        simp only [List.mem_cons, hpath, false_or]

theorem Settings.Leads.lookup_of_differs (h : settings.Leads before after)
    (hdiffers : Differs before after path) : settings.lookup path = some (atPath after path) := by
  rw [lookup_settings h.value, if_pos ((h.listing.mem_iff path).mpr hdiffers)]

theorem Settings.Leads.lookup_of_not (h : settings.Leads before after)
    (hnot : ¬ Differs before after path) : settings.lookup path = none := by
  rw [lookup_settings h.value, if_neg fun hmem => hnot ((h.listing.mem_iff path).mp hmem)]

theorem mem_below {value : Option Json} :
    (path, value) ∈ settings.below token ↔ (token :: path, value) ∈ settings := by
  rw [Settings.below, List.mem_filterMap]
  constructor
  · rintro ⟨⟨_ | ⟨first, rest⟩, found⟩, hmem, hsome⟩
    · cases hsome
    · dsimp only at hsome
      split_ifs at hsome with hfirst
      cases hsome
      rw [← hfirst]
      exact hmem
  · intro hmem
    exact ⟨_, hmem, if_pos rfl⟩

theorem map_below_sublist (settings : Settings) (token : String) :
    ((settings.below token).map fun setting => token :: setting.1).Sublist
      (settings.map Prod.fst) := by
  induction settings with
  | nil => exact List.Sublist.slnil
  | cons setting rest ih =>
      obtain ⟨_ | ⟨first, path⟩, value⟩ := setting
      · exact ih.cons _
      · by_cases hfirst : first = token
        · have hbelow : Settings.below token ((first :: path, value) :: rest) =
              (path, value) :: Settings.below token rest :=
            List.filterMap_cons_some (if_pos hfirst)
          rw [hbelow, List.map_cons, List.map_cons, hfirst]
          exact ih.cons_cons _
        · have hbelow : Settings.below token ((first :: path, value) :: rest) =
              Settings.below token rest :=
            List.filterMap_cons_none (if_neg hfirst)
          rw [hbelow]
          exact ih.cons _

/-- The settings under a token lead from child to child. -/
theorem Settings.Leads.below (h : settings.Leads before after)
    (hheads : before.map head = after.map head) (token : String) :
    (settings.below token).Leads (before.bind (child token)) (after.bind (child token)) where
  listing := {
    nodup := by
      have hnodup := (map_below_sublist settings token).nodup h.listing.nodup
      have hmaps : (settings.below token).map (fun setting => token :: setting.1) =
          ((settings.below token).map Prod.fst).map (token :: ·) := (List.map_map ..).symm
      rw [hmaps] at hnodup
      exact hnodup.of_map _
    mem_iff := by
      intro path
      have hmem : path ∈ (settings.below token).map Prod.fst ↔
          token :: path ∈ settings.map Prod.fst := by
        simp only [List.mem_map, Prod.exists, exists_and_right, exists_eq_right, mem_below]
      rw [hmem, h.listing.mem_iff]
      exact and_iff_right hheads }
  value := by
    rintro ⟨path, value⟩ hmem
    exact h.value _ (mem_below.mp hmem)

/-- A child is set to the one afterwards. -/
theorem setChild_same (h : settings.Leads before after) (hheads : before.map head = after.map head)
    {present : Option (Settings → Option Json)}
    (hpresent : ∀ setChildAll, present = some setChildAll → ∀ settings : Settings,
      settings.Leads (before.bind (child token)) (after.bind (child token)) →
      Same (setChildAll settings) (after.bind (child token)))
    (habsent : present = none → before.bind (child token) = none) :
    Same (setChild present token settings) (after.bind (child token)) := by
  cases present with
  | some setChildAll => exact hpresent _ rfl _ (h.below hheads token)
  | none =>
      have hbefore := habsent rfl
      apply Same.of_eq
      dsimp only [setChild]
      cases hafter : after.bind (child token) with
      | none =>
          rw [h.lookup_of_not]
          · rfl
          · rintro ⟨-, hne⟩
            rw [hbefore, hafter] at hne
            exact hne rfl
      | some value =>
          have hdiffers : Differs before after [token] := by
            refine ⟨hheads, ?_⟩
            change (before.bind (child token)).map head ≠ (after.bind (child token)).map head
            rw [hbefore, hafter]
            exact nofun
          rw [h.lookup_of_differs hdiffers]
          exact hafter

end Leads

/-! ### The value that is reached -/

theorem lookup_filterMap_names (value : String → Option Json) (names : List String)
    (token : String) :
    (names.filterMap fun name => (value name).map (name, ·)).lookup token =
      if token ∈ names then value token else none := by
  induction names with
  | nil => rfl
  | cons name rest ih =>
      by_cases htoken : token = name
      · subst htoken
        rw [if_pos List.mem_cons_self]
        cases hvalue : value token with
        | none =>
            rw [List.filterMap_cons_none (by rw [hvalue]; rfl), ih, hvalue, ite_self]
        | some found =>
            rw [List.filterMap_cons_some (by rw [hvalue]; rfl), List.lookup_cons, beq_self_eq_true]
      · have hrest : (if token ∈ rest then value token else none) =
            if token ∈ name :: rest then value token else none := by simp [htoken]
        rw [hrest] at ih
        cases hvalue : value name with
        | none => rw [List.filterMap_cons_none (by rw [hvalue]; rfl), ih]
        | some found =>
            rw [List.filterMap_cons_some (by rw [hvalue]; rfl), List.lookup_cons,
              beq_eq_false_iff_ne.mpr htoken, ih]

/-- Items that are there up to an index and no further. -/
theorem getElem?_filterMap_range {item : Nat → Option Json} {count bound : Nat}
    (hbound : count ≤ bound) (hsome : ∀ index < count, (item index).isSome = true)
    (hnone : ∀ index, count ≤ index → item index = none) (index : Nat) :
    ((List.range bound).filterMap item)[index]? = item index := by
  obtain ⟨more, rfl⟩ := Nat.exists_eq_add_of_le hbound
  have hmore : ((List.range more).map (count + ·)).filterMap item = [] := by
    rw [List.filterMap_eq_nil_iff]
    intro other hother
    obtain ⟨offset, -, rfl⟩ := List.mem_map.mp hother
    exact hnone _ (Nat.le_add_right count offset)
  have hmap : (List.range count).filterMap item =
      (List.range count).map fun other => (item other).getD .null := by
    rw [List.filterMap_eq_map_iff_forall_eq_some]
    intro other hother
    obtain ⟨found, hfound⟩ := Option.isSome_iff_exists.mp (hsome other (List.mem_range.mp hother))
    rw [hfound, Option.getD_some]
  rw [List.range_add, List.filterMap_append, hmore, List.append_nil, hmap, List.getElem?_map]
  by_cases hindex : index < count
  · obtain ⟨found, hfound⟩ := Option.isSome_iff_exists.mp (hsome index hindex)
    rw [List.getElem?_range hindex, Option.map_some, hfound, Option.getD_some]
  · rw [hnone index (Nat.le_of_not_lt hindex), List.getElem?_eq_none (by simpa using hindex)]
    rfl

theorem eq_object_of_head {fields : List (String × Json)} {after : Option Json}
    (h : (some (Json.object fields)).map head = after.map head) :
    ∃ members, after = some (.object members) := by
  rcases after with _ | _ | _ | _ | _ | _ | members
  all_goals first | exact ⟨members, rfl⟩ | cases h

theorem eq_array_of_head {items : List Json} {after : Option Json}
    (h : (some (Json.array items)).map head = after.map head) :
    ∃ others, after = some (.array others) := by
  rcases after with _ | _ | _ | _ | _ | others | _
  all_goals first | exact ⟨others, rfl⟩ | cases h

/-- What is set at the place itself is the value afterwards. -/
theorem Settings.Leads.getD_of_differs {before after : Option Json} {settings : Settings}
    (h : settings.Leads before after) (hheads : before.map head ≠ after.map head)
    (otherwise : Option Json) : (settings.lookup []).getD otherwise = after := by
  have hdiffers : Differs before after [] := hheads
  rw [h.lookup_of_differs hdiffers]
  rfl

theorem Settings.Leads.getD_of_heads {before after : Option Json} {settings : Settings}
    (h : settings.Leads before after) (hheads : before.map head = after.map head)
    (otherwise : Option Json) : (settings.lookup []).getD otherwise = otherwise := by
  have hnot : ¬ Differs before after [] := fun hne => hne hheads
  rw [h.lookup_of_not hnot]
  rfl

/-- A token that is neither a name before nor set names nothing afterwards. -/
theorem lookup_eq_none_of_notMem {fields members : List (String × Json)} {settings : Settings}
    (h : settings.Leads (some (.object fields)) (some (.object members))) {token : String}
    (hnames : token ∉ (fields.map Prod.fst ++ settings.filterMap (·.1.head?)).dedup) :
    members.lookup token = none := by
  rw [List.mem_dedup, List.mem_append, not_or] at hnames
  obtain ⟨hfields, hsettings⟩ := hnames
  have hbefore : fields.lookup token = none := by
    rw [List.lookup_eq_none_iff]
    intro field hfield
    exact bne_iff_ne.mpr fun heq => hfields (List.mem_map.mpr ⟨field, hfield, heq.symm⟩)
  by_contra hafter
  have hdiffers : Differs (some (.object fields)) (some (.object members)) [token] := by
    refine ⟨rfl, ?_⟩
    change (fields.lookup token).map head ≠ (members.lookup token).map head
    rw [hbefore]
    obtain ⟨value, hvalue⟩ := Option.ne_none_iff_exists'.mp hafter
    rw [hvalue]
    exact nofun
  obtain ⟨setting, hmem, hpath⟩ := List.mem_map.mp ((h.listing.mem_iff [token]).mpr hdiffers)
  apply hsettings
  rw [List.mem_filterMap]
  exact ⟨setting, hmem, by rw [hpath]; rfl⟩

/-- Each item beyond the ones before has a setting. -/
theorem length_le_of_leads {items others : List Json} {settings : Settings}
    (h : settings.Leads (some (.array items)) (some (.array others))) :
    others.length ≤ items.length + settings.length := by
  have hsubset : (List.range (others.length - items.length)).map
      (fun offset => [toString (items.length + offset)]) ⊆ settings.map Prod.fst := by
    intro path hpath
    obtain ⟨offset, hoffset, rfl⟩ := List.mem_map.mp hpath
    rw [List.mem_range] at hoffset
    rw [h.listing.mem_iff]
    refine ⟨rfl, ?_⟩
    change ((Json.array items).child (toString _)).map head ≠
      ((Json.array others).child (toString _)).map head
    have hlt : items.length + offset < others.length := by omega
    rw [child_array_toString, child_array_toString, List.getElem?_eq_none (by omega),
      List.getElem?_eq_getElem hlt]
    exact nofun
  have hnodup : ((List.range (others.length - items.length)).map
      (fun offset => [toString (items.length + offset)])).Nodup := by
    refine List.nodup_range.map fun offset offset' heq => ?_
    have hindex := Separated.toString_inj.mp (List.singleton_inj.mp heq)
    omega
  have hlength := (List.subperm_of_subset hnodup hsubset).length_le
  rw [List.length_map, List.length_range, List.length_map] at hlength
  omega

theorem lookup_memberSetters_eq_none {fields : List (String × Json)} {name : String}
    (h : (memberSetters fields).lookup name = none) : fields.lookup name = none := by
  induction fields with
  | nil => rfl
  | cons field rest ih =>
      rw [memberSetters, List.lookup_cons] at h
      rw [List.lookup_cons]
      cases hname : name == field.1 with
      | true => simp [hname] at h
      | false => exact ih (by simpa [hname] using h)

theorem getElem?_itemSetters_eq_none {items : List Json} {index : Nat}
    (h : (itemSetters items)[index]? = none) : items[index]? = none := by
  induction items generalizing index with
  | nil => rfl
  | cons item rest ih =>
      cases index with
      | zero => cases h
      | succ index => exact ih h

/-- Arrays whose items are the same are the same. -/
theorem same_array {items others : List Json}
    (h : ∀ index : Nat, Same items[index]? others[index]?) :
    Same (some (.array items)) (some (.array others)) := by
  refine same_of_children rfl fun token => ?_
  change Same ((Json.array items).child token) ((Json.array others).child token)
  by_cases htoken : ∃ index : Nat, token = toString index
  · obtain ⟨index, rfl⟩ := htoken
    rw [child_array_toString, child_array_toString]
    exact h index
  · have hnone : ∀ items : List Json, (Json.array items).child token = none := fun items =>
      child_array_eq_none fun index _ heq => htoken ⟨index, heq⟩
    rw [hnone, hnone]

theorem eq_of_scalar_head {value : Json} {after : Option Json}
    (h : (some value).map head = after.map head)
    (hscalar : value.head ≠ .array ∧ value.head ≠ .object) : after = some value := by
  cases after with
  | none => cases h
  | some after =>
      have hhead : value.head = after.head := Option.some.inj h
      cases value <;> cases after <;> simp_all [head]

theorem setScalar_same {value : Json} {after : Option Json} {settings : Settings}
    (h : settings.Leads (some value) after)
    (hscalar : value.head ≠ .array ∧ value.head ≠ .object) :
    Same ((settings.lookup []).getD (some value)) after := by
  by_cases hheads : (some value).map head = after.map head
  · rw [h.getD_of_heads hheads]
    exact .of_eq (eq_of_scalar_head hheads hscalar).symm
  · exact .of_eq (h.getD_of_differs hheads _)

mutual

/-- Settings that lead to a value bring it about, by recursion on the value before. -/
theorem setAll_same : (before : Json) → (after : Option Json) → (settings : Settings) →
    settings.Leads (some before) after → Same (setAll before settings) after
  | .object fields, after, settings, h => by
      by_cases hheads : (some (Json.object fields)).map head = after.map head
      · obtain ⟨members, rfl⟩ := eq_object_of_head hheads
        rw [setAll]
        dsimp only
        rw [h.getD_of_heads hheads]
        refine same_of_children rfl fun token => ?_
        change Same (List.lookup token _) _
        rw [lookup_filterMap_names]
        split_ifs with htoken
        · exact setChild_same h hheads
            (fun setChildAll hpresent settings hleads =>
              memberSetters_same fields token setChildAll hpresent _ settings hleads)
            lookup_memberSetters_eq_none
        · exact .of_eq (lookup_eq_none_of_notMem h htoken).symm
      · exact .of_eq (h.getD_of_differs hheads _)
  | .array items, after, settings, h => by
      by_cases hheads : (some (Json.array items)).map head = after.map head
      · obtain ⟨others, rfl⟩ := eq_array_of_head hheads
        rw [setAll]
        dsimp only
        rw [h.getD_of_heads hheads]
        have hitem : ∀ index : Nat,
            Same (setChild (itemSetters items)[index]? (toString index) settings)
              others[index]? := by
          intro index
          rw [← child_array_toString others index]
          refine setChild_same h hheads ?_ ?_
          · intro setChildAll hpresent settings hleads
            change settings.Leads ((Json.array items).child (toString index)) _ at hleads
            rw [child_array_toString] at hleads
            exact itemSetters_same items index setChildAll hpresent _ settings hleads
          · intro habsent
            exact (child_array_toString items index).trans (getElem?_itemSetters_eq_none habsent)
        refine same_array fun index => ?_
        rw [getElem?_filterMap_range (length_le_of_leads h)]
        · exact hitem index
        · intro other hother
          have hheads := (hitem other).heads
          rw [List.getElem?_eq_getElem hother] at hheads
          exact (Option.isSome_map ..).symm.trans (by rw [hheads]; rfl)
        · intro other hother
          have hheads := (hitem other).heads
          rw [List.getElem?_eq_none hother] at hheads
          exact Option.map_eq_none_iff.mp hheads
      · exact .of_eq (h.getD_of_differs hheads _)
  | .null, after, settings, h => setScalar_same h ⟨nofun, nofun⟩
  | .bool b, after, settings, h => setScalar_same h ⟨nofun, nofun⟩
  | .number n, after, settings, h => setScalar_same h ⟨nofun, nofun⟩
  | .string s, after, settings, h => setScalar_same h ⟨nofun, nofun⟩

theorem memberSetters_same : (fields : List (String × Json)) → (name : String) →
    (setChildAll : Settings → Option Json) →
    (memberSetters fields).lookup name = some setChildAll → (after : Option Json) →
    (settings : Settings) → settings.Leads (fields.lookup name) after →
    Same (setChildAll settings) after
  | [], _, _, hpresent, _, _, _ => nomatch hpresent
  | (key, value) :: rest, name, setChildAll, hpresent, after, settings, h => by
      rw [memberSetters, List.lookup_cons] at hpresent
      rw [List.lookup_cons] at h
      cases hname : name == key with
      | true =>
          simp only [hname, Option.some.injEq] at hpresent h
          rw [← hpresent]
          exact setAll_same value after settings h
      | false =>
          simp only [hname] at hpresent h
          exact memberSetters_same rest name setChildAll hpresent after settings h

theorem itemSetters_same : (items : List Json) → (index : Nat) →
    (setChildAll : Settings → Option Json) → (itemSetters items)[index]? = some setChildAll →
    (after : Option Json) → (settings : Settings) → settings.Leads items[index]? after →
    Same (setChildAll settings) after
  | [], _, _, hpresent, _, _, _ => nomatch hpresent
  | item :: _, 0, _, hpresent, after, settings, h => by
      cases hpresent
      exact setAll_same item after settings h
  | _ :: rest, index + 1, setChildAll, hpresent, after, settings, h =>
      itemSetters_same rest index setChildAll hpresent after settings h

end

end TcoCalculator.Json
