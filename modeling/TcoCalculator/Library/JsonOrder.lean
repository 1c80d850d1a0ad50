/-
The order of members in a JSON document: what a reader that goes by names makes of
one does not depend on it.
-/
import TcoCalculator.Library.JsonDocument

namespace TcoCalculator.JsonDocument

variable {α β : Type}

def nameOrder (a b : String × α) : Prop := a.1 ≤ b.1

instance : DecidableRel (nameOrder (α := α)) := fun a b => inferInstanceAs (Decidable (a.1 ≤ b.1))

mutual

/-- The document with the members of every object in the order of their names.  Those of
one name keep their order: it says which of them counts. -/
def sorted : JsonDocument → JsonDocument
  | array items => array (sortedItems items)
  | object members => object (sortedMembers members)
  | null => null
  | bool b => bool b
  | number text => number text
  | string s => string s

def sortedItems : List JsonDocument → List JsonDocument
  | [] => []
  | item :: rest => sorted item :: sortedItems rest

def sortedMembers : Members → Members
  | [] => []
  | (name, value) :: rest => (sortedMembers rest).orderedInsert nameOrder (name, sorted value)

end

/-! ### Sorted members -/

theorem sortedItems_eq_map (items : List JsonDocument) : sortedItems items = items.map sorted := by
  induction items with
  | nil => rfl
  | cons item rest ih => rw [sortedItems, ih, List.map_cons]

/-- The members, each with its value sorted. -/
def mapSorted (members : Members) : Members :=
  members.map fun member => (member.1, member.2.sorted)

theorem sortedMembers_eq_insertionSort (members : Members) :
    sortedMembers members = (mapSorted members).insertionSort nameOrder := by
  induction members with
  | nil => rfl
  | cons member rest ih =>
      rw [sortedMembers, ih]
      rfl

theorem sortedMembers_perm (members : Members) :
    (sortedMembers members).Perm (mapSorted members) := by
  rw [sortedMembers_eq_insertionSort]
  exact List.perm_insertionSort _ _

theorem ofName_orderedInsert (name : String) (member : String × α) (members : List (String × α)) :
    ofName name (members.orderedInsert nameOrder member) = ofName name (member :: members) := by
  induction members with
  | nil => rfl
  | cons head rest ih =>
      by_cases hle : nameOrder member head
      · rw [List.orderedInsert_cons_of_le _ _ hle]
      · rw [List.orderedInsert_of_not_le _ _ hle]
        have hcons : ofName name (head :: rest.orderedInsert nameOrder member) =
            ofName name (head :: member :: rest) := by
          simp only [ofName, List.filter_cons] at ih ⊢
          rw [ih]
        rw [hcons]
        -- The two that change places differ in name, so that one at most has this one.
        have hne : member.1 ≠ head.1 := fun heq => hle (le_of_eq heq)
        by_cases hhead : head.1 = name
        · have hmember : member.1 ≠ name := fun heq => hne (heq.trans hhead.symm)
          simp [ofName, hhead, hmember]
        · simp [ofName, List.filter_cons, hhead]

theorem ofName_sortedMembers (name : String) (members : Members) :
    ofName name (sortedMembers members) = mapSorted (ofName name members) := by
  induction members with
  | nil => rfl
  | cons member rest ih =>
      obtain ⟨head, value⟩ := member
      rw [sortedMembers, ofName_orderedInsert]
      by_cases hname : head = name
      · subst hname
        simpa [ofName, mapSorted] using ih
      · simpa [ofName, mapSorted, hname] using ih

theorem lookup_sortedMembers (name : String) (members : Members) :
    (sortedMembers members).lookup name = (members.lookup name).map sorted := by
  rw [lookup_eq_ofName, lookup_eq_ofName, ofName_sortedMembers]
  cases ofName name members with
  | nil => rfl
  | cons member rest => rfl

/-- Where no name is repeated any order of the members is the same document. -/
theorem sorted_object_of_perm {members members' : Members} (hperm : members.Perm members')
    (hnodup : (members.map Prod.fst).Nodup) :
    (object members).sorted = (object members').sorted := by
  rw [sorted, sorted, sortedMembers_eq_insertionSort, sortedMembers_eq_insertionSort]
  congr 1
  refine Sorting.insertionSort_eq_of_perm (fun a b : String × JsonDocument => le_total a.1 b.1)
    (fun _ _ _ hab hbc => le_trans hab hbc) (hperm.map _) fun a ha b hb hab hba => ?_
  have hnames : ((mapSorted members).map Prod.fst).Nodup := by
    simpa [mapSorted, List.map_map, Function.comp_def] using hnodup
  exact List.inj_on_of_nodup_map hnames ha hb (le_antisymm hab hba)

/-! ### Reading a sorted document -/

/-- A reader that makes the same of a document and of its sorted one. -/
def Steady (read : JsonDocument → Option α) : Prop :=
  ∀ document a, read document = some a → read document.sorted = some a

theorem Steady.asString : Steady asString := by
  intro document a h
  cases document <;> exact h

theorem Steady.asOptional : Steady asOptional := by
  intro document a h
  cases document <;> exact h

theorem asMembers_sorted {document : JsonDocument} {members : Members}
    (h : document.asMembers = some members) :
    document.sorted.asMembers = some (sortedMembers members) := by
  cases document with
  | object found =>
      cases h
      rfl
  | _ => cases h

theorem lookup_zip_map_sorted (names : List String) (items : List JsonDocument) (name : String) :
    (names.zip (items.map sorted)).lookup name = ((names.zip items).lookup name).map sorted := by
  induction names generalizing items with
  | nil => rfl
  | cons head rest ih =>
      cases items with
      | nil => rfl
      | cons item others =>
          simp only [List.map_cons, List.zip_cons_cons, List.lookup_cons, ih]
          cases name == head <;> rfl

theorem fields_sorted {names : List String} {needed : Nat} {document : JsonDocument}
    {get : String → Option JsonDocument} (h : fields names needed document = some get) :
    fields names needed document.sorted = some fun name => (get name).map sorted := by
  cases document with
  | array items =>
      simp only [fields, Option.ite_none_right_eq_some, Option.some.injEq] at h
      obtain ⟨hlength, rfl⟩ := h
      simp [sorted, sortedItems_eq_map, fields, hlength, lookup_zip_map_sorted]
  | object members =>
      simp only [fields, Option.ite_none_right_eq_some, Option.some.injEq] at h
      obtain ⟨hnodup, rfl⟩ := h
      have hnames : ((sortedMembers members).map Prod.fst).Perm (members.map Prod.fst) := by
        simpa [mapSorted, Function.comp_def] using (sortedMembers_perm members).map Prod.fst
      have hsorted := (hnames.filter fun name => name ∈ names).nodup_iff.mpr hnodup
      simp only [sorted, fields, if_pos hsorted, lookup_sortedMembers]
  | _ => cases h

/-- A reader of fields that makes the same of them when their values are sorted. -/
def SteadyFields (read : (String → Option JsonDocument) → Option α) : Prop :=
  ∀ get a, read get = some a → read (fun name => (get name).map sorted) = some a

theorem SteadyFields.pure (a : α) : SteadyFields fun _ => some a := fun _ _ h => h

theorem SteadyFields.bind {read : (String → Option JsonDocument) → Option α}
    {next : α → (String → Option JsonDocument) → Option β} (hread : SteadyFields read)
    (hnext : ∀ a, SteadyFields (next a)) :
    SteadyFields fun get => (read get).bind fun a => next a get := by
  intro get b h
  obtain ⟨a, ha, hb⟩ := Option.bind_eq_some_iff.mp h
  simp only [hread get a ha, Option.bind_some, hnext a get b hb]

theorem SteadyFields.required {read : JsonDocument → Option α} (hread : Steady read)
    (name : String) : SteadyFields fun get => required read get name := by
  intro get a h
  obtain ⟨value, hvalue, ha⟩ := Option.bind_eq_some_iff.mp h
  simp [JsonDocument.required, hvalue, hread value a ha]

theorem SteadyFields.withDefault {read : JsonDocument → Option α} (hread : Steady read)
    (fallback : α) (name : String) :
    SteadyFields fun get => withDefault read fallback get name := by
  intro get a h
  simp only [JsonDocument.withDefault] at h ⊢
  cases hvalue : get name with
  | none => simpa [hvalue] using h
  | some value => exact hread value a (by simpa [hvalue] using h)

theorem SteadyFields.optional (name : String) : SteadyFields fun get => optional get name :=
  .withDefault .asOptional none name

theorem Steady.fields {names : List String} {needed : Nat}
    {read : (String → Option JsonDocument) → Option α} (hread : SteadyFields read) :
    Steady fun document => (fields names needed document).bind read := by
  intro document a h
  obtain ⟨get, hget, ha⟩ := Option.bind_eq_some_iff.mp h
  simp only [fields_sorted hget, Option.bind_some, hread get a ha]

/-! ### Members read one by one -/

variable {read : String → JsonDocument → Option α}

theorem readEach_cons_eq_some {name : String} {value : JsonDocument} {rest : Members}
    {entries : List (String × α)} :
    readEach read ((name, value) :: rest) = some entries ↔
      ∃ first, read name value = some first ∧ ∃ others, readEach read rest = some others ∧
        entries = (name, first) :: others := by
  simp only [readEach, Option.bind_eq_bind, Option.bind_eq_some_iff, Option.pure_def,
    Option.some.injEq, eq_comm (a := entries)]

theorem readEach_cons {name : String} {value : JsonDocument} {rest : Members} {first : α}
    {others : List (String × α)} (hfirst : read name value = some first)
    (hothers : readEach read rest = some others) :
    readEach read ((name, value) :: rest) = some ((name, first) :: others) :=
  readEach_cons_eq_some.mpr ⟨first, hfirst, others, hothers, rfl⟩

theorem mem_readEach {members : Members} {entries : List (String × α)}
    (h : readEach read members = some entries) {name : String} {a : α} :
    (name, a) ∈ entries ↔ ∃ value, (name, value) ∈ members ∧ read name value = some a := by
  induction members generalizing entries with
  | nil =>
      cases h
      simp
  | cons member rest ih =>
      obtain ⟨head, value⟩ := member
      obtain ⟨first, hfirst, others, hothers, rfl⟩ := readEach_cons_eq_some.mp h
      constructor
      · intro hmem
        cases List.mem_cons.mp hmem with
        | inl heq =>
            cases heq
            exact ⟨value, List.mem_cons_self, hfirst⟩
        | inr hrest =>
            obtain ⟨found, hfound, ha⟩ := (ih hothers).mp hrest
            exact ⟨found, List.mem_cons_of_mem _ hfound, ha⟩
      · rintro ⟨found, hfound, ha⟩
        cases List.mem_cons.mp hfound with
        | inl heq =>
            cases heq
            rw [Option.some.inj (hfirst.symm.trans ha)]
            exact List.mem_cons_self
        | inr hrest => exact List.mem_cons_of_mem _ ((ih hothers).mpr ⟨found, hrest, ha⟩)

theorem readEach_ofName {members : Members} {entries : List (String × α)}
    (h : readEach read members = some entries) (name : String) :
    readEach read (ofName name members) = some (ofName name entries) := by
  induction members generalizing entries with
  | nil =>
      cases h
      rfl
  | cons member rest ih =>
      obtain ⟨head, value⟩ := member
      obtain ⟨first, hfirst, others, hothers, rfl⟩ := readEach_cons_eq_some.mp h
      by_cases hname : head = name
      · subst hname
        have hrest := ih hothers
        simp only [ofName] at hrest ⊢
        simp [readEach, hfirst, hrest]
      · simpa [ofName, hname] using ih hothers

theorem readEach_perm {members members' : Members} {entries : List (String × α)}
    (hperm : members.Perm members') (h : readEach read members = some entries) :
    ∃ entries', readEach read members' = some entries' ∧ entries'.Perm entries := by
  induction hperm generalizing entries with
  | nil => exact ⟨entries, h, .refl _⟩
  | cons member hrest ih =>
      obtain ⟨first, hfirst, others, hothers, rfl⟩ := readEach_cons_eq_some.mp h
      obtain ⟨others', hothers', hperm⟩ := ih hothers
      exact ⟨_, readEach_cons hfirst hothers', hperm.cons _⟩
  | swap a b rest =>
      obtain ⟨first, hfirst, others, hothers, rfl⟩ := readEach_cons_eq_some.mp h
      obtain ⟨second, hsecond, last, hlast, rfl⟩ := readEach_cons_eq_some.mp hothers
      exact ⟨_, readEach_cons hsecond (readEach_cons hfirst hlast), .swap _ _ _⟩
  | trans _ _ ih₁ ih₂ =>
      obtain ⟨middle, hmiddle, hperm₁⟩ := ih₁ h
      obtain ⟨entries', hentries', hperm₂⟩ := ih₂ hmiddle
      exact ⟨entries', hentries', hperm₂.trans hperm₁⟩

theorem readEach_mapSorted {R : α → α → Prop}
    (hread : ∀ name value a, read name value = some a →
      ∃ a', read name value.sorted = some a' ∧ R a' a)
    {members : Members} {entries : List (String × α)}
    (h : readEach read members = some entries) :
    ∃ entries', readEach read (mapSorted members) = some entries' ∧
      List.Forall₂ (fun entry' entry => entry'.1 = entry.1 ∧ R entry'.2 entry.2)
        entries' entries := by
  induction members generalizing entries with
  | nil =>
      cases h
      exact ⟨[], rfl, .nil⟩
  | cons member rest ih =>
      obtain ⟨head, value⟩ := member
      obtain ⟨first, hfirst, others, hothers, rfl⟩ := readEach_cons_eq_some.mp h
      obtain ⟨first', hfirst', hR⟩ := hread head value first hfirst
      obtain ⟨others', hothers', hrest⟩ := ih hothers
      exact ⟨_, readEach_cons hfirst' hothers', .cons ⟨rfl, hR⟩ hrest⟩

theorem readEach_mapSorted_eq (hread : ∀ name, Steady (read name)) {members : Members}
    {entries : List (String × α)} (h : readEach read members = some entries) :
    readEach read (mapSorted members) = some entries := by
  induction members generalizing entries with
  | nil => exact h
  | cons member rest ih =>
      obtain ⟨head, value⟩ := member
      obtain ⟨first, hfirst, others, hothers, rfl⟩ := readEach_cons_eq_some.mp h
      exact readEach_cons (hread head value first hfirst) (ih hothers)

theorem ofName_mapSorted (name : String) (members : Members) :
    ofName name (mapSorted members) = mapSorted (ofName name members) := by
  simp [ofName, mapSorted, List.filter_map, Function.comp_def]

/-- The same entries, those of one name in the same order. -/
theorem readEach_sortedMembers {members : Members} {entries : List (String × α)}
    (h : readEach read (mapSorted members) = some entries) :
    ∃ entries', readEach read (sortedMembers members) = some entries' ∧ entries'.Perm entries ∧
      ∀ name, ofName name entries' = ofName name entries := by
  obtain ⟨entries', hentries', hperm⟩ := readEach_perm (sortedMembers_perm members).symm h
  refine ⟨entries', hentries', hperm, fun name => ?_⟩
  have hsorted := readEach_ofName hentries' name
  rw [ofName_sortedMembers, ← ofName_mapSorted, readEach_ofName h name] at hsorted
  exact (Option.some.inj hsorted).symm

theorem ofName_kept (name : String) (entries : List (String × Option α)) :
    ofName name (kept entries) = kept (ofName name entries) := by
  induction entries with
  | nil => rfl
  | cons entry rest ih =>
      obtain ⟨head, value⟩ := entry
      simp only [ofName, kept] at ih ⊢
      cases value <;> by_cases hname : head = name <;> simp [hname, ih]

theorem Steady.readMap {read : JsonDocument → Option α} (hread : Steady read) :
    Steady (readMap read) := by
  intro document map h
  obtain ⟨members, hmembers, h⟩ := Option.bind_eq_some_iff.mp h
  obtain ⟨entries, hentries, hmap⟩ := Option.bind_eq_some_iff.mp h
  obtain ⟨entries', hentries', -, hnames⟩ :=
    readEach_sortedMembers (readEach_mapSorted_eq (fun _ => hread) hentries)
  cases hmap
  simp [JsonDocument.readMap, asMembers_sorted hmembers, hentries', btreeMap_congr hnames]

/-! ### Values that are kept as they are -/

variable {library : JsonLibrary}

theorem toEntries_eq_readEach (members : Members) :
    toEntries library members = readEach (fun _ => toValue library) members := by
  induction members with
  | nil => rfl
  | cons member rest ih =>
      obtain ⟨name, value⟩ := member
      rw [toEntries, readEach, ih]

mutual

theorem toValue_sorted : ∀ (document : JsonDocument) {value : JsonDocument},
    toValue library document = some value → toValue library document.sorted = some value
  | array items, _, h => by
      obtain ⟨values, hvalues, rfl⟩ := Option.map_eq_some_iff.mp h
      simp [sorted, toValue, toItems_sorted items hvalues]
  | object members, _, h => by
      obtain ⟨entries, hentries, rfl⟩ := Option.map_eq_some_iff.mp h
      have hmapped := toEntries_mapSorted members hentries
      rw [toEntries_eq_readEach] at hmapped
      obtain ⟨entries', hentries', -, hnames⟩ := readEach_sortedMembers hmapped
      simp [sorted, toValue, toEntries_eq_readEach, hentries', btreeMap_congr hnames]
  | null, _, h => h
  | bool _, _, h => h
  | number _, _, h => h
  | string _, _, h => h

theorem toItems_sorted : ∀ (items : List JsonDocument) {values : List JsonDocument},
    toItems library items = some values → toItems library (sortedItems items) = some values
  | [], _, h => h
  | item :: rest, _, h => by
      simp only [toItems, Option.bind_eq_bind, Option.bind_eq_some_iff, Option.pure_def] at h
      obtain ⟨first, hfirst, others, hothers, heq⟩ := h
      simp [sortedItems, toItems, toValue_sorted item hfirst, toItems_sorted rest hothers, heq]

theorem toEntries_mapSorted : ∀ (members : Members) {entries : Members},
    toEntries library members = some entries →
      toEntries library (mapSorted members) = some entries
  | [], _, h => h
  | (name, value) :: rest, _, h => by
      simp only [toEntries, Option.bind_eq_bind, Option.bind_eq_some_iff, Option.pure_def] at h
      obtain ⟨first, hfirst, others, hothers, heq⟩ := h
      have hrest := toEntries_mapSorted rest hothers
      simp only [mapSorted] at hrest
      simp [mapSorted, toEntries, toValue_sorted value hfirst, hrest, heq]

end

theorem Steady.valueText (library : JsonLibrary) : Steady (valueText library) := by
  intro document text h
  obtain ⟨value, hvalue, htext⟩ := Option.bind_eq_some_iff.mp h
  simpa [JsonDocument.valueText, toValue_sorted document hvalue] using htext

end TcoCalculator.JsonDocument
