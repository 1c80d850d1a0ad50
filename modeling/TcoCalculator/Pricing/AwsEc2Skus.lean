/-
What the EC2 dimensions come to for each SKU, in exact arithmetic, and that the
order in which leaves and dimensions come does not matter for it.
-/
import TcoCalculator.Domain.ExactDecimal
import TcoCalculator.Library.Slots
import TcoCalculator.Pricing.AwsEc2
import TcoCalculator.Pricing.SnapshotIdentity

namespace TcoCalculator.AwsEc2

open DecimalArith ExactDecimal Fallible Halt ProviderRows PriceSnapshot

/-! ### Rows of a SKU -/

/-- What all rows of a SKU have to agree on. -/
abbrev Header := String × SoftwareComponent × UInt32 × ℚ × String

def SkuRow.header (row : SkuRow ℚ) : Header :=
  (row.instanceType, row.software, row.sourceVcpu, row.memoryGb, row.sourceUrl)

def SkuComponent.header (component : SkuComponent ℚ) : Header :=
  (component.instanceType, component.software, component.sourceVcpu, component.memoryGb,
    component.sourceUrl)

def skuRows (rows : List (SkuRow ℚ)) (sku : String) : List (SkuRow ℚ) :=
  rows.filter fun row => row.sku = sku

/-- The price of a SKU: the sum of those of its dimensions. -/
def hourlyOf (rows : List (SkuRow ℚ)) (sku : String) : ℚ :=
  ((skuRows rows sku).map SkuRow.price).sum

def Consistent (rows : List (SkuRow ℚ)) : Prop :=
  ∀ row ∈ rows, ∀ other ∈ rows, row.sku = other.sku → row.header = other.header

structure SkuOf (rows : List (SkuRow ℚ)) (sku : String) (component : SkuComponent ℚ) : Prop where
  nonempty : ∃ row ∈ rows, row.sku = sku
  header : ∀ row ∈ rows, row.sku = sku → row.header = component.header
  hourly : component.hourly = hourlyOf rows sku
  meterIds : component.meterIds = sortedUnique ((skuRows rows sku).map SkuRow.rateCode)

structure SkusGathered (rows : List (SkuRow ℚ))
    (components : HashMap String (SkuComponent ℚ)) : Prop where
  absent : ∀ sku, components.lookup sku = none → ∀ row ∈ rows, row.sku ≠ sku
  present : ∀ sku component, components.lookup sku = some component → SkuOf rows sku component

theorem SkusGathered.empty : SkusGathered [] ∅ :=
  ⟨fun _ _ _ hrow => (nomatch hrow), fun _ _ h => (nomatch h)⟩

theorem matchesRow_iff {component : SkuComponent ℚ} {row : SkuRow ℚ} :
    component.matchesRow row = true ↔ row.header = component.header := by
  rw [@eq_comm _ row.header]
  simp only [SkuComponent.matchesRow, SkuRow.header, SkuComponent.header, Bool.and_eq_true,
    beq_iff_eq, value_eq, Prod.mk.injEq, and_assoc]

theorem skuRows_snoc_same (rows : List (SkuRow ℚ)) (row : SkuRow ℚ) :
    skuRows (rows ++ [row]) row.sku = skuRows rows row.sku ++ [row] := by
  simp [skuRows, List.filter_append]

theorem skuRows_snoc_other {row : SkuRow ℚ} {sku : String} (h : row.sku ≠ sku)
    (rows : List (SkuRow ℚ)) : skuRows (rows ++ [row]) sku = skuRows rows sku := by
  simp [skuRows, List.filter_append, h]

theorem skuRows_eq_nil {rows : List (SkuRow ℚ)} {sku : String} :
    skuRows rows sku = [] ↔ ∀ row ∈ rows, row.sku ≠ sku := by
  simp [skuRows, List.filter_eq_nil_iff]

/-- The component a row is added to. -/
structure AddsTo (rows : List (SkuRow ℚ)) (row : SkuRow ℚ) (component : SkuComponent ℚ) :
    Prop where
  header : ∀ other ∈ rows, other.sku = row.sku → other.header = component.header
  hourly : component.hourly = hourlyOf rows row.sku
  meterIds : component.meterIds = sortedUnique ((skuRows rows row.sku).map SkuRow.rateCode)
  fresh : component.header = row.header ∨ ∃ other ∈ rows, other.sku = row.sku

theorem SkusGathered.addsTo {rows : List (SkuRow ℚ)}
    {components : HashMap String (SkuComponent ℚ)} (h : SkusGathered rows components)
    (row : SkuRow ℚ) : AddsTo rows row ((components.lookup row.sku).getD row.fresh) := by
  cases hlookup : components.lookup row.sku with
  | none =>
      have habsent := h.absent row.sku hlookup
      have hnil := skuRows_eq_nil.mpr habsent
      refine ⟨fun other hother hsku => absurd hsku (habsent other hother), ?_, ?_, .inl rfl⟩
      · simp [hourlyOf, hnil, SkuRow.fresh]
      · rw [hnil]
        rfl
  | some component =>
      have hsku := h.present row.sku component hlookup
      exact ⟨hsku.header, hsku.hourly, hsku.meterIds, .inr hsku.nonempty⟩

theorem addRow_eq (components : HashMap String (SkuComponent ℚ)) (row : SkuRow ℚ) :
    addRow components row =
      let component := (components.lookup row.sku).getD row.fresh
      if component.matchesRow row then .ok (components.insert row.sku { component with
        hourly := component.hourly + row.price
        meterIds := addMeter row.rateCode component.meterIds })
      else refuse .conflictingComponent := by
  rfl

theorem SkusGathered.addRow {rows : List (SkuRow ℚ)}
    {components components' : HashMap String (SkuComponent ℚ)} (h : SkusGathered rows components)
    {row : SkuRow ℚ} (hadd : addRow components row = .ok components') :
    SkusGathered (rows ++ [row]) components' := by
  have hadds := h.addsTo row
  rw [addRow_eq] at hadd
  dsimp only at hadd
  split_ifs at hadd with hmatches
  swap
  · cases hadd
  rw [matchesRow_iff] at hmatches
  cases hadd
  constructor
  · intro sku hlookup other hother
    obtain ⟨hsku, hlookup⟩ := HashMap.lookup_insert_eq_none hlookup
    rcases List.mem_append.mp hother with hother | hother
    · exact h.absent sku hlookup other hother
    · rw [List.mem_singleton.mp hother]
      exact Ne.symm hsku
  · intro sku component hlookup
    rcases HashMap.lookup_insert_eq_some hlookup with ⟨rfl, rfl⟩ | ⟨hsku, hlookup⟩
    · refine ⟨⟨row, by simp, rfl⟩, fun other hother hsame => ?_, ?_, ?_⟩
      · rcases List.mem_append.mp hother with hother | hother
        · exact hadds.header other hother hsame
        · rw [List.mem_singleton.mp hother]
          exact hmatches
      · simp only [hadds.hourly, hourlyOf, skuRows_snoc_same, List.map_append, List.sum_append,
          List.map_singleton, List.sum_singleton]
      · simp only [hadds.meterIds, skuRows_snoc_same, addMeter]
        refine sortedUnique_eq_of_mem fun code => ?_
        simp [or_comm]
    · have hold := h.present sku component hlookup
      obtain ⟨old, hmem, hold'⟩ := hold.nonempty
      refine ⟨⟨old, List.mem_append_left _ hmem, hold'⟩, fun other hother hsame => ?_, ?_, ?_⟩
      · rcases List.mem_append.mp hother with hother | hother
        · exact hold.header other hother hsame
        · rw [List.mem_singleton.mp hother] at hsame
          exact absurd hsame.symm hsku
      · rw [hourlyOf, skuRows_snoc_other (Ne.symm hsku)]
        exact hold.hourly
      · rw [skuRows_snoc_other (Ne.symm hsku)]
        exact hold.meterIds

/-- A row that agrees with the earlier ones of its SKU is taken. -/
theorem SkusGathered.exists_addRow {rows : List (SkuRow ℚ)}
    {components : HashMap String (SkuComponent ℚ)} (h : SkusGathered rows components)
    {row : SkuRow ℚ} (hagrees : ∀ other ∈ rows, other.sku = row.sku → other.header = row.header) :
    ∃ components', AwsEc2.addRow components row = .ok components' := by
  have hadds := h.addsTo row
  have hmatches : ((components.lookup row.sku).getD row.fresh).matchesRow row = true := by
    rw [matchesRow_iff]
    rcases hadds.fresh with hfresh | ⟨other, hother, hsku⟩
    · exact hfresh.symm
    · exact (hagrees other hother hsku).symm.trans (hadds.header other hother hsku)
  rw [addRow_eq]
  exact ⟨_, if_pos hmatches⟩

theorem skusGathered_foldlM {seen rows : List (SkuRow ℚ)}
    {components components' : HashMap String (SkuComponent ℚ)} (h : SkusGathered seen components)
    (hrun : rows.foldlM AwsEc2.addRow components = .ok components') :
    SkusGathered (seen ++ rows) components' := by
  refine foldlM_rule (fun done state => SkusGathered (seen ++ done) state) hrun (by simpa using h) ?_
  intro done row state state' _ hdone hadd
  rw [← List.append_assoc]
  exact hdone.addRow hadd

theorem exists_foldlM_addRow {seen rows : List (SkuRow ℚ)}
    {components : HashMap String (SkuComponent ℚ)} (h : SkusGathered seen components)
    (hconsistent : Consistent (seen ++ rows)) :
    ∃ components', rows.foldlM AwsEc2.addRow components = .ok components' := by
  induction rows generalizing seen components with
  | nil => exact ⟨components, rfl⟩
  | cons row rest ih =>
      obtain ⟨next, hadd⟩ := h.exists_addRow fun other hother hsku =>
        hconsistent other (by simp [hother]) row (by simp) hsku
      obtain ⟨components', hrun⟩ := ih (h.addRow hadd) (by
        rwa [List.append_assoc, List.singleton_append])
      exact ⟨components', by rw [List.foldlM_cons, hadd, ok_bind, hrun]⟩

theorem SkusGathered.consistent {rows : List (SkuRow ℚ)}
    {components : HashMap String (SkuComponent ℚ)} (h : SkusGathered rows components) :
    Consistent rows := by
  intro row hrow other hother hsku
  cases hlookup : components.lookup row.sku with
  | none => exact absurd rfl (h.absent _ hlookup row hrow)
  | some component =>
      have hpresent := h.present _ component hlookup
      exact (hpresent.header row hrow rfl).trans (hpresent.header other hother hsku.symm).symm

/-! ### Order -/

theorem skuRows_perm {rows rows' : List (SkuRow ℚ)} (h : rows.Perm rows') (sku : String) :
    (skuRows rows sku).Perm (skuRows rows' sku) :=
  h.filter _

theorem Consistent.perm {rows rows' : List (SkuRow ℚ)} (h : rows.Perm rows')
    (hconsistent : Consistent rows) : Consistent rows' :=
  fun row hrow other hother =>
    hconsistent row (h.mem_iff.mpr hrow) other (h.mem_iff.mpr hother)

/-- Rows in another order come to the same component. -/
theorem SkuOf.unique {rows rows' : List (SkuRow ℚ)} (hperm : rows.Perm rows') {sku : String}
    {component component' : SkuComponent ℚ} (h : SkuOf rows sku component)
    (h' : SkuOf rows' sku component') : component = component' := by
  obtain ⟨row, hrow, hsku⟩ := h.nonempty
  have hheader := (h.header row hrow hsku).symm.trans
    (h'.header row (hperm.mem_iff.mp hrow) hsku)
  have hhourly : component.hourly = component'.hourly := by
    rw [h.hourly, h'.hourly]
    exact ((skuRows_perm hperm sku).map _).sum_eq
  have hmeters : component.meterIds = component'.meterIds := by
    rw [h.meterIds, h'.meterIds]
    exact sortedUnique_eq_of_mem fun code => ((skuRows_perm hperm sku).map _).mem_iff
  cases component
  cases component'
  simp_all [SkuComponent.header]

theorem SkusGathered.toSortedList_eq {rows rows' : List (SkuRow ℚ)} (hperm : rows.Perm rows')
    {components components' : HashMap String (SkuComponent ℚ)} (h : SkusGathered rows components)
    (h' : SkusGathered rows' components') :
    components.toSortedList = components'.toSortedList := by
  refine HashMap.toSortedList_eq_of_lookup fun sku => ?_
  cases hlookup : components.lookup sku with
  | none =>
      cases hlookup' : components'.lookup sku with
      | none => rfl
      | some component' =>
          obtain ⟨row, hrow, hsku⟩ := (h'.present sku component' hlookup').nonempty
          exact absurd hsku (h.absent sku hlookup row (hperm.mem_iff.mpr hrow))
  | some component =>
      have hpresent := h.present sku component hlookup
      cases hlookup' : components'.lookup sku with
      | none =>
          obtain ⟨row, hrow, hsku⟩ := hpresent.nonempty
          exact absurd hsku (h'.absent sku hlookup' row (hperm.mem_iff.mp hrow))
      | some component' =>
          exact congrArg some (hpresent.unique hperm (h'.present sku component' hlookup'))

/-! ### Leaves -/

/-- The dimensions of a leaf for the location. -/
def dimensionsAt (location : String) (payload : Ec2LeafPayload) : Option (List RawDimension) :=
  payload.body.bind fun leaf => leaf.regions.lookup location

def readRow (sourceUrl : String) (dimension : RawDimension) : Option (SkuRow ℚ) :=
  (readDimension sourceUrl dimension).toOption

/-- The supported dimensions of a leaf that can be read. -/
def leafRows (context : Ec2NormalizationContext) (payload : Ec2LeafPayload) : List (SkuRow ℚ) :=
  ((((dimensionsAt context.location payload).getD []).filter isSupported).filterMap
    (readRow payload.sourceUrl))

def rowsOf (context : Ec2NormalizationContext) (leaves : List Ec2LeafPayload) :
    List (SkuRow ℚ) :=
  leaves.flatMap (leafRows context)

/-- Every leaf has the location, and every supported dimension of it can be read. -/
def Readable (context : Ec2NormalizationContext) (payload : Ec2LeafPayload) : Prop :=
  ∃ dimensions, dimensionsAt context.location payload = some dimensions ∧
    ∀ dimension ∈ dimensions.filter isSupported,
      ∃ row, readRow payload.sourceUrl dimension = some row

/-- Dimensions that can be read are added row by row. -/
theorem foldlM_addDimension {sourceUrl : String} {dimensions : List RawDimension}
    (hread : ∀ dimension ∈ dimensions, ∃ row, readRow sourceUrl dimension = some row)
    (components : HashMap String (SkuComponent ℚ)) :
    dimensions.foldlM (addDimension sourceUrl) components =
      (dimensions.filterMap (readRow sourceUrl)).foldlM AwsEc2.addRow components := by
  induction dimensions generalizing components with
  | nil => rfl
  | cons dimension rest ih =>
      obtain ⟨row, hrow⟩ := hread dimension List.mem_cons_self
      have hrest := fun components =>
        ih (fun other hother => hread other (List.mem_cons_of_mem _ hother)) components
      have hadd : addDimension sourceUrl components dimension =
          AwsEc2.addRow components row := by
        rw [addDimension, checked_eq_ok.mpr (toOption_eq_some.mp hrow), ok_bind]
      rw [List.filterMap_cons_some hrow, List.foldlM_cons, List.foldlM_cons, hadd]
      exact bind_congr hrest

theorem readable_of_foldlM_addDimension {sourceUrl : String} {dimensions : List RawDimension}
    {components components' : HashMap String (SkuComponent ℚ)}
    (h : dimensions.foldlM (addDimension sourceUrl) components = .ok components') :
    ∀ dimension ∈ dimensions, ∃ row, readRow sourceUrl dimension = some row := by
  intro dimension hmem
  obtain ⟨_, _, hstep⟩ := foldlM_step_of_mem h hmem
  obtain ⟨row, hrow, -⟩ := bind_eq_ok.mp hstep
  exact ⟨row, toOption_eq_some.mpr (checked_eq_ok.mp hrow)⟩

theorem addLeaf_eq {context : Ec2NormalizationContext} {payload : Ec2LeafPayload}
    (h : Readable context payload) (components : HashMap String (SkuComponent ℚ)) :
    addLeaf context components payload =
      (leafRows context payload).foldlM AwsEc2.addRow components := by
  obtain ⟨dimensions, hdimensions, hread⟩ := h
  obtain ⟨leaf, hleaf, hregion⟩ := Option.bind_eq_some_iff.mp hdimensions
  rw [addLeaf, leafRows, hdimensions, Option.getD_some, ← foldlM_addDimension hread]
  simp only [hleaf, hregion]

theorem readable_of_addLeaf {context : Ec2NormalizationContext} {payload : Ec2LeafPayload}
    {components components' : HashMap String (SkuComponent ℚ)}
    (h : addLeaf context components payload = .ok components') : Readable context payload := by
  rw [addLeaf] at h
  cases hleaf : payload.body with
  | none =>
      simp only [hleaf] at h
      cases h
  | some leaf =>
      simp only [hleaf] at h
      cases hregion : leaf.regions.lookup context.location with
      | none =>
          simp only [hregion] at h
          cases h
      | some dimensions =>
          simp only [hregion] at h
          exact ⟨dimensions, by rw [dimensionsAt, hleaf, Option.bind_some, hregion],
            readable_of_foldlM_addDimension h⟩

/-- The leaves can be read, and the rows of each SKU agree. -/
structure Gatherable (context : Ec2NormalizationContext) (leaves : List Ec2LeafPayload) :
    Prop where
  readable : ∀ payload ∈ leaves, Readable context payload
  consistent : Consistent (rowsOf context leaves)

/-- Then, and only then, the loop over the leaves gathers their SKUs. -/
theorem gathered_of_leaves {context : Ec2NormalizationContext} {leaves : List Ec2LeafPayload}
    {components : HashMap String (SkuComponent ℚ)}
    (h : leaves.foldlM (addLeaf context) ∅ = .ok components) :
    Gatherable context leaves ∧ SkusGathered (rowsOf context leaves) components := by
  have hreadable : ∀ payload ∈ leaves, Readable context payload := fun payload hmem =>
    have ⟨_, _, hstep⟩ := foldlM_step_of_mem h hmem
    readable_of_addLeaf hstep
  have hgathered : SkusGathered (rowsOf context leaves) components := by
    refine foldlM_rule (fun done state => SkusGathered (rowsOf context done) state) h .empty ?_
    intro done payload state state' hmem hdone hstep
    rw [addLeaf_eq (hreadable payload hmem)] at hstep
    have hrows := skusGathered_foldlM hdone hstep
    simpa [rowsOf] using hrows
  exact ⟨⟨hreadable, hgathered.consistent⟩, hgathered⟩

theorem exists_gathered {context : Ec2NormalizationContext} {leaves : List Ec2LeafPayload}
    (h : Gatherable context leaves) :
    ∃ components, leaves.foldlM (addLeaf (D := ℚ) context) ∅ = .ok components := by
  suffices hall : ∀ (rest : List Ec2LeafPayload) (components : HashMap String (SkuComponent ℚ)),
      (∀ payload ∈ rest, Readable context payload) →
      rest.foldlM (addLeaf context) components =
        (rowsOf context rest).foldlM AwsEc2.addRow components by
    rw [hall leaves ∅ h.readable]
    exact exists_foldlM_addRow .empty (by simpa using h.consistent)
  intro rest
  induction rest with
  | nil => exact fun _ _ => rfl
  | cons payload rest ih =>
      intro components hreadable
      have hrest := fun components =>
        ih components fun other hother => hreadable other (List.mem_cons_of_mem _ hother)
      rw [List.foldlM_cons, addLeaf_eq (hreadable payload List.mem_cons_self), rowsOf,
        List.flatMap_cons, List.foldlM_append]
      exact bind_congr hrest

/-! ### Leaves in another order -/

/-- The same document with the dimensions of the location in any order. -/
structure SameLeaf (location : String) (payload payload' : Ec2LeafPayload) : Prop where
  sourceUrl : payload.sourceUrl = payload'.sourceUrl
  dimensions : Option.Rel List.Perm (dimensionsAt location payload)
    (dimensionsAt location payload')

/-- The leaves and the dimensions of each of them in any order. -/
def Rearranged (location : String) (leaves leaves' : List Ec2LeafPayload) : Prop :=
  ∃ middle, leaves.Perm middle ∧ List.Forall₂ (SameLeaf location) middle leaves'

theorem optionRel_symm {α : Type} {r : α → α → Prop} (hr : ∀ a b, r a b → r b a) :
    ∀ {a b : Option α}, Option.Rel r a b → Option.Rel r b a
  | _, _, .some h => .some (hr _ _ h)
  | _, _, .none => .none

theorem SameLeaf.symm {location : String} {payload payload' : Ec2LeafPayload}
    (h : SameLeaf location payload payload') : SameLeaf location payload' payload :=
  ⟨h.sourceUrl.symm, optionRel_symm (fun _ _ => List.Perm.symm) h.dimensions⟩

theorem SameLeaf.getD_perm {location : String} {payload payload' : Ec2LeafPayload}
    (h : SameLeaf location payload payload') :
    ((dimensionsAt location payload).getD []).Perm
      ((dimensionsAt location payload').getD []) := by
  rcases h with ⟨-, hdimensions⟩
  revert hdimensions
  generalize dimensionsAt location payload = found
  generalize dimensionsAt location payload' = found'
  rintro (hperm | _)
  · exact hperm
  · exact .nil

theorem SameLeaf.leafRows_perm {context : Ec2NormalizationContext}
    {payload payload' : Ec2LeafPayload} (h : SameLeaf context.location payload payload') :
    (leafRows context payload).Perm (leafRows context payload') := by
  rw [leafRows, leafRows, ← h.sourceUrl]
  exact (h.getD_perm.filter _).filterMap _

theorem SameLeaf.readable {context : Ec2NormalizationContext}
    {payload payload' : Ec2LeafPayload} (h : SameLeaf context.location payload payload')
    (hreadable : Readable context payload) : Readable context payload' := by
  obtain ⟨dimensions, hdimensions, hread⟩ := hreadable
  have hrel := h.dimensions
  have hperm := h.getD_perm
  rw [hdimensions] at hrel hperm
  cases hdimensions' : dimensionsAt context.location payload' with
  | none =>
      rw [hdimensions'] at hrel
      cases hrel
  | some dimensions' =>
      rw [hdimensions'] at hperm
      refine ⟨dimensions', hdimensions', fun dimension hmem => ?_⟩
      rw [← h.sourceUrl]
      exact hread dimension ((hperm.filter isSupported).mem_iff.mpr hmem)

theorem rowsOf_perm {context : Ec2NormalizationContext} {leaves leaves' : List Ec2LeafPayload}
    (h : Rearranged context.location leaves leaves') :
    (rowsOf context leaves).Perm (rowsOf context leaves') := by
  obtain ⟨middle, hperm, hsame⟩ := h
  refine (hperm.flatMap_right _).trans ?_
  clear hperm
  induction hsame with
  | nil => exact .nil
  | cons hleaf _ ih =>
      simp only [rowsOf, List.flatMap_cons]
      exact hleaf.leafRows_perm.append ih

theorem readable_rearranged {context : Ec2NormalizationContext}
    {leaves leaves' : List Ec2LeafPayload} (h : Rearranged context.location leaves leaves') :
    (∀ payload ∈ leaves, Readable context payload) ↔
      ∀ payload ∈ leaves', Readable context payload := by
  obtain ⟨middle, hperm, hsame⟩ := h
  have hmiddle : (∀ payload ∈ leaves, Readable context payload) ↔
      ∀ payload ∈ middle, Readable context payload := by
    simp only [hperm.mem_iff]
  rw [hmiddle]
  clear hmiddle hperm
  induction hsame with
  | nil => rfl
  | cons hleaf _ ih =>
      simp only [List.forall_mem_cons, ih]
      exact and_congr_left fun _ => ⟨hleaf.readable, hleaf.symm.readable⟩

theorem gatherable_rearranged {context : Ec2NormalizationContext}
    {leaves leaves' : List Ec2LeafPayload} (h : Rearranged context.location leaves leaves') :
    Gatherable context leaves ↔ Gatherable context leaves' := by
  have hrows := rowsOf_perm h
  constructor
  · intro hgatherable
    exact ⟨(readable_rearranged h).mp hgatherable.readable, hgatherable.consistent.perm hrows⟩
  · intro hgatherable
    exact ⟨(readable_rearranged h).mpr hgatherable.readable,
      hgatherable.consistent.perm hrows.symm⟩

/-- The leaves come to the same SKUs in any order, or cannot be gathered in any. -/
theorem gathered_rearranged {context : Ec2NormalizationContext}
    {leaves leaves' : List Ec2LeafPayload} (h : Rearranged context.location leaves leaves') :
    (leaves.foldlM (addLeaf (D := ℚ) context) ∅).toOption.map HashMap.toSortedList =
      (leaves'.foldlM (addLeaf context) ∅).toOption.map HashMap.toSortedList := by
  by_cases hgatherable : Gatherable context leaves
  · obtain ⟨components, hrun⟩ := exists_gathered hgatherable
    obtain ⟨components', hrun'⟩ := exists_gathered ((gatherable_rearranged h).mp hgatherable)
    rw [hrun, hrun']
    exact congrArg some ((gathered_of_leaves hrun).2.toSortedList_eq (rowsOf_perm h)
      (gathered_of_leaves hrun').2)
  · have hnone : ∀ {leaves : List Ec2LeafPayload}, ¬Gatherable context leaves →
        (leaves.foldlM (addLeaf (D := ℚ) context) ∅).toOption = none := by
      intro leaves hnot
      rw [Option.eq_none_iff_forall_ne_some]
      intro components hrun
      exact hnot (gathered_of_leaves (toOption_eq_some.mp hrun)).1
    rw [hnone hgatherable, hnone (hgatherable ∘ (gatherable_rearranged h).mpr)]

end TcoCalculator.AwsEc2
