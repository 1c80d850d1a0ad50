/-
The SKUs of each EC2 instance type, and the regional license prices that instance
types without a SKU of their own fall back on.
-/
import Mathlib.Order.Bounds.Defs
import TcoCalculator.Library.KeyedGroups
import TcoCalculator.Pricing.AwsEc2Skus

namespace TcoCalculator.AwsEc2

open DecimalArith ExactDecimal Fallible Halt ProviderRows

/-! ### Gathering -/

def SkuComponent.isFor (instanceType : String) (software : SoftwareComponent)
    (component : SkuComponent ℚ) : Bool :=
  component.instanceType == instanceType && component.software == software

/-- The slot of a software on an instance type that may not have been seen. -/
def slotOf (instances : HashMap String (InstanceComponents ℚ)) (instanceType : String)
    (software : SoftwareComponent) : Option (SkuComponent ℚ) :=
  ((instances.lookup instanceType).getD .empty).slot software

/-- An instance type has the SKUs seen so far in their slots, and their size. -/
structure InstancesGathered (seen : List (SkuComponent ℚ))
    (instances : HashMap String (InstanceComponents ℚ)) : Prop where
  slots : ∀ instanceType software,
    seen.filter (SkuComponent.isFor instanceType software) =
      (slotOf instances instanceType software).toList
  sizes : ∀ component ∈ seen, ∀ found, instances.lookup component.instanceType = some found →
    found.sourceVcpu = some component.sourceVcpu ∧ found.memoryGb = some component.memoryGb

theorem InstancesGathered.empty : InstancesGathered [] ∅ := by
  refine ⟨fun _ software => ?_, fun _ hmem => (nomatch hmem)⟩
  cases software <;> rfl

theorem setSlot_slot (components : InstanceComponents ℚ) (component : SkuComponent ℚ)
    (software : SoftwareComponent) :
    (components.setSlot component).slot software =
      if software = component.software then some component else components.slot software := by
  unfold InstanceComponents.setSlot
  cases component.software <;> cases software <;> rfl

@[simp] theorem setSlot_sourceVcpu (components : InstanceComponents ℚ)
    (component : SkuComponent ℚ) :
    (components.setSlot component).sourceVcpu = components.sourceVcpu := by
  unfold InstanceComponents.setSlot
  cases component.software <;> rfl

@[simp] theorem setSlot_memoryGb (components : InstanceComponents ℚ)
    (component : SkuComponent ℚ) :
    (components.setSlot component).memoryGb = components.memoryGb := by
  unfold InstanceComponents.setSlot
  cases component.software <;> rfl

/-- A component is taken into an empty slot of an instance type of its size. -/
theorem addComponent_eq_ok {instances instances' : HashMap String (InstanceComponents ℚ)}
    {component : SkuComponent ℚ} (h : addComponent instances component = .ok instances') :
    (∀ found, instances.lookup component.instanceType = some found →
      (∀ vcpu, found.sourceVcpu = some vcpu → vcpu = component.sourceVcpu) ∧
      ∀ memory, found.memoryGb = some memory → memory = component.memoryGb) ∧
    slotOf instances component.instanceType component.software = none ∧
    ∃ components : InstanceComponents ℚ,
      instances' = instances.insert component.instanceType components ∧
      components.sourceVcpu = some component.sourceVcpu ∧
      components.memoryGb = some component.memoryGb ∧
      ∀ software, components.slot software = if software = component.software then some component
        else slotOf instances component.instanceType software := by
  unfold addComponent at h
  dsimp only at h
  split_ifs at h with hsize hslot
  cases h
  simp only [not_or, Option.any_eq_true, not_exists, not_and, decide_eq_true_eq, not_not,
    value_eq] at hsize
  refine ⟨fun found hfound => ?_, by simpa [slotOf] using hslot, _, rfl, by simp, by simp,
    fun software => ?_⟩
  · rw [hfound] at hsize
    exact hsize
  · rw [setSlot_slot]
    split_ifs with hsoftware
    · rfl
    · cases software <;> rfl

theorem InstancesGathered.slot_mem {seen : List (SkuComponent ℚ)}
    {instances : HashMap String (InstanceComponents ℚ)} (h : InstancesGathered seen instances)
    {component : SkuComponent ℚ} (hmem : component ∈ seen) :
    slotOf instances component.instanceType component.software = some component := by
  have hfilter : component ∈
      seen.filter (SkuComponent.isFor component.instanceType component.software) :=
    List.mem_filter.mpr ⟨hmem, by simp [SkuComponent.isFor]⟩
  rw [h.slots] at hfilter
  exact Option.mem_toList.mp hfilter

theorem InstancesGathered.addComponent {seen : List (SkuComponent ℚ)}
    {instances instances' : HashMap String (InstanceComponents ℚ)}
    (h : InstancesGathered seen instances) {component : SkuComponent ℚ}
    (hadd : addComponent instances component = .ok instances') :
    InstancesGathered (seen ++ [component]) instances' := by
  obtain ⟨hsize, hfree, components, rfl, hvcpu, hmemory, hslot⟩ := addComponent_eq_ok hadd
  constructor
  · intro instanceType software
    rw [List.filter_append, h.slots, slotOf]
    by_cases htype : instanceType = component.instanceType
    · subst htype
      rw [slotOf, AList.lookup_insert, Option.getD_some, hslot]
      by_cases hsoftware : software = component.software
      · subst hsoftware
        rw [if_pos rfl, ← slotOf, hfree]
        simp [SkuComponent.isFor]
      · rw [if_neg hsoftware]
        simp [SkuComponent.isFor, Ne.symm hsoftware, slotOf]
    · rw [slotOf, AList.lookup_insert_ne htype]
      simp [SkuComponent.isFor, Ne.symm htype]
  · intro other hother found hfound
    rcases HashMap.lookup_insert_eq_some hfound with ⟨htype, rfl⟩ | ⟨htype, hfound⟩
    · rcases List.mem_append.mp hother with hother | hother
      · have hold := h.slot_mem hother
        rw [slotOf, htype] at hold
        cases hlookup : instances.lookup component.instanceType with
        | none =>
            rw [hlookup] at hold
            cases hsoft : other.software <;> rw [hsoft] at hold <;> cases hold
        | some old =>
            obtain ⟨holdVcpu, holdMemory⟩ := h.sizes other hother old (by rw [htype, hlookup])
            obtain ⟨hsameVcpu, hsameMemory⟩ := hsize old hlookup
            rw [hvcpu, hmemory, hsameVcpu _ holdVcpu, hsameMemory _ holdMemory]
            exact ⟨rfl, rfl⟩
      · rw [List.mem_singleton.mp hother]
        exact ⟨hvcpu, hmemory⟩
    · rcases List.mem_append.mp hother with hother | hother
      · exact h.sizes other hother found hfound
      · exact absurd (congrArg SkuComponent.instanceType (List.mem_singleton.mp hother)) htype

theorem instancesGathered_foldlM {seen : List (SkuComponent ℚ)}
    {instances : HashMap String (InstanceComponents ℚ)}
    (h : seen.foldlM AwsEc2.addComponent ∅ = .ok instances) : InstancesGathered seen instances :=
  foldlM_rule InstancesGathered h .empty fun _ _ _ _ _ hdone hadd => hdone.addComponent hadd

/-! ### SKUs of the rows -/

/-- A SKU of an instance type with the software. -/
def IsSku (rows : List (SkuRow ℚ)) (instanceType : String) (software : SoftwareComponent)
    (sku : String) : Prop :=
  ∃ row ∈ rows, row.sku = sku ∧ row.instanceType = instanceType ∧ row.software = software

/-- The SKU of an instance type with the software, where there is exactly one. -/
structure OnlySku (rows : List (SkuRow ℚ)) (instanceType : String) (software : SoftwareComponent)
    (sku : String) : Prop where
  isSku : IsSku rows instanceType software sku
  only : ∀ other, IsSku rows instanceType software other → other = sku

/-- The SKUs and the instance types that rows have been gathered to. -/
structure Built (rows : List (SkuRow ℚ)) (components : HashMap String (SkuComponent ℚ))
    (instances : HashMap String (InstanceComponents ℚ)) : Prop where
  skus : SkusGathered rows components
  types : InstancesGathered (components.toSortedList.map Prod.snd) instances

section Built

variable {rows : List (SkuRow ℚ)} {components : HashMap String (SkuComponent ℚ)}
  {instances : HashMap String (InstanceComponents ℚ)} {instanceType sku : String}
  {software : SoftwareComponent}

theorem SkusGathered.exists_of_row (h : SkusGathered rows components) {row : SkuRow ℚ}
    (hrow : row ∈ rows) :
    ∃ component, components.lookup row.sku = some component ∧ row.header = component.header := by
  cases hlookup : components.lookup row.sku with
  | none => exact absurd rfl (h.absent row.sku hlookup row hrow)
  | some component => exact ⟨component, rfl, (h.present _ _ hlookup).header row hrow rfl⟩

theorem isFor_of_header {row : SkuRow ℚ} {component : SkuComponent ℚ}
    (h : row.header = component.header) :
    component.isFor instanceType software = true ↔
      row.instanceType = instanceType ∧ row.software = software := by
  simp only [SkuRow.header, SkuComponent.header, Prod.mk.injEq] at h
  simp [SkuComponent.isFor, h]

theorem SkusGathered.isSku_iff (h : SkusGathered rows components) :
    IsSku rows instanceType software sku ↔
      ∃ component, components.lookup sku = some component ∧
        component.isFor instanceType software = true := by
  constructor
  · rintro ⟨row, hrow, rfl, hrow'⟩
    obtain ⟨component, hlookup, hheader⟩ := h.exists_of_row hrow
    exact ⟨component, hlookup, (isFor_of_header hheader).mpr hrow'⟩
  · rintro ⟨component, hlookup, hfor⟩
    have hpresent := h.present sku component hlookup
    obtain ⟨row, hrow, hsku⟩ := hpresent.nonempty
    exact ⟨row, hrow, hsku, (isFor_of_header (hpresent.header row hrow hsku)).mp hfor⟩

theorem Built.slot_mem (h : Built rows components instances) {component : SkuComponent ℚ}
    (hlookup : components.lookup sku = some component)
    (hfor : component.isFor instanceType software = true) :
    slotOf instances instanceType software = some component := by
  have hmem : component ∈ components.toSortedList.map Prod.snd :=
    List.mem_map_of_mem (f := Prod.snd) (HashMap.mem_toSortedList.mpr hlookup)
  simp only [SkuComponent.isFor, Bool.and_eq_true, beq_iff_eq] at hfor
  rw [← hfor.1, ← hfor.2]
  exact h.types.slot_mem hmem

/-- An empty slot: the instance type has no such SKU. -/
theorem Built.slot_none (h : Built rows components instances)
    (hslot : slotOf instances instanceType software = none) :
    ¬ IsSku rows instanceType software sku := by
  rw [h.skus.isSku_iff]
  rintro ⟨component, hlookup, hfor⟩
  rw [h.slot_mem hlookup hfor] at hslot
  cases hslot

/-- A slot that is taken: by the only such SKU of the instance type. -/
theorem Built.slot_some (h : Built rows components instances) {component : SkuComponent ℚ}
    (hslot : slotOf instances instanceType software = some component) :
    ∃ sku, OnlySku rows instanceType software sku ∧ components.lookup sku = some component ∧
      component.isFor instanceType software = true := by
  have hfilter := h.types.slots instanceType software
  rw [hslot, Option.toList_some, List.filter_map] at hfilter
  obtain ⟨⟨sku, found⟩, hentries, hfound⟩ := List.map_eq_singleton_iff.mp hfilter
  obtain rfl : found = component := hfound
  have hentry : (sku, found) ∈ components.toSortedList.filter
      (SkuComponent.isFor instanceType software ∘ Prod.snd) := by simp [hentries]
  obtain ⟨hmem, hfor⟩ := List.mem_filter.mp hentry
  have hlookup := HashMap.mem_toSortedList.mp hmem
  refine ⟨sku, ⟨h.skus.isSku_iff.mpr ⟨found, hlookup, hfor⟩, fun other hother => ?_⟩,
    hlookup, hfor⟩
  obtain ⟨component', hlookup', hfor'⟩ := h.skus.isSku_iff.mp hother
  have hother' : (other, component') ∈ components.toSortedList.filter
      (SkuComponent.isFor instanceType software ∘ Prod.snd) :=
    List.mem_filter.mpr ⟨HashMap.mem_toSortedList.mpr hlookup', hfor'⟩
  rw [hentries, List.mem_singleton] at hother'
  exact congrArg Prod.fst hother'

theorem Built.slot_of_isSku (h : Built rows components instances)
    (hsku : IsSku rows instanceType software sku) :
    ∃ component, slotOf instances instanceType software = some component := by
  obtain ⟨component, hlookup, hfor⟩ := h.skus.isSku_iff.mp hsku
  exact ⟨component, h.slot_mem hlookup hfor⟩

theorem lookup_of_slot {component : SkuComponent ℚ}
    (hslot : slotOf instances instanceType software = some component) :
    ∃ found, instances.lookup instanceType = some found ∧ found.slot software = some component := by
  cases hlookup : instances.lookup instanceType with
  | none =>
      rw [slotOf, hlookup] at hslot
      cases software <;> cases hslot
  | some found =>
      rw [slotOf, hlookup] at hslot
      exact ⟨found, rfl, hslot⟩

theorem slotOf_of_lookup {found : InstanceComponents ℚ}
    (h : instances.lookup instanceType = some found) (software : SoftwareComponent) :
    slotOf instances instanceType software = found.slot software := by
  rw [slotOf, h, Option.getD_some]

/-- Every row of an instance type has its size. -/
theorem Built.size_of_row (h : Built rows components instances) {found : InstanceComponents ℚ}
    (hlookup : instances.lookup instanceType = some found) {row : SkuRow ℚ} (hrow : row ∈ rows)
    (htype : row.instanceType = instanceType) :
    found.sourceVcpu = some row.sourceVcpu ∧ found.memoryGb = some row.memoryGb := by
  obtain ⟨component, hcomponent, hheader⟩ := h.skus.exists_of_row hrow
  have hmem : component ∈ components.toSortedList.map Prod.snd :=
    List.mem_map_of_mem (f := Prod.snd) (HashMap.mem_toSortedList.mpr hcomponent)
  simp only [SkuRow.header, SkuComponent.header, Prod.mk.injEq] at hheader
  rw [hheader.2.2.1, hheader.2.2.2.1]
  exact h.types.sizes component hmem found (by rw [← hheader.1, htype, hlookup])

end Built

end TcoCalculator.AwsEc2
