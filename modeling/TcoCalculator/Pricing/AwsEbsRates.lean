/-
Which EBS rates the normalizer emits: what the rows of an accepted input leave
in the components of a volume, and when the record built of them is valid.
-/
import TcoCalculator.Pricing.AwsEbs

namespace TcoCalculator.AwsEbs

open DecimalArith Fallible PriceSnapshot ProviderRows

variable {D : Type} [DecimalArith D]

/-! ### Rows and the slots they fill -/

/-- All rows of the leaves. -/
def dimensionsOf (leaves : List EbsLeafPayload) : List RawDimension :=
  leaves.flatMap fun payload => payload.body.elim [] SelectedLeaf.dimensions

/-- What a row prices within its volume. -/
inductive Slot where
  | capacity
  | iops (start : UInt64)
  | throughput
  deriving DecidableEq

def Slot.kind : Slot → ComponentKind
  | capacity => .capacity
  | iops _ => .iops
  | throughput => .throughput

def RawDimension.slot (dimension : RawDimension) : Option Slot :=
  match dimension.component with
  | .capacity => some .capacity
  | .iops => dimension.beginRange.map .iops
  | .throughput => some .throughput

def RawDimension.At (dimension : RawDimension) (volumeType : VolumeType) (slot : Slot) : Prop :=
  dimension.volumeType = volumeType.asKey ∧ dimension.slot = some slot

def VolumeComponents.rate (components : VolumeComponents D) : Slot → Option D
  | .capacity => components.capacity.map ComponentRate.monthlyRate
  | .iops start => (components.iops.lookup start).map fun tier => tier.component.monthlyRate
  | .throughput => components.throughput.map fun rate => rate.component.monthlyRate

/-- The price of the row reads as a number of the given value. -/
def RawDimension.PricedAs (dimension : RawDimension) (rate : D) : Prop :=
  ∃ price : D, nonnegativeDecimal dimension.price = some price ∧ value price = value rate

theorem RawDimension.PricedAs.validRawPrice_iff {dimension : RawDimension} {rate : D}
    (h : dimension.PricedAs rate) :
    validRawPrice (D := D) dimension.price = true ↔ 0 < value rate := by
  obtain ⟨price, hprice, hvalue⟩ := h
  obtain ⟨hparse, -⟩ := Option.filter_eq_some_iff.mp hprice
  simp [validRawPrice, hparse, isPositive, hvalue]

theorem VolumeType.asKey_injective {a b : VolumeType} (h : a.asKey = b.asKey) : a = b := by
  cases a <;> cases b <;> first | rfl | exact absurd h (by decide)

/-! ### One row -/

/-- A slot takes the price of its first row, later rows have the same. -/
def SlotChange (before after : Option D) (price : D) : Prop :=
  (before = none ∧ after = some price) ∨
    ∃ rate, before = some rate ∧ after = some rate ∧ value rate = value price

theorem mergeComponent_change {slot : Option (ComponentRate D)} {incoming merged : ComponentRate D}
    (h : mergeComponent slot incoming = .ok merged) :
    SlotChange (slot.map ComponentRate.monthlyRate) (some merged.monthlyRate)
      incoming.monthlyRate := by
  rcases slot with _ | existing
  · cases h
    exact .inl ⟨rfl, rfl⟩
  · unfold mergeComponent at h
    dsimp only at h
    split at h
    · rename_i hagrees
      cases h
      simp only [ComponentRate.agrees, Bool.and_eq_true, beq_iff_eq] at hagrees
      exact .inr ⟨_, rfl, rfl, hagrees.1⟩
    · cases h

theorem mergeRange_change {slot : Option (RangedRate D)} {incoming merged : RangedRate D}
    (h : mergeRange slot incoming = .ok merged) :
    SlotChange (slot.map fun rate => rate.component.monthlyRate)
      (some merged.component.monthlyRate) incoming.component.monthlyRate := by
  rcases slot with _ | existing
  · cases h
    exact .inl ⟨rfl, rfl⟩
  · unfold mergeRange at h
    dsimp only at h
    split at h
    · rename_i hagrees
      cases h
      simp only [ComponentRate.agrees, Bool.and_eq_true, beq_iff_eq] at hagrees
      exact .inr ⟨_, rfl, rfl, hagrees.2.1⟩
    · cases h

theorem mergeSingleRangedComponent_eq_ok {slot : Option (RangedRate D)}
    {incoming merged : RangedRate D} (h : mergeSingleRangedComponent slot incoming = .ok merged) :
    mergeRange slot incoming = .ok merged := by
  unfold mergeSingleRangedComponent at h
  split at h
  · cases h
  · exact h

theorem rangeStart_eq_ok {volumeType : VolumeType} {included start : UInt64}
    {dimension : RawDimension} (h : rangeStart volumeType included dimension = .ok start) :
    dimension.beginRange = some start ∧ (volumeType = .gp3 → start = included) := by
  unfold rangeStart at h
  split at h
  · cases h
  · rename_i begin hbegin
    split at h
    · cases h
    · rename_i hrange
      cases h
      refine ⟨hbegin, fun hgp3 => ?_⟩
      by_contra hne
      exact hrange ⟨hgp3, .inl hne⟩

/-- What a row does: its slot takes its price or has it already, and nothing
else in the volume changes. -/
structure RowAdded (components components' : VolumeComponents D) (volumeType : VolumeType)
    (dimension : RawDimension) (slot : Slot) (price : D) : Prop where
  slot_eq : dimension.slot = some slot
  price_eq : nonnegativeDecimal dimension.price = some price
  change : SlotChange (components.rate slot) (components'.rate slot) price
  others : ∀ other, other ≠ slot → components'.rate other = components.rate other
  included : ∀ start, slot = .iops start → volumeType = .gp3 → start = gp3IncludedIops

theorem parseNonnegativeDecimal_eq_ok {price : String} {number : D}
    (h : parseNonnegativeDecimal price = .ok number) : nonnegativeDecimal price = some number := by
  unfold parseNonnegativeDecimal at h
  rcases hparse : (nonnegativeDecimal price : Option D) with _ | parsed
  · rw [hparse] at h
    cases h
  · rw [hparse] at h
    cases h
    rfl

theorem addDimension_added {components components' : VolumeComponents D}
    {volumeType : VolumeType} {source : SourceIdentity} {dimension : RawDimension}
    (h : addDimension components volumeType source dimension = .ok components') :
    ∃ slot price, RowAdded components components' volumeType dimension slot price := by
  unfold addDimension at h
  obtain ⟨price, hprice, h⟩ := bind_eq_ok.mp h
  have hprice := parseNonnegativeDecimal_eq_ok hprice
  dsimp only at h
  rcases hkind : dimension.component with _ | _ | _
  · simp only [hkind] at h
    obtain ⟨_, -, h⟩ := bind_eq_ok.mp h
    obtain ⟨capacity, hmerge, h⟩ := bind_eq_ok.mp h
    cases h
    refine ⟨.capacity, price, ⟨?_, hprice, mergeComponent_change hmerge, ?_,
      fun _ heq => (by cases heq)⟩⟩
    · simp [RawDimension.slot, hkind]
    · rintro (_ | _ | _) hother
      · exact absurd rfl hother
      · rfl
      · rfl
  · simp only [hkind] at h
    obtain ⟨_, -, h⟩ := bind_eq_ok.mp h
    obtain ⟨start, hstart, h⟩ := bind_eq_ok.mp h
    obtain ⟨iops, hmerge, h⟩ := bind_eq_ok.mp h
    cases h
    obtain ⟨merged, hrange, hinsert⟩ := bind_eq_ok.mp hmerge
    cases hinsert
    obtain ⟨hbegin, hincluded⟩ := rangeStart_eq_ok hstart
    refine ⟨.iops start, price, ⟨?_, hprice, ?_, ?_, ?_⟩⟩
    · simp [RawDimension.slot, hkind, hbegin]
    · have := mergeRange_change hrange
      simpa only [VolumeComponents.rate, AList.lookup_insert, Option.map_some] using this
    · rintro (_ | other | _) hother
      · rfl
      · have hne : other ≠ start := fun heq => hother (by rw [heq])
        simp only [VolumeComponents.rate, AList.lookup_insert_ne hne]
      · rfl
    · intro other heq hgp3
      cases heq
      exact hincluded hgp3
  · simp only [hkind] at h
    obtain ⟨_, -, h⟩ := bind_eq_ok.mp h
    obtain ⟨start, hstart, h⟩ := bind_eq_ok.mp h
    obtain ⟨throughput, hmerge, h⟩ := bind_eq_ok.mp h
    cases h
    refine ⟨.throughput, price, ⟨?_, hprice,
      mergeRange_change (mergeSingleRangedComponent_eq_ok hmerge), ?_, fun _ heq => (by cases heq)⟩⟩
    · simp [RawDimension.slot, hkind]
    · rintro (_ | _ | _) hother
      · rfl
      · rfl
      · exact absurd rfl hother

/-! ### All rows -/

def componentsOf (volumes : Volumes D) (volumeType : VolumeType) : VolumeComponents D :=
  (volumes.lookup volumeType).getD .empty

/-- What the volumes hold once the rows are merged. -/
structure Merged (rows : List RawDimension) (volumes : Volumes D) : Prop where
  slots : ∀ dimension ∈ rows, ∃ volumeType slot, dimension.At volumeType slot
  included : ∀ dimension ∈ rows, ∀ start, dimension.At .gp3 (.iops start) →
    start = gp3IncludedIops
  filled : ∀ volumeType slot rate, (componentsOf volumes volumeType).rate slot = some rate →
    (∃ dimension ∈ rows, dimension.At volumeType slot) ∧
      ∀ dimension ∈ rows, dimension.At volumeType slot → dimension.PricedAs rate
  vacant : ∀ volumeType slot, (componentsOf volumes volumeType).rate slot = none →
    ∀ dimension ∈ rows, ¬ dimension.At volumeType slot

omit [DecimalArith D] in
theorem rate_empty (slot : Slot) : (VolumeComponents.empty : VolumeComponents D).rate slot = none := by
  rcases slot with _ | _ | _ <;> rfl

theorem Merged.empty : Merged [] (∅ : Volumes D) where
  slots _ h := nomatch h
  included _ h := nomatch h
  filled volumeType slot rate h := by
    rw [componentsOf, AList.lookup_empty, Option.getD_none, rate_empty] at h
    cases h
  vacant _ _ _ _ h := nomatch h

theorem parseVolumeType_eq_ok {text : String} {volumeType : VolumeType}
    (h : parseVolumeType text = .ok volumeType) : text = volumeType.asKey := by
  unfold parseVolumeType at h
  split_ifs at h with hgp3 hio2
  · cases h
    exact hgp3
  · cases h
    exact hio2

theorem Merged.add {rows : List RawDimension} {volumes volumes' : Volumes D}
    {source : SourceIdentity} {dimension : RawDimension} (hmerged : Merged rows volumes)
    (h : addEbsDimension source volumes dimension = .ok volumes') :
    Merged (rows ++ [dimension]) volumes' := by
  unfold addEbsDimension at h
  obtain ⟨_, -, h⟩ := bind_eq_ok.mp h
  obtain ⟨volumeType, htype, h⟩ := bind_eq_ok.mp h
  obtain ⟨components, hcomponents, h⟩ := bind_eq_ok.mp h
  cases h
  have htype := parseVolumeType_eq_ok htype
  obtain ⟨slot, price, hadded⟩ := addDimension_added hcomponents
  have hat : dimension.At volumeType slot := ⟨htype, hadded.slot_eq⟩
  have hsame : componentsOf (volumes.insert volumeType components) volumeType = components := by
    rw [componentsOf, AList.lookup_insert, Option.getD_some]
  have hother : ∀ other, other ≠ volumeType →
      componentsOf (volumes.insert volumeType components) other = componentsOf volumes other := by
    intro other hne
    rw [componentsOf, AList.lookup_insert_ne hne, componentsOf]
  -- the row is at its own slot only
  have honly : ∀ otherType other, dimension.At otherType other →
      otherType = volumeType ∧ other = slot := by
    rintro otherType other ⟨hkey, hslot⟩
    refine ⟨VolumeType.asKey_injective (hkey.symm.trans htype), ?_⟩
    exact Option.some.inj (hslot.symm.trans hadded.slot_eq)
  -- elsewhere nothing changes
  have hkept : ∀ otherType other, ¬ (otherType = volumeType ∧ other = slot) →
      (componentsOf (volumes.insert volumeType components) otherType).rate other =
        (componentsOf volumes otherType).rate other := by
    intro otherType other hne
    by_cases htypes : otherType = volumeType
    · subst htypes
      rw [hsame]
      exact hadded.others other fun hslot => hne ⟨rfl, hslot⟩
    · rw [hother otherType htypes]
  constructor
  · intro row hrow
    rcases List.mem_append.mp hrow with hold | hnew
    · exact hmerged.slots row hold
    · obtain rfl := List.mem_singleton.mp hnew
      exact ⟨volumeType, slot, hat⟩
  · intro row hrow start hstart
    rcases List.mem_append.mp hrow with hold | hnew
    · exact hmerged.included row hold start hstart
    · obtain rfl := List.mem_singleton.mp hnew
      obtain ⟨hgp3, hslot⟩ := honly _ _ hstart
      exact hadded.included start hslot.symm hgp3.symm
  · intro otherType other rate hrate
    by_cases hplace : otherType = volumeType ∧ other = slot
    · obtain ⟨rfl, rfl⟩ := hplace
      rw [hsame] at hrate
      refine ⟨⟨dimension, List.mem_append_right _ List.mem_cons_self, hat⟩, ?_⟩
      intro row hrow hrowAt
      rcases hadded.change with ⟨hbefore, hafter⟩ | ⟨rate', hbefore, hafter, hvalue⟩
      · obtain rfl := Option.some.inj (hrate.symm.trans hafter)
        rcases List.mem_append.mp hrow with hold | hnew
        · exact absurd hrowAt (hmerged.vacant _ _ hbefore row hold)
        · obtain rfl := List.mem_singleton.mp hnew
          exact ⟨rate, hadded.price_eq, rfl⟩
      · obtain rfl := Option.some.inj (hrate.symm.trans hafter)
        rcases List.mem_append.mp hrow with hold | hnew
        · exact (hmerged.filled _ _ rate hbefore).2 row hold hrowAt
        · obtain rfl := List.mem_singleton.mp hnew
          exact ⟨price, hadded.price_eq, hvalue.symm⟩
    · rw [hkept otherType other hplace] at hrate
      obtain ⟨⟨row, hrow, hrowAt⟩, hprices⟩ := hmerged.filled otherType other rate hrate
      refine ⟨⟨row, List.mem_append_left _ hrow, hrowAt⟩, ?_⟩
      intro row' hrow' hrowAt'
      rcases List.mem_append.mp hrow' with hold | hnew
      · exact hprices row' hold hrowAt'
      · obtain rfl := List.mem_singleton.mp hnew
        exact absurd (honly _ _ hrowAt') hplace
  · intro otherType other hnone row hrow hrowAt
    by_cases hplace : otherType = volumeType ∧ other = slot
    · obtain ⟨rfl, rfl⟩ := hplace
      rw [hsame] at hnone
      rcases hadded.change with ⟨-, hafter⟩ | ⟨_, -, hafter, -⟩
      · cases hnone.symm.trans hafter
      · cases hnone.symm.trans hafter
    · rw [hkept otherType other hplace] at hnone
      rcases List.mem_append.mp hrow with hold | hnew
      · exact hmerged.vacant otherType other hnone row hold hrowAt
      · obtain rfl := List.mem_singleton.mp hnew
        exact hplace (honly _ _ hrowAt)

theorem Merged.leaf {rows : List RawDimension} {volumes volumes' : Volumes D}
    {payload : EbsLeafPayload} (hmerged : Merged rows volumes)
    (h : addLeaf volumes payload = .ok volumes') :
    Merged (rows ++ payload.body.elim [] SelectedLeaf.dimensions) volumes' := by
  unfold addLeaf at h
  split at h
  · cases h
  · rcases hbody : payload.body with _ | leaf
    · simp only [hbody] at h
      cases h
    · simp only [hbody] at h
      split at h
      · refine foldlM_rule (fun done state => Merged (rows ++ done) state) h ?_ ?_
        · rw [List.append_nil]
          exact hmerged
        · intro done dimension state state' _ hdone hstep
          rw [← List.append_assoc]
          exact hdone.add hstep
      · cases h

theorem merged_of_leaves {leaves : List EbsLeafPayload} {volumes : Volumes D}
    (h : leaves.foldlM addLeaf ∅ = .ok volumes) : Merged (dimensionsOf leaves) volumes := by
  refine foldlM_rule (fun done state => Merged (dimensionsOf done) state) h Merged.empty ?_
  intro done payload state state' _ hdone hstep
  have := hdone.leaf hstep
  rwa [dimensionsOf, List.flatMap_append, List.flatMap_singleton, ← dimensionsOf]

/-! ### Records -/

omit [DecimalArith D] in
theorem lookup_eq_none_of_isEmpty {iops : HashMap UInt64 (RangedRate D)}
    (h : iops.entries.isEmpty = true) (start : UInt64) : iops.lookup start = none := by
  have hnil : iops.entries = [] := List.isEmpty_iff.mp h
  unfold AList.lookup
  rw [hnil]
  rfl

omit [DecimalArith D] in
/-- What is left of a map once some keys are gone. -/
theorem lookup_foldl_erase (iops : HashMap UInt64 (RangedRate D)) (starts : List UInt64)
    {start : UInt64} (hstart : start ∉ starts) :
    (starts.foldl (fun iops start => iops.erase start) iops).lookup start = iops.lookup start := by
  induction starts generalizing iops with
  | nil => rfl
  | cons first rest ih =>
      rw [List.foldl_cons, ih _ fun h => hstart (List.mem_cons_of_mem _ h)]
      exact AList.lookup_erase_ne fun h => hstart (by rw [h]; exact List.mem_cons_self)

/-- All rates of a volume are positive. -/
def RatesPositive (components : VolumeComponents D) : Prop :=
  ∀ slot rate, components.rate slot = some rate → 0 < value rate

theorem buildGp3Record_valid {regionCode : String} {components : VolumeComponents D}
    {record : AwsEbsRateRecord D} (hnat : ∀ n : UInt64, 0 ≤ value (ofNat n.toNat : D))
    (h : buildGp3Record regionCode components = .ok (some record)) :
    validEbsRate record.rate = true ↔ RatesPositive components := by
  unfold buildGp3Record at h
  split at h
  · rename_i capacity iops throughput hcapacity hiops hthroughput
    obtain ⟨_, hensure, h⟩ := bind_eq_ok.mp h
    obtain ⟨source, -, h⟩ := bind_eq_ok.mp h
    cases h
    obtain ⟨hempty, -⟩ := ensure_eq_ok.mp hensure
    have honly : ∀ start, start ≠ gp3IncludedIops → components.iops.lookup start = none := by
      intro start hne
      rw [← AList.lookup_erase_ne hne]
      exact lookup_eq_none_of_isEmpty hempty start
    have hthroughput125 := hnat gp3IncludedThroughputMibps
    simp only [validEbsRate, isPositive, Option.all_some, Option.any_some, Option.isSome_some,
      List.isEmpty_nil, Bool.and_eq_true, decide_eq_true_eq, beq_iff_eq, and_true]
    constructor
    · rintro ⟨⟨⟨hcapacityPos, -⟩, hthroughputPos⟩, ⟨-, hiopsPos⟩, -⟩
      rintro (_ | start | _) rate hrate
      · simp only [VolumeComponents.rate, hcapacity, Option.map_some, Option.some.injEq] at hrate
        rwa [← hrate]
      · by_cases hstart : start = gp3IncludedIops
        · subst hstart
          simp only [VolumeComponents.rate, hiops, Option.map_some, Option.some.injEq] at hrate
          rwa [← hrate]
        · simp only [VolumeComponents.rate, honly start hstart, Option.map_none] at hrate
          cases hrate
      · simp only [VolumeComponents.rate, hthroughput, Option.map_some,
          Option.some.injEq] at hrate
        rwa [← hrate]
    · intro hpositive
      have hcapacityPos := hpositive .capacity capacity.monthlyRate (by
        simp only [VolumeComponents.rate, hcapacity, Option.map_some])
      have hiopsPos := hpositive (.iops gp3IncludedIops) iops.component.monthlyRate (by
        simp only [VolumeComponents.rate, hiops, Option.map_some])
      have hthroughputPos := hpositive .throughput throughput.component.monthlyRate (by
        simp only [VolumeComponents.rate, hthroughput, Option.map_some])
      exact ⟨⟨⟨hcapacityPos, hthroughput125⟩, hthroughputPos⟩, ⟨rfl, hiopsPos⟩, rfl⟩
  · cases h

omit [DecimalArith D] in
theorem io2Tier_eq_ok {iops : HashMap UInt64 (RangedRate D)} {source : SourceIdentity}
    {range : UInt64 × Option UInt64} {tier : IopsPriceTier D × List String}
    (h : io2Tier iops source range = .ok tier) :
    tier.1.upToInclusive = range.2 ∧
      (iops.lookup range.1).map (fun rate => rate.component.monthlyRate) =
        some tier.1.monthlyPerIops := by
  unfold io2Tier at h
  split at h
  · cases h
  · rename_i rate hlookup
    split_ifs at h
    cases h
    exact ⟨rfl, by rw [hlookup]; rfl⟩

theorem io2Throughput_eq_ok {throughput : Option (RangedRate D)} {source : SourceIdentity}
    {included : D} {price : Option D} {meterIds : List String}
    (h : io2Throughput throughput source = .ok (included, price, meterIds)) :
    (∃ n : UInt64, included = ofNat n.toNat) ∧
      price = throughput.map fun rate => rate.component.monthlyRate := by
  unfold io2Throughput at h
  split at h
  · cases h
    exact ⟨⟨0, rfl⟩, rfl⟩
  · split_ifs at h
    cases h
    exact ⟨⟨_, rfl⟩, rfl⟩

omit [DecimalArith D] in
theorem mapM_io2Tier {iops : HashMap UInt64 (RangedRate D)} {source : SourceIdentity}
    {tiers : List (IopsPriceTier D × List String)}
    (h : io2Tiers.mapM (io2Tier iops source) = .ok tiers) :
    ∃ first second third, tiers = [first, second, third] ∧
      io2Tier iops source (0, some 32000) = .ok first ∧
      io2Tier iops source (32000, some 64000) = .ok second ∧
      io2Tier iops source (64000, none) = .ok third := by
  simp only [io2Tiers, List.mapM_cons, List.mapM_nil] at h
  obtain ⟨first, hfirst, h⟩ := bind_eq_ok.mp h
  obtain ⟨_, hrest, h⟩ := bind_eq_ok.mp h
  obtain ⟨second, hsecond, hrest⟩ := bind_eq_ok.mp hrest
  obtain ⟨_, hlast, hrest⟩ := bind_eq_ok.mp hrest
  obtain ⟨third, hthird, hlast⟩ := bind_eq_ok.mp hlast
  obtain ⟨_, hnil, hlast⟩ := bind_eq_ok.mp hlast
  cases hnil
  cases hlast
  cases hrest
  cases h
  exact ⟨first, second, third, rfl, hfirst, hsecond, hthird⟩

theorem buildIo2Record_valid {regionCode : String} {components : VolumeComponents D}
    {record : AwsEbsRateRecord D} (hnat : ∀ n : UInt64, 0 ≤ value (ofNat n.toNat : D))
    (h : buildIo2Record regionCode components = .ok (some record)) :
    validEbsRate record.rate = true ↔ RatesPositive components := by
  unfold buildIo2Record at h
  split at h
  · cases h
  rename_i capacity hcapacity
  split at h
  · cases h
  obtain ⟨tiers, htiers, h⟩ := bind_eq_ok.mp h
  obtain ⟨_, hensure, h⟩ := bind_eq_ok.mp h
  obtain ⟨⟨included, price, meterIds⟩, hthroughput, h⟩ := bind_eq_ok.mp h
  cases h
  obtain ⟨first, second, third, rfl, hfirst, hsecond, hthird⟩ := mapM_io2Tier htiers
  obtain ⟨hend0, hrate0⟩ := io2Tier_eq_ok hfirst
  obtain ⟨hend1, hrate1⟩ := io2Tier_eq_ok hsecond
  obtain ⟨hend2, hrate2⟩ := io2Tier_eq_ok hthird
  obtain ⟨⟨n, rfl⟩, rfl⟩ := io2Throughput_eq_ok hthroughput
  have hincluded := hnat n
  have hempty := ensure_eq_ok.mp hensure
  have honly : ∀ start, start ∉ io2Tiers.map Prod.fst → components.iops.lookup start = none := by
    intro start hstart
    rw [← lookup_foldl_erase components.iops (io2Tiers.map Prod.fst) hstart, List.foldl_map]
    exact lookup_eq_none_of_isEmpty hempty start
  simp only [validEbsRate, isPositive, Bool.and_eq_true, decide_eq_true_eq, beq_iff_eq,
    List.map_cons, List.map_nil, hend0, hend1, hend2, Option.isNone_none, List.all_cons,
    List.all_nil, and_true, true_and, Option.all_eq_true]
  constructor
  · rintro ⟨⟨⟨hcapacityPos, -⟩, hthroughputPos⟩, hpos0, hpos1, hpos2⟩
    rintro (_ | start | _) rate hrate
    · simp only [VolumeComponents.rate, hcapacity, Option.map_some, Option.some.injEq] at hrate
      rwa [← hrate]
    · by_cases hstart : start ∈ io2Tiers.map Prod.fst
      · simp only [io2Tiers, List.map_cons, List.map_nil, List.mem_cons, List.not_mem_nil,
          or_false] at hstart
        rcases hstart with rfl | rfl | rfl
        · rwa [← Option.some.inj (hrate0.symm.trans hrate)]
        · rwa [← Option.some.inj (hrate1.symm.trans hrate)]
        · rwa [← Option.some.inj (hrate2.symm.trans hrate)]
      · simp only [VolumeComponents.rate, honly start hstart, Option.map_none] at hrate
        cases hrate
    · exact hthroughputPos rate hrate
  · intro hpositive
    refine ⟨⟨⟨hpositive .capacity _ ?_, hincluded⟩, fun rate hrate => ?_⟩,
      hpositive (.iops 0) _ hrate0, hpositive (.iops 32000) _ hrate1,
      hpositive (.iops 64000) _ hrate2⟩
    · simp only [VolumeComponents.rate, hcapacity, Option.map_some]
    · exact hpositive .throughput rate hrate

theorem buildRecord_valid {regionCode : String} {volumeType : VolumeType}
    {components : VolumeComponents D} {record : AwsEbsRateRecord D}
    (hnat : ∀ n : UInt64, 0 ≤ value (ofNat n.toNat : D))
    (h : buildRecord regionCode volumeType components = .ok (some record)) :
    validEbsRate record.rate = true ↔ RatesPositive components := by
  rcases volumeType with _ | _
  · exact buildGp3Record_valid hnat h
  · exact buildIo2Record_valid hnat h

/-- A volume has a row of every component its record needs. -/
def Complete (volumeType : VolumeType) (rows : List RawDimension) : Prop :=
  ∀ kind, kind ≠ .throughput ∨ volumeType = .gp3 →
    ∃ dimension ∈ rows, dimension.volumeType = volumeType.asKey ∧ dimension.component = kind

/-- The rows of a volume that has all components are priced above zero. -/
def PricesPositive (D : Type) [DecimalArith D] (rows : List RawDimension) : Prop :=
  ∀ volumeType, Complete volumeType rows → ∀ dimension ∈ rows,
    dimension.volumeType = volumeType.asKey → validRawPrice (D := D) dimension.price = true

variable {rows : List RawDimension} {volumes : Volumes D} {volumeType : VolumeType}
  {components : VolumeComponents D}

theorem Merged.rate_isSome (hmerged : Merged rows volumes) {slot : Slot}
    {dimension : RawDimension} (hrow : dimension ∈ rows) (hat : dimension.At volumeType slot) :
    ∃ rate, (componentsOf volumes volumeType).rate slot = some rate ∧ dimension.PricedAs rate := by
  rcases hrate : (componentsOf volumes volumeType).rate slot with _ | rate
  · exact absurd hat (hmerged.vacant volumeType slot hrate dimension hrow)
  · exact ⟨rate, rfl, (hmerged.filled volumeType slot rate hrate).2 dimension hrow hat⟩

theorem Merged.exists_row (hmerged : Merged rows volumes) {slot : Slot} {rate : D}
    (hrate : (componentsOf volumes volumeType).rate slot = some rate) :
    ∃ dimension ∈ rows, dimension.At volumeType slot ∧ dimension.PricedAs rate := by
  obtain ⟨⟨dimension, hrow, hat⟩, hprices⟩ := hmerged.filled volumeType slot rate hrate
  exact ⟨dimension, hrow, hat, hprices dimension hrow hat⟩

theorem kind_of_slot {dimension : RawDimension} {slot : Slot} (h : dimension.slot = some slot) :
    dimension.component = slot.kind := by
  unfold RawDimension.slot at h
  rcases hkind : dimension.component with _ | _ | _ <;> simp only [hkind] at h
  · cases h
    rfl
  · obtain ⟨start, -, rfl⟩ := Option.map_eq_some_iff.mp h
    rfl
  · cases h
    rfl

/-- A built record has a row of every component it needs. -/
theorem Merged.complete (hmerged : Merged rows volumes) {regionCode : String}
    {record : AwsEbsRateRecord D}
    (h : buildRecord regionCode volumeType (componentsOf volumes volumeType) = .ok (some record)) :
    Complete volumeType rows := by
  have hrow : ∀ slot rate, (componentsOf volumes volumeType).rate slot = some rate →
      ∃ dimension ∈ rows, dimension.volumeType = volumeType.asKey ∧
        dimension.component = slot.kind := by
    intro slot rate hrate
    obtain ⟨dimension, hmem, ⟨htype, hslot⟩, -⟩ := hmerged.exists_row hrate
    exact ⟨dimension, hmem, htype, kind_of_slot hslot⟩
  rcases volumeType with _ | _
  · rw [buildRecord, buildGp3Record] at h
    split at h
    · rename_i capacity iops throughput hcapacity hiops hthroughput
      rintro (_ | _ | _) -
      · exact hrow .capacity capacity.monthlyRate (by simp [VolumeComponents.rate, hcapacity])
      · exact hrow (.iops gp3IncludedIops) iops.component.monthlyRate (by
          simp [VolumeComponents.rate, hiops])
      · exact hrow .throughput throughput.component.monthlyRate (by
          simp [VolumeComponents.rate, hthroughput])
    · cases h
  · rw [buildRecord, buildIo2Record] at h
    split at h
    · cases h
    rename_i capacity hcapacity
    split at h
    · cases h
    obtain ⟨tiers, htiers, -⟩ := bind_eq_ok.mp h
    obtain ⟨first, -, -, -, hfirst, -, -⟩ := mapM_io2Tier htiers
    rintro (_ | _ | _) hneeded
    · exact hrow .capacity capacity.monthlyRate (by simp [VolumeComponents.rate, hcapacity])
    · exact hrow (.iops 0) first.1.monthlyPerIops (io2Tier_eq_ok hfirst).2
    · rcases hneeded with hne | hgp3
      · exact absurd rfl hne
      · cases hgp3

/-- Where every needed component has a row, a record is built. -/
theorem Merged.built (hmerged : Merged rows volumes) (hcomplete : Complete volumeType rows)
    {regionCode : String} {outcome : Option (AwsEbsRateRecord D)}
    (h : buildRecord regionCode volumeType (componentsOf volumes volumeType) = .ok outcome) :
    ∃ record, outcome = some record := by
  have hrate : ∀ kind, kind ≠ .throughput ∨ volumeType = .gp3 →
      ∃ dimension ∈ rows, dimension.component = kind ∧ ∃ slot rate,
        dimension.At volumeType slot ∧
          (componentsOf volumes volumeType).rate slot = some rate := by
    intro kind hneeded
    obtain ⟨dimension, hrow, htype, hkind⟩ := hcomplete kind hneeded
    obtain ⟨otherType, slot, hkey, hslot⟩ := hmerged.slots dimension hrow
    obtain rfl := VolumeType.asKey_injective (htype.symm.trans hkey)
    obtain ⟨rate, hrate, -⟩ := hmerged.rate_isSome hrow ⟨hkey, hslot⟩
    exact ⟨dimension, hrow, hkind, slot, rate, ⟨hkey, hslot⟩, hrate⟩
  obtain ⟨dimension, hrow, hkind, slot, rate, ⟨-, hslot⟩, hcapacity⟩ := hrate .capacity (.inl nofun)
  rcases slot with _ | start | _
  case iops => exact absurd (hkind.symm.trans (kind_of_slot hslot)) nofun
  case throughput => exact absurd (hkind.symm.trans (kind_of_slot hslot)) nofun
  obtain ⟨capacity, hcapacity, -⟩ := Option.map_eq_some_iff.mp hcapacity
  obtain ⟨iopsRow, hiopsRow, hiopsKind, slot, iopsRate, hiopsAt, hiops⟩ := hrate .iops (.inl nofun)
  rcases slot with _ | start | _
  case capacity => exact absurd (hiopsKind.symm.trans (kind_of_slot hiopsAt.2)) nofun
  case throughput => exact absurd (hiopsKind.symm.trans (kind_of_slot hiopsAt.2)) nofun
  obtain ⟨iops, hiops, -⟩ := Option.map_eq_some_iff.mp hiops
  rcases volumeType with _ | _
  · obtain rfl := hmerged.included iopsRow hiopsRow start hiopsAt
    obtain ⟨_, -, hthroughputKind, slot, _, ⟨-, hslot⟩, hthroughput⟩ := hrate .throughput (.inr rfl)
    rcases slot with _ | _ | _
    case capacity => exact absurd (hthroughputKind.symm.trans (kind_of_slot hslot)) nofun
    case iops => exact absurd (hthroughputKind.symm.trans (kind_of_slot hslot)) nofun
    obtain ⟨throughput, hthroughput, -⟩ := Option.map_eq_some_iff.mp hthroughput
    simp only [buildRecord, buildGp3Record, hcapacity, hiops, hthroughput] at h
    obtain ⟨_, -, h⟩ := bind_eq_ok.mp h
    obtain ⟨_, -, h⟩ := bind_eq_ok.mp h
    cases h
    exact ⟨_, rfl⟩
  · simp only [buildRecord, buildIo2Record, hcapacity] at h
    split at h
    · rename_i hempty
      rw [lookup_eq_none_of_isEmpty hempty] at hiops
      cases hiops
    · obtain ⟨_, -, h⟩ := bind_eq_ok.mp h
      obtain ⟨_, -, h⟩ := bind_eq_ok.mp h
      obtain ⟨_, -, h⟩ := bind_eq_ok.mp h
      cases h
      exact ⟨_, rfl⟩

/-- The records of an accepted input: those its volumes build. -/
theorem mem_records_iff {context : EbsNormalizationContext} {leaves : List EbsLeafPayload}
    {normalization : EbsNormalization D}
    (h : normalizeEbsLeaves context leaves = .ok normalization) :
    ∃ volumes : Volumes D, leaves.foldlM addLeaf ∅ = .ok volumes ∧
      (∀ volumeType, ∃ outcome, buildRecord context.regionCode volumeType
        (componentsOf volumes volumeType) = .ok outcome) ∧
      ∀ record, record ∈ normalization.records ↔ ∃ volumeType, buildRecord context.regionCode
        volumeType (componentsOf volumes volumeType) = .ok (some record) := by
  unfold normalizeEbsLeaves at h
  obtain ⟨_, -, h⟩ := bind_eq_ok.mp h
  obtain ⟨volumes, hvolumes, h⟩ := bind_eq_ok.mp h
  obtain ⟨outcomes, houtcomes, h⟩ := bind_eq_ok.mp h
  cases h
  -- a volume without components builds nothing either
  have houtcome : ∀ volumeType outcome,
      volumeRecord context.regionCode volumes volumeType = .ok outcome →
        ∃ built, buildRecord context.regionCode volumeType (componentsOf volumes volumeType) =
          .ok built ∧ outcome.getLeft? = built := by
    intro volumeType outcome hrecord
    rw [volumeRecord] at hrecord
    rcases hlookup : volumes.lookup volumeType with _ | components
    · simp only [hlookup] at hrecord
      cases hrecord
      refine ⟨none, ?_, rfl⟩
      rw [componentsOf, hlookup]
      rcases volumeType with _ | _ <;> rfl
    · simp only [hlookup] at hrecord
      obtain ⟨built, hbuilt, hrecord⟩ := bind_eq_ok.mp hrecord
      cases hrecord
      refine ⟨built, ?_, ?_⟩
      · rw [componentsOf, hlookup]
        exact hbuilt
      · rcases built with _ | record <;> rfl
  simp only [List.mapM_cons, List.mapM_nil] at houtcomes
  obtain ⟨gp3, hgp3, houtcomes⟩ := bind_eq_ok.mp houtcomes
  obtain ⟨_, hrest, houtcomes⟩ := bind_eq_ok.mp houtcomes
  obtain ⟨io2, hio2, hrest⟩ := bind_eq_ok.mp hrest
  cases hrest
  cases houtcomes
  obtain ⟨gp3Built, hgp3Built, hgp3Left⟩ := houtcome .gp3 gp3 hgp3
  obtain ⟨io2Built, hio2Built, hio2Left⟩ := houtcome .io2 io2 hio2
  refine ⟨volumes, hvolumes, ?_, ?_⟩
  · rintro (_ | _)
    · exact ⟨gp3Built, hgp3Built⟩
    · exact ⟨io2Built, hio2Built⟩
  · intro record
    dsimp only
    rw [(List.perm_insertionSort _ _).mem_iff, List.mem_filterMap]
    constructor
    · rintro ⟨outcome, hmem, hleft⟩
      rcases List.mem_pair.mp hmem with rfl | rfl
      · exact ⟨.gp3, by rw [hgp3Built, ← hgp3Left, hleft]⟩
      · exact ⟨.io2, by rw [hio2Built, ← hio2Left, hleft]⟩
    · rintro ⟨_ | _, hbuilt⟩
      · refine ⟨gp3, List.mem_cons_self, ?_⟩
        rw [hgp3Left]
        exact Except.ok.inj (hgp3Built.symm.trans hbuilt)
      · refine ⟨io2, List.mem_cons_of_mem _ List.mem_cons_self, ?_⟩
        rw [hio2Left]
        exact Except.ok.inj (hio2Built.symm.trans hbuilt)

/-- The emitted rates are valid exactly when the rows behind them are priced above zero. -/
theorem records_valid_iff {context : EbsNormalizationContext} {leaves : List EbsLeafPayload}
    {normalization : EbsNormalization D} (hnat : ∀ n : UInt64, 0 ≤ value (ofNat n.toNat : D))
    (h : normalizeEbsLeaves context leaves = .ok normalization) :
    (∀ record ∈ normalization.records, validEbsRate record.rate = true) ↔
      PricesPositive D (dimensionsOf leaves) := by
  obtain ⟨volumes, hvolumes, hbuilds, hmem⟩ := mem_records_iff h
  have hmerged := merged_of_leaves hvolumes
  constructor
  · intro hvalid volumeType hcomplete dimension hrow htype
    obtain ⟨outcome, hbuilt⟩ := hbuilds volumeType
    obtain ⟨record, rfl⟩ := hmerged.built hcomplete hbuilt
    have hpositive := (buildRecord_valid hnat hbuilt).mp
      (hvalid record ((hmem record).mpr ⟨volumeType, hbuilt⟩))
    obtain ⟨otherType, slot, hkey, hslot⟩ := hmerged.slots dimension hrow
    obtain rfl := VolumeType.asKey_injective (htype.symm.trans hkey)
    obtain ⟨rate, hrate, hpriced⟩ := hmerged.rate_isSome hrow ⟨hkey, hslot⟩
    exact hpriced.validRawPrice_iff.mpr (hpositive slot rate hrate)
  · intro hprices record hrecord
    obtain ⟨volumeType, hbuilt⟩ := (hmem record).mp hrecord
    rw [buildRecord_valid hnat hbuilt]
    intro slot rate hrate
    obtain ⟨dimension, hrow, hat, hpriced⟩ := hmerged.exists_row hrate
    exact hpriced.validRawPrice_iff.mp
      (hprices volumeType (hmerged.complete hbuilt) dimension hrow hat.1)

end TcoCalculator.AwsEbs
