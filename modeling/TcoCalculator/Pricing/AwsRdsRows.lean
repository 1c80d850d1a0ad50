/-
What the rows of an accepted RDS input leave in the merged offers, and which of
the offers the records are made of.
-/
import TcoCalculator.Pricing.AwsRds

namespace TcoCalculator.AwsRds

open DecimalArith Fallible Halt ProviderRows

variable {D : Type} [DecimalArith D]

/-! ### Rows of the leaves -/

/-- The rows of the RDS leaves. -/
def dimensionsOf (leaves : List RdsLeafPayload) : List RawDimension :=
  leaves.flatMap fun payload => payload.body.elim [] fun leaf =>
    if leaf.sourceOfferCode = "AmazonRDS" then leaf.dimensions else []

def computeRow? (dimension : RawDimension) : Option (ComputeRow D) :=
  if isComputeDimension dimension then (computeRow dimension).toOption else none

def storageRow? (dimension : RawDimension) : Option (StorageRow D) :=
  if !isComputeDimension dimension && isStorageDimension dimension then
    (storageRow dimension).toOption
  else none

/-- What reading a compute row has checked. -/
structure ComputeRow.Checked (row : ComputeRow D) : Prop where
  term : row.key.commercialTerm = row.offer.commercialTerm
  instanceType : row.key.instanceType ≠ ""
  termPresent : row.key.commercialTerm ≠ ""
  sourceVcpu : row.sourceVcpu ≠ 0
  memoryGb : 0 < value row.memoryGb

theorem commercialTerm_ne_empty {dimension : RawDimension} {term : String}
    (h : commercialTerm dimension = .ok term) : term ≠ "" := by
  unfold commercialTerm at h
  split_ifs at h
  · cases h
    decide
  · obtain ⟨lease, -, h⟩ := bind_eq_ok.mp h
    obtain ⟨purchase, -, h⟩ := bind_eq_ok.mp h
    obtain ⟨offering, -, h⟩ := bind_eq_ok.mp h
    cases h
    rintro hempty
    have := congrArg String.toList hempty
    simp at this

theorem checked_of_computeRow {dimension : RawDimension} {row : ComputeRow D}
    (h : computeRow dimension = .ok row) : row.Checked := by
  unfold computeRow at h
  obtain ⟨instanceType, hinstance, h⟩ := bind_eq_ok.mp h
  obtain ⟨deploymentText, -, h⟩ := bind_eq_ok.mp h
  obtain ⟨deployment, -, h⟩ := bind_eq_ok.mp h
  obtain ⟨term, hterm, h⟩ := bind_eq_ok.mp h
  obtain ⟨vcpuText, -, h⟩ := bind_eq_ok.mp h
  obtain ⟨sourceVcpu, -, h⟩ := bind_eq_ok.mp h
  obtain ⟨memoryText, -, h⟩ := bind_eq_ok.mp h
  obtain ⟨memoryGb, hmemory, h⟩ := bind_eq_ok.mp h
  obtain ⟨_, hvcpu, h⟩ := bind_eq_ok.mp h
  obtain ⟨price, -, h⟩ := bind_eq_ok.mp h
  obtain ⟨⟨recurringHourly, upfront⟩, -, h⟩ := bind_eq_ok.mp h
  cases h
  exact {
    term := rfl
    instanceType := ne_empty_of_required (elim_eq_ok hinstance)
    termPresent := commercialTerm_ne_empty hterm
    sourceVcpu := ensure_eq_ok.mp hvcpu
    memoryGb := pos_of_memoryGb (elim_eq_ok hmemory) }

theorem splitPrice_nonneg (hzero : 0 ≤ value (zero : D)) {dimension : RawDimension} {price : D}
    {parts : D × D} (hprice : 0 ≤ value price) (h : splitPrice dimension price = .ok parts) :
    0 ≤ value parts.1 ∧ 0 ≤ value parts.2 := by
  unfold splitPrice at h
  split_ifs at h
  · cases h
    exact ⟨hprice, hzero⟩
  · cases h
    exact ⟨hzero, hprice⟩

theorem prices_nonneg_of_computeRow (hzero : 0 ≤ value (zero : D)) {dimension : RawDimension}
    {row : ComputeRow D} (h : computeRow dimension = .ok row) :
    0 ≤ value row.recurringHourly ∧ 0 ≤ value row.upfront := by
  unfold computeRow at h
  obtain ⟨instanceType, -, h⟩ := bind_eq_ok.mp h
  obtain ⟨deploymentText, -, h⟩ := bind_eq_ok.mp h
  obtain ⟨deployment, -, h⟩ := bind_eq_ok.mp h
  obtain ⟨term, -, h⟩ := bind_eq_ok.mp h
  obtain ⟨vcpuText, -, h⟩ := bind_eq_ok.mp h
  obtain ⟨sourceVcpu, -, h⟩ := bind_eq_ok.mp h
  obtain ⟨memoryText, -, h⟩ := bind_eq_ok.mp h
  obtain ⟨memoryGb, -, h⟩ := bind_eq_ok.mp h
  obtain ⟨_, -, h⟩ := bind_eq_ok.mp h
  obtain ⟨price, hprice, h⟩ := bind_eq_ok.mp h
  obtain ⟨parts, hparts, h⟩ := bind_eq_ok.mp h
  cases h
  exact splitPrice_nonneg hzero (nonneg_of_nonnegativeDecimal (elim_eq_ok hprice)) hparts

theorem prices_nonneg_of_mem (hzero : 0 ≤ value (zero : D)) {dimensions : List RawDimension}
    {row : ComputeRow D} (h : row ∈ dimensions.filterMap computeRow?) :
    0 ≤ value row.recurringHourly ∧ 0 ≤ value row.upfront := by
  obtain ⟨dimension, -, hrow⟩ := List.mem_filterMap.mp h
  unfold computeRow? at hrow
  split_ifs at hrow
  cases hread : (computeRow dimension : Except _ (ComputeRow D)) with
  | error failure => simp [hread, Except.toOption] at hrow
  | ok read =>
      obtain rfl : read = row := by simpa [hread, Except.toOption] using hrow
      exact prices_nonneg_of_computeRow hzero hread

theorem volumeClass_ne_empty {volumeType : Option String} {storageClass : String}
    (h : volumeClass volumeType = .ok storageClass) : storageClass ≠ "" := by
  unfold volumeClass at h
  split at h <;> cases h <;> decide

theorem checked_of_storageRow {dimension : RawDimension} {row : StorageRow D}
    (h : storageRow dimension = .ok row) :
    row.key.storageClass ≠ "" ∧ 0 ≤ value row.monthlyPerGb := by
  unfold storageRow at h
  obtain ⟨_, -, h⟩ := bind_eq_ok.mp h
  obtain ⟨deploymentText, -, h⟩ := bind_eq_ok.mp h
  obtain ⟨deployment, -, h⟩ := bind_eq_ok.mp h
  obtain ⟨storageClass, hclass, h⟩ := bind_eq_ok.mp h
  obtain ⟨monthlyPerGb, hprice, h⟩ := bind_eq_ok.mp h
  cases h
  refine ⟨?_, nonneg_of_nonnegativeDecimal (elim_eq_ok hprice)⟩
  unfold AwsRds.storageClass at hclass
  split at hclass
  · exact normalizeToken_ne_empty (elim_eq_ok hclass)
  · exact volumeClass_ne_empty hclass

/-! ### Merged offers -/

def offerRows (rows : List (ComputeRow D)) (offer : OfferKey) :
    List (ComputeRow D) :=
  rows.filter fun row => row.offer = offer

/-- What the offers hold once the compute rows are merged. -/
structure OffersMerged (rows : List (ComputeRow D))
    (offers : HashMap OfferKey (ComputeAccumulator D)) : Prop where
  rows_checked : ∀ row ∈ rows, row.Checked
  filled : ∀ offer component, offers.lookup offer = some component →
    offerRows rows offer ≠ [] ∧ ∀ row ∈ offerRows rows offer, row.key = component.key
  recurring : ∀ offer component, offers.lookup offer = some component →
    sum ((offerRows rows offer).map ComputeRow.recurringHourly) = .ok component.recurringHourly
  upfront : ∀ offer component, offers.lookup offer = some component →
    sum ((offerRows rows offer).map ComputeRow.upfront) = .ok component.upfront
  sizes : ∀ offer component, offers.lookup offer = some component →
    component.sourceVcpu ≠ 0 ∧ 0 < value component.memoryGb
  vacant : ∀ offer, offers.lookup offer = none → offerRows rows offer = []

theorem OffersMerged.empty : OffersMerged ([] : List (ComputeRow D)) ∅ where
  rows_checked _ h := nomatch h
  filled _ _ h := nomatch h
  recurring _ _ h := nomatch h
  upfront _ _ h := nomatch h
  sizes _ _ h := nomatch h
  vacant _ _ := rfl

omit [DecimalArith D] in
theorem offerRows_append_same (rows : List (ComputeRow D)) (row : ComputeRow D) :
    offerRows (rows ++ [row]) row.offer = offerRows rows row.offer ++ [row] := by
  rw [offerRows, List.filter_append, List.filter_singleton, offerRows]
  simp

omit [DecimalArith D] in
theorem offerRows_append_other (rows : List (ComputeRow D)) {row : ComputeRow D}
    {offer : OfferKey} (h : offer ≠ row.offer) :
    offerRows (rows ++ [row]) offer = offerRows rows offer := by
  have hne : ¬ row.offer = offer := fun heq => h heq.symm
  rw [offerRows, List.filter_append, List.filter_singleton, offerRows]
  simp [hne]

/-- The component a row is added to: an earlier one of its offer or a fresh one. -/
theorem OffersMerged.component {rows : List (ComputeRow D)}
    {offers : HashMap OfferKey (ComputeAccumulator D)} (hmerged : OffersMerged rows offers)
    {row : ComputeRow D} (hrow : row.Checked) {source : SourceIdentity}
    {component : ComputeAccumulator D}
    (hcomponent : (offers.lookup row.offer).getD (row.fresh source) = component)
    (hmatches : component.matchesRow row source = true) :
    (∀ earlier ∈ offerRows rows row.offer, earlier.key = component.key) ∧
      row.key = component.key ∧
      sum ((offerRows rows row.offer).map ComputeRow.recurringHourly) =
        .ok component.recurringHourly ∧
      sum ((offerRows rows row.offer).map ComputeRow.upfront) = .ok component.upfront ∧
      component.sourceVcpu ≠ 0 ∧ 0 < value component.memoryGb := by
  rcases hlookup : offers.lookup row.offer with _ | earlier
  · rw [hlookup, Option.getD_none] at hcomponent
    subst hcomponent
    have hnil := hmerged.vacant row.offer hlookup
    rw [hnil]
    exact ⟨fun _ h => (nomatch h), rfl, rfl, rfl, hrow.sourceVcpu, hrow.memoryGb⟩
  · rw [hlookup, Option.getD_some] at hcomponent
    subst hcomponent
    obtain ⟨hne, hkeys⟩ := hmerged.filled row.offer earlier hlookup
    refine ⟨hkeys, ?_, hmerged.recurring row.offer earlier hlookup,
      hmerged.upfront row.offer earlier hlookup, hmerged.sizes row.offer earlier hlookup⟩
    -- the term is part of the offer, the machine has been compared
    obtain ⟨first, hfirst⟩ := List.exists_mem_of_ne_nil _ hne
    obtain ⟨hmem, hoffer⟩ := List.mem_filter.mp hfirst
    have hterm := (hmerged.rows_checked first hmem).term
    rw [of_decide_eq_true hoffer, ← hrow.term, hkeys first hfirst] at hterm
    simp only [ComputeAccumulator.matchesRow, Bool.and_eq_true, beq_iff_eq] at hmatches
    obtain ⟨⟨⟨⟨htype, hdeployment⟩, -⟩, -⟩, -⟩ := hmatches
    rcases hkey : row.key with ⟨instanceType, deployment, term⟩
    rcases hearlier : earlier.key with ⟨instanceType', deployment', term'⟩
    rw [hkey, hearlier] at htype hdeployment hterm
    dsimp only at htype hdeployment hterm
    rw [htype, hdeployment, hterm]

theorem OffersMerged.add {rows : List (ComputeRow D)}
    {offers offers' : HashMap OfferKey (ComputeAccumulator D)} {payload : RdsLeafPayload}
    {dimension : RawDimension} (hmerged : OffersMerged rows offers)
    (h : addComputeDimension offers payload dimension = .ok offers') :
    ∃ row, computeRow dimension = .ok row ∧ OffersMerged (rows ++ [row]) offers' := by
  unfold addComputeDimension at h
  obtain ⟨row, hrow, h⟩ := bind_eq_ok.mp h
  have hrow := checked_eq_ok.mp hrow
  have hchecked := checked_of_computeRow hrow
  refine ⟨row, hrow, ?_⟩
  dsimp only at h
  generalize hcomponent : (offers.lookup row.offer).getD (row.fresh payload.source) = component
    at h
  split at h
  · rename_i hmatches
    obtain ⟨hkeys, hkey, hrecurring, hupfront, hvcpu, hmemory⟩ :=
      hmerged.component hchecked hcomponent hmatches
    obtain ⟨updated, hupdated, h⟩ := bind_eq_ok.mp h
    cases h
    have hupdated := liftM_eq_ok.mp hupdated
    unfold ComputeAccumulator.addRow at hupdated
    obtain ⟨recurringHourly, haddRecurring, hupdated⟩ := bind_eq_ok.mp hupdated
    obtain ⟨upfront, haddUpfront, hupdated⟩ := bind_eq_ok.mp hupdated
    cases hupdated
    constructor
    · intro earlier hmem
      rcases List.mem_append.mp hmem with hold | hnew
      · exact hmerged.rows_checked earlier hold
      · rw [List.mem_singleton.mp hnew]
        exact hchecked
    · intro offer stored hlookup
      rcases HashMap.lookup_insert_eq_some hlookup with ⟨rfl, rfl⟩ | ⟨hother, hlookup⟩
      · rw [offerRows_append_same]
        refine ⟨List.append_ne_nil_of_right_ne_nil _ (List.cons_ne_nil _ _), ?_⟩
        intro earlier hmem
        rcases List.mem_append.mp hmem with hold | hnew
        · exact hkeys earlier hold
        · rw [List.mem_singleton.mp hnew]
          exact hkey
      · rw [offerRows_append_other rows hother]
        exact hmerged.filled offer stored hlookup
    · intro offer stored hlookup
      rcases HashMap.lookup_insert_eq_some hlookup with ⟨rfl, rfl⟩ | ⟨hother, hlookup⟩
      · rw [offerRows_append_same, List.map_append]
        exact sum_concat hrecurring haddRecurring
      · rw [offerRows_append_other rows hother]
        exact hmerged.recurring offer stored hlookup
    · intro offer stored hlookup
      rcases HashMap.lookup_insert_eq_some hlookup with ⟨rfl, rfl⟩ | ⟨hother, hlookup⟩
      · rw [offerRows_append_same, List.map_append]
        exact sum_concat hupfront haddUpfront
      · rw [offerRows_append_other rows hother]
        exact hmerged.upfront offer stored hlookup
    · intro offer stored hlookup
      rcases HashMap.lookup_insert_eq_some hlookup with ⟨rfl, rfl⟩ | ⟨hother, hlookup⟩
      · exact ⟨hvcpu, hmemory⟩
      · exact hmerged.sizes offer stored hlookup
    · intro offer hlookup
      obtain ⟨hother, hlookup⟩ := HashMap.lookup_insert_eq_none hlookup
      rw [offerRows_append_other rows hother]
      exact hmerged.vacant offer hlookup
  · cases h

/-! ### All rows -/

/-- What the storage rates hold once the storage rows are merged. -/
structure StorageMerged (rows : List (StorageRow D))
    (storage : HashMap StorageKey (StorageComponent D)) : Prop where
  filled : ∀ key component, storage.lookup key = some component →
    key.storageClass ≠ "" ∧ (∃ row ∈ rows, row.key = key) ∧
      ∀ row ∈ rows, row.key = key → value row.monthlyPerGb = value component.monthlyPerGb
  vacant : ∀ key, storage.lookup key = none → ∀ row ∈ rows, row.key ≠ key

theorem StorageMerged.empty : StorageMerged ([] : List (StorageRow D)) ∅ where
  filled _ _ h := nomatch h
  vacant _ _ _ h := nomatch h

theorem StorageMerged.add {rows : List (StorageRow D)}
    {storage storage' : HashMap StorageKey (StorageComponent D)}
    {dimension : RawDimension} (hmerged : StorageMerged rows storage)
    (h : addStorageDimension storage dimension = .ok storage') :
    ∃ row, storageRow dimension = .ok row ∧ StorageMerged (rows ++ [row]) storage' := by
  unfold addStorageDimension at h
  obtain ⟨row, hrow, h⟩ := bind_eq_ok.mp h
  refine ⟨row, hrow, ?_⟩
  dsimp only at h
  split at h
  · rename_i hsame
    cases h
    constructor
    · intro key component hlookup
      rcases HashMap.lookup_insert_eq_some hlookup with ⟨rfl, rfl⟩ | ⟨hother, hlookup⟩
      · refine ⟨(checked_of_storageRow hrow).1,
          ⟨row, List.mem_append_right _ List.mem_cons_self, rfl⟩, ?_⟩
        intro earlier hmem hkey
        rcases List.mem_append.mp hmem with hold | hnew
        · rcases hstored : storage.lookup row.key with _ | stored
          · exact absurd hkey (hmerged.vacant row.key hstored earlier hold)
          · rw [Option.getD_some]
            exact (hmerged.filled row.key stored hstored).2.2 earlier hold hkey
        · rw [List.mem_singleton.mp hnew]
          exact hsame.symm
      · obtain ⟨hclass, ⟨earlier, hmem, hkey⟩, hprices⟩ :=
          hmerged.filled key component hlookup
        refine ⟨hclass, ⟨earlier, List.mem_append_left _ hmem, hkey⟩, ?_⟩
        intro other hmem' hkey'
        rcases List.mem_append.mp hmem' with hold | hnew
        · exact hprices other hold hkey'
        · rw [List.mem_singleton.mp hnew] at hkey'
          exact absurd hkey'.symm hother
    · intro key hlookup other hmem hkey
      obtain ⟨hother, hlookup⟩ := HashMap.lookup_insert_eq_none hlookup
      rcases List.mem_append.mp hmem with hold | hnew
      · exact hmerged.vacant key hlookup other hold hkey
      · rw [List.mem_singleton.mp hnew] at hkey
        exact hother hkey.symm
  · cases h

def LicensePositive (slot : Option (LicenseComponent D)) : Prop :=
  ∀ component, slot = some component → 0 < value component.coreHourly

theorem mergeLicense_positive {slot slot' : Option (LicenseComponent D)}
    {dimension : RawDimension} {coreHourly : D} (hslot : LicensePositive slot)
    (hprice : licensePrice dimension = .ok coreHourly)
    (h : mergeLicense slot coreHourly dimension.rateCode = .ok slot') : LicensePositive slot' := by
  have hpos : 0 < value coreHourly := by
    unfold licensePrice at hprice
    obtain ⟨parsed, -, hprice⟩ := bind_eq_ok.mp hprice
    obtain ⟨_, hensure, hprice⟩ := bind_eq_ok.mp hprice
    cases hprice
    exact ensure_eq_ok.mp hensure
  unfold mergeLicense at h
  rcases slot with _ | component
  · cases h
    intro _ heq
    cases heq
    exact hpos
  · dsimp only at h
    split at h
    · cases h
      intro _ heq
      cases heq
      exact hslot component rfl
    · cases h

/-- What the rates hold once the rows are merged. -/
structure Merged (dimensions : List RawDimension) (rates : RdsRates D) : Prop where
  offers : OffersMerged (dimensions.filterMap computeRow?) rates.computeOffers
  storage : StorageMerged (dimensions.filterMap storageRow?) rates.storage
  standard : LicensePositive rates.standardLicense
  enterprise : LicensePositive rates.enterpriseLicense

theorem Merged.empty : Merged [] (RdsRates.empty : RdsRates D) where
  offers := .empty
  storage := .empty
  standard _ h := nomatch h
  enterprise _ h := nomatch h

theorem Merged.add {dimensions : List RawDimension} {rates rates' : RdsRates D}
    {payload : RdsLeafPayload} {dimension : RawDimension} (hmerged : Merged dimensions rates)
    (h : addRdsDimension payload rates dimension = .ok rates') :
    Merged (dimensions ++ [dimension]) rates' := by
  unfold addRdsDimension at h
  split at h
  · rename_i hcompute
    obtain ⟨offers, hoffers, h⟩ := bind_eq_ok.mp h
    cases h
    obtain ⟨row, hrow, hadded⟩ := hmerged.offers.add hoffers
    have hsome : computeRow? dimension = some row := by
      rw [computeRow?, if_pos hcompute, hrow]
      rfl
    have hnone : (storageRow? dimension : Option (StorageRow D)) = none := by
      rw [storageRow?, hcompute]
      rfl
    constructor
    · rw [filterMap_concat_some _ hsome]
      exact hadded
    · rw [filterMap_concat_none _ hnone]
      exact hmerged.storage
    · exact hmerged.standard
    · exact hmerged.enterprise
  · rename_i hcompute
    have hnone : (computeRow? dimension : Option (ComputeRow D)) = none := by
      rw [computeRow?, if_neg hcompute]
    have hoffers : (dimensions ++ [dimension]).filterMap computeRow? =
        dimensions.filterMap computeRow? := filterMap_concat_none _ hnone
    split at h
    · rename_i hstorage
      obtain ⟨storage, hadd, h⟩ := bind_eq_ok.mp h
      cases h
      obtain ⟨row, hrow, hadded⟩ := hmerged.storage.add (checked_eq_ok.mp hadd)
      have hsome : storageRow? dimension = some row := by
        rw [storageRow?, if_pos (by simp [hcompute, hstorage]), hrow]
        rfl
      constructor
      · rw [hoffers]
        exact hmerged.offers
      · rw [filterMap_concat_some _ hsome]
        exact hadded
      · exact hmerged.standard
      · exact hmerged.enterprise
    · rename_i hstorage
      cases h
      have hnone : (storageRow? dimension : Option (StorageRow D)) = none := by
        rw [storageRow?, if_neg (by simp [hstorage])]
      constructor
      · rw [hoffers]
        exact hmerged.offers
      · rw [filterMap_concat_none _ hnone]
        exact hmerged.storage
      · exact hmerged.standard
      · exact hmerged.enterprise

theorem Merged.license {dimensions : List RawDimension} {rates rates' : RdsRates D}
    {dimension : RawDimension} (hmerged : Merged dimensions rates)
    (h : addLicenseDimension rates dimension = .ok rates') : Merged dimensions rates' := by
  unfold addLicenseDimension at h
  split at h
  · cases h
    exact hmerged
  obtain ⟨_, -, h⟩ := bind_eq_ok.mp h
  split at h
  · obtain ⟨price, hprice, h⟩ := bind_eq_ok.mp h
    obtain ⟨license, hlicense, h⟩ := bind_eq_ok.mp h
    cases h
    exact { hmerged with standard := mergeLicense_positive hmerged.standard hprice hlicense }
  split at h
  · obtain ⟨price, hprice, h⟩ := bind_eq_ok.mp h
    obtain ⟨license, hlicense, h⟩ := bind_eq_ok.mp h
    cases h
    exact { hmerged with enterprise := mergeLicense_positive hmerged.enterprise hprice hlicense }
  · cases h
    exact hmerged

theorem Merged.leaf {dimensions : List RawDimension} {rates rates' : RdsRates D}
    {payload : RdsLeafPayload} (hmerged : Merged dimensions rates)
    (h : addLeaf rates payload = .ok rates') : Merged (dimensions ++ dimensionsOf [payload]) rates' := by
  unfold addLeaf at h
  split at h
  · cases h
  rcases hbody : payload.body with _ | leaf
  · simp only [hbody] at h
    cases h
  simp only [hbody] at h
  split at h
  · rename_i hoffer
    have hrows : dimensionsOf [payload] = leaf.dimensions := by
      rw [dimensionsOf, List.flatMap_singleton, hbody, Option.elim_some, if_pos hoffer]
    rw [hrows]
    refine foldlM_rule (fun done state => Merged (dimensions ++ done) state) h ?_ ?_
    · rw [List.append_nil]
      exact hmerged
    · intro done dimension state state' _ hdone hstep
      rw [← List.append_assoc]
      exact hdone.add hstep
  · rename_i hoffer
    have hrows : dimensionsOf [payload] = [] := by
      rw [dimensionsOf, List.flatMap_singleton, hbody, Option.elim_some, if_neg hoffer]
    rw [hrows, List.append_nil]
    split at h
    · refine foldlM_rule (fun _ state => Merged dimensions state) h hmerged ?_
      intro _ dimension state state' _ hdone hstep
      exact hdone.license (checked_eq_ok.mp hstep)
    · cases h

theorem merged_of_leaves {leaves : List RdsLeafPayload} {rates : RdsRates D}
    (h : leaves.foldlM addLeaf RdsRates.empty = .ok rates) : Merged (dimensionsOf leaves) rates := by
  refine foldlM_rule (fun done state => Merged (dimensionsOf done) state) h .empty ?_
  intro done payload state state' _ hdone hstep
  have := hdone.leaf hstep
  rwa [dimensionsOf, dimensionsOf, ← List.flatMap_append, ← dimensionsOf] at this

/-! ### Collapsed offers -/

/-- What an offer costs an hour, from its rows. -/
def offerHourly (rows : List (ComputeRow D)) (offer : OfferKey) :
    Except (Halt RdsNormalizationError) D := do
  let recurringHourly ← sum ((offerRows rows offer).map ComputeRow.recurringHourly)
  let upfront ← sum ((offerRows rows offer).map ComputeRow.upfront)
  let hours ← checked (commercialTermHours offer.commercialTerm)
  let share ← (div upfront hours : Except ArithmeticFault D)
  (add recurringHourly share : Except ArithmeticFault D)

theorem OffersMerged.effectiveHourly_eq {rows : List (ComputeRow D)}
    {offers : HashMap OfferKey (ComputeAccumulator D)} (hmerged : OffersMerged rows offers)
    {offer : OfferKey} {component : ComputeAccumulator D}
    (hlookup : offers.lookup offer = some component) :
    effectiveHourly component = offerHourly rows offer := by
  obtain ⟨hne, hkeys⟩ := hmerged.filled offer component hlookup
  obtain ⟨first, hfirst⟩ := List.exists_mem_of_ne_nil _ hne
  obtain ⟨hmem, hoffer⟩ := List.mem_filter.mp hfirst
  have hterm := (hmerged.rows_checked first hmem).term
  rw [of_decide_eq_true hoffer, hkeys first hfirst] at hterm
  rw [effectiveHourly, offerHourly, hmerged.recurring offer component hlookup,
    hmerged.upfront offer component hlookup, hterm]
  rfl

/-- What is known once the given offers are collapsed. -/
structure Collapsed (offers : List (OfferKey × ComputeAccumulator D))
    (collapsed : CollapsedOffers D) : Prop where
  priced : ∀ offer ∈ offers, ∃ hourly, effectiveHourly offer.2 = .ok hourly
  kept : ∀ key component, collapsed.compute.lookup key = some component →
    component.sourceVcpu ≠ 0 ∧ 0 < value component.memoryGb ∧
      (∃ offer ∈ offers, offer.2.key = key) ∧
      ∀ offer ∈ offers, offer.2.key = key → ∃ hourly, effectiveHourly offer.2 = .ok hourly ∧
        value hourly = value component.effectiveHourly
  dropped : ∀ key, collapsed.compute.lookup key = none →
    (∀ offer ∈ offers, offer.2.key ≠ key) ∨ key ∈ collapsed.conflicts
  conflicting : ∀ key ∈ collapsed.conflicts, collapsed.compute.lookup key = none ∧
    ∃ left ∈ offers, ∃ right ∈ offers, left.2.key = key ∧ right.2.key = key ∧
      ∃ l r, effectiveHourly left.2 = .ok l ∧ effectiveHourly right.2 = .ok r ∧ value l ≠ value r

theorem Collapsed.empty :
    Collapsed ([] : List (OfferKey × ComputeAccumulator D)) { compute := ∅, conflicts := [] } where
  priced _ h := nomatch h
  kept _ _ h := nomatch h
  dropped _ _ := .inl fun _ h => nomatch h
  conflicting _ h := nomatch h

section Collapse

variable {offers : List (OfferKey × ComputeAccumulator D)}
  {collapsed collapsed' : CollapsedOffers D}
  {offer : OfferKey × ComputeAccumulator D}

omit [DecimalArith D] in
/-- What holds of all offers so far and of the next holds of them together. -/
theorem forall_mem_concat {P : OfferKey × ComputeAccumulator D → Prop}
    (hold : ∀ earlier ∈ offers, P earlier) (hnew : P offer) :
    ∀ earlier ∈ offers ++ [offer], P earlier := by
  intro earlier hmem
  rcases List.mem_append.mp hmem with hmem | hmem
  · exact hold earlier hmem
  · rw [List.mem_singleton.mp hmem]
    exact hnew

omit [DecimalArith D] in
theorem exists_mem_concat {P : OfferKey × ComputeAccumulator D → Prop}
    (h : ∃ earlier ∈ offers, P earlier) : ∃ earlier ∈ offers ++ [offer], P earlier := by
  obtain ⟨earlier, hmem, hP⟩ := h
  exact ⟨earlier, List.mem_append_left _ hmem, hP⟩

/-- Two offers of a key that differ stay so. -/
theorem Collapsed.conflicting_concat (h : Collapsed offers collapsed) {key : ComputeKey}
    (hkey : key ∈ collapsed.conflicts) :
    ∃ left ∈ offers ++ [offer], ∃ right ∈ offers ++ [offer], left.2.key = key ∧
      right.2.key = key ∧ ∃ l r, effectiveHourly left.2 = .ok l ∧
        effectiveHourly right.2 = .ok r ∧ value l ≠ value r := by
  obtain ⟨-, left, hleft, right, hright, hprices⟩ := h.conflicting key hkey
  exact ⟨left, List.mem_append_left _ hleft, right, List.mem_append_left _ hright, hprices⟩

theorem Collapsed.step (h : Collapsed offers collapsed)
    (hsizes : offer.2.sourceVcpu ≠ 0 ∧ 0 < value offer.2.memoryGb)
    (hstep : collapseOffer collapsed offer = .ok collapsed') :
    Collapsed (offers ++ [offer]) collapsed' := by
  unfold collapseOffer at hstep
  obtain ⟨hourly, hhourly, hstep⟩ := bind_eq_ok.mp hstep
  have hstep := checked_eq_ok.mp hstep
  have hpriced := forall_mem_concat h.priced ⟨hourly, hhourly⟩
  unfold mergeOffer at hstep
  split at hstep
  · -- the key is in conflict already
    rename_i hconflict
    cases hstep
    obtain ⟨hgone, -⟩ := h.conflicting offer.2.key hconflict
    refine ⟨hpriced, fun key component hlookup => ?_, fun key hnone => ?_, fun key hkey => ?_⟩
    · have hother : offer.2.key ≠ key := by
        rintro rfl
        rw [hgone] at hlookup
        cases hlookup
      obtain ⟨hvcpu, hmemory, hexists, hprices⟩ := h.kept key component hlookup
      exact ⟨hvcpu, hmemory, exists_mem_concat hexists,
        forall_mem_concat hprices fun heq => absurd heq hother⟩
    · by_cases hsame : offer.2.key = key
      · exact .inr (hsame ▸ hconflict)
      · exact (h.dropped key hnone).imp_left fun hnever => forall_mem_concat hnever hsame
    · exact ⟨(h.conflicting key hkey).1, h.conflicting_concat hkey⟩
  rename_i hconflict
  rcases hlookup : collapsed.compute.lookup offer.2.key with _ | component
  · -- the first offer of its key
    simp only [hlookup] at hstep
    cases hstep
    have hnever := (h.dropped offer.2.key hlookup).resolve_right hconflict
    refine ⟨hpriced, fun key stored hstored => ?_, fun key hnone => ?_, fun key hkey => ?_⟩
    · rcases HashMap.lookup_insert_eq_some hstored with ⟨rfl, rfl⟩ | ⟨hother, hstored⟩
      · exact ⟨hsizes.1, hsizes.2, ⟨offer, List.mem_append_right _ List.mem_cons_self, rfl⟩,
          forall_mem_concat (fun earlier hmem heq => absurd heq (hnever earlier hmem))
            fun _ => ⟨hourly, hhourly, rfl⟩⟩
      · obtain ⟨hvcpu, hmemory, hexists, hprices⟩ := h.kept key stored hstored
        exact ⟨hvcpu, hmemory, exists_mem_concat hexists,
          forall_mem_concat hprices fun heq => absurd heq.symm hother⟩
    · obtain ⟨hother, hnone⟩ := HashMap.lookup_insert_eq_none hnone
      exact (h.dropped key hnone).imp_left fun hnever =>
        forall_mem_concat hnever fun heq => hother heq.symm
    · refine ⟨?_, h.conflicting_concat hkey⟩
      have hother : key ≠ offer.2.key := fun heq => hconflict (heq ▸ hkey)
      dsimp only
      rw [AList.lookup_insert_ne hother]
      exact (h.conflicting key hkey).1
  simp only [hlookup] at hstep
  split at hstep
  · cases hstep
  obtain ⟨hvcpu, hmemory, ⟨first, hfirst, hfirstKey⟩, hprices⟩ := h.kept _ component hlookup
  split at hstep
  · -- an offer that does not agree with the earlier ones
    rename_i hdiffers
    cases hstep
    have hgone : ∀ key, (collapsed.compute.erase offer.2.key).lookup key = none →
        key = offer.2.key ∨ key ≠ offer.2.key ∧ collapsed.compute.lookup key = none := by
      intro key hnone
      by_cases hkey : key = offer.2.key
      · exact .inl hkey
      · rw [AList.lookup_erase_ne hkey] at hnone
        exact .inr ⟨hkey, hnone⟩
    refine ⟨hpriced, fun key stored hstored => ?_, fun key hnone => ?_, fun key hkey => ?_⟩
    · have hother : key ≠ offer.2.key := by
        rintro rfl
        dsimp only at hstored
        rw [AList.lookup_erase] at hstored
        cases hstored
      dsimp only at hstored
      rw [AList.lookup_erase_ne hother] at hstored
      obtain ⟨hvcpu, hmemory, hexists, hprices⟩ := h.kept key stored hstored
      exact ⟨hvcpu, hmemory, exists_mem_concat hexists,
        forall_mem_concat hprices fun heq => absurd heq.symm hother⟩
    · rcases hgone key hnone with rfl | ⟨hother, hnone⟩
      · exact .inr List.mem_cons_self
      · exact (h.dropped key hnone).imp (fun hnever =>
          forall_mem_concat hnever fun heq => hother heq.symm) (List.mem_cons_of_mem _)
    · rcases List.mem_cons.mp hkey with rfl | hkey
      · obtain ⟨earlier, hearlier, hsame⟩ := hprices first hfirst hfirstKey
        refine ⟨AList.lookup_erase .., first, List.mem_append_left _ hfirst, offer,
          List.mem_append_right _ List.mem_cons_self, hfirstKey, rfl, earlier, hourly, hearlier,
          hhourly, ?_⟩
        rw [hsame]
        exact hdiffers
      · refine ⟨?_, h.conflicting_concat hkey⟩
        have hother : key ≠ offer.2.key := fun heq => hconflict (heq ▸ hkey)
        dsimp only
        rw [AList.lookup_erase_ne hother]
        exact (h.conflicting key hkey).1
  · -- an offer that agrees with the earlier ones
    rename_i hagrees
    cases hstep
    have hagrees : value component.effectiveHourly = value hourly := not_not.mp hagrees
    refine ⟨hpriced, fun key stored hstored => ?_, fun key hnone => ?_, fun key hkey => ?_⟩
    · rcases HashMap.lookup_insert_eq_some hstored with ⟨rfl, rfl⟩ | ⟨hother, hstored⟩
      · exact ⟨hvcpu, hmemory, exists_mem_concat ⟨first, hfirst, hfirstKey⟩,
          forall_mem_concat hprices fun _ => ⟨hourly, hhourly, hagrees.symm⟩⟩
      · obtain ⟨hvcpu, hmemory, hexists, hprices⟩ := h.kept key stored hstored
        exact ⟨hvcpu, hmemory, exists_mem_concat hexists,
          forall_mem_concat hprices fun heq => absurd heq.symm hother⟩
    · obtain ⟨hother, hnone⟩ := HashMap.lookup_insert_eq_none hnone
      exact (h.dropped key hnone).imp_left fun hnever =>
        forall_mem_concat hnever fun heq => hother heq.symm
    · refine ⟨?_, h.conflicting_concat hkey⟩
      have hother : key ≠ offer.2.key := fun heq => hconflict (heq ▸ hkey)
      dsimp only
      rw [AList.lookup_insert_ne hother]
      exact (h.conflicting key hkey).1

end Collapse

theorem collapsed_of_offers {rows : List (ComputeRow D)}
    {offers : HashMap OfferKey (ComputeAccumulator D)} (hmerged : OffersMerged rows offers)
    {collapsed : CollapsedOffers D} (h : collapseComputeOffers offers = .ok collapsed) :
    Collapsed offers.toSortedList collapsed := by
  refine foldlM_rule Collapsed h .empty ?_
  intro done offer state state' hmem hdone hstep
  exact hdone.step (hmerged.sizes offer.1 offer.2 (HashMap.mem_toSortedList.mp hmem)) hstep

/-! ### Offers that agree -/

/-- The offers of a machine and term come to one price. -/
def Agreed (rows : List (ComputeRow D)) (key : ComputeKey) : Prop :=
  ∀ left ∈ rows, ∀ right ∈ rows, left.key = key → right.key = key → ∀ l r,
    offerHourly rows left.offer = .ok l → offerHourly rows right.offer = .ok r → value l = value r

section Records

variable {rows : List (ComputeRow D)}
  {offers : HashMap OfferKey (ComputeAccumulator D)}

theorem OffersMerged.of_row (hmerged : OffersMerged rows offers) {row : ComputeRow D}
    (hrow : row ∈ rows) :
    ∃ component, offers.lookup row.offer = some component ∧ component.key = row.key := by
  have hmem : row ∈ offerRows rows row.offer := List.mem_filter.mpr ⟨hrow, decide_eq_true rfl⟩
  rcases hlookup : offers.lookup row.offer with _ | component
  · rw [hmerged.vacant row.offer hlookup] at hmem
    cases hmem
  · exact ⟨component, rfl, ((hmerged.filled row.offer component hlookup).2 row hmem).symm⟩

theorem OffersMerged.of_lookup (hmerged : OffersMerged rows offers) {offer : OfferKey}
    {component : ComputeAccumulator D} (hlookup : offers.lookup offer = some component) :
    ∃ row ∈ rows, row.offer = offer ∧ row.key = component.key := by
  obtain ⟨hne, hkeys⟩ := hmerged.filled offer component hlookup
  obtain ⟨row, hrow⟩ := List.exists_mem_of_ne_nil _ hne
  obtain ⟨hmem, hoffer⟩ := List.mem_filter.mp hrow
  exact ⟨row, hmem, of_decide_eq_true hoffer, hkeys row hrow⟩

variable {collapsed : CollapsedOffers D}

/-- A kept component has the price of every row of its key. -/
theorem Collapsed.price_of_row (hcollapsed : Collapsed offers.toSortedList collapsed)
    (hmerged : OffersMerged rows offers) {row : ComputeRow D} (hrow : row ∈ rows)
    {component : ComputeComponent D}
    (hkept : collapsed.compute.lookup row.key = some component) :
    ∃ hourly, offerHourly rows row.offer = .ok hourly ∧
      value hourly = value component.effectiveHourly := by
  obtain ⟨stored, hlookup, hkey⟩ := hmerged.of_row hrow
  obtain ⟨-, -, -, hprices⟩ := hcollapsed.kept row.key component hkept
  obtain ⟨hourly, hhourly, hvalue⟩ :=
    hprices (row.offer, stored) (HashMap.mem_toSortedList.mpr hlookup) hkey
  rw [hmerged.effectiveHourly_eq hlookup] at hhourly
  exact ⟨hourly, hhourly, hvalue⟩

theorem Collapsed.agreed_of_kept (hcollapsed : Collapsed offers.toSortedList collapsed)
    (hmerged : OffersMerged rows offers) {key : ComputeKey}
    {component : ComputeComponent D}
    (hkept : collapsed.compute.lookup key = some component) : Agreed rows key := by
  rintro left hleft right hright rfl hkey l r hl hr
  obtain ⟨l', hl', hleftValue⟩ := hcollapsed.price_of_row hmerged hleft hkept
  obtain ⟨r', hr', hrightValue⟩ := hcollapsed.price_of_row hmerged hright (hkey ▸ hkept)
  obtain rfl := Except.ok.inj (hl.symm.trans hl')
  obtain rfl := Except.ok.inj (hr.symm.trans hr')
  rw [hleftValue, hrightValue]

theorem Collapsed.kept_of_agreed (hcollapsed : Collapsed offers.toSortedList collapsed)
    (hmerged : OffersMerged rows offers) {row : ComputeRow D} (hrow : row ∈ rows)
    (hagreed : Agreed rows row.key) :
    ∃ component, collapsed.compute.lookup row.key = some component := by
  rcases hkept : collapsed.compute.lookup row.key with _ | component
  · exfalso
    rcases hcollapsed.dropped row.key hkept with hnever | hconflict
    · obtain ⟨stored, hlookup, hkey⟩ := hmerged.of_row hrow
      exact hnever (row.offer, stored) (HashMap.mem_toSortedList.mpr hlookup) hkey
    · obtain ⟨-, left, hleft, right, hright, hleftKey, hrightKey, l, r, hl, hr, hne⟩ :=
        hcollapsed.conflicting row.key hconflict
      have hleft := HashMap.mem_toSortedList.mp hleft
      have hright := HashMap.mem_toSortedList.mp hright
      obtain ⟨leftRow, hleftMem, hleftOffer, hleftSame⟩ := hmerged.of_lookup hleft
      obtain ⟨rightRow, hrightMem, hrightOffer, hrightSame⟩ := hmerged.of_lookup hright
      rw [hmerged.effectiveHourly_eq hleft, ← hleftOffer] at hl
      rw [hmerged.effectiveHourly_eq hright, ← hrightOffer] at hr
      exact hne (hagreed leftRow hleftMem rightRow hrightMem (hleftSame.trans hleftKey)
        (hrightSame.trans hrightKey) l r hl hr)
  · exact ⟨component, rfl⟩

end Records

theorem mem_rdsRecords {regionCode : String} {rates : RdsRates D}
    {collapsed : CollapsedOffers D} {record : AwsRdsRateRecord D} :
    record ∈ rdsRecords regionCode rates collapsed ↔ ∃ key component storageKey storage,
      collapsed.compute.lookup key = some component ∧
        rates.storage.lookup storageKey = some storage ∧
        storageKey.deployment = key.deployment ∧
        record = rdsRecord regionCode
          (licenseOrFallback rates.standardLicense standardLicenseFallback)
          (licenseOrFallback rates.enterpriseLicense enterpriseLicenseFallback)
          (key, component) (storageKey, storage) := by
  unfold rdsRecords storageOf
  dsimp only
  rw [(List.perm_insertionSort _ _).mem_iff, List.mem_flatMap]
  constructor
  · rintro ⟨⟨key, component⟩, hcompute, hrecord⟩
    obtain ⟨⟨storageKey, storage⟩, hstorage, rfl⟩ := List.mem_map.mp hrecord
    obtain ⟨hmem, hdeployment⟩ := List.mem_filter.mp hstorage
    exact ⟨key, component, storageKey, storage, HashMap.mem_toSortedList.mp hcompute,
      HashMap.mem_toSortedList.mp hmem, of_decide_eq_true hdeployment, rfl⟩
  · rintro ⟨key, component, storageKey, storage, hcompute, hstorage, hdeployment, rfl⟩
    exact ⟨(key, component), HashMap.mem_toSortedList.mpr hcompute, List.mem_map_of_mem
      (List.mem_filter.mpr ⟨HashMap.mem_toSortedList.mpr hstorage, decide_eq_true hdeployment⟩)⟩

end TcoCalculator.AwsRds
