/-
The checks of a snapshot on the Azure records of one machine and on those of
the managed disks.
-/
import TcoCalculator.Domain.DecimalText
import TcoCalculator.Pricing.AzureVmRecords
import TcoCalculator.Pricing.SnapshotChecks

namespace TcoCalculator

open DecimalArith Fallible Halt PriceSnapshot

namespace AzureVm

/-! ### Pairs of options -/

/-- Taking the license off the rounded total gives the compute price back. -/
def Recovered (price license : Decimal96) : Prop :=
  ∃ total difference, add price license = .ok total ∧ sub total license = .ok difference ∧
    difference.toRat = price.toRat

section Pairs

variable {sku : String} {license : Decimal96} {prices : VmPurchaseOption → Option Decimal96}
  {group : List (AzureVmRateRecord Decimal96)} {pair : VmPurchaseOption × VmPurchaseOption}
  {price : Decimal96}

/-- Every option belongs to one pair, on one side of it. -/
theorem vmPairs_distinct {other : VmPurchaseOption × VmPurchaseOption} (hpair : pair ∈ vmPairs)
    (hother : other ∈ vmPairs) :
    (other.1 = pair.1 → other = pair) ∧ (other.2 = pair.2 → other = pair) ∧
      other.1 ≠ pair.2 := by
  have hall : ∀ pair ∈ vmPairs, ∀ other ∈ vmPairs, (other.1 = pair.1 → other = pair) ∧
      (other.2 = pair.2 → other = pair) ∧ other.1 ≠ pair.2 := by
    decide
  exact hall pair hpair other hother

theorem vmOption_eq_some {option : VmPurchaseOption}
    (h : ∃ record ∈ group, record.purchaseOption = option) :
    ∃ record ∈ group, record.purchaseOption = option ∧ vmOption group option = some record :=
  KeyedGroups.find?_of_mem h

theorem vmOption_eq_none {option : VmPurchaseOption}
    (h : ∀ record ∈ group, record.purchaseOption ≠ option) : vmOption group option = none := by
  unfold vmOption
  rw [List.find?_eq_none]
  intro record hrecord hoption
  exact h record hrecord (beq_iff_eq.mp hoption)

/-- The licensed record of a priced pair. -/
theorem PairsPriced.find_licensed (h : PairsPriced sku license prices vmPairs group)
    (hpair : pair ∈ vmPairs) (hprice : prices pair.1 = some price) :
    ∃ record, vmOption group pair.1 = some record ∧
      add price license = .ok record.hourlyRate ∧ record.licenseHourly = license := by
  obtain ⟨record, hrecord, hoption, hfind⟩ :=
    vmOption_eq_some (h.present pair hpair price hprice).1
  obtain ⟨other, hother, otherPrice, hotherPrice, hpriced⟩ := h.priced record hrecord
  refine ⟨record, hfind, ?_⟩
  rcases hpriced.rates with ⟨hlicensed, hrates⟩ | ⟨hahb, -⟩
  · obtain rfl := (vmPairs_distinct hpair hother).1 (hlicensed.symm.trans hoption)
    obtain rfl := Option.some.inj (hprice.symm.trans hotherPrice)
    exact hrates
  · exact absurd (hoption.symm.trans hahb) (vmPairs_distinct hother hpair).2.2

/-- The hybrid-benefit record of a priced pair. -/
theorem PairsPriced.find_ahb (h : PairsPriced sku license prices vmPairs group)
    (hpair : pair ∈ vmPairs) (hprice : prices pair.1 = some price) :
    ∃ record, vmOption group pair.2 = some record ∧
      record.hourlyRate.toRat = price.toRat ∧ record.licenseHourly = zero := by
  obtain ⟨record, hrecord, hoption, hfind⟩ :=
    vmOption_eq_some (h.present pair hpair price hprice).2
  obtain ⟨other, hother, otherPrice, hotherPrice, hpriced⟩ := h.priced record hrecord
  refine ⟨record, hfind, ?_⟩
  rcases hpriced.rates with ⟨hlicensed, -⟩ | ⟨hahb, hadd, hlicense⟩
  · exact absurd (hlicensed.symm.trans hoption) (vmPairs_distinct hpair hother).2.2
  · obtain rfl := (vmPairs_distinct hpair hother).2.1 (hahb.symm.trans hoption)
    obtain rfl := Option.some.inj (hprice.symm.trans hotherPrice)
    exact ⟨Decimal96.toRat_of_add_zero Decimal96.toRat_zero hadd, hlicense⟩

/-- A pair without a price is not there. -/
theorem PairsPriced.find_none (h : PairsPriced sku license prices vmPairs group)
    (hpair : pair ∈ vmPairs) (hprice : prices pair.1 = none) :
    vmOption group pair.1 = none ∧ vmOption group pair.2 = none := by
  constructor
  · apply vmOption_eq_none
    intro record hrecord hoption
    obtain ⟨other, hother, _, hotherPrice, hpriced⟩ := h.priced record hrecord
    rcases hpriced.rates with ⟨hlicensed, -⟩ | ⟨hahb, -⟩
    · obtain rfl := (vmPairs_distinct hpair hother).1 (hlicensed.symm.trans hoption)
      exact nomatch hprice.symm.trans hotherPrice
    · exact absurd (hoption.symm.trans hahb) (vmPairs_distinct hother hpair).2.2
  · apply vmOption_eq_none
    intro record hrecord hoption
    obtain ⟨other, hother, _, hotherPrice, hpriced⟩ := h.priced record hrecord
    rcases hpriced.rates with ⟨hlicensed, -⟩ | ⟨hahb, -⟩
    · exact absurd (hlicensed.symm.trans hoption) (vmPairs_distinct hpair hother).2.2
    · obtain rfl := (vmPairs_distinct hpair hother).2.1 (hahb.symm.trans hoption)
      exact nomatch hprice.symm.trans hotherPrice

/-- The check of a pair tells whether the price is recovered. -/
theorem validAzureVmOptionPair_decides {licensed ahb : AzureVmRateRecord Decimal96}
    (hprice : 0 < price.toRat) (hlicense : 0 < license.toRat)
    (htotal : add price license = .ok licensed.hourlyRate)
    (hlicensed : licensed.licenseHourly = license)
    (hahb : ahb.hourlyRate.toRat = price.toRat) (hnone : ahb.licenseHourly = zero) :
    Decides (validAzureVmOptionPair licensed ahb) (Recovered price license) := by
  unfold validAzureVmOptionPair
  simp only [Decimal96.value_eq]
  rw [hlicensed, hnone, Decimal96.toRat_zero, hahb]
  by_cases hless : license.toRat < licensed.hourlyRate.toRat
  · obtain ⟨difference, hdifference⟩ := Decimal96.sub_returns hlicense.le hless.le
    rw [if_pos ⟨hless, hlicense, rfl⟩, hdifference]
    refine Decides.intro rfl ?_
    rw [beq_iff_eq]
    constructor
    · exact fun hsame => ⟨_, difference, htotal, hdifference, hsame⟩
    · rintro ⟨total, other, hother, hsub, hsame⟩
      obtain rfl := Except.ok.inj (htotal.symm.trans hother)
      obtain rfl := Except.ok.inj (hdifference.symm.trans hsub)
      exact hsame
  · rw [if_neg fun hall => hless hall.1]
    refine .inr ⟨rfl, ?_⟩
    rintro ⟨total, difference, hother, hsub, hsame⟩
    obtain rfl := Except.ok.inj (htotal.symm.trans hother)
    have hnonpos := Decimal96.sub_nonpos_of_le (not_lt.mp hless) hsub
    linarith

theorem PairsPriced.positive (h : PairsPriced sku license prices vmPairs group)
    (hpair : pair ∈ vmPairs) (hprice : prices pair.1 = some price) : 0 < price.toRat := by
  obtain ⟨record, hrecord, hoption, -⟩ :=
    vmOption_eq_some (h.present pair hpair price hprice).1
  obtain ⟨other, hother, otherPrice, hotherPrice, hpriced⟩ := h.priced record hrecord
  rcases hpriced.rates with ⟨hlicensed, -⟩ | ⟨hahb, -⟩
  · obtain rfl := (vmPairs_distinct hpair hother).1 (hlicensed.symm.trans hoption)
    obtain rfl := Option.some.inj (hprice.symm.trans hotherPrice)
    exact hpriced.positive
  · exact absurd (hoption.symm.trans hahb) (vmPairs_distinct hother hpair).2.2

theorem decides_allM {R : Type} {check : R → Except ArithmeticFault Bool} {P : R → Prop}
    {xs : List R} (h : ∀ x ∈ xs, Decides (check x) (P x)) :
    Decides (allM check xs) (∀ x ∈ xs, P x) := by
  induction xs with
  | nil => exact .inl ⟨rfl, fun x hx => absurd hx List.not_mem_nil⟩
  | cons x xs ih =>
      rw [List.forall_mem_cons]
      exact (h x List.mem_cons_self).and fun _ =>
        ih fun y hy => h y (List.mem_cons_of_mem x hy)

/-- A commitment is checked like its pair. -/
theorem validVmCommitment_decides {payg ahb : AzureVmRateRecord Decimal96}
    {paygPrice : Decimal96} (h : PairsPriced sku license prices vmPairs group)
    (hlicense : 0 < license.toRat) (hpair : pair ∈ vmCommitments)
    (hpaygPrice : prices .payg = some paygPrice) (hpaygLicense : payg.licenseHourly = license)
    (hahb : ahb.hourlyRate.toRat = paygPrice.toRat) :
    Decides (validVmCommitment group payg ahb pair)
      (∀ price, prices pair.1 = some price → Recovered price license) := by
  have hmem : pair ∈ vmPairs := List.mem_cons_of_mem _ hpair
  have hne : pair.1 ≠ .payg := by
    have hall : ∀ pair ∈ vmCommitments, pair.1 ≠ .payg := by decide
    exact hall pair hpair
  unfold validVmCommitment
  rcases hprice : prices pair.1 with _ | price
  · obtain ⟨hfirst, hsecond⟩ := h.find_none hmem hprice
    rw [hfirst, hsecond]
    exact .inl ⟨rfl, fun price hsome => nomatch hsome⟩
  · obtain ⟨licensed, hfind, htotal, hsame⟩ := h.find_licensed hmem hprice
    obtain ⟨commitment, hfindAhb, hrate, hnone⟩ := h.find_ahb hmem hprice
    rw [hfind, hfindAhb]
    have hdecides := validAzureVmOptionPair_decides (h.positive hmem hprice) hlicense htotal hsame
      hrate hnone
    have hcheaper := h.cheaper pair hmem hne price hprice paygPrice hpaygPrice
    have hrest : (value licensed.licenseHourly == value payg.licenseHourly &&
        decide (value commitment.hourlyRate < value ahb.hourlyRate)) = true := by
      rw [hsame, hpaygLicense, beq_self_eq_true, Bool.true_and, decide_eq_true_eq]
      rw [Decimal96.value_eq, Decimal96.value_eq, hrate, hahb]
      exact hcheaper
    have hiff : Recovered price license ↔
        ∀ other, some price = some other → Recovered other license := by
      simp
    rcases hdecides with ⟨hrun, hrecovered⟩ | ⟨hrun, hlost⟩
    · refine .inl ⟨?_, hiff.mp hrecovered⟩
      simp only [hrun, ok_bind, Bool.true_and, Bool.and_assoc]
      rw [hrest]
      rfl
    · refine .inr ⟨?_, fun hall => hlost (hiff.mpr hall)⟩
      simp only [hrun, ok_bind, Bool.false_and]
      rfl

/-- The check of a machine tells whether its prices are recovered. -/
theorem validVmConfiguration_decides {paygPrice : Decimal96}
    (h : PairsPriced sku license prices vmPairs group) (hlicense : 0 < license.toRat)
    (hpaygPrice : prices .payg = some paygPrice) :
    Decides (validVmConfiguration group)
      (∀ pair ∈ vmPairs, ∀ price, prices pair.1 = some price → Recovered price license) := by
  have hmem : (VmPurchaseOption.payg, VmPurchaseOption.ahb) ∈ vmPairs := List.mem_cons_self
  obtain ⟨payg, hfind, htotal, hsame⟩ := h.find_licensed hmem hpaygPrice
  obtain ⟨ahb, hfindAhb, hrate, hnone⟩ := h.find_ahb hmem hpaygPrice
  have hmany : isSingleUnlicensedPayg group = false := by
    unfold isSingleUnlicensedPayg
    split
    · rename_i record
      obtain ⟨other, hother, hoption, -⟩ :=
        vmOption_eq_some (h.present _ hmem paygPrice hpaygPrice).2
      rw [List.mem_singleton.mp hother] at hoption
      rw [hoption]
      rfl
    · rfl
  unfold validVmConfiguration
  rw [hmany, if_neg Bool.false_ne_true, hfind, hfindAhb]
  have hpaygDecides := validAzureVmOptionPair_decides (h.positive hmem hpaygPrice) hlicense htotal
    hsame hrate hnone
  have hcommitments := decides_allM fun _ hpair =>
    validVmCommitment_decides h hlicense hpair hpaygPrice hsame hrate
  refine (hpaygDecides.and fun _ => hcommitments).congr ?_
  rw [vmPairs, List.forall_mem_cons]
  constructor
  · rintro ⟨hpayg, hrest⟩
    refine ⟨fun price hprice => ?_, hrest⟩
    obtain rfl := Option.some.inj (hpaygPrice.symm.trans hprice)
    exact hpayg
  · rintro ⟨hpayg, hrest⟩
    exact ⟨hpayg paygPrice hpaygPrice, hrest⟩

end Pairs

/-! ### Records of one machine -/

section Records

variable {sku : String} {license : Decimal96} {prices : VmPurchaseOption → Option Decimal96}
  {group : List (AzureVmRateRecord Decimal96)}

/-- The text of a positive price reads as a positive price. -/
theorem validRawPrice_priceLexeme {price : Decimal96} (h : 0 < price.toRat) :
    validRawPrice (D := Decimal96) (priceLexeme price) = true := by
  have hnormalized : 0 < price.normalize.toRat := by
    rw [Decimal96.toRat_normalize]
    exact h
  have hparse : (parse (priceLexeme price) : Option Decimal96) = some price.normalize :=
    Decimal96.parse_display (Decimal96.mantissa_nonneg hnormalized.le)
  unfold validRawPrice isPositive
  rw [hparse, Option.any_some, Decimal96.value_eq]
  exact decide_eq_true hnormalized

theorem usesAhb_of_mem_vmPairs {pair : VmPurchaseOption × VmPurchaseOption}
    (h : pair ∈ vmPairs) : pair.1.usesAhb = false := by
  have hall : ∀ pair ∈ vmPairs, pair.1.usesAhb = false := by
    decide
  exact hall pair h

theorem Recovered.license_lt {price total : Decimal96} (h : Recovered price license)
    (hprice : 0 < price.toRat) (htotal : add price license = .ok total) :
    license.toRat < total.toRat := by
  obtain ⟨total', difference, hadd, hsub, hsame⟩ := h
  obtain rfl := Except.ok.inj (htotal.symm.trans hadd)
  by_contra hle
  have hnonpos := Decimal96.sub_nonpos_of_le (not_lt.mp hle) hsub
  linarith

theorem PairsPriced.validVmRecord (h : PairsPriced sku license prices vmPairs group)
    (hsku : sku ≠ "") (hlicense : 0 < license.toRat)
    (hrecovered : ∀ pair ∈ vmPairs, ∀ price, prices pair.1 = some price →
      Recovered price license) :
    ∀ record ∈ group, validVmRecord record = true := by
  intro record hrecord
  obtain ⟨pair, hpair, price, hprice, hpriced⟩ := h.priced record hrecord
  have hpositive := hpriced.positive
  unfold PriceSnapshot.validVmRecord isPositive
  rw [h.sku record hrecord, hpriced.unit, hpriced.lexeme]
  simp only [Decimal96.value_eq, Bool.and_eq_true]
  rcases hpriced.rates with ⟨hoption, htotal, hsame⟩ | ⟨hoption, htotal, hnone⟩
  · have hless := (hrecovered pair hpair price hprice).license_lt hpositive htotal
    rw [hsame, hoption, usesAhb_of_mem_vmPairs hpair]
    refine ⟨⟨⟨⟨⟨⟨decide_eq_true hsku, decide_eq_true (hlicense.trans hless)⟩,
      decide_eq_true hlicense.le⟩, decide_eq_true hless.le⟩, rfl⟩, rfl⟩, ?_⟩
    exact validRawPrice_priceLexeme (hlicense.trans hless)
  · have hrate := Decimal96.toRat_of_add_zero Decimal96.toRat_zero htotal
    have hhourly : 0 < record.hourlyRate.toRat := hrate ▸ hpositive
    have hzero : (zero : Decimal96).toRat = 0 := Decimal96.toRat_zero
    rw [hnone]
    refine ⟨⟨⟨⟨⟨⟨decide_eq_true hsku, decide_eq_true hhourly⟩, decide_eq_true hzero.ge⟩,
      decide_eq_true (hzero.le.trans hhourly.le)⟩, ?_⟩, rfl⟩, ?_⟩
    · rw [beq_iff_eq.mpr hzero, Bool.or_true]
    · exact validRawPrice_priceLexeme hhourly

end Records

/-! ### Disk records -/

/-- A disk record that passes its own check, under its business key. -/
structure DiskRecord (offerKey : String) (tierKey : Option String)
    (dimension : AzureManagedDiskPriceDimension)
    (record : AzureManagedDiskRateRecord Decimal96) : Prop where
  offerKey : record.offerKey = offerKey
  tierKey : record.tierKey = tierKey
  dimension : record.dimension = dimension
  valid : validDiskRecord record = true

/-- The text of a disk rate passes where the rate is positive. -/
theorem DiskRate.validRawPrice {rate : RetailRate} (h : DiskRate rate)
    (hpositive : 0 < rate.rate.toRat) :
    validRawPrice (D := Decimal96) rate.rawPriceLexeme = true := by
  unfold PriceSnapshot.validRawPrice isPositive
  rw [h.2, Option.any_some, Decimal96.value_eq]
  exact decide_eq_true hpositive

theorem diskRecord_of_tier {targetRegion : String} {tiers : HashMap String RetailRate}
    {tierKey : String} {record : AzureManagedDiskRateRecord Decimal96}
    (htiers : ∀ tier rate, tiers.lookup tier = some rate → DiskRate rate ∧ 0 < rate.rate.toRat)
    (h : tierRecord targetRegion tiers tierKey = .ok record) :
    DiskRecord premiumSsdOffer (some tierKey) .capacityTier record := by
  unfold tierRecord at h
  rcases hlookup : tiers.lookup tierKey with _ | rate
  · rw [hlookup] at h
    exact nomatch h
  rw [hlookup] at h
  obtain rfl := Except.ok.inj h
  obtain ⟨hrate, hpositive⟩ := htiers tierKey rate hlookup
  refine ⟨rfl, rfl, rfl, ?_⟩
  unfold validDiskRecord
  simp only [Bool.and_eq_true]
  exact ⟨⟨⟨⟨rfl, rfl⟩, decide_eq_true hpositive⟩, decide_eq_true hrate.1⟩,
    hrate.validRawPrice hpositive⟩

theorem diskRecord_of_v2 {targetRegion : String}
    {v2 : HashMap (AzureManagedDiskPriceDimension × ℚ) RetailRate}
    {dimension : AzureManagedDiskPriceDimension × ℕ}
    {record : AzureManagedDiskRateRecord Decimal96}
    (hdimension : dimension ∈ v2Dimensions)
    (hv2 : ∀ key rate, v2.lookup key = some rate → DiskRate rate)
    (h : v2Record targetRegion v2 dimension.1 dimension.2 = .ok record) :
    DiskRecord premiumSsdV2Offer none dimension.1 record := by
  obtain ⟨_, -, h⟩ := bind_eq_ok.mp h
  obtain ⟨rate, hlookup, h⟩ := bind_eq_ok.mp h
  obtain ⟨_, hpositive, h⟩ := bind_eq_ok.mp h
  obtain ⟨key, -, h⟩ := bind_eq_ok.mp h
  obtain ⟨monthly, hmonthly, h⟩ := bind_eq_ok.mp h
  obtain rfl := Except.ok.inj h
  have hpositive : 0 < rate.rate.toRat := ensure_eq_ok.mp (checked_eq_ok.mp hpositive)
  have hrate : DiskRate rate := by
    rcases hslot : v2.lookup (dimension.1, (dimension.2 : ℚ)) with _ | slot
    · rw [hslot] at hlookup
      exact nomatch hlookup
    · rw [hslot] at hlookup
      obtain rfl := Except.ok.inj hlookup
      exact hv2 _ slot hslot
  have hhours : (DecimalArith.ofNat monthlyBillingHours : Decimal96).toRat = 730 := by
    rw [Decimal96.toRat_ofNat (by decide)]
    rfl
  have hmonthlyPositive : 0 < monthly.toRat :=
    Decimal96.mul_pos_of_integral hpositive (by rw [hhours]; norm_num) (by decide +kernel)
      (liftM_eq_ok.mp hmonthly)
  have hshape : ∀ dimension ∈ v2Dimensions, dimension.1 ≠ .capacityTier := by
    decide
  refine ⟨rfl, rfl, rfl, ?_⟩
  unfold validDiskRecord
  simp only [Bool.and_eq_true]
  refine ⟨⟨⟨⟨rfl, ?_⟩, decide_eq_true hmonthlyPositive⟩, decide_eq_true hrate.1⟩,
    hrate.validRawPrice hpositive⟩
  unfold tierShapeValid
  dsimp only
  split
  · rename_i htier
    exact absurd htier (hshape dimension hdimension)
  · rfl
  · rfl
  · rfl

/-- The disk records pass their check under keys of their own. -/
theorem diskRecords_valid {tierKeys : List String}
    {tierRecords v2Records : List (AzureManagedDiskRateRecord Decimal96)}
    (htierKeys : tierKeys.Nodup)
    (htiers : List.Forall₂ (fun tierKey => DiskRecord premiumSsdOffer (some tierKey) .capacityTier)
      tierKeys tierRecords)
    (hv2 : List.Forall₂ (fun dimension => DiskRecord premiumSsdV2Offer none dimension.1)
      v2Dimensions v2Records) :
    (∀ record ∈ tierRecords ++ v2Records, validDiskRecord record = true) ∧
      ((tierRecords ++ v2Records).map diskBusinessKey).Nodup := by
  constructor
  · intro record hrecord
    rcases List.mem_append.mp hrecord with htier | hdimension
    · obtain ⟨_, -, hdisk⟩ := KeyedGroups.exists_mem_of_forall₂ htiers htier
      exact hdisk.valid
    · obtain ⟨_, -, hdisk⟩ := KeyedGroups.exists_mem_of_forall₂ hv2 hdimension
      exact hdisk.valid
  have htierNames : tierRecords.map diskBusinessKey = tierKeys.map fun tierKey =>
      (toAsciiLowercase premiumSsdOffer, some tierKey, .capacityTier) := by
    rw [← List.forall₂_eq_eq_eq, List.forall₂_map_left_iff, List.forall₂_map_right_iff]
    refine htiers.flip.imp fun record tierKey hdisk => ?_
    rw [diskBusinessKey, hdisk.offerKey, hdisk.tierKey, hdisk.dimension]
  have hv2Names : v2Records.map diskBusinessKey = v2Dimensions.map fun dimension =>
      (toAsciiLowercase premiumSsdV2Offer, none, dimension.1) := by
    rw [← List.forall₂_eq_eq_eq, List.forall₂_map_left_iff, List.forall₂_map_right_iff]
    refine hv2.flip.imp fun record dimension hdisk => ?_
    rw [diskBusinessKey, hdisk.offerKey, hdisk.tierKey, hdisk.dimension]
  rw [List.map_append, htierNames, hv2Names]
  refine List.Nodup.append ?_ (by decide) ?_
  · refine htierKeys.map fun left right hsame => ?_
    simpa using hsame
  · intro name htier hdimension
    obtain ⟨_, -, rfl⟩ := List.mem_map.mp htier
    obtain ⟨_, -, hsame⟩ := List.mem_map.mp hdimension
    exact nomatch congrArg (fun key => key.2.1) hsame

end AzureVm

end TcoCalculator
