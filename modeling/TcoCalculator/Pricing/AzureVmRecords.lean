/-
Which Azure records the normalizer emits: for every machine with both hourly
meters a licensed and a hybrid-benefit record of each price it has.
-/
import TcoCalculator.Domain.PriceArithmetic
import TcoCalculator.Library.KeyedGroups
import TcoCalculator.Pricing.AzureVmRates
import TcoCalculator.Pricing.SnapshotIdentity

namespace TcoCalculator

open DecimalArith Fallible Halt PriceSnapshot

namespace AzureVm

/-! ### Prices of a machine -/

/-- The licensed options, each beside its hybrid-benefit one. -/
def vmPairs : List (VmPurchaseOption × VmPurchaseOption) := (.payg, .ahb) :: vmCommitments

/-- What is quoted for a licensed option. -/
def licensedPrice {α : Type} (payg : Option α) (commitment : VmCommitment → Option α) :
    VmPurchaseOption → Option α
  | .payg => payg
  | .oneYear => commitment .reservationOne
  | .threeYear => commitment .reservationThree
  | .savingsOneYear => commitment .savingsOne
  | .savingsThreeYear => commitment .savingsThree
  | .ahb | .ahbOneYear | .ahbThreeYear | .ahbSavingsOneYear | .ahbSavingsThreeYear => none

theorem licensedPrice_commitment {α : Type} {payg : Option α}
    {commitment : VmCommitment → Option α} {option : CommitmentOption}
    (h : option ∈ commitmentOptions) :
    licensedPrice payg commitment option.options.1 = commitment option.commitment := by
  simp only [commitmentOptions, List.mem_cons, List.not_mem_nil, or_false] at h
  rcases h with rfl | rfl | rfl | rfl <;> rfl

/-- A record of one option of a pair. -/
structure PairRecord (price license : Decimal96)
    (pair : VmPurchaseOption × VmPurchaseOption) (record : AzureVmRateRecord Decimal96) :
    Prop where
  unit : record.unitOfMeasure = "1 Hour"
  lexeme : record.rawPriceLexeme = priceLexeme record.hourlyRate
  positive : 0 < price.toRat
  rates : record.purchaseOption = pair.1 ∧ add price license = .ok record.hourlyRate ∧
      record.licenseHourly = license ∨
    record.purchaseOption = pair.2 ∧ add price zero = .ok record.hourlyRate ∧
      record.licenseHourly = zero

/-- The records of a machine at its prices. -/
structure PairsPriced (sku : String) (license : Decimal96)
    (prices : VmPurchaseOption → Option Decimal96)
    (pairs : List (VmPurchaseOption × VmPurchaseOption))
    (records : List (AzureVmRateRecord Decimal96)) : Prop where
  sku : ∀ record ∈ records, record.armSkuName = sku
  priced : ∀ record ∈ records, ∃ pair ∈ pairs, ∃ price, prices pair.1 = some price ∧
    PairRecord price license pair record
  present : ∀ pair ∈ pairs, ∀ price, prices pair.1 = some price →
    (∃ record ∈ records, record.purchaseOption = pair.1) ∧
      ∃ record ∈ records, record.purchaseOption = pair.2
  cheaper : ∀ pair ∈ pairs, pair.1 ≠ .payg → ∀ price, prices pair.1 = some price →
    ∀ payg, prices .payg = some payg → price.toRat < payg.toRat

section Pairs

variable {targetRegion : String} {vm : ExpectedVm} {license : Decimal96}
  {prices : VmPurchaseOption → Option Decimal96}
  {pairs : List (VmPurchaseOption × VmPurchaseOption)}
  {records : List (AzureVmRateRecord Decimal96)}

theorem vmRecord_eq_ok {option : VmPurchaseOption} {compute windows : RetailRate}
    {record : AzureVmRateRecord Decimal96}
    (h : vmRecord targetRegion vm option compute windows license = .ok record) :
    record.armSkuName = vm.sku ∧ record.purchaseOption = option ∧
      record.unitOfMeasure = compute.unitOfMeasure ∧
      record.rawPriceLexeme = priceLexeme record.hourlyRate ∧
      add compute.rate license = .ok record.hourlyRate ∧ record.licenseHourly = license := by
  obtain ⟨hourly, hadd, h⟩ := bind_eq_ok.mp h
  obtain rfl := Except.ok.inj h
  exact ⟨rfl, rfl, rfl, rfl, hadd, rfl⟩

/-- One pair more, at a price of its own. -/
theorem PairsPriced.add_pair {options : VmPurchaseOption × VmPurchaseOption}
    {compute windows : RetailRate} {pair : List (AzureVmRateRecord Decimal96)}
    (hpriced : PairsPriced vm.sku license prices pairs records)
    (hprice : prices options.1 = some compute.rate)
    (hcheaper : options.1 ≠ .payg → ∀ payg, prices .payg = some payg →
      compute.rate.toRat < payg.toRat)
    (h : vmOptionPair targetRegion vm options compute windows license = .ok pair) :
    PairsPriced vm.sku license prices (pairs ++ [options]) (records ++ pair) ∧
      pair.map AzureVmRateRecord.purchaseOption = [options.1, options.2] := by
  obtain ⟨_, hcheck, h⟩ := bind_eq_ok.mp h
  obtain ⟨hunit, -, hpositive, -⟩ := ensure_eq_ok.mp (checked_eq_ok.mp hcheck)
  obtain ⟨licensed, hlicensed, h⟩ := bind_eq_ok.mp h
  obtain ⟨ahb, hahb, h⟩ := bind_eq_ok.mp h
  obtain rfl := Except.ok.inj h
  obtain ⟨hlsku, hloption, hlunit, hllexeme, hladd, hlrate⟩ :=
    vmRecord_eq_ok (liftM_eq_ok.mp hlicensed)
  obtain ⟨hasku, haoption, haunit, halexeme, haadd, harate⟩ :=
    vmRecord_eq_ok (liftM_eq_ok.mp hahb)
  constructor
  · constructor
    · intro record hrecord
      simp only [List.mem_append, List.mem_cons, List.not_mem_nil, or_false] at hrecord
      rcases hrecord with hearlier | rfl | rfl
      · exact hpriced.sku record hearlier
      · exact hlsku
      · exact hasku
    · intro record hrecord
      simp only [List.mem_append, List.mem_cons, List.not_mem_nil, or_false] at hrecord
      rcases hrecord with hearlier | rfl | rfl
      · obtain ⟨earlier, hmem, hrest⟩ := hpriced.priced record hearlier
        exact ⟨earlier, List.mem_append_left _ hmem, hrest⟩
      · refine ⟨options, List.mem_append_right _ List.mem_cons_self, compute.rate, hprice, ?_⟩
        exact ⟨hlunit.trans hunit, hllexeme, hpositive, .inl ⟨hloption, hladd, hlrate⟩⟩
      · refine ⟨options, List.mem_append_right _ List.mem_cons_self, compute.rate, hprice, ?_⟩
        exact ⟨haunit.trans hunit, halexeme, hpositive, .inr ⟨haoption, haadd, harate⟩⟩
    · intro other hother price hother'
      rcases List.mem_append.mp hother with hearlier | hnew
      · obtain ⟨⟨first, hfirst, hfirstOption⟩, second, hsecond, hsecondOption⟩ :=
          hpriced.present other hearlier price hother'
        exact ⟨⟨first, List.mem_append_left _ hfirst, hfirstOption⟩,
          second, List.mem_append_left _ hsecond, hsecondOption⟩
      · rw [List.mem_singleton.mp hnew]
        exact ⟨⟨licensed, by simp, hloption⟩, ahb, by simp, haoption⟩
    · intro other hother hne price hother'
      rcases List.mem_append.mp hother with hearlier | hnew
      · exact hpriced.cheaper other hearlier hne price hother'
      · rw [List.mem_singleton.mp hnew] at hne hother'
        obtain rfl := Option.some.inj (hprice.symm.trans hother')
        exact hcheaper hne
  · rw [List.map_cons, List.map_cons, List.map_nil, hloption, haoption]

/-- A pair without a price has no records. -/
theorem PairsPriced.skip_pair {options : VmPurchaseOption × VmPurchaseOption}
    (hpriced : PairsPriced vm.sku license prices pairs records)
    (hprice : prices options.1 = none) :
    PairsPriced vm.sku license prices (pairs ++ [options]) records := by
  have hnone : ∀ other ∈ pairs ++ [options], ∀ price, prices other.1 = some price →
      other ∈ pairs := by
    intro other hother price hsome
    rcases List.mem_append.mp hother with hearlier | hnew
    · exact hearlier
    · rw [List.mem_singleton.mp hnew, hprice] at hsome
      exact nomatch hsome
  constructor
  · exact hpriced.sku
  · intro record hrecord
    obtain ⟨pair, hmem, hrest⟩ := hpriced.priced record hrecord
    exact ⟨pair, List.mem_append_left _ hmem, hrest⟩
  · intro other hother price hsome
    exact hpriced.present other (hnone other hother price hsome) price hsome
  · intro other hother hne price hsome
    exact hpriced.cheaper other (hnone other hother price hsome) hne price hsome

/-- Records in another order and with their sources normalized. -/
theorem PairsPriced.stored {sku : String} {stored : List (AzureVmRateRecord Decimal96)}
    (h : PairsPriced sku license prices pairs records)
    (hperm : stored.Perm (records.map normalizeProvenance)) :
    PairsPriced sku license prices pairs stored := by
  have hstored : ∀ record ∈ records, normalizeProvenance record ∈ stored :=
    fun record hrecord => hperm.mem_iff.mpr (List.mem_map_of_mem hrecord)
  constructor
  · intro record hrecord
    obtain ⟨original, horiginal, rfl⟩ := List.mem_map.mp (hperm.mem_iff.mp hrecord)
    exact h.sku original horiginal
  · intro record hrecord
    obtain ⟨original, horiginal, rfl⟩ := List.mem_map.mp (hperm.mem_iff.mp hrecord)
    obtain ⟨pair, hpair, price, hprice, hpriced⟩ := h.priced original horiginal
    exact ⟨pair, hpair, price, hprice,
      ⟨hpriced.unit, hpriced.lexeme, hpriced.positive, hpriced.rates⟩⟩
  · intro pair hpair price hprice
    obtain ⟨⟨first, hfirst, hfirstOption⟩, second, hsecond, hsecondOption⟩ :=
      h.present pair hpair price hprice
    exact ⟨⟨_, hstored first hfirst, hfirstOption⟩, _, hstored second hsecond, hsecondOption⟩
  · exact h.cheaper

end Pairs

/-! ### Groups -/

/-- The options of pairs, in their order. -/
def optionsOf (pairs : List (VmPurchaseOption × VmPurchaseOption)) : List VmPurchaseOption :=
  pairs.flatMap fun pair => [pair.1, pair.2]

theorem optionsOf_concat (pairs : List (VmPurchaseOption × VmPurchaseOption))
    (pair : VmPurchaseOption × VmPurchaseOption) :
    optionsOf (pairs ++ [pair]) = optionsOf pairs ++ [pair.1, pair.2] := by
  simp [optionsOf]

theorem optionsOf_vmPairs_nodup : (optionsOf vmPairs).Nodup := by
  decide

section Groups

variable (expected : HashMap String String) (items : List RetailItem)

/-- The compute prices in force of the licensed options of a machine. -/
def computePrices (key : String) : VmPurchaseOption → Option Decimal96 :=
  licensedPrice ((inForce (linuxQuotes expected items key)).map Quote.price) fun commitment =>
    (inForce (commitmentQuotes expected items (key, commitment))).map Quote.price

/-- The hourly prices in force of a machine, without and with Windows, and the license
between them. -/
structure LicensePriced (key : String) (linux windows : Quote) (license : Decimal96) : Prop where
  linuxQuote : inForce (linuxQuotes expected items key) = some linux
  windowsQuote : inForce (windowsQuotes expected items key) = some windows
  license : sub windows.price linux.price = .ok license

/-- The records of a machine with both hourly prices. -/
structure PricedGroup (vm : String × String) (linux windows : Quote) (license : Decimal96)
    (group : List (AzureVmRateRecord Decimal96)) : Prop where
  quoted : LicensePriced expected items vm.1 linux windows license
  positive : 0 < license.toRat
  pairs : PairsPriced vm.2 license (computePrices expected items vm.1) vmPairs group
  options : (group.map AzureVmRateRecord.purchaseOption).Sublist (optionsOf vmPairs)

/-- The records of a machine: none without both hourly prices. -/
def GroupOf (vm : String × String) (group : List (AzureVmRateRecord Decimal96)) : Prop :=
  (∃ linux windows license, PricedGroup expected items vm linux windows license group) ∨
    group = [] ∧ (inForce (linuxQuotes expected items vm.1) = none ∨
      inForce (windowsQuotes expected items vm.1) = none)

variable {expected items}

theorem HoldsQuotes.rate_eq {κ : Type} [DecidableEq κ] {rates : HashMap κ RetailRate}
    {quotes : κ → List Quote} (h : HoldsQuotes rates quotes) (key : κ) :
    (rates.lookup key).map RetailRate.rate = (inForce (quotes key)).map Quote.price := by
  rw [← h key, Option.map_map]
  rfl

/-- The commitments of a machine, gone through one by one. -/
theorem pairsPriced_of_commitments {targetRegion : String} {vm : ExpectedVm}
    {rates : RetailRates} {linux windows : RetailRate} {license : Decimal96}
    {prices : VmPurchaseOption → Option Decimal96} {start outcome : VmOutcome}
    (hpayg : prices .payg = some linux.rate)
    (hcommitment : ∀ option ∈ commitmentOptions, prices option.options.1 =
      (rates.commitmentVm.lookup (vm.key, option.commitment)).map RetailRate.rate)
    (hstart : PairsPriced vm.sku license prices [(.payg, .ahb)] start.records)
    (hoptions : start.records.map AzureVmRateRecord.purchaseOption = [.payg, .ahb])
    (h : commitmentOptions.foldlM (addCommitment targetRegion vm rates linux windows license)
      start = .ok outcome) :
    PairsPriced vm.sku license prices vmPairs outcome.records ∧
      (outcome.records.map AzureVmRateRecord.purchaseOption).Sublist (optionsOf vmPairs) := by
  have hrun := foldlM_rule (fun done (state : VmOutcome) =>
    PairsPriced vm.sku license prices
        ((.payg, .ahb) :: done.map CommitmentOption.options) state.records ∧
      (state.records.map AzureVmRateRecord.purchaseOption).Sublist
        (optionsOf ((.payg, .ahb) :: done.map CommitmentOption.options))) h ?_ ?_
  · exact hrun
  · refine ⟨hstart, ?_⟩
    rw [hoptions]
    exact List.Sublist.refl _
  · rintro done option state state' hmem ⟨hpriced, hsublist⟩ hstep
    rw [List.map_append, List.map_singleton, ← List.cons_append, optionsOf_concat]
    have hprice := hcommitment option hmem
    unfold addCommitment at hstep
    rcases hlookup : rates.commitmentVm.lookup (vm.key, option.commitment) with _ | compute
    · rw [hlookup] at hprice hstep
      obtain rfl := Except.ok.inj hstep
      exact ⟨hpriced.skip_pair hprice, hsublist.trans (List.sublist_append_left _ _)⟩
    · rw [hlookup] at hprice hstep
      obtain ⟨_, hcheck, hstep⟩ := bind_eq_ok.mp hstep
      obtain ⟨pair, hpair, hstep⟩ := bind_eq_ok.mp hstep
      obtain rfl := Except.ok.inj hstep
      have hcheaper := ensure_eq_ok.mp (checked_eq_ok.mp hcheck)
      obtain ⟨hadded, hnew⟩ := hpriced.add_pair hprice (fun _ payg hsome => by
        rw [hpayg] at hsome
        rw [← Option.some.inj hsome]
        exact hcheaper) hpair
      refine ⟨hadded, ?_⟩
      rw [List.map_append, hnew]
      exact hsublist.append_right _

theorem groupOf_of_outcome {targetRegion : String} {rates : RetailRates} {vm : String × String}
    {outcome : VmOutcome} (hmerged : Merged expected items rates)
    (h : vmOutcome targetRegion rates ⟨vm.1, vm.2⟩ = .ok outcome) :
    GroupOf expected items vm outcome.records := by
  have hlinux := hmerged.linux vm.1
  have hwindows := hmerged.windows vm.1
  unfold vmOutcome at h
  dsimp only at h
  rcases hlinuxRate : rates.linuxVm.lookup vm.1 with _ | linux
  · rw [hlinuxRate] at h hlinux
    obtain rfl := Except.ok.inj h
    exact .inr ⟨rfl, .inl hlinux.symm⟩
  rcases hwindowsRate : rates.windowsVm.lookup vm.1 with _ | windows
  · rw [hlinuxRate, hwindowsRate] at h
    rw [hwindowsRate] at hwindows
    obtain rfl := Except.ok.inj h
    exact .inr ⟨rfl, .inr hwindows.symm⟩
  rw [hlinuxRate, hwindowsRate] at h
  obtain ⟨license, hlicense, h⟩ := bind_eq_ok.mp h
  obtain ⟨_, hpositive, h⟩ := bind_eq_ok.mp h
  obtain ⟨pair, hpair, h⟩ := bind_eq_ok.mp h
  have hpayg : computePrices expected items vm.1 .payg = some linux.rate := by
    have hrate := hmerged.linux.rate_eq vm.1
    rw [hlinuxRate] at hrate
    exact hrate.symm
  have hcommitment : ∀ option ∈ commitmentOptions,
      computePrices expected items vm.1 option.options.1 =
        (rates.commitmentVm.lookup (vm.1, option.commitment)).map RetailRate.rate := by
    intro option hoption
    rw [computePrices, licensedPrice_commitment hoption]
    exact (hmerged.commitment.rate_eq (vm.1, option.commitment)).symm
  have hnone : PairsPriced (ExpectedVm.mk vm.1 vm.2).sku license
      (computePrices expected items vm.1) [] [] := by
    constructor <;> simp
  obtain ⟨hstart, hoptions⟩ := hnone.add_pair hpayg (fun hne => absurd rfl hne) hpair
  obtain ⟨hpairs, hsublist⟩ := pairsPriced_of_commitments hpayg hcommitment hstart hoptions h
  refine .inl ⟨linux.quote, windows.quote, license, ⟨?_, ?_, ?_⟩, ?_, hpairs, hsublist⟩
  · rw [← hlinux, hlinuxRate]
    rfl
  · rw [← hwindows, hwindowsRate]
    rfl
  · exact liftM_eq_ok.mp hlicense
  · exact ensure_eq_ok.mp (checked_eq_ok.mp hpositive)

end Groups

end AzureVm

end TcoCalculator
