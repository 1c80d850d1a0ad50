/-
Which rates the Azure meters leave: the quote in force of every machine and
commitment, and disk rates with texts that read as them.
-/
import TcoCalculator.Pricing.AzureVm

namespace TcoCalculator.AzureVm

open DecimalArith Fallible Halt ProviderRows Decimal96

/-! ### Quotes in force -/

/-- A price of a meter and the date it starts. -/
structure Quote where
  start : String
  price : Decimal96

def laterQuote (slot : Option Quote) (quote : Quote) : Quote :=
  match slot with
  | none => quote
  | some existing => if existing.start < quote.start then quote else existing

/-- The latest quote, the first of one date. -/
def inForce (quotes : List Quote) : Option Quote :=
  quotes.foldl (fun slot quote => some (laterQuote slot quote)) none

@[simp] theorem inForce_nil : inForce [] = none := rfl

@[simp] theorem inForce_concat (quotes : List Quote) (quote : Quote) :
    inForce (quotes ++ [quote]) = some (laterQuote (inForce quotes) quote) := by
  simp [inForce]

def RetailRate.quote (rate : RetailRate) : Quote := ⟨rate.effectiveStartDate, rate.rate⟩

/-- A merged rate is one of the two, up to its meters. -/
theorem mergeLatestRate_cases {conflict : AzureVmPricingNormalizationError}
    {slot : Option RetailRate} {incoming merged : RetailRate}
    (h : mergeLatestRate conflict slot incoming = .ok merged) :
    merged.quote = laterQuote (slot.map RetailRate.quote) incoming.quote ∧
      (merged = incoming ∨ ∃ existing meterIds, slot = some existing ∧
        merged = { existing with meterIds := meterIds }) := by
  rcases slot with _ | existing
  · obtain rfl := Except.ok.inj h
    exact ⟨rfl, .inl rfl⟩
  unfold mergeLatestRate at h
  dsimp only at h
  rw [Option.map_some, laterQuote]
  split_ifs at h with hlater hsame hconflict
  · obtain rfl := Except.ok.inj h
    exact ⟨(if_pos hlater).symm, .inl rfl⟩
  · obtain rfl := Except.ok.inj h
    exact ⟨(if_neg hlater).symm, .inr ⟨existing, _, rfl, rfl⟩⟩
  · obtain rfl := Except.ok.inj h
    exact ⟨(if_neg hlater).symm, .inr ⟨existing, _, rfl, rfl⟩⟩

section Merge

variable {κ : Type} [DecidableEq κ] {conflict : AzureVmPricingNormalizationError}
  {rates rates' : HashMap κ RetailRate} {key : κ} {incoming : RetailRate}

theorem mergeInto_quote (h : mergeInto conflict rates key incoming = .ok rates') :
    ((rates'.lookup key).map RetailRate.quote =
        some (laterQuote ((rates.lookup key).map RetailRate.quote) incoming.quote)) ∧
      ∀ other, other ≠ key → rates'.lookup other = rates.lookup other := by
  obtain ⟨merged, hmerged, h⟩ := bind_eq_ok.mp h
  obtain rfl := Except.ok.inj h
  constructor
  · rw [AList.lookup_insert, Option.map_some, (mergeLatestRate_cases hmerged).1]
  · exact fun other hne => AList.lookup_insert_ne hne

/-- What holds of rates whatever their meters holds in every slot. -/
theorem mergeInto_forall {P : κ → RetailRate → Prop}
    (hmeters : ∀ key rate meterIds, P key rate → P key { rate with meterIds := meterIds })
    (hrates : ∀ key rate, rates.lookup key = some rate → P key rate) (hincoming : P key incoming)
    (h : mergeInto conflict rates key incoming = .ok rates') :
    ∀ key rate, rates'.lookup key = some rate → P key rate := by
  obtain ⟨merged, hmerged, h⟩ := bind_eq_ok.mp h
  obtain rfl := Except.ok.inj h
  intro other rate hlookup
  rcases HashMap.lookup_insert_eq_some hlookup with ⟨rfl, rfl⟩ | ⟨-, hlookup⟩
  · rcases (mergeLatestRate_cases hmerged).2 with rfl | ⟨existing, meterIds, hslot, rfl⟩
    · exact hincoming
    · exact hmeters other existing meterIds (hrates other existing hslot)
  · exact hrates other rate hlookup

/-- The slots hold the quotes in force. -/
def HoldsQuotes (rates : HashMap κ RetailRate) (quotes : κ → List Quote) : Prop :=
  ∀ key, (rates.lookup key).map RetailRate.quote = inForce (quotes key)

theorem HoldsQuotes.congr {quotes quotes' : κ → List Quote} (h : HoldsQuotes rates quotes)
    (hsame : ∀ key, quotes' key = quotes key) : HoldsQuotes rates quotes' := by
  intro key
  rw [hsame key]
  exact h key

/-- One quote more for one slot. -/
theorem HoldsQuotes.merge {quotes quotes' : κ → List Quote} (hholds : HoldsQuotes rates quotes)
    (hkey : quotes' key = quotes key ++ [incoming.quote])
    (hother : ∀ other, other ≠ key → quotes' other = quotes other)
    (h : mergeInto conflict rates key incoming = .ok rates') : HoldsQuotes rates' quotes' := by
  obtain ⟨hquote, hrest⟩ := mergeInto_quote h
  intro other
  by_cases hsame : other = key
  · rw [hsame, hquote, hkey, inForce_concat, hholds key]
  · rw [hrest other hsame, hother other hsame]
    exact hholds other

end Merge

/-! ### Quotes of the items -/

def quoteOf (start price : String) : Option Quote := (nonnegativeDecimal price).map (Quote.mk start)

section Items

variable (context : AzureVmPricingContext) (expected : HashMap String String)

/-- The items of the region, in the order of the pages. -/
def scopedItems (pages : List AzureVmRetailPagePayload) : List RetailItem :=
  (pages.flatMap fun page => page.body.getD []).filter (inScope context)

def meterQuotes (isMeter : RetailItem → Bool) (items : List RetailItem) (key : String) :
    List Quote :=
  items.filterMap fun item =>
    if isMeter item && toAsciiLowercase item.armSkuName == key then
      quoteOf item.effectiveStartDate item.retailPrice
    else none

def linuxQuotes (items : List RetailItem) : String → List Quote :=
  meterQuotes (isLinuxVmRate expected) items

def windowsQuotes (items : List RetailItem) : String → List Quote :=
  meterQuotes (isWindowsVmRate expected) items

def savingsPlanQuotes (item : RetailItem) (plans : List SavingsPlanPrice)
    (commitment : VmCommitment) : List Quote :=
  plans.filterMap fun plan =>
    if savingsPlanCommitment plan.term = some commitment then
      quoteOf item.effectiveStartDate plan.retailPrice
    else none

/-- The upfront price of a reservation over its hours. -/
def reservationQuote (item : RetailItem) (commitment : VmCommitment) : Option Quote := do
  let upfront ← quoteOf item.effectiveStartDate item.retailPrice
  let hours ← termHours commitment
  let hourly ← (div upfront.price (DecimalArith.ofNat hours)).toOption
  return ⟨upfront.start, hourly⟩

/-- The quotes of an item for a commitment. -/
def itemCommitmentQuotes (item : RetailItem) (key : String × VmCommitment) : List Quote :=
  if toAsciiLowercase item.armSkuName ≠ key.1 then []
  else if isLinuxVmRate expected item then savingsPlanQuotes item item.savingsPlan key.2
  else if reservationCommitment expected item = some key.2 then
    (reservationQuote item key.2).toList
  else []

def commitmentQuotes (items : List RetailItem) (key : String × VmCommitment) : List Quote :=
  items.flatMap fun item => itemCommitmentQuotes expected item key

end Items

/-! ### Rates of the items -/

/-- A disk rate with a unit and a text that reads as it. -/
def DiskRate (rate : RetailRate) : Prop :=
  rate.unitOfMeasure ≠ "" ∧ DecimalArith.parse rate.rawPriceLexeme = some rate.rate

/-- What the meters hold once the items are merged. -/
structure Merged (expected : HashMap String String) (items : List RetailItem)
    (rates : RetailRates) : Prop where
  linux : HoldsQuotes rates.linuxVm (linuxQuotes expected items)
  windows : HoldsQuotes rates.windowsVm (windowsQuotes expected items)
  commitment : HoldsQuotes rates.commitmentVm (commitmentQuotes expected items)
  tiers : ∀ tier rate, rates.tiers.lookup tier = some rate →
    DiskRate rate ∧ 0 < rate.rate.toRat
  v2 : ∀ key rate, rates.v2.lookup key = some rate → DiskRate rate

theorem Merged.empty (expected : HashMap String String) :
    Merged expected [] { linuxVm := ∅, windowsVm := ∅, commitmentVm := ∅, tiers := ∅, v2 := ∅ } where
  linux _ := rfl
  windows _ := rfl
  commitment _ := rfl
  tiers _ _ h := nomatch h
  v2 _ _ h := nomatch h

section Steps

variable {expected : HashMap String String} {items : List RetailItem} {item : RetailItem}
  {sourceUrl : String} {rate : RetailRate}

theorem quotedRate_eq_ok {price : String} (h : quotedRate item sourceUrl price = .ok rate) :
    quoteOf item.effectiveStartDate price = some rate.quote ∧
      rate.unitOfMeasure = item.unitOfMeasure ∧
      DecimalArith.parse rate.rawPriceLexeme = some rate.rate := by
  obtain ⟨number, hnumber, h⟩ := bind_eq_ok.mp h
  obtain ⟨_, -, h⟩ := bind_eq_ok.mp h
  obtain rfl := Except.ok.inj h
  unfold parseNonnegativeDecimal at hnumber
  rcases hprice : (nonnegativeDecimal price : Option Decimal96) with _ | parsed
  · rw [hprice] at hnumber
    exact nomatch hnumber
  rw [hprice] at hnumber
  obtain rfl := Except.ok.inj hnumber
  refine ⟨?_, rfl, (Option.filter_eq_some_iff.mp hprice).1⟩
  rw [quoteOf, hprice]
  rfl

theorem positiveRate_eq_ok {quoted : Except AzureVmPricingNormalizationError RetailRate}
    (h : positiveRate quoted = .ok rate) : quoted = .ok rate ∧ 0 < rate.rate.toRat := by
  obtain ⟨quote, hquoted, h⟩ := bind_eq_ok.mp h
  obtain ⟨_, hpositive, h⟩ := bind_eq_ok.mp h
  obtain rfl := Except.ok.inj h
  exact ⟨hquoted, ensure_eq_ok.mp hpositive⟩

theorem retailRate_quote (h : retailRate item sourceUrl = .ok rate) :
    quoteOf item.effectiveStartDate item.retailPrice = some rate.quote :=
  (quotedRate_eq_ok (positiveRate_eq_ok h).1).1

theorem meterQuotes_concat_of_not {isMeter : RetailItem → Bool} (h : isMeter item = false)
    (key : String) : meterQuotes isMeter (items ++ [item]) key = meterQuotes isMeter items key := by
  apply filterMap_concat_none
  rw [h]
  rfl

theorem meterQuotes_concat_same {isMeter : RetailItem → Bool} {quote : Quote}
    (h : isMeter item = true)
    (hquote : quoteOf item.effectiveStartDate item.retailPrice = some quote) :
    meterQuotes isMeter (items ++ [item]) (toAsciiLowercase item.armSkuName) =
      meterQuotes isMeter items (toAsciiLowercase item.armSkuName) ++ [quote] := by
  apply filterMap_concat_some
  rw [h, beq_self_eq_true]
  exact hquote

theorem meterQuotes_concat_other {isMeter : RetailItem → Bool} {key : String}
    (h : key ≠ toAsciiLowercase item.armSkuName) :
    meterQuotes isMeter (items ++ [item]) key = meterQuotes isMeter items key := by
  apply filterMap_concat_none
  rw [beq_false_of_ne h.symm, Bool.and_false]
  rfl

/-- A meter merged into its slot. -/
theorem holdsQuotes_meter {isMeter : RetailItem → Bool} {rates rates' : HashMap String RetailRate}
    {conflict : AzureVmPricingNormalizationError}
    (hholds : HoldsQuotes rates (meterQuotes isMeter items)) (hmeter : isMeter item = true)
    (hrate : retailRate item sourceUrl = .ok rate)
    (h : mergeInto conflict rates (toAsciiLowercase item.armSkuName) rate = .ok rates') :
    HoldsQuotes rates' (meterQuotes isMeter (items ++ [item])) :=
  hholds.merge (meterQuotes_concat_same hmeter (retailRate_quote hrate))
    (fun _ hne => meterQuotes_concat_other hne) h

theorem commitmentQuotes_concat (key : String × VmCommitment) :
    commitmentQuotes expected (items ++ [item]) key =
      commitmentQuotes expected items key ++ itemCommitmentQuotes expected item key := by
  rw [commitmentQuotes, List.flatMap_append, List.flatMap_singleton]
  rfl

/-- The savings plans of an item, merged one by one. -/
theorem holdsQuotes_savingsPlans {rates rates' : HashMap (String × VmCommitment) RetailRate}
    (hholds : HoldsQuotes rates (commitmentQuotes expected items))
    (hlinux : isLinuxVmRate expected item = true)
    (h : item.savingsPlan.foldlM (addSavingsPlan item sourceUrl) rates = .ok rates') :
    HoldsQuotes rates' (commitmentQuotes expected (items ++ [item])) := by
  have hfold : HoldsQuotes rates' fun key => commitmentQuotes expected items key ++
      if toAsciiLowercase item.armSkuName = key.1 then
        savingsPlanQuotes item item.savingsPlan key.2 else [] := by
    refine foldlM_rule (fun plans (merged : HashMap (String × VmCommitment) RetailRate) =>
      HoldsQuotes merged fun key => commitmentQuotes expected items key ++
        if toAsciiLowercase item.armSkuName = key.1 then savingsPlanQuotes item plans key.2
        else []) h ?_ ?_
    · refine hholds.congr fun key => ?_
      simp [savingsPlanQuotes]
    · intro plans plan merged merged' _ hmerged hstep
      unfold addSavingsPlan at hstep
      rcases hcommitment : savingsPlanCommitment plan.term with _ | commitment
      · rw [hcommitment] at hstep
        obtain rfl := Except.ok.inj hstep
        refine hmerged.congr fun key => ?_
        simp [savingsPlanQuotes, hcommitment]
      · rw [hcommitment] at hstep
        obtain ⟨planRate, hrate, hstep⟩ := bind_eq_ok.mp hstep
        have hquote := (quotedRate_eq_ok (positiveRate_eq_ok hrate).1).1
        refine hmerged.merge ?_ ?_ hstep
        · simp [savingsPlanQuotes, hcommitment, hquote]
        · rintro ⟨sku, other⟩ hne
          by_cases hsku : toAsciiLowercase item.armSkuName = sku
          · have hother : commitment ≠ other := by
              rintro rfl
              exact hne (by rw [hsku])
            simp [savingsPlanQuotes, hcommitment, hother]
          · simp [hsku]
  refine hfold.congr fun key => ?_
  rw [commitmentQuotes_concat, itemCommitmentQuotes]
  by_cases hsku : toAsciiLowercase item.armSkuName = key.1
  · rw [if_neg (not_not.mpr hsku), if_pos hlinux, if_pos hsku]
  · rw [if_pos hsku, if_neg hsku]

/-- A reservation merged into its slot. -/
theorem holdsQuotes_reservation {rates rates' : HashMap (String × VmCommitment) RetailRate}
    {commitment : VmCommitment}
    (hholds : HoldsQuotes rates (commitmentQuotes expected items))
    (hlinux : isLinuxVmRate expected item = false)
    (hcommitment : reservationCommitment expected item = some commitment)
    (hrate : reservationHourlyRate item commitment sourceUrl = .ok rate)
    (h : mergeInto .conflictingVmRate rates (toAsciiLowercase item.armSkuName, commitment) rate =
      .ok rates') : HoldsQuotes rates' (commitmentQuotes expected (items ++ [item])) := by
  have hquote : reservationQuote item commitment = some rate.quote := by
    obtain ⟨upfront, hupfront, hrate⟩ := bind_eq_ok.mp hrate
    obtain ⟨hours, hhours, hrate⟩ := bind_eq_ok.mp hrate
    obtain ⟨hourly, hhourly, hrate⟩ := bind_eq_ok.mp hrate
    obtain rfl := Except.ok.inj hrate
    have hhours : termHours commitment = some hours := by
      rcases hterm : termHours commitment with _ | n
      · rw [hterm] at hhours
        exact nomatch hhours
      · rw [hterm] at hhours
        exact congrArg some (Except.ok.inj hhours)
    rw [reservationQuote, retailRate_quote (checked_eq_ok.mp hupfront)]
    change ((termHours commitment).bind _) = _
    rw [hhours]
    change ((div upfront.rate (DecimalArith.ofNat hours)).toOption.bind _) = _
    rw [liftM_eq_ok.mp hhourly]
    rfl
  refine hholds.merge ?_ ?_ h
  · rw [commitmentQuotes_concat, itemCommitmentQuotes, if_neg (not_not.mpr rfl), hlinux,
      if_neg Bool.false_ne_true, if_pos hcommitment, hquote]
    rfl
  · rintro ⟨sku, other⟩ hne
    rw [commitmentQuotes_concat, itemCommitmentQuotes]
    by_cases hsku : toAsciiLowercase item.armSkuName = sku
    · have hother : ¬ reservationCommitment expected item = some other := by
        rw [hcommitment]
        rintro hsame
        exact hne (by rw [hsku, Option.some.inj hsame])
      rw [if_neg (not_not.mpr hsku), hlinux, if_neg Bool.false_ne_true, if_neg hother,
        List.append_nil]
    · rw [if_pos hsku, List.append_nil]

/-- A Windows meter is neither a Linux one nor a reservation. -/
theorem windows_excludes (h : isWindowsVmRate expected item = true) :
    isLinuxVmRate expected item = false ∧ reservationCommitment expected item = none := by
  unfold isWindowsVmRate at h
  simp only [Bool.and_eq_true, beq_iff_eq] at h
  obtain ⟨⟨⟨-, htype⟩, -⟩, hwindows⟩ := h
  constructor
  · simp [isLinuxVmRate, hwindows]
  · simp [reservationCommitment, htype]

theorem commitmentQuotes_concat_of_none (hlinux : isLinuxVmRate expected item = false)
    (hreservation : reservationCommitment expected item = none) (key : String × VmCommitment) :
    commitmentQuotes expected (items ++ [item]) key = commitmentQuotes expected items key := by
  rw [commitmentQuotes_concat, itemCommitmentQuotes, hlinux, hreservation]
  simp

theorem linux_not_windows (h : isLinuxVmRate expected item = true) :
    isWindowsVmRate expected item = false := by
  unfold isLinuxVmRate at h
  simp only [Bool.and_eq_true, Bool.not_eq_true'] at h
  simp [isWindowsVmRate, h.2]

theorem unit_of_premiumSsdTier {expectedTiers : List String} {tierKey : String}
    (h : premiumSsdTier expectedTiers item = some tierKey) : item.unitOfMeasure = "1/Month" := by
  unfold premiumSsdTier at h
  split at h
  · exact nomatch h
  · rename_i hmeter
    push Not at hmeter
    exact hmeter.2.2.1

theorem unit_of_premiumSsdV2Dimension {dimension : AzureManagedDiskPriceDimension}
    (h : premiumSsdV2Dimension item = some dimension) : item.unitOfMeasure ≠ "" := by
  unfold premiumSsdV2Dimension at h
  split at h
  · exact nomatch h
  split at h
  · rename_i hunit
    simp [hunit]
  · rename_i hunit
    simp [hunit]
  · rename_i hunit
    simp [hunit]
  · exact nomatch h

theorem diskRate_of_quoted {price : String} (h : quotedRate item sourceUrl price = .ok rate)
    (hunit : item.unitOfMeasure ≠ "") : DiskRate rate := by
  obtain ⟨-, hsame, hparse⟩ := quotedRate_eq_ok h
  exact ⟨hsame ▸ hunit, hparse⟩

theorem Merged.addDiskItem {expectedTiers : List String} {rates rates' : RetailRates}
    (hmerged : Merged expected items rates) (hwindows : isWindowsVmRate expected item = false)
    (hlinux : isLinuxVmRate expected item = false)
    (hreservation : reservationCommitment expected item = none)
    (h : addDiskItem expectedTiers sourceUrl rates item = .ok rates') :
    Merged expected (items ++ [item]) rates' := by
  have hlinuxVm := hmerged.linux.congr (meterQuotes_concat_of_not hlinux)
  have hwindowsVm := hmerged.windows.congr (meterQuotes_concat_of_not hwindows)
  have hcommitmentVm := hmerged.commitment.congr
    (commitmentQuotes_concat_of_none hlinux hreservation)
  unfold AzureVm.addDiskItem at h
  split at h
  · obtain rfl := Except.ok.inj h
    exact ⟨hlinuxVm, hwindowsVm, hcommitmentVm, hmerged.tiers, hmerged.v2⟩
  split at h
  · rename_i tierKey _ htier
    obtain ⟨rate, hrate, h⟩ := bind_eq_ok.mp h
    obtain ⟨tiers, htiers, h⟩ := bind_eq_ok.mp h
    obtain rfl := Except.ok.inj h
    obtain ⟨hquoted, hpositive⟩ := positiveRate_eq_ok hrate
    have hunit : item.unitOfMeasure ≠ "" := by
      rw [unit_of_premiumSsdTier htier]
      decide
    refine ⟨hlinuxVm, hwindowsVm, hcommitmentVm, ?_, hmerged.v2⟩
    exact mergeInto_forall (fun _ _ _ hrate => hrate) hmerged.tiers
      ⟨diskRate_of_quoted hquoted hunit, hpositive⟩ htiers
  · rename_i dimension _ hdimension
    obtain ⟨tierMinimum, -, h⟩ := bind_eq_ok.mp h
    obtain ⟨rate, hrate, h⟩ := bind_eq_ok.mp h
    obtain ⟨v2, hv2, h⟩ := bind_eq_ok.mp h
    obtain rfl := Except.ok.inj h
    refine ⟨hlinuxVm, hwindowsVm, hcommitmentVm, hmerged.tiers, ?_⟩
    exact mergeInto_forall (fun _ _ _ hrate => hrate) hmerged.v2
      (diskRate_of_quoted hrate (unit_of_premiumSsdV2Dimension hdimension)) hv2
  · obtain rfl := Except.ok.inj h
    exact ⟨hlinuxVm, hwindowsVm, hcommitmentVm, hmerged.tiers, hmerged.v2⟩

theorem Merged.add {context : AzureVmPricingContext} {expectedTiers : List String}
    {rates rates' : RetailRates} (hmerged : Merged expected items rates)
    (h : addRetailItem context expected expectedTiers sourceUrl rates item = .ok rates') :
    Merged expected (items ++ [item].filter (inScope context)) rates' := by
  unfold addRetailItem at h
  rcases hscope : inScope context item with _ | _
  · rw [hscope] at h
    obtain rfl := Except.ok.inj h
    rw [List.filter_singleton, hscope, cond_false, List.append_nil]
    exact hmerged
  rw [List.filter_singleton, hscope, cond_true]
  rw [hscope, Bool.not_true, if_neg Bool.false_ne_true] at h
  rcases hwindows : isWindowsVmRate expected item with _ | _
  · rw [hwindows, if_neg Bool.false_ne_true] at h
    rcases hlinux : isLinuxVmRate expected item with _ | _
    · rw [hlinux, if_neg Bool.false_ne_true] at h
      rcases hreservation : reservationCommitment expected item with _ | commitment
      · rw [hreservation] at h
        exact hmerged.addDiskItem hwindows hlinux hreservation (checked_eq_ok.mp h)
      · rw [hreservation] at h
        obtain ⟨rate, hrate, h⟩ := bind_eq_ok.mp h
        obtain ⟨commitmentVm, hcommitmentVm, h⟩ := bind_eq_ok.mp h
        obtain rfl := Except.ok.inj h
        constructor
        · exact hmerged.linux.congr (meterQuotes_concat_of_not hlinux)
        · exact hmerged.windows.congr (meterQuotes_concat_of_not hwindows)
        · exact holdsQuotes_reservation hmerged.commitment hlinux hreservation hrate
            (checked_eq_ok.mp hcommitmentVm)
        · exact hmerged.tiers
        · exact hmerged.v2
    · rw [hlinux, if_pos rfl] at h
      obtain ⟨commitmentVm, hcommitmentVm, h⟩ := bind_eq_ok.mp (checked_eq_ok.mp h)
      obtain ⟨rate, hrate, h⟩ := bind_eq_ok.mp h
      obtain ⟨linuxVm, hlinuxVm, h⟩ := bind_eq_ok.mp h
      obtain rfl := Except.ok.inj h
      constructor
      · exact holdsQuotes_meter hmerged.linux hlinux hrate hlinuxVm
      · exact hmerged.windows.congr (meterQuotes_concat_of_not hwindows)
      · exact holdsQuotes_savingsPlans hmerged.commitment hlinux hcommitmentVm
      · exact hmerged.tiers
      · exact hmerged.v2
  · rw [hwindows, if_pos rfl] at h
    obtain ⟨rate, hrate, h⟩ := bind_eq_ok.mp h
    obtain ⟨windowsVm, hwindowsVm, h⟩ := bind_eq_ok.mp h
    obtain rfl := Except.ok.inj h
    obtain ⟨hlinux, hreservation⟩ := windows_excludes hwindows
    constructor
    · exact hmerged.linux.congr (meterQuotes_concat_of_not hlinux)
    · exact holdsQuotes_meter hmerged.windows hwindows (checked_eq_ok.mp hrate)
        (checked_eq_ok.mp hwindowsVm)
    · exact hmerged.commitment.congr (commitmentQuotes_concat_of_none hlinux hreservation)
    · exact hmerged.tiers
    · exact hmerged.v2

end Steps

theorem merged_of_pages {context : AzureVmPricingContext} {expected : HashMap String String}
    {expectedTiers : List String} {pages : List AzureVmRetailPagePayload} {rates : RetailRates}
    (h : normalizeRetailRates context expected expectedTiers pages = .ok rates) :
    Merged expected (scopedItems context pages) rates := by
  refine foldlM_rule (fun done state => Merged expected (scopedItems context done) state) h
    (.empty expected) ?_
  intro done page state state' _ hdone hstep
  unfold addRetailPage at hstep
  split at hstep
  · exact nomatch hstep
  rcases hbody : page.body with _ | items
  · rw [hbody] at hstep
    exact nomatch hstep
  rw [hbody] at hstep
  have hitems : scopedItems context (done ++ [page]) = scopedItems context done ++
      items.filter (inScope context) := by
    rw [scopedItems, List.flatMap_append, List.filter_append, List.flatMap_singleton, hbody]
    rfl
  rw [hitems]
  refine foldlM_rule (fun earlier state => Merged expected (scopedItems context done ++
    earlier.filter (inScope context)) state) hstep ?_ ?_
  · rw [List.filter_nil, List.append_nil]
    exact hdone
  · intro earlier item state state' _ hearlier hitem
    rw [List.filter_append, ← List.append_assoc]
    exact hearlier.add hitem

end TcoCalculator.AzureVm
