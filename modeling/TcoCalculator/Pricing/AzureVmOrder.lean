/-
The retail items of the virtual machine and managed-disk normalizer in any
order: which rates they leave, and what the records take of them.
-/
import TcoCalculator.Domain.DecimalValues
import TcoCalculator.Pricing.AzureVm
import TcoCalculator.Pricing.RetailOrder

namespace TcoCalculator.AzureVm

open DecimalArith Fallible Halt ProviderRows RetailOrder

variable {context : AzureVmPricingContext} {expected : HashMap String String}
  {tierKeys : List String}

instance : RetailPages AzureVmRetailPagePayload RetailItem where
  page := AzureVmRetailPagePayload.mk
  sourceUrl := AzureVmRetailPagePayload.sourceUrl
  items := AzureVmRetailPagePayload.body
  sourceUrl_page _ _ := rfl
  items_page _ _ := rfl

/-! ### Meters -/

inductive Meter where
  | linux (key : String)
  | windows (key : String)
  | commitment (key : String × VmCommitment)
  | tier (key : String)
  | v2 (key : AzureManagedDiskPriceDimension × ℚ)
  deriving DecidableEq

/-- What the merges compare of a rate. -/
def RetailRate.terms (rate : RetailRate) : MeterPrice :=
  ⟨value rate.rate, rate.unitOfMeasure, rate.effectiveStartDate⟩

def RetailRates.prices (rates : RetailRates) : Meter → Option MeterPrice
  | .linux key => (rates.linuxVm.lookup key).map RetailRate.terms
  | .windows key => (rates.windowsVm.lookup key).map RetailRate.terms
  | .commitment key => (rates.commitmentVm.lookup key).map RetailRate.terms
  | .tier key => (rates.tiers.lookup key).map RetailRate.terms
  | .v2 key => (rates.v2.lookup key).map RetailRate.terms

/-- The price of a meter, as it is read. -/
def priceOf {ε : Type} (meter : Meter) (rate : Except ε RetailRate) :
    Option (List (Meter × MeterPrice)) :=
  rate.toOption.map fun rate => [(meter, rate.terms)]

def planPrices (item : RetailItem) (plan : SavingsPlanPrice) :
    Option (List (Meter × MeterPrice)) :=
  match savingsPlanCommitment plan.term with
  | none => some []
  | some commitment => priceOf (.commitment (toAsciiLowercase item.armSkuName, commitment))
      (savingsPlanRate item plan "")

def linuxPrices (item : RetailItem) : Option (List (Meter × MeterPrice)) :=
  (item.savingsPlan.mapM (planPrices item)).bind fun plans =>
    (priceOf (.linux (toAsciiLowercase item.armSkuName)) (retailRate item "")).map fun own =>
      plans.flatten ++ own

def diskPrices (tierKeys : List String) (item : RetailItem) : Option (List (Meter × MeterPrice)) :=
  if item.priceType ≠ "Consumption" then some []
  else
    match premiumSsdTier tierKeys item, premiumSsdV2Dimension item with
    | some tierKey, _ => priceOf (.tier tierKey) (retailRate item "")
    | none, some dimension =>
        (parseNonnegativeDecimal item.tierMinimumUnits).toOption.bind fun tierMinimum =>
          priceOf (.v2 (dimension, value tierMinimum)) (retailRateAllowZero item "")
    | none, none => some []

/-- The prices an item has for the meters. -/
def itemPrices (context : AzureVmPricingContext) (expected : HashMap String String)
    (tierKeys : List String) (item : RetailItem) : Option (List (Meter × MeterPrice)) :=
  if !inScope context item then some []
  else if isWindowsVmRate expected item then
    priceOf (.windows (toAsciiLowercase item.armSkuName)) (retailRate item "")
  else if isLinuxVmRate expected item then linuxPrices item
  else
    match reservationCommitment expected item with
    | some commitment => priceOf (.commitment (toAsciiLowercase item.armSkuName, commitment))
        (reservationHourlyRate item commitment "")
    | none => diskPrices tierKeys item

/-- No meter takes its cheapest price. -/
def noMeter (_ : Meter) : Bool := false

/-! ### Reading -/

def RetailRate.withSource (sourceUrl : String) (rate : RetailRate) : RetailRate :=
  { rate with sourceUrl := sourceUrl }

theorem quotedRate_source (item : RetailItem) (sourceUrl price : String) :
    quotedRate item sourceUrl price =
      (quotedRate item "" price).map (RetailRate.withSource sourceUrl) := by
  rw [quotedRate, quotedRate]
  cases parseNonnegativeDecimal price with
  | error e => rfl
  | ok rate =>
      rw [ok_bind, ok_bind]
      cases ensure (item.effectiveStartDate ≠ "" ∧ item.meterId ≠ "")
        AzureVmPricingNormalizationError.invalidValue with
      | error e => rfl
      | ok _ => rfl

theorem positiveRate_source (quoted : Except AzureVmPricingNormalizationError RetailRate)
    (sourceUrl : String) :
    positiveRate (quoted.map (RetailRate.withSource sourceUrl)) =
      (positiveRate quoted).map (RetailRate.withSource sourceUrl) := by
  cases quoted with
  | error e => rfl
  | ok rate =>
      change (ensure (0 < value rate.rate) AzureVmPricingNormalizationError.invalidValue >>= fun _ =>
        _) = Except.map _ (ensure (0 < value rate.rate) _ >>= fun _ => _)
      cases ensure (0 < value rate.rate) AzureVmPricingNormalizationError.invalidValue with
      | error e => rfl
      | ok _ => rfl

theorem retailRate_source (item : RetailItem) (sourceUrl : String) :
    retailRate item sourceUrl =
      (retailRate item "").map (RetailRate.withSource sourceUrl) := by
  rw [retailRate, retailRateAllowZero, quotedRate_source, positiveRate_source]
  rfl

theorem reservationHourlyRate_source (item : RetailItem) (commitment : VmCommitment)
    (sourceUrl : String) :
    reservationHourlyRate item commitment sourceUrl =
      (reservationHourlyRate item commitment "").map (RetailRate.withSource sourceUrl) := by
  rw [reservationHourlyRate, reservationHourlyRate, retailRate_source]
  cases retailRate item "" with
  | error e => rfl
  | ok rate =>
      cases termHours commitment with
      | none => rfl
      | some hours =>
          change ((liftM (div rate.rate (DecimalArith.ofNat hours : Decimal96)) :
            Except (Halt AzureVmPricingNormalizationError) Decimal96) >>= fun _ => _) =
              Except.map _ ((liftM (div rate.rate (DecimalArith.ofNat hours : Decimal96)) :
                Except (Halt AzureVmPricingNormalizationError) Decimal96) >>= fun _ => _)
          cases (liftM (div rate.rate (DecimalArith.ofNat hours : Decimal96)) :
              Except (Halt AzureVmPricingNormalizationError) Decimal96) with
          | error e => rfl
          | ok hourly => rfl

/-! ### Merging -/

theorem lookup_insert_terms {κ : Type} [DecidableEq κ] (rates : HashMap κ RetailRate)
    (key other : κ) (rate : RetailRate) :
    ((rates.insert key rate).lookup other).map RetailRate.terms =
      if other = key then some rate.terms else (rates.lookup other).map RetailRate.terms := by
  by_cases h : other = key
  · subst h
    simp
  · rw [AList.lookup_insert_ne h, if_neg h]

/-- One map of the rates, as the meters see it. -/
structure Shows {κ : Type} [DecidableEq κ] (rates : RetailRates) (map : HashMap κ RetailRate)
    (put : HashMap κ RetailRate → RetailRates) (meter : κ → Meter) : Prop where
  get : ∀ key, rates.prices (meter key) = (map.lookup key).map RetailRate.terms
  set : ∀ key rate, (put (map.insert key rate)).prices =
    Function.update rates.prices (meter key) (some rate.terms)

theorem shows_linux (rates : RetailRates) :
    Shows rates rates.linuxVm (fun map => { rates with linuxVm := map }) .linux where
  get _ := rfl
  set key rate := by
    funext meter
    cases meter <;> simp [RetailRates.prices, Function.update_apply, lookup_insert_terms]

theorem shows_windows (rates : RetailRates) :
    Shows rates rates.windowsVm (fun map => { rates with windowsVm := map }) .windows where
  get _ := rfl
  set key rate := by
    funext meter
    cases meter <;> simp [RetailRates.prices, Function.update_apply, lookup_insert_terms]

theorem shows_commitment (rates : RetailRates) :
    Shows rates rates.commitmentVm (fun map => { rates with commitmentVm := map })
      .commitment where
  get _ := rfl
  set key rate := by
    funext meter
    cases meter <;> simp [RetailRates.prices, Function.update_apply, lookup_insert_terms]

theorem shows_tier (rates : RetailRates) :
    Shows rates rates.tiers (fun map => { rates with tiers := map }) .tier where
  get _ := rfl
  set key rate := by
    funext meter
    cases meter <;> simp [RetailRates.prices, Function.update_apply, lookup_insert_terms]

theorem shows_v2 (rates : RetailRates) :
    Shows rates rates.v2 (fun map => { rates with v2 := map }) .v2 where
  get _ := rfl
  set key rate := by
    funext meter
    cases meter <;> simp [RetailRates.prices, Function.update_apply, lookup_insert_terms]

theorem mergeLatestRate_terms (conflict : AzureVmPricingNormalizationError)
    (slot : Option RetailRate) (incoming : RetailRate) :
    (mergeLatestRate conflict slot incoming).toOption.map (fun rate => some rate.terms) =
      Latest.merge MeterPrice.start (slot.map RetailRate.terms) incoming.terms := by
  cases slot with
  | none => rfl
  | some existing =>
      rw [mergeLatestRate, Option.map_some]
      by_cases hlater : existing.effectiveStartDate < incoming.effectiveStartDate
      · have hterms : existing.terms.start < incoming.terms.start := hlater
        rw [if_pos hlater, Latest.merge_later hterms]
        rfl
      · rw [if_neg hlater]
        have hlater : ¬ existing.terms.start < incoming.terms.start := hlater
        by_cases hsame : incoming.effectiveStartDate = existing.effectiveStartDate
        · have hterms : incoming.terms.start = existing.terms.start := hsame
          rw [if_pos hsame, Latest.merge_same hterms]
          have hterms : incoming.terms = existing.terms ↔
              ¬ (value incoming.rate ≠ value existing.rate ∨
                incoming.unitOfMeasure ≠ existing.unitOfMeasure) := by
            rw [RetailRate.terms, RetailRate.terms, MeterPrice.mk.injEq]
            tauto
          by_cases hdiffers : value incoming.rate ≠ value existing.rate ∨
              incoming.unitOfMeasure ≠ existing.unitOfMeasure
          · rw [if_pos hdiffers, if_neg fun heq => hterms.mp heq hdiffers]
            rfl
          · rw [if_neg hdiffers, if_pos (hterms.mpr hdiffers)]
            rfl
        · have hterms : incoming.terms.start ≠ existing.terms.start := hsame
          rw [if_neg hsame, Latest.merge_earlier hlater hterms]
          rfl

/-- A rate merged into its map is its price merged into its meter. -/
theorem Shows.merge {κ : Type} [DecidableEq κ] {rates : RetailRates}
    {map : HashMap κ RetailRate} {put : HashMap κ RetailRate → RetailRates} {meter : κ → Meter}
    (h : Shows rates map put meter) (conflict : AzureVmPricingNormalizationError) (key : κ)
    (incoming : RetailRate) :
    (mergeInto conflict map key incoming).toOption.map (fun map => (put map).prices) =
      Slots.mergeAt (mergePrice noMeter) rates.prices (meter key, incoming.terms) := by
  change _ = (Latest.merge MeterPrice.start (rates.prices (meter key)) incoming.terms).map _
  rw [h.get, ← mergeLatestRate_terms conflict, mergeInto]
  cases mergeLatestRate conflict (map.lookup key) incoming with
  | error e => rfl
  | ok merged => exact congrArg some (h.set key merged)

/-- A rate read and merged into its map is its price read and merged into its
meter, wherever the item comes from. -/
theorem Shows.read {κ ε : Type} [DecidableEq κ] {rates : RetailRates}
    {map : HashMap κ RetailRate} {put : HashMap κ RetailRate → RetailRates} {meter : κ → Meter}
    (h : Shows rates map put meter) (conflict : AzureVmPricingNormalizationError) (key : κ)
    (read : Except ε RetailRate) (sourceUrl : String) :
    ((read.map (RetailRate.withSource sourceUrl)).toOption.bind fun rate =>
        (mergeInto conflict map key rate).toOption.map fun map => (put map).prices) =
      (priceOf (meter key) read).bind fun prices =>
        prices.foldlM (Slots.mergeAt (mergePrice noMeter)) rates.prices := by
  cases read with
  | error e => rfl
  | ok rate =>
      change (mergeInto conflict map key (rate.withSource sourceUrl)).toOption.map
          (fun map => (put map).prices) = [(meter key, rate.terms)].foldlM _ _
      rw [h.merge, List.foldlM_cons]
      exact (bind_pure _).symm

section Steps

variable {ε α β γ : Type} (read : Except ε α) (merge : α → Except ε β) (put : β → γ)

theorem toOption_step :
    (read >>= fun a => merge a >>= fun b => .ok (put b)).toOption =
      read.toOption.bind fun a => (merge a).toOption.map put := by
  cases read with
  | error e => rfl
  | ok a =>
      rw [ok_bind]
      cases hmerged : merge a <;> simp [hmerged, Except.toOption]

theorem toOption_checked_step (read : Except (Halt ε) α) :
    (read >>= fun a => checked (merge a) >>= fun b => .ok (put b)).toOption =
      read.toOption.bind fun a => (merge a).toOption.map put := by
  rw [toOption_step read (fun a => checked (merge a)) put]
  simp only [toOption_checked]

end Steps

/-! ### Items -/

theorem addSavingsPlan_prices (rates : RetailRates) (item : RetailItem) (sourceUrl : String)
    (map : HashMap (String × VmCommitment) RetailRate) (plan : SavingsPlanPrice) :
    (addSavingsPlan item sourceUrl map plan).toOption.map
        (fun map => RetailRates.prices { rates with commitmentVm := map }) =
      (planPrices item plan).bind fun prices =>
        prices.foldlM (Slots.mergeAt (mergePrice noMeter))
          (RetailRates.prices { rates with commitmentVm := map }) := by
  rw [addSavingsPlan, planPrices]
  cases savingsPlanCommitment plan.term with
  | none => rfl
  | some commitment =>
      refine Eq.trans ?_ ((shows_commitment { rates with commitmentVm := map }).read
        .conflictingVmRate _ _ sourceUrl)
      dsimp only
      rw [toOption_bind, Option.map_bind, savingsPlanRate, savingsPlanRate, quotedRate_source,
        positiveRate_source]
      rfl

theorem addWindowsItem_prices (rates : RetailRates) (item : RetailItem) (sourceUrl : String) :
    (checked (retailRate item sourceUrl) >>= fun rate =>
        checked (mergeInto .conflictingVmRate rates.windowsVm (toAsciiLowercase item.armSkuName)
          rate) >>= fun windowsVm =>
            .ok { rates with windowsVm := windowsVm }).toOption.map RetailRates.prices =
      (priceOf (.windows (toAsciiLowercase item.armSkuName)) (retailRate item "")).bind fun prices =>
        prices.foldlM (Slots.mergeAt (mergePrice noMeter)) rates.prices := by
  refine Eq.trans ?_ ((shows_windows rates).read .conflictingVmRate _ _ sourceUrl)
  rw [toOption_checked_step, toOption_checked, ← retailRate_source, Option.map_bind]
  simp only [Function.comp_def, Option.map_map]

theorem addLinuxItem_prices (rates : RetailRates) (item : RetailItem) (sourceUrl : String) :
    (addLinuxItem sourceUrl rates item).toOption.map RetailRates.prices =
      (linuxPrices item).bind fun prices =>
        prices.foldlM (Slots.mergeAt (mergePrice noMeter)) rates.prices := by
  have hplans : (item.savingsPlan.foldlM (addSavingsPlan item sourceUrl)
        rates.commitmentVm).toOption.map
          (fun map => RetailRates.prices { rates with commitmentVm := map }) =
      (item.savingsPlan.mapM (planPrices item)).bind fun plans =>
        plans.flatten.foldlM (Slots.mergeAt (mergePrice noMeter)) rates.prices := by
    rw [← foldlM_read]
    exact foldlM_view (addSavingsPlan_prices rates item sourceUrl) item.savingsPlan
      rates.commitmentVm
  have hown : ∀ map, (retailRate item sourceUrl >>= fun rate =>
        mergeInto .conflictingVmRate rates.linuxVm (toAsciiLowercase item.armSkuName) rate >>=
          fun linuxVm => .ok { rates with commitmentVm := map, linuxVm := linuxVm }).toOption.map
            RetailRates.prices =
      (priceOf (.linux (toAsciiLowercase item.armSkuName)) (retailRate item "")).bind fun own =>
        own.foldlM (Slots.mergeAt (mergePrice noMeter))
          (RetailRates.prices { rates with commitmentVm := map }) := by
    intro map
    refine Eq.trans ?_ ((shows_linux { rates with commitmentVm := map }).read
      .conflictingVmRate _ _ sourceUrl)
    rw [toOption_step, ← retailRate_source, Option.map_bind]
    simp only [Function.comp_def, Option.map_map]
  rw [addLinuxItem, toOption_bind, Option.map_bind]
  calc (item.savingsPlan.foldlM (addSavingsPlan item sourceUrl) rates.commitmentVm).toOption.bind _
      = (item.savingsPlan.foldlM (addSavingsPlan item sourceUrl) rates.commitmentVm).toOption.bind
          fun map => (priceOf (.linux (toAsciiLowercase item.armSkuName)) (retailRate item "")).bind
            fun own => own.foldlM (Slots.mergeAt (mergePrice noMeter))
              (RetailRates.prices { rates with commitmentVm := map }) := by
        congr 1
        funext map
        exact hown map
    _ = ((item.savingsPlan.mapM (planPrices item)).bind fun plans =>
          plans.flatten.foldlM (Slots.mergeAt (mergePrice noMeter)) rates.prices).bind
            fun prices => (priceOf (.linux (toAsciiLowercase item.armSkuName))
              (retailRate item "")).bind fun own =>
                own.foldlM (Slots.mergeAt (mergePrice noMeter)) prices := by
        rw [← hplans, Option.bind_map]
        rfl
    _ = (linuxPrices item).bind fun prices =>
          prices.foldlM (Slots.mergeAt (mergePrice noMeter)) rates.prices := by
        rw [linuxPrices, Option.bind_assoc, Option.bind_assoc]
        congr 1
        funext plans
        rw [Option.bind_comm, Option.bind_map]
        congr 1
        funext own
        rw [Function.comp_apply, List.foldlM_append]
        rfl

theorem addReservation_prices (rates : RetailRates) (item : RetailItem)
    (commitment : VmCommitment) (sourceUrl : String) :
    (addReservation sourceUrl rates item commitment).toOption.map RetailRates.prices =
      (priceOf (.commitment (toAsciiLowercase item.armSkuName, commitment))
        (reservationHourlyRate item commitment "")).bind fun prices =>
          prices.foldlM (Slots.mergeAt (mergePrice noMeter)) rates.prices := by
  refine Eq.trans ?_ ((shows_commitment rates).read .conflictingVmRate _ _ sourceUrl)
  rw [← reservationHourlyRate_source]
  refine (congrArg (Option.map RetailRates.prices) (toOption_checked_step _ _ _)).trans ?_
  rw [Option.map_bind]
  simp only [Function.comp_def, Option.map_map]

theorem addDiskItem_prices (rates : RetailRates) (item : RetailItem) (sourceUrl : String) :
    (addDiskItem tierKeys sourceUrl rates item).toOption.map RetailRates.prices =
      (diskPrices tierKeys item).bind fun prices =>
        prices.foldlM (Slots.mergeAt (mergePrice noMeter)) rates.prices := by
  rw [addDiskItem, diskPrices]
  split_ifs with hconsumption
  · rfl
  cases premiumSsdTier tierKeys item with
  | some tierKey =>
      refine Eq.trans ?_ ((shows_tier rates).read .conflictingManagedDiskRate _ _ sourceUrl)
      rw [← retailRate_source]
      refine (congrArg (Option.map RetailRates.prices) (toOption_step _ _ _)).trans ?_
      rw [Option.map_bind]
      simp only [Function.comp_def, Option.map_map]
  | none =>
      cases premiumSsdV2Dimension item with
      | none => rfl
      | some dimension =>
          dsimp only
          rw [toOption_bind, Option.map_bind, Option.bind_assoc]
          congr 1
          funext tierMinimum
          refine Eq.trans ?_ ((shows_v2 rates).read .conflictingManagedDiskRate _ _ sourceUrl)
          rw [retailRateAllowZero, retailRateAllowZero, ← quotedRate_source]
          refine (congrArg (Option.map RetailRates.prices) (toOption_step _ _ _)).trans ?_
          rw [Option.map_bind]
          simp only [Function.comp_def, Option.map_map]

/-- What an item does to the rates, as far as terms go. -/
theorem addRetailItem_prices (sourceUrl : String) (rates : RetailRates) (item : RetailItem) :
    (addRetailItem context expected tierKeys sourceUrl rates item).toOption.map
        RetailRates.prices =
      (itemPrices context expected tierKeys item).bind fun prices =>
        prices.foldlM (Slots.mergeAt (mergePrice noMeter)) rates.prices := by
  rw [addRetailItem, itemPrices]
  split_ifs with hscope hwindows hlinux
  · rfl
  · exact addWindowsItem_prices rates item sourceUrl
  · rw [toOption_checked]
    exact addLinuxItem_prices rates item sourceUrl
  · cases reservationCommitment expected item with
    | some commitment => exact addReservation_prices rates item commitment sourceUrl
    | none =>
        rw [toOption_checked]
        exact addDiskItem_prices rates item sourceUrl

/-- The retail rates are those of the meters. -/
theorem normalizeRetailRates_prices (pages : List AzureVmRetailPagePayload) :
    (normalizeRetailRates context expected tierKeys pages).toOption.map RetailRates.prices =
      meterRates noMeter (itemPrices context expected tierKeys) pages := by
  have hitem : ∀ (page : AzureVmRetailPagePayload) (rates : RetailRates) (item : RetailItem),
      (addRetailItem context expected tierKeys page.sourceUrl rates item).toOption.map
          RetailRates.prices =
        (itemPrices context expected tierKeys item).bind fun prices =>
          prices.foldlM (Slots.mergeAt (mergePrice noMeter)) rates.prices :=
    fun page rates item => addRetailItem_prices page.sourceUrl rates item
  refine foldlM_pages hitem (fun rates page => ?_) ?_ pages
  · rw [addRetailPage, pageItems]
    change (if page.sourceUrl = "" then _ else _ : Except _ _).toOption =
      (if page.sourceUrl = "" then none else page.body).bind _
    split_ifs with hurl
    · rfl
    · cases page.body with
      | none => rfl
      | some items => exact congrArg Except.toOption (ok_bind items _)
  · funext meter
    cases meter <;> rfl

/-! ### Dates -/

theorem quotedRate_start {item : RetailItem} {sourceUrl price : String} {rate : RetailRate}
    (h : quotedRate item sourceUrl price = .ok rate) :
    rate.effectiveStartDate = item.effectiveStartDate := by
  obtain ⟨parsed, -, h⟩ := bind_eq_ok.mp h
  obtain ⟨_, -, h⟩ := bind_eq_ok.mp h
  cases h
  rfl

theorem positiveRate_start {item : RetailItem} {sourceUrl price : String} {rate : RetailRate}
    (h : positiveRate (quotedRate item sourceUrl price) = .ok rate) :
    rate.effectiveStartDate = item.effectiveStartDate := by
  obtain ⟨quoted, hquoted, h⟩ := bind_eq_ok.mp h
  obtain ⟨_, -, h⟩ := bind_eq_ok.mp h
  cases h
  exact quotedRate_start hquoted

theorem reservationHourlyRate_start {item : RetailItem} {commitment : VmCommitment}
    {sourceUrl : String} {rate : RetailRate}
    (h : reservationHourlyRate item commitment sourceUrl = .ok rate) :
    rate.effectiveStartDate = item.effectiveStartDate := by
  obtain ⟨quoted, hquoted, h⟩ := bind_eq_ok.mp h
  obtain ⟨hours, -, h⟩ := bind_eq_ok.mp h
  obtain ⟨hourly, -, h⟩ := bind_eq_ok.mp h
  cases h
  have hquoted : retailRate item sourceUrl = .ok quoted := checked_eq_ok.mp hquoted
  have hstart := positiveRate_start hquoted
  exact hstart

theorem start_of_priceOf {ε : Type} {item : RetailItem} {meter : Meter}
    {read : Except ε RetailRate} {prices : List (Meter × MeterPrice)}
    (hread : ∀ rate, read = .ok rate → rate.effectiveStartDate = item.effectiveStartDate)
    (h : priceOf meter read = some prices) :
    ∀ entry ∈ prices, entry.2.start = item.effectiveStartDate := by
  obtain ⟨rate, hrate, rfl⟩ := Option.map_eq_some_iff.mp h
  intro entry hentry
  rw [List.mem_singleton.mp hentry]
  exact hread rate (toOption_eq_some.mp hrate)

theorem planPrices_start {item : RetailItem} {plan : SavingsPlanPrice}
    {prices : List (Meter × MeterPrice)} (h : planPrices item plan = some prices) :
    ∀ entry ∈ prices, entry.2.start = item.effectiveStartDate := by
  rw [planPrices] at h
  cases hterm : savingsPlanCommitment plan.term with
  | none =>
      rw [hterm] at h
      cases h
      exact fun _ hnil => absurd hnil List.not_mem_nil
  | some commitment =>
      rw [hterm] at h
      exact start_of_priceOf (fun _ => positiveRate_start) h

theorem linuxPrices_start {item : RetailItem} {prices : List (Meter × MeterPrice)}
    (h : linuxPrices item = some prices) :
    ∀ entry ∈ prices, entry.2.start = item.effectiveStartDate := by
  obtain ⟨plans, hplans, h⟩ := Option.bind_eq_some_iff.mp h
  obtain ⟨own, hown, rfl⟩ := Option.map_eq_some_iff.mp h
  intro entry hentry
  rcases List.mem_append.mp hentry with hplan | hown'
  · rw [ReadEach.flatten_of_mapM hplans] at hplan
    obtain ⟨plan, hmem, hplan⟩ := List.mem_flatMap.mp hplan
    obtain ⟨read, hread⟩ := Option.isSome_iff_exists.mp (ReadEach.isSome_of_mapM hplans hmem)
    rw [hread] at hplan
    exact planPrices_start hread entry hplan
  · exact start_of_priceOf (fun _ => positiveRate_start) hown entry hown'

theorem diskPrices_start {item : RetailItem} {prices : List (Meter × MeterPrice)}
    (h : diskPrices tierKeys item = some prices) :
    ∀ entry ∈ prices, entry.2.start = item.effectiveStartDate := by
  rw [diskPrices] at h
  split_ifs at h with hconsumption
  · cases h
    exact fun _ hnil => absurd hnil List.not_mem_nil
  cases htier : premiumSsdTier tierKeys item with
  | some tierKey =>
      rw [htier] at h
      exact start_of_priceOf (fun _ => positiveRate_start) h
  | none =>
      cases hdimension : premiumSsdV2Dimension item with
      | none =>
          rw [htier, hdimension] at h
          cases h
          exact fun _ hnil => absurd hnil List.not_mem_nil
      | some dimension =>
          rw [htier, hdimension] at h
          obtain ⟨tierMinimum, -, h⟩ := Option.bind_eq_some_iff.mp h
          exact start_of_priceOf (fun _ => quotedRate_start) h

/-- All prices of an item start when it does. -/
theorem itemPrices_start (item : RetailItem) :
    ∀ entry ∈ (itemPrices context expected tierKeys item).getD [],
      noMeter entry.1 = false → entry.2.start = item.effectiveStartDate := by
  intro entry hentry _
  cases hread : itemPrices context expected tierKeys item with
  | none =>
      rw [hread] at hentry
      cases hentry
  | some prices =>
      rw [hread, Option.getD_some] at hentry
      rw [itemPrices] at hread
      split_ifs at hread with hscope hwindows hlinux
      · cases hread
        cases hentry
      · exact start_of_priceOf (fun _ => positiveRate_start) hread entry hentry
      · exact linuxPrices_start hread entry hentry
      · cases hcommitment : reservationCommitment expected item with
        | some commitment =>
            rw [hcommitment] at hread
            exact start_of_priceOf (fun _ => reservationHourlyRate_start) hread entry hentry
        | none =>
            rw [hcommitment] at hread
            exact diskPrices_start hread entry hentry

end TcoCalculator.AzureVm
