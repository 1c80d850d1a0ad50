/-
The Azure virtual machine normalizer against the checks of a snapshot: when the
rates it emits are ones the snapshot takes.
-/
import TcoCalculator.Pricing.AzureVmChecks

namespace TcoCalculator

open DecimalArith Fallible Halt PriceSnapshot AzureVm

/-- Inputs that the normalizer accepts. -/
structure AcceptedVm where
  context : AzureVmPricingContext
  vmCatalog : VmCapabilityCatalog Decimal96
  diskCatalog : ManagedDiskCatalog Decimal96
  pages : List AzureVmRetailPagePayload
  accepted : (normalizeAzureVmPricing context vmCatalog diskCatalog pages).toOption.isSome = true

namespace AcceptedVm

variable (input : AcceptedVm)

def vmRecords : List (AzureVmRateRecord Decimal96) := (Option.get _ input.accepted).vmRecords

def managedDiskRecords : List (AzureManagedDiskRateRecord Decimal96) :=
  (Option.get _ input.accepted).managedDiskRecords

def expected : HashMap String String := expectedVms input.context input.vmCatalog

/-- The reviewed machines, in the order of their lower-case names. -/
def machines : List (String × String) := input.expected.toSortedList

def items : List RetailItem := scopedItems input.context input.pages

/-- The compute price of every option of a machine is recovered from its rounded
total, and the machine has a name. -/
def Recoverable (vm : String × String) (license : Decimal96) : Prop :=
  vm.2 ≠ "" ∧ ∀ pair ∈ vmPairs, ∀ price,
    computePrices input.expected input.items vm.1 pair.1 = some price → Recovered price license

/-- The prices of every machine with a license are recovered. -/
def Consistent : Prop :=
  ∀ vm ∈ input.machines, ∀ linux windows license,
    LicensePriced input.expected input.items vm.1 linux windows license →
      input.Recoverable vm license

/-! ### What the normalizer has computed -/

theorem exists_normalization : ∃ normalization,
    normalizeAzureVmPricing input.context input.vmCatalog input.diskCatalog input.pages =
        .ok normalization ∧
      input.vmRecords = normalization.vmRecords ∧
      input.managedDiskRecords = normalization.managedDiskRecords :=
  ⟨_, eq_ok_get input.accepted, rfl, rfl⟩

theorem groups_of_accepted : ∃ groups,
    List.Forall₂ (GroupOf input.expected input.items) input.machines groups ∧
      input.vmRecords.Perm groups.flatten := by
  obtain ⟨normalization, h, hrecords, -⟩ := input.exists_normalization
  obtain ⟨_, -, h⟩ := bind_eq_ok.mp h
  obtain ⟨tierKeys, -, h⟩ := bind_eq_ok.mp h
  obtain ⟨rates, hrates, h⟩ := bind_eq_ok.mp h
  obtain ⟨outcomes, houtcomes, h⟩ := bind_eq_ok.mp h
  obtain ⟨_, -, h⟩ := bind_eq_ok.mp h
  obtain ⟨tierRecords, -, h⟩ := bind_eq_ok.mp h
  obtain ⟨v2Records, -, h⟩ := bind_eq_ok.mp h
  obtain rfl := Except.ok.inj h
  refine ⟨outcomes.map VmOutcome.records, ?_, ?_⟩
  · rw [List.forall₂_map_right_iff]
    exact (mapM_eq_ok.mp houtcomes).imp fun _ _ houtcome =>
      groupOf_of_outcome (merged_of_pages hrates) houtcome
  · rw [hrecords]
    exact List.perm_insertionSort _ _

theorem diskRecords_of_accepted :
    (∀ record ∈ input.managedDiskRecords, validDiskRecord record = true) ∧
      (input.managedDiskRecords.map diskBusinessKey).Nodup := by
  obtain ⟨normalization, h, -, hrecords⟩ := input.exists_normalization
  obtain ⟨_, -, h⟩ := bind_eq_ok.mp h
  obtain ⟨tierKeys, htierKeys, h⟩ := bind_eq_ok.mp h
  obtain ⟨rates, hrates, h⟩ := bind_eq_ok.mp h
  obtain ⟨outcomes, -, h⟩ := bind_eq_ok.mp h
  obtain ⟨_, -, h⟩ := bind_eq_ok.mp h
  obtain ⟨tierRecords, htiers, h⟩ := bind_eq_ok.mp h
  obtain ⟨v2Records, hv2, h⟩ := bind_eq_ok.mp h
  obtain rfl := Except.ok.inj h
  have hmerged := merged_of_pages hrates
  have hnodup : tierKeys.Nodup := by
    have htierKeys := checked_eq_ok.mp htierKeys
    unfold expectedTiers at htierKeys
    split at htierKeys
    · exact nomatch htierKeys
    · obtain rfl := Except.ok.inj htierKeys
      exact Sorting.nodup_sorted_destutter _
  obtain ⟨hvalid, hkeys⟩ := diskRecords_valid hnodup
    ((mapM_eq_ok.mp (checked_eq_ok.mp htiers)).imp fun _ _ htier =>
      diskRecord_of_tier hmerged.tiers htier)
    (((List.forall₂_and_left _ _).mpr ⟨fun _ hmem => hmem, mapM_eq_ok.mp hv2⟩).imp
      fun _ _ hdimension => diskRecord_of_v2 hdimension.1 hmerged.v2 hdimension.2)
  have hperm := List.perm_insertionSort
    (fun left right : AzureManagedDiskRateRecord Decimal96 => left.stableKey ≤ right.stableKey)
    (tierRecords ++ v2Records)
  rw [hrecords]
  exact ⟨fun record hrecord => hvalid record (hperm.mem_iff.mp hrecord),
    (hperm.map diskBusinessKey).nodup_iff.mpr hkeys⟩

/-! ### The checks of a snapshot -/

/-- A machine is known under its name in lower case. -/
theorem lowercase_of_mem {vm : String × String} (h : vm ∈ input.machines) :
    toAsciiLowercase vm.2 = vm.1 := by
  have hlookup : input.expected.lookup vm.1 = some vm.2 := HashMap.mem_toSortedList.mp h
  have hall : ∀ candidates : List (VmSizeCandidate Decimal96), ∀ vms : HashMap String String,
      (∀ key sku, vms.lookup key = some sku → toAsciiLowercase sku = key) →
      ∀ key sku, (candidates.foldl (fun vms candidate =>
        vms.insert (toAsciiLowercase candidate.armSkuName) candidate.armSkuName) vms).lookup key =
          some sku → toAsciiLowercase sku = key := by
    intro candidates
    induction candidates with
    | nil => exact fun vms hvms => hvms
    | cons candidate candidates ih =>
        intro vms hvms
        refine ih _ fun key sku hinsert => ?_
        rcases HashMap.lookup_insert_eq_some hinsert with ⟨rfl, rfl⟩ | ⟨-, hold⟩
        · rfl
        · exact hvms key sku hold
  exact hall _ ∅ (fun _ _ hempty => nomatch hempty) vm.1 vm.2 hlookup

theorem machines_keys_nodup :
    (input.machines.map fun vm => toAsciiLowercase vm.2).Nodup := by
  rw [List.map_congr_left fun vm hvm => input.lowercase_of_mem hvm]
  exact HashMap.nodup_keys_toSortedList input.expected

/-- The stored records of a machine. -/
def storedGroup (vm : String × String) : List (AzureVmRateRecord Decimal96) :=
  (normalizeRecords input.vmRecords).filter fun record =>
    toAsciiLowercase record.armSkuName = toAsciiLowercase vm.2

theorem GroupOf.key {expected : HashMap String String} {items : List RetailItem}
    {vm : String × String} {group : List (AzureVmRateRecord Decimal96)}
    (h : GroupOf expected items vm group) :
    ∀ record ∈ group, toAsciiLowercase record.armSkuName = toAsciiLowercase vm.2 := by
  rcases h with ⟨_, _, _, hgroup⟩ | ⟨rfl, -⟩
  · intro record hrecord
    rw [hgroup.pairs.sku record hrecord]
  · exact fun record hrecord => absurd hrecord List.not_mem_nil

/-- The records of a machine are stored in one group. -/
theorem exists_group {vm : String × String} (h : vm ∈ input.machines) :
    ∃ group, GroupOf input.expected input.items vm group ∧
      (input.storedGroup vm).Perm (group.map normalizeProvenance) := by
  obtain ⟨groups, hgroups, hperm⟩ := input.groups_of_accepted
  obtain ⟨group, hof, hfilter⟩ := KeyedGroups.filter_ownerKey hgroups
    (fun _ _ hof => GroupOf.key hof) input.machines_keys_nodup h
  refine ⟨group, hof, ?_⟩
  rw [← hfilter]
  have hstored := (normalizeRecords_perm hperm).filter fun record =>
    decide (toAsciiLowercase record.armSkuName = toAsciiLowercase vm.2)
  rw [List.filter_map] at hstored
  exact hstored

/-- A stored record belongs to a machine with a license. -/
theorem exists_machine {record : AzureVmRateRecord Decimal96}
    (h : record ∈ normalizeRecords input.vmRecords) :
    ∃ vm ∈ input.machines,
      toAsciiLowercase record.armSkuName = toAsciiLowercase vm.2 := by
  obtain ⟨groups, hgroups, hperm⟩ := input.groups_of_accepted
  obtain ⟨original, horiginal, rfl⟩ :=
    List.mem_map.mp ((normalizeRecords_perm hperm).mem_iff.mp h)
  obtain ⟨vm, hvm, _, hof, hown⟩ := KeyedGroups.exists_owner hgroups horiginal
  exact ⟨vm, hvm, GroupOf.key hof original hown⟩

/-- A machine with a license has the records of its prices. -/
theorem pricedGroup_of_licensed {vm : String × String} {linux windows : Quote}
    {license : Decimal96} {group : List (AzureVmRateRecord Decimal96)}
    (h : GroupOf input.expected input.items vm group)
    (hlicensed : LicensePriced input.expected input.items vm.1 linux windows license) :
    PricedGroup input.expected input.items vm linux windows license group := by
  rcases h with ⟨linux', windows', license', hgroup⟩ | ⟨-, hnone | hnone⟩
  · obtain rfl := Option.some.inj (hlicensed.linuxQuote.symm.trans hgroup.quoted.linuxQuote)
    obtain rfl := Option.some.inj (hlicensed.windowsQuote.symm.trans hgroup.quoted.windowsQuote)
    obtain rfl := Except.ok.inj (hlicensed.license.symm.trans hgroup.quoted.license)
    exact hgroup
  · exact nomatch hlicensed.linuxQuote.symm.trans hnone
  · exact nomatch hlicensed.windowsQuote.symm.trans hnone

theorem payg_of_licensed {vm : String × String} {linux windows : Quote} {license : Decimal96}
    (h : LicensePriced input.expected input.items vm.1 linux windows license) :
    computePrices input.expected input.items vm.1 .payg = some linux.price := by
  rw [computePrices, licensedPrice, h.linuxQuote]
  rfl

/-- The check of the stored group of a machine with a license. -/
theorem storedGroup_decides {vm : String × String} (hvm : vm ∈ input.machines)
    {linux windows : Quote} {license : Decimal96}
    (h : LicensePriced input.expected input.items vm.1 linux windows license) :
    (∃ record ∈ input.storedGroup vm, record.armSkuName = vm.2) ∧
      Decides (validVmConfiguration (input.storedGroup vm))
        (∀ pair ∈ vmPairs, ∀ price,
          computePrices input.expected input.items vm.1 pair.1 = some price →
            Recovered price license) := by
  obtain ⟨group, hof, hperm⟩ := input.exists_group hvm
  have hgroup := input.pricedGroup_of_licensed hof h
  have hstored := hgroup.pairs.stored hperm
  have hpayg := input.payg_of_licensed h
  refine ⟨?_, validVmConfiguration_decides hstored hgroup.positive hpayg⟩
  obtain ⟨⟨record, hrecord, -⟩, -⟩ := hstored.present _ List.mem_cons_self _ hpayg
  exact ⟨record, hrecord, hstored.sku record hrecord⟩

/-- A stored record belongs to a machine with a license. -/
theorem exists_licensed {record : AzureVmRateRecord Decimal96}
    (h : record ∈ normalizeRecords input.vmRecords) :
    ∃ vm ∈ input.machines, record ∈ input.storedGroup vm ∧
      toAsciiLowercase record.armSkuName = toAsciiLowercase vm.2 ∧
      ∃ linux windows license,
        LicensePriced input.expected input.items vm.1 linux windows license := by
  obtain ⟨vm, hvm, hkey⟩ := input.exists_machine h
  have hstored : record ∈ input.storedGroup vm :=
    List.mem_filter.mpr ⟨h, decide_eq_true hkey⟩
  refine ⟨vm, hvm, hstored, hkey, ?_⟩
  obtain ⟨group, hof, hperm⟩ := input.exists_group hvm
  rcases hof with ⟨linux, windows, license, hgroup⟩ | ⟨rfl, -⟩
  · exact ⟨linux, windows, license, hgroup.quoted⟩
  · exact absurd (hperm.mem_iff.mp hstored) List.not_mem_nil

/-- The groups are checked without a panic, and pass when all prices are recovered. -/
theorem configurations_decides :
    Decides (allM validVmConfiguration
        (groupBy (fun record => toAsciiLowercase record.armSkuName)
          (normalizeRecords input.vmRecords)))
      (∀ vm ∈ input.machines, ∀ linux windows license,
        LicensePriced input.expected input.items vm.1 linux windows license →
          ∀ pair ∈ vmPairs, ∀ price,
            computePrices input.expected input.items vm.1 pair.1 = some price →
              Recovered price license) := by
  have hchecks : ∀ group ∈ groupBy (fun record => toAsciiLowercase record.armSkuName)
      (normalizeRecords input.vmRecords),
      Decides (validVmConfiguration group) (validVmConfiguration group = .ok true) := by
    rw [forall_groupBy]
    intro record hrecord
    obtain ⟨vm, hvm, -, hkey, linux, windows, license, hlicensed⟩ := input.exists_licensed hrecord
    rw [hkey]
    have hdecides := (input.storedGroup_decides hvm hlicensed).2
    exact hdecides.congr hdecides.eq_true_iff.symm
  refine (decides_allM hchecks).congr ?_
  rw [forall_groupBy]
  constructor
  · intro hall vm hvm linux windows license hlicensed
    obtain ⟨⟨record, hrecord, hsku⟩, hdecides⟩ := input.storedGroup_decides hvm hlicensed
    have hvalid := hall record (List.mem_of_mem_filter hrecord)
    rw [hsku] at hvalid
    exact hdecides.eq_true_iff.mp hvalid
  · intro hall record hrecord
    obtain ⟨vm, hvm, -, hkey, linux, windows, license, hlicensed⟩ := input.exists_licensed hrecord
    rw [hkey]
    exact (input.storedGroup_decides hvm hlicensed).2.eq_true_iff.mpr
      (hall vm hvm linux windows license hlicensed)

/-- Every stored record passes its own check once the machines are recoverable. -/
theorem validVmRecord_of_consistent (h : input.Consistent) :
    (normalizeRecords input.vmRecords).all validVmRecord = true := by
  rw [List.all_eq_true]
  intro record hrecord
  obtain ⟨vm, hvm, hstored, -, linux, windows, license, hlicensed⟩ :=
    input.exists_licensed hrecord
  obtain ⟨group, hof, hperm⟩ := input.exists_group hvm
  have hgroup := input.pricedGroup_of_licensed hof hlicensed
  obtain ⟨hsku, hrecovered⟩ := h vm hvm linux windows license hlicensed
  exact (hgroup.pairs.stored hperm).validVmRecord hsku hgroup.positive hrecovered record hstored

theorem vmBusinessKeys_nodup :
    ((normalizeRecords input.vmRecords).map vmBusinessKey).Nodup := by
  obtain ⟨groups, hgroups, hperm⟩ := input.groups_of_accepted
  have hstored := (normalizeRecords_perm hperm).map vmBusinessKey
  rw [hstored.nodup_iff, List.map_map]
  refine KeyedGroups.nodup_map_flatten hgroups (fun _ _ hof => GroupOf.key hof)
    input.machines_keys_nodup ?_ fun left right hsame => congrArg Prod.fst hsame
  intro vm group hof
  apply List.Nodup.of_map Prod.snd
  rw [List.map_map]
  rcases hof with ⟨_, _, _, hgroup⟩ | ⟨rfl, -⟩
  · exact hgroup.options.nodup optionsOf_vmPairs_nodup
  · exact List.nodup_nil

theorem diskRecords_stored :
    ((normalizeRecords input.managedDiskRecords).all validDiskRecord &&
      decide (((normalizeRecords input.managedDiskRecords).map diskBusinessKey).Nodup)) =
        true := by
  obtain ⟨hvalid, hkeys⟩ := input.diskRecords_of_accepted
  rw [Bool.and_eq_true, decide_eq_true_eq]
  constructor
  · refine (all_normalizeRecords validDiskRecord (fun record => ?_) _).mpr hvalid
    simp only [validDiskRecord, tierShapeValid, normalizeProvenance, RateRecord.withProvenance]
    rfl
  · have hstored := (normalizeRecords_perm (List.Perm.refl input.managedDiskRecords)).map
      diskBusinessKey
    rw [hstored.nodup_iff, List.map_map]
    exact hkeys

/-- The rates are refused unless the machines are recoverable; nothing panics. -/
theorem validateAzureVmRates_iff :
    (validateAzureVmRates (normalizeRecords input.vmRecords)
        (normalizeRecords input.managedDiskRecords) = .ok () ↔ input.Consistent) ∧
      (¬ input.Consistent → validateAzureVmRates (normalizeRecords input.vmRecords)
        (normalizeRecords input.managedDiskRecords) = .error (.error .invalidAzureVmRates)) := by
  have hkeys := input.vmBusinessKeys_nodup
  have hdisks := input.diskRecords_stored
  have hdecides := input.configurations_decides
  have hnamed : (normalizeRecords input.vmRecords).all validVmRecord = true →
      allM validVmConfiguration (groupBy (fun record => toAsciiLowercase record.armSkuName)
        (normalizeRecords input.vmRecords)) = .ok true → input.Consistent := by
    intro hvalid hall vm hvm linux windows license hlicensed
    obtain ⟨⟨record, hrecord, hsku⟩, -⟩ := input.storedGroup_decides hvm hlicensed
    have hrecordValid := List.all_eq_true.mp hvalid record (List.mem_of_mem_filter hrecord)
    unfold PriceSnapshot.validVmRecord at hrecordValid
    simp only [Bool.and_eq_true] at hrecordValid
    rw [hsku] at hrecordValid
    refine ⟨of_decide_eq_true hrecordValid.1.1.1.1.1.1, ?_⟩
    exact hdecides.eq_true_iff.mp hall vm hvm linux windows license hlicensed
  have hconsistent : input.Consistent →
      allM validVmConfiguration (groupBy (fun record => toAsciiLowercase record.armSkuName)
        (normalizeRecords input.vmRecords)) = .ok true := by
    intro h
    apply hdecides.eq_true_iff.mpr
    intro vm hvm linux windows license hlicensed
    exact (h vm hvm linux windows license hlicensed).2
  unfold validateAzureVmRates
  dsimp only
  rw [decide_eq_true hkeys, Bool.and_true]
  rcases hvalid : (normalizeRecords input.vmRecords).all validVmRecord with _ | _
  · rw [Bool.not_false, if_pos rfl]
    refine ⟨⟨fun h => (nomatch h), fun h => ?_⟩, fun _ => rfl⟩
    rw [input.validVmRecord_of_consistent h] at hvalid
    exact nomatch hvalid
  · rw [Bool.not_true, if_neg Bool.false_ne_true]
    rcases hdecides with ⟨hrun, -⟩ | ⟨hrun, hlost⟩
    · rw [hrun]
      simp only [liftM_ok, ok_bind, if_true, hdisks]
      exact ⟨⟨fun _ => hnamed hvalid hrun, fun _ => rfl⟩,
        fun h => absurd (hnamed hvalid hrun) h⟩
    · have hinconsistent : ¬ input.Consistent := by
        intro h
        rw [hconsistent h] at hrun
        exact nomatch hrun
      rw [hrun]
      simp only [liftM_ok, ok_bind, Bool.false_eq_true, if_false]
      exact ⟨⟨fun h => (nomatch h), fun h => absurd h hinconsistent⟩, fun _ => rfl⟩

end AcceptedVm

/-! ### Agreement -/

namespace AzureVmRatesWitness

def context : AzureVmPricingContext where
  targetRegion := "westeurope"
  currency := "USD"

def candidate : VmSizeCandidate Decimal96 where
  armSkuName := "Standard_E4s_v5"
  displayFamily := "Esv5"
  lineage := .memoryOptimized
  generation := "v5"
  generationRank := 5
  lifecycle := .current
  azureRegion := "westeurope"
  cpuArchitecture := "x64"
  windowsEligible := true
  vcpus := 4
  memoryGb := DecimalArith.ofNat 32
  maxDataDiskCount := 8
  premiumIo := true
  uncachedDiskIops := 6400
  uncachedDiskThroughputMbps := 145
  localTempDiskGb := none

def diskOffer (offerKey : String) (tiers : List (ManagedDiskTier Decimal96)) :
    ManagedDiskOffer Decimal96 where
  offerKey := offerKey
  displayName := offerKey
  allowedRoles := []
  performanceIsProvisionedIndependently := false
  azureRegions := ["westeurope"]
  includedIops := none
  includedThroughputMbps := none
  maximumIops := 0
  maximumThroughputMbps := 0
  capacityIncrementGb := none
  minimumCapacityGb := none
  maximumCapacityGb := zero
  tiers := tiers

def vmItem (productName priceType price : String) (term : Option String) : RetailItem where
  serviceName := "Virtual Machines"
  armRegionName := "westeurope"
  currencyCode := "USD"
  armSkuName := "Standard_E4s_v5"
  productName := productName
  skuName := "E4s v5"
  meterName := "E4s v5"
  unitOfMeasure := "1 Hour"
  priceType := priceType
  retailPrice := price
  tierMinimumUnits := "0"
  effectiveStartDate := "2026-01-01T00:00:00Z"
  meterId := productName
  isPrimaryMeterRegion := true
  reservationTerm := term
  savingsPlan := []

def diskItem (productName skuName meterName unit price tierMinimum : String) : RetailItem where
  serviceName := "Storage"
  armRegionName := "westeurope"
  currencyCode := "USD"
  armSkuName := ""
  productName := productName
  skuName := skuName
  meterName := meterName
  unitOfMeasure := unit
  priceType := "Consumption"
  retailPrice := price
  tierMinimumUnits := tierMinimum
  effectiveStartDate := "2026-01-01T00:00:00Z"
  meterId := meterName
  isPrimaryMeterRegion := true
  reservationTerm := none
  savingsPlan := []

def v2Item (meter unit price tierMinimum : String) : RetailItem :=
  diskItem "Azure Premium SSD v2" "Premium LRS" ("Premium LRS Provisioned " ++ meter) unit price
    tierMinimum

/-- Hourly prices of one and ten, and a reservation of a year. -/
def page (upfront : String) : AzureVmRetailPagePayload where
  sourceUrl := "https://prices.example/retail"
  body := some [
    vmItem "Virtual Machines Esv5 Series" "Consumption" "1" none,
    vmItem "Virtual Machines Esv5 Series Windows" "Consumption" "10" none,
    vmItem "Virtual Machines Esv5 Series" "Reservation" upfront (some "1 Year"),
    diskItem "Premium SSD Managed Disks" "P10 LRS" "P10 LRS Disk" "1/Month" "19.71" "0",
    v2Item "Capacity" "1 GiB/Hour" "0.0001" "0",
    v2Item "IOPS" "1/Hour" "0" "0",
    v2Item "IOPS" "1/Hour" "0.00001" "3000",
    v2Item "Throughput (MBps)" "1/Hour" "0" "0",
    v2Item "Throughput (MBps)" "1/Hour" "0.0001" "125"]

def diskCatalog : ManagedDiskCatalog Decimal96 where
  offers := [
    diskOffer premiumSsdOffer [{
      tierKey := "P10"
      capacityGb := DecimalArith.ofNat 128
      provisionedIops := 500
      provisionedThroughputMbps := DecimalArith.ofNat 100 }],
    diskOffer premiumSsdV2Offer []]

def metadata : SnapshotCreationMetadata where
  status := .fresh
  retrievedAt := "2026-01-01T08:00:00Z"
  sourcePublishedAt := none
  currency := "USD"
  sourceUrls := ["https://prices.example/retail"]
  parserSchemaVersion := "1"
  warnings := []

/-- Half a unit an hour. -/
def exactReservation : AcceptedVm :=
  ⟨context, ⟨[candidate]⟩, diskCatalog, [page "4380"], by decide +kernel⟩

/-- A third of a unit an hour. -/
def repeatingReservation : AcceptedVm :=
  ⟨context, ⟨[candidate]⟩, diskCatalog, [page "2920"], by decide +kernel⟩

end AzureVmRatesWitness

end TcoCalculator
