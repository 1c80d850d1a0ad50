/-
Laws of the cost breakdowns in exact arithmetic: signs, nets and grosses, what a
total is the sum of, and what more instances or more hours do.
-/
import TcoCalculator.Calculation.TieredIops
import TcoCalculator.Domain.ProjectAdmission

namespace TcoCalculator.Cost

open DecimalArith ExactDecimal Fallible Halt ProjectValidation

/-! ### Operators -/

theorem mul3_eq (a b c : ℚ) : mul3 a b c = .ok (a * b * c) := rfl

theorem mul4_eq (a b c d : ℚ) : mul4 a b c d = .ok (a * b * c * d) := rfl

theorem add3_eq (a b c : ℚ) : add3 a b c = .ok (a + b + c) := rfl

theorem applyDiscount_eq (gross discount : ℚ) :
    applyDiscount gross discount = .ok (gross * (1 - discount)) := by
  simp [applyDiscount]

/-- A discount is a share of the price. -/
structure Share (discount : ℚ) : Prop where
  nonneg : 0 ≤ discount
  le_one : discount ≤ 1

theorem share_of_isPercent {discount : ℚ} (h : isPercent discount = true) : Share discount := by
  simp only [isPercent, value_eq, Bool.and_eq_true, decide_eq_true_eq] at h
  exact ⟨h.1, h.2⟩

theorem Share.net_nonneg {discount gross : ℚ} (h : Share discount) (hgross : 0 ≤ gross) :
    0 ≤ gross * (1 - discount) :=
  mul_nonneg hgross (sub_nonneg.mpr h.le_one)

theorem Share.net_le {discount gross : ℚ} (h : Share discount) (hgross : 0 ≤ gross) :
    gross * (1 - discount) ≤ gross := by
  have hgiven := mul_nonneg hgross h.nonneg
  linarith

theorem Share.net_mono {discount gross gross' : ℚ} (h : Share discount) (hle : gross ≤ gross') :
    gross * (1 - discount) ≤ gross' * (1 - discount) :=
  mul_le_mul_of_nonneg_right hle (sub_nonneg.mpr h.le_one)

/-! ### Source breakdowns -/

/-- A net component lies between zero and its gross one. -/
structure Component (gross net : ℚ) : Prop where
  net_nonneg : 0 ≤ net
  net_le : net ≤ gross

theorem Component.gross_nonneg {gross net : ℚ} (h : Component gross net) : 0 ≤ gross :=
  h.net_nonneg.trans h.net_le

theorem Share.component {discount gross : ℚ} (h : Share discount) (hgross : 0 ≤ gross) :
    Component gross (gross * (1 - discount)) :=
  ⟨h.net_nonneg hgross, h.net_le hgross⟩

structure SourceSound (costs : SourceCostBreakdown ℚ) : Prop where
  compute : Component costs.computeGross costs.computeNet
  license : Component costs.licenseGross costs.licenseNet
  storage : Component costs.storageGross costs.storageNet
  hardware : 0 ≤ costs.hardwareAnnual
  electricity : 0 ≤ costs.electricityAnnual
  total : costs.total =
    costs.computeNet + costs.licenseNet + costs.storageNet + costs.electricityAnnual

/-- No component and no total is greater. -/
structure SourceLe (costs costs' : SourceCostBreakdown ℚ) : Prop where
  computeGross : costs.computeGross ≤ costs'.computeGross
  computeNet : costs.computeNet ≤ costs'.computeNet
  licenseGross : costs.licenseGross ≤ costs'.licenseGross
  licenseNet : costs.licenseNet ≤ costs'.licenseNet
  storageGross : costs.storageGross ≤ costs'.storageGross
  storageNet : costs.storageNet ≤ costs'.storageNet
  hardware : costs.hardwareAnnual ≤ costs'.hardwareAnnual
  electricity : costs.electricityAnnual ≤ costs'.electricityAnnual
  total : costs.total ≤ costs'.total

/-- The discounts on the source are shares. -/
structure SourceDiscounts (settings : ProjectSettings ℚ) : Prop where
  compute : Share settings.sourceComputeDiscount
  license : Share settings.sourceLicenseDiscount
  storage : Share settings.sourceStorageDiscount

/-- The gross amounts of a source, before its discounts. -/
structure SourceGross where
  compute : ℚ
  license : ℚ
  storage : ℚ
  hardware : ℚ
  electricity : ℚ

def SourceGross.breakdown (gross : SourceGross) (settings : ProjectSettings ℚ) :
    SourceCostBreakdown ℚ :=
  let computeNet := gross.compute * (1 - settings.sourceComputeDiscount)
  let licenseNet := gross.license * (1 - settings.sourceLicenseDiscount)
  let storageNet := gross.storage * (1 - settings.sourceStorageDiscount)
  { computeGross := gross.compute
    computeNet
    licenseGross := gross.license
    licenseNet
    storageGross := gross.storage
    storageNet
    hardwareAnnual := gross.hardware
    electricityAnnual := gross.electricity
    total := computeNet + licenseNet + storageNet + gross.electricity }

structure SourceGross.Nonneg (gross : SourceGross) : Prop where
  compute : 0 ≤ gross.compute
  license : 0 ≤ gross.license
  storage : 0 ≤ gross.storage
  hardware : 0 ≤ gross.hardware
  electricity : 0 ≤ gross.electricity

structure SourceGross.Le (gross gross' : SourceGross) : Prop where
  compute : gross.compute ≤ gross'.compute
  license : gross.license ≤ gross'.license
  storage : gross.storage ≤ gross'.storage
  hardware : gross.hardware ≤ gross'.hardware
  electricity : gross.electricity ≤ gross'.electricity

theorem SourceGross.Nonneg.sound {gross : SourceGross} (h : gross.Nonneg)
    {settings : ProjectSettings ℚ} (hsettings : SourceDiscounts settings) :
    SourceSound (gross.breakdown settings) where
  compute := hsettings.compute.component h.compute
  license := hsettings.license.component h.license
  storage := hsettings.storage.component h.storage
  hardware := h.hardware
  electricity := h.electricity
  total := rfl

theorem SourceGross.Le.breakdown {gross gross' : SourceGross} (h : gross.Le gross')
    {settings : ProjectSettings ℚ} (hsettings : SourceDiscounts settings) :
    SourceLe (gross.breakdown settings) (gross'.breakdown settings) := by
  have hcompute := hsettings.compute.net_mono h.compute
  have hlicense := hsettings.license.net_mono h.license
  have hstorage := hsettings.storage.net_mono h.storage
  exact {
    computeGross := h.compute
    computeNet := hcompute
    licenseGross := h.license
    licenseNet := hlicense
    storageGross := h.storage
    storageNet := hstorage
    hardware := h.hardware
    electricity := h.electricity
    total := add_le_add (add_le_add (add_le_add hcompute hlicense) hstorage) h.electricity }

/-! ### Usage -/

def withUsage (shared : SharedResource ℚ) (quantity : UInt32) (hours : ℚ) :
    SharedResource ℚ :=
  { shared with quantity := quantity, annualHoursPerInstance := hours }

/-- What one source instance costs for each hour and for each year. -/
structure SourceUnit where
  computeHour : ℚ
  computeYear : ℚ
  licenseHour : ℚ
  licenseYear : ℚ
  storageYear : ℚ
  hardwareYear : ℚ
  electricityHour : ℚ

structure SourceUnit.Nonneg (unit : SourceUnit) : Prop where
  computeHour : 0 ≤ unit.computeHour
  computeYear : 0 ≤ unit.computeYear
  licenseHour : 0 ≤ unit.licenseHour
  licenseYear : 0 ≤ unit.licenseYear
  storageYear : 0 ≤ unit.storageYear
  hardwareYear : 0 ≤ unit.hardwareYear
  electricityHour : 0 ≤ unit.electricityHour

/-- The amounts of a number of instances that run for a number of hours. -/
def usageCost (quantity : UInt32) (hours perHour perYear : ℚ) : ℚ :=
  quantity.toNat * (hours * perHour + perYear)

def SourceUnit.gross (unit : SourceUnit) (quantity : UInt32) (hours : ℚ) : SourceGross where
  compute := usageCost quantity hours unit.computeHour unit.computeYear
  license := usageCost quantity hours unit.licenseHour unit.licenseYear
  storage := usageCost quantity hours 0 unit.storageYear
  hardware := usageCost quantity hours 0 unit.hardwareYear
  electricity := usageCost quantity hours unit.electricityHour 0

section Usage

variable {quantity quantity' : UInt32} {hours hours' perHour perYear : ℚ}

theorem usageCost_nonneg (hhours : 0 ≤ hours) (hhour : 0 ≤ perHour) (hyear : 0 ≤ perYear) :
    0 ≤ usageCost quantity hours perHour perYear :=
  mul_nonneg (Nat.cast_nonneg _) (add_nonneg (mul_nonneg hhours hhour) hyear)

/-- More instances or more hours cost no less. -/
theorem usageCost_mono (hquantity : quantity ≤ quantity') (hhours : 0 ≤ hours)
    (hle : hours ≤ hours') (hhour : 0 ≤ perHour) (hyear : 0 ≤ perYear) :
    usageCost quantity hours perHour perYear ≤ usageCost quantity' hours' perHour perYear := by
  have hcount : (quantity.toNat : ℚ) ≤ quantity'.toNat := by
    exact_mod_cast UInt32.le_iff_toNat_le.mp hquantity
  have hone : hours * perHour + perYear ≤ hours' * perHour + perYear := by
    have hhourly := mul_le_mul_of_nonneg_right hle hhour
    linarith
  have hnonneg : 0 ≤ hours * perHour + perYear := add_nonneg (mul_nonneg hhours hhour) hyear
  exact mul_le_mul hcount hone hnonneg (Nat.cast_nonneg _)

theorem SourceUnit.Nonneg.gross {unit : SourceUnit} (h : unit.Nonneg) (hhours : 0 ≤ hours) :
    (unit.gross quantity hours).Nonneg where
  compute := usageCost_nonneg hhours h.computeHour h.computeYear
  license := usageCost_nonneg hhours h.licenseHour h.licenseYear
  storage := usageCost_nonneg hhours le_rfl h.storageYear
  hardware := usageCost_nonneg hhours le_rfl h.hardwareYear
  electricity := usageCost_nonneg hhours h.electricityHour le_rfl

theorem SourceUnit.Nonneg.gross_le {unit : SourceUnit} (h : unit.Nonneg)
    (hquantity : quantity ≤ quantity') (hhours : 0 ≤ hours) (hle : hours ≤ hours') :
    (unit.gross quantity hours).Le (unit.gross quantity' hours') where
  compute := usageCost_mono hquantity hhours hle h.computeHour h.computeYear
  license := usageCost_mono hquantity hhours hle h.licenseHour h.licenseYear
  storage := usageCost_mono hquantity hhours hle le_rfl h.storageYear
  hardware := usageCost_mono hquantity hhours hle le_rfl h.hardwareYear
  electricity := usageCost_mono hquantity hhours hle h.electricityHour le_rfl

end Usage

/-! ### Volumes -/

/-- The loop over the tiers never takes anything off. -/
theorem le_of_tieredIops {tiers : List (IopsPriceTier ℚ)} {previousLimit remaining : UInt64}
    {before cost : ℚ} (h : tieredIops previousLimit remaining before tiers = .ok cost) :
    before ≤ cost := by
  induction tiers generalizing previousLimit remaining before with
  | nil => cases h
  | cons tier rest ih =>
      obtain ⟨hrate, units, price, after, -, hprice, hafter, hrest⟩ := tieredIops_cons_eq_ok h
      have hrate : 0 ≤ tier.monthlyPerIops := hrate
      rw [ofNat_eq, mul_eq] at hprice
      cases hprice
      cases hafter
      have hnonneg := mul_nonneg (Nat.cast_nonneg (α := ℚ) units.toNat) hrate
      rcases hrest with ⟨-, rfl⟩ | ⟨-, limit, -, hrest⟩
      · linarith
      · have hle := ih hrest
        linarith

theorem iopsCost_nonneg {rate : EbsRate ℚ} {billableIops : UInt64} {cost : ℚ}
    (h : iopsCost rate billableIops = .ok cost) : 0 ≤ cost := by
  rw [iopsCost] at h
  by_cases hio2 : rate.volumeType = .io2
  · rw [if_pos hio2, tieredIopsCost] at h
    split_ifs at h
    · exact (zero_eq.symm.trans (Except.ok.inj h)).le
    · exact zero_eq.symm.le.trans (le_of_tieredIops h)
  · rw [if_neg hio2] at h
    cases hunit : rate.iopsMonthlyPerUnit with
    | none =>
        simp only [hunit] at h
        split_ifs at h
        · exact (zero_eq.symm.trans (Except.ok.inj h)).le
        · cases h
    | some unit =>
        simp only [hunit] at h
        obtain ⟨_, hrate, h⟩ := bind_eq_ok.mp h
        rw [ofNat_eq, mul_eq, liftM_ok] at h
        cases h
        exact mul_nonneg (Nat.cast_nonneg _) (validateRate_eq_ok.mp hrate)

theorem throughputCost_nonneg {rate : EbsRate ℚ} {throughput cost : ℚ} (hthroughput : 0 ≤ throughput)
    (h : throughputCost rate throughput = .ok cost) : 0 ≤ cost := by
  rw [throughputCost] at h
  cases hunit : rate.throughputMonthlyPerMibps with
  | none =>
      simp only [hunit] at h
      split_ifs at h
      · exact (zero_eq.symm.trans (Except.ok.inj h)).le
      · exact (zero_eq.symm.trans (Except.ok.inj h)).le
      · cases h
  | some unit =>
      simp only [hunit] at h
      obtain ⟨_, hrate, h⟩ := bind_eq_ok.mp h
      rw [mul_eq, liftM_ok] at h
      cases h
      exact mul_nonneg hthroughput (validateRate_eq_ok.mp hrate)

theorem billableThroughput_nonneg {rate : EbsRate ℚ} {throughput : Option ℚ} {billable : ℚ}
    (h : billableThroughput rate throughput = .ok billable) : 0 ≤ billable := by
  cases throughput with
  | none => exact (zero_eq.symm.trans (Except.ok.inj h)).le
  | some mibps =>
      simp only [billableThroughput, sub_eq, ok_bind, max_eq, zero_eq] at h
      cases h
      exact le_max_right _ _

theorem calculateVolumeMonthly_nonneg {volumeType : EbsVolumeType} {capacityGb monthly : ℚ}
    {provisionedIops : Option UInt64} {throughputMibps : Option ℚ} {rate : EbsRate ℚ}
    (hcapacity : 0 ≤ capacityGb) (h : calculateVolumeMonthly volumeType capacityGb provisionedIops
      throughputMibps rate = .ok monthly) : 0 ≤ monthly := by
  rw [calculateVolumeMonthly] at h
  split_ifs at h
  · exact (zero_eq.symm.trans (Except.ok.inj h)).le
  obtain ⟨_, hrate, h⟩ := bind_eq_ok.mp h
  obtain ⟨provisioned, -, h⟩ := bind_eq_ok.mp h
  rw [mul_eq, liftM_ok, ok_bind] at h
  obtain ⟨iops, hiops, h⟩ := bind_eq_ok.mp h
  obtain ⟨billable, hbillable, h⟩ := bind_eq_ok.mp h
  obtain ⟨throughput, hthroughput, h⟩ := bind_eq_ok.mp h
  rw [add3_eq, liftM_ok] at h
  cases h
  have hrate : 0 ≤ rate.capacityMonthlyPerGb := validateRate_eq_ok.mp hrate
  have hbillable := billableThroughput_nonneg (liftM_eq_ok.mp hbillable)
  exact add_nonneg (add_nonneg (mul_nonneg hcapacity hrate) (iopsCost_nonneg hiops))
    (throughputCost_nonneg hbillable hthroughput)

theorem monthlyStorage_nonneg {V : Type} {volumeType : V → EbsVolumeType}
    {volumeMonthly : V → EbsRate ℚ → Except (Halt CostError) ℚ} {ebsRates : List (EbsRate ℚ)}
    {volumes : List V} {monthly : ℚ}
    (hvolumes : ∀ volume ∈ volumes, ∀ rate cost, volumeMonthly volume rate = .ok cost → 0 ≤ cost)
    (h : monthlyStorage volumeType volumeMonthly ebsRates volumes = .ok monthly) : 0 ≤ monthly := by
  refine foldlM_rule (fun _ total => 0 ≤ total) h zero_eq.symm.le ?_
  intro _ volume total total' hmem htotal hstep
  split_ifs at hstep
  · cases hstep
    exact htotal
  obtain ⟨rate, -, hstep⟩ := bind_eq_ok.mp hstep
  obtain ⟨cost, hcost, hstep⟩ := bind_eq_ok.mp hstep
  rw [add_eq, liftM_ok] at hstep
  cases hstep
  exact add_nonneg htotal (hvolumes volume hmem rate cost hcost)

theorem ec2Volumes_nonneg {resource : Ec2Resource ℚ} (h : Ec2Admitted resource) :
    ∀ volume ∈ resource.volumes, ∀ rate cost,
      calculateEbsVolumeMonthly volume rate = .ok cost → 0 ≤ cost :=
  fun volume hmem _ _ => calculateVolumeMonthly_nonneg (h.capacity volume hmem)

theorem vmVolumes_nonneg {resource : Ec2VmResource ℚ} (h : Ec2VmAdmitted resource) :
    ∀ volume ∈ resource.volumes, ∀ rate cost,
      calculateVmVolumeMonthly volume rate = .ok cost → 0 ≤ cost :=
  fun volume hmem _ _ => calculateVolumeMonthly_nonneg (h.capacity volume hmem)

theorem sourceLicenseHourly_nonneg {basis : LicenseBasis} {edition : SqlEdition}
    {standard enterprise : Option ℚ} {hourly : ℚ}
    (h : sourceLicenseHourly basis edition standard enterprise = .ok hourly) : 0 ≤ hourly := by
  unfold sourceLicenseHourly at h
  split_ifs at h
  · exact (zero_eq.symm.trans (Except.ok.inj h)).le
  obtain ⟨rate, -, h⟩ := bind_eq_ok.mp h
  obtain ⟨_, hrate, h⟩ := bind_eq_ok.mp h
  cases h
  exact validateRate_eq_ok.mp hrate

/-! ### Sources -/

/-- What one instance costs decides the costs of every usage. -/
def PricedBy (settings : ProjectSettings ℚ)
    (costsOf : UInt32 → ℚ → Except (Halt CostError) (SourceCostBreakdown ℚ)) : Prop :=
  ∃ unit : SourceUnit, unit.Nonneg ∧ ∀ quantity hours,
    costsOf quantity hours = .ok ((unit.gross quantity hours).breakdown settings)

theorem sourceCosts_eq_breakdown {settings : ProjectSettings ℚ} {gross : SourceGross}
    {compute computeNet license licenseNet storage storageNet hardware electricity : ℚ}
    (hcompute : compute = gross.compute) (hcomputeNet : computeNet =
      gross.compute * (1 - settings.sourceComputeDiscount))
    (hlicense : license = gross.license) (hlicenseNet : licenseNet =
      gross.license * (1 - settings.sourceLicenseDiscount))
    (hstorage : storage = gross.storage) (hstorageNet : storageNet =
      gross.storage * (1 - settings.sourceStorageDiscount))
    (hhardware : hardware = gross.hardware) (helectricity : electricity = gross.electricity) :
    sourceCosts compute computeNet license licenseNet storage storageNet hardware electricity =
      .ok (gross.breakdown settings) := by
  subst hcompute hcomputeNet hlicense hlicenseNet hstorage hstorageNet hhardware helectricity
  rfl

theorem ec2_pricedBy {resource : Ec2Resource ℚ} (hadmitted : Ec2Admitted resource)
    {rate : Ec2Rate ℚ} {ebsRates : List (EbsRate ℚ)} {settings : ProjectSettings ℚ}
    {costs : SourceCostBreakdown ℚ}
    (h : calculateEc2Source resource rate ebsRates settings = .ok costs) :
    PricedBy settings fun quantity hours => calculateEc2Source
      { resource with shared := withUsage resource.shared quantity hours } rate ebsRates
      settings := by
  rw [calculateEc2Source] at h
  simp only [mul3_eq, applyDiscount_eq, liftM_ok, ok_bind] at h
  obtain ⟨_, hrate, h⟩ := bind_eq_ok.mp h
  obtain ⟨license, hlicense, h⟩ := bind_eq_ok.mp h
  obtain ⟨monthly, hmonthly, -⟩ := bind_eq_ok.mp h
  have hlicenseNonneg := sourceLicenseHourly_nonneg hlicense
  have hmonthlyNonneg := monthlyStorage_nonneg (ec2Volumes_nonneg hadmitted) hmonthly
  refine ⟨⟨rate.computeHourly, 0, license, 0, 12 * monthly, 0, 0⟩,
    ⟨validateRate_eq_ok.mp hrate, le_rfl, hlicenseNonneg, le_rfl, by positivity, le_rfl, le_rfl⟩,
    fun quantity hours => ?_⟩
  simp only [calculateEc2Source, mul3_eq, applyDiscount_eq, liftM_ok, ok_bind, hrate, hlicense,
    hmonthly]
  apply liftM_eq_ok.mpr
  simp only [ofNat_eq, zero_eq]
  apply sourceCosts_eq_breakdown <;>
    simp only [SourceUnit.gross, usageCost, withUsage] <;> push_cast <;> ring

theorem ec2Vm_pricedBy {resource : Ec2VmResource ℚ} (hadmitted : Ec2VmAdmitted resource)
    {rate : Ec2Rate ℚ} {ebsRates : List (EbsRate ℚ)} {settings : ProjectSettings ℚ}
    {costs : SourceCostBreakdown ℚ}
    (h : calculateEc2VmSource resource rate ebsRates settings = .ok costs) :
    PricedBy settings fun quantity hours => calculateEc2VmSource
      { resource with shared := withUsage resource.shared quantity hours } rate ebsRates
      settings := by
  rw [calculateEc2VmSource] at h
  simp only [mul3_eq, applyDiscount_eq, liftM_ok, ok_bind] at h
  obtain ⟨_, hrate, h⟩ := bind_eq_ok.mp h
  obtain ⟨monthly, hmonthly, -⟩ := bind_eq_ok.mp h
  have hmonthlyNonneg := monthlyStorage_nonneg (vmVolumes_nonneg hadmitted) hmonthly
  refine ⟨⟨rate.computeHourly, 0, 0, 0, 12 * monthly, 0, 0⟩,
    ⟨validateRate_eq_ok.mp hrate, le_rfl, le_rfl, le_rfl, by positivity, le_rfl, le_rfl⟩,
    fun quantity hours => ?_⟩
  simp only [calculateEc2VmSource, mul3_eq, applyDiscount_eq, liftM_ok, ok_bind, hrate, hmonthly]
  apply liftM_eq_ok.mpr
  simp only [ofNat_eq, zero_eq]
  apply sourceCosts_eq_breakdown <;>
    simp only [SourceUnit.gross, usageCost, withUsage] <;> push_cast <;> ring

/-- The license price of an RDS instance for an hour. -/
def rdsLicenseHour (basis : LicenseBasis) (sourceVcpu : UInt32) (coreRate : ℚ) : ℚ :=
  if basis = .byol then 0 else sourceVcpu.toNat * coreRate

theorem rdsLicenseHour_nonneg (basis : LicenseBasis) (sourceVcpu : UInt32) {coreRate : ℚ}
    (h : 0 ≤ coreRate) : 0 ≤ rdsLicenseHour basis sourceVcpu coreRate := by
  rw [rdsLicenseHour]
  split_ifs
  · exact le_rfl
  · exact mul_nonneg (Nat.cast_nonneg _) h

theorem rdsLicenseGross_eq (resource : RdsResource ℚ) (sourceVcpu : UInt32) (coreRate : ℚ) :
    rdsLicenseGross resource sourceVcpu coreRate =
      .ok (usageCost resource.shared.quantity resource.shared.annualHoursPerInstance
        (rdsLicenseHour resource.sql.licenseBasis sourceVcpu coreRate) 0) := by
  rw [rdsLicenseGross, usageCost, rdsLicenseHour]
  split_ifs
  · simp
  · rw [mul4_eq, ofNat_eq, ofNat_eq]
    refine congrArg Except.ok ?_
    ring

theorem rds_pricedBy {resource : RdsResource ℚ} (hadmitted : SqlAdmitted resource.sql)
    {rate : RdsRate ℚ} {settings : ProjectSettings ℚ} {costs : SourceCostBreakdown ℚ}
    (h : calculateRdsSource resource rate settings = .ok costs) :
    PricedBy settings fun quantity hours => calculateRdsSource
      { resource with shared := withUsage resource.shared quantity hours } rate settings := by
  rw [calculateRdsSource] at h
  simp only [mul3_eq, mul4_eq, applyDiscount_eq, rdsLicenseGross_eq, liftM_ok, ok_bind] at h
  obtain ⟨_, hcompute, h⟩ := bind_eq_ok.mp h
  obtain ⟨_, hstorage, h⟩ := bind_eq_ok.mp h
  obtain ⟨_, hcore, -⟩ := bind_eq_ok.mp h
  have hdata : 0 ≤ resource.sql.sqlDataGbPerInstance := zero_eq.symm.le.trans hadmitted.sqlData.1
  have hstorageRate : 0 ≤ rate.storageMonthlyPerGb := validateRate_eq_ok.mp hstorage
  have hcoreRate := validateRate_eq_ok.mp hcore
  rw [value_eq] at hcoreRate
  have hlicense := rdsLicenseHour_nonneg resource.sql.licenseBasis rate.sourceVcpu hcoreRate
  refine ⟨⟨rate.effectiveComputeHourly, 0, rdsLicenseHour resource.sql.licenseBasis
      rate.sourceVcpu _, 0, resource.sql.sqlDataGbPerInstance * 12 *
      rate.storageMonthlyPerGb, 0, 0⟩,
    ⟨validateRate_eq_ok.mp hcompute, le_rfl, hlicense, le_rfl, by positivity, le_rfl, le_rfl⟩,
    fun quantity hours => ?_⟩
  simp only [calculateRdsSource, mul3_eq, mul4_eq, applyDiscount_eq, rdsLicenseGross_eq, liftM_ok,
    ok_bind, hcompute, hstorage, hcore]
  apply liftM_eq_ok.mpr
  simp only [ofNat_eq, zero_eq]
  apply sourceCosts_eq_breakdown <;>
    simp only [SourceUnit.gross, usageCost, withUsage] <;> push_cast <;> ring

/-! ### On-premises sources -/

theorem estimatedPowerKw_eq (resource : OnPremResource ℚ) : estimatedPowerKw resource =
    .ok (100 / 1000 + 125 / 10000 * resource.sourceVcpu.toNat +
      375 / 1000000 * resource.shared.sourceRamGbPerInstance +
      10 / 1000 * resource.sql.sqlDataGbPerInstance / 1024) := by
  have hunit : ((1024 : ℕ) : ℚ) ≠ 0 := by norm_num
  simp only [estimatedPowerKw, mul_eq, ok_bind, ofScaled_eq, ofNat_eq, div_eq hunit]
  refine congrArg Except.ok ?_
  norm_num

/-- What an on-premises source is checked for. -/
structure OnPremValid (resource : OnPremResource ℚ) (settings : ProjectSettings ℚ) : Prop where
  admitted : OnPremAdmitted resource
  power : ∀ power, resource.averagePowerKwOverride = some power → 0 < power
  sourceRam : 0 ≤ resource.shared.sourceRamGbPerInstance
  sqlData : 0 ≤ resource.sql.sqlDataGbPerInstance
  computeDiscount : settings.sourceComputeDiscount = 0

def sourceCostsOfOnPrem (resource : OnPremResource ℚ) (settings : ProjectSettings ℚ) :
    Except (Halt CostError) (SourceCostBreakdown ℚ) := do
  let result ← calculateOnPremSource resource settings
  return result.costs

theorem onPrem_pricedBy {resource : OnPremResource ℚ} {settings : ProjectSettings ℚ}
    (hvalid : OnPremValid resource settings) {costs : SourceCostBreakdown ℚ}
    (h : sourceCostsOfOnPrem resource settings = .ok costs) :
    PricedBy settings fun quantity hours => sourceCostsOfOnPrem
      { resource with shared := withUsage resource.shared quantity hours } settings := by
  have hyears : 0 < resource.depreciationYears := by
    have hyears := hvalid.admitted.depreciationYears.1
    rwa [zero_eq] at hyears
  have htwelve : (DecimalArith.ofNat 12 : ℚ) ≠ 0 := by
    rw [ofNat_eq]
    norm_num
  rw [sourceCostsOfOnPrem, calculateOnPremSource] at h
  obtain ⟨result, h, -⟩ := bind_eq_ok.mp h
  simp only [mul3_eq, mul4_eq, mul_eq, applyDiscount_eq, estimatedPowerKw_eq, div_eq hyears.ne',
    div_eq htwelve, liftM_ok, ok_bind] at h
  obtain ⟨price, hprice, h⟩ := bind_eq_ok.mp h
  obtain ⟨months, hmonths, h⟩ := bind_eq_ok.mp h
  obtain ⟨electricity, helectricity, h⟩ := bind_eq_ok.mp h
  obtain ⟨_, hpriceRate, h⟩ := bind_eq_ok.mp h
  obtain ⟨_, helectricityRate, h⟩ := bind_eq_ok.mp h
  have hmonthsPositive : (DecimalArith.ofNat months.toNat : ℚ) ≠ 0 := by
    intro hzero
    obtain ⟨license, hlicense, -⟩ := bind_eq_ok.mp h
    have hlicense := liftM_eq_ok.mp hlicense
    rw [hzero] at hlicense
    cases hlicense
  have hpriceNonneg : 0 ≤ price := validateRate_eq_ok.mp hpriceRate
  have helectricityNonneg : 0 ≤ electricity := validateRate_eq_ok.mp helectricityRate
  have hcapex : 0 ≤ resource.hardwareCapexUsd := hvalid.admitted.hardwareCapex
  have hram := hvalid.sourceRam
  have hdata := hvalid.sqlData
  have hpower : 0 ≤ resource.averagePowerKwOverride.getD (100 / 1000 +
      125 / 10000 * resource.sourceVcpu.toNat +
      375 / 1000000 * resource.shared.sourceRamGbPerInstance +
      10 / 1000 * resource.sql.sqlDataGbPerInstance / 1024) := by
    cases hoverride : resource.averagePowerKwOverride with
    | some power => exact (hvalid.power power hoverride).le
    | none =>
        rw [Option.getD_none]
        positivity
  refine ⟨⟨0, resource.hardwareCapexUsd / resource.depreciationYears, 0,
      ((Max.max resource.licensableCores.toNat 4 + 1) / 2 : ℕ) * price * 12 / months.toNat, 0,
      resource.hardwareCapexUsd / resource.depreciationYears, _ * electricity⟩,
    ⟨le_rfl, by positivity, le_rfl, by positivity, le_rfl, by positivity,
      mul_nonneg hpower helectricityNonneg⟩, fun quantity hours => ?_⟩
  simp only [sourceCostsOfOnPrem, calculateOnPremSource, mul3_eq, mul4_eq, mul_eq,
    applyDiscount_eq, estimatedPowerKw_eq, div_eq hyears.ne', div_eq htwelve, liftM_ok, ok_bind,
    hprice, hmonths, helectricity, hpriceRate, helectricityRate, div_eq hmonthsPositive]
  rw [@sourceCosts_eq_breakdown settings (SourceUnit.gross _ quantity hours)]
  · rfl
  all_goals
    simp only [SourceUnit.gross, usageCost, withUsage, ofNat_eq, zero_eq, hvalid.computeDiscount]
    push_cast
    ring

end TcoCalculator.Cost
