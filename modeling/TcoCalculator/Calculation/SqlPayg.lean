/-
Comparison of Software Assurance spend with pay-as-you-go licensing
(src/rust/src/calculation/sql_payg.rs).
-/
import TcoCalculator.Calculation.Arithmetic

namespace TcoCalculator

open DecimalArith Halt

structure SqlPaygInput (D : Type) where
  enterpriseLicensedCores : UInt32
  standardLicensedCores : UInt32
  softwareAssuranceAnnualUsd : D
  annualHours : D
  appliedPaygDiscount : D

inductive SqlPaygOutcome where
  | noDiscountNeeded
  | discountRequired
  | fullDiscountRequired
  deriving DecidableEq, Repr

structure SqlPaygAnalysis (D : Type) where
  enterpriseLicensedCores : UInt32
  standardLicensedCores : UInt32
  softwareAssuranceAnnualUsd : D
  annualHours : D
  enterprisePaygUsdPerCoreHour : D
  standardPaygUsdPerCoreHour : D
  paygGrossAnnualUsd : D
  requiredPaygDiscount : D
  paygAtBreakevenUsd : D
  appliedPaygDiscount : D
  paygNetAnnualUsd : D
  annualSavingsUsd : D
  outcome : SqlPaygOutcome
  rateSourceUrl : String
  rateVerifiedOn : String
  deriving DecidableEq

inductive SqlPaygError where
  | noLicensedCores
  | negativeSoftwareAssurance
  | annualHoursOutOfRange
  | appliedDiscountOutOfRange
  deriving DecidableEq, Repr

namespace SqlPayg

variable {D : Type} [DecimalArith D]

def rateSourceUrl : String := "https://prices.azure.com/api/retail/prices"
def rateVerifiedOn : String := "2026-08-07"
def maxAnnualHours : Nat := 8784
def enterpriseRate : D := ofScaled 375 3
def standardRate : D := ofScaled 100 3

def rawDiscount (softwareAssurance paygGrossAnnual : D) : Except ArithmeticFault D :=
  if value paygGrossAnnual = 0 then .ok zero
  else do sub one (← div softwareAssurance paygGrossAnnual)

def breakeven (rawDiscount softwareAssurance paygGrossAnnual : D) : SqlPaygOutcome × D :=
  if value rawDiscount ≤ 0 then (.noDiscountNeeded, paygGrossAnnual)
  else if value (DecimalArith.max rawDiscount zero) = value (one : D) then
    (.fullDiscountRequired, softwareAssurance)
  else (.discountRequired, softwareAssurance)

def calculate (input : SqlPaygInput D) : Except (Halt SqlPaygError) (SqlPaygAnalysis D) := do
  if input.enterpriseLicensedCores = 0 ∧ input.standardLicensedCores = 0 then
    refuse .noLicensedCores
  else if value input.softwareAssuranceAnnualUsd < 0 then refuse .negativeSoftwareAssurance
  else if value input.annualHours < 0 ∨
      value (ofNat maxAnnualHours : D) < value input.annualHours then
    refuse .annualHoursOutOfRange
  else if !isPercent input.appliedPaygDiscount then refuse .appliedDiscountOutOfRange
  else
    let enterpriseHourly ← mul (ofNat input.enterpriseLicensedCores.toNat) enterpriseRate
    let standardHourly ← mul (ofNat input.standardLicensedCores.toNat) standardRate
    let paygHourly ← add enterpriseHourly standardHourly
    let paygGrossAnnual ← mul paygHourly input.annualHours
    let rawDiscount ← rawDiscount input.softwareAssuranceAnnualUsd paygGrossAnnual
    let (outcome, paygAtBreakeven) :=
      breakeven rawDiscount input.softwareAssuranceAnnualUsd paygGrossAnnual
    let paygNetAnnual ← mul paygGrossAnnual (← sub one input.appliedPaygDiscount)
    let annualSavings ← sub input.softwareAssuranceAnnualUsd paygNetAnnual
    return {
      enterpriseLicensedCores := input.enterpriseLicensedCores
      standardLicensedCores := input.standardLicensedCores
      softwareAssuranceAnnualUsd := input.softwareAssuranceAnnualUsd
      annualHours := input.annualHours
      enterprisePaygUsdPerCoreHour := enterpriseRate
      standardPaygUsdPerCoreHour := standardRate
      paygGrossAnnualUsd := paygGrossAnnual
      requiredPaygDiscount := DecimalArith.max rawDiscount zero
      paygAtBreakevenUsd := paygAtBreakeven
      appliedPaygDiscount := input.appliedPaygDiscount
      paygNetAnnualUsd := paygNetAnnual
      annualSavingsUsd := annualSavings
      outcome
      rateSourceUrl
      rateVerifiedOn }

end SqlPayg

end TcoCalculator
