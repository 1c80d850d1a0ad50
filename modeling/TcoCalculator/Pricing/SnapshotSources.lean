/-
The publication date of a snapshot: the last of its records' dates as texts, and
when that is the latest date.
-/
import TcoCalculator.Library.HttpDate
import TcoCalculator.Pricing.SnapshotIdentity
import Mathlib.Data.List.MinMax

namespace TcoCalculator

open PriceSnapshot

/-- One record's address is added, and its date kept if none so far is as late. -/
def addSource (sources : List String × Option String) (value : RateProvenance) :
    List String × Option String :=
  (value.sourceUrl :: sources.1,
    match value.effectiveAt with
    | some effectiveAt =>
        if sources.2.all (· < effectiveAt) then some effectiveAt else sources.2
    | none => sources.2)

/-- The source addresses of some records and their publication date. -/
def snapshotSources (provenance : List RateProvenance) : List String × Option String :=
  let sources := provenance.foldl addSource ([], none)
  (sortedUnique sources.1, sources.2)

/-! ### Dates of both forms -/

namespace SourceDate

/-- The instant that a date denotes in either form. -/
def instant (text : String) : Option Int :=
  match Rfc3339.parse text with
  | some parsed => some parsed.nanos
  | none => (HttpDate.parse text).map Rfc3339.ParsedDateTime.nanos

def isHttp (text : String) : Bool := (Rfc3339.parse text).isNone

/-- One date is earlier than another. -/
def Before (date date' : String) : Prop :=
  ∃ nanos nanos', instant date = some nanos ∧ instant date' = some nanos' ∧ nanos < nanos'

instance (date date' : String) : Decidable (Before date date') :=
  match hnanos : instant date, hnanos' : instant date' with
  | some nanos, some nanos' =>
      if hlt : nanos < nanos' then .isTrue ⟨nanos, nanos', hnanos, hnanos', hlt⟩
      else .isFalse fun ⟨_, _, h, h', hbefore⟩ => by
        cases hnanos.symm.trans h
        cases hnanos'.symm.trans h'
        exact hlt hbefore
  | none, _ => .isFalse fun ⟨_, _, h, _, _⟩ => nomatch hnanos.symm.trans h
  | some _, none => .isFalse fun ⟨_, _, _, h', _⟩ => nomatch hnanos'.symm.trans h'

/-- Two dates whose texts are in the other order: of one form by their texts, of
both forms when the HTTP date is the earlier. -/
def Misspelt (earlier later : String) : Prop :=
  if isHttp earlier = isHttp later then later < earlier else isHttp earlier = true

instance (earlier later : String) : Decidable (Misspelt earlier later) := by
  unfold Misspelt
  infer_instance

theorem isHttp_eq_true {text : String} (h : (instant text).isSome = true)
    (hhttp : isHttp text = true) : ∃ parsed, HttpDate.parse text = some parsed := by
  rw [instant, Option.isNone_iff_eq_none.mp hhttp] at h
  obtain ⟨parsed, hparsed, -⟩ := Option.map_eq_some_iff.mp (Option.isSome_iff_exists.mp h).choose_spec
  exact ⟨parsed, hparsed⟩

theorem isHttp_eq_false {text : String} (h : isHttp text = false) :
    ∃ parsed, Rfc3339.parse text = some parsed := by
  rw [isHttp, Option.isNone_eq_false_iff] at h
  exact Option.isSome_iff_exists.mp h

/-- Texts of dates are in the other order exactly when they are spelt so. -/
theorem lt_iff_misspelt {earlier later : String} (hearlier : (instant earlier).isSome = true)
    (hlater : (instant later).isSome = true) : later < earlier ↔ Misspelt earlier later := by
  cases hform : isHttp earlier with
  | true =>
      obtain ⟨http, hhttp⟩ := isHttp_eq_true hearlier hform
      cases hform' : isHttp later with
      | true => rw [Misspelt, hform, hform', if_pos rfl]
      | false =>
          obtain ⟨parsed, hparsed⟩ := isHttp_eq_false hform'
          rw [Misspelt, hform, hform', if_neg (by decide)]
          exact iff_of_true (HttpDate.text_lt hparsed hhttp) rfl
  | false =>
      obtain ⟨parsed, hparsed⟩ := isHttp_eq_false hform
      cases hform' : isHttp later with
      | true =>
          obtain ⟨http, hhttp⟩ := isHttp_eq_true hlater hform'
          rw [Misspelt, hform, hform', if_neg (by decide)]
          exact iff_of_false (HttpDate.text_lt hparsed hhttp).asymm nofun
      | false => rw [Misspelt, hform, hform', if_pos rfl]

theorem Before.trans_of_not {first second third : String} (h : Before first second)
    (hnot : ¬ Before third second) (hthird : (instant third).isSome = true) :
    Before first third := by
  obtain ⟨nanos, nanos', hfirst, hsecond, hlt⟩ := h
  obtain ⟨nanos'', hthird⟩ := Option.isSome_iff_exists.mp hthird
  refine ⟨nanos, nanos'', hfirst, hthird, ?_⟩
  by_contra hle
  exact hnot ⟨nanos'', nanos', hthird, hsecond, by omega⟩

theorem not_before_self (date : String) : ¬ Before date date := by
  rintro ⟨nanos, nanos', hnanos, hnanos', hlt⟩
  rw [hnanos] at hnanos'
  cases hnanos'
  exact lt_irrefl _ hlt

end SourceDate

/-! ### The date of the snapshot -/

/-- The dates of some records. -/
def sourceDates (provenance : List RateProvenance) : List String :=
  provenance.filterMap RateProvenance.effectiveAt

/-- The published date is one of the dates and none of them is later; without dates
there is none. -/
def DenotesLatest (published : Option String) (dates : List String) : Prop :=
  match published with
  | some date => date ∈ dates ∧ ∀ other ∈ dates, ¬ SourceDate.Before date other
  | none => dates = []

instance (published : Option String) (dates : List String) :
    Decidable (DenotesLatest published dates) :=
  match published with
  | some date => inferInstanceAs (Decidable (date ∈ dates ∧ _))
  | none => inferInstanceAs (Decidable (dates = []))

theorem foldl_addSource (provenance : List RateProvenance)
    (sources : List String × Option String) :
    (provenance.foldl addSource sources).2 =
      (sourceDates provenance).foldl (List.argAux (· > ·)) sources.2 := by
  induction provenance generalizing sources with
  | nil => rfl
  | cons value rest ih =>
      rw [List.foldl_cons, ih, addSource, sourceDates, sourceDates]
      cases hdate : value.effectiveAt with
      | none => rw [List.filterMap_cons_none hdate]
      | some effectiveAt =>
          rw [List.filterMap_cons_some hdate, List.foldl_cons]
          cases sources.2 with
          | none => rfl
          | some current => simp [List.argAux]

/-- The published date is the last of the dates as texts. -/
theorem snapshotSources_published (provenance : List RateProvenance) :
    (snapshotSources provenance).2 = (sourceDates provenance).maximum :=
  foldl_addSource provenance ([], none)

theorem snapshotSources_eq_some {provenance : List RateProvenance} {published : String} :
    (snapshotSources provenance).2 = some published ↔
      published ∈ sourceDates provenance ∧ ∀ date ∈ sourceDates provenance, date ≤ published := by
  rw [snapshotSources_published]
  exact List.maximum_eq_coe_iff

theorem snapshotSources_eq_none {provenance : List RateProvenance} :
    (snapshotSources provenance).2 = none ↔ sourceDates provenance = [] := by
  rw [snapshotSources_published]
  exact List.maximum_eq_bot

/-- The same date is published for every order of the records. -/
theorem snapshotSources_perm {provenance provenance' : List RateProvenance}
    (h : provenance.Perm provenance') :
    (snapshotSources provenance).2 = (snapshotSources provenance').2 := by
  have hdates : (sourceDates provenance).Perm (sourceDates provenance') := h.filterMap _
  cases hpublished : (snapshotSources provenance').2 with
  | none =>
      rw [snapshotSources_eq_none] at hpublished ⊢
      rw [hpublished] at hdates
      exact hdates.eq_nil
  | some published =>
      rw [snapshotSources_eq_some] at hpublished ⊢
      refine ⟨hdates.mem_iff.mpr hpublished.1, ?_⟩
      intro date hdate
      exact hpublished.2 date (hdates.mem_iff.mp hdate)

/-- Some date of the latest instant is not misspelt against any earlier date. -/
def SpeltInOrder (dates : List String) : Prop :=
  ∃ latest ∈ dates, ∀ date ∈ dates, ¬ SourceDate.Before latest date ∧
    (SourceDate.Before date latest → ¬ SourceDate.Misspelt date latest)

/-- For records whose dates can be read, the published date is the latest under
every order of the records exactly when some latest date is spelt after the
earlier ones. -/
theorem published_is_latest_iff (provenance : List RateProvenance)
    (hread : ∀ date ∈ sourceDates provenance, (SourceDate.instant date).isSome = true) :
    (∀ order, provenance.Perm order →
        DenotesLatest (snapshotSources order).2 (sourceDates order)) ↔
      sourceDates provenance = [] ∨ SpeltInOrder (sourceDates provenance) := by
  constructor
  · intro h
    have hlatest := h provenance (List.Perm.refl _)
    cases hpublished : (snapshotSources provenance).2 with
    | none => exact .inl (snapshotSources_eq_none.mp hpublished)
    | some published =>
        rw [hpublished] at hlatest
        obtain ⟨hmem, hlast⟩ := snapshotSources_eq_some.mp hpublished
        refine .inr ⟨published, hmem, fun date hdate => ⟨hlatest.2 date hdate, fun _ => ?_⟩⟩
        rw [← SourceDate.lt_iff_misspelt (hread date hdate) (hread published hmem)]
        exact not_lt.mpr (hlast date hdate)
  · intro h order horder
    have hdates : (sourceDates provenance).Perm (sourceDates order) := horder.filterMap _
    rw [← snapshotSources_perm horder]
    cases hpublished : (snapshotSources provenance).2 with
    | none =>
        rw [snapshotSources_eq_none.mp hpublished] at hdates
        exact hdates.nil_eq.symm
    | some published =>
        obtain ⟨hmem, hlast⟩ := snapshotSources_eq_some.mp hpublished
        refine ⟨hdates.mem_iff.mp hmem, fun other hother hbefore => ?_⟩
        have hother := hdates.mem_iff.mpr hother
        rcases h with hnone | ⟨latest, hlatest, hspelt⟩
        · rw [hnone] at hmem
          cases hmem
        -- The published date is before the latest, so it is not spelt after it.
        · have hearlier := hbefore.trans_of_not (hspelt other hother).1 (hread latest hlatest)
          have hnot := (hspelt published hmem).2 hearlier
          rw [← SourceDate.lt_iff_misspelt (hread published hmem) (hread latest hlatest)] at hnot
          have heq : published = latest := le_antisymm (not_lt.mp hnot) (hlast latest hlatest)
          rw [heq] at hearlier
          exact SourceDate.not_before_self latest hearlier

namespace SourceDateWitness

def record (effectiveAt : String) : RateProvenance where
  sourceUrl := "https://prices.azure.com/api/retail/prices"
  effectiveAt := some effectiveAt
  sourceVersion := none
  meterIds := []

/-- The header date of a calculator document. -/
def lastModified : String := "Mon, 10 Aug 2026 11:35:09 GMT"

end SourceDateWitness

open SourceDateWitness in
theorem published_is_latest_in_order :
    DenotesLatest (snapshotSources [record lastModified, record "2026-01-01T00:00:00Z"]).2
      (sourceDates [record lastModified, record "2026-01-01T00:00:00Z"]) :=
  (published_is_latest_iff [record "2026-01-01T00:00:00Z", record lastModified]
    (by decide +kernel)).mpr (.inr ⟨lastModified, by decide +kernel, by decide +kernel⟩) _
    (List.Perm.swap _ _ _)

open SourceDateWitness in
/-- A header date hides the later start of a retail price. -/
theorem header_date_hides_later_start :
    (snapshotSources [record lastModified, record "2026-09-01T00:00:00Z"]).2 = some lastModified ∧
      SourceDate.Before lastModified "2026-09-01T00:00:00Z" ∧
      ¬ DenotesLatest (snapshotSources [record lastModified, record "2026-09-01T00:00:00Z"]).2
        (sourceDates [record lastModified, record "2026-09-01T00:00:00Z"]) := by
  decide +kernel

end TcoCalculator
