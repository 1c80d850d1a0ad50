/-
The accounts behind a token bucket.  Each key has an account that is never forgotten,
and the table serves it with an entry or without.
-/
import Mathlib.Tactic.FieldSimp
import TcoCalculator.Api.TokenBucket
import TcoCalculator.Library.Refill

namespace TcoCalculator

namespace Instant

theorem seconds_nonneg (instant : Instant) : 0 ≤ instant.seconds :=
  div_nonneg (Nat.cast_nonneg _) (Nat.cast_nonneg _)

theorem seconds_le_seconds {earlier later : Instant} (h : earlier.nanos ≤ later.nanos) :
    earlier.seconds ≤ later.seconds :=
  div_le_div_of_nonneg_right (Nat.cast_le.mpr h) (Nat.cast_nonneg _)

theorem durationSince_exact {now earlier : Instant} (h : earlier.nanos ≤ now.nanos) :
    (now.durationSince earlier).asSecondsExact = now.seconds - earlier.seconds := by
  rw [Duration.asSecondsExact, durationSince, Nat.cast_sub h, sub_div]
  rfl

end Instant

namespace Duration

theorem asSecondsExact_le {duration duration' : Duration} (h : duration.nanos ≤ duration'.nanos) :
    duration.asSecondsExact ≤ duration'.asSecondsExact :=
  div_le_div_of_nonneg_right (Nat.cast_le.mpr h) (Nat.cast_nonneg _)

theorem asSecondsExact_pos {duration : Duration} (h : 0 < duration.nanos) :
    0 < duration.asSecondsExact :=
  div_pos (Nat.cast_pos.mpr h) (Nat.cast_pos.mpr (by decide))

end Duration

namespace TokenBucket

open Refill (Account)

/-! ### Accounts -/

/-- A bucket that lets a check through, refills, and forgets only what is full again. -/
structure Lawful (bucket : TokenBucket) : Prop where
  capacity : 1 ≤ bucket.capacity
  rate : 0 < bucket.refillPerSecond
  stale : bucket.capacity ≤ bucket.staleAfter.asSecondsExact * bucket.refillPerSecond

theorem new_lawful {capacity : ℕ} {period : Duration} (hcapacity : 1 ≤ capacity)
    (hperiod : 0 < period.nanos) : (new capacity period).Lawful := by
  have hseconds := Duration.asSecondsExact_pos hperiod
  have hpositive : (0 : ℚ) < capacity := Nat.cast_pos.mpr hcapacity
  have hrate : (0 : ℚ) < capacity / period.asSecondsExact := div_pos hpositive hseconds
  have htwice : period.nanos ≤ (period.saturatingMul 2).nanos := by
    have hvalid := period.valid
    change period.nanos ≤ min (period.nanos * 2) (2 ^ 64 * Duration.nanosPerSecond - 1)
    omega
  refine ⟨Nat.one_le_cast.mpr hcapacity, hrate, ?_⟩
  calc (capacity : ℚ) = period.asSecondsExact * (capacity / period.asSecondsExact) := by
        field_simp
    _ ≤ (period.saturatingMul 2).asSecondsExact * (capacity / period.asSecondsExact) :=
        mul_le_mul_of_nonneg_right (Duration.asSecondsExact_le htwice) hrate.le

variable {bucket : TokenBucket} {Digest : Type} [DecidableEq Digest]

/-- What an entry is worth, as an account. -/
def account (entry : BucketEntry) : Account ℚ := ⟨entry.tokens, entry.updatedAt.seconds⟩

/-- The account of a digest as the table has it: a full one when it has no entry. -/
def holding (bucket : TokenBucket) (entries : BucketEntries Digest) (digest : Digest) :
    Account ℚ :=
  ((entries.lookup digest).map account).getD ⟨bucket.capacity, 0⟩

/-- What an account holds at an instant. -/
def level (bucket : TokenBucket) (held : Account ℚ) (now : ℚ) : ℚ :=
  held.levelAt bucket.capacity bucket.refillPerSecond now

/-- The answer to a key whose account holds so much. -/
def answerAt (bucket : TokenBucket) (tokens : ℚ) : Option ℕ :=
  if 1 ≤ tokens then none else some (bucket.retryAfter tokens)

/-- The account after a check. -/
def asked (bucket : TokenBucket) (held : Account ℚ) (now : Instant) : Account ℚ :=
  held.asked bucket.capacity bucket.refillPerSecond now.seconds

structure IsStored (bucket : TokenBucket) (clock : Instant) (entry : BucketEntry) : Prop where
  nonneg : 0 ≤ entry.tokens
  le_capacity : entry.tokens ≤ bucket.capacity
  updated : entry.updatedAt.nanos ≤ clock.nanos

/-- From the clock on the table serves the accounts of a ledger. -/
structure Serves (bucket : TokenBucket) (clock : Instant) (entries : BucketEntries Digest)
    (ledger : Digest → Account ℚ) : Prop where
  stored : ∀ digest entry, entries.lookup digest = some entry → bucket.IsStored clock entry
  level_eq : ∀ digest later, clock.seconds ≤ later →
    bucket.level (bucket.holding entries digest) later = bucket.level (ledger digest) later

theorem level_full (hlawful : bucket.Lawful) {time now : ℚ} (h : time ≤ now) :
    bucket.level ⟨bucket.capacity, time⟩ now = bucket.capacity :=
  Account.levelAt_eq_capacity
    (le_add_of_nonneg_right (mul_nonneg (sub_nonneg.mpr h) hlawful.rate.le))

theorem holding_of_none {entries : BucketEntries Digest} {digest : Digest}
    (h : entries.lookup digest = none) :
    bucket.holding entries digest = ⟨bucket.capacity, 0⟩ := by
  rw [holding, h]
  rfl

theorem holding_of_some {entries : BucketEntries Digest} {digest : Digest} {entry : BucketEntry}
    (h : entries.lookup digest = some entry) : bucket.holding entries digest = account entry := by
  rw [holding, h]
  rfl

/-- A refilled entry holds what its account does. -/
theorem refilled_eq {entry : BucketEntry} {now : Instant}
    (h : entry.updatedAt.nanos ≤ now.nanos) :
    bucket.refilled entry now = bucket.level (account entry) now.seconds := by
  rw [refilled, Instant.durationSince_exact h]
  rfl

/-- The tokens a check finds are those of the account. -/
theorem refilled_getD (hlawful : bucket.Lawful) {clock now : Instant}
    {entries : BucketEntries Digest} {ledger : Digest → Account ℚ}
    (hserves : bucket.Serves clock entries ledger) (hclock : clock.nanos ≤ now.nanos)
    (digest : Digest) :
    bucket.refilled ((entries.lookup digest).getD ⟨bucket.capacity, now⟩) now =
      bucket.level (ledger digest) now.seconds := by
  rw [← hserves.level_eq digest _ (Instant.seconds_le_seconds hclock)]
  cases hlookup : entries.lookup digest with
  | none =>
      rw [Option.getD_none, refilled_eq le_rfl, holding_of_none hlookup]
      exact (level_full hlawful le_rfl).trans (level_full hlawful now.seconds_nonneg).symm
  | some entry =>
      rw [Option.getD_some, refilled_eq ((hserves.stored _ _ hlookup).updated.trans hclock),
        holding_of_some hlookup]

/-! ### Steps -/

/-- An account that was asked is as it was left. -/
theorem asked_eq (held : Account ℚ) (now : Instant) :
    bucket.asked held now = if 1 ≤ bucket.level held now.seconds
      then ⟨bucket.level held now.seconds - 1, now.seconds⟩
      else ⟨bucket.level held now.seconds, now.seconds⟩ := rfl

/-- An entry left at an instant serves its account, and no other account changes. -/
theorem Serves.insert {clock now : Instant} {entries : BucketEntries Digest}
    {ledger : Digest → Account ℚ} (hserves : bucket.Serves clock entries ledger)
    (hclock : clock.nanos ≤ now.nanos) (digest : Digest) {tokens : ℚ}
    (hnonneg : 0 ≤ tokens) (hle : tokens ≤ bucket.capacity) :
    bucket.Serves now (entries.insert digest ⟨tokens, now⟩)
      (Function.update ledger digest ⟨tokens, now.seconds⟩) := by
  constructor
  · intro other entry hlookup
    rcases HashMap.lookup_insert_eq_some hlookup with ⟨-, rfl⟩ | ⟨-, hbefore⟩
    · exact ⟨hnonneg, hle, le_rfl⟩
    · have hstored := hserves.stored other entry hbefore
      exact ⟨hstored.nonneg, hstored.le_capacity, hstored.updated.trans hclock⟩
  · intro other later hlater
    by_cases hother : other = digest
    · subst hother
      rw [holding_of_some (AList.lookup_insert entries), Function.update_self]
      rfl
    · rw [Function.update_of_ne hother, holding, AList.lookup_insert_ne hother]
      exact hserves.level_eq other later ((Instant.seconds_le_seconds hclock).trans hlater)

theorem Serves.level_nonneg (hlawful : bucket.Lawful) {clock : Instant}
    {entries : BucketEntries Digest} {ledger : Digest → Account ℚ}
    (hserves : bucket.Serves clock entries ledger) (digest : Digest) {later : ℚ}
    (hlater : clock.seconds ≤ later) : 0 ≤ bucket.level (ledger digest) later := by
  have hcapacity : 0 ≤ bucket.capacity := zero_le_one.trans hlawful.capacity
  rw [← hserves.level_eq digest later hlater]
  cases hlookup : entries.lookup digest with
  | none =>
      rw [holding_of_none hlookup, level_full hlawful (clock.seconds_nonneg.trans hlater)]
      exact hcapacity
  | some entry =>
      have hstored := hserves.stored _ _ hlookup
      rw [holding_of_some hlookup]
      exact Account.levelAt_nonneg hcapacity hlawful.rate.le hstored.nonneg
        ((Instant.seconds_le_seconds hstored.updated).trans hlater)

/-- A key with a place is answered by its account. -/
theorem Serves.take (hlawful : bucket.Lawful) {clock now : Instant}
    {entries : BucketEntries Digest} {ledger : Digest → Account ℚ}
    (hserves : bucket.Serves clock entries ledger) (hclock : clock.nanos ≤ now.nanos)
    (digest : Digest) :
    (bucket.take digest now entries).1 =
        bucket.answerAt (bucket.level (ledger digest) now.seconds) ∧
      bucket.Serves now (bucket.take digest now entries).2
        (Function.update ledger digest (bucket.asked (ledger digest) now)) := by
  have hnonneg := hserves.level_nonneg hlawful digest (Instant.seconds_le_seconds hclock)
  have hle : bucket.level (ledger digest) now.seconds ≤ bucket.capacity :=
    Account.levelAt_le_capacity _
  rw [TokenBucket.take, refilled_getD hlawful hserves hclock, answerAt, asked_eq]
  by_cases hunit : 1 ≤ bucket.level (ledger digest) now.seconds
  · rw [if_pos hunit, if_pos hunit, if_pos hunit]
    exact ⟨rfl, hserves.insert hclock digest (sub_nonneg.mpr hunit)
      ((sub_le_self _ zero_le_one).trans hle)⟩
  · rw [if_neg hunit, if_neg hunit, if_neg hunit]
    exact ⟨rfl, hserves.insert hclock digest hnonneg hle⟩

/-- An entry that is forgotten would be full from now on. -/
theorem level_of_stale (hlawful : bucket.Lawful) {entry : BucketEntry} {now : Instant} {later : ℚ}
    (hnonneg : 0 ≤ entry.tokens) (hupdated : entry.updatedAt.nanos ≤ now.nanos)
    (hstale : bucket.staleAfter.nanos < (now.durationSince entry.updatedAt).nanos)
    (hlater : now.seconds ≤ later) : bucket.level (account entry) later = bucket.capacity := by
  have helapsed := Duration.asSecondsExact_le hstale.le
  rw [Instant.durationSince_exact hupdated] at helapsed
  have hgone : bucket.staleAfter.asSecondsExact ≤ later - entry.updatedAt.seconds :=
    helapsed.trans (sub_le_sub_right hlater _)
  refine Account.levelAt_eq_capacity ?_
  calc bucket.capacity ≤ bucket.staleAfter.asSecondsExact * bucket.refillPerSecond := hlawful.stale
    _ ≤ (later - entry.updatedAt.seconds) * bucket.refillPerSecond :=
        mul_le_mul_of_nonneg_right hgone hlawful.rate.le
    _ ≤ entry.tokens + (later - entry.updatedAt.seconds) * bucket.refillPerSecond :=
        le_add_of_nonneg_left hnonneg

/-- Forgetting stale entries changes no account. -/
theorem Serves.forgetStale (hlawful : bucket.Lawful) {clock now : Instant}
    {entries : BucketEntries Digest} {ledger : Digest → Account ℚ}
    (hserves : bucket.Serves clock entries ledger) (hclock : clock.nanos ≤ now.nanos) :
    bucket.Serves now (bucket.forgetStale now entries) ledger := by
  constructor
  · intro digest entry hlookup
    rw [TokenBucket.forgetStale, HashMap.lookup_retain] at hlookup
    have hstored := hserves.stored digest entry (Option.filter_eq_some_iff.mp hlookup).1
    exact ⟨hstored.nonneg, hstored.le_capacity, hstored.updated.trans hclock⟩
  · intro digest later hlater
    rw [← hserves.level_eq digest later ((Instant.seconds_le_seconds hclock).trans hlater)]
    have hretained := HashMap.lookup_retain entries (fun _ entry =>
      decide ((now.durationSince entry.updatedAt).nanos ≤ bucket.staleAfter.nanos)) digest
    cases hlookup : entries.lookup digest with
    | none =>
        rw [hlookup, Option.filter_none] at hretained
        rw [TokenBucket.forgetStale, holding_of_none hretained, holding_of_none hlookup]
    | some entry =>
        rw [hlookup, Option.filter_some] at hretained
        split_ifs at hretained with hkept
        · rw [TokenBucket.forgetStale, holding_of_some hretained, holding_of_some hlookup]
        · have hstored := hserves.stored digest entry hlookup
          have hstale := not_le.mp (of_decide_eq_false (Bool.not_eq_true _ ▸ hkept))
          rw [TokenBucket.forgetStale, holding_of_none hretained, holding_of_some hlookup,
            level_of_stale hlawful hstored.nonneg (hstored.updated.trans hclock) hstale hlater]
          exact level_full hlawful (now.seconds_nonneg.trans hlater)

/-! ### Checks -/

/-- What a check does: it is turned away by the full table, or takes from the table
with all its entries or without the stale ones. -/
theorem check_cases (bucket : TokenBucket) (digest : Digest) (now : Instant)
    (entries : BucketEntries Digest) :
    (bucket.isFull digest now entries = true ∧ digest ∉ entries ∧ bucket.check digest now entries =
        (some (max bucket.staleAfter.asSecs 1), bucket.forgetStale now entries)) ∨
      (bucket.isFull digest now entries = false ∧ ∃ room : BucketEntries Digest,
        (room = entries ∨ room = bucket.forgetStale now entries) ∧
        (digest ∈ room ∨ room.len < maxTrackedKeys) ∧
        bucket.check digest now entries = bucket.take digest now room) := by
  by_cases habsent : digest ∉ entries ∧ maxTrackedKeys ≤ entries.len
  · by_cases hfull : maxTrackedKeys ≤ (bucket.forgetStale now entries).len
    · left
      simp [isFull, check, habsent, hfull]
    · right
      refine ⟨by simp [isFull, hfull], _, .inr rfl, .inr (not_le.mp hfull), ?_⟩
      simp [check, habsent, hfull]
  · right
    have hplace : digest ∈ entries ∨ entries.len < maxTrackedKeys := by
      by_contra h
      push Not at h
      exact habsent h
    refine ⟨?_, entries, .inl rfl, hplace, if_neg habsent⟩
    rcases hplace with hmem | hlen
    · simp [isFull, hmem]
    · simp [isFull, hlen]

theorem check_of_full {digest : Digest} {now : Instant} {entries : BucketEntries Digest}
    (h : bucket.isFull digest now entries = true) :
    digest ∉ entries ∧ bucket.check digest now entries =
      (some (max bucket.staleAfter.asSecs 1), bucket.forgetStale now entries) := by
  rcases bucket.check_cases digest now entries with ⟨-, hcheck⟩ | ⟨hroom, -⟩
  · exact hcheck
  · rw [h] at hroom
    cases hroom

/-- A check the full table turns away changes no account. -/
theorem Serves.check_of_full (hlawful : bucket.Lawful) {clock now : Instant}
    {entries : BucketEntries Digest} {ledger : Digest → Account ℚ}
    (hserves : bucket.Serves clock entries ledger) (hclock : clock.nanos ≤ now.nanos)
    {digest : Digest} (h : bucket.isFull digest now entries = true) :
    bucket.Serves now (bucket.check digest now entries).2 ledger := by
  rw [(TokenBucket.check_of_full h).2]
  exact hserves.forgetStale hlawful hclock

/-- Any other check is answered by the account of its key. -/
theorem Serves.check (hlawful : bucket.Lawful) {clock now : Instant}
    {entries : BucketEntries Digest} {ledger : Digest → Account ℚ}
    (hserves : bucket.Serves clock entries ledger) (hclock : clock.nanos ≤ now.nanos)
    {digest : Digest} (h : bucket.isFull digest now entries = false) :
    (bucket.check digest now entries).1 =
        bucket.answerAt (bucket.level (ledger digest) now.seconds) ∧
      bucket.Serves now (bucket.check digest now entries).2
        (Function.update ledger digest (bucket.asked (ledger digest) now)) := by
  rcases bucket.check_cases digest now entries with ⟨hfull, -⟩ | ⟨-, room, hroom, -, hcheck⟩
  · rw [h] at hfull
    cases hfull
  · rw [hcheck]
    rcases hroom with rfl | rfl
    · exact hserves.take hlawful hclock digest
    · exact (hserves.forgetStale hlawful hclock).take hlawful le_rfl digest

end TokenBucket

end TcoCalculator
