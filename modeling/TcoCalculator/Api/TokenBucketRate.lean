/-
The token bucket bounds the rate of every key, over every run of checks.
-/
import Mathlib.Algebra.Order.Archimedean.Basic
import TcoCalculator.Api.TokenBucketAccounts

namespace TcoCalculator.TokenBucket

open Refill (Account)

variable {bucket : TokenBucket} {Digest : Type} [DecidableEq Digest]

/-! ### Runs -/

/-- A check of a key, by the time it is made. -/
structure Check where
  key : String
  now : Instant

/-- A check and its answer, and whether it was the full table that gave it. -/
structure Outcome where
  check : Check
  full : Bool
  answer : Option ℕ

variable (bucket) (digest : String → Digest)

def outcomes (entries : BucketEntries Digest) : List Check → List Outcome
  | [] => []
  | check :: rest =>
      ⟨check, bucket.isFull (digest check.key) check.now entries,
          (bucket.check (digest check.key) check.now entries).1⟩ ::
        outcomes (bucket.check (digest check.key) check.now entries).2 rest

/-- The table after some checks. -/
def tableAfter (entries : BucketEntries Digest) (checks : List Check) : BucketEntries Digest :=
  checks.foldl (fun entries check => (bucket.check (digest check.key) check.now entries).2) entries

/-- The outcomes of a bucket that has a place for every key and never forgets. -/
def keepingOutcomes (entries : BucketEntries Digest) : List Check → List Outcome
  | [] => []
  | check :: rest =>
      ⟨check, false, (bucket.take (digest check.key) check.now entries).1⟩ ::
        keepingOutcomes (bucket.take (digest check.key) check.now entries).2 rest

/-- The outcomes by the accounts of a ledger. -/
def ledgerOutcomes (ledger : Digest → Account ℚ) : List Check → List Outcome
  | [] => []
  | check :: rest =>
      ⟨check, false, bucket.answerAt (bucket.level (ledger (digest check.key)) check.now.seconds)⟩ ::
        ledgerOutcomes (Function.update ledger (digest check.key)
          (bucket.asked (ledger (digest check.key)) check.now)) rest

/-- The checks are made one after the other. -/
def Clocked (checks : List Check) : Prop :=
  checks.Pairwise fun earlier later => earlier.now.nanos ≤ later.now.nanos

/-- The outcomes that are not the full table's. -/
def answered (outcomes : List Outcome) : List Outcome := outcomes.filter fun outcome => !outcome.full

variable {bucket digest}

theorem map_check_outcomes (entries : BucketEntries Digest) (checks : List Check) :
    (bucket.outcomes digest entries checks).map Outcome.check = checks := by
  induction checks generalizing entries with
  | nil => rfl
  | cons check rest ih => rw [outcomes, List.map_cons, ih]

theorem Clocked.answered {checks : List Check} (hclocked : Clocked checks)
    (entries : BucketEntries Digest) :
    Clocked ((answered (bucket.outcomes digest entries checks)).map Outcome.check) := by
  have hsublist : ((TokenBucket.answered (bucket.outcomes digest entries checks)).map
      Outcome.check).Sublist ((bucket.outcomes digest entries checks).map Outcome.check) :=
    List.filter_sublist.map _
  rw [map_check_outcomes] at hsublist
  exact List.Pairwise.sublist hsublist hclocked

/-- What the table answers is answered by the accounts. -/
theorem answered_outcomes (hlawful : bucket.Lawful) {clock : Instant}
    {entries : BucketEntries Digest} {ledger : Digest → Account ℚ}
    (hserves : bucket.Serves clock entries ledger) {checks : List Check}
    (hclocked : Clocked checks) (hclock : ∀ check ∈ checks, clock.nanos ≤ check.now.nanos) :
    answered (bucket.outcomes digest entries checks) = bucket.ledgerOutcomes digest ledger
      ((answered (bucket.outcomes digest entries checks)).map Outcome.check) := by
  induction checks generalizing clock entries ledger with
  | nil => rfl
  | cons check rest ih =>
      obtain ⟨hlater, hrest⟩ := List.pairwise_cons.mp hclocked
      have hnow := hclock check List.mem_cons_self
      cases hfull : bucket.isFull (digest check.key) check.now entries with
      | true =>
          have hnext := hserves.check_of_full hlawful hnow hfull
          rw [outcomes, answered, List.filter_cons_of_neg (by simp [hfull])]
          exact ih hnext hrest hlater
      | false =>
          obtain ⟨hanswer, hnext⟩ := hserves.check hlawful hnow hfull
          rw [outcomes, answered, List.filter_cons_of_pos (by simp [hfull]), List.map_cons,
            ledgerOutcomes, hfull, hanswer]
          exact congrArg _ (ih hnext hrest hlater)

/-- So does the bucket that never forgets. -/
theorem keepingOutcomes_eq (hlawful : bucket.Lawful) {clock : Instant}
    {entries : BucketEntries Digest} {ledger : Digest → Account ℚ}
    (hserves : bucket.Serves clock entries ledger) {checks : List Check}
    (hclocked : Clocked checks) (hclock : ∀ check ∈ checks, clock.nanos ≤ check.now.nanos) :
    bucket.keepingOutcomes digest entries checks = bucket.ledgerOutcomes digest ledger checks := by
  induction checks generalizing clock entries ledger with
  | nil => rfl
  | cons check rest ih =>
      obtain ⟨hlater, hrest⟩ := List.pairwise_cons.mp hclocked
      obtain ⟨hanswer, hnext⟩ :=
        hserves.take hlawful (hclock check List.mem_cons_self) (digest check.key)
      rw [keepingOutcomes, ledgerOutcomes, hanswer, ih hnext hrest hlater]

theorem Serves.later {clock now : Instant} {entries : BucketEntries Digest}
    {ledger : Digest → Account ℚ} (hserves : bucket.Serves clock entries ledger)
    (h : clock.nanos ≤ now.nanos) : bucket.Serves now entries ledger where
  stored digest entry hlookup :=
    have hstored := hserves.stored digest entry hlookup
    ⟨hstored.nonneg, hstored.le_capacity, hstored.updated.trans h⟩
  level_eq digest later hlater :=
    hserves.level_eq digest later ((Instant.seconds_le_seconds h).trans hlater)

/-- After a run the table still serves some accounts. -/
theorem Serves.tableAfter (hlawful : bucket.Lawful) {clock last : Instant}
    {entries : BucketEntries Digest} {ledger : Digest → Account ℚ}
    (hserves : bucket.Serves clock entries ledger) {checks : List Check}
    (hclocked : Clocked checks) (hclock : ∀ check ∈ checks, clock.nanos ≤ check.now.nanos)
    (hstart : clock.nanos ≤ last.nanos) (hlast : ∀ check ∈ checks, check.now.nanos ≤ last.nanos) :
    ∃ ledger', bucket.Serves last (bucket.tableAfter digest entries checks) ledger' := by
  induction checks generalizing clock entries ledger with
  | nil => exact ⟨ledger, hserves.later hstart⟩
  | cons check rest ih =>
      obtain ⟨hlater, hrest⟩ := List.pairwise_cons.mp hclocked
      have hnow := hclock check List.mem_cons_self
      have hend := hlast check List.mem_cons_self
      have hends : ∀ other ∈ rest, other.now.nanos ≤ last.nanos :=
        fun other hmem => hlast other (List.mem_cons_of_mem check hmem)
      cases hfull : bucket.isFull (digest check.key) check.now entries with
      | true => exact ih (hserves.check_of_full hlawful hnow hfull) hrest hlater hend hends
      | false => exact ih (hserves.check hlawful hnow hfull).2 hrest hlater hend hends

/-- The clock before any check. -/
def epoch : Instant := ⟨0, by decide⟩

theorem serves_empty :
    bucket.Serves epoch (∅ : BucketEntries Digest) fun _ => ⟨bucket.capacity, 0⟩ where
  stored digest entry hlookup := by
    rw [AList.lookup_empty] at hlookup
    cases hlookup
  level_eq digest later _ := by rw [holding_of_none (AList.lookup_empty digest)]

/-! ### The size of the table -/

theorem len_take_le {now : Instant} {entries : BucketEntries Digest} {digest : Digest}
    (hlen : entries.len ≤ maxTrackedKeys) (hroom : digest ∈ entries ∨ entries.len < maxTrackedKeys) :
    HashMap.len (bucket.take digest now entries).2 ≤ maxTrackedKeys := by
  have hinsert : ∀ entry, HashMap.len (entries.insert digest entry) ≤ maxTrackedKeys := by
    intro entry
    by_cases hmem : digest ∈ entries
    · rw [HashMap.len_insert_of_mem entry hmem]
      exact hlen
    · rw [HashMap.len_insert_of_notMem entry hmem]
      exact hroom.resolve_left hmem
  rw [take]
  split_ifs
  · exact hinsert _
  · exact hinsert _

theorem len_check_le {now : Instant} {entries : BucketEntries Digest} {digest : Digest}
    (hlen : entries.len ≤ maxTrackedKeys) :
    HashMap.len (bucket.check digest now entries).2 ≤ maxTrackedKeys := by
  have hforget : (bucket.forgetStale now entries).len ≤ maxTrackedKeys :=
    (HashMap.len_retain_le _ _).trans hlen
  rcases bucket.check_cases digest now entries with ⟨-, -, hcheck⟩ | ⟨-, room, hroom, hplace, hcheck⟩
  · rw [hcheck]
    exact hforget
  · rw [hcheck]
    rcases hroom with rfl | rfl
    · exact len_take_le hlen hplace
    · exact len_take_le hforget hplace

theorem len_tableAfter_le {entries : BucketEntries Digest} (hlen : entries.len ≤ maxTrackedKeys)
    (checks : List Check) :
    HashMap.len (bucket.tableAfter digest entries checks) ≤ maxTrackedKeys := by
  induction checks generalizing entries with
  | nil => exact hlen
  | cons check rest ih => exact ih (len_check_le hlen)

/-! ### The accounts are apart -/

/-- The outcomes of a key by the ledger are those of its own checks. -/
theorem filter_ledgerOutcomes (hdigest : digest.Injective) (key : String)
    {ledger ledger' : Digest → Account ℚ} (hsame : ledger (digest key) = ledger' (digest key))
    (checks : List Check) :
    (bucket.ledgerOutcomes digest ledger checks).filter (fun outcome => outcome.check.key = key) =
      bucket.ledgerOutcomes digest ledger' (checks.filter fun check => check.key = key) := by
  induction checks generalizing ledger ledger' with
  | nil => rfl
  | cons check rest ih =>
      by_cases hkey : check.key = key
      · rw [ledgerOutcomes, List.filter_cons_of_pos (by simpa using hkey),
          List.filter_cons_of_pos (by simpa using hkey), ledgerOutcomes, hkey, hsame]
        refine congrArg _ (ih ?_)
        rw [Function.update_self, Function.update_self]
      · have hother : digest key ≠ digest check.key := fun h => hkey (hdigest h).symm
        rw [ledgerOutcomes, List.filter_cons_of_neg (by simpa using hkey),
          List.filter_cons_of_neg (by simpa using hkey)]
        refine ih ?_
        rw [Function.update_of_ne hother, hsame]

omit [DecidableEq Digest] in
theorem mem_of_mem_forgetStale {now : Instant} {entries : BucketEntries Digest} {stored : Digest}
    (h : stored ∈ bucket.forgetStale now entries) : stored ∈ entries := by
  obtain ⟨entry, hentry, hkey⟩ := List.mem_map.mp (AList.mem_keys.mp h)
  exact AList.mem_keys.mpr (List.mem_map.mpr ⟨entry, (List.mem_filter.mp hentry).1, hkey⟩)

theorem mem_of_mem_check {now : Instant} {entries : BucketEntries Digest} {stored own : Digest}
    (h : stored ∈ (bucket.check own now entries).2) : stored = own ∨ stored ∈ entries := by
  have htake : ∀ room : BucketEntries Digest, stored ∈ (bucket.take own now room).2 →
      stored = own ∨ stored ∈ room := by
    intro room hmem
    rw [take] at hmem
    split_ifs at hmem
    · exact (AList.mem_insert room).mp hmem
    · exact (AList.mem_insert room).mp hmem
  rcases bucket.check_cases own now entries with ⟨-, -, hcheck⟩ | ⟨-, room, hroom, -, hcheck⟩
  · rw [hcheck] at h
    exact .inr (mem_of_mem_forgetStale h)
  · rw [hcheck] at h
    refine (htake room h).imp_right fun hmem => ?_
    rcases hroom with rfl | rfl
    · exact hmem
    · exact mem_of_mem_forgetStale hmem

/-- A table of one key has a place for it. -/
theorem isFull_of_one_key {own : Digest} {entries : BucketEntries Digest} (now : Instant)
    (hown : ∀ stored ∈ entries, stored = own) : bucket.isFull own now entries = false := by
  by_cases hmem : own ∈ entries
  · simp [isFull, hmem]
  · have hkeys : entries.keys = [] :=
      List.eq_nil_iff_forall_not_mem.mpr fun stored hstored =>
        hmem (hown stored (AList.mem_keys.mpr hstored) ▸ AList.mem_keys.mpr hstored)
    have hlen : entries.len = 0 := by rw [HashMap.len_eq_keys, hkeys, List.length_nil]
    simp [isFull, hlen, maxTrackedKeys]

theorem answered_of_one_key {key : String} {entries : BucketEntries Digest}
    (hown : ∀ stored ∈ entries, stored = digest key) {checks : List Check}
    (hchecks : ∀ check ∈ checks, check.key = key) :
    answered (bucket.outcomes digest entries checks) = bucket.outcomes digest entries checks := by
  induction checks generalizing entries with
  | nil => rfl
  | cons check rest ih =>
      have hkey := hchecks check List.mem_cons_self
      have hfull : bucket.isFull (digest check.key) check.now entries = false :=
        isFull_of_one_key check.now (hkey ▸ hown)
      have hnext : ∀ stored ∈ (bucket.check (digest check.key) check.now entries).2,
          stored = digest key := by
        intro stored hstored
        rcases mem_of_mem_check hstored with rfl | hmem
        · rw [hkey]
        · exact hown stored hmem
      rw [outcomes, answered, List.filter_cons_of_pos (by simp [hfull])]
      exact congrArg _ (ih hnext fun other hmem => hchecks other (List.mem_cons_of_mem check hmem))

/-! ### Windows -/

/-- How often the ledger admits a key at the times that count is how often its
account pays. -/
theorem countP_ledgerOutcomes (hdigest : digest.Injective) (key : String) (counts : ℚ → Bool)
    (ledger : Digest → Account ℚ) (checks : List Check) :
    (bucket.ledgerOutcomes digest ledger checks).countP (fun outcome =>
        decide (outcome.check.key = key) && outcome.answer.isNone &&
          counts outcome.check.now.seconds) =
      Account.granted bucket.capacity bucket.refillPerSecond counts (ledger (digest key))
        ((checks.filter fun check => check.key = key).map fun check => check.now.seconds) := by
  induction checks generalizing ledger with
  | nil => rfl
  | cons check rest ih =>
      rw [ledgerOutcomes, List.countP_cons, ih]
      by_cases hkey : check.key = key
      · subst hkey
        rw [List.filter_cons_of_pos (by simp), List.map_cons, Account.granted,
          Function.update_self, add_comm]
        have hpaid : (bucket.answerAt (bucket.level (ledger (digest check.key))
            check.now.seconds)).isNone = decide (1 ≤ (ledger (digest check.key)).levelAt
              bucket.capacity bucket.refillPerSecond check.now.seconds) := by
          rw [answerAt, level]
          split_ifs with hunit
          · simp [hunit]
          · simp [hunit]
        simp only [hpaid, decide_true, Bool.true_and, Bool.and_eq_true, decide_eq_true_eq]
        rfl
      · have hother : digest key ≠ digest check.key := fun h => hkey (hdigest h).symm
        rw [List.filter_cons_of_neg (by simpa using hkey), Function.update_of_ne hother]
        simp [hkey]

/-! ### Waiting -/

/-- After the seconds it was told to wait an account holds a token. -/
theorem one_le_after_retry (hrate : 0 < bucket.refillPerSecond) {tokens : ℚ} {now later : Instant}
    (h : now.nanos + bucket.retryAfter tokens * Duration.nanosPerSecond ≤ later.nanos) :
    1 ≤ tokens + (later.seconds - now.seconds) * bucket.refillPerSecond := by
  have hpos : 0 < Duration.nanosPerSecond := by decide
  have hlate := later.valid
  -- no clock waits as long as the largest answer
  have hsmall : bucket.retryAfter tokens < 2 ^ 63 := by
    by_contra hlarge
    have := Nat.mul_le_mul_right Duration.nanosPerSecond (not_lt.mp hlarge)
    omega
  have hceil : ⌈(1 - tokens) / bucket.refillPerSecond⌉₊ ≤ bucket.retryAfter tokens := by
    have hle : ceilSeconds ((1 - tokens) / bucket.refillPerSecond) ≤ bucket.retryAfter tokens :=
      le_max_left _ _
    rw [ceilSeconds] at hle
    omega
  have hwait : (bucket.retryAfter tokens : ℚ) ≤ later.seconds - now.seconds := by
    have hcast : ((now.nanos + bucket.retryAfter tokens * Duration.nanosPerSecond : ℕ) : ℚ) ≤
        (later.nanos : ℕ) := Nat.cast_le.mpr h
    push_cast at hcast
    rw [Instant.seconds, Instant.seconds, ← sub_div, le_div_iff₀ (Nat.cast_pos.mpr hpos)]
    linarith
  have hneeded : (1 - tokens) / bucket.refillPerSecond ≤ later.seconds - now.seconds :=
    (Nat.le_ceil _).trans ((Nat.cast_le.mpr hceil).trans hwait)
  rw [div_le_iff₀ hrate] at hneeded
  linarith

/-- A refused check leaves its tokens in the table, and its answer is by them. -/
theorem check_refused {own : Digest} {now : Instant} {entries : BucketEntries Digest}
    {seconds : ℕ} (hroom : bucket.isFull own now entries = false)
    (h : (bucket.check own now entries).1 = some seconds) :
    ∃ tokens, seconds = bucket.retryAfter tokens ∧
      (bucket.check own now entries).2.lookup own = some ⟨tokens, now⟩ := by
  rcases bucket.check_cases own now entries with ⟨hfull, -⟩ | ⟨-, room, -, -, hcheck⟩
  · rw [hroom] at hfull
    cases hfull
  · rw [hcheck, take] at h ⊢
    split_ifs at h ⊢ with hunit
    exact ⟨_, (Option.some.inj h).symm, AList.lookup_insert room⟩

/-- A check of another key leaves an entry as it is or forgets it. -/
theorem lookup_check_ne {own other : Digest} (hother : own ≠ other) {now : Instant}
    {entries : BucketEntries Digest} :
    (bucket.check other now entries).2.lookup own = none ∨
      (bucket.check other now entries).2.lookup own = entries.lookup own := by
  have hforget : (bucket.forgetStale now entries).lookup own = none ∨
      (bucket.forgetStale now entries).lookup own = entries.lookup own := by
    rw [forgetStale, HashMap.lookup_retain]
    cases entries.lookup own with
    | none => exact .inl rfl
    | some entry =>
        rw [Option.filter_some]
        split_ifs
        · exact .inr rfl
        · exact .inl rfl
  have htake : ∀ room : BucketEntries Digest,
      (bucket.take other now room).2.lookup own = room.lookup own := by
    intro room
    rw [take]
    split_ifs
    · exact AList.lookup_insert_ne hother
    · exact AList.lookup_insert_ne hother
  rcases bucket.check_cases other now entries with ⟨-, -, hcheck⟩ | ⟨-, room, hroom, -, hcheck⟩
  · rw [hcheck]
    exact hforget
  · rw [hcheck, htake]
    rcases hroom with rfl | rfl
    · exact .inr rfl
    · exact hforget

theorem lookup_tableAfter_ne (hdigest : digest.Injective) {key : String} {checks : List Check}
    (hothers : ∀ other ∈ checks, other.key ≠ key) (entries : BucketEntries Digest) :
    (bucket.tableAfter digest entries checks).lookup (digest key) = none ∨
      (bucket.tableAfter digest entries checks).lookup (digest key) =
        entries.lookup (digest key) := by
  induction checks generalizing entries with
  | nil => exact .inr rfl
  | cons check rest ih =>
      have hother : digest key ≠ digest check.key :=
        fun h => hothers check List.mem_cons_self (hdigest h).symm
      have hrest : ∀ other ∈ rest, other.key ≠ key :=
        fun other hmem => hothers other (List.mem_cons_of_mem check hmem)
      rcases ih hrest (bucket.check (digest check.key) check.now entries).2 with hnone | hsame
      · exact .inl hnone
      · rw [tableAfter, List.foldl_cons, ← tableAfter, hsame]
        exact lookup_check_ne hother

theorem check_of_mem {own : Digest} {now : Instant} {entries : BucketEntries Digest}
    (h : own ∈ entries) : bucket.check own now entries = bucket.take own now entries :=
  if_neg fun habsent => habsent.1 h

/-! ### The bound -/

/-- The outcomes of a run from the empty table. -/
def run (bucket : TokenBucket) (digest : String → Digest) (checks : List Check) : List Outcome :=
  bucket.outcomes digest ∅ checks

/-- The table of a run. -/
def table (bucket : TokenBucket) (digest : String → Digest) (checks : List Check) :
    BucketEntries Digest :=
  bucket.tableAfter digest ∅ checks

/-- The key is admitted, in a window of seconds. -/
def Outcome.admits (key : String) (start stop : ℚ) (outcome : Outcome) : Bool :=
  decide (outcome.check.key = key) && outcome.answer.isNone &&
    decide (start ≤ outcome.check.now.seconds ∧ outcome.check.now.seconds ≤ stop)

/-- What a bucket of a capacity and a period promises of every run of checks. -/
structure BoundsRate (digest : String → Digest) (capacity : ℕ) (period : Duration) : Prop where
  /-- Every stored token count is between zero and the capacity. -/
  tokens : ∀ checks, Clocked checks → ∀ stored entry,
    ((new capacity period).table digest checks).lookup stored = some entry →
      0 ≤ entry.tokens ∧ entry.tokens ≤ capacity
  tracked : ∀ checks, ((new capacity period).table digest checks).len ≤ maxTrackedKeys
  /-- In a window a key is admitted at most as often as the rate allows. -/
  rate : ∀ checks, Clocked checks → ∀ key start stop, start ≤ stop →
    ((((new capacity period).run digest checks).countP (Outcome.admits key start stop) : ℕ) : ℚ) ≤
      capacity + (stop - start) * capacity / period.asSecondsExact
  /-- What the table answers a bucket that forgets nothing would answer. -/
  forgetting : ∀ checks, Clocked checks →
    answered ((new capacity period).run digest checks) = (new capacity period).keepingOutcomes
      digest ∅ ((answered ((new capacity period).run digest checks)).map Outcome.check)
  /-- What the table answers to a key it would answer were there no other keys. -/
  apart : ∀ checks, Clocked checks → ∀ key, ∀ own,
    own = (answered ((new capacity period).run digest checks)).filter
      (fun outcome => outcome.check.key = key) →
    own = (new capacity period).run digest (own.map Outcome.check)
  /-- A key that waits as long as it was told, and still has its entry, is admitted. -/
  waiting : ∀ (before : List Check) (refused : Check) (between : List Check) (later : Check) seconds,
    (new capacity period).isFull (digest refused.key) refused.now
      ((new capacity period).table digest before) = false →
    ((new capacity period).check (digest refused.key) refused.now
      ((new capacity period).table digest before)).1 = some seconds →
    (∀ other ∈ between, other.key ≠ refused.key) → later.key = refused.key →
    refused.now.nanos + seconds * Duration.nanosPerSecond ≤ later.now.nanos →
    digest later.key ∈ (new capacity period).table digest (before ++ refused :: between) →
    ((new capacity period).check (digest later.key) later.now
      ((new capacity period).table digest (before ++ refused :: between))).1 = none

/-- The latest reading of a clock. -/
def latest : Instant := ⟨2 ^ 63 * Duration.nanosPerSecond - 1, by decide⟩

theorem nanos_le_latest (now : Instant) : now.nanos ≤ latest.nanos :=
  Nat.le_sub_one_of_lt now.valid

theorem stored_tokens (hlawful : bucket.Lawful) {checks : List Check} (hclocked : Clocked checks)
    {stored : Digest} {entry : BucketEntry}
    (h : (bucket.table digest checks).lookup stored = some entry) :
    0 ≤ entry.tokens ∧ entry.tokens ≤ bucket.capacity := by
  obtain ⟨ledger, hserves⟩ : ∃ ledger, bucket.Serves latest (bucket.table digest checks) ledger :=
    serves_empty.tableAfter hlawful hclocked (fun _ _ => Nat.zero_le _) (Nat.zero_le _)
      fun check _ => nanos_le_latest check.now
  have hstored := hserves.stored stored entry h
  exact ⟨hstored.nonneg, hstored.le_capacity⟩

/-- What a run answers is what the full accounts answer. -/
theorem answered_run (hlawful : bucket.Lawful) {checks : List Check} (hclocked : Clocked checks) :
    answered (bucket.run digest checks) = bucket.ledgerOutcomes digest
      (fun _ => ⟨bucket.capacity, 0⟩) ((answered (bucket.run digest checks)).map Outcome.check) :=
  answered_outcomes hlawful serves_empty hclocked fun _ _ => Nat.zero_le _

/-- Only an answer of the table admits a key. -/
theorem countP_answered (key : String) (start stop : ℚ) (entries : BucketEntries Digest)
    (checks : List Check) :
    (answered (bucket.outcomes digest entries checks)).countP (Outcome.admits key start stop) =
      (bucket.outcomes digest entries checks).countP (Outcome.admits key start stop) := by
  induction checks generalizing entries with
  | nil => rfl
  | cons check rest ih =>
      rw [outcomes, List.countP_cons, ← ih]
      cases hfull : bucket.isFull (digest check.key) check.now entries with
      | true =>
          rw [answered, List.filter_cons_of_neg (by simp), (check_of_full hfull).2]
          simp [Outcome.admits, answered]
      | false => rw [answered, List.filter_cons_of_pos (by simp), List.countP_cons, answered]

theorem admits_le (hlawful : bucket.Lawful) (hdigest : digest.Injective) {checks : List Check}
    (hclocked : Clocked checks) (key : String) {start stop : ℚ} (hwindow : start ≤ stop) :
    (((bucket.run digest checks).countP (Outcome.admits key start stop) : ℕ) : ℚ) ≤
      bucket.capacity + (stop - start) * bucket.refillPerSecond := by
  have hcapacity : 0 ≤ bucket.capacity := zero_le_one.trans hlawful.capacity
  have hanswered : Clocked ((answered (bucket.run digest checks)).map Outcome.check) :=
    hclocked.answered ∅
  have hsorted : (((answered (bucket.run digest checks)).map Outcome.check).filter
      (fun check => check.key = key)).Pairwise
        fun earlier later => earlier.now.seconds ≤ later.now.seconds :=
    (hanswered.imp fun h => Instant.seconds_le_seconds h).sublist List.filter_sublist
  rw [run, ← countP_answered, ← run, answered_run hlawful hclocked]
  refine (Nat.cast_le.mpr (countP_ledgerOutcomes hdigest key
    (Account.inWindow start stop) _ _).le).trans
    (Account.granted_le_window hcapacity hlawful.rate.le (List.pairwise_map.mpr hsorted)
      hcapacity ?_ hwindow)
  intro now hnow
  obtain ⟨check, -, rfl⟩ := List.mem_map.mp hnow
  exact check.now.seconds_nonneg

theorem own_run (hlawful : bucket.Lawful) (hdigest : digest.Injective) {checks : List Check}
    (hclocked : Clocked checks) (key : String) {own : List Outcome}
    (hown : own = (answered (bucket.run digest checks)).filter
      (fun outcome => outcome.check.key = key)) :
    own = bucket.run digest (own.map Outcome.check) := by
  have hanswered : Clocked ((answered (bucket.run digest checks)).map Outcome.check) :=
    hclocked.answered ∅
  have hchecks : own.map Outcome.check =
      ((answered (bucket.run digest checks)).map Outcome.check).filter
        (fun check => check.key = key) := by
    rw [hown, List.filter_map]
    rfl
  have hownClocked : Clocked (own.map Outcome.check) := by
    rw [hchecks]
    exact List.Pairwise.sublist List.filter_sublist hanswered
  have hkeys : ∀ check ∈ own.map Outcome.check, check.key = key := by
    intro check hcheck
    rw [hchecks] at hcheck
    simpa using (List.mem_filter.mp hcheck).2
  have halone : answered (bucket.run digest (own.map Outcome.check)) =
      bucket.run digest (own.map Outcome.check) :=
    answered_of_one_key (fun _ h => (AList.notMem_empty _ h).elim) hkeys
  have hrun : answered (bucket.run digest (own.map Outcome.check)) = _ :=
    answered_run hlawful hownClocked
  rw [halone, run, map_check_outcomes] at hrun
  rw [run, hrun, hchecks, ← filter_ledgerOutcomes hdigest key rfl,
    ← answered_run hlawful hclocked, hown]

theorem admitted_after_waiting (hlawful : bucket.Lawful) (hdigest : digest.Injective)
    {before between : List Check} {refused later : Check} {seconds : ℕ}
    (hroom : bucket.isFull (digest refused.key) refused.now (bucket.table digest before) = false)
    (hrefused : (bucket.check (digest refused.key) refused.now
      (bucket.table digest before)).1 = some seconds)
    (hothers : ∀ other ∈ between, other.key ≠ refused.key) (hkey : later.key = refused.key)
    (hwaited : refused.now.nanos + seconds * Duration.nanosPerSecond ≤ later.now.nanos)
    (hentry : digest later.key ∈ bucket.table digest (before ++ refused :: between)) :
    (bucket.check (digest later.key) later.now
      (bucket.table digest (before ++ refused :: between))).1 = none := by
  obtain ⟨tokens, rfl, hleft⟩ := check_refused hroom hrefused
  have htable : bucket.table digest (before ++ refused :: between) = bucket.tableAfter digest
      (bucket.check (digest refused.key) refused.now (bucket.table digest before)).2 between := by
    rw [table, tableAfter, List.foldl_append]
    rfl
  have hlookup : (bucket.table digest (before ++ refused :: between)).lookup (digest later.key) =
      some ⟨tokens, refused.now⟩ := by
    rw [htable, hkey] at hentry ⊢
    rcases lookup_tableAfter_ne hdigest hothers _ with hnone | hsame
    · exact absurd hentry (AList.lookup_eq_none.mp hnone)
    · rw [hsame, hleft]
  have hafter : refused.now.nanos ≤ later.now.nanos := (Nat.le_add_right _ _).trans hwaited
  have hunit : 1 ≤ bucket.refilled ⟨tokens, refused.now⟩ later.now := by
    rw [refilled, Instant.durationSince_exact hafter]
    exact le_min (one_le_after_retry hlawful.rate hwaited) hlawful.capacity
  rw [check_of_mem hentry, take, hlookup, Option.getD_some, if_pos hunit]

/-! ### Repeated checks -/

theorem outcomes_append (entries : BucketEntries Digest) (checks checks' : List Check) :
    bucket.outcomes digest entries (checks ++ checks') = bucket.outcomes digest entries checks ++
      bucket.outcomes digest (bucket.tableAfter digest entries checks) checks' := by
  induction checks generalizing entries with
  | nil => rfl
  | cons check rest ih => rw [List.cons_append, outcomes, outcomes, ih, List.cons_append]; rfl

theorem mem_tableAfter {entries : BucketEntries Digest} {checks : List Check} {stored : Digest}
    (h : stored ∈ bucket.tableAfter digest entries checks) :
    stored ∈ entries ∨ ∃ check ∈ checks, stored = digest check.key := by
  induction checks generalizing entries with
  | nil => exact .inl h
  | cons check rest ih =>
      rcases ih h with hmem | ⟨other, hother, hstored⟩
      · rcases mem_of_mem_check hmem with hown | hmem
        · exact .inr ⟨check, List.mem_cons_self, hown⟩
        · exact .inl hmem
      · exact .inr ⟨other, List.mem_cons_of_mem check hother, hstored⟩

/-- A key without an entry is admitted where there is a place. -/
theorem check_of_fresh (hlawful : bucket.Lawful) {own : Digest} {now : Instant}
    {entries : BucketEntries Digest} (hfresh : own ∉ entries)
    (hroom : entries.len < maxTrackedKeys) : (bucket.check own now entries).1 = none := by
  have hplace : ¬ (own ∉ entries ∧ maxTrackedKeys ≤ entries.len) :=
    fun h => absurd h.2 (not_le.mpr hroom)
  have hfull : bucket.refilled ⟨bucket.capacity, now⟩ now = bucket.capacity := by
    rw [refilled, Instant.durationSince_exact le_rfl, sub_self, zero_mul, add_zero, min_self]
  rw [check, if_neg hplace, take, AList.lookup_eq_none.mpr hfresh, Option.getD_none, hfull,
    if_pos hlawful.capacity]

/-- A key that is checked again and again at one time is refused at last. -/
theorem exists_refused (hlawful : bucket.Lawful) (hdigest : digest.Injective) (check : Check) :
    ∃ count, (∀ outcome ∈ bucket.run digest (List.replicate count check), outcome.answer = none) ∧
      (bucket.check (digest check.key) check.now
        (bucket.table digest (List.replicate count check))).1 ≠ none := by
  by_contra hnever
  push Not at hnever
  have hadmitted : ∀ count, ∀ outcome ∈ bucket.run digest (List.replicate count check),
      outcome.check = check ∧ outcome.answer = none := by
    intro count
    induction count with
    | zero => exact fun _ h => (List.not_mem_nil h).elim
    | succ count ih =>
        intro outcome hmem
        rw [List.replicate_succ', run, outcomes_append, List.mem_append] at hmem
        rcases hmem with hmem | hmem
        · exact ih outcome hmem
        · rw [outcomes, outcomes, List.mem_singleton] at hmem
          subst hmem
          exact ⟨rfl, hnever count fun outcome hmem => (ih outcome hmem).2⟩
  obtain ⟨count, hcount⟩ := exists_nat_gt bucket.capacity
  have hclocked : Clocked (List.replicate count check) := List.pairwise_replicate.mpr (.inr le_rfl)
  have hbound := admits_le hlawful hdigest hclocked check.key (le_refl check.now.seconds)
  have hall : (bucket.run digest (List.replicate count check)).countP (Outcome.admits check.key
      check.now.seconds check.now.seconds) = count := by
    have hlength : (bucket.outcomes digest ∅ (List.replicate count check)).length = count := by
      rw [← List.length_map Outcome.check, map_check_outcomes, List.length_replicate]
    rw [List.countP_eq_length.mpr, run, hlength]
    intro outcome hmem
    obtain ⟨hcheck, hanswer⟩ := hadmitted count outcome hmem
    simp [Outcome.admits, hcheck, hanswer]
  rw [hall, sub_self, zero_mul, add_zero] at hbound
  exact absurd hbound (not_le.mpr hcount)

/-- A bucket of a positive capacity and period bounds the rate of every key. -/
theorem new_boundsRate {digest : String → Digest} (hdigest : digest.Injective) {capacity : ℕ}
    (hcapacity : 1 ≤ capacity) {period : Duration} (hperiod : 0 < period.nanos) :
    BoundsRate digest capacity period := by
  have hlawful := new_lawful hcapacity hperiod
  constructor
  · intro checks hclocked stored entry hlookup
    exact stored_tokens hlawful hclocked hlookup
  · exact fun checks => len_tableAfter_le (Nat.zero_le _) checks
  · intro checks hclocked key start stop hwindow
    rw [mul_div_assoc]
    exact admits_le hlawful hdigest hclocked key hwindow
  · intro checks hclocked
    refine (answered_run hlawful hclocked).trans (Eq.symm ?_)
    exact keepingOutcomes_eq hlawful serves_empty (hclocked.answered ∅) fun _ _ => Nat.zero_le _
  · exact fun checks hclocked key own hown => own_run hlawful hdigest hclocked key hown
  · intro before refused between later seconds hroom hrefused hothers hkey hwaited hentry
    exact admitted_after_waiting hlawful hdigest hroom hrefused hothers hkey hwaited hentry

/-- Twice a minute. -/
theorem twice_a_minute_boundsRate : BoundsRate (id : String → String) 2 (.ofSecs 60 (by decide)) :=
  new_boundsRate Function.injective_id (by decide) (by decide)

example : ((new 2 (.ofSecs 60 (by decide))).run id [⟨"client", epoch⟩, ⟨"client", epoch⟩,
    ⟨"client", epoch⟩, ⟨"other client", epoch⟩]).map Outcome.answer =
      [none, none, some 30, none] := by decide +kernel

end TcoCalculator.TokenBucket
