/-
Safety of the refresh lease: what every interleaving of claims and publishes
keeps, first for the store alone and then for the calls that drive it.
-/
import TcoCalculator.Persistence.RefreshLease

namespace TcoCalculator.RefreshLease

open PricingCache PricingCache.RefreshLeaseDocument Rfc3339 Transition

/-! ### The store -/

/-- What the calls, the clock and the lifetime can do to the store. -/
inductive LeaseStore.Next (s : LeaseStore) : LeaseStore → Prop
  | same : Next s s
  | tick {now : UtcDateTime} (later : s.clock ≤ now) : Next s { s with clock := now }
  | expire {cell : EtagCell RefreshLeaseDocument}
      (dropped : s.cell.expire leaseTtl s.clock.nanos = some cell) : Next s { s with cell }
  | lease {candidate : RefreshLeaseDocument} {reading : UtcDateTime}
      (valid : candidate.validate = .ok ()) (status : candidate.status = .inProgress)
      (leasedAt : parseTimestamp candidate.leasedAt = .ok ⟨reading.nanos, 0⟩)
      (past : reading ≤ s.clock)
      (free : ∀ item, s.cell.item = some item → item.value.status = .inProgress →
        item.value.ExpiredBy s.clock.nanos) :
      Next s { s with
        cell := s.cell.put candidate s.clock.nanos
        history := .leased s.cell.nextEtag candidate :: s.history }
  | complete {item : EtagItem RefreshLeaseDocument} {document : RefreshLeaseDocument}
      {ownerToken : String} {outcome : RefreshLeaseOutcome} {reading : UtcDateTime}
      (stored : s.cell.item = some item)
      (completes : Completes item.value document ownerToken outcome reading)
      (past : reading ≤ s.clock) :
      Next s { s with
        cell := s.cell.put document s.clock.nanos
        history := .completed item.etag item.value document :: s.history }

/-- A lease that was granted, not completed since, and has not run out. -/
structure LeaseStore.Live (s : LeaseStore) (etag : Nat) (document : RefreshLeaseDocument) :
    Prop where
  leased : .leased etag document ∈ s.history
  uncompleted : ∀ previous completed, .completed etag previous completed ∉ s.history
  active : document.ActiveAt s.clock.nanos

/-- What is known of the stored document. -/
structure LeaseStore.ItemValid (s : LeaseStore) (item : EtagItem RefreshLeaseDocument) :
    Prop where
  valid : item.value.validate = .ok ()
  written : item.writtenAt ≤ s.clock.nanos
  leasedBefore : ∃ leased, parseTimestamp item.value.leasedAt = .ok leased ∧
    leased.nanos ≤ item.writtenAt
  inProgress : item.value.status = .inProgress → .leased item.etag item.value ∈ s.history
  terminal : item.value.status ≠ .inProgress →
    ∃ etag previous, .completed etag previous item.value ∈ s.history

/-- What is known of a recorded write. -/
def LeaseStore.Sound (s : LeaseStore) : LeaseWrite → Prop
  | .leased etag document => etag < s.cell.nextEtag ∧ document.status = .inProgress
  | .completed etag previous document =>
      etag < s.cell.nextEtag ∧ .leased etag previous ∈ s.history ∧
        ∃ ownerToken outcome reading,
          Completes previous document ownerToken outcome reading ∧ reading ≤ s.clock

structure LeaseStore.Valid (s : LeaseStore) : Prop where
  tags : s.cell.TagsIssued
  item : ∀ item, s.cell.item = some item → s.ItemValid item
  sound : ∀ write ∈ s.history, s.Sound write
  live : ∀ etag document, s.Live etag document →
    ∃ item, s.cell.item = some item ∧ item.etag = etag ∧ item.value = document
  settled : ∀ etag previous document, .completed etag previous document ∈ s.history →
    ∀ item, s.cell.item = some item → etag < item.etag

/-- Facts about an earlier store that stay true. -/
structure LeaseStore.Later (s s' : LeaseStore) : Prop where
  clock : s.clock ≤ s'.clock
  history : s.history ⊆ s'.history
  observed : ∀ document etag, s.cell.Observed document etag → s'.cell.Observed document etag
  issued : s.cell.nextEtag ≤ s'.cell.nextEtag

theorem LeaseStore.Next.later {s s' : LeaseStore} (h : s.Next s') : s.Later s' := by
  cases h with
  | same => exact ⟨le_rfl, List.Subset.refl _, fun _ _ h => h, le_rfl⟩
  | tick later => exact ⟨later, List.Subset.refl _, fun _ _ h => h, le_rfl⟩
  | expire dropped =>
      obtain ⟨_, -, -, rfl⟩ := EtagCell.expire_eq_some dropped
      exact ⟨le_rfl, List.Subset.refl _, fun _ _ h => h.dropped, le_rfl⟩
  | lease =>
      exact ⟨le_rfl, List.subset_cons_self _ _, fun _ _ h => h.put _ _, Nat.le_succ _⟩
  | complete =>
      exact ⟨le_rfl, List.subset_cons_self _ _, fun _ _ h => h.put _ _, Nat.le_succ _⟩

theorem LeaseStore.Sound.later {s s' : LeaseStore} {write : LeaseWrite} (h : s.Sound write)
    (hlater : s.Later s') : s'.Sound write := by
  cases write with
  | leased etag document => exact ⟨h.1.trans_le hlater.issued, h.2⟩
  | completed etag previous document =>
      obtain ⟨hissued, hleased, ownerToken, outcome, reading, hcompletes, hpast⟩ := h
      exact ⟨hissued.trans_le hlater.issued, hlater.history hleased, ownerToken, outcome,
        reading, hcompletes, hpast.trans hlater.clock⟩

theorem LeaseStore.ItemValid.later {s s' : LeaseStore} {item : EtagItem RefreshLeaseDocument}
    (h : s.ItemValid item) (hlater : s.Later s') : s'.ItemValid item where
  valid := h.valid
  written := h.written.trans hlater.clock
  leasedBefore := h.leasedBefore
  inProgress hstatus := hlater.history (h.inProgress hstatus)
  terminal hstatus := by
    obtain ⟨etag, previous, hcompleted⟩ := h.terminal hstatus
    exact ⟨etag, previous, hlater.history hcompleted⟩

/-- A lease that is live in a store with the same writes and a later clock was
live before. -/
theorem LeaseStore.Live.earlier {s s' : LeaseStore} {etag : Nat}
    {document : RefreshLeaseDocument} (h : s'.Live etag document)
    (hhistory : s'.history = s.history) (hclock : s.clock ≤ s'.clock) :
    s.Live etag document := by
  obtain ⟨expires, hparse, hactive⟩ := h.active
  rw [UtcDateTime.le_def] at hclock
  exact ⟨hhistory ▸ h.leased, fun previous completed => hhistory ▸ h.uncompleted previous completed,
    expires, hparse, by omega⟩

/-- Nothing live is left once the stored lease has run out or is terminal. -/
theorem LeaseStore.Valid.not_live {s : LeaseStore} (h : s.Valid)
    (hfree : ∀ item, s.cell.item = some item → item.value.status = .inProgress →
      item.value.ExpiredBy s.clock.nanos) (etag : Nat) (document : RefreshLeaseDocument) :
    ¬ s.Live etag document := by
  intro hlive
  obtain ⟨item, hitem, -, rfl⟩ := h.live etag document hlive
  have hstatus := (h.sound _ hlive.leased).2
  exact (hfree item hitem hstatus).not_active le_rfl hlive.active

theorem LeaseStore.Valid.next {s s' : LeaseStore} (h : s.Valid) (hnext : s.Next s') :
    s'.Valid := by
  have hlater := hnext.later
  cases hnext with
  | same => exact h
  | tick later =>
      refine ⟨h.tags, fun item hitem => (h.item item hitem).later hlater,
        fun write hwrite => (h.sound write hwrite).later hlater, ?_, h.settled⟩
      intro etag document hlive
      exact h.live etag document (hlive.earlier rfl later)
  | expire dropped =>
      obtain ⟨item, hitem, hdue, rfl⟩ := EtagCell.expire_eq_some dropped
      refine ⟨EtagCell.TagsIssued.dropped _, fun _ hnone => (nomatch hnone),
        fun write hwrite => (h.sound write hwrite).later hlater, ?_,
        fun _ _ _ _ _ hnone => (nomatch hnone)⟩
      intro etag document hlive
      have hbefore : s.Live etag document := hlive.earlier rfl le_rfl
      obtain ⟨stored, hstored, -, rfl⟩ := h.live etag document hbefore
      obtain rfl : item = stored := Option.some.inj (hitem.symm.trans hstored)
      -- the lifetime counts from the write, which is not before the lease began
      obtain ⟨leased, hleased, hwritten⟩ := (h.item item hitem).leasedBefore
      obtain ⟨leased', expires, hleased', hexpires, hlength, httl⟩ :=
        validate_times (h.item item hitem).valid
      obtain ⟨expires', hexpires', hactive⟩ := hlive.active
      rw [hleased] at hleased'
      rw [hexpires] at hexpires'
      cases hleased'
      cases hexpires'
      simp only [leaseTtl, httl] at hdue
      change s.clock.nanos < _ at hactive
      omega
  | @lease candidate reading valid status leasedAt past free =>
      refine ⟨EtagCell.TagsIssued.put _ _, ?_, ?_, ?_, ?_⟩
      · rintro item ⟨⟩
        exact ⟨valid, le_rfl, ⟨_, leasedAt, past⟩, fun _ => List.mem_cons_self,
          fun hne => absurd status hne⟩
      · intro write hwrite
        rcases List.mem_cons.mp hwrite with rfl | hold
        · exact ⟨Nat.lt_succ_self _, status⟩
        · exact (h.sound write hold).later hlater
      · intro etag document hlive
        rcases List.mem_cons.mp hlive.leased with hnew | hold
        · cases hnew
          exact ⟨_, rfl, rfl, rfl⟩
        · exfalso
          refine h.not_live free etag document ⟨hold, ?_, hlive.active⟩
          intro previous completed hcompleted
          exact hlive.uncompleted previous completed (List.mem_cons_of_mem _ hcompleted)
      · rintro etag previous document hcompleted item ⟨⟩
        rcases List.mem_cons.mp hcompleted with hnew | hold
        · cases hnew
        · exact (h.sound _ hold).1
  | @complete item document ownerToken outcome reading stored completes past =>
      have hleased := (h.item item stored).inProgress completes.previousStatus
      have hterminal := statusMatches_ne_inProgress completes.status
      refine ⟨EtagCell.TagsIssued.put _ _, ?_, ?_, ?_, ?_⟩
      · rintro written ⟨⟩
        obtain ⟨leased, hparse, hbefore⟩ := (h.item item stored).leasedBefore
        exact ⟨completes.valid, le_rfl, ⟨leased, completes.leasedAt ▸ hparse,
          hbefore.trans (h.item item stored).written⟩,
          fun hstatus => absurd hstatus hterminal,
          fun _ => ⟨item.etag, item.value, List.mem_cons_self⟩⟩
      · intro write hwrite
        rcases List.mem_cons.mp hwrite with rfl | hold
        · exact ⟨Nat.lt_succ_of_lt (h.tags item stored), List.mem_cons_of_mem _ hleased,
            ownerToken, outcome, reading, completes, past⟩
        · exact (h.sound write hold).later hlater
      · intro etag live hlive
        exfalso
        have hold : .leased etag live ∈ s.history := by
          rcases List.mem_cons.mp hlive.leased with hnew | hold
          · cases hnew
          · exact hold
        have hbefore : s.Live etag live := by
          refine ⟨hold, ?_, hlive.active⟩
          intro previous completed hcompleted
          exact hlive.uncompleted previous completed (List.mem_cons_of_mem _ hcompleted)
        obtain ⟨current, hcurrent, hetag, -⟩ := h.live etag live hbefore
        obtain rfl : item = current := Option.some.inj (stored.symm.trans hcurrent)
        subst hetag
        exact hlive.uncompleted _ _ List.mem_cons_self
      · rintro etag earlier written hcompleted current ⟨⟩
        rcases List.mem_cons.mp hcompleted with hnew | hold
        · cases hnew
          exact h.tags item stored
        · exact (h.sound _ hold).1

/-! ### The calls -/

/-- A candidate lease drawn up at a clock reading that has passed. -/
structure CandidateValid (s : LeaseStore) (ownerToken : String)
    (candidate : RefreshLeaseDocument) : Prop where
  valid : candidate.validate = .ok ()
  owner : candidate.ownerToken = ownerToken
  status : candidate.status = .inProgress
  leasedAt : ∃ reading : UtcDateTime,
    parseTimestamp candidate.leasedAt = .ok ⟨reading.nanos, 0⟩ ∧ reading ≤ s.clock

/-- What a claim may answer: a lease it was granted, or a recorded completion
that is not before the request. -/
def DecisionValid (s : LeaseStore) (ownerToken : String) (requestStartedAt : Int)
    (decision : RefreshLeaseDecision) : Prop :=
  match decision with
  | .acquired => ∃ etag document, .leased etag document ∈ s.history ∧
      document.ownerToken = ownerToken
  | .pending => True
  | .succeeded _ | .failed _ => ∃ etag previous document,
      .completed etag previous document ∈ s.history ∧
      decision = decisionOf document.status ∧ document.CompletedSince requestStartedAt

def ClaimValid (s : LeaseStore) (ownerToken : String) (requestStartedAt : Int) :
    ClaimState → Prop
  | .sample _ => True
  | .create _ now candidate | .read _ now candidate =>
      CandidateValid s ownerToken candidate ∧ now ≤ s.clock
  | .replace _ candidate etag => CandidateValid s ownerToken candidate ∧
      ∃ existing, s.cell.Observed existing etag ∧
        (existing.status = .inProgress → existing.ExpiredBy s.clock.nanos)
  | .done (.ok decision) => DecisionValid s ownerToken requestStartedAt decision
  | .done (.error _) => True
  | .panicked => True

/-- A recorded completion by the owner with the outcome. -/
def OutcomeRecorded (s : LeaseStore) (ownerToken : String) (outcome : RefreshLeaseOutcome) :
    Prop :=
  ∃ etag previous document, .completed etag previous document ∈ s.history ∧
    document.ownerToken = ownerToken ∧ statusMatches document.status outcome = true

def PublishValid (s : LeaseStore) (ownerToken : String) (outcome : RefreshLeaseOutcome) :
    PublishState → Prop
  | .read _ => True
  | .complete _ existing etag => s.cell.Observed existing etag
  | .replace _ completed etag => ∃ existing reading, s.cell.Observed existing etag ∧
      Completes existing completed ownerToken outcome reading ∧ reading ≤ s.clock
  | .done (.ok _) => OutcomeRecorded s ownerToken outcome
  | .done (.error _) => True

def ProcessValid (s : LeaseStore) : Process → Prop
  | .claim ownerToken requestStartedAt state => ClaimValid s ownerToken requestStartedAt state
  | .publish ownerToken outcome state => PublishValid s ownerToken outcome state

theorem CandidateValid.later {s s' : LeaseStore} {ownerToken : String}
    {candidate : RefreshLeaseDocument} (h : CandidateValid s ownerToken candidate)
    (hlater : s.Later s') : CandidateValid s' ownerToken candidate := by
  obtain ⟨reading, hparse, hpast⟩ := h.leasedAt
  exact ⟨h.valid, h.owner, h.status, reading, hparse, hpast.trans hlater.clock⟩

theorem DecisionValid.later {s s' : LeaseStore} {ownerToken : String}
    {requestStartedAt : Int} {decision : RefreshLeaseDecision}
    (h : DecisionValid s ownerToken requestStartedAt decision) (hlater : s.Later s') :
    DecisionValid s' ownerToken requestStartedAt decision := by
  cases decision with
  | acquired =>
      obtain ⟨etag, document, hleased, howner⟩ := h
      exact ⟨etag, document, hlater.history hleased, howner⟩
  | pending => trivial
  | _ =>
      obtain ⟨etag, previous, document, hcompleted, hrest⟩ := h
      exact ⟨etag, previous, document, hlater.history hcompleted, hrest⟩

theorem OutcomeRecorded.later {s s' : LeaseStore} {ownerToken : String}
    {outcome : RefreshLeaseOutcome} (h : OutcomeRecorded s ownerToken outcome)
    (hlater : s.Later s') : OutcomeRecorded s' ownerToken outcome := by
  obtain ⟨etag, previous, document, hcompleted, hrest⟩ := h
  exact ⟨etag, previous, document, hlater.history hcompleted, hrest⟩

/-- What a call knows stays true while other calls run. -/
theorem ProcessValid.later {s s' : LeaseStore} {process : Process}
    (h : ProcessValid s process) (hlater : s.Later s') : ProcessValid s' process := by
  rcases process with ⟨ownerToken, requestStartedAt, state⟩ | ⟨ownerToken, outcome, state⟩
  · rcases state with _ | ⟨_, now, candidate⟩ | ⟨_, now, candidate⟩ | ⟨_, candidate, etag⟩ |
      (_ | decision) | _
    · trivial
    · exact ⟨h.1.later hlater, h.2.trans hlater.clock⟩
    · exact ⟨h.1.later hlater, h.2.trans hlater.clock⟩
    · obtain ⟨hcandidate, existing, hobserved, hexpired⟩ := h
      exact ⟨hcandidate.later hlater, existing, hlater.observed _ _ hobserved,
        fun hstatus => (hexpired hstatus).later hlater.clock⟩
    · trivial
    · exact DecisionValid.later h hlater
    · trivial
  · rcases state with _ | ⟨_, existing, etag⟩ | ⟨_, completed, etag⟩ | (_ | _)
    · trivial
    · exact hlater.observed _ _ h
    · obtain ⟨existing, reading, hobserved, hcompletes, hpast⟩ := h
      exact ⟨existing, reading, hlater.observed _ _ hobserved, hcompletes,
        hpast.trans hlater.clock⟩
    · trivial
    · exact OutcomeRecorded.later h hlater

theorem claimValid_attempt (s : LeaseStore) (ownerToken : String) (requestStartedAt : Int)
    (left : Nat) : ClaimValid s ownerToken requestStartedAt (.attempt left) := by
  cases left <;> trivial

theorem publishValid_attempt (s : LeaseStore) (ownerToken : String)
    (outcome : RefreshLeaseOutcome) (left : Nat) :
    PublishValid s ownerToken outcome (.attempt left) := by
  cases left <;> trivial

theorem claimValid_sampled (cacheKeySha256 : String) (s : LeaseStore) (ownerToken : String)
    (requestStartedAt : Int) (left : Nat) :
    ClaimValid s ownerToken requestStartedAt
      (claimSampled cacheKeySha256 ownerToken left s.clock) := by
  unfold claimSampled
  split
  · rename_i candidate hnew
    obtain ⟨hvalid, howner, hstatus, hleased⟩ := new_eq_ok hnew
    exact ⟨⟨hvalid, howner, hstatus, s.clock, hleased, le_rfl⟩, le_rfl⟩
  · trivial
  · trivial

theorem claimValid_read {s : LeaseStore} (hstore : s.Valid) {ownerToken : String}
    (requestStartedAt : Int) (left : Nat) {now : UtcDateTime}
    {candidate : RefreshLeaseDocument} (hcandidate : CandidateValid s ownerToken candidate)
    (hpast : now ≤ s.clock) :
    ClaimValid s ownerToken requestStartedAt
      (claimRead requestStartedAt left now candidate s.cell.item) := by
  cases hitem : s.cell.item with
  | none => exact claimValid_attempt s ownerToken requestStartedAt left
  | some item =>
      simp only [claimRead, (hstore.item item hitem).valid, hcandidate.valid]
      cases hdecision : item.value.decision requestStartedAt now with
      | error e => trivial
      | ok answer =>
          cases answer with
          | none =>
              refine ⟨hcandidate, item.value, EtagCell.Observed.of_item hstore.tags hitem, ?_⟩
              intro hstatus
              exact (decision_eq_none hdecision hstatus).later hpast
          | some decision =>
              obtain ⟨rfl, hsince⟩ := decision_eq_some hdecision
              by_cases hstatus : item.value.status = .inProgress
              · simp only [hstatus]
                trivial
              · obtain ⟨etag, previous, hcompleted⟩ := (hstore.item item hitem).terminal hstatus
                have hrecorded : ∃ etag previous document,
                    .completed etag previous document ∈ s.history ∧
                    decisionOf item.value.status = decisionOf document.status ∧
                    document.CompletedSince requestStartedAt :=
                  ⟨etag, previous, item.value, hcompleted, rfl, hsince hstatus⟩
                change DecisionValid _ _ _ _
                cases h : item.value.status with
                | inProgress => exact absurd h hstatus
                | _ =>
                    rw [h] at hrecorded
                    exact hrecorded

theorem publishValid_read {s : LeaseStore} (hstore : s.Valid) (ownerToken : String)
    (outcome : RefreshLeaseOutcome) (left : Nat) :
    PublishValid s ownerToken outcome (publishRead ownerToken outcome left s.cell.item) := by
  cases hitem : s.cell.item with
  | none => trivial
  | some item =>
      simp only [publishRead, (hstore.item item hitem).valid]
      split
      · trivial
      · cases hmatches : item.value.matchesOutcome ownerToken outcome with
        | error e => trivial
        | ok matched =>
            cases matched with
            | false => exact EtagCell.Observed.of_item hstore.tags hitem
            | true =>
                obtain ⟨howner, hstatus⟩ := matchesOutcome_eq_true hmatches
                obtain ⟨etag, previous, hcompleted⟩ := (hstore.item item hitem).terminal
                  (statusMatches_ne_inProgress hstatus)
                exact ⟨etag, previous, item.value, hcompleted, howner, hstatus⟩

theorem publishValid_completed {s : LeaseStore} (ownerToken : String)
    (outcome : RefreshLeaseOutcome) (left : Nat) {existing : RefreshLeaseDocument}
    {etag : Nat} (hobserved : s.cell.Observed existing etag) :
    PublishValid s ownerToken outcome
      (publishCompleted ownerToken outcome left existing etag s.clock) := by
  unfold publishCompleted
  split
  · trivial
  · rename_i completed hcomplete
    split
    · trivial
    · exact ⟨existing, s.clock, hobserved, complete_eq_ok hcomplete, le_rfl⟩

/-! ### Writes and steps -/

theorem writeLease_next {s store : LeaseStore} {precondition : Precondition}
    {ownerToken : String} {candidate : RefreshLeaseDocument} {applied : Bool}
    {report : WriteReport} (hcandidate : CandidateValid s ownerToken candidate)
    (hfree : s.cell.admits precondition = true → ∀ item, s.cell.item = some item →
      item.value.status = .inProgress → item.value.ExpiredBy s.clock.nanos)
    (h : s.writeLease precondition candidate applied report = some store) :
    s.Next store ∧ (report = .ok → ∃ etag, .leased etag candidate ∈ store.history) := by
  obtain ⟨cell, hwrite, hstore⟩ := Option.bind_eq_some_iff.mp h
  cases Option.some.inj hstore
  rcases EtagCell.write_eq_some hwrite with ⟨rfl, hadmits, rfl⟩ | ⟨rfl, hreport, rfl⟩
  · obtain ⟨reading, hleased, hpast⟩ := hcandidate.leasedAt
    refine ⟨.lease hcandidate.valid hcandidate.status hleased hpast (hfree hadmits), ?_⟩
    exact fun _ => ⟨_, List.mem_cons_self⟩
  · exact ⟨.same, fun hok => absurd hok hreport⟩

theorem writeCompletion_next {s store : LeaseStore} {etag : Nat} {ownerToken : String}
    {outcome : RefreshLeaseOutcome} {existing completed : RefreshLeaseDocument}
    {reading : UtcDateTime} {applied : Bool} {report : WriteReport}
    (hobserved : s.cell.Observed existing etag)
    (hcompletes : Completes existing completed ownerToken outcome reading)
    (hpast : reading ≤ s.clock)
    (h : s.writeCompletion etag completed applied report = some store) :
    s.Next store ∧ (report = .ok → OutcomeRecorded store ownerToken outcome) := by
  obtain ⟨cell, hwrite, hstore⟩ := Option.bind_eq_some_iff.mp h
  cases Option.some.inj hstore
  rcases EtagCell.write_eq_some hwrite with ⟨rfl, hadmits, rfl⟩ | ⟨rfl, hreport, rfl⟩
  · obtain ⟨item, hitem, -, rfl⟩ := hobserved.admits hadmits
    simp only [hitem]
    refine ⟨.complete hitem hcompletes hpast, fun _ => ?_⟩
    exact ⟨item.etag, item.value, completed, List.mem_cons_self, hcompletes.owner,
      hcompletes.status⟩
  · exact ⟨.same, fun hok => absurd hok hreport⟩

/-- A step of one call moves the store and leaves the call in a valid state. -/
def Advances (s s' : System) (pid : Nat) : Prop :=
  s.toLeaseStore.Next s'.toLeaseStore ∧ ∃ process, ProcessValid s'.toLeaseStore process ∧
    s'.processes = Function.update s.processes pid (some process)

theorem claimStep_advances {cacheKeySha256 ownerToken : String} {requestStartedAt : Int}
    {s s' : System} {pid : Nat} {state : ClaimState} {action : Action}
    (hstore : s.toLeaseStore.Valid)
    (hstate : ClaimValid s.toLeaseStore ownerToken requestStartedAt state)
    (h : claimStep cacheKeySha256 ownerToken requestStartedAt s pid state action = some s') :
    Advances s s' pid := by
  unfold claimStep at h
  split at h
  · cases h
    exact ⟨.same, .claim ownerToken requestStartedAt _,
      claimValid_sampled cacheKeySha256 s.toLeaseStore ownerToken requestStartedAt _, rfl⟩
  · obtain ⟨store, hwrite, hs'⟩ := Option.bind_eq_some_iff.mp h
    cases Option.some.inj hs'
    have hfree : s.cell.admits .absent = true → ∀ item, s.cell.item = some item →
        item.value.status = .inProgress → item.value.ExpiredBy s.clock.nanos := by
      intro hadmits item hitem
      rw [EtagCell.admits_absent.mp hadmits] at hitem
      cases hitem
    obtain ⟨hnext, hleased⟩ := writeLease_next hstate.1 hfree hwrite
    refine ⟨hnext, .claim ownerToken requestStartedAt _, ?_, rfl⟩
    rename_i report
    cases report with
    | ok =>
        obtain ⟨etag, hetag⟩ := hleased rfl
        exact ⟨etag, _, hetag, hstate.1.owner⟩
    | rejected => exact ⟨hstate.1.later hnext.later, hstate.2.trans hnext.later.clock⟩
    | failed => trivial
  · cases h
    exact ⟨.same, .claim ownerToken requestStartedAt _,
      claimValid_read hstore requestStartedAt _ hstate.1 hstate.2, rfl⟩
  · cases h
    exact ⟨.same, .claim ownerToken requestStartedAt (.done (.error _)), trivial, rfl⟩
  · obtain ⟨store, hwrite, hs'⟩ := Option.bind_eq_some_iff.mp h
    cases Option.some.inj hs'
    obtain ⟨hcandidate, existing, hobserved, hexpired⟩ := hstate
    rename_i left candidate etag _ applied report
    have hfree : s.cell.admits (.ifMatch etag) = true → ∀ item, s.cell.item = some item →
        item.value.status = .inProgress → item.value.ExpiredBy s.clock.nanos := by
      intro hadmits item hitem hstatus
      obtain ⟨current, hcurrent, -, rfl⟩ := hobserved.admits hadmits
      obtain rfl : item = current := Option.some.inj (hitem.symm.trans hcurrent)
      exact hexpired hstatus
    obtain ⟨hnext, hleased⟩ := writeLease_next hcandidate hfree hwrite
    refine ⟨hnext, .claim ownerToken requestStartedAt _, ?_, rfl⟩
    cases report with
    | ok =>
        obtain ⟨etag, hetag⟩ := hleased rfl
        exact ⟨etag, _, hetag, hcandidate.owner⟩
    | rejected => exact claimValid_attempt store ownerToken requestStartedAt left
    | failed => trivial
  · cases h

theorem publishStep_advances {ownerToken : String} {outcome : RefreshLeaseOutcome}
    {s s' : System} {pid : Nat} {state : PublishState} {action : Action}
    (hstore : s.toLeaseStore.Valid)
    (hstate : PublishValid s.toLeaseStore ownerToken outcome state)
    (h : publishStep ownerToken outcome s pid state action = some s') :
    Advances s s' pid := by
  unfold publishStep at h
  split at h
  · cases h
    exact ⟨.same, .publish ownerToken outcome _,
      publishValid_read hstore ownerToken outcome _, rfl⟩
  · cases h
    exact ⟨.same, .publish ownerToken outcome (.done (.error _)), trivial, rfl⟩
  · cases h
    exact ⟨.same, .publish ownerToken outcome _,
      publishValid_completed ownerToken outcome _ hstate, rfl⟩
  · obtain ⟨store, hwrite, hs'⟩ := Option.bind_eq_some_iff.mp h
    cases Option.some.inj hs'
    obtain ⟨existing, reading, hobserved, hcompletes, hpast⟩ := hstate
    obtain ⟨hnext, hrecorded⟩ := writeCompletion_next hobserved hcompletes hpast hwrite
    refine ⟨hnext, .publish ownerToken outcome _, ?_, rfl⟩
    rename_i left _ _ _ _ report
    cases report with
    | ok => exact hrecorded rfl
    | rejected => exact publishValid_attempt store ownerToken outcome left
    | failed => trivial
  · cases h

structure System.Valid (s : System) : Prop where
  store : s.toLeaseStore.Valid
  process : ∀ pid process, s.processes pid = some process →
    ProcessValid s.toLeaseStore process

theorem System.Valid.initial (clock : UtcDateTime) : (initial clock).Valid where
  store :=
    { tags := fun _ h => (nomatch h)
      item := fun _ h => (nomatch h)
      sound := fun _ h => (nomatch h)
      live := fun _ _ h => (nomatch h.leased)
      settled := fun _ _ _ h => (nomatch h) }
  process := fun _ _ h => (nomatch h)

theorem System.Valid.advances {s s' : System} {pid : Nat} (h : s.Valid)
    (hadvances : Advances s s' pid) : s'.Valid := by
  obtain ⟨hnext, process, hprocess, hupdate⟩ := hadvances
  refine ⟨h.store.next hnext, ?_⟩
  intro other found hfound
  rw [hupdate] at hfound
  by_cases hpid : other = pid
  · subst hpid
    rw [Function.update_self] at hfound
    cases hfound
    exact hprocess
  · rw [Function.update_of_ne hpid] at hfound
    exact (h.process other found hfound).later hnext.later

theorem processStep_advances {cacheKeySha256 : String} {s s' : System} {pid : Nat}
    {action : Action} (h : s.Valid)
    (hstep : processStep cacheKeySha256 s pid action = some s') : Advances s s' pid := by
  unfold processStep at hstep
  split at hstep
  · rename_i ownerToken requestStartedAt state hprocess
    exact claimStep_advances h.store (h.process pid _ hprocess) hstep
  · rename_i ownerToken outcome state hprocess
    exact publishStep_advances h.store (h.process pid _ hprocess) hstep
  · cases hstep

theorem System.Valid.step {cacheKeySha256 : String} {s s' : System} {action : Action}
    (h : s.Valid) (hstep : step cacheKeySha256 s action = some s') : s'.Valid := by
  cases action with
  | tick now =>
      simp only [RefreshLease.step] at hstep
      split at hstep
      · rename_i later
        cases hstep
        have hnext : s.toLeaseStore.Next { s.toLeaseStore with clock := now } := .tick later
        exact ⟨h.store.next hnext,
          fun pid process hprocess => (h.process pid process hprocess).later hnext.later⟩
      · cases hstep
  | expire =>
      obtain ⟨cell, hdropped, rfl⟩ := Option.map_eq_some_iff.mp hstep
      have hnext : s.toLeaseStore.Next { s.toLeaseStore with cell } := .expire hdropped
      exact ⟨h.store.next hnext,
        fun pid process hprocess => (h.process pid process hprocess).later hnext.later⟩
  | beginClaim pid ownerToken requestStartedAt =>
      simp only [RefreshLease.step] at hstep
      split at hstep
      · cases hstep
        have hprocess : ProcessValid s.toLeaseStore
            (RefreshLease.beginClaim ownerToken requestStartedAt) := by
          unfold RefreshLease.beginClaim
          split
          · rename_i started _
            exact claimValid_attempt s.toLeaseStore ownerToken started.nanos
              conditionalWriteAttempts
          · trivial
        have hadvances : Advances s (s.setProcess pid _) pid := ⟨.same, _, hprocess, rfl⟩
        exact h.advances hadvances
      · cases hstep
  | beginPublish pid ownerToken outcome =>
      simp only [RefreshLease.step] at hstep
      split at hstep
      · cases hstep
        have hprocess : ProcessValid s.toLeaseStore
            (RefreshLease.beginPublish ownerToken outcome) :=
          publishValid_attempt s.toLeaseStore ownerToken outcome conditionalWriteAttempts
        have hadvances : Advances s (s.setProcess pid _) pid := ⟨.same, _, hprocess, rfl⟩
        exact h.advances hadvances
      · cases hstep
  | sample pid => exact h.advances (processStep_advances h hstep)
  | read pid failure => exact h.advances (processStep_advances h hstep)
  | write pid applied report => exact h.advances (processStep_advances h hstep)

theorem Reachable.valid {cacheKeySha256 : String} {start : UtcDateTime} {s : System}
    (h : Reachable (step cacheKeySha256) (initial start) s) : s.Valid :=
  h.invariant (.initial start) fun _ _ _ hs hstep => hs.step hstep

/-! ### Mutual exclusion and agreement -/

theorem LeaseStore.Valid.live_unique {s : LeaseStore} (h : s.Valid) {etag etag' : Nat}
    {document document' : RefreshLeaseDocument} (hlive : s.Live etag document)
    (hlive' : s.Live etag' document') : etag = etag' ∧ document = document' := by
  obtain ⟨item, hitem, rfl, rfl⟩ := h.live etag document hlive
  obtain ⟨item', hitem', rfl, rfl⟩ := h.live etag' document' hlive'
  obtain rfl : item = item' := Option.some.inj (hitem.symm.trans hitem')
  exact ⟨rfl, rfl⟩

theorem LeaseStore.Valid.live_of_stored {s : LeaseStore} (h : s.Valid)
    {item : EtagItem RefreshLeaseDocument} (hitem : s.cell.item = some item)
    (hstatus : item.value.status = .inProgress)
    (hactive : item.value.ActiveAt s.clock.nanos) : s.Live item.etag item.value := by
  refine ⟨(h.item item hitem).inProgress hstatus, ?_, hactive⟩
  intro previous completed hcompleted
  exact Nat.lt_irrefl _ (h.settled _ _ _ hcompleted item hitem)

/-- A publish does not touch a terminal document, however late it comes. -/
theorem publish_keeps_terminal {cacheKeySha256 : String} {s s' : System} (h : s.Valid)
    {pid : Nat} {ownerToken : String} {outcome : RefreshLeaseOutcome} {state : PublishState}
    (hprocess : s.processes pid = some (.publish ownerToken outcome state))
    {item : EtagItem RefreshLeaseDocument} (hitem : s.cell.item = some item)
    (hterminal : item.value.status ≠ .inProgress) {applied : Bool} {report : WriteReport}
    (hstep : step cacheKeySha256 s (.write pid applied report) = some s') :
    s'.cell = s.cell := by
  have hvalid := h.process pid _ hprocess
  simp only [step, processStep, hprocess] at hstep
  cases state with
  | replace left completed etag =>
      obtain ⟨existing, reading, hobserved, hcompletes, -⟩ := hvalid
      obtain ⟨store, hwrite, hs'⟩ := Option.bind_eq_some_iff.mp hstep
      cases Option.some.inj hs'
      obtain ⟨cell, hcell, hstore⟩ := Option.bind_eq_some_iff.mp hwrite
      cases Option.some.inj hstore
      rcases EtagCell.write_eq_some hcell with ⟨-, hadmits, -⟩ | ⟨-, -, rfl⟩
      · obtain ⟨current, hcurrent, -, rfl⟩ := hobserved.admits hadmits
        obtain rfl : item = current := Option.some.inj (hitem.symm.trans hcurrent)
        exact absurd hcompletes.previousStatus hterminal
      · rfl
  | _ => cases hstep

/-- A successful publish, of this call or an identical earlier one, wrote its
outcome over the owner's own lease at a clock reading before its expiry. -/
structure PublishedInTime (s : LeaseStore) (ownerToken : String)
    (outcome : RefreshLeaseOutcome) (etag : Nat)
    (previous document : RefreshLeaseDocument) (reading : UtcDateTime) : Prop where
  recorded : .completed etag previous document ∈ s.history
  leased : .leased etag previous ∈ s.history
  completes : ∃ outcome', Completes previous document ownerToken outcome' reading
  status : statusMatches document.status outcome = true
  past : reading ≤ s.clock

theorem OutcomeRecorded.inTime {s : LeaseStore} (h : s.Valid) {ownerToken : String}
    {outcome : RefreshLeaseOutcome} (hrecorded : OutcomeRecorded s ownerToken outcome) :
    ∃ etag previous document reading,
      PublishedInTime s ownerToken outcome etag previous document reading := by
  obtain ⟨etag, previous, document, hcompleted, rfl, hstatus⟩ := hrecorded
  obtain ⟨-, hleased, owner, outcome', reading, hcompletes, hpast⟩ := h.sound _ hcompleted
  have howner := hcompletes.owner
  subst howner
  exact ⟨etag, previous, document, reading, hcompleted, hleased, ⟨outcome', hcompletes⟩,
    hstatus, hpast⟩

/-- The refresh lease in every reachable state: one live lease at most, which
is the stored document; publishes that succeed only on the owner's own lease in
time or as a repeat of that; terminal documents safe from publishes; terminal
answers only from completions not before the request. -/
theorem refresh_lease_safety {cacheKeySha256 : String} {start : UtcDateTime} {s : System}
    (h : Reachable (step cacheKeySha256) (initial start) s) :
    (∀ etag document etag' document', s.Live etag document → s.Live etag' document' →
      etag = etag' ∧ document = document') ∧
    (∀ item, s.cell.item = some item → item.value.status = .inProgress →
      item.value.ActiveAt s.clock.nanos → s.Live item.etag item.value) ∧
    (∀ pid ownerToken requestStartedAt, s.processes pid =
        some (.claim ownerToken requestStartedAt (.done (.ok .acquired))) →
      ∃ etag document, .leased etag document ∈ s.history ∧
        document.ownerToken = ownerToken) ∧
    (∀ pid ownerToken outcome, s.processes pid =
        some (.publish ownerToken outcome (.done (.ok ()))) →
      ∃ etag previous document reading,
        PublishedInTime s.toLeaseStore ownerToken outcome etag previous document reading) ∧
    (∀ pid ownerToken outcome state item applied report s',
      s.processes pid = some (.publish ownerToken outcome state) →
      s.cell.item = some item → item.value.status ≠ .inProgress →
      step cacheKeySha256 s (.write pid applied report) = some s' → s'.cell = s.cell) ∧
    (∀ pid ownerToken requestStartedAt decision, s.processes pid =
        some (.claim ownerToken requestStartedAt (.done (.ok decision))) →
      decision ≠ .acquired → decision ≠ .pending →
      ∃ etag previous document, .completed etag previous document ∈ s.history ∧
        decision = decisionOf document.status ∧
        document.CompletedSince requestStartedAt) := by
  have hvalid := Reachable.valid h
  refine ⟨?_, ?_, ?_, ?_, ?_, ?_⟩
  · intro etag document etag' document'
    exact hvalid.store.live_unique
  · intro item
    exact hvalid.store.live_of_stored
  · intro pid ownerToken requestStartedAt hprocess
    exact hvalid.process pid _ hprocess
  · intro pid ownerToken outcome hprocess
    exact OutcomeRecorded.inTime hvalid.store (hvalid.process pid _ hprocess)
  · intro pid ownerToken outcome state item applied report s' hprocess hitem hterminal
    exact publish_keeps_terminal hvalid hprocess hitem hterminal
  · intro pid ownerToken requestStartedAt decision hprocess hacquired hpending
    have hdecision := hvalid.process pid _ hprocess
    cases decision with
    | acquired => exact absurd rfl hacquired
    | pending => exact absurd rfl hpending
    | _ => exact hdecision

namespace LeaseWitness

/-- 2026-08-10T12:00:00Z. -/
def noon : UtcDateTime := ⟨63953582400000000000, by decide⟩

/-- 2026-08-10T12:05:00Z, after the lease has run out. -/
def fivePast : UtcDateTime := ⟨63953582700000000000, by decide⟩

def cacheKey : String := "aaaaaaaaaaaaaaaaaaaaaaaaaaaaaaaaaaaaaaaaaaaaaaaaaaaaaaaaaaaaaaaa"

def owner : String := "11111111-1111-4111-8111-111111111111"

/-- The owner claims and publishes; later it repeats the publish. -/
def repeatedPublish : List Action := [
  .beginClaim 0 owner "2026-08-10T12:00:00Z", .sample 0, .write 0 true .ok,
  .beginPublish 1 owner (.failed .schemaChanged), .read 1 none, .sample 1,
  .write 1 true .ok, .tick fivePast, .beginPublish 2 owner (.failed .schemaChanged)]

/-- The lease a publish would need: in progress, unexpired, and the owner's. -/
def holdsLease (s : System) (ownerToken : String) : Bool :=
  s.cell.item.any fun item => item.value.ownerToken == ownerToken &&
    item.value.status == .inProgress &&
    match parseTimestamp item.value.expiresAt with
    | .ok expires => s.clock.nanos < expires.nanos
    | .error _ => false

theorem run_repeatedPublish :
    (runActions (step cacheKey) (initial noon) repeatedPublish).any (fun s =>
      !holdsLease s owner && s.processes 2 ==
        some (.publish owner (.failed .schemaChanged) (.read 4))) = true := by
  decide +kernel

theorem run_repeatedPublish_answered :
    (runActions (step cacheKey) (initial noon) (repeatedPublish ++ [.read 2 none])).any
      (fun s => s.processes 2 ==
        some (.publish owner (.failed .schemaChanged) (.done (.ok ())))) = true := by
  decide +kernel

end LeaseWitness

open LeaseWitness in
/-- A publish does not only succeed while the caller holds the lease: repeated
after its outcome was stored and the lease ran out, it succeeds again. -/
theorem repeated_publish_succeeds_without_lease :
    ¬ ∀ s s' pid ownerToken outcome left action,
      Reachable (step cacheKey) (initial noon) s →
      s.processes pid = some (.publish ownerToken outcome (.read left)) →
      step cacheKey s action = some s' →
      s'.processes pid = some (.publish ownerToken outcome (.done (.ok ()))) →
      holdsLease s ownerToken = true := by
  intro hclaim
  obtain ⟨s', hrun, hanswered⟩ := (Option.any_eq_true _ _).mp run_repeatedPublish_answered
  obtain ⟨s, hbefore, hread⟩ := (Option.any_eq_true _ _).mp run_repeatedPublish
  rw [runActions_append, hbefore, Option.bind_some, runActions_singleton] at hrun
  rw [Bool.and_eq_true, Bool.not_eq_true', beq_iff_eq] at hread
  have hholds := hclaim s s' 2 owner (.failed .schemaChanged) 4 (.read 2 none)
    (reachable_of_runActions .init hbefore) hread.2 hrun (beq_iff_eq.mp hanswered)
  rw [hread.1] at hholds
  cases hholds

open LeaseWitness in
/-- The repeated publish of the run above has its record in time. -/
theorem refresh_lease_safety_repeated_publish :
    ∃ s etag previous document reading,
      PublishedInTime s owner (.failed .schemaChanged) etag previous document reading := by
  obtain ⟨s, hrun, hanswered⟩ := (Option.any_eq_true _ _).mp run_repeatedPublish_answered
  have hreachable : Reachable (step cacheKey) (initial noon) s :=
    reachable_of_runActions .init hrun
  exact ⟨s.toLeaseStore, (refresh_lease_safety hreachable).2.2.2.1 2 owner
    (.failed .schemaChanged) (beq_iff_eq.mp hanswered)⟩

end TcoCalculator.RefreshLease
