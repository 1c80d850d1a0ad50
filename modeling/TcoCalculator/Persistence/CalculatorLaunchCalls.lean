/-
Single calls on the calculator-launch repository: everything a call can answer
and do to a launch map whose documents are valid.
-/
import TcoCalculator.Persistence.CalculatorLaunch

namespace TcoCalculator.CalculatorLaunch

open Rfc3339

variable {D : Type} [DecimalArith D] {sha256 : String → String}

/-! ### Moves of a document -/

/-- A claim writes these fields and leaves the payload alone. -/
def claimedDocument (document : CalculatorLaunchDocument D) (companionInstanceId : Uuid)
    (companionVersion updatedAt expiresAt : String) (ttl : Int) (etag : String) :
    CalculatorLaunchDocument D :=
  { document with
    status := .claimed
    companionInstanceId := some companionInstanceId
    companionVersion := some companionVersion
    updatedAt := updatedAt
    claimExpiresAt := expiresAt
    ttl := ttl
    etag := etag }

/-- An acknowledgement drops the payload and keeps the claimant. -/
def consumedDocument (document : CalculatorLaunchDocument D)
    (updatedAt expiresAt : String) (ttl : Int) (etag : String) :
    CalculatorLaunchDocument D :=
  { document with
    status := .consumed
    sourceProjectId := none
    sourceProjectEtag := none
    sourceFormulaVersion := none
    sourceAzureSnapshotId := none
    manifestSha256 := none
    manifest := none
    updatedAt := updatedAt
    claimExpiresAt := expiresAt
    ttl := ttl
    etag := etag }

/-- The only two ways a stored document changes. -/
inductive Advance : CalculatorLaunchDocument D → CalculatorLaunchDocument D → Prop
  | claim {document : CalculatorLaunchDocument D} (ready : document.status = .ready)
      (companionInstanceId : Uuid) (companionVersion updatedAt expiresAt : String)
      (ttl : Int) (etag : String) :
      Advance document (claimedDocument document companionInstanceId companionVersion
        updatedAt expiresAt ttl etag)
  | consume {document : CalculatorLaunchDocument D} (claimed : document.status = .claimed)
      (updatedAt expiresAt : String) (ttl : Int) (etag : String) :
      Advance document (consumedDocument document updatedAt expiresAt ttl etag)

theorem launchEtag_isEmpty (version : Nat) : (launchEtag version).isEmpty = false := by
  unfold launchEtag
  generalize toString version = digits
  simp

theorem exists_formatTimestamp {now : UtcDateTime} (hnow : 0 ≤ now.nanos) :
    ∃ text, formatTimestamp now = .ok text ∧ parse text = some ⟨now.nanos, 0⟩ := by
  obtain ⟨text, htext⟩ := exists_format hnow
  exact ⟨text, by rw [formatTimestamp, htext], parse_format htext⟩

theorem nonneg_of_formatTimestamp {now : UtcDateTime} {text : String}
    (h : formatTimestamp now = .ok text) : 0 ≤ now.nanos := by
  unfold formatTimestamp at h
  split at h
  · rename_i htext
    exact (format_isSome_iff now).mp (by rw [htext]; rfl)
  · cases h

theorem nanos_le_of_addSeconds? {now expiry : UtcDateTime} {seconds : Nat}
    (h : now.addSeconds? seconds = some expiry) : now.nanos ≤ expiry.nanos := by
  have heq := UtcDateTime.addSeconds?_eq_some.mp h
  have hstep : 0 ≤ (seconds : Int) * nanosPerSecond :=
    Int.mul_nonneg (Int.natCast_nonneg _) (Int.natCast_nonneg _)
  omega

theorem DocumentValid.claimedDocument {document : CalculatorLaunchDocument D}
    {ownerId : String} {id : Uuid} (h : DocumentValid sha256 document ownerId id)
    (ready : document.status = .ready) (companionInstanceId : Uuid)
    {companionVersion updatedAt expiresAt etag : String} {ttl : Int}
    (hupdated : (parse updatedAt).isSome) (hexpires : (parse expiresAt).isSome)
    (httl : 0 < ttl) (hetag : etag.isEmpty = false) :
    DocumentValid sha256 (claimedDocument document companionInstanceId companionVersion
      updatedAt expiresAt ttl etag) ownerId id := by
  have hpayload := h.payload
  simp only [statusPayloadMatches, ready, Bool.and_eq_true] at hpayload
  exact { h with
    ttl := httl
    etag := hetag
    payload := by
      simp only [statusPayloadMatches, CalculatorLaunch.claimedDocument, Bool.and_eq_true]
      exact ⟨⟨hpayload.1.1, rfl⟩, rfl⟩
    claimExpiresAt := hexpires
    updatedAt := hupdated }

theorem DocumentValid.consumedDocument {document : CalculatorLaunchDocument D}
    {ownerId : String} {id : Uuid} (h : DocumentValid sha256 document ownerId id)
    (claimed : document.status = .claimed) {updatedAt expiresAt etag : String} {ttl : Int}
    (hupdated : (parse updatedAt).isSome) (hexpires : (parse expiresAt).isSome)
    (httl : 0 < ttl) (hetag : etag.isEmpty = false) :
    DocumentValid sha256 (consumedDocument document updatedAt expiresAt ttl etag)
      ownerId id := by
  have hpayload := h.payload
  simp only [statusPayloadMatches, claimed, Bool.and_eq_true] at hpayload
  exact { h with
    ttl := httl
    etag := hetag
    payload := by
      simp only [statusPayloadMatches, CalculatorLaunch.consumedDocument, Bool.and_eq_true]
      exact ⟨⟨rfl, hpayload.1.2⟩, hpayload.2⟩
    manifest := nofun
    claimExpiresAt := hexpires
    updatedAt := hupdated }

/-! ### Claim and acknowledge on one stored launch -/

/-- Everything a claim can do to a valid stored launch: nothing, or the move
from ready to claimed, whose panic leaves a valid claimed document behind. -/
theorem claimStored_cases {stored : StoredLaunch D} {ownerId : String} {launchId : Uuid}
    {now : UtcDateTime} (hvalid : DocumentValid sha256 stored.document ownerId launchId)
    (hnow : 0 ≤ now.nanos) (companionInstanceId : Uuid) (companionVersion : String) :
    (∃ e, claimStored sha256 now ownerId launchId companionInstanceId companionVersion
        stored = (.err e, stored)) ∨
    (stored.document.status = .claimed ∧
      stored.document.companionInstanceId = some companionInstanceId ∧
      claimStored sha256 now ownerId launchId companionInstanceId companionVersion
        stored = (.ok stored.document, stored)) ∨
    (stored.document.status = .ready ∧ ∃ (updatedAt expiresAt : String) (ttl : Int)
      (etag : String) (version : Nat) (outcome : Outcome CalculatorLaunchError _),
      let document := claimedDocument stored.document companionInstanceId companionVersion
        updatedAt expiresAt ttl etag
      DocumentValid sha256 document ownerId launchId ∧
      (outcome = .ok document ∨ outcome = .panic) ∧
      claimStored sha256 now ownerId launchId companionInstanceId companionVersion
        stored = (outcome, ⟨document, version⟩)) := by
  have hcheck := validateDocument_eq_ok_iff.mpr hvalid
  unfold claimStored
  simp only [Locked.read_bind, hcheck, Locked.check_ok_bind]
  cases hexpired : ensureNotExpired stored.document now with
  | error e => exact .inl ⟨e, rfl⟩
  | ok _ =>
      simp only [Locked.check_ok_bind]
      cases hstatus : stored.document.status with
      | consumed => exact .inl ⟨.conflict, rfl⟩
      | claimed =>
          by_cases hcompanion : stored.document.companionInstanceId = some companionInstanceId
          · exact .inr (.inl ⟨rfl, hcompanion, by simp [hcompanion]⟩)
          · exact .inl ⟨.conflict, by simp [hcompanion]⟩
      | ready =>
          cases hversion : nextVersion stored.version with
          | error e => exact .inl ⟨e, rfl⟩
          | ok version =>
              obtain ⟨updatedAt, hupdated, hparse⟩ := exists_formatTimestamp hnow
              have hisSome : (parse updatedAt).isSome := by rw [hparse]; rfl
              refine .inr (.inr ⟨rfl, updatedAt, ?_⟩)
              simp only [Locked.check_ok_bind, Locked.write_bind, hupdated]
              cases hexpiry : now.addSeconds? activeTtlSeconds with
              | none =>
                  exact ⟨_, _, _, version, .panic,
                    hvalid.claimedDocument hstatus _ hisSome hvalid.claimExpiresAt
                      hvalid.ttl hvalid.etag, .inr rfl, rfl⟩
              | some expiry =>
                  have hlater : 0 ≤ expiry.nanos := by
                    have := nanos_le_of_addSeconds? hexpiry
                    omega
                  obtain ⟨expiresAt, hexpires, hexparse⟩ := exists_formatTimestamp hlater
                  have hafter : DocumentValid sha256 (claimedDocument stored.document
                      companionInstanceId companionVersion updatedAt expiresAt
                      activeTtlSeconds (launchEtag version)) ownerId launchId :=
                    hvalid.claimedDocument hstatus companionInstanceId hisSome
                      (by rw [hexparse]; rfl) (by decide) (launchEtag_isEmpty version)
                  refine ⟨expiresAt, _, _, version, .ok _, hafter, .inl rfl, ?_⟩
                  have hrecheck := validateDocument_eq_ok_iff.mpr hafter
                  simp only [Locked.expect_some_bind, hexpires, Locked.check_ok_bind,
                    Locked.write_bind, Locked.read_bind]
                  change (Locked.check (validateDocument sha256
                    (claimedDocument stored.document companionInstanceId companionVersion
                      updatedAt expiresAt activeTtlSeconds (launchEtag version))
                    ownerId (some launchId)) >>= fun _ => pure _) _ = _
                  rw [hrecheck]
                  rfl

/-- Everything an acknowledgement can do to a valid stored launch: nothing, or
the claimant's move from claimed to consumed. -/
theorem acknowledgeStored_cases {stored : StoredLaunch D} {ownerId : String}
    {launchId : Uuid} {now : UtcDateTime}
    (hvalid : DocumentValid sha256 stored.document ownerId launchId)
    (hnow : 0 ≤ now.nanos) (companionInstanceId : Uuid) (ifMatch : String) :
    (∃ e, acknowledgeStored sha256 now ownerId launchId companionInstanceId ifMatch
        stored = (.err e, stored)) ∨
    (stored.document.status = .consumed ∧
      acknowledgeStored sha256 now ownerId launchId companionInstanceId ifMatch
        stored = (.ok (), stored)) ∨
    (stored.document.status = .claimed ∧
      stored.document.companionInstanceId = some companionInstanceId ∧
      ∃ (updatedAt expiresAt : String) (ttl : Int) (etag : String) (version : Nat)
        (outcome : Outcome CalculatorLaunchError Unit),
      let document := consumedDocument stored.document updatedAt expiresAt ttl etag
      DocumentValid sha256 document ownerId launchId ∧
      (outcome = .ok () ∨ outcome = .panic) ∧
      acknowledgeStored sha256 now ownerId launchId companionInstanceId ifMatch
        stored = (outcome, ⟨document, version⟩)) := by
  have hcheck := validateDocument_eq_ok_iff.mpr hvalid
  unfold acknowledgeStored
  simp only [Locked.read_bind, hcheck, Locked.check_ok_bind]
  by_cases hreplay : stored.document.status = .consumed ∧
      stored.document.companionInstanceId = some companionInstanceId
  · exact .inr (.inl ⟨hreplay.1, by rw [if_pos hreplay]; rfl⟩)
  · rw [if_neg hreplay]
    cases hexpired : ensureNotExpired stored.document now with
    | error e => exact .inl ⟨e, rfl⟩
    | ok _ =>
        simp only [Locked.check_ok_bind]
        by_cases hmismatch : stored.document.status ≠ .claimed ∨
            stored.document.companionInstanceId ≠ some companionInstanceId
        · exact .inl ⟨.conflict, by rw [if_pos hmismatch]; rfl⟩
        · rw [if_neg hmismatch]
          obtain ⟨hstatus, hcompanion⟩ := not_or.mp hmismatch
          rw [not_not] at hstatus hcompanion
          by_cases hetag : stored.document.etag ≠ ifMatch
          · exact .inl ⟨.preconditionFailed, by rw [if_pos hetag]; rfl⟩
          · rw [if_neg hetag]
            cases hversion : nextVersion stored.version with
            | error e => exact .inl ⟨e, rfl⟩
            | ok version =>
                obtain ⟨updatedAt, hupdated, hparse⟩ := exists_formatTimestamp hnow
                have hisSome : (parse updatedAt).isSome := by rw [hparse]; rfl
                refine .inr (.inr ⟨hstatus, hcompanion, updatedAt, ?_⟩)
                simp only [Locked.check_ok_bind, Locked.write_bind, hupdated]
                cases hexpiry : now.addSeconds? consumedTtlSeconds with
                | none =>
                    exact ⟨_, _, _, version, .panic,
                      hvalid.consumedDocument hstatus hisSome hvalid.claimExpiresAt
                        hvalid.ttl hvalid.etag, .inr rfl, rfl⟩
                | some expiry =>
                    have hlater : 0 ≤ expiry.nanos := by
                      have := nanos_le_of_addSeconds? hexpiry
                      omega
                    obtain ⟨expiresAt, hexpires, hexparse⟩ := exists_formatTimestamp hlater
                    have hafter : DocumentValid sha256 (consumedDocument stored.document
                        updatedAt expiresAt consumedTtlSeconds (launchEtag version))
                        ownerId launchId :=
                      hvalid.consumedDocument hstatus hisSome (by rw [hexparse]; rfl)
                        (by decide) (launchEtag_isEmpty version)
                    refine ⟨expiresAt, _, _, version, .ok _, hafter, .inl rfl, ?_⟩
                    have hrecheck := validateDocument_eq_ok_iff.mpr hafter
                    simp only [Locked.expect_some_bind, hexpires, Locked.check_ok_bind,
                      Locked.write_bind, Locked.read_bind]
                    change Locked.check (validateDocument sha256
                      (consumedDocument stored.document updatedAt expiresAt
                        consumedTtlSeconds (launchEtag version))
                      ownerId (some launchId)) _ = _
                    rw [hrecheck]
                    rfl

/-! ### Create on the map -/

/-- No field that names the source or the manifest is left. -/
def PayloadAbsent (document : CalculatorLaunchDocument D) : Prop :=
  document.manifest = none ∧ document.manifestSha256 = none ∧
    document.sourceProjectId = none ∧ document.sourceProjectEtag = none ∧
    document.sourceFormulaVersion = none ∧ document.sourceAzureSnapshotId = none

/-- What every launch map of a run satisfies at the latest clock reading. -/
structure MapValid (sha256 : String → String) (launches : LaunchMap D)
    (clock : UtcDateTime) : Prop where
  document : ∀ key stored, launches.lookup key = some stored →
    DocumentValid sha256 stored.document key.1 key.2
  payloadAbsent : ∀ key stored, launches.lookup key = some stored →
    stored.document.status = .consumed → PayloadAbsent stored.document
  started : ∀ key stored, launches.lookup key = some stored → 0 ≤ clock.nanos

theorem MapValid.empty (sha256 : String → String) (clock : UtcDateTime) :
    MapValid sha256 (∅ : LaunchMap D) clock :=
  ⟨fun _ _ h => (nomatch h), fun _ _ h => (nomatch h), fun _ _ h => (nomatch h)⟩

theorem MapValid.later {launches : LaunchMap D} {clock now : UtcDateTime}
    (h : MapValid sha256 launches clock) (hle : clock ≤ now) :
    MapValid sha256 launches now where
  document := h.document
  payloadAbsent := h.payloadAbsent
  started key stored hfound := le_trans (h.started key stored hfound) hle

/-- Store a new launch, when there is one. -/
def withNew (launches : LaunchMap D) (key : LaunchKey) :
    Option (StoredLaunch D) → LaunchMap D
  | none => launches
  | some stored => launches.insert key stored

/-- Everything a create can do: it is decided by the launch found under the id
and by the owner's active launches, whatever the rest of the map holds. -/
theorem createLocked_cases (sha256 : String → String) (now : UtcDateTime) (ownerId : String)
    (launch : NewCalculatorLaunch D) (found : Option (StoredLaunch D))
    (active : Except CalculatorLaunchError Bool) :
    ∃ (outcome : Outcome CalculatorLaunchError (CreatedCalculatorLaunch D))
      (new : Option (StoredLaunch D)),
      (∀ launches : LaunchMap D, launches.lookup (ownerId, launch.id) = found →
        hasActiveLaunch ownerId now launches.values = active →
        createLocked sha256 now ownerId launch launches =
          (outcome, withNew launches (ownerId, launch.id) new)) ∧
      ((∃ e, outcome = .err e ∧ new = none) ∨
        (outcome = .panic ∧ new = none) ∨
        (∃ stored, found = some stored ∧ stored.document.status = .ready ∧
          outcome = .ok ⟨stored.document, false⟩ ∧ new = none) ∨
        (found = none ∧ 0 ≤ now.nanos ∧ ∃ timestamp expiresAt : String,
          let document := newLaunchDocument sha256 ownerId launch timestamp expiresAt
          DocumentValid sha256 document ownerId launch.id ∧
          outcome = .ok ⟨document, true⟩ ∧ new = some ⟨document, 1⟩)) := by
  cases found with
  | some stored =>
      by_cases hsame : sameBinding sha256 stored.document launch = true ∧
          stored.document.status = .ready
      · cases hexpired : ensureNotExpired stored.document now with
        | error e =>
            refine ⟨.err e, none, ?_, .inl ⟨e, rfl, rfl⟩⟩
            intro launches hfound _
            simp [createLocked, hfound, hsame, hexpired, withNew]
        | ok _ =>
            refine ⟨_, none, ?_, .inr (.inr (.inl ⟨stored, rfl, hsame.2, rfl, rfl⟩))⟩
            intro launches hfound _
            simp [createLocked, hfound, hsame, hexpired, withNew]
      · refine ⟨.err .conflict, none, ?_, .inl ⟨_, rfl, rfl⟩⟩
        intro launches hfound _
        simp only [createLocked, Locked.read_bind, hfound, if_neg hsame]
        rfl
  | none =>
      rcases active with e | (_ | _)
      · refine ⟨.err e, none, ?_, .inl ⟨e, rfl, rfl⟩⟩
        intro launches hfound hactive
        simp [createLocked, hfound, hactive, withNew]
      · cases htimestamp : formatTimestamp now with
        | error e =>
            refine ⟨.err e, none, ?_, .inl ⟨e, rfl, rfl⟩⟩
            intro launches hfound hactive
            simp [createLocked, hfound, hactive, htimestamp, withNew]
        | ok timestamp =>
            cases hexpiry : now.addSeconds? activeTtlSeconds with
            | none =>
                refine ⟨.panic, none, ?_, .inr (.inl ⟨rfl, rfl⟩)⟩
                intro launches hfound hactive
                simp [createLocked, hfound, hactive, htimestamp, hexpiry, withNew]
            | some expiry =>
                cases hexpires : formatTimestamp expiry with
                | error e =>
                    refine ⟨.err e, none, ?_, .inl ⟨e, rfl, rfl⟩⟩
                    intro launches hfound hactive
                    simp [createLocked, hfound, hactive, htimestamp, hexpiry, hexpires, withNew]
                | ok expiresAt =>
                    cases hvalid : validateDocument sha256
                        (newLaunchDocument sha256 ownerId launch timestamp expiresAt)
                        ownerId (some launch.id) with
                    | error e =>
                        refine ⟨.err e, none, ?_, .inl ⟨e, rfl, rfl⟩⟩
                        intro launches hfound hactive
                        simp [createLocked, hfound, hactive, htimestamp, hexpiry, hexpires,
                          hvalid, withNew]
                    | ok _ =>
                        refine ⟨_, _, ?_, .inr (.inr (.inr ⟨rfl,
                          nonneg_of_formatTimestamp htimestamp, timestamp, expiresAt,
                          validateDocument_eq_ok_iff.mp hvalid, rfl, rfl⟩))⟩
                        intro launches hfound hactive
                        simp [createLocked, hfound, hactive, htimestamp, hexpiry, hexpires,
                          hvalid, withNew]
      · refine ⟨.err .conflict, none, ?_, .inl ⟨_, rfl, rfl⟩⟩
        intro launches hfound hactive
        simp [createLocked, hfound, hactive, withNew]

/-- The owner has a ready or claimed launch that has not expired. -/
def HasActive (launches : LaunchMap D) (ownerId : String) (now : UtcDateTime) : Prop :=
  ∃ id stored, launches.lookup (ownerId, id) = some stored ∧
    (stored.document.status = .ready ∨ stored.document.status = .claimed) ∧
    isExpired stored.document now = .ok false

theorem exists_isExpired {document : CalculatorLaunchDocument D} {ownerId : String}
    {id : Uuid} (h : DocumentValid sha256 document ownerId id) (now : UtcDateTime) :
    ∃ expired, isExpired document now = .ok expired := by
  obtain ⟨expiresAt, hparse⟩ := exists_parseTimestamp_iff.mpr h.claimExpiresAt
  exact ⟨_, by rw [isExpired, hparse]; rfl⟩

theorem hasActiveLaunch_eq (ownerId : String) (now : UtcDateTime)
    (launches : List (StoredLaunch D))
    (hvalid : ∀ stored ∈ launches, ∃ owner id,
      DocumentValid sha256 stored.document owner id) :
    ∃ active, hasActiveLaunch ownerId now launches = .ok active ∧
      (active = true ↔ ∃ stored ∈ launches, stored.document.ownerId = ownerId ∧
        (stored.document.status = .ready ∨ stored.document.status = .claimed) ∧
        isExpired stored.document now = .ok false) := by
  induction launches with
  | nil => exact ⟨false, rfl, by simp⟩
  | cons stored rest ih =>
      obtain ⟨active, hrest, hiff⟩ := ih fun s hs => hvalid s (List.mem_cons_of_mem _ hs)
      by_cases hown : stored.document.ownerId = ownerId
          ∧ (stored.document.status = .ready ∨ stored.document.status = .claimed)
      · obtain ⟨owner, id, hdocument⟩ := hvalid stored List.mem_cons_self
        obtain ⟨expired, hexpired⟩ := exists_isExpired hdocument now
        cases expired with
        | false =>
            refine ⟨true, by simp [hasActiveLaunch, hown, hexpired], ?_⟩
            simp [hown, hexpired]
        | true =>
            refine ⟨active, by simp [hasActiveLaunch, hown, hexpired, hrest], ?_⟩
            simp [hiff, hexpired]
      · refine ⟨active, by simp only [hasActiveLaunch, if_neg hown, hrest], ?_⟩
        rw [hiff]
        simp only [List.mem_cons, exists_eq_or_imp]
        refine ⟨.inr, ?_⟩
        rintro (⟨howner, hstatus, -⟩ | h)
        · exact absurd ⟨howner, hstatus⟩ hown
        · exact h

/-- On a valid map the scan over all launches sees the owner's own ones only. -/
theorem MapValid.hasActiveLaunch_eq {launches : LaunchMap D} {clock : UtcDateTime}
    (h : MapValid sha256 launches clock) (ownerId : String) (now : UtcDateTime) :
    ∃ active, hasActiveLaunch ownerId now launches.values = .ok active ∧
      (active = true ↔ HasActive launches ownerId now) := by
  have hdocuments : ∀ stored ∈ launches.values, ∃ owner id,
      DocumentValid sha256 stored.document owner id := by
    intro stored hmem
    obtain ⟨key, hfound⟩ := HashMap.mem_values.mp hmem
    exact ⟨key.1, key.2, h.document key stored hfound⟩
  obtain ⟨active, heq, hiff⟩ :=
    CalculatorLaunch.hasActiveLaunch_eq ownerId now launches.values hdocuments
  refine ⟨active, heq, hiff.trans ?_⟩
  constructor
  · rintro ⟨stored, hmem, howner, hrest⟩
    obtain ⟨⟨owner, id⟩, hfound⟩ := HashMap.mem_values.mp hmem
    have hkey := (h.document _ stored hfound).ownerId
    obtain rfl : owner = ownerId := hkey.symm.trans howner
    exact ⟨id, stored, hfound, hrest⟩
  · rintro ⟨id, stored, hfound, hrest⟩
    exact ⟨stored, HashMap.mem_values.mpr ⟨_, hfound⟩, (h.document _ stored hfound).ownerId,
      hrest⟩

/-! ### One call -/

inductive Call (D : Type) where
  | create (launch : NewCalculatorLaunch D)
  | claim (launchId companionInstanceId : Uuid) (companionVersion : String)
  | acknowledge (launchId companionInstanceId : Uuid) (ifMatch : String)
  | purgeProject (projectId : Uuid)

/-- A call of one owner at a clock reading. -/
structure Event (D : Type) where
  now : UtcDateTime
  ownerId : String
  call : Call D

inductive Answer (D : Type) where
  | created (launch : CreatedCalculatorLaunch D)
  | claimed (document : CalculatorLaunchDocument D)
  | done

def perform (sha256 : String → String) (event : Event D) (repository : Repository D) :
    Outcome CalculatorLaunchError (Answer D) × Repository D :=
  match event.call with
  | .create launch =>
      let result := create sha256 event.now event.ownerId launch repository
      (result.1.map .created, result.2)
  | .claim launchId companionInstanceId companionVersion =>
      let result := claim sha256 event.now event.ownerId launchId companionInstanceId
        companionVersion repository
      (result.1.map .claimed, result.2)
  | .acknowledge launchId companionInstanceId ifMatch =>
      let result := acknowledge sha256 event.now event.ownerId launchId
        companionInstanceId ifMatch repository
      (result.1.map fun _ => .done, result.2)
  | .purgeProject projectId =>
      let result := purgeProject event.ownerId projectId repository
      (result.1.map fun _ => .done, result.2)

/-- Everything a call can answer and do to a valid map. -/
inductive Effect (sha256 : String → String) (event : Event D) (launches : LaunchMap D) :
    Outcome CalculatorLaunchError (Answer D) → LaunchMap D → Prop
  | refused (e : CalculatorLaunchError) : Effect sha256 event launches (.err e) launches
  | aborted : Effect sha256 event launches .panic launches
  | existing {launch : NewCalculatorLaunch D} {stored : StoredLaunch D}
      (call : event.call = .create launch)
      (found : launches.lookup (event.ownerId, launch.id) = some stored)
      (ready : stored.document.status = .ready) :
      Effect sha256 event launches
        (.ok (.created ⟨stored.document, false⟩)) launches
  | inserted {launch : NewCalculatorLaunch D} {timestamp expiresAt : String}
      (call : event.call = .create launch)
      (absent : launches.lookup (event.ownerId, launch.id) = none)
      (started : 0 ≤ event.now.nanos)
      (valid : DocumentValid sha256
        (newLaunchDocument sha256 event.ownerId launch timestamp expiresAt)
        event.ownerId launch.id) :
      Effect sha256 event launches
        (.ok (.created
          ⟨newLaunchDocument sha256 event.ownerId launch timestamp expiresAt, true⟩))
        (launches.insert (event.ownerId, launch.id)
          ⟨newLaunchDocument sha256 event.ownerId launch timestamp expiresAt, 1⟩)
  | reclaimed {launchId companionInstanceId : Uuid} {companionVersion : String}
      {stored : StoredLaunch D}
      (call : event.call = .claim launchId companionInstanceId companionVersion)
      (found : launches.lookup (event.ownerId, launchId) = some stored)
      (claimed : stored.document.status = .claimed)
      (companion : stored.document.companionInstanceId = some companionInstanceId) :
      Effect sha256 event launches (.ok (.claimed stored.document)) launches
  | claimed {launchId companionInstanceId : Uuid} {companionVersion : String}
      {stored : StoredLaunch D} {updatedAt expiresAt etag : String} {ttl : Int}
      {version : Nat} {outcome : Outcome CalculatorLaunchError (Answer D)}
      (call : event.call = .claim launchId companionInstanceId companionVersion)
      (found : launches.lookup (event.ownerId, launchId) = some stored)
      (ready : stored.document.status = .ready)
      (valid : DocumentValid sha256 (claimedDocument stored.document companionInstanceId
        companionVersion updatedAt expiresAt ttl etag) event.ownerId launchId)
      (answer : outcome = .ok (.claimed (claimedDocument stored.document
        companionInstanceId companionVersion updatedAt expiresAt ttl etag)) ∨
        outcome = .panic) :
      Effect sha256 event launches outcome
        (launches.replace (event.ownerId, launchId) ⟨claimedDocument stored.document
          companionInstanceId companionVersion updatedAt expiresAt ttl etag, version⟩)
  | reacknowledged {launchId companionInstanceId : Uuid} {ifMatch : String}
      {stored : StoredLaunch D}
      (call : event.call = .acknowledge launchId companionInstanceId ifMatch)
      (found : launches.lookup (event.ownerId, launchId) = some stored)
      (consumed : stored.document.status = .consumed) :
      Effect sha256 event launches (.ok .done) launches
  | acknowledged {launchId companionInstanceId : Uuid} {ifMatch : String}
      {stored : StoredLaunch D} {updatedAt expiresAt etag : String} {ttl : Int}
      {version : Nat} {outcome : Outcome CalculatorLaunchError (Answer D)}
      (call : event.call = .acknowledge launchId companionInstanceId ifMatch)
      (found : launches.lookup (event.ownerId, launchId) = some stored)
      (claimed : stored.document.status = .claimed)
      (companion : stored.document.companionInstanceId = some companionInstanceId)
      (valid : DocumentValid sha256 (consumedDocument stored.document updatedAt expiresAt
        ttl etag) event.ownerId launchId)
      (answer : outcome = .ok .done ∨ outcome = .panic) :
      Effect sha256 event launches outcome
        (launches.replace (event.ownerId, launchId)
          ⟨consumedDocument stored.document updatedAt expiresAt ttl etag, version⟩)
  | purged {projectId : Uuid} (call : event.call = .purgeProject projectId) :
      Effect sha256 event launches (.ok .done)
        (launches.retain (survivesPurge event.ownerId projectId))

omit [DecimalArith D] in
theorem withStored_none {α : Type} {launches : LaunchMap D} {key : LaunchKey}
    (h : launches.lookup key = none) (body : StoredM D α) :
    withStored key body launches = (.err .notFound, launches) := by
  simp [withStored, h]

omit [DecimalArith D] in
theorem withStored_some {α : Type} {launches : LaunchMap D} {key : LaunchKey}
    {stored : StoredLaunch D} (h : launches.lookup key = some stored) (body : StoredM D α) :
    withStored key body launches =
      ((body stored).1, launches.replace key (body stored).2) := by
  simp [withStored, h]

theorem create_effect {event : Event D} {launches : LaunchMap D}
    {launch : NewCalculatorLaunch D} (call : event.call = .create launch) :
    Effect sha256 event launches
      ((createLocked sha256 event.now event.ownerId launch launches).1.map .created)
      (createLocked sha256 event.now event.ownerId launch launches).2 := by
  obtain ⟨outcome, new, hrun, hcases⟩ := createLocked_cases sha256 event.now event.ownerId
    launch (launches.lookup (event.ownerId, launch.id))
    (hasActiveLaunch event.ownerId event.now launches.values)
  rw [hrun launches rfl rfl]
  rcases hcases with ⟨e, rfl, rfl⟩ | ⟨rfl, rfl⟩ | ⟨stored, hfound, hready, rfl, rfl⟩ |
    ⟨habsent, hstarted, timestamp, expiresAt, hvalid, rfl, rfl⟩
  · exact .refused e
  · exact .aborted
  · exact .existing call hfound hready
  · exact .inserted call habsent hstarted hvalid

theorem claim_effect {event : Event D} {launches : LaunchMap D}
    {launchId companionInstanceId : Uuid} {companionVersion : String}
    (hmap : MapValid sha256 launches event.now)
    (call : event.call = .claim launchId companionInstanceId companionVersion) :
    let result := withStored (event.ownerId, launchId) (claimStored sha256 event.now
      event.ownerId launchId companionInstanceId companionVersion) launches
    Effect sha256 event launches (result.1.map .claimed) result.2 := by
  intro result
  cases hfound : launches.lookup (event.ownerId, launchId) with
  | none =>
      simp only [result, withStored_none hfound]
      exact .refused .notFound
  | some stored =>
      simp only [result, withStored_some hfound]
      rcases claimStored_cases (hmap.document _ stored hfound) (hmap.started _ stored hfound)
        companionInstanceId companionVersion with
        ⟨e, hrun⟩ | ⟨hclaimed, hcompanion, hrun⟩ |
        ⟨hready, updatedAt, expiresAt, ttl, etag, version, outcome, hvalid, houtcome, hrun⟩
      · rw [hrun, HashMap.replace_eq_self hfound]
        exact .refused e
      · rw [hrun, HashMap.replace_eq_self hfound]
        exact .reclaimed call hfound hclaimed hcompanion
      · rw [hrun]
        refine .claimed call hfound hready hvalid ?_
        rcases houtcome with rfl | rfl
        · exact .inl rfl
        · exact .inr rfl

theorem acknowledge_effect {event : Event D} {launches : LaunchMap D}
    {launchId companionInstanceId : Uuid} {ifMatch : String}
    (hmap : MapValid sha256 launches event.now)
    (call : event.call = .acknowledge launchId companionInstanceId ifMatch) :
    let result := withStored (event.ownerId, launchId) (acknowledgeStored sha256 event.now
      event.ownerId launchId companionInstanceId ifMatch) launches
    Effect sha256 event launches (result.1.map fun _ => .done) result.2 := by
  intro result
  cases hfound : launches.lookup (event.ownerId, launchId) with
  | none =>
      simp only [result, withStored_none hfound]
      exact .refused .notFound
  | some stored =>
      simp only [result, withStored_some hfound]
      rcases acknowledgeStored_cases (hmap.document _ stored hfound)
        (hmap.started _ stored hfound) companionInstanceId ifMatch with
        ⟨e, hrun⟩ | ⟨hconsumed, hrun⟩ |
        ⟨hclaimed, hcompanion, updatedAt, expiresAt, ttl, etag, version, outcome, hvalid,
          houtcome, hrun⟩
      · rw [hrun, HashMap.replace_eq_self hfound]
        exact .refused e
      · rw [hrun, HashMap.replace_eq_self hfound]
        exact .reacknowledged call hfound hconsumed
      · rw [hrun]
        refine .acknowledged call hfound hclaimed hcompanion hvalid ?_
        rcases houtcome with rfl | rfl
        · exact .inl rfl
        · exact .inr rfl

/-- One call on a valid map has one of the listed effects. -/
theorem perform_effect {event : Event D} {repository : Repository D}
    (hmap : MapValid sha256 repository.value event.now) :
    Effect sha256 event repository.value (perform sha256 event repository).1
      (perform sha256 event repository).2.value := by
  cases hpoisoned : repository.poisoned with
  | true =>
      cases hcall : event.call with
      | create launch =>
          simp only [perform, hcall, create]
          split
          · exact .refused _
          · rw [RwLock.withWrite_poisoned hpoisoned]
            exact .refused _
      | _ =>
          simp only [perform, hcall, claim, acknowledge, purgeProject,
            RwLock.withWrite_poisoned hpoisoned]
          exact .refused _
  | false =>
      cases hcall : event.call with
      | create launch =>
          simp only [perform, hcall, create]
          split
          · exact .refused _
          · rw [RwLock.withWrite_fst hpoisoned, RwLock.withWrite_value hpoisoned]
            exact create_effect hcall
      | claim launchId companionInstanceId companionVersion =>
          simp only [perform, hcall, claim, RwLock.withWrite_fst hpoisoned,
            RwLock.withWrite_value hpoisoned]
          exact claim_effect hmap hcall
      | acknowledge launchId companionInstanceId ifMatch =>
          simp only [perform, hcall, acknowledge, RwLock.withWrite_fst hpoisoned,
            RwLock.withWrite_value hpoisoned]
          exact acknowledge_effect hmap hcall
      | purgeProject projectId =>
          simp only [perform, hcall, purgeProject, RwLock.withWrite_fst hpoisoned,
            RwLock.withWrite_value hpoisoned]
          exact .purged hcall

/-! ### What an effect keeps -/

namespace Effect

variable {event : Event D} {launches after : LaunchMap D}
  {outcome : Outcome CalculatorLaunchError (Answer D)}

theorem eq_of_err {e : CalculatorLaunchError}
    (h : Effect sha256 event launches (.err e) after) : after = launches := by
  generalize houtcome : Outcome.err e = outcome at h
  cases h with
  | refused => rfl
  | claimed _ _ _ _ answer =>
      subst houtcome
      rcases answer with h | h <;> cases h
  | acknowledged _ _ _ _ _ answer =>
      subst houtcome
      rcases answer with h | h <;> cases h
  | _ => cases houtcome

/-- A call touches keys of its own owner only. -/
theorem lookup_of_ne_owner (h : Effect sha256 event launches outcome after)
    {key : LaunchKey} (hne : key.1 ≠ event.ownerId) :
    after.lookup key = launches.lookup key := by
  have hkey : ∀ id : Uuid, key ≠ (event.ownerId, id) := by
    rintro id rfl
    exact hne rfl
  cases h with
  | inserted => exact AList.lookup_insert_ne (hkey _)
  | claimed => exact HashMap.lookup_replace_ne _ _ (hkey _)
  | acknowledged => exact HashMap.lookup_replace_ne _ _ (hkey _)
  | purged call =>
      rw [HashMap.lookup_retain]
      cases launches.lookup key with
      | none => rfl
      | some stored => simp [survivesPurge, hne]
  | _ => rfl

/-- A stored launch stays, moves forward, or is purged while active. -/
theorem lookup_of_found (h : Effect sha256 event launches outcome after)
    {key : LaunchKey} {stored : StoredLaunch D} (hfound : launches.lookup key = some stored) :
    after.lookup key = some stored ∨
    (∃ moved, after.lookup key = some moved ∧ Advance stored.document moved.document ∧
      DocumentValid sha256 moved.document key.1 key.2) ∨
    (after.lookup key = none ∧ stored.document.status ≠ .consumed ∧
      event.ownerId = key.1 ∧ outcome = .ok .done ∧
      ∃ projectId, event.call = .purgeProject projectId ∧
        stored.document.sourceProjectId = some projectId) := by
  cases h with
  | @inserted launch _ _ call absent =>
      left
      have hne : key ≠ (event.ownerId, launch.id) := by
        rintro rfl
        rw [hfound] at absent
        cases absent
      rw [AList.lookup_insert_ne hne, hfound]
  | @claimed launchId _ _ current _ _ _ _ _ _ call found ready valid =>
      by_cases hkey : key = (event.ownerId, launchId)
      · subst hkey
        obtain rfl : stored = current := by simpa [hfound] using found
        exact .inr (.inl ⟨_, HashMap.lookup_replace _ _ (HashMap.mem_of_lookup hfound),
          .claim ready _ _ _ _ _ _, valid⟩)
      · left
        rw [HashMap.lookup_replace_ne _ _ hkey, hfound]
  | @acknowledged launchId _ _ current _ _ _ _ _ _ call found claimed _ valid =>
      by_cases hkey : key = (event.ownerId, launchId)
      · subst hkey
        obtain rfl : stored = current := by simpa [hfound] using found
        exact .inr (.inl ⟨_, HashMap.lookup_replace _ _ (HashMap.mem_of_lookup hfound),
          .consume claimed _ _ _ _, valid⟩)
      · left
        rw [HashMap.lookup_replace_ne _ _ hkey, hfound]
  | @purged projectId call =>
      rw [HashMap.lookup_retain, hfound]
      by_cases hsurvives : survivesPurge event.ownerId projectId key stored = true
      · left
        simp [hsurvives]
      · right
        right
        simp only [survivesPurge, Bool.or_eq_true, bne_iff_ne, beq_iff_eq, not_or,
          not_not] at hsurvives
        refine ⟨?_, hsurvives.2, hsurvives.1.1.symm, rfl, projectId, call, hsurvives.1.2⟩
        simp [survivesPurge, hsurvives]
  | _ => exact .inl hfound

/-- A launch that was not there has been created by this call. -/
theorem lookup_of_absent (h : Effect sha256 event launches outcome after)
    {key : LaunchKey} {stored : StoredLaunch D} (habsent : launches.lookup key = none)
    (hfound : after.lookup key = some stored) :
    DocumentValid sha256 stored.document key.1 key.2 ∧ stored.document.status = .ready ∧
      0 ≤ event.now.nanos := by
  cases h with
  | @inserted launch _ _ call absent started valid =>
      by_cases hkey : key = (event.ownerId, launch.id)
      · subst hkey
        rw [AList.lookup_insert] at hfound
        cases hfound
        exact ⟨valid, rfl, started⟩
      · rw [AList.lookup_insert_ne hkey, habsent] at hfound
        cases hfound
  | @claimed launchId _ _ current _ _ _ _ _ _ call found =>
      have hkey : key ≠ (event.ownerId, launchId) := by
        rintro rfl
        rw [habsent] at found
        cases found
      rw [HashMap.lookup_replace_ne _ _ hkey, habsent] at hfound
      cases hfound
  | @acknowledged launchId _ _ current _ _ _ _ _ _ call found =>
      have hkey : key ≠ (event.ownerId, launchId) := by
        rintro rfl
        rw [habsent] at found
        cases found
      rw [HashMap.lookup_replace_ne _ _ hkey, habsent] at hfound
      cases hfound
  | purged =>
      rw [HashMap.lookup_retain, habsent] at hfound
      cases hfound
  | _ =>
      rw [habsent] at hfound
      cases hfound

end Effect

end TcoCalculator.CalculatorLaunch
