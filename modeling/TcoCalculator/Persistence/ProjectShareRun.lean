/-
Runs of the share repository: a link opens the copy it was made with, for thirty
days, until it is revoked.
-/
import TcoCalculator.Persistence.ProjectRepositoryRun
import TcoCalculator.Persistence.ProjectShare

namespace TcoCalculator.ProjectShare

open Rfc3339

variable {D : Type}

/-! ### Calls -/

inductive Call (D : Type) where
  | create (credentials : ProjectShareCredentials) (sourceOwnerId : String)
      (sourceProjectId : Uuid) (project : EditableProject D)
  | resolve (credentials : ProjectShareCredentials)
  | dropExpired (shareId : Uuid)
  | revoke (sourceOwnerId : String) (sourceProjectId shareId : Uuid)
  | revokeProject (sourceOwnerId : String) (sourceProjectId : Uuid)

inductive Answer (D : Type) where
  | created (share : CreatedProjectShare)
  | project (project : EditableProject D)
  | done

section Perform

variable (sha256 : List UInt8 → List UInt8) (documentBytes : ProjectShareDocument D → Nat)

def perform (now : UtcDateTime) (call : Call D) (shares : Shares D) :
    Outcome ProjectShareError (Answer D) × Shares D :=
  match call with
  | .create credentials sourceOwnerId sourceProjectId project =>
      let result := create sha256 documentBytes now credentials sourceOwnerId sourceProjectId
        project shares
      (result.1.map .created, result.2)
  | .resolve credentials =>
      ((resolve sha256 documentBytes now credentials shares).map .project, shares)
  | .dropExpired shareId =>
      let result := dropExpired shareId shares
      (result.1.map fun _ => .done, result.2)
  | .revoke sourceOwnerId sourceProjectId shareId =>
      let result := revoke sourceOwnerId sourceProjectId shareId shares
      (result.1.map fun _ => .done, result.2)
  | .revokeProject sourceOwnerId sourceProjectId =>
      let result := revokeProject sourceOwnerId sourceProjectId shares
      (result.1.map fun _ => .done, result.2)

/-- The document of a share and the checks it went through. -/
structure NewDocument (now : UtcDateTime) (credentials : ProjectShareCredentials)
    (sourceOwnerId : String) (sourceProjectId : Uuid) (project : EditableProject D)
    (expires : UtcDateTime) (document : ProjectShareDocument D) : Prop where
  later : now.addSeconds? (shareLifetimeDays * 86400) = some expires
  written : ∃ createdAt expiresAt, format expires = some expiresAt ∧
    document = shareDocument sha256 sourceOwnerId sourceProjectId project credentials createdAt
      expiresAt
  valid : validateDocument documentBytes document credentials.shareId = .ok ()

variable {sha256 documentBytes}

theorem formatTimestamp_eq_ok {timestamp : UtcDateTime} {text : String}
    (h : formatTimestamp timestamp = .ok text) : format timestamp = some text := by
  unfold formatTimestamp at h
  split at h
  · cases h
    assumption
  · cases h

theorem expiry_eq_ok {now expires : UtcDateTime} (h : expiry now = .ok expires) :
    now.addSeconds? (shareLifetimeDays * 86400) = some expires := by
  unfold expiry at h
  split at h
  · cases h
    assumption
  · cases h

theorem newShareDocument_eq_ok {now : UtcDateTime} {credentials : ProjectShareCredentials}
    {sourceOwnerId : String} {sourceProjectId : Uuid} {project : EditableProject D}
    {document : ProjectShareDocument D}
    (h : newShareDocument sha256 documentBytes sourceOwnerId sourceProjectId project credentials
      now = .ok document) :
    ∃ expires, NewDocument sha256 documentBytes now credentials sourceOwnerId sourceProjectId
      project expires document := by
  obtain ⟨expires, hexpires, h⟩ := Fallible.bind_eq_ok.mp h
  obtain ⟨createdAt, -, h⟩ := Fallible.bind_eq_ok.mp h
  obtain ⟨expiresAt, hexpiresAt, h⟩ := Fallible.bind_eq_ok.mp h
  obtain ⟨_, hvalid, h⟩ := Fallible.bind_eq_ok.mp h
  cases h
  exact ⟨expires, expiry_eq_ok hexpires,
    ⟨createdAt, expiresAt, formatTimestamp_eq_ok hexpiresAt, rfl⟩, hvalid⟩

/-! ### What a call can do -/

variable (sha256 documentBytes)

/-- Everything a call can do to a repository that no one has poisoned. -/
inductive Change (now : UtcDateTime) (call : Call D) (shares : ShareMap D) :
    Outcome ProjectShareError (Answer D) → ShareMap D → Prop
  | refused (failure : ProjectShareError) (notResolve : ∀ credentials, call ≠ .resolve credentials)
      (notProject : ∀ ownerId projectId, call ≠ .revokeProject ownerId projectId)
      (notFound : ∀ ownerId projectId shareId, call = .revoke ownerId projectId shareId →
        ∀ document, shares.lookup shareId = some document →
          document.sourceOwnerId ≠ ownerId ∨ document.sourceProjectId ≠ projectId)
      (notDrop : ∀ shareId, call ≠ .dropExpired shareId) :
      Change now call shares (.err failure) shares
  | created {credentials : ProjectShareCredentials} {ownerId : String} {projectId : Uuid}
      {project : EditableProject D} {expires : UtcDateTime} {document : ProjectShareDocument D}
      (asked : call = .create credentials ownerId projectId project)
      (new : NewDocument sha256 documentBytes now credentials ownerId projectId project expires
        document) :
      Change now call shares (.ok (.created ⟨credentials, document.expiresAt⟩))
        (shares.insert credentials.shareId document)
  | resolved {credentials : ProjectShareCredentials} (asked : call = .resolve credentials) :
      Change now call shares
        ((resolve sha256 documentBytes now credentials ⟨shares, false⟩).map .project) shares
  | dropped {shareId : Uuid} (asked : call = .dropExpired shareId) :
      Change now call shares (.ok .done) (shares.erase shareId)
  | revoked {ownerId : String} {projectId shareId : Uuid} {document : ProjectShareDocument D}
      (asked : call = .revoke ownerId projectId shareId)
      (found : shares.lookup shareId = some document)
      (owned : document.sourceOwnerId = ownerId ∧ document.sourceProjectId = projectId) :
      Change now call shares (.ok .done) (shares.erase shareId)
  | revokedProject {ownerId : String} {projectId : Uuid}
      (asked : call = .revokeProject ownerId projectId) :
      Change now call shares (.ok .done) (shares.retain fun _ document =>
        decide (document.sourceOwnerId ≠ ownerId ∨ document.sourceProjectId ≠ projectId))

theorem perform_change (now : UtcDateTime) (call : Call D) (shares : ShareMap D) :
    ∃ after, (perform sha256 documentBytes now call ⟨shares, false⟩).2 = ⟨after, false⟩ ∧
      Change sha256 documentBytes now call shares
        (perform sha256 documentBytes now call ⟨shares, false⟩).1 after := by
  cases call with
  | create credentials ownerId projectId project =>
      cases hdocument : newShareDocument sha256 documentBytes ownerId projectId project
        credentials now with
      | error failure =>
          simp only [perform, create, hdocument]
          exact ⟨shares, rfl, .refused failure (by simp) (by simp) (by simp) (by simp)⟩
      | ok document =>
          obtain ⟨expires, hnew⟩ := newShareDocument_eq_ok hdocument
          simp only [perform, create, hdocument]
          exact ⟨_, rfl, .created rfl hnew⟩
  | resolve credentials => exact ⟨shares, rfl, .resolved rfl⟩
  | dropExpired shareId => exact ⟨_, rfl, .dropped rfl⟩
  | revokeProject ownerId projectId => exact ⟨_, rfl, .revokedProject rfl⟩
  | revoke ownerId projectId shareId =>
      cases hfound : shares.lookup shareId with
      | none =>
          refine ⟨shares, ?_, ?_⟩
          · simp [perform, revoke, revokeLocked, RwLock.withWrite, hfound, Outcome.isPanic]
          · simp only [perform, revoke, revokeLocked, RwLock.withWrite, Locked.read_bind, hfound]
            refine .refused .notFound (by simp) (by simp) ?_ (by simp)
            rintro _ _ _ ⟨⟩ document hdocument
            rw [hfound] at hdocument
            cases hdocument
      | some document =>
          by_cases howned : document.sourceOwnerId ≠ ownerId ∨ document.sourceProjectId ≠ projectId
          · refine ⟨shares, ?_, ?_⟩
            · simp [perform, revoke, revokeLocked, RwLock.withWrite, hfound, if_pos howned,
                Outcome.isPanic]
            · simp only [perform, revoke, revokeLocked, RwLock.withWrite, Locked.read_bind, hfound,
                if_pos howned]
              refine .refused .notFound (by simp) (by simp) ?_ (by simp)
              rintro _ _ _ ⟨⟩ other hother
              rw [hfound] at hother
              cases hother
              exact howned
          · refine ⟨shares.erase shareId, ?_, ?_⟩
            · simp [perform, revoke, revokeLocked, RwLock.withWrite, hfound, if_neg howned,
                Outcome.isPanic]
            · simp only [perform, revoke, revokeLocked, RwLock.withWrite, Locked.read_bind, hfound,
                if_neg howned]
              exact .revoked rfl hfound (by push Not at howned; exact howned)

end Perform

/-! ### Logs -/

/-- A call, when it was made and what it was answered. -/
structure Entry (D : Type) where
  now : UtcDateTime
  call : Call D
  outcome : Outcome ProjectShareError (Answer D)

/-- What a successful call to share a project gives. -/
structure Grant (D : Type) where
  credentials : ProjectShareCredentials
  sourceOwnerId : String
  sourceProjectId : Uuid
  project : EditableProject D
  expires : UtcDateTime

/-- The call asked for a share of that identifier. -/
def Entry.Issues (entry : Entry D) (shareId : Uuid) : Prop :=
  ∃ credentials ownerId projectId project,
    entry.call = .create credentials ownerId projectId project ∧ credentials.shareId = shareId

/-- The call gave the share, to end thirty days later. -/
def Entry.Gives (entry : Entry D) (grant : Grant D) : Prop :=
  entry.call = .create grant.credentials grant.sourceOwnerId grant.sourceProjectId grant.project ∧
    entry.now.addSeconds? (shareLifetimeDays * 86400) = some grant.expires ∧
    ∃ share, entry.outcome = .ok (.created share)

def Entry.Revokes (entry : Entry D) (grant : Grant D) : Prop :=
  entry.call =
      .revoke grant.sourceOwnerId grant.sourceProjectId grant.credentials.shareId ∨
    entry.call = .revokeProject grant.sourceOwnerId grant.sourceProjectId

def Entry.FoundExpired (entry : Entry D) (shareId : Uuid) : Prop :=
  ∃ credentials, entry.call = .resolve credentials ∧ credentials.shareId = shareId ∧
    entry.outcome = .err .expired

/-- The share was given and has not been revoked since. -/
def Live (log : List (Entry D)) (grant : Grant D) : Prop :=
  ∃ before entry after, log = before ++ entry :: after ∧ entry.Gives grant ∧
    ∀ later ∈ after, ¬ later.Revokes grant

theorem live_concat {log : List (Entry D)} {entry : Entry D} {grant : Grant D} :
    Live (log ++ [entry]) grant ↔
      entry.Gives grant ∨ Live log grant ∧ ¬ entry.Revokes grant := by
  constructor
  · rintro ⟨before, given, after, hlog, hgives, hkept⟩
    rcases List.eq_nil_or_concat' after with rfl | ⟨after, last, rfl⟩
    · obtain ⟨-, hlast⟩ := List.append_inj' hlog rfl
      cases hlast
      exact .inl hgives
    · have hsplit : log ++ [entry] = (before ++ given :: after) ++ [last] := by
        rw [hlog, List.append_assoc, List.cons_append]
      obtain ⟨rfl, hlast⟩ := List.append_inj' hsplit rfl
      cases hlast
      exact .inr ⟨⟨before, given, after, rfl, hgives, fun later hlater =>
        hkept later (List.mem_append_left _ hlater)⟩,
          hkept entry (List.mem_append_right _ List.mem_cons_self)⟩
  · rintro (hgives | ⟨⟨before, given, after, rfl, hgives, hkept⟩, hentry⟩)
    · exact ⟨log, entry, [], rfl, hgives, by simp⟩
    · refine ⟨before, given, after ++ [entry], by simp, hgives, ?_⟩
      intro later hlater
      rcases List.mem_append.mp hlater with hlater | hlater
      · exact hkept later hlater
      · rw [List.mem_singleton.mp hlater]
        exact hentry

/-- What a server may do next: its clock does not go back, the identifier of a new share
is a fresh one, and only a share found expired is dropped. -/
structure Allowed (log : List (Entry D)) (now : UtcDateTime) (call : Call D) : Prop where
  clock : ∀ entry ∈ log, entry.now ≤ now
  fresh : ∀ credentials ownerId projectId project,
    call = .create credentials ownerId projectId project →
      ∀ entry ∈ log, ¬ entry.Issues credentials.shareId
  expired : ∀ shareId, call = .dropExpired shareId → ∃ entry ∈ log, entry.FoundExpired shareId

section Runs

variable (sha256 : List UInt8 → List UInt8) (documentBytes : ProjectShareDocument D → Nat)

/-- The calls served so far and the repository they leave. -/
inductive Run : List (Entry D) → Shares D → Prop
  | start : Run [] noShares
  | step {log : List (Entry D)} {shares : Shares D} (run : Run log shares) {now : UtcDateTime}
      {call : Call D} (allowed : Allowed log now call) :
      Run (log ++ [⟨now, call, (perform sha256 documentBytes now call shares).1⟩])
        (perform sha256 documentBytes now call shares).2

/-- The document is the one that the share was stored as. -/
structure Stores (grant : Grant D) (document : ProjectShareDocument D) : Prop where
  written : ∃ createdAt expiresAt, format grant.expires = some expiresAt ∧
    document = shareDocument sha256 grant.sourceOwnerId grant.sourceProjectId grant.project
      grant.credentials createdAt expiresAt
  valid : validateDocument documentBytes document grant.credentials.shareId = .ok ()

/-- The stored documents are those of the live shares, but for some that have expired. -/
structure Mirrors (log : List (Entry D)) (shares : ShareMap D) : Prop where
  sound : ∀ shareId document, shares.lookup shareId = some document →
    ∃ grant, Live log grant ∧ grant.credentials.shareId = shareId ∧
      Stores sha256 documentBytes grant document
  complete : ∀ grant, Live log grant →
    (∃ document, shares.lookup grant.credentials.shareId = some document ∧
      Stores sha256 documentBytes grant document) ∨ ∃ entry ∈ log, grant.expires ≤ entry.now
  expired : ∀ entry ∈ log, ∀ shareId, entry.FoundExpired shareId →
    (∃ issued ∈ log, issued.Issues shareId) ∧
      ∀ grant, Live log grant → grant.credentials.shareId = shareId → grant.expires ≤ entry.now

variable {sha256 documentBytes}

theorem Entry.Gives.issues {entry : Entry D} {grant : Grant D} (h : entry.Gives grant) :
    entry.Issues grant.credentials.shareId := ⟨_, _, _, _, h.1, rfl⟩

theorem Live.issued {log : List (Entry D)} {grant : Grant D} (h : Live log grant) :
    ∃ entry ∈ log, entry.Issues grant.credentials.shareId := by
  obtain ⟨before, entry, after, rfl, hgives, -⟩ := h
  exact ⟨entry, List.mem_append_right _ List.mem_cons_self, hgives.issues⟩

/-! ### The link -/

/-- The credentials name the share, and their secret has the digest that was kept. -/
structure Opens (sha256 : List UInt8 → List UInt8) (credentials : ProjectShareCredentials)
    (grant : Grant D) : Prop where
  shareId : credentials.shareId = grant.credentials.shareId
  digest : sha256 credentials.secret.asBytes = sha256 grant.credentials.secret.asBytes

theorem opens_self (grant : Grant D) : Opens sha256 grant.credentials grant := ⟨rfl, rfl⟩

theorem Stores.owned {grant : Grant D} {document : ProjectShareDocument D}
    (h : Stores sha256 documentBytes grant document) :
    document.sourceOwnerId = grant.sourceOwnerId ∧
      document.sourceProjectId = grant.sourceProjectId := by
  obtain ⟨createdAt, expiresAt, -, rfl⟩ := h.written
  exact ⟨rfl, rfl⟩

/-- Two shares stored as one document end together. -/
theorem Stores.expires_le {grant other : Grant D} {document : ProjectShareDocument D}
    (h : Stores sha256 documentBytes grant document)
    (hother : Stores sha256 documentBytes other document) : other.expires ≤ grant.expires := by
  obtain ⟨createdAt, expiresAt, hexpires, rfl⟩ := h.written
  obtain ⟨createdAt', expiresAt', hexpires', hdocument⟩ := hother.written
  have htext : expiresAt = expiresAt' := congrArg ProjectShareDocument.expiresAt hdocument
  rw [← htext] at hexpires'
  rw [format_injective hexpires hexpires']

theorem resolveDocument_of_stores {grant : Grant D} {document : ProjectShareDocument D}
    (hstores : Stores sha256 documentBytes grant document) {credentials : ProjectShareCredentials}
    (hid : credentials.shareId = grant.credentials.shareId) (now : UtcDateTime) :
    resolveDocument sha256 documentBytes document credentials now =
      if sha256 credentials.secret.asBytes = sha256 grant.credentials.secret.asBytes then
        if now < grant.expires then .ok grant.project else .error .expired
      else .error .notFound := by
  have hvalid := hstores.valid
  obtain ⟨createdAt, expiresAt, hexpires, rfl⟩ := hstores.written
  rw [← hid] at hvalid
  have hdigest : digestSecret sha256 grant.credentials.secret =
      digestSecret sha256 credentials.secret ↔
        sha256 credentials.secret.asBytes = sha256 grant.credentials.secret.asBytes := by
    rw [digestSecret, digestSecret, Bytes.hexText_inj, eq_comm]
  have hparse : parse (shareDocument sha256 grant.sourceOwnerId grant.sourceProjectId grant.project
      grant.credentials createdAt expiresAt).expiresAt = some ⟨grant.expires.nanos, 0⟩ :=
    parse_format hexpires
  apply Fallible.ok_then hvalid
  by_cases hsecret : sha256 credentials.secret.asBytes = sha256 grant.credentials.secret.asBytes
  · rw [if_pos hsecret]
    apply Fallible.ok_then (if_pos (hdigest.mpr hsecret))
    rw [hparse]
    by_cases hlater : now < grant.expires
    · rw [if_pos hlater]
      exact Fallible.ok_then (if_pos hlater) rfl
    · rw [if_neg hlater]
      exact Fallible.bind_eq_error.mpr (.inl (Fallible.ensure_eq_error.mpr ⟨hlater, rfl⟩))
  · rw [if_neg hsecret]
    exact Fallible.bind_eq_error.mpr
      (.inl (Fallible.ensure_eq_error.mpr ⟨hdigest.not.mpr hsecret, rfl⟩))

theorem resolve_of_stores {grant : Grant D} {shares : ShareMap D}
    {document : ProjectShareDocument D} (hstores : Stores sha256 documentBytes grant document)
    {credentials : ProjectShareCredentials}
    (hid : credentials.shareId = grant.credentials.shareId)
    (hfound : shares.lookup credentials.shareId = some document) (now : UtcDateTime) :
    resolve sha256 documentBytes now credentials ⟨shares, false⟩ =
      if sha256 credentials.secret.asBytes = sha256 grant.credentials.secret.asBytes then
        if now < grant.expires then .ok grant.project else .err .expired
      else .err .notFound := by
  simp only [resolve, RwLock.withRead, Bool.false_eq_true, if_false, hfound,
    resolveDocument_of_stores hstores hid]
  split_ifs <;> rfl

theorem resolve_of_none {shares : ShareMap D} {credentials : ProjectShareCredentials}
    (hnone : shares.lookup credentials.shareId = none) (now : UtcDateTime) :
    resolve sha256 documentBytes now credentials ⟨shares, false⟩ = .err .notFound := by
  simp only [resolve, RwLock.withRead, hnone]
  rfl

/-! ### What one call does to the shares that are live -/

section Step

variable {log : List (Entry D)} {shares after : ShareMap D} {now : UtcDateTime} {call : Call D}
  {outcome : Outcome ProjectShareError (Answer D)}

/-- Nothing but the share of a project gives a link. -/
theorem Mirrors.start : Mirrors sha256 documentBytes ([] : List (Entry D)) (∅ : ShareMap D) where
  sound shareId document h := by
    rw [AList.lookup_empty] at h
    cases h
  complete grant h := by
    obtain ⟨entry, hentry, -⟩ := h.issued
    cases hentry
  expired entry hentry := by cases hentry

/-- A call that gives no link: what it removes it revokes, or was found expired. -/
theorem Mirrors.shrink (h : Mirrors sha256 documentBytes log shares)
    (hgives : ∀ grant, ¬ Entry.Gives ⟨now, call, outcome⟩ grant)
    (hkept : ∀ shareId document, after.lookup shareId = some document →
      shares.lookup shareId = some document ∧ ∀ grant, grant.credentials.shareId = shareId →
        Stores sha256 documentBytes grant document → ¬ Entry.Revokes ⟨now, call, outcome⟩ grant)
    (hremoved : ∀ grant document, Live log grant →
      shares.lookup grant.credentials.shareId = some document →
        Stores sha256 documentBytes grant document →
          ¬ Entry.Revokes ⟨now, call, outcome⟩ grant →
            after.lookup grant.credentials.shareId = some document ∨
              ∃ entry ∈ log, grant.expires ≤ entry.now)
    (hexpired : ∀ shareId, Entry.FoundExpired ⟨now, call, outcome⟩ shareId →
      (∃ issued ∈ log, issued.Issues shareId) ∧
        ∀ grant, Live log grant → grant.credentials.shareId = shareId → grant.expires ≤ now) :
    Mirrors sha256 documentBytes (log ++ [⟨now, call, outcome⟩]) after where
  sound shareId document hfound := by
    obtain ⟨hstored, hrevokes⟩ := hkept shareId document hfound
    obtain ⟨grant, hlive, hid, hstores⟩ := h.sound shareId document hstored
    exact ⟨grant, live_concat.mpr (.inr ⟨hlive, hrevokes grant hid hstores⟩), hid, hstores⟩
  complete grant hlive := by
    rcases live_concat.mp hlive with hgiven | ⟨hlive, hrevokes⟩
    · exact absurd hgiven (hgives grant)
    · rcases h.complete grant hlive with ⟨document, hfound, hstores⟩ | ⟨entry, hentry, hexpires⟩
      · rcases hremoved grant document hlive hfound hstores hrevokes with
          hfound | ⟨entry, hentry, hexpires⟩
        · exact .inl ⟨document, hfound, hstores⟩
        · exact .inr ⟨entry, List.mem_append_left _ hentry, hexpires⟩
      · exact .inr ⟨entry, List.mem_append_left _ hentry, hexpires⟩
  expired entry hentry shareId hfound := by
    have hold : (∃ issued ∈ log, issued.Issues shareId) ∧ ∀ grant, Live log grant →
        grant.credentials.shareId = shareId → grant.expires ≤ entry.now := by
      rcases List.mem_append.mp hentry with hentry | hentry
      · exact h.expired entry hentry shareId hfound
      · cases List.mem_singleton.mp hentry
        exact hexpired shareId hfound
    obtain ⟨⟨issued, hissued, hissues⟩, hends⟩ := hold
    refine ⟨⟨issued, List.mem_append_left _ hissued, hissues⟩, ?_⟩
    intro grant hlive hid
    rcases live_concat.mp hlive with hgiven | ⟨hlive, -⟩
    · exact absurd hgiven (hgives grant)
    · exact hends grant hlive hid

/-- A lookup that says a share expired says so of every live share of that identifier. -/
theorem Mirrors.of_found_expired (h : Mirrors sha256 documentBytes log shares)
    (hclock : ∀ entry ∈ log, entry.now ≤ now) {credentials : ProjectShareCredentials}
    (hexpired : resolve sha256 documentBytes now credentials ⟨shares, false⟩ = .err .expired) :
    (∃ issued ∈ log, issued.Issues credentials.shareId) ∧
      ∀ grant, Live log grant → grant.credentials.shareId = credentials.shareId →
        grant.expires ≤ now := by
  cases hfound : shares.lookup credentials.shareId with
  | none =>
      rw [resolve_of_none hfound] at hexpired
      cases hexpired
  | some document =>
      obtain ⟨found, hlive, hid, hstores⟩ := h.sound _ _ hfound
      rw [resolve_of_stores hstores hid.symm hfound] at hexpired
      have hends : found.expires ≤ now := by
        split_ifs at hexpired with hsecret hlater
        · exact not_lt.mp hlater
        · cases hexpired
      refine ⟨hid ▸ hlive.issued, ?_⟩
      intro grant hlive' hid'
      rcases h.complete grant hlive' with ⟨document', hfound', hstores'⟩ | ⟨entry, hentry, hexpires⟩
      · rw [hid', hfound] at hfound'
        cases hfound'
        exact (hstores.expires_le hstores').trans hends
      · exact hexpires.trans (hclock entry hentry)

/-- A new share is the one document of its identifier. -/
theorem Mirrors.give (h : Mirrors sha256 documentBytes log shares) {grant : Grant D}
    {document : ProjectShareDocument D} (hstores : Stores sha256 documentBytes grant document)
    (hgives : ∀ given, Entry.Gives ⟨now, call, outcome⟩ given ↔ given = grant)
    (hfresh : ∀ entry ∈ log, ¬ entry.Issues grant.credentials.shareId)
    (hrevokes : ∀ given, ¬ Entry.Revokes ⟨now, call, outcome⟩ given)
    (hexpired : ∀ shareId, ¬ Entry.FoundExpired ⟨now, call, outcome⟩ shareId) :
    Mirrors sha256 documentBytes (log ++ [⟨now, call, outcome⟩])
      (shares.insert grant.credentials.shareId document) where
  sound shareId stored hfound := by
    rcases HashMap.lookup_insert_eq_some hfound with ⟨rfl, rfl⟩ | ⟨-, hfound⟩
    · exact ⟨grant, live_concat.mpr (.inl ((hgives grant).mpr rfl)), rfl, hstores⟩
    · obtain ⟨given, hlive, hid, hgiven⟩ := h.sound shareId stored hfound
      exact ⟨given, live_concat.mpr (.inr ⟨hlive, hrevokes given⟩), hid, hgiven⟩
  complete given hlive := by
    rcases live_concat.mp hlive with hgiven | ⟨hlive, -⟩
    · cases (hgives given).mp hgiven
      exact .inl ⟨document, AList.lookup_insert _, hstores⟩
    · rcases h.complete given hlive with ⟨stored, hfound, hgiven⟩ | ⟨entry, hentry, hexpires⟩
      · refine .inl ⟨stored, ?_, hgiven⟩
        obtain ⟨issued, hissued, hissues⟩ := hlive.issued
        have hother : given.credentials.shareId ≠ grant.credentials.shareId := by
          intro hid
          exact hfresh issued hissued (hid ▸ hissues)
        rw [AList.lookup_insert_ne hother, hfound]
      · exact .inr ⟨entry, List.mem_append_left _ hentry, hexpires⟩
  expired entry hentry shareId hfound := by
    rcases List.mem_append.mp hentry with hentry | hentry
    · obtain ⟨⟨issued, hissued, hissues⟩, hends⟩ := h.expired entry hentry shareId hfound
      refine ⟨⟨issued, List.mem_append_left _ hissued, hissues⟩, ?_⟩
      intro given hlive hid
      rcases live_concat.mp hlive with hgiven | ⟨hlive, -⟩
      · cases (hgives given).mp hgiven
        exact absurd (hid ▸ hissues) (hfresh issued hissued)
      · exact hends given hlive hid
    · cases List.mem_singleton.mp hentry
      exact absurd hfound (hexpired shareId)

theorem lookup_erase_eq_some {shares : ShareMap D} {shareId other : Uuid}
    {document : ProjectShareDocument D} (h : (shares.erase shareId).lookup other = some document) :
    other ≠ shareId ∧ shares.lookup other = some document := by
  by_cases hid : other = shareId
  · rw [hid, AList.lookup_erase] at h
    cases h
  · rw [AList.lookup_erase_ne hid] at h
    exact ⟨hid, h⟩

/-- Removing one document keeps the mirror when what it stands for is revoked or over. -/
theorem Mirrors.erase (h : Mirrors sha256 documentBytes log shares) {shareId : Uuid}
    (hgives : ∀ grant, ¬ Entry.Gives ⟨now, call, outcome⟩ grant)
    (hothers : ∀ grant, Entry.Revokes ⟨now, call, outcome⟩ grant →
      grant.credentials.shareId = shareId)
    (hgone : ∀ grant document, Live log grant → grant.credentials.shareId = shareId →
      shares.lookup shareId = some document → Stores sha256 documentBytes grant document →
        ¬ Entry.Revokes ⟨now, call, outcome⟩ grant → ∃ entry ∈ log, grant.expires ≤ entry.now)
    (hexpired : ∀ shareId, ¬ Entry.FoundExpired ⟨now, call, outcome⟩ shareId) :
    Mirrors sha256 documentBytes (log ++ [⟨now, call, outcome⟩]) (shares.erase shareId) := by
  apply h.shrink hgives
  · intro other document hfound
    obtain ⟨hother, hfound⟩ := lookup_erase_eq_some hfound
    refine ⟨hfound, ?_⟩
    rintro grant rfl - hrevokes
    exact hother (hothers grant hrevokes)
  · intro grant document hlive hfound hstores hrevokes
    by_cases hid : grant.credentials.shareId = shareId
    · exact .inr (hgone grant document hlive hid (hid ▸ hfound) hstores hrevokes)
    · rw [AList.lookup_erase_ne hid]
      exact .inl hfound
  · intro shareId hfound
    exact absurd hfound (hexpired shareId)

theorem Mirrors.revokedProject (h : Mirrors sha256 documentBytes log shares) (ownerId : String)
    (projectId : Uuid) :
    Mirrors sha256 documentBytes (log ++ [⟨now, .revokeProject ownerId projectId, outcome⟩])
      (shares.retain fun _ document =>
        decide (document.sourceOwnerId ≠ ownerId ∨ document.sourceProjectId ≠ projectId)) := by
  apply h.shrink
  · rintro grant ⟨hcall, -⟩
    cases hcall
  · intro shareId document hfound
    rw [HashMap.lookup_retain, Option.filter_eq_some_iff, decide_eq_true_eq] at hfound
    refine ⟨hfound.1, ?_⟩
    rintro grant - hstores (hcall | hcall)
    · cases hcall
    · obtain ⟨rfl, rfl⟩ := Call.revokeProject.inj hcall
      rcases hfound.2 with hother | hother
      · exact hother hstores.owned.1
      · exact hother hstores.owned.2
  · intro grant document _ hfound hstores hrevokes
    left
    rw [HashMap.lookup_retain, Option.filter_eq_some_iff, decide_eq_true_eq, hstores.owned.1,
      hstores.owned.2]
    refine ⟨hfound, ?_⟩
    by_contra hsame
    push Not at hsame
    exact hrevokes (.inr (by rw [hsame.1, hsame.2]))
  · rintro shareId ⟨credentials, hcall, -⟩
    cases hcall

theorem Mirrors.step (h : Mirrors sha256 documentBytes log shares)
    (hallowed : Allowed log now call)
    (hchange : Change sha256 documentBytes now call shares outcome after) :
    Mirrors sha256 documentBytes (log ++ [⟨now, call, outcome⟩]) after := by
  cases hchange with
  | refused failure notResolve notProject notFound notDrop =>
      apply h.shrink
      · rintro grant ⟨-, -, share, houtcome⟩
        cases houtcome
      · intro shareId document hfound
        refine ⟨hfound, ?_⟩
        rintro grant rfl hstores (hcall | hcall)
        · rcases notFound _ _ _ hcall document hfound with hother | hother
          · exact hother hstores.owned.1
          · exact hother hstores.owned.2
        · exact notProject _ _ hcall
      · intro grant document _ hfound _ _
        exact .inl hfound
      · rintro shareId ⟨credentials, hcall, -⟩
        exact absurd hcall (notResolve credentials)
  | @created credentials ownerId projectId project expires document asked new =>
      cases asked
      have hstores : Stores sha256 documentBytes
          ⟨credentials, ownerId, projectId, project, expires⟩ document := ⟨new.written, new.valid⟩
      apply h.give hstores
      · rintro ⟨credentials', ownerId', projectId', project', expires'⟩
        constructor
        · rintro ⟨hcall, hlater, -⟩
          cases hcall
          cases new.later.symm.trans hlater
          rfl
        · intro hgrant
          cases hgrant
          exact ⟨rfl, new.later, _, rfl⟩
      · exact hallowed.fresh _ _ _ _ rfl
      · rintro given (hcall | hcall) <;> cases hcall
      · rintro shareId ⟨credentials', hcall, -⟩
        cases hcall
  | @resolved credentials asked =>
      cases asked
      apply h.shrink
      · rintro grant ⟨hcall, -⟩
        cases hcall
      · intro shareId document hfound
        refine ⟨hfound, ?_⟩
        rintro grant - - (hcall | hcall) <;> cases hcall
      · intro grant document _ hfound _ _
        exact .inl hfound
      · rintro shareId ⟨credentials', hcall, rfl, houtcome⟩
        cases hcall
        exact h.of_found_expired hallowed.clock (Outcome.map_eq_err.mp houtcome)
  | @dropped shareId asked =>
      cases asked
      obtain ⟨entry, hentry, hfound⟩ := hallowed.expired shareId rfl
      apply h.erase
      · rintro grant ⟨hcall, -⟩
        cases hcall
      · rintro grant (hcall | hcall) <;> cases hcall
      · intro grant document hlive hid _ _ _
        exact ⟨entry, hentry, (h.expired entry hentry shareId hfound).2 grant hlive hid⟩
      · rintro shareId ⟨credentials, hcall, -⟩
        cases hcall
  | @revoked ownerId projectId shareId document asked found owned =>
      cases asked
      apply h.erase
      · rintro grant ⟨hcall, -⟩
        cases hcall
      · rintro grant (hcall | hcall)
        · exact (Call.revoke.inj hcall).2.2.symm
        · cases hcall
      · rintro grant stored - hid hfound hstores hrevokes
        cases found.symm.trans hfound
        refine absurd (.inl ?_) hrevokes
        rw [← hstores.owned.1, ← hstores.owned.2, owned.1, owned.2, hid]
      · rintro shareId ⟨credentials, hcall, -⟩
        cases hcall
  | revokedProject asked =>
      cases asked
      exact h.revokedProject _ _

end Step

/-! ### Runs -/

theorem Run.mirrors {log : List (Entry D)} {shares : Shares D}
    (run : Run sha256 documentBytes log shares) :
    ∃ stored, shares = ⟨stored, false⟩ ∧ Mirrors sha256 documentBytes log stored := by
  induction run with
  | start => exact ⟨∅, rfl, .start⟩
  | @step log shares run now call allowed ih =>
      obtain ⟨stored, rfl, hmirrors⟩ := ih
      obtain ⟨after, hafter, hchange⟩ := perform_change sha256 documentBytes now call stored
      exact ⟨after, hafter, hmirrors.step allowed hchange⟩

/-- After any run a link opens exactly the copies that were shared under it, not revoked
since and not over. -/
theorem link_opens_iff {log : List (Entry D)} {shares : Shares D}
    (run : Run sha256 documentBytes log shares) {now : UtcDateTime}
    (clock : ∀ entry ∈ log, entry.now ≤ now) (credentials : ProjectShareCredentials)
    (project : EditableProject D) :
    resolve sha256 documentBytes now credentials shares = .ok project ↔
      ∃ grant, Live log grant ∧ Opens sha256 credentials grant ∧ now < grant.expires ∧
        grant.project = project := by
  obtain ⟨stored, rfl, hmirrors⟩ := run.mirrors
  constructor
  · intro hopens
    cases hfound : stored.lookup credentials.shareId with
    | none =>
        rw [resolve_of_none hfound] at hopens
        cases hopens
    | some document =>
        obtain ⟨grant, hlive, hid, hstores⟩ := hmirrors.sound _ _ hfound
        rw [resolve_of_stores hstores hid.symm hfound] at hopens
        split_ifs at hopens with hsecret hlater
        exact ⟨grant, hlive, ⟨hid.symm, hsecret⟩, hlater, Outcome.ok.inj hopens⟩
  · rintro ⟨grant, hlive, hopens, hlater, rfl⟩
    rcases hmirrors.complete grant hlive with ⟨document, hfound, hstores⟩ | ⟨entry, hentry, hends⟩
    · rw [← hopens.shareId] at hfound
      rw [resolve_of_stores hstores hopens.shareId hfound, if_pos hopens.digest, if_pos hlater]
    · exact absurd (hends.trans (clock entry hentry)) (not_le.mpr hlater)

end Runs

namespace ShareWitness

open ProjectRepository.ProjectWitness (noon project)

theorem later_inRange : minNanos ≤ 63957211200000000000 ∧ 63957211200000000000 < endNanos := by
  decide

theorem end_inRange : minNanos ≤ 63957297600000000000 ∧ 63957297600000000000 < endNanos := by
  decide

/-- A day before the share ends. -/
def later : UtcDateTime := ⟨63957211200000000000, later_inRange⟩

def ends : UtcDateTime := ⟨63957297600000000000, end_inRange⟩

def credentials : ProjectShareCredentials := ⟨⟨1⟩, ⟨2⟩⟩

/-- The digest of the secret above, and something else for every other. -/
def sha256 (bytes : List UInt8) : List UInt8 :=
  if bytes = credentials.secret.asBytes then
    [105, 40, 101, 201, 163, 118, 161, 168, 45, 22, 27, 15, 149, 120, 89, 85, 84, 135, 55, 151,
      250, 158, 187, 176, 104, 183, 151, 130, 129, 34, 230, 29]
  else bytes ++ bytes

def bytes (_ : ProjectShareDocument ℚ) : Nat := 1100

def call : Call ℚ := .create credentials "owner" ⟨7⟩ (project "Licensing")

def log : List (Entry ℚ) := [⟨noon, call, (perform sha256 bytes noon call noShares).1⟩]

def shares : Shares ℚ := (perform sha256 bytes noon call noShares).2

def grant : Grant ℚ := ⟨credentials, "owner", ⟨7⟩, project "Licensing", ends⟩

theorem run_log : Run sha256 bytes log shares := by
  have hallowed : Allowed ([] : List (Entry ℚ)) noon call := by
    refine ⟨by simp, by simp, ?_⟩
    intro shareId hcall
    cases hcall
  exact Run.start.step hallowed

theorem live_grant : Live log grant := by
  have hanswer : (create sha256 bytes noon credentials "owner" ⟨7⟩ (project "Licensing")
      noShares).1.map (fun _ => ()) = .ok () := by
    decide +kernel
  obtain ⟨share, hshare, -⟩ := Outcome.map_eq_ok.mp hanswer
  refine ⟨[], _, [], rfl, ⟨rfl, UtcDateTime.addSeconds?_eq_some.mpr rfl, share, ?_⟩, by simp⟩
  exact Outcome.map_eq_ok.mpr ⟨share, hshare, rfl⟩

end ShareWitness

open ProjectRepository.ProjectWitness (noon project) in
open ShareWitness in
/-- On its last day a link still opens the copy. -/
theorem link_opens_last_day :
    resolve sha256 bytes later credentials shares = .ok (project "Licensing") := by
  refine (link_opens_iff run_log ?_ credentials _).mpr
    ⟨grant, live_grant, opens_self grant, ?_, rfl⟩
  · intro entry hentry
    cases List.mem_singleton.mp hentry
    decide
  · decide

end TcoCalculator.ProjectShare
