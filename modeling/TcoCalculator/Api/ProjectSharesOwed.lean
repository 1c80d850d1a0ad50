/-
No link outlives its project, whatever requests run side by side: a share whose
project is gone waits for a request that is on its way to revoke it.
-/
import TcoCalculator.Api.ProjectShares

namespace TcoCalculator.ProjectShares

open ProjectRepository (ProjectKey RepositoryError)
open ProjectShare
open Rfc3339 (UtcDateTime)

section Server

variable {D : Type} [DecimalArith D] (documentBytes : ProjectDocument D → Nat)
  (sha256 : List UInt8 → List UInt8) (shareBytes : ProjectShareDocument D → Nat)

/-! ### The stores -/

/-- What the handlers share: the saved projects and the links. -/
structure Stores (D : Type) where
  projects : ProjectRepository.Repository D
  shares : ShareMap D

/-- What a call is answered, one call at a time.  The project store may be out of reach,
and the launches may answer anything. -/
inductive Serves : Stores D → ServiceCall D → ServiceAnswer D → Stores D → Prop
  | projects (stores : Stores D) (now : UtcDateTime) (ownerId : String)
      (call : ProjectRepository.Call D) :
      Serves stores (.projects ownerId call)
        (.projects (ProjectRepository.perform documentBytes ⟨now, ownerId, call⟩
          stores.projects).1)
        ⟨(ProjectRepository.perform documentBytes ⟨now, ownerId, call⟩ stores.projects).2,
          stores.shares⟩
  | projectsDown (stores : Stores D) (ownerId : String) (call : ProjectRepository.Call D) :
      Serves stores (.projects ownerId call) (.projects (.err .unavailable)) stores
  | shares (stores : Stores D) (now : UtcDateTime) (call : ProjectShare.Call D)
      {after : ShareMap D} (served :
        (ProjectShare.perform sha256 shareBytes now call ⟨stores.shares, false⟩).2 =
          ⟨after, false⟩) :
      Serves stores (.shares call)
        (.shares (ProjectShare.perform sha256 shareBytes now call ⟨stores.shares, false⟩).1)
        ⟨stores.projects, after⟩
  | launches (stores : Stores D) (ownerId : String) (projectId : Uuid)
      (answer : Outcome CalculatorLaunch.CalculatorLaunchError Unit) :
      Serves stores (.purgeLaunches ownerId projectId) (.launches answer) stores

/-- The project of a stored share. -/
def sourceKey (document : ProjectShareDocument D) : ProjectKey :=
  (document.sourceOwnerId, document.sourceProjectId)

/-- A project is gone and a share of it is stored. -/
def Owed (stores : Stores D) (item : ProjectKey × Uuid) : Prop :=
  stores.projects.value.lookup item.1 = none ∧
    ∃ document, stores.shares.lookup item.2 = some document ∧ sourceKey document = item.1

variable {documentBytes sha256 shareBytes}

/-! ### What one call makes owed -/

section Calls

variable {stores after : Stores D} {reply : ServiceAnswer D}

omit [DecimalArith D] in
theorem change_shares {now : UtcDateTime} {call : ProjectShare.Call D} {shares after : ShareMap D}
    (served : (ProjectShare.perform sha256 shareBytes now call ⟨shares, false⟩).2 =
      ⟨after, false⟩) :
    ProjectShare.Change sha256 shareBytes now call shares
      (ProjectShare.perform sha256 shareBytes now call ⟨shares, false⟩).1 after := by
  obtain ⟨found, hfound, hchange⟩ := perform_change sha256 shareBytes now call shares
  cases hfound.symm.trans served
  exact hchange

omit [DecimalArith D] in
/-- A share found after a call was there before, or is the one that the call made. -/
theorem share_found {now : UtcDateTime} {call : ProjectShare.Call D} {shares after : ShareMap D}
    {outcome : Outcome ProjectShareError (ProjectShare.Answer D)}
    (hchange : ProjectShare.Change sha256 shareBytes now call shares outcome after)
    {shareId : Uuid} {document : ProjectShareDocument D}
    (hfound : after.lookup shareId = some document) :
    shares.lookup shareId = some document ∨ ∃ credentials ownerId projectId project expiresAt,
      call = .create credentials ownerId projectId project ∧ credentials.shareId = shareId ∧
        sourceKey document = (ownerId, projectId) ∧
          outcome = .ok (.created ⟨credentials, expiresAt⟩) := by
  cases hchange with
  | refused => exact .inl hfound
  | resolved => exact .inl hfound
  | dropped asked => exact .inl (lookup_erase_eq_some hfound).2
  | revoked asked found owned => exact .inl (lookup_erase_eq_some hfound).2
  | revokedProject asked =>
      rw [HashMap.lookup_retain, Option.filter_eq_some_iff] at hfound
      exact .inl hfound.1
  | created asked new =>
      rcases HashMap.lookup_insert_eq_some hfound with ⟨rfl, rfl⟩ | ⟨-, hfound⟩
      · obtain ⟨createdAt, expiresAt, -, rfl⟩ := new.written
        exact .inr ⟨_, _, _, _, _, asked, rfl, rfl, rfl⟩
      · exact .inl hfound

/-- A project missing after a call was missing before, or is the one that was deleted. -/
theorem project_missing {event : ProjectRepository.Event D}
    {repository after : ProjectRepository.Repository D}
    {outcome : Outcome RepositoryError (ProjectRepository.Answer D)}
    (hchange : ProjectRepository.Change event repository outcome after) {key : ProjectKey}
    (hmissing : after.value.lookup key = none) :
    repository.value.lookup key = none ∨ ∃ projectId, event.call = .delete projectId ∧
      key = (event.ownerId, projectId) ∧ outcome = .ok .done := by
  cases hchange with
  | refused => exact .inl hmissing
  | observed => exact .inl hmissing
  | created call => exact .inl (HashMap.lookup_insert_eq_none hmissing).2
  | @updated projectId _ _ _ stored _ call found =>
      by_cases hkey : key = (event.ownerId, projectId)
      · rw [hkey, HashMap.lookup_replace _ _ (HashMap.mem_of_lookup found)] at hmissing
        cases hmissing
      · rw [HashMap.lookup_replace_ne _ _ hkey] at hmissing
        exact .inl hmissing
  | @deleted projectId call =>
      by_cases hkey : key = (event.ownerId, projectId)
      · exact .inr ⟨projectId, call, hkey, rfl⟩
      · rw [AList.lookup_erase_ne hkey] at hmissing
        exact .inl hmissing

/-- What is owed after a call was owed before, or the call made the share, or deleted the
project. -/
theorem owed_after {call : ServiceCall D}
    (hserved : Serves documentBytes sha256 shareBytes stores call reply after)
    {item : ProjectKey × Uuid} (howed : Owed after item) :
    Owed stores item ∨
      (∃ credentials ownerId projectId project expiresAt,
        call = .shares (.create credentials ownerId projectId project) ∧
          reply = .shares (.ok (.created ⟨credentials, expiresAt⟩)) ∧
            item = ((ownerId, projectId), credentials.shareId)) ∨
      ∃ ownerId projectId, call = .projects ownerId (.delete projectId) ∧
        reply = .projects (.ok .done) ∧ item.1 = (ownerId, projectId) := by
  obtain ⟨hmissing, document, hfound, hkey⟩ := howed
  cases hserved with
  | projectsDown => exact .inl ⟨hmissing, document, hfound, hkey⟩
  | launches => exact .inl ⟨hmissing, document, hfound, hkey⟩
  | projects now ownerId call =>
      have hchange := @ProjectRepository.perform_change _ _ documentBytes
        ⟨now, ownerId, call⟩ stores.projects
      rcases project_missing hchange hmissing with hbefore | ⟨projectId, hcall, hitem, hdone⟩
      · exact .inl ⟨hbefore, document, hfound, hkey⟩
      · exact .inr (.inr ⟨ownerId, projectId, congrArg _ hcall, congrArg _ hdone, hitem⟩)
  | shares now call served =>
      rcases share_found (change_shares served) hfound with
        hbefore | ⟨credentials, ownerId, projectId, project, expiresAt, rfl, hid, hsource, hdone⟩
      · exact .inl ⟨hmissing, document, hbefore, hkey⟩
      · refine .inr (.inl ⟨_, _, _, _, expiresAt, rfl, congrArg _ hdone, ?_⟩)
        rw [← hsource, hkey, hid]

/-- Reading a project that is gone fails. -/
theorem read_fails_of_owed {ownerId : String} {projectId shareId : Uuid}
    (hserved : Serves documentBytes sha256 shareBytes stores
      (.projects ownerId (.get projectId)) reply after)
    (howed : Owed after ((ownerId, projectId), shareId)) :
    ∃ failure, projectAnswer reply = .err failure := by
  cases hserved with
  | projectsDown => exact ⟨.unavailable, rfl⟩
  | projects now =>
      have hmissing : stores.projects.value.lookup (ownerId, projectId) = none := howed.1
      have hget : ∃ failure, ProjectRepository.get ownerId projectId stores.projects =
          .err failure := by
        unfold ProjectRepository.get RwLock.withRead ProjectRepository.getLocked
        split
        · exact ⟨_, rfl⟩
        · rw [hmissing]
          exact ⟨_, rfl⟩
      obtain ⟨failure, hget⟩ := hget
      refine ⟨failure, ?_⟩
      simp only [ProjectRepository.perform, hget]
      rfl

/-- A revoked share is gone, or is not one of the project. -/
theorem not_owed_of_revoke {ownerId : String} {projectId shareId : Uuid}
    (hserved : Serves documentBytes sha256 shareBytes stores
      (.shares (.revoke ownerId projectId shareId)) reply after) :
    ¬ Owed after ((ownerId, projectId), shareId) := by
  rintro ⟨-, document, hfound, hkey⟩
  obtain ⟨howner, hproject⟩ := Prod.mk.inj hkey
  cases hserved with
  | shares now _ served =>
      have hchange := change_shares served
      generalize (ProjectShare.perform sha256 shareBytes now _ ⟨stores.shares, false⟩).1 = outcome
        at hchange
      cases hchange with
      | refused failure _ _ notFound =>
          rcases notFound _ _ _ rfl document hfound with hother | hother
          · exact hother howner
          · exact hother hproject
      | resolved asked => cases asked
      | created asked => cases asked
      | dropped asked => cases asked
      | revokedProject asked => cases asked
      | revoked asked =>
          cases asked
          exact (lookup_erase_eq_some hfound).1 rfl

theorem not_owed_of_revokeProject {ownerId : String} {projectId shareId : Uuid}
    (hserved : Serves documentBytes sha256 shareBytes stores
      (.shares (.revokeProject ownerId projectId)) reply after) :
    ¬ Owed after ((ownerId, projectId), shareId) := by
  rintro ⟨-, document, hfound, hkey⟩
  obtain ⟨howner, hproject⟩ := Prod.mk.inj hkey
  cases hserved with
  | shares now _ served =>
      have hchange := change_shares served
      generalize (ProjectShare.perform sha256 shareBytes now _ ⟨stores.shares, false⟩).1 = outcome
        at hchange
      cases hchange with
      | refused failure _ notProject => exact notProject _ _ rfl
      | resolved asked => cases asked
      | created asked => cases asked
      | dropped asked => cases asked
      | revoked asked => cases asked
      | revokedProject asked =>
          cases asked
          rw [HashMap.lookup_retain, Option.filter_eq_some_iff, decide_eq_true_eq] at hfound
          rcases hfound.2 with hother | hother
          · exact hother howner
          · exact hother hproject

end Calls

/-! ### The handlers -/

section Handlers

/- The rules of requests in progress, at these stores. -/

abbrev Careful (documentBytes : ProjectDocument D → Nat) (sha256 : List UInt8 → List UInt8)
    (shareBytes : ProjectShareDocument D → Nat) {α : Type} (body : ServiceHandler D α) : Prop :=
  Handler.Careful (Serves documentBytes sha256 shareBytes) Owed body

abbrev Pays (documentBytes : ProjectDocument D → Nat) (sha256 : List UInt8 → List UInt8)
    (shareBytes : ProjectShareDocument D → Nat) {α : Type} (item : ProjectKey × Uuid)
    (body : ServiceHandler D α) : Prop :=
  Handler.Pays (Serves documentBytes sha256 shareBytes) Owed item body

/-- A call that neither deletes a project nor makes a share. -/
def Harmless : ServiceCall D → Prop
  | .projects _ (.delete _) => False
  | .shares (.create _ _ _ _) => False
  | _ => True

theorem Harmless.owed {call : ServiceCall D} (h : Harmless call) (stores : Stores D)
    (reply : ServiceAnswer D) (after : Stores D)
    (hserved : Serves documentBytes sha256 shareBytes stores call reply after)
    (item : ProjectKey × Uuid) (howed : Owed after item) : Owed stores item := by
  rcases owed_after hserved howed with hbefore | ⟨_, _, _, _, _, rfl, -⟩ | ⟨_, _, rfl, -⟩
  · exact hbefore
  · exact h.elim
  · exact h.elim

/-- Requests that make no harmful call are careful. -/
theorem careful_of_harmless {α : Type} {body : ServiceHandler D α}
    (hasks : Handler.Asks Harmless body) : Careful documentBytes sha256 shareBytes body :=
  Interaction.Asks.careful hasks fun _ hcall => hcall.owed

/-- A harmless call owes nothing new. -/
theorem careful_harmless_bind {α : Type} {call : ServiceCall D} (h : Harmless call)
    {next : ServiceAnswer D → ServiceHandler D α}
    (hnext : ∀ reply, Careful documentBytes sha256 shareBytes (next reply)) :
    Careful documentBytes sha256 shareBytes (Handler.call call >>= next) :=
  Handler.careful_call_bind fun stores reply after hserved =>
    ⟨hnext reply, fun item howed => .inl (h.owed stores reply after hserved item howed)⟩

theorem careful_orProblem_bind {ε α β : Type} (problem : ε → Problem) (answer : Outcome ε α)
    {next : α → ServiceHandler D β}
    (hnext : ∀ a, answer = .ok a → Careful documentBytes sha256 shareBytes (next a)) :
    Careful documentBytes sha256 shareBytes (orProblem problem answer >>= next) := by
  apply Handler.careful_lift_bind
  intro a ha
  cases answer with
  | ok value =>
      obtain rfl := Outcome.ok.inj ha
      exact hnext _ rfl
  | err failure => cases ha
  | panic => cases ha

theorem careful_authorized_bind {α β : Type} {principal : Except Unit (Option String)}
    {path : Option α} {instancePath : String} {next : String × α → ServiceHandler D β}
    (hnext : ∀ ids, Careful documentBytes sha256 shareBytes (next ids)) :
    Careful documentBytes sha256 shareBytes
      (authorized principal path instancePath >>= next) := by
  unfold authorized
  cases Assistant.requirePrincipal principal instancePath with
  | error failure => exact trivial
  | ok ownerId =>
      cases path with
      | none => exact trivial
      | some ids => exact hnext (ownerId, ids)

theorem pays_revokeCreated (ownerId : String) (projectId : Uuid) (created : CreatedProjectShare)
    (failure : RepositoryError) :
    Pays documentBytes sha256 shareBytes ((ownerId, projectId), created.credentials.shareId)
      (revokeCreated ownerId projectId created failure) :=
  Handler.pays_call_bind fun _ _ _ hserved howed => (not_owed_of_revoke hserved howed).elim

theorem careful_revokeCreated (ownerId : String) (projectId : Uuid)
    (created : CreatedProjectShare) (failure : RepositoryError) :
    Careful documentBytes sha256 shareBytes
      (revokeCreated ownerId projectId created failure) := by
  unfold revokeCreated
  refine careful_harmless_bind ?_ fun reply => ?_
  · exact trivial
  · exact careful_orProblem_bind _ _ fun _ _ => trivial

theorem pays_recheckCreated (ownerId : String) (projectId : Uuid)
    (created : CreatedProjectShare) :
    Pays documentBytes sha256 shareBytes ((ownerId, projectId), created.credentials.shareId)
      (recheckCreated ownerId projectId created) := by
  apply Handler.pays_call_bind
  intro stores reply after hserved howed
  obtain ⟨failure, hread⟩ := read_fails_of_owed hserved howed
  simp only [hread]
  exact pays_revokeCreated ownerId projectId created failure

theorem careful_recheckCreated (ownerId : String) (projectId : Uuid)
    (created : CreatedProjectShare) :
    Careful documentBytes sha256 shareBytes (recheckCreated ownerId projectId created) := by
  unfold recheckCreated
  refine careful_harmless_bind ?_ fun reply => ?_
  · exact trivial
  · cases projectAnswer reply with
    | ok document => exact trivial
    | err failure => exact careful_revokeCreated ownerId projectId created failure
    | panic => exact trivial

theorem careful_create (principal : Except Unit (Option String)) (path : Option Uuid)
    (credentials : ProjectShareCredentials) :
    Careful documentBytes sha256 shareBytes
      (create principal path credentials : ServiceHandler D (Response D)) := by
  apply careful_authorized_bind
  rintro ⟨ownerId, projectId⟩
  refine careful_harmless_bind (by exact trivial) fun reply => ?_
  apply careful_orProblem_bind
  rintro source -
  apply Handler.careful_call_bind
  intro stores reply after hserved
  refine ⟨careful_orProblem_bind _ _ fun created _ =>
    careful_recheckCreated ownerId projectId created, ?_⟩
  intro item howed
  rcases owed_after hserved howed with
    hbefore | ⟨_, _, _, _, expiresAt, hcall, rfl, hitem⟩ | ⟨_, _, hcall, -⟩
  · exact .inl hbefore
  · cases hcall
    rw [hitem]
    exact .inr (pays_recheckCreated ownerId projectId ⟨credentials, expiresAt⟩)
  · cases hcall

theorem pays_revokeShares {α : Type} (ownerId : String) (projectId shareId : Uuid)
    (next : Unit → ServiceHandler D α) :
    Pays documentBytes sha256 shareBytes ((ownerId, projectId), shareId)
      (revokeShares ownerId projectId >>= next) :=
  fun _ _ _ hserved howed => (not_owed_of_revokeProject hserved howed).elim

theorem careful_revokeShares {α : Type} (ownerId : String) (projectId : Uuid)
    {next : Unit → ServiceHandler D α}
    (hnext : Careful documentBytes sha256 shareBytes (next ())) :
    Careful documentBytes sha256 shareBytes (revokeShares ownerId projectId >>= next) := by
  suffices h : Careful documentBytes sha256 shareBytes (do
      let answer ← Handler.call (.shares (.revokeProject ownerId projectId))
      orProblem (fun _ => .internal Projects.itemInstance) (revokeAnswer answer)
      next ()) from h
  refine careful_harmless_bind ?_ fun reply => ?_
  · exact trivial
  · exact careful_orProblem_bind _ _ fun _ _ => hnext

theorem careful_deleteProject (principal : Except Unit (Option String)) (path : Option Uuid) :
    Careful documentBytes sha256 shareBytes
      (deleteProject principal path : ServiceHandler D (Response D)) := by
  apply careful_authorized_bind
  rintro ⟨ownerId, projectId⟩
  apply careful_revokeShares
  refine careful_harmless_bind (by exact trivial) fun reply => ?_
  apply careful_orProblem_bind
  rintro _ -
  apply Handler.careful_call_bind
  intro stores reply after hserved
  refine ⟨careful_orProblem_bind _ _ fun _ _ => careful_revokeShares _ _ trivial, ?_⟩
  intro item howed
  rcases owed_after hserved howed with
    hbefore | ⟨_, _, _, _, _, hcall, -⟩ | ⟨_, _, hcall, rfl, hitem⟩
  · exact .inl hbefore
  · cases hcall
  · cases hcall
    obtain ⟨key, shareId⟩ := item
    cases hitem
    exact .inr (pays_revokeShares ownerId projectId shareId _)

omit [DecimalArith D] in
theorem asks_authorized_bind {α β : Type} {principal : Except Unit (Option String)}
    {path : Option α} {instancePath : String} {next : String × α → ServiceHandler D β}
    (hnext : ∀ ids, Handler.Asks Harmless (next ids)) :
    Handler.Asks Harmless (authorized principal path instancePath >>= next) :=
  Handler.Asks.bind (Handler.asks_check_bind fun _ _ => Handler.asks_check_bind fun _ _ => trivial)
    hnext

omit [DecimalArith D] in
theorem asks_resolve (principal : Except Unit (Option String))
    (request : Except Assistant.JsonRejection ProjectShareCredentials) :
    Handler.Asks Harmless (resolve principal request : ServiceHandler D (Response D)) := by
  refine Handler.asks_check_bind fun _ _ => Handler.asks_check_bind fun credentials _ => ?_
  refine Handler.Asks.bind (Handler.asks_call_bind trivial fun reply => ?_) fun outcome =>
    Handler.Asks.bind (Handler.asks_lift _ _) fun _ => trivial
  split
  · refine Handler.asks_call_bind trivial fun reply => ?_
    split <;> exact trivial
  · exact trivial

omit [DecimalArith D] in
theorem asks_revoke (principal : Except Unit (Option String)) (path : Option (Uuid × Uuid)) :
    Handler.Asks Harmless (revoke principal path : ServiceHandler D (Response D)) :=
  asks_authorized_bind fun _ => Handler.asks_call_bind trivial fun _ =>
    Handler.Asks.bind (Handler.asks_lift _ _) fun _ => trivial

end Handlers

/-! ### All requests -/

/-- What the server receives: the requests on links, the end of a project, and any others
that neither delete a project nor make a link. -/
inductive Request : ServiceHandler D (Response D) → Prop
  | create (principal : Except Unit (Option String)) (path : Option Uuid)
      (credentials : ProjectShareCredentials) :
      Request (ProjectShares.create principal path credentials)
  | resolve (principal : Except Unit (Option String))
      (request : Except Assistant.JsonRejection ProjectShareCredentials) :
      Request (ProjectShares.resolve principal request)
  | revoke (principal : Except Unit (Option String)) (path : Option (Uuid × Uuid)) :
      Request (ProjectShares.revoke principal path)
  | deleteProject (principal : Except Unit (Option String)) (path : Option Uuid) :
      Request (ProjectShares.deleteProject principal path)
  | other {body : ServiceHandler D (Response D)} (harmless : Handler.Asks Harmless body) :
      Request body

theorem Request.careful {body : ServiceHandler D (Response D)} (h : Request body) :
    Careful documentBytes sha256 shareBytes body := by
  cases h with
  | create => exact careful_create _ _ _
  | resolve => exact careful_of_harmless (asks_resolve _ _)
  | revoke => exact careful_of_harmless (asks_revoke _ _)
  | deleteProject => exact careful_deleteProject _ _
  | other harmless => exact careful_of_harmless harmless

/-- The stores and the requests in progress. -/
abbrev Server (D : Type) :=
  Pool (Stores D) (ServiceCall D) (ServiceAnswer D) (Outcome Problem (Response D))

end Server

namespace LinkWitness

open ProjectRepository.ProjectWitness (noon createEvent)
open ShareWitness (sha256)

def projectBytes : ProjectDocument ℚ → Nat := ProjectRepository.ProjectWitness.bytes

def linkBytes : ProjectShareDocument ℚ → Nat := ShareWitness.bytes

/-- The answer to a call at noon. -/
def service (stores : Stores ℚ) : ServiceCall ℚ → ServiceAnswer ℚ × Stores ℚ
  | .projects ownerId call =>
      let served := ProjectRepository.perform projectBytes ⟨noon, ownerId, call⟩ stores.projects
      (.projects served.1, ⟨served.2, stores.shares⟩)
  | .shares call =>
      let served := ProjectShare.perform sha256 linkBytes noon call ⟨stores.shares, false⟩
      (.shares served.1, ⟨stores.projects, served.2.value⟩)
  | .purgeLaunches _ _ => (.launches (.ok ()), stores)

theorem service_serves (stores : Stores ℚ) (call : ServiceCall ℚ) :
    Serves projectBytes sha256 linkBytes stores call (service stores call).1
      (service stores call).2 := by
  cases call with
  | projects ownerId call => exact .projects stores noon ownerId call
  | purgeLaunches ownerId projectId => exact .launches stores ownerId projectId (.ok ())
  | shares call =>
      obtain ⟨after, hafter, -⟩ := perform_change sha256 linkBytes noon call stores.shares
      have hvalue : (service stores (.shares call)).2 = ⟨stores.projects, after⟩ := by
        simp only [service, hafter]
      rw [hvalue]
      exact .shares stores noon call hafter

/-- Serve the one request in progress. -/
def serveNext : Stores ℚ × ServiceHandler ℚ (Response ℚ) → Stores ℚ × ServiceHandler ℚ (Response ℚ)
  | (stores, .done result) => (stores, .done result)
  | (stores, .ask call next) => ((service stores call).2, next (service stores call).1)

def start : Stores ℚ :=
  ⟨(ProjectRepository.perform projectBytes createEvent ProjectRepository.emptyRepository).2, ∅⟩

def request : ServiceHandler ℚ (Response ℚ) :=
  create (.ok (some "owner")) (some ⟨1⟩) ShareWitness.credentials

def served : Stores ℚ × ServiceHandler ℚ (Response ℚ) :=
  serveNext (serveNext (serveNext (start, request)))

theorem reaches_serveNext {now : Stores ℚ × ServiceHandler ℚ (Response ℚ)}
    (h : Pool.Reaches Request (Serves projectBytes sha256 linkBytes) ⟨start, []⟩
      (⟨now.1, [now.2]⟩ : Server ℚ)) :
    Pool.Reaches Request (Serves projectBytes sha256 linkBytes) ⟨start, []⟩
      (⟨(serveNext now).1, [(serveNext now).2]⟩ : Server ℚ) := by
  obtain ⟨stores, result | ⟨call, next⟩⟩ := now
  · exact h
  · exact h.tail (@Pool.Step.serve _ _ _ _ _ _ _ _ _ _ _ [] _ (service_serves stores call))

theorem reaches_served : Pool.Reaches Request (Serves projectBytes sha256 linkBytes) ⟨start, []⟩
    (⟨served.1, [served.2]⟩ : Server ℚ) :=
  reaches_serveNext (reaches_serveNext (@reaches_serveNext (start, request)
    (Relation.ReflTransGen.single (.arrive (.create _ _ _)))))

def ended : ServiceHandler ℚ (Response ℚ) → Bool
  | .done _ => true
  | .ask _ _ => false

theorem ended_served : ∃ result, served.2 = .done result := by
  have hended : ended served.2 = true := by decide +kernel
  cases hserved : served.2 with
  | done result => exact ⟨result, rfl⟩
  | ask call next =>
      rw [hserved] at hended
      cases hended

end LinkWitness

end TcoCalculator.ProjectShares
