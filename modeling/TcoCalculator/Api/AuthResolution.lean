/-
Which claims decide the identity of a principal and what it may do as the
companion: neither depends on the order of the claims, and more claims add nothing.
-/
import TcoCalculator.Api.Auth
import TcoCalculator.Library.Separated
import Mathlib.Data.List.Perm.Basic

namespace TcoCalculator.Auth

open Assistant (trim isControl)

section Claims

variable {claims claims' more : List PlatformClaim}

/-! ### Values of a family -/

section Values

variable {acceptedTypes : List String} {value : String} {found : Option String}

theorem claimValues_perm (h : claims.Perm claims') (acceptedTypes : List String) :
    (claimValues claims acceptedTypes).Perm (claimValues claims' acceptedTypes) :=
  (h.filter _).map _

theorem claimValues_subset (h : claims ⊆ more) (acceptedTypes : List String) :
    claimValues claims acceptedTypes ⊆ claimValues more acceptedTypes :=
  List.map_subset _ (List.filter_subset _ h)

theorem uniqueClaim_eq_some :
    uniqueClaim claims acceptedTypes = .ok (some value) ↔
      claimValues claims acceptedTypes = [value] := by
  unfold uniqueClaim
  split <;> simp_all

theorem uniqueClaim_eq_none :
    uniqueClaim claims acceptedTypes = .ok none ↔ claimValues claims acceptedTypes = [] := by
  unfold uniqueClaim
  split <;> simp_all

theorem uniqueClaim_eq_error {error : AuthError} :
    uniqueClaim claims acceptedTypes = .error error ↔
      1 < (claimValues claims acceptedTypes).length ∧ error = .ambiguousIdentityClaims := by
  unfold uniqueClaim
  split
  · simp_all
  · simp_all
  · rename_i hvalues
    simp [hvalues, eq_comm]

theorem uniqueClaim_perm (h : claims.Perm claims') (acceptedTypes : List String) :
    uniqueClaim claims acceptedTypes = uniqueClaim claims' acceptedTypes := by
  have hvalues := claimValues_perm h acceptedTypes
  cases hclaim : uniqueClaim claims acceptedTypes with
  | error error =>
      rw [uniqueClaim_eq_error, hvalues.length_eq] at hclaim
      exact (uniqueClaim_eq_error.mpr hclaim).symm
  | ok found =>
      cases found with
      | none =>
          rw [uniqueClaim_eq_none.mp hclaim] at hvalues
          exact (uniqueClaim_eq_none.mpr hvalues.nil_eq.symm).symm
      | some value =>
          rw [uniqueClaim_eq_some.mp hclaim] at hvalues
          exact (uniqueClaim_eq_some.mpr hvalues.singleton_eq.symm).symm

/-- A claim that is there stays the only one of its family, if there is one at all. -/
theorem uniqueClaim_of_subset (h : claims ⊆ more)
    (hclaim : uniqueClaim claims acceptedTypes = .ok (some value))
    (hmore : uniqueClaim more acceptedTypes = .ok found) : found = some value := by
  have hvalue : value ∈ claimValues more acceptedTypes := by
    apply claimValues_subset h
    rw [uniqueClaim_eq_some.mp hclaim]
    exact List.mem_cons_self
  cases found with
  | none =>
      rw [uniqueClaim_eq_none.mp hmore] at hvalue
      cases hvalue
  | some value' =>
      rw [uniqueClaim_eq_some.mp hmore] at hvalue
      rw [List.mem_singleton.mp hvalue]

end Values

/-! ### Email addresses -/

/-- Values that agree have the same first value in any order. -/
theorem agree_of_perm {first first' : String} {rest rest' : List String}
    (h : (first :: rest).Perm (first' :: rest')) (hagree : ∀ value ∈ rest, value = first) :
    first' = first ∧ ∀ value ∈ rest', value = first' := by
  have hall : ∀ value ∈ first' :: rest', value = first := by
    intro value hvalue
    rcases List.mem_cons.mp (h.mem_iff.mpr hvalue) with rfl | hmem
    · rfl
    · exact hagree value hmem
  have hfirst := hall first' List.mem_cons_self
  refine ⟨hfirst, fun value hvalue => ?_⟩
  rw [hfirst]
  exact hall value (List.mem_cons_of_mem _ hvalue)

theorem optionalEmailAmong_perm (h : claims.Perm claims') (families : List (List String)) :
    optionalEmailAmong claims families = optionalEmailAmong claims' families := by
  induction families with
  | nil => rfl
  | cons acceptedTypes rest ih =>
      have hvalues := (claimValues_perm h acceptedTypes).map trim
      rw [optionalEmailAmong, optionalEmailAmong, ih]
      generalize (claimValues claims acceptedTypes).map trim = values at hvalues ⊢
      generalize (claimValues claims' acceptedTypes).map trim = values' at hvalues ⊢
      cases values with
      | nil => rw [hvalues.nil_eq]
      | cons first others =>
          cases values' with
          | nil => exact absurd hvalues.eq_nil (List.cons_ne_nil _ _)
          | cons first' others' =>
              by_cases hagree : ∀ value ∈ others, value = first
              · obtain ⟨rfl, hagree'⟩ := agree_of_perm hvalues hagree
                have hnone : others.any (· ≠ first') = false := by simpa using hagree
                have hnone' : others'.any (· ≠ first') = false := by simpa using hagree'
                simp only [hnone, hnone']
              · have hagree' : ¬ ∀ value ∈ others', value = first' := by
                  intro hall
                  exact hagree (agree_of_perm hvalues.symm hall).2
                have hsome : others.any (· ≠ first) = true := by simpa using hagree
                have hsome' : others'.any (· ≠ first') = true := by simpa using hagree'
                simp only [hsome, hsome', if_true]

section Resolution

variable {Header : Type} {library : AuthLibrary Header} {principal principal' : Principal}

/-! ### Order -/

theorem principalOfClaims_perm (h : claims.Perm claims') :
    principalOfClaims library claims = principalOfClaims library claims' := by
  have hunique := uniqueClaim_perm h
  have hemail : optionalEmailClaim claims = optionalEmailClaim claims' :=
    optionalEmailAmong_perm h emailClaims
  simp only [principalOfClaims, requiredId, companionAccessClaims, hunique, hemail]

/-! ### Identity -/

/-- The one claim of a family names an identifier. -/
def NamesId (library : AuthLibrary Header) (claims : List PlatformClaim)
    (acceptedTypes : List String) (id : Uuid) : Prop :=
  ∃ value, claimValues claims acceptedTypes = [value] ∧ library.uuidParseStr value = some id

theorem parseIdentityId_eq_ok {value : String} {id : Uuid} :
    parseIdentityId library value = .ok id ↔ library.uuidParseStr value = some id := by
  unfold parseIdentityId
  split <;> simp_all

theorem requiredId_eq_ok {acceptedTypes : List String} {id : Uuid} :
    requiredId library claims acceptedTypes = .ok id ↔ NamesId library claims acceptedTypes id := by
  rw [requiredId, Fallible.bind_eq_ok]
  constructor
  · rintro ⟨_ | value, hclaim, hid⟩
    · cases hid
    · exact ⟨value, uniqueClaim_eq_some.mp hclaim, parseIdentityId_eq_ok.mp hid⟩
  · rintro ⟨value, hvalue, hparse⟩
    exact ⟨some value, uniqueClaim_eq_some.mpr hvalue, parseIdentityId_eq_ok.mpr hparse⟩

theorem NamesId.unique {acceptedTypes : List String} {id id' : Uuid}
    (h : NamesId library claims acceptedTypes id) (h' : NamesId library claims' acceptedTypes id')
    (hsame : claimValues claims acceptedTypes = claimValues claims' acceptedTypes) : id = id' := by
  obtain ⟨value, hvalue, hparse⟩ := h
  obtain ⟨value', hvalue', hparse'⟩ := h'
  rw [hvalue, hvalue', List.singleton_inj] at hsame
  rw [hsame, hparse'] at hparse
  exact (Option.some.inj hparse).symm

theorem NamesId.of_subset {acceptedTypes : List String} {id id' : Uuid}
    (h : NamesId library claims acceptedTypes id) (h' : NamesId library more acceptedTypes id')
    (hsubset : claims ⊆ more) : id = id' := by
  apply h.unique h'
  obtain ⟨value, hvalue, -⟩ := h
  obtain ⟨value', hvalue', -⟩ := h'
  have hsame := uniqueClaim_of_subset hsubset (uniqueClaim_eq_some.mpr hvalue)
    (uniqueClaim_eq_some.mpr hvalue')
  rw [hvalue, hvalue', Option.some.inj hsame]

/-! ### Delegation -/

/-- The claims have one scope, well formed, and one client identifier. -/
structure Delegates (library : AuthLibrary Header) (claims : List PlatformClaim) (scope : String)
    (client : Uuid) : Prop where
  unique : claimValues claims scopeClaims = [scope]
  wellFormed : scopesOf scope ≠ [] ∧ (scopesOf scope).length ≤ 32 ∧
    (scopesOf scope).all isScope = true
  client : NamesId library claims clientClaims client

theorem companionAccessClaims_eq_some {access : CompanionAccessClaims}
    (h : companionAccessClaims library claims = .ok (some access)) :
    ∃ scope, Delegates library claims scope access.authorizedParty ∧
      access.scopes = scopesOf scope ∧ ∃ tokenType,
        uniqueClaim claims tokenTypeClaims = .ok tokenType ∧
          access.appOnly = tokenType.any isAppToken := by
  rw [companionAccessClaims, Fallible.bind_eq_ok] at h
  obtain ⟨scope, hscope, h⟩ := h
  rw [Fallible.bind_eq_ok] at h
  obtain ⟨client, hclient, h⟩ := h
  match scope, client with
  | none, none => cases h
  | none, some _ => cases h
  | some _, none => cases h
  | some scope, some client =>
      simp only [Fallible.bind_eq_ok, Fallible.ensure_eq_ok, Fallible.pure_eq_ok] at h
      obtain ⟨id, hid, _, hwellFormed, tokenType, htokenType, haccess⟩ := h
      cases haccess
      exact ⟨scope, ⟨uniqueClaim_eq_some.mp hscope, hwellFormed, client,
        uniqueClaim_eq_some.mp hclient, parseIdentityId_eq_ok.mp hid⟩, rfl, tokenType,
        htokenType, rfl⟩

theorem companionAccessClaims_eq_none (h : companionAccessClaims library claims = .ok none) :
    claimValues claims scopeClaims = [] ∧ claimValues claims clientClaims = [] := by
  rw [companionAccessClaims, Fallible.bind_eq_ok] at h
  obtain ⟨scope, hscope, h⟩ := h
  rw [Fallible.bind_eq_ok] at h
  obtain ⟨client, hclient, h⟩ := h
  match scope, client with
  | none, none => exact ⟨uniqueClaim_eq_none.mp hscope, uniqueClaim_eq_none.mp hclient⟩
  | none, some _ => cases h
  | some _, none => cases h
  | some scope, some client =>
      simp only [Fallible.bind_eq_ok, Fallible.ensure_eq_ok, Fallible.pure_eq_ok] at h
      obtain ⟨id, hid, _, hwellFormed, tokenType, htokenType, haccess⟩ := h
      cases haccess

/-- What claims that resolve say of the principal. -/
structure Resolved (library : AuthLibrary Header) (claims : List PlatformClaim)
    (principal : Principal) : Prop where
  tenant : NamesId library claims tenantIdClaims principal.tenantId
  object : NamesId library claims objectIdClaims principal.objectId
  access : companionAccessClaims library claims = .ok principal.companionAccess

theorem resolved_of_principalOfClaims (h : principalOfClaims library claims = .ok principal) :
    Resolved library claims principal := by
  simp only [principalOfClaims, Fallible.bind_eq_ok, Fallible.pure_eq_ok] at h
  obtain ⟨tenantId, htenant, objectId, hobject, _, -, access, haccess, hprincipal⟩ := h
  cases hprincipal
  exact ⟨requiredId_eq_ok.mp htenant, requiredId_eq_ok.mp hobject, haccess⟩

/-! ### Tokens -/

/-- One whole token of a text, between white space or its ends. -/
def IsToken (token text : String) : Prop :=
  token ≠ "" ∧ Separated.IsPart isAsciiWhitespace token.toList text.toList

theorem mem_scopesOf {token scope : String} : token ∈ scopesOf scope ↔ IsToken token scope := by
  simp only [scopesOf, splitAsciiWhitespace, List.mem_filter, List.mem_map, IsToken,
    ← Separated.mem_splitOnP_iff, decide_eq_true_eq]
  constructor
  · rintro ⟨⟨chars, ⟨hchars, -⟩, rfl⟩, hne⟩
    rw [String.toList_ofList]
    exact ⟨hne, hchars⟩
  · rintro ⟨hne, hmem⟩
    refine ⟨⟨token.toList, ⟨hmem, ?_⟩, String.ofList_toList⟩, hne⟩
    intro hnil
    exact hne (String.toList_inj.mp hnil)

/-! ### Authorization -/

/-- The client may act with a scope: the claims delegate a token of theirs to it, and
the token is not one of an application. -/
structure MayAct (library : AuthLibrary Header) (claims : List PlatformClaim) (client : Uuid)
    (requiredScope : String) : Prop where
  delegates : ∃ scope, Delegates library claims scope client ∧ IsToken requiredScope scope
  delegated : ∀ tokenType ∈ claimValues claims tokenTypeClaims, isAppToken tokenType = false

theorem any_isAppToken_iff {tokenType : Option String}
    (h : uniqueClaim claims tokenTypeClaims = .ok tokenType) :
    tokenType.any isAppToken = false ↔
      ∀ value ∈ claimValues claims tokenTypeClaims, isAppToken value = false := by
  cases tokenType with
  | none =>
      rw [uniqueClaim_eq_none.mp h]
      exact iff_of_true rfl nofun
  | some value =>
      rw [uniqueClaim_eq_some.mp h]
      simp

theorem authorizeCompanion_eq_ok {client : Uuid} {requiredScope : String} :
    principal.authorizeCompanion client requiredScope = .ok () ↔
      ∃ access, principal.companionAccess = some access ∧ access.appOnly = false ∧
        access.authorizedParty = client ∧ requiredScope ∈ access.scopes := by
  unfold Principal.authorizeCompanion
  cases principal.companionAccess with
  | none => simp
  | some access =>
      simp only [Option.some.injEq, exists_eq_left']
      split
      · rename_i hdenied
        refine iff_of_false nofun fun h => ?_
        rcases hdenied with happ | hclient | hscope
        · rw [h.1] at happ
          cases happ
        · exact hclient h.2.1
        · exact hscope h.2.2
      · rename_i hallowed
        simp only [not_or, not_not, Bool.not_eq_true] at hallowed
        exact iff_of_true rfl hallowed

/-- The companion is authorized exactly when the claims let it act. -/
theorem authorizeCompanion_iff (h : principalOfClaims library claims = .ok principal)
    (client : Uuid) (requiredScope : String) :
    principal.authorizeCompanion client requiredScope = .ok () ↔
      MayAct library claims client requiredScope := by
  have haccess := (resolved_of_principalOfClaims h).access
  rw [authorizeCompanion_eq_ok]
  constructor
  · rintro ⟨access, hsome, happ, rfl, hscope⟩
    rw [hsome] at haccess
    obtain ⟨scope, hdelegates, hscopes, tokenType, htokenType, happOnly⟩ :=
      companionAccessClaims_eq_some haccess
    rw [hscopes, mem_scopesOf] at hscope
    rw [happOnly, any_isAppToken_iff htokenType] at happ
    exact ⟨⟨scope, hdelegates, hscope⟩, happ⟩
  · rintro ⟨⟨scope, hdelegates, htoken⟩, hdelegated⟩
    cases hsome : principal.companionAccess with
    | none =>
        rw [hsome] at haccess
        have hnone := (companionAccessClaims_eq_none haccess).1
        rw [hdelegates.unique] at hnone
        cases hnone
    | some access =>
        rw [hsome] at haccess
        obtain ⟨scope', hdelegates', hscopes, tokenType, htokenType, happOnly⟩ :=
          companionAccessClaims_eq_some haccess
        have hsame := hdelegates'.unique.symm.trans hdelegates.unique
        rw [List.singleton_inj] at hsame
        refine ⟨access, rfl, ?_, hdelegates'.client.unique hdelegates.client rfl, ?_⟩
        · rw [happOnly, any_isAppToken_iff htokenType]
          exact hdelegated
        · rw [hscopes, hsame, mem_scopesOf]
          exact htoken

theorem authorizeCompanion_eq_denied {access : CompanionAccessClaims}
    (hsome : principal.companionAccess = some access) {client : Uuid} {requiredScope : String}
    (h : principal.authorizeCompanion client requiredScope ≠ .ok ()) :
    principal.authorizeCompanion client requiredScope = .error .companionAccessDenied := by
  unfold Principal.authorizeCompanion at h ⊢
  rw [hsome] at h ⊢
  dsimp only at h ⊢
  split
  · rfl
  · rename_i hallowed
    exact absurd (if_neg hallowed) h

/-! ### More claims -/

/-- With a scope or a client claim the claims of a principal delegate. -/
theorem exists_delegates (h : principalOfClaims library claims = .ok principal)
    (hsome : claimValues claims scopeClaims ≠ [] ∨ claimValues claims clientClaims ≠ []) :
    ∃ access scope, principal.companionAccess = some access ∧
      Delegates library claims scope access.authorizedParty := by
  have haccess := (resolved_of_principalOfClaims h).access
  cases hnone : principal.companionAccess with
  | none =>
      rw [hnone] at haccess
      obtain ⟨hscope, hclient⟩ := companionAccessClaims_eq_none haccess
      exact absurd hsome (by simp [hscope, hclient])
  | some access =>
      rw [hnone] at haccess
      obtain ⟨scope, hdelegates, -⟩ := companionAccessClaims_eq_some haccess
      exact ⟨access, scope, rfl, hdelegates⟩

/-- What more claims let a client do, delegating claims let it do alone. -/
theorem MayAct.of_subset {client client' : Uuid} {scope' requiredScope : String}
    (h : MayAct library more client requiredScope)
    (hdelegates' : Delegates library claims scope' client') (hsubset : claims ⊆ more) :
    MayAct library claims client requiredScope := by
  obtain ⟨⟨scope, hdelegates, htoken⟩, hdelegated⟩ := h
  have hscope := uniqueClaim_of_subset hsubset (uniqueClaim_eq_some.mpr hdelegates'.unique)
    (uniqueClaim_eq_some.mpr hdelegates.unique)
  obtain rfl : scope = scope' := Option.some.inj hscope
  have hclient := hdelegates'.client.of_subset hdelegates.client hsubset
  subst hclient
  exact ⟨⟨scope, hdelegates', htoken⟩, fun tokenType hmem =>
    hdelegated tokenType (claimValues_subset hsubset _ hmem)⟩

theorem refused_stays_refused (hsubset : claims ⊆ more)
    (h : principalOfClaims library claims = .ok principal)
    (h' : principalOfClaims library more = .ok principal')
    (hscope : claimValues claims scopeClaims ≠ []) {client : Uuid} {requiredScope : String}
    (hrefused : principal.authorizeCompanion client requiredScope ≠ .ok ()) :
    principal'.authorizeCompanion client requiredScope =
      principal.authorizeCompanion client requiredScope := by
  obtain ⟨access, scope, hsome, hdelegates⟩ := exists_delegates h (.inl hscope)
  have hscope' : claimValues more scopeClaims ≠ [] := by
    intro hnone
    have hsub := claimValues_subset hsubset scopeClaims
    rw [hnone] at hsub
    exact hscope (List.subset_nil.mp hsub)
  obtain ⟨access', scope', hsome', hdelegates'⟩ := exists_delegates h' (.inl hscope')
  have hrefused' : principal'.authorizeCompanion client requiredScope ≠ .ok () := by
    rw [ne_eq, authorizeCompanion_iff h']
    intro hact
    exact hrefused ((authorizeCompanion_iff h client requiredScope).mpr
      (hact.of_subset hdelegates hsubset))
  rw [authorizeCompanion_eq_denied hsome hrefused, authorizeCompanion_eq_denied hsome' hrefused']

end Resolution

end Claims

/-! ### Owners -/

theorem ownerId_inj {principal principal' : Principal} (h : principal.ownerId = principal'.ownerId) :
    principal.tenantId = principal'.tenantId ∧ principal.objectId = principal'.objectId := by
  have hlength : ∀ id : Uuid, id.text.toList.length = 36 := by
    intro id
    rw [Uuid.text, String.toList_ofList, List.length_map]
    rfl
  rw [← String.toList_inj, Principal.ownerId, Principal.ownerId] at h
  simp only [String.toList_append] at h
  obtain ⟨hfront, hobject⟩ := List.append_inj' h (by rw [hlength, hlength])
  obtain ⟨hfront, -⟩ := List.append_inj' hfront rfl
  obtain ⟨-, htenant⟩ := List.append_inj' hfront (by rw [hlength, hlength])
  exact ⟨Uuid.text_injective (String.toList_inj.mp htenant),
    Uuid.text_injective (String.toList_inj.mp hobject)⟩

/-- How claims become a principal and what it may do. -/
structure SoundResolution {Header : Type} (library : AuthLibrary Header) : Prop where
  orderFree : ∀ claims claims', claims.Perm claims' →
    principalOfClaims library claims = principalOfClaims library claims'
  identity : ∀ claims principal, principalOfClaims library claims = .ok principal →
    NamesId library claims tenantIdClaims principal.tenantId ∧
      NamesId library claims objectIdClaims principal.objectId
  identityAlone : ∀ claims claims' principal principal',
    principalOfClaims library claims = .ok principal →
    principalOfClaims library claims' = .ok principal' →
    claimValues claims tenantIdClaims = claimValues claims' tenantIdClaims →
    claimValues claims objectIdClaims = claimValues claims' objectIdClaims →
    principal.ownerId = principal'.ownerId
  ownerId : ∀ principal principal' : Principal,
    (principal.tenantId, principal.objectId) ≠ (principal'.tenantId, principal'.objectId) →
    principal.ownerId ≠ principal'.ownerId
  delegation : ∀ claims principal, principalOfClaims library claims = .ok principal →
    claimValues claims scopeClaims ≠ [] ∨ claimValues claims clientClaims ≠ [] →
    ∃ scope client, Delegates library claims scope client
  companion : ∀ claims principal, principalOfClaims library claims = .ok principal →
    ∀ client requiredScope, principal.authorizeCompanion client requiredScope = .ok () ↔
      MayAct library claims client requiredScope
  moreIdentity : ∀ claims more principal principal', claims ⊆ more →
    principalOfClaims library claims = .ok principal →
    principalOfClaims library more = .ok principal' →
    principal'.tenantId = principal.tenantId ∧ principal'.objectId = principal.objectId
  moreRefused : ∀ claims more principal principal', claims ⊆ more →
    principalOfClaims library claims = .ok principal →
    principalOfClaims library more = .ok principal' →
    claimValues claims scopeClaims ≠ [] → claimValues claims clientClaims ≠ [] →
    ∀ client requiredScope, principal.authorizeCompanion client requiredScope ≠ .ok () →
      principal'.authorizeCompanion client requiredScope =
        principal.authorizeCompanion client requiredScope

/-- Principal resolution is free of order and does not escalate. -/
theorem sound_resolution {Header : Type} (library : AuthLibrary Header) :
    SoundResolution library where
  orderFree _ _ h := principalOfClaims_perm h
  identity _ _ h :=
    ⟨(resolved_of_principalOfClaims h).tenant, (resolved_of_principalOfClaims h).object⟩
  identityAlone _ _ principal principal' h h' htenant hobject := by
    have hresolved := resolved_of_principalOfClaims h
    have hresolved' := resolved_of_principalOfClaims h'
    rw [Principal.ownerId, Principal.ownerId, hresolved.tenant.unique hresolved'.tenant htenant,
      hresolved.object.unique hresolved'.object hobject]
  ownerId principal principal' hne howner := by
    obtain ⟨htenant, hobject⟩ := ownerId_inj howner
    exact hne (by rw [htenant, hobject])
  delegation _ _ h hsome := by
    obtain ⟨access, scope, -, hdelegates⟩ := exists_delegates h hsome
    exact ⟨scope, access.authorizedParty, hdelegates⟩
  companion _ _ h client requiredScope := authorizeCompanion_iff h client requiredScope
  moreIdentity _ _ _ _ hsubset h h' := by
    have hresolved := resolved_of_principalOfClaims h
    have hresolved' := resolved_of_principalOfClaims h'
    exact ⟨(hresolved.tenant.of_subset hresolved'.tenant hsubset).symm,
      (hresolved.object.of_subset hresolved'.object hsubset).symm⟩
  moreRefused _ _ _ _ hsubset h h' hscope _ _ _ hrefused :=
    refused_stays_refused hsubset h h' hscope hrefused

namespace AuthWitness

def tenant : Uuid := ⟨0x11111111111111111111111111111111⟩

def object : Uuid := ⟨0x22222222222222222222222222222222⟩

def client : Uuid := ⟨0x33333333333333333333333333333333⟩

/-- A library that knows the hyphenated texts of three identifiers. -/
def library : AuthLibrary String where
  toStr := some
  base64Decode _ := none
  claimsFromSlice _ := none
  uuidParseStr text := [tenant, object, client].find? fun id => id.text == text

def claims : List PlatformClaim := [
  ⟨"tid", "11111111-1111-1111-1111-111111111111"⟩,
  ⟨"oid", "22222222-2222-2222-2222-222222222222"⟩,
  ⟨"scp", "calculator.read calculator.launch"⟩,
  ⟨"appid", "33333333-3333-3333-3333-333333333333"⟩]

def principal : Principal where
  tenantId := tenant
  objectId := object
  displayName := none
  emailAddress := none
  companionAccess := some {
    authorizedParty := client
    scopes := ["calculator.read", "calculator.launch"]
    appOnly := false }

end AuthWitness

open AuthWitness in
/-- A delegated client may act with one of its scopes. -/
theorem delegated_client_may_act : MayAct library claims client "calculator.launch" :=
  ((sound_resolution library).companion claims principal (by decide +kernel) client
    "calculator.launch").mp (by decide +kernel)

end TcoCalculator.Auth
