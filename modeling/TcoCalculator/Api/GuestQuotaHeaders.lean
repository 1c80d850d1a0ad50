/-
Whether guests can change the quotas by what they send in `X-Forwarded-For`: two runs
of the same requests that differ only there.
-/
import TcoCalculator.Api.GuestQuota
import TcoCalculator.Api.TokenBucketRate

namespace TcoCalculator.GuestQuota

open Auth (AuthLibrary)
open TokenBucket (Check Clocked)

/-! ### Two runs -/

/-- The ingress keeps what the client sent and appends the client's address as the
last element. -/
def ingress (sent : List HeaderValue) (client : IpAddr) : List HeaderValue :=
  let address := client.chars.map fun c => UInt8.ofNat c.toNat
  match sent.getLast? with
  | none => [address]
  | some line => sent.dropLast ++ [line ++ UInt8.ofNat ','.toNat :: address]

/-- A request but for what its client sends in the header. -/
structure Visit where
  path : String
  now : Instant
  principal : Option HeaderValue
  client : IpAddr
  socket : IpAddr
  operationToken : String

/-- The request that arrives. -/
def Visit.request (visit : Visit) (sent : List HeaderValue) : QuotaRequest where
  path := visit.path
  now := visit.now
  principal := visit.principal
  forwardedFor := ingress sent visit.client
  peer := some visit.socket
  operationToken := visit.operationToken

/-- A visit of both runs, with what its client sends in each. -/
structure Twin where
  visit : Visit
  sent : List HeaderValue
  sent' : List HeaderValue

def Twin.request (twin : Twin) : QuotaRequest := twin.visit.request twin.sent

def Twin.request' (twin : Twin) : QuotaRequest := twin.visit.request twin.sent'

section Runs

variable (library : AuthLibrary HeaderValue) (config : QuotaConfig) (sha256 : String → List UInt8)

/-- Which requests the guest quota admits. -/
def guestAdmits (entries : BucketEntries (List UInt8)) : List QuotaRequest → List Bool
  | [] => []
  | request :: rest =>
      (enforceGuestQuota library config sha256 request entries).1.isOk ::
        guestAdmits (enforceGuestQuota library config sha256 request entries).2 rest

variable {Store : Type} (quota : RefreshQuota Store)

/-- Which requests the refresh quota admits. -/
def refreshAdmits (state : RefreshQuotaState Store) : List QuotaRequest → List Bool
  | [] => []
  | request :: rest =>
      (enforceRefreshQuota library config quota sha256 request state).1.isOk ::
        refreshAdmits (enforceRefreshQuota library config quota sha256 request state).2 rest

/-- The requests come one after the other, none of them with a principal. -/
structure AreGuests (twins : List Twin) : Prop where
  clocked : twins.Pairwise fun earlier later =>
    earlier.visit.now.nanos ≤ later.visit.now.nanos
  guests : ∀ twin ∈ twins, principalOf library config twin.request = none

/-- Both runs admit and refuse the same requests. -/
structure SameDecisions (store : Store) (twins : List Twin) : Prop where
  guest : guestAdmits library config sha256 ∅ (twins.map Twin.request) =
    guestAdmits library config sha256 ∅ (twins.map Twin.request')
  refresh : refreshAdmits library config sha256 quota ⟨∅, store⟩ (twins.map Twin.request) =
    refreshAdmits library config sha256 quota ⟨∅, store⟩ (twins.map Twin.request')

/-- However the clients choose between the headers they may send, the decisions are
the same. -/
def HeadersMakeNoDifference (store : Store) (may : IpAddr → List HeaderValue → Prop) : Prop :=
  ∀ twins, AreGuests library config twins →
    (∀ twin ∈ twins, may twin.visit.client twin.sent ∧ may twin.visit.client twin.sent') →
    SameDecisions library config sha256 quota store twins

/-- The headers a client may send leave the first element naming one address, or none. -/
def NameOneAddress (may : IpAddr → List HeaderValue → Prop) : Prop :=
  ∀ client sent sent', may client sent → may client sent' →
    forwardedIp library (ingress sent client) = forwardedIp library (ingress sent' client)

end Runs

section Headers

variable {library : AuthLibrary HeaderValue} {config : QuotaConfig} {sha256 : String → List UInt8}
  {Store : Type} {quota : RefreshQuota Store}

/-! ### Keys -/

theorem requesterKey_request (hremote : config.environment ≠ .local) (visit : Visit)
    (sent : List HeaderValue) : requesterKey library config (visit.request sent) = "ip:" ++
      ((forwardedIp library (ingress sent visit.client)).getD visit.socket).text := by
  rw [requesterKey, if_pos hremote]
  cases hforwarded : forwardedIp library (ingress sent visit.client) with
  | none =>
      have hnone : forwardedIp library (visit.request sent).forwardedFor = none := hforwarded
      rw [hnone]
      rfl
  | some address =>
      have hsome : forwardedIp library (visit.request sent).forwardedFor = some address :=
        hforwarded
      rw [hsome]
      rfl

theorem requesterKey_inj (hremote : config.environment ≠ .local) {visit : Visit}
    {sent sent' : List HeaderValue}
    (h : requesterKey library config (visit.request sent) =
      requesterKey library config (visit.request sent')) :
    (forwardedIp library (ingress sent visit.client)).getD visit.socket =
      (forwardedIp library (ingress sent' visit.client)).getD visit.socket := by
  rw [requesterKey_request hremote, requesterKey_request hremote] at h
  exact IpAddr.text_injective ((String.append_right_inj "ip:").mp h)

/-- Different names are told apart by some socket. -/
theorem exists_socket {address address' : Option IpAddr} (h : address ≠ address') :
    ∃ socket, address.getD socket ≠ address'.getD socket := by
  have hother : ∀ ip : IpAddr, ∃ socket, socket ≠ ip := by
    intro ip
    by_cases hzero : IpAddr.v4 (Vector.replicate 4 0) = ip
    · exact ⟨.v4 (Vector.replicate 4 1), fun hone => absurd (hone.trans hzero.symm) (by decide)⟩
    · exact ⟨_, hzero⟩
  cases address with
  | none =>
      cases address' with
      | none => exact absurd rfl h
      | some ip' => exact hother ip'
  | some ip =>
      cases address' with
      | none =>
          obtain ⟨socket, hsocket⟩ := hother ip
          exact ⟨socket, hsocket.symm⟩
      | some ip' => exact ⟨ip, fun hsame => h (congrArg some hsame)⟩

/-! ### Headers that name one address -/

theorem guestAdmits_congr {twins : List Twin}
    (hkeys : ∀ twin ∈ twins, requesterKey library config twin.request =
      requesterKey library config twin.request') (entries : BucketEntries (List UInt8)) :
    guestAdmits library config sha256 entries (twins.map Twin.request) =
      guestAdmits library config sha256 entries (twins.map Twin.request') := by
  induction twins generalizing entries with
  | nil => rfl
  | cons twin rest ih =>
      have hstep : enforceGuestQuota library config sha256 twin.request entries =
          enforceGuestQuota library config sha256 twin.request' entries := by
        rw [enforceGuestQuota, enforceGuestQuota, hkeys twin List.mem_cons_self]
        rfl
      have hrest := ih fun other hmem => hkeys other (List.mem_cons_of_mem twin hmem)
      rw [List.map_cons, List.map_cons, guestAdmits, guestAdmits, hstep, hrest]

theorem refreshAdmits_congr {twins : List Twin}
    (hkeys : ∀ twin ∈ twins, requesterKey library config twin.request =
      requesterKey library config twin.request') (state : RefreshQuotaState Store) :
    refreshAdmits library config sha256 quota state (twins.map Twin.request) =
      refreshAdmits library config sha256 quota state (twins.map Twin.request') := by
  induction twins generalizing state with
  | nil => rfl
  | cons twin rest ih =>
      have hstep : enforceRefreshQuota library config quota sha256 twin.request state =
          enforceRefreshQuota library config quota sha256 twin.request' state := by
        rw [enforceRefreshQuota, enforceRefreshQuota, hkeys twin List.mem_cons_self]
        rfl
      have hrest := ih fun other hmem => hkeys other (List.mem_cons_of_mem twin hmem)
      rw [List.map_cons, List.map_cons, refreshAdmits, refreshAdmits, hstep, hrest]

theorem headersMakeNoDifference_of_nameOneAddress (hremote : config.environment ≠ .local)
    {may : IpAddr → List HeaderValue → Prop} (hone : NameOneAddress library may) (store : Store) :
    HeadersMakeNoDifference library config sha256 quota store may := by
  intro twins _ hmay
  have hkeys : ∀ twin ∈ twins, requesterKey library config twin.request =
      requesterKey library config twin.request' := by
    intro twin hmem
    obtain ⟨hsent, hsent'⟩ := hmay twin hmem
    rw [Twin.request, Twin.request', requesterKey_request hremote, requesterKey_request hremote,
      hone twin.visit.client twin.sent twin.sent' hsent hsent']
  exact ⟨guestAdmits_congr hkeys ∅, refreshAdmits_congr hkeys ⟨∅, store⟩⟩

/-! ### Headers that do not -/

/-- The check that the guest quota makes for a request. -/
def checkOf (library : AuthLibrary HeaderValue) (config : QuotaConfig) (request : QuotaRequest) :
    Check :=
  ⟨requesterKey library config request, request.now⟩

theorem enforceGuestQuota_guest (sha256 : String → List UInt8) {request : QuotaRequest}
    (hguest : principalOf library config request = none) (entries : BucketEntries (List UInt8)) :
    (enforceGuestQuota library config sha256 request entries).1.isOk =
        ((guestBucket config).check (sha256 (requesterKey library config request)) request.now
          entries).1.isNone ∧
      (enforceGuestQuota library config sha256 request entries).2 =
        ((guestBucket config).check (sha256 (requesterKey library config request)) request.now
          entries).2 := by
  rw [enforceGuestQuota, hguest, Option.isSome_none, if_neg Bool.false_ne_true]
  rcases (guestBucket config).check (sha256 (requesterKey library config request)) request.now
    entries with ⟨_ | retryAfter, entries'⟩
  · exact ⟨rfl, rfl⟩
  · exact ⟨rfl, rfl⟩

/-- For guests the quota is the bucket. -/
theorem guestAdmits_eq {requests : List QuotaRequest}
    (hguests : ∀ request ∈ requests, principalOf library config request = none)
    (entries : BucketEntries (List UInt8)) :
    guestAdmits library config sha256 entries requests =
      ((guestBucket config).outcomes sha256 entries (requests.map (checkOf library config))).map
        fun outcome => outcome.answer.isNone := by
  induction requests generalizing entries with
  | nil => rfl
  | cons request rest ih =>
      obtain ⟨hanswer, hentries⟩ :=
        enforceGuestQuota_guest sha256 (hguests request List.mem_cons_self) entries
      rw [guestAdmits, hanswer, hentries,
        ih fun other hmem => hguests other (List.mem_cons_of_mem request hmem)]
      rfl

theorem guestBucket_lawful (config : QuotaConfig) : (guestBucket config).Lawful :=
  TokenBucket.new_lawful config.guest_pos (by decide)

/-- A table of one key has a place for others. -/
theorem len_table_replicate_lt (count : ℕ) (check : Check) :
    HashMap.len ((guestBucket config).table sha256 (List.replicate count check)) <
      maxTrackedKeys := by
  have hsubset : ((guestBucket config).table sha256 (List.replicate count check)).keys ⊆
      [sha256 check.key] := by
    intro stored hstored
    rcases TokenBucket.mem_tableAfter (AList.mem_keys.mpr hstored) with hmem | ⟨other, hother, rfl⟩
    · exact (AList.notMem_empty _ hmem).elim
    · rw [List.eq_of_mem_replicate hother]
      exact List.mem_singleton_self _
  have hone := (List.subperm_of_subset (AList.keys_nodup _) hsubset).length_le
  rw [HashMap.len_eq_keys]
  exact Nat.lt_of_le_of_lt hone (by rw [List.length_singleton]; decide)

theorem principalOf_of_none (hremote : config.environment ≠ .local) {request : QuotaRequest}
    (h : request.principal = none) : principalOf library config request = none := by
  rw [principalOf, Auth.resolvePrincipal, if_neg hremote, h]
  rfl

/-- A request after others of one key is answered by the table they leave. -/
theorem guestAdmits_replicate (hremote : config.environment ≠ .local) {visit : Visit}
    (hguest : visit.principal = none) (count : ℕ) (sent last : List HeaderValue) :
    guestAdmits library config sha256 ∅
        (List.replicate count (visit.request sent) ++ [visit.request last]) =
      ((guestBucket config).run sha256 (List.replicate count
          (checkOf library config (visit.request sent)))).map (fun outcome => outcome.answer.isNone) ++
        [((guestBucket config).check (sha256 (requesterKey library config (visit.request last)))
          visit.now ((guestBucket config).table sha256 (List.replicate count
            (checkOf library config (visit.request sent))))).1.isNone] := by
  have hguests : ∀ request ∈ List.replicate count (visit.request sent) ++ [visit.request last],
      principalOf library config request = none := by
    intro request hmem
    rcases List.mem_append.mp hmem with hmem | hmem
    · rw [List.eq_of_mem_replicate hmem]
      exact principalOf_of_none hremote hguest
    · rw [List.mem_singleton.mp hmem]
      exact principalOf_of_none hremote hguest
  rw [guestAdmits_eq hguests, List.map_append, List.map_replicate, TokenBucket.outcomes_append,
    List.map_append]
  rfl

/-- A client that repeats a request until it is refused, and then changes the header. -/
theorem exists_difference (hremote : config.environment ≠ .local) (hsha256 : sha256.Injective)
    {visit : Visit} (hguest : visit.principal = none) {sent sent' : List HeaderValue}
    (hkeys : requesterKey library config (visit.request sent) ≠
      requesterKey library config (visit.request sent')) :
    ∃ twins, AreGuests library config twins ∧
      (∀ twin ∈ twins, twin.visit = visit ∧ twin.sent = sent ∧
        (twin.sent' = sent ∨ twin.sent' = sent')) ∧
      guestAdmits library config sha256 ∅ (twins.map Twin.request) ≠
        guestAdmits library config sha256 ∅ (twins.map Twin.request') := by
  have hlawful := guestBucket_lawful config
  obtain ⟨count, -, hrefused⟩ :=
    TokenBucket.exists_refused hlawful hsha256 (checkOf library config (visit.request sent))
  let twins : List Twin := List.replicate count ⟨visit, sent, sent⟩ ++ [⟨visit, sent, sent'⟩]
  have htwins : ∀ twin ∈ twins, twin.visit = visit ∧ twin.sent = sent ∧
      (twin.sent' = sent ∨ twin.sent' = sent') := by
    intro twin hmem
    rcases List.mem_append.mp hmem with hmem | hmem
    · rw [List.eq_of_mem_replicate hmem]
      exact ⟨rfl, rfl, .inl rfl⟩
    · rw [List.mem_singleton.mp hmem]
      exact ⟨rfl, rfl, .inr rfl⟩
  refine ⟨twins, ⟨?_, ?_⟩, htwins, ?_⟩
  · refine List.pairwise_of_forall_mem_list fun earlier hearlier later hlater => ?_
    rw [(htwins earlier hearlier).1, (htwins later hlater).1]
  · intro twin hmem
    refine principalOf_of_none hremote ?_
    rw [Twin.request, (htwins twin hmem).1]
    exact hguest
  · intro hsame
    have hfirst : twins.map Twin.request =
        List.replicate count (visit.request sent) ++ [visit.request sent] := by
      simp [twins, Twin.request]
    have hsecond : twins.map Twin.request' =
        List.replicate count (visit.request sent) ++ [visit.request sent'] := by
      simp [twins, Twin.request']
    have hfresh : ((guestBucket config).check (sha256 (requesterKey library config
        (visit.request sent'))) visit.now ((guestBucket config).table sha256
          (List.replicate count (checkOf library config (visit.request sent))))).1 = none := by
      refine TokenBucket.check_of_fresh hlawful ?_ (len_table_replicate_lt count _)
      intro hmem
      rcases TokenBucket.mem_tableAfter hmem with hmem | ⟨check, hcheck, hdigest⟩
      · exact AList.notMem_empty _ hmem
      · rw [List.eq_of_mem_replicate hcheck] at hdigest
        exact hkeys (hsha256 hdigest).symm
    rw [hfirst, hsecond, guestAdmits_replicate hremote hguest,
      guestAdmits_replicate hremote hguest, hfresh] at hsame
    have hlast := List.singleton_inj.mp (List.append_cancel_left hsame)
    exact hrefused (Option.isNone_iff_eq_none.mp hlast)

theorem nameOneAddress_of_headersMakeNoDifference (hremote : config.environment ≠ .local)
    (hsha256 : sha256.Injective) {may : IpAddr → List HeaderValue → Prop} {store : Store}
    (h : HeadersMakeNoDifference library config sha256 quota store may) :
    NameOneAddress library may := by
  intro client sent sent' hsent hsent'
  by_contra hdifferent
  obtain ⟨socket, hsocket⟩ := exists_socket hdifferent
  have hkeys : requesterKey library config
        ((⟨"/", TokenBucket.epoch, none, client, socket, ""⟩ : Visit).request sent) ≠
      requesterKey library config
        ((⟨"/", TokenBucket.epoch, none, client, socket, ""⟩ : Visit).request sent') :=
    fun hsame => hsocket (requesterKey_inj hremote hsame)
  obtain ⟨twins, hguests, htwins, hadmits⟩ := exists_difference hremote hsha256 rfl hkeys
  refine hadmits (h twins hguests fun twin hmem => ?_).guest
  obtain ⟨hvisit, hfirst, hsecond⟩ := htwins twin hmem
  rw [hvisit, hfirst]
  rcases hsecond with hsecond | hsecond
  · rw [hsecond]
    exact ⟨hsent, hsent⟩
  · rw [hsecond]
    exact ⟨hsent, hsent'⟩

/-- The clients cannot change a decision by their headers exactly when the headers they
may send all leave the first element naming the same address. -/
theorem headersMakeNoDifference_iff (hremote : config.environment ≠ .local)
    (hsha256 : sha256.Injective) (may : IpAddr → List HeaderValue → Prop) (store : Store) :
    HeadersMakeNoDifference library config sha256 quota store may ↔ NameOneAddress library may := by
  constructor
  · exact nameOneAddress_of_headersMakeNoDifference hremote hsha256
  · intro hone
    exact headersMakeNoDifference_of_nameOneAddress hremote hone store

end Headers

/-! ### A client that names other addresses -/

namespace Example

/-- Header texts of visible characters and tabs, and no principals. -/
def library : AuthLibrary HeaderValue where
  toStr value :=
    if value.all fun byte => byte == 9 || (32 ≤ byte && byte < 127) then
      some (String.ofList (value.map fun byte => Char.ofNat byte.toNat))
    else none
  base64Decode _ := none
  claimsFromSlice _ := none
  uuidParseStr _ := none

def config : QuotaConfig where
  environment := .production
  localAuth := none
  guestRequestsPerMinute := 1
  providerRefreshesPerHour := 1
  guest_pos := by decide
  refresh_pos := by decide

/-- In the place of the digest, the bytes themselves. -/
def sha256 (text : String) : List UInt8 := text.toByteArray.data.toList

theorem sha256_injective : Function.Injective sha256 := by
  intro text text' h
  exact String.toByteArray_inj.mp (ByteArray.ext (Array.toList_inj.mp h))

def quota : RefreshQuota Unit := .new 1 none

def visit : Visit where
  path := "/api/v1/session"
  now := TokenBucket.epoch
  principal := none
  client := .v4 #v[192, 0, 2, 10]
  socket := .v4 #v[10, 0, 0, 1]
  operationToken := ""

/-- `198.51.100.7` -/
def otherAddress : HeaderValue := [49, 57, 56, 46, 53, 49, 46, 49, 48, 48, 46, 55]

/-- Two requests of one client.  In the second run it names another address. -/
def twins : List Twin := [⟨visit, [], []⟩, ⟨visit, [], [otherAddress]⟩]

end Example

/-- The client's second request is refused, unless it names another address. -/
theorem other_address_is_admitted :
    AreGuests Example.library Example.config Example.twins ∧
      ¬ SameDecisions Example.library Example.config Example.sha256 Example.quota ()
        Example.twins := by
  refine ⟨⟨?_, ?_⟩, fun h => absurd h.guest ?_⟩
  · decide +kernel
  · decide +kernel
  · decide +kernel

/-- Clients that send no header of their own. -/
theorem no_headers_make_no_difference :
    HeadersMakeNoDifference Example.library Example.config Example.sha256 Example.quota ()
        (fun _ sent => sent = []) ↔
      NameOneAddress Example.library fun _ sent => sent = [] :=
  headersMakeNoDifference_iff (by decide) Example.sha256_injective (fun _ sent => sent = []) ()

end TcoCalculator.GuestQuota
