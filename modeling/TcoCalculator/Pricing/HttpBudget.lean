/-
The attempts of a resolution under any clock and any answers: how many there are, how long
each may take, how long the client waits between them and when it gives up.
-/
import TcoCalculator.Pricing.HttpClient

namespace TcoCalculator.HttpClient

variable {ρ α : Type}

/-- The clock reads the time since the start; a sleep is not cut short. -/
inductive Clocked (started : Nat) : TimedCall ClientCall (ClientReply ρ) → Prop
  | elapsed (made elapsed : Nat) : Clocked started ⟨made, .elapsed, elapsed, started + elapsed⟩
  | send (made timeout back : Nat) (reply : ρ) : Clocked started ⟨made, .send timeout, reply, back⟩
  | sleep (made delay back : Nat) (woken : made + delay ≤ back) :
      Clocked started ⟨made, .sleep delay, (), back⟩

/-- A request with what was answered. -/
structure Sent (ρ : Type) where
  made : Nat
  timeout : Nat
  reply : ρ
  back : Nat

def sent : Calls ρ → List (Sent ρ)
  | [] => []
  | ⟨made, .send timeout, reply, back⟩ :: rest => ⟨made, timeout, reply, back⟩ :: sent rest
  | ⟨_, .elapsed, _, _⟩ :: rest | ⟨_, .sleep _, _, _⟩ :: rest => sent rest

/-- No call may take longer than the clock, as it was last read, leaves of the budget. -/
def InBudget : Nat → Calls ρ → Prop
  | _, [] => True
  | _, ⟨_, .elapsed, elapsed, _⟩ :: rest => InBudget elapsed rest
  | elapsed, ⟨_, .send timeout, _, _⟩ :: rest =>
      0 < timeout ∧ timeout ≤ requestTimeout ∧ elapsed + timeout ≤ resolutionBudget ∧
        InBudget elapsed rest
  | elapsed, ⟨_, .sleep delay, _, _⟩ :: rest =>
      elapsed + delay < resolutionBudget ∧ InBudget elapsed rest

/-- The time that the calls end at, by the clock. -/
def lastRead : Nat → Calls ρ → Nat
  | elapsed, [] => elapsed
  | _, ⟨_, .elapsed, elapsed, _⟩ :: rest => lastRead elapsed rest
  | elapsed, ⟨_, .send _, _, _⟩ :: rest | elapsed, ⟨_, .sleep _, _, _⟩ :: rest =>
      lastRead elapsed rest

section Attempts

variable (outcome : ρ → Except AttemptFailure α) (delays : Nat → Nat)

/-- Every attempt but the last failed for a time, and the next one waited as it was told to,
or as long as is usual after this attempt. -/
def Spaced : Nat → List (Sent ρ) → Prop
  | attempt, first :: second :: rest =>
      (∃ retryAfter, outcome first.reply = .error (.temporary retryAfter) ∧
        first.back + retryAfter.getD (delays attempt) ≤ second.made) ∧
      Spaced (attempt + 1) (second :: rest)
  | _, [_] | _, [] => True

/-- The result is what the last attempt says.  Where that is a failure for a time, there is no
attempt left, or to wait would overdraw the budget. -/
def Concluded (before read : Nat) (attempts : List (Sent ρ)) (result : Except ProviderError α) :
    Prop :=
  match attempts.getLast? with
  | none => result = .error .temporarilyUnavailable ∧ resolutionBudget ≤ read
  | some last =>
      match outcome last.reply with
      | .ok payload => result = .ok payload
      | .error (.terminal error) => result = .error error
      | .error (.temporary retryAfter) => result = .error .temporarilyUnavailable ∧
          (before + attempts.length = maxAttempts ∨
            resolutionBudget ≤ read + retryAfter.getD (delays (before + attempts.length)))

/-- What holds of a resolution after this many attempts, at this time by the clock. -/
structure Resolved (before elapsed : Nat) (calls : Calls ρ) (result : Except ProviderError α) :
    Prop where
  inBudget : InBudget elapsed calls
  few : before + (sent calls).length ≤ maxAttempts
  spaced : Spaced outcome delays (before + 1) (sent calls)
  concluded : Concluded outcome delays before (lastRead elapsed calls) (sent calls) result

variable {outcome delays} {started start : Nat} {calls : Calls ρ} {result : Except ProviderError α}

theorem start_le_made {program : Resolution ρ α}
    (h : Timed.Runs (Clocked started) start program calls result) :
    ∀ request ∈ sent calls, start ≤ request.made := by
  induction h with
  | done => simp [sent]
  | @ask start made back call reply next calls result waits takes served rest ih =>
      have hlater : ∀ request ∈ sent calls, start ≤ request.made := fun request hrequest =>
        waits.trans (takes.trans (ih request hrequest))
      cases call with
      | elapsed => exact hlater
      | sleep delay => exact hlater
      | send timeout =>
          rw [sent, List.forall_mem_cons]
          exact ⟨waits, hlater⟩

theorem spaced_cons {first : Sent ρ} {rest : List (Sent ρ)} {attempt : Nat}
    {retryAfter : Option Nat} (hfailed : outcome first.reply = .error (.temporary retryAfter))
    (hwaits : ∀ request ∈ rest, first.back + retryAfter.getD (delays attempt) ≤ request.made)
    (hrest : Spaced outcome delays (attempt + 1) rest) :
    Spaced outcome delays attempt (first :: rest) := by
  cases rest with
  | nil => trivial
  | cons second rest => exact ⟨⟨retryAfter, hfailed, hwaits second List.mem_cons_self⟩, hrest⟩

theorem concluded_cons {before read : Nat} {first : Sent ρ} {rest : List (Sent ρ)}
    {retryAfter : Option Nat} (hfailed : outcome first.reply = .error (.temporary retryAfter))
    (hrest : Concluded outcome delays (before + 1) read rest result) :
    Concluded outcome delays before read (first :: rest) result := by
  cases rest with
  | nil =>
      rw [Concluded] at hrest
      simp only [Concluded, List.getLast?_singleton, hfailed]
      exact ⟨hrest.1, .inr (Nat.le_add_right_of_le hrest.2)⟩
  | cons second rest =>
      have hlength : before + (first :: second :: rest).length =
          before + 1 + (second :: rest).length := by
        simp only [List.length_cons]
        omega
      unfold Concluded at hrest ⊢
      rwa [List.getLast?_cons_cons, hlength]

theorem filter_remaining (elapsed : Nat) :
    (remaining elapsed).filter (0 < ·) =
      if elapsed < resolutionBudget then some (resolutionBudget - elapsed) else none := by
  unfold remaining
  split
  · by_cases hleft : elapsed < resolutionBudget
    · rw [if_pos hleft, Option.filter_some_pos (by simpa using Nat.sub_pos_of_lt hleft)]
    · rw [if_neg hleft, Option.filter_some_neg (by simpa using hleft)]
  · rw [if_neg (by omega)]
    rfl

/-- The ways that an attempt goes: there is no time for it, it ends the resolution, the wait
after it would be too long, or another one follows. -/
inductive Attempted (outcome : ρ → Except AttemptFailure α) (delays : Nat → Nat)
    (started attempt : Nat) (rest : List Nat) (result : Except ProviderError α) : Calls ρ → Prop
  | overdrawn {made elapsed back : Nat} (spent : resolutionBudget ≤ elapsed)
      (gaveUp : result = .error .temporarilyUnavailable) :
      Attempted outcome delays started attempt rest result [⟨made, .elapsed, elapsed, back⟩]
  | ended {made elapsed back sentAt answeredAt : Nat} {reply : ρ}
      (left : elapsed < resolutionBudget)
      (answered : match outcome reply with
        | .ok payload => result = .ok payload
        | .error (.terminal error) => result = .error error
        | .error (.temporary _) =>
            result = .error .temporarilyUnavailable ∧ maxAttempts ≤ attempt) :
      Attempted outcome delays started attempt rest result
        [⟨made, .elapsed, elapsed, back⟩,
          ⟨sentAt, .send (min (resolutionBudget - elapsed) requestTimeout), reply, answeredAt⟩]
  | tooLong {made elapsed back sentAt answeredAt made' elapsed' back' : Nat} {reply : ρ}
      {retryAfter : Option Nat} (left : elapsed < resolutionBudget)
      (failed : outcome reply = .error (.temporary retryAfter))
      (long : resolutionBudget ≤ elapsed' + retryAfter.getD (delays attempt))
      (gaveUp : result = .error .temporarilyUnavailable) :
      Attempted outcome delays started attempt rest result
        [⟨made, .elapsed, elapsed, back⟩,
          ⟨sentAt, .send (min (resolutionBudget - elapsed) requestTimeout), reply, answeredAt⟩,
          ⟨made', .elapsed, elapsed', back'⟩]
  | again {made elapsed back sentAt answeredAt made' elapsed' back' slept woken : Nat} {reply : ρ}
      {retryAfter : Option Nat} {calls : Calls ρ} (left : elapsed < resolutionBudget)
      (failed : outcome reply = .error (.temporary retryAfter))
      (more : attempt < maxAttempts)
      (short : elapsed' + retryAfter.getD (delays attempt) < resolutionBudget)
      (waited : answeredAt + retryAfter.getD (delays attempt) ≤ woken)
      (runs : Timed.Runs (Clocked started) woken (resolve outcome delays rest) calls result) :
      Attempted outcome delays started attempt rest result
        (⟨made, .elapsed, elapsed, back⟩ ::
          ⟨sentAt, .send (min (resolutionBudget - elapsed) requestTimeout), reply, answeredAt⟩ ::
          ⟨made', .elapsed, elapsed', back'⟩ ::
          ⟨slept, .sleep (retryAfter.getD (delays attempt)), (), woken⟩ :: calls)

theorem attempted {attempt : Nat} {rest : List Nat}
    (h : Timed.Runs (Clocked started) start (resolve outcome delays (attempt :: rest)) calls
      result) : Attempted outcome delays started attempt rest result calls := by
  obtain ⟨made, elapsed, back, calls, rfl, -, -, -, h⟩ := Timed.runs_ask.mp h
  rw [filter_remaining] at h
  by_cases hleft : elapsed < resolutionBudget
  · rw [if_pos hleft] at h
    obtain ⟨sentAt, reply, answeredAt, calls, rfl, -, -, -, h⟩ := Timed.runs_ask.mp h
    cases houtcome : outcome reply with
    | ok payload =>
        simp only [houtcome] at h
        obtain ⟨rfl, rfl⟩ := Timed.runs_done.mp h
        exact .ended hleft (by rw [houtcome])
    | error failure =>
        cases failure with
        | terminal error =>
            simp only [houtcome] at h
            obtain ⟨rfl, rfl⟩ := Timed.runs_done.mp h
            exact .ended hleft (by rw [houtcome])
        | temporary retryAfter =>
            simp only [houtcome] at h
            by_cases hmore : attempt < maxAttempts
            · rw [if_pos hmore] at h
              obtain ⟨made', elapsed', back', calls, rfl, hmade, hback, -, h⟩ :=
                Timed.runs_ask.mp h
              by_cases hread : elapsed' ≤ resolutionBudget
              · simp only [remaining, if_pos hread] at h
                by_cases hlong : resolutionBudget - elapsed' ≤ retryAfter.getD (delays attempt)
                · rw [if_pos hlong] at h
                  obtain ⟨rfl, rfl⟩ := Timed.runs_done.mp h
                  exact .tooLong hleft houtcome (Nat.sub_le_iff_le_add'.mp hlong) rfl
                · rw [if_neg hlong] at h
                  obtain ⟨slept, reply', woken, calls, rfl, hslept, -, hserved, hrest⟩ :=
                    Timed.runs_ask.mp h
                  have hwoken : slept + retryAfter.getD (delays attempt) ≤ woken := by
                    cases hserved with
                    | sleep _ _ _ woken => exact woken
                  exact .again hleft houtcome hmore (by omega) (by omega) hrest
              · simp only [remaining, if_neg hread] at h
                obtain ⟨rfl, rfl⟩ := Timed.runs_done.mp h
                exact .tooLong hleft houtcome
                  (Nat.le_add_right_of_le (Nat.le_of_not_le hread)) rfl
            · rw [if_neg hmore] at h
              obtain ⟨rfl, rfl⟩ := Timed.runs_done.mp h
              exact .ended hleft (by rw [houtcome]; exact ⟨rfl, Nat.le_of_not_lt hmore⟩)
  · rw [if_neg hleft] at h
    obtain ⟨rfl, rfl⟩ := Timed.runs_done.mp h
    exact .overdrawn (Nat.le_of_not_lt hleft) rfl

/-- The timeout of a request fits in what is left of the budget. -/
theorem timeout_inBudget {elapsed : Nat} {rest : Prop} (hleft : elapsed < resolutionBudget)
    (hrest : rest) :
    0 < min (resolutionBudget - elapsed) requestTimeout ∧
      min (resolutionBudget - elapsed) requestTimeout ≤ requestTimeout ∧
        elapsed + min (resolutionBudget - elapsed) requestTimeout ≤ resolutionBudget ∧ rest := by
  have hpositive : 0 < requestTimeout := by decide
  refine ⟨?_, Nat.min_le_right _ _, ?_, hrest⟩
  · omega
  · omega

theorem Attempted.resolved {before : Nat} {rest : List Nat}
    (h : Attempted outcome delays started (before + 1) rest result calls)
    (hbefore : before < maxAttempts)
    (hrest : before + 1 < maxAttempts → ∀ woken calls,
      Timed.Runs (Clocked started) woken (resolve outcome delays rest) calls result →
        ∀ elapsed, Resolved outcome delays (before + 1) elapsed calls result) (elapsed : Nat) :
    Resolved outcome delays before elapsed calls result := by
  cases h with
  | overdrawn spent gaveUp => exact ⟨trivial, hbefore.le, trivial, gaveUp, spent⟩
  | @ended _ _ _ _ _ reply left answered =>
      refine ⟨timeout_inBudget left trivial, hbefore, trivial, ?_⟩
      simp only [Concluded, sent, List.getLast?_singleton]
      cases houtcome : outcome reply with
      | ok payload => simpa [houtcome] using answered
      | error failure =>
          cases failure with
          | terminal error => simpa [houtcome] using answered
          | temporary retryAfter =>
              simp only [houtcome] at answered
              exact ⟨answered.1, .inl (le_antisymm hbefore answered.2)⟩
  | tooLong left failed long gaveUp =>
      refine ⟨timeout_inBudget left trivial, hbefore, trivial, ?_⟩
      simp only [Concluded, sent, List.getLast?_singleton, failed]
      exact ⟨gaveUp, .inr long⟩
  | again left failed more short waited runs =>
      obtain ⟨hinBudget, hfew, hspaced, hconcluded⟩ := hrest more _ _ runs _
      refine ⟨timeout_inBudget left ⟨short, hinBudget⟩, ?_, ?_, ?_⟩
      · simp only [sent, List.length_cons]
        omega
      · exact spaced_cons failed (fun request hrequest =>
          waited.trans (start_le_made runs request hrequest)) hspaced
      · exact concluded_cons failed hconcluded

theorem resolve_resolved (left : Nat) {before : Nat} (hleft : before + left + 1 = maxAttempts)
    (h : Timed.Runs (Clocked started) start
      (resolve outcome delays (List.range' (before + 1) (left + 1))) calls result)
    (elapsed : Nat) : Resolved outcome delays before elapsed calls result := by
  induction left generalizing before start calls elapsed with
  | zero => exact (attempted h).resolved (by omega) (by omega) elapsed
  | succ left ih =>
      exact (attempted h).resolved (by omega) (fun _ _ _ hrest => ih (by omega) hrest) elapsed

end Attempts

section Resolutions

variable {parseUrl : String → Option Url} {sha256 : String → List UInt8}
  {rfc2822 : String → Option Int} {maxResponseBytes : Nat} {started : Nat} {sourceUrl : String}

/-- Whatever the clock and the servers do, the attempts at a document keep to its budget. -/
theorem get_within_budget {calls : Calls (Option Response)}
    {result : Except ProviderError (HttpPayload (List UInt8))}
    (h : Timed.Runs (Clocked started) started
      (get parseUrl sha256 rfc2822 maxResponseBytes sourceUrl) calls result) :
    match validateUrl parseUrl sourceUrl with
    | .error error => calls = [] ∧ result = .error error
    | .ok url => Resolved (sendOnce rfc2822 maxResponseBytes url) (retryDelay sha256 url) 0 0
        calls result := by
  unfold get at h
  cases hurl : validateUrl parseUrl sourceUrl with
  | error error =>
      rw [hurl] at h
      exact Timed.runs_done.mp h
  | ok url =>
      rw [hurl] at h
      exact resolve_resolved 2 rfl h 0

theorem getRdsOffer_within_budget {expectedOfferCode : String}
    {calls : Calls (Except AttemptFailure (HttpPayload AwsRds.SelectedLeaf))}
    {result : Except ProviderError (HttpPayload AwsRds.SelectedLeaf)} {url : Url}
    (hurl : validateUrl parseUrl sourceUrl = .ok url)
    (hcode : expectedOfferCode = "AmazonRDS" ∨ expectedOfferCode = "AmazonRDSOCPULicenseFees")
    (h : Timed.Runs (Clocked started) started
      (getRdsOffer parseUrl sha256 sourceUrl expectedOfferCode) calls result) :
    Resolved id (retryDelay sha256 url) 0 0 calls result := by
  simp only [getRdsOffer, hurl] at h
  rw [if_neg (by tauto)] at h
  exact resolve_resolved 2 rfl h 0

end Resolutions

namespace BudgetWitness

def url : Url where
  text := "https://calculator.aws/pricing/index.json"
  scheme := "https"
  username := ""
  password := none
  port := none
  host := some "calculator.aws"

def unavailable : Response where
  status := 503
  receivedAt := 0
  retryAfter := some "17"
  etag := none
  lastModified := none
  contentLength := none
  chunks := []

def found : Response where
  status := 200
  receivedAt := 0
  retryAfter := none
  etag := some "v1"
  lastModified := none
  contentLength := some 2
  chunks := [some [123], some [125]]

/-- The second attempt is made as soon as the server allows it. -/
def calls : Calls (Option Response) :=
  [⟨0, .elapsed, (0 : Nat), 0⟩, ⟨0, .send (seconds 30), some unavailable, seconds 1⟩,
    ⟨seconds 1, .elapsed, seconds 1, seconds 1⟩, ⟨seconds 1, .sleep (seconds 17), (), seconds 18⟩,
    ⟨seconds 18, .elapsed, seconds 18, seconds 18⟩,
    ⟨seconds 18, .send (seconds 30), some found, seconds 19⟩]

def payload : HttpPayload (List UInt8) where
  sourceUrl := url.text
  sourceVersion := some "v1"
  effectiveAt := none
  body := [123, 125]

theorem run_calls : Timed.Runs (Clocked 0) 0
    (get (fun _ => some url) (fun _ => []) (fun _ => none) 1024 url.text) calls (.ok payload) := by
  have hurl : validateUrl (fun _ => some url) url.text = .ok url := by
    simp only [validateUrl]
    exact if_pos (by decide)
  have hfailed : sendOnce (fun _ => none) 1024 url (some unavailable) =
      .error (.temporary (some (seconds 17))) := by decide
  have hfound : sendOnce (fun _ => none) 1024 url (some found) = .ok payload := by decide
  simp only [get, hurl]
  refine .ask le_rfl le_rfl (.elapsed 0 0) ?_
  refine .ask le_rfl (by decide) (.send 0 (seconds 30) (seconds 1) (some unavailable)) ?_
  simp only [hfailed]
  refine .ask le_rfl le_rfl (.elapsed _ (seconds 1)) ?_
  refine .ask le_rfl (by decide) (.sleep (seconds 1) (seconds 17) (seconds 18) (by decide)) ?_
  refine .ask le_rfl le_rfl (.elapsed _ (seconds 18)) ?_
  refine .ask le_rfl (by decide) (.send (seconds 18) (seconds 30) (seconds 19) (some found)) ?_
  simp only [hfound]
  exact .done

end BudgetWitness

open BudgetWitness in
/-- A server that asks for seventeen seconds gets them. -/
theorem get_within_budget_retried :
    Resolved (sendOnce (fun _ => none) 1024 url) (retryDelay (fun _ => []) url) 0 0 calls
      (.ok payload) :=
  get_within_budget run_calls

end TcoCalculator.HttpClient
