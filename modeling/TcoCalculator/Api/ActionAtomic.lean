/-
What a confirmed action leaves behind when it fails: nothing, unless the write is
followed by another change or by an outage.
-/
import TcoCalculator.Api.AssistantAction

namespace TcoCalculator

open ProjectRepository

variable {D : Type} [DecimalArith D] {timeline : Timeline D}
  {documentBytes : ProjectDocument D → Nat}

/-! ### Calls that store nothing -/

namespace ProjectRepository.Timeline

/-- The calls store nothing. -/
def Quiet (timeline : Timeline D) (documentBytes : ProjectDocument D → Nat)
    (calls : List (Nat × StoreCall D)) : Prop :=
  ∀ call ∈ calls,
    timeline.stateAt documentBytes (call.1 + 1) = timeline.stateAt documentBytes call.1

theorem quiet_nil : Quiet timeline documentBytes [] :=
  fun _ hcall => absurd hcall List.not_mem_nil

theorem quiet_singleton {time : Nat} (asked : StoreCall D)
    (h : timeline.stateAt documentBytes (time + 1) = timeline.stateAt documentBytes time) :
    Quiet timeline documentBytes [(time, asked)] := by
  intro call hcall
  obtain rfl := List.mem_singleton.mp hcall
  exact h

theorem Quiet.append {calls more : List (Nat × StoreCall D)}
    (h : Quiet timeline documentBytes calls) (hmore : Quiet timeline documentBytes more) :
    Quiet timeline documentBytes (calls ++ more) := by
  intro call hcall
  exact (List.mem_append.mp hcall).elim (h call) (hmore call)

end ProjectRepository.Timeline

open ProjectRepository.Timeline

/-! ### Reads and updates of the handlers -/

namespace Projects

variable {start finish : Nat} {calls : List (Nat × StoreCall D)} {ownerId : String}
  {projectId : Uuid}

/-- A read stores nothing; it succeeds with the project as it is stored at its time, and
fails when there is none or the store is out of reach. -/
theorem runs_readProject {problem : RepositoryError → Problem}
    {result : Outcome Problem (ProjectDocument D)}
    (h : Handler.Runs (timeline.Served documentBytes) start
      (readProject ownerId projectId problem) calls finish result) :
    ∃ time, calls = [(time, (ownerId, .get projectId))] ∧ start ≤ time ∧ finish = time + 1 ∧
      Quiet timeline documentBytes calls ∧
      ((∃ stored, result = .ok stored.document ∧
          (timeline.stateAt documentBytes time).value.lookup (ownerId, projectId) = some stored) ∨
        ∃ error, result = .err (problem error) ∧ (timeline.isDown time = true ∨
          (timeline.stateAt documentBytes time).value.lookup (ownerId, projectId) = none)) := by
  obtain ⟨time, answer, rest, rfl, hle, hserved, hrest⟩ := Handler.runs_call_bind.mp h
  have hquiet : Quiet timeline documentBytes [(time, (ownerId, .get projectId))] :=
    quiet_singleton _ (stateAt_of_get hserved.2.1)
  have hfound := hserved.of_get
  cases answer with
  | panic =>
      rcases hfound with ⟨-, hanswer⟩ | ⟨-, hanswer⟩
      · cases hanswer
      · split at hanswer <;> cases hanswer
  | err error =>
      obtain ⟨rfl, rfl, rfl⟩ := Handler.runs_lift.mp hrest
      refine ⟨time, rfl, hle, rfl, hquiet, .inr ⟨error, rfl, ?_⟩⟩
      rcases hfound with ⟨hdown, -⟩ | ⟨-, hanswer⟩
      · exact .inl hdown
      · split at hanswer
        · cases hanswer
        · rename_i hnone
          exact .inr hnone
  | ok answer =>
      rcases hfound with ⟨-, hanswer⟩ | ⟨-, hanswer⟩
      · cases hanswer
      · split at hanswer
        · rename_i stored hstored
          cases hanswer
          obtain ⟨rfl, rfl, rfl⟩ := Handler.runs_pure.mp hrest
          exact ⟨time, rfl, hle, rfl, hquiet, .inl ⟨stored, rfl, hstored⟩⟩
        · cases hanswer

/-- A read that reaches the store finds the project. -/
theorem readProject_runs {problem : RepositoryError → Problem} {time : Nat}
    {stored : StoredProject D} (howner : (timeline.event time).ownerId = ownerId)
    (hcall : (timeline.event time).call = .get projectId) (hle : start ≤ time)
    (hup : timeline.isDown time = false)
    (hfound : (timeline.stateAt documentBytes time).value.lookup (ownerId, projectId) =
      some stored) :
    Handler.Runs (timeline.Served documentBytes) start (readProject ownerId projectId problem)
      [(time, (ownerId, .get projectId))] (time + 1) (.ok stored.document) := by
  have hserved : timeline.Served documentBytes time (ownerId, .get projectId)
      (timeline.answerAt documentBytes time) := ⟨howner, hcall, rfl⟩
  refine Handler.runs_call_bind.mpr ⟨time, _, [], rfl, hle, hserved, ?_⟩
  rcases hserved.of_get with ⟨hdown, -⟩ | ⟨-, hanswer⟩
  · rw [hup] at hdown
    cases hdown
  · rw [hfound] at hanswer
    rw [hanswer]
    exact Handler.runs_pure.mpr ⟨rfl, rfl, rfl⟩

/-- What follows an update stores nothing, and succeeds or fails as the update did. -/
theorem runs_updateAnswered {instancePath : String}
    {answer : Outcome RepositoryError (ProjectDocument D)}
    {result : Outcome Problem (ProjectDocument D)}
    (h : Handler.Runs (timeline.Served documentBytes) start
      (updateAnswered ownerId projectId instancePath answer) calls finish result) :
    Quiet timeline documentBytes calls ∧
      (∀ document, result = .ok document →
        answer = .ok document ∧ calls = [] ∧ finish = start) ∧
      ∀ problem, result = .err problem → ∃ failure, answer = .err failure := by
  cases answer with
  | ok document =>
      obtain ⟨rfl, rfl, rfl⟩ := Handler.runs_pure.mp h
      exact ⟨quiet_nil, by simp, by simp⟩
  | panic =>
      obtain ⟨rfl, -, rfl⟩ := Handler.runs_lift.mp h
      exact ⟨quiet_nil, by simp, by simp⟩
  | err error =>
      cases error with
      | preconditionFailed =>
          obtain ⟨time, reply, rest, rfl, -, ⟨-, hcall, -⟩, h⟩ := Handler.runs_call_bind.mp h
          cases hreply : documentOf reply <;> rw [hreply] at h <;>
            obtain ⟨rfl, -, rfl⟩ := Handler.runs_lift.mp h <;>
            exact ⟨quiet_singleton _ (stateAt_of_get hcall), by simp, by simp⟩
      | notFound | payloadTooLarge | unavailable =>
          obtain ⟨rfl, -, rfl⟩ := Handler.runs_lift.mp h
          exact ⟨quiet_nil, by simp, by simp⟩

omit [DecimalArith D] in
theorem documentOf_eq_ok {answer : StoreAnswer D} {document : ProjectDocument D} :
    documentOf answer = .ok document ↔ answer = .ok (.document document) := by
  rcases answer with (_ | _ | _) | _ | _ <;> simp [documentOf]

omit [DecimalArith D] in
theorem documentOf_eq_err {answer : StoreAnswer D} {failure : RepositoryError} :
    documentOf answer = .err failure ↔ answer = .err failure := by
  rcases answer with (_ | _ | _) | _ | _ <;> simp [documentOf]

/-- An update that succeeds has written. -/
theorem runs_updateProjectDocument_ok {services : Services D} {ifMatch instancePath : String}
    {project : EditableProject D} {document : ProjectDocument D}
    (h : Handler.Runs (timeline.Served documentBytes) start
      (updateProjectDocument services ownerId projectId ifMatch project instancePath) calls finish
      (.ok document)) :
    ∃ read write revision, calls = [(read, (ownerId, .get projectId)),
        (write, (ownerId, .update projectId ifMatch project revision))] ∧
      start ≤ read ∧ read < write ∧ finish = write + 1 ∧
      timeline.Served documentBytes write (ownerId, .update projectId ifMatch project revision)
        (.ok (.document document)) := by
  obtain ⟨_, -, h⟩ := Handler.runs_check_bind_ok.mp h
  obtain ⟨_, current, _, _, rfl, hread, h⟩ := Handler.runs_bind_ok.mp h
  obtain ⟨read, rfl, hle, rfl, -, -⟩ := runs_readProject hread
  obtain ⟨_, -, h⟩ := Handler.runs_check_bind_ok.mp h
  obtain ⟨revision, -, h⟩ := Handler.runs_lift_bind_ok.mp h
  obtain ⟨write, answer, rest, rfl, hlt, hserved, h⟩ := Handler.runs_call_bind.mp h
  obtain ⟨hanswer, rfl, rfl⟩ := (runs_updateAnswered h).2.1 document rfl
  obtain rfl := documentOf_eq_ok.mp hanswer
  exact ⟨read, write, revision, rfl, hle, hlt, rfl, hserved⟩

/-- An update that fails has stored nothing. -/
theorem runs_updateProjectDocument_err {services : Services D} {ifMatch instancePath : String}
    {project : EditableProject D} {problem : Problem}
    (h : Handler.Runs (timeline.Served documentBytes) start
      (updateProjectDocument services ownerId projectId ifMatch project instancePath) calls finish
      (.err problem)) : Quiet timeline documentBytes calls := by
  rcases Handler.runs_check_bind_err.mp h with ⟨rfl, -, -⟩ | ⟨_, -, h⟩
  · exact quiet_nil
  rcases Handler.runs_bind_err.mp h with hread | ⟨_, current, _, _, rfl, hread, h⟩
  · obtain ⟨_, -, -, -, hquiet, -⟩ := runs_readProject hread
    exact hquiet
  obtain ⟨_, -, -, -, hread, -⟩ := runs_readProject hread
  apply hread.append
  rcases Handler.runs_check_bind_err.mp h with ⟨rfl, -, -⟩ | ⟨_, -, h⟩
  · exact quiet_nil
  rcases Handler.runs_lift_bind_err.mp h with ⟨rfl, -, -⟩ | ⟨revision, -, h⟩
  · exact quiet_nil
  obtain ⟨write, answer, rest, rfl, -, hserved, h⟩ := Handler.runs_call_bind.mp h
  obtain ⟨hrest, -, hfailed⟩ := runs_updateAnswered h
  obtain ⟨failure, hfailure⟩ := hfailed problem rfl
  obtain rfl := documentOf_eq_err.mp hfailure
  exact (quiet_singleton _ (stateAt_of_err hserved.2.2)).append hrest

end Projects

/-! ### The action -/

namespace Assistant

variable {sha256 : String → String} {services : Services D} {start finish : Nat}
  {calls : List (Nat × StoreCall D)}

theorem isHeaderValue_projectEtag (version : Nat) :
    Problem.isHeaderValue (projectEtag version) = true := by
  have hdigits : ∀ c ∈ (toString version).toList, c.isDigit = true := by
    rw [Json.toString_nat]
    exact Json.toDigits_isDigit version
  have hquote : Problem.isHeaderValue "\"" = true := by decide +kernel
  rw [Problem.isHeaderValue] at hquote
  simp only [Problem.isHeaderValue, projectEtag, String.toList_append, List.all_append,
    Bool.and_eq_true]
  refine ⟨⟨hquote, List.all_eq_true.mpr fun c hc => ?_⟩, hquote⟩
  have hdigit := hdigits c hc
  simp only [Char.isDigit, Bool.and_eq_true, decide_eq_true_eq] at hdigit
  have hlower : 48 ≤ c.toNat := hdigit.1
  have hupper : c.toNat ≤ 57 := hdigit.2
  simp only [Bool.or_eq_true, Bool.and_eq_true, decide_eq_true_eq]
  exact .inr ⟨by omega, by omega⟩

/-- The rest of the action after a write: it fails only when the project is not
found as it was written. -/
theorem runs_verification_err (written : StoredProject D) {ownerId : String} {projectId : Uuid}
    {expected : EditableProject D} {problem : Problem}
    (hetag : written.document.etag = projectEtag written.version)
    (hwritten : editableProject written.document = expected)
    (h : Handler.Runs (timeline.Served documentBytes) start (do
      let authoritative ← Projects.readProject ownerId projectId mapActionProjectError
      Handler.check (verifyWritten written.document authoritative expected)
      Handler.check (Projects.projectResponse authoritative)) calls finish (.err problem)) :
    ∃ verify, (verify, (ownerId, Call.get projectId)) ∈ calls ∧ start ≤ verify ∧
      (timeline.isDown verify = true ∨
        (timeline.stateAt documentBytes verify).value.lookup (ownerId, projectId) ≠
          some written) := by
  rcases Handler.runs_bind_err.mp h with hread | ⟨_, authoritative, _, _, rfl, hread, h⟩
  · obtain ⟨verify, rfl, hle, -, -, hfailed⟩ := Projects.runs_readProject hread
    refine ⟨verify, List.mem_cons_self, hle, ?_⟩
    rcases hfailed with ⟨_, hok, -⟩ | ⟨_, -, hdown | hnone⟩
    · cases hok
    · exact .inl hdown
    · exact .inr (hnone ▸ nofun)
  · obtain ⟨verify, rfl, hle, -, -, hfound⟩ := Projects.runs_readProject hread
    refine ⟨verify, List.mem_append_left _ List.mem_cons_self, hle, .inr fun hsame => ?_⟩
    rcases hfound with ⟨stored, hok, hstored⟩ | ⟨_, herr, -⟩
    · obtain rfl : written = stored := Option.some.inj (hsame.symm.trans hstored)
      obtain rfl : authoritative = written.document := Outcome.ok.inj hok
      have hverified : verifyWritten written.document written.document expected = .ok () :=
        Fallible.ensure_of ⟨rfl, congrArg ProjectJson.editable hwritten⟩ _
      have hheader : Problem.isHeaderValue written.document.etag = true :=
        hetag ▸ isHeaderValue_projectEtag _
      rw [hverified] at h
      rcases Handler.runs_check_bind_err.mp h with ⟨-, -, hno⟩ | ⟨_, -, h⟩
      · cases hno
      · simp [Projects.projectResponse, ensure, hheader, Outcome.lift] at h
    · cases herr

namespace ActionWitness

open ProjectWitness

def patch : ProjectPatch ℚ := ⟨some "Renewal", none, none, none⟩

def candidate : TargetCandidate ℚ where
  configurationKey := "general-purpose-4"
  azureRegion := "eastus"
  serviceTier := .nextGenerationGeneralPurpose
  hardwareFamily := "Gen5"
  vcores := 4
  zoneRedundant := false
  includedMemoryGb := 20
  supportedMemoryGb := [20]
  storageArchitecture := "general-purpose-standard"
  maximumStorageGb := none

def pricing : Services ℚ where
  engine := ⟨⟨[candidate]⟩, ⟨[]⟩, ⟨[]⟩, Config.formulaVersion, List.cons_ne_nil _ _⟩
  getAws := fun _ => .ok none
  getAzure := fun _ => .ok none
  calculationSlotFree := true

/-- Any digest will do. -/
def digest (text : String) : String := text

def request : ActionRequest ℚ where
  proposalId := proposalId digest "owner" ⟨1⟩ (projectEtag 1) .applyProjectPatch patch
  action := .applyProjectPatch
  projectId := ⟨1⟩
  expectedEtag := projectEtag 1
  patch := patch

def readEvent : Event ℚ := ⟨noon, "owner", .get ⟨1⟩⟩

/-- The project is created, read twice, written and read again; the last read may
fall into an outage. -/
def schedule (outage : Bool) : Timeline ℚ where
  event
    | 0 => createEvent
    | 3 => updateEvent "Renewal"
    | _ => readEvent
  isDown time := outage && time == 4

theorem isDown_schedule (outage : Bool) {time : Nat} (h : time ≠ 4) :
    (schedule outage).isDown time = false := by
  simp [schedule, h]

theorem stateAt_schedule (outage : Bool) {time : Nat} (hfirst : 1 ≤ time) (hlast : time ≤ 3) :
    (schedule outage).stateAt bytes time = created := by
  have hcreated : (schedule outage).stateAt bytes 1 = created := by
    rw [Timeline.stateAt, isDown_schedule outage (by decide)]
    rfl
  have hsecond : (schedule outage).stateAt bytes 2 = (schedule outage).stateAt bytes 1 :=
    stateAt_of_get rfl
  have hthird : (schedule outage).stateAt bytes 3 = (schedule outage).stateAt bytes 2 :=
    stateAt_of_get rfl
  interval_cases time
  · exact hcreated
  · exact hsecond.trans hcreated
  · exact hthird.trans (hsecond.trans hcreated)

/-- The project as created. -/
theorem lookup_created : ∃ timestamp, created.value.lookup ("owner", ⟨1⟩) = some
    ⟨freshDocument "owner" ⟨1⟩ (project "Licensing") none timestamp (projectEtag 1), 1⟩ := by
  have hanswer : (create bytes noon ⟨1⟩ "owner" (project "Licensing") none
      emptyRepository).1.map (fun _ => ()) = .ok () := by
    decide +kernel
  have hvalue : created = (create bytes noon ⟨1⟩ "owner" (project "Licensing") none
      emptyRepository).2 := rfl
  obtain ⟨failure, hcreate⟩ | ⟨timestamp, hcreate⟩ := create_cases noon ⟨1⟩ "owner"
    (project "Licensing") none emptyRepository
  · rw [hcreate] at hanswer
    cases hanswer
  · refine ⟨timestamp, ?_⟩
    rw [hvalue, hcreate, AList.lookup_insert]

theorem validate_renewal : (project "Renewal").validate = [] := by decide +kernel

/-- The write succeeds, and the action goes on to read the project back. -/
theorem action_schedule (outage : Bool) : ∃ written : StoredProject ℚ,
    ((schedule outage).stateAt bytes 4).value.lookup ("owner", ⟨1⟩) = some written ∧
    written.document.etag = projectEtag written.version ∧
    editableProject written.document = project "Renewal" ∧
    (schedule outage).answerAt bytes 3 = .ok (.document written.document) ∧
    ∀ finish calls result, Handler.Runs ((schedule outage).Served bytes) 4 (do
        let authoritative ← Projects.readProject "owner" ⟨1⟩ mapActionProjectError
        Handler.check (verifyWritten written.document authoritative (project "Renewal"))
        Handler.check (Projects.projectResponse authoritative)) calls finish result →
      Handler.Runs ((schedule outage).Served bytes) 1
        (action digest pricing (.ok (some "owner")) (some actionConfirmationValue) (.ok request))
        ([(1, ("owner", .get ⟨1⟩))] ++ ([(2, ("owner", .get ⟨1⟩)),
          (3, ("owner", .update ⟨1⟩ (projectEtag 1) (project "Renewal") none))] ++ calls))
        finish result := by
  have hanswer : ((schedule outage).answerAt bytes 3).map (fun _ => ()) = .ok () := by
    rw [answerAt, isDown_schedule outage (by decide), stateAt_schedule outage (by decide)
      (by decide), if_neg Bool.false_ne_true]
    change (perform bytes (updateEvent "Renewal") created).1.map (fun _ => ()) = .ok ()
    decide +kernel
  obtain ⟨answer, hok, -⟩ := Outcome.map_eq_ok.mp hanswer
  obtain ⟨stored, timestamp, -, -, hwritten, rfl⟩ := of_update rfl hok
  obtain ⟨created, hcreated⟩ := lookup_created
  have hfound : ∀ time, 1 ≤ time → time ≤ 3 →
      ((schedule outage).stateAt bytes time).value.lookup ("owner", ⟨1⟩) = some
        ⟨freshDocument "owner" ⟨1⟩ (project "Licensing") none created (projectEtag 1), 1⟩ := by
    intro time hfirst hlast
    rw [stateAt_schedule outage hfirst hlast, hcreated]
  refine ⟨_, hwritten, rfl, rfl, hok, fun finish calls result hrest => ?_⟩
  have hread : ∀ problem, Handler.Runs ((schedule outage).Served bytes) 1
      (Projects.readProject "owner" ⟨1⟩ problem) [(1, ("owner", .get ⟨1⟩))] 2
      (.ok (freshDocument "owner" ⟨1⟩ (project "Licensing") none created (projectEtag 1))) :=
    fun problem => Projects.readProject_runs (by rfl) (by rfl) le_rfl
      (isDown_schedule outage (by decide)) (hfound 1 (by decide) (by decide))
  have hreread : ∀ problem, Handler.Runs ((schedule outage).Served bytes) 2
      (Projects.readProject "owner" ⟨1⟩ problem) [(2, ("owner", .get ⟨1⟩))] 3
      (.ok (freshDocument "owner" ⟨1⟩ (project "Licensing") none created (projectEtag 1))) :=
    fun problem => Projects.readProject_runs (by rfl) (by rfl) le_rfl
      (isDown_schedule outage (by decide)) (hfound 2 (by decide) (by decide))
  refine Handler.Runs.check_bind rfl (Handler.Runs.check_bind (Fallible.ensure_of rfl _)
    (Handler.Runs.check_bind rfl (Handler.Runs.check_bind (Fallible.ensure_of rfl _)
    ((hread _).bind (Handler.Runs.check_bind (Fallible.ensure_of rfl _)
    (Handler.Runs.bind ?_ hrest))))))
  refine Handler.Runs.check_bind (Fallible.ensure_of validate_renewal _) ((hreread _).bind
    (Handler.Runs.check_bind (Fallible.ensure_of rfl _)
    (Handler.Runs.lift_bind (if_pos (beq_self_eq_true _)) ?_)))
  refine Handler.runs_call_bind.mpr ⟨3, _, [], rfl, le_rfl, ⟨rfl, rfl, hok⟩, ?_⟩
  exact Handler.runs_pure.mpr ⟨rfl, rfl, rfl⟩

/-- The calls of the action. -/
def actionCalls : List (Nat × StoreCall ℚ) := [
  (1, ("owner", .get ⟨1⟩)),
  (2, ("owner", .get ⟨1⟩)),
  (3, ("owner", .update ⟨1⟩ (projectEtag 1) (project "Renewal") none)),
  (4, ("owner", .get ⟨1⟩))]

/-- The last read falls into the outage. -/
theorem action_outage : Handler.Runs ((schedule true).Served bytes) 1
    (action digest pricing (.ok (some "owner")) (some actionConfirmationValue) (.ok request))
    actionCalls 5 (.err (.internal actionInstance)) := by
  obtain ⟨written, -, -, -, -, hrest⟩ := action_schedule true
  refine hrest 5 [(4, ("owner", .get ⟨1⟩))] _ (Handler.runs_bind_err.mpr (.inl ?_))
  refine Handler.runs_call_bind.mpr ⟨4, .err .unavailable, [], rfl, le_rfl, ⟨rfl, rfl, rfl⟩, ?_⟩
  exact Handler.runs_lift.mpr ⟨rfl, rfl, rfl⟩

end ActionWitness

open ActionWitness ProjectWitness

end Assistant

end TcoCalculator
