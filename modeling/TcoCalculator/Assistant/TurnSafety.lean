/-
A turn is bounded and safe against any model: what the preflight lets through,
what one round keeps, and from it what every turn does.
-/
import TcoCalculator.Assistant.Turn
import TcoCalculator.Library.KeyedGroups

namespace TcoCalculator.Assistant

variable {D : Type} [DecimalArith D]

/-! ### What the preflight lets through -/

/-- The call is what a proposed one stands for: a registered tool, available in
the context, with arguments that parsed. -/
def Accepts (library : JsonLibrary D) (context : TurnContext) (proposed : ProposedToolCall)
    (call : ValidatedToolCall D) : Prop :=
  call.id = proposed.id ∧ find proposed.name = some call.definition ∧
    call.definition.isAvailable context = true ∧
    parseInput library call.definition proposed.arguments = .ok call.input

theorem preflightCall_eq_ok {library : JsonLibrary D} {context : TurnContext}
    {taken : List String} {mutatingCalls : Nat} {proposed : ProposedToolCall}
    {call : ValidatedToolCall D}
    (h : preflightCall library context taken mutatingCalls proposed = .ok call) :
    proposed.id ∉ taken ∧ Accepts library context proposed call := by
  simp only [preflightCall] at h
  split at h
  · exact nomatch h
  · rename_i hid
    split at h
    · exact nomatch h
    · rename_i definition hfind
      split at h
      · exact nomatch h
      · split at h
        · exact nomatch h
        · rename_i havailable
          split at h
          · exact nomatch h
          · split at h
            · exact nomatch h
            · exact nomatch h
            · rename_i input hinput
              split at h
              · exact nomatch h
              · obtain rfl := Outcome.ok.inj h
                refine ⟨?_, rfl, hfind, ?_, hinput⟩
                · intro htaken
                  simp [htaken] at hid
                · simpa using havailable

theorem preflightCalls_eq_ok {library : JsonLibrary D} {context : TurnContext}
    {batch : List ProposedToolCall} {taken : List String} {mutatingCalls : Nat}
    {accepted : List (ValidatedToolCall D)}
    (h : preflightCalls library context taken mutatingCalls batch = .ok accepted) :
    List.Forall₂ (Accepts library context) batch accepted ∧
      (accepted.map ValidatedToolCall.id).Nodup ∧
      ∀ call ∈ accepted, call.id ∉ taken := by
  induction batch generalizing taken mutatingCalls accepted with
  | nil =>
      obtain rfl : [] = accepted := by simpa [preflightCalls] using h
      simp
  | cons proposed rest ih =>
      simp only [preflightCalls, Outcome.bind_eq_ok, Outcome.pure_eq_ok] at h
      obtain ⟨call, hcall, others, hothers, rfl⟩ := h
      obtain ⟨hfresh, haccepts⟩ := preflightCall_eq_ok hcall
      obtain ⟨hall, hnodup, hapart⟩ := ih hothers
      refine ⟨.cons haccepts hall, ?_, ?_⟩
      · rw [List.map_cons, List.nodup_cons]
        refine ⟨fun hmem => ?_, hnodup⟩
        obtain ⟨other, hother, hid⟩ := List.mem_map.mp hmem
        exact hapart other hother (by simp [hid, haccepts.1])
      · intro other hother
        rcases List.mem_cons.mp hother with rfl | hother
        · rwa [haccepts.1]
        · exact fun htaken => hapart other hother (List.mem_cons_of_mem _ htaken)

theorem preflight_eq_ok {library : JsonLibrary D} {context : TurnContext} {budget : TurnBudget}
    {executed : List String} {batch : List ProposedToolCall}
    {accepted : List (ValidatedToolCall D)}
    (h : preflight library context budget executed batch = .ok accepted) :
    List.Forall₂ (Accepts library context) batch accepted ∧
      (accepted.map ValidatedToolCall.id).Nodup ∧ (∀ call ∈ accepted, call.id ∉ executed) ∧
      budget.toolCalls + accepted.length ≤ maxToolCalls := by
  simp only [preflight] at h
  split at h
  · exact nomatch h
  · rename_i hsome
    split at h
    · exact nomatch h
    · split at h
      · exact nomatch h
      · rename_i hroom
        obtain ⟨hall, hnodup, hapart⟩ := preflightCalls_eq_ok h
        have hlength := hall.length_eq
        have hpos := List.length_pos_iff.mpr hsome
        simp only [TurnBudget.remainingToolCalls, Nat.not_lt] at hroom
        exact ⟨hall, hnodup, hapart, by omega⟩

/-! ### Measures of a history -/

def respondCount : History D → Nat
  | [] => 0
  | .respond _ :: past => respondCount past + 1
  | _ :: past => respondCount past

def imagesSent : History D → Nat
  | [] => 0
  | .respond request :: past => imagesSent past + if request.image.isSome then 1 else 0
  | _ :: past => imagesSent past

/-- The calls dispatched, the latest first. -/
def dispatchedCalls : History D → List (ValidatedToolCall D)
  | [] => []
  | .dispatch call :: past => call :: dispatchedCalls past
  | _ :: past => dispatchedCalls past

def dispatchedIds (history : History D) : List String :=
  (dispatchedCalls history).map ValidatedToolCall.id

/-- The calls of all accepted batches. -/
def acceptedCount : History D → Nat
  | [] => 0
  | .preflight _ (.ok accepted) :: past => acceptedCount past + accepted.length
  | _ :: past => acceptedCount past

/-- The latest batch and what was accepted of it; nothing once the model has been
asked again, and nothing when it was rejected. -/
def lastAccepted : History D → Option (List ProposedToolCall × List (ValidatedToolCall D))
  | .preflight batch (.ok accepted) :: _ => some (batch, accepted)
  | .dispatch _ :: past | .store _ _ :: past => lastAccepted past
  | _ => none

def chargedRequests (context : TurnContext) : Nat :=
  if context.classifiedProjectType.isSome then
    min maxModelRequests context.classificationModelRequests.toNat
  else 0

def chargedToolCalls (context : TurnContext) : Nat :=
  if context.classifiedProjectType.isSome then 1 else 0

def budgetOf (context : TurnContext) (history : History D) : TurnBudget where
  modelRequests := chargedRequests context + respondCount history
  toolCalls := chargedToolCalls context + acceptedCount history

def IsRead : ProjectRepository.Call D → Prop
  | .get _ | .list => True
  | _ => False

/-- Every verdict is the preflight of a batch just proposed by the model, and
every dispatched call is one of the latest batch, all of which was accepted. -/
def Disciplined (host : Host D) (context : TurnContext) : History D → Prop
  | [] => True
  | .preflight batch verdict :: past =>
      (∃ request earlier response, past = .respond request :: earlier ∧
        host.respond earlier request = .ok response ∧ response.output = .toolCalls batch) ∧
      verdict = preflight host.jsonLibrary context (budgetOf context past) (dispatchedIds past)
        batch ∧
      Disciplined host context past
  | .dispatch call :: past =>
      (∃ batch accepted, lastAccepted past = some (batch, accepted) ∧ call ∈ accepted) ∧
      Disciplined host context past
  | .respond _ :: past => Disciplined host context past
  | .store _ call :: past => IsRead call ∧ Disciplined host context past

/-- What holds of all that a turn has done, at any moment. -/
structure Lawful (host : Host D) (context : TurnContext) (history : History D) : Prop where
  requests : chargedRequests context + respondCount history ≤ maxModelRequests
  calls : chargedToolCalls context + acceptedCount history ≤ maxToolCalls
  dispatched : (dispatchedCalls history).length ≤ acceptedCount history
  nodup : (dispatchedIds history).Nodup
  disciplined : Disciplined host context history
  images : imagesSent history ≤ 2

/-- The requests that may still show the image. -/
def imagesPending (state : TurnState D) : Nat :=
  (if state.image.isSome then 1 else 0) +
    if state.schemaRepairPending || !state.schemaRepairAttempted then 1 else 0

/-- The state at the head of the loop says what the turn has done. -/
structure Coherent (host : Host D) (context : TurnContext) (state : TurnState D)
    (history : History D) : Prop where
  lawful : Lawful host context history
  budget : state.budget = budgetOf context history
  executed : state.executedCallIds = dispatchedIds history
  images : imagesSent history + imagesPending state ≤ 2
  repair : state.schemaRepairPending = true → state.schemaRepairAttempted = true

open Locked

/-! ### Dispatch -/

section Dispatch

variable {host : Host D} {context : TurnContext} {P : History D → Prop}

omit [DecimalArith D] in
theorem withSelectedProject_triple {next : EditableProject D → TurnM D (ToolOutcome D)}
    (hread : ∀ history ownerId projectId, P history → P (.store ownerId (.get projectId) :: history))
    (hnext : ∀ project, Triple P (next project) (fun _ => P) P) :
    Triple P (withSelectedProject host context next) (fun _ => P) P := by
  simp only [withSelectedProject]
  split
  · exact Triple.pure fun _ h => h
  · apply Triple.read_bind
    intro history hhistory
    refine Triple.write_bind P ?_ ?_
    · rintro _ rfl
      exact hread _ _ _ hhistory
    · split
      · exact hnext _
      · exact Triple.pure fun _ h => h
      · exact Triple.panic fun _ h => h

/-- A tool does nothing to the history but read the project store. -/
theorem dispatch_triple (input : ToolInput D)
    (hread : ∀ history ownerId projectId,
      P history → P (.store ownerId (.get projectId) :: history)) :
    Triple P (dispatch host context input) (fun _ => P) P := by
  cases input with
  | agentCapabilities => exact Triple.pure fun _ h => h
  | applicationHelp input => exact Triple.pure fun _ h => h
  | currentProject =>
      exact withSelectedProject_triple hread fun _ => Triple.pure fun _ h => h
  | validateProjectPatch patch =>
      apply withSelectedProject_triple hread
      intro project
      exact Triple.ite (fun _ => Triple.pure fun _ h => h) fun _ => Triple.pure fun _ h => h
  | calculateProjectDraft patch =>
      apply withSelectedProject_triple hread
      intro project
      apply Triple.ite
      · exact fun _ => Triple.pure fun _ h => h
      · intro _
        apply Triple.read_bind
        intro history hhistory
        apply Triple.ite
        · exact fun _ => Triple.pure fun _ h => h ▸ hhistory
        · intro _
          split
          · exact Triple.pure fun _ h => h ▸ hhistory
          · exact Triple.pure fun _ h => h ▸ hhistory
          · exact Triple.panic fun _ h => h ▸ hhistory
  | stageProjectPatch input =>
      exact withSelectedProject_triple hread fun _ => Triple.pure fun _ h => h
  | stageNewProjectDraft input =>
      apply Triple.read_bind
      intro history hhistory
      exact Triple.expect (fun _ _ _ h => h ▸ hhistory) fun _ h => h ▸ hhistory

end Dispatch

/-! ### One round -/

section Round

variable {host : Host D} {context : TurnContext} {state : TurnState D} {history : History D}

/-- A read of the store changes no measure. -/
theorem Coherent.store (h : Coherent host context state history) (ownerId : String)
    (projectId : Uuid) : Coherent host context state (.store ownerId (.get projectId) :: history) :=
  ⟨⟨h.lawful.requests, h.lawful.calls, h.lawful.dispatched, h.lawful.nodup,
    ⟨trivial, h.lawful.disciplined⟩, h.lawful.images⟩, h.budget, h.executed, h.images, h.repair⟩

/-- In the middle of a batch: the calls still to dispatch are accepted and new. -/
structure Dispatching (host : Host D) (context : TurnContext)
    (remaining : List (ValidatedToolCall D)) (state : TurnState D) (history : History D) :
    Prop where
  coherent : Coherent host context state history
  last : ∃ batch accepted, lastAccepted history = some (batch, accepted) ∧
    ∀ call ∈ remaining, call ∈ accepted
  nodup : (remaining.map ValidatedToolCall.id).Nodup
  apart : ∀ call ∈ remaining, call.id ∉ dispatchedIds history
  room : (dispatchedCalls history).length + remaining.length ≤ acceptedCount history

theorem Dispatching.store {remaining : List (ValidatedToolCall D)}
    (h : Dispatching host context remaining state history) (ownerId : String) (projectId : Uuid) :
    Dispatching host context remaining state (.store ownerId (.get projectId) :: history) :=
  ⟨h.coherent.store ownerId projectId, h.last, h.nodup, h.apart, h.room⟩

/-- The next call of the batch is dispatched. -/
theorem Dispatching.dispatch {call : ValidatedToolCall D} {rest : List (ValidatedToolCall D)}
    (h : Dispatching host context (call :: rest) state history) :
    Dispatching host context rest
      { state with executedCallIds := call.id :: state.executedCallIds }
      (.dispatch call :: history) := by
  obtain ⟨batch, accepted, hlast, hsub⟩ := h.last
  obtain ⟨hnew, hnodup⟩ := List.nodup_cons.mp h.nodup
  have hlawful := h.coherent.lawful
  have hroom := h.room
  rw [List.length_cons] at hroom
  refine ⟨⟨⟨hlawful.requests, hlawful.calls, ?_, ?_, ?_, hlawful.images⟩, h.coherent.budget, ?_,
    h.coherent.images, h.coherent.repair⟩, ?_, hnodup, ?_, ?_⟩
  · simp only [dispatchedCalls, acceptedCount, List.length_cons]
    omega
  · exact List.nodup_cons.mpr ⟨h.apart call List.mem_cons_self, hlawful.nodup⟩
  · exact ⟨⟨batch, accepted, hlast, hsub call List.mem_cons_self⟩, hlawful.disciplined⟩
  · exact congrArg (call.id :: ·) h.coherent.executed
  · exact ⟨batch, accepted, hlast, fun other hother => hsub other (List.mem_cons_of_mem _ hother)⟩
  · intro other hother hmem
    rcases List.mem_cons.mp hmem with hid | hmem
    · exact hnew (List.mem_map.mpr ⟨other, hother, hid⟩)
    · exact h.apart other (List.mem_cons_of_mem _ hother) hmem
  · simp only [dispatchedCalls, acceptedCount, List.length_cons]
    omega

theorem Dispatching.recordOutcome {remaining : List (ValidatedToolCall D)}
    (h : Dispatching host context remaining state history) (call : ValidatedToolCall D)
    (outcome : ToolOutcome D) :
    Dispatching host context remaining (recordOutcome state call outcome) history :=
  ⟨⟨h.coherent.lawful, h.coherent.budget, h.coherent.executed, h.coherent.images,
    h.coherent.repair⟩, h.last, h.nodup, h.apart, h.room⟩

theorem dispatchCalls_triple (requests : Nat) (remaining : List (ValidatedToolCall D))
    (state : TurnState D) :
    Triple (fun history => Dispatching host context remaining state history ∧
        respondCount history = requests)
      (dispatchCalls host context remaining state)
      (fun next history => Coherent host context next history ∧ respondCount history = requests)
      (Lawful host context) := by
  induction remaining generalizing state with
  | nil => exact Triple.pure fun _ h => ⟨h.1.coherent, h.2⟩
  | cons call rest ih =>
      apply Triple.read_bind
      intro history hhistory
      apply Triple.ite
      · exact fun _ => Triple.fail fun _ h => h ▸ hhistory.1.coherent.lawful
      · intro _
        refine Triple.write_bind (fun history =>
          Dispatching host context rest
            { state with executedCallIds := call.id :: state.executedCallIds } history ∧
          respondCount history = requests) ?_ ?_
        · rintro _ rfl
          exact ⟨hhistory.1.dispatch, hhistory.2⟩
        · apply Triple.bind
          · exact (dispatch_triple call.input fun history ownerId projectId h =>
              ⟨h.1.store ownerId projectId, h.2⟩).mono (fun _ => id) (fun _ _ => id)
                fun _ h => h.1.coherent.lawful
          · intro outcome
            exact (ih _).mono (fun _ h => ⟨h.1.recordOutcome call outcome, h.2⟩)
              (fun _ _ => id) fun _ => id

/-- The batch was proposed in the latest response. -/
def Proposed (host : Host D) (proposed : List ProposedToolCall) (history : History D) : Prop :=
  ∃ request earlier response, history = .respond request :: earlier ∧
    host.respond earlier request = .ok response ∧ response.output = .toolCalls proposed

theorem Lawful.preflight {proposed : List ProposedToolCall} (h : Lawful host context history)
    (hproposed : Proposed host proposed history) :
    Lawful host context (.preflight proposed (preflight host.jsonLibrary context
      (budgetOf context history) (dispatchedIds history) proposed) :: history) := by
  have hcalls := h.calls
  have hdispatched := h.dispatched
  refine ⟨h.requests, ?_, ?_, h.nodup, ⟨hproposed, rfl, h.disciplined⟩, h.images⟩
  · cases hverdict : Assistant.preflight host.jsonLibrary context (budgetOf context history)
      (dispatchedIds history) proposed with
    | ok accepted =>
        have hroom := (preflight_eq_ok hverdict).2.2.2
        simp only [budgetOf] at hroom
        simp only [acceptedCount]
        omega
    | err error => exact hcalls
    | panic => exact hcalls
  · cases Assistant.preflight host.jsonLibrary context (budgetOf context history)
      (dispatchedIds history) proposed with
    | ok accepted =>
        simp only [dispatchedCalls, acceptedCount]
        omega
    | err error => exact hdispatched
    | panic => exact hdispatched

/-- A whole batch: every call is dispatched, or none. -/
theorem answerToolCalls_triple (requests : Nat) (imageTurn : Bool)
    (proposed : List ProposedToolCall) (state : TurnState D) :
    Triple (fun history => (Coherent host context state history ∧ Proposed host proposed history) ∧
        respondCount history = requests)
      (answerToolCalls host context imageTurn proposed state)
      (fun next history => Coherent host context next history ∧ respondCount history = requests)
      (Lawful host context) := by
  rintro history ⟨⟨hcoherent, hproposed⟩, hrequests⟩
  have hlawful := hcoherent.lawful.preflight hproposed
  rw [← hcoherent.budget, ← hcoherent.executed] at hlawful
  revert hlawful
  simp only [answerToolCalls, record, write_bind]
  cases hverdict : preflight host.jsonLibrary context state.budget state.executedCallIds
    proposed with
  | panic => exact id
  | err error =>
      intro hlawful
      by_cases hrepair : mayRepairSchema context imageTurn state error = true
      · have hunrepaired : state.schemaRepairAttempted = false := by
          simp only [mayRepairSchema, Bool.and_eq_true, Bool.not_eq_true'] at hrepair
          exact hrepair.2
        simp only [hrepair, if_true, pure_apply]
        refine ⟨⟨hlawful, hcoherent.budget, hcoherent.executed, ?_, fun _ => rfl⟩, hrequests⟩
        have himages := hcoherent.images
        simp only [imagesPending, hunrepaired, Bool.not_false, Bool.or_true, if_true] at himages
        simpa [imagesPending, imagesSent] using himages
      · simp only [hrepair]
        exact hlawful
  | ok accepted =>
      intro hlawful
      obtain ⟨-, hnodup, hapart, hroom⟩ := preflight_eq_ok hverdict
      have hcharged := TurnBudget.chargeToolCalls_eq_ok.mpr ⟨hroom, rfl⟩
      simp only [hcharged]
      apply dispatchCalls_triple requests accepted
      refine ⟨⟨⟨hlawful, ?_, hcoherent.executed, hcoherent.images, hcoherent.repair⟩,
        ⟨proposed, accepted, rfl, fun _ => id⟩, hnodup, ?_, ?_⟩, hrequests⟩
      · simp only [hcoherent.budget, budgetOf, respondCount, acceptedCount, Nat.add_assoc]
      · rw [hcoherent.executed] at hapart
        exact hapart
      · exact Nat.add_le_add_right hcoherent.lawful.dispatched _

/-- The model is asked once more, with the image or without. -/
theorem Coherent.respond {budget : TurnBudget} (h : Coherent host context state history)
    (hbudget : state.budget.chargeModelRequest = .ok budget) (transcript : List TranscriptMessage)
    (imageTurn : Bool) (schemaRepairImage : Option ModelImage) (remainingMillis : Nat)
    (routedModel : Option String) :
    Coherent host context
      (afterRequest { state with budget := budget, transcript := transcript } routedModel)
      (.respond (nextRequest host context imageTurn schemaRepairImage
        { state with budget := budget, transcript := transcript } remainingMillis) :: history) := by
  obtain ⟨hroom, rfl⟩ := TurnBudget.chargeModelRequest_eq_ok.mp hbudget
  have hlawful := h.lawful
  have hrequests : state.budget.modelRequests = chargedRequests context + respondCount history :=
    congrArg TurnBudget.modelRequests h.budget
  have himages : imagesSent (.respond (nextRequest host context imageTurn schemaRepairImage
        { state with
          budget := { state.budget with modelRequests := state.budget.modelRequests + 1 },
          transcript := transcript } remainingMillis) :: history) +
      imagesPending (afterRequest { state with transcript := transcript } routedModel) ≤ 2 := by
    have hpending := h.images
    have hattempted := h.repair
    simp only [imagesSent, nextRequest, imagesPending, afterRequest] at hpending ⊢
    cases hrepair : state.schemaRepairPending with
    | true =>
        simp only [hrepair, hattempted hrepair, if_true, Bool.not_true, Bool.or_false,
          Bool.false_eq_true, if_false] at hpending ⊢
        split_ifs at hpending ⊢ <;> omega
    | false =>
        simp only [hrepair, Bool.false_or, Bool.false_eq_true, if_false, Option.isSome_none]
          at hpending ⊢
        omega
  refine ⟨⟨?_, hlawful.calls, hlawful.dispatched, hlawful.nodup, hlawful.disciplined, ?_⟩, ?_,
    h.executed, himages, nofun⟩
  · simp only [respondCount]
    omega
  · exact (Nat.le_add_right _ _).trans himages
  · simp only [afterRequest, budgetOf, respondCount, acceptedCount, TurnBudget.mk.injEq]
    exact ⟨by omega, congrArg TurnBudget.toolCalls h.budget⟩

/-- An answer rests on a dispatched call. -/
theorem answerMessage_triple (imageTurn : Bool) (answer : String) (state : TurnState D) :
    Triple (Coherent host context state) (answerMessage context imageTurn answer state)
      (fun _ history => Lawful host context history ∧ dispatchedCalls history ≠ [])
      (Lawful host context) := by
  apply Triple.ite
  · exact fun _ => Triple.fail fun _ h => h.lawful
  · intro hexecuted
    apply Triple.pure
    intro history h
    refine ⟨h.lawful, fun hnone => hexecuted ?_⟩
    rw [h.executed, dispatchedIds, hnone, List.map_nil]

/-- What a round leaves: a coherent next state, or an answer that rests on a tool. -/
def RoundDone (host : Host D) (context : TurnContext) (requests : Nat) :
    TurnState D ⊕ TurnOutcome D → History D → Prop
  | .inl next, history => Coherent host context next history ∧ respondCount history = requests + 1
  | .inr _, history => Lawful host context history ∧ dispatchedCalls history ≠ []

theorem askModel_triple {budget : TurnBudget} (requests : Nat) (imageTurn : Bool)
    (schemaRepairImage : Option ModelImage) (state : TurnState D)
    (hbudget : state.budget.chargeModelRequest = .ok budget)
    (transcript : List TranscriptMessage) :
    Triple (fun history => Coherent host context state history ∧ respondCount history = requests)
      (askModel host context imageTurn schemaRepairImage
        { state with budget := budget, transcript := transcript })
      (RoundDone host context requests) (Lawful host context) := by
  apply Triple.read_bind
  rintro history ⟨hcoherent, rfl⟩
  have hasked := hcoherent.respond hbudget transcript imageTurn schemaRepairImage
    (host.remainingMillis history)
  refine Triple.write_bind (· = .respond (nextRequest host context imageTurn
    schemaRepairImage { state with budget := budget, transcript := transcript }
    (host.remainingMillis history)) :: history) ?_ ?_
  · rintro _ rfl
    rfl
  · cases hresponse : host.respond history (nextRequest host context imageTurn schemaRepairImage
      { state with budget := budget, transcript := transcript }
      (host.remainingMillis history)) with
    | error error => exact Triple.fail fun _ h => h ▸ (hasked none).lawful
    | ok response =>
        dsimp only
        cases houtput : response.output with
        | message answer =>
            apply Triple.bind ((answerMessage_triple imageTurn answer _).mono ?_ (fun _ _ => id)
              fun _ => id)
            · exact fun outcome => Triple.pure fun _ h => h
            · rintro _ rfl
              exact hasked response.routedModel
        | toolCalls proposed =>
            apply Triple.bind ((answerToolCalls_triple (respondCount history + 1) imageTurn proposed
              _).mono ?_ (fun _ _ => id) fun _ => id)
            · exact fun next => Triple.pure fun _ h => h
            · rintro _ rfl
              exact ⟨⟨hasked response.routedModel, _, history, response, rfl, hresponse, houtput⟩,
                rfl⟩

theorem turnStep_triple (requests : Nat) (imageTurn : Bool)
    (schemaRepairImage : Option ModelImage) (state : TurnState D) :
    Triple (fun history => Coherent host context state history ∧ respondCount history = requests)
      (turnStep host context imageTurn schemaRepairImage state)
      (RoundDone host context requests) (Lawful host context) := by
  apply Triple.read_bind
  intro history hhistory
  apply Triple.ite
  · exact fun _ => Triple.fail fun _ h => h ▸ hhistory.1.lawful
  · intro _
    cases hbudget : state.budget.chargeModelRequest with
    | error error => exact Triple.fail fun _ h => h ▸ hhistory.1.lawful
    | ok budget =>
        dsimp only
        cases compact state.transcript (nextInstruction host context imageTurn state) with
        | error error => exact Triple.fail fun _ h => h ▸ hhistory.1.lawful
        | ok transcript =>
            exact (askModel_triple requests imageTurn schemaRepairImage state hbudget
              transcript).mono (fun _ h => h ▸ hhistory) (fun _ _ => id) fun _ => id

/-- The loop: a turn not done after some rounds has asked the model in each. -/
theorem turnLoop_triple (rounds requests : Nat) (imageTurn : Bool)
    (schemaRepairImage : Option ModelImage) (state : TurnState D) :
    Triple (fun history => Coherent host context state history ∧ respondCount history = requests)
      (turnLoop host context imageTurn schemaRepairImage rounds state)
      (fun result history => Lawful host context history ∧ match result with
        | none => respondCount history = requests + rounds
        | some _ => dispatchedCalls history ≠ [])
      (Lawful host context) := by
  induction rounds generalizing requests state with
  | zero => exact Triple.pure fun _ h => ⟨h.1.lawful, h.2⟩
  | succ rounds ih =>
      apply Triple.bind (turnStep_triple requests imageTurn schemaRepairImage state)
      intro result
      cases result with
      | inl next =>
          refine (ih (requests + 1) next).mono (fun _ => id) ?_ fun _ => id
          rintro (_ | outcome) history h
          · exact ⟨h.1, h.2.trans (by omega)⟩
          · exact h
      | inr outcome => exact Triple.pure fun _ h => h

end Round

/-! ### Every turn -/

theorem chargeModelRequests_eq_ok {requests : Nat} {budget charged : TurnBudget}
    (h : chargeModelRequests requests budget = .ok charged) (hbudget : budget.modelRequests ≤ 8) :
    budget.modelRequests + requests ≤ maxModelRequests ∧
      charged = { budget with modelRequests := budget.modelRequests + requests } := by
  induction requests generalizing budget with
  | zero =>
      obtain rfl := Except.ok.inj h
      exact ⟨hbudget, rfl⟩
  | succ requests ih =>
      simp only [chargeModelRequests, Fallible.bind_eq_ok, TurnBudget.chargeModelRequest_eq_ok] at h
      obtain ⟨next, ⟨hroom, rfl⟩, hrest⟩ := h
      obtain ⟨hle, rfl⟩ := ih hrest hroom
      dsimp only at hle
      exact ⟨by omega, by simp only [TurnBudget.mk.injEq, and_true]; omega⟩

omit [DecimalArith D] in
theorem openingBudget_eq_ok {context : TurnContext} {budget : TurnBudget}
    (h : openingBudget context = .ok budget) : budget = budgetOf context ([] : History D) ∧
      budget.modelRequests ≤ maxModelRequests := by
  simp only [openingBudget] at h
  by_cases hclassified : context.classifiedProjectType.isSome = true
  · simp only [hclassified, if_true, Fallible.bind_eq_ok] at h
    obtain ⟨charged, hcharged, hcalls⟩ := h
    obtain ⟨hroom, rfl⟩ := chargeModelRequests_eq_ok hcharged (by decide)
    obtain ⟨-, rfl⟩ := TurnBudget.chargeToolCalls_eq_ok.mp hcalls
    simp only [TurnBudget.new, Nat.zero_add] at hroom
    simp [budgetOf, chargedRequests, chargedToolCalls, hclassified, TurnBudget.new, hroom,
      respondCount, acceptedCount]
  · simp only [hclassified] at h
    obtain rfl := Except.ok.inj h
    simp [budgetOf, chargedRequests, chargedToolCalls, hclassified, TurnBudget.new, respondCount,
      acceptedCount]

/-- A turn that has done nothing yet. -/
theorem lawful_nil (host : Host D) (context : TurnContext) : Lawful host context [] := by
  refine ⟨?_, ?_, Nat.le_refl _, List.nodup_nil, trivial, Nat.zero_le 2⟩
  · simp only [chargedRequests, respondCount]
    split_ifs <;> omega
  · simp only [chargedToolCalls, acceptedCount]
    split_ifs <;> decide

theorem runTurnWithImage_triple (host : Host D) (context : TurnContext) (question : String)
    (image : Option ModelImage) (rounds : Nat) :
    Triple (· = []) (runTurnWithImage host context question image rounds)
      (fun result history => Lawful host context history ∧ match result with
        | none => respondCount history = rounds
        | some _ => dispatchedCalls history ≠ [])
      (Lawful host context) := by
  have hnil := lawful_nil host context
  simp only [runTurnWithImage]
  apply Triple.ite
  · exact fun _ => Triple.fail fun _ h => h ▸ hnil
  · intro _
    cases hbudget : openingBudget context with
    | error error => exact Triple.fail fun _ h => h ▸ hnil
    | ok budget =>
        refine (turnLoop_triple rounds 0 image.isSome image _).mono ?_ ?_ fun _ => id
        · rintro _ rfl
          refine ⟨⟨hnil, (openingBudget_eq_ok hbudget).1, rfl, ?_, nofun⟩, rfl⟩
          rcases image with _ | image <;> simp [imagesSent, imagesPending, openingState]
        · rintro (_ | outcome) history h
          · exact ⟨h.1, h.2.trans (Nat.zero_add _)⟩
          · exact h

/-! ### What a disciplined history says -/

section History

variable {host : Host D} {context : TurnContext}

theorem Disciplined.tail {event : TurnEvent D} {past : History D}
    (h : Disciplined host context (event :: past)) : Disciplined host context past := by
  cases event with
  | respond request => exact h
  | preflight batch verdict => exact h.2.2
  | dispatch call => exact h.2
  | store ownerId call => exact h.2

theorem Disciplined.of_append {later past : History D}
    (h : Disciplined host context (later ++ past)) : Disciplined host context past := by
  induction later with
  | nil => exact h
  | cons event rest ih => exact ih h.tail

/-- After a rejected batch nothing is dispatched until the model is asked again. -/
theorem Disciplined.nothing_dispatched {batch : List ProposedToolCall}
    {verdict : Outcome PolicyError (List (ValidatedToolCall D))} {later past : History D}
    (h : Disciplined host context (later ++ .preflight batch verdict :: past))
    (hrejected : ∀ accepted, verdict ≠ .ok accepted)
    (hlater : ∀ request, TurnEvent.respond request ∉ later) :
    dispatchedCalls later = [] ∧ lastAccepted (later ++ .preflight batch verdict :: past) = none := by
  induction later with
  | nil =>
      refine ⟨rfl, ?_⟩
      cases verdict with
      | ok accepted => exact absurd rfl (hrejected accepted)
      | err error => rfl
      | panic => rfl
  | cons event rest ih =>
      obtain ⟨hnone, hlast⟩ := ih h.tail fun request hmem =>
        hlater request (List.mem_cons_of_mem _ hmem)
      cases event with
      | respond request => exact absurd List.mem_cons_self (hlater request)
      | store ownerId call => exact ⟨hnone, hlast⟩
      | dispatch call =>
          obtain ⟨⟨_, _, hsome, _⟩, _⟩ := h
          exact absurd (hlast.symm.trans hsome) nofun
      | preflight batch' verdict' =>
          obtain ⟨⟨request, earlier, _, hasked, _⟩, _⟩ := h
          cases rest with
          | nil => exact nomatch hasked
          | cons first rest =>
              obtain ⟨rfl, -⟩ := List.cons.inj hasked
              exact absurd (List.mem_cons_of_mem _ List.mem_cons_self) (hlater request)

/-- What was accepted of the latest batch was proposed by the model. -/
theorem Disciplined.lastAccepted {history : History D} {batch : List ProposedToolCall}
    {accepted : List (ValidatedToolCall D)} (h : Disciplined host context history)
    (hlast : lastAccepted history = some (batch, accepted)) :
    (∃ earlier request response, host.respond earlier request = .ok response ∧
      response.output = .toolCalls batch) ∧
      List.Forall₂ (Accepts host.jsonLibrary context) batch accepted := by
  induction history with
  | nil => exact nomatch hlast
  | cons event past ih =>
      cases event with
      | respond request => exact nomatch hlast
      | dispatch call => exact ih h.tail hlast
      | store ownerId call => exact ih h.tail hlast
      | preflight batch' verdict =>
          obtain ⟨⟨request, earlier, response, -, hrespond, houtput⟩, hverdict, -⟩ := h
          cases verdict with
          | err error => exact nomatch hlast
          | panic => exact nomatch hlast
          | ok accepted' =>
              obtain ⟨rfl, rfl⟩ := Prod.mk.inj (Option.some.inj hlast)
              exact ⟨⟨earlier, request, response, hrespond, houtput⟩,
                (preflight_eq_ok hverdict.symm).1⟩

/-- Every dispatched call stands for one the model proposed. -/
theorem Disciplined.accepts {history : History D} {call : ValidatedToolCall D}
    (h : Disciplined host context history) (hcall : call ∈ dispatchedCalls history) :
    ∃ earlier request response batch proposed, host.respond earlier request = .ok response ∧
      response.output = .toolCalls batch ∧ proposed ∈ batch ∧
      Accepts host.jsonLibrary context proposed call := by
  induction history with
  | nil => exact nomatch hcall
  | cons event past ih =>
      cases event with
      | respond request => exact ih h.tail hcall
      | preflight batch verdict => exact ih h.tail hcall
      | store ownerId call => exact ih h.tail hcall
      | dispatch latest =>
          rcases List.mem_cons.mp hcall with rfl | hcall
          · obtain ⟨⟨batch, accepted, hlast, hmem⟩, hpast⟩ := h
            obtain ⟨⟨earlier, request, response, hrespond, houtput⟩, hall⟩ :=
              hpast.lastAccepted hlast
            obtain ⟨proposed, hproposed, haccepts⟩ := KeyedGroups.exists_mem_of_forall₂ hall hmem
            exact ⟨earlier, request, response, batch, proposed, hrespond, houtput, hproposed,
              haccepts⟩
          · exact ih h.tail hcall

theorem Disciplined.reads {history : History D} (h : Disciplined host context history)
    {ownerId : String} {call : ProjectRepository.Call D}
    (hmem : TurnEvent.store ownerId call ∈ history) : IsRead call := by
  obtain ⟨later, past, rfl⟩ := List.append_of_mem hmem
  exact (h.of_append).1

end History

/-- Further rounds change nothing about a turn that is done. -/
theorem turnLoop_succ (host : Host D) (context : TurnContext) (imageTurn : Bool)
    (schemaRepairImage : Option ModelImage) {rounds : Nat} {state : TurnState D}
    {history : History D}
    (h : (turnLoop host context imageTurn schemaRepairImage rounds state history).1 ≠ .ok none) :
    turnLoop host context imageTurn schemaRepairImage (rounds + 1) state history =
      turnLoop host context imageTurn schemaRepairImage rounds state history := by
  induction rounds generalizing state history with
  | zero => exact absurd rfl h
  | succ rounds ih =>
      rw [turnLoop]
      rw [turnLoop] at h
      conv_rhs => rw [turnLoop]
      simp only [Bind.bind, Locked.bind] at h ⊢
      generalize turnStep host context imageTurn schemaRepairImage state history = step at h ⊢
      rcases step with ⟨(next | outcome) | error | _, later⟩
      · exact ih h
      · rfl
      · rfl
      · rfl

theorem runTurnWithImage_succ {host : Host D} {context : TurnContext} {question : String}
    {image : Option ModelImage} {rounds : Nat} {history : History D}
    (h : (runTurnWithImage host context question image rounds history).1 ≠ .ok none) :
    runTurnWithImage host context question image (rounds + 1) history =
      runTurnWithImage host context question image rounds history := by
  simp only [runTurnWithImage] at h ⊢
  split_ifs at h ⊢
  · rfl
  · cases hbudget : openingBudget context with
    | error error => rfl
    | ok budget =>
        rw [hbudget] at h
        exact turnLoop_succ host context image.isSome image h

theorem runTurnWithImage_add {host : Host D} {context : TurnContext} {question : String}
    {image : Option ModelImage} {rounds : Nat} {history : History D}
    (h : (runTurnWithImage host context question image rounds history).1 ≠ .ok none)
    (more : Nat) :
    runTurnWithImage host context question image (rounds + more) history =
      runTurnWithImage host context question image rounds history := by
  induction more with
  | zero => rfl
  | succ more ih =>
      rw [← ih] at h
      rw [← Nat.add_assoc, runTurnWithImage_succ h, ih]

/-- What a turn leaves, and how it ended. -/
def TurnDone (host : Host D) (context : TurnContext) (rounds : Nat)
    (finish : Outcome TurnError (Option (TurnOutcome D)) × History D) : Prop :=
  Lawful host context finish.2 ∧ (finish.1 = .ok none → respondCount finish.2 = rounds) ∧
    ∀ outcome, finish.1 = .ok (some outcome) → dispatchedCalls finish.2 ≠ []

theorem runTurnWithImage_done (host : Host D) (context : TurnContext) (question : String)
    (image : Option ModelImage) (rounds : Nat) :
    TurnDone host context rounds (runTurnWithImage host context question image rounds []) := by
  refine (runTurnWithImage_triple host context question image rounds).result
    (P := TurnDone host context rounds) rfl ?_ ?_ ?_
  · rintro (_ | outcome) history h
    · exact ⟨h.1, fun _ => h.2, by simp⟩
    · exact ⟨h.1, by simp, fun _ _ => h.2⟩
  · exact fun _ _ h => ⟨h, by simp, by simp⟩
  · exact fun _ h => ⟨h, by simp, by simp⟩

theorem TurnDone.ends {host : Host D} {context : TurnContext} {rounds : Nat}
    {finish : Outcome TurnError (Option (TurnOutcome D)) × History D}
    (h : TurnDone host context rounds finish) (hrounds : maxModelRequests < rounds) :
    finish.1 ≠ .ok none := by
  intro hnone
  have hrequests := h.1.requests
  rw [h.2.1 hnone] at hrequests
  omega

/-- Whatever the model answers, a turn ends: more than `maxModelRequests` rounds
change nothing.  By then the model has been asked and tools have been called at
most as often as the budget allows, the classification included; no identifier
was dispatched twice, nothing of a batch that the preflight rejects, and only
proposed calls of available tools with arguments that parsed; an answer rests on
a dispatched call; the image was sent at most twice; and every access to the
project store was a read. -/
theorem turn_bounded_and_safe (host : Host D) (context : TurnContext) (question : String)
    (image : Option ModelImage) (rounds : Nat) :
    let finish := runTurnWithImage host context question image rounds []
    (maxModelRequests < rounds → finish.1 ≠ .ok none ∧
      finish = runTurnWithImage host context question image (maxModelRequests + 1) []) ∧
    chargedRequests context + respondCount finish.2 ≤ maxModelRequests ∧
    chargedToolCalls context + (dispatchedCalls finish.2).length ≤ maxToolCalls ∧
    (dispatchedIds finish.2).Nodup ∧
    (∀ later batch verdict past, finish.2 = later ++ .preflight batch verdict :: past →
      verdict = preflight host.jsonLibrary context (budgetOf context past) (dispatchedIds past)
        batch ∧
      ((∀ accepted, verdict ≠ .ok accepted) → (∀ request, TurnEvent.respond request ∉ later) →
        dispatchedCalls later = [])) ∧
    (∀ call ∈ dispatchedCalls finish.2, ∃ earlier request response batch proposed,
      host.respond earlier request = .ok response ∧ response.output = .toolCalls batch ∧
      proposed ∈ batch ∧ Accepts host.jsonLibrary context proposed call) ∧
    (∀ outcome, finish.1 = .ok (some outcome) → dispatchedCalls finish.2 ≠ []) ∧
    imagesSent finish.2 ≤ 2 ∧
    ∀ ownerId call, TurnEvent.store ownerId call ∈ finish.2 → IsRead call := by
  have hdone := runTurnWithImage_done host context question image rounds
  have hstable : maxModelRequests < rounds →
      runTurnWithImage host context question image rounds [] =
        runTurnWithImage host context question image (maxModelRequests + 1) [] := by
    intro hrounds
    obtain ⟨more, rfl⟩ := Nat.exists_eq_add_of_le (Nat.succ_le_of_lt hrounds)
    exact runTurnWithImage_add ((runTurnWithImage_done host context question image _).ends
      (Nat.lt_succ_self _)) more
  intro finish
  change TurnDone host context rounds finish at hdone
  have hlawful := hdone.1
  refine ⟨fun hrounds => ⟨hdone.ends hrounds, hstable hrounds⟩, hlawful.requests, ?_,
    hlawful.nodup, ?_, ?_, hdone.2.2, hlawful.images, fun _ _ => hlawful.disciplined.reads⟩
  · have hcalls := hlawful.calls
    have hdispatched := hlawful.dispatched
    omega
  · intro later batch verdict past hhistory
    have hdisciplined := hlawful.disciplined
    rw [hhistory] at hdisciplined
    exact ⟨hdisciplined.of_append.2.1, fun hrejected hlater =>
      (hdisciplined.nothing_dispatched hrejected hlater).1⟩
  · exact fun call hcall => hlawful.disciplined.accepts hcall

end TcoCalculator.Assistant
