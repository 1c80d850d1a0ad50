/-
The states of a turn, from the opening one on, and the rule that carries an
assertion from each of them to the next.
-/
import TcoCalculator.Assistant.Turn

namespace TcoCalculator.Assistant

open Locked

variable {D : Type} [DecimalArith D] {host : Host D} {context : TurnContext}

omit [DecimalArith D] in
/-- An answer ends the turn with what its state holds. -/
theorem answerMessage_eq_ok {imageTurn : Bool} {answer : String} {state : TurnState D}
    {outcome : TurnOutcome D} {history later : History D}
    (h : answerMessage context imageTurn answer state history = (.ok outcome, later)) :
    later = history ∧ outcome.proposal = state.proposal ∧
      outcome.omissions = state.omissions ∧ outcome.uncertainties = state.uncertainties := by
  simp only [answerMessage] at h
  by_cases hexecuted : state.executedCallIds = []
  · simp [hexecuted] at h
  · simp only [hexecuted, if_false, pure_apply, Prod.mk.injEq, Outcome.ok.injEq] at h
    obtain ⟨rfl, rfl⟩ := h
    exact ⟨rfl, rfl, rfl, rfl⟩

omit [DecimalArith D] in
theorem exists_answerMessage (state : TurnState D) (h : state.executedCallIds ≠ [])
    (imageTurn : Bool) (answer : String) (history : History D) :
    ∃ outcome, answerMessage context imageTurn answer state history = (.ok outcome, history) := by
  rw [answerMessage, if_neg h]
  exact ⟨_, rfl⟩

/-- The states at the head of the loop, each with what the turn has done by then. -/
inductive Reached (host : Host D) (context : TurnContext) (question : String)
    (image : Option ModelImage) : TurnState D → History D → Prop
  | opening {budget : TurnBudget} (h : openingBudget context = .ok budget) :
      Reached host context question image (openingState (trim question) image budget) []
  | step {state next : TurnState D} {history later : History D}
      (h : Reached host context question image state history)
      (hstep : turnStep host context image.isSome image state history = (.ok (.inl next), later)) :
      Reached host context question image next later

/-- A round whose transcript fits asks the model. -/
theorem turnStep_eq {imageTurn : Bool} {schemaRepairImage : Option ModelImage}
    {state : TurnState D} {history : History D} {budget : TurnBudget}
    {transcript : List TranscriptMessage} (hexpired : host.isExpired history = false)
    (hbudget : state.budget.chargeModelRequest = .ok budget)
    (hcompact : compact state.transcript (nextInstruction host context imageTurn state) =
      .ok transcript) :
    turnStep host context imageTurn schemaRepairImage state history =
      askModel host context imageTurn schemaRepairImage
        { state with budget := budget, transcript := transcript } history := by
  simp [turnStep, hexpired, hbudget, hcompact]

/-- A batch that the preflight accepts is dispatched. -/
theorem exists_askModel_toolCalls {imageTurn : Bool} {schemaRepairImage : Option ModelImage}
    {state : TurnState D} {history : History D} {routedModel : Option String}
    {proposed : List ProposedToolCall} {accepted : List (ValidatedToolCall D)}
    {budget : TurnBudget}
    (hrespond : ∀ request, host.respond history request = .ok ⟨.toolCalls proposed, routedModel⟩)
    (haccepted : preflight host.jsonLibrary context state.budget state.executedCallIds proposed =
      .ok accepted)
    (hbudget : state.budget.chargeToolCalls accepted.length = .ok budget) :
    ∃ request, askModel host context imageTurn schemaRepairImage state history =
      (dispatchCalls host context accepted { afterRequest state routedModel with
          budget := budget
          transcript := state.transcript ++ [.assistantToolCalls proposed] } >>=
        fun next => pure (.inl next))
        (.preflight proposed (.ok accepted) :: .respond request :: history) := by
  refine ⟨nextRequest host context imageTurn schemaRepairImage state
    (host.remainingMillis history), ?_⟩
  simp only [askModel, read_bind, record, write_bind, hrespond]
  simp only [answerToolCalls, record, afterRequest, haccepted, hbudget, Bind.bind, Locked.bind,
    Locked.write]

/-- A message ends the turn. -/
theorem exists_askModel_message {imageTurn : Bool} {schemaRepairImage : Option ModelImage}
    {state : TurnState D} {history : History D} {routedModel : Option String} {answer : String}
    (hrespond : ∀ request, host.respond history request = .ok ⟨.message answer, routedModel⟩) :
    ∃ request, askModel host context imageTurn schemaRepairImage state history =
      (answerMessage context imageTurn answer (afterRequest state routedModel) >>=
        fun outcome => pure (.inr outcome)) (.respond request :: history) := by
  refine ⟨nextRequest host context imageTurn schemaRepairImage state
    (host.remainingMillis history), ?_⟩
  simp only [askModel, read_bind, record, write_bind, hrespond]

/-- An assertion that no step of a turn breaks.  Its first argument lists the calls
of an accepted batch that are still to be dispatched. -/
structure Kept (host : Host D) (context : TurnContext) (imageTurn : Bool)
    (J : List (ValidatedToolCall D) → TurnState D → History D → Prop) : Prop where
  ask {state : TurnState D} {history : History D} {budget : TurnBudget}
    {transcript : List TranscriptMessage} (request : ModelTurnRequest)
    (routedModel : Option String) (h : J [] state history)
    (hcompact : compact state.transcript (nextInstruction host context imageTurn state) =
      .ok transcript) :
    J [] (afterRequest { state with budget := budget, transcript := transcript } routedModel)
      (.respond request :: history)
  repair {state : TurnState D} {history : History D} (proposed : List ProposedToolCall)
    (error : PolicyError) (h : J [] state history) :
    J [] { state with schemaRepairAttempted := true, schemaRepairPending := true }
      (.preflight proposed (.err error) :: history)
  accept {state : TurnState D} {history : History D} {proposed : List ProposedToolCall}
    {accepted : List (ValidatedToolCall D)} {budget : TurnBudget} (h : J [] state history)
    (haccepted : preflight host.jsonLibrary context state.budget state.executedCallIds proposed =
      .ok accepted) :
    J accepted { state with
        budget := budget
        transcript := state.transcript ++ [.assistantToolCalls proposed] }
      (.preflight proposed (.ok accepted) :: history)
  call {state : TurnState D} {history later : History D} {call : ValidatedToolCall D}
    {rest : List (ValidatedToolCall D)} {outcome : ToolOutcome D}
    (h : J (call :: rest) state history)
    (hdispatch : dispatch host context call.input (.dispatch call :: history) =
      (.ok outcome, later)) :
    J rest (recordOutcome { state with executedCallIds := call.id :: state.executedCallIds } call
      outcome) later

namespace Kept

variable {imageTurn : Bool} {J : List (ValidatedToolCall D) → TurnState D → History D → Prop}
  {schemaRepairImage : Option ModelImage}

theorem dispatchCalls (kept : Kept host context imageTurn J) {calls : List (ValidatedToolCall D)}
    {state next : TurnState D} {history later : History D} (h : J calls state history)
    (hrun : Assistant.dispatchCalls host context calls state history = (.ok next, later)) :
    J [] next later := by
  induction calls generalizing state history with
  | nil =>
      obtain ⟨rfl, rfl⟩ := Prod.mk.inj hrun |>.imp_left Outcome.ok.inj
      exact h
  | cons call rest ih =>
      simp only [Assistant.dispatchCalls, read_bind] at hrun
      by_cases hexpired : host.isExpired history = true
      · simp [hexpired] at hrun
      · simp only [hexpired, Bool.false_eq_true, if_false, record, write_bind] at hrun
        obtain ⟨outcome, mid, hdispatch, hrest⟩ := bind_eq_ok.mp hrun
        exact ih (kept.call h hdispatch) hrest

theorem answerToolCalls (kept : Kept host context imageTurn J)
    {proposed : List ProposedToolCall} {state next : TurnState D} {history later : History D}
    (h : J [] state history)
    (hrun : Assistant.answerToolCalls host context imageTurn proposed state history =
      (.ok next, later)) : J [] next later := by
  simp only [Assistant.answerToolCalls, record, write_bind] at hrun
  cases hverdict : preflight host.jsonLibrary context state.budget state.executedCallIds proposed with
  | panic => simp [hverdict, Locked.panic] at hrun
  | err error =>
      simp only [hverdict] at hrun
      by_cases hrepair : mayRepairSchema context imageTurn state error = true
      · simp only [hrepair, if_true, pure_apply, Prod.mk.injEq, Outcome.ok.injEq] at hrun
        obtain ⟨rfl, rfl⟩ := hrun
        exact kept.repair proposed error h
      · simp [hrepair] at hrun
  | ok accepted =>
      simp only [hverdict] at hrun
      cases hbudget : state.budget.chargeToolCalls accepted.length with
      | error error => simp [hbudget] at hrun
      | ok budget =>
          simp only [hbudget] at hrun
          exact kept.dispatchCalls (kept.accept h hverdict) hrun

/-- One round: either the next state, or what the state it left holds. -/
theorem turnStep (kept : Kept host context imageTurn J) {state : TurnState D}
    {history later : History D} {result : TurnState D ⊕ TurnOutcome D} (h : J [] state history)
    (hrun : Assistant.turnStep host context imageTurn schemaRepairImage state history =
      (.ok result, later)) :
    (∃ next, result = .inl next ∧ J [] next later) ∨
      ∃ outcome last, result = .inr outcome ∧ J [] last later ∧
        outcome.proposal = last.proposal ∧ outcome.omissions = last.omissions ∧
        outcome.uncertainties = last.uncertainties := by
  simp only [Assistant.turnStep, read_bind] at hrun
  by_cases hexpired : host.isExpired history = true
  · simp [hexpired] at hrun
  simp only [hexpired, Bool.false_eq_true, if_false] at hrun
  cases hbudget : state.budget.chargeModelRequest with
  | error error => simp [hbudget] at hrun
  | ok budget =>
      simp only [hbudget] at hrun
      cases hcompact : compact state.transcript (nextInstruction host context imageTurn state) with
      | error error => simp [hcompact] at hrun
      | ok transcript =>
          simp only [hcompact, askModel, read_bind, record, write_bind] at hrun
          generalize hrequest : nextRequest host context imageTurn schemaRepairImage
            { state with budget := budget, transcript := transcript } _ = request at hrun
          cases hrespond : host.respond history request with
          | error error => simp [hrespond] at hrun
          | ok response =>
              simp only [hrespond] at hrun
              have hasked : J [] (afterRequest
                  { state with budget := budget, transcript := transcript } response.routedModel)
                  (.respond request :: history) :=
                kept.ask request response.routedModel h hcompact
              cases houtput : response.output with
              | message answer =>
                  simp only [houtput] at hrun
                  obtain ⟨outcome, mid, hanswer, hpure⟩ := bind_eq_ok.mp hrun
                  obtain ⟨hresult, rfl⟩ := Prod.mk.inj hpure
                  obtain ⟨rfl, hheld⟩ := answerMessage_eq_ok hanswer
                  exact .inr ⟨outcome, _, (Outcome.ok.inj hresult).symm, hasked, hheld⟩
              | toolCalls proposed =>
                  simp only [houtput] at hrun
                  obtain ⟨next, mid, hanswer, hpure⟩ := bind_eq_ok.mp hrun
                  obtain ⟨hresult, rfl⟩ := Prod.mk.inj hpure
                  exact .inl ⟨next, (Outcome.ok.inj hresult).symm, kept.answerToolCalls hasked hanswer⟩

/-- An assertion that holds at the start holds in every state reached. -/
theorem reached {question : String} {image : Option ModelImage}
    (kept : Kept host context image.isSome J)
    (hopening : ∀ budget, J [] (openingState (trim question) image budget) [])
    {state : TurnState D} {history : History D}
    (h : Reached host context question image state history) : J [] state history := by
  induction h with
  | opening => exact hopening _
  | step h hstep ih =>
      rcases kept.turnStep ih hstep with ⟨next, hresult, hnext⟩ | ⟨_, _, hresult, _⟩
      · obtain rfl := Sum.inl.inj hresult
        exact hnext
      · exact nomatch hresult

theorem turnLoop (kept : Kept host context imageTurn J) {rounds : Nat} {state : TurnState D}
    {history later : History D} {outcome : TurnOutcome D} (h : J [] state history)
    (hrun : Assistant.turnLoop host context imageTurn schemaRepairImage rounds state history =
      (.ok (some outcome), later)) :
    ∃ last, J [] last later ∧ outcome.proposal = last.proposal ∧
      outcome.omissions = last.omissions ∧ outcome.uncertainties = last.uncertainties := by
  induction rounds generalizing state history with
  | zero => exact nomatch (Prod.mk.inj hrun).1
  | succ rounds ih =>
      obtain ⟨result, mid, hstep, hrest⟩ := bind_eq_ok.mp hrun
      rcases kept.turnStep h hstep with ⟨next, rfl, hnext⟩ | ⟨answered, last, rfl, hlast, hheld⟩
      · exact ih hnext hrest
      · simp only [pure_apply, Prod.mk.injEq, Outcome.ok.injEq, Option.some.injEq] at hrest
        obtain ⟨rfl, rfl⟩ := hrest
        exact ⟨last, hlast, hheld⟩

/-- What the outcome of a turn holds, a state with the assertion held. -/
theorem runTurnWithImage {question : String} {image : Option ModelImage}
    (kept : Kept host context image.isSome J)
    (hopening : ∀ budget, J [] (openingState (trim question) image budget) [])
    {rounds : Nat} {later : History D} {outcome : TurnOutcome D}
    (hrun : Assistant.runTurnWithImage host context question image rounds [] =
      (.ok (some outcome), later)) :
    ∃ last, J [] last later ∧ outcome.proposal = last.proposal ∧
      outcome.omissions = last.omissions ∧ outcome.uncertainties = last.uncertainties := by
  simp only [Assistant.runTurnWithImage] at hrun
  by_cases hquestion : (trim question).length < 1 ∨ maxQuestionChars < (trim question).length
  · rw [if_pos hquestion] at hrun
    exact nomatch (Prod.mk.inj hrun).1
  · rw [if_neg hquestion] at hrun
    cases hbudget : openingBudget context with
    | error error => simp [hbudget] at hrun
    | ok budget =>
        simp only [hbudget] at hrun
        exact kept.turnLoop (hopening budget) hrun

end Kept

end TcoCalculator.Assistant
