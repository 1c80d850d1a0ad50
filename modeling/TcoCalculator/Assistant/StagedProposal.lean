/-
Where a patch proposal comes from: it was staged on the selected project as the
turn read it at some moment.
-/
import TcoCalculator.Assistant.ProjectPatchMeaning
import TcoCalculator.Assistant.Turn

namespace TcoCalculator.Assistant

open Locked

variable {D : Type} [DecimalArith D] {host : Host D} {context : TurnContext}

/-! ### Reads and proposals of a history -/

/-- The selected project was read as this one when the history was at some earlier point. -/
def ReadIn (host : Host D) (context : TurnContext) (project : EditableProject D)
    (history : History D) : Prop :=
  ∃ selected past document, context.project = some selected ∧ past <:+ history ∧
    host.getProject past context.ownerId selected.id = .ok document ∧
    editableProject document = project

/-- A patch proposal was staged on a project read in the history. -/
def Staged (host : Host D) (context : TurnContext) (proposal : Option (AssistantProposal D))
    (history : History D) : Prop :=
  ∀ staged, proposal = some (.projectPatch staged) → ∃ project input,
    ReadIn host context project history ∧
    (stagedPatch project input).proposal = some (.projectPatch staged)

omit [DecimalArith D] in
theorem ReadIn.cons {project : EditableProject D} {history : History D}
    (h : ReadIn host context project history) (event : TurnEvent D) :
    ReadIn host context project (event :: history) := by
  obtain ⟨selected, past, document, hselected, hpast, hread⟩ := h
  exact ⟨selected, past, document, hselected, hpast.trans (List.suffix_cons event history), hread⟩

theorem Staged.cons {proposal : Option (AssistantProposal D)} {history : History D}
    (h : Staged host context proposal history) (event : TurnEvent D) :
    Staged host context proposal (event :: history) := by
  intro staged hstaged
  obtain ⟨project, input, hread, hproposal⟩ := h staged hstaged
  exact ⟨project, input, hread.cons event, hproposal⟩

theorem staged_none (history : History D) : Staged host context none history :=
  fun _ hnone => nomatch hnone

/-! ### One tool -/

section Dispatch

variable {previous : Option (AssistantProposal D)}

/-- A tool on the selected project: an outage and a missing project propose nothing. -/
theorem withSelectedProject_staged {next : EditableProject D → TurnM D (ToolOutcome D)}
    (hnext : ∀ project, Triple
      (fun history => ReadIn host context project history ∧ Staged host context previous history)
      (next project)
      (fun outcome => Staged host context (outcome.proposal.or previous)) fun _ => True) :
    Triple (Staged host context previous) (withSelectedProject host context next)
      (fun outcome => Staged host context (outcome.proposal.or previous)) fun _ => True := by
  simp only [withSelectedProject]
  cases hselected : context.project with
  | none => exact Triple.pure fun _ h => h
  | some selected =>
      apply Triple.read_bind
      intro history hhistory
      refine Triple.write_bind
        (· = .store context.ownerId (.get selected.id) :: history) (by rintro _ rfl; rfl) ?_
      cases hread : host.getProject history context.ownerId selected.id with
      | ok document =>
          refine (hnext (editableProject document)).mono ?_ (fun _ _ => id) fun _ => id
          rintro _ rfl
          exact ⟨⟨selected, history, document, hselected, List.suffix_cons _ _, hread, rfl⟩,
            hhistory.cons _⟩
      | err error =>
          cases error <;> exact Triple.pure fun _ h => h ▸ hhistory.cons _
      | panic => exact Triple.panic fun _ _ => trivial

theorem stagedPatch_staged (project : EditableProject D) (input : StageProjectPatchInput D) :
    Triple
      (fun history => ReadIn host context project history ∧ Staged host context previous history)
      (pure (stagedPatch project input) : TurnM D (ToolOutcome D))
      (fun outcome => Staged host context (outcome.proposal.or previous)) fun _ => True := by
  apply Triple.pure
  rintro history ⟨hread, hprevious⟩ staged hstaged
  cases hproposal : (stagedPatch project input).proposal with
  | none =>
      rw [hproposal] at hstaged
      exact hprevious staged hstaged
  | some proposal =>
      rw [hproposal, Option.some_or] at hstaged
      exact ⟨project, input, hread, hproposal.trans hstaged⟩

/-- A new draft is no patch. -/
theorem draft_ne_projectPatch {freshId : Nat → Nat → Uuid} {input : StageNewProjectDraftInput D}
    {memory : String → Option D} {outcome : ToolOutcome D} {staged : ProjectPatchProposal D}
    (h : stageNewProjectDraftWithEc2Memory context freshId input memory = some outcome) :
    outcome.proposal ≠ some (.projectPatch staged) := by
  simp only [stageNewProjectDraftWithEc2Memory] at h
  by_cases hselected : context.project.isSome = true
  · rw [if_pos hselected] at h
    obtain rfl := Option.some.inj h
    simp [ToolOutcome.proposal]
  rw [if_neg hselected] at h
  by_cases hmissing : ec2CatalogRamMissing memory input = true
  · rw [if_pos hmissing] at h
    obtain rfl := Option.some.inj h
    simp [ToolOutcome.proposal]
  rw [if_neg hmissing] at h
  obtain ⟨project, -, rfl⟩ := Option.map_eq_some_iff.mp h
  split_ifs <;> simp [ToolOutcome.proposal]

/-- A tool proposes a patch only by staging it on the project it reads. -/
theorem dispatch_staged (input : ToolInput D) :
    Triple (Staged host context previous) (dispatch host context input)
      (fun outcome => Staged host context (outcome.proposal.or previous)) fun _ => True := by
  cases input with
  | agentCapabilities => exact Triple.pure fun _ h => h
  | applicationHelp input =>
      apply Triple.pure
      intro history h
      have hnone : (applicationHelp host input).proposal = none := by
        simp only [applicationHelp]
        split <;> split <;> rfl
      rwa [hnone]
  | currentProject => exact withSelectedProject_staged fun _ => Triple.pure fun _ h => h.2
  | validateProjectPatch patch =>
      apply withSelectedProject_staged
      intro project
      exact Triple.ite (fun _ => Triple.pure fun _ h => h.2) fun _ => Triple.pure fun _ h => h.2
  | calculateProjectDraft patch =>
      apply withSelectedProject_staged
      intro project
      apply Triple.ite
      · exact fun _ => Triple.pure fun _ h => h.2
      · intro _
        apply Triple.read_bind
        intro history hhistory
        apply Triple.ite
        · exact fun _ => Triple.pure fun _ h => h ▸ hhistory.2
        · intro _
          split
          · exact Triple.pure fun _ h => h ▸ hhistory.2
          · exact Triple.pure fun _ h => h ▸ hhistory.2
          · exact Triple.panic fun _ _ => trivial
  | stageProjectPatch input => exact withSelectedProject_staged fun _ => stagedPatch_staged _ _
  | stageNewProjectDraft input =>
      apply Triple.read_bind
      intro history hhistory
      refine Triple.expect ?_ fun _ _ => trivial
      rintro outcome _ houtcome rfl staged hstaged
      cases hproposal : outcome.proposal with
      | none =>
          rw [hproposal] at hstaged
          exact hhistory staged hstaged
      | some proposal =>
          rw [hproposal, Option.some_or] at hstaged
          exact absurd (hproposal.trans hstaged) (draft_ne_projectPatch houtcome)

end Dispatch

/-! ### The turn -/

section Turn

variable {imageTurn : Bool} {schemaRepairImage : Option ModelImage}

theorem dispatchCalls_staged (calls : List (ValidatedToolCall D)) (state : TurnState D) :
    Triple (Staged host context state.proposal) (dispatchCalls host context calls state)
      (fun next => Staged host context next.proposal) fun _ => True := by
  induction calls generalizing state with
  | nil => exact Triple.pure fun _ h => h
  | cons call rest ih =>
      apply Triple.read_bind
      intro history hhistory
      apply Triple.ite
      · exact fun _ => Triple.fail fun _ _ => trivial
      · intro _
        refine Triple.write_bind (Staged host context state.proposal)
          (by rintro _ rfl; exact hhistory.cons _) ?_
        exact (dispatch_staged call.input).bind fun outcome => ih (recordOutcome
          { state with executedCallIds := call.id :: state.executedCallIds } call outcome)

theorem answerToolCalls_staged (proposed : List ProposedToolCall) (state : TurnState D) :
    Triple (Staged host context state.proposal)
      (answerToolCalls host context imageTurn proposed state)
      (fun next => Staged host context next.proposal) fun _ => True := by
  refine Triple.write_bind (Staged host context state.proposal) (fun _ h => h.cons _) ?_
  cases preflight host.jsonLibrary context state.budget state.executedCallIds proposed with
  | panic => exact Triple.panic fun _ _ => trivial
  | err error =>
      apply Triple.ite
      · exact fun _ => Triple.pure fun _ h => h
      · exact fun _ => Triple.fail fun _ _ => trivial
  | ok accepted =>
      dsimp only
      cases state.budget.chargeToolCalls accepted.length with
      | error error => exact Triple.fail fun _ _ => trivial
      | ok budget => exact dispatchCalls_staged accepted { state with
          budget := budget
          transcript := state.transcript ++ [.assistantToolCalls proposed] }

theorem answerMessage_staged (answer : String) (state : TurnState D) :
    Triple (Staged host context state.proposal) (answerMessage context imageTurn answer state)
      (fun outcome => Staged host context outcome.proposal) fun _ => True := by
  apply Triple.ite
  · exact fun _ => Triple.fail fun _ _ => trivial
  · exact fun _ => Triple.pure fun _ h => h

/-- The proposal of a round's result, be it a next state or the outcome. -/
def resultProposal : TurnState D ⊕ TurnOutcome D → Option (AssistantProposal D)
  | .inl next => next.proposal
  | .inr outcome => outcome.proposal

theorem askModel_staged (state : TurnState D) :
    Triple (Staged host context state.proposal)
      (askModel host context imageTurn schemaRepairImage state)
      (fun result => Staged host context (resultProposal result)) fun _ => True := by
  apply Triple.read_bind
  intro history hhistory
  refine Triple.write_bind (Staged host context state.proposal)
    (by rintro _ rfl; exact hhistory.cons _) ?_
  split
  · exact Triple.fail fun _ _ => trivial
  · rename_i response _
    dsimp only
    split
    · rename_i answer _
      exact (answerMessage_staged answer (afterRequest state response.routedModel)).bind fun _ =>
        Triple.pure fun _ h => h
    · exact (answerToolCalls_staged _ (afterRequest state response.routedModel)).bind fun _ =>
        Triple.pure fun _ h => h

theorem turnStep_staged (state : TurnState D) :
    Triple (Staged host context state.proposal)
      (turnStep host context imageTurn schemaRepairImage state)
      (fun result => Staged host context (resultProposal result)) fun _ => True := by
  apply Triple.read_bind
  intro history hhistory
  apply Triple.ite
  · exact fun _ => Triple.fail fun _ _ => trivial
  · intro _
    split
    · exact Triple.fail fun _ _ => trivial
    · dsimp only
      split
      · exact Triple.fail fun _ _ => trivial
      · exact (askModel_staged _).mono (by rintro _ rfl; exact hhistory) (fun _ _ => id)
          fun _ => id

theorem turnLoop_staged (rounds : Nat) (state : TurnState D) :
    Triple (Staged host context state.proposal)
      (turnLoop host context imageTurn schemaRepairImage rounds state)
      (fun result => Staged host context (result.bind TurnOutcome.proposal)) fun _ => True := by
  induction rounds generalizing state with
  | zero => exact Triple.pure fun history _ => staged_none history
  | succ rounds ih =>
      apply (turnStep_staged state).bind
      rintro (next | outcome)
      · exact ih next
      · exact Triple.pure fun _ h => h

/-- The proposal a turn ends with was staged on the selected project as the turn read it. -/
theorem runTurnWithImage_staged {question : String} {image : Option ModelImage} {rounds : Nat}
    {outcome : TurnOutcome D} {history : History D}
    (h : runTurnWithImage host context question image rounds [] = (.ok (some outcome), history)) :
    Staged host context outcome.proposal history := by
  have htriple : Triple (· = ([] : History D)) (runTurnWithImage host context question image rounds)
      (fun result => Staged host context (result.bind TurnOutcome.proposal)) fun _ => True := by
    apply Triple.ite
    · exact fun _ => Triple.fail fun _ _ => trivial
    · intro _
      split
      · exact Triple.fail fun _ _ => trivial
      · exact (turnLoop_staged rounds _).mono (fun history _ => staged_none history) (fun _ _ => id)
          fun _ => id
  have hends := htriple [] rfl
  rw [h] at hends
  exact hends

end Turn

end TcoCalculator.Assistant
