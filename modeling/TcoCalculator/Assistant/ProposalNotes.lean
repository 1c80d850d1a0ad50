/-
The notes a turn ends with, and the proposal they are shown with.
-/
import TcoCalculator.Assistant.Conversation
import TcoCalculator.Assistant.ProjectViewRedaction
import TcoCalculator.Library.JsonSize

namespace TcoCalculator.Assistant

open Locked

section Turn

variable {D : Type} [DecimalArith D] {host : Host D} {context : TurnContext}

/-! ### What the dispatched calls gave -/

/-- The outcomes of the calls a turn has dispatched, the latest first. -/
def outcomes (host : Host D) (context : TurnContext) : History D → List (ToolOutcome D)
  | [] => []
  | .dispatch call :: past =>
      match (dispatch host context call.input (.dispatch call :: past)).1 with
      | .ok outcome => outcome :: outcomes host context past
      | _ => outcomes host context past
  | _ :: past => outcomes host context past

namespace ToolOutcome

def omissions (outcome : ToolOutcome D) : List String :=
  (outcome.extractionNotes.map Prod.fst).getD []

def uncertainties (outcome : ToolOutcome D) : List String :=
  (outcome.extractionNotes.map Prod.snd).getD []

end ToolOutcome

omit [DecimalArith D] in
/-- The staging call whose proposal a turn carries. -/
def producer (outcomes : List (ToolOutcome D)) : Option (ToolOutcome D) :=
  outcomes.find? fun outcome => outcome.proposal.isSome

omit [DecimalArith D] in
/-- The last call that reported notes, with a proposal or without. -/
def lastReport (outcomes : List (ToolOutcome D)) : Option (ToolOutcome D) :=
  outcomes.find? fun outcome => outcome.extractionNotes.isSome

omit [DecimalArith D] in
theorem extractionNotes_of_proposal {outcome : ToolOutcome D}
    (h : outcome.proposal.isSome = true) : outcome.extractionNotes.isSome = true := by
  cases outcome with
  | staged proposal omissions uncertainties => rfl
  | _ => exact nomatch h

/-! ### The run -/

/-- The state holds the proposal and the notes of these outcomes. -/
structure HoldsOf (outcomes : List (ToolOutcome D)) (proposal : Option (AssistantProposal D))
    (omissions uncertainties : List String) : Prop where
  proposal : proposal = (producer outcomes).bind ToolOutcome.proposal
  omissions : omissions = ((lastReport outcomes).map ToolOutcome.omissions).getD []
  uncertainties : uncertainties = ((lastReport outcomes).map ToolOutcome.uncertainties).getD []

omit [DecimalArith D] in
theorem HoldsOf.cons {outcomes : List (ToolOutcome D)} {proposal : Option (AssistantProposal D)}
    {omissions uncertainties : List String}
    (h : HoldsOf outcomes proposal omissions uncertainties) (outcome : ToolOutcome D) :
    HoldsOf (outcome :: outcomes) (outcome.proposal.or proposal)
      ((outcome.extractionNotes.map Prod.fst).getD omissions)
      ((outcome.extractionNotes.map Prod.snd).getD uncertainties) := by
  obtain ⟨hproposal, homissions, huncertainties⟩ := h
  constructor
  · cases hcase : outcome.proposal with
    | none => simp [producer, hcase, hproposal]
    | some staged => simp [producer, hcase]
  · cases hcase : outcome.extractionNotes with
    | none => simp [lastReport, hcase, homissions]
    | some notes => simp [lastReport, hcase, ToolOutcome.omissions]
  · cases hcase : outcome.extractionNotes with
    | none => simp [lastReport, hcase, huncertainties]
    | some notes => simp [lastReport, hcase, ToolOutcome.uncertainties]

/-- A call that is dispatched adds its own outcome and no other. -/
theorem outcomes_dispatch {call : ValidatedToolCall D} {past later : History D}
    {outcome : ToolOutcome D}
    (h : dispatch host context call.input (.dispatch call :: past) = (.ok outcome, later)) :
    outcomes host context later = outcome :: outcomes host context past := by
  have hkept : Triple
      (fun history => outcomes host context history =
        outcomes host context (.dispatch call :: past))
      (dispatch host context call.input) (fun _ history => outcomes host context history =
        outcomes host context (.dispatch call :: past))
      (fun history => outcomes host context history =
        outcomes host context (.dispatch call :: past)) :=
    dispatch_triple call.input fun _ _ _ h => h
  have hsame := hkept (.dispatch call :: past) rfl
  rw [h] at hsame
  refine Eq.trans hsame ?_
  simp only [outcomes, h]

theorem kept_holdsOf {imageTurn : Bool} :
    Kept host context imageTurn (fun _ state history =>
      HoldsOf (outcomes host context history) state.proposal state.omissions
        state.uncertainties) where
  ask _ _ h _ := h
  repair _ _ h := h
  accept h _ := h
  call h hdispatch := by
    rw [outcomes_dispatch hdispatch]
    exact h.cons _

/-- A turn ends with the latest proposal, and with the notes of the latest report. -/
theorem runTurnWithImage_holdsOf {question : String} {image : Option ModelImage} {rounds : Nat}
    {outcome : TurnOutcome D} {history : History D}
    (h : runTurnWithImage host context question image rounds [] = (.ok (some outcome), history)) :
    HoldsOf (outcomes host context history) outcome.proposal outcome.omissions
      outcome.uncertainties := by
  obtain ⟨last, hlast, hproposal, homissions, huncertainties⟩ :=
    kept_holdsOf.runTurnWithImage (fun _ => ⟨rfl, rfl, rfl⟩) h
  rw [hproposal, homissions, huncertainties]
  exact hlast

/-! ### Whose notes they are -/

/-- The notes say all that this staging call reported, and of what a call with
another proposal reported nothing that this one did not. -/
structure NotesOf (outcomes : List (ToolOutcome D)) (staging : ToolOutcome D)
    (omissions uncertainties : List String) : Prop where
  omitted : staging.omissions ⊆ omissions
  uncertain : staging.uncertainties ⊆ uncertainties
  discarded : ∀ other ∈ outcomes, other.proposal.isSome → other.proposal ≠ staging.proposal →
    (∀ note ∈ other.omissions, note ∈ omissions → note ∈ staging.omissions) ∧
    ∀ note ∈ other.uncertainties, note ∈ uncertainties → note ∈ staging.uncertainties

omit [DecimalArith D] in
theorem NotesOf.self (outcomes : List (ToolOutcome D)) (staging : ToolOutcome D) :
    NotesOf outcomes staging staging.omissions staging.uncertainties :=
  ⟨List.Subset.refl _, List.Subset.refl _, fun _ _ _ _ =>
    ⟨fun _ _ hnote => hnote, fun _ _ hnote => hnote⟩⟩

/-- A proposal is shown with the notes of the call that staged it. -/
def NotesBelong (outcomes : List (ToolOutcome D)) (turn : TurnOutcome D) : Prop :=
  ∀ proposal, turn.proposal = some proposal → ∃ staging, producer outcomes = some staging ∧
    staging.proposal = some proposal ∧
    NotesOf outcomes staging turn.omissions turn.uncertainties

/-- The last report is the one with the proposal, or else it says again all that
was reported with the proposal, and nothing that only a discarded one had. -/
def LastReportRepeats (outcomes : List (ToolOutcome D)) : Prop :=
  ∀ staging report, producer outcomes = some staging → lastReport outcomes = some report →
    report.proposal = none → NotesOf outcomes staging report.omissions report.uncertainties

omit [DecimalArith D] in
/-- A last report with a proposal is the one whose proposal the turn carries. -/
theorem producer_of_lastReport {outcomes : List (ToolOutcome D)} {report : ToolOutcome D}
    (h : lastReport outcomes = some report) (hproposal : report.proposal.isSome = true) :
    producer outcomes = some report := by
  induction outcomes with
  | nil => exact nomatch h
  | cons outcome rest ih =>
      by_cases hnotes : outcome.extractionNotes.isSome = true
      · simp only [lastReport, List.find?_cons, hnotes, Option.some.injEq] at h
        subst h
        simp [producer, hproposal]
      · have hnone : ¬ outcome.proposal.isSome = true := fun hsome =>
          hnotes (extractionNotes_of_proposal hsome)
        simp only [lastReport, List.find?_cons, hnotes] at h
        simp only [producer, List.find?_cons, hnone]
        exact ih h

omit [DecimalArith D] in
theorem exists_lastReport {outcomes : List (ToolOutcome D)} {staging : ToolOutcome D}
    (h : producer outcomes = some staging) : ∃ report, lastReport outcomes = some report := by
  rw [← Option.isSome_iff_exists, lastReport, List.find?_isSome]
  have hproposal := List.find?_some h
  exact ⟨staging, List.mem_of_find?_eq_some h, extractionNotes_of_proposal hproposal⟩

/-- In every turn the proposal is shown with its own notes exactly when no report
without a proposal comes after it, but for one that repeats these notes. -/
theorem proposal_shown_with_its_notes_iff {question : String} {image : Option ModelImage}
    {rounds : Nat} {turn : TurnOutcome D} {history : History D}
    (h : runTurnWithImage host context question image rounds [] = (.ok (some turn), history)) :
    NotesBelong (outcomes host context history) turn ↔
      LastReportRepeats (outcomes host context history) := by
  obtain ⟨hproposal, homissions, huncertainties⟩ := runTurnWithImage_holdsOf h
  generalize outcomes host context history = outcomes at *
  constructor
  · intro hbelong staging report hstaging hreport _
    have hsome := List.find?_some hstaging
    obtain ⟨proposal, hstaged⟩ := Option.isSome_iff_exists.mp hsome
    obtain ⟨staging', hstaging', -, hnotes⟩ := hbelong proposal (by
      rw [hproposal, hstaging, Option.bind_some, hstaged])
    obtain rfl : staging = staging' := Option.some.inj (hstaging.symm.trans hstaging')
    rwa [homissions, huncertainties, hreport] at hnotes
  · intro hrepeats proposal hturn
    rw [hproposal, Option.bind_eq_some_iff] at hturn
    obtain ⟨staging, hstaging, hstaged⟩ := hturn
    obtain ⟨report, hreport⟩ := exists_lastReport hstaging
    refine ⟨staging, hstaging, hstaged, ?_⟩
    rw [homissions, huncertainties, hreport]
    cases hcase : report.proposal with
    | none => exact hrepeats staging report hstaging hreport hcase
    | some _ =>
        have hsame := producer_of_lastReport hreport (by rw [hcase]; rfl)
        obtain rfl : report = staging := Option.some.inj (hsame.symm.trans hstaging)
        exact NotesOf.self outcomes report

end Turn

/-! ### Two staging calls in one batch -/

namespace NotesWitness

open ViewWitness

/-- A new name, from an image without a visible instance count. -/
def renameJson : Json := .object [
  ("omissions", .array [.string "The instance count was not visible."]),
  ("patch", .object [("name", .string "Renewal")]),
  ("uncertainties", .array [])]

/-- A report that proposes no change. -/
def reportJson : Json := .object [
  ("omissions", .array []),
  ("patch", .object []),
  ("uncertainties", .array [.string "The region label was blurred."])]

def rename : StageProjectPatchInput Decimal96 :=
  ⟨⟨some "Renewal", none, none, none⟩, ["The instance count was not visible."], []⟩

def report : StageProjectPatchInput Decimal96 :=
  ⟨⟨none, none, none, none⟩, [], ["The region label was blurred."]⟩

def renameCall : ProposedToolCall := ⟨"call-1", "stage_project_patch", renameJson.render⟩

def reportCall : ProposedToolCall := ⟨"call-2", "stage_project_patch", reportJson.render⟩

def project : EditableProject Decimal96 := editableProject (document "SQL workload" none)

/-- A model that proposes this batch and then answers. -/
def stagingHost (batch : List ProposedToolCall) : Host Decimal96 :=
  { ViewWitness.host (document "SQL workload" none) with
    jsonLibrary := { (ViewWitness.host (document "SQL workload" none)).jsonLibrary with
      valueFromStr := fun text =>
        if text = renameCall.arguments then .ok renameJson
        else if text = reportCall.arguments then .ok reportJson
        else .error ⟨true, false, "expected value"⟩
      stageProjectPatchFromValue := fun value =>
        if value = renameJson then .ok rename
        else if value = reportJson then .ok report
        else .error ⟨false, false, "missing field"⟩ }
    respond := fun history _ => match history with
      | [] => .ok ⟨.toolCalls batch, none⟩
      | _ => .ok ⟨.message "The change is ready for review.", none⟩ }

def stageTool : ToolDefinition := ⟨"stage_project_patch", .propose, .draft, .selected⟩

def validated (call : ProposedToolCall) (input : StageProjectPatchInput Decimal96) :
    ValidatedToolCall Decimal96 := ⟨call.id, stageTool, .stageProjectPatch input⟩

def question : String := "Read this image into the project."

theorem trim_question : trim question = question := by decide +kernel

def instruction (records : List ActionRecord) : String :=
  runtimeInstruction "" context (schemasForContext context) records false false

/-- The completed actions are a part of the instruction by themselves. -/
theorem instruction_parts : ∃ before after next last, ∀ records,
    instruction records = before ++ formatActionHistory records ++ after ++ next ++ last :=
  ⟨_, _, _, _, fun _ => rfl⟩

theorem fits_question {records : List ActionRecord}
    (h : (formatActionHistory records).length ≤ 100) : Fits question (instruction records) [] := by
  have hnone : (instruction []).length ≤ 100000 :=
    (Json.length_le_utf8ByteSize _).trans (by decide +kernel)
  have hquestion : question.length ≤ 100 := by decide +kernel
  obtain ⟨before, after, next, last, hparts⟩ := instruction_parts
  rw [hparts, String.length_append, String.length_append, String.length_append,
    String.length_append] at hnone
  rw [hparts]
  simp only [Fits, transcriptCharacters, transcriptOf, List.flatMap_nil, List.map_cons,
    List.map_nil, List.sum_cons, List.sum_nil, characterCount, maxPromptContextChars,
    String.length_append]
  omega

def accepting (batch : List ProposedToolCall) : TurnState Decimal96 :=
  { openingState question none ⟨1, batch.length⟩ with
    transcript := [.user question, .assistantToolCalls batch] }

/-- The state a staging call leaves. -/
def staging (state : TurnState Decimal96) (call : ProposedToolCall)
    (input : StageProjectPatchInput Decimal96) : TurnState Decimal96 :=
  recordOutcome { state with executedCallIds := call.id :: state.executedCallIds }
    (validated call input) (stagedPatch project input)

def stagingEvents (call : ProposedToolCall) (input : StageProjectPatchInput Decimal96)
    (past : History Decimal96) : History Decimal96 :=
  .store context.ownerId (.get selected.id) :: .dispatch (validated call input) :: past

theorem outcomes_stagingEvents (batch : List ProposedToolCall) (call : ProposedToolCall)
    (input : StageProjectPatchInput Decimal96) (past : History Decimal96) :
    outcomes (stagingHost batch) context (stagingEvents call input past) =
      stagedPatch project input :: outcomes (stagingHost batch) context past := rfl

/-- The turn asks, dispatches the batch and is answered. -/
theorem exists_turn {batch : List ProposedToolCall} {accepted : List (ValidatedToolCall Decimal96)}
    {next : TurnState Decimal96} {later : ModelTurnRequest → History Decimal96}
    (haccepted : preflight (stagingHost batch).jsonLibrary context ⟨1, 0⟩ [] batch = .ok accepted)
    (hbudget : TurnBudget.chargeToolCalls ⟨1, 0⟩ accepted.length = .ok ⟨1, batch.length⟩)
    (hdispatch : ∀ request, dispatchCalls (stagingHost batch) context accepted (accepting batch)
      [.preflight batch (.ok accepted), .respond request] = (.ok next, later request))
    (hlater : ∀ request, later request ≠ []) (hcharged : next.budget = ⟨1, batch.length⟩)
    (hexecuted : next.executedCallIds ≠ []) (hrepair : next.schemaRepairPending = false)
    (hrecords : (formatActionHistory next.actionHistory).length ≤ 100) :
    ∃ turn history request, runTurnWithImage (stagingHost batch) context question none 2 [] =
        (.ok (some turn), history) ∧
      outcomes (stagingHost batch) context history =
        outcomes (stagingHost batch) context (later request) := by
  -- the first round
  let opening : TurnState Decimal96 := openingState question none .new
  let asked : TurnState Decimal96 :=
    { openingState question none ⟨1, 0⟩ with transcript := [.user question] }
  have hcompact : compact opening.transcript
      (nextInstruction (stagingHost batch) context false opening) = .ok [.user question] :=
    compactRounds_fits _ (fits_question (by decide +kernel))
  have hstep : turnStep (stagingHost batch) context false none opening [] =
      askModel (stagingHost batch) context false none asked [] := turnStep_eq rfl rfl hcompact
  obtain ⟨request, hask⟩ : ∃ request, askModel (stagingHost batch) context false none asked [] =
      (dispatchCalls (stagingHost batch) context accepted (accepting batch) >>=
        fun state => pure (.inl state)) [.preflight batch (.ok accepted), .respond request] :=
    @exists_askModel_toolCalls Decimal96 _ (stagingHost batch) context false none asked [] none
      batch accepted ⟨1, batch.length⟩ (fun _ => rfl) haccepted hbudget
  have hfirst : turnStep (stagingHost batch) context false none opening [] =
      (.ok (.inl next), later request) :=
    hstep.trans (hask.trans (bind_eq_ok.mpr ⟨_, _, hdispatch request, rfl⟩))
  -- the second round: whatever compaction keeps, the state is answered
  have hreached : Reached (stagingHost batch) context question none next (later request) := by
    have hopened : Reached (stagingHost batch) context question none
        (openingState (trim question) none .new) [] := .opening rfl
    rw [trim_question] at hopened
    exact hopened.step hfirst
  obtain ⟨transcript, hfits⟩ : ∃ transcript, compact next.transcript
      (nextInstruction (stagingHost batch) context false next) = .ok transcript := by
    have hinstruction : nextInstruction (stagingHost batch) context false next =
        instruction next.actionHistory := by
      rw [nextInstruction, hrepair]
      rfl
    rw [hinstruction]
    apply hreached.exists_compact
    rw [trim_question]
    exact fits_question hrecords
  have hcharge : next.budget.chargeModelRequest = .ok ⟨2, batch.length⟩ := by
    rw [hcharged]
    rfl
  obtain ⟨latest, past, hpast⟩ := List.exists_cons_of_ne_nil (hlater request)
  obtain ⟨request', hanswer⟩ : ∃ request', askModel (stagingHost batch) context false none
      { next with budget := ⟨2, batch.length⟩, transcript := transcript } (later request) = _ :=
    @exists_askModel_message Decimal96 _ (stagingHost batch) context false none
      { next with budget := ⟨2, batch.length⟩, transcript := transcript } (later request) none
      "The change is ready for review." (by rw [hpast]; exact fun _ => rfl)
  obtain ⟨turn, hanswered⟩ := @exists_answerMessage Decimal96 context
    (afterRequest { next with budget := ⟨2, batch.length⟩, transcript := transcript } none)
    hexecuted false "The change is ready for review." (.respond request' :: later request)
  have hturn : turnStep (stagingHost batch) context false none next (later request) =
      (.ok (.inr turn), .respond request' :: later request) :=
    (turnStep_eq rfl hcharge hfits).trans
      (hanswer.trans (bind_eq_ok.mpr ⟨turn, _, hanswered, rfl⟩))
  refine ⟨turn, .respond request' :: later request, request, ?_, rfl⟩
  have hlength : ¬ (question.length < 1 ∨ maxQuestionChars < question.length) := by decide +kernel
  have hopen : openingBudget context = .ok .new := rfl
  simp only [runTurnWithImage, trim_question]
  rw [if_neg hlength, hopen]
  exact bind_eq_ok.mpr ⟨_, _, hfirst, bind_eq_ok.mpr ⟨_, _, hturn, rfl⟩⟩

theorem stagedPatch_report :
    stagedPatch project report = .staged none [] ["The region label was blurred."] := by
  decide +kernel

theorem stagedPatch_rename : (stagedPatch project rename).proposal.isSome = true ∧
    (stagedPatch project rename).extractionNotes =
      some (["The instance count was not visible."], []) := by
  decide +kernel

end NotesWitness

open ViewWitness NotesWitness in
/-- A proposal staged alone is shown with its omission. -/
theorem proposal_shown_with_its_notes_alone : ∃ turn history,
    runTurnWithImage (stagingHost [renameCall]) context question none 2 [] =
      (.ok (some turn), history) ∧
    NotesBelong (outcomes (stagingHost [renameCall]) context history) turn := by
  obtain ⟨turn, history, request, hrun, houtcomes⟩ := @exists_turn [renameCall]
    [validated renameCall rename] (staging (accepting [renameCall]) renameCall rename)
    (fun request => stagingEvents renameCall rename
      [.preflight [renameCall] (.ok [validated renameCall rename]), .respond request])
    (by decide +kernel) rfl (fun _ => rfl) (fun _ => List.cons_ne_nil _ _) rfl
    (List.cons_ne_nil _ _) rfl (by decide +kernel)
  refine ⟨turn, history, hrun, (proposal_shown_with_its_notes_iff hrun).mpr ?_⟩
  rw [houtcomes, outcomes_stagingEvents]
  intro staging report _ hreport hnone
  obtain ⟨hproposal, hnotes⟩ := stagedPatch_rename
  have hsame : stagedPatch project rename = report := by
    simpa [lastReport, hnotes] using hreport
  rw [hsame, hnone] at hproposal
  exact nomatch hproposal

open ViewWitness NotesWitness in
/-- A report without a proposal replaces the notes of the proposal staged before. -/
theorem report_replaces_the_notes : ∃ turn history,
    runTurnWithImage (stagingHost [renameCall, reportCall]) context question none 2 [] =
      (.ok (some turn), history) ∧
    ¬ NotesBelong (outcomes (stagingHost [renameCall, reportCall]) context history) turn := by
  obtain ⟨turn, history, request, hrun, houtcomes⟩ := @exists_turn [renameCall, reportCall]
    [validated renameCall rename, validated reportCall report]
    (staging (staging (accepting [renameCall, reportCall]) renameCall rename) reportCall report)
    (fun request => stagingEvents reportCall report (stagingEvents renameCall rename
      [.preflight [renameCall, reportCall]
        (.ok [validated renameCall rename, validated reportCall report]), .respond request]))
    (by decide +kernel) rfl (fun _ => rfl) (fun _ => List.cons_ne_nil _ _) rfl
    (List.cons_ne_nil _ _) rfl (by decide +kernel)
  refine ⟨turn, history, hrun, fun hbelong => ?_⟩
  obtain ⟨hproposal, homissions, -⟩ := runTurnWithImage_holdsOf hrun
  rw [houtcomes, outcomes_stagingEvents, outcomes_stagingEvents] at hproposal homissions hbelong
  obtain ⟨hsome, hnotes⟩ := stagedPatch_rename
  obtain ⟨proposal, hstaged⟩ := Option.isSome_iff_exists.mp hsome
  have hreported : (stagedPatch project report).proposal = none :=
    stagedPatch_report ▸ rfl
  have hproducer : ∀ others, producer (stagedPatch project report ::
      stagedPatch project rename :: others) = some (stagedPatch project rename) := fun others => by
    simp [producer, hreported, hsome]
  rw [hproducer, Option.bind_some, hstaged] at hproposal
  obtain ⟨staging, hstaging, -, hnotesOf⟩ := hbelong proposal hproposal
  obtain rfl := Option.some.inj ((hproducer _).symm.trans hstaging)
  have hempty : turn.omissions = [] := by
    simpa [lastReport, stagedPatch_report, ToolOutcome.extractionNotes, ToolOutcome.omissions]
      using homissions
  have hmissing := hnotesOf.omitted
  rw [hempty, ToolOutcome.omissions, hnotes] at hmissing
  exact absurd (hmissing List.mem_cons_self) List.not_mem_nil

end TcoCalculator.Assistant
