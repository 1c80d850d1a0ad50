/-
The transcript of a turn is a conversation, a question and complete rounds of
tool calls, and compaction keeps it one.
-/
import TcoCalculator.Assistant.ProjectViewRedaction
import TcoCalculator.Assistant.TurnRuns
import TcoCalculator.Assistant.TurnSafety

namespace TcoCalculator.Assistant

open Locked

/-! ### Rounds -/

/-- The message is the result of the call with this identifier. -/
def AnswersCall (callId : String) (message : TranscriptMessage) : Prop :=
  ∃ toolName content, message = .toolResult callId toolName content

/-- One tool round trip: a batch of calls and the results of all its calls, in order. -/
structure Round where
  calls : List ProposedToolCall
  results : List TranscriptMessage
  answered : List.Forall₂ AnswersCall (calls.map ProposedToolCall.id) results

namespace Round

def ids (round : Round) : List String := round.calls.map ProposedToolCall.id

def messages (round : Round) : List TranscriptMessage :=
  .assistantToolCalls round.calls :: round.results

theorem answers_of_mem {round : Round} {message : TranscriptMessage}
    (h : message ∈ round.results) : ∃ callId ∈ round.ids, AnswersCall callId message :=
  KeyedGroups.exists_mem_of_forall₂ round.answered h

theorem exists_result {round : Round} {callId : String} (h : callId ∈ round.ids) :
    ∃ message ∈ round.results, AnswersCall callId message :=
  KeyedGroups.exists_mem_of_forall₂ round.answered.flip h |>.imp fun _ hmessage => hmessage

end Round

def transcriptOf (question : String) (rounds : List Round) : List TranscriptMessage :=
  .user question :: rounds.flatMap Round.messages

def callIdsOf (rounds : List Round) : List String := rounds.flatMap Round.ids

/-- A question and the rounds after it; no two calls share an identifier. -/
structure Conversation where
  question : String
  rounds : List Round
  nodup : (callIdsOf rounds).Nodup

def Conversation.transcript (conversation : Conversation) : List TranscriptMessage :=
  transcriptOf conversation.question conversation.rounds

/-! ### Dropping a round -/

variable {question instruction : String} {rounds rest : List Round} {round : Round}

theorem isResultOf_of_answers {callId : String} {message : TranscriptMessage}
    (h : AnswersCall callId message) (dropped : List String) :
    isResultOf dropped message = decide (callId ∈ dropped) := by
  obtain ⟨toolName, content, rfl⟩ := h
  rfl

/-- No message of other rounds is a result of this one. -/
theorem not_isResultOf {message : TranscriptMessage}
    (hnodup : (callIdsOf (round :: rest)).Nodup) (h : message ∈ rest.flatMap Round.messages) :
    isResultOf round.ids message = false := by
  obtain ⟨other, hother, hmessage⟩ := List.mem_flatMap.mp h
  rcases List.mem_cons.mp hmessage with rfl | hresult
  · rfl
  · obtain ⟨callId, hid, hanswers⟩ := Round.answers_of_mem hresult
    have hapart := (List.nodup_append.mp hnodup).2.2
    rw [isResultOf_of_answers hanswers, decide_eq_false_iff_not]
    exact fun hround => hapart callId hround callId (List.mem_flatMap.mpr ⟨other, hother, hid⟩) rfl

/-- The oldest round goes with all its results, and nothing else goes. -/
theorem dropOldestRoundTrip_transcriptOf (hnodup : (callIdsOf (round :: rest)).Nodup) :
    dropOldestRoundTrip (transcriptOf question (round :: rest)) =
      some (transcriptOf question rest) := by
  have hresults : round.results.filter (fun message => !isResultOf round.ids message) = [] := by
    rw [List.filter_eq_nil_iff]
    intro message hmessage
    obtain ⟨callId, hid, hanswers⟩ := Round.answers_of_mem hmessage
    simp [isResultOf_of_answers hanswers, hid]
  have hrest : (rest.flatMap Round.messages).filter (fun message =>
      !isResultOf round.ids message) = rest.flatMap Round.messages := by
    rw [List.filter_eq_self]
    intro message hmessage
    rw [not_isResultOf hnodup hmessage, Bool.not_false]
  have huser : isResultOf round.ids (.user question) = false := rfl
  have hcalls : callIds (.assistantToolCalls round.calls) = round.ids := rfl
  simp [dropOldestRoundTrip, transcriptOf, Round.messages, List.findIdx?_cons,
    isAssistantToolCalls, hcalls, huser, hresults, hrest]

theorem dropOldestRoundTrip_question : dropOldestRoundTrip (transcriptOf question []) = none := rfl

/-! ### Compaction -/

section Loop

variable {transcript shorter : List TranscriptMessage}

theorem compactRounds_fits (fuel : Nat)
    (h : transcriptCharacters transcript instruction ≤ maxPromptContextChars) :
    compactRounds instruction fuel transcript = .ok transcript := by
  rw [compactRounds.eq_def]
  exact if_pos h

theorem compactRounds_drop (fuel : Nat)
    (h : ¬ transcriptCharacters transcript instruction ≤ maxPromptContextChars)
    (hdrop : dropOldestRoundTrip transcript = some shorter) :
    compactRounds instruction (fuel + 1) transcript = compactRounds instruction fuel shorter := by
  rw [compactRounds.eq_def]
  exact (if_neg h).trans (by rw [hdrop])

theorem compactRounds_stuck (fuel : Nat)
    (h : ¬ transcriptCharacters transcript instruction ≤ maxPromptContextChars)
    (hdrop : dropOldestRoundTrip transcript = none) :
    compactRounds instruction fuel transcript = .error .promptContext := by
  rw [compactRounds.eq_def]
  refine (if_neg h).trans ?_
  rw [hdrop]
  cases fuel <;> rfl

end Loop

/-- The question and these rounds fit beside the instruction. -/
def Fits (question instruction : String) (rounds : List Round) : Prop :=
  transcriptCharacters (transcriptOf question rounds) instruction ≤ maxPromptContextChars

theorem Fits.of_suffix (h : Fits question instruction rounds) (hsuffix : rest <:+ rounds) :
    Fits question instruction rest := by
  obtain ⟨dropped, rfl⟩ := hsuffix
  simp only [Fits, transcriptCharacters, transcriptOf, List.flatMap_append, List.map_cons,
    List.map_append, List.sum_cons, List.sum_append] at h ⊢
  omega

/-- The longest suffix of the rounds that fits. -/
structure LongestFitting (question instruction : String) (rounds kept : List Round) : Prop where
  suffix : kept <:+ rounds
  fits : Fits question instruction kept
  longest : ∀ longer, longer <:+ rounds → Fits question instruction longer → longer <:+ kept

theorem LongestFitting.self (h : Fits question instruction rounds) :
    LongestFitting question instruction rounds rounds :=
  ⟨List.suffix_refl rounds, h, fun _ hlonger _ => hlonger⟩

theorem LongestFitting.cons {kept : List Round} (h : LongestFitting question instruction rest kept)
    (hfull : ¬ Fits question instruction (round :: rest)) :
    LongestFitting question instruction (round :: rest) kept := by
  refine ⟨h.suffix.trans (List.suffix_cons round rest), h.fits, fun longer hlonger hfits => ?_⟩
  rcases List.suffix_cons_iff.mp hlonger with rfl | hrest
  · exact absurd hfits hfull
  · exact h.longest longer hrest hfits

/-- Compaction of a conversation keeps the longest suffix of its rounds that fits. -/
theorem compactRounds_transcriptOf (hnodup : (callIdsOf rounds).Nodup) {fuel : Nat}
    (hfuel : rounds.length ≤ fuel) :
    (Fits question instruction [] → ∃ kept, LongestFitting question instruction rounds kept ∧
      compactRounds instruction fuel (transcriptOf question rounds) =
        .ok (transcriptOf question kept)) ∧
    (¬ Fits question instruction [] →
      compactRounds instruction fuel (transcriptOf question rounds) = .error .promptContext) := by
  induction rounds generalizing fuel with
  | nil =>
      constructor
      · intro hfits
        exact ⟨[], LongestFitting.self hfits, compactRounds_fits fuel hfits⟩
      · intro hfull
        exact compactRounds_stuck fuel hfull dropOldestRoundTrip_question
  | cons round rest ih =>
      obtain ⟨fuel, rfl⟩ := Nat.exists_eq_add_of_le' (Nat.lt_of_lt_of_le (Nat.zero_lt_succ _) hfuel)
      have hrest := ih (List.nodup_append.mp hnodup).2.1 (Nat.le_of_succ_le_succ hfuel)
      by_cases hfits : Fits question instruction (round :: rest)
      · exact ⟨fun _ => ⟨round :: rest, LongestFitting.self hfits, compactRounds_fits _ hfits⟩,
          fun hfull => absurd (hfits.of_suffix List.nil_suffix) hfull⟩
      · rw [compactRounds_drop fuel hfits (dropOldestRoundTrip_transcriptOf hnodup)]
        exact ⟨fun hnone => (hrest.1 hnone).imp fun kept hkept => ⟨hkept.1.cons hfits, hkept.2⟩,
          hrest.2⟩

theorem length_le_transcriptOf : rounds.length ≤ (transcriptOf question rounds).length := by
  induction rounds with
  | nil => exact Nat.zero_le _
  | cons round rest ih =>
      simp only [transcriptOf, Round.messages, List.flatMap_cons, List.length_cons,
        List.length_append] at ih ⊢
      omega

/-- A compacted conversation is one again, with the longest suffix of the rounds that fits. -/
theorem Conversation.compact_eq_ok {conversation : Conversation} {kept : List TranscriptMessage}
    (h : compact conversation.transcript instruction = .ok kept) :
    ∃ compacted : Conversation, compacted.question = conversation.question ∧
      kept = compacted.transcript ∧ LongestFitting conversation.question instruction
        conversation.rounds compacted.rounds := by
  have hrounds := @compactRounds_transcriptOf conversation.question instruction
    conversation.rounds conversation.nodup conversation.transcript.length length_le_transcriptOf
  by_cases hfits : Fits conversation.question instruction []
  · obtain ⟨rounds, hlongest, hcompact⟩ := hrounds.1 hfits
    obtain ⟨dropped, hdropped⟩ := hlongest.suffix
    have hnodup := conversation.nodup
    rw [← hdropped, callIdsOf, List.flatMap_append] at hnodup
    exact ⟨⟨conversation.question, rounds, (List.nodup_append.mp hnodup).2.1⟩, rfl,
      Except.ok.inj (h.symm.trans hcompact), hlongest⟩
  · exact nomatch h.symm.trans (hrounds.2 hfits)

/-- Compaction gives up only when the question alone is too long. -/
theorem Conversation.compact_eq_error {conversation : Conversation} {error : BudgetError}
    (h : compact conversation.transcript instruction = .error error) :
    ¬ Fits conversation.question instruction [] := by
  intro hfits
  obtain ⟨_, -, hcompact⟩ := (@compactRounds_transcriptOf conversation.question instruction
    conversation.rounds conversation.nodup conversation.transcript.length
    length_le_transcriptOf).1 hfits
  exact nomatch h.symm.trans hcompact

/-! ### The transcripts of a turn -/

section Turn

variable {D : Type} [DecimalArith D] {host : Host D} {context : TurnContext} {imageTurn : Bool}

/-- With results for the calls still to be dispatched the transcript is a
conversation about the question, of calls executed or still to be. -/
def Conversing (question : String) (calls : List (ValidatedToolCall D)) (state : TurnState D)
    (_ : History D) : Prop :=
  ∀ results, List.Forall₂ AnswersCall (calls.map ValidatedToolCall.id) results →
    ∃ conversation : Conversation, conversation.question = question ∧
      state.transcript ++ results = conversation.transcript ∧
      ∀ callId ∈ callIdsOf conversation.rounds,
        callId ∈ calls.map ValidatedToolCall.id ∨ callId ∈ state.executedCallIds

omit [DecimalArith D] in
theorem Conversing.conversation {state : TurnState D} {history : History D}
    (h : Conversing question [] state history) : ∃ conversation : Conversation,
      conversation.question = question ∧ state.transcript = conversation.transcript ∧
      ∀ callId ∈ callIdsOf conversation.rounds, callId ∈ state.executedCallIds := by
  obtain ⟨conversation, hquestion, htranscript, hids⟩ := h [] .nil
  rw [List.append_nil] at htranscript
  exact ⟨conversation, hquestion, htranscript, fun callId hid => by simpa using hids callId hid⟩

omit [DecimalArith D] in
theorem Conversation.conversing (conversation : Conversation) {state : TurnState D}
    (hquestion : conversation.question = question)
    (htranscript : state.transcript = conversation.transcript)
    (hids : ∀ callId ∈ callIdsOf conversation.rounds, callId ∈ state.executedCallIds)
    (history : History D) : Conversing question [] state history := by
  intro results hresults
  obtain rfl : results = [] := by simpa using hresults
  exact ⟨conversation, hquestion, by rw [List.append_nil, htranscript],
    fun callId hid => .inr (hids callId hid)⟩

theorem map_id_of_accepts {library : JsonLibrary D} {proposed : List ProposedToolCall}
    {accepted : List (ValidatedToolCall D)}
    (h : List.Forall₂ (Accepts library context) proposed accepted) :
    accepted.map ValidatedToolCall.id = proposed.map ProposedToolCall.id := by
  induction h with
  | nil => rfl
  | cons haccepts _ ih => rw [List.map_cons, List.map_cons, ih, haccepts.1]

/-- An accepted batch and the results of its calls make one more round. -/
theorem Conversation.exists_append {conversation : Conversation}
    {proposed : List ProposedToolCall} {results : List TranscriptMessage}
    (hnodup : (proposed.map ProposedToolCall.id).Nodup)
    (hfresh : ∀ call ∈ proposed, call.id ∉ callIdsOf conversation.rounds)
    (hresults : List.Forall₂ AnswersCall (proposed.map ProposedToolCall.id) results) :
    ∃ longer : Conversation, longer.question = conversation.question ∧
      longer.transcript = conversation.transcript ++ .assistantToolCalls proposed :: results ∧
      callIdsOf longer.rounds =
        callIdsOf conversation.rounds ++ proposed.map ProposedToolCall.id := by
  let round : Round := ⟨proposed, results, hresults⟩
  have hids : callIdsOf (conversation.rounds ++ [round]) =
      callIdsOf conversation.rounds ++ proposed.map ProposedToolCall.id := by
    simp [callIdsOf, Round.ids, round]
  refine ⟨⟨conversation.question, conversation.rounds ++ [round], ?_⟩, rfl, ?_, hids⟩
  · rw [hids, List.nodup_append]
    refine ⟨conversation.nodup, hnodup, fun callId hold other hnew heq => ?_⟩
    obtain ⟨call, hcall, rfl⟩ := List.mem_map.mp hnew
    exact hfresh call hcall (heq ▸ hold)
  · simp [Conversation.transcript, transcriptOf, Round.messages, round]

theorem kept_conversing (question : String) :
    Kept host context imageTurn (Conversing (D := D) question) where
  ask request routedModel h hcompact := by
    obtain ⟨conversation, rfl, htranscript, hids⟩ := h.conversation
    rw [htranscript] at hcompact
    obtain ⟨compacted, hquestion, hkept, hlongest⟩ := Conversation.compact_eq_ok hcompact
    refine compacted.conversing hquestion hkept ?_ _
    intro callId hid
    refine hids callId ?_
    obtain ⟨round, hround, hid⟩ := List.mem_flatMap.mp hid
    exact List.mem_flatMap.mpr ⟨round, hlongest.suffix.subset hround, hid⟩
  repair _ _ h := h
  accept {state history proposed accepted budget} h haccepted := by
    intro results hresults
    obtain ⟨conversation, hquestion, htranscript, hids⟩ := h.conversation
    obtain ⟨hall, hnodup, hfresh, -⟩ := preflight_eq_ok haccepted
    have hmap := map_id_of_accepts hall
    rw [hmap] at hnodup hresults
    have hapart : ∀ call ∈ proposed, call.id ∉ callIdsOf conversation.rounds := by
      intro call hcall hold
      have hmem : call.id ∈ accepted.map ValidatedToolCall.id :=
        hmap ▸ List.mem_map_of_mem hcall
      obtain ⟨validated, hvalidated, hid⟩ := List.mem_map.mp hmem
      exact hfresh validated hvalidated (hid ▸ hids _ hold)
    obtain ⟨longer, hlonger, htranscript', hids'⟩ :=
      Conversation.exists_append hnodup hapart hresults
    refine ⟨longer, hlonger.trans hquestion, ?_, fun callId hid => ?_⟩
    · rw [htranscript', ← htranscript, List.append_assoc, List.singleton_append]
    · rw [hids', List.mem_append] at hid
      rw [hmap]
      exact hid.symm.imp_right (hids callId)
  call {state history later call rest outcome} h _ := by
    intro results hresults
    obtain ⟨conversation, hquestion, htranscript, hids⟩ := h
      (.toolResult call.id call.definition.name outcome.toBoundedJson :: results)
      (.cons ⟨_, _, rfl⟩ hresults)
    refine ⟨conversation, hquestion, ?_, fun callId hid => ?_⟩
    · rw [← htranscript]
      simp [recordOutcome]
    · have hmem := hids callId hid
      simp only [List.map_cons, List.mem_cons] at hmem
      simp only [recordOutcome, List.mem_cons]
      tauto

omit [DecimalArith D] in
theorem openingState_conversing (question : String) (image : Option ModelImage)
    (budget : TurnBudget) :
    Conversing (D := D) question [] (openingState question image budget) [] :=
  Conversation.conversing ⟨question, [], List.nodup_nil⟩ rfl rfl
    (fun _ hid => absurd hid List.not_mem_nil) []

theorem Reached.conversation {question : String} {image : Option ModelImage} {state : TurnState D}
    {history : History D} (h : Reached host context question image state history) :
    ∃ conversation : Conversation, conversation.question = trim question ∧
      state.transcript = conversation.transcript :=
  have hconversing := (kept_conversing (trim question)).reached (openingState_conversing _ _) h
  hconversing.conversation.imp fun _ hconversation => ⟨hconversation.1, hconversation.2.1⟩

theorem Reached.exists_compact {question : String} {image : Option ModelImage}
    {state : TurnState D} {history : History D}
    (h : Reached host context question image state history)
    (hfits : Fits (trim question) instruction []) :
    ∃ transcript, compact state.transcript instruction = .ok transcript := by
  obtain ⟨conversation, hquestion, htranscript⟩ := h.conversation
  rw [← hquestion] at hfits
  rw [htranscript]
  cases hcompact : compact conversation.transcript instruction with
  | ok transcript => exact ⟨transcript, rfl⟩
  | error error => exact absurd hfits (Conversation.compact_eq_error hcompact)

end Turn

end TcoCalculator.Assistant
