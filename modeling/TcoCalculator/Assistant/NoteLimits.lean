/-
The limits of extraction notes, on the server and in the web client
(normalize_extraction_notes in src/rust/src/assistant/tools.rs, parseNotes in
src/web/src/lib/assistant.ts).
-/
import TcoCalculator.Assistant.DraftStaging
import TcoCalculator.Assistant.ProjectViewRedaction
import TcoCalculator.Library.JsonSize
import TcoCalculator.Library.KeyedGroups
import TcoCalculator.Library.ReadEach

namespace TcoCalculator.Assistant

/-! ### The web client -/

/-- Strings of JavaScript are counted here by code points, as `Array.from` does. -/
def parseBoundedNotes (value : Json) (maximumItems maximumCharacters : Nat) (required : Bool) :
    Option (List String) :=
  match value with
  | .array notes =>
      if (required && notes.length < 1) || maximumItems < notes.length then none
      else notes.mapM fun note => match note with
        | .string text =>
            if text.length < 1 || maximumCharacters < text.length then none else some text
        | _ => none
  | _ => none

def parseNotes (value : Json) : Option (List String) := parseBoundedNotes value 100 500 false

/-! ### Limits -/

/-- A note of the accepted length. -/
def NoteWithin (note : String) : Prop := note ≠ "" ∧ note.length ≤ maxExtractionNoteChars

/-- At most as many notes as are accepted, each of the accepted length. -/
structure NotesWithin (notes : List String) : Prop where
  count : notes.length ≤ maxExtractionNotes
  each : ∀ note ∈ notes, NoteWithin note

theorem length_lt_one_iff {text : String} : text.length < 1 ↔ text = "" := by
  rw [Nat.lt_one_iff, ← String.length_toList, List.length_eq_zero_iff, String.toList_eq_nil_iff]

theorem parsed_note_iff {note : String} :
    (if note.length < 1 || 500 < note.length then none else some note) = some note ↔
      NoteWithin note := by
  by_cases hnote : note.length < 1 || 500 < note.length
  · rw [if_pos hnote]
    simp only [Bool.or_eq_true, decide_eq_true_eq, length_lt_one_iff] at hnote
    simp only [reduceCtorEq, NoteWithin, maxExtractionNoteChars, false_iff, not_and]
    exact fun hsome hlength => hnote.elim hsome (Nat.not_lt.mpr hlength)
  · rw [if_neg hnote]
    simp only [Bool.or_eq_true, decide_eq_true_eq, length_lt_one_iff, not_or, Nat.not_lt] at hnote
    simp only [NoteWithin, maxExtractionNoteChars, true_iff]
    exact hnote

/-- The client takes notes as they are exactly when they are within the limits. -/
theorem parseNotes_eq_some_iff {notes : List String} :
    parseNotes (.array (notes.map .string)) = some notes ↔ NotesWithin notes := by
  simp only [parseNotes, parseBoundedNotes, Bool.false_and, Bool.false_or, decide_eq_true_eq,
    List.length_map]
  by_cases hcount : 100 < notes.length
  · rw [if_pos hcount]
    exact ⟨fun h => (nomatch h), fun h => absurd h.count (Nat.not_le.mpr hcount)⟩
  · rw [if_neg hcount, ReadEach.mapM_map_eq_some]
    simp only [parsed_note_iff]
    exact ⟨fun h => ⟨Nat.le_of_not_lt hcount, h⟩, NotesWithin.each⟩

/-! ### Notes of the model and of the host -/

theorem normalizeExtractionNotes_within {notes kept : List String}
    (h : normalizeExtractionNotes notes = .ok kept) : NotesWithin kept := by
  simp only [normalizeExtractionNotes] at h
  by_cases hcount : maxExtractionNotes < notes.length
  · rw [if_pos hcount] at h
    exact nomatch h
  · rw [if_neg hcount] at h
    have hall := Fallible.mapM_eq_ok.mp h
    refine ⟨hall.length_eq ▸ Nat.le_of_not_lt hcount, fun note hnote => ?_⟩
    obtain ⟨raw, -, hraw⟩ := KeyedGroups.exists_mem_of_forall₂ hall hnote
    split_ifs at hraw with hbad
    obtain rfl := Except.ok.inj hraw
    simp only [not_or, Nat.not_lt] at hbad
    exact ⟨hbad.1, hbad.2.1⟩

/-- A text of the host that stays within the limit. -/
theorem within_of_mem_ite {condition : Prop} [Decidable condition] {text note : String}
    (h : note ∈ if condition then [text] else []) (hsome : text ≠ "")
    (hsize : text.utf8ByteSize ≤ maxExtractionNoteChars) : NoteWithin note := by
  split_ifs at h
  · rw [List.mem_singleton.mp h]
    exact ⟨hsome, (Json.length_le_utf8ByteSize text).trans hsize⟩
  · exact absurd h List.not_mem_nil

section Staged

variable {D : Type} [DecimalArith D] {host : Host D} {context : TurnContext}

omit [DecimalArith D] in
theorem assumptionNotes_within {input : StageNewProjectDraftInput D} {note : String}
    (h : note ∈ assumptionNotes input) : NoteWithin note := by
  rw [assumptionNotes, List.mem_append, List.mem_append, List.mem_append] at h
  rcases h with ((h | h) | h) | h <;>
    exact within_of_mem_ite h (by decide +kernel) (by decide +kernel)

omit [DecimalArith D] in
/-- Notes of the host after those of the model keep the limits while there is room. -/
theorem append_assumptionNotes_within {input : StageNewProjectDraftInput D}
    (h : NotesWithin input.uncertainties) :
    NotesWithin (input.uncertainties ++ assumptionNotes input) ↔
      input.uncertainties.length + (assumptionNotes input).length ≤ maxExtractionNotes := by
  refine ⟨fun hwithin => List.length_append ▸ hwithin.count, fun hroom => ⟨?_, ?_⟩⟩
  · rwa [List.length_append]
  · intro note hnote
    rcases List.mem_append.mp hnote with hnote | hnote
    · exact h.each note hnote
    · exact assumptionNotes_within hnote

/-- The note about missing memory is left out where there is no room for it. -/
theorem append_ramUnavailable_within {uncertainties : List String}
    (h : NotesWithin uncertainties) :
    NotesWithin (if uncertainties.length < maxExtractionNotes then
      uncertainties ++ [ec2CatalogRamUnavailable] else uncertainties) := by
  split_ifs with hroom
  · refine ⟨by rwa [List.length_append, List.length_singleton], fun note hnote => ?_⟩
    rcases List.mem_append.mp hnote with hnote | hnote
    · exact h.each note hnote
    · rw [List.mem_singleton.mp hnote]
      exact ⟨by decide +kernel, (Json.length_le_utf8ByteSize _).trans (by decide +kernel)⟩
  · exact h

/-! ### Staging -/

/-- The notes are within the limits, and the client takes them as they are. -/
structure NotesAccepted (omissions uncertainties : List String) : Prop where
  omitted : NotesWithin omissions
  uncertain : NotesWithin uncertainties
  parsedOmissions : parseNotes (.array (omissions.map .string)) = some omissions
  parsedUncertainties : parseNotes (.array (uncertainties.map .string)) = some uncertainties

theorem notesAccepted_iff {omissions uncertainties : List String} :
    NotesAccepted omissions uncertainties ↔
      NotesWithin omissions ∧ NotesWithin uncertainties :=
  ⟨fun h => ⟨h.omitted, h.uncertain⟩, fun h =>
    ⟨h.1, h.2, parseNotes_eq_some_iff.mpr h.1, parseNotes_eq_some_iff.mpr h.2⟩⟩

/-- The notes the host adds to a draft have room beside those of the model; a
draft without memory of its machines gets none of them. -/
def HostNotesFit (host : Host D) (history : History D) : ToolInput D → Prop
  | .stageNewProjectDraft draft =>
      ec2CatalogRamMissing (catalogMemory host history draft) draft = true ∨
        draft.uncertainties.length + (assumptionNotes draft).length ≤ maxExtractionNotes
  | _ => True

/-- What an accepted call stages has notes that the client takes exactly when the
host's own notes have room beside those of the model. -/
theorem staged_notes_accepted_iff {definition : ToolDefinition} {arguments : String}
    {input : ToolInput D} {history later : History D}
    {proposal : Option (AssistantProposal D)} {omissions uncertainties : List String}
    (hparse : parseInput host.jsonLibrary definition arguments = .ok input)
    (hdispatch : dispatch host context input history =
      (.ok (.staged proposal omissions uncertainties), later)) :
    NotesAccepted omissions uncertainties ↔ HostNotesFit host history input := by
  rw [notesAccepted_iff]
  rcases dispatch_eq_staged hdispatch with ⟨patch, rfl, rfl, rfl⟩ | ⟨draft, rfl, hstaged⟩
  · obtain ⟨text, htext⟩ := parseInput_stageProjectPatch hparse
    obtain ⟨_, _, homissions, huncertainties⟩ := stageProjectPatchInput_eq_ok htext
    exact iff_of_true ⟨normalizeExtractionNotes_within homissions,
      normalizeExtractionNotes_within huncertainties⟩ trivial
  · obtain ⟨text, htext⟩ := parseInput_stageNewProjectDraft hparse
    obtain ⟨⟨_, _, homissions, huncertainties⟩, -⟩ := stageNewProjectDraftInput_eq_ok htext
    have hwithin := normalizeExtractionNotes_within huncertainties
    obtain ⟨rfl, ⟨hmissing, -, rfl⟩ | ⟨hmemory, -, -, -, -, rfl⟩⟩ :=
      stageNewProjectDraft_eq_staged hstaged
    · exact iff_of_true ⟨normalizeExtractionNotes_within homissions,
        append_ramUnavailable_within hwithin⟩ (.inl hmissing)
    · simp only [HostNotesFit, hmemory, Bool.false_eq_true, false_or,
        normalizeExtractionNotes_within homissions, true_and]
      exact append_assumptionNotes_within hwithin

end Staged

namespace NotesWitness

open DraftWitness

/-- An on-premises project without any field, and so many uncertainties. -/
def onPremFields (count : Nat) : List (String × Json) :=
  draftFields .onPrem [] (List.replicate count "Blurred.")

def onPremDraft (count : Nat) : StageNewProjectDraftInput Decimal96 :=
  draft .onPrem [] (List.replicate count "Blurred.")

def onPremHost (count : Nat) : Host Decimal96 :=
  draftHost (.object (onPremFields count)) (onPremDraft count)

theorem normalize_replicate {count : Nat} (h : count ≤ maxExtractionNotes) :
    normalizeExtractionNotes (List.replicate count "Blurred.") =
      .ok (List.replicate count "Blurred.") := by
  rw [normalizeExtractionNotes, if_neg (by rw [List.length_replicate]; omega),
    Fallible.mapM_eq_ok, List.forall₂_same]
  intro note hnote
  rw [List.eq_of_mem_replicate hnote]
  decide +kernel

theorem parseInput_onPrem {count : Nat} (h : count ≤ maxExtractionNotes) :
    parseInput (onPremHost count).jsonLibrary draftTool
      (Json.object (onPremFields count)).render = .ok (.stageNewProjectDraft (onPremDraft count)) :=
  parseInput_draft (normalize_draftFields rfl) rfl (normalize_replicate h) rfl

def onPremProject : EditableProject Decimal96 where
  name := "SQL TCO estimate"
  description := none
  settings := newSettings .onPrem noSettings
  resources := (newResource (fun _ => none) (fun volume => ⟨BitVec.ofNat 128 volume⟩)
    (starterResource .onPrem)).toList
  awsPriceSnapshotId := none
  azurePriceSnapshotId := none

/-- The draft is staged with one note of the host after those of the model. -/
theorem dispatch_onPrem (count : Nat) :
    dispatch (onPremHost count) newContext (.stageNewProjectDraft (onPremDraft count)) [] =
      (.ok (.staged (some (.newProjectDraft ⟨"open_project_draft", onPremProject⟩)) []
        (List.replicate count "Blurred." ++ assumptionNotes (onPremDraft count))), []) :=
  dispatch_stageNewProjectDraft rfl rfl rfl (by decide +kernel)

end NotesWitness

open NotesWitness DraftWitness in
/-- An on-premises draft with one uncertainty stays within the limits. -/
theorem staged_notes_accepted_onPrem : NotesAccepted []
    (List.replicate 1 "Blurred." ++ assumptionNotes (onPremDraft 1)) :=
  (staged_notes_accepted_iff (parseInput_onPrem (by decide)) (dispatch_onPrem 1)).mpr
    (.inr (by decide))

open NotesWitness DraftWitness in
/-- As many uncertainties as are accepted leave no room for a note of the host. -/
theorem host_note_exceeds_the_limit :
    parseInput (onPremHost 100).jsonLibrary draftTool (Json.object (onPremFields 100)).render =
        .ok (.stageNewProjectDraft (onPremDraft 100)) ∧
      dispatch (onPremHost 100) newContext (.stageNewProjectDraft (onPremDraft 100)) [] =
        (.ok (.staged (some (.newProjectDraft ⟨"open_project_draft", onPremProject⟩)) []
          (List.replicate 100 "Blurred." ++ assumptionNotes (onPremDraft 100))), []) ∧
      ¬ NotesAccepted [] (List.replicate 100 "Blurred." ++ assumptionNotes (onPremDraft 100)) := by
  refine ⟨parseInput_onPrem (Nat.le_refl 100), dispatch_onPrem 100, fun haccepted => ?_⟩
  have hcount := haccepted.uncertain.count
  rw [List.length_append, List.length_replicate] at hcount
  exact absurd hcount (by decide)

end TcoCalculator.Assistant
