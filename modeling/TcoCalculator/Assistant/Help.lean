/-
The help catalog: matching a question to its entries
(src/rust/src/assistant/help.rs).
-/
import Mathlib.Data.List.Sort
import Mathlib.Data.String.Basic
import TcoCalculator.Assistant.ToolInput

namespace TcoCalculator.Assistant

structure HelpReference where
  controlId : String
  label : String
  deriving DecidableEq

structure HelpResponse where
  answer : String
  references : List HelpReference
  deriving DecidableEq

structure HelpEntry where
  controlId : String
  label : String
  keywords : List String
  explanation : String
  deriving DecidableEq

namespace Help

def maxMatches : Nat := 3

def isAsciiAlphanumeric (c : Char) : Bool :=
  (97 ≤ c.toNat && c.toNat ≤ 122) || (65 ≤ c.toNat && c.toNat ≤ 90) || c.isDigit

/-- The maximal runs of characters of a kind. -/
def runsOf (keep : Char → Bool) (text : String) : List String :=
  ((text.toList.splitBy fun a b => keep a == keep b).filter fun run => run.all keep).map
    String.ofList

def splitWhitespace : String → List String := runsOf fun c => !isWhiteSpace c

def normalize (text : String) : String :=
  " ".intercalate (runsOf isAsciiAlphanumeric (text.map Char.toLower))

def stopWords : List String := ["about", "does", "field", "help", "how", "tell", "that", "the",
  "this", "what", "when", "where", "which", "why", "with"]

/-- The terms of a normalized text, once each. -/
def terms (text : String) : List String :=
  ((splitWhitespace text).filter fun term => 3 ≤ term.length && term ∉ stopWords).dedup

def contains (part text : String) : Bool :=
  text.toList.tails.any fun rest => part.toList.isPrefixOf rest

def scoreEntry (entry : HelpEntry) (normalized : String) (questionTerms : List String) : Nat :=
  let phraseScore := ((entry.keywords.filter fun keyword => contains keyword normalized).map
    fun keyword => (splitWhitespace keyword).length * 4).sum
  let labelScore :=
    ((terms (normalize entry.label)).filter fun term => term ∈ questionTerms).length * 2
  let keywordScore := ((entry.keywords.flatMap (runsOf isAsciiAlphanumeric)).filter fun term =>
    3 ≤ term.length && term ∈ questionTerms).length
  phraseScore + labelScore + keywordScore

def responseFrom (matched : List HelpEntry) : HelpResponse where
  answer := "\n\n".intercalate (matched.map fun entry => entry.label ++ ": " ++ entry.explanation)
  references := matched.map fun entry => ⟨entry.controlId, entry.label⟩

/-- Higher scores come first, ties by control identifier. -/
def RankedBefore (left right : Nat × HelpEntry) : Prop :=
  right.1 < left.1 ∨ left.1 = right.1 ∧ left.2.controlId ≤ right.2.controlId

instance : DecidableRel RankedBefore := fun left right =>
  inferInstanceAs (Decidable (right.1 < left.1 ∨
    left.1 = right.1 ∧ left.2.controlId ≤ right.2.controlId))

/- The reviewed entries. -/
variable (entries : List HelpEntry)

def answerQuestion (question : String) : Except (List ValidationIssue) HelpResponse :=
  let question := trim question
  if question.length < 1 ∨ maxQuestionChars < question.length then
    .error [⟨"/question", "length", "Question must contain 1 to 1000 characters."⟩]
  else
    let normalized := normalize question
    let scored := (entries.map fun entry =>
      (scoreEntry entry normalized (terms normalized), entry)).filter fun scored => 0 < scored.1
    let matched := ((scored.insertionSort RankedBefore).take maxMatches).map Prod.snd
    if matched = [] then
      .ok ⟨"I could not match that question to an application control. Ask about a field or command such as Azure region, quantity, discounts, purchase options, Calculate, Share project, or NO MAPPING.", []⟩
    else .ok (responseFrom matched)

def explainControl (controlId : String) : Option HelpResponse :=
  (entries.find? fun entry => entry.controlId == controlId).map fun entry => responseFrom [entry]

end Help

end TcoCalculator.Assistant
