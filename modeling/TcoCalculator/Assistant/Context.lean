/-
Context and budget of one assistant turn
(src/rust/src/assistant/context.rs, src/rust/src/assistant/budget.rs).
-/
import TcoCalculator.Domain.Resource
import TcoCalculator.Library.Fallible

namespace TcoCalculator.Assistant

inductive TurnPhase where
  | readPlan
  | propose
  | execute
  deriving DecidableEq, Repr

/-- The owner-scoped project chosen for a turn. -/
structure SelectedProject where
  id : Uuid
  etag : String
  awsPriceSnapshotId : Option String
  azurePriceSnapshotId : Option String
  deriving DecidableEq

/-- What the host fixes for a turn.  The clock is read through the host. -/
structure TurnContext where
  ownerId : String
  requestId : Uuid
  phase : TurnPhase
  project : Option SelectedProject
  classifiedProjectType : Option ProjectType
  classificationModelRequests : UInt32
  confirmedActions : List String
  deriving DecidableEq

namespace TurnContext

def new (ownerId : String) (requestId : Uuid) (phase : TurnPhase) : TurnContext where
  ownerId := ownerId
  requestId := requestId
  phase := phase
  project := none
  classifiedProjectType := none
  classificationModelRequests := 0
  confirmedActions := []

def withProject (context : TurnContext) (project : SelectedProject) : TurnContext :=
  { context with project := some project }

def withClassificationUsage (context : TurnContext) (projectType : ProjectType)
    (modelRequests : UInt32) : TurnContext :=
  { context with
    classifiedProjectType := some projectType
    classificationModelRequests := modelRequests }

def isConfirmed (context : TurnContext) (actionId : String) : Bool :=
  context.confirmedActions.any (· == actionId)

end TurnContext

def maxModelRequests : Nat := 8
def maxToolCalls : Nat := 12
def maxToolCallsPerResponse : Nat := 4
def maxMutatingCallsPerBatch : Nat := 1
def maxModelCallTimeoutMillis : Nat := 60000
def maxPromptContextChars : Nat := 128000
def maxModelOutputTokens : Nat := 4000
def maxToolResultChars : Nat := 8000

inductive BudgetError where
  | modelRequests
  | toolCalls
  | promptContext
  deriving DecidableEq, Repr

/-- Counters of one turn. -/
structure TurnBudget where
  modelRequests : Nat
  toolCalls : Nat
  deriving DecidableEq, Repr

namespace TurnBudget

def new : TurnBudget := ⟨0, 0⟩

def chargeModelRequest (budget : TurnBudget) : Except BudgetError TurnBudget :=
  if maxModelRequests ≤ budget.modelRequests then .error .modelRequests
  else .ok { budget with modelRequests := budget.modelRequests + 1 }

/-- The whole batch is refused when it does not fit. -/
def chargeToolCalls (budget : TurnBudget) (count : Nat) : Except BudgetError TurnBudget := do
  ensure (count < 2 ^ 32) .toolCalls
  ensure (budget.toolCalls + count < 2 ^ 32) .toolCalls
  if maxToolCalls < budget.toolCalls + count then .error .toolCalls
  else .ok { budget with toolCalls := budget.toolCalls + count }

def remainingToolCalls (budget : TurnBudget) : Nat := maxToolCalls - budget.toolCalls

theorem chargeModelRequest_eq_ok {budget charged : TurnBudget} :
    budget.chargeModelRequest = .ok charged ↔ budget.modelRequests < maxModelRequests ∧
      charged = { budget with modelRequests := budget.modelRequests + 1 } := by
  by_cases h : maxModelRequests ≤ budget.modelRequests
  · simp [chargeModelRequest, h]
  · simp [chargeModelRequest, h, Nat.lt_of_not_le h, eq_comm]

theorem chargeToolCalls_eq_ok {budget charged : TurnBudget} {count : Nat} :
    budget.chargeToolCalls count = .ok charged ↔ budget.toolCalls + count ≤ maxToolCalls ∧
      charged = { budget with toolCalls := budget.toolCalls + count } := by
  by_cases h : budget.toolCalls + count ≤ maxToolCalls
  · have hroom : count < 2 ^ 32 ∧ budget.toolCalls + count < 2 ^ 32 := by
      simp only [maxToolCalls] at h
      omega
    rw [chargeToolCalls, Fallible.ensure_of hroom.1, Fallible.ok_bind,
      Fallible.ensure_of hroom.2, Fallible.ok_bind, if_neg (Nat.not_lt.mpr h)]
    simp [h, eq_comm]
  · simp only [h, false_and, iff_false]
    intro hcharged
    simp only [chargeToolCalls, Fallible.bind_eq_ok, Fallible.ensure_eq_ok,
      if_pos (Nat.lt_of_not_le h)] at hcharged
    obtain ⟨_, _, _, _, hcharged⟩ := hcharged
    exact nomatch hcharged

end TurnBudget

/-- The smaller of the time left and the cap of one call. -/
def modelCallTimeout (remainingMillis : Nat) : Nat := min remainingMillis maxModelCallTimeoutMillis

end TcoCalculator.Assistant
