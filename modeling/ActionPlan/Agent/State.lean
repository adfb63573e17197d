import ActionPlan.Models.Workflow

/-! # The agent state and the services behind the graph

`agent/state.py`. A key of the state that is missing and a key that holds
`None` are read alike by every node, so both are `none`. The answers of the
language model and of the retriever, and the readings of the clock, are the
inputs of a graph run.
-/

namespace ActionPlan.Agent

open ActionPlan.Foundation ActionPlan.Models

/-- The state that the nodes pass on. A key that no node has set is absent. -/
structure AgentState where
  workflowId : Option String := none
  originalGoal : Option String := none
  workRequestInput : Option WorkRequestInput := none
  workRequest : Option WorkRequest := none
  objectiveAnalysis : Option (Dict Value) := none
  goalAnalysis : Option (Dict Value) := none
  plannerSteps : Option (List String) := none
  procedureAnalysis : Option (Dict Value) := none
  procedures : Option (List Procedure) := none
  requirements : Option (List Requirement) := none
  functionDefinitions : Option (Dict Value) := none
  candidatePlan : Option CandidatePlan := none
  planValidation : Option PlanValidationResult := none
  planRevisionCount : Option Int := none
  optimization : Option OptimizationResult := none
  tasks : Option (List Task) := none
  completedTasks : Option (List String) := none
  blockedTasks : Option (List String) := none
  currentTask : Option String := none
  currentState : Option (Dict Value) := none
  retrievedDocuments : Option (List Evidence) := none
  targetedEvidence : Option (List TargetedEvidence) := none
  targetedByRequirement : Option (Dict (List String)) := none
  detectedBlockers : Option (List Blocker) := none
  recommendation : Option Recommendation := none
  memoryContext : Option (List String) := none
  executionMetadata : Option (Dict Value) := none
  incomingCompletedTaskIds : Option (List String) := none

/-- `{key: value}` with a string value, as the nodes return it for
`execution_metadata`. -/
def metadata (key value : String) : Option (Dict Value) := some (AList.singleton key (.str value))

/-- What `ObjectiveAnalysis.model_dump()` gives; no node looks into it. -/
abbrev ObjectiveAnalysis := Dict Value

/-- The reply schema of the procedure extraction. -/
structure ProcedureExtraction where
  summary : String
  procedures : List Procedure := []
  notes : List String := []

/-- The methods of `LLMProvider` that the graph calls. -/
structure LLMProvider where
  analyzeObjective : WorkRequest → Except Exn ObjectiveAnalysis
  extractProcedures : WorkRequest → Except Exn ProcedureExtraction
  extractRequirements : WorkRequest → Except Exn (List Requirement)

/-- `retriever.retrieve(query, limit, workflow_id)`. -/
abbrev Retriever := String → Nat → Option String → Except Exn (List Evidence)

/-- The readings of the clock during one run: today, the creation of the
recommendation, the record that the memory node saves, and the record that the
service builds from the result. -/
structure Clock where
  today : Date
  recommendedAt : DateTime
  nodeCreatedAt : DateTime
  nodeUpdatedAt : DateTime
  resultCreatedAt : DateTime
  resultUpdatedAt : DateTime

/-- Everything a graph run reads besides its initial state. -/
structure Services where
  llm : LLMProvider
  retriever : Retriever
  clock : Clock

end ActionPlan.Agent
