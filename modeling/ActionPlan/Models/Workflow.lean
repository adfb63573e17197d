import ActionPlan.Models.Plan
import ActionPlan.Models.WorkRequest

/-! # The workflow record

`models/workflow.py` and the request models of `models/workspace.py`.
-/

namespace ActionPlan.Models

open ActionPlan.Foundation

/-- A reason for which a task cannot start. -/
structure Blocker where
  taskId : String := ""
  type : String := "dependency"
  message : String := ""
  deriving DecidableEq, Repr

/-- The statuses of a `Recommendation`. -/
inductive RecommendationStatus where
  | opened
  | accepted
  | rejected
  | revisionRequested
  | stale
  deriving DecidableEq, Repr

/-- A proposed next step and the decision that was taken about it. -/
structure Recommendation where
  recommendationId : String := ""
  workflowId : String := ""
  action : String
  reason : String
  priority : String := "medium"
  affectedTask : Option String := none
  requirementId : Option String := none
  role : Option String := none
  blockedBy : Option String := none
  evidence : List String := []
  criticalPath : List String := []
  deadlinePressure : String := "none"
  affectedTaskIds : List String := []
  supportingEvidence : List Evidence := []
  assumptions : List String := []
  status : RecommendationStatus := .opened
  createdAt : DateTime
  decidedAt : Option DateTime := none
  decisionReason : Option String := none
  deriving DecidableEq, Repr

/-- `WorkflowExecutionState`. -/
inductive ExecutionState where
  | queued
  | running
  | needsReview
  | completed
  | failed
  deriving DecidableEq, Repr

/-- The text of an execution state in records and answers. -/
def ExecutionState.value : ExecutionState → String
  | queued => "queued"
  | running => "running"
  | needsReview => "needs_review"
  | completed => "completed"
  | failed => "failed"

/-- The record of a workflow, as the agent saves it and the API answers it. -/
structure WorkflowState where
  workflowId : String
  originalGoal : String
  workRequest : Option WorkRequest := none
  objectiveAnalysis : Option (Dict Value) := none
  goalAnalysis : Option (Dict Value) := none
  plannerSteps : List String := []
  procedureAnalysis : Option (Dict Value) := none
  procedures : List Procedure := []
  requirements : List Requirement := []
  candidatePlan : Option CandidatePlan := none
  planValidation : Option PlanValidationResult := none
  planRevisionCount : Int := 0
  optimization : Option OptimizationResult := none
  tasks : List Task := []
  completedTasks : List String := []
  blockedTasks : List String := []
  currentTask : Option String := none
  currentState : Dict Value := ∅
  functionDefinitions : Dict Value := ∅
  retrievedDocuments : List Evidence := []
  targetedEvidence : List TargetedEvidence := []
  targetedByRequirement : Dict (List String) := ∅
  detectedBlockers : List Blocker := []
  recommendation : Option Recommendation := none
  memoryContext : List String := []
  executionMetadata : Dict Value := ∅
  version : Int := 1
  createdAt : DateTime
  lastAssessedAt : Option DateTime := none
  updatedAt : DateTime
  executionState : ExecutionState := .queued
  executionError : Option String := none

namespace WorkflowState

/-- Apply a function to every value held in an untyped dictionary of the record. -/
def mapUntyped (f : Value → Value) (workflow : WorkflowState) : WorkflowState :=
  { workflow with
    objectiveAnalysis := workflow.objectiveAnalysis.map (Dict.mapValues f)
    goalAnalysis := workflow.goalAnalysis.map (Dict.mapValues f)
    procedureAnalysis := workflow.procedureAnalysis.map (Dict.mapValues f)
    currentState := workflow.currentState.mapValues f
    functionDefinitions := workflow.functionDefinitions.mapValues f
    executionMetadata := workflow.executionMetadata.mapValues f }

/-- The record that `model_validate` rebuilds from `model_dump(mode="json")`:
typed fields come back as they were, untyped values in their JSON form. -/
abbrev jsonCopy (workflow : WorkflowState) : WorkflowState := workflow.mapUntyped Value.toJsonMode

section Frame

variable (f : Value → Value) (workflow : WorkflowState)

/-- Only the untyped dictionaries change. -/
@[simp] theorem mapUntyped_workflowId : (workflow.mapUntyped f).workflowId = workflow.workflowId :=
  rfl

@[simp] theorem mapUntyped_originalGoal :
    (workflow.mapUntyped f).originalGoal = workflow.originalGoal := rfl

@[simp] theorem mapUntyped_workRequest :
    (workflow.mapUntyped f).workRequest = workflow.workRequest := rfl

@[simp] theorem mapUntyped_requirements :
    (workflow.mapUntyped f).requirements = workflow.requirements := rfl

@[simp] theorem mapUntyped_candidatePlan :
    (workflow.mapUntyped f).candidatePlan = workflow.candidatePlan := rfl

@[simp] theorem mapUntyped_tasks : (workflow.mapUntyped f).tasks = workflow.tasks := rfl

@[simp] theorem mapUntyped_completedTasks :
    (workflow.mapUntyped f).completedTasks = workflow.completedTasks := rfl

@[simp] theorem mapUntyped_recommendation :
    (workflow.mapUntyped f).recommendation = workflow.recommendation := rfl

@[simp] theorem mapUntyped_version : (workflow.mapUntyped f).version = workflow.version := rfl

@[simp] theorem mapUntyped_executionState :
    (workflow.mapUntyped f).executionState = workflow.executionState := rfl

@[simp] theorem mapUntyped_executionMetadata :
    (workflow.mapUntyped f).executionMetadata = workflow.executionMetadata.mapValues f := rfl

end Frame

section Untyped

variable (f g : Value → Value) (workflow : WorkflowState)

/-- The values held in the untyped dictionaries of the record. -/
def untypedValues : List Value :=
  [workflow.objectiveAnalysis.getD ∅, workflow.goalAnalysis.getD ∅,
    workflow.procedureAnalysis.getD ∅, workflow.currentState, workflow.functionDefinitions,
    workflow.executionMetadata].flatMap fun dict => dict.entries.map Sigma.snd

/-- Two maps of the untyped values are one. -/
@[simp] theorem mapUntyped_mapUntyped :
    (workflow.mapUntyped f).mapUntyped g = workflow.mapUntyped (g ∘ f) := by
  simp [mapUntyped, Dict.mapValues_mapValues, Function.comp_def]

/-- The untyped values of the result. -/
@[simp] theorem untypedValues_mapUntyped :
    (workflow.mapUntyped f).untypedValues = workflow.untypedValues.map f := by
  have dictionary : ∀ dict : Option (Dict Value),
      (dict.map (Dict.mapValues f)).getD ∅ = (dict.getD ∅).mapValues f := by
    intro dict
    cases dict <;> rfl
  simp [untypedValues, mapUntyped, dictionary, Dict.mapValues, Function.comp_def]

private theorem map_mapValues_eq_iff (dict : Option (Dict Value)) :
    dict.map (Dict.mapValues f) = dict.map (Dict.mapValues g) ↔
      (dict.getD ∅).mapValues f = (dict.getD ∅).mapValues g := by
  cases dict with
  | none => exact iff_of_true rfl rfl
  | some dict => rw [Option.map_some, Option.map_some, Option.some_inj, Option.getD_some]

/-- Functions change the record in the same way exactly when they agree on the values that
its untyped dictionaries hold. -/
theorem mapUntyped_eq_iff : workflow.mapUntyped f = workflow.mapUntyped g ↔
    ∀ value ∈ workflow.untypedValues, f value = g value := by
  simp only [mapUntyped, mk.injEq, map_mapValues_eq_iff, Dict.mapValues_eq_iff, untypedValues,
    List.flatMap_cons, List.flatMap_nil, List.forall_mem_append, List.forall_mem_map,
    List.append_nil, true_and, and_true]

end Untyped

/-- Whether a dictionary holds JSON values only. -/
def jsonDict (dict : Dict Value) : Bool := dict.entries.all fun entry => entry.2.isJson

/-- Whether the untyped dictionaries of the record hold JSON values only. -/
def untypedJson (workflow : WorkflowState) : Bool :=
  workflow.objectiveAnalysis.all jsonDict && workflow.goalAnalysis.all jsonDict &&
    workflow.procedureAnalysis.all jsonDict && jsonDict workflow.currentState &&
    jsonDict workflow.functionDefinitions && jsonDict workflow.executionMetadata

private theorem mapValues_of_jsonDict {dict : Dict Value} (json : jsonDict dict) :
    dict.mapValues Value.toJsonMode = dict :=
  Dict.mapValues_eq_self _ _ fun entry member =>
    entry.2.toJsonMode_of_isJson (List.all_eq_true.mp json entry member)

private theorem map_mapValues_of_jsonDict {dict : Option (Dict Value)} (json : dict.all jsonDict) :
    dict.map (Dict.mapValues Value.toJsonMode) = dict := by
  cases dict with
  | none => rfl
  | some dict => exact congrArg some (mapValues_of_jsonDict json)

/-- A record whose untyped dictionaries hold JSON values survives the round trip. -/
theorem jsonCopy_of_untypedJson {workflow : WorkflowState} (json : workflow.untypedJson) :
    workflow.jsonCopy = workflow := by
  simp only [untypedJson, Bool.and_eq_true] at json
  obtain ⟨⟨⟨⟨⟨objective, goal⟩, procedure⟩, current⟩, functions⟩, metadata⟩ := json
  simp only [jsonCopy, mapUntyped, map_mapValues_of_jsonDict objective,
    map_mapValues_of_jsonDict goal, map_mapValues_of_jsonDict procedure,
    mapValues_of_jsonDict current, mapValues_of_jsonDict functions, mapValues_of_jsonDict metadata]

private theorem jsonDict_mapValues (dict : Dict Value) :
    jsonDict (dict.mapValues Value.toJsonMode) = true := by
  simp [jsonDict, Dict.mapValues, Value.isJson_toJsonMode]

private theorem all_jsonDict_map (dict : Option (Dict Value)) :
    (dict.map (Dict.mapValues Value.toJsonMode)).all jsonDict = true := by
  cases dict with
  | none => rfl
  | some dict => exact jsonDict_mapValues dict

/-- What is read back holds JSON values only. -/
theorem untypedJson_jsonCopy (workflow : WorkflowState) : workflow.jsonCopy.untypedJson = true := by
  simp only [untypedJson, jsonCopy, mapUntyped, all_jsonDict_map, jsonDict_mapValues, Bool.and_self]

end WorkflowState

/-- A positive version number, as the request models require it. -/
abbrev PositiveVersion := { version : Int // 1 ≤ version }

/-- `TaskPatch`. -/
structure TaskPatch where
  description : Option { text : String // text ≠ "" } := none
  dependencies : Option (List String) := none
  acceptanceCriteria : Option (List String) := none
  version : PositiveVersion

/-- `TaskTransition`. -/
structure TaskTransition where
  status : TaskStatus
  version : PositiveVersion
  reason : Option { text : String // text.length ≤ 2000 } := none

/-- `WorkflowUpdateRequest`. -/
structure WorkflowUpdateRequest where
  text : { text : String // text ≠ "" ∧ text.length ≤ 5000 }
  version : PositiveVersion

/-- `PlanRevisionRequest`. -/
structure PlanRevisionRequest where
  tasks : List Task
  version : PositiveVersion
  reason : Option { text : String // text.length ≤ 2000 } := none

/-- The decisions that a client can submit. -/
inductive Decision where
  | accepted
  | rejected
  | revisionRequested
  deriving DecidableEq, Repr

/-- The text of a decision in requests and events. -/
def Decision.value : Decision → String
  | accepted => "accepted"
  | rejected => "rejected"
  | revisionRequested => "revision_requested"

/-- The status that a decision gives to its recommendation. -/
def Decision.status : Decision → RecommendationStatus
  | accepted => .accepted
  | rejected => .rejected
  | revisionRequested => .revisionRequested

/-- `RecommendationDecision`. -/
structure RecommendationDecision where
  decision : Decision
  version : PositiveVersion
  reason : Option { text : String // text.length ≤ 2000 } := none

end ActionPlan.Models
