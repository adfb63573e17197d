import ActionPlan.Agent.Graph
import ActionPlan.Memory.Store

/-! # The agent service

`agent/service.py`. Each operation is given in its stages (the initial state of
the graph, the record that the memory node saves, the record that the service
saves) and as the whole that runs them without interruption. The generated ids
and the readings of the clock are inputs.
-/

namespace ActionPlan.Agent

open ActionPlan.Foundation ActionPlan.Models ActionPlan.Memory

/-- `graph.invoke`: the result, and the store after the memory node has saved. -/
def invoke (services : Services) (initial : AgentState) (store : MemoryStore) :
    Except Exn AgentState × MemoryStore :=
  match reachMemory services initial with
  | .error failure => (.error failure, store)
  | .ok reached =>
    (.ok (updateMemoryResult services.clock reached),
      store.saveWorkflow (stateToWorkflow services.clock reached))

/-- `_to_workflow_state`. Neither the version nor the execution state is among
the mapped keys. -/
def toWorkflowState (clock : Clock) (state : AgentState) : WorkflowState where
  workflowId := state.workflowId.getD ""
  originalGoal := state.originalGoal.getD ""
  workRequest := state.workRequest
  objectiveAnalysis := state.objectiveAnalysis
  goalAnalysis := state.goalAnalysis
  plannerSteps := state.plannerSteps.getD []
  procedureAnalysis := state.procedureAnalysis
  procedures := state.procedures.getD []
  requirements := state.requirements.getD []
  candidatePlan := state.candidatePlan
  planValidation := state.planValidation
  planRevisionCount := state.planRevisionCount.getD 0
  optimization := state.optimization
  tasks := state.tasks.getD []
  completedTasks := state.completedTasks.getD []
  blockedTasks := state.blockedTasks.getD []
  currentTask := state.currentTask
  currentState := state.currentState.getD ∅
  functionDefinitions := state.functionDefinitions.getD ∅
  retrievedDocuments := state.retrievedDocuments.getD []
  targetedEvidence := state.targetedEvidence.getD []
  targetedByRequirement := state.targetedByRequirement.getD ∅
  detectedBlockers := state.detectedBlockers.getD []
  recommendation := state.recommendation
  memoryContext := state.memoryContext.getD []
  executionMetadata := state.executionMetadata.getD ∅
  createdAt := clock.resultCreatedAt
  updatedAt := clock.resultUpdatedAt

theorem workflowId_toWorkflowState {state : AgentState} {workflowId : String}
    (named : state.workflowId = some workflowId) (clock : Clock) :
    (toWorkflowState clock state).workflowId = workflowId := by
  rw [toWorkflowState, named, Option.getD_some]

/-- `_to_agent_state`. -/
def toAgentState (workflow : WorkflowState) : AgentState where
  workflowId := some workflow.workflowId
  originalGoal := some workflow.originalGoal
  workRequest := workflow.workRequest
  objectiveAnalysis := workflow.objectiveAnalysis
  goalAnalysis := workflow.goalAnalysis
  plannerSteps := some workflow.plannerSteps
  procedureAnalysis := workflow.procedureAnalysis
  procedures := some workflow.procedures
  requirements := some workflow.requirements
  candidatePlan := workflow.candidatePlan
  planValidation := workflow.planValidation
  planRevisionCount := some workflow.planRevisionCount
  optimization := workflow.optimization
  tasks := some workflow.tasks
  completedTasks := some workflow.completedTasks
  blockedTasks := some workflow.blockedTasks
  currentTask := workflow.currentTask
  currentState := some workflow.currentState
  functionDefinitions := some workflow.functionDefinitions
  retrievedDocuments := some workflow.retrievedDocuments
  targetedEvidence := some workflow.targetedEvidence
  targetedByRequirement := some workflow.targetedByRequirement
  detectedBlockers := some workflow.detectedBlockers
  recommendation := workflow.recommendation
  memoryContext := some workflow.memoryContext
  executionMetadata := some workflow.executionMetadata

/-- The generated id and the timestamps of a new workflow. -/
structure Creation where
  workflowId : String
  createdAt : DateTime
  updatedAt : DateTime

/-- The record that `create_workflow` and `create_workflow_sync` save first. -/
def queuedWorkflow (creation : Creation) (payload : WorkRequestInput) : WorkflowState where
  workflowId := creation.workflowId
  originalGoal := payload.goal
  createdAt := creation.createdAt
  updatedAt := creation.updatedAt
  executionState := .queued

/-- The body of the queue message, `json.dumps({..})`. -/
def queueMessage (workflowId : String) (payload : WorkRequestInput) : Except Exn JsonText :=
  jsonDumps (.dict [("workflow_id", .str workflowId), ("payload", payload.modelDump)])

/-- `create_workflow` with a queue configured: the returned workflow and the
message that is sent. The record stays saved when the message cannot be made. -/
def createWorkflow (creation : Creation) (payload : WorkRequestInput) (store : MemoryStore) :
    Except Exn (WorkflowState × JsonText) × MemoryStore :=
  let workflow := queuedWorkflow creation payload
  ((queueMessage creation.workflowId payload).map fun message => (workflow, message),
    store.saveWorkflow workflow)

section Execution

/-- The initial state of `_execute_workflow_sync`. -/
def executionInput (workflowId workerId : String) (payload : WorkRequestInput) : AgentState where
  workflowId := some workflowId
  originalGoal := some payload.goal
  workRequestInput := some payload
  incomingCompletedTaskIds := some []
  completedTasks := some []
  planRevisionCount := some 0
  executionMetadata :=
    some (((∅ : Dict Value).insert "worker_id" (.str workerId)).insert "created" (.bool true))

/-- The record that `_execute_workflow_sync` saves last. -/
def executedWorkflow (clock : Clock) (result : AgentState) : WorkflowState :=
  { toWorkflowState clock result with executionState := .completed }

/-- The part of `_execute_workflow_sync` after the claim. -/
def runExecution (services : Services) (workflowId workerId : String) (payload : WorkRequestInput)
    (store : MemoryStore) : Except Exn WorkflowState × MemoryStore :=
  match invoke services (executionInput workflowId workerId payload) store with
  | (.error failure, store) => (.error failure, store)
  | (.ok result, store) =>
    let workflow := executedWorkflow services.clock result
    (.ok workflow, store.saveWorkflow workflow)

/-- `_execute_workflow_sync`. -/
def executeWorkflowSync (services : Services) (workflowId workerId : String) (claimedAt : DateTime)
    (payload : WorkRequestInput) (store : MemoryStore) : Except Exn WorkflowState × MemoryStore :=
  match store.claimWorkflowForExecution workflowId workerId claimedAt with
  | (none, store) =>
    (.error (.runtimeError ("Could not claim workflow " ++ workflowId ++ " for execution")), store)
  | (some _, store) => runExecution services workflowId workerId payload store

/-- `create_workflow_sync`. -/
def createWorkflowSync (services : Services) (creation : Creation) (workerId : String)
    (claimedAt : DateTime) (payload : WorkRequestInput) (store : MemoryStore) :
    Except Exn WorkflowState × MemoryStore :=
  executeWorkflowSync services creation.workflowId workerId claimedAt payload
    (store.saveWorkflow (queuedWorkflow creation payload))

/-- `execute_queued_workflow`. -/
def executeQueuedWorkflow (services : Services) (workflowId workerId : String)
    (claimedAt : DateTime) (store : MemoryStore) :
    Except Exn (Option WorkflowState) × MemoryStore :=
  match store.getWorkflow workflowId with
  | none => (.ok none, store)
  | some workflow =>
    match goalInput workflow.originalGoal with
    | .error failure => (.error failure, store)
    | .ok payload =>
      let (outcome, store) :=
        executeWorkflowSync services workflowId workerId claimedAt payload store
      (outcome.map some, store)

/-- The record that `execute_in_background` saves after an error. -/
def failedWorkflow (failure : Exn) (workflow : WorkflowState) : WorkflowState :=
  { workflow with executionState := .failed, executionError := some failure.message }

/-- `execute_in_background`. -/
def executeInBackground (services : Services) (workflowId workerId : String)
    (claimedAt : DateTime) (payload : WorkRequestInput) (store : MemoryStore) : MemoryStore :=
  match executeWorkflowSync services workflowId workerId claimedAt payload store with
  | (.ok _, store) => store
  | (.error failure, store) =>
    match store.getWorkflow workflowId with
    | none => store
    | some workflow => store.saveWorkflow (failedWorkflow failure workflow)

end Execution

section Rebuild

/-- The payload of `rebuild_workflow`. -/
def rebuildPayload (workflow : WorkflowState) : Except Exn WorkRequestInput :=
  match workflow.workRequest with
  | none => goalInput workflow.originalGoal
  | some request =>
    workRequestInput workflow.originalGoal request.people request.deadline request.priority
      request.currentStatus request.constraints request.resources request.successCriteria

/-- The initial state of `rebuild_workflow`. -/
def rebuildInput (workflow : WorkflowState) (payload : WorkRequestInput) : AgentState where
  workflowId := some workflow.workflowId
  originalGoal := some workflow.originalGoal
  workRequestInput := some payload
  incomingCompletedTaskIds := some []
  completedTasks := some workflow.completedTasks
  executionMetadata := some workflow.executionMetadata

/-- The record that `rebuild_workflow` saves last. -/
def rebuiltWorkflow (clock : Clock) (workflow : WorkflowState) (result : AgentState) :
    WorkflowState :=
  let rebuilt := toWorkflowState clock result
  { rebuilt with
    executionState := .completed
    executionMetadata := Dict.override workflow.executionMetadata rebuilt.executionMetadata }

/-- `rebuild_workflow`. -/
def rebuildWorkflow (services : Services) (workflow : WorkflowState) (store : MemoryStore) :
    Except Exn WorkflowState × MemoryStore :=
  match rebuildPayload workflow with
  | .error failure => (.error failure, store)
  | .ok payload =>
    match invoke services (rebuildInput workflow payload) store with
    | (.error failure, store) => (.error failure, store)
    | (.ok result, store) =>
      let rebuilt := rebuiltWorkflow services.clock workflow result
      (.ok rebuilt, store.saveWorkflow rebuilt)

end Rebuild

section Continue

/-- The initial state of `continue_workflow`. -/
def continueInput (workflow : WorkflowState) (completedTaskIds : List String) : AgentState :=
  { toAgentState workflow with incomingCompletedTaskIds := some completedTaskIds }

/-- The record that `continue_workflow` saves last. -/
def continuedWorkflow (clock : Clock) (workflow : WorkflowState) (result : AgentState) :
    WorkflowState :=
  let continued := toWorkflowState clock result
  { continued with
    executionState := workflow.executionState
    executionMetadata := Dict.override workflow.executionMetadata continued.executionMetadata }

/-- `continue_workflow` of a record: what it returns and saves. It changes the record itself
too, see `leftBehind`. -/
def continueWorkflow (services : Services) (workflow : WorkflowState)
    (completedTaskIds : List String) (store : MemoryStore) :
    Except Exn WorkflowState × MemoryStore :=
  match invoke services (continueInput workflow completedTaskIds) store with
  | (.error failure, store) => (.error failure, store)
  | (.ok result, store) =>
    let continued := continuedWorkflow services.clock workflow result
    (.ok continued, store.saveWorkflow continued)

/-- `continue_workflow` of an id. The record is read for this call alone. -/
def continueStored (services : Services) (workflowId : String) (completedTaskIds : List String)
    (store : MemoryStore) : Except Exn (Option WorkflowState) × MemoryStore :=
  match store.getWorkflow workflowId with
  | none => (.ok none, store)
  | some workflow =>
    let (outcome, store) := continueWorkflow services workflow completedTaskIds store
    (outcome.map some, store)

/-- What `continue_workflow` leaves of the record that it is given. The state of the graph holds
the caller's own tasks, so `initialize_node` completes them in place, while the ids that it adds
to the completed ones go into the state only. (The one other node that changes an object of the
caller, `revise_plan_node`, is not entered with a plan that was built from the requirements.) -/
def leftBehind (workflow : WorkflowState) (completedTaskIds : List String) : WorkflowState :=
  match initializeNode (continueInput workflow completedTaskIds) with
  | .error _ => workflow
  | .ok initialized => { workflow with tasks := initialized.taskList }

end Continue

/-- Services that find no requirements, at the turn of the year. -/
def silentServices : Services where
  llm :=
    { analyzeObjective := fun _ => .ok ∅
      extractProcedures := fun _ => .ok { summary := "" }
      extractRequirements := fun _ => .ok [] }
  retriever _ _ _ := .ok []
  clock :=
    { today := ⟨2025, 1, 1⟩
      recommendedAt := .newYear
      nodeCreatedAt := .newYear
      nodeUpdatedAt := .newYear
      resultCreatedAt := .newYear
      resultUpdatedAt := .newYear }

/-- Services that find one requirement, for which one task is planned. -/
def taskServices : Services where
  llm :=
    { silentServices.llm with
      extractRequirements := fun _ => .ok [{ id := "requirement", text := "text" }] }
  retriever := silentServices.retriever
  clock := silentServices.clock

/-- The requirement that they find. -/
def sampleRequirement : Requirement := { id := "requirement", text := "text" }

def sampleTask : Task := { id := "task_1", description := "description" }

def sampleInput : WorkRequestInput := { goal := "goal" }

end ActionPlan.Agent
