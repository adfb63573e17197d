import ActionPlan.Agent.Optimization
import ActionPlan.Agent.Planning

/-! # The other nodes of the agent graph

`agent/nodes/` except planning and plan validation, and `optimize_plan_node` of
`agent/graph.py`. A node returns the state with the keys of its result replaced.
-/

namespace ActionPlan.Agent

open ActionPlan.Foundation ActionPlan.Models

namespace AgentState

variable (state : AgentState)

/-- `state.get("tasks", [])`. -/
def taskList : List Task := state.tasks.getD []

/-- `state.get("completed_tasks", [])`. -/
def completedList : List String := state.completedTasks.getD []

end AgentState

/-- The loop of `initialize_node` over one task. -/
def markIncoming (incoming : List String) (task : Task) : Task :=
  if task.id ∈ incoming ∧ task.status ≠ .completed then { task with status := .completed } else task

/-- The ids that `initialize_node` adds to the completed ones. -/
def newlyCompleted (incoming : List String) (tasks : List Task) : List String :=
  (tasks.filter fun task => task.id ∈ incoming ∧ task.status ≠ .completed).map Task.id

/-- The compiled request that `initialize_node` keeps or makes. -/
def initializeRequest (state : AgentState) : Except Exn WorkRequest :=
  match state.workRequest, state.workRequestInput with
  | some request, _ => .ok request
  | none, some payload => .ok (compileWorkRequest payload)
  | none, none => (goalInput (state.originalGoal.getD "")).map compileWorkRequest

/-- `initialize_node`. The tasks are marked in place, so the state holds the
marked ones whether or not the key is written again. -/
def initializeNode (state : AgentState) : Except Exn AgentState := do
  let incoming := state.incomingCompletedTaskIds.getD []
  let request ← initializeRequest state
  return { state with
    workRequest := some request
    tasks := state.tasks.map fun tasks => tasks.map (markIncoming incoming)
    completedTasks :=
      some (sortedSet (state.completedList ++ newlyCompleted incoming state.taskList))
    executionMetadata := some (Dict.override (state.executionMetadata.getD ∅)
      (AList.singleton "initialization" (.str "completed"))) }

/-- The argument of the language model; `initialize_node` has set it. -/
def AgentState.request (state : AgentState) : Except Exn WorkRequest :=
  match state.workRequest with
  | some request => .ok request
  | none => .error (.attributeError "work_request")

/-- The steps that the goal analysis announces. -/
def plannerSteps : List String :=
  ["Analyze the goal and current situation.",
    "Extract applicable organizational procedures.",
    "Define the requirements the work must satisfy.",
    "Plan, validate, and optimize execution order.",
    "Detect blockers and recommend the next action."]

/-- `analyze_goal_node`. -/
def analyzeGoalNode (llm : LLMProvider) (state : AgentState) : Except Exn AgentState :=
  if state.objectiveAnalysis.isSome ∧ state.plannerSteps.getD [] ≠ [] then
    .ok { state with executionMetadata := metadata "analysis" "reused" }
  else do
    let analysis ← llm.analyzeObjective (← state.request)
    return { state with
      objectiveAnalysis := some analysis
      plannerSteps := some plannerSteps
      executionMetadata := metadata "analysis" "completed" }

/-- `extract_procedures_node`. -/
def extractProceduresNode (llm : LLMProvider) (state : AgentState) : Except Exn AgentState :=
  if state.procedures.getD [] ≠ [] then
    .ok { state with executionMetadata := metadata "procedures" "reused" }
  else do
    let extraction ← llm.extractProcedures (← state.request)
    return { state with
      procedures := some extraction.procedures
      procedureAnalysis := some
        ((((∅ : Dict Value).insert "notes" (.strings extraction.notes)).insert
          "count" (.int extraction.procedures.length)).insert "summary" (.str extraction.summary))
      executionMetadata := metadata "procedures" "completed" }

/-- `extract_requirements_node`. -/
def extractRequirementsNode (llm : LLMProvider) (state : AgentState) : Except Exn AgentState :=
  if state.requirementList ≠ [] then
    .ok { state with executionMetadata := metadata "requirements" "reused" }
  else do
    let requirements ← llm.extractRequirements (← state.request)
    return { state with
      requirements := some requirements
      executionMetadata := metadata "requirements" "completed" }

/-- `evidence.source or evidence.content[:48]`. -/
def evidenceLabel (evidence : Evidence) : String :=
  (truthyString evidence.source).getD (String.ofList (evidence.content.toList.take 48))

/-- The loop of `collect_evidence_node`: the targeted evidence in order. -/
def targetEvidence (retriever : Retriever) (workflowId : Option String) :
    List Requirement → Except Exn (List TargetedEvidence)
  | [] => .ok []
  | requirement :: requirements => do
    let hits ← retriever requirement.text 3 workflowId
    let rest ← targetEvidence retriever workflowId requirements
    return { requirementId := requirement.id, query := some requirement.text, evidence := hits } ::
      rest

/-- `collect_evidence_node`. -/
def collectEvidenceNode (retriever : Retriever) (state : AgentState) : Except Exn AgentState :=
  if state.targetedEvidence.getD [] ≠ [] then
    .ok { state with executionMetadata := metadata "evidence" "reused" }
  else do
    let targeted ← targetEvidence retriever (truthyString state.workflowId) state.requirementList
    return { state with
      targetedEvidence := some targeted
      targetedByRequirement := some (targeted.foldl
        (fun dict target => dict.insert target.requirementId (target.evidence.map evidenceLabel)) ∅)
      retrievedDocuments := some (targeted.flatMap TargetedEvidence.evidence)
      executionMetadata := metadata "evidence" "completed" }

/-- The loop of `execute_plan_node` over one task. -/
def markCompleted (completed : List String) (task : Task) : Task :=
  if task.id ∈ completed then { task with status := .completed } else task

/-- `execute_plan_node`. -/
def executePlanNode (state : AgentState) : AgentState :=
  let tasks := state.taskList.map (markCompleted state.completedList)
  { state with
    tasks := some tasks
    currentTask := (tasks.find? fun task => task.status ≠ .completed).map Task.id
    executionMetadata := metadata "execution" "completed" }

/-- `optimize_plan_node`. -/
def optimizePlanNode (clock : Clock) (state : AgentState) : Except Exn AgentState :=
  match state.candidatePlan, state.workRequest with
  | some candidate, some request => do
    let result ← optimizePlan candidate request.deadline state.completedList clock.today
    return { state with
      optimization := some result
      executionMetadata := metadata "optimization" "completed" }
  | _, _ => .ok { state with executionMetadata := metadata "optimization" "skipped" }

/-- `round(part / whole * 100)`, rounding half to even, in exact arithmetic. -/
def roundedPercentage (part whole : Nat) : Nat :=
  let quotient := part * 100 / whole
  let remainder := part * 100 % whole
  if 2 * remainder < whole then quotient
  else if whole < 2 * remainder then quotient + 1
  else if quotient % 2 = 0 then quotient else quotient + 1

/-- `state_analysis_node`. -/
def stateAnalysisNode (state : AgentState) : AgentState :=
  let tasks := state.taskList
  let completed := sortedSet state.completedList
  let pending := (tasks.map Task.id).filter (· ∉ completed)
  let progress := if tasks = [] then 0 else roundedPercentage completed.length tasks.length
  let status :=
    if tasks = [] then "No plan produced."
    else if pending ≠ [] then
      "Execution in progress: task " ++ toString (completed.length + 1) ++ " of " ++
        toString tasks.length ++ "."
    else "All planned tasks are complete."
  { state with
    currentState := some (((((∅ : Dict Value).insert "pending_task_ids" (.strings pending)).insert
      "completed_task_ids" (.strings completed)).insert "progress" (.int progress)).insert
      "status" (.str status))
    executionMetadata := metadata "state_analysis" "completed" }

/-- The dependencies of a task that are not completed. -/
def incompleteDependencies (completed : List String) (task : Task) : List String :=
  task.dependencies.filter (· ∉ completed)

/-- `detect_blocker_node`. -/
def detectBlockerNode (state : AgentState) : AgentState :=
  let waiting := state.taskList.filter fun task =>
    incompleteDependencies state.completedList task ≠ []
  let dependencyBlockers : List Blocker := waiting.map fun task =>
    { taskId := task.id
      type := "dependency"
      message := "Task " ++ task.id ++ " waits on incomplete dependencies: " ++
        ", ".intercalate (incompleteDependencies state.completedList task) ++ "." }
  let planBlockers : List Blocker :=
    match state.planValidation with
    | some validation =>
      if validation.valid then []
      else validation.errors.map fun issue =>
        { taskId := issue.taskId.getD "", type := "plan", message := issue.message }
    | none => []
  let covered := state.taskList.flatMap Task.requirementIds
  let uncovered := (state.requirementList.map Requirement.id).filter (· ∉ covered)
  let coverageBlockers : List Blocker :=
    if uncovered ≠ [] then
      [{ taskId := ""
         type := "coverage"
         message := "Plan does not cover requirement(s): " ++
          ", ".intercalate (uncovered.insertionSort (· ≤ ·)) ++ "." }]
    else []
  let blockers := dependencyBlockers ++ planBlockers ++ coverageBlockers
  { state with
    detectedBlockers := some blockers
    blockedTasks := some ((blockers.filter fun blocker =>
      blocker.taskId ≠ "" ∧ blocker.type = "dependency").map Blocker.taskId)
    executionMetadata := metadata "blocker_detection" "completed" }

/-- The value of `{task.id: task}` at an optional key. -/
def currentCandidate (state : AgentState) : Option Task :=
  state.currentTask.bind fun current =>
    state.taskList.reverse.find? fun task => task.id = current

/-- `recommendation_node`. -/
def recommendationNode (clock : Clock) (state : AgentState) : AgentState :=
  let completed := state.completedList
  let blocked := state.blockedTasks.getD []
  let criticalPath := (state.optimization.map OptimizationResult.criticalPath).getD []
  let deadlinePressure :=
    if state.optimization.bind OptimizationResult.deadlineFeasible = some false then "high"
    else "normal"
  let priority := if criticalPath ≠ [] then "high" else "medium"
  let recommendation : Recommendation :=
    match (currentCandidate state).filter (fun task => task.id ∈ blocked) with
    | some candidate =>
      { action := "await_dependency"
        reason := "Task " ++ candidate.id ++ " cannot begin until its dependencies complete."
        affectedTask := some candidate.id
        blockedBy := some ((truthyString (candidate.dependencies.find? (· ∉ completed))).getD
          candidate.id)
        role := some ((truthyString candidate.role).getD "Requesting owner")
        criticalPath
        deadlinePressure
        priority
        createdAt := clock.recommendedAt }
    | none =>
      match state.taskList.find? (fun task => task.id ∉ completed ∧ task.id ∉ blocked) with
      | some task =>
        let lead := (state.workRequest.bind fun request => request.people.head?).map Person.name
        { action := "start_task"
          reason := "Start task " ++ task.id ++ " next: " ++ task.description ++ "."
          affectedTask := some task.id
          role := some (((truthyString task.role).orElse fun _ => truthyString lead).getD
            "Requesting owner")
          criticalPath
          deadlinePressure
          priority
          createdAt := clock.recommendedAt }
      | none =>
        { action := "no_action"
          reason := "All planned work is complete."
          affectedTask := state.currentTask
          criticalPath
          deadlinePressure := "none"
          priority := "low"
          createdAt := clock.recommendedAt }
  { state with
    recommendation := some recommendation
    executionMetadata := metadata "recommendation" "completed" }

/-- `_memory_context`. -/
def memoryContext (workflow : WorkflowState) : List String :=
  ("Workflow started with goal: " ++ workflow.originalGoal) ::
  ("Workflow recommendation: " ++
    (workflow.recommendation.map Recommendation.reason).getD "pending") ::
  workflow.tasks.map fun task =>
    "Task " ++ task.id ++ ": " ++ task.description ++ " (" ++
      (if task.status = .completed then "complete" else "pending") ++ ")"

/-- `_state_to_workflow`. Neither the version, the execution state nor the
function definitions are among the copied keys. -/
def stateToWorkflow (clock : Clock) (state : AgentState) : WorkflowState where
  workflowId := state.workflowId.getD ""
  originalGoal := state.originalGoal.getD ""
  workRequest := state.workRequest
  objectiveAnalysis := state.objectiveAnalysis
  goalAnalysis := state.goalAnalysis
  plannerSteps := state.plannerSteps.getD []
  procedureAnalysis := state.procedureAnalysis
  procedures := state.procedures.getD []
  requirements := state.requirements.getD []
  candidatePlan := state.candidatePlan
  planValidation := state.planValidation
  planRevisionCount := state.planRevisionCount.getD 0
  optimization := state.optimization
  tasks := state.tasks.getD []
  completedTasks := state.completedTasks.getD []
  blockedTasks := state.blockedTasks.getD []
  currentTask := state.currentTask
  currentState := state.currentState.getD ∅
  retrievedDocuments := state.retrievedDocuments.getD []
  targetedEvidence := state.targetedEvidence.getD []
  targetedByRequirement := state.targetedByRequirement.getD ∅
  detectedBlockers := state.detectedBlockers.getD []
  recommendation := state.recommendation
  memoryContext := state.memoryContext.getD []
  executionMetadata := state.executionMetadata.getD ∅
  createdAt := clock.nodeCreatedAt
  updatedAt := clock.nodeUpdatedAt

/-- What `update_memory_node` returns, after it has saved `stateToWorkflow`. -/
def updateMemoryResult (clock : Clock) (state : AgentState) : AgentState :=
  { state with
    memoryContext := some (memoryContext (stateToWorkflow clock state))
    executionMetadata := metadata "memory" "saved" }

end ActionPlan.Agent
