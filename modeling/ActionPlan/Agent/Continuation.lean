import ActionPlan.Agent.Outcomes

/-! # Continuations compose

A continuation plans the same tasks again, so what it reports depends on the set of
completed ids only: two continuations in a row report what one continuation with
both lists of ids reports, if the second is given the id or the record that the first
one returned. It is otherwise with the record that the first one was given, whose tasks
are completed by then and whose completed ids are not.
-/

namespace ActionPlan.Models

/-- The recommendation without its timestamps. -/
def Recommendation.undated (recommendation : Recommendation) : Recommendation :=
  { recommendation with createdAt := .newYear, decidedAt := none }

/-- Two records report the same, timestamps aside. -/
structure SameReport (first second : WorkflowState) : Prop where
  tasks : first.tasks = second.tasks
  completedTasks : first.completedTasks = second.completedTasks
  blockedTasks : first.blockedTasks = second.blockedTasks
  currentTask : first.currentTask = second.currentTask
  currentState : first.currentState = second.currentState
  detectedBlockers : first.detectedBlockers = second.detectedBlockers
  recommendation : first.recommendation.map Recommendation.undated =
    second.recommendation.map Recommendation.undated

theorem SameReport.symm {first second : WorkflowState} (same : SameReport first second) :
    SameReport second first :=
  ⟨same.tasks.symm, same.completedTasks.symm, same.blockedTasks.symm, same.currentTask.symm,
    same.currentState.symm, same.detectedBlockers.symm, same.recommendation.symm⟩

end ActionPlan.Models

namespace ActionPlan.Agent

open ActionPlan.Foundation ActionPlan.Models ActionPlan.Memory

section Assessment

variable (clock : Clock) (state : AgentState)

/-- The state holds no validation that is not valid. -/
def NotInvalid : Prop := ∀ validation ∈ state.planValidation, validation.valid = true

/-- The current task is the first one that is not completed. -/
def Current : Prop :=
  state.currentTask = (state.taskList.find? fun task => task.status ≠ .completed).map Task.id

/-- The plan has been optimized for the request and the completed tasks. -/
def Optimized : Prop :=
  ∃ candidate request result, state.candidatePlan = some candidate ∧
    state.workRequest = some request ∧
    optimizePlan candidate request.deadline state.completedList clock.today = .ok result ∧
    state.optimization = some result

/-- The analysis of the state would be made again. -/
def Analyzed : Prop := state.currentState = (stateAnalysisNode state).currentState

/-- The blockers of the state would be found again. -/
def Blocked : Prop :=
  state.detectedBlockers = (detectBlockerNode state).detectedBlockers ∧
    state.blockedTasks = (detectBlockerNode state).blockedTasks

/-- The recommendation would be given again. -/
def Advised : Prop := state.recommendation = (recommendationNode clock state).recommendation

/-- What has been assessed when a node is entered. -/
def assessed : Node → AgentState → Prop
  | .executePlan, state => NotInvalid state
  | .optimizePlan, state => NotInvalid state ∧ Current state
  | .stateAnalysis, state => NotInvalid state ∧ Current state ∧ Optimized clock state
  | .detectBlockers, state =>
    NotInvalid state ∧ Current state ∧ Optimized clock state ∧ Analyzed state
  | .recommend, state =>
    NotInvalid state ∧ Current state ∧ Optimized clock state ∧ Analyzed state ∧ Blocked state
  | .updateMemory, state =>
    NotInvalid state ∧ Current state ∧ Optimized clock state ∧ Analyzed state ∧ Blocked state ∧
      Advised clock state
  | _, _ => True

end Assessment

section Run

variable {services : Services} {initial : AgentState}

/-- A plan that is executed is not invalid. -/
theorem notInvalid_of_executePlan {state : AgentState}
    (routed : shouldRevise state = .executePlan) : NotInvalid state := by
  intro validation present
  rw [Option.mem_def] at present
  simp only [shouldRevise, present] at routed
  by_contra invalid
  rw [if_neg invalid] at routed
  split at routed <;> cases routed

/-- A state with a plan and a request is optimized. -/
theorem optimized_of_exec {state result : AgentState} {request : WorkRequest}
    {candidate : CandidatePlan} (stored : state.workRequest = some request)
    (present : state.candidatePlan = some candidate)
    (executed : optimizePlanNode services.clock state = .ok result) :
    Optimized services.clock result ∧
      ∃ optimization executionMetadata,
        result = { state with optimization, executionMetadata } := by
  unfold optimizePlanNode at executed
  split at executed
  · rename_i plan compiled planned requested
    obtain ⟨optimization, optimized, done⟩ := ok_of_bind executed
    cases done
    exact ⟨⟨plan, compiled, optimization, planned, requested, optimized, rfl⟩, _, _, rfl⟩
  · rename_i missing
    exact (missing candidate request present stored).elim

/-- Where the outline of a run holds, each node carries the assessment over. -/
theorem assessed_carried (node : Node) (state result : AgentState)
    (inner : (buildGraph services).exit node = false) (holds : outline initial services node state)
    (before : assessed services.clock node state)
    (executed : (buildGraph services).exec node state = .ok result) :
    assessed services.clock ((buildGraph services).next node result) result := by
  change Node.exec services node state = .ok result at executed
  change assessed services.clock (Node.next node result) result
  cases node with
  | validatePlan =>
      simp only [Node.next]
      cases routed : shouldRevise result with
      | executePlan => exact notInvalid_of_executePlan routed
      | revisePlan | planFailed => trivial
  | executePlan =>
      cases executed
      exact ⟨before, rfl⟩
  | optimizePlan =>
      obtain ⟨request, -, stored⟩ := holds.1.request
      obtain ⟨optimized, _, _, rfl⟩ := optimized_of_exec stored holds.2.2.candidate executed
      exact ⟨before.1, before.2, optimized⟩
  | stateAnalysis =>
      cases executed
      exact ⟨before.1, before.2.1, before.2.2, rfl⟩
  | detectBlockers =>
      cases executed
      exact ⟨before.1, before.2.1, before.2.2.1, before.2.2.2, rfl, rfl⟩
  | recommend =>
      cases executed
      exact ⟨before.1, before.2.1, before.2.2.1, before.2.2.2.1, before.2.2.2.2, rfl⟩
  | revisePlan | planFailed => exact holds.elim
  | updateMemory => cases inner
  | initializeNode | analyzeGoal | extractProcedures | extractRequirements | collectEvidence
  | plan => trivial

/-- **What a run reports** has been assessed for the state that it delivers. -/
theorem reachMemory_assessed {reached : AgentState} (built : BuiltInitially initial)
    (ended : reachMemory services initial = .ok reached) :
    assessed services.clock .updateMemory reached := by
  have start : outline initial services .initializeNode initial ∧
      assessed services.clock .initializeNode initial := ⟨rfl, trivial⟩
  obtain ⟨exit, atExit, -, holds⟩ :=
    ((outline_annotated built).and assessed_carried).run start ended
  obtain rfl : exit = .updateMemory := by simpa [buildGraph] using atExit
  exact holds

end Run

section Determined

/-- Two states plan the same tasks for the same request, and have completed the same. -/
structure SameBasis (left right : AgentState) : Prop where
  request : left.workRequest = right.workRequest
  requirements : left.requirementList = right.requirementList
  candidate : left.candidatePlan = right.candidatePlan
  tasks : left.tasks = right.tasks
  completed : left.completedTasks = right.completedTasks

variable {clock other : Clock} {left right : AgentState}

theorem SameBasis.taskList (same : SameBasis left right) : left.taskList = right.taskList := by
  rw [AgentState.taskList, same.tasks, AgentState.taskList]

theorem SameBasis.completedList (same : SameBasis left right) :
    left.completedList = right.completedList := by
  rw [AgentState.completedList, same.completed, AgentState.completedList]

/-- The basis decides the current state. -/
theorem SameBasis.currentState (same : SameBasis left right) :
    (stateAnalysisNode left).currentState = (stateAnalysisNode right).currentState := by
  simp only [stateAnalysisNode, same.taskList, same.completedList]

/-- With the same day, it decides the optimization. -/
theorem SameBasis.optimization (same : SameBasis left right) (days : clock.today = other.today)
    (first : Optimized clock left) (second : Optimized other right) :
    left.optimization = right.optimization := by
  obtain ⟨candidate, request, result, present, stored, optimized, final⟩ := first
  obtain ⟨candidate', request', result', present', stored', optimized', final'⟩ := second
  obtain rfl := Option.some.inj (present.symm.trans (same.candidate.trans present'))
  obtain rfl := Option.some.inj (stored.symm.trans (same.request.trans stored'))
  rw [same.completedList, days, optimized'] at optimized
  rw [final, final', Except.ok.inj optimized]

/-- A validation that is not invalid has no part in the blockers. -/
theorem detectBlockerNode_notInvalid {state : AgentState} (valid : NotInvalid state) :
    (detectBlockerNode state).detectedBlockers =
        (detectBlockerNode { state with planValidation := none }).detectedBlockers ∧
      (detectBlockerNode state).blockedTasks =
        (detectBlockerNode { state with planValidation := none }).blockedTasks := by
  cases present : state.planValidation with
  | none =>
      simp only [detectBlockerNode, present]
      exact ⟨rfl, rfl⟩
  | some validation =>
      simp only [detectBlockerNode, present, valid validation present, ↓reduceIte]
      exact ⟨rfl, rfl⟩

/-- It decides the blockers, unless the plan is invalid. -/
theorem SameBasis.blockers (same : SameBasis left right) (first : NotInvalid left)
    (second : NotInvalid right) :
    (detectBlockerNode left).detectedBlockers = (detectBlockerNode right).detectedBlockers ∧
      (detectBlockerNode left).blockedTasks = (detectBlockerNode right).blockedTasks := by
  have unvalidated : SameBasis { left with planValidation := none }
      { right with planValidation := none } :=
    ⟨same.request, same.requirements, same.candidate, same.tasks, same.completed⟩
  rw [(detectBlockerNode_notInvalid first).1, (detectBlockerNode_notInvalid first).2,
    (detectBlockerNode_notInvalid second).1, (detectBlockerNode_notInvalid second).2]
  simp only [detectBlockerNode]
  rw [unvalidated.taskList, unvalidated.completedList, unvalidated.requirements]
  exact ⟨rfl, rfl⟩

/-- The clock of a recommendation is forgotten with its timestamps. -/
theorem undated_recommendationNode (clock other : Clock) (state : AgentState) :
    (recommendationNode clock state).recommendation.map Recommendation.undated =
      (recommendationNode other state).recommendation.map Recommendation.undated := by
  simp only [recommendationNode, Option.map_some]
  split
  · rfl
  · split <;> rfl

/-- With the tasks that are current and blocked, it decides the recommendation. -/
theorem SameBasis.recommendation (same : SameBasis left right)
    (current : left.currentTask = right.currentTask)
    (blocked : left.blockedTasks = right.blockedTasks)
    (optimization : left.optimization = right.optimization) :
    (recommendationNode clock left).recommendation =
      (recommendationNode clock right).recommendation := by
  simp only [recommendationNode, currentCandidate, same.taskList, same.completedList, same.request,
    current, blocked, optimization]

end Determined

section Reports

variable {first second : Services} {left right leftReached rightReached : AgentState}

/-- Runs that start with the same requirements, request and completions deliver the same basis. -/
theorem sameBasis_of_runs (leftBuilt : BuiltInitially left) (rightBuilt : BuiltInitially right)
    (leftRan : reachMemory first left = .ok leftReached)
    (rightRan : reachMemory second right = .ok rightReached)
    (nonempty : left.requirementList ≠ [])
    (requirements : right.requirementList = left.requirementList)
    (request : initializeRequest right = initializeRequest left)
    (completed : initialCompleted right = initialCompleted left) :
    SameBasis leftReached rightReached := by
  obtain ⟨leftStart, leftRequired, leftPlanned, -⟩ := reachMemory_outline leftBuilt leftRan
  obtain ⟨rightStart, rightRequired, rightPlanned, -⟩ := reachMemory_outline rightBuilt rightRan
  have leftKept : leftReached.requirementList = left.requirementList := by
    rcases leftRequired with ⟨-, kept⟩ | ⟨none, -⟩
    · exact kept
    · exact absurd none nonempty
  have rightKept : rightReached.requirementList = left.requirementList := by
    rcases rightRequired with ⟨-, kept⟩ | ⟨none, -⟩
    · exact kept.trans requirements
    · exact absurd (requirements.symm.trans none) nonempty
  obtain ⟨leftRequest, leftMade, leftStored⟩ := leftStart.request
  obtain ⟨rightRequest, rightMade, rightStored⟩ := rightStart.request
  obtain ⟨leftTasks, leftMaterial, leftMarked⟩ := leftPlanned.tasks
  obtain ⟨rightTasks, rightMaterial, rightMarked⟩ := rightPlanned.tasks
  have sameRequest : rightRequest = leftRequest :=
    Except.ok.inj (rightMade.symm.trans (request.trans leftMade))
  have sameTasks : rightTasks = leftTasks := by
    rw [rightKept] at rightMaterial
    rw [leftKept] at leftMaterial
    exact Except.ok.inj (rightMaterial.symm.trans leftMaterial)
  refine ⟨?_, leftKept.trans rightKept.symm, ?_, ?_, ?_⟩
  · rw [leftStored, rightStored, sameRequest]
  · rw [leftPlanned.candidate, rightPlanned.candidate, leftKept, rightKept]
  · rw [leftMarked, rightMarked, completed, sameTasks]
  · rw [leftStart.completed, rightStart.completed, completed]

/-- Runs with the same basis report the same, if they are made on one day. -/
theorem sameReport_of_basis (leftBuilt : BuiltInitially left) (rightBuilt : BuiltInitially right)
    (leftRan : reachMemory first left = .ok leftReached)
    (rightRan : reachMemory second right = .ok rightReached)
    (same : SameBasis leftReached rightReached) (days : first.clock.today = second.clock.today)
    (leftOld rightOld : WorkflowState) :
    SameReport
      (continuedWorkflow first.clock leftOld (updateMemoryResult first.clock leftReached))
      (continuedWorkflow second.clock rightOld (updateMemoryResult second.clock rightReached)) := by
  obtain ⟨leftValid, leftCurrent, leftOptimized, leftAnalyzed, leftBlocked, leftAdvised⟩ :=
    reachMemory_assessed leftBuilt leftRan
  obtain ⟨rightValid, rightCurrent, rightOptimized, rightAnalyzed, rightBlocked, rightAdvised⟩ :=
    reachMemory_assessed rightBuilt rightRan
  have current : leftReached.currentTask = rightReached.currentTask := by
    rw [leftCurrent, rightCurrent, same.taskList]
  have analysis : leftReached.currentState = rightReached.currentState := by
    rw [leftAnalyzed, rightAnalyzed, same.currentState]
  have detected : leftReached.detectedBlockers = rightReached.detectedBlockers := by
    rw [leftBlocked.1, rightBlocked.1, (same.blockers leftValid rightValid).1]
  have blocked : leftReached.blockedTasks = rightReached.blockedTasks := by
    rw [leftBlocked.2, rightBlocked.2, (same.blockers leftValid rightValid).2]
  have optimization := same.optimization days leftOptimized rightOptimized
  have recommendation : leftReached.recommendation.map Recommendation.undated =
      rightReached.recommendation.map Recommendation.undated := by
    rw [leftAdvised, rightAdvised, same.recommendation current blocked optimization]
    exact undated_recommendationNode _ _ _
  exact
    { tasks := congrArg (·.getD []) same.tasks
      completedTasks := congrArg (·.getD []) same.completed
      blockedTasks := congrArg (·.getD []) blocked
      currentTask := current
      currentState := congrArg (·.getD ∅) analysis
      detectedBlockers := congrArg (·.getD []) detected
      recommendation }

end Reports

/-- The records that `create_workflow_sync` and continuations produce, read back from a store
or not, and those that a continuation has been given. -/
inductive Derived : WorkflowState → Prop
  | created {services : Services} {creation : Creation} {workerId : String} {claimedAt : DateTime}
      {payload : WorkRequestInput} {store after : MemoryStore} {workflow : WorkflowState}
      (success : createWorkflowSync services creation workerId claimedAt payload store =
        (.ok workflow, after)) : Derived workflow
  | continued {services : Services} {workflow continued : WorkflowState}
      {completedTaskIds : List String} {store after : MemoryStore} (derived : Derived workflow)
      (success : continueWorkflow services workflow completedTaskIds store =
        (.ok continued, after)) : Derived continued
  | loaded {workflow : WorkflowState} (backend : Backend) (derived : Derived workflow) :
      Derived (MemoryStore.load backend workflow.jsonCopy)
  | given {workflow : WorkflowState} (completedTaskIds : List String)
      (derived : Derived workflow) : Derived (leftBehind workflow completedTaskIds)

/-- A record with a plan for its requirements, whose recorded completions are those of tasks. -/
structure Resumable (workflow : WorkflowState) : Prop where
  built : ∀ completedTaskIds, BuiltInitially (continueInput workflow completedTaskIds)
  planned : PlannedFor workflow.requirements workflow.tasks
  completed : ∀ task ∈ workflow.tasks,
    task.id ∈ workflow.completedTasks → task.status = .completed

/-- A produced workflow whose tasks have been planned. -/
structure Continuable (workflow : WorkflowState) : Prop where
  produced : Produced workflow
  planned : PlannedFor workflow.requirements workflow.tasks

theorem Continuable.load {workflow : WorkflowState} (continuable : Continuable workflow)
    (backend : Backend) : Continuable (MemoryStore.load backend workflow.jsonCopy) := by
  refine ⟨continuable.produced.jsonCopy.load backend, ?_⟩
  rw [MemoryStore.load_requirements, MemoryStore.load_tasks]
  exact continuable.planned

/-- A record that can be continued can be resumed. -/
theorem Continuable.resumable {workflow : WorkflowState} (continuable : Continuable workflow) :
    Resumable workflow where
  built := continuable.produced.builtInitially
  planned := continuable.planned
  completed task member := (continuable.produced.completed task member).mpr

/-- The record of a run can be continued. -/
theorem Delivered.continuable {services : Services} {initial : AgentState}
    {workflow : WorkflowState} (delivered : Delivered services initial workflow) :
    Continuable workflow :=
  ⟨delivered.produced, delivered.planned⟩

section Given

variable {workflow : WorkflowState} {completedTaskIds : List String}

/-- The tasks of a record that a continuation has been given. -/
theorem leftBehind_cases (workflow : WorkflowState) (completedTaskIds : List String) :
    (∃ failure, initializeRequest (continueInput workflow completedTaskIds) = .error failure) ∧
        leftBehind workflow completedTaskIds = workflow ∨
      leftBehind workflow completedTaskIds =
        { workflow with tasks := workflow.tasks.map (markIncoming completedTaskIds) } := by
  rw [leftBehind, initializeNode]
  cases initializeRequest (continueInput workflow completedTaskIds) with
  | error failure => exact .inl ⟨⟨failure, rfl⟩, rfl⟩
  | ok request => exact .inr rfl

/-- A record whose continuation succeeds has its tasks completed in place. -/
theorem leftBehind_of_success {services : Services} {continued : WorkflowState}
    {store after : MemoryStore} (resumable : Resumable workflow)
    (success : continueWorkflow services workflow completedTaskIds store = (.ok continued, after)) :
    leftBehind workflow completedTaskIds =
      { workflow with tasks := workflow.tasks.map (markIncoming completedTaskIds) } := by
  obtain ⟨reached, ran, -, -⟩ := exists_run_of_continueWorkflow success
  obtain ⟨initialized, -⟩ := reachMemory_outline (resumable.built completedTaskIds) ran
  obtain ⟨request, made, -⟩ := initialized.request
  rcases leftBehind_cases workflow completedTaskIds with ⟨⟨failure, raised⟩, -⟩ | marked
  · cases raised.symm.trans made
  · exact marked

theorem markIncoming_id (incoming : List String) (task : Task) :
    (markIncoming incoming task).id = task.id := by
  rw [markIncoming]
  split <;> rfl

theorem resetTask_markIncoming (incoming : List String) (task : Task) :
    resetTask (markIncoming incoming task) = resetTask task := by
  rw [markIncoming]
  split <;> rfl

/-- A completed task stays completed. -/
theorem markIncoming_completed (incoming : List String) {task : Task}
    (done : task.status = .completed) : (markIncoming incoming task).status = .completed := by
  rw [markIncoming, if_neg fun ⟨_, undone⟩ => undone done]
  exact done

/-- The record in the caller's hands can be resumed again. -/
theorem Resumable.leftBehind (resumable : Resumable workflow) (completedTaskIds : List String) :
    Resumable (leftBehind workflow completedTaskIds) := by
  rcases leftBehind_cases workflow completedTaskIds with ⟨-, same⟩ | marked
  · rw [same]
    exact resumable
  · rw [marked]
    refine ⟨resumable.built, ?_, ?_⟩
    · have reset : resetTask ∘ markIncoming completedTaskIds = resetTask :=
        funext (resetTask_markIncoming completedTaskIds)
      rw [PlannedFor, List.map_map, reset]
      exact resumable.planned
    · intro task member recorded
      obtain ⟨plain, plainMember, rfl⟩ := List.mem_map.mp member
      rw [markIncoming_id] at recorded
      exact markIncoming_completed completedTaskIds
        (resumable.completed plain plainMember recorded)

/-- So can the one that the store loads. -/
theorem Resumable.load (resumable : Resumable workflow) (backend : Backend) :
    Resumable (MemoryStore.load backend workflow.jsonCopy) := by
  cases backend <;> exact ⟨resumable.built, resumable.planned, resumable.completed⟩

/-- A task with the id is there and not completed. -/
def OpenTask (workflow : WorkflowState) (taskId : String) : Prop :=
  ∃ task ∈ workflow.tasks, task.id = taskId ∧ task.status ≠ .completed

/-- The id is recorded as completed, or a continuation with the ids completes it. -/
def Completes (workflow : WorkflowState) (completedTaskIds : List String) (taskId : String) :
    Prop :=
  taskId ∈ workflow.completedTasks ∨ taskId ∈ completedTaskIds ∧ OpenTask workflow taskId

/-- The ids are distinct, so a task is open under its id if it is not completed. -/
theorem Resumable.openTask_iff (resumable : Resumable workflow) {task : Task}
    (member : task ∈ workflow.tasks) : OpenTask workflow task.id ↔ task.status ≠ .completed := by
  constructor
  · rintro ⟨other, otherMember, same, undone⟩
    have ids : (workflow.tasks.map resetTask).map Task.id = workflow.tasks.map Task.id := by
      rw [List.map_map]
      rfl
    have distinct : (workflow.tasks.map Task.id).Nodup := ids ▸ nodup_of_built resumable.planned
    rwa [List.inj_on_of_nodup_map distinct otherMember member same] at undone
  · exact fun undone => ⟨task, member, rfl, undone⟩

/-- The ids that a continuation completes. -/
theorem mem_initialCompleted_continueInput {taskId : String} :
    taskId ∈ initialCompleted (continueInput workflow completedTaskIds) ↔
      Completes workflow completedTaskIds taskId := by
  rw [initialCompleted, mem_sortedSet, List.mem_append, Completes]
  change taskId ∈ workflow.completedTasks ∨
    taskId ∈ newlyCompleted completedTaskIds workflow.tasks ↔ _
  simp only [newlyCompleted, List.mem_map, List.mem_filter, decide_eq_true_eq, OpenTask]
  refine or_congr_right ⟨?_, ?_⟩
  · rintro ⟨task, ⟨member, posted, undone⟩, rfl⟩
    exact ⟨posted, task, member, rfl, undone⟩
  · rintro ⟨posted, task, member, rfl, undone⟩
    exact ⟨task, ⟨member, posted, undone⟩, rfl⟩

/-- What is open in a record after a continuation has been given it. -/
theorem openTask_marked {taskId : String} :
    OpenTask { workflow with tasks := workflow.tasks.map (markIncoming completedTaskIds) } taskId ↔
      OpenTask workflow taskId ∧ taskId ∉ completedTaskIds := by
  constructor
  · rintro ⟨task, member, rfl, undone⟩
    obtain ⟨plain, plainMember, rfl⟩ := List.mem_map.mp member
    rw [markIncoming_id]
    by_cases marked : plain.id ∈ completedTaskIds ∧ plain.status ≠ .completed
    · rw [markIncoming, if_pos marked] at undone
      exact absurd rfl undone
    · rw [markIncoming, if_neg marked] at undone
      exact ⟨⟨plain, plainMember, rfl, undone⟩, fun posted => marked ⟨posted, undone⟩⟩
  · rintro ⟨⟨task, member, rfl, undone⟩, unposted⟩
    refine ⟨task, ?_, rfl, undone⟩
    have same : markIncoming completedTaskIds task = task := if_neg fun ⟨posted, _⟩ =>
      unposted posted
    exact same ▸ List.mem_map_of_mem member

end Given

section Continuation

variable {services : Services} {workflow continued : WorkflowState}
  {completedTaskIds : List String} {store after : MemoryStore}

/-- The result of a continuation comes from its run. -/
theorem Resumable.delivered (resumable : Resumable workflow)
    (success : continueWorkflow services workflow completedTaskIds store = (.ok continued, after)) :
    Delivered services (continueInput workflow completedTaskIds) continued := by
  obtain ⟨reached, ran, rfl, -⟩ := exists_run_of_continueWorkflow success
  exact delivered_of_copy (resumable.built completedTaskIds) ran rfl rfl rfl rfl rfl rfl rfl

/-- The same of a record that can be continued. -/
theorem delivered_of_continueWorkflow (continuable : Continuable workflow)
    (success : continueWorkflow services workflow completedTaskIds store = (.ok continued, after)) :
    Delivered services (continueInput workflow completedTaskIds) continued :=
  continuable.resumable.delivered success

/-- Derived workflows can be continued. -/
theorem Derived.resumable (derived : Derived workflow) : Resumable workflow := by
  induction derived with
  | @created services creation workerId claimedAt payload store after workflow success =>
      obtain ⟨reached, ran, rfl⟩ := exists_run_of_executeWorkflowSync success
      exact (delivered_executedWorkflow ran).continuable.resumable
  | continued derived success ih => exact (ih.delivered success).continuable.resumable
  | loaded backend derived ih => exact ih.load backend
  | given completedTaskIds derived ih => exact ih.leftBehind completedTaskIds

/-- The ids that a continuation of a produced workflow completes. -/
theorem mem_initialCompleted (continuable : Continuable workflow) {taskId : String} :
    taskId ∈ initialCompleted (continueInput workflow completedTaskIds) ↔
      taskId ∈ workflow.completedTasks ∨
        taskId ∈ completedTaskIds ∧ taskId ∈ workflow.tasks.map Task.id := by
  rw [mem_initialCompleted_continueInput, Completes]
  by_cases done : taskId ∈ workflow.completedTasks
  · simp only [done, true_or]
  · simp only [done, false_or, OpenTask, List.mem_map]
    refine and_congr_right fun _ => ⟨?_, ?_⟩
    · rintro ⟨task, member, same, -⟩
      exact ⟨task, member, same⟩
    · rintro ⟨task, member, rfl⟩
      exact ⟨task, member, rfl, fun completed =>
        done ((continuable.produced.completed task member).mp completed)⟩

/-- A continuation keeps the requirements and the ids of the tasks. -/
theorem kept_of_continueWorkflow (resumable : Resumable workflow)
    (nonempty : workflow.requirements ≠ [])
    (success : continueWorkflow services workflow completedTaskIds store = (.ok continued, after)) :
    continued.requirements = workflow.requirements ∧
      continued.tasks.map Task.id = workflow.tasks.map Task.id := by
  have delivered := resumable.delivered success
  have requirements : continued.requirements = workflow.requirements := by
    rcases delivered.requirements with ⟨-, kept⟩ | ⟨none, -⟩
    · exact kept
    · exact absurd none nonempty
  refine ⟨requirements, ?_⟩
  have planned := delivered.planned
  rw [PlannedFor, requirements, resumable.planned] at planned
  have ids := congrArg (List.map Task.id) (Except.ok.inj planned)
  simp only [List.map_map] at ids
  exact ids.symm

/-- A continuation keeps the compiled request. -/
theorem request_of_continueWorkflow (resumable : Resumable workflow)
    (success : continueWorkflow services workflow completedTaskIds store = (.ok continued, after)) :
    initializeRequest (continueInput continued []) =
      initializeRequest (continueInput workflow []) := by
  obtain ⟨reached, ran, rfl, -⟩ := exists_run_of_continueWorkflow success
  obtain ⟨initialized, -⟩ := reachMemory_outline (resumable.built completedTaskIds) ran
  obtain ⟨request, made, stored⟩ := initialized.request
  have kept : (continuedWorkflow services.clock workflow
      (updateMemoryResult services.clock reached)).workRequest = some request := stored
  have compiled : initializeRequest (continueInput workflow []) = .ok request := made
  rw [compiled]
  simp only [initializeRequest, continueInput, toAgentState, kept]

/-- A continuation by id reads what the one before it has saved. -/
theorem continueStored_after {first : Services} {firstIds : List String}
    (success : continueWorkflow first workflow firstIds store = (.ok continued, after)) :
    continueStored services continued.workflowId completedTaskIds after =
      ((continueWorkflow services (MemoryStore.load store.backend continued.jsonCopy)
          completedTaskIds after).1.map some,
        (continueWorkflow services (MemoryStore.load store.backend continued.jsonCopy)
          completedTaskIds after).2) := by
  obtain ⟨-, -, -, saves⟩ := exists_run_of_continueWorkflow success
  rw [continueStored, saves.stored]

end Continuation

section Composition

variable {first second : Services} {workflow other left right : WorkflowState}
  {leftIds rightIds : List String} {leftStore leftAfter rightStore rightAfter : MemoryStore}

/-- Continuations that plan for the same requirements and request report the same exactly if
they complete the same ids. -/
theorem sameReport_iff_completed (resumable : Resumable workflow)
    (otherResumable : Resumable other) (nonempty : workflow.requirements ≠ [])
    (requirements : other.requirements = workflow.requirements)
    (request : initializeRequest (continueInput other []) =
      initializeRequest (continueInput workflow []))
    (days : first.clock.today = second.clock.today)
    (leftSuccess : continueWorkflow first workflow leftIds leftStore = (.ok left, leftAfter))
    (rightSuccess : continueWorkflow second other rightIds rightStore = (.ok right, rightAfter)) :
    SameReport left right ↔
      ∀ taskId, taskId ∈ initialCompleted (continueInput workflow leftIds) ↔
        taskId ∈ initialCompleted (continueInput other rightIds) := by
  constructor
  · intro same taskId
    rw [← (resumable.delivered leftSuccess).completed, same.completedTasks,
      (otherResumable.delivered rightSuccess).completed]
  · intro completed
    obtain ⟨leftReached, leftRan, rfl, -⟩ := exists_run_of_continueWorkflow leftSuccess
    obtain ⟨rightReached, rightRan, rfl, -⟩ := exists_run_of_continueWorkflow rightSuccess
    have leftBuilt := resumable.built leftIds
    have rightBuilt := otherResumable.built rightIds
    have sorted : initialCompleted (continueInput other rightIds) =
        initialCompleted (continueInput workflow leftIds) := by
      apply sortedSet_congr
      intro taskId
      have same := completed taskId
      rw [initialCompleted, initialCompleted, mem_sortedSet, mem_sortedSet] at same
      exact same.symm
    have same : SameBasis leftReached rightReached :=
      sameBasis_of_runs leftBuilt rightBuilt leftRan rightRan nonempty requirements request sorted
    exact sameReport_of_basis leftBuilt rightBuilt leftRan rightRan same days workflow other

/-- A workflow as its continuation returned it, or as it is read back from a store. -/
def ReadBack (halfway workflow : WorkflowState) : Prop :=
  workflow = halfway ∨ ∃ backend, workflow = MemoryStore.load backend halfway.jsonCopy

theorem ReadBack.fields {halfway workflow : WorkflowState} (readBack : ReadBack halfway workflow) :
    workflow.requirements = halfway.requirements ∧ workflow.tasks = halfway.tasks ∧
      workflow.completedTasks = halfway.completedTasks ∧
      initializeRequest (continueInput workflow []) =
        initializeRequest (continueInput halfway []) := by
  rcases readBack with rfl | ⟨backend, rfl⟩
  · exact ⟨rfl, rfl, rfl, rfl⟩
  · cases backend <;> exact ⟨rfl, rfl, rfl, rfl⟩

theorem Continuable.readBack {halfway workflow : WorkflowState} (continuable : Continuable halfway)
    (readBack : ReadBack halfway workflow) : Continuable workflow := by
  rcases readBack with rfl | ⟨backend, rfl⟩
  · exact continuable
  · exact continuable.load backend

end Composition

/-- The record that the second of two continuations is given. -/
inductive Again where
  /-- The one that the first continuation returned. -/
  | returned
  /-- The one that it saved, which is read for an id. -/
  | stored (backend : Backend)
  /-- The one that it was given. -/
  | given

namespace Again

variable (workflow : WorkflowState) (firstIds secondIds : List String)

/-- The record with which the second call is made. -/
def record (halfway : WorkflowState) : Again → WorkflowState
  | returned => halfway
  | stored backend => MemoryStore.load backend halfway.jsonCopy
  | given => leftBehind workflow firstIds

/-- No completion is left out. In the record that the first continuation is given, the tasks that
the second one names are not completed without being recorded; and where the second one is given
that record again, the first one does not complete any task of it. -/
def Recorded : Again → Prop
  | returned | stored _ => ∀ task ∈ workflow.tasks, task.id ∈ secondIds →
    task.status = .completed → task.id ∈ workflow.completedTasks
  | given => ∀ task ∈ workflow.tasks, task.id ∈ firstIds → task.status = .completed

end Again

/-- Two calls that complete these ids complete what one call with both lists does and, if the
second list adds nothing to the first one, what the first call does. -/
def Composes (workflow : WorkflowState) (firstIds secondIds : List String)
    (completed : String → Prop) : Prop :=
  (∀ taskId, completed taskId ↔ Completes workflow (firstIds ++ secondIds) taskId) ∧
    (secondIds ⊆ firstIds → ∀ taskId, completed taskId ↔ Completes workflow firstIds taskId)

section Recorded

variable {workflow : WorkflowState} {firstIds secondIds : List String}

/-- The second continuation of what the first one returned completes every task that it names, so
the two compose if no completed task among them is left unrecorded. -/
theorem Resumable.readBack_recorded (resumable : Resumable workflow) :
    Composes workflow firstIds secondIds (fun taskId => Completes workflow firstIds taskId ∨
        taskId ∈ secondIds ∧ taskId ∈ workflow.tasks.map Task.id) ↔
      Again.returned.Recorded workflow firstIds secondIds := by
  constructor
  · rintro ⟨joint, -⟩ task member posted done
    rcases (joint task.id).mp (.inr ⟨posted, List.mem_map_of_mem member⟩) with
      recorded | ⟨-, isOpen⟩
    · exact recorded
    · exact absurd done ((resumable.openTask_iff member).mp isOpen)
  · intro recorded
    have known (taskId : String) (posted : taskId ∈ secondIds)
        (planned : taskId ∈ workflow.tasks.map Task.id) :
        taskId ∈ workflow.completedTasks ∨ OpenTask workflow taskId := by
      obtain ⟨task, member, rfl⟩ := List.mem_map.mp planned
      by_cases done : task.status = .completed
      · exact .inl (recorded task member posted done)
      · exact .inr ((resumable.openTask_iff member).mpr done)
    have planned (taskId : String) (isOpen : OpenTask workflow taskId) :
        taskId ∈ workflow.tasks.map Task.id := by
      obtain ⟨task, member, rfl, -⟩ := isOpen
      exact List.mem_map_of_mem member
    refine ⟨fun taskId => ?_, fun within taskId => ?_⟩
    · have known := known taskId
      have planned := planned taskId
      simp only [Completes, List.mem_append]
      tauto
    · have known := known taskId
      have posted := @within taskId
      simp only [Completes]
      tauto

/-- Where the tasks of the first list are completed in the record, the second continuation of the
record starts from all that the first one did. -/
theorem Resumable.given_recorded (resumable : Resumable workflow) :
    Composes workflow firstIds secondIds (fun taskId => taskId ∈ workflow.completedTasks ∨
        taskId ∈ secondIds ∧ OpenTask workflow taskId ∧ taskId ∉ firstIds) ↔
      Again.given.Recorded workflow firstIds secondIds := by
  constructor
  · rintro ⟨joint, -⟩ task member posted
    by_contra undone
    have isOpen := (resumable.openTask_iff member).mpr undone
    have both : task.id ∈ firstIds ++ secondIds := List.mem_append_left _ posted
    rcases (joint task.id).mpr (.inr ⟨both, isOpen⟩) with recorded | ⟨-, -, unposted⟩
    · exact undone (resumable.completed task member recorded)
    · exact unposted posted
  · intro completed
    have closed (taskId : String) (posted : taskId ∈ firstIds) : ¬ OpenTask workflow taskId := by
      rintro ⟨task, member, rfl, undone⟩
      exact undone (completed task member posted)
    refine ⟨fun taskId => ?_, fun within taskId => ?_⟩
    · have closed := closed taskId
      simp only [Completes, List.mem_append]
      tauto
    · have closed := closed taskId
      have posted := @within taskId
      simp only [Completes]
      tauto

end Recorded

section Append

variable {first second third : Services} {workflow halfway twice other : WorkflowState}
  {firstIds secondIds thirdIds : List String}
  {firstStore firstAfter secondStore secondAfter thirdStore thirdAfter : MemoryStore}

/-- The second continuation, of what the first one returned or saved, reports what another one of
the first record does if they complete the same ids. -/
theorem sameReport_readBack_iff {record : WorkflowState} (resumable : Resumable workflow)
    (nonempty : workflow.requirements ≠ [])
    (firstSuccess : continueWorkflow first workflow firstIds firstStore = (.ok halfway, firstAfter))
    (readBack : ReadBack halfway record)
    (secondSuccess : continueWorkflow second record secondIds secondStore =
      (.ok twice, secondAfter))
    (thirdSuccess : continueWorkflow third workflow thirdIds thirdStore = (.ok other, thirdAfter))
    (days : second.clock.today = third.clock.today) :
    SameReport twice other ↔ ∀ taskId,
      (Completes workflow firstIds taskId ∨
        taskId ∈ secondIds ∧ taskId ∈ workflow.tasks.map Task.id) ↔
      Completes workflow thirdIds taskId := by
  obtain ⟨requirements, ids⟩ := kept_of_continueWorkflow resumable nonempty firstSuccess
  obtain ⟨readRequirements, readTasks, readCompleted, readRequest⟩ := readBack.fields
  have request := readRequest.trans (request_of_continueWorkflow resumable firstSuccess)
  have delivered := resumable.delivered firstSuccess
  have continuable := delivered.continuable.readBack readBack
  have reports := sameReport_iff_completed resumable
    continuable.resumable nonempty (readRequirements.trans requirements) request days.symm
    thirdSuccess secondSuccess
  rw [show SameReport twice other ↔ SameReport other twice from ⟨.symm, .symm⟩, reports]
  apply forall_congr'
  intro taskId
  rw [mem_initialCompleted continuable, readCompleted, readTasks, ids, delivered.completed,
    mem_initialCompleted_continueInput, mem_initialCompleted_continueInput]
  exact iff_comm

/-- The second continuation, of the record that the first one was given, does not count the ids
of the first one. -/
theorem sameReport_given_iff (resumable : Resumable workflow)
    (nonempty : workflow.requirements ≠ [])
    (firstSuccess : continueWorkflow first workflow firstIds firstStore = (.ok halfway, firstAfter))
    (secondSuccess : continueWorkflow second (leftBehind workflow firstIds) secondIds secondStore =
      (.ok twice, secondAfter))
    (thirdSuccess : continueWorkflow third workflow thirdIds thirdStore = (.ok other, thirdAfter))
    (days : second.clock.today = third.clock.today) :
    SameReport twice other ↔ ∀ taskId,
      (taskId ∈ workflow.completedTasks ∨
        taskId ∈ secondIds ∧ OpenTask workflow taskId ∧ taskId ∉ firstIds) ↔
      Completes workflow thirdIds taskId := by
  have marked := leftBehind_of_success resumable firstSuccess
  have left := resumable.leftBehind firstIds
  rw [marked] at secondSuccess left
  rw [sameReport_iff_completed left resumable nonempty rfl rfl days secondSuccess thirdSuccess]
  simp only [mem_initialCompleted_continueInput, Completes, openTask_marked]

/-- **Continuing with two lists, one after the other,** reports what continuing with both at once
does, and continuing with ids again changes nothing, exactly where no completion is left out. -/
theorem continue_append_iff (derived : Derived workflow) (nonempty : workflow.requirements ≠ [])
    (secondDay : second.clock.today = first.clock.today)
    (thirdDay : third.clock.today = first.clock.today)
    (firstSuccess : continueWorkflow first workflow firstIds firstStore = (.ok halfway, firstAfter))
    (again : Again)
    (secondSuccess : continueWorkflow second (again.record workflow firstIds halfway) secondIds
      secondStore = (.ok twice, secondAfter))
    (jointSuccess : continueWorkflow third workflow (firstIds ++ secondIds) thirdStore =
      (.ok other, thirdAfter)) :
    (SameReport twice other ∧ (secondIds ⊆ firstIds → SameReport twice halfway)) ↔
      again.Recorded workflow firstIds secondIds := by
  have resumable := derived.resumable
  have days := secondDay.trans thirdDay.symm
  have readBack (record : WorkflowState) (readBack : ReadBack halfway record)
      (secondSuccess : continueWorkflow second record secondIds secondStore =
        (.ok twice, secondAfter)) :
      (SameReport twice other ∧ (secondIds ⊆ firstIds → SameReport twice halfway)) ↔
        Again.returned.Recorded workflow firstIds secondIds := by
    rw [sameReport_readBack_iff resumable nonempty firstSuccess readBack secondSuccess jointSuccess
        days,
      sameReport_readBack_iff resumable nonempty firstSuccess readBack secondSuccess firstSuccess
        secondDay]
    exact resumable.readBack_recorded
  cases again with
  | returned => exact readBack halfway (.inl rfl) secondSuccess
  | stored backend => exact readBack _ (.inr ⟨backend, rfl⟩) secondSuccess
  | given =>
      rw [sameReport_given_iff resumable nonempty firstSuccess secondSuccess jointSuccess days,
        sameReport_given_iff resumable nonempty firstSuccess secondSuccess firstSuccess secondDay]
      exact resumable.given_recorded

end Append

/-- The creation of a workflow with one requirement. -/
def sampleCreation : Except Exn WorkflowState × MemoryStore :=
  createWorkflowSync taskServices
    { workflowId := "workflow", createdAt := .newYear, updatedAt := .newYear } "worker" .newYear
    sampleInput { backend := .localStore }

theorem requirements_sampleCreation {workflow : WorkflowState}
    (created : sampleCreation.1 = .ok workflow) : workflow.requirements ≠ [] := by
  have required : (sampleCreation.1.map fun workflow => workflow.requirements.length).toOption =
      some 1 := by
    decide +kernel
  rw [created] at required
  intro none
  simp [Except.map, Except.toOption, none] at required

/-- The created workflow is continued with its task, and what is returned with the same task. -/
theorem continue_append_iff_sample : ∃ workflow halfway twice once,
    Derived workflow ∧ workflow.requirements ≠ [] ∧
    (continueWorkflow taskServices workflow ["task_1"] sampleCreation.2).1 = .ok halfway ∧
    (continueWorkflow taskServices halfway ["task_1"] sampleCreation.2).1 = .ok twice ∧
    (continueWorkflow taskServices workflow ["task_1", "task_1"] sampleCreation.2).1 = .ok once ∧
    SameReport twice once ∧ SameReport twice halfway := by
  have pending : (sampleCreation.1.map fun workflow =>
      workflow.tasks.all fun task => task.status != .completed).toOption = some true := by
    decide +kernel
  have succeeds : (sampleCreation.1 >>= fun workflow =>
      (continueWorkflow taskServices workflow ["task_1"] sampleCreation.2).1 >>= fun halfway =>
      (continueWorkflow taskServices halfway ["task_1"] sampleCreation.2).1 >>= fun _ =>
      (continueWorkflow taskServices workflow ["task_1", "task_1"] sampleCreation.2).1).isOk =
        true := by
    decide +kernel
  obtain ⟨once, all⟩ := ok_of_isOk succeeds
  obtain ⟨workflow, created, rest⟩ := ok_of_bind all
  obtain ⟨halfway, firstSuccess, rest⟩ := ok_of_bind rest
  obtain ⟨twice, secondSuccess, jointSuccess⟩ := ok_of_bind rest
  have derived : Derived workflow := .created (Prod.ext created rfl)
  have recorded : Again.returned.Recorded workflow ["task_1"] ["task_1"] := by
    rw [created] at pending
    have undone : ∀ task ∈ workflow.tasks, (task.status != .completed) = true :=
      List.all_eq_true.mp (Option.some.inj pending)
    intro task member _ done
    have pendingTask := undone task member
    rw [done] at pendingTask
    cases pendingTask
  have same := (continue_append_iff derived (requirements_sampleCreation created) rfl rfl
    (Prod.ext firstSuccess rfl) .returned (Prod.ext secondSuccess rfl)
    (Prod.ext jointSuccess rfl)).mpr recorded
  exact ⟨workflow, halfway, twice, once, derived, requirements_sampleCreation created, firstSuccess,
    secondSuccess, jointSuccess, same.1, same.2 (List.Subset.refl _)⟩

/-- The record that `create_workflow_sync` returned is continued with its task twice. -/
theorem repeated_call_uncompletes : ∃ workflow halfway twice,
    Derived workflow ∧ workflow.requirements ≠ [] ∧
    (continueWorkflow taskServices workflow ["task_1"] sampleCreation.2).1 = .ok halfway ∧
    (continueWorkflow taskServices (leftBehind workflow ["task_1"]) ["task_1"]
      sampleCreation.2).1 = .ok twice ∧
    halfway.completedTasks = ["task_1"] ∧ twice.completedTasks = [] ∧
    ¬ SameReport twice halfway := by
  have calls : (sampleCreation.1 >>= fun workflow =>
      (continueWorkflow taskServices workflow ["task_1"] sampleCreation.2).1 >>= fun halfway =>
      (continueWorkflow taskServices (leftBehind workflow ["task_1"]) ["task_1"]
        sampleCreation.2).1 >>= fun twice =>
      .ok (halfway.completedTasks, twice.completedTasks)).toOption = some (["task_1"], []) := by
    decide +kernel
  obtain ⟨workflow, created, rest⟩ := ok_of_bind (ok_of_toOption calls)
  obtain ⟨halfway, firstSuccess, rest⟩ := ok_of_bind rest
  obtain ⟨twice, secondSuccess, last⟩ := ok_of_bind rest
  obtain ⟨kept, lost⟩ := Prod.ext_iff.mp (Except.ok.inj last)
  refine ⟨workflow, halfway, twice, .created (Prod.ext created rfl),
    requirements_sampleCreation created, firstSuccess, secondSuccess, kept, lost, fun report => ?_⟩
  cases lost.symm.trans (report.completedTasks.trans kept)

end ActionPlan.Agent
