import ActionPlan.Agent.Service
import ActionPlan.Api.Documents

/-! # The records that the service produces

Every record in the memory store was made by `create_workflow` or by a run of
the graph, and afterwards only its execution state and its metadata changed.
`Produced` says what such records have in common.
-/

namespace ActionPlan.Agent

open ActionPlan.Foundation ActionPlan.Models ActionPlan.Memory ActionPlan.Api

/-- The task without its progress. -/
def resetTask (task : Task) : Task := { task with status := .pending, readiness := .waiting }

/-- A reset forgets a completion. -/
theorem resetTask_markCompleted (completed : List String) (task : Task) :
    resetTask (markCompleted completed task) = resetTask task := by
  unfold markCompleted
  split <;> rfl

@[simp] theorem markCompleted_id (completed : List String) (task : Task) :
    (markCompleted completed task).id = task.id := by
  unfold markCompleted
  split <;> rfl

/-- A pending task is marked as completed when its id is among the completed ones. -/
theorem status_markCompleted {task : Task} (pending : task.status = .pending)
    (completed : List String) :
    (markCompleted completed task).status = .completed ↔ task.id ∈ completed := by
  unfold markCompleted
  split
  · rename_i done
    exact iff_of_true rfl done
  · rename_i missing
    exact iff_of_false (by simp [pending]) missing

/-- Tasks have made no progress when they are made. -/
theorem materializeTasks_reset {candidates : List CandidateTask} {tasks : List Task}
    (made : materializeTasks candidates = .ok tasks) : tasks.map resetTask = tasks := by
  induction candidates generalizing tasks with
  | nil =>
      cases made
      rfl
  | cons candidate candidates ih =>
      obtain ⟨first, firstMade, rest⟩ := ok_of_bind made
      obtain ⟨others, othersMade, result⟩ := ok_of_bind rest
      cases result
      rw [List.map_cons, ih othersMade]
      unfold materializeTask at firstMade
      split at firstMade
      · cases firstMade
        rfl
      · cases firstMade

/-- The tasks of a record, without their progress, are those planned for its requirements. -/
def PlannedFor (requirements : List Requirement) (tasks : List Task) : Prop :=
  materializeTasks (buildCandidatePlan requirements).tasks = .ok (tasks.map resetTask)

/-- Without requirements there are no tasks. -/
theorem plannedFor_nil {tasks : List Task} (planned : PlannedFor [] tasks) : tasks = [] := by
  have none : tasks.map resetTask = [] := (Except.ok.inj planned).symm
  exact List.map_eq_nil_iff.mp none

/-- What the records of the memory store have in common. -/
structure Produced (workflow : WorkflowState) : Prop where
  plan : workflow.candidatePlan = none ∧ workflow.tasks = [] ∨
    workflow.candidatePlan = some (buildCandidatePlan workflow.requirements) ∧
      PlannedFor workflow.requirements workflow.tasks
  completed : ∀ task ∈ workflow.tasks,
    task.status = .completed ↔ task.id ∈ workflow.completedTasks
  marked : workflow.tasks =
    (workflow.tasks.map resetTask).map (markCompleted workflow.completedTasks)
  recommendation : ∀ recommendation ∈ workflow.recommendation,
    recommendation.recommendationId = ""
  version : workflow.version = 1

namespace Produced

variable {workflow : WorkflowState}

/-- The queued record has no plan yet. -/
theorem queued (creation : Creation) (payload : WorkRequestInput) :
    Produced (queuedWorkflow creation payload) where
  plan := .inl ⟨rfl, rfl⟩
  completed _ member := by cases member
  marked := rfl
  recommendation _ present := by cases present
  version := rfl

/-- Only these fields matter. -/
theorem congr {other : WorkflowState} (produced : Produced workflow)
    (plan : other.candidatePlan = workflow.candidatePlan)
    (requirements : other.requirements = workflow.requirements)
    (tasks : other.tasks = workflow.tasks)
    (completed : other.completedTasks = workflow.completedTasks)
    (recommendation : other.recommendation = workflow.recommendation)
    (version : other.version = workflow.version) : Produced other := by
  refine ⟨?_, ?_, ?_, ?_, ?_⟩
  · rw [plan, requirements, tasks]
    exact produced.plan
  · rw [tasks, completed]
    exact produced.completed
  · rw [tasks, completed]
    exact produced.marked
  · rw [recommendation]
    exact produced.recommendation
  · rw [version]
    exact produced.version

/-- A JSON copy has the plan of its record. -/
theorem jsonCopy (produced : Produced workflow) : Produced workflow.jsonCopy :=
  produced.congr rfl rfl rfl rfl rfl rfl

/-- What a store loads has the plan that was saved. -/
theorem load (produced : Produced workflow) (backend : Backend) :
    Produced (MemoryStore.load backend workflow) :=
  produced.congr (MemoryStore.load_candidatePlan _ _) (MemoryStore.load_requirements _ _)
    (MemoryStore.load_tasks _ _) (MemoryStore.load_completedTasks _ _)
    (MemoryStore.load_recommendation _ _) (MemoryStore.load_version _ _)

theorem running (produced : Produced workflow) (now : DateTime) :
    Produced (MemoryStore.running now workflow) :=
  produced.congr rfl rfl rfl rfl rfl rfl

theorem failed (produced : Produced workflow) (failure : Exn) :
    Produced (failedWorkflow failure workflow) :=
  produced.congr rfl rfl rfl rfl rfl rfl

theorem withDocument {saved : WorkflowState} {filename : String} (produced : Produced workflow)
    (success : withDocument filename workflow = .ok saved) : Produced saved := by
  obtain ⟨names, -, rfl⟩ := withDocument_ok success
  exact produced.congr rfl rfl rfl rfl rfl rfl

/-- A produced record can be continued: its candidate plan fits its requirements. -/
theorem builtInitially (produced : Produced workflow) (completedTaskIds : List String) :
    BuiltInitially (continueInput workflow completedTaskIds) := by
  intro candidate present
  rcases produced.plan with ⟨none, -⟩ | ⟨some, -⟩
  · exact absurd (none.symm.trans present) nofun
  · exact Option.some.inj (present.symm.trans some)

/-- The tasks of a produced record pass the workspace's validation. -/
theorem distinct (produced : Produced workflow) :
    (workflow.tasks.map Task.id).Nodup ∧ ∀ task ∈ workflow.tasks, task.dependencies = [] := by
  rcases produced.plan with ⟨-, none⟩ | ⟨-, planned⟩
  · rw [none]
    exact ⟨List.nodup_nil, fun _ member => by cases member⟩
  · constructor
    · have ids : (workflow.tasks.map resetTask).map Task.id = workflow.tasks.map Task.id := by
        rw [List.map_map]
        rfl
      exact ids ▸ nodup_of_built planned
    · intro task member
      exact (pending_of_built planned (List.mem_map_of_mem member)).1

/-- The tasks of a produced record pass the validation. -/
theorem valid (produced : Produced workflow) :
    TaskPlan.validateTasks workflow.tasks = .ok () :=
  TaskPlan.validateTasks_of_independent produced.distinct.1 produced.distinct.2

end Produced

section Delivery

variable {services : Services} {initial reached : AgentState}

/-- Every task of the list is among those of the record, whatever its progress. -/
def Contains (tasks : List Task) (workflow : WorkflowState) : Prop :=
  ∀ task ∈ tasks, ∃ kept ∈ workflow.tasks, resetTask kept = resetTask task

/-- The result of a graph run, seen as a record. -/
structure Delivered (services : Services) (initial : AgentState) (workflow : WorkflowState) :
    Prop where
  workflowId : workflow.workflowId = initial.workflowId.getD ""
  produced : Produced workflow
  requirements : Required initial services { requirements := some workflow.requirements }
  planned : PlannedFor workflow.requirements workflow.tasks
  completed : workflow.completedTasks = initialCompleted initial

/-- What `_state_to_workflow` and `_to_workflow_state` copy from the state. -/
theorem delivered_of_copy {workflow : WorkflowState} (built : BuiltInitially initial)
    (ran : reachMemory services initial = .ok reached)
    (workflowId : workflow.workflowId = reached.workflowId.getD "")
    (candidatePlan : workflow.candidatePlan = reached.candidatePlan)
    (requirements : workflow.requirements = reached.requirementList)
    (tasks : workflow.tasks = reached.tasks.getD [])
    (completedTasks : workflow.completedTasks = reached.completedTasks.getD [])
    (recommendation : workflow.recommendation = reached.recommendation)
    (version : workflow.version = 1) : Delivered services initial workflow := by
  obtain ⟨initialized, required, planned, recommended⟩ := reachMemory_outline built ran
  obtain ⟨made, materialized, stored⟩ := planned.tasks
  have marked : workflow.tasks = made.map (markCompleted (initialCompleted initial)) := by
    rw [tasks, stored, Option.getD_some]
  have completed : workflow.completedTasks = initialCompleted initial := by
    rw [completedTasks, initialized.completed, Option.getD_some]
  have reset : workflow.tasks.map resetTask = made := by
    have unmarked : resetTask ∘ markCompleted (initialCompleted initial) = resetTask :=
      funext (resetTask_markCompleted _)
    rw [marked, List.map_map, unmarked, materializeTasks_reset materialized]
  have plannedFor : PlannedFor workflow.requirements workflow.tasks := by
    rw [PlannedFor, requirements, reset, materialized]
  refine ⟨?_, ⟨?_, ?_, ?_, ?_, version⟩, ?_, plannedFor, completed⟩
  · rw [workflowId, workflowId_of_identity (reachMemory_identity ran)]
  · exact .inr ⟨by rw [candidatePlan, planned.candidate, requirements], plannedFor⟩
  · intro task member
    rw [marked] at member
    obtain ⟨plain, plainMember, rfl⟩ := List.mem_map.mp member
    have pending := (pending_of_built materialized plainMember).2
    rw [completed, markCompleted_id]
    exact status_markCompleted pending _
  · rw [reset, completed, marked]
  · intro other present
    obtain ⟨made, some, empty, -⟩ := recommended.recommendation
    rw [recommendation, some] at present
    cases present
    exact empty
  · rcases required with ⟨present, same⟩ | ⟨none, request, compiled, answered⟩
    · exact .inl ⟨present, requirements.trans same⟩
    · exact .inr ⟨none, request, compiled, by rw [answered, ← requirements]; rfl⟩

/-- What the memory node saves comes from the run. -/
theorem delivered_stateToWorkflow (built : BuiltInitially initial)
    (ran : reachMemory services initial = .ok reached) :
    Delivered services initial (stateToWorkflow services.clock reached) :=
  delivered_of_copy built ran rfl rfl rfl rfl rfl rfl rfl

/-- What the service converts comes from the run. -/
theorem delivered_toWorkflowState (built : BuiltInitially initial)
    (ran : reachMemory services initial = .ok reached) :
    Delivered services initial
      (toWorkflowState services.clock (updateMemoryResult services.clock reached)) :=
  delivered_of_copy built ran rfl rfl rfl rfl rfl rfl rfl

/-- The record of an execution comes from its run. -/
theorem delivered_executedWorkflow {workflowId workerId : String} {payload : WorkRequestInput}
    (ran : reachMemory services (executionInput workflowId workerId payload) = .ok reached) :
    Delivered services (executionInput workflowId workerId payload)
      (executedWorkflow services.clock (updateMemoryResult services.clock reached)) :=
  delivered_of_copy (builtInitially_of_none rfl) ran rfl rfl rfl rfl rfl rfl rfl

/-- The record of a rebuild comes from its run. -/
theorem delivered_rebuiltWorkflow {before : WorkflowState} {payload : WorkRequestInput}
    (ran : reachMemory services (rebuildInput before payload) = .ok reached) :
    Delivered services (rebuildInput before payload)
      (rebuiltWorkflow services.clock before (updateMemoryResult services.clock reached)) :=
  delivered_of_copy (builtInitially_of_none rfl) ran rfl rfl rfl rfl rfl rfl rfl

/-- The record of a continuation comes from its run. -/
theorem delivered_continuedWorkflow {before : WorkflowState} {completedTaskIds : List String}
    (produced : Produced before)
    (ran : reachMemory services (continueInput before completedTaskIds) = .ok reached) :
    Delivered services (continueInput before completedTaskIds)
      (continuedWorkflow services.clock before (updateMemoryResult services.clock reached)) :=
  delivered_of_copy (produced.builtInitially completedTaskIds) ran rfl rfl rfl rfl rfl rfl rfl

/-- A continuation of a record with tasks plans the same tasks again. -/
theorem Delivered.reset_of_continued {before after : WorkflowState}
    {completedTaskIds : List String}
    (delivered : Delivered services (continueInput before completedTaskIds) after)
    (produced : Produced before) (nonempty : before.tasks ≠ []) :
    after.tasks.map resetTask = before.tasks.map resetTask := by
  have planned : PlannedFor before.requirements before.tasks := by
    rcases produced.plan with ⟨-, none⟩ | ⟨-, planned⟩
    · exact absurd none nonempty
    · exact planned
  have requirements : after.requirements = before.requirements := by
    rcases delivered.requirements with ⟨-, same⟩ | ⟨none, -⟩
    · exact same
    · have empty : before.requirements = [] := none
      rw [empty] at planned
      exact absurd (plannedFor_nil planned) nonempty
  have plannedAfter := delivered.planned
  rw [PlannedFor, requirements, planned] at plannedAfter
  exact (Except.ok.inj plannedAfter).symm

/-- A continuation that brings no news: the record has tasks, and the posted ids
complete no further one. -/
def Repeats (workflow : WorkflowState) (completedTaskIds : List String) : Prop :=
  workflow.tasks ≠ [] ∧ newlyCompleted completedTaskIds workflow.tasks = []

/-- A continuation that brings no news keeps the tasks as they are. -/
theorem Delivered.tasks_of_repeats {before after : WorkflowState} {completedTaskIds : List String}
    (delivered : Delivered services (continueInput before completedTaskIds) after)
    (produced : Produced before) (repeats : Repeats before completedTaskIds) :
    after.tasks = before.tasks := by
  have reset := delivered.reset_of_continued produced repeats.1
  have same : markCompleted after.completedTasks = markCompleted before.completedTasks := by
    funext task
    have member : task.id ∈ after.completedTasks ↔ task.id ∈ before.completedTasks := by
      rw [delivered.completed, initialCompleted, mem_sortedSet]
      change task.id ∈ before.completedTasks ++ newlyCompleted completedTaskIds before.tasks ↔ _
      rw [repeats.2, List.append_nil]
    rw [markCompleted, markCompleted]
    exact if_congr member rfl rfl
  calc after.tasks
      = (after.tasks.map resetTask).map (markCompleted after.completedTasks) :=
        delivered.produced.marked
    _ = (before.tasks.map resetTask).map (markCompleted before.completedTasks) := by
        rw [reset, same]
    _ = before.tasks := produced.marked.symm

/-- Planning for the same requirements keeps the tasks. -/
theorem contains_of_planned {tasks : List Task} {before after : WorkflowState}
    (produced : Produced before) (contains : Contains tasks before)
    (planned : PlannedFor after.requirements after.tasks)
    (same : before.requirements ≠ [] → after.requirements = before.requirements) :
    Contains tasks after := by
  intro task member
  obtain ⟨kept, keptMember, reset⟩ := contains task member
  rcases produced.plan with ⟨-, none⟩ | ⟨-, plannedBefore⟩
  · rw [none] at keptMember
    cases keptMember
  · by_cases empty : before.requirements = []
    · rw [empty] at plannedBefore
      rw [plannedFor_nil plannedBefore] at keptMember
      cases keptMember
    · have equal : after.tasks.map resetTask = before.tasks.map resetTask := by
        rw [PlannedFor, same empty, plannedBefore] at planned
        exact (Except.ok.inj planned).symm
      have image : resetTask kept ∈ after.tasks.map resetTask :=
        equal ▸ List.mem_map_of_mem keptMember
      obtain ⟨other, otherMember, sameReset⟩ := List.mem_map.mp image
      exact ⟨other, otherMember, sameReset.trans reset⟩

end Delivery

end ActionPlan.Agent
