import ActionPlan.Agent.Outcomes

/-! # Completions across a refresh

A refresh plans anew for the requirements that the language model now returns, and
takes over the completed ids of the workflow as they are. Ids are positions in the
list of requirements, so the completions belong to the same work just when the
requirement at every completed position was completed before.
-/

namespace ActionPlan.Agent

open ActionPlan.Foundation ActionPlan.Models ActionPlan.Memory

/-- Some task for the requirement is completed. -/
def CompletedFor (workflow : WorkflowState) (requirementId : String) : Prop :=
  ∃ task ∈ workflow.tasks, task.status = .completed ∧ requirementId ∈ task.requirementIds

/-- Every completed task belongs to a requirement with a completed task in the old workflow. -/
def CompletionsKept (old rebuilt : WorkflowState) : Prop :=
  ∀ task ∈ rebuilt.tasks, task.status = .completed →
    ∃ requirementId ∈ task.requirementIds, CompletedFor old requirementId

/-- The id that the plan gives to the requirement at a position counted from one. -/
def positionalId (index : Nat) : String := "task_" ++ toString index

section Planned

variable {requirements : List Requirement} {tasks : List Task}

/-- The ids of planned tasks and of their requirements, in order. -/
theorem planned_ids (planned : PlannedFor requirements tasks) :
    tasks.map (fun task => (task.id, task.requirementIds)) =
      (requirements.zipIdx 1).map fun entry => (positionalId entry.2, [entry.1.id]) := by
  have copied := congrArg
    (List.map fun data : String × List String × TaskStatus × List String => (data.1, data.2.2.2))
    (materializeTasks_ok planned)
  rw [tasks_buildCandidatePlan] at copied
  simp only [List.map_map] at copied
  refine copied.trans (List.map_congr_left fun entry _ => ?_)
  simp only [Function.comp_apply, materialized, requirementTask, templateTask,
    truthyString_some entry.1.id_nonempty]
  rfl

/-- A planned task has the id of its requirement's position. -/
theorem exists_position_of_task (planned : PlannedFor requirements tasks) {task : Task}
    (member : task ∈ tasks) : ∃ entry ∈ requirements.zipIdx 1,
      task.id = positionalId entry.2 ∧ task.requirementIds = [entry.1.id] := by
  have image : (task.id, task.requirementIds) ∈
      (requirements.zipIdx 1).map fun entry => (positionalId entry.2, [entry.1.id]) :=
    planned_ids planned ▸ List.mem_map_of_mem member
  obtain ⟨entry, position, same⟩ := List.mem_map.mp image
  exact ⟨entry, position, (congrArg Prod.fst same).symm, (congrArg Prod.snd same).symm⟩

/-- Every position has its task. -/
theorem exists_task_of_position (planned : PlannedFor requirements tasks)
    {entry : Requirement × Nat} (position : entry ∈ requirements.zipIdx 1) :
    ∃ task ∈ tasks, task.id = positionalId entry.2 ∧ task.requirementIds = [entry.1.id] := by
  have image : (positionalId entry.2, [entry.1.id]) ∈
      tasks.map fun task => (task.id, task.requirementIds) :=
    (planned_ids planned).symm ▸ List.mem_map_of_mem position
  obtain ⟨task, member, same⟩ := List.mem_map.mp image
  exact ⟨task, member, congrArg Prod.fst same, congrArg Prod.snd same⟩

end Planned

section Refresh

variable {services : Services} {workflow rebuilt : WorkflowState} {payload : WorkRequestInput}
  {requirements : List Requirement} {store after : MemoryStore}

/-- What a refresh delivers. -/
theorem delivered_of_rebuild (compiled : rebuildPayload workflow = .ok payload)
    (ended : rebuildWorkflow services workflow store = (.ok rebuilt, after)) :
    Delivered services (rebuildInput workflow payload) rebuilt := by
  obtain ⟨same, reached, again, ran, rfl⟩ := exists_run_of_rebuildWorkflow ended
  obtain rfl : payload = same := Except.ok.inj (compiled.symm.trans again)
  exact delivered_rebuiltWorkflow ran

/-- A refresh takes the completed ids of the workflow over. -/
theorem mem_initialCompleted_rebuildInput {taskId : String} :
    taskId ∈ initialCompleted (rebuildInput workflow payload) ↔
      taskId ∈ workflow.completedTasks := by
  rw [initialCompleted, mem_sortedSet]
  simp [rebuildInput, AgentState.completedList, AgentState.taskList, newlyCompleted]

/-- A refresh completes a task just when its id was completed before. -/
theorem completed_of_rebuild
    (delivered : Delivered services (rebuildInput workflow payload) rebuilt) {task : Task}
    (member : task ∈ rebuilt.tasks) :
    task.status = .completed ↔ task.id ∈ workflow.completedTasks := by
  rw [delivered.produced.completed task member, delivered.completed,
    mem_initialCompleted_rebuildInput]

/-- A refresh plans for the requirements that the language model returns. -/
theorem requirements_of_rebuild
    (delivered : Delivered services (rebuildInput workflow payload) rebuilt)
    (answered : services.llm.extractRequirements (compileWorkRequest payload) = .ok requirements) :
    rebuilt.requirements = requirements := by
  rcases delivered.requirements with ⟨present, -⟩ | ⟨-, request, made, answer⟩
  · exact absurd rfl present
  · cases made
    exact Except.ok.inj (answer.symm.trans answered)

/-- The completions of a refreshed workflow are those of the old one just when the
requirement at every completed position was completed before. -/
theorem completionsKept_iff
    (delivered : Delivered services (rebuildInput workflow payload) rebuilt) :
    CompletionsKept workflow rebuilt ↔ ∀ entry ∈ rebuilt.requirements.zipIdx 1,
      positionalId entry.2 ∈ workflow.completedTasks → CompletedFor workflow entry.1.id := by
  constructor
  · intro kept entry position carried
    obtain ⟨task, member, id, requirementIds⟩ :=
      exists_task_of_position delivered.planned position
    have completed : task.status = .completed :=
      (completed_of_rebuild delivered member).mpr (id ▸ carried)
    obtain ⟨requirementId, mentioned, done⟩ := kept task member completed
    rw [requirementIds, List.mem_singleton] at mentioned
    exact mentioned ▸ done
  · intro covered task member completed
    obtain ⟨entry, position, id, requirementIds⟩ :=
      exists_position_of_task delivered.planned member
    have carried := (completed_of_rebuild delivered member).mp completed
    refine ⟨entry.1.id, by rw [requirementIds]; exact .head _, ?_⟩
    exact covered entry position (id ▸ carried)

end Refresh

/-- **Completions across a refresh** stay with their requirements just when each
requirement that the language model returns at the position of a completed id had a
completed task before. -/
theorem completions_kept {services : Services} {workflow rebuilt : WorkflowState}
    {payload : WorkRequestInput} {requirements : List Requirement} {store after : MemoryStore}
    (compiled : rebuildPayload workflow = .ok payload)
    (answered : services.llm.extractRequirements (compileWorkRequest payload) = .ok requirements)
    (ended : rebuildWorkflow services workflow store = (.ok rebuilt, after)) :
    CompletionsKept workflow rebuilt ↔ ∀ entry ∈ requirements.zipIdx 1,
      positionalId entry.2 ∈ workflow.completedTasks → CompletedFor workflow entry.1.id := by
  have delivered := delivered_of_rebuild compiled ended
  rw [completionsKept_iff delivered, requirements_of_rebuild delivered answered]

section Reordered

/-- A workflow whose only task, for an older requirement, is completed. -/
def reorderedWorkflow : WorkflowState where
  workflowId := "workflow"
  originalGoal := "goal"
  requirements := [{ sampleRequirement with id := "older", id_nonempty := by decide }]
  tasks := [{ sampleTask with status := .completed, requirementIds := ["older"] }]
  completedTasks := ["task_1"]
  createdAt := .newYear
  updatedAt := .newYear
  executionState := .completed

/-- The refresh of the workflow ends, with one requirement and no other. -/
theorem reordered_refresh : ∃ payload rebuilt after,
    rebuildPayload reorderedWorkflow = .ok payload ∧
    taskServices.llm.extractRequirements (compileWorkRequest payload) =
      .ok [{ id := "requirement", text := "text" }] ∧
    rebuildWorkflow taskServices reorderedWorkflow { backend := .localStore } =
      (.ok rebuilt, after) := by
  have succeeds : (rebuildWorkflow taskServices reorderedWorkflow
      { backend := .localStore }).1.isOk = true := by
    decide +kernel
  obtain ⟨rebuilt, result⟩ := ok_of_isOk succeeds
  exact ⟨_, rebuilt, _, rfl, rfl, Prod.ext result rfl⟩

/-- The completion of the older requirement is transferred to the new one. -/
theorem completions_transferred : ∃ rebuilt after,
    rebuildWorkflow taskServices reorderedWorkflow { backend := .localStore } =
      (.ok rebuilt, after) ∧ ¬ CompletionsKept reorderedWorkflow rebuilt := by
  obtain ⟨payload, rebuilt, after, compiled, answered, ended⟩ := reordered_refresh
  have delivered := delivered_of_rebuild compiled ended
  refine ⟨rebuilt, after, ended, fun kept => ?_⟩
  rw [completionsKept_iff delivered, requirements_of_rebuild delivered answered] at kept
  obtain ⟨task, member, -, mentioned⟩ := kept _ (.head _) (.head _)
  simp only [reorderedWorkflow, List.mem_singleton] at member
  subst member
  simp at mentioned

/-- The criterion at the refreshed workflow. -/
theorem completions_kept_reordered : ∃ rebuilt after,
    rebuildWorkflow taskServices reorderedWorkflow { backend := .localStore } =
      (.ok rebuilt, after) ∧
    (CompletionsKept reorderedWorkflow rebuilt ↔
      ∀ entry ∈ [({ id := "requirement", text := "text" } : Requirement)].zipIdx 1,
        positionalId entry.2 ∈ reorderedWorkflow.completedTasks →
          CompletedFor reorderedWorkflow entry.1.id) := by
  obtain ⟨payload, rebuilt, after, compiled, answered, ended⟩ := reordered_refresh
  exact ⟨rebuilt, after, ended, completions_kept compiled answered ended⟩

end Reordered

end ActionPlan.Agent
