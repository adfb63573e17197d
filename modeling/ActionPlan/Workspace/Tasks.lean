import ActionPlan.Foundation.ControlFlow
import ActionPlan.Foundation.Lookup
import ActionPlan.Models.Workflow

/-! # Readiness and transitions of tasks

`recompute_readiness` and `transition_task` of `workspace.py`. The source
changes the tasks of a list in place, one after the other; `recomputeReadiness`
is that loop, and `recomputeLoop_eq_map` says that the order does not matter,
because no step makes a task completed or stops it being completed.
-/

namespace ActionPlan.Workspace

open ActionPlan.Foundation ActionPlan.Models

/-- The value of `{task.id: task}` at an id. -/
def byId (tasks : List Task) (taskId : String) : Option Task :=
  tasks.reverse.find? fun task => task.id = taskId

/-- `by_id[taskId].status == "completed"`. -/
def isCompleted (tasks : List Task) (taskId : String) : Bool :=
  (byId tasks taskId).any fun task => task.status = .completed

/-- One round of the loop: the task after it, given the list at that moment. -/
def recomputeTask (tasks : List Task) (task : Task) : Task :=
  match task.status with
  | .completed => { task with readiness := .complete }
  | .cancelled => { task with readiness := .cancelled }
  | .blocked => { task with readiness := .blocked }
  | .pending | .ready | .inProgress =>
    if task.dependencies.all (isCompleted tasks) then
      { task with
        readiness := .ready
        status := if task.status = .pending then .ready else task.status }
    else
      { task with
        readiness := .waiting
        status := if task.status = .ready then .pending else task.status }

/-- The loop over the tasks, those before the current one already changed. -/
def recomputeLoop : List Task → List Task → List Task
  | before, [] => before
  | before, task :: later =>
    recomputeLoop (before ++ [recomputeTask (before ++ task :: later) task]) later

/-- `recompute_readiness`. -/
def recomputeReadiness (tasks : List Task) : Except Exn (List Task) :=
  (TaskPlan.validateTasks tasks).map fun _ => recomputeLoop [] tasks

section Loop

variable (tasks : List Task) (task : Task)

/-- A recomputed task keeps its definition. -/
@[simp] theorem recomputeTask_id : (recomputeTask tasks task).id = task.id := by
  unfold recomputeTask
  split <;> try rfl
  all_goals split <;> rfl

@[simp] theorem recomputeTask_dependencies :
    (recomputeTask tasks task).dependencies = task.dependencies := by
  unfold recomputeTask
  split <;> try rfl
  all_goals split <;> rfl

@[simp] theorem recomputeTask_requirementIds :
    (recomputeTask tasks task).requirementIds = task.requirementIds := by
  unfold recomputeTask
  split <;> try rfl
  all_goals split <;> rfl

/-- A round neither completes a task nor takes its completion back. -/
@[simp] theorem recomputeTask_completed :
    (recomputeTask tasks task).status = .completed ↔ task.status = .completed := by
  unfold recomputeTask
  split
  all_goals first
    | (split <;> simp_all)
    | simp_all

variable {tasks}

/-- Two lists with the same ids and the same completed tasks look alike to a round. -/
theorem isCompleted_congr {first second : List Task}
    (same : first.map (fun task => (task.id, decide (task.status = .completed))) =
      second.map fun task => (task.id, decide (task.status = .completed))) (taskId : String) :
    isCompleted first taskId = isCompleted second taskId := by
  have reversed := congrArg List.reverse same
  rw [← List.map_reverse, ← List.map_reverse] at reversed
  unfold isCompleted byId
  generalize first.reverse = left at reversed
  generalize second.reverse = right at reversed
  induction left generalizing right with
  | nil =>
      obtain rfl : right = [] := by simpa using reversed.symm
      rfl
  | cons head left ih =>
      cases right with
      | nil => cases reversed
      | cons other right =>
          rw [List.map_cons, List.map_cons, List.cons.injEq, Prod.mk.injEq] at reversed
          obtain ⟨⟨ids, completed⟩, rest⟩ := reversed
          by_cases wanted : head.id = taskId
          · have otherWanted : other.id = taskId := ids ▸ wanted
            simpa [List.find?_cons, wanted, otherWanted] using completed
          · have otherUnwanted : other.id ≠ taskId := ids ▸ wanted
            simpa [List.find?_cons, wanted, otherUnwanted] using ih right rest

/-- Among tasks with distinct ids, `by_id` finds the task with the id. -/
theorem isCompleted_iff (distinct : (tasks.map Task.id).Nodup) (taskId : String) :
    isCompleted tasks taskId = true ↔
      ∃ task ∈ tasks, task.id = taskId ∧ task.status = .completed := by
  rw [isCompleted, byId]
  constructor
  · intro completed
    obtain ⟨task, found, status⟩ := (Option.any_eq_true _ _).mp completed
    have named := List.find?_some found
    exact ⟨task, List.mem_reverse.mp (List.mem_of_find?_eq_some found),
      of_decide_eq_true named, of_decide_eq_true status⟩
  · rintro ⟨task, member, rfl, status⟩
    rw [find?_reverse_key distinct member]
    exact decide_eq_true status

/-- The recomputation depends on which tasks are completed. -/
theorem recomputeTask_congr {first second : List Task}
    (same : ∀ taskId, isCompleted first taskId = isCompleted second taskId) (task : Task) :
    recomputeTask first task = recomputeTask second task := by
  have equal : isCompleted first = isCompleted second := funext same
  unfold recomputeTask
  rw [equal]

/-- **The loop is a map.** Every round reads the same completed tasks. -/
theorem recomputeLoop_eq_map (tasks : List Task) :
    recomputeLoop [] tasks = tasks.map (recomputeTask tasks) := by
  have loop : ∀ before later : List Task,
      (∀ taskId, isCompleted (before ++ later) taskId = isCompleted tasks taskId) →
      recomputeLoop before later = before ++ later.map (recomputeTask tasks) := by
    intro before later
    induction later generalizing before with
    | nil =>
        intro _
        rw [recomputeLoop, List.map_nil, List.append_nil]
    | cons task later ih =>
        intro same
        have round := recomputeTask_congr same task
        rw [recomputeLoop, round, ih, List.map_cons, List.append_assoc, List.singleton_append]
        intro taskId
        rw [← same taskId]
        apply isCompleted_congr
        simp
  rw [loop [] tasks fun _ => rfl, List.nil_append]

end Loop

/-- What a successful recomputation returns. -/
theorem recomputeReadiness_ok {tasks recomputed : List Task}
    (success : recomputeReadiness tasks = .ok recomputed) :
    TaskPlan.validateTasks tasks = .ok () ∧ recomputed = tasks.map (recomputeTask tasks) := by
  obtain ⟨_, valid, rfl⟩ := ok_of_map success
  exact ⟨valid, recomputeLoop_eq_map tasks⟩

/-- On valid tasks `recompute_readiness` recomputes each of them. -/
theorem recomputeReadiness_of_valid {tasks : List Task}
    (valid : TaskPlan.validateTasks tasks = .ok ()) :
    recomputeReadiness tasks = .ok (tasks.map (recomputeTask tasks)) := by
  rw [recomputeReadiness, valid, ← recomputeLoop_eq_map]
  rfl

/-- The tasks after a successful recomputation. -/
abbrev readied (tasks : List Task) : List Task := tasks.map (recomputeTask tasks)

section Readied

variable (tasks : List Task)

/-- No task appears or disappears. -/
theorem ids_readied : (readied tasks).map Task.id = tasks.map Task.id := by
  rw [List.map_map]
  exact List.map_congr_left fun task _ => recomputeTask_id tasks task

theorem isCompleted_readied (taskId : String) :
    isCompleted (readied tasks) taskId = isCompleted tasks taskId := by
  apply isCompleted_congr
  simp

/-- A second recomputation changes nothing. -/
theorem recomputeTask_recomputeTask (task : Task) :
    recomputeTask tasks (recomputeTask tasks task) = recomputeTask tasks task := by
  cases status : task.status <;>
    by_cases complete : task.dependencies.all (isCompleted tasks) = true <;>
    simp [recomputeTask, status, complete]

/-- Recomputing once more changes nothing. -/
theorem readied_readied : readied (readied tasks) = readied tasks := by
  have same := recomputeTask_congr (isCompleted_readied tasks)
  rw [readied, List.map_map]
  apply List.map_congr_left
  intro task _
  rw [Function.comp_apply, same, recomputeTask_recomputeTask]

/-- The validation does not depend on the readiness. -/
theorem validateTasks_readied :
    TaskPlan.validateTasks (readied tasks) = TaskPlan.validateTasks tasks := by
  apply TaskPlan.validateTasks_congr
  simp

end Readied

/-- The table `allowed` of `transition_task`. -/
def allowed : TaskStatus → List TaskStatus
  | .pending => [.ready, .blocked, .cancelled]
  | .ready => [.inProgress, .blocked, .cancelled, .pending]
  | .inProgress => [.completed, .blocked, .cancelled]
  | .blocked => [.pending, .ready, .cancelled]
  | .completed => []
  | .cancelled => []

/-- `task.status = target`; the ids of a recomputed list are distinct. -/
def setStatus (taskId : String) (target : TaskStatus) (task : Task) : Task :=
  if task.id = taskId then { task with status := target } else task

@[simp] theorem setStatus_id (taskId : String) (target : TaskStatus) (task : Task) :
    (setStatus taskId target task).id = task.id := by
  unfold setStatus
  split <;> rfl

@[simp] theorem setStatus_dependencies (taskId : String) (target : TaskStatus) (task : Task) :
    (setStatus taskId target task).dependencies = task.dependencies := by
  unfold setStatus
  split <;> rfl

/-- `[t.id for t in tasks if t.status == "completed"]`. -/
abbrev completedIds (tasks : List Task) : List String :=
  (tasks.filter fun task => task.status = .completed).map Task.id

/-- `transition_task`; the result is the changed workflow. -/
def transitionTask (workflow : WorkflowState) (taskId : String) (target : TaskStatus) :
    Except Exn WorkflowState :=
  if ¬ workflow.tasks.any (fun task => task.id = taskId) then
    .error (.notFound ("Task " ++ taskId ++ " not found."))
  else do
    let tasks ← recomputeReadiness workflow.tasks
    match tasks.find? fun task => task.id = taskId with
    | none => .error (.notFound ("Task " ++ taskId ++ " not found."))
    | some task =>
      if target ∉ allowed task.status then
        .error (.workspaceError ("Cannot transition task from " ++ task.status.value ++ " to " ++
          target.value ++ "."))
      else if (target = .ready ∨ target = .inProgress) ∧ task.readiness ≠ .ready then
        .error (.workspaceError "Dependencies must be completed before this task can start.")
      else do
        let tasks ← recomputeReadiness (tasks.map (setStatus taskId target))
        return { workflow with
          tasks
          completedTasks := (tasks.filter fun task => task.status = .completed).map Task.id }

/-- What a successful transition does. -/
theorem transitionTask_ok {workflow changed : WorkflowState} {taskId : String}
    {target : TaskStatus} (success : transitionTask workflow taskId target = .ok changed) :
    (∃ task ∈ readied workflow.tasks, task.id = taskId ∧ target ∈ allowed task.status ∧
        (target = .ready ∨ target = .inProgress → task.readiness = .ready)) ∧
      ∃ completedTasks, changed =
        { workflow with
          tasks := readied ((readied workflow.tasks).map (setStatus taskId target))
          completedTasks } := by
  unfold transitionTask at success
  split at success
  · cases success
  · obtain ⟨tasks, ready, rest⟩ := ok_of_bind success
    obtain ⟨-, rfl⟩ := recomputeReadiness_ok ready
    split at rest
    · cases rest
    · rename_i task found
      split at rest
      · cases rest
      · rename_i permitted
        split at rest
        · cases rest
        · rename_i started
          obtain ⟨tasks, readyAgain, done⟩ := ok_of_bind rest
          obtain ⟨-, rfl⟩ := recomputeReadiness_ok readyAgain
          cases done
          refine ⟨⟨task, List.mem_of_find?_eq_some found, ?_, not_not.mp permitted, ?_⟩, _, rfl⟩
          · simpa using List.find?_some found
          · exact fun starts => not_not.mp fun unready => started ⟨starts, unready⟩

/-- A transition counts the completed tasks anew. -/
theorem transitionTask_completedTasks {workflow changed : WorkflowState} {taskId : String}
    {target : TaskStatus} (success : transitionTask workflow taskId target = .ok changed) :
    changed.completedTasks = completedIds changed.tasks := by
  unfold transitionTask at success
  split at success
  · cases success
  · obtain ⟨tasks, -, rest⟩ := ok_of_bind success
    split at rest
    · cases rest
    · split at rest
      · cases rest
      · split at rest
        · cases rest
        · obtain ⟨tasks, -, done⟩ := ok_of_bind rest
          cases done
          rfl

/-- A change of tasks that keeps ids and completions keeps the completed ids. -/
theorem completedIds_map {tasks : List Task} {change : Task → Task}
    (id : ∀ task ∈ tasks, (change task).id = task.id)
    (completed : ∀ task ∈ tasks,
      (change task).status = .completed ↔ task.status = .completed) :
    completedIds (tasks.map change) = completedIds tasks := by
  induction tasks with
  | nil => rfl
  | cons task tasks ih =>
      have rest := ih (fun other member => id other (.tail _ member))
        fun other member => completed other (.tail _ member)
      simp only [completedIds, List.map_cons, List.filter_cons, decide_eq_true_eq,
        completed task (.head _)] at rest ⊢
      split
      · rw [List.map_cons, List.map_cons, id task (.head _), rest]
      · exact rest

/-- No task is completed by the recomputation. -/
theorem completedIds_readied (tasks : List Task) :
    completedIds (readied tasks) = completedIds tasks :=
  completedIds_map (fun task _ => recomputeTask_id tasks task)
    fun task _ => recomputeTask_completed tasks task

end ActionPlan.Workspace
