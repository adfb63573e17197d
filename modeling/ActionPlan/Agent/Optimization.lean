import ActionPlan.Agent.Validation
import ActionPlan.Foundation.ControlFlow
import ActionPlan.Models.WorkRequest

/-! # Critical path, parallel layers and deadline of a candidate plan

`agent/optimization.py`.
-/

namespace ActionPlan.Agent

open ActionPlan.Foundation ActionPlan.Models

/-- `_effort_units`. -/
def effortUnits : Effort → Nat
  | .small => 1
  | .medium => 2
  | .large => 3
  | .high => 4

namespace CriticalPath

/-- An effort and the chain of tasks that has it. -/
abbrev Chain := Nat × List String

/-- `max(.., key=lambda item: item[0], default=(0, []))`: the first chain of
largest effort. -/
def longest : List Chain → Chain
  | [] => (0, [])
  | chain :: chains =>
    chains.foldl (fun best other => if best.1 < other.1 then other else best) chain

/-- The nested function `solve`, with the memo `best`. -/
def solve (tasks : List CandidateTask) :
    Nat → List (String × Chain) → String → Except Exn (List (String × Chain) × Chain)
  | 0, _, _ => .error .recursionError
  | fuel + 1, best, taskId =>
    match best.lookup taskId, taskById tasks taskId with
    | some chain, _ => .ok (best, chain)
    | none, none => .error (.upstream ("KeyError: " ++ taskId))
    | none, some task => do
      let known := task.dependencies.filter fun dependency => (taskById tasks dependency).isSome
      let (best, chains) ← known.foldlM
        (fun (best, chains) dependency => do
          let (best, chain) ← solve tasks fuel best dependency
          return (best, chains ++ [chain]))
        (best, ([] : List Chain))
      let candidate := longest chains
      let chain := (candidate.1 + effortUnits task.effort, candidate.2 ++ [taskId])
      return ((taskId, chain) :: best, chain)

end CriticalPath

/-- `_critical_path(tasks, "task")`. A chain that repeats no task is no longer
than the task list; a longer one is the endless recursion of a cyclic plan. The
interpreter's own limit on nested calls is taken to be larger than the plan. -/
def criticalPath (tasks : List CandidateTask) : Except Exn (List String × Nat) := do
  let (_, chains) ← (tasks.map CandidateTask.taskId).foldlM
    (fun (best, chains) taskId => do
      let (best, chain) ← CriticalPath.solve tasks (tasks.length + 1) best taskId
      return (best, chains ++ [chain]))
    (([] : List (String × CriticalPath.Chain)), ([] : List CriticalPath.Chain))
  let path := (CriticalPath.longest chains).2
  return (path, (path.map fun taskId =>
    ((taskById tasks taskId).map fun task => effortUnits task.effort).getD 0).sum)

/-- The layering loop of `optimize_plan`; every round but the last places a task. -/
def layers (tasks : List CandidateTask) (completed remaining : List String) :
    Nat → List String → List (List String)
  | 0, _ => []
  | rounds + 1, placed =>
    let layer := remaining.filter fun taskId =>
      taskId ∉ placed ∧
        (((taskById tasks taskId).map CandidateTask.dependencies).getD []).all fun dependency =>
          dependency ∈ completed ∨ dependency ∈ placed
    if layer = [] then [] else layer :: layers tasks completed remaining rounds (placed ++ layer)

/-- The sort key of the remaining tasks: the number of dependencies of the
tasks with this id. -/
def dependencyCount (tasks : List CandidateTask) (taskId : String) : Nat :=
  ((tasks.filter fun task => task.taskId = taskId).map fun task => task.dependencies.length).sum

/-- `optimize_plan`. -/
def optimizePlan (candidatePlan : CandidatePlan) (deadline : Option Date)
    (completedTaskIds : List String) (today : Date) : Except Exn OptimizationResult := do
  let tasks := candidatePlan.tasks
  let (path, effort) ← criticalPath tasks
  let remaining := ((tasks.map CandidateTask.taskId).filter (· ∉ completedTaskIds)).insertionSort
    fun first second => dependencyCount tasks first ≤ dependencyCount tasks second
  let chains := ((layers tasks completedTaskIds remaining (remaining.length + 1) []).map
    fun layer => layer.filter (· ∉ path)).filter (· ≠ [])
  let days := deadline.map fun deadline => Date.daysBetween deadline today
  let feasible := days.map fun days => decide ((effort : Int) ≤ days)
  let deadlineNotes := feasible.map fun feasible =>
    if feasible then "Deadline is feasible at the current critical-path estimate."
    else "Deadline is at risk; parallelize or reduce effort."
  return {
    summary := "Critical path is " ++ toString effort ++ " effort unit(s); " ++
      deadlineNotes.getD "no deadline constraint provided."
    criticalPath := path
    criticalPathEffort := effort
    parallelChains := chains
    daysUntilDeadline := days
    deadlineFeasible := feasible
    deadlineNotes := deadlineNotes
    notes :=
      ("Critical path: " ++ toString path.length ++ " task(s), " ++ toString effort ++
        " effort unit(s).") ::
      if chains ≠ [] then
        [toString chains.length ++ " non-critical chain(s) can run in parallel."]
      else [] }

section Independent

variable {tasks : List CandidateTask}

/-- The chain of a task without dependencies is found at once. -/
theorem CriticalPath.solve_total (independent : ∀ task ∈ tasks, task.dependencies = [])
    {taskId : String} (known : taskId ∈ tasks.map CandidateTask.taskId) (fuel : Nat)
    (best : List (String × Chain)) :
    ∃ result, solve tasks (fuel + 1) best taskId = .ok result := by
  obtain ⟨task, present⟩ := exists_taskById known
  have member := (mem_of_taskById present).1
  rw [solve]
  split
  · exact ⟨_, rfl⟩
  · rename_i missing
    rw [present] at missing
    cases missing
  · rename_i found
    obtain rfl := Option.some.inj (present.symm.trans found)
    rw [independent task member]
    exact ⟨_, rfl⟩

theorem criticalPath_total (independent : ∀ task ∈ tasks, task.dependencies = []) :
    ∃ result, criticalPath tasks = .ok result := by
  have solved : ∃ chains, (tasks.map CandidateTask.taskId).foldlM
      (fun (best, chains) taskId => do
        let (best, chain) ← CriticalPath.solve tasks (tasks.length + 1) best taskId
        return (best, chains ++ [chain]))
      (([] : List (String × CriticalPath.Chain)), ([] : List CriticalPath.Chain)) =
        (.ok chains : Except Exn _) := by
    apply foldlM_total
    rintro taskId known ⟨best, chains⟩
    obtain ⟨_, found⟩ := CriticalPath.solve_total independent known tasks.length best
    dsimp only
    rw [found]
    exact ⟨_, rfl⟩
  obtain ⟨_, found⟩ := solved
  rw [criticalPath, found]
  exact ⟨_, rfl⟩

/-- **Optimization does not fail** on a plan without dependencies. -/
theorem optimizePlan_total {candidate : CandidatePlan}
    (independent : ∀ task ∈ candidate.tasks, task.dependencies = []) (deadline : Option Date)
    (completed : List String) (today : Date) :
    ∃ result, optimizePlan candidate deadline completed today = .ok result := by
  obtain ⟨_, found⟩ := criticalPath_total independent
  rw [optimizePlan, found]
  exact ⟨_, rfl⟩

/-- Without a deadline the day does not matter. -/
theorem optimizePlan_today (candidate : CandidatePlan) (completed : List String)
    (first second : Date) :
    optimizePlan candidate none completed first = optimizePlan candidate none completed second := by
  simp only [optimizePlan, Option.map_none]

end Independent

end ActionPlan.Agent
