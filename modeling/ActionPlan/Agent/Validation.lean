import ActionPlan.Foundation.DepthFirst
import ActionPlan.Models.Plan

/-! # Deterministic validation of candidate plans

`agent/validation.py`. A dictionary built over a list, `{task.task_id: ..}`,
keeps the keys in first-seen order and the value of the last task with the key.
-/

namespace ActionPlan.Agent

open ActionPlan.Foundation.DepthFirst ActionPlan.Models

/-- `MAX_PLAN_REVISIONS`. -/
def maxPlanRevisions : Int := 1

/-- The texts without repetitions, in first-seen order. -/
def firstSeen (texts : List String) : List String :=
  texts.foldl (fun seen text => if text ∈ seen then seen else seen ++ [text]) []

theorem mem_firstSeen {texts : List String} {text : String} :
    text ∈ firstSeen texts ↔ text ∈ texts := by
  have collected : ∀ seen : List String,
      text ∈ texts.foldl (fun seen text => if text ∈ seen then seen else seen ++ [text]) seen ↔
        text ∈ seen ∨ text ∈ texts := by
    induction texts with
    | nil => simp
    | cons first texts ih =>
        intro seen
        rw [List.foldl_cons, ih]
        split
        · rename_i known
          constructor
          · rintro (old | later)
            · exact .inl old
            · exact .inr (List.mem_cons_of_mem first later)
          · rintro (old | present)
            · exact .inl old
            · rcases List.mem_cons.mp present with rfl | later
              · exact .inl known
              · exact .inr later
        · simp [or_assoc]
  simpa [firstSeen] using collected []

/-- The value of `{task.task_id: task}` at a key. -/
def taskById (tasks : List CandidateTask) (taskId : String) : Option CandidateTask :=
  tasks.reverse.find? fun task => task.taskId = taskId

theorem mem_of_taskById {tasks : List CandidateTask} {taskId : String} {task : CandidateTask}
    (found : taskById tasks taskId = some task) : task ∈ tasks ∧ task.taskId = taskId := by
  have named : task.taskId = taskId := by simpa using List.find?_some found
  exact ⟨List.mem_reverse.mp (List.mem_of_find?_eq_some found), named⟩

/-- Every id of a task is a key. -/
theorem exists_taskById {tasks : List CandidateTask} {taskId : String}
    (known : taskId ∈ tasks.map CandidateTask.taskId) :
    ∃ task, taskById tasks taskId = some task := by
  obtain ⟨task, member, rfl⟩ := List.mem_map.mp known
  cases found : taskById tasks task.taskId with
  | none =>
      have absent := List.find?_eq_none.mp found task (List.mem_reverse.mpr member)
      simp at absent
  | some other => exact ⟨other, rfl⟩

namespace CycleSearch

/-- The nested function `visit` of `_cycle_ids`. The set `visiting` holds the
nodes of `stack`; the result is the set `visited` and the list `found`. -/
def visit (tasks : List CandidateTask) :
    Nat → List String → List String × List String → String → List String × List String
  | 0, _, search, _ => search
  | fuel + 1, stack, (visited, found), node =>
    if node ∈ stack then
      (visited, found ++ [" -> ".intercalate (stack.drop (stack.idxOf node) ++ [node])])
    else if node ∈ visited then (visited, found)
    else
      let dependencies := ((taskById tasks node).map CandidateTask.dependencies).getD []
      let search := dependencies.foldl
        (fun search dependency => visit tasks fuel (stack ++ [node]) search dependency)
        (visited, found)
      (node :: search.1, search.2)

end CycleSearch

/-- `_cycle_ids`. The nodes of a search path are distinct, and all but the last
are ids of tasks, so two more levels than there are tasks are enough. The
interpreter's own limit on nested calls is taken to be larger here and in all that
validates plans; `cycleIdsWithin` has it as a parameter. -/
def cycleIds (tasks : List CandidateTask) : List String :=
  ((firstSeen (tasks.map CandidateTask.taskId)).foldl
    (fun search node => CycleSearch.visit tasks (tasks.length + 2) [] search node) ([], [])).2

/-- The position that `{task.task_id: position}` holds for an id. -/
def positionOf (tasks : List CandidateTask) (taskId : String) : Option Nat :=
  (tasks.zipIdx.reverse.find? fun entry => entry.1.taskId = taskId).map Prod.snd

/-- The dependencies of a task that name no task of the plan. -/
def missingDependencies (tasks : List CandidateTask) (task : CandidateTask) : List String :=
  task.dependencies.filter (· ∉ tasks.map CandidateTask.taskId)

/-- The ids of the requirements that some task refers to. -/
def referencedRequirements (tasks : List CandidateTask) : List String :=
  tasks.filterMap fun task => truthyString task.requirementId

/-- Whether a task for the requirement declares required approvals. -/
def hasApprovalStep (tasks : List CandidateTask) (requirement : Requirement) : Bool :=
  tasks.any fun task => task.requirementId = some requirement.id ∧ task.requiredApprovals ≠ []

/-- The error for ids that occur twice. -/
def duplicateIssues (tasks : List CandidateTask) : List ValidationIssue :=
  if (tasks.map CandidateTask.taskId).dedup.length ≠ tasks.length then
    [{ code := "duplicate_task_ids", message := "Task IDs must be unique." }]
  else []

/-- The errors for dependencies that are not in the plan. -/
def unknownDependencyIssues (tasks : List CandidateTask) : List ValidationIssue :=
  (tasks.filter fun task => missingDependencies tasks task ≠ []).map fun task =>
    { code := "unknown_dependency"
      message := "Task " ++ task.taskId ++ " depends on unknown tasks: " ++
        reprStrings (sortedSet (missingDependencies tasks task)) ++ "."
      taskId := some task.taskId }

/-- The errors for dependency cycles. -/
def cycleIssues (tasks : List CandidateTask) : List ValidationIssue :=
  (cycleIds tasks).map fun cycle =>
    { code := "dependency_cycle", message := "Dependency cycle: " ++ cycle }

/-- The requirements to which no task refers. -/
def uncoveredRequirements (tasks : List CandidateTask) (requirements : List Requirement) :
    List Requirement :=
  requirements.filter fun requirement => requirement.id ∉ referencedRequirements tasks

/-- The approvals that no task of the plan obtains. -/
def unapprovedRequirements (tasks : List CandidateTask) (requirements : List Requirement) :
    List Requirement :=
  requirements.filter fun requirement =>
    requirement.category = .approval ∧ hasApprovalStep tasks requirement = false

/-- The pairs of a task and a dependency that comes later in the plan. -/
def sequencingViolations (tasks : List CandidateTask) : List String :=
  tasks.flatMap fun task =>
    (task.dependencies.filter fun dependency =>
      (positionOf tasks dependency).getD (tasks.length + 1) >
        (positionOf tasks task.taskId).getD 0).map fun dependency =>
          task.taskId ++ " -> " ++ dependency

/-- `validate_plan`. -/
def validatePlan (candidatePlan : CandidatePlan) (requirements : List Requirement)
    (revisionCount : Int) : PlanValidationResult :=
  let tasks := candidatePlan.tasks
  let uncovered := uncoveredRequirements tasks requirements
  let unapproved := unapprovedRequirements tasks requirements
  let violations := sequencingViolations tasks
  let errors := duplicateIssues tasks ++ unknownDependencyIssues tasks ++ cycleIssues tasks ++
    uncovered.map (fun requirement =>
      { code := "uncovered_requirement"
        message := "Requirement " ++ requirement.id ++ " is not covered by any plan task." }) ++
    unapproved.map (fun requirement =>
      { code := "missing_approval_task"
        message := "Requirement " ++ requirement.id ++ " needs an approval step in the plan." })
  let warnings : List ValidationIssue :=
    if violations ≠ [] then
      [{ code := "sequencing_warning"
         message := "Some tasks list dependencies that appear later in the plan." }]
    else []
  { valid := errors.isEmpty
    summary :=
      if errors ≠ [] then "Plan is invalid and needs revision."
      else if warnings ≠ [] then "Plan is valid with warnings."
      else "Plan is consistent and ready to execute."
    errors
    warnings
    invalidDependencies :=
      (tasks.filter fun task => missingDependencies tasks task ≠ []).map CandidateTask.taskId
    missingApprovals := unapproved.map Requirement.id
    sequencingViolations := violations
    uncoveredRequirements := uncovered.map Requirement.id
    revisionCount }

section Cycles

variable {tasks : List CandidateTask}

/-- `graph.get(node, [])`. -/
def dependenciesById (tasks : List CandidateTask) (taskId : String) : List String :=
  ((taskById tasks taskId).map CandidateTask.dependencies).getD []

/-- Only the ids of tasks have dependencies. -/
theorem supported_dependenciesById (tasks : List CandidateTask) :
    Supported (dependenciesById tasks) (tasks.map CandidateTask.taskId) := by
  intro taskId dependency listed
  unfold dependenciesById at listed
  cases found : taskById tasks taskId with
  | none => simp [found] at listed
  | some task => exact List.mem_map.mpr ⟨task, mem_of_taskById found⟩

/-- A search with its cycles written out. -/
def CycleSearch.written (search : List String × List (List String)) :
    List String × List String :=
  (search.1, search.2.map fun cycle => " -> ".intercalate cycle)

/-- The search of the source writes out the cycles that `explore` records. -/
theorem CycleSearch.visit_written (tasks : List CandidateTask) (fuel : Nat) (stack : List String)
    (search : List String × List (List String)) (node : String) :
    CycleSearch.visit tasks fuel stack (CycleSearch.written search) node =
      CycleSearch.written (explore (dependenciesById tasks) fuel stack search node) := by
  induction fuel generalizing stack search node with
  | zero => rfl
  | succ fuel ih =>
      obtain ⟨visited, found⟩ := search
      have below : (dependenciesById tasks node).foldl
            (fun search dependency =>
              CycleSearch.visit tasks fuel (stack ++ [node]) search dependency)
            (CycleSearch.written (visited, found)) =
          CycleSearch.written ((dependenciesById tasks node).foldl
            (fun search dependency =>
              explore (dependenciesById tasks) fuel (stack ++ [node]) search dependency)
            (visited, found)) :=
        List.foldl_hom CycleSearch.written (fun search dependency => ih (stack ++ [node]) search
          dependency)
      simp only [CycleSearch.written, dependenciesById] at below
      simp only [CycleSearch.written, CycleSearch.visit, explore, dependenciesById]
      by_cases onStack : node ∈ stack
      · simp [onStack]
      · by_cases member : node ∈ visited
        · simp only [onStack, member, ↓reduceIte]
        · simp only [onStack, member, ↓reduceIte, below]

/-- `_cycle_ids` writes out the cycles that `explore` records from all ids. -/
theorem cycleIds_written (tasks : List CandidateTask) :
    cycleIds tasks = ((firstSeen (tasks.map CandidateTask.taskId)).foldl
      (fun search node => explore (dependenciesById tasks) (tasks.length + 2) [] search node)
      ([], [])).2.map (" -> ".intercalate ·) := by
  have searched : (firstSeen (tasks.map CandidateTask.taskId)).foldl
        (fun search node => CycleSearch.visit tasks (tasks.length + 2) [] search node)
        (CycleSearch.written ([], [])) =
      CycleSearch.written ((firstSeen (tasks.map CandidateTask.taskId)).foldl
        (fun search node => explore (dependenciesById tasks) (tasks.length + 2) [] search node)
        ([], [])) :=
    List.foldl_hom CycleSearch.written fun search node =>
      CycleSearch.visit_written tasks (tasks.length + 2) [] search node
  exact congrArg Prod.snd searched

/-- **`_cycle_ids` finds a cycle exactly when there is one** among the ids and
the dependencies of the last task with each. -/
theorem cycleIds_eq_nil_iff {tasks : List CandidateTask} :
    cycleIds tasks = [] ↔ Acyclic (Edge (dependenciesById tasks)) := by
  have covered : tasks.map CandidateTask.taskId ⊆
      firstSeen (tasks.map CandidateTask.taskId) := fun _ member => mem_firstSeen.mpr member
  have enough : (tasks.map CandidateTask.taskId).length < tasks.length + 2 := by simp
  rw [← explore_roots (supported_dependenciesById tasks) covered enough, cycleIds_written,
    List.map_eq_nil_iff]

end Cycles

section WithoutDependencies

variable {tasks : List CandidateTask}

/-- Tasks without dependencies have no dependency cycle. -/
theorem cycleIds_eq_nil (independent : ∀ task ∈ tasks, task.dependencies = []) :
    cycleIds tasks = [] := by
  apply cycleIds_eq_nil_iff.mpr
  intro taskId walk
  obtain ⟨dependency, listed, -⟩ := Relation.TransGen.head'_iff.mp walk
  unfold Edge dependenciesById at listed
  cases found : taskById tasks taskId with
  | none => simp [found] at listed
  | some task =>
      have member := List.mem_reverse.mp (List.mem_of_find?_eq_some found)
      simp [found, independent task member] at listed

/-- Tasks without dependencies depend on no unknown task. -/
theorem unknownDependencyIssues_eq_nil (independent : ∀ task ∈ tasks, task.dependencies = []) :
    unknownDependencyIssues tasks = [] := by
  rw [unknownDependencyIssues, List.map_eq_nil_iff, List.filter_eq_nil_iff]
  intro task member
  simp [missingDependencies, independent task member]

end WithoutDependencies

end ActionPlan.Agent
