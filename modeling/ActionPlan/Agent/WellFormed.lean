import ActionPlan.Agent.Planning
import ActionPlan.Foundation.Lookup

/-! # What the validators of plans accept

`validate_plan` on candidate plans and `TaskPlan.validate_tasks` on the tasks
made from them. Each is compared with what a plan should be, stated on the
tasks alone: without the searches, dictionaries and issues of the code.
-/

namespace ActionPlan.Agent

open ActionPlan.Foundation ActionPlan.Foundation.DepthFirst ActionPlan.Models

section Specification

variable (tasks : List CandidateTask) (requirements : List Requirement)

/-- A task with the one id lists the other id among its dependencies. -/
def DependsOn (taskId dependency : String) : Prop :=
  ∃ task ∈ tasks, task.taskId = taskId ∧ dependency ∈ task.dependencies

/-- The tasks can be put in an order of execution. -/
structure Consistent : Prop where
  unique : (tasks.map CandidateTask.taskId).Nodup
  known : ∀ task ∈ tasks, ∀ dependency ∈ task.dependencies,
    ∃ other ∈ tasks, other.taskId = dependency
  acyclic : Acyclic (DependsOn tasks)

/-- The tasks can be executed and do what is required. -/
structure WellFormed : Prop extends Consistent tasks where
  covered : ∀ requirement ∈ requirements,
    ∃ task ∈ tasks, task.requirementId = some requirement.id
  approved : ∀ requirement ∈ requirements, requirement.category = .approval →
    ∃ task ∈ tasks, task.requirementId = some requirement.id ∧ task.requiredApprovals ≠ []

/-- Each task comes after the tasks it depends on. -/
def InOrder : Prop :=
  ∀ earlier task later, tasks = earlier ++ task :: later →
    ∀ dependency ∈ task.dependencies, ∃ other ∈ earlier, other.taskId = dependency

end Specification

section Structure

variable {tasks : List CandidateTask}

/-- No duplicate is reported when the ids are distinct. -/
theorem duplicateIssues_eq_nil_iff :
    duplicateIssues tasks = [] ↔ (tasks.map CandidateTask.taskId).Nodup := by
  rw [duplicateIssues, ← length_dedup_eq_iff, List.length_map]
  by_cases same : (tasks.map CandidateTask.taskId).dedup.length = tasks.length
  · simp [same]
  · simp [same, Ne.symm same]

theorem missingDependencies_eq_nil_iff {task : CandidateTask} :
    missingDependencies tasks task = [] ↔
      ∀ dependency ∈ task.dependencies, ∃ other ∈ tasks, other.taskId = dependency := by
  simp [missingDependencies, List.filter_eq_nil_iff]

/-- No unknown dependency is reported when all of them are tasks of the plan. -/
theorem unknownDependencyIssues_eq_nil_iff :
    unknownDependencyIssues tasks = [] ↔
      ∀ task ∈ tasks, ∀ dependency ∈ task.dependencies,
        ∃ other ∈ tasks, other.taskId = dependency := by
  rw [unknownDependencyIssues, List.map_eq_nil_iff, List.filter_eq_nil_iff]
  simp only [decide_eq_true_eq, not_not, missingDependencies_eq_nil_iff]

/-- Where ids are distinct, each task is found under its id. -/
theorem taskById_of_mem (unique : (tasks.map CandidateTask.taskId).Nodup) {task : CandidateTask}
    (member : task ∈ tasks) : taskById tasks task.taskId = some task :=
  find?_reverse_key unique member

/-- Where ids are distinct, the graph that is searched is the dependency relation. -/
theorem edge_dependenciesById (unique : (tasks.map CandidateTask.taskId).Nodup)
    (taskId dependency : String) :
    Edge (dependenciesById tasks) taskId dependency ↔ DependsOn tasks taskId dependency := by
  unfold Edge dependenciesById DependsOn
  constructor
  · intro listed
    cases found : taskById tasks taskId with
    | none => simp [found] at listed
    | some task =>
        obtain ⟨member, named⟩ := mem_of_taskById found
        rw [found] at listed
        exact ⟨task, member, named, listed⟩
  · rintro ⟨task, member, rfl, listed⟩
    rw [taskById_of_mem unique member]
    exact listed

/-- No cycle is reported when there is none. -/
theorem cycleIssues_eq_nil_iff (unique : (tasks.map CandidateTask.taskId).Nodup) :
    cycleIssues tasks = [] ↔ Acyclic (DependsOn tasks) := by
  rw [cycleIssues, List.map_eq_nil_iff, cycleIds_eq_nil_iff,
    acyclic_congr (edge_dependenciesById unique)]

/-- **The structural checks** of `validate_plan` find nothing exactly in consistent tasks. -/
theorem consistent_iff : Consistent tasks ↔ duplicateIssues tasks = [] ∧
    unknownDependencyIssues tasks = [] ∧ cycleIssues tasks = [] := by
  constructor
  · intro consistent
    exact ⟨duplicateIssues_eq_nil_iff.mpr consistent.unique,
      unknownDependencyIssues_eq_nil_iff.mpr consistent.known,
      (cycleIssues_eq_nil_iff consistent.unique).mpr consistent.acyclic⟩
  · rintro ⟨distinct, found, searched⟩
    have unique := duplicateIssues_eq_nil_iff.mp distinct
    exact ⟨unique, unknownDependencyIssues_eq_nil_iff.mp found,
      (cycleIssues_eq_nil_iff unique).mp searched⟩

end Structure

section Requirements

variable {tasks : List CandidateTask} {requirements : List Requirement}

theorem mem_referencedRequirements {requirement : Requirement} :
    requirement.id ∈ referencedRequirements tasks ↔
      ∃ task ∈ tasks, task.requirementId = some requirement.id := by
  rw [referencedRequirements, List.mem_filterMap]
  constructor
  · rintro ⟨task, member, truthy⟩
    refine ⟨task, member, ?_⟩
    cases named : task.requirementId with
    | none => simp [named, truthyString] at truthy
    | some text =>
        rw [named, truthyString] at truthy
        split at truthy
        · cases truthy
        · exact truthy
  · rintro ⟨task, member, named⟩
    exact ⟨task, member, by rw [named, truthyString_some requirement.id_nonempty]⟩

/-- Nothing is uncovered when each requirement has a task. -/
theorem uncoveredRequirements_eq_nil_iff :
    uncoveredRequirements tasks requirements = [] ↔
      ∀ requirement ∈ requirements, ∃ task ∈ tasks, task.requirementId = some requirement.id := by
  simp only [uncoveredRequirements, List.filter_eq_nil_iff, decide_eq_true_eq, not_not,
    mem_referencedRequirements]

/-- An approval step is a task for the requirement that needs an approval. -/
theorem hasApprovalStep_iff {requirement : Requirement} :
    hasApprovalStep tasks requirement = true ↔
      ∃ task ∈ tasks, task.requirementId = some requirement.id ∧ task.requiredApprovals ≠ [] := by
  simp [hasApprovalStep]

theorem unapprovedRequirements_eq_nil_iff :
    unapprovedRequirements tasks requirements = [] ↔
      ∀ requirement ∈ requirements, requirement.category = .approval →
        ∃ task ∈ tasks, task.requirementId = some requirement.id ∧
          task.requiredApprovals ≠ [] := by
  simp only [← hasApprovalStep_iff]
  simp [unapprovedRequirements, List.filter_eq_nil_iff]

/-- The plan is valid exactly when no check finds an issue. -/
theorem valid_iff {plan : CandidatePlan} {revisionCount : Int} :
    (validatePlan plan requirements revisionCount).valid = true ↔
      WellFormed plan.tasks requirements := by
  simp only [validatePlan, List.isEmpty_iff, List.append_eq_nil_iff, List.map_eq_nil_iff,
    uncoveredRequirements_eq_nil_iff, unapprovedRequirements_eq_nil_iff]
  constructor
  · rintro ⟨⟨⟨⟨distinct, found⟩, searched⟩, covered⟩, approved⟩
    exact ⟨consistent_iff.mpr ⟨distinct, found, searched⟩, covered, approved⟩
  · intro wellFormed
    obtain ⟨distinct, found, searched⟩ := consistent_iff.mp wellFormed.toConsistent
    exact ⟨⟨⟨⟨distinct, found⟩, searched⟩, wellFormed.covered⟩, wellFormed.approved⟩

/-- The plan has no errors when it is well formed. -/
theorem errors_eq_nil_iff {plan : CandidatePlan} {revisionCount : Int} :
    (validatePlan plan requirements revisionCount).errors = [] ↔
      WellFormed plan.tasks requirements := by
  have accepted : (validatePlan plan requirements revisionCount).valid = true ↔
    WellFormed plan.tasks requirements := valid_iff
  rw [← accepted]
  exact List.isEmpty_iff.symm

end Requirements

section Order

variable {tasks : List CandidateTask}

/-- Where ids are distinct, the dictionary of positions holds the position of each task. -/
theorem positionOf_getElem (unique : (tasks.map CandidateTask.taskId).Nodup) {position : Nat}
    (bound : position < tasks.length) :
    positionOf tasks tasks[position].taskId = some position := by
  have member : (tasks[position], position) ∈ tasks.zipIdx := by
    rw [List.mk_mem_zipIdx_iff_getElem?]
    exact List.getElem?_eq_getElem bound
  have distinct : (tasks.zipIdx.map fun entry => entry.1.taskId).Nodup := by
    have ids := congrArg (List.map CandidateTask.taskId) (List.zipIdx_map_fst 0 tasks)
    rw [List.map_map] at ids
    rw [← ids] at unique
    exact unique
  rw [positionOf, find?_reverse_key distinct member]
  rfl

/-- No violation is reported when each task comes after its dependencies. -/
theorem mem_sequencingViolations_iff : sequencingViolations tasks = [] ↔
    ∀ task ∈ tasks, ∀ dependency ∈ task.dependencies,
      (positionOf tasks dependency).getD (tasks.length + 1) ≤
        (positionOf tasks task.taskId).getD 0 := by
  simp [sequencingViolations, List.flatMap_eq_nil_iff, List.filter_eq_nil_iff]

/-- The positions of a task and of a dependency of it in consistent tasks. -/
theorem positions_of_split (consistent : Consistent tasks) {earlier later : List CandidateTask}
    {task : CandidateTask} (split : tasks = earlier ++ task :: later) {dependency : String}
    (listed : dependency ∈ task.dependencies) :
    positionOf tasks task.taskId = some earlier.length ∧
      ∃ position, ∃ bound : position < tasks.length,
        tasks[position].taskId = dependency ∧ position ≠ earlier.length ∧
          positionOf tasks dependency = some position := by
  have present : task ∈ tasks := by simp [split]
  have inside : earlier.length < tasks.length := by simp [split]
  have own : tasks[earlier.length] = task := by simp [split]
  obtain ⟨other, member, named⟩ := consistent.known task present dependency listed
  obtain ⟨position, bound, rfl⟩ := List.mem_iff_getElem.mp member
  have unique := consistent.unique
  refine ⟨?_, position, bound, named, ?_, ?_⟩
  · rw [← own]
    exact positionOf_getElem unique inside
  · rintro rfl
    rw [own] at named
    exact consistent.acyclic task.taskId (.single ⟨task, present, rfl, named ▸ listed⟩)
  · rw [← named]
    exact positionOf_getElem unique bound

/-- **The order check** of `validate_plan` on consistent tasks. -/
theorem sequencingViolations_eq_nil_iff (consistent : Consistent tasks) :
    sequencingViolations tasks = [] ↔ InOrder tasks := by
  rw [mem_sequencingViolations_iff]
  constructor
  · intro clean earlier task later split dependency listed
    obtain ⟨own, position, bound, named, other, located⟩ :=
      positions_of_split consistent split listed
    have notLater := clean task (by simp [split]) dependency listed
    rw [own, located, Option.getD_some, Option.getD_some] at notLater
    have before : position < earlier.length := by omega
    refine ⟨tasks[position], ?_, named⟩
    subst split
    rw [List.getElem_append_left before]
    exact List.getElem_mem before
  · intro ordered task member dependency listed
    obtain ⟨earlier, later, split⟩ := List.append_of_mem member
    obtain ⟨own, -⟩ := positions_of_split consistent split listed
    obtain ⟨other, older, named⟩ := ordered earlier task later split dependency listed
    obtain ⟨index, before, rfl⟩ := List.mem_iff_getElem.mp older
    have bound : index < tasks.length := by
      rw [split, List.length_append]
      omega
    have same : tasks[index] = earlier[index] := by
      subst split
      exact List.getElem_append_left before
    have located := positionOf_getElem consistent.unique bound
    rw [same, named] at located
    rw [own, located, Option.getD_some, Option.getD_some]
    exact before.le

/-- **The specification of `validate_plan`.** A plan is valid exactly when its
tasks are consistent and do what is required, and valid without warnings exactly
when in addition they are listed in an order of execution. -/
theorem validatePlan_specification (plan : CandidatePlan) (requirements : List Requirement)
    (revisionCount : Int) :
    ((validatePlan plan requirements revisionCount).valid = true ↔
      WellFormed plan.tasks requirements) ∧
    ((validatePlan plan requirements revisionCount).valid = true ∧
        (validatePlan plan requirements revisionCount).warnings = [] ↔
      WellFormed plan.tasks requirements ∧ InOrder plan.tasks) := by
  refine ⟨valid_iff, ?_⟩
  rw [valid_iff]
  refine and_congr_right fun wellFormed => ?_
  rw [← sequencingViolations_eq_nil_iff wellFormed.toConsistent]
  simp [validatePlan]

end Order

section Materialized

variable {candidates : List CandidateTask} {tasks : List Task}

/-- The tasks made from candidate tasks have their ids and dependencies. -/
theorem graph_materializeTasks (made : materializeTasks candidates = .ok tasks) :
    tasks.map (fun task => (task.id, task.dependencies)) =
      candidates.map fun task => (task.taskId, task.dependencies) := by
  have copied := congrArg (List.map fun data => (data.1, data.2.1)) (materializeTasks_ok made)
  rw [List.map_map, List.map_map] at copied
  exact copied

/-- **The structural validation** of the tasks made from candidate tasks
accepts them exactly when the candidate tasks are consistent. -/
theorem validateTasks_materialized (made : materializeTasks candidates = .ok tasks) :
    TaskPlan.validateTasks tasks = .ok () ↔ Consistent candidates := by
  have ids : (candidates.map fun task => (task.taskId, task.dependencies)).map Prod.fst =
      candidates.map CandidateTask.taskId := by
    rw [List.map_map]
    rfl
  have relation : ∀ taskId dependency,
      TaskPlan.Graph.DependsOn (candidates.map fun task => (task.taskId, task.dependencies))
        taskId dependency ↔ DependsOn candidates taskId dependency := by
    simp [TaskPlan.Graph.DependsOn, DependsOn]
  rw [TaskPlan.validateTasks, graph_materializeTasks made, TaskPlan.validateGraph_ok_iff, ids,
    acyclic_congr relation]
  rw [List.forall_mem_map]
  simp only [List.mem_map]
  constructor
  · rintro ⟨unique, known, acyclic⟩
    exact ⟨unique, known, acyclic⟩
  · intro consistent
    exact ⟨consistent.unique, consistent.known, consistent.acyclic⟩

/-- The codes of the errors about the ids and dependencies of the tasks. -/
def structuralCodes : List String :=
  ["duplicate_task_ids", "unknown_dependency", "dependency_cycle"]

/-- Issues of a structural kind are absent when there are none of the kind. -/
theorem issue_codes {issues : List ValidationIssue} {code : String}
    (coded : ∀ issue ∈ issues, issue.code = code) (structural : code ∈ structuralCodes) :
    (∀ issue ∈ issues, issue.code ∉ structuralCodes) ↔ issues = [] := by
  constructor
  · intro other
    apply List.eq_nil_iff_forall_not_mem.mpr
    intro issue member
    exact other issue member (coded issue member ▸ structural)
  · rintro rfl issue member
    cases member

/-- `validate_plan` reports no structural error exactly for consistent tasks. -/
theorem no_structural_error_iff {plan : CandidatePlan} {requirements : List Requirement}
    {revisionCount : Int} :
    (∀ issue ∈ (validatePlan plan requirements revisionCount).errors,
      issue.code ∉ structuralCodes) ↔ Consistent plan.tasks := by
  have duplicate : ∀ issue ∈ duplicateIssues plan.tasks, issue.code = "duplicate_task_ids" := by
    intro issue member
    unfold duplicateIssues at member
    split at member
    · rw [List.mem_singleton.mp member]
    · cases member
  have unknown : ∀ issue ∈ unknownDependencyIssues plan.tasks,
      issue.code = "unknown_dependency" := by
    intro issue member
    obtain ⟨task, -, rfl⟩ := List.mem_map.mp member
    rfl
  have cycle : ∀ issue ∈ cycleIssues plan.tasks, issue.code = "dependency_cycle" := by
    intro issue member
    obtain ⟨cycle, -, rfl⟩ := List.mem_map.mp member
    rfl
  rw [consistent_iff, ← issue_codes duplicate (by decide), ← issue_codes unknown (by decide),
    ← issue_codes cycle (by decide)]
  simp only [validatePlan, List.forall_mem_append]
  constructor
  · rintro ⟨⟨⟨⟨distinct, found⟩, searched⟩, -⟩, -⟩
    exact ⟨distinct, found, searched⟩
  · rintro ⟨distinct, found, searched⟩
    refine ⟨⟨⟨⟨distinct, found⟩, searched⟩, ?_⟩, ?_⟩
    · simp [structuralCodes]
    · simp [structuralCodes]

end Materialized

end ActionPlan.Agent
