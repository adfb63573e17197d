import ActionPlan.Agent.CriticalPath
import ActionPlan.Foundation.Layering

/-! # The parallel schedule of the remaining work

The loop of `optimize_plan` places the remaining tasks in layers, for any plan. The layers
without the tasks of the critical path are its parallel chains.
-/

namespace ActionPlan.Agent

open ActionPlan.Foundation ActionPlan.Foundation.DepthFirst
  ActionPlan.Foundation.HeaviestChain ActionPlan.Models

/-- The ids of the tasks that are not completed, those with few dependencies first. -/
def remainingIds (tasks : List CandidateTask) (completed : List String) : List String :=
  ((tasks.map CandidateTask.taskId).filter (· ∉ completed)).insertionSort
    fun first second => dependencyCount tasks first ≤ dependencyCount tasks second

/-- The dependencies of a task that a round waits for. -/
def openDependencies (tasks : List CandidateTask) (completed : List String) (taskId : String) :
    List String :=
  (dependenciesById tasks taskId).filter (· ∉ completed)

section Loop

variable {tasks : List CandidateTask} {completed : List String}

/-- The remaining tasks are those that are not completed. -/
theorem mem_remainingIds {taskId : String} : taskId ∈ remainingIds tasks completed ↔
    taskId ∈ tasks.map CandidateTask.taskId ∧ taskId ∉ completed := by
  rw [remainingIds, List.mem_insertionSort, List.mem_filter, decide_eq_true_eq]

theorem nodup_remainingIds (unique : (tasks.map CandidateTask.taskId).Nodup) :
    (remainingIds tasks completed).Nodup :=
  (List.perm_insertionSort _ _).nodup_iff.mpr (unique.filter _)

/-- The loop of the source places what has open dependencies only among the placed. -/
theorem layers_eq (remaining : List String) (rounds : Nat) (placed : List String) :
    layers tasks completed remaining rounds placed =
      Layering.layers remaining (openDependencies tasks completed) rounds placed := by
  induction rounds generalizing placed with
  | zero => rfl
  | succ rounds ih =>
      have waits : ∀ dependencies : List String,
          dependencies.all (fun dependency => dependency ∈ completed ∨ dependency ∈ placed) =
            (dependencies.filter (· ∉ completed)).all (· ∈ placed) := by
        intro dependencies
        rw [List.all_filter]
        simp
      have same : remaining.filter (fun taskId => taskId ∉ placed ∧
            (((taskById tasks taskId).map CandidateTask.dependencies).getD []).all fun dependency =>
              dependency ∈ completed ∨ dependency ∈ placed) =
          Layering.ready remaining (openDependencies tasks completed) placed := by
        apply List.filter_congr
        intro taskId _
        apply decide_eq_decide.mpr
        simp only [openDependencies, dependenciesById, waits]
      rw [layers, Layering.layers, same]
      simp only [ih]

/-- **The layering loop ends**, for every plan and all completed ids. -/
theorem ends_layers (tasks : List CandidateTask) (completed : List String) :
    Layering.Ends (remainingIds tasks completed) (openDependencies tasks completed) []
      (layers tasks completed (remainingIds tasks completed)
        ((remainingIds tasks completed).length + 1) []) := by
  rw [layers_eq]
  apply Layering.ends_layers
  exact Nat.lt_succ_of_le (List.length_filter_le _ _)

end Loop

/-- The chains are a parallel schedule of the tasks that are neither completed nor on the
path: each of them has one place, after the dependencies that have one too. -/
structure ParallelSchedule (tasks : List CandidateTask) (completed path : List String)
    (chains : List (List String)) : Prop where
  once : ∀ task ∈ tasks, task.taskId ∉ completed → task.taskId ∉ path →
    chains.flatten.count task.taskId = 1
  remaining : ∀ taskId ∈ chains.flatten, taskId ∉ completed
  apart : ∀ chain ∈ chains, ∀ task ∈ tasks, task.taskId ∈ chain →
    ∀ dependency ∈ task.dependencies, dependency ∉ chain
  ordered : ∀ earlier chain later, chains = earlier ++ chain :: later →
    ∀ task ∈ tasks, task.taskId ∈ chain → ∀ dependency ∈ task.dependencies,
      dependency ∈ chains.flatten → dependency ∈ earlier.flatten

section Schedule

variable {path : List String} {layers : List (List String)}

/-- The layers without the tasks of the path, the empty ones left out. -/
def offPath (path : List String) (layers : List (List String)) : List (List String) :=
  (layers.map fun layer => layer.filter (· ∉ path)).filter (· ≠ [])

/-- The layers without the critical path lose nothing else. -/
theorem flatten_offPath :
    (offPath path layers).flatten = layers.flatten.filter (· ∉ path) := by
  induction layers with
  | nil => rfl
  | cons layer layers ih =>
      rw [offPath, List.map_cons, List.filter_cons]
      split
      · rw [List.flatten_cons, List.flatten_cons, List.filter_append, ← ih]
        rfl
      · rename_i empty
        have nothing : layer.filter (· ∉ path) = [] := by simpa using empty
        rw [List.flatten_cons, List.filter_append, nothing, List.nil_append, ← ih]
        rfl

/-- A chain comes from a layer, and the chains before it from the layers before that one. -/
theorem exists_layer {earlier later : List (List String)} {chain : List String}
    (split : offPath path layers = earlier ++ chain :: later) :
    ∃ before layer after, layers = before ++ layer :: after ∧
      layer.filter (· ∉ path) = chain ∧ offPath path before = earlier := by
  obtain ⟨first, rest, same, front, back⟩ := List.filter_eq_append_iff.mp split
  obtain ⟨skipped, others, rfl, empty, -, -⟩ := List.filter_eq_cons_iff.mp back
  rw [← List.append_assoc] at same
  obtain ⟨before, further, rfl, beforeMap, furtherMap⟩ := List.map_eq_append_iff.mp same
  obtain ⟨layer, after, rfl, layerMap, -⟩ := List.map_eq_cons_iff.mp furtherMap
  refine ⟨before, layer, after, rfl, layerMap, ?_⟩
  rw [offPath, beforeMap, List.filter_append, front, List.filter_eq_nil_iff.mpr empty,
    List.append_nil]

theorem mem_offPath {taskId : String} : taskId ∈ (offPath path layers).flatten ↔
    taskId ∈ layers.flatten ∧ taskId ∉ path := by
  rw [flatten_offPath, List.mem_filter, decide_eq_true_eq]

variable {tasks : List CandidateTask} {completed : List String}

/-- The dependencies that are left have no cycle if the plan has none. -/
theorem acyclic_openDependencies (consistent : Consistent tasks) :
    Acyclic (Edge (openDependencies tasks completed)) :=
  (sufficient_of_consistent consistent).acyclic.mono
    fun _ _ waits => List.mem_of_mem_filter waits

/-- What is waited for remains to be done as well. -/
theorem openDependencies_subset (consistent : Consistent tasks) :
    ∀ taskId ∈ remainingIds tasks completed,
      openDependencies tasks completed taskId ⊆ remainingIds tasks completed := by
  intro taskId present dependency waits
  obtain ⟨known, -⟩ := mem_remainingIds.mp present
  obtain ⟨source, member, rfl⟩ := List.mem_map.mp known
  obtain ⟨listed, stays⟩ := List.mem_filter.mp waits
  rw [dependenciesById_of_mem consistent.unique member] at listed
  obtain ⟨other, otherMember, rfl⟩ := consistent.known source member dependency listed
  exact mem_remainingIds.mpr ⟨List.mem_map_of_mem otherMember, of_decide_eq_true stays⟩

section Ended

variable (consistent : Consistent tasks)
  (ends : Layering.Ends (remainingIds tasks completed) (openDependencies tasks completed) [] layers)

include consistent ends

/-- No task is in two layers. -/
theorem nodup_offPath : (offPath path layers).flatten.Nodup := by
  rw [flatten_offPath]
  exact (ends.nodup (nodup_remainingIds consistent.unique)).filter _

omit consistent in
/-- No layer contains a completed task. -/
theorem uncompleted_of_offPath {taskId : String}
    (member : taskId ∈ (offPath path layers).flatten) : taskId ∉ completed :=
  (mem_remainingIds.mp (ends.mem_flatten (mem_offPath.mp member).1).1).2

/-- A dependency that has a place is in a chain before that of the task. -/
theorem ordered_offPath {earlier later : List (List String)} {chain : List String}
    (split : offPath path layers = earlier ++ chain :: later) {task : CandidateTask}
    (member : task ∈ tasks) (inChain : task.taskId ∈ chain) {dependency : String}
    (listed : dependency ∈ task.dependencies)
    (occurs : dependency ∈ (offPath path layers).flatten) : dependency ∈ earlier.flatten := by
  obtain ⟨before, layer, after, same, rfl, rfl⟩ := exists_layer split
  have inLayer : task.taskId ∈ layer := List.mem_of_mem_filter inChain
  have waits : dependency ∈ openDependencies tasks completed task.taskId := by
    rw [openDependencies, dependenciesById_of_mem consistent.unique member]
    exact List.mem_filter.mpr ⟨listed, decide_eq_true (uncompleted_of_offPath ends occurs)⟩
  have placed := ends.blockers_subset same inLayer waits
  exact mem_offPath.mpr ⟨by simpa using placed, (mem_offPath.mp occurs).2⟩

/-- **The parallel chains of a consistent plan** are a schedule of the remaining work. -/
theorem parallelSchedule_of_ends :
    ParallelSchedule tasks completed path (offPath path layers) := by
  refine ⟨?_, fun taskId member => uncompleted_of_offPath ends member, ?_, ?_⟩
  · intro task member uncompleted off
    apply List.count_eq_one_of_mem (nodup_offPath consistent ends)
    have present : task.taskId ∈ remainingIds tasks completed :=
      mem_remainingIds.mpr ⟨List.mem_map_of_mem member, uncompleted⟩
    have placed := ends.complete (acyclic_openDependencies consistent)
      (openDependencies_subset consistent) present
    exact mem_offPath.mpr ⟨by simpa using placed, off⟩
  · intro chain inChains task member inChain dependency listed together
    obtain ⟨earlier, later, split⟩ := List.append_of_mem inChains
    have before := ordered_offPath consistent ends split member inChain listed
      (List.mem_flatten.mpr ⟨chain, inChains, together⟩)
    have distinct : (offPath path layers).flatten.Nodup := nodup_offPath consistent ends
    rw [split, List.flatten_append, List.flatten_cons, List.nodup_append'] at distinct
    exact distinct.2.2 before (List.mem_append_left _ together)
  · intro earlier chain later split task member inChain dependency listed occurs
    exact ordered_offPath consistent ends split member inChain listed occurs

end Ended

end Schedule

/-- What `optimize_plan` makes of a critical path. -/
theorem optimizePlan_ok {plan : CandidatePlan} {path : List String} {effort : Nat}
    (found : criticalPath plan.tasks = .ok (path, effort)) (deadline : Option Date)
    (completed : List String) (today : Date) :
    ∃ result, optimizePlan plan deadline completed today = .ok result ∧
      result.criticalPath = path ∧
      result.parallelChains = offPath path (layers plan.tasks completed
        (remainingIds plan.tasks completed) ((remainingIds plan.tasks completed).length + 1) []) ∧
      result.deadlineFeasible = deadline.map fun deadline =>
        decide ((effort : Int) ≤ Date.daysBetween deadline today) := by
  rw [optimizePlan, found]
  refine ⟨_, rfl, rfl, rfl, ?_⟩
  cases deadline <;> rfl

/-- **The layering of `optimize_plan`.** For a valid plan it is a parallel schedule of the
remaining work, and for every plan its loop ends. -/
theorem optimizePlan_schedules :
    (∀ (plan : CandidatePlan) (requirements : List Requirement) (revisionCount : Int),
      (validatePlan plan requirements revisionCount).valid = true →
      ∀ (deadline : Option Date) (completed : List String) (today : Date),
        ∃ result, optimizePlan plan deadline completed today = .ok result ∧
          ParallelSchedule plan.tasks completed result.criticalPath result.parallelChains) ∧
    ∀ (plan : CandidatePlan) (completed : List String),
      Layering.Ends (remainingIds plan.tasks completed) (openDependencies plan.tasks completed) []
        (layers plan.tasks completed (remainingIds plan.tasks completed)
          ((remainingIds plan.tasks completed).length + 1) []) := by
  refine ⟨?_, fun plan completed => ends_layers plan.tasks completed⟩
  intro plan requirements revisionCount valid deadline completed today
  have consistent := (valid_iff.mp valid).toConsistent
  obtain ⟨result, made, path, chains, -⟩ :=
    optimizePlan_ok (criticalPath_eq consistent) deadline completed today
  refine ⟨result, made, ?_⟩
  rw [chains, path]
  exact parallelSchedule_of_ends consistent (ends_layers plan.tasks completed)

theorem optimizePlan_schedules_reversedPlan :
    (validatePlan reversedPlan [] 0).valid = true ∧
    ∃ result, optimizePlan reversedPlan none ["task_2"] DateTime.newYear.date = .ok result ∧
      ParallelSchedule reversedPlan.tasks ["task_2"] result.criticalPath
        result.parallelChains := by
  have valid : (validatePlan reversedPlan [] 0).valid = true := by decide +kernel
  exact ⟨valid, optimizePlan_schedules.1 reversedPlan [] 0 valid none ["task_2"]
    DateTime.newYear.date⟩

end ActionPlan.Agent
