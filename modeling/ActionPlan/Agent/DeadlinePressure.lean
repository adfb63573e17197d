import Mathlib.Order.Bounds.Basic
import ActionPlan.Agent.ParallelChains

/-! # The deadline against the remaining work

`optimize_plan` is given the completed ids, but computes the critical path and compares
its effort with the deadline as if nothing had been done. The result follows the remaining
work as long as the path it finds in the whole plan has none of the completed tasks.
-/

namespace ActionPlan.Agent

open ActionPlan.Foundation ActionPlan.Foundation.DepthFirst
  ActionPlan.Foundation.HeaviestChain ActionPlan.Models

/-- The tasks that are not completed. -/
def remainingTasks (tasks : List CandidateTask) (completed : List String) : List CandidateTask :=
  tasks.filter fun task => task.taskId ∉ completed

/-- The summed efforts of the chains of dependencies among the tasks. -/
def chainEfforts (tasks : List CandidateTask) : Set Nat :=
  { effort | ∃ chain, DependencyChain tasks chain ∧ chainEffort chain = effort }

/-- The result says whether the longest chain of remaining tasks fits into the days, and
its critical path has remaining tasks only. -/
structure ReflectsRemaining (tasks : List CandidateTask) (completed : List String) (days : Int)
    (result : OptimizationResult) : Prop where
  feasible : ∃ effort, IsGreatest (chainEfforts (remainingTasks tasks completed)) effort ∧
    (result.deadlineFeasible = some true ↔ (effort : Int) ≤ days)
  remaining : ∀ taskId ∈ result.criticalPath, taskId ∉ completed

/-- The task is on the first heaviest chain of the whole plan: the chain ends at the first
task at which one of largest effort ends, and goes back from each task to the first of its
dependencies at which the heaviest of their chains ends. -/
def OnFirstHeaviest (tasks : List CandidateTask) (taskId : String) : Prop :=
  OnFirst (dependenciesById tasks) (effortById tasks) (tasks.map CandidateTask.taskId) taskId

section Remaining

variable {tasks chain : List CandidateTask} {completed : List String}

theorem dependencyChain_remainingTasks :
    DependencyChain (remainingTasks tasks completed) chain ↔
      DependencyChain tasks chain ∧ ∀ task ∈ chain, task.taskId ∉ completed := by
  constructor
  · intro chained
    refine ⟨⟨fun task member => List.mem_of_mem_filter (chained.planned task member),
      chained.linked⟩, fun task member => ?_⟩
    exact of_decide_eq_true (List.mem_filter.mp (chained.planned task member)).2
  · rintro ⟨chained, remaining⟩
    refine ⟨fun task member => ?_, chained.linked⟩
    exact List.mem_filter.mpr ⟨chained.planned task member,
      decide_eq_true (remaining task member)⟩

/-- **When the result reflects the remaining work**: no completed task is on the first
heaviest chain of the whole plan. -/
theorem reflectsRemaining_iff {plan : CandidatePlan} {requirements : List Requirement}
    {revisionCount : Int} (valid : (validatePlan plan requirements revisionCount).valid = true)
    (deadline : Date) (completed : List String) (today : Date) :
    ∃ result, optimizePlan plan (some deadline) completed today = .ok result ∧
      (ReflectsRemaining plan.tasks completed (Date.daysBetween deadline today) result ↔
        ∀ taskId ∈ completed, ¬ OnFirstHeaviest plan.tasks taskId) := by
  have consistent := (valid_iff.mp valid).toConsistent
  have sufficient := sufficient_of_consistent consistent
  obtain ⟨result, made, path, -, feasible⟩ :=
    optimizePlan_ok (criticalPath_eq consistent) (some deadline) completed today
  obtain ⟨chain, chained, named, longest⟩ := exists_longest consistent
  have weighs := (chained.toChain consistent.unique).2
  rw [named] at weighs
  rw [weighs] at feasible
  refine ⟨result, made, ?_⟩
  constructor
  · intro reflects taskId done on
    have member := sufficient.mem_pick_iff_onFirst.mpr on
    exact reflects.remaining taskId (path ▸ member) done
  · intro free
    have remaining : ∀ taskId ∈ result.criticalPath, taskId ∉ completed := by
      intro taskId member done
      rw [path] at member
      exact free taskId done (sufficient.mem_pick_iff_onFirst.mp member)
    refine ⟨⟨chainEffort chain, ⟨?_, ?_⟩, by simp [feasible]⟩, remaining⟩
    · refine ⟨chain, dependencyChain_remainingTasks.mpr ⟨chained, fun task member => ?_⟩, rfl⟩
      apply remaining
      rw [path, ← named]
      exact List.mem_map_of_mem member
    · rintro _ ⟨other, otherChained, rfl⟩
      exact longest other (dependencyChain_remainingTasks.mp otherChained).1

end Remaining

section Counterexample

/-- With the dependency completed, no chain of the remaining tasks takes more than a unit. -/
theorem chainEfforts_remaining_reversedPlan {effort : Nat}
    (member : effort ∈ chainEfforts (remainingTasks reversedPlan.tasks ["task_2"])) :
    effort ≤ 1 := by
  obtain ⟨chain, ⟨planned, linked⟩, rfl⟩ := member
  have only : ∀ task ∈ chain, task =
      { taskId := "task_1", description := "description", dependencies := ["task_2"] } := by
    intro task present
    simpa [remainingTasks, reversedPlan] using planned task present
  match chain with
  | [] => exact Nat.zero_le _
  | [task] =>
      rw [only task (by simp)]
      decide
  | first :: second :: _ =>
      have listed := (List.isChain_cons_cons.mp linked).1
      rw [only first (by simp), only second (by simp)] at listed
      simp at listed

/-- One unit of work is left, and two days: the deadline is not at risk, but the completed
task is counted in. -/
theorem not_reflectsRemaining_reversedPlan :
    ∃ result, optimizePlan reversedPlan (some ⟨2025, 1, 3⟩) ["task_2"] ⟨2025, 1, 1⟩ = .ok result ∧
      result.deadlineFeasible = some false ∧ "task_2" ∈ result.criticalPath ∧
      ¬ ReflectsRemaining reversedPlan.tasks ["task_2"]
        (Date.daysBetween ⟨2025, 1, 3⟩ ⟨2025, 1, 1⟩) result := by
  have found : criticalPath reversedPlan.tasks = .ok (["task_2", "task_1"], 4) := by decide +kernel
  have days : Date.daysBetween ⟨2025, 1, 3⟩ ⟨2025, 1, 1⟩ = 2 := by decide
  obtain ⟨result, made, path, -, feasible⟩ :=
    optimizePlan_ok found (some ⟨2025, 1, 3⟩) ["task_2"] ⟨2025, 1, 1⟩
  have infeasible : result.deadlineFeasible = some false := by
    rw [feasible, Option.map_some, days]
    decide
  refine ⟨result, made, infeasible, by simp [path], fun reflects => ?_⟩
  obtain ⟨effort, greatest, same⟩ := reflects.feasible
  have small := chainEfforts_remaining_reversedPlan greatest.1
  rw [infeasible, days] at same
  have large : ¬ (effort : Int) ≤ 2 := fun fits => by cases same.mpr fits
  omega

theorem reflectsRemaining_iff_reversedPlan :
    (validatePlan reversedPlan [] 0).valid = true ∧
    ∃ result, optimizePlan reversedPlan (some ⟨2025, 1, 3⟩) ["task_2"] ⟨2025, 1, 1⟩ = .ok result ∧
      (ReflectsRemaining reversedPlan.tasks ["task_2"]
          (Date.daysBetween ⟨2025, 1, 3⟩ ⟨2025, 1, 1⟩) result ↔
        ∀ taskId ∈ ["task_2"], ¬ OnFirstHeaviest reversedPlan.tasks taskId) := by
  have valid : (validatePlan reversedPlan [] 0).valid = true := by decide +kernel
  exact ⟨valid, reflectsRemaining_iff valid _ _ _⟩

end Counterexample

end ActionPlan.Agent
