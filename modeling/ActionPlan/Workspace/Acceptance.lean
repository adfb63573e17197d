import ActionPlan.Agent.WellFormed
import ActionPlan.Workspace.Store

/-! # Accepted plans in the workspace

The tasks that `create_plan` makes from a plan are checked again, by another
validator, on every write to the workspace.
-/

namespace ActionPlan.Workspace

open ActionPlan.Agent ActionPlan.Foundation ActionPlan.Models

/-- **The two validators agree.** The tasks made from a plan are accepted exactly
when `validate_plan` reports no structural error, so the tasks of an accepted
plan are recomputed and written without an error. -/
theorem validators_agree (plan : CandidatePlan) (requirements : List Requirement)
    (revisionCount : Int)
    (nonempty : ∀ task ∈ plan.tasks, task.taskId ≠ "" ∧ task.description ≠ "") :
    ∃ tasks, materializeTasks plan.tasks = .ok tasks ∧
      (TaskPlan.validateTasks tasks = .ok () ↔
        ∀ issue ∈ (validatePlan plan requirements revisionCount).errors,
          issue.code ∉ structuralCodes) ∧
      ((validatePlan plan requirements revisionCount).valid = true →
        recomputeReadiness tasks = .ok (readied tasks) ∧
        ∀ (db : Database) (tokens : Tokens) (workflow : WorkflowState),
          workflow.tasks = tasks → db.events.find? tokens.eventId = none →
            ∃ result, db.ensure tokens workflow = .ok result) := by
  obtain ⟨tasks, made⟩ := materializeTasks_total nonempty
  refine ⟨tasks, made, ?_, ?_⟩
  · rw [validateTasks_materialized made, no_structural_error_iff]
  · intro accepted
    have valid : TaskPlan.validateTasks tasks = .ok () :=
      (validateTasks_materialized made).mpr (valid_iff.mp accepted).toConsistent
    refine ⟨recomputeReadiness_of_valid valid, ?_⟩
    rintro db tokens workflow rfl fresh
    exact Database.ensure_total valid fresh

/-- A plan of two tasks, the second of which waits for the first. -/
def pairPlan : CandidatePlan where
  rationale := "Review what was drafted."
  tasks := [{ taskId := "review", description := "Review", dependencies := ["draft"] },
    { taskId := "draft", description := "Draft" }]

theorem validators_agree_pairPlan : ∃ tasks, materializeTasks pairPlan.tasks = .ok tasks ∧
    TaskPlan.validateTasks tasks = .ok () ∧ recomputeReadiness tasks = .ok (readied tasks) := by
  obtain ⟨tasks, made, agree, written⟩ := validators_agree pairPlan [] 0 (by decide)
  exact ⟨tasks, made, agree.mpr (by decide +kernel), (written (by decide +kernel)).1⟩

end ActionPlan.Workspace
