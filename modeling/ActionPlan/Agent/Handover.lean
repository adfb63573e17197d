import ActionPlan.Agent.PlanFailure
import ActionPlan.Agent.WellFormed

/-! # From requirements to executable tasks

`build_candidate_plan` and `validate_plan` agree on what a plan needs, so a plan that is
built from its requirements passes without a complaint. `_materialize_tasks` then copies
all of a candidate task but its required approvals.
-/

namespace ActionPlan.Agent

open ActionPlan.Foundation ActionPlan.Models

section Built

/-- A built plan has neither errors nor warnings. -/
theorem validatePlan_built_clean (requirements : List Requirement) (revisionCount : Int) :
    (validatePlan (buildCandidatePlan requirements) requirements revisionCount).errors = [] ∧
      (validatePlan (buildCandidatePlan requirements) requirements
        revisionCount).warnings = [] := by
  have ordered : sequencingViolations (buildCandidatePlan requirements).tasks = [] := by
    apply mem_sequencingViolations_iff.mpr
    intro task member dependency listed
    rw [independent_of_built requirements member] at listed
    cases listed
  have valid := validatePlan_built requirements revisionCount
  exact ⟨List.isEmpty_iff.mp valid, by simp [validatePlan, ordered]⟩

/-- The run builds its plan anew: it executes a new workflow or refreshes one. -/
def EntryPoint.BuildsPlan : EntryPoint → Prop
  | execution _ _ _ _ | refresh _ => True
  | continuation _ _ => False

theorem EntryPoint.builtInitially {entry : EntryPoint} {initial : AgentState}
    (builds : entry.BuildsPlan) (begun : entry.initial = .ok initial) : BuiltInitially initial := by
  cases entry with
  | execution workflowId workerId claimedAt payload =>
      cases begun
      exact builtInitially_of_none rfl
  | refresh workflow =>
      obtain ⟨payload, -, rfl⟩ := ok_of_map begun
      exact builtInitially_of_none rfl
  | continuation workflow completedTaskIds => exact builds.elim

/-- **Built plans pass their validation**, without errors and warnings, so a run that builds
its plan enters neither the revision nor the failure of plans. -/
theorem built_never_revised :
    (∀ (requirements : List Requirement) (revisionCount : Int),
      (validatePlan (buildCandidatePlan requirements) requirements revisionCount).errors = [] ∧
      (validatePlan (buildCandidatePlan requirements) requirements revisionCount).warnings = []) ∧
    ∀ (services : Services) (entry : EntryPoint) (initial : AgentState), entry.BuildsPlan →
      entry.initial = .ok initial → ∀ state, (.revisePlan, state) ∉ visited services initial ∧
        (.planFailed, state) ∉ visited services initial := by
  refine ⟨validatePlan_built_clean, fun services entry initial builds begun state => ?_⟩
  have start : outline initial services .initializeNode initial := rfl
  have outlined : (buildGraph services).Annotated (outline initial services) :=
    outline_annotated (EntryPoint.builtInitially builds begun)
  exact ⟨fun entered => outlined.entries start entered,
    fun entered => outlined.entries start entered⟩

theorem built_never_revised_execution :
    (EntryPoint.execution "workflow" "worker" .newYear sampleInput).BuildsPlan ∧
    ∀ state,
      (.revisePlan, state) ∉
          visited taskServices (executionInput "workflow" "worker" sampleInput) ∧
        (.planFailed, state) ∉
          visited taskServices (executionInput "workflow" "worker" sampleInput) :=
  ⟨trivial, built_never_revised.2 taskServices
    (.execution "workflow" "worker" .newYear sampleInput) _ trivial rfl⟩

end Built

/-- What the executable task keeps of a candidate task. -/
structure Translated (candidate : CandidateTask) (task : Task) : Prop where
  id : task.id = candidate.taskId
  dependencies : task.dependencies = candidate.dependencies
  effort : task.effort = candidate.effort
  requirement : task.requirementIds = (truthyString candidate.requirementId).toList

/-- The executable tasks keep what was validated: they are the tasks of the plan, and there
is one with required approvals for each approval requirement. -/
structure KeepsValidated (plan : CandidatePlan) (requirements : List Requirement)
    (tasks : List Task) : Prop where
  translated : List.Forall₂ Translated plan.tasks tasks
  approved : ∀ requirement ∈ requirements, requirement.category = .approval →
    ∃ task ∈ tasks, requirement.id ∈ task.requirementIds ∧ task.requiredApprovals ≠ []

section Handover

theorem translated_materializeTasks {candidates : List CandidateTask} {tasks : List Task}
    (made : materializeTasks candidates = .ok tasks) :
    List.Forall₂ Translated candidates tasks ∧ ∀ task ∈ tasks, task.requiredApprovals = [] := by
  induction candidates generalizing tasks with
  | nil =>
      cases made
      exact ⟨.nil, fun _ absent => (List.not_mem_nil absent).elim⟩
  | cons candidate candidates ih =>
      obtain ⟨first, firstMade, rest⟩ := ok_of_bind made
      obtain ⟨others, othersMade, done⟩ := ok_of_bind rest
      cases done
      obtain ⟨translated, unapproved⟩ := ih othersMade
      unfold materializeTask at firstMade
      split at firstMade
      · cases firstMade
        exact ⟨.cons ⟨rfl, rfl, rfl, rfl⟩ translated, List.forall_mem_cons.mpr ⟨rfl, unapproved⟩⟩
      · cases firstMade

/-- **When the executable tasks keep what was validated**: they can be made, and no
requirement asks for an approval. -/
theorem keepsValidated_iff (plan : CandidatePlan) (requirements : List Requirement) :
    (∃ tasks, materializeTasks plan.tasks = .ok tasks ∧ KeepsValidated plan requirements tasks) ↔
      (∀ task ∈ plan.tasks, task.taskId ≠ "" ∧ task.description ≠ "") ∧
      ∀ requirement ∈ requirements, requirement.category ≠ .approval := by
  constructor
  · rintro ⟨tasks, made, keeps⟩
    refine ⟨materializeTasks_ok_iff.mp ⟨tasks, made⟩, fun requirement member approval => ?_⟩
    obtain ⟨task, present, -, approvals⟩ := keeps.approved requirement member approval
    exact approvals ((translated_materializeTasks made).2 task present)
  · rintro ⟨nonempty, none⟩
    obtain ⟨tasks, made⟩ := materializeTasks_ok_iff.mpr nonempty
    refine ⟨tasks, made, (translated_materializeTasks made).1, ?_⟩
    exact fun requirement member approval => absurd approval (none requirement member)

/-- A requirement that asks for an approval. -/
def approvalRequirement : Requirement := { sampleRequirement with category := .approval }

/-- The plan that is built for an approval requirement is valid, but the task that is
executed for it requires no approval. -/
theorem not_keepsValidated_built :
    (validatePlan (buildCandidatePlan [approvalRequirement]) [approvalRequirement] 0).valid =
      true ∧
    ∃ tasks, materializeTasks (buildCandidatePlan [approvalRequirement]).tasks = .ok tasks ∧
      ¬ KeepsValidated (buildCandidatePlan [approvalRequirement]) [approvalRequirement] tasks := by
  obtain ⟨tasks, made⟩ := materializeTasks_built [approvalRequirement]
  refine ⟨validatePlan_built _ 0, tasks, made, fun keeps => ?_⟩
  obtain ⟨task, present, -, approvals⟩ := keeps.approved approvalRequirement (.head _) rfl
  exact approvals ((translated_materializeTasks made).2 task present)

end Handover

end ActionPlan.Agent
