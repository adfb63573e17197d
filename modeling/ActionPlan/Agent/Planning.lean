import ActionPlan.Agent.State
import ActionPlan.Agent.Validation
import ActionPlan.Foundation.ControlFlow

/-! # Planning, validation and revision of the candidate plan

`agent/nodes/planning.py` and `agent/nodes/plan_validation.py`.
-/

namespace ActionPlan.Agent

open ActionPlan.Foundation ActionPlan.Models

/-- The requirements of the state, `state.get("requirements", [])`. -/
def AgentState.requirementList (state : AgentState) : List Requirement := state.requirements.getD []

/-- The values of `{requirement.id: requirement}`. -/
def requirementsById (requirements : List Requirement) : List Requirement :=
  (firstSeen (requirements.map Requirement.id)).filterMap fun requirementId =>
    requirements.reverse.find? fun requirement => requirement.id = requirementId

/-- `_template_task`. -/
def templateTask (requirement : Requirement) (taskId description : String) (effort : Effort)
    (dependencies requiredApprovals : List String) : CandidateTask where
  taskId
  description
  requirementId := some requirement.id
  effort
  dependencies
  requiredApprovals

/-- The text of a task for a requirement of the category. -/
def categoryText : RequirementCategory → String
  | .process => "Plan and sequence the work"
  | .policy => "Compile the governing organizational policies"
  | .approval => "Prepare the change package and obtain required approvals"
  | .evidence => "Confirm evidence and success criteria"
  | .definition => "Define the work precisely"

/-- The effort of a task for a requirement of the category. -/
def categoryEffort : RequirementCategory → Effort
  | .process | .policy | .approval => .medium
  | .evidence | .definition => .small

/-- The task that `build_candidate_plan` derives from the requirement at a
position counted from one. -/
def requirementTask (index : Nat) (requirement : Requirement) : CandidateTask :=
  templateTask requirement ("task_" ++ toString index)
    (categoryText requirement.category ++ ": " ++ requirement.text)
    (categoryEffort requirement.category) []
    (if requirement.category = .approval then ["decision_maker"] else [])

/-- `build_candidate_plan`. -/
def buildCandidatePlan (requirements : List Requirement) : CandidatePlan where
  rationale :=
    "Tasks are derived from the extracted requirements. Tasks carry no " ++
      "implicit cross-dependencies; only explicitly declared prerequisites order work."
  assumptions :=
    let evidence := (requirements.filter fun requirement =>
      requirement.category = .evidence).map Requirement.text
    if evidence ≠ [] then evidence
    else ["Missing organizational details must be gathered as evidence."]
  tasks := (requirements.zipIdx 1).map fun entry => requirementTask entry.2 entry.1

/-- One element of `_materialize_tasks`; pydantic refuses an empty id or description. -/
def materializeTask (task : CandidateTask) : Except Exn Task :=
  if nonempty : task.taskId ≠ "" ∧ task.description ≠ "" then
    .ok
      { id := task.taskId
        description := task.description
        dependencies := task.dependencies
        effort := task.effort
        requirementIds := (truthyString task.requirementId).toList
        id_nonempty := nonempty.1
        description_nonempty := nonempty.2 }
  else .error .validationError

/-- `_materialize_tasks`. -/
def materializeTasks : List CandidateTask → Except Exn (List Task)
  | [] => .ok []
  | task :: tasks => do
    let first ← materializeTask task
    let rest ← materializeTasks tasks
    return first :: rest

/-- `task.task_id.startswith("task_")`. -/
def isGeneratedId (taskId : String) : Bool := "task_".toList.isPrefixOf taskId.toList

/-- The candidate plan that `create_plan_node` keeps or builds. -/
def chooseCandidate (state : AgentState) : CandidatePlan :=
  match state.candidatePlan with
  | none => buildCandidatePlan state.requirementList
  | some candidate =>
    let covered := referencedRequirements candidate.tasks
    let missing := (requirementsById state.requirementList).filter fun requirement =>
      requirement.id ∉ covered
    if missing ≠ [] ∧ ¬ candidate.tasks.any (fun task => isGeneratedId task.taskId) then
      buildCandidatePlan state.requirementList
    else candidate

/-- `create_plan_node`. -/
def createPlanNode (state : AgentState) : Except Exn AgentState := do
  let candidate := chooseCandidate state
  let tasks ← materializeTasks candidate.tasks
  return { state with
    candidatePlan := some candidate
    tasks := some tasks
    executionMetadata := metadata "plan" "created" }

/-- `validate_plan_node`. -/
def validatePlanNode (state : AgentState) : AgentState :=
  match state.candidatePlan with
  | none =>
    { state with
      planValidation := none
      executionMetadata := metadata "validation" "skipped" }
  | some candidate =>
    { state with
      planValidation := some (validatePlan candidate state.requirementList
        (state.planRevisionCount.getD 0))
      executionMetadata := metadata "validation" "completed" }

/-- Where the conditional edge of `validate_plan` leads. -/
inductive Routing where
  | executePlan
  | revisePlan
  | planFailed
  deriving DecidableEq, Repr

/-- `should_revise`. -/
def shouldRevise (state : AgentState) : Routing :=
  match state.planValidation with
  | none => .executePlan
  | some validation =>
    if validation.valid then .executePlan
    else if state.planRevisionCount.getD 0 < maxPlanRevisions then .revisePlan
    else .planFailed

/-- The tasks that `revise_plan_node` appends, numbered from `index`. -/
def repairTasks (description : String) (requiredApprovals : List String) (index : Nat)
    (requirements : List Requirement) : List CandidateTask :=
  (requirements.zipIdx index).map fun entry =>
    { taskId := "task_" ++ toString entry.2
      description := description ++ entry.1.id
      requirementId := some entry.1.id
      effort := .small
      dependencies := []
      requiredApprovals }

/-- `revise_plan_node`. -/
def revisePlanNode (state : AgentState) : AgentState :=
  match state.candidatePlan with
  | none => { state with executionMetadata := metadata "revision" "nothing_to_revise" }
  | some candidate =>
    let requirements := requirementsById state.requirementList
    let uncovered := requirements.filter fun requirement =>
      requirement.id ∉ referencedRequirements candidate.tasks
    let missingApprovals := requirements.filter fun requirement =>
      requirement.category = .approval ∧ hasApprovalStep candidate.tasks requirement = false
    let nextIndex := (firstSeen (candidate.tasks.map CandidateTask.taskId)).length + 1
    let tasks := candidate.tasks ++
      repairTasks "Complete the work required by " [] nextIndex uncovered ++
      repairTasks "Obtain approval for " ["decision_maker"] (nextIndex + uncovered.length)
        missingApprovals
    let revision := state.planRevisionCount.getD 0 + 1
    { state with
      candidatePlan := some { candidate with tasks }
      planRevisionCount := some revision
      executionMetadata := some (AList.singleton "revision" (.int revision)) }

/-- `plan_failed_node`. -/
def planFailedNode (state : AgentState) : AgentState :=
  let summary := (state.planValidation.map PlanValidationResult.summary).getD
    "Plan validation failed."
  { state with
    executionMetadata := some ((((∅ : Dict Value).insert "failure_reason" (.str summary)).insert
      "validation" (.str "failed")).insert "plan_failed" (.bool true)) }

/-- Decimal numerals are injective. -/
theorem toString_nat_injective : Function.Injective (toString : Nat → String) := by
  intro first second same
  have digits := congrArg (fun text => Nat.ofDigitChars 10 text.toList 0) same
  simpa [Nat.toString_eq_ofList_toDigits, Nat.ofDigitChars_toDigits] using digits

section BuiltPlan

variable (requirements : List Requirement)

theorem tasks_buildCandidatePlan : (buildCandidatePlan requirements).tasks =
    (requirements.zipIdx 1).map fun entry => requirementTask entry.2 entry.1 := rfl

theorem mem_buildCandidatePlan {task : CandidateTask} :
    task ∈ (buildCandidatePlan requirements).tasks ↔
      ∃ entry ∈ requirements.zipIdx 1, requirementTask entry.2 entry.1 = task :=
  List.mem_map

/-- Every requirement has its task in the built plan. -/
theorem exists_task_of_mem {requirement : Requirement} (member : requirement ∈ requirements) :
    ∃ index, requirementTask index requirement ∈ (buildCandidatePlan requirements).tasks := by
  obtain ⟨position, bound, rfl⟩ := List.mem_iff_getElem.mp member
  exact ⟨position + 1, (mem_buildCandidatePlan requirements).mpr
    ⟨(requirements[position], position + 1), List.mk_mem_zipIdx_iff_le_and_getElem?_sub.mpr
      ⟨by omega, by simp [bound]⟩, rfl⟩⟩

theorem nodup_builtIds :
    ((buildCandidatePlan requirements).tasks.map CandidateTask.taskId).Nodup := by
  have ids : (buildCandidatePlan requirements).tasks.map CandidateTask.taskId =
      (List.range' 1 requirements.length).map fun index => "task_" ++ toString index := by
    rw [tasks_buildCandidatePlan, List.map_map, ← List.zipIdx_map_snd 1 requirements, List.map_map]
    exact List.map_congr_left fun entry _ => rfl
  have injective : Function.Injective fun index : Nat => "task_" ++ toString index := by
    intro first second same
    exact toString_nat_injective ((String.append_right_inj "task_").mp same)
  rw [ids]
  exact List.Nodup.map injective List.nodup_range'

theorem independent_of_built {task : CandidateTask}
    (member : task ∈ (buildCandidatePlan requirements).tasks) : task.dependencies = [] := by
  obtain ⟨entry, -, rfl⟩ := (mem_buildCandidatePlan requirements).mp member
  rfl

theorem referenced_of_mem {requirement : Requirement} (member : requirement ∈ requirements) :
    requirement.id ∈ referencedRequirements (buildCandidatePlan requirements).tasks := by
  obtain ⟨index, task⟩ := exists_task_of_mem requirements member
  exact List.mem_filterMap.mpr ⟨_, task, truthyString_some requirement.id_nonempty⟩

/-- **The built plan is valid.** Its ids are distinct, it has no dependencies,
and it holds a task, with an approval step where one is due, for every requirement. -/
theorem validatePlan_built (revisionCount : Int) :
    (validatePlan (buildCandidatePlan requirements) requirements revisionCount).valid = true := by
  have independent : ∀ task ∈ (buildCandidatePlan requirements).tasks, task.dependencies = [] :=
    fun _ => independent_of_built requirements
  have distinct : duplicateIssues (buildCandidatePlan requirements).tasks = [] := by
    have same := (nodup_builtIds requirements).dedup
    rw [duplicateIssues, same, List.length_map, if_neg (not_not_intro rfl)]
  have acyclic : cycleIssues (buildCandidatePlan requirements).tasks = [] := by
    rw [cycleIssues, cycleIds_eq_nil independent, List.map_nil]
  have covered :
      uncoveredRequirements (buildCandidatePlan requirements).tasks requirements = [] := by
    rw [uncoveredRequirements, List.filter_eq_nil_iff]
    intro requirement member
    simpa using referenced_of_mem requirements member
  have approved :
      unapprovedRequirements (buildCandidatePlan requirements).tasks requirements = [] := by
    rw [unapprovedRequirements, List.filter_eq_nil_iff]
    intro requirement member
    obtain ⟨index, task⟩ := exists_task_of_mem requirements member
    simp only [decide_eq_true_eq, not_and]
    intro approval missing
    rw [hasApprovalStep, List.any_eq_false] at missing
    refine missing _ task ?_
    simp [requirementTask, templateTask, approval]
  simp only [validatePlan, distinct, unknownDependencyIssues_eq_nil independent, acyclic, covered,
    approved, List.map_nil, List.append_nil, List.isEmpty_nil]

/-- Every requirement has a value of the same id among the values by id. -/
theorem exists_mem_requirementsById {requirements : List Requirement} {requirement : Requirement}
    (member : requirement ∈ requirements) :
    ∃ kept ∈ requirementsById requirements, kept.id = requirement.id := by
  cases found : requirements.reverse.find? fun other => other.id = requirement.id with
  | none =>
      have absent := List.find?_eq_none.mp found requirement (List.mem_reverse.mpr member)
      simp at absent
  | some kept =>
      refine ⟨kept, List.mem_filterMap.mpr ⟨requirement.id, ?_, found⟩, ?_⟩
      · exact mem_firstSeen.mpr (List.mem_map_of_mem member)
      · simpa using List.find?_some found

/-- A built plan is kept when the plan is created again for its requirements. -/
theorem chooseCandidate_built {state : AgentState}
    (built : ∀ candidate ∈ state.candidatePlan,
      candidate = buildCandidatePlan state.requirementList ∨ candidate = buildCandidatePlan []) :
    chooseCandidate state = buildCandidatePlan state.requirementList := by
  unfold chooseCandidate
  split
  · rfl
  · rename_i candidate present
    dsimp only
    split
    · rfl
    · rename_i kept
      rcases built candidate present with whole | nothing
      · exact whole
      · -- nothing was planned and nothing may be uncovered, so there is no requirement
        subst nothing
        cases requirements : state.requirementList with
        | nil => rfl
        | cons requirement others =>
            have first : requirement ∈ state.requirementList := by rw [requirements]; exact .head _
            obtain ⟨value, member, -⟩ := exists_mem_requirementsById first
            refine (kept ⟨fun covered => ?_, Bool.false_ne_true⟩).elim
            have uncovered := List.filter_eq_nil_iff.mp covered value member
            exact uncovered (decide_eq_true List.not_mem_nil)

end BuiltPlan

section Materialize

/-- What `materializeTasks` copies from a candidate task. -/
def materialized (candidate : CandidateTask) :
    String × List String × TaskStatus × List String :=
  (candidate.taskId, candidate.dependencies, .pending,
    (truthyString candidate.requirementId).toList)

/-- The data of a task that `materializeTasks` copies or sets. -/
def materialData (task : Task) : String × List String × TaskStatus × List String :=
  (task.id, task.dependencies, task.status, task.requirementIds)

theorem materializeTasks_ok {candidates : List CandidateTask} {tasks : List Task}
    (success : materializeTasks candidates = .ok tasks) :
    tasks.map materialData = candidates.map materialized := by
  induction candidates generalizing tasks with
  | nil =>
      cases success
      rfl
  | cons candidate candidates ih =>
      obtain ⟨first, made, rest⟩ := ok_of_bind success
      obtain ⟨others, othersMade, result⟩ := ok_of_bind rest
      cases result
      rw [List.map_cons, List.map_cons, ih othersMade]
      unfold materializeTask at made
      split at made
      · cases made
        rfl
      · cases made

/-- Tasks are pending when they are made. -/
theorem pending_of_materialized {candidates : List CandidateTask} {tasks : List Task}
    (made : materializeTasks candidates = .ok tasks) {task : Task} (member : task ∈ tasks) :
    task.status = .pending := by
  have copied : materialData task ∈ candidates.map materialized :=
    materializeTasks_ok made ▸ List.mem_map_of_mem member
  obtain ⟨candidate, -, same⟩ := List.mem_map.mp copied
  exact (congrArg (fun data => data.2.2.1) same).symm

theorem materializeTasks_total {candidates : List CandidateTask}
    (nonempty : ∀ task ∈ candidates, task.taskId ≠ "" ∧ task.description ≠ "") :
    ∃ tasks, materializeTasks candidates = .ok tasks := by
  induction candidates with
  | nil => exact ⟨[], rfl⟩
  | cons candidate candidates ih =>
      obtain ⟨tasks, made⟩ := ih fun task member => nonempty task (List.mem_cons_of_mem _ member)
      have first := nonempty candidate List.mem_cons_self
      exact ⟨_, by rw [materializeTasks, materializeTask, dif_pos first, made]; rfl⟩

/-- Only tasks with an id and a description are made into executable ones. -/
theorem materializeTasks_ok_iff {candidates : List CandidateTask} :
    (∃ tasks, materializeTasks candidates = .ok tasks) ↔
      ∀ task ∈ candidates, task.taskId ≠ "" ∧ task.description ≠ "" := by
  refine ⟨?_, materializeTasks_total⟩
  rintro ⟨tasks, made⟩
  induction candidates generalizing tasks with
  | nil => exact fun _ absent => (List.not_mem_nil absent).elim
  | cons candidate candidates ih =>
      obtain ⟨first, firstMade, rest⟩ := ok_of_bind made
      obtain ⟨others, othersMade, -⟩ := ok_of_bind rest
      unfold materializeTask at firstMade
      split at firstMade
      · rename_i nonempty
        exact List.forall_mem_cons.mpr ⟨nonempty, ih others othersMade⟩
      · cases firstMade

theorem materializeTasks_built (requirements : List Requirement) :
    ∃ tasks, materializeTasks (buildCandidatePlan requirements).tasks = .ok tasks := by
  apply materializeTasks_total
  intro task member
  obtain ⟨entry, -, rfl⟩ := (mem_buildCandidatePlan requirements).mp member
  simp [requirementTask, templateTask]

variable {requirements : List Requirement} {tasks : List Task}

/-- The tasks of a built plan have distinct ids. -/
theorem nodup_of_built
    (made : materializeTasks (buildCandidatePlan requirements).tasks = .ok tasks) :
    (tasks.map Task.id).Nodup := by
  have ids := congrArg (List.map Prod.fst) (materializeTasks_ok made)
  rw [List.map_map, List.map_map] at ids
  exact ids ▸ nodup_builtIds requirements

/-- The tasks of a built plan wait for nothing and are not done. -/
theorem pending_of_built
    (made : materializeTasks (buildCandidatePlan requirements).tasks = .ok tasks) {task : Task}
    (member : task ∈ tasks) :
    task.dependencies = [] ∧ task.status = .pending := by
  have copied : materialData task ∈ (buildCandidatePlan requirements).tasks.map materialized :=
    materializeTasks_ok made ▸ List.mem_map_of_mem member
  obtain ⟨candidate, source, same⟩ := List.mem_map.mp copied
  have dependencies : candidate.dependencies = task.dependencies :=
    congrArg (fun data => data.2.1) same
  exact ⟨dependencies ▸ independent_of_built requirements source,
    pending_of_materialized made member⟩

end Materialize

end ActionPlan.Agent
