import ActionPlan.Agent.Service
import ActionPlan.Agent.WellFormed

/-! # What a revision repairs

`revise_plan` adds a task for every requirement that no task covers and one for every
approval requirement without an approval step. It numbers them on from the count of the
tasks, so the plan is repaired unless a task of the plan has one of these numbers already.
-/

namespace ActionPlan.Agent

open ActionPlan.Foundation ActionPlan.Foundation.DepthFirst ActionPlan.Models

section Lists

/-- Nothing is left out of texts without repetitions. -/
theorem firstSeen_of_nodup {texts : List String} (distinct : texts.Nodup) :
    firstSeen texts = texts := by
  have collected : ∀ seen : List String, (seen ++ texts).Nodup →
      texts.foldl (fun seen text => if text ∈ seen then seen else seen ++ [text]) seen =
        seen ++ texts := by
    induction texts with
    | nil => simp
    | cons first texts ih =>
        intro seen unseen
        have new : first ∉ seen := fun old =>
          (List.nodup_append'.mp unseen).2.2 old List.mem_cons_self
        rw [List.foldl_cons, if_neg new, ih (List.nodup_cons.mp distinct).2]
        · simp
        · simpa using unseen
  exact collected [] distinct

/-- The values by id of requirements with distinct ids are the requirements. -/
theorem requirementsById_of_nodup {requirements : List Requirement}
    (distinct : (requirements.map Requirement.id).Nodup) :
    requirementsById requirements = requirements := by
  have own : ∀ requirement ∈ requirements,
      requirements.reverse.find? (fun other => other.id = requirement.id) = some requirement := by
    intro requirement member
    exact find?_reverse_key distinct member
  rw [requirementsById, firstSeen_of_nodup distinct, List.filterMap_map]
  exact (List.filterMap_congr own).trans List.filterMap_some

end Lists

/-- The tasks that a revision of the tasks adds. -/
def addedTasks (tasks : List CandidateTask) (requirements : List Requirement) :
    List CandidateTask :=
  repairTasks "Complete the work required by " [] (tasks.length + 1)
      (uncoveredRequirements tasks requirements) ++
    repairTasks "Obtain approval for " ["decision_maker"]
      (tasks.length + 1 + (uncoveredRequirements tasks requirements).length)
      (unapprovedRequirements tasks requirements)

/-- The ids that a revision generates: the numbers after the count of the tasks. -/
def generatedIds (tasks : List CandidateTask) (requirements : List Requirement) : List String :=
  (List.range' (tasks.length + 1) ((uncoveredRequirements tasks requirements).length +
    (unapprovedRequirements tasks requirements).length)).map fun index =>
      "task_" ++ toString index

section Added

variable {tasks : List CandidateTask} {requirements : List Requirement}

/-- Repair tasks are numbered from the index on. -/
theorem ids_repairTasks (description : String) (requiredApprovals : List String) (index : Nat)
    (requirements : List Requirement) :
    (repairTasks description requiredApprovals index requirements).map CandidateTask.taskId =
      (List.range' index requirements.length).map fun index => "task_" ++ toString index := by
  rw [repairTasks, List.map_map, ← List.zipIdx_map_snd index requirements, List.map_map]
  exact List.map_congr_left fun entry _ => rfl

theorem ids_addedTasks :
    (addedTasks tasks requirements).map CandidateTask.taskId = generatedIds tasks requirements := by
  rw [addedTasks, generatedIds, List.map_append, ids_repairTasks, ids_repairTasks,
    ← List.map_append, List.range'_append_1]

/-- The generated ids are distinct. -/
theorem nodup_generatedIds : (generatedIds tasks requirements).Nodup := by
  apply List.Nodup.map _ List.nodup_range'
  intro first second same
  exact toString_nat_injective ((String.append_right_inj "task_").mp same)

/-- What a task added for a requirement is like. -/
structure RepairTask (requirements : List Requirement) (task : CandidateTask) : Prop where
  independent : task.dependencies = []
  nonempty : task.taskId ≠ "" ∧ task.description ≠ ""
  requirement : ∃ requirement ∈ requirements, task.requirementId = some requirement.id

/-- Each of the added tasks serves one of the requirements. -/
theorem repairTask_of_mem {description : String} (described : description ≠ "")
    {requiredApprovals : List String} {index : Nat} {requirements : List Requirement}
    {task : CandidateTask}
    (member : task ∈ repairTasks description requiredApprovals index requirements) :
    RepairTask requirements task := by
  obtain ⟨⟨requirement, position⟩, entry, rfl⟩ := List.mem_map.mp member
  refine ⟨rfl, ⟨?_, ?_⟩, requirement, List.fst_mem_of_mem_zipIdx entry, rfl⟩
  · simp
  · simp [described]

/-- Each requirement receives a task. -/
theorem exists_repairTask {description : String} {requiredApprovals : List String} {index : Nat}
    {requirements : List Requirement} {requirement : Requirement}
    (member : requirement ∈ requirements) :
    ∃ task ∈ repairTasks description requiredApprovals index requirements,
      task.requirementId = some requirement.id ∧ task.requiredApprovals = requiredApprovals := by
  rw [← List.zipIdx_map_fst index requirements] at member
  obtain ⟨entry, present, rfl⟩ := List.mem_map.mp member
  exact ⟨_, List.mem_map_of_mem present, rfl, rfl⟩

theorem repairTask_of_added {task : CandidateTask} (member : task ∈ addedTasks tasks requirements) :
    RepairTask requirements task := by
  rcases List.mem_append.mp member with covering | approving
  · have repair := repairTask_of_mem (by decide) covering
    obtain ⟨requirement, uncovered, named⟩ := repair.requirement
    exact { repair with requirement := ⟨requirement, List.mem_of_mem_filter uncovered, named⟩ }
  · have repair := repairTask_of_mem (by decide) approving
    obtain ⟨requirement, unapproved, named⟩ := repair.requirement
    exact { repair with requirement := ⟨requirement, List.mem_of_mem_filter unapproved, named⟩ }

/-- An uncovered requirement is covered by an added task. -/
theorem covered_of_added {requirement : Requirement}
    (uncovered : requirement ∈ uncoveredRequirements tasks requirements) :
    ∃ task ∈ addedTasks tasks requirements, task.requirementId = some requirement.id := by
  obtain ⟨task, member, named, -⟩ := exists_repairTask uncovered
  exact ⟨task, List.mem_append_left _ member, named⟩

/-- An unapproved requirement is approved in an added task. -/
theorem approved_of_added {requirement : Requirement}
    (unapproved : requirement ∈ unapprovedRequirements tasks requirements) :
    ∃ task ∈ addedTasks tasks requirements,
      task.requirementId = some requirement.id ∧ task.requiredApprovals ≠ [] := by
  obtain ⟨task, member, named, approvals⟩ := exists_repairTask unapproved
  refine ⟨task, List.mem_append_right _ member, named, ?_⟩
  rw [approvals]
  exact List.cons_ne_nil _ _

/-- Every requirement is covered after the revision. -/
theorem covered_revised {requirement : Requirement} (member : requirement ∈ requirements) :
    ∃ task ∈ tasks ++ addedTasks tasks requirements,
      task.requirementId = some requirement.id := by
  by_cases uncovered : requirement ∈ uncoveredRequirements tasks requirements
  · obtain ⟨task, added, named⟩ := covered_of_added uncovered
    exact ⟨task, List.mem_append_right _ added, named⟩
  · have referenced : requirement.id ∈ referencedRequirements tasks := by
      by_contra absent
      exact uncovered (List.mem_filter.mpr ⟨member, decide_eq_true absent⟩)
    obtain ⟨task, old, named⟩ := mem_referencedRequirements.mp referenced
    exact ⟨task, List.mem_append_left _ old, named⟩

/-- Every approval requirement has an approval step after the revision. -/
theorem approved_revised {requirement : Requirement} (member : requirement ∈ requirements)
    (approval : requirement.category = .approval) :
    ∃ task ∈ tasks ++ addedTasks tasks requirements,
      task.requirementId = some requirement.id ∧ task.requiredApprovals ≠ [] := by
  by_cases unapproved : requirement ∈ unapprovedRequirements tasks requirements
  · obtain ⟨task, added, named⟩ := approved_of_added unapproved
    exact ⟨task, List.mem_append_right _ added, named⟩
  · have approved : hasApprovalStep tasks requirement = true := by
      by_contra absent
      exact unapproved (List.mem_filter.mpr ⟨member, by simp [approval, absent]⟩)
    obtain ⟨task, old, named⟩ := hasApprovalStep_iff.mp approved
    exact ⟨task, List.mem_append_left _ old, named⟩

/-- The tasks of a plan and those that a revision adds to them depend on the former only. -/
theorem dependsOn_revised {taskId dependency : String} :
    DependsOn (tasks ++ addedTasks tasks requirements) taskId dependency ↔
      DependsOn tasks taskId dependency := by
  constructor
  · rintro ⟨task, member, named, listed⟩
    rcases List.mem_append.mp member with old | added
    · exact ⟨task, old, named, listed⟩
    · rw [(repairTask_of_added added).independent] at listed
      cases listed
  · rintro ⟨task, old, named, listed⟩
    exact ⟨task, List.mem_append_left _ old, named, listed⟩

/-- **A revised plan is well formed** just when none of the generated ids is taken. -/
theorem wellFormed_revised_iff (consistent : Consistent tasks) :
    WellFormed (tasks ++ addedTasks tasks requirements) requirements ↔
      ∀ taskId ∈ generatedIds tasks requirements, taskId ∉ tasks.map CandidateTask.taskId := by
  constructor
  · intro wellFormed taskId generated taken
    have unique := wellFormed.unique
    rw [List.map_append, ids_addedTasks, List.nodup_append'] at unique
    exact unique.2.2 taken generated
  · intro free
    refine { unique := ?_, known := ?_, acyclic := ?_, covered := ?_, approved := ?_ }
    · rw [List.map_append, ids_addedTasks, List.nodup_append']
      exact ⟨consistent.unique, nodup_generatedIds, fun taskId taken generated =>
        free taskId generated taken⟩
    · intro task member dependency listed
      obtain ⟨source, old, -, sourceListed⟩ :=
        dependsOn_revised.mp ⟨task, member, rfl, listed⟩
      obtain ⟨other, present, named⟩ := consistent.known source old dependency sourceListed
      exact ⟨other, List.mem_append_left _ present, named⟩
    · exact (acyclic_congr fun _ _ => dependsOn_revised).mpr consistent.acyclic
    · exact fun _ => covered_revised
    · exact fun _ => approved_revised

end Added

/-- The revised plan passes the validation: the tasks added to the plan have new ids and
repair what the validation finds missing. -/
structure Repairs (plan : CandidatePlan) (requirements : List Requirement)
    (revised : CandidatePlan) : Prop where
  errors : ∀ revisionCount, (validatePlan revised requirements revisionCount).errors = []
  added : ∃ added, revised.tasks = plan.tasks ++ added ∧
    (∀ task ∈ added, task.taskId ∉ plan.tasks.map CandidateTask.taskId) ∧
    (∀ requirement ∈ uncoveredRequirements plan.tasks requirements,
      ∃ task ∈ added, task.requirementId = some requirement.id) ∧
    ∀ requirement ∈ unapprovedRequirements plan.tasks requirements,
      ∃ task ∈ added, task.requirementId = some requirement.id ∧ task.requiredApprovals ≠ []

section Revise

variable {state : AgentState} {plan : CandidatePlan}

/-- The plan that a revision makes when the requirements have distinct ids. -/
theorem revisePlanNode_candidatePlan (present : state.candidatePlan = some plan)
    (consistent : Consistent plan.tasks)
    (distinct : (state.requirementList.map Requirement.id).Nodup) :
    (revisePlanNode state).candidatePlan =
      some { plan with tasks := plan.tasks ++ addedTasks plan.tasks state.requirementList } := by
  have counted : (firstSeen (plan.tasks.map CandidateTask.taskId)).length = plan.tasks.length := by
    rw [firstSeen_of_nodup consistent.unique, List.length_map]
  unfold revisePlanNode
  rw [present]
  dsimp only
  rw [requirementsById_of_nodup distinct, counted, List.append_assoc]
  rfl

/-- The plan that is created next is the revised one. -/
theorem chooseCandidate_revised (present : state.candidatePlan = some plan)
    (consistent : Consistent plan.tasks)
    (distinct : (state.requirementList.map Requirement.id).Nodup) :
    chooseCandidate (revisePlanNode state) =
      { plan with tasks := plan.tasks ++ addedTasks plan.tasks state.requirementList } := by
  have requirements : (revisePlanNode state).requirementList = state.requirementList := by
    obtain ⟨_, _, _, same⟩ := revisePlanNode_eq state
    rw [same]
    rfl
  have covered : (requirementsById state.requirementList).filter (fun requirement =>
      requirement.id ∉ referencedRequirements
        (plan.tasks ++ addedTasks plan.tasks state.requirementList)) = [] := by
    rw [requirementsById_of_nodup distinct]
    exact uncoveredRequirements_eq_nil_iff.mpr fun _ => covered_revised
  unfold chooseCandidate
  rw [revisePlanNode_candidatePlan present consistent distinct, requirements]
  dsimp only
  rw [covered, if_neg fun missing => missing.1 rfl]

/-- What the creation of the revised plan has made of it. -/
theorem created_revised (present : state.candidatePlan = some plan)
    (consistent : Consistent plan.tasks)
    (distinct : (state.requirementList.map Requirement.id).Nodup) {result : AgentState}
    (executed : createPlanNode (revisePlanNode state) = .ok result) :
    (∃ tasks, materializeTasks
      (plan.tasks ++ addedTasks plan.tasks state.requirementList) = .ok tasks) ∧
    result.candidatePlan = some
      { plan with tasks := plan.tasks ++ addedTasks plan.tasks state.requirementList } := by
  have chosen := chooseCandidate_revised present consistent distinct
  obtain ⟨tasks, materialized, rfl⟩ := createPlanNode_ok executed
  rw [chosen] at materialized
  exact ⟨⟨tasks, materialized⟩, congrArg some chosen⟩

/-- **When a revision repairs the plan**: the tasks of the plan can be made into executable
ones, and none of them has an id that the revision generates. -/
theorem repairs_iff (present : state.candidatePlan = some plan)
    (consistent : Consistent plan.tasks)
    (distinct : (state.requirementList.map Requirement.id).Nodup) :
    (∃ result revised, createPlanNode (revisePlanNode state) = .ok result ∧
        result.candidatePlan = some revised ∧ Repairs plan state.requirementList revised) ↔
      (∀ task ∈ plan.tasks, task.taskId ≠ "" ∧ task.description ≠ "") ∧
      ∀ taskId ∈ generatedIds plan.tasks state.requirementList,
        taskId ∉ plan.tasks.map CandidateTask.taskId := by
  have chosen := chooseCandidate_revised present consistent distinct
  constructor
  · rintro ⟨result, revised, executed, stored, repairs⟩
    obtain ⟨materialized, candidate⟩ := created_revised present consistent distinct executed
    rw [candidate] at stored
    cases stored
    constructor
    · intro task member
      exact materializeTasks_ok_iff.mp materialized task (List.mem_append_left _ member)
    · exact (wellFormed_revised_iff consistent).mp (errors_eq_nil_iff.mp (repairs.errors 0))
  · rintro ⟨nonempty, free⟩
    obtain ⟨tasks, materialized⟩ : ∃ tasks, materializeTasks
        (plan.tasks ++ addedTasks plan.tasks state.requirementList) = .ok tasks := by
      apply materializeTasks_total
      intro task member
      rcases List.mem_append.mp member with old | added
      · exact nonempty task old
      · exact (repairTask_of_added added).nonempty
    have executed : ∃ result, createPlanNode (revisePlanNode state) = .ok result := by
      rw [createPlanNode, chosen, materialized]
      exact ⟨_, rfl⟩
    obtain ⟨result, executed⟩ := executed
    obtain ⟨-, candidate⟩ := created_revised present consistent distinct executed
    refine ⟨result, _, executed, candidate, ?_, _, rfl, ?_, ?_, ?_⟩
    · intro revisionCount
      exact errors_eq_nil_iff.mpr ((wellFormed_revised_iff consistent).mpr free)
    · intro task added
      exact free task.taskId (ids_addedTasks ▸ List.mem_map_of_mem added)
    · exact fun _ => covered_of_added
    · exact fun _ => approved_of_added

/-- A plan whose only task has the second number, though it is the first one. -/
def misnumberedPlan : CandidatePlan where
  rationale := "rationale"
  tasks := [{ taskId := "task_2", description := "description" }]

/-- The state that a revision of the misnumbered plan starts from. -/
def misnumberedState (requirements : List Requirement) : AgentState where
  candidatePlan := some misnumberedPlan
  requirements := some requirements

theorem consistent_misnumberedPlan : Consistent misnumberedPlan.tasks :=
  consistent_iff.mpr ⟨by decide +kernel, by decide +kernel, by decide +kernel⟩

/-- The revision of a misnumbered plan gives the id of its task to the task that it adds. -/
theorem not_repairs_misnumberedPlan : Consistent misnumberedPlan.tasks ∧
    ¬ ∃ result revised,
      createPlanNode (revisePlanNode (misnumberedState [sampleRequirement])) = .ok result ∧
      result.candidatePlan = some revised ∧
      Repairs misnumberedPlan [sampleRequirement] revised := by
  refine ⟨consistent_misnumberedPlan, ?_⟩
  rintro ⟨result, revised, executed, stored, repairs⟩
  have present : (misnumberedState [sampleRequirement]).candidatePlan = some misnumberedPlan := rfl
  obtain ⟨-, candidate⟩ := created_revised present consistent_misnumberedPlan
    (List.nodup_singleton _) executed
  rw [candidate] at stored
  cases stored
  have free := (wellFormed_revised_iff consistent_misnumberedPlan).mp
    (errors_eq_nil_iff.mp (repairs.errors 0))
  exact free "task_2" (by decide +kernel) (by decide +kernel)

/-- A plan whose only task has the number of the task that will be added. -/
theorem repairs_iff_misnumberedPlan : Consistent misnumberedPlan.tasks ∧
    ((∃ result revised,
        createPlanNode (revisePlanNode (misnumberedState [sampleRequirement])) = .ok result ∧
        result.candidatePlan = some revised ∧
        Repairs misnumberedPlan [sampleRequirement] revised) ↔
      (∀ task ∈ misnumberedPlan.tasks, task.taskId ≠ "" ∧ task.description ≠ "") ∧
      ∀ taskId ∈ generatedIds misnumberedPlan.tasks [sampleRequirement],
        taskId ∉ misnumberedPlan.tasks.map CandidateTask.taskId) := by
  have present : (misnumberedState [sampleRequirement]).candidatePlan = some misnumberedPlan := rfl
  exact ⟨consistent_misnumberedPlan,
    repairs_iff present consistent_misnumberedPlan (List.nodup_singleton _)⟩

end Revise

end ActionPlan.Agent
