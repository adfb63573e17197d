import ActionPlan.Agent.Service

/-! # The revision loop

`plan`, `validate_plan` and `revise_plan` form a loop of the agent graph. Each
round through `revise_plan` spends one revision, and without a revision left the
loop is left: for `execute_plan` with a candidate plan that has passed its
validation, or for `plan_failed`.
-/

namespace ActionPlan.Agent

open ActionPlan.Foundation ActionPlan.Models

section Candidate

variable (state : AgentState)

/-- What `validate_plan` reports about the candidate plan of a state. -/
def report : Option PlanValidationResult :=
  state.candidatePlan.map fun candidate =>
    validatePlan candidate state.requirementList (state.planRevisionCount.getD 0)

/-- The errors of the report. -/
def planErrors : List ValidationIssue := ((report state).map PlanValidationResult.errors).getD []

/-- The revisions that are left. -/
def revisionsLeft : Nat := (maxPlanRevisions - state.planRevisionCount.getD 0).toNat

/-- The tasks of the state are those of its candidate plan, each changed by `mark`. -/
def Materialized (mark : Task → Task) : Prop :=
  ∃ candidate tasks, state.candidatePlan = some candidate ∧
    materializeTasks candidate.tasks = .ok tasks ∧ state.tasks = some (tasks.map mark)

/-- The candidate plan of the state has passed its validation. -/
structure Approved (mark : Task → Task) : Prop where
  materialized : Materialized state mark
  validated : state.planValidation = report state
  passed : planErrors state = []

/-- The candidate plan of the state has failed its validation for good. -/
structure Rejected : Prop where
  validated : state.planValidation = report state
  failed : planErrors state ≠ []
  spent : revisionsLeft state = 0

end Candidate

/-- What holds of the candidate plan when a node is entered. -/
def loopOutline : Node → AgentState → Prop
  | .validatePlan, state => Materialized state id
  | .revisePlan, state => planErrors state ≠ [] ∧ 0 < revisionsLeft state
  | .planFailed, state => Rejected state
  | .executePlan, state => Approved state id
  | .optimizePlan, state => Approved state (markCompleted state.completedList)
  | _, _ => True

/-- The nodes before a plan is executed or failed. -/
def Planning : Node → Prop
  | .initializeNode | .analyzeGoal | .extractProcedures | .extractRequirements | .collectEvidence
  | .plan | .validatePlan | .revisePlan => True
  | _ => False

/-- The nodes that a run can still enter from a node, counting the rounds of the loop. -/
def nodesAhead : Node → AgentState → Nat
  | .initializeNode, state => 13 + 3 * revisionsLeft state
  | .analyzeGoal, state => 12 + 3 * revisionsLeft state
  | .extractProcedures, state => 11 + 3 * revisionsLeft state
  | .extractRequirements, state => 10 + 3 * revisionsLeft state
  | .collectEvidence, state => 9 + 3 * revisionsLeft state
  | .plan, state => 8 + 3 * revisionsLeft state
  | .validatePlan, state => 7 + 3 * revisionsLeft state
  | .revisePlan, state => 6 + 3 * revisionsLeft state
  | .executePlan, _ => 6
  | .optimizePlan, _ => 5
  | .stateAnalysis, _ => 4
  | .detectBlockers, _ => 3
  | .recommend, _ | .planFailed, _ => 2
  | .updateMemory, _ => 1

section Nodes

variable {services : Services} {state result : AgentState}

theorem report_eq_some {candidate : CandidatePlan}
    (present : state.candidatePlan = some candidate) :
    report state = some (validatePlan candidate state.requirementList
      (state.planRevisionCount.getD 0)) := by
  rw [report, present, Option.map_some]

theorem planErrors_of_report (same : report result = report state) :
    planErrors result = planErrors state := by
  rw [planErrors, same, planErrors]

/-- The validation node stores the report and changes nothing that it depends on. -/
theorem planValidation_validatePlanNode :
    (validatePlanNode state).planValidation = report state := by
  unfold validatePlanNode report
  split <;> rename_i present <;> simp [present]

theorem report_validatePlanNode : report (validatePlanNode state) = report state := by
  obtain ⟨_, _, same⟩ := validatePlanNode_eq state
  rw [same]
  rfl

/-- A plan is valid when nothing is reported against it. -/
theorem validatePlan_valid (candidate : CandidatePlan) (requirements : List Requirement)
    (revisionCount : Int) : (validatePlan candidate requirements revisionCount).valid =
      (validatePlan candidate requirements revisionCount).errors.isEmpty := rfl

/-- A validated plan goes where its errors and the revisions left send it. -/
theorem shouldRevise_validatePlanNode (state : AgentState) :
    shouldRevise (validatePlanNode state) =
      if planErrors state = [] then .executePlan
      else if 0 < revisionsLeft state then .revisePlan
      else .planFailed := by
  cases present : state.candidatePlan with
  | none => simp [shouldRevise, validatePlanNode, planErrors, report, present]
  | some candidate =>
      have errors : planErrors state = (validatePlan candidate state.requirementList
          (state.planRevisionCount.getD 0)).errors := by
        rw [planErrors, report_eq_some present]
        rfl
      simp only [shouldRevise, validatePlanNode, present, revisionsLeft, Int.lt_toNat,
        Int.natCast_zero, Int.sub_pos]
      by_cases passed : planErrors state = []
      · have valid := passed
        rw [errors] at valid
        simp [validatePlan_valid, valid, passed]
      · have invalid := passed
        rw [errors] at invalid
        simp [validatePlan_valid, invalid, passed]

/-- Only a revision spends a revision. -/
theorem exec_revisionsLeft {node : Node} (other : node ≠ .revisePlan)
    (executed : Node.exec services node state = .ok result) :
    revisionsLeft result = revisionsLeft state := by
  rw [revisionsLeft, (Node.framed_of_exec executed).planRevisionCount other, revisionsLeft]

/-- A revision of a plan with errors spends one of the revisions left. -/
theorem revisionsLeft_revisePlanNode (failed : planErrors state ≠ [])
    (left : 0 < revisionsLeft state) :
    revisionsLeft (revisePlanNode state) + 1 = revisionsLeft state := by
  unfold revisePlanNode
  split
  · rename_i absent
    simp [planErrors, report, absent] at failed
  · simp only [revisionsLeft, Option.getD_some] at left ⊢
    omega

end Nodes

/-- Each node carries the outline of the loop over to the next one. -/
theorem loopOutline_annotated (services : Services) :
    (buildGraph services).Annotated loopOutline := by
  intro node state result inner holds executed
  change Node.exec services node state = .ok result at executed
  change loopOutline (Node.next node result) result
  cases node with
  | plan =>
      obtain ⟨tasks, made, rfl⟩ := createPlanNode_ok executed
      exact ⟨_, tasks, rfl, made, by rw [List.map_id]⟩
  | validatePlan =>
      cases executed
      obtain ⟨candidate, tasks, present, made, current⟩ := holds
      have validated : (validatePlanNode state).planValidation =
          report (validatePlanNode state) := by
        rw [planValidation_validatePlanNode, report_validatePlanNode]
      have errors : planErrors (validatePlanNode state) = planErrors state :=
        planErrors_of_report report_validatePlanNode
      have executed : Node.exec services .validatePlan state = .ok (validatePlanNode state) := rfl
      have left := exec_revisionsLeft (by simp) executed
      obtain ⟨_, _, same⟩ := validatePlanNode_eq state
      simp only [Node.next, shouldRevise_validatePlanNode]
      by_cases passed : planErrors state = []
      · rw [if_pos passed]
        refine ⟨⟨candidate, tasks, ?_, made, ?_⟩, validated, errors.trans passed⟩
        · rw [same, present]
        · rw [same, current]
      · by_cases more : 0 < revisionsLeft state
        · rw [if_neg passed, if_pos more]
          exact ⟨errors ▸ passed, left ▸ more⟩
        · rw [if_neg passed, if_neg more]
          exact ⟨validated, errors ▸ passed, by omega⟩
  | executePlan =>
      cases executed
      obtain ⟨⟨candidate, tasks, present, made, current⟩, validated, passed⟩ := holds
      refine ⟨⟨candidate, tasks, present, made, ?_⟩, validated, passed⟩
      simp only [executePlanNode, AgentState.taskList, current, List.map_id, Option.getD_some,
        AgentState.completedList]
  | initializeNode | analyzeGoal | extractProcedures | extractRequirements | collectEvidence
  | revisePlan | planFailed | optimizePlan | stateAnalysis | detectBlockers | recommend
  | updateMemory => trivial

/-- Each node is paid for by the nodes ahead. -/
theorem nodesAhead_exec {services : Services} {node : Node} {state result : AgentState}
    (inner : node ≠ .updateMemory) (holds : loopOutline node state)
    (executed : Node.exec services node state = .ok result) :
    1 + nodesAhead (Node.next node result) result ≤ nodesAhead node state := by
  by_cases revising : node = .revisePlan
  · subst revising
    cases executed
    have spent := revisionsLeft_revisePlanNode holds.1 holds.2
    simp only [Node.next, nodesAhead]
    omega
  · have left := exec_revisionsLeft revising executed
    cases node with
    | validatePlan =>
        cases executed
        simp only [Node.next, shouldRevise_validatePlanNode]
        by_cases passed : planErrors state = []
        · simp only [passed, ↓reduceIte, nodesAhead]
          omega
        · by_cases more : 0 < revisionsLeft state
          · simp only [passed, more, ↓reduceIte, nodesAhead]
            omega
          · simp only [passed, more, ↓reduceIte, nodesAhead]
            omega
    | revisePlan => exact (revising rfl).elim
    | updateMemory => exact (inner rfl).elim
    | initializeNode | analyzeGoal | extractProcedures | extractRequirements | collectEvidence
    | plan | planFailed | executePlan | optimizePlan | stateAnalysis | detectBlockers | recommend =>
        simp only [Node.next, nodesAhead]
        omega

section Run

variable (services : Services) (initial : AgentState)

/-- The nodes that a run enters, each with the state it is entered in. -/
def visited : List (Node × AgentState) :=
  (buildGraph services).entries recursionLimit .initializeNode initial

/-- The validation of a state has sent the run to the nodes after it. -/
def Routed (state : AgentState) (later : List (Node × AgentState)) : Prop :=
  if planErrors state = [] then ∃ others, later = (.executePlan, validatePlanNode state) :: others
  else if 0 < revisionsLeft state then
    ∃ others, later = (.revisePlan, validatePlanNode state) :: others
  else
    later = [(.planFailed, validatePlanNode state),
      (.updateMemory, planFailedNode (validatePlanNode state))]

/-- A run enters at most thirteen nodes, and three more in each round of the loop. -/
theorem length_visited :
    (visited services initial).length ≤ 13 + 3 * revisionsLeft initial := by
  have covers : ∀ node state, loopOutline node state → 1 ≤ nodesAhead node state := by
    intro node state _
    cases node <;> simp only [nodesAhead] <;> omega
  have pays : ∀ node state result, (buildGraph services).exit node = false →
      loopOutline node state → (buildGraph services).exec node state = .ok result →
        1 + nodesAhead ((buildGraph services).next node result) result ≤ nodesAhead node state :=
    fun node state result inner holds executed =>
      nodesAhead_exec (by simpa [buildGraph] using inner) holds executed
  have start : loopOutline .initializeNode initial := trivial
  have weighed : ((visited services initial).map fun _ => 1).sum ≤
      nodesAhead .initializeNode initial :=
    (loopOutline_annotated services).weight_entries_le (fun _ => 1) nodesAhead covers pays start
  simpa [nodesAhead] using weighed

/-- A run revises its plan no more often than there are revisions left. -/
theorem count_revisePlan :
    ((visited services initial).map Prod.fst).count .revisePlan ≤ revisionsLeft initial := by
  refine (loopOutline_annotated services).count_entries_le .revisePlan
    (fun _ => revisionsLeft) (fun state holds => holds.2) ?_ trivial
  intro node state result _ holds executed
  by_cases revising : node = .revisePlan
  · subst revising
    cases executed
    have spent := revisionsLeft_revisePlanNode holds.1 holds.2
    simp only [↓reduceIte]
    omega
  · rw [if_neg revising, exec_revisionsLeft revising executed, Nat.zero_add]

variable {services initial}

theorem loopOutline_of_visited {node : Node} {state : AgentState}
    (entered : (node, state) ∈ visited services initial) : loopOutline node state := by
  have start : loopOutline .initializeNode initial := trivial
  exact (loopOutline_annotated services).entries start entered

/-- A run that fails its plan never executes one. -/
theorem not_executed_of_planFailed {failed : AgentState}
    (entered : (.planFailed, failed) ∈ visited services initial) {node : Node}
    (executing : node = .executePlan ∨ node = .optimizePlan) (state : AgentState) :
    (node, state) ∉ visited services initial := by
  have failing : (buildGraph services).Closed fun node =>
      node = .planFailed ∨ node = .updateMemory := by
    rintro node state result (rfl | rfl) - <;> exact .inr rfl
  have recommending : (buildGraph services).Closed fun node =>
      node = .executePlan ∨ node = .optimizePlan ∨ node = .stateAnalysis ∨
        node = .detectBlockers ∨ node = .recommend ∨ node = .updateMemory := by
    rintro node state result (rfl | rfl | rfl | rfl | rfl | rfl) - <;> simp [buildGraph, Node.next]
  refine failing.exclusive recommending (.inl rfl) ?_ (by simp) ?_ entered
  · rcases executing with rfl | rfl <;> simp
  · rcases executing with rfl | rfl <;> simp

/-- Within the limit, a validation sends the run where its errors and the
revisions left require it. -/
theorem routed_of_visited (within : (visited services initial).length < recursionLimit)
    {earlier later : List (Node × AgentState)} {state : AgentState}
    (entered : visited services initial = earlier ++ (.validatePlan, state) :: later) :
    Routed state later := by
  obtain ⟨others, rfl⟩ := ControlFlow.entries_continue entered within rfl
    (rfl : (buildGraph services).exec .validatePlan state = .ok (validatePlanNode state))
  have routed : (buildGraph services).next .validatePlan (validatePlanNode state) =
      if planErrors state = [] then .executePlan
      else if 0 < revisionsLeft state then .revisePlan
      else .planFailed := by
    simp only [buildGraph, Node.next, shouldRevise_validatePlanNode]
    by_cases passed : planErrors state = [] <;>
      by_cases more : 0 < revisionsLeft state <;> simp [passed, more]
  rw [routed] at entered ⊢
  rw [Routed]
  by_cases passed : planErrors state = []
  · simp only [passed, ↓reduceIte]
    exact ⟨others, rfl⟩
  · by_cases more : 0 < revisionsLeft state
    · simp only [passed, more, ↓reduceIte]
      exact ⟨others, rfl⟩
    · simp only [passed, more, ↓reduceIte] at entered ⊢
      rw [List.append_cons] at entered
      obtain ⟨others, rfl⟩ := ControlFlow.entries_continue entered within rfl
        (rfl : (buildGraph services).exec .planFailed (validatePlanNode state) =
          .ok (planFailedNode (validatePlanNode state)))
      rw [List.append_cons] at entered
      rw [ControlFlow.entries_exit entered rfl]
      rfl

/-- A run that ends has executed its plan or failed it. -/
theorem executed_or_failed {reached : AgentState}
    (ended : reachMemory services initial = .ok reached) :
    ∃ entry ∈ visited services initial, entry.1 = .executePlan ∨ entry.1 = .planFailed := by
  have inner : ∀ node, Planning node → (buildGraph services).exit node = false := by
    intro node planning
    cases node <;> first | rfl | exact planning.elim
  have leaves : ∀ node state result, Planning node →
      (buildGraph services).exec node state = .ok result →
        Planning ((buildGraph services).next node result) ∨
          ((buildGraph services).next node result = .executePlan ∨
            (buildGraph services).next node result = .planFailed) := by
    intro node state result planning _
    cases node with
    | validatePlan =>
        simp only [buildGraph, Node.next]
        cases shouldRevise result with
        | executePlan => exact .inr (.inl rfl)
        | revisePlan => exact .inl trivial
        | planFailed => exact .inr (.inr rfl)
    | initializeNode | analyzeGoal | extractProcedures | extractRequirements | collectEvidence
    | plan | revisePlan => exact .inl trivial
    | planFailed | executePlan | optimizePlan | stateAnalysis | detectBlockers | recommend
    | updateMemory => exact planning.elim
  have start : Planning .initializeNode := trivial
  exact ControlFlow.exists_gate_entries (fun node => node = .executePlan ∨ node = .planFailed)
    inner leaves start ended

/-- **The revision loop.** A run that starts without negative revisions revises its
plan at most as often as there are revisions left, and leaves the loop. It executes
and optimizes only the tasks of a candidate plan that has passed its validation,
and fails a plan instead of executing it when the validation fails for good. -/
theorem revision_loop (counted : 0 ≤ initial.planRevisionCount.getD 0) :
    (((visited services initial).map Prod.fst).count .revisePlan : Int) ≤
      max 0 (maxPlanRevisions - initial.planRevisionCount.getD 0) ∧
    (visited services initial).length < recursionLimit ∧
    (∀ state, (.executePlan, state) ∈ visited services initial → Approved state id) ∧
    (∀ state, (.optimizePlan, state) ∈ visited services initial →
      Approved state (markCompleted state.completedList)) ∧
    (∀ earlier state later,
      visited services initial = earlier ++ (.validatePlan, state) :: later →
        Routed state later) ∧
    (∀ state, (.planFailed, state) ∈ visited services initial → Rejected state ∧
      ∀ other, (.executePlan, other) ∉ visited services initial ∧
        (.optimizePlan, other) ∉ visited services initial) ∧
    ∀ reached, reachMemory services initial = .ok reached →
      ∃ entry ∈ visited services initial, entry.1 = .executePlan ∨ entry.1 = .planFailed := by
  have within : (visited services initial).length < recursionLimit := by
    have bounded := length_visited services initial
    simp only [revisionsLeft, maxPlanRevisions, recursionLimit] at bounded ⊢
    omega
  refine ⟨?_, within, fun _ => loopOutline_of_visited, fun _ => loopOutline_of_visited,
    fun _ _ _ => routed_of_visited within, fun state entered => ⟨loopOutline_of_visited entered,
      fun other => ⟨not_executed_of_planFailed entered (.inl rfl) other,
        not_executed_of_planFailed entered (.inr rfl) other⟩⟩,
    fun _ => executed_or_failed⟩
  have revised := count_revisePlan services initial
  rw [revisionsLeft] at revised
  omega

/-- A candidate plan with one task, which depends on an unknown one. -/
def danglingPlan : CandidatePlan where
  rationale := "rationale"
  tasks := [{ taskId := "task", description := "description", dependencies := ["unknown"] }]

/-- A run with a dangling plan revises it once and never executes it. -/
theorem revision_loop_danglingPlan :
    (0 : Int) ≤ (({ candidatePlan := some danglingPlan } : AgentState).planRevisionCount).getD 0 ∧
    (((visited taskServices { candidatePlan := some danglingPlan }).map Prod.fst).count
      .revisePlan : Int) ≤ max 0 (maxPlanRevisions - 0) :=
  ⟨by decide, (revision_loop (by decide)).1⟩

end Run

end ActionPlan.Agent
