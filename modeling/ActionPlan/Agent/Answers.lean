import ActionPlan.Agent.Service

/-! # When an execution reaches the memory node

A new execution consults the language model three times and the retriever once
for each requirement. It fails exactly when one of these calls does: the plan
that it builds is valid and can be materialized and optimized.
-/

namespace ActionPlan.Agent

open ActionPlan.Foundation ActionPlan.Models

/-- The services answer the calls of a new execution of a request. -/
structure Answered (services : Services) (workflowId : String) (request : WorkRequest) : Prop where
  objective : ∃ analysis, services.llm.analyzeObjective request = .ok analysis
  procedures : ∃ extraction, services.llm.extractProcedures request = .ok extraction
  requirements : ∃ requirements, services.llm.extractRequirements request = .ok requirements ∧
    ∀ requirement ∈ requirements, ∃ hits,
      services.retriever requirement.text 3 (truthyString (some workflowId)) = .ok hits

/-- Evidence is collected exactly when the retriever answers for each requirement. -/
theorem targetEvidence_ok_iff (retriever : Retriever) (workflowId : Option String)
    (requirements : List Requirement) :
    (∃ targeted, targetEvidence retriever workflowId requirements = .ok targeted) ↔
      ∀ requirement ∈ requirements, ∃ hits,
        retriever requirement.text 3 workflowId = .ok hits := by
  induction requirements with
  | nil => exact ⟨fun _ => nofun, fun _ => ⟨[], rfl⟩⟩
  | cons requirement requirements ih =>
      rw [List.forall_mem_cons, ← ih]
      constructor
      · rintro ⟨targeted, collected⟩
        obtain ⟨hits, answered, rest⟩ := ok_of_bind collected
        obtain ⟨others, collectedOthers, -⟩ := ok_of_bind rest
        exact ⟨⟨hits, answered⟩, others, collectedOthers⟩
      · rintro ⟨⟨hits, answered⟩, others, collectedOthers⟩
        rw [targetEvidence, answered]
        change ∃ targeted, (targetEvidence retriever workflowId requirements >>= _) = _
        rw [collectedOthers]
        exact ⟨_, rfl⟩

section Execution

variable {services : Services} {workflowId workerId : String} {payload : WorkRequestInput}

theorem initializeRequest_executionInput :
    initializeRequest (executionInput workflowId workerId payload) =
      .ok (compileWorkRequest payload) := rfl

/-- The request of an initialized execution. -/
theorem Initialized.execution {state : AgentState}
    (initialized : Initialized (executionInput workflowId workerId payload) state) :
    state.workRequest = some (compileWorkRequest payload) := by
  obtain ⟨request, made, stored⟩ := initialized.request
  rw [initializeRequest_executionInput] at made
  cases made
  exact stored

theorem Initialized.execution_request {state : AgentState}
    (initialized : Initialized (executionInput workflowId workerId payload) state) :
    state.request = .ok (compileWorkRequest payload) := by
  rw [AgentState.request, initialized.execution]

/-- The requirements of an execution are those of the language model. -/
theorem Required.execution {state : AgentState}
    (required : Required (executionInput workflowId workerId payload) services state) :
    services.llm.extractRequirements (compileWorkRequest payload) = .ok state.requirementList := by
  rcases required with ⟨present, -⟩ | ⟨-, request, made, answered⟩
  · exact absurd rfl present
  · rw [initializeRequest_executionInput] at made
    cases made
    exact answered

/-- The outline of an execution, with the id that the retriever is given. -/
def executionOutline (services : Services) (workflowId workerId : String)
    (payload : WorkRequestInput) (node : Node) (state : AgentState) : Prop :=
  outline (executionInput workflowId workerId payload) services node state ∧
    state.workflowId = some workflowId

theorem executionOutline_annotated :
    (buildGraph services).Annotated (executionOutline services workflowId workerId payload) :=
  (outline_annotated (builtInitially_of_none rfl)).and
    fun _ _ _ _ _ named executed =>
      (workflowId_of_identity (Node.framed_of_exec executed).identity).trans named

/-- The number of nodes before `update_memory` on the way of a valid plan. -/
def Node.distance : Node → Nat
  | initializeNode => 12
  | analyzeGoal => 11
  | extractProcedures => 10
  | extractRequirements => 9
  | collectEvidence => 8
  | plan => 7
  | validatePlan => 6
  | executePlan => 5
  | optimizePlan => 4
  | stateAnalysis => 3
  | detectBlockers => 2
  | recommend => 1
  | revisePlan | planFailed | updateMemory => 0

/-- Each node of an answered execution succeeds. -/
theorem exec_ok_of_answered
    (answered : Answered services workflowId (compileWorkRequest payload)) (node : Node)
    (state : AgentState)
    (holds : executionOutline services workflowId workerId payload node state) :
    ∃ reached, Node.exec services node state = .ok reached := by
  obtain ⟨holds, named⟩ := holds
  cases node with
  | initializeNode =>
      obtain rfl : state = executionInput workflowId workerId payload := holds
      exact ⟨_, rfl⟩
  | analyzeGoal =>
      obtain ⟨analysis, answer⟩ := answered.objective
      rw [Node.exec, analyzeGoalNode, holds.1.execution_request]
      split
      · exact ⟨_, rfl⟩
      · exact ⟨_, bind_of_ok rfl (bind_of_ok answer rfl)⟩
  | extractProcedures =>
      obtain ⟨extraction, answer⟩ := answered.procedures
      rw [Node.exec, extractProceduresNode, holds.1.execution_request]
      split
      · exact ⟨_, rfl⟩
      · exact ⟨_, bind_of_ok rfl (bind_of_ok answer rfl)⟩
  | extractRequirements =>
      obtain ⟨requirements, answer, -⟩ := answered.requirements
      rw [Node.exec, extractRequirementsNode, holds.1.execution_request]
      split
      · exact ⟨_, rfl⟩
      · exact ⟨_, bind_of_ok rfl (bind_of_ok answer rfl)⟩
  | collectEvidence =>
      obtain ⟨requirements, answer, retrieved⟩ := answered.requirements
      rw [holds.2.1.execution] at answer
      cases answer
      obtain ⟨targeted, collected⟩ := (targetEvidence_ok_iff _ _ _).mpr retrieved
      rw [Node.exec, collectEvidenceNode, named]
      split
      · exact ⟨_, rfl⟩
      · exact ⟨_, bind_of_ok collected rfl⟩
  | plan =>
      have chosen : chooseCandidate state = buildCandidatePlan state.requirementList := by
        rw [chooseCandidate, holds.2.2]
        rfl
      obtain ⟨tasks, made⟩ := materializeTasks_built state.requirementList
      rw [Node.exec, createPlanNode, chosen]
      exact ⟨_, bind_of_ok made rfl⟩
  | optimizePlan =>
      obtain ⟨result, optimized⟩ := optimizePlan_total
        (fun _ => independent_of_built state.requirementList)
        (compileWorkRequest payload).deadline state.completedList services.clock.today
      rw [Node.exec, optimizePlanNode, holds.2.2.candidate, holds.1.execution]
      exact ⟨_, bind_of_ok optimized rfl⟩
  | revisePlan | planFailed => exact holds.elim
  | validatePlan | executePlan | stateAnalysis | detectBlockers | recommend | updateMemory =>
      exact ⟨_, rfl⟩

/-- The outline excludes the revision and the failure, so a run only moves on. -/
theorem distance_next {node : Node} {state reached : AgentState}
    (inner : (buildGraph services).exit node = false)
    (holds : executionOutline services workflowId workerId payload node state)
    (carried :
      executionOutline services workflowId workerId payload (Node.next node reached) reached) :
    (Node.next node reached).distance < node.distance := by
  cases node with
  | validatePlan =>
      obtain ⟨outlined, -⟩ := carried
      rw [Node.next] at outlined ⊢
      split at outlined
      · decide
      · exact outlined.elim
      · exact outlined.elim
  | revisePlan | planFailed => exact holds.1.elim
  | updateMemory => cases inner
  | initializeNode | analyzeGoal | extractProcedures | extractRequirements | collectEvidence
  | plan | executePlan | optimizePlan | stateAnalysis | detectBlockers | recommend =>
      exact Nat.lt_succ_self _

/-- The calls that have been answered when an execution is at a node, and the
results that are not there yet. -/
def consulted (services : Services) (workflowId : String) (request : WorkRequest) :
    Node → AgentState → Prop
  | .initializeNode, state | .analyzeGoal, state =>
    state.objectiveAnalysis = none ∧ state.procedures = none ∧ state.targetedEvidence = none
  | .extractProcedures, state =>
    (∃ analysis, services.llm.analyzeObjective request = .ok analysis) ∧
      state.procedures = none ∧ state.targetedEvidence = none
  | .extractRequirements, state | .collectEvidence, state =>
    (∃ analysis, services.llm.analyzeObjective request = .ok analysis) ∧
      (∃ extraction, services.llm.extractProcedures request = .ok extraction) ∧
      state.targetedEvidence = none
  | _, _ => Answered services workflowId request

theorem consulted_annotated :
    (buildGraph services).Annotated fun node state =>
      executionOutline services workflowId workerId payload node state ∧
        consulted services workflowId (compileWorkRequest payload) node state := by
  apply executionOutline_annotated.and
  intro node state reached inner outlined holds executed
  obtain ⟨outlined, named⟩ := outlined
  change Node.exec services node state = .ok reached at executed
  change consulted _ _ _ (Node.next node reached) reached
  cases node with
  | initializeNode =>
      obtain ⟨_, -, rfl⟩ := initializeNode_ok executed
      exact holds
  | analyzeGoal =>
      rw [Node.exec, analyzeGoalNode, holds.1, if_neg (by simp),
        outlined.1.execution_request] at executed
      obtain ⟨_, compiled, rest⟩ := ok_of_bind executed
      cases compiled
      obtain ⟨analysis, answer, done⟩ := ok_of_bind rest
      cases done
      exact ⟨⟨analysis, answer⟩, holds.2⟩
  | extractProcedures =>
      rw [Node.exec, extractProceduresNode, holds.2.1, if_neg (by simp),
        outlined.1.execution_request] at executed
      obtain ⟨_, compiled, rest⟩ := ok_of_bind executed
      cases compiled
      obtain ⟨extraction, answer, done⟩ := ok_of_bind rest
      cases done
      exact ⟨holds.1, ⟨extraction, answer⟩, holds.2.2⟩
  | extractRequirements =>
      obtain ⟨_, _, rfl, -⟩ := extractRequirementsNode_ok executed
      exact holds
  | collectEvidence =>
      rw [Node.exec, collectEvidenceNode, holds.2.2, if_neg (by simp), named] at executed
      obtain ⟨targeted, collected, done⟩ := ok_of_bind executed
      cases done
      exact ⟨holds.1, holds.2.1, _, outlined.2.1.execution,
        (targetEvidence_ok_iff _ _ _).mp ⟨targeted, collected⟩⟩
  | validatePlan =>
      rw [Node.next]
      split <;> exact holds
  | updateMemory => cases inner
  | plan | revisePlan | planFailed | executePlan | optimizePlan | stateAnalysis
  | detectBlockers | recommend => exact holds

/-- **An execution succeeds exactly when the services answer it.** -/
theorem reachMemory_ok_iff (workerId : String) :
    (∃ reached, reachMemory services (executionInput workflowId workerId payload) =
      .ok reached) ↔ Answered services workflowId (compileWorkRequest payload) := by
  have start : executionOutline services workflowId workerId payload .initializeNode
      (executionInput workflowId workerId payload) := ⟨rfl, rfl⟩
  constructor
  · rintro ⟨reached, ended⟩
    obtain ⟨exit, atExit, -, holds⟩ := consulted_annotated.run ⟨start, rfl, rfl, rfl⟩ ended
    obtain rfl : exit = .updateMemory := by simpa [buildGraph] using atExit
    exact holds
  · intro answered
    exact executionOutline_annotated.total Node.distance
      (fun node state _ holds => exec_ok_of_answered answered node state holds)
      (fun _ _ _ inner holds carried => distance_next inner holds carried) start (by decide)

end Execution

end ActionPlan.Agent
