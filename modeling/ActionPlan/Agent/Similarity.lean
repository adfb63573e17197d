import ActionPlan.Agent.Service

/-! # What a graph run does not depend on

The id of the workflow, the worker and the clock reach the generated ids and
the timestamps of the result only, provided that the retriever answers alike for
the two ids and that no deadline is compared with the day of the run.
-/

namespace ActionPlan.Models

open ActionPlan.Foundation

/-- The recommendation without generated ids and timestamps. -/
def Recommendation.anonymous (recommendation : Recommendation) : Recommendation :=
  { recommendation with
    recommendationId := ""
    workflowId := ""
    createdAt := .newYear
    decidedAt := none }

/-- The workflow without generated ids, worker id and timestamps. -/
def WorkflowState.anonymous (workflow : WorkflowState) : WorkflowState :=
  { workflow with
    workflowId := ""
    recommendation := workflow.recommendation.map Recommendation.anonymous
    executionMetadata := workflow.executionMetadata.erase "worker_id"
    createdAt := .newYear
    lastAssessedAt := none
    updatedAt := .newYear }

theorem WorkflowState.same_of_anonymous {first second : WorkflowState}
    (same : first.anonymous = second.anonymous) :
    first.executionState = second.executionState ∧ first.workRequest = second.workRequest := by
  have states := congrArg executionState same
  have requests := congrArg workRequest same
  exact ⟨states, requests⟩

end ActionPlan.Models

namespace ActionPlan.Agent

open ActionPlan.Foundation ActionPlan.Models ActionPlan.Memory

/-- Runs for two workflows get the same answers; their clocks may differ. -/
structure SameAnswers (first second : Services) (firstId secondId : String) : Prop where
  llm : second.llm = first.llm
  retriever : ∀ query limit, second.retriever query limit (truthyString (some secondId)) =
    first.retriever query limit (truthyString (some firstId))

/-- Two states that differ in the id of the workflow, the metadata of the last
node, and the ids and times of the recommendation only, and set no deadline. -/
structure Similar (firstId secondId : String) (left right : AgentState) : Prop where
  named : left.workflowId = some firstId
  undated : left.workRequest.bind WorkRequest.deadline = none ∧
    left.workRequestInput.bind WorkRequestInput.deadline = none
  shape : ∃ recommendation executionMetadata,
    right = { left with workflowId := some secondId, recommendation, executionMetadata } ∧
      recommendation.map Recommendation.anonymous =
        left.recommendation.map Recommendation.anonymous

section Nodes

variable {first second : Services} {firstId secondId : String}

theorem deadline_initializeRequest {state : AgentState} {request : WorkRequest}
    (request_undated : state.workRequest.bind WorkRequest.deadline = none)
    (input_undated : state.workRequestInput.bind WorkRequestInput.deadline = none)
    (made : initializeRequest state = .ok request) : request.deadline = none := by
  unfold initializeRequest at made
  split at made
  · rename_i present
    cases made
    rwa [present, Option.bind_some] at request_undated
  · rename_i present
    cases made
    rwa [present, Option.bind_some] at input_undated
  · obtain ⟨payload, accepted, rfl⟩ := ok_of_map made
    unfold goalInput workRequestInput at accepted
    split at accepted
    · cases accepted
      rfl
    · cases accepted

theorem targetEvidence_congr (same : SameAnswers first second firstId secondId)
    (requirements : List Requirement) :
    targetEvidence second.retriever (truthyString (some secondId)) requirements =
      targetEvidence first.retriever (truthyString (some firstId)) requirements := by
  induction requirements with
  | nil => rfl
  | cons requirement requirements ih => rw [targetEvidence, targetEvidence, same.retriever, ih]

/-- A node that keeps a result or asks for it agrees with one that does the same. -/
theorem agree_consult {related : AgentState → AgentState → Prop} {α : Type} {reused : Prop}
    [Decidable reused] {request : Except Exn WorkRequest} {answer : WorkRequest → Except Exn α}
    {kept otherKept : AgentState} {made otherMade : α → AgentState}
    (keeps : related kept otherKept) (makes : ∀ value, related (made value) (otherMade value)) :
    ControlFlow.Agree related
      (if reused then .ok kept
        else request >>= fun request => answer request >>= fun value => .ok (made value))
      (if reused then .ok otherKept
        else request >>= fun request => answer request >>= fun value => .ok (otherMade value)) := by
  by_cases reuse : reused
  · rw [if_pos reuse, if_pos reuse]
    exact keeps
  · rw [if_neg reuse, if_neg reuse]
    apply ControlFlow.Agree.bind
    intro request
    apply ControlFlow.Agree.bind
    exact makes

/-- The clock of a recommendation is forgotten with its timestamps. -/
theorem anonymous_recommendationNode (clock other : Clock) (state : AgentState) :
    (recommendationNode clock state).recommendation.map Recommendation.anonymous =
      (recommendationNode other state).recommendation.map Recommendation.anonymous := by
  simp only [recommendationNode, Option.map_some]
  split
  · rfl
  · split <;> rfl

/-- Every node takes similar states to similar states, or fails on both alike. -/
theorem exec_similar (same : SameAnswers first second firstId secondId) (node : Node)
    (left right : AgentState) (similar : Similar firstId secondId left right) :
    ControlFlow.Agree (Similar firstId secondId) (Node.exec first node left)
      (Node.exec second node right) := by
  obtain ⟨named, undated, recommendation, executionMetadata, rfl, anonymous⟩ := similar
  cases node with
  | initializeNode =>
      change ControlFlow.Agree _ (initializeRequest left >>= _) (initializeRequest left >>= _)
      cases made : initializeRequest left with
      | error failure => rfl
      | ok request =>
          have deadline := deadline_initializeRequest undated.1 undated.2 made
          exact ⟨named, ⟨deadline, undated.2⟩, _, _, rfl, anonymous⟩
  | analyzeGoal | extractProcedures | extractRequirements =>
      rw [Node.exec, Node.exec, same.llm]
      exact agree_consult ⟨named, undated, _, _, rfl, anonymous⟩
        fun _ => ⟨named, undated, _, _, rfl, anonymous⟩
  | collectEvidence =>
      by_cases reused : left.targetedEvidence.getD [] ≠ []
      · rw [Node.exec, Node.exec, collectEvidenceNode, collectEvidenceNode, if_pos reused,
          if_pos reused]
        exact ⟨named, undated, _, _, rfl, anonymous⟩
      · rw [Node.exec, Node.exec, collectEvidenceNode, collectEvidenceNode, if_neg reused,
          if_neg reused, named, targetEvidence_congr same]
        apply ControlFlow.Agree.bind
        intro targeted
        exact ⟨rfl, undated, _, _, rfl, anonymous⟩
  | plan =>
      change ControlFlow.Agree _ (materializeTasks (chooseCandidate left).tasks >>= _)
        (materializeTasks (chooseCandidate left).tasks >>= _)
      apply ControlFlow.Agree.bind
      intro tasks
      exact ⟨named, undated, _, _, rfl, anonymous⟩
  | validatePlan =>
      rw [Node.exec, Node.exec, validatePlanNode, validatePlanNode]
      cases left.candidatePlan <;> exact ⟨named, undated, _, _, rfl, anonymous⟩
  | revisePlan =>
      rw [Node.exec, Node.exec, revisePlanNode, revisePlanNode]
      cases left.candidatePlan <;> exact ⟨named, undated, _, _, rfl, anonymous⟩
  | optimizePlan =>
      rw [Node.exec, Node.exec, optimizePlanNode, optimizePlanNode]
      cases present : left.workRequest with
      | none =>
          rw [present] at undated
          cases left.candidatePlan <;> exact ⟨named, undated, _, _, rfl, anonymous⟩
      | some request =>
          rw [present] at undated
          have deadline : request.deadline = none := undated.1
          cases left.candidatePlan with
          | none => exact ⟨named, undated, _, _, rfl, anonymous⟩
          | some candidate =>
              simp only [deadline, optimizePlan_today candidate _ second.clock.today
                first.clock.today]
              apply ControlFlow.Agree.bind
              intro result
              exact ⟨named, undated, _, _, rfl, anonymous⟩
  | recommend =>
      exact ⟨named, undated, _, _, rfl, anonymous_recommendationNode _ _ left⟩
  | planFailed | executePlan | stateAnalysis | detectBlockers | updateMemory =>
      exact ⟨named, undated, _, _, rfl, anonymous⟩

/-- **Similar runs.** Similar initial states reach the memory node in similar
states, or both runs fail. -/
theorem reachMemory_similar (same : SameAnswers first second firstId secondId)
    {left right : AgentState} (similar : Similar firstId secondId left right) :
    ControlFlow.Agree (Similar firstId secondId) (reachMemory first left)
      (reachMemory second right) := by
  apply ControlFlow.run_agree (buildGraph first) (buildGraph second) rfl (exec_similar same) _
    similar
  rintro node left right ⟨-, -, recommendation, executionMetadata, rfl, -⟩
  cases node <;> rfl

/-- The record of a result is stored alike up to generated ids and timestamps. -/
theorem anonymous_executedWorkflow {left right : AgentState}
    (similar : Similar firstId secondId left right) (backend : Backend) (clock other : Clock) :
    (MemoryStore.load backend
        (executedWorkflow other (updateMemoryResult other right)).jsonCopy).anonymous =
      (MemoryStore.load backend
        (executedWorkflow clock (updateMemoryResult clock left)).jsonCopy).anonymous := by
  obtain ⟨-, -, recommendation, executionMetadata, rfl, anonymous⟩ := similar
  have reason : recommendation.map Recommendation.reason =
      left.recommendation.map Recommendation.reason := by
    have reasons := congrArg (Option.map Recommendation.reason) anonymous
    rwa [Option.map_map, Option.map_map] at reasons
  cases backend <;>
    simp only [MemoryStore.load, executedWorkflow, toWorkflowState, updateMemoryResult,
      memoryContext, stateToWorkflow, WorkflowState.mapUntyped, WorkflowState.anonymous, reason,
      anonymous]

end Nodes

end ActionPlan.Agent
