import ActionPlan.Agent.Outcomes
import ActionPlan.Agent.Revision

/-! # Failed plans

A run whose candidate plan is rejected goes through `plan_failed`, which marks the
state with the failure, and the memory node saves the marked record. But the memory
node also replaces the metadata of the state, so the record that the service saves
afterwards has no mark of this run. It has one only if the metadata that the service
carries over from the record it was given has it already.
-/

namespace ActionPlan.Agent

open ActionPlan.Foundation ActionPlan.Models ActionPlan.Memory

/-- The runs of the service, each of which saves its record when the graph has ended. -/
inductive EntryPoint where
  | execution (workflowId workerId : String) (claimedAt : DateTime) (payload : WorkRequestInput)
  | refresh (workflow : WorkflowState)
  | continuation (workflow : WorkflowState) (completedTaskIds : List String)

namespace EntryPoint

/-- The operation of the service. -/
def run (services : Services) : EntryPoint → MemoryStore → Except Exn WorkflowState × MemoryStore
  | execution workflowId workerId claimedAt payload =>
    executeWorkflowSync services workflowId workerId claimedAt payload
  | refresh workflow => rebuildWorkflow services workflow
  | continuation workflow completedTaskIds => continueWorkflow services workflow completedTaskIds

/-- The initial state of the graph. -/
def initial : EntryPoint → Except Exn AgentState
  | execution workflowId workerId _ payload => .ok (executionInput workflowId workerId payload)
  | refresh workflow => (rebuildPayload workflow).map (rebuildInput workflow)
  | continuation workflow completedTaskIds => .ok (continueInput workflow completedTaskIds)

/-- The metadata that the service carries over into the record of the result. -/
def carried : EntryPoint → Dict Value
  | execution _ _ _ _ => ∅
  | refresh workflow | continuation workflow _ => workflow.executionMetadata

end EntryPoint

/-- The metadata says that a plan has failed for a reason. -/
structure FailureMarked (summary : String) (executionMetadata : Dict Value) : Prop where
  failed : executionMetadata.lookup "plan_failed" = some (.bool true)
  reason : executionMetadata.lookup "failure_reason" = some (.str summary)

/-- The record says that its plan has failed and why, and its validation agrees. -/
def FailureVisible (workflow : WorkflowState) : Prop :=
  ∃ validation, workflow.planValidation = some validation ∧ validation.valid = false ∧
    FailureMarked validation.summary workflow.executionMetadata

/-- The summary of every validation with errors. -/
def invalidSummary : String := "Plan is invalid and needs revision."

section Rejected

variable {services : Services} {initial state : AgentState}

/-- A rejected state holds a validation that is not valid. -/
theorem Rejected.invalid (rejected : Rejected state) :
    ∃ validation, state.planValidation = some validation ∧ validation.valid = false ∧
      validation.summary = invalidSummary := by
  have failed := rejected.failed
  cases present : state.candidatePlan with
  | none => simp [planErrors, report, present] at failed
  | some candidate =>
      have validated := rejected.validated
      rw [report_eq_some present] at validated
      rw [planErrors, report_eq_some present] at failed
      refine ⟨_, validated, ?_, ?_⟩
      · simpa [validatePlan_valid] using failed
      · exact if_pos failed

/-- A run that fails its plan hands the marked state to the memory node. -/
theorem reached_of_planFailed {reached : AgentState}
    (entered : (.planFailed, state) ∈ visited services initial)
    (ended : reachMemory services initial = .ok reached) : reached = planFailedNode state := by
  obtain ⟨earlier, later, split⟩ := List.append_of_mem entered
  obtain ⟨rest, -, -, same⟩ := ControlFlow.entries_split split
  have resumed : (buildGraph services).run .recursionError rest .planFailed state = .ok reached :=
    (same .recursionError).symm.trans ended
  match rest with
  | 0 | 1 => cases resumed
  | rest + 2 =>
      cases resumed
      rfl

/-- What the memory node saves of a failed plan shows the failure. -/
theorem failureVisible_stateToWorkflow (rejected : Rejected state) :
    FailureVisible (stateToWorkflow services.clock (planFailedNode state)) := by
  obtain ⟨validation, stored, invalid, summary⟩ := rejected.invalid
  refine ⟨validation, stored, invalid, rfl, ?_⟩
  simp only [stateToWorkflow, planFailedNode, stored]
  rfl

/-- The run of a plan that is built from its requirements never fails it. -/
theorem not_planFailed_of_built (built : BuiltInitially initial) :
    (.planFailed, state) ∉ visited services initial := by
  intro entered
  have start : outline initial services .initializeNode initial := rfl
  exact (outline_annotated built).entries start entered

/-- An execution or a refresh builds its plan anew and never fails it. -/
theorem continuation_of_planFailed {entry : EntryPoint} (begun : entry.initial = .ok initial)
    (entered : (.planFailed, state) ∈ visited services initial) :
    ∃ workflow completedTaskIds, entry = .continuation workflow completedTaskIds := by
  cases entry with
  | execution workflowId workerId claimedAt payload =>
      cases begun
      exact absurd entered (not_planFailed_of_built (builtInitially_of_none rfl))
  | refresh workflow =>
      obtain ⟨payload, -, rfl⟩ := ok_of_map begun
      exact absurd entered (not_planFailed_of_built (builtInitially_of_none rfl))
  | continuation workflow completedTaskIds => exact ⟨workflow, completedTaskIds, rfl⟩

end Rejected

section Metadata

/-- The metadata in the form in which a store returns it. -/
def storedMetadata (backend : Backend) (executionMetadata : Dict Value) : Dict Value :=
  match backend with
  | .localStore => executionMetadata.mapValues Value.toJsonMode
  | .dynamodb => (executionMetadata.mapValues Value.toJsonMode).mapValues Value.numbersAsDecimal

theorem executionMetadata_load (backend : Backend) (workflow : WorkflowState) :
    (MemoryStore.load backend workflow.jsonCopy).executionMetadata =
      storedMetadata backend workflow.executionMetadata := by
  cases backend <;> rfl

theorem planValidation_load (backend : Backend) (workflow : WorkflowState) :
    (MemoryStore.load backend workflow.jsonCopy).planValidation = workflow.planValidation := by
  cases backend <;> rfl

/-- A stored key depends on the value of the key only. -/
theorem lookup_storedMetadata_congr {backend : Backend} {first second : Dict Value} {key : String}
    (same : first.lookup key = second.lookup key) :
    (storedMetadata backend first).lookup key = (storedMetadata backend second).lookup key := by
  cases backend <;> simp only [storedMetadata, Dict.lookup_mapValues, same]

/-- The key that the memory node writes leaves the mark of the carried metadata as it is. -/
theorem failureMarked_override {backend : Backend} {summary : String} {carried : Dict Value} :
    FailureMarked summary
        (storedMetadata backend (Dict.override carried (AList.singleton "memory" (.str "saved")))) ↔
      FailureMarked summary (storedMetadata backend carried) := by
  have failed : (storedMetadata backend (Dict.override carried (AList.singleton "memory"
      (.str "saved")))).lookup "plan_failed" = (storedMetadata backend carried).lookup
        "plan_failed" :=
    lookup_storedMetadata_congr (Dict.lookup_override_singleton_of_ne _ _ (by decide))
  have reason : (storedMetadata backend (Dict.override carried (AList.singleton "memory"
      (.str "saved")))).lookup "failure_reason" = (storedMetadata backend carried).lookup
        "failure_reason" :=
    lookup_storedMetadata_congr (Dict.lookup_override_singleton_of_ne _ _ (by decide))
  constructor
  · intro marked
    exact ⟨failed ▸ marked.failed, reason ▸ marked.reason⟩
  · intro marked
    exact ⟨failed ▸ marked.failed, reason ▸ marked.reason⟩

end Metadata

section Continuation

variable {services : Services} {workflow : WorkflowState} {completedTaskIds : List String}
  {store after : MemoryStore} {record : WorkflowState} {failed : AgentState}

/-- The record of a continuation that fails its plan shows the failure just when the
metadata it was given does. -/
theorem failureVisible_continueWorkflow
    (fails : (.planFailed, failed) ∈ visited services (continueInput workflow completedTaskIds))
    (ended : continueWorkflow services workflow completedTaskIds store = (.ok record, after)) :
    (∃ stored, after.getWorkflow record.workflowId = some stored ∧ FailureVisible stored) ↔
      FailureMarked invalidSummary (storedMetadata store.backend workflow.executionMetadata) := by
  obtain ⟨reached, ran, rfl, saves⟩ := exists_run_of_continueWorkflow ended
  obtain ⟨validation, validated, invalid, summary⟩ :=
    (loopOutline_of_visited fails : Rejected failed).invalid
  obtain rfl := reached_of_planFailed fails ran
  let record := continuedWorkflow services.clock workflow
    (updateMemoryResult services.clock (planFailedNode failed))
  have validation_record : record.planValidation = some validation := validated
  have metadata_record : record.executionMetadata =
      Dict.override workflow.executionMetadata (AList.singleton "memory" (.str "saved")) := rfl
  rw [← failureMarked_override, ← metadata_record, ← executionMetadata_load, ← summary]
  constructor
  · rintro ⟨stored, present, other, held, -, marked⟩
    obtain rfl := Option.some.inj (saves.stored.symm.trans present)
    rw [planValidation_load, validation_record] at held
    cases held
    exact marked
  · intro marked
    refine ⟨_, saves.stored, validation, ?_, invalid, marked⟩
    rw [planValidation_load]
    exact validated

end Continuation

/-- **A failed plan is visible after the run** just when the record that the service
was given already says that a plan has failed for this reason. -/
theorem failure_visible {services : Services} {entry : EntryPoint} {initial failed : AgentState}
    {store after : MemoryStore} {record : WorkflowState} (begun : entry.initial = .ok initial)
    (fails : (.planFailed, failed) ∈ visited services initial)
    (ended : entry.run services store = (.ok record, after)) :
    (∃ stored, after.getWorkflow record.workflowId = some stored ∧ FailureVisible stored) ↔
      FailureMarked invalidSummary (storedMetadata store.backend entry.carried) := by
  obtain ⟨workflow, completedTaskIds, rfl⟩ := continuation_of_planFailed begun fails
  cases begun
  exact failureVisible_continueWorkflow fails ended

section Dangling

/-- A stored workflow whose candidate plan depends on an unknown task. -/
def danglingWorkflow : WorkflowState where
  workflowId := "workflow"
  originalGoal := "goal"
  candidatePlan := some danglingPlan
  createdAt := .newYear
  updatedAt := .newYear

/-- A run that continues a dangling plan fails it and ends. -/
theorem dangling_fails : (∃ failed, (.planFailed, failed) ∈
      visited silentServices (continueInput danglingWorkflow [])) ∧
    ∃ reached, reachMemory silentServices (continueInput danglingWorkflow []) = .ok reached := by
  constructor
  · have entered : Node.planFailed ∈
        (visited silentServices (continueInput danglingWorkflow [])).map Prod.fst := by
      decide +kernel
    obtain ⟨⟨node, failed⟩, member, rfl⟩ := List.mem_map.mp entered
    exact ⟨failed, member⟩
  · apply ok_of_isOk
    decide +kernel

/-- A continuation of a dangling plan ends. -/
theorem dangling_continues : ∃ record after, continueWorkflow silentServices danglingWorkflow []
    { backend := .localStore } = (.ok record, after) := by
  obtain ⟨reached, ended⟩ := dangling_fails.2
  rw [continueWorkflow, invoke, ended]
  exact ⟨_, _, rfl⟩

/-- The failure of a dangling plan is visible nowhere in the stored record. -/
theorem failure_lost_dangling : ∃ failed record after,
    (.planFailed, failed) ∈ visited silentServices (continueInput danglingWorkflow []) ∧
    continueWorkflow silentServices danglingWorkflow [] { backend := .localStore } =
      (.ok record, after) ∧
    ¬ ∃ stored, after.getWorkflow record.workflowId = some stored ∧ FailureVisible stored := by
  obtain ⟨failed, fails⟩ := dangling_fails.1
  obtain ⟨record, after, ended⟩ := dangling_continues
  refine ⟨failed, record, after, fails, ended, fun visible => ?_⟩
  have marked := ((failureVisible_continueWorkflow fails ended).mp visible).failed
  cases marked

/-- The criterion at the dangling plan. -/
theorem failure_visible_dangling : ∃ record after,
    (EntryPoint.continuation danglingWorkflow []).run silentServices { backend := .localStore } =
      (.ok record, after) ∧
    ((∃ stored, after.getWorkflow record.workflowId = some stored ∧ FailureVisible stored) ↔
      FailureMarked invalidSummary (storedMetadata .localStore ∅)) := by
  obtain ⟨failed, fails⟩ := dangling_fails.1
  obtain ⟨record, after, ended⟩ := dangling_continues
  have begun : (EntryPoint.continuation danglingWorkflow []).initial =
      .ok (continueInput danglingWorkflow []) := rfl
  exact ⟨record, after, ended, failure_visible begun fails ended⟩

end Dangling

end ActionPlan.Agent
