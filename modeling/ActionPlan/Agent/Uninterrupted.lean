import ActionPlan.Agent.Operations
import ActionPlan.Agent.Outcomes

/-! # Operations that are not interrupted

The steps of an operation, taken one after the other by a thread that runs
alone, leave the store that the function of the service leaves.
-/

namespace ActionPlan.Agent.Operations

open ActionPlan.Foundation ActionPlan.Models ActionPlan.Memory ActionPlan.Api

section Alone

variable {workflowId : String} {operation after : Operation} {shared next : Shared}
  {store : MemoryStore}

/-- Alone, the operation can end with the given store. -/
def EndsAlone (workflowId : String) (operation : Operation) (shared : Shared)
    (store : MemoryStore) : Prop :=
  ∃ claimed last, (operations workflowId).solo.Run TransitionSystem.unguarded
    (operation, shared) (.finished claimed, last) ∧ last.store = store

theorem EndsAlone.finished (claimed : Bool) (same : shared.store = store) :
    EndsAlone workflowId (.finished claimed) shared store :=
  ⟨claimed, shared, .refl, same⟩

/-- An operation ends as it does after its next step. -/
theorem EndsAlone.step (action : Action)
    (stepped : (operations workflowId).step operation shared action = some (after, next))
    (ends : EndsAlone workflowId after next store) :
    EndsAlone workflowId operation shared store := by
  obtain ⟨claimed, last, run, same⟩ := ends
  exact ⟨claimed, last, run.head ⟨action, trivial, stepped⟩, same⟩

theorem endsAlone_recovering (claimed : Bool) (failure : Exn) :
    EndsAlone workflowId (.recovering claimed failure) shared
      (recovered workflowId failure shared.store) := by
  rw [recovered]
  cases found : shared.store.getWorkflow workflowId with
  | none =>
      have ended : (operations workflowId).step (.recovering claimed failure) shared .recover =
          some (.finished claimed, shared.observe workflowId) := by
        simp [operations, readStep, Operation.reader, found, Operation.claimed]
      exact .step .recover ended (.finished claimed rfl)
  | some workflow =>
      have read : (operations workflowId).step (.recovering claimed failure) shared .recover =
          some (.failing claimed failure workflow shared.saves, shared.observe workflowId) := by
        simp [operations, readStep, Operation.reader, found]
      exact .step .recover read (.step .save rfl (.finished claimed rfl))

/-- The graph run of an operation fails. -/
theorem endsAlone_failed {services : Services} {initial : AgentState} {failure : Exn}
    (input : operation.input workflowId = some (.ok initial))
    (failed : reachMemory services initial = .error failure)
    (ends : EndsAlone workflowId (operation.raised failure) shared store) :
    EndsAlone workflowId operation shared store :=
  .step (.invoke services) (by simp [operations, invokeStep, input, failed]) ends

/-- The graph run of an operation ends, and the operation saves its result. -/
theorem endsAlone_copied {services : Services} {initial reached : AgentState}
    {workflow : WorkflowState} (input : operation.input workflowId = some (.ok initial))
    (ran : reachMemory services initial = .ok reached)
    (final : (operation.invoked services.clock (updateMemoryResult services.clock reached)
      (shared.saves + 1)).final = some (.ok workflow)) :
    EndsAlone workflowId operation shared
      ((shared.store.saveWorkflow (stateToWorkflow services.clock reached)).saveWorkflow
        workflow) := by
  let middle := operation.invoked services.clock (updateMemoryResult services.clock reached)
    (shared.saves + 1)
  let copied := shared.copy (stateToWorkflow services.clock reached)
  have invoked : (operations workflowId).step operation shared (.invoke services) =
      some (middle, copied) := by
    simp [operations, invokeStep, input, ran, middle, copied]
  have saved : (operations workflowId).step middle copied .save =
      some (.finished middle.claimed, copied.finish middle workflow) := by
    simp [operations, saveStep, middle, final]
  exact .step (.invoke services) invoked (.step .save saved (.finished middle.claimed rfl))

theorem endsAlone_raised {attempt : Attempt} {failure : Exn} (claimed : Bool)
    (raised : operation.raised failure =
      if attempt.background then .recovering claimed failure else .finished claimed)
    (same : shared.store = store) :
    EndsAlone workflowId (operation.raised failure) shared
      (concluded workflowId attempt.background (.error failure, store)) := by
  subst same
  rw [raised, concluded]
  cases attempt.background with
  | true => exact endsAlone_recovering claimed failure
  | false => exact .finished claimed rfl

/-- A claimed attempt ends as `_execute_workflow_sync` does after the claim. -/
theorem endsAlone_running (services : Services) (attempt : Attempt) (saves : Nat)
    (same : shared.store = store) :
    EndsAlone workflowId (.running attempt saves) shared
      (concluded workflowId attempt.background
        (runExecution services workflowId attempt.workerId attempt.payload store)) := by
  subst same
  rw [runExecution, invoke]
  cases ran : reachMemory services
      (executionInput workflowId attempt.workerId attempt.payload) with
  | error failure =>
      have raised : (Operation.running attempt saves).raised failure =
        if attempt.background then .recovering true failure else .finished true := rfl
      exact endsAlone_failed rfl ran (endsAlone_raised true raised rfl)
  | ok reached => exact endsAlone_copied rfl ran rfl

/-- An attempt ends as `_execute_workflow_sync` does, in the background with the
handling of its errors. -/
theorem endsAlone_attempting (services : Services) (attempt : Attempt)
    (same : shared.store = store) :
    EndsAlone workflowId (.attempting attempt) shared
      (concluded workflowId attempt.background (executeWorkflowSync services workflowId
        attempt.workerId attempt.claimedAt attempt.payload store)) := by
  subst same
  have refused : ∀ (operation : Operation) (next : Shared), operation.raised (refusal workflowId) =
        (Operation.attempting attempt).raised (refusal workflowId) →
      next.store = shared.store → EndsAlone workflowId (operation.raised (refusal workflowId)) next
        (concluded workflowId attempt.background (.error (refusal workflowId), shared.store)) :=
    fun operation next raised same => endsAlone_raised false raised same
  rw [executeWorkflowSync, MemoryStore.claimWorkflowForExecution]
  cases backend : shared.store.backend with
  | localStore =>
      cases claim : shared.store.claimLocally workflowId attempt.claimedAt with
      | none =>
          refine .step .claim ?_ (refused (.attempting attempt) (shared.observe workflowId) rfl rfl)
          simp [operations, claimStep, backend, claim]
      | some claimed =>
          have running : (operations workflowId).step (.attempting attempt) shared .claim =
              some (.running attempt (shared.saves + 1),
                (shared.observe workflowId).claim claimed.2) := by
            simp [operations, claimStep, backend, claim]
          exact .step .claim running (endsAlone_running services attempt _ rfl)
  | dynamodb =>
      cases claimable : shared.store.claimable workflowId with
      | none =>
          refine .step .claim ?_ (refused (.attempting attempt) (shared.observe workflowId) rfl rfl)
          simp [operations, claimStep, backend, claimable]
      | some workflow =>
          have selected : (operations workflowId).step (.attempting attempt) shared .claim =
              some (.selected attempt, shared.observe workflowId) := by
            simp [operations, claimStep, backend, claimable]
          refine .step .claim selected ?_
          cases claim : shared.store.claimUpdate workflowId attempt.workerId attempt.claimedAt with
          | none =>
              refine .step .claim ?_
                (refused (.selected attempt) (shared.observe workflowId) rfl rfl)
              simp [operations, claimStep, Shared.observe, claim]
          | some claimed =>
              obtain ⟨record, -, -, stored⟩ := MemoryStore.claimUpdate_eq_some claim
              have found : ∃ workflow, claimed.getWorkflow workflowId = some workflow := by
                rw [stored]
                exact ⟨_, MemoryStore.getWorkflow_insert⟩
              obtain ⟨workflow, found⟩ := found
              simp only [found]
              have updated : (operations workflowId).step (.selected attempt)
                  (shared.observe workflowId) .claim = some (.updated attempt (shared.saves + 1),
                    (shared.observe workflowId).claim claimed) := by
                simp [operations, claimStep, Shared.observe, claim]
              exact .step .claim updated
                (.step .claim rfl (endsAlone_running services attempt _ rfl))

/-- A synchronous attempt ends as `_execute_workflow_sync`. -/
theorem endsAlone_foreground (services : Services) {attempt : Attempt}
    (foreground : attempt.background = false) :
    EndsAlone workflowId .idle shared
      (executeWorkflowSync services workflowId attempt.workerId attempt.claimedAt attempt.payload
        shared.store).2 := by
  have ends : EndsAlone workflowId (.attempting attempt) shared _ :=
    endsAlone_attempting services attempt rfl
  rw [foreground, concluded_foreground] at ends
  exact .step (.start attempt) rfl ends

/-- An attempt of a thread ends as `execute_in_background`. -/
theorem endsAlone_background (services : Services) {attempt : Attempt}
    (background : attempt.background = true) :
    EndsAlone workflowId .idle shared
      (executeInBackground services workflowId attempt.workerId attempt.claimedAt attempt.payload
        shared.store) := by
  have ends : EndsAlone workflowId (.attempting attempt) shared _ :=
    endsAlone_attempting services attempt rfl
  rw [background, concluded_background] at ends
  exact .step (.start attempt) rfl ends

/-- A delivery ends as `execute_queued_workflow`. -/
theorem endsAlone_deliver (services : Services) (workerId : String) (claimedAt : DateTime) :
    EndsAlone workflowId .idle shared
      (executeQueuedWorkflow services workflowId workerId claimedAt shared.store).2 := by
  refine .step (.deliver workerId claimedAt) rfl ?_
  unfold executeQueuedWorkflow
  cases shared.store.getWorkflow workflowId with
  | none => exact .finished false rfl
  | some workflow =>
      dsimp only
      cases goalInput workflow.originalGoal with
      | error failure => exact .finished false rfl
      | ok payload =>
          have ends : EndsAlone workflowId
              (.attempting { payload, workerId, claimedAt, background := false })
              (shared.observe workflowId) _ :=
            endsAlone_attempting services _ rfl
          rwa [concluded_foreground] at ends

/-- A refresh ends as `rebuild_workflow` of the stored record. -/
theorem endsAlone_refresh {workflow : WorkflowState} (services : Services)
    (found : shared.store.getWorkflow workflowId = some workflow) :
    EndsAlone workflowId .idle shared (rebuildWorkflow services workflow shared.store).2 := by
  have read : (operations workflowId).step .idle shared .refresh =
      some (.refreshing workflow shared.saves, shared.observe workflowId) := by
    simp [operations, readStep, Operation.reader, found]
  refine .step .refresh read ?_
  have input : (Operation.refreshing workflow shared.saves).input workflowId =
      some ((rebuildPayload workflow).map (rebuildInput workflow)) := rfl
  unfold rebuildWorkflow invoke
  cases made : rebuildPayload workflow with
  | error failure =>
      rw [made] at input
      have raised : (operations workflowId).step (.refreshing workflow shared.saves)
          (shared.observe workflowId) (.invoke services) =
            some (.finished false, shared.observe workflowId) := by
        simp only [operations, invokeStep, input]
        rfl
      exact .step (.invoke services) raised (.finished false rfl)
  | ok payload =>
      rw [made] at input
      dsimp only
      cases ran : reachMemory services (rebuildInput workflow payload) with
      | error failure => exact endsAlone_failed input ran (.finished false rfl)
      | ok reached => exact endsAlone_copied input ran rfl

/-- A continuation ends as `continue_workflow` of the stored record. -/
theorem endsAlone_resume {workflow : WorkflowState} (services : Services)
    (completedTaskIds : List String)
    (found : shared.store.getWorkflow workflowId = some workflow) :
    EndsAlone workflowId .idle shared
      (continueWorkflow services workflow completedTaskIds shared.store).2 := by
  have read : (operations workflowId).step .idle shared (.resume completedTaskIds) =
      some (.continuing workflow completedTaskIds shared.saves, shared.observe workflowId) := by
    simp [operations, readStep, Operation.reader, found]
  refine .step (.resume completedTaskIds) read ?_
  unfold continueWorkflow invoke
  cases ran : reachMemory services (continueInput workflow completedTaskIds) with
  | error failure => exact endsAlone_failed rfl ran (.finished false rfl)
  | ok reached => exact endsAlone_copied rfl ran rfl

/-- **An operation that is not interrupted runs its function.** What an operation
can do alone is a run of the interleaving in which the other threads stand still. -/
theorem run_of_endsAlone {Thread : Type*} [DecidableEq Thread]
    {source : Configuration Thread Shared Operation} {thread : Thread}
    (ends : EndsAlone workflowId (source.locals thread) source.shared store) :
    ∃ target, (operations workflowId).system.Run TransitionSystem.unguarded source target ∧
      target.shared.store = store ∧ (target.locals thread).active = false ∧
      ∀ other, other ≠ thread → target.locals other = source.locals other := by
  obtain ⟨claimed, last, run, same⟩ := ends
  refine ⟨_, Interleaving.run_of_solo run, same, ?_, ?_⟩
  · simp [Operation.active]
  · intro other different
    exact Function.update_of_ne different _ _

end Alone

end ActionPlan.Agent.Operations
