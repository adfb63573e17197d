import ActionPlan.Agent.Records

/-! # What the service leaves in the memory store

An operation that runs the graph either fails and leaves the store alone or
saves twice, and the second save is what remains. A new workflow that fails to
execute keeps the record that it was claimed with.
-/

namespace ActionPlan.Agent

open ActionPlan.Foundation ActionPlan.Models ActionPlan.Memory

/-- The store afterwards holds a workflow, and the other records are as before. -/
structure Saves (store next : MemoryStore) (workflow : WorkflowState) : Prop where
  stored : next.getWorkflow workflow.workflowId =
    some (MemoryStore.load store.backend workflow.jsonCopy)
  others : ∀ other, other ≠ workflow.workflowId →
    next.getWorkflow other = store.getWorkflow other
  backend : next.backend = store.backend

theorem saves_saveWorkflow (store : MemoryStore) (workflow : WorkflowState) :
    Saves store (store.saveWorkflow workflow) workflow :=
  ⟨store.getWorkflow_saveWorkflow workflow,
    fun _ different => MemoryStore.getWorkflow_saveWorkflow_of_ne _ different, rfl⟩

/-- The later of two saves of one workflow remains. -/
theorem Saves.saveWorkflow {store next : MemoryStore} {first : WorkflowState}
    (saves : Saves store next first) {second : WorkflowState}
    (same : second.workflowId = first.workflowId) :
    Saves store (next.saveWorkflow second) second := by
  refine ⟨?_, ?_, saves.backend⟩
  · rw [MemoryStore.getWorkflow_saveWorkflow, saves.backend]
  · intro other different
    rw [MemoryStore.getWorkflow_saveWorkflow_of_ne _ different,
      saves.others other (same ▸ different)]

variable (services : Services) (store : MemoryStore)

theorem invoke_cases (initial : AgentState) :
    (∃ failure, reachMemory services initial = .error failure ∧
        invoke services initial store = (.error failure, store)) ∨
      ∃ reached, reachMemory services initial = .ok reached ∧
        invoke services initial store = (.ok (updateMemoryResult services.clock reached),
          store.saveWorkflow (stateToWorkflow services.clock reached)) := by
  rw [invoke]
  cases reachMemory services initial with
  | error failure => exact .inl ⟨failure, rfl, rfl⟩
  | ok reached => exact .inr ⟨reached, rfl, rfl⟩

/-- What a refresh leaves. -/
theorem rebuildWorkflow_cases (workflow : WorkflowState) :
    (∃ failure, rebuildWorkflow services workflow store = (.error failure, store)) ∨
      ∃ payload reached next, rebuildPayload workflow = .ok payload ∧
        reachMemory services (rebuildInput workflow payload) = .ok reached ∧
        rebuildWorkflow services workflow store = (.ok (rebuiltWorkflow services.clock workflow
          (updateMemoryResult services.clock reached)), next) ∧
        Saves store next (rebuiltWorkflow services.clock workflow
          (updateMemoryResult services.clock reached)) := by
  rw [rebuildWorkflow]
  cases rebuildPayload workflow with
  | error failure => exact .inl ⟨failure, rfl⟩
  | ok payload =>
      dsimp only
      rcases invoke_cases services store (rebuildInput workflow payload) with
        ⟨failure, -, failed⟩ | ⟨reached, ended, invoked⟩
      · exact .inl ⟨failure, by rw [failed]⟩
      · refine .inr ⟨payload, reached, _, rfl, ended, by rw [invoked], ?_⟩
        exact (saves_saveWorkflow store _).saveWorkflow rfl

/-- What a continuation leaves. -/
theorem continueWorkflow_cases (workflow : WorkflowState) (completedTaskIds : List String) :
    (∃ failure, continueWorkflow services workflow completedTaskIds store =
        (.error failure, store)) ∨
      ∃ reached next, reachMemory services (continueInput workflow completedTaskIds) =
          .ok reached ∧
        continueWorkflow services workflow completedTaskIds store =
          (.ok (continuedWorkflow services.clock workflow
            (updateMemoryResult services.clock reached)), next) ∧
        Saves store next (continuedWorkflow services.clock workflow
          (updateMemoryResult services.clock reached)) := by
  rw [continueWorkflow]
  rcases invoke_cases services store (continueInput workflow completedTaskIds) with
    ⟨failure, -, failed⟩ | ⟨reached, ended, invoked⟩
  · exact .inl ⟨failure, by rw [failed]⟩
  · refine .inr ⟨reached, _, ended, by rw [invoked], ?_⟩
    exact (saves_saveWorkflow store _).saveWorkflow rfl

section Success

variable {services : Services} {store after : MemoryStore} {workflow saved : WorkflowState}

/-- The run behind a refresh that succeeds. -/
theorem exists_run_of_rebuildWorkflow
    (success : rebuildWorkflow services workflow store = (.ok saved, after)) :
    ∃ payload reached, rebuildPayload workflow = .ok payload ∧
      reachMemory services (rebuildInput workflow payload) = .ok reached ∧
      saved = rebuiltWorkflow services.clock workflow
        (updateMemoryResult services.clock reached) := by
  rcases rebuildWorkflow_cases services store workflow with
    ⟨failure, raised⟩ | ⟨payload, reached, next, compiled, ran, succeeded, -⟩
  · cases raised.symm.trans success
  · cases succeeded.symm.trans success
    exact ⟨payload, reached, compiled, ran, rfl⟩

/-- The run behind a continuation that succeeds. -/
theorem exists_run_of_continueWorkflow {completedTaskIds : List String}
    (success : continueWorkflow services workflow completedTaskIds store = (.ok saved, after)) :
    ∃ reached, reachMemory services (continueInput workflow completedTaskIds) = .ok reached ∧
      saved = continuedWorkflow services.clock workflow
        (updateMemoryResult services.clock reached) ∧ Saves store after saved := by
  rcases continueWorkflow_cases services store workflow completedTaskIds with
    ⟨failure, raised⟩ | ⟨reached, next, ran, succeeded, saves⟩
  · cases raised.symm.trans success
  · cases succeeded.symm.trans success
    exact ⟨reached, ran, rfl, saves⟩

/-- The run behind an execution that succeeds. -/
theorem exists_run_of_executeWorkflowSync {workflowId workerId : String} {claimedAt : DateTime}
    {payload : WorkRequestInput}
    (success : executeWorkflowSync services workflowId workerId claimedAt payload store =
      (.ok saved, after)) :
    ∃ reached, reachMemory services (executionInput workflowId workerId payload) = .ok reached ∧
      saved = executedWorkflow services.clock (updateMemoryResult services.clock reached) := by
  rw [executeWorkflowSync] at success
  split at success
  · cases success
  · rename_i found claimed _
    rw [runExecution] at success
    rcases invoke_cases services claimed (executionInput workflowId workerId payload) with
      ⟨failure, -, raised⟩ | ⟨reached, ran, invoked⟩
    · rw [raised] at success
      cases success
    · rw [invoked] at success
      cases success
      exact ⟨reached, ran, rfl⟩

end Success

theorem workflowId_executedWorkflow {services : Services} {workflowId workerId : String}
    {request : WorkRequestInput} {reached : AgentState}
    (ran : reachMemory services (executionInput workflowId workerId request) = .ok reached) :
    (executedWorkflow services.clock (updateMemoryResult services.clock reached)).workflowId =
      workflowId :=
  workflowId_toWorkflowState (workflowId_of_identity (reachMemory_identity ran)) services.clock

section Creation

variable (creation : Creation) (payload : WorkRequestInput) (workerId : String) (now : DateTime)

/-- A new record holds nothing that a store would change. -/
theorem load_queuedWorkflow (backend : Backend) :
    MemoryStore.load backend (queuedWorkflow creation payload).jsonCopy =
      queuedWorkflow creation payload := by
  cases backend <;> rfl

theorem saves_queuedWorkflow :
    (store.saveWorkflow (queuedWorkflow creation payload)).getWorkflow creation.workflowId =
      some (queuedWorkflow creation payload) :=
  (store.getWorkflow_saveWorkflow (queuedWorkflow creation payload)).trans
    (congrArg some (load_queuedWorkflow creation payload store.backend))

/-- A new workflow can be claimed and is running then. -/
theorem claim_queuedWorkflow : ∃ found next,
    (store.saveWorkflow (queuedWorkflow creation payload)).claimWorkflowForExecution
        creation.workflowId workerId now = (some found, next) ∧
      next.backend = store.backend ∧
      next.getWorkflow creation.workflowId =
        some (MemoryStore.running now (queuedWorkflow creation payload)) ∧
      ∀ other, other ≠ creation.workflowId →
        next.getWorkflow other = store.getWorkflow other := by
  have created := saves_queuedWorkflow store creation payload
  have item : (store.saveWorkflow (queuedWorkflow creation payload)).items.lookup
      creation.workflowId = some { record := (queuedWorkflow creation payload).jsonCopy } :=
    AList.lookup_insert store.items
  obtain ⟨found, next, claim⟩ := MemoryStore.claim_of_unlocked item rfl rfl workerId now
  have claims := MemoryStore.claim_cases
    (fun record present => by
      obtain rfl := Option.some.inj (created.symm.trans present)
      rfl)
    workerId now
  refine ⟨found, next, claim, ?_⟩
  rw [claim] at claims
  cases claims with
  | claimed present queued stored running others backend =>
      obtain rfl := Option.some.inj (created.symm.trans present)
      refine ⟨backend, ?_, fun other different => (others other different).trans
        ((saves_saveWorkflow store _).others other different)⟩
      rcases running with rfl | rfl
      · exact stored
      · exact stored

/-- What the execution of a request leaves of a workflow that has been created. -/
theorem executeWorkflowSync_cases (request : WorkRequestInput) :
    (∃ failure next,
        reachMemory services (executionInput creation.workflowId workerId request) =
          .error failure ∧
        executeWorkflowSync services creation.workflowId workerId now request
          (store.saveWorkflow (queuedWorkflow creation payload)) = (.error failure, next) ∧
        next.getWorkflow creation.workflowId =
          some (MemoryStore.running now (queuedWorkflow creation payload)) ∧
        ∀ other, other ≠ creation.workflowId →
          next.getWorkflow other = store.getWorkflow other) ∨
      ∃ reached next,
        reachMemory services (executionInput creation.workflowId workerId request) =
          .ok reached ∧
        executeWorkflowSync services creation.workflowId workerId now request
          (store.saveWorkflow (queuedWorkflow creation payload)) =
            (.ok (executedWorkflow services.clock (updateMemoryResult services.clock reached)),
              next) ∧
        Saves store next
          (executedWorkflow services.clock (updateMemoryResult services.clock reached)) := by
  obtain ⟨found, next, claim, backend, running, others⟩ :=
    claim_queuedWorkflow store creation payload workerId now
  simp only [executeWorkflowSync, claim, runExecution]
  rcases invoke_cases services next (executionInput creation.workflowId workerId request) with
    ⟨failure, failed, invoked⟩ | ⟨reached, ended, invoked⟩
  · rw [invoked]
    exact .inl ⟨failure, next, failed, rfl, running, others⟩
  · rw [invoked]
    let executed := executedWorkflow services.clock (updateMemoryResult services.clock reached)
    have id : executed.workflowId = creation.workflowId := workflowId_executedWorkflow ended
    have saves : Saves next ((next.saveWorkflow
        (stateToWorkflow services.clock reached)).saveWorkflow executed) executed :=
      (saves_saveWorkflow next _).saveWorkflow rfl
    refine .inr ⟨reached, _, ended, rfl, ?_, ?_, saves.backend.trans backend⟩
    · rw [saves.stored, backend]
    · intro other different
      rw [saves.others other different, others other (id ▸ different)]

end Creation

section Conclusion

variable (workflowId : String)

/-- The store once `execute_in_background` has handled an error. -/
def recovered (failure : Exn) (store : MemoryStore) : MemoryStore :=
  match store.getWorkflow workflowId with
  | none => store
  | some workflow => store.saveWorkflow (failedWorkflow failure workflow)

/-- The store that an execution with the given outcome leaves. -/
def concluded (background : Bool) : Except Exn WorkflowState × MemoryStore → MemoryStore
  | (.ok _, store) => store
  | (.error failure, store) => if background then recovered workflowId failure store else store

variable {workflowId}

theorem concluded_background (workerId : String) (claimedAt : DateTime)
    (payload : WorkRequestInput) :
    concluded workflowId true
        (executeWorkflowSync services workflowId workerId claimedAt payload store) =
      executeInBackground services workflowId workerId claimedAt payload store := by
  rw [executeInBackground]
  rcases executeWorkflowSync services workflowId workerId claimedAt payload store with
    ⟨failure | workflow, left⟩ <;> rfl

theorem concluded_foreground (outcome : Except Exn WorkflowState × MemoryStore) :
    concluded workflowId false outcome = outcome.2 := by
  obtain ⟨failure | workflow, left⟩ := outcome <;> rfl

end Conclusion

end ActionPlan.Agent
