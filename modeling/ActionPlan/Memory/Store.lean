import ActionPlan.Models.Workflow

/-! # The memory stores

`memory/local.py` and `memory/dynamodb.py`. Both hold one JSON document for
each workflow and replace it as a whole when it is saved. An item of the
DynamoDB table can carry the lock of the worker that claimed it, and its client
returns every untyped number as a `Decimal`.
-/

namespace ActionPlan.Memory

open ActionPlan.Foundation ActionPlan.Models

/-- The configured `MEMORY_BACKEND`. -/
inductive Backend where
  | localStore
  | dynamodb
  deriving DecidableEq, Repr

/-- An item of the DynamoDB table; the document of a local store is one without a lock. -/
structure Item where
  record : WorkflowState
  executionLock : Option String := none

/-- A store with an item for each workflow. The ids are those that the service generates. Under
the name `_index` the local store keeps its index and no workflow; for every other id its
directory answers as the documents here (`LocalStore.getWorkflow_saveAll`). -/
structure MemoryStore where
  backend : Backend
  items : Dict Item := ∅

namespace MemoryStore

variable (store : MemoryStore)

/-- What `model_validate` makes of a stored document. -/
def load (backend : Backend) (record : WorkflowState) : WorkflowState :=
  match backend with
  | .localStore => record
  | .dynamodb => record.mapUntyped Value.numbersAsDecimal

/-- `save_workflow`: the whole document is replaced, the lock with it. -/
def saveWorkflow (workflow : WorkflowState) : MemoryStore :=
  { store with
    items := store.items.insert workflow.workflowId { record := workflow.jsonCopy } }

/-- `get_workflow`. -/
def getWorkflow (workflowId : String) : Option WorkflowState :=
  (store.items.lookup workflowId).map fun item => load store.backend item.record

/-- The first step of a claim: the workflow, if it is queued. -/
def claimable (workflowId : String) : Option WorkflowState :=
  (store.getWorkflow workflowId).filter fun workflow => workflow.executionState = .queued

/-- The claimed document. -/
def running (now : DateTime) (workflow : WorkflowState) : WorkflowState :=
  { workflow with executionState := .running, updatedAt := now }

/-- The conditional `update_item` of the DynamoDB claim: `none` when the condition fails. -/
def claimUpdate (workflowId workerId : String) (now : DateTime) : Option MemoryStore :=
  match store.items.lookup workflowId with
  | none => none
  | some item =>
    if item.record.executionState = .queued ∧
        (item.executionLock = none ∨ item.executionLock = some workerId) then
      some { store with
        items := store.items.insert workflowId
          { record := running now item.record, executionLock := some workerId } }
    else none

/-- The write of the local claim, under the lock that also covers its read. -/
def claimLocally (workflowId : String) (now : DateTime) : Option (WorkflowState × MemoryStore) :=
  (store.claimable workflowId).map fun workflow =>
    (running now workflow, store.saveWorkflow (running now workflow))

/-- `claim_workflow_for_execution`, run without interruption. -/
def claimWorkflowForExecution (workflowId workerId : String) (now : DateTime) :
    Option WorkflowState × MemoryStore :=
  match store.backend with
  | .localStore =>
    match store.claimLocally workflowId now with
    | none => (none, store)
    | some (workflow, claimed) => (some workflow, claimed)
  | .dynamodb =>
    match store.claimable workflowId with
    | none => (none, store)
    | some _ =>
      match store.claimUpdate workflowId workerId now with
      | none => (none, store)
      | some claimed => (claimed.getWorkflow workflowId, claimed)

section Load

variable (backend : Backend) (record : WorkflowState)

/-- Only untyped values change when a record is loaded. -/
@[simp] theorem load_workflowId : (load backend record).workflowId = record.workflowId := by
  cases backend <;> rfl

@[simp] theorem load_originalGoal : (load backend record).originalGoal = record.originalGoal := by
  cases backend <;> rfl

@[simp] theorem load_workRequest : (load backend record).workRequest = record.workRequest := by
  cases backend <;> rfl

@[simp] theorem load_requirements : (load backend record).requirements = record.requirements := by
  cases backend <;> rfl

@[simp] theorem load_candidatePlan :
    (load backend record).candidatePlan = record.candidatePlan := by
  cases backend <;> rfl

@[simp] theorem load_tasks : (load backend record).tasks = record.tasks := by
  cases backend <;> rfl

@[simp] theorem load_completedTasks :
    (load backend record).completedTasks = record.completedTasks := by
  cases backend <;> rfl

@[simp] theorem load_recommendation :
    (load backend record).recommendation = record.recommendation := by
  cases backend <;> rfl

@[simp] theorem load_version : (load backend record).version = record.version := by
  cases backend <;> rfl

@[simp] theorem load_executionState :
    (load backend record).executionState = record.executionState := by
  cases backend <;> rfl

/-- A claim can be made before or after the load. -/
theorem load_running (now : DateTime) :
    load backend (running now record) = running now (load backend record) := by
  cases backend <;> rfl

end Load

@[simp] theorem saveWorkflow_backend (workflow : WorkflowState) :
    (store.saveWorkflow workflow).backend = store.backend := rfl

/-- A saved workflow is read back in its JSON form. -/
@[simp] theorem getWorkflow_saveWorkflow (workflow : WorkflowState) :
    (store.saveWorkflow workflow).getWorkflow workflow.workflowId =
      some (load store.backend workflow.jsonCopy) := by
  simp [getWorkflow, saveWorkflow]

/-- A saved record is read back as its store loads its JSON copy. -/
theorem getWorkflow_saveWorkflow_of_eq {workflow : WorkflowState} {workflowId : String}
    (same : workflow.workflowId = workflowId) :
    (store.saveWorkflow workflow).getWorkflow workflowId =
      some (load store.backend workflow.jsonCopy) := by
  subst same
  exact store.getWorkflow_saveWorkflow workflow

/-- Saving a workflow leaves the others as they were. -/
theorem getWorkflow_saveWorkflow_of_ne {workflow : WorkflowState} {workflowId : String}
    (different : workflowId ≠ workflow.workflowId) :
    (store.saveWorkflow workflow).getWorkflow workflowId = store.getWorkflow workflowId := by
  simp [getWorkflow, saveWorkflow, AList.lookup_insert_ne different]

/-- Every document is stored under the id that it carries. -/
def Keyed : Prop :=
  ∀ workflowId workflow, store.getWorkflow workflowId = some workflow →
    workflow.workflowId = workflowId

theorem keyed_empty (backend : Backend) : ({ backend } : MemoryStore).Keyed := by
  intro workflowId workflow found
  cases found

variable {store}

/-- A save puts the record under its own id. -/
theorem Keyed.saveWorkflow (keyed : store.Keyed) (workflow : WorkflowState) :
    (store.saveWorkflow workflow).Keyed := by
  intro workflowId found present
  by_cases same : workflowId = workflow.workflowId
  · subst same
    rw [getWorkflow_saveWorkflow] at present
    cases present
    simp
  · rw [getWorkflow_saveWorkflow_of_ne _ same] at present
    exact keyed workflowId found present

/-- A workflow can be claimed while its record is queued. -/
theorem claimable_eq_some {workflowId : String} {workflow : WorkflowState} :
    store.claimable workflowId = some workflow ↔
      store.getWorkflow workflowId = some workflow ∧ workflow.executionState = .queued := by
  simp [claimable, Option.filter_eq_some_iff]

/-- A local claim succeeds on a queued workflow and leaves it running. -/
theorem claimLocally_eq_some {workflowId : String} {now : DateTime} {workflow : WorkflowState}
    {claimed : MemoryStore} (claim : store.claimLocally workflowId now = some (workflow, claimed)) :
    ∃ queued, store.getWorkflow workflowId = some queued ∧ queued.executionState = .queued ∧
      claimed = store.saveWorkflow (running now queued) := by
  obtain ⟨queued, found, same⟩ := Option.map_eq_some_iff.mp claim
  cases same
  exact ⟨queued, (claimable_eq_some.mp found).1, (claimable_eq_some.mp found).2, rfl⟩

/-- A conditional update succeeds on a queued workflow and leaves it running. -/
theorem claimUpdate_eq_some {workflowId workerId : String} {now : DateTime} {claimed : MemoryStore}
    (claim : store.claimUpdate workflowId workerId now = some claimed) :
    ∃ record, store.getWorkflow workflowId = some (load store.backend record) ∧
      record.executionState = .queued ∧
      claimed = { store with
        items := store.items.insert workflowId
          { record := running now record, executionLock := some workerId } } := by
  unfold claimUpdate at claim
  split at claim
  · cases claim
  · rename_i item present
    split at claim
    · rename_i allowed
      cases claim
      exact ⟨item.record, by rw [getWorkflow, present, Option.map_some], allowed.1, rfl⟩
    · cases claim

section Updated

variable {workflowId : String} {item : Item}

@[simp] theorem getWorkflow_insert :
    ({ store with items := store.items.insert workflowId item } : MemoryStore).getWorkflow
      workflowId = some (load store.backend item.record) := by
  simp [getWorkflow]

/-- The other workflows are not affected by an item. -/
theorem getWorkflow_insert_of_ne {other : String} (different : other ≠ workflowId) :
    ({ store with items := store.items.insert workflowId item } : MemoryStore).getWorkflow other =
      store.getWorkflow other := by
  rw [getWorkflow, AList.lookup_insert_ne different, getWorkflow]

theorem Keyed.insert (keyed : store.Keyed) (same : item.record.workflowId = workflowId) :
    ({ store with items := store.items.insert workflowId item } : MemoryStore).Keyed := by
  intro other workflow present
  by_cases key : other = workflowId
  · subst key
    rw [getWorkflow_insert] at present
    cases present
    rw [load_workflowId, same]
  · rw [getWorkflow, AList.lookup_insert_ne key] at present
    exact keyed other workflow present

end Updated

/-- What a claim does to the store: nothing, or it leaves a queued record running. -/
inductive Claim (store : MemoryStore) (workflowId : String) (now : DateTime) :
    Option WorkflowState × MemoryStore → Prop
  | refused : Claim store workflowId now (none, store)
  | claimed {record found after : WorkflowState} {next : MemoryStore}
      (present : store.getWorkflow workflowId = some record)
      (queued : record.executionState = .queued)
      (stored : next.getWorkflow workflowId = some after)
      (running : after = running now record ∨ after = (running now record).jsonCopy)
      (others : ∀ other, other ≠ workflowId → next.getWorkflow other = store.getWorkflow other)
      (backend : next.backend = store.backend) :
      Claim store workflowId now (some found, next)

/-- Every claim is refused or leaves its record running. -/
theorem claim_cases {workflowId : String}
    (named : ∀ record, store.getWorkflow workflowId = some record → record.workflowId = workflowId)
    (workerId : String) (now : DateTime) :
    Claim store workflowId now (store.claimWorkflowForExecution workflowId workerId now) := by
  rw [claimWorkflowForExecution]
  cases kind : store.backend with
  | localStore =>
      cases claim : store.claimLocally workflowId now with
      | none => exact .refused
      | some claimed =>
          obtain ⟨workflow, next⟩ := claimed
          obtain ⟨queued, present, state, rfl⟩ := claimLocally_eq_some claim
          have same : (running now queued).workflowId = workflowId := named queued present
          refine .claimed present state (getWorkflow_saveWorkflow_of_eq _ same) (.inr ?_) ?_ rfl
          · rw [kind]
            rfl
          · intro other different
            exact getWorkflow_saveWorkflow_of_ne _ (same ▸ different)
  | dynamodb =>
      cases claimable : store.claimable workflowId with
      | none => exact .refused
      | some workflow =>
          cases claim : store.claimUpdate workflowId workerId now with
          | none => exact .refused
          | some next =>
              obtain ⟨record, present, state, rfl⟩ := claimUpdate_eq_some claim
              have stored : ({ store with
                  items := store.items.insert workflowId
                    { record := running now record, executionLock := some workerId } } :
                  MemoryStore).getWorkflow workflowId =
                    some (running now (load store.backend record)) := by
                rw [getWorkflow_insert, load_running]
              dsimp only
              rw [stored]
              exact .claimed present (by rw [load_executionState, state]) stored (.inl rfl)
                (fun other different => getWorkflow_insert_of_ne different) rfl

/-- A queued workflow that no worker has locked can be claimed. -/
theorem claim_of_unlocked {workflowId : String} {item : Item}
    (stored : store.items.lookup workflowId = some item) (unlocked : item.executionLock = none)
    (queued : item.record.executionState = .queued) (workerId : String) (now : DateTime) :
    ∃ found next, store.claimWorkflowForExecution workflowId workerId now = (some found, next) := by
  have claimable : store.claimable workflowId = some (load store.backend item.record) :=
    claimable_eq_some.mpr ⟨by rw [getWorkflow, stored, Option.map_some], by simpa using queued⟩
  rw [claimWorkflowForExecution]
  cases store.backend with
  | localStore =>
      rw [claimLocally, claimable]
      exact ⟨_, _, rfl⟩
  | dynamodb =>
      simp only [claimable, claimUpdate, stored, queued, unlocked, true_or, and_self, if_true,
        getWorkflow_insert]
      exact ⟨_, _, rfl⟩

end MemoryStore

end ActionPlan.Memory
