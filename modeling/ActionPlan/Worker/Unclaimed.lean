import ActionPlan.Worker.Handler

/-! # Attempts whose claim is refused

A workflow that does not exist, that is running or ended, or that another worker
claims meanwhile is not claimed. The places that start an execution see this as
an absent record, as an error, or as an error that they record.
-/

namespace ActionPlan.Worker

open ActionPlan.Foundation ActionPlan.Models ActionPlan.Memory ActionPlan.Agent

/-- The stores that an attempt finds at its accesses. Others may write between
two accesses, so they can be any; the documents stay under their ids. -/
structure Finds where
  /-- At `get_workflow` of `execute_queued_workflow`. -/
  read : MemoryStore
  /-- At the claim; on DynamoDB at its read. -/
  claim : MemoryStore
  /-- At the conditional update of the claim on DynamoDB. -/
  update : MemoryStore
  /-- At `get_workflow` of the error handler of the background thread. -/
  recovery : MemoryStore
  /-- At `save_workflow` of that error handler. -/
  mark : MemoryStore
  keyed : recovery.Keyed

/-- How an attempt ends: what it returns, and the stores before and after each of its writes. -/
structure Ended where
  outcome : Except Exn (Option WorkflowState)
  writes : List (MemoryStore × MemoryStore) := []

/-- No write changes the record. -/
def Ended.Quiet (ended : Ended) (workflowId : String) : Prop :=
  ∀ write ∈ ended.writes, write.2.getWorkflow workflowId = write.1.getWorkflow workflowId

/-- The error of a refused claim. -/
def claimError (workflowId : String) : Exn :=
  .runtimeError ("Could not claim workflow " ++ workflowId ++ " for execution")

namespace Finds

variable (finds : Finds) (services : Services) (workflowId workerId : String) (now : DateTime)

/-- The write of the claim, unless it is refused. -/
def claimed : Option (MemoryStore × MemoryStore) :=
  match finds.claim.backend with
  | .localStore =>
    (finds.claim.claimLocally workflowId now).map fun result => (finds.claim, result.2)
  | .dynamodb =>
    match finds.claim.claimable workflowId with
    | none => none
    | some _ =>
      (finds.update.claimUpdate workflowId workerId now).map fun result => (finds.update, result)

/-- `_execute_workflow_sync`. -/
def executeSync (payload : WorkRequestInput) : Ended :=
  match finds.claimed workflowId workerId now with
  | none => { outcome := .error (claimError workflowId) }
  | some write =>
    let (outcome, store) := runExecution services workflowId workerId payload write.2
    { outcome := outcome.map some, writes := [write, (write.2, store)] }

/-- `execute_queued_workflow`. -/
def executeQueued : Ended :=
  match finds.read.getWorkflow workflowId with
  | none => { outcome := .ok none }
  | some workflow =>
    match goalInput workflow.originalGoal with
    | .error failure => { outcome := .error failure }
    | .ok payload => finds.executeSync services workflowId workerId now payload

/-- `execute_in_background`. -/
def executeInBackground (payload : WorkRequestInput) : Ended :=
  let ended := finds.executeSync services workflowId workerId now payload
  match ended.outcome with
  | .ok _ => ended
  | .error failure =>
    match finds.recovery.getWorkflow workflowId with
    | none => ended
    | some workflow =>
      { ended with
        writes := ended.writes ++
          [(finds.mark, finds.mark.saveWorkflow (failedWorkflow failure workflow))] }

end Finds

section Alone

variable (services : Services) (workflowId workerId : String) (now : DateTime)

/-- What an attempt finds when nobody else writes: at the end the store that it left. -/
def alone (store final : MemoryStore) (keyed : final.Keyed) : Finds where
  read := store
  claim := store
  update := store
  recovery := final
  mark := final
  keyed

/-- The store after the writes. -/
def Ended.final (ended : Ended) (store : MemoryStore) : MemoryStore :=
  (ended.writes.getLast?.map Prod.snd).getD store

theorem claimed_alone (store final : MemoryStore) (keyed : final.Keyed) :
    ((alone store final keyed).claimed workflowId workerId now = none ∧
      store.claimWorkflowForExecution workflowId workerId now = (none, store)) ∨
    ∃ found next, (alone store final keyed).claimed workflowId workerId now = some (store, next) ∧
      store.claimWorkflowForExecution workflowId workerId now = (some found, next) := by
  unfold Finds.claimed MemoryStore.claimWorkflowForExecution alone
  cases store.backend with
  | localStore =>
      dsimp only
      cases store.claimLocally workflowId now with
      | none => exact .inl ⟨rfl, rfl⟩
      | some result => exact .inr ⟨result.1, result.2, rfl, rfl⟩
  | dynamodb =>
      dsimp only
      cases store.claimable workflowId with
      | none => exact .inl ⟨rfl, rfl⟩
      | some workflow =>
          dsimp only
          cases claim : store.claimUpdate workflowId workerId now with
          | none => exact .inl ⟨rfl, rfl⟩
          | some result =>
              obtain ⟨record, -, -, same⟩ := MemoryStore.claimUpdate_eq_some claim
              have fetched : ∃ found, result.getWorkflow workflowId = some found :=
                ⟨_, by rw [same, MemoryStore.getWorkflow_insert]⟩
              obtain ⟨found, fetched⟩ := fetched
              exact .inr ⟨found, result, rfl, congrArg (·, result) fetched⟩

/-- An attempt alone is the attempt of the service. -/
theorem executeSync_alone (payload : WorkRequestInput) (store final : MemoryStore)
    (keyed : final.Keyed) :
    ((alone store final keyed).executeSync services workflowId workerId now payload).outcome =
        (executeWorkflowSync services workflowId workerId now payload store).1.map some ∧
      ((alone store final keyed).executeSync services workflowId workerId now payload).final
          store =
        (executeWorkflowSync services workflowId workerId now payload store).2 := by
  unfold Finds.executeSync executeWorkflowSync
  rcases claimed_alone workflowId workerId now store final keyed with
    ⟨none, refused⟩ | ⟨found, next, some, claimed⟩
  · rw [none, refused]
    exact ⟨rfl, rfl⟩
  · rw [some, claimed]
    exact ⟨rfl, rfl⟩

theorem executeQueued_alone (store final : MemoryStore) (keyed : final.Keyed) :
    ((alone store final keyed).executeQueued services workflowId workerId now).outcome =
        (executeQueuedWorkflow services workflowId workerId now store).1 ∧
      ((alone store final keyed).executeQueued services workflowId workerId now).final store =
        (executeQueuedWorkflow services workflowId workerId now store).2 := by
  have read : (alone store final keyed).read = store := rfl
  unfold Finds.executeQueued executeQueuedWorkflow
  rw [read]
  cases store.getWorkflow workflowId with
  | none => exact ⟨rfl, rfl⟩
  | some workflow =>
      dsimp only
      cases goalInput workflow.originalGoal with
      | error failure => exact ⟨rfl, rfl⟩
      | ok payload =>
          exact executeSync_alone services workflowId workerId now payload store final keyed

theorem executeInBackground_alone (payload : WorkRequestInput) {store final : MemoryStore}
    (left : (executeWorkflowSync services workflowId workerId now payload store).2 = final)
    (keyed : final.Keyed) :
    ((alone store final keyed).executeInBackground services workflowId workerId now payload).final
        store =
      executeInBackground services workflowId workerId now payload store := by
  obtain ⟨outcome, written⟩ :=
    executeSync_alone services workflowId workerId now payload store final keyed
  unfold Finds.executeInBackground executeInBackground
  dsimp only
  rw [outcome]
  rcases ended : executeWorkflowSync services workflowId workerId now payload store with
    ⟨failure | workflow, next⟩
  · rw [ended] at left written
    subst left
    simp only [Except.map, alone]
    cases next.getWorkflow workflowId with
    | none => exact written
    | some workflow => simp [Ended.final]
  · rw [ended] at left written
    subst left
    exact written

end Alone

section Refused

variable {finds : Finds} {workflowId workerId : String} {now : DateTime}

/-- The error handler finds no record, or the record that it overwrites already
says that it failed for this reason and is else the one that it found, as JSON. -/
def Finds.Harmless (finds : Finds) (workflowId : String) : Prop :=
  finds.recovery.getWorkflow workflowId = none ∨
    ∃ workflow marked, finds.recovery.getWorkflow workflowId = some workflow ∧
      finds.mark.getWorkflow workflowId = some marked ∧
      marked.executionState = .failed ∧
      marked.executionError = some (claimError workflowId).message ∧
      failedWorkflow (claimError workflowId) marked =
        failedWorkflow (claimError workflowId)
          (MemoryStore.load finds.mark.backend workflow.jsonCopy)

theorem executeSync_refused (refused : finds.claimed workflowId workerId now = none)
    (services : Services) (payload : WorkRequestInput) :
    finds.executeSync services workflowId workerId now payload =
      { outcome := .error (claimError workflowId) } := by
  rw [Finds.executeSync, refused]

/-- `execute_queued_workflow` writes nothing, and raises for a workflow that is known. -/
theorem executeQueued_refused (services : Services)
    (refused : finds.read.getWorkflow workflowId = none ∨
      finds.claimed workflowId workerId now = none) :
    (finds.executeQueued services workflowId workerId now).writes = [] ∧
      ((finds.executeQueued services workflowId workerId now).outcome = .ok none ↔
        finds.read.getWorkflow workflowId = none) := by
  unfold Finds.executeQueued
  cases read : finds.read.getWorkflow workflowId with
  | none => simp
  | some workflow =>
      have unclaimed : finds.claimed workflowId workerId now = none := by
        rcases refused with absent | unclaimed
        · rw [read] at absent
          cases absent
        · exact unclaimed
      dsimp only
      cases goalInput workflow.originalGoal with
      | error failure => simp
      | ok payload => simp [executeSync_refused unclaimed]

theorem load_failedWorkflow (backend : Backend) (failure : Exn) (workflow : WorkflowState) :
    MemoryStore.load backend (failedWorkflow failure workflow).jsonCopy =
      failedWorkflow failure (MemoryStore.load backend workflow.jsonCopy) := by
  cases backend <;> rfl

/-- A record is marked already when marking it again changes nothing. -/
theorem eq_failedWorkflow_iff {failure : Exn} {marked workflow : WorkflowState} :
    failedWorkflow failure workflow = marked ↔ marked.executionState = .failed ∧
      marked.executionError = some failure.message ∧
      failedWorkflow failure marked = failedWorkflow failure workflow := by
  constructor
  · rintro rfl
    exact ⟨rfl, rfl, rfl⟩
  · rintro ⟨state, error, same⟩
    rw [← same, failedWorkflow, ← state, ← error]

/-- The background thread overwrites the record of the workflow, unless that is harmless. -/
theorem executeInBackground_refused (services : Services) (payload : WorkRequestInput)
    (refused : finds.claimed workflowId workerId now = none) :
    (finds.executeInBackground services workflowId workerId now payload).Quiet workflowId ↔
      finds.Harmless workflowId := by
  unfold Finds.executeInBackground Finds.Harmless
  rw [executeSync_refused refused]
  dsimp only
  cases found : finds.recovery.getWorkflow workflowId with
  | none => simp [Ended.Quiet]
  | some workflow =>
      have key : (failedWorkflow (claimError workflowId) workflow).workflowId = workflowId :=
        finds.keyed workflowId workflow found
      have saved := MemoryStore.getWorkflow_saveWorkflow_of_eq finds.mark key
      rw [load_failedWorkflow] at saved
      simp only [Ended.Quiet, List.nil_append, List.mem_singleton, forall_eq, saved]
      cases finds.mark.getWorkflow workflowId with
      | none => simp
      | some marked =>
          rw [Option.some_inj, eq_failedWorkflow_iff]
          simp

/-- The worker reports a workflow that it does not know as skipped, and one whose
claim is refused as an error. -/
theorem execute_refused {loop : Loop} {delivery : Delivery}
    (refused : loop.store.getWorkflow workflowId = none ∨
      (loop.store.claimWorkflowForExecution workflowId workerId delivery.claimedAt).1 = none) :
    loop.execute workerId workflowId delivery = loop.skipped (.str workflowId) ↔
      loop.store.getWorkflow workflowId = none := by
  have reported : ∀ (store : MemoryStore) (failure : Exn),
      { loop with store }.error (.str workflowId) failure.message ≠
        loop.skipped (.str workflowId) := by
    intro store failure same
    have results := congrArg Loop.results same
    simp [Loop.error, Loop.skipped, Loop.append] at results
  unfold Loop.execute executeQueuedWorkflow
  cases found : loop.store.getWorkflow workflowId with
  | none => exact iff_of_true rfl rfl
  | some workflow =>
      have unclaimed : (loop.store.claimWorkflowForExecution workflowId workerId
          delivery.claimedAt).1 = none := by
        rcases refused with absent | unclaimed
        · rw [found] at absent
          cases absent
        · exact unclaimed
      refine iff_of_false ?_ (by simp)
      dsimp only
      cases goalInput workflow.originalGoal with
      | error failure => exact reported loop.store failure
      | ok payload =>
          rcases claim : loop.store.claimWorkflowForExecution workflowId workerId
            delivery.claimedAt with ⟨found, store⟩
          rw [claim] at unclaimed
          obtain rfl : found = none := unclaimed
          simp only [executeWorkflowSync, claim]
          exact reported store _

end Refused

/-- A workflow that another worker is executing. -/
def runningWorkflow : WorkflowState where
  workflowId := "wf"
  originalGoal := "Migrate the payroll system"
  createdAt := .newYear
  updatedAt := .newYear
  executionState := .running

/-- The store with that workflow. -/
def busyStore : MemoryStore :=
  ({ backend := .localStore } : MemoryStore).saveWorkflow runningWorkflow

theorem keyed_busyStore : busyStore.Keyed := by
  apply MemoryStore.Keyed.saveWorkflow
  intro workflowId workflow found
  simp [MemoryStore.getWorkflow] at found

/-- For a running workflow, `execute_queued_workflow` raises, the worker reports
an error, and the background thread marks the record of the other worker. -/
theorem refused_claim_recorded :
    let finds := alone busyStore busyStore keyed_busyStore
    finds.claimed "wf" "worker" .newYear = none ∧
      (finds.executeQueued silentServices "wf" "worker" .newYear).outcome ≠ .ok none ∧
      ¬ (finds.executeInBackground silentServices "wf" "worker" .newYear
          { goal := "Migrate the payroll system" }).Quiet "wf" ∧
      Loop.execute { store := busyStore } "worker" "wf"
          { body := .ok ⟨.dict [("workflow_id", .str "wf")], rfl⟩, services := silentServices,
            claimedAt := .newYear } ≠ Loop.skipped { store := busyStore } (.str "wf") := by
  intro finds
  have found : busyStore.getWorkflow "wf" = some runningWorkflow.jsonCopy :=
    MemoryStore.getWorkflow_saveWorkflow _ runningWorkflow
  have known : busyStore.getWorkflow "wf" ≠ none := by simp [found]
  have refused : finds.claimed "wf" "worker" .newYear = none := rfl
  refine ⟨refused, ?_, ?_, ?_⟩
  · exact fun returned => known
      ((executeQueued_refused silentServices (.inr refused)).2.mp returned)
  · rw [executeInBackground_refused silentServices _ refused]
    rintro (absent | ⟨workflow, marked, -, same, state, -⟩)
    · exact known absent
    · obtain rfl := Option.some.inj (found.symm.trans same)
      cases state
  · exact fun skipped => known ((execute_refused (.inr rfl)).mp skipped)

/-- **What a refused claim does.** `execute_queued_workflow` leaves the record and
returns `None` exactly when it does not know the workflow, and then the worker
reports the record as skipped. The background thread leaves the record exactly
when its error handler finds none, or when overwriting it is harmless. -/
theorem refused_attempts (finds : Finds) (services : Services) (workflowId workerId : String)
    (now : DateTime) :
    (finds.read.getWorkflow workflowId = none ∨ finds.claimed workflowId workerId now = none →
      ((finds.executeQueued services workflowId workerId now).Quiet workflowId ∧
          (finds.executeQueued services workflowId workerId now).outcome = .ok none ↔
        finds.read.getWorkflow workflowId = none)) ∧
    (∀ payload, finds.claimed workflowId workerId now = none →
      ((finds.executeInBackground services workflowId workerId now payload).Quiet workflowId ↔
        finds.Harmless workflowId)) ∧
    ∀ (loop : Loop) (delivery : Delivery),
      loop.store.getWorkflow workflowId = none ∨
          (loop.store.claimWorkflowForExecution workflowId workerId delivery.claimedAt).1 = none →
        (loop.execute workerId workflowId delivery = loop.skipped (.str workflowId) ↔
          loop.store.getWorkflow workflowId = none) := by
  refine ⟨fun refused => ?_, fun payload refused => ?_, fun loop delivery refused => ?_⟩
  · obtain ⟨unwritten, returned⟩ := executeQueued_refused services refused
    have quiet : (finds.executeQueued services workflowId workerId now).Quiet workflowId := by
      simp [Ended.Quiet, unwritten]
    rw [← returned]
    exact and_iff_right quiet
  · exact executeInBackground_refused services payload refused
  · exact execute_refused refused

/-- An unknown workflow is left alone and reported as skipped. -/
theorem refused_attempts_unknown :
    let finds := alone { backend := .localStore } { backend := .localStore }
      (MemoryStore.keyed_empty _)
    (finds.executeQueued silentServices "wf" "worker" .newYear).outcome = .ok none ∧
      (finds.executeInBackground silentServices "wf" "worker" .newYear
        { goal := "Migrate the payroll system" }).Quiet "wf" := by
  obtain ⟨queued, background, -⟩ := refused_attempts
    (alone { backend := .localStore } { backend := .localStore } (MemoryStore.keyed_empty _))
    silentServices "wf" "worker" .newYear
  exact ⟨((queued (.inl rfl)).mpr rfl).2, (background _ rfl).mpr (.inl rfl)⟩

end ActionPlan.Worker
