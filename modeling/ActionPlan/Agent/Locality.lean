import ActionPlan.Agent.Outcomes
import ActionPlan.Foundation.Noninterference

/-! # Operations on one record

An operation of the service reads and saves the record of one workflow. It searches the documents
for this workflow only, so that two retrievers which answer these searches alike are as good as one
another.
-/

namespace ActionPlan.Agent

open ActionPlan.Foundation ActionPlan.Models ActionPlan.Memory

section Stores

/-- Every record is stored under its own id, which is of the kind. -/
def Holds (kind : String → Prop) (store : MemoryStore) : Prop :=
  ∀ workflowId workflow, store.getWorkflow workflowId = some workflow →
    workflow.workflowId = workflowId ∧ kind workflowId

/-- What a store has for one workflow, the lock included. -/
def entry (workflowId : String) (store : MemoryStore) : Backend × Option Item :=
  (store.backend, store.items.lookup workflowId)

variable {kind : String → Prop} {workflowId : String} {store first second : MemoryStore}

theorem holds_empty (backend : Backend) : Holds kind { backend } := by
  intro workflowId workflow found
  cases found

/-- A read of a workflow depends on its entry. -/
theorem getWorkflow_of_entry (same : entry workflowId first = entry workflowId second) :
    first.getWorkflow workflowId = second.getWorkflow workflowId := by
  obtain ⟨backend, item⟩ := Prod.mk.inj same
  rw [MemoryStore.getWorkflow, MemoryStore.getWorkflow, backend, item]

/-- An item that is put under a key of the kind. -/
theorem confined_insert {Answer : Type*} (answer : Answer) (kept : kind workflowId) (item : Item)
    (named : item.record.workflowId = workflowId) :
    Confined (Holds kind) entry workflowId fun store : MemoryStore =>
      (answer, { store with items := store.items.insert workflowId item }) where
  kept store held other workflow found := by
    by_cases same : other = workflowId
    · subst same
      rw [MemoryStore.getWorkflow_insert] at found
      cases found
      exact ⟨(MemoryStore.load_workflowId _ _).trans named, kept⟩
    · rw [MemoryStore.getWorkflow_insert_of_ne same] at found
      exact held other workflow found
  others store _ other different := by
    rw [entry, entry, AList.lookup_insert_ne different]
  same first second _ _ alike := by
    refine ⟨rfl, ?_⟩
    rw [entry, entry, AList.lookup_insert, AList.lookup_insert, (Prod.mk.inj alike).1]

/-- A save of the workflow is confined to its entry. -/
theorem confined_save {Answer : Type*} (answer : Answer) (kept : kind workflowId)
    {workflow : WorkflowState} (named : workflow.workflowId = workflowId) :
    Confined (Holds kind) entry workflowId fun store : MemoryStore =>
      (answer, store.saveWorkflow workflow) := by
  subst named
  exact confined_insert answer kept { record := workflow.jsonCopy } rfl

/-- A look at what the store has for the workflow. -/
theorem confined_look {Answer : Type*} (look : MemoryStore → Answer)
    (local_ : ∀ first second, entry workflowId first = entry workflowId second →
      look first = look second) :
    Confined (Holds kind) entry workflowId fun store : MemoryStore => (look store, store) where
  kept _ held := held
  others _ _ _ _ := rfl
  same first second _ _ alike := ⟨local_ first second alike, alike⟩

/-- A read is confined to the entry of the workflow. -/
theorem confined_get : Confined (Holds kind) entry workflowId fun store : MemoryStore =>
    (store.getWorkflow workflowId, store) :=
  confined_look _ fun _ _ => getWorkflow_of_entry

/-- An item that is found is one of the workflow. -/
theorem Holds.item (held : Holds kind store) {item : Item}
    (present : store.items.lookup workflowId = some item) :
    item.record.workflowId = workflowId ∧ kind workflowId := by
  have found : store.getWorkflow workflowId =
      some (MemoryStore.load store.backend item.record) := by
    rw [MemoryStore.getWorkflow, present, Option.map_some]
  obtain ⟨named, kept⟩ := held _ _ found
  exact ⟨(MemoryStore.load_workflowId _ _).symm.trans named, kept⟩

/-- What is read is a record of the workflow. -/
theorem found_of_answers {workflow : WorkflowState}
    (answers : Answers (Holds kind) (fun store : MemoryStore =>
      (store.getWorkflow workflowId, store)) (some workflow)) :
    workflow.workflowId = workflowId ∧ kind workflowId := by
  obtain ⟨store, held, present⟩ := answers
  exact held workflowId workflow present

end Stores

section Claims

variable {kind : String → Prop} {workflowId : String}

/-- The conditional update, and whether it was made. -/
def tryUpdate (workflowId workerId : String) (now : DateTime) (store : MemoryStore) :
    Bool × MemoryStore :=
  match store.claimUpdate workflowId workerId now with
  | none => (false, store)
  | some claimed => (true, claimed)

/-- The update of an item that was read. -/
def updateItem (workflowId workerId : String) (now : DateTime) (found : Option Item)
    (store : MemoryStore) : Bool × MemoryStore :=
  match found with
  | none => (false, store)
  | some item =>
    if item.record.executionState = .queued ∧
        (item.executionLock = none ∨ item.executionLock = some workerId) then
      (true, { store with
        items := store.items.insert workflowId
          { record := MemoryStore.running now item.record, executionLock := some workerId } })
    else (false, store)

theorem tryUpdate_eq (workerId : String) (now : DateTime) (store : MemoryStore) :
    tryUpdate workflowId workerId now store =
      updateItem workflowId workerId now (store.items.lookup workflowId) store := by
  unfold tryUpdate updateItem MemoryStore.claimUpdate
  cases store.items.lookup workflowId with
  | none => rfl
  | some item =>
    by_cases allowed : item.record.executionState = .queued ∧
        (item.executionLock = none ∨ item.executionLock = some workerId)
    · simp only [if_pos allowed]
    · simp only [if_neg allowed]

/-- The conditional update is confined to the item of the workflow. -/
theorem confined_tryUpdate (workerId : String) (now : DateTime) :
    Confined (Holds kind) entry workflowId (tryUpdate workflowId workerId now) := by
  have looked : Confined (Holds kind) entry workflowId fun store : MemoryStore =>
      (store.items.lookup workflowId, store) :=
    confined_look _ fun _ _ alike => (Prod.mk.inj alike).2
  refine (looked.bind (updateItem workflowId workerId now) fun found answers => ?_).congr
    (tryUpdate_eq workerId now)
  cases found with
  | none => exact confined_answer false
  | some item =>
    obtain ⟨store, held, present⟩ := answers
    obtain ⟨named, kept⟩ := held.item present
    unfold updateItem
    dsimp only
    split
    · exact confined_insert true kept _ named
    · exact confined_answer false

theorem confined_claimable : Confined (Holds kind) entry workflowId fun store : MemoryStore =>
    (store.claimable workflowId, store) :=
  confined_look _ fun first second alike => by
    rw [MemoryStore.claimable, MemoryStore.claimable, getWorkflow_of_entry alike]

/-- A local claim, once the record is read. -/
def claimFound (now : DateTime) (found : Option WorkflowState) (store : MemoryStore) :
    Option WorkflowState × MemoryStore :=
  match found with
  | none => (none, store)
  | some workflow =>
    (some (MemoryStore.running now workflow), store.saveWorkflow (MemoryStore.running now workflow))

/-- The second half of a local claim is confined. -/
theorem confined_claimFound (now : DateTime) {found : Option WorkflowState}
    (answers : Answers (Holds kind) (fun store : MemoryStore =>
      (store.claimable workflowId, store)) found) :
    Confined (Holds kind) entry workflowId (claimFound now found) := by
  obtain ⟨store, held, present⟩ := answers
  cases found with
  | none => exact confined_answer none
  | some workflow =>
    obtain ⟨named, kept⟩ := held _ _ (MemoryStore.claimable_eq_some.mp present).1
    exact confined_save _ kept named

/-- A remote claim, once the record is read. -/
def updateFound (workflowId workerId : String) (now : DateTime) (found : Option WorkflowState)
    (store : MemoryStore) : Option WorkflowState × MemoryStore :=
  match found with
  | none => (none, store)
  | some _ =>
    let updated := tryUpdate workflowId workerId now store
    if updated.1 then (updated.2.getWorkflow workflowId, updated.2) else (none, updated.2)

/-- The second half of a remote claim is confined. -/
theorem confined_updateFound (workerId : String) (now : DateTime) (found : Option WorkflowState) :
    Confined (Holds kind) entry workflowId (updateFound workflowId workerId now found) := by
  cases found with
  | none => exact confined_answer none
  | some workflow =>
    refine (confined_tryUpdate workerId now).bind (fun done store =>
      if done then (store.getWorkflow workflowId, store) else (none, store)) fun done _ => ?_
    cases done with
    | true => exact confined_get
    | false => exact confined_answer none

/-- A claim of a record that was read, at the configured store. -/
def claimAt (workflowId workerId : String) (now : DateTime) (backend : Backend)
    (store : MemoryStore) : Option WorkflowState × MemoryStore :=
  match backend with
  | .localStore => claimFound now (store.claimable workflowId) store
  | .dynamodb => updateFound workflowId workerId now (store.claimable workflowId) store

theorem claim_eq_claimAt (workerId : String) (now : DateTime) (store : MemoryStore) :
    store.claimWorkflowForExecution workflowId workerId now =
      claimAt workflowId workerId now store.backend store := by
  unfold MemoryStore.claimWorkflowForExecution claimAt
  cases store.backend with
  | localStore =>
    dsimp only [MemoryStore.claimLocally]
    cases store.claimable workflowId with
    | none => rfl
    | some workflow => rfl
  | dynamodb =>
    dsimp only
    cases store.claimable workflowId with
    | none => rfl
    | some workflow =>
      cases updated : store.claimUpdate workflowId workerId now with
      | none => simp only [updateFound, tryUpdate, updated, Bool.false_eq_true, if_false]
      | some claimed => simp only [updateFound, tryUpdate, updated, if_true]

/-- **A claim** concerns its own workflow only. -/
theorem confined_claim (workerId : String) (now : DateTime) :
    Confined (Holds kind) entry workflowId fun store : MemoryStore =>
      store.claimWorkflowForExecution workflowId workerId now := by
  have configured : Confined (Holds kind) entry workflowId fun store : MemoryStore =>
      (store.backend, store) := confined_look _ fun _ _ alike => (Prod.mk.inj alike).1
  refine (configured.bind (claimAt workflowId workerId now) fun backend _ => ?_).congr
    (claim_eq_claimAt workerId now)
  cases backend with
  | localStore => exact confined_claimable.bind _ fun _ => confined_claimFound now
  | dynamodb =>
    exact confined_claimable.bind _ fun found _ => confined_updateFound workerId now found

/-- What can be claimed is there. -/
theorem kind_of_claimed {workerId : String} {now : DateTime} {found : WorkflowState}
    (answers : Answers (Holds kind) (fun store : MemoryStore =>
      store.claimWorkflowForExecution workflowId workerId now) (some found)) :
    kind workflowId := by
  obtain ⟨store, held, claimed⟩ := answers
  have outcome := MemoryStore.claim_cases (fun record present =>
    (held workflowId record present).1) workerId now
  dsimp only at claimed
  generalize store.claimWorkflowForExecution workflowId workerId now = result at claimed outcome
  cases outcome with
  | refused => cases claimed
  | claimed present => exact (held workflowId _ present).2

end Claims

section Runs

variable {kind : String → Prop} {workflowId : String} (services : Services)

/-- A run of the graph reads and writes its own workflow only. -/
theorem confined_invoke (kept : kind workflowId) {initial : AgentState}
    (named : initial.workflowId = some workflowId) :
    Confined (Holds kind) entry workflowId (invoke services initial) := by
  unfold invoke
  cases ended : reachMemory services initial with
  | error failure => exact confined_answer (Except.error failure)
  | ok reached =>
    refine confined_save _ kept ?_
    have same : reached.workflowId = some workflowId :=
      (workflowId_of_identity (reachMemory_identity ended)).trans named
    rw [stateToWorkflow, same, Option.getD_some]

/-- A run ends with the workflow that it began with. -/
theorem workflowId_of_invoked {initial result : AgentState}
    (named : initial.workflowId = some workflowId)
    (answers : Answers (Holds kind) (invoke services initial) (Except.ok result)) :
    result.workflowId = some workflowId := by
  obtain ⟨store, -, invoked⟩ := answers
  rcases invoke_cases services store initial with ⟨failure, -, failed⟩ | ⟨reached, ended, done⟩
  · rw [failed] at invoked
    cases invoked
  · rw [done] at invoked
    cases invoked
    exact (workflowId_of_identity (reachMemory_identity ended)).trans named

/-- Run the graph and save the record that is made of the result. -/
def runAndSave (initial : AgentState) (record : AgentState → WorkflowState)
    (store : MemoryStore) : Except Exn WorkflowState × MemoryStore :=
  match invoke services initial store with
  | (.error failure, store) => (.error failure, store)
  | (.ok result, store) => (.ok (record result), store.saveWorkflow (record result))

/-- The record that is made of the result of a run is saved. -/
def saveResult (record : AgentState → WorkflowState) (outcome : Except Exn AgentState)
    (store : MemoryStore) : Except Exn WorkflowState × MemoryStore :=
  match outcome with
  | .error failure => (.error failure, store)
  | .ok result => (.ok (record result), store.saveWorkflow (record result))

/-- A run and the save of its record are confined if the record keeps the id. -/
theorem confined_runAndSave (kept : kind workflowId) {initial : AgentState}
    (named : initial.workflowId = some workflowId) {record : AgentState → WorkflowState}
    (recorded : ∀ result, result.workflowId = some workflowId →
      (record result).workflowId = workflowId) :
    Confined (Holds kind) entry workflowId (runAndSave services initial record) := by
  refine ((confined_invoke services kept named).bind (saveResult record)
    fun outcome answers => ?_).congr fun store => ?_
  · cases outcome with
    | error failure => exact confined_answer (Except.error failure)
    | ok result =>
      exact confined_save _ kept (recorded result (workflowId_of_invoked services named answers))
  · unfold runAndSave
    cases invoke services initial store with
    | mk outcome next =>
      cases outcome with
      | error failure => rfl
      | ok result => rfl

/-- **An execution.** -/
theorem confined_executeWorkflowSync (workerId : String) (claimedAt : DateTime)
    (payload : WorkRequestInput) :
    Confined (Holds kind) entry workflowId
      (executeWorkflowSync services workflowId workerId claimedAt payload) := by
  refine ((confined_claim workerId claimedAt).bind (fun found store =>
    match found with
    | none => (.error
        (.runtimeError ("Could not claim workflow " ++ workflowId ++ " for execution")), store)
    | some _ => runAndSave services (executionInput workflowId workerId payload)
        (executedWorkflow services.clock) store)
    fun found answers => ?_).congr fun store => ?_
  · cases found with
    | none => exact confined_answer _
    | some workflow =>
      exact confined_runAndSave services (kind_of_claimed answers) rfl fun result named =>
        workflowId_toWorkflowState named services.clock
  · unfold executeWorkflowSync
    cases store.claimWorkflowForExecution workflowId workerId claimedAt with
    | mk found next =>
      cases found with
      | none => rfl
      | some workflow => rfl

/-- An execution from the queue, once the record is read. -/
def executeFound (workflowId workerId : String) (claimedAt : DateTime)
    (found : Option WorkflowState) (store : MemoryStore) :
    Except Exn (Option WorkflowState) × MemoryStore :=
  match found with
  | none => (.ok none, store)
  | some workflow =>
    match goalInput workflow.originalGoal with
    | .error failure => (.error failure, store)
    | .ok payload =>
      let executed := executeWorkflowSync services workflowId workerId claimedAt payload store
      (executed.1.map some, executed.2)

/-- The rest of an execution is confined, whatever its read has found. -/
theorem confined_executeFound (workerId : String) (claimedAt : DateTime)
    (found : Option WorkflowState) :
    Confined (Holds kind) entry workflowId
      (executeFound services workflowId workerId claimedAt found) := by
  cases found with
  | none => exact confined_answer (Except.ok none)
  | some workflow =>
    unfold executeFound
    dsimp only
    cases goalInput workflow.originalGoal with
    | error failure => exact confined_answer (Except.error failure)
    | ok payload =>
      exact (confined_executeWorkflowSync services workerId claimedAt payload).bind
        (fun outcome store => (outcome.map some, store)) fun outcome _ => confined_answer _

/-- **An execution from the queue.** -/
theorem confined_executeQueuedWorkflow (workerId : String) (claimedAt : DateTime) :
    Confined (Holds kind) entry workflowId
      (executeQueuedWorkflow services workflowId workerId claimedAt) := by
  refine (confined_get.bind _ fun found _ =>
    confined_executeFound services workerId claimedAt found).congr fun store => ?_
  unfold executeQueuedWorkflow
  cases store.getWorkflow workflowId with
  | none => rfl
  | some workflow => rfl

/-- **An execution in the background.** -/
theorem confined_executeInBackground (workerId : String) (claimedAt : DateTime)
    (payload : WorkRequestInput) :
    Confined (Holds kind) entry workflowId fun store : MemoryStore =>
      ((), executeInBackground services workflowId workerId claimedAt payload store) := by
  refine ((confined_executeWorkflowSync services workerId claimedAt payload).bind
    (fun outcome store =>
      match outcome with
      | .ok _ => ((), store)
      | .error failure =>
        match store.getWorkflow workflowId with
        | none => ((), store)
        | some workflow => ((), store.saveWorkflow (failedWorkflow failure workflow)))
    fun outcome _ => ?_).congr fun store => ?_
  · cases outcome with
    | ok workflow => exact confined_answer _
    | error failure =>
      refine confined_get.bind (fun found store =>
        match found with
        | none => ((), store)
        | some workflow => ((), store.saveWorkflow (failedWorkflow failure workflow)))
        fun found answers => ?_
      cases found with
      | none => exact confined_answer _
      | some workflow =>
        obtain ⟨named, kept⟩ := found_of_answers answers
        exact confined_save _ kept named
  · unfold executeInBackground
    cases executeWorkflowSync services workflowId workerId claimedAt payload store with
    | mk outcome next =>
      cases outcome with
      | ok workflow => rfl
      | error failure =>
        dsimp only
        cases next.getWorkflow workflowId with
        | none => rfl
        | some workflow => rfl

/-- **A refresh.** -/
theorem confined_rebuildWorkflow (kept : kind workflowId) {workflow : WorkflowState}
    (named : workflow.workflowId = workflowId) :
    Confined (Holds kind) entry workflowId (rebuildWorkflow services workflow) := by
  unfold rebuildWorkflow
  cases rebuildPayload workflow with
  | error failure => exact confined_answer _
  | ok payload =>
    exact confined_runAndSave services kept (congrArg some named) fun result same =>
      workflowId_toWorkflowState same services.clock

/-- **A continuation.** -/
theorem confined_continueWorkflow (kept : kind workflowId) {workflow : WorkflowState}
    (named : workflow.workflowId = workflowId) (completedTaskIds : List String) :
    Confined (Holds kind) entry workflowId
      (continueWorkflow services workflow completedTaskIds) :=
  confined_runAndSave services kept (congrArg some named) fun _ same =>
    workflowId_toWorkflowState same services.clock

end Runs

section Retrievers

/-- Both retrievers answer the searches for the workflow alike. -/
def AgreeOn (workflowId : String) (first second : Retriever) : Prop :=
  ∀ query limit, first query limit (some workflowId) = second query limit (some workflowId)

variable {llm : LLMProvider} {clock : Clock} {workflowId : String} {first second : Retriever}

/-- The targeted evidence is the same with retrievers that agree on the workflow. -/
theorem targetEvidence_agreeOn (agree : AgreeOn workflowId first second)
    (requirements : List Requirement) :
    targetEvidence first (some workflowId) requirements =
      targetEvidence second (some workflowId) requirements := by
  induction requirements with
  | nil => rfl
  | cons requirement requirements ih => rw [targetEvidence, targetEvidence, agree, ih]

/-- A node searches for the workflow of its state only. -/
theorem exec_congr (agree : AgreeOn workflowId first second) (nonempty : workflowId ≠ "")
    (node : Node) {state : AgentState} (named : state.workflowId = some workflowId) :
    Node.exec { llm, retriever := first, clock } node state =
      Node.exec { llm, retriever := second, clock } node state := by
  cases node with
  | collectEvidence =>
    have searched : truthyString state.workflowId = some workflowId := by
      rw [named, truthyString_some nonempty]
    simp only [Node.exec, collectEvidenceNode, searched, targetEvidence_agreeOn agree]
  | initializeNode | analyzeGoal | extractProcedures | extractRequirements | plan | validatePlan
  | revisePlan | planFailed | executePlan | optimizePlan | stateAnalysis | detectBlockers
  | recommend | updateMemory => rfl

/-- So is the state that a run passes to the memory node. -/
theorem reachMemory_congr (agree : AgreeOn workflowId first second) (nonempty : workflowId ≠ "")
    {initial : AgentState} (named : initial.workflowId = some workflowId) :
    reachMemory { llm, retriever := first, clock } initial =
      reachMemory { llm, retriever := second, clock } initial := by
  have kept : ∀ node state reached, state.workflowId = some workflowId →
      Node.exec { llm, retriever := second, clock } node state = .ok reached →
      reached.workflowId = some workflowId := fun node state reached same executed =>
    (workflowId_of_identity (Node.framed_of_exec executed).identity).trans same
  exact ControlFlow.run_congr (buildGraph { llm, retriever := first, clock })
    (buildGraph { llm, retriever := second, clock }) _ rfl rfl
    (fun node _ same => exec_congr agree nonempty node same) kept recursionLimit .initializeNode
    named

/-- So is the result of a run and what it saves. -/
theorem invoke_congr (agree : AgreeOn workflowId first second) (nonempty : workflowId ≠ "")
    {initial : AgentState} (named : initial.workflowId = some workflowId) (store : MemoryStore) :
    invoke { llm, retriever := first, clock } initial store =
      invoke { llm, retriever := second, clock } initial store := by
  rw [invoke, invoke, reachMemory_congr agree nonempty named]

/-- An execution depends on the searches for its own workflow only. -/
theorem executeWorkflowSync_congr (agree : AgreeOn workflowId first second)
    (nonempty : workflowId ≠ "") (workerId : String) (claimedAt : DateTime)
    (payload : WorkRequestInput) (store : MemoryStore) :
    executeWorkflowSync { llm, retriever := first, clock } workflowId workerId claimedAt payload
        store =
      executeWorkflowSync { llm, retriever := second, clock } workflowId workerId claimedAt payload
        store := by
  unfold executeWorkflowSync
  cases store.claimWorkflowForExecution workflowId workerId claimedAt with
  | mk found next =>
    cases found with
    | none => rfl
    | some workflow =>
      dsimp only [runExecution]
      rw [invoke_congr agree nonempty rfl]

theorem executeQueuedWorkflow_congr (agree : AgreeOn workflowId first second)
    (nonempty : workflowId ≠ "") (workerId : String) (claimedAt : DateTime) (store : MemoryStore) :
    executeQueuedWorkflow { llm, retriever := first, clock } workflowId workerId claimedAt store =
      executeQueuedWorkflow { llm, retriever := second, clock } workflowId workerId claimedAt
        store := by
  simp only [executeQueuedWorkflow, executeWorkflowSync_congr agree nonempty]

theorem executeInBackground_congr (agree : AgreeOn workflowId first second)
    (nonempty : workflowId ≠ "") (workerId : String) (claimedAt : DateTime)
    (payload : WorkRequestInput) (store : MemoryStore) :
    executeInBackground { llm, retriever := first, clock } workflowId workerId claimedAt payload
        store =
      executeInBackground { llm, retriever := second, clock } workflowId workerId claimedAt payload
        store := by
  simp only [executeInBackground, executeWorkflowSync_congr agree nonempty]

theorem rebuildWorkflow_congr (agree : AgreeOn workflowId first second)
    (nonempty : workflowId ≠ "") {workflow : WorkflowState}
    (named : workflow.workflowId = workflowId) (store : MemoryStore) :
    rebuildWorkflow { llm, retriever := first, clock } workflow store =
      rebuildWorkflow { llm, retriever := second, clock } workflow store := by
  unfold rebuildWorkflow
  cases rebuildPayload workflow with
  | error failure => rfl
  | ok payload =>
    dsimp only
    rw [invoke_congr agree nonempty (congrArg some named)]

theorem continueWorkflow_congr (agree : AgreeOn workflowId first second)
    (nonempty : workflowId ≠ "") {workflow : WorkflowState}
    (named : workflow.workflowId = workflowId) (completedTaskIds : List String)
    (store : MemoryStore) :
    continueWorkflow { llm, retriever := first, clock } workflow completedTaskIds store =
      continueWorkflow { llm, retriever := second, clock } workflow completedTaskIds store := by
  unfold continueWorkflow
  rw [invoke_congr agree nonempty (congrArg some named)]

end Retrievers

end ActionPlan.Agent
