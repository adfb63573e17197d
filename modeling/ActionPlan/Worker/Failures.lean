import ActionPlan.Agent.Outcomes
import ActionPlan.Memory.RemoteClaim
import ActionPlan.Worker.Handler

/-! # Executions that fail

An execution of a claimed workflow can be stopped by any node of the graph: by the
language model, the retriever or another error before the memory node, or by the memory
store, which refuses the save of the memory node. The three places that start an
execution handle the error differently: the background thread reads the record again and marks
it, the synchronous call lets the error pass, and the worker reports it.
-/

namespace ActionPlan.Worker

open ActionPlan.Foundation ActionPlan.Models ActionPlan.Memory ActionPlan.Agent

/-- What one execution reads besides the store, and how the store answers the save of
its memory node; a save that raises stores nothing. -/
structure Attempt where
  services : Services
  saved : Except Exn Unit := .ok ()
  claimedAt : DateTime

namespace Attempt

variable (attempt : Attempt)

/-- `graph.invoke`. -/
def invoke (initial : AgentState) (store : MemoryStore) :
    Except Exn AgentState × MemoryStore :=
  match reachMemory attempt.services initial, attempt.saved with
  | .error failure, _ | .ok _, .error failure => (.error failure, store)
  | .ok reached, .ok _ =>
    (.ok (updateMemoryResult attempt.services.clock reached),
      store.saveWorkflow (stateToWorkflow attempt.services.clock reached))

/-- `_execute_workflow_sync`. -/
def execute (workflowId workerId : String) (payload : WorkRequestInput) (store : MemoryStore) :
    Except Exn WorkflowState × MemoryStore :=
  match store.claimWorkflowForExecution workflowId workerId attempt.claimedAt with
  | (none, store) =>
    (.error (.runtimeError ("Could not claim workflow " ++ workflowId ++ " for execution")), store)
  | (some _, store) =>
    match attempt.invoke (executionInput workflowId workerId payload) store with
    | (.error failure, store) => (.error failure, store)
    | (.ok result, store) =>
      let workflow := executedWorkflow attempt.services.clock result
      (.ok workflow, store.saveWorkflow workflow)

/-- `execute_queued_workflow`. -/
def executeQueued (workflowId workerId : String) (store : MemoryStore) :
    Except Exn (Option WorkflowState) × MemoryStore :=
  match store.getWorkflow workflowId with
  | none => (.ok none, store)
  | some workflow =>
    match goalInput workflow.originalGoal with
    | .error failure => (.error failure, store)
    | .ok payload =>
      let (outcome, store) := attempt.execute workflowId workerId payload store
      (outcome.map some, store)

/-- A node raises. -/
def Raises (initial : AgentState) (failure : Exn) : Prop :=
  reachMemory attempt.services initial = .error failure ∨
    ∃ reached, reachMemory attempt.services initial = .ok reached ∧ attempt.saved = .error failure

end Attempt

/-- A record of the event and the execution that it can start. -/
structure Message where
  body : Except Exn JsonText
  attempt : Attempt

namespace Loop

/-- The call of `execute_queued_workflow` and the result that is appended. -/
def attempt (loop : Loop) (workerId workflowId : String) (attempt : Attempt) : Loop :=
  match attempt.executeQueued workflowId workerId loop.store with
  | (.error failure, store) => { loop with store }.error (.str workflowId) failure.message
  | (.ok none, store) => { loop with store }.skipped (.str workflowId)
  | (.ok (some result), store) => { loop with store }.success (.str workflowId) result

/-- One pass of the loop. -/
def receive (loop : Loop) (workerId : String) (message : Message) : Except Exn Loop :=
  match message.body with
  | .error failure => loop.recordedId.map fun workflowId => loop.error workflowId failure.message
  | .ok text =>
    let loop := { loop with body := some text.document }
    (bodyWorkflowId text.document).map fun workflowId =>
      if workflowId.truthy = false then loop.error .none "Missing workflow_id"
      else
        match workflowId with
        | .str workflowId => loop.attempt workerId workflowId message.attempt
        | _ => loop.skipped workflowId

/-- The loop over the records, and the store when it ends or raises. -/
def receiveAll (workerId : String) : List Message → Loop → Except Exn Loop × MemoryStore
  | [], loop => (.ok loop, loop.store)
  | message :: messages, loop =>
    match loop.receive workerId message with
    | .error failure => (.error failure, loop.store)
    | .ok next => receiveAll workerId messages next

end Loop

/-- How the store answers the calls of `execute_in_background` after an error: what its
`get_workflow` runs into, if anything, and the answer to the save that marks the record. -/
structure Recovery where
  reread : Option Fault := none
  marked : Except Exn Unit := .ok ()

/-- The handler of `execute_in_background`. An error of its own ends the thread. -/
def Recovery.run (recovery : Recovery) (workflowId : String) (failure : Exn)
    (store : MemoryStore) : MemoryStore :=
  match store.getWorkflowRemotely workflowId recovery.reread, recovery.marked with
  | .error _, _ | .ok none, _ | .ok (some _), .error _ => store
  | .ok (some workflow), .ok _ => store.saveWorkflow (failedWorkflow failure workflow)

/-- The places that start an execution. -/
inductive Start where
  /-- The thread of `create_workflow`, and how the store answers its handler. -/
  | background (creation : Creation) (payload : WorkRequestInput) (workerId : String)
      (attempt : Attempt) (recovery : Recovery)
  /-- `create_workflow_sync`. -/
  | sync (creation : Creation) (payload : WorkRequestInput) (workerId : String)
      (attempt : Attempt)
  /-- A message in an event of the worker. -/
  | worker (workflowId workerId : String) (earlier : List Message) (text : JsonText)
      (attempt : Attempt) (later : List Message)

namespace Start

/-- The workflow that the start is about. -/
def workflowId : Start → String
  | background creation _ _ _ _ | sync creation _ _ _ => creation.workflowId
  | worker workflowId _ _ _ _ _ => workflowId

/-- The event of the worker. -/
def event (earlier : List Message) (text : JsonText) (attempt : Attempt) (later : List Message) :
    List Message :=
  earlier ++ { body := .ok text, attempt } :: later

/-- The store that the start leaves in the end. -/
def run (store : MemoryStore) : Start → MemoryStore
  | background creation payload workerId attempt recovery =>
    match attempt.execute creation.workflowId workerId payload
      (store.saveWorkflow (queuedWorkflow creation payload)) with
    | (.ok _, store) => store
    | (.error failure, store) => recovery.run creation.workflowId failure store
  | sync creation payload workerId attempt =>
    (attempt.execute creation.workflowId workerId payload
      (store.saveWorkflow (queuedWorkflow creation payload))).2
  | worker _ workerId earlier text attempt later =>
    (Loop.receiveAll workerId (event earlier text attempt later) { store }).2

/-- The start claims its workflow, and a node of the execution raises. -/
def Fails (store : MemoryStore) (failure : Exn) : Start → Prop
  | background creation payload workerId attempt _ | sync creation payload workerId attempt =>
    attempt.Raises (executionInput creation.workflowId workerId payload) failure
  | worker workflowId workerId earlier text attempt _ =>
    ∃ loop workflow payload, (Loop.receiveAll workerId earlier { store }).1 = .ok loop ∧
      workflowId ≠ "" ∧ bodyWorkflowId text.document = .ok (.str workflowId) ∧
      loop.store.getWorkflow workflowId = some workflow ∧
      goalInput workflow.originalGoal = .ok payload ∧
      (loop.store.claimWorkflowForExecution workflowId workerId attempt.claimedAt).1 ≠ none ∧
      attempt.Raises (executionInput workflowId workerId payload) failure

/-- The start marks the record: the store gives it to the handler, and takes the mark. -/
def Marks : Start → Prop
  | background _ _ _ _ recovery => recovery.reread = none ∧ recovery.marked = .ok ()
  | sync _ _ _ _ | worker _ _ _ _ _ _ => False

end Start

section Saved

/-! With a store that takes every save, the starts are those of the service and the worker. -/

variable {attempt : Attempt}

theorem Attempt.invoke_of_saved (saved : attempt.saved = .ok ()) (initial : AgentState)
    (store : MemoryStore) :
    attempt.invoke initial store = Agent.invoke attempt.services initial store := by
  rw [Attempt.invoke, Agent.invoke, saved]
  cases reachMemory attempt.services initial <;> rfl

theorem Attempt.execute_of_saved (saved : attempt.saved = .ok ()) (workflowId workerId : String)
    (payload : WorkRequestInput) (store : MemoryStore) :
    attempt.execute workflowId workerId payload store =
      executeWorkflowSync attempt.services workflowId workerId attempt.claimedAt payload store := by
  rw [Attempt.execute, executeWorkflowSync]
  rcases store.claimWorkflowForExecution workflowId workerId attempt.claimedAt with
    ⟨_ | found, claimed⟩
  · rfl
  · have same := attempt.invoke_of_saved saved (executionInput workflowId workerId payload) claimed
    rcases invoked : Agent.invoke attempt.services (executionInput workflowId workerId payload)
      claimed with ⟨failure | result, left⟩
    · simp only [same, runExecution, invoked]
    · simp only [same, runExecution, invoked]

theorem run_sync_of_saved (saved : attempt.saved = .ok ()) (creation : Creation)
    (payload : WorkRequestInput) (workerId : String) (store : MemoryStore) :
    (Start.sync creation payload workerId attempt).run store =
      (createWorkflowSync attempt.services creation workerId attempt.claimedAt payload
        store).2 := by
  rw [Start.run, Attempt.execute_of_saved saved, createWorkflowSync]

theorem run_background_of_saved (saved : attempt.saved = .ok ()) (creation : Creation)
    (payload : WorkRequestInput) (workerId : String) (store : MemoryStore) :
    (Start.background creation payload workerId attempt {}).run store =
      executeInBackground attempt.services creation.workflowId workerId attempt.claimedAt payload
        (store.saveWorkflow (queuedWorkflow creation payload)) := by
  rw [Start.run, Attempt.execute_of_saved saved, executeInBackground]
  rcases executeWorkflowSync attempt.services creation.workflowId workerId attempt.claimedAt payload
    (store.saveWorkflow (queuedWorkflow creation payload)) with ⟨failure | workflow, left⟩
  · dsimp only [Recovery.run, MemoryStore.getWorkflowRemotely]
    cases left.getWorkflow creation.workflowId <;> rfl
  · rfl

/-- The message that a delivery is. -/
def Delivery.message (delivery : Delivery) : Message where
  body := delivery.body
  attempt := { services := delivery.services, claimedAt := delivery.claimedAt }

theorem Attempt.executeQueued_of_saved (saved : attempt.saved = .ok ())
    (workflowId workerId : String) (store : MemoryStore) :
    attempt.executeQueued workflowId workerId store =
      executeQueuedWorkflow attempt.services workflowId workerId attempt.claimedAt store := by
  rw [Attempt.executeQueued, executeQueuedWorkflow]
  cases store.getWorkflow workflowId with
  | none => rfl
  | some workflow =>
      dsimp only
      cases goalInput workflow.originalGoal with
      | error failure => rfl
      | ok payload =>
          dsimp only
          rw [Attempt.execute_of_saved saved]

theorem Loop.attempt_of_saved (loop : Loop) (workerId workflowId : String) (delivery : Delivery) :
    loop.attempt workerId workflowId delivery.message.attempt =
      loop.execute workerId workflowId delivery := by
  have same : delivery.message.attempt.executeQueued workflowId workerId loop.store =
      executeQueuedWorkflow delivery.services workflowId workerId delivery.claimedAt loop.store :=
    Attempt.executeQueued_of_saved rfl workflowId workerId loop.store
  rw [Loop.attempt, Loop.execute]
  rcases ended : executeQueuedWorkflow delivery.services workflowId workerId delivery.claimedAt
    loop.store with ⟨_ | _ | _, left⟩
  all_goals simp only [same, ended]

theorem Loop.receive_message (loop : Loop) (workerId : String) (delivery : Delivery) :
    loop.receive workerId delivery.message = loop.pass workerId delivery := by
  rw [Loop.receive, Loop.pass, Delivery.message]
  cases delivery.body with
  | error failure => rfl
  | ok text =>
      dsimp only
      cases bodyWorkflowId text.document with
      | error failure => rfl
      | ok workflowId =>
          cases workflowId with
          | str workflowId =>
              have same := Loop.attempt_of_saved { loop with body := some text.document } workerId
                workflowId delivery
              dsimp only [Except.map]
              rw [← same]
              rfl
          | _ => rfl

theorem Loop.receiveAll_deliveries (workerId : String) (deliveries : List Delivery) (loop : Loop) :
    (Loop.receiveAll workerId (deliveries.map Delivery.message) loop).2 =
      (Loop.overRecords workerId deliveries loop).2 := by
  induction deliveries generalizing loop with
  | nil => rfl
  | cons delivery deliveries ih =>
      rw [List.map_cons, Loop.receiveAll, Loop.receive_message, Loop.overRecords]
      cases loop.pass workerId delivery with
      | error failure => rfl
      | ok next => exact ih next

end Saved

/-- The record of the workflow says that it has failed, and why. -/
def FailedVisibly (workflowId : String) (store : MemoryStore) : Prop :=
  ∃ workflow message, store.getWorkflow workflowId = some workflow ∧
    workflow.executionState = .failed ∧ workflow.executionError = some message ∧ message ≠ ""

/-- A running record does not say that it has failed. -/
theorem not_failedVisibly_of_running {workflowId : String} {store : MemoryStore}
    {workflow : WorkflowState} (present : store.getWorkflow workflowId = some workflow)
    (running : workflow.executionState = .running) : ¬ FailedVisibly workflowId store := by
  rintro ⟨other, message, found, failed, -⟩
  obtain rfl := Option.some.inj (present.symm.trans found)
  rw [running] at failed
  cases failed

section Raising

variable {attempt : Attempt} {failure : Exn}

/-- A run in which a node raises saves nothing. -/
theorem Attempt.invoke_of_raises {initial : AgentState} (raises : attempt.Raises initial failure)
    (store : MemoryStore) : attempt.invoke initial store = (.error failure, store) := by
  rcases raises with raised | ⟨reached, ended, refused⟩
  · rw [Attempt.invoke, raised]
  · rw [Attempt.invoke, ended, refused]

/-- A new workflow whose execution raises is left running. -/
theorem Attempt.execute_of_raises {creation : Creation} {workerId : String}
    {payload : WorkRequestInput}
    (raises : attempt.Raises (executionInput creation.workflowId workerId payload) failure)
    (store : MemoryStore) : ∃ next,
    attempt.execute creation.workflowId workerId payload
        (store.saveWorkflow (queuedWorkflow creation payload)) = (.error failure, next) ∧
      next.getWorkflow creation.workflowId =
        some (MemoryStore.running attempt.claimedAt (queuedWorkflow creation payload)) := by
  obtain ⟨found, next, claim, -, running, -⟩ :=
    claim_queuedWorkflow store creation payload workerId attempt.claimedAt
  refine ⟨next, ?_, running⟩
  rw [Attempt.execute, claim]
  dsimp only
  rw [attempt.invoke_of_raises raises]

end Raising

section Frame

variable {workerId : String}

/-- The documents stay under their ids, and every running record stays as it is. -/
structure Frame (store next : MemoryStore) : Prop where
  keyed : next.Keyed
  running : ∀ workflowId workflow, store.getWorkflow workflowId = some workflow →
    workflow.executionState = .running → next.getWorkflow workflowId = some workflow

theorem Frame.refl {store : MemoryStore} (keyed : store.Keyed) : Frame store store :=
  ⟨keyed, fun _ _ present _ => present⟩

theorem Frame.trans {store middle next : MemoryStore} (first : Frame store middle)
    (second : Frame middle next) : Frame store next :=
  ⟨second.keyed, fun workflowId workflow present running =>
    second.running workflowId workflow (first.running workflowId workflow present running) running⟩

/-- A successful claim leaves the documents under their ids, and its own one running. -/
theorem keyed_of_claim {store next : MemoryStore} {workflowId : String} {now : DateTime}
    {found : Option WorkflowState} (keyed : store.Keyed)
    (claim : MemoryStore.Claim store workflowId now (found, next)) : next.Keyed := by
  cases claim with
  | refused => exact keyed
  | @claimed record found after next present queued stored running others backend =>
      intro other workflow located
      by_cases same : other = workflowId
      · subst same
        obtain rfl := Option.some.inj (stored.symm.trans located)
        have named := keyed other record present
        rcases running with rfl | rfl <;> exact named
      · rw [others other same] at located
        exact keyed other workflow located

/-- A run that ends saves under the id that it was started with. -/
theorem Attempt.invoke_cases (attempt : Attempt) (workflowId workerId : String)
    (payload : WorkRequestInput) (store : MemoryStore) :
    (∃ failure, attempt.invoke (executionInput workflowId workerId payload) store =
        (.error failure, store)) ∨
      ∃ result saved, attempt.invoke (executionInput workflowId workerId payload) store =
          (.ok result, store.saveWorkflow saved) ∧
        saved.workflowId = workflowId ∧
        (executedWorkflow attempt.services.clock result).workflowId = workflowId := by
  rw [Attempt.invoke]
  cases ended : reachMemory attempt.services (executionInput workflowId workerId payload) with
  | error failure => exact .inl ⟨failure, rfl⟩
  | ok reached =>
      cases attempt.saved with
      | error failure => exact .inl ⟨failure, rfl⟩
      | ok =>
          have executed := workflowId_executedWorkflow ended
          exact .inr ⟨_, _, rfl, executed, executed⟩

/-- An execution leaves every running record as it is. -/
theorem frame_execute (attempt : Attempt) (workflowId : String) (payload : WorkRequestInput)
    {store : MemoryStore} (keyed : store.Keyed) :
    Frame store (attempt.execute workflowId workerId payload store).2 := by
  have claim := MemoryStore.claim_cases (keyed workflowId) workerId attempt.claimedAt
  rw [Attempt.execute]
  revert claim
  rcases store.claimWorkflowForExecution workflowId workerId attempt.claimedAt with
    ⟨found, claimed⟩
  intro claim
  have claimedKeyed := keyed_of_claim keyed claim
  cases claim with
  | refused => exact Frame.refl keyed
  | @claimed record found after next present queued stored running others backend =>
      -- The claimed record was queued, so the running ones are others.
      have different : ∀ other workflow, store.getWorkflow other = some workflow →
          workflow.executionState = .running → other ≠ workflowId := by
        rintro other workflow located state rfl
        obtain rfl := Option.some.inj (present.symm.trans located)
        rw [queued] at state
        cases state
      have kept : Frame store claimed := by
        refine ⟨claimedKeyed, fun other workflow located state => ?_⟩
        rw [others other (different other workflow located state), located]
      dsimp only
      rcases attempt.invoke_cases workflowId workerId payload claimed with
        ⟨failure, failed⟩ | ⟨result, saved, ended, savedId, executedId⟩
      · rw [failed]
        exact kept
      · rw [ended]
        refine ⟨(claimedKeyed.saveWorkflow saved).saveWorkflow _,
          fun other workflow located state => ?_⟩
        have unlike := different other workflow located state
        rw [MemoryStore.getWorkflow_saveWorkflow_of_ne _ (executedId.symm ▸ unlike),
          MemoryStore.getWorkflow_saveWorkflow_of_ne _ (savedId.symm ▸ unlike)]
        exact kept.running other workflow located state

theorem frame_executeQueued (attempt : Attempt) (workflowId : String) {store : MemoryStore}
    (keyed : store.Keyed) :
    Frame store (attempt.executeQueued workflowId workerId store).2 := by
  rw [Attempt.executeQueued]
  cases store.getWorkflow workflowId with
  | none => exact Frame.refl keyed
  | some workflow =>
      dsimp only
      cases goalInput workflow.originalGoal with
      | error failure => exact Frame.refl keyed
      | ok payload => exact frame_execute attempt workflowId payload keyed

theorem Loop.store_attempt (loop : Loop) (workflowId : String) (attempt : Attempt) :
    (loop.attempt workerId workflowId attempt).store =
      (attempt.executeQueued workflowId workerId loop.store).2 := by
  rw [Loop.attempt]
  rcases attempt.executeQueued workflowId workerId loop.store with ⟨_ | _ | _, left⟩ <;> rfl

/-- One pass of the loop leaves every running record as it is. -/
theorem frame_receive {loop next : Loop} {message : Message} (keyed : loop.store.Keyed)
    (received : loop.receive workerId message = .ok next) : Frame loop.store next.store := by
  rw [Loop.receive] at received
  cases decoded : message.body with
  | error failure =>
      rw [decoded] at received
      obtain ⟨recorded, -, rfl⟩ := ok_of_map received
      exact Frame.refl keyed
  | ok text =>
      rw [decoded] at received
      obtain ⟨named, -, rfl⟩ := ok_of_map received
      split
      · exact Frame.refl keyed
      · cases named with
        | str workflowId =>
            dsimp only
            rw [Loop.store_attempt]
            exact frame_executeQueued message.attempt workflowId keyed
        | _ => exact Frame.refl keyed

/-- The loop over the records leaves every running record as it is. -/
theorem frame_receiveAll (messages : List Message) {loop : Loop} (keyed : loop.store.Keyed) :
    Frame loop.store (Loop.receiveAll workerId messages loop).2 := by
  induction messages generalizing loop with
  | nil => exact Frame.refl keyed
  | cons message messages ih =>
      rw [Loop.receiveAll]
      cases received : loop.receive workerId message with
      | error failure => exact Frame.refl keyed
      | ok next =>
          have first := frame_receive keyed received
          exact first.trans (ih first.keyed)

/-- The loop goes on from what the earlier records have left. -/
theorem Loop.receiveAll_append {earlier : List Message} {loop middle : Loop}
    (later : List Message)
    (went : (Loop.receiveAll workerId earlier loop).1 = .ok middle) :
    Loop.receiveAll workerId (earlier ++ later) loop = Loop.receiveAll workerId later middle := by
  induction earlier generalizing loop with
  | nil =>
      cases went
      rfl
  | cons message earlier ih =>
      rw [List.cons_append, Loop.receiveAll]
      rw [Loop.receiveAll] at went
      cases received : loop.receive workerId message with
      | error failure =>
          rw [received] at went
          cases went
      | ok next =>
          rw [received] at went
          exact ih went

theorem Loop.store_receiveAll {messages : List Message} {loop final : Loop}
    (went : (Loop.receiveAll workerId messages loop).1 = .ok final) :
    (Loop.receiveAll workerId messages loop).2 = final.store := by
  have whole := Loop.receiveAll_append [] went
  rw [List.append_nil] at whole
  rw [whole, Loop.receiveAll]

end Frame

section Outcome

variable {store : MemoryStore} {failure : Exn} {workerId : String}

/-- A queued workflow whose execution raises is left running. -/
theorem Attempt.executeQueued_of_raises {attempt : Attempt} {workflowId : String}
    {workflow : WorkflowState} {payload : WorkRequestInput} (keyed : store.Keyed)
    (present : store.getWorkflow workflowId = some workflow)
    (decoded : goalInput workflow.originalGoal = .ok payload)
    (claims : (store.claimWorkflowForExecution workflowId workerId attempt.claimedAt).1 ≠ none)
    (raises : attempt.Raises (executionInput workflowId workerId payload) failure) :
    ∃ next record, attempt.executeQueued workflowId workerId store = (.error failure, next) ∧
      next.Keyed ∧ next.getWorkflow workflowId = some record ∧
      record.executionState = .running := by
  have claim := MemoryStore.claim_cases (keyed workflowId) workerId attempt.claimedAt
  rw [Attempt.executeQueued, present]
  dsimp only
  rw [decoded]
  dsimp only
  rw [Attempt.execute]
  revert claim claims
  rcases store.claimWorkflowForExecution workflowId workerId attempt.claimedAt with
    ⟨found, claimed⟩
  intro claims claim
  have claimedKeyed := keyed_of_claim keyed claim
  cases claim with
  | refused => exact absurd rfl claims
  | @claimed record found after next located queued stored running others backend =>
      refine ⟨claimed, after, ?_, claimedKeyed, stored, ?_⟩
      · dsimp only
        rw [attempt.invoke_of_raises raises]
        rfl
      · rcases running with rfl | rfl <;> rfl

/-- The pass of the loop over the message of a workflow. -/
theorem Loop.receive_of_named {loop : Loop} {workflowId : String} {text : JsonText}
    {attempt : Attempt} (generated : workflowId ≠ "")
    (named : bodyWorkflowId text.document = .ok (.str workflowId)) :
    loop.receive workerId { body := .ok text, attempt } =
      .ok ({ loop with body := some text.document }.attempt workerId workflowId attempt) := by
  have nonempty : (Value.str workflowId).truthy ≠ false := by simpa [Value.truthy] using generated
  simp only [Loop.receive, named, Except.map, if_neg nonempty]

/-- The record that the background thread has marked. -/
theorem failedVisibly_failedWorkflow {workflow : WorkflowState}
    {workflowId : String} (same : workflow.workflowId = workflowId) :
    FailedVisibly workflowId (store.saveWorkflow (failedWorkflow failure workflow)) ↔
      failure.message ≠ "" := by
  have named : (failedWorkflow failure workflow).workflowId = workflowId := same
  have stored := store.getWorkflow_saveWorkflow_of_eq named
  constructor
  · rintro ⟨found, message, located, -, error, nonempty⟩
    obtain rfl := Option.some.inj (stored.symm.trans located)
    have marked : some failure.message = some message := by
      rw [← error]
      cases store.backend <;> rfl
    rwa [Option.some.inj marked]
  · intro nonempty
    refine ⟨_, failure.message, stored, ?_, ?_, nonempty⟩
    · cases store.backend <;> rfl
    · cases store.backend <;> rfl

/-- A handler that cannot read the record, or whose mark is refused, leaves it as it is. -/
theorem Recovery.run_of_not_marks {recovery : Recovery} {workflowId : String}
    {workflow : WorkflowState} (present : store.getWorkflow workflowId = some workflow)
    (unmarked : ¬ (recovery.reread = none ∧ recovery.marked = .ok ())) :
    recovery.run workflowId failure store = store := by
  rw [Recovery.run]
  match reread : recovery.reread, marked : recovery.marked with
  | none, .ok _ => exact absurd ⟨reread, marked⟩ unmarked
  | none, .error _ => simp only [MemoryStore.getWorkflowRemotely, present]
  | some (.clientError _), _ | some (.other _), _ => simp only [MemoryStore.getWorkflowRemotely]

/-- A handler whose calls succeed marks the record. -/
theorem Recovery.run_of_marks {recovery : Recovery} {workflowId : String}
    {workflow : WorkflowState} (present : store.getWorkflow workflowId = some workflow)
    (reread : recovery.reread = none) (marked : recovery.marked = .ok ()) :
    recovery.run workflowId failure store =
      store.saveWorkflow (failedWorkflow failure workflow) := by
  simp only [Recovery.run, reread, marked, MemoryStore.getWorkflowRemotely, present]

/-- **Only the background thread leaves a failed execution marked.** After an execution
in which a node raised, the record is marked with a non-empty error exactly if the thread
of `create_workflow` ran the execution, the store gave the record to its handler and took
the mark, and the error has a text. Otherwise the record is still running. -/
theorem failedVisibly_iff (start : Start) (keyed : store.Keyed)
    (fails : start.Fails store failure) :
    FailedVisibly start.workflowId (start.run store) ↔
      start.Marks ∧ failure.message ≠ "" := by
  cases start with
  | background creation payload workerId attempt recovery =>
      obtain ⟨next, executed, running⟩ := Attempt.execute_of_raises fails store
      simp only [Start.run, executed]
      by_cases marks : recovery.reread = none ∧ recovery.marked = .ok ()
      · rw [Recovery.run_of_marks running marks.1 marks.2]
        exact (failedVisibly_failedWorkflow rfl).trans
          ⟨fun nonempty => ⟨marks, nonempty⟩, fun ⟨_, nonempty⟩ => nonempty⟩
      · rw [Recovery.run_of_not_marks running marks]
        have unmarked : ¬ FailedVisibly creation.workflowId next :=
          not_failedVisibly_of_running running rfl
        exact ⟨fun visible => absurd visible unmarked, fun ⟨marked, _⟩ => absurd marked marks⟩
  | sync creation payload workerId attempt =>
      obtain ⟨next, executed, running⟩ := Attempt.execute_of_raises fails store
      simp only [Start.run, executed]
      have unmarked : ¬ FailedVisibly creation.workflowId next :=
        not_failedVisibly_of_running running rfl
      exact ⟨fun visible => absurd visible unmarked, fun ⟨marks, _⟩ => marks.elim⟩
  | worker workflowId workerId earlier text attempt later =>
      obtain ⟨loop, workflow, payload, went, generated, named, present, decoded, claims, raises⟩ :=
        fails
      have before : loop.store.Keyed := by
        let begun : Loop := { store }
        have frame : Frame begun.store (Loop.receiveAll workerId earlier begun).2 :=
          frame_receiveAll earlier keyed
        rw [Loop.store_receiveAll went] at frame
        exact frame.keyed
      obtain ⟨next, record, executed, nextKeyed, stored, running⟩ :=
        Attempt.executeQueued_of_raises before present decoded claims raises
      rw [Start.run, Start.event, Loop.receiveAll_append _ went, Loop.receiveAll,
        Loop.receive_of_named generated named]
      dsimp only
      let reported := { loop with body := some text.document }.attempt workerId workflowId attempt
      have left : reported.store = next := by
        rw [Loop.store_attempt, executed]
      have frame : Frame reported.store (Loop.receiveAll workerId later reported).2 :=
        frame_receiveAll later (left ▸ nextKeyed)
      have kept := frame.running workflowId record (left ▸ stored) running
      exact ⟨fun visible => absurd visible (not_failedVisibly_of_running kept running),
        fun ⟨marks, _⟩ => marks.elim⟩

end Outcome

section Examples

/-- Services whose language model does not answer. -/
def raisingServices : Services :=
  { silentServices with
    llm := { silentServices.llm with
      analyzeObjective := fun _ => .error (.upstream "timeout") } }

/-- The first node of the run that asks the model raises. -/
theorem reachMemory_raising :
    reachMemory raisingServices (executionInput "wf_goal" "worker" { goal := "goal" }) =
      .error (.upstream "timeout") := by
  have raised : (reachMemory raisingServices
      (executionInput "wf_goal" "worker" { goal := "goal" })).map (fun _ => ()) =
        .error (.upstream "timeout") := by
    decide +kernel
  exact error_of_map raised

def goalCreation : Creation :=
  { workflowId := "wf_goal", createdAt := .newYear, updatedAt := .newYear }

def raisingAttempt : Attempt := { services := raisingServices, claimedAt := .newYear }

theorem raises_raising : raisingAttempt.Raises
    (executionInput goalCreation.workflowId "worker" { goal := "goal" }) (.upstream "timeout") :=
  .inl reachMemory_raising

/-- The background thread marks the record of the failed execution. -/
theorem failedVisibly_background : FailedVisibly "wf_goal"
    ((Start.background goalCreation { goal := "goal" } "worker" raisingAttempt {}).run
      { backend := .localStore }) :=
  (failedVisibly_iff (.background goalCreation { goal := "goal" } "worker" raisingAttempt {})
    (MemoryStore.keyed_empty .localStore) raises_raising).mpr ⟨⟨rfl, rfl⟩, by decide⟩

/-- The synchronous call leaves the record of the failed execution running. -/
theorem failure_unmarked : ¬ ∀ (start : Start) (store : MemoryStore) (failure : Exn),
    store.Keyed → start.Fails store failure →
      FailedVisibly start.workflowId (start.run store) := by
  intro claim
  have visible := claim (.sync goalCreation { goal := "goal" } "worker" raisingAttempt)
    { backend := .localStore } (.upstream "timeout") (MemoryStore.keyed_empty .localStore)
    raises_raising
  obtain ⟨next, executed, running⟩ :=
    Attempt.execute_of_raises raises_raising { backend := .localStore }
  rw [Start.run, executed] at visible
  exact not_failedVisibly_of_running running rfl visible

end Examples

end ActionPlan.Worker
