import ActionPlan.Agent.Service
import ActionPlan.Api.Documents
import ActionPlan.Foundation.Interleaving

/-! # Interleaved operations on one record of the memory store

Executions, refreshes, continuations, ingestions and polls of one workflow, each
broken into its accesses of the memory store: every operation reads the record,
works, and saves it as a whole, and an operation that runs the graph saves
twice, first the copy of the memory node and then its own result. Any number of
operations take these steps in any order.

The shared state carries what is needed to speak about runs: whether the record
is a copy that a memory node saved, the number of saves, the tasks of the last
completed execution, the filenames whose ingestion returned, and the execution
states that reads returned.
-/

namespace ActionPlan.Agent.Operations

open ActionPlan.Foundation ActionPlan.Models ActionPlan.Memory ActionPlan.Api

/-- What the threads share: the store, and a record of what the calls have done to it. -/
structure Shared where
  store : MemoryStore
  intermediate : Bool := false
  saves : Nat := 0
  executed : Option (List Task) := none
  acknowledged : List String := []
  reads : List (Option ExecutionState) := []

/-- One call of `_execute_workflow_sync`; `background` when `execute_in_background`
handles its errors. -/
structure Attempt where
  payload : WorkRequestInput
  workerId : String
  claimedAt : DateTime
  background : Bool

/-- How far an operation has come. The numbers are the counts of saves at the
operation's last access; `claimed` records whether an ended attempt had claimed
the workflow. -/
inductive Operation where
  | idle
  | attempting (attempt : Attempt)
  | selected (attempt : Attempt)
  | updated (attempt : Attempt) (saves : Nat)
  | running (attempt : Attempt) (saves : Nat)
  | executing (attempt : Attempt) (clock : Clock) (result : AgentState) (saves : Nat)
  | recovering (claimed : Bool) (failure : Exn)
  | failing (claimed : Bool) (failure : Exn) (workflow : WorkflowState) (saves : Nat)
  | refreshing (workflow : WorkflowState) (saves : Nat)
  | refreshed (workflow : WorkflowState) (clock : Clock) (result : AgentState) (saves : Nat)
  | continuing (workflow : WorkflowState) (completedTaskIds : List String) (saves : Nat)
  | continued (workflow : WorkflowState) (clock : Clock) (result : AgentState) (saves : Nat)
  | ingesting (filename : String) (workflow : WorkflowState) (saves : Nat)
  | finished (claimed : Bool)

/-- The steps of a thread: a delivery or a request begins a call, and a call reads, runs its nodes
and saves. -/
inductive Action where
  | deliver (workerId : String) (claimedAt : DateTime)
  | start (attempt : Attempt)
  | claim
  | invoke (services : Services)
  | save
  | recover
  | refresh
  | resume (completedTaskIds : List String)
  | ingest (filename : String)
  | poll
  | fail (failure : Exn)

namespace Operation

/-- Whether the operation's claim has succeeded. -/
def claimed : Operation → Bool
  | updated _ _ | running _ _ | executing _ _ _ _ => true
  | recovering claimed _ | failing claimed _ _ _ | finished claimed => claimed
  | _ => false

/-- The operation after an exception. -/
def raised (failure : Exn) : Operation → Operation
  | attempting attempt | selected attempt =>
    if attempt.background then recovering false failure else finished false
  | updated attempt _ | running attempt _ | executing attempt _ _ _ =>
    if attempt.background then recovering true failure else finished true
  | operation => finished operation.claimed

/-- The operation that a read begins or carries on. -/
def reader : Operation → Action → Option (WorkflowState → Nat → Operation)
  | idle, .refresh => some refreshing
  | idle, .resume completedTaskIds =>
    some fun workflow saves => continuing workflow completedTaskIds saves
  | idle, .ingest filename => some (ingesting filename)
  | recovering claimed failure, .recover => some (failing claimed failure)
  | _, _ => none

/-- The initial state of the graph in an operation that runs it. -/
def input (workflowId : String) : Operation → Option (Except Exn AgentState)
  | running attempt _ => some (.ok (executionInput workflowId attempt.workerId attempt.payload))
  | refreshing workflow _ => some ((rebuildPayload workflow).map (rebuildInput workflow))
  | continuing workflow completedTaskIds _ => some (.ok (continueInput workflow completedTaskIds))
  | _ => none

/-- The operation after the graph has run. -/
def invoked (clock : Clock) (result : AgentState) (saves : Nat) : Operation → Operation
  | running attempt _ => executing attempt clock result saves
  | refreshing workflow _ => refreshed workflow clock result saves
  | continuing workflow _ _ => continued workflow clock result saves
  | operation => operation

/-- The record that the operation saves last. -/
def final : Operation → Option (Except Exn WorkflowState)
  | executing _ clock result _ => some (.ok (executedWorkflow clock result))
  | refreshed workflow clock result _ => some (.ok (rebuiltWorkflow clock workflow result))
  | continued workflow clock result _ => some (.ok (continuedWorkflow clock workflow result))
  | failing _ failure workflow _ => some (.ok (failedWorkflow failure workflow))
  | ingesting filename workflow _ => some (withDocument filename workflow)
  | _ => none

/-- Whether the operation can still raise. -/
def active : Operation → Bool
  | idle | finished _ => false
  | _ => true

end Operation

namespace Shared

variable (shared : Shared)

/-- A read of the record. -/
def observe (workflowId : String) : Shared :=
  { shared with
    reads := shared.reads ++
      [(shared.store.getWorkflow workflowId).map WorkflowState.executionState] }

/-- The record after a claim. -/
def claim (store : MemoryStore) : Shared := { shared with store, saves := shared.saves + 1 }

/-- The save of the memory node. -/
def copy (workflow : WorkflowState) : Shared :=
  { shared with
    store := shared.store.saveWorkflow workflow
    intermediate := true
    saves := shared.saves + 1 }

/-- The last save of an operation. -/
def finish (operation : Operation) (workflow : WorkflowState) : Shared :=
  { shared with
    store := shared.store.saveWorkflow workflow
    intermediate := false
    saves := shared.saves + 1
    executed :=
      match operation with
      | .executing _ _ _ _ => some workflow.tasks
      | _ => shared.executed
    acknowledged :=
      match operation with
      | .ingesting filename _ _ => shared.acknowledged ++ [filename]
      | _ => shared.acknowledged }

end Shared

/-- The error of a refused claim. -/
def refusal (workflowId : String) : Exn :=
  .runtimeError ("Could not claim workflow " ++ workflowId ++ " for execution")

/-- The claim step of an attempt; three steps for DynamoDB. -/
def claimStep (workflowId : String) (shared : Shared) : Operation → Option (Operation × Shared)
  | .attempting attempt =>
    match shared.store.backend with
    | .localStore =>
      match shared.store.claimLocally workflowId attempt.claimedAt with
      | none => some ((Operation.attempting attempt).raised (refusal workflowId),
          shared.observe workflowId)
      | some (_, store) =>
        some (.running attempt (shared.saves + 1), (shared.observe workflowId).claim store)
    | .dynamodb =>
      match shared.store.claimable workflowId with
      | none => some ((Operation.attempting attempt).raised (refusal workflowId),
          shared.observe workflowId)
      | some _ => some (.selected attempt, shared.observe workflowId)
  | .selected attempt =>
    match shared.store.claimUpdate workflowId attempt.workerId attempt.claimedAt with
    | none => some ((Operation.selected attempt).raised (refusal workflowId), shared)
    | some store => some (.updated attempt (shared.saves + 1), shared.claim store)
  | .updated attempt saves => some (.running attempt saves, shared.observe workflowId)
  | _ => none

/-- `execute_queued_workflow` up to the claim. -/
def deliverStep (workflowId workerId : String) (claimedAt : DateTime) (shared : Shared) :
    Operation × Shared :=
  match shared.store.getWorkflow workflowId with
  | none => (.finished false, shared.observe workflowId)
  | some workflow =>
    match goalInput workflow.originalGoal with
    | .error _ => (.finished false, shared.observe workflowId)
    | .ok payload =>
      (.attempting { payload, workerId, claimedAt, background := false },
        shared.observe workflowId)

/-- The graph run of an operation, up to and including the save of the memory node. -/
def invokeStep (workflowId : String) (services : Services) (shared : Shared)
    (operation : Operation) : Option (Operation × Shared) :=
  (operation.input workflowId).map fun input =>
    match input with
    | .error failure => (operation.raised failure, shared)
    | .ok initial =>
      match reachMemory services initial with
      | .error failure => (operation.raised failure, shared)
      | .ok reached =>
        (operation.invoked services.clock (updateMemoryResult services.clock reached)
            (shared.saves + 1),
          shared.copy (stateToWorkflow services.clock reached))

/-- The last save of an operation. -/
def saveStep (shared : Shared) (operation : Operation) : Option (Operation × Shared) :=
  operation.final.map fun final =>
    match final with
    | .error failure => (operation.raised failure, shared)
    | .ok workflow => (.finished operation.claimed, shared.finish operation workflow)

/-- The read of an operation; a missing record ends it. -/
def readStep (workflowId : String) (action : Action) (shared : Shared) (operation : Operation) :
    Option (Operation × Shared) :=
  (operation.reader action).map fun make =>
    match shared.store.getWorkflow workflowId with
    | none => (.finished operation.claimed, shared.observe workflowId)
    | some workflow => (make workflow shared.saves, shared.observe workflowId)

/-- The program of an operation on one workflow. -/
def operations (workflowId : String) : Interleaving Shared Operation Action where
  step operation shared action :=
    match action with
    | .deliver workerId claimedAt =>
      match operation with
      | .idle => some (deliverStep workflowId workerId claimedAt shared)
      | _ => none
    | .start attempt =>
      match operation with
      | .idle => some (.attempting attempt, shared)
      | _ => none
    | .poll =>
      match operation with
      | .idle => some (.finished false, shared.observe workflowId)
      | _ => none
    | .claim => claimStep workflowId shared operation
    | .invoke services => invokeStep workflowId services shared operation
    | .save => saveStep shared operation
    | .fail failure => if operation.active then some (operation.raised failure, shared) else none
    | action => readStep workflowId action shared operation

/-- The steps that read the record. -/
def Observes : Operation → Action → Prop
  | _, .deliver _ _ | _, .recover | _, .refresh | _, .resume _ | _, .ingest _ | _, .poll => True
  | .attempting _, .claim | .updated _ _, .claim => True
  | _, _ => False

/-- The shared state after a step that at most reads the record. -/
def Unchanged (workflowId : String) (operation : Operation) (action : Action)
    (shared next : Shared) : Prop :=
  next = shared ∨ Observes operation action ∧ next = shared.observe workflowId

/-- What one step of an operation can do. -/
inductive Step (workflowId : String) (shared : Shared) :
    Operation → Action → Operation → Shared → Prop
  | stopped {operation after : Operation} {action : Action} {next : Shared}
      (unchanged : Unchanged workflowId operation action shared next)
      (claimed : after.claimed = operation.claimed)
      (rests : (∃ claimed failure, after = .recovering claimed failure) ∨
        ∃ claimed, after = .finished claimed) : Step workflowId shared operation action after next
  | attempted {action : Action} {attempt : Attempt} {next : Shared}
      (unchanged : Unchanged workflowId .idle action shared next) :
      Step workflowId shared .idle action (.attempting attempt) next
  | selected {attempt : Attempt} {workflow : WorkflowState}
      (queued : shared.store.claimable workflowId = some workflow) :
      Step workflowId shared (.attempting attempt) .claim (.selected attempt)
        (shared.observe workflowId)
  | claimedLocally {attempt : Attempt} {workflow : WorkflowState} {store : MemoryStore}
      (backend : shared.store.backend = .localStore)
      (claim : shared.store.claimLocally workflowId attempt.claimedAt = some (workflow, store)) :
      Step workflowId shared (.attempting attempt) .claim (.running attempt (shared.saves + 1))
        ((shared.observe workflowId).claim store)
  | updated {attempt : Attempt} {store : MemoryStore}
      (claim :
        shared.store.claimUpdate workflowId attempt.workerId attempt.claimedAt = some store) :
      Step workflowId shared (.selected attempt) .claim (.updated attempt (shared.saves + 1))
        (shared.claim store)
  | fetched {attempt : Attempt} {saves : Nat} :
      Step workflowId shared (.updated attempt saves) .claim (.running attempt saves)
        (shared.observe workflowId)
  | read {operation : Operation} {action : Action} {make : WorkflowState → Nat → Operation}
      {workflow : WorkflowState} (reader : operation.reader action = some make)
      (found : shared.store.getWorkflow workflowId = some workflow) :
      Step workflowId shared operation action (make workflow shared.saves)
        (shared.observe workflowId)
  | copied {operation : Operation} {services : Services} {initial reached : AgentState}
      (input : operation.input workflowId = some (.ok initial))
      (ran : reachMemory services initial = .ok reached) :
      Step workflowId shared operation (.invoke services)
        (operation.invoked services.clock (updateMemoryResult services.clock reached)
          (shared.saves + 1))
        (shared.copy (stateToWorkflow services.clock reached))
  | saved {operation : Operation} {workflow : WorkflowState}
      (final : operation.final = some (.ok workflow)) :
      Step workflowId shared operation .save (.finished operation.claimed)
        (shared.finish operation workflow)

section Cases

variable {workflowId : String} {operation after : Operation} {shared next : Shared}

theorem claimed_raised (operation : Operation) (failure : Exn) :
    (operation.raised failure).claimed = operation.claimed := by
  cases operation <;> first
    | rfl
    | (simp only [Operation.raised]; split <;> rfl)

theorem rests_raised (operation : Operation) (failure : Exn) :
    (∃ claimed other, operation.raised failure = .recovering claimed other) ∨
      ∃ claimed, operation.raised failure = .finished claimed := by
  cases operation <;> first
    | exact .inr ⟨_, rfl⟩
    | (simp only [Operation.raised]
       split
       · exact .inl ⟨_, _, rfl⟩
       · exact .inr ⟨_, rfl⟩)

theorem stopped_raised (operation : Operation) {action : Action} (failure : Exn)
    (unchanged : Unchanged workflowId operation action shared next) :
    Step workflowId shared operation action (operation.raised failure) next :=
  .stopped unchanged (claimed_raised operation failure) (rests_raised operation failure)

theorem claimStep_cases (stepped : claimStep workflowId shared operation = some (after, next)) :
    Step workflowId shared operation .claim after next := by
  unfold claimStep at stepped
  split at stepped
  · split at stepped
    · rename_i backend
      split at stepped
      · cases stepped
        exact stopped_raised _ _ (.inr ⟨trivial, rfl⟩)
      · rename_i claim
        cases stepped
        exact .claimedLocally backend claim
    · split at stepped
      · cases stepped
        exact stopped_raised _ _ (.inr ⟨trivial, rfl⟩)
      · rename_i queued
        cases stepped
        exact .selected queued
  · split at stepped
    · cases stepped
      exact stopped_raised _ _ (.inl rfl)
    · rename_i claim
      cases stepped
      exact .updated claim
  · cases stepped
    exact .fetched
  · cases stepped

theorem deliverStep_cases (workerId : String) (claimedAt : DateTime) :
    Step workflowId shared .idle (.deliver workerId claimedAt)
      (deliverStep workflowId workerId claimedAt shared).1
      (deliverStep workflowId workerId claimedAt shared).2 := by
  unfold deliverStep
  split
  · exact .stopped (.inr ⟨trivial, rfl⟩) rfl (.inr ⟨_, rfl⟩)
  · split
    · exact .stopped (.inr ⟨trivial, rfl⟩) rfl (.inr ⟨_, rfl⟩)
    · exact .attempted (.inr ⟨trivial, rfl⟩)

theorem invokeStep_cases {services : Services}
    (stepped : invokeStep workflowId services shared operation = some (after, next)) :
    Step workflowId shared operation (.invoke services) after next := by
  obtain ⟨input, enabled, taken⟩ := Option.map_eq_some_iff.mp stepped
  split at taken
  · cases taken
    exact stopped_raised _ _ (.inl rfl)
  · split at taken
    · cases taken
      exact stopped_raised _ _ (.inl rfl)
    · rename_i ran
      cases taken
      exact .copied enabled ran

theorem saveStep_cases (stepped : saveStep shared operation = some (after, next)) :
    Step workflowId shared operation .save after next := by
  obtain ⟨final, enabled, taken⟩ := Option.map_eq_some_iff.mp stepped
  split at taken
  · cases taken
    exact stopped_raised _ _ (.inl rfl)
  · cases taken
    exact .saved enabled

theorem observes_of_reader {action : Action} {make : WorkflowState → Nat → Operation}
    (reader : operation.reader action = some make) : Observes operation action := by
  cases action with
  | recover | refresh | resume | ingest | deliver | poll => cases operation <;> exact trivial
  | start | claim | invoke | save | fail => cases operation <;> cases reader

theorem readStep_cases {action : Action}
    (stepped : readStep workflowId action shared operation = some (after, next)) :
    Step workflowId shared operation action after next := by
  obtain ⟨make, enabled, taken⟩ := Option.map_eq_some_iff.mp stepped
  split at taken
  · cases taken
    exact .stopped (.inr ⟨observes_of_reader enabled, rfl⟩) rfl (.inr ⟨_, rfl⟩)
  · rename_i found
    cases taken
    exact .read enabled found

/-- Every step is one of the listed ones. -/
theorem step_cases {action : Action}
    (stepped : (operations workflowId).step operation shared action = some (after, next)) :
    Step workflowId shared operation action after next := by
  simp only [operations] at stepped
  split at stepped
  · split at stepped
    · rename_i workerId claimedAt _
      obtain ⟨rfl, rfl⟩ := Prod.mk.inj (Option.some.inj stepped)
      exact deliverStep_cases workerId claimedAt
    · cases stepped
  · split at stepped
    · cases stepped
      exact .attempted (.inl rfl)
    · cases stepped
  · split at stepped
    · cases stepped
      exact .stopped (.inr ⟨trivial, rfl⟩) rfl (.inr ⟨_, rfl⟩)
    · cases stepped
  · exact claimStep_cases stepped
  · exact invokeStep_cases stepped
  · exact saveStep_cases stepped
  · split at stepped
    · cases stepped
      exact stopped_raised _ _ (.inl rfl)
    · cases stepped
  · exact readStep_cases stepped

end Cases

end ActionPlan.Agent.Operations
