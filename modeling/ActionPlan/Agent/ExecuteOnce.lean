import ActionPlan.Agent.Operations

/-! # At most one attempt executes a workflow

A claim succeeds only on a queued record and leaves it running. The memory node
of the claimed execution then saves a copy whose execution state has the default
`queued`, so between that save and the execution's last one the record can be
claimed again. Executions whose claims are not decided in this window are
unique.
-/

namespace ActionPlan.Agent.Operations

open ActionPlan.Foundation ActionPlan.Models ActionPlan.Memory

/-- The steps of workers and background threads, of which no claim is decided
on the copy of a memory node. -/
def DecidedOnResult : Operation → Shared → Action → Prop
  | .attempting _, shared, .claim =>
    shared.store.backend = .localStore → shared.intermediate = false
  | .selected _, shared, .claim => shared.intermediate = false
  | _, _, .refresh | _, _, .resume _ | _, _, .ingest _ => False
  | _, _, _ => True

/-- Workers and background threads, without a condition on their steps. -/
def Executions : Operation → Shared → Action → Prop
  | _, _, .refresh | _, _, .resume _ | _, _, .ingest _ => False
  | _, _, _ => True

/-- A queued workflow before any attempt. -/
structure Queued {Thread : Type*} (workflowId : String)
    (configuration : Configuration Thread Shared Operation) : Prop where
  keyed : configuration.shared.store.Keyed
  record : ∃ workflow, configuration.shared.store.getWorkflow workflowId = some workflow ∧
    workflow.executionState = .queued
  settled : configuration.shared.intermediate = false
  idle : ∀ thread, configuration.locals thread = .idle

/-- The claim succeeds for at most one attempt. -/
def ClaimedOnce {Thread : Type*} (configuration : Configuration Thread Shared Operation) : Prop :=
  ∀ first second, (configuration.locals first).claimed = true →
    (configuration.locals second).claimed = true → first = second

section Outline

variable {workflowId : String} {operation after : Operation} {shared next : Shared}

/-- The record cannot be claimed, unless it is the copy of a memory node. -/
def Blocked (workflowId : String) (shared : Shared) : Prop :=
  shared.intermediate = true ∨ ∃ workflow, shared.store.getWorkflow workflowId = some workflow ∧
    workflow.executionState ≠ .queued

/-- What an execution holds belongs to the workflow. -/
def Executing (workflowId : String) : Operation → Prop
  | .executing _ _ result _ => result.workflowId = some workflowId
  | .failing _ _ workflow _ => workflow.workflowId = workflowId
  | .refreshing _ _ | .refreshed _ _ _ _ | .continuing _ _ _ | .continued _ _ _ _
  | .ingesting _ _ _ => False
  | _ => True

theorem blocked_finish {workflow : WorkflowState} (same : workflow.workflowId = workflowId)
    (state : workflow.executionState ≠ .queued) :
    Blocked workflowId (shared.finish operation workflow) :=
  .inr ⟨_, MemoryStore.getWorkflow_saveWorkflow_of_eq _ same, by simpa using state⟩

theorem blocked_claimLocally {now : DateTime} {workflow : WorkflowState} {store : MemoryStore}
    (keyed : shared.store.Keyed)
    (claim : shared.store.claimLocally workflowId now = some (workflow, store)) :
    store.Keyed ∧ Blocked workflowId ((shared.observe workflowId).claim store) := by
  obtain ⟨queued, found, -, rfl⟩ := MemoryStore.claimLocally_eq_some claim
  have key : (MemoryStore.running now queued).workflowId = workflowId :=
    keyed workflowId queued found
  exact ⟨keyed.saveWorkflow _,
    .inr ⟨_, MemoryStore.getWorkflow_saveWorkflow_of_eq _ key, by simp [MemoryStore.running]⟩⟩

theorem blocked_claimUpdate {workerId : String} {now : DateTime} {store : MemoryStore}
    (keyed : shared.store.Keyed)
    (claim : shared.store.claimUpdate workflowId workerId now = some store) :
    store.Keyed ∧ Blocked workflowId (shared.claim store) := by
  obtain ⟨record, found, -, rfl⟩ := MemoryStore.claimUpdate_eq_some claim
  have key := keyed workflowId _ found
  rw [MemoryStore.load_workflowId] at key
  exact ⟨keyed.insert key,
    .inr ⟨_, MemoryStore.getWorkflow_insert, by simp [MemoryStore.running]⟩⟩

/-- A record that can be claimed is not blocked. -/
theorem not_blocked {workflow : WorkflowState} (settled : shared.intermediate = false)
    (found : shared.store.getWorkflow workflowId = some workflow)
    (queued : workflow.executionState = .queued) : ¬ Blocked workflowId shared := by
  rintro (copy | ⟨other, present, state⟩)
  · rw [settled] at copy
    cases copy
  · obtain rfl := Option.some.inj (found.symm.trans present)
    exact state queued

/-- What a step of an execution establishes. -/
structure Outcome (workflowId : String) (operation : Operation) (shared : Shared)
    (after : Operation) (next : Shared) : Prop where
  keyed : next.store.Keyed
  executing : Executing workflowId after
  blocked : Blocked workflowId shared → Blocked workflowId next
  claimed : after.claimed = true → operation.claimed = true ∨
    ¬ Blocked workflowId shared ∧ Blocked workflowId next

theorem executing_outcome {action : Action} (keyed : shared.store.Keyed)
    (executing : Executing workflowId operation)
    (guarded : DecidedOnResult operation shared action)
    (step : Step workflowId shared operation action after next) :
    Outcome workflowId operation shared after next := by
  cases step with
  | stopped unchanged claimed rests =>
      have content : Executing workflowId after := by
        rcases rests with ⟨_, _, rfl⟩ | ⟨_, rfl⟩ <;> exact trivial
      rcases unchanged with rfl | ⟨-, rfl⟩
      · exact ⟨keyed, content, id, fun past => .inl (claimed ▸ past)⟩
      · exact ⟨keyed, content, id, fun past => .inl (claimed ▸ past)⟩
  | attempted unchanged =>
      rcases unchanged with rfl | ⟨-, rfl⟩
      · exact ⟨keyed, trivial, id, fun past => by cases past⟩
      · exact ⟨keyed, trivial, id, fun past => by cases past⟩
  | selected => exact ⟨keyed, trivial, id, fun past => by cases past⟩
  | claimedLocally backend claim =>
      obtain ⟨queued, found, state, -⟩ := MemoryStore.claimLocally_eq_some claim
      obtain ⟨claimedKeyed, blocked⟩ := blocked_claimLocally keyed claim
      exact ⟨claimedKeyed, trivial, fun _ => blocked,
        fun _ => .inr ⟨not_blocked (guarded backend) found state, blocked⟩⟩
  | updated claim =>
      obtain ⟨record, found, state, -⟩ := MemoryStore.claimUpdate_eq_some claim
      obtain ⟨claimedKeyed, blocked⟩ := blocked_claimUpdate keyed claim
      exact ⟨claimedKeyed, trivial, fun _ => blocked,
        fun _ => .inr ⟨not_blocked guarded found (by simpa using state), blocked⟩⟩
  | fetched => exact ⟨keyed, trivial, id, fun _ => .inl rfl⟩
  | read reader found =>
      cases operation with
      | recovering claimed failure =>
          cases action with
          | recover =>
              cases reader
              exact ⟨keyed, keyed _ _ found, id, fun past => .inl past⟩
          | _ => cases reader
      | idle => cases action <;> first | cases reader; done | exact guarded.elim
      | _ => cases reader
  | copied input ran =>
      cases operation with
      | running attempt saves =>
          cases input
          have same := workflowId_of_identity (reachMemory_identity ran)
          exact ⟨keyed.saveWorkflow _, same, fun _ => .inl rfl, fun _ => .inl rfl⟩
      | refreshing | continuing => exact executing.elim
      | _ => cases input
  | saved final =>
      cases operation with
      | executing attempt clock result saves =>
          cases final
          have same : (executedWorkflow clock result).workflowId = workflowId :=
            workflowId_toWorkflowState executing clock
          exact ⟨keyed.saveWorkflow _, trivial, fun _ => blocked_finish same nofun,
            fun past => .inl past⟩
      | failing claimed failure workflow saves =>
          cases final
          have same : (failedWorkflow failure workflow).workflowId = workflowId := executing
          exact ⟨keyed.saveWorkflow _, trivial, fun _ => blocked_finish same nofun,
            fun past => .inl past⟩
      | refreshed | continued | ingesting => exact executing.elim
      | _ => cases final

/-- The proof outline: a claimed workflow is blocked, so a second claim is not
decided on a result. -/
def claimOutline (workflowId : String) : (operations workflowId).ProofOutline DecidedOnResult where
  shared shared := shared.store.Keyed
  thread operation shared :=
    Executing workflowId operation ∧ (operation.claimed = true → Blocked workflowId shared)
  pair first second _ := ¬ (first.claimed = true ∧ second.claimed = true)
  shared_step _ _ _ _ _ keyed own guarded stepped :=
    (executing_outcome keyed own.1 guarded (step_cases stepped)).keyed
  thread_step _ _ _ _ _ keyed own guarded stepped := by
    have outcome := executing_outcome keyed own.1 guarded (step_cases stepped)
    refine ⟨outcome.executing, fun past => ?_⟩
    rcases outcome.claimed past with before | ⟨-, blocked⟩
    · exact outcome.blocked (own.2 before)
    · exact blocked
  thread_stable _ _ _ _ _ _ keyed own other _ guarded stepped :=
    ⟨other.1, fun past =>
      (executing_outcome keyed own.1 guarded (step_cases stepped)).blocked (other.2 past)⟩
  pair_symm _ _ _ separate both := separate both.symm
  pair_step _ _ _ _ _ _ keyed own other separate guarded stepped := by
    rintro ⟨past, otherPast⟩
    rcases (executing_outcome keyed own.1 guarded (step_cases stepped)).claimed past with
      before | ⟨free, -⟩
    · exact separate ⟨before, otherPast⟩
    · exact free (other.2 otherPast)
  pair_stable _ _ _ _ _ _ _ _ _ separate _ _ := separate

end Outline

/-- **Claims decided on results are unique.** For either memory store, in every
interleaving of workers and background threads in which no claim is decided on
the copy of a memory node, at most one attempt claims the workflow. -/
theorem claimed_once {Thread : Type*} [DecidableEq Thread] {workflowId : String}
    {source target : Configuration Thread Shared Operation} (queued : Queued workflowId source)
    (run : (operations workflowId).system.Run (Interleaving.localGuard DecidedOnResult)
      source target) : ClaimedOnce target := by
  have start : (claimOutline workflowId).Holds source := by
    refine ⟨queued.keyed, ?_, ?_⟩
    · intro thread
      rw [queued.idle thread]
      exact ⟨trivial, fun past => by cases past⟩
    · intro first second _
      rw [queued.idle first]
      exact fun both => by cases both.1
  have holds := (claimOutline workflowId).run start run
  intro first second firstPast secondPast
  by_contra different
  exact holds.pair first second different ⟨firstPast, secondPast⟩

section TwoAttempts

/-- A queued workflow in a store, and two attempts that have not begun. -/
def twoAttempts (backend : Backend) : Configuration Bool Shared Operation where
  shared :=
    { store := { backend : MemoryStore }.saveWorkflow
        (queuedWorkflow ⟨"wf", .newYear, .newYear⟩ sampleInput) }
  locals _ := .idle

theorem queued_twoAttempts (backend : Backend) : Queued "wf" (twoAttempts backend) where
  keyed := MemoryStore.Keyed.saveWorkflow (fun _ _ present => by cases present) _
  record := ⟨_, MemoryStore.getWorkflow_saveWorkflow _ _, by simp [queuedWorkflow]⟩
  settled := rfl
  idle _ := rfl

/-- One delivery that runs to its end, then a second one. -/
def deliveredAgain : List (Bool × Action) :=
  [(false, .deliver "first" .newYear), (false, .claim), (false, .invoke silentServices),
    (false, .save), (true, .deliver "second" .newYear), (true, .claim)]

def afterDeliveries : Configuration Bool Shared Operation :=
  ((operations "wf").system.runFrom (twoAttempts .localStore) deliveredAgain).getD
    (twoAttempts .localStore)

theorem claimed_once_delivered_again : ClaimedOnce afterDeliveries :=
  claimed_once (queued_twoAttempts .localStore) (TransitionSystem.run_of_allows deliveredAgain
    (by exact ⟨trivial, fun _ => rfl, trivial, trivial, trivial, fun _ => rfl, trivial⟩) rfl)

/-- The claim of the property for one memory store, without the condition. -/
def AlwaysClaimedOnce (backend : Backend) : Prop :=
  ∀ source target : Configuration Bool Shared Operation,
    source.shared.store.backend = backend → Queued "wf" source →
    (operations "wf").system.Run (Interleaving.localGuard Executions) source target →
    ClaimedOnce target

/-- A redelivery that claims between the two saves of the first execution. -/
def redelivered (claims : List Action) : List (Bool × Action) :=
  (false, .deliver "first" .newYear) :: claims.map (Prod.mk false) ++
    (false, .invoke silentServices) :: (true, .deliver "second" .newYear) ::
    claims.map (Prod.mk true)

/-- With either store the redelivery claims the workflow a second time. -/
theorem claimed_twice_redelivered :
    ¬ AlwaysClaimedOnce .localStore ∧ ¬ AlwaysClaimedOnce .dynamodb := by
  constructor
  · intro claim
    have once := claim (twoAttempts .localStore) _ rfl (queued_twoAttempts _)
      (TransitionSystem.run_of_allows (redelivered [.claim])
        (by exact ⟨trivial, trivial, trivial, trivial, trivial, trivial⟩) rfl)
    exact absurd (once false true rfl rfl) (by decide)
  · intro claim
    have once := claim (twoAttempts .dynamodb) _ rfl (queued_twoAttempts _)
      (TransitionSystem.run_of_allows (redelivered [.claim, .claim, .claim])
        (by exact ⟨trivial, trivial, trivial, trivial, trivial, trivial, trivial, trivial, trivial,
          trivial⟩) rfl)
    exact absurd (once false true rfl rfl) (by decide)

end TwoAttempts

end ActionPlan.Agent.Operations
