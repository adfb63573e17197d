import ActionPlan.Agent.Operations

/-! # A completed workflow is not read as queued

Continuing or rebuilding a completed workflow saves two records: the copy of the
memory node, whose execution state is the default `queued`, and then the
corrected one. Only a read between these two saves sees a queued workflow.
-/

namespace ActionPlan.Agent.Operations

open ActionPlan.Foundation ActionPlan.Models ActionPlan.Memory ActionPlan.Api

/-- No read meets the copy of a memory node. -/
def ReadsResults (operation : Operation) (shared : Shared) (action : Action) : Prop :=
  Observes operation action → shared.intermediate = false

/-- A completed workflow before any operation. -/
structure Completed {Thread : Type*} (workflowId : String)
    (configuration : Configuration Thread Shared Operation) : Prop where
  keyed : configuration.shared.store.Keyed
  record : ∃ workflow, configuration.shared.store.getWorkflow workflowId = some workflow ∧
    workflow.executionState = .completed
  settled : configuration.shared.intermediate = false
  unread : configuration.shared.reads = []
  idle : ∀ thread, configuration.locals thread = .idle

/-- No read has returned a queued workflow, and no claim has succeeded. -/
structure NeverQueued {Thread : Type*} (configuration : Configuration Thread Shared Operation) :
    Prop where
  reads : ∀ state ∈ configuration.shared.reads, state ≠ some .queued
  claims : ∀ thread, (configuration.locals thread).claimed = false

section Outline

variable {workflowId : String} {operation after : Operation} {shared next : Shared}

/-- The record is that of the workflow and not queued. -/
def Unclaimable (workflowId : String) (shared : Shared) : Prop :=
  ∃ workflow, shared.store.getWorkflow workflowId = some workflow ∧
    workflow.executionState ≠ .queued

/-- Outside a call the stored record cannot be claimed, and no poll has ever read a queued one. -/
structure Regular (workflowId : String) (shared : Shared) : Prop where
  keyed : shared.store.Keyed
  record : shared.intermediate = false → Unclaimable workflowId shared
  reads : ∀ state ∈ shared.reads, state ≠ some .queued

/-- What an operation holds would not make the record queued. -/
def Harmless (workflowId : String) : Operation → Prop
  | .idle | .attempting _ => True
  | .selected _ | .updated _ _ | .running _ _ | .executing _ _ _ _ => False
  | .recovering claimed _ | .finished claimed => claimed = false
  | .failing claimed _ workflow _ => claimed = false ∧ workflow.workflowId = workflowId
  | .refreshing workflow _ => workflow.workflowId = workflowId
  | .refreshed _ _ result _ => result.workflowId = some workflowId
  | .continuing workflow _ _ | .ingesting _ workflow _ =>
    workflow.workflowId = workflowId ∧ workflow.executionState ≠ .queued
  | .continued workflow _ result _ =>
    result.workflowId = some workflowId ∧ workflow.executionState ≠ .queued

theorem claimed_of_harmless (harmless : Harmless workflowId operation) :
    operation.claimed = false := by
  cases operation with
  | selected | updated | running | executing => exact harmless.elim
  | recovering | finished => exact harmless
  | failing => exact harmless.1
  | _ => rfl

/-- A read of a record that is not a copy. -/
theorem regular_observe (regular : Regular workflowId shared)
    (settled : shared.intermediate = false) : Regular workflowId (shared.observe workflowId) := by
  refine ⟨regular.keyed, regular.record, ?_⟩
  intro state member
  rcases List.mem_append.mp member with old | new
  · exact regular.reads state old
  · obtain rfl := List.mem_singleton.mp new
    obtain ⟨workflow, found, unclaimable⟩ := regular.record settled
    rw [found, Option.map_some]
    exact fun same => unclaimable (Option.some.inj same)

theorem regular_copy (regular : Regular workflowId shared) (workflow : WorkflowState) :
    Regular workflowId (shared.copy workflow) :=
  ⟨regular.keyed.saveWorkflow workflow, (by intro settled; cases settled), regular.reads⟩

theorem regular_finish (regular : Regular workflowId shared) {workflow : WorkflowState}
    (same : workflow.workflowId = workflowId) (state : workflow.executionState ≠ .queued) :
    Regular workflowId (shared.finish operation workflow) :=
  ⟨regular.keyed.saveWorkflow workflow,
    fun _ => ⟨_, MemoryStore.getWorkflow_saveWorkflow_of_eq _ same, by simpa using state⟩,
    regular.reads⟩

/-- The last save of a harmless operation. -/
theorem final_of_harmless {workflow : WorkflowState} (harmless : Harmless workflowId operation)
    (final : operation.final = some (.ok workflow)) :
    workflow.workflowId = workflowId ∧ workflow.executionState ≠ .queued := by
  cases operation with
  | executing => exact harmless.elim
  | refreshed workflow clock result saves =>
      cases final
      exact ⟨workflowId_toWorkflowState harmless clock, nofun⟩
  | continued workflow clock result saves =>
      cases final
      exact ⟨workflowId_toWorkflowState harmless.1 clock, harmless.2⟩
  | failing claimed failure workflow saves =>
      cases final
      exact ⟨harmless.2, nofun⟩
  | ingesting filename workflow saves =>
      obtain ⟨names, -, rfl⟩ := withDocument_ok (Option.some.inj final)
      exact harmless
  | _ => cases final

/-- Every step whose read meets no copy keeps the record regular and the
operation harmless. -/
theorem harmless_step {action : Action} (regular : Regular workflowId shared)
    (harmless : Harmless workflowId operation) (guarded : ReadsResults operation shared action)
    (step : Step workflowId shared operation action after next) :
    Regular workflowId next ∧ Harmless workflowId after := by
  cases step with
  | stopped unchanged claimed rests =>
      have held : Harmless workflowId after := by
        have past : after.claimed = false := claimed.trans (claimed_of_harmless harmless)
        rcases rests with ⟨_, _, rfl⟩ | ⟨_, rfl⟩ <;> exact past
      rcases unchanged with rfl | ⟨observes, rfl⟩
      · exact ⟨regular, held⟩
      · exact ⟨regular_observe regular (guarded observes), held⟩
  | attempted unchanged =>
      rcases unchanged with rfl | ⟨observes, rfl⟩
      · exact ⟨regular, trivial⟩
      · exact ⟨regular_observe regular (guarded observes), trivial⟩
  | selected queued =>
      obtain ⟨found, state⟩ := MemoryStore.claimable_eq_some.mp queued
      obtain ⟨workflow, present, unclaimable⟩ := regular.record (guarded trivial)
      obtain rfl := Option.some.inj (found.symm.trans present)
      exact absurd state unclaimable
  | claimedLocally backend claim =>
      obtain ⟨queued, found, state, -⟩ := MemoryStore.claimLocally_eq_some claim
      obtain ⟨workflow, present, unclaimable⟩ := regular.record (guarded trivial)
      obtain rfl := Option.some.inj (found.symm.trans present)
      exact absurd state unclaimable
  | updated | fetched => exact harmless.elim
  | read reader found =>
      have settled := guarded (observes_of_reader reader)
      obtain ⟨workflow, present, unclaimable⟩ := regular.record settled
      obtain rfl := Option.some.inj (found.symm.trans present)
      have key := regular.keyed _ _ found
      refine ⟨regular_observe regular settled, ?_⟩
      cases operation with
      | idle =>
          cases action with
          | refresh =>
              cases reader
              exact key
          | resume | ingest =>
              cases reader
              exact ⟨key, unclaimable⟩
          | _ => cases reader
      | recovering claimed failure =>
          cases action with
          | recover =>
              cases reader
              exact ⟨harmless, key⟩
          | _ => cases reader
      | _ => cases reader
  | copied input ran =>
      refine ⟨regular_copy regular _, ?_⟩
      have same := workflowId_of_identity (reachMemory_identity ran)
      cases operation with
      | running => exact harmless.elim
      | refreshing workflow saves =>
          obtain ⟨payload, -, rfl⟩ := ok_of_map (Option.some.inj input)
          exact same.trans (congrArg some harmless)
      | continuing workflow completedTaskIds saves =>
          cases input
          exact ⟨same.trans (congrArg some harmless.1), harmless.2⟩
      | _ => cases input
  | saved final =>
      obtain ⟨same, state⟩ := final_of_harmless harmless final
      exact ⟨regular_finish regular same state, claimed_of_harmless harmless⟩

/-- The proof outline: an operation's assertion is about itself only. -/
def regularOutline (workflowId : String) : (operations workflowId).ProofOutline ReadsResults where
  shared := Regular workflowId
  thread operation _ := Harmless workflowId operation
  pair _ _ _ := True
  shared_step _ _ _ _ _ regular own guarded stepped :=
    (harmless_step regular own guarded (step_cases stepped)).1
  thread_step _ _ _ _ _ regular own guarded stepped :=
    (harmless_step regular own guarded (step_cases stepped)).2
  thread_stable _ _ _ _ _ _ _ _ other _ _ _ := other
  pair_symm _ _ _ _ := trivial
  pair_step _ _ _ _ _ _ _ _ _ _ _ _ := trivial
  pair_stable _ _ _ _ _ _ _ _ _ _ _ _ := trivial

end Outline

/-- **Reads of results see no regression.** From a completed workflow, in every
interleaving of polls, deliveries, continuations, refreshes and ingestions whose
reads meet no copy of a memory node, no read returns a queued workflow and no
claim succeeds. -/
theorem never_queued {Thread : Type*} [DecidableEq Thread] {workflowId : String}
    {source target : Configuration Thread Shared Operation}
    (completed : Completed workflowId source)
    (run : (operations workflowId).system.Run (Interleaving.localGuard ReadsResults)
      source target) : NeverQueued target := by
  have start : (regularOutline workflowId).Holds source := by
    refine ⟨⟨completed.keyed, fun _ => ?_, ?_⟩, ?_, fun _ _ _ => trivial⟩
    · obtain ⟨workflow, found, state⟩ := completed.record
      exact ⟨workflow, found, by rw [state]; nofun⟩
    · rw [completed.unread]
      exact fun _ member => by cases member
    · intro thread
      rw [completed.idle thread]
      exact trivial
  have holds := (regularOutline workflowId).run start run
  exact ⟨holds.shared.reads, fun thread => claimed_of_harmless (holds.thread thread)⟩

section PollDuringContinuation

/-- The workflow after its execution. -/
def executedStore (backend : Backend) : MemoryStore :=
  (createWorkflowSync silentServices ⟨"wf", .newYear, .newYear⟩ "worker" .newYear sampleInput
    { backend }).2

/-- A completed workflow in a store, and two operations that have not begun. -/
def afterExecution (backend : Backend) : Configuration Bool Shared Operation where
  shared := { store := executedStore backend }
  locals _ := .idle

theorem completed_afterExecution : Completed "wf" (afterExecution .localStore) where
  keyed := by
    refine MemoryStore.Keyed.saveWorkflow (MemoryStore.Keyed.saveWorkflow ?_ _) _
    exact MemoryStore.Keyed.saveWorkflow
      (MemoryStore.Keyed.saveWorkflow (fun _ _ present => by cases present) _) _
  record := ⟨_, rfl, rfl⟩
  settled := rfl
  unread := rfl
  idle _ := rfl

/-- A continuation with both of its saves, then a poll. -/
def polledAfter : List (Bool × Action) :=
  [(false, .resume []), (false, .invoke silentServices), (false, .save), (true, .poll)]

/-- A poll between the two saves of a continuation. -/
def polledBetween : List (Bool × Action) :=
  [(false, .resume []), (false, .invoke silentServices), (true, .poll)]

def afterPolling (labels : List (Bool × Action)) : Configuration Bool Shared Operation :=
  ((operations "wf").system.runFrom (afterExecution .localStore) labels).getD
    (afterExecution .localStore)

theorem never_queued_after : NeverQueued (afterPolling polledAfter) := by
  apply never_queued completed_afterExecution
  apply TransitionSystem.run_of_allows polledAfter ?_ rfl
  refine ⟨fun _ => rfl, ?_, ?_, fun _ => rfl, trivial⟩
  all_goals
    intro observes
    cases observes

/-- The poll returns the default state of the copy. -/
theorem queued_between : ¬ ∀ source target : Configuration Bool Shared Operation,
    Completed "wf" source →
    (operations "wf").system.Run TransitionSystem.unguarded source target →
    NeverQueued target := by
  intro claim
  have never := claim (afterExecution .localStore) (afterPolling polledBetween)
    completed_afterExecution (TransitionSystem.run_of_runFrom polledBetween rfl)
  have reads : (afterPolling polledBetween).shared.reads = [some .completed, some .queued] := rfl
  exact never.reads (some .queued) (by rw [reads]; exact .tail _ (.head _)) rfl

end PollDuringContinuation

end ActionPlan.Agent.Operations
