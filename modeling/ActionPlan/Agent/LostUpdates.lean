import ActionPlan.Agent.Operations
import ActionPlan.Agent.Records

/-! # Updates of the record that are not lost

Every operation saves the whole record that it derived from an earlier read,
and no save checks what was saved since. An execution, moreover, replaces the
metadata and with it the documents, while continuing and rebuilding restore
them. Operations that do not overlap in this way keep the tasks of the execution
and every acknowledged document.
-/

namespace ActionPlan.Agent.Operations

open ActionPlan.Foundation ActionPlan.Models ActionPlan.Memory ActionPlan.Api

/-- The count of saves at the operation's last access. -/
def Operation.stamp : Operation → Option Nat
  | .updated _ saves | .running _ saves | .executing _ _ _ saves | .failing _ _ _ saves
  | .refreshing _ saves | .refreshed _ _ _ saves | .continuing _ _ saves
  | .continued _ _ _ saves | .ingesting _ _ saves => some saves
  | _ => none

/-- No document is recorded. -/
def Undocumented (workflowId : String) (shared : Shared) : Prop :=
  ∀ workflow, shared.store.getWorkflow workflowId = some workflow →
    ∀ filename, ¬ Recorded filename workflow.executionMetadata

/-- If the language model answers the refresh, it is with the requirements that
the record has. -/
def SameRequirements (services : Services) (workflow : WorkflowState) : Prop :=
  ∀ payload answer, rebuildPayload workflow = .ok payload →
    services.llm.extractRequirements (compileWorkRequest payload) = .ok answer →
    answer = workflow.requirements

/-- Operations do not overlap: they read results only, nothing else is saved
between their accesses, and none fails between its two saves. An execution runs
only before the first document, and a refresh of an executed workflow finds the
same requirements. -/
def Separate (workflowId : String) : Operation → Shared → Action → Prop
  | .attempting _, shared, .claim =>
    shared.store.backend = .localStore → shared.intermediate = false
  | .selected _, shared, .claim => shared.intermediate = false
  | _, shared, .refresh | _, shared, .resume _ | _, shared, .ingest _ | _, shared, .recover =>
    shared.intermediate = false
  | .running _ saves, shared, .invoke _ =>
    saves = shared.saves ∧ Undocumented workflowId shared
  | .refreshing workflow saves, shared, .invoke services =>
    saves = shared.saves ∧ (shared.executed.isSome → SameRequirements services workflow)
  | .continuing _ _ saves, shared, .invoke _ => saves = shared.saves
  | .executing _ _ _ saves, shared, .save | .failing _ _ _ saves, shared, .save
  | .refreshed _ _ _ saves, shared, .save | .continued _ _ _ saves, shared, .save
  | .ingesting _ _ saves, shared, .save => saves = shared.saves
  | .executing _ _ _ _, _, .fail _ | .refreshed _ _ _ _, _, .fail _
  | .continued _ _ _ _, _, .fail _ => False
  | _, _, _ => True

/-- A workflow that has just been created, before any operation. -/
structure Created {Thread : Type*} (workflowId : String)
    (configuration : Configuration Thread Shared Operation) : Prop where
  record : ∃ (store : MemoryStore) (creation : Creation) (payload : WorkRequestInput),
    store.Keyed ∧ creation.workflowId = workflowId ∧
      configuration.shared = { store := store.saveWorkflow (queuedWorkflow creation payload) }
  idle : ∀ thread, configuration.locals thread = .idle

/-- The record has the tasks of the completed execution and every acknowledged document. -/
structure Kept (executed : Option (List Task)) (acknowledged : List String)
    (workflow : WorkflowState) : Prop where
  executed : ∀ tasks ∈ executed, Contains tasks workflow
  acknowledged : ∀ filename ∈ acknowledged, Recorded filename workflow.executionMetadata

/-- When all operations have ended, the record has kept their updates. -/
def NothingLost {Thread : Type*} (workflowId : String)
    (configuration : Configuration Thread Shared Operation) : Prop :=
  (∀ thread, (configuration.locals thread).active = false) →
    ∃ workflow, configuration.shared.store.getWorkflow workflowId = some workflow ∧
      Kept configuration.shared.executed configuration.shared.acknowledged workflow

section Outline

variable {workflowId : String} {operation after : Operation} {shared next : Shared}
  {executed : Option (List Task)} {acknowledged : List String}

/-- A produced record of the workflow that has kept all updates. -/
structure Intact (workflowId : String) (executed : Option (List Task)) (acknowledged : List String)
    (workflow : WorkflowState) : Prop where
  identity : workflow.workflowId = workflowId
  produced : Produced workflow
  kept : Kept executed acknowledged workflow

/-- Between two writes of one call the stored record is intact: it has the plan last executed and
every acknowledged completion. -/
structure Preserved (workflowId : String) (shared : Shared) : Prop where
  keyed : shared.store.Keyed
  record : shared.intermediate = false →
    ∃ workflow, shared.store.getWorkflow workflowId = some workflow ∧
      Intact workflowId shared.executed shared.acknowledged workflow

/-- The result of a run that continues or rebuilds the workflow. -/
structure Restoring (workflowId : String) (executed : Option (List Task))
    (acknowledged : List String) (workflow result : WorkflowState) : Prop where
  identity : result.workflowId = workflowId
  produced : Produced result
  executionMetadata : result.executionMetadata = AList.singleton "memory" (.str "saved")
  executed : ∀ tasks ∈ executed, Contains tasks result
  acknowledged : ∀ filename ∈ acknowledged, Recorded filename workflow.executionMetadata

/-- What an operation knows as long as nothing else has been saved. -/
def Fresh (workflowId : String) : Operation → Shared → Prop
  | .updated _ _, shared | .running _ _, shared => shared.intermediate = false
  | .executing _ clock result _, shared =>
    shared.acknowledged = [] ∧ (toWorkflowState clock result).workflowId = workflowId ∧
      Produced (toWorkflowState clock result)
  | .refreshing workflow _, shared | .continuing workflow _ _, shared
  | .ingesting _ workflow _, shared | .failing _ _ workflow _, shared =>
    shared.intermediate = false ∧
      Intact workflowId shared.executed shared.acknowledged workflow
  | .refreshed workflow clock result _, shared | .continued workflow clock result _, shared =>
    Restoring workflowId shared.executed shared.acknowledged workflow
      (toWorkflowState clock result)
  | _, _ => True

/-- What an operation knows. -/
def Knows (workflowId : String) (operation : Operation) (shared : Shared) : Prop :=
  ∀ saves ∈ operation.stamp, saves ≤ shared.saves ∧
    (saves = shared.saves → Fresh workflowId operation shared)

theorem fresh_observe : Fresh workflowId operation (shared.observe workflowId) ↔
    Fresh workflowId operation shared := by
  cases operation <;> rfl

/-- A step at most reads the record, or it saves once. -/
theorem saves_of_step {action : Action}
    (step : Step workflowId shared operation action after next) :
    next = shared ∨ next = shared.observe workflowId ∨ next.saves = shared.saves + 1 := by
  cases step with
  | stopped unchanged | attempted unchanged =>
      rcases unchanged with same | ⟨-, same⟩
      · exact .inl same
      · exact .inr (.inl same)
  | selected | fetched | read => exact .inr (.inl rfl)
  | claimedLocally | updated | copied | saved => exact .inr (.inr rfl)

/-- What an operation knows is not disturbed by the steps of the others. -/
theorem knows_stable {action : Action} {other : Operation}
    (step : Step workflowId shared operation action after next)
    (knows : Knows workflowId other shared) : Knows workflowId other next := by
  intro saves stamped
  obtain ⟨bound, fresh⟩ := knows saves stamped
  rcases saves_of_step step with rfl | rfl | more
  · exact ⟨bound, fresh⟩
  · exact ⟨bound, fun same => fresh_observe.mpr (fresh same)⟩
  · exact ⟨by omega, fun same => by omega⟩

theorem knows_of_unstamped (unstamped : operation.stamp = none) :
    Knows workflowId operation shared := by
  intro saves stamped
  rw [unstamped] at stamped
  cases stamped

theorem knows_of_fresh {saves : Nat} (stamped : operation.stamp = some saves)
    (current : saves = shared.saves) (fresh : Fresh workflowId operation shared) :
    Knows workflowId operation shared := by
  intro other same
  obtain rfl := Option.some.inj (stamped.symm.trans same)
  exact ⟨current.le, fun _ => fresh⟩

theorem preserved_observe (preserved : Preserved workflowId shared) :
    Preserved workflowId (shared.observe workflowId) :=
  ⟨preserved.keyed, preserved.record⟩

theorem preserved_copy (preserved : Preserved workflowId shared) (workflow : WorkflowState) :
    Preserved workflowId (shared.copy workflow) :=
  ⟨preserved.keyed.saveWorkflow workflow, nofun⟩

/-- Saving and loading a record keeps it intact. -/
theorem intact_stored {workflow : WorkflowState} (backend : Backend)
    (intact : Intact workflowId executed acknowledged workflow) :
    Intact workflowId executed acknowledged (MemoryStore.load backend workflow.jsonCopy) where
  identity := by simpa using intact.identity
  produced := intact.produced.jsonCopy.load backend
  kept :=
    { executed := fun tasks executed task member => by
        rw [MemoryStore.load_tasks]
        exact intact.kept.executed tasks executed task member
      acknowledged := fun filename member =>
        recorded_load backend (recorded_jsonCopy (intact.kept.acknowledged filename member)) }

/-- An operation's last save. -/
theorem preserved_finish {workflow : WorkflowState} (preserved : Preserved workflowId shared)
    (intact : Intact workflowId (shared.finish operation workflow).executed
      (shared.finish operation workflow).acknowledged workflow) :
    Preserved workflowId (shared.finish operation workflow) :=
  ⟨preserved.keyed.saveWorkflow workflow, fun _ =>
    ⟨_, MemoryStore.getWorkflow_saveWorkflow_of_eq _ intact.identity, intact_stored _ intact⟩⟩

theorem intact_running {workflow : WorkflowState} (now : DateTime)
    (intact : Intact workflowId executed acknowledged workflow) :
    Intact workflowId executed acknowledged (MemoryStore.running now workflow) :=
  ⟨intact.identity, intact.produced.running now, intact.kept.executed, intact.kept.acknowledged⟩

/-- The claim of an attempt keeps the record. -/
theorem preserved_claimLocally {now : DateTime} {workflow : WorkflowState} {store : MemoryStore}
    (preserved : Preserved workflowId shared) (settled : shared.intermediate = false)
    (claim : shared.store.claimLocally workflowId now = some (workflow, store)) :
    Preserved workflowId (shared.claim store) := by
  obtain ⟨queued, found, -, rfl⟩ := MemoryStore.claimLocally_eq_some claim
  obtain ⟨record, present, intact⟩ := preserved.record settled
  obtain rfl := Option.some.inj (found.symm.trans present)
  have running := intact_running now intact
  exact ⟨preserved.keyed.saveWorkflow _, fun _ =>
    ⟨_, MemoryStore.getWorkflow_saveWorkflow_of_eq _ running.identity, intact_stored _ running⟩⟩

theorem preserved_claimUpdate {workerId : String} {now : DateTime} {store : MemoryStore}
    (preserved : Preserved workflowId shared) (settled : shared.intermediate = false)
    (claim : shared.store.claimUpdate workflowId workerId now = some store) :
    Preserved workflowId (shared.claim store) := by
  obtain ⟨record, found, -, rfl⟩ := MemoryStore.claimUpdate_eq_some claim
  obtain ⟨loaded, present, intact⟩ := preserved.record settled
  obtain rfl := Option.some.inj (found.symm.trans present)
  have key : record.workflowId = workflowId := by
    rw [← MemoryStore.load_workflowId shared.store.backend record]
    exact intact.identity
  refine ⟨preserved.keyed.insert key, fun _ => ⟨_, MemoryStore.getWorkflow_insert, ?_⟩⟩
  rw [MemoryStore.load_running]
  exact intact_running now intact

theorem identity_of_delivered {services : Services} {initial : AgentState}
    {workflow : WorkflowState} (delivered : Delivered services initial workflow)
    (same : initial.workflowId = some workflowId) : workflow.workflowId = workflowId := by
  rw [delivered.workflowId, same, Option.getD_some]

/-- The result of an execution that began before the first document. -/
theorem fresh_executed {services : Services} {attempt : Attempt} {reached : AgentState}
    (preserved : Preserved workflowId shared) (settled : shared.intermediate = false)
    (undocumented : Undocumented workflowId shared)
    (ran : reachMemory services (executionInput workflowId attempt.workerId attempt.payload) =
      .ok reached) :
    shared.acknowledged = [] ∧
      (toWorkflowState services.clock
        (updateMemoryResult services.clock reached)).workflowId = workflowId ∧
      Produced (toWorkflowState services.clock (updateMemoryResult services.clock reached)) := by
  have delivered := delivered_toWorkflowState (builtInitially_of_none rfl) ran
  refine ⟨?_, identity_of_delivered delivered rfl, delivered.produced⟩
  obtain ⟨workflow, found, intact⟩ := preserved.record settled
  rw [List.eq_nil_iff_forall_not_mem]
  intro filename member
  exact undocumented workflow found filename (intact.kept.acknowledged filename member)

/-- The result of a continuation. -/
theorem restoring_continued {services : Services} {workflow : WorkflowState}
    {completedTaskIds : List String} {reached : AgentState}
    (intact : Intact workflowId executed acknowledged workflow)
    (ran : reachMemory services (continueInput workflow completedTaskIds) = .ok reached) :
    Restoring workflowId executed acknowledged workflow
      (toWorkflowState services.clock (updateMemoryResult services.clock reached)) := by
  have delivered :=
    delivered_toWorkflowState (intact.produced.builtInitially completedTaskIds) ran
  refine ⟨identity_of_delivered delivered (congrArg some intact.identity), delivered.produced, rfl,
    ?_, intact.kept.acknowledged⟩
  intro tasks done
  refine contains_of_planned intact.produced (intact.kept.executed tasks done) delivered.planned ?_
  intro present
  rcases delivered.requirements with ⟨-, same⟩ | ⟨none, -⟩
  · exact same
  · exact absurd none present

/-- The result of a refresh that finds the same requirements. -/
theorem restoring_rebuilt {services : Services} {workflow : WorkflowState}
    {payload : WorkRequestInput} {reached : AgentState}
    (intact : Intact workflowId executed acknowledged workflow)
    (payloadOf : rebuildPayload workflow = .ok payload)
    (answered : executed.isSome → SameRequirements services workflow)
    (ran : reachMemory services (rebuildInput workflow payload) = .ok reached) :
    Restoring workflowId executed acknowledged workflow
      (toWorkflowState services.clock (updateMemoryResult services.clock reached)) := by
  have delivered := delivered_toWorkflowState (builtInitially_of_none rfl) ran
  refine ⟨identity_of_delivered delivered (congrArg some intact.identity), delivered.produced, rfl,
    ?_, intact.kept.acknowledged⟩
  intro tasks done
  refine contains_of_planned intact.produced (intact.kept.executed tasks done) delivered.planned ?_
  intro _
  rcases delivered.requirements with ⟨present, -⟩ | ⟨-, request, compiled, answer⟩
  · exact absurd rfl present
  · cases compiled
    exact answered (Option.isSome_of_mem done) payload _ payloadOf answer

/-- A result that restores the metadata of the workflow is intact. -/
theorem intact_restored {workflow result : WorkflowState} (state : ExecutionState)
    (restoring : Restoring workflowId executed acknowledged workflow result) :
    Intact workflowId executed acknowledged
      { result with
        executionState := state
        executionMetadata :=
          Dict.override workflow.executionMetadata result.executionMetadata } where
  identity := restoring.identity
  produced := restoring.produced.congr rfl rfl rfl rfl rfl rfl
  kept :=
    { executed := restoring.executed
      acknowledged := fun filename member => by
        dsimp only
        rw [restoring.executionMetadata]
        exact recorded_override (by decide) (restoring.acknowledged filename member) }

/-- The record that a fresh operation saves last is intact afterwards. -/
theorem intact_final {workflow : WorkflowState} (fresh : Fresh workflowId operation shared)
    (final : operation.final = some (.ok workflow)) :
    Intact workflowId (shared.finish operation workflow).executed
      (shared.finish operation workflow).acknowledged workflow := by
  cases operation with
  | executing attempt clock result saves =>
      cases final
      obtain ⟨none, identity, produced⟩ := fresh
      refine ⟨identity, produced.congr rfl rfl rfl rfl rfl rfl, ?_, ?_⟩
      · intro tasks executed task member
        cases executed
        exact ⟨task, member, rfl⟩
      · intro filename member
        change filename ∈ shared.acknowledged at member
        rw [none] at member
        cases member
  | failing claimed failure record saves =>
      cases final
      exact ⟨fresh.2.identity, fresh.2.produced.failed failure, fresh.2.kept.executed,
        fresh.2.kept.acknowledged⟩
  | refreshed record clock result saves =>
      cases final
      exact intact_restored .completed fresh
  | continued record clock result saves =>
      cases final
      exact intact_restored record.executionState fresh
  | ingesting filename record saves =>
      have success := Option.some.inj final
      obtain ⟨-, intact⟩ := fresh
      obtain ⟨names, -, same⟩ := withDocument_ok success
      refine ⟨?_, intact.produced.withDocument success, ?_, ?_⟩
      · rw [same]
        exact intact.identity
      · intro tasks executed
        rw [same]
        exact intact.kept.executed tasks executed
      · intro other member
        rcases List.mem_append.mp member with old | new
        · exact recorded_withDocument_of_recorded success (intact.kept.acknowledged other old)
        · obtain rfl := List.mem_singleton.mp new
          exact recorded_withDocument success
  | _ => cases final

/-- The reads that begin an update meet results only. -/
theorem settled_of_reader {action : Action} {make : WorkflowState → Nat → Operation}
    (reader : operation.reader action = some make)
    (separate : Separate workflowId operation shared action) : shared.intermediate = false := by
  cases operation with
  | idle =>
      cases action with
      | refresh | resume | ingest => exact separate
      | _ => cases reader
  | recovering =>
      cases action with
      | recover => exact separate
      | _ => cases reader
  | _ => cases reader

/-- An operation that has just read an intact record. -/
theorem fresh_of_reader {action : Action} {make : WorkflowState → Nat → Operation}
    {workflow : WorkflowState} {saves : Nat} (reader : operation.reader action = some make)
    (settled : shared.intermediate = false)
    (intact : Intact workflowId shared.executed shared.acknowledged workflow) :
    (make workflow saves).stamp = some saves ∧ Fresh workflowId (make workflow saves) shared := by
  cases operation with
  | idle =>
      cases action with
      | refresh | resume | ingest =>
          cases reader
          exact ⟨rfl, settled, intact⟩
      | _ => cases reader
  | recovering =>
      cases action with
      | recover =>
          cases reader
          exact ⟨rfl, settled, intact⟩
      | _ => cases reader
  | _ => cases reader

/-- A separate step keeps the record and what the operation knows. -/
theorem separate_step {action : Action} (preserved : Preserved workflowId shared)
    (knows : Knows workflowId operation shared)
    (separate : Separate workflowId operation shared action)
    (step : Step workflowId shared operation action after next) :
    Preserved workflowId next ∧ Knows workflowId after next := by
  cases step with
  | stopped unchanged claimed rests =>
      have unstamped : after.stamp = none := by
        rcases rests with ⟨_, _, rfl⟩ | ⟨_, rfl⟩ <;> rfl
      refine ⟨?_, knows_of_unstamped unstamped⟩
      rcases unchanged with rfl | ⟨-, rfl⟩
      · exact preserved
      · exact preserved_observe preserved
  | attempted unchanged =>
      refine ⟨?_, knows_of_unstamped rfl⟩
      rcases unchanged with rfl | ⟨-, rfl⟩
      · exact preserved
      · exact preserved_observe preserved
  | selected => exact ⟨preserved_observe preserved, knows_of_unstamped rfl⟩
  | claimedLocally backend claim =>
      have settled := separate backend
      exact ⟨preserved_claimLocally (preserved_observe preserved) settled claim,
        knows_of_fresh rfl rfl settled⟩
  | updated claim =>
      exact ⟨preserved_claimUpdate preserved separate claim, knows_of_fresh rfl rfl separate⟩
  | fetched => exact ⟨preserved_observe preserved, knows⟩
  | read reader found =>
      have settled := settled_of_reader reader separate
      obtain ⟨record, present, intact⟩ := preserved.record settled
      obtain rfl := Option.some.inj (found.symm.trans present)
      obtain ⟨stamped, fresh⟩ := fresh_of_reader reader settled intact
      exact ⟨preserved_observe preserved, knows_of_fresh stamped rfl (fresh_observe.mpr fresh)⟩
  | copied input ran =>
      refine ⟨preserved_copy preserved _, ?_⟩
      cases operation with
      | running attempt saves =>
          cases input
          obtain ⟨current, undocumented⟩ := separate
          have settled := (knows saves rfl).2 current
          have executed := fresh_executed preserved settled undocumented ran
          exact knows_of_fresh rfl rfl executed
      | refreshing workflow saves =>
          obtain ⟨payload, payloadOf, rfl⟩ := ok_of_map (Option.some.inj input)
          obtain ⟨current, answered⟩ := separate
          have fresh := (knows saves rfl).2 current
          exact knows_of_fresh rfl rfl (restoring_rebuilt fresh.2 payloadOf answered ran)
      | continuing workflow completedTaskIds saves =>
          cases input
          have fresh := (knows saves rfl).2 separate
          exact knows_of_fresh rfl rfl (restoring_continued fresh.2 ran)
      | _ => cases input
  | saved final =>
      refine ⟨?_, knows_of_unstamped rfl⟩
      cases operation with
      | executing _ _ _ saves | failing _ _ _ saves | refreshed _ _ _ saves
      | continued _ _ _ saves | ingesting _ _ saves =>
          exact preserved_finish preserved (intact_final ((knows saves rfl).2 separate) final)
      | _ => cases final

/-- The proof outline of separate operations. -/
def updateOutline (workflowId : String) :
    (operations workflowId).ProofOutline (Separate workflowId) where
  shared := Preserved workflowId
  thread := Knows workflowId
  pair _ _ _ := True
  shared_step _ _ _ _ _ preserved own separate stepped :=
    (separate_step preserved own separate (step_cases stepped)).1
  thread_step _ _ _ _ _ preserved own separate stepped :=
    (separate_step preserved own separate (step_cases stepped)).2
  thread_stable _ _ _ _ _ _ _ _ other _ _ stepped := knows_stable (step_cases stepped) other
  pair_symm _ _ _ _ := trivial
  pair_step _ _ _ _ _ _ _ _ _ _ _ _ := trivial
  pair_stable _ _ _ _ _ _ _ _ _ _ _ _ := trivial

/-- An operation between its two saves. -/
def BetweenSaves : Operation → Prop
  | .executing _ _ _ _ | .refreshed _ _ _ _ | .continued _ _ _ _ => True
  | _ => False

/-- An operation between its two saves can only save again or raise. -/
theorem saves_again {action : Action} (between : BetweenSaves operation)
    (stepped : (operations workflowId).step operation shared action = some (after, next)) :
    next.intermediate = false ∨ ∃ failure, action = .fail failure := by
  cases action with
  | fail failure => exact .inr ⟨failure, rfl⟩
  | save =>
      cases operation with
      | executing | refreshed | continued =>
          cases stepped
          exact .inl rfl
      | _ => exact between.elim
  | _ =>
      cases operation with
      | executing | refreshed | continued => cases stepped
      | _ => exact between.elim

/-- The record is a copy only while some operation is between its two saves. -/
theorem copy_handover {action : Action} (separate : Separate workflowId operation shared action)
    (stepped : (operations workflowId).step operation shared action = some (after, next))
    (copy : next.intermediate = true) :
    BetweenSaves after ∨ shared.intermediate = true ∧ ¬ BetweenSaves operation := by
  by_cases between : BetweenSaves operation
  · rcases saves_again between stepped with settled | ⟨failure, rfl⟩
    · rw [settled] at copy
      cases copy
    · cases operation with
      | executing | refreshed | continued => exact separate.elim
      | _ => exact between.elim
  · cases step_cases stepped with
    | stopped unchanged | attempted unchanged =>
        rcases unchanged with rfl | ⟨-, rfl⟩ <;> exact .inr ⟨copy, between⟩
    | selected | claimedLocally | updated | fetched | read => exact .inr ⟨copy, between⟩
    | copied input ran =>
        cases operation with
        | running | refreshing | continuing => exact .inl trivial
        | _ => cases input
    | saved final => cases copy

end Outline

/-- **Separate operations lose nothing.** From a workflow that has just been
created, in every interleaving of ingestions, executions, continuations and
refreshes that do not overlap, once all operations have ended the record has
the tasks of the completed execution and every acknowledged document. -/
theorem nothing_lost {Thread : Type*} [DecidableEq Thread] {workflowId : String}
    {source target : Configuration Thread Shared Operation} (created : Created workflowId source)
    (run : (operations workflowId).system.Run (Interleaving.localGuard (Separate workflowId))
      source target) : NothingLost workflowId target := by
  obtain ⟨store, creation, payload, keyed, rfl, shared⟩ := created.record
  have start : (updateOutline creation.workflowId).Holds source := by
    refine ⟨?_, ?_, fun _ _ _ => trivial⟩
    · rw [shared]
      refine ⟨keyed.saveWorkflow _, fun _ =>
        ⟨_, MemoryStore.getWorkflow_saveWorkflow_of_eq _ rfl, intact_stored _ ⟨rfl, ?_, ?_⟩⟩⟩
      · exact Produced.queued creation payload
      · exact ⟨(by intro _ executed; cases executed), (by intro _ member; cases member)⟩
    · intro thread
      rw [created.idle thread]
      exact knows_of_unstamped rfl
  have holds := (updateOutline creation.workflowId).run start run
  intro ended
  have settled : target.shared.intermediate = false := by
    by_contra copy
    have held := (updateOutline creation.workflowId).exists_holder
      (fun shared => shared.intermediate = true) BetweenSaves
      (fun _ _ _ _ _ _ _ separate stepped => copy_handover separate stepped) start
      (fun pending => by rw [shared] at pending; cases pending) run (by simpa using copy)
    obtain ⟨thread, between⟩ := held
    have inactive := ended thread
    cases operation : target.locals thread with
    | executing | refreshed | continued =>
        rw [operation] at inactive
        cases inactive
    | _ =>
        rw [operation] at between
        exact between.elim
  obtain ⟨workflow, found, intact⟩ := holds.shared.record settled
  exact ⟨workflow, found, intact.kept⟩

section DocumentAndExecution

/-- A workflow that has just been created, and operations that have not begun. -/
def justCreated (Thread : Type) : Configuration Thread Shared Operation where
  shared :=
    { store := { backend := .localStore : MemoryStore }.saveWorkflow
        (queuedWorkflow ⟨"wf", .newYear, .newYear⟩ sampleInput) }
  locals _ := .idle

theorem created_justCreated (Thread : Type) : Created "wf" (justCreated Thread) where
  record := ⟨{ backend := .localStore }, ⟨"wf", .newYear, .newYear⟩, { goal := "goal" },
    (by intro _ _ present; cases present), rfl, rfl⟩
  idle _ := rfl

/-- An execution, then an ingestion. -/
def documentLast : List (Bool × Action) :=
  [(false, .deliver "worker" .newYear), (false, .claim), (false, .invoke silentServices),
    (false, .save), (true, .ingest "notes.txt"), (true, .save)]

/-- An ingestion of a queued workflow, then its execution. -/
def documentFirst : List (Bool × Action) :=
  [(true, .ingest "notes.txt"), (true, .save),
    (false, .deliver "worker" .newYear), (false, .claim), (false, .invoke silentServices),
    (false, .save)]

theorem allows_documentLast : (operations "wf").system.Allows
    (Interleaving.localGuard (Separate "wf")) (justCreated Bool) documentLast := by
  refine ⟨trivial, fun _ => rfl, ⟨rfl, ?_⟩, rfl, rfl, rfl, trivial⟩
  intro workflow found filename recorded
  obtain ⟨items, present, -⟩ := recorded
  cases found
  cases present

theorem nothing_lost_document_last : NothingLost "wf"
    (((operations "wf").system.runFrom (justCreated Bool) documentLast).getD
      (justCreated Bool)) :=
  nothing_lost (created_justCreated _)
    (TransitionSystem.run_of_allows documentLast allows_documentLast rfl)

/-- The execution replaces the metadata that held the document. -/
theorem document_lost : ¬ ∀ source target : Configuration Bool Shared Operation,
    Created "wf" source →
    (operations "wf").system.Run TransitionSystem.unguarded source target →
    NothingLost "wf" target := by
  intro claim
  have kept := claim (justCreated Bool)
    (((operations "wf").system.runFrom (justCreated Bool) documentFirst).getD (justCreated Bool))
    (created_justCreated _) (TransitionSystem.run_of_runFrom documentFirst rfl)
  obtain ⟨workflow, found, kept⟩ := kept fun thread => by cases thread <;> rfl
  obtain ⟨items, present, -⟩ := kept.acknowledged "notes.txt" (.head _)
  cases found
  cases present

end DocumentAndExecution

end ActionPlan.Agent.Operations
