import ActionPlan.Api.Effects

/-! # The invariant of the server

Every record of the memory store was produced by the service, every state of the
workspace store is as `_write` serialises it, and every execution carries the
result of its own graph run. A server that has just started satisfies this, and
each command preserves it.
-/

namespace ActionPlan.Api

open ActionPlan.Foundation ActionPlan.Models ActionPlan.Memory ActionPlan.Agent
  ActionPlan.Workspace

section Soundness

variable {server target : Server} {command : Command}
  {response : Option (Except Exn WorkflowState)} {workflowId : String}

/-- Records stay produced by the service. -/
theorem Effect.produced (effect : Effect workflowId server command response target)
    (sound : Sound server) {record : WorkflowState}
    (recorded : target.record workflowId = some record) :
    record.workflowId = workflowId ∧ Produced record := by
  cases effect with
  | kept same | synced _ _ same | submitted _ _ _ _ same =>
      exact sound.records _ _ (same ▸ recorded)
  | created _ _ _ present owned produced | copied _ _ present owned produced
  | finished _ _ _ present owned produced =>
      cases present.symm.trans recorded
      exact ⟨owned, produced⟩
  | progressed before present work =>
      cases present.symm.trans recorded
      obtain ⟨owned, produced⟩ := sound.records _ _ before
      exact ⟨work.workflowId.trans owned, work.produced produced⟩
  | continued before delivered _ present work | refreshed before delivered _ present work =>
      cases present.symm.trans recorded
      have owned := (sound.records _ _ before).1
      exact ⟨work.workflowId.trans (delivered.workflowId.trans owned),
        work.produced delivered.produced⟩

/-- What a request loads has a positive version. -/
theorem Loaded.version {tokens : Tokens} {base : WorkflowState} (sound : Sound server)
    (loaded : Loaded server workflowId tokens base) : 1 ≤ base.version := by
  cases loaded with
  | present stored => exact (sound.states _ _ stored).version
  | synced _ recorded => exact (sound.records _ _ recorded).2.version.ge

/-- States stay as `_write` serialises them. -/
theorem Effect.serialised (effect : Effect workflowId server command response target)
    (sound : Sound server) {state : WorkflowState}
    (present : target.stored workflowId = some state) : Serialised state := by
  cases effect with
  | kept _ stored | progressed _ _ _ stored | copied _ _ _ _ _ _ _ stored
  | finished _ _ _ _ _ _ _ _ _ stored | continued _ _ _ _ _ _ stored =>
      exact sound.states _ _ (stored ▸ present)
  | synced _ recorded _ stored =>
      cases stored.symm.trans present
      have produced := (sound.records _ _ recorded).2
      exact serialised_recomputed produced.valid produced.version.ge
  | @submitted submission _ _ base _ _ loaded _ version valid _ stored =>
      cases stored.symm.trans present
      have positive := loaded.version sound
      have next : 1 ≤ submission.request.expectedVersion + 1 := by omega
      exact serialised_recomputed valid next
  | created _ _ _ _ _ _ created =>
      rw [present] at created
      cases created with
      | stored _ _ produced =>
          exact serialised_recomputed produced.valid produced.version.ge
  | @refreshed _ _ _ _ record rebuilt _ _ before delivered _ _ _ _ stored =>
      cases stored.symm.trans present
      have version := (sound.records _ _ before).2.version
      have valid : TaskPlan.validateTasks rebuilt.tasks = .ok () := delivered.produced.valid
      have next : 1 ≤ record.version + 1 := by omega
      exact serialised_recomputed valid next

/-- A read through the workspace keeps the rows consistent. -/
theorem rows_workspaceWorkflow (rows : Ledger.RowsConsistent server.db) (tokens : Tokens)
    (owner : String) : Ledger.RowsConsistent (server.workspaceWorkflow tokens owner).2.db := by
  unfold Server.workspaceWorkflow
  split
  · exact rows
  · split
    · exact rows
    · split
      · exact rows
      · rename_i success
        exact Ledger.rowsConsistent_written (Database.write_ok success) rows

/-- A submission keeps the rows consistent. -/
theorem rows_submit (rows : Ledger.RowsConsistent server.db) (owner : String)
    (submission : Submission) (readTokens writeTokens : Tokens) :
    Ledger.RowsConsistent (server.submit owner submission readTokens writeTokens).2.db := by
  have read := rows_workspaceWorkflow rows readTokens owner
  unfold Server.submit
  split
  · rename_i loaded
    exact loaded ▸ read
  · rename_i loaded
    rw [loaded] at read
    split
    · exact read
    · rename_i success
      obtain ⟨_, -, -, -, written⟩ := submit_ok success
      exact Ledger.rowsConsistent_written written read

/-- A refresh keeps the rows consistent. -/
theorem rows_refresh (rows : Ledger.RowsConsistent server.db) (owner : String)
    (services : Services) (ensureTokens saveTokens : Tokens) :
    Ledger.RowsConsistent (server.refreshWorkflow owner services ensureTokens saveTokens).2.db := by
  unfold Server.refreshWorkflow Server.resync
  cases server.memory.getWorkflow owner with
  | none => exact rows
  | some record =>
      dsimp only
      rcases rebuildWorkflow services record server.memory with ⟨rebuilt | rebuilt, memory⟩
      · exact rows
      · dsimp only
        cases ensure : server.db.ensure ensureTokens record with
        | error failure => exact rows
        | ok result =>
            have ensured := Ledger.rowsConsistent_written (Database.write_ok ensure) rows
            dsimp only
            split
            · exact ensured
            · rename_i success
              exact Ledger.rowsConsistent_written (Database.save_ok success).2 ensured

/-- A creation keeps the rows consistent. -/
theorem rows_createGoal (sound : Sound server) (goal : Goal) :
    Ledger.RowsConsistent (server.createGoal goal).2.db := by
  unfold Server.createGoal
  split
  · exact sound.rows
  · exact sound.rows
  · have creates : Creates server goal (server.create goal) := create_cases
    generalize server.create goal = served at creates
    cases creates with
    | @failed failure record middle records => exact records.db ▸ sound.rows
    | @made workflow record middle records work state =>
        dsimp only
        cases ensure : middle.db.ensure goal.tokens workflow with
        | error failure => exact records.db ▸ sound.rows
        | ok result =>
            have ensured := Ledger.rowsConsistent_written (Database.write_ok ensure)
              (records.db ▸ sound.rows)
            obtain ⟨idempotencyKeys, keyed⟩ :=
              keyed_cases goal { middle with db := result.2 } result.1.workflowId
            dsimp only
            rw [keyed]
            exact ensured.congr rfl rfl

section Parts

variable (server) (owner : String)

/-- A continuation changes only the memory store. -/
theorem continueGoal_eq (completedTaskIds : List String) (services : Services) :
    ∃ memory, (server.continueGoal owner completedTaskIds services).2 = { server with memory } := by
  unfold Server.continueGoal
  split
  · exact ⟨server.memory, rfl⟩
  · exact ⟨_, rfl⟩

/-- An ingestion changes the memory only. -/
theorem ingest_eq (filename : String) :
    ∃ memory, server.ingest owner filename = { server with memory } := by
  unfold Server.ingest
  split
  · exact ⟨server.memory, rfl⟩
  · split
    · exact ⟨server.memory, rfl⟩
    · exact ⟨_, rfl⟩

/-- A read changes only the workspace store. -/
theorem workspaceWorkflow_eq (tokens : Tokens) :
    ∃ db, (server.workspaceWorkflow tokens owner).2 = { server with db } := by
  unfold Server.workspaceWorkflow
  split
  · exact ⟨server.db, rfl⟩
  · split
    · exact ⟨server.db, rfl⟩
    · split
      · exact ⟨server.db, rfl⟩
      · exact ⟨_, rfl⟩

/-- A submission changes the database only. -/
theorem submit_eq (submission : Submission) (readTokens writeTokens : Tokens) :
    ∃ db, (server.submit owner submission readTokens writeTokens).2 = { server with db } := by
  obtain ⟨db, read⟩ := workspaceWorkflow_eq server owner readTokens
  unfold Server.submit
  generalize server.workspaceWorkflow readTokens owner = served at read
  obtain ⟨outcome, middle⟩ := served
  obtain rfl : middle = { server with db } := read
  cases outcome with
  | error failure => exact ⟨db, rfl⟩
  | ok workflow =>
      dsimp only
      split
      · exact ⟨db, rfl⟩
      · exact ⟨_, rfl⟩

/-- A refresh leaves the executions alone. -/
theorem refreshWorkflow_eq (services : Services) (ensureTokens saveTokens : Tokens) :
    ∃ memory db, (server.refreshWorkflow owner services ensureTokens saveTokens).2 =
      { server with memory, db } := by
  unfold Server.refreshWorkflow Server.resync
  cases server.memory.getWorkflow owner with
  | none => exact ⟨server.memory, server.db, rfl⟩
  | some record =>
      dsimp only
      rcases rebuildWorkflow services record server.memory with ⟨rebuilt | rebuilt, memory⟩
      · exact ⟨memory, server.db, rfl⟩
      · dsimp only
        cases server.db.ensure ensureTokens record with
        | error failure => exact ⟨memory, server.db, rfl⟩
        | ok result =>
            dsimp only
            split
            · exact ⟨memory, result.2, rfl⟩
            · exact ⟨memory, _, rfl⟩

/-- The worker begins one execution at most. -/
theorem deliver_eq (workerId : String) :
    server.deliver owner workerId = server ∨
      ∃ execution, execution.stage = .claiming ∧ server.deliver owner workerId =
        { server with executions := server.executions ++ [execution] } := by
  unfold Server.deliver
  split
  · exact .inl rfl
  · split
    · exact .inl rfl
    · exact .inr ⟨_, rfl, rfl⟩

/-- An execution that fails leaves the list and may change its record. -/
theorem abandon_eq (index : Nat) (execution : Execution) (failure : Exn) :
    server.abandon index execution failure =
      { server with
        memory := concluded execution.workflowId execution.background
          (.error failure, server.memory)
        executions := server.executions.eraseIdx index } := by
  rw [Server.abandon, concluded, recovered]
  cases execution.background with
  | false => rfl
  | true => cases server.memory.getWorkflow execution.workflowId <;> rfl

/-- A claim leaves the execution claimed or ends it. -/
theorem claim_eq (index : Nat) (execution : Execution) (claimedAt : DateTime) :
    ∃ memory executions, server.claim index execution claimedAt =
      { server with memory, executions } ∧
      (executions = server.executions.eraseIdx index ∨
        executions = server.executions.set index { execution with stage := .claimed }) := by
  unfold Server.claim
  split
  · rename_i memory _
    exact ⟨_, _, abandon_eq { server with memory } index execution _, .inl rfl⟩
  · exact ⟨_, _, rfl, .inr rfl⟩

/-- A graph run leaves the execution with its result or ends it. -/
theorem execute_eq (index : Nat) (execution : Execution) (services : Services) :
    ∃ memory executions, server.execute index execution services =
      { server with memory, executions } ∧
      (executions = server.executions.eraseIdx index ∨
        ∃ result, Ran execution services.clock result ∧ executions = server.executions.set index
          { execution with stage := .saved services.clock result }) := by
  rw [Server.execute]
  rcases invoke_cases services server.memory (executionInput execution.workflowId
    execution.workerId execution.payload) with ⟨failure, -, failed⟩ | ⟨reached, ran, invoked⟩
  · rw [failed]
    exact ⟨_, _, abandon_eq server index execution failure, .inl rfl⟩
  · rw [invoked]
    exact ⟨_, _, rfl, .inr ⟨_, ⟨services, reached, rfl, ran, rfl⟩, rfl⟩⟩

end Parts

/-- The rows of the workspace store stay consistent. -/
theorem rows_handle (sound : Sound server)
    (handled : server.handle command = some (response, target)) :
    Ledger.RowsConsistent target.db := by
  obtain ⟨-, ⟨-, rfl, rfl⟩ | ⟨-, served⟩⟩ := handle_cases handled
  · exact sound.rows
  · cases command with
    | createGoal goal =>
        cases served
        exact rows_createGoal sound goal
    | continueGoal owner completedTaskIds services =>
        cases served
        obtain ⟨memory, same⟩ := continueGoal_eq server owner completedTaskIds services
        change Ledger.RowsConsistent (server.continueGoal owner completedTaskIds services).2.db
        rw [same]
        exact sound.rows
    | getWorkflow owner tokens =>
        cases served
        exact rows_workspaceWorkflow sound.rows tokens owner
    | refresh owner services ensureTokens saveTokens =>
        cases served
        exact rows_refresh sound.rows owner services ensureTokens saveTokens
    | submit owner submission readTokens writeTokens =>
        cases served
        exact rows_submit sound.rows owner submission readTokens writeTokens
    | ingest owner filename =>
        cases served
        obtain ⟨memory, same⟩ := ingest_eq server owner filename
        rw [same]
        exact sound.rows
    | deliver owner workerId =>
        cases served
        obtain same | ⟨execution, -, same⟩ := deliver_eq server owner workerId <;>
          rw [same] <;> exact sound.rows
    | claim index claimedAt =>
        obtain ⟨rfl, execution, active, moved⟩ := step_cases served
        split at moved <;> cases moved
        obtain ⟨memory, executions, same, -⟩ := claim_eq server index execution claimedAt
        rw [same]
        exact sound.rows
    | execute index services =>
        obtain ⟨rfl, execution, active, moved⟩ := step_cases served
        split at moved <;> cases moved
        obtain ⟨memory, executions, same, -⟩ := execute_eq server index execution services
        rw [same]
        exact sound.rows
    | finish index =>
        obtain ⟨rfl, execution, active, moved⟩ := step_cases served
        split at moved <;> cases moved
        exact sound.rows

/-- An execution that has not claimed can be added. -/
theorem Started.append {executions : List Execution} (started : Started executions)
    {execution : Execution} (claiming : execution.stage = .claiming) :
    Started (executions ++ [execution]) := by
  intro other member clock result saved
  rcases List.mem_append.mp member with member | member
  · exact started other member clock result saved
  · obtain rfl := List.mem_singleton.mp member
    exact absurd (claiming.symm.trans saved) nofun

theorem Started.eraseIdx {executions : List Execution} (started : Started executions)
    (index : Nat) : Started (executions.eraseIdx index) :=
  fun other member => started other (List.mem_of_mem_eraseIdx member)

/-- An execution can advance if its result is that of its run. -/
theorem Started.set {executions : List Execution} (started : Started executions) (index : Nat)
    {execution : Execution}
    (ran : ∀ clock result, execution.stage = .saved clock result → Ran execution clock result) :
    Started (executions.set index execution) := by
  intro other member
  rcases List.mem_or_eq_of_mem_set member with member | rfl
  · exact started other member
  · exact ran

theorem started_create (started : Started server.executions) (goal : Goal) :
    Started (server.create goal).2.executions := by
  unfold Server.create
  split
  · exact started
  · split
    · exact started
    · exact started.append rfl

theorem started_createGoal (started : Started server.executions) (goal : Goal) :
    Started (server.createGoal goal).2.executions := by
  have created := started_create started goal
  unfold Server.createGoal
  split
  · exact started
  · exact started
  · generalize server.create goal = served at created
    obtain ⟨outcome, middle⟩ := served
    cases outcome with
    | error failure => exact created
    | ok workflow =>
        dsimp only
        split
        · exact created
        · obtain ⟨idempotencyKeys, keyed⟩ := keyed_cases goal _ _
          rw [keyed]
          exact created

/-- Executions keep the results of their graph runs. -/
theorem started_handle (started : Started server.executions)
    (handled : server.handle command = some (response, target)) : Started target.executions := by
  obtain ⟨-, ⟨-, rfl, rfl⟩ | ⟨-, served⟩⟩ := handle_cases handled
  · exact started
  · cases command with
    | createGoal goal =>
        cases served
        exact started_createGoal started goal
    | continueGoal owner completedTaskIds services =>
        cases served
        obtain ⟨memory, same⟩ := continueGoal_eq server owner completedTaskIds services
        change Started (server.continueGoal owner completedTaskIds services).2.executions
        rw [same]
        exact started
    | getWorkflow owner tokens =>
        cases served
        obtain ⟨db, same⟩ := workspaceWorkflow_eq server owner tokens
        change Started (server.workspaceWorkflow tokens owner).2.executions
        rw [same]
        exact started
    | refresh owner services ensureTokens saveTokens =>
        cases served
        obtain ⟨memory, db, same⟩ :=
          refreshWorkflow_eq server owner services ensureTokens saveTokens
        change Started
          (server.refreshWorkflow owner services ensureTokens saveTokens).2.executions
        rw [same]
        exact started
    | submit owner submission readTokens writeTokens =>
        cases served
        obtain ⟨db, same⟩ := submit_eq server owner submission readTokens writeTokens
        change Started (server.submit owner submission readTokens writeTokens).2.executions
        rw [same]
        exact started
    | ingest owner filename =>
        cases served
        obtain ⟨memory, same⟩ := ingest_eq server owner filename
        rw [same]
        exact started
    | deliver owner workerId =>
        cases served
        obtain same | ⟨execution, claiming, same⟩ := deliver_eq server owner workerId
        · rw [same]
          exact started
        · rw [same]
          exact started.append claiming
    | claim index claimedAt =>
        obtain ⟨rfl, execution, active, moved⟩ := step_cases served
        split at moved <;> cases moved
        obtain ⟨memory, executions, same, rfl | rfl⟩ := claim_eq server index execution claimedAt
        · rw [same]
          exact started.eraseIdx index
        · rw [same]
          exact started.set index fun clock result saved => by cases saved
    | execute index services =>
        obtain ⟨rfl, execution, active, moved⟩ := step_cases served
        split at moved <;> cases moved
        obtain ⟨memory, executions, same, rfl | ⟨result, ran, rfl⟩⟩ :=
          execute_eq server index execution services
        · rw [same]
          exact started.eraseIdx index
        · rw [same]
          refine started.set index fun clock other saved => ?_
          cases saved
          exact ran
    | finish index =>
        obtain ⟨rfl, execution, active, moved⟩ := step_cases served
        split at moved <;> cases moved
        exact started.eraseIdx index

/-- **Soundness is preserved by every command.** -/
theorem sound_handle (sound : Sound server)
    (handled : server.handle command = some (response, target)) : Sound target where
  records _ _ recorded := (effect_handle sound handled _).produced sound recorded
  rows := rows_handle sound handled
  states _ _ stored := (effect_handle sound handled _).serialised sound stored
  executions := started_handle sound.executions handled

/-- A server that has just started: an empty workspace store, no executions, and
whatever earlier runs of the service left in the memory store. -/
structure Initial (server : Server) : Prop where
  records : ∀ workflowId record, server.record workflowId = some record →
    record.workflowId = workflowId ∧ Produced record
  db : server.db = {}
  executions : server.executions = []

/-- An initial server is sound. -/
theorem Initial.sound (initial : Initial server) : Sound server where
  records := initial.records
  rows workflowId row found := by
    rw [initial.db] at found
    cases found
  states workflowId state stored := by
    rw [Server.stored, initial.db] at stored
    cases stored
  executions execution member := by
    rw [initial.executions] at member
    cases member

/-- What every allowed command preserves of a sound server holds, with soundness, in every
guarded run. -/
theorem run_invariant {guard : Server → Command → Prop} (holds : Server → Prop)
    (preserved : ∀ source command response target, Sound source → holds source →
      guard source command → source.handle command = some (response, target) → holds target)
    (sound : Sound server) (start : holds server) (run : system.Run guard server target) :
    Sound target ∧ holds target := by
  refine TransitionSystem.Run.invariant (fun server => Sound server ∧ holds server) ?_
    ⟨sound, start⟩ run
  rintro source command next ⟨sound, valid⟩ allowed stepped
  obtain ⟨response, handled⟩ := TransitionSystem.step_ofOutputs.mp stepped
  exact ⟨sound_handle sound handled, preserved _ _ _ _ sound valid allowed handled⟩

/-- Soundness holds in every run. -/
theorem sound_run {guard : Server → Command → Prop} (sound : Sound server)
    (run : system.Run guard server target) : Sound target :=
  (run_invariant (fun _ => True) (fun _ _ _ _ _ _ _ _ => trivial) sound trivial run).1

/-- The workflow is in the workspace store, in a state with a property. -/
def Stores (workflowId : String) (holds : WorkflowState → Prop) (server : Server) : Prop :=
  ∃ state, server.stored workflowId = some state ∧ holds state

/-- A submission for the workflow meets a condition on its state, and a refresh of the
workflow, which plans and assesses it anew, one on its record. Any other command is allowed. -/
def Admits (workflowId : String) (condition : WorkflowState → Submission → Prop)
    (fresh : WorkflowState → Prop) (server : Server) : Command → Prop
  | .submit owner submission _ _ =>
    owner = workflowId → ∀ state ∈ server.stored workflowId, condition state submission
  | .refresh owner _ _ _ => owner = workflowId → ∀ record ∈ server.record workflowId, fresh record
  | _ => True

/-- **What admitted commands keep of a stored state** holds in every state of a run of
admitted commands. -/
theorem stores_run {holds : WorkflowState → Prop} {condition : WorkflowState → Submission → Prop}
    {fresh : WorkflowState → Prop}
    (kept : ∀ state draft submission tokens, Serialised state → holds state →
      condition state submission → submission.request.change.prepare state = .ok draft →
      holds (recomputed (submitted submission tokens draft)).jsonCopy)
    (refreshed : ∀ services before payload rebuilt tokens, fresh before →
      Delivered services (rebuildInput before payload) rebuilt →
      holds (recomputed (Database.advance tokens rebuilt before.version)).jsonCopy)
    (sound : Sound server) (start : Stores workflowId holds server)
    (run : system.Run (Admits workflowId condition fresh) server target) :
    Stores workflowId holds target := by
  refine (run_invariant (Stores workflowId holds) ?_ sound start run).2
  rintro source command response next sound ⟨state, present, satisfied⟩ admitted handled
  have unchanged : next.stored workflowId = source.stored workflowId →
      Stores workflowId holds next := fun same => ⟨state, same.trans present, satisfied⟩
  cases effect_handle sound handled workflowId with
  | kept _ stored => exact unchanged stored
  | synced absent => cases absent.symm.trans present
  | created _ _ unstored => cases unstored.symm.trans present
  | submitted loaded prepared version valid same stored =>
      cases loaded with
      | synced absent => cases absent.symm.trans present
      | present found =>
          obtain rfl := Option.some.inj (found.symm.trans present)
          exact ⟨_, stored, kept _ _ _ _ (sound.states _ _ present) satisfied
            (admitted rfl _ present) prepared⟩
  | progressed _ _ _ stored | copied _ _ _ _ _ _ _ stored | finished _ _ _ _ _ _ _ _ _ stored
  | continued _ _ _ _ _ _ stored => exact unchanged stored
  | refreshed recorded delivered _ _ _ _ stored =>
      exact ⟨_, stored, refreshed _ _ _ _ _ (admitted rfl _ recorded) delivered⟩

theorem initial_emptyServer : Initial emptyServer where
  records workflowId record recorded := by cases recorded
  db := rfl
  executions := rfl

/-- The empty server after a synchronous creation. -/
def createdServer : Server :=
  (system.runFrom emptyServer [.createGoal (taskGoal true)]).getD emptyServer

theorem run_createdServer : system.Run TransitionSystem.unguarded emptyServer createdServer :=
  TransitionSystem.run_of_runFrom [.createGoal (taskGoal true)] rfl

/-- A server that starts with the memory store of another one. -/
def restartedServer : Server where
  memory := createdServer.memory

theorem initial_restartedServer : Initial restartedServer where
  records := (sound_run initial_emptyServer.sound run_createdServer).records
  db := rfl
  executions := rfl

/-- What every allowed command preserves of a sound server and the notes about its
run holds, with soundness, in every guarded run. -/
theorem observed_invariant {Note : Type*}
    {note : Server → Command → Option (Except Exn WorkflowState) → Server → Note → Note}
    {guard : Server × Note → Command → Prop} (holds : Server × Note → Prop)
    (preserved : ∀ source command response target noted, Sound source → holds (source, noted) →
      guard (source, noted) command → source.handle command = some (response, target) →
      holds (target, note source command response target noted))
    {seen next : Server × Note} (initial : Initial seen.1) (start : holds seen)
    (run : (TransitionSystem.observed Server.handle note).Run guard seen next) :
    Sound next.1 ∧ holds next := by
  refine TransitionSystem.Run.invariant (fun seen => Sound seen.1 ∧ holds seen) ?_
    ⟨initial.sound, start⟩ run
  rintro ⟨source, noted⟩ command ⟨target, after⟩ ⟨sound, valid⟩ allowed stepped
  obtain ⟨response, handled, same⟩ := TransitionSystem.observed_step.mp stepped
  obtain rfl : after = note source command response target noted := same
  exact ⟨sound_handle sound handled, preserved _ _ _ _ _ sound valid allowed handled⟩

end Soundness

end ActionPlan.Api
