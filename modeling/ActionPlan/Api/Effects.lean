import ActionPlan.Agent.Outcomes
import ActionPlan.Api.Server
import ActionPlan.Workspace.Ledger

/-! # What a command does to one workflow

A workflow has a record in the memory store and a state in the workspace store.
`Effect` lists everything that one command can do to the two; it is derived once
from the routes, and the claims about runs of the server reason with it alone.
-/

namespace ActionPlan.Api

open ActionPlan.Foundation ActionPlan.Models ActionPlan.Memory ActionPlan.Agent
  ActionPlan.Workspace

namespace Server

variable (server : Server)

/-- The record of a workflow in the memory store. -/
def record (workflowId : String) : Option WorkflowState := server.memory.getWorkflow workflowId

/-- The state of a workflow in the workspace store. -/
def stored (workflowId : String) : Option WorkflowState := server.db.stored workflowId

end Server

/-- The result is that of a graph run for the execution. -/
def Ran (execution : Execution) (clock : Clock) (result : AgentState) : Prop :=
  ∃ services reached, services.clock = clock ∧
    reachMemory services
      (executionInput execution.workflowId execution.workerId execution.payload) = .ok reached ∧
    result = updateMemoryResult clock reached

/-- Every result that an execution has is that of its graph run. -/
def Started (executions : List Execution) : Prop :=
  ∀ execution ∈ executions, ∀ clock result, execution.stage = .saved clock result →
    Ran execution clock result

/-- A state as `_write` serialises it. -/
structure Serialised (state : WorkflowState) : Prop where
  valid : TaskPlan.validateTasks state.tasks = .ok ()
  readied : readied state.tasks = state.tasks
  version : 1 ≤ state.version

/-- What holds in every state of the server. -/
structure Sound (server : Server) : Prop where
  records : ∀ workflowId record, server.record workflowId = some record →
    record.workflowId = workflowId ∧ Produced record
  rows : Ledger.RowsConsistent server.db
  states : ∀ workflowId state, server.stored workflowId = some state → Serialised state
  executions : Started server.executions

/-- Two records that differ in the progress of the execution and in metadata only. -/
structure SameWork (before after : WorkflowState) : Prop where
  workflowId : after.workflowId = before.workflowId
  candidatePlan : after.candidatePlan = before.candidatePlan
  requirements : after.requirements = before.requirements
  tasks : after.tasks = before.tasks
  completedTasks : after.completedTasks = before.completedTasks
  recommendation : after.recommendation = before.recommendation
  version : after.version = before.version

theorem SameWork.produced {before after : WorkflowState} (same : SameWork before after)
    (produced : Produced before) : Produced after :=
  produced.congr same.candidatePlan same.requirements same.tasks same.completedTasks
    same.recommendation same.version

theorem SameWork.trans {first second third : WorkflowState} (left : SameWork first second)
    (right : SameWork second third) : SameWork first third :=
  ⟨right.workflowId.trans left.workflowId, right.candidatePlan.trans left.candidatePlan,
    right.requirements.trans left.requirements, right.tasks.trans left.tasks,
    right.completedTasks.trans left.completedTasks,
    right.recommendation.trans left.recommendation, right.version.trans left.version⟩

theorem SameWork.symm {before after : WorkflowState} (same : SameWork before after) :
    SameWork after before :=
  ⟨same.workflowId.symm, same.candidatePlan.symm, same.requirements.symm, same.tasks.symm,
    same.completedTasks.symm, same.recommendation.symm, same.version.symm⟩

/-- A loaded copy of a saved workflow. -/
theorem sameWork_load (backend : Backend) (workflow : WorkflowState) :
    SameWork workflow (MemoryStore.load backend workflow.jsonCopy) := by
  cases backend <;> exact ⟨rfl, rfl, rfl, rfl, rfl, rfl, rfl⟩

/-- A state after the first read of a workflow by a workspace route. -/
inductive Loaded (server : Server) (workflowId : String) (tokens : Tokens) :
    WorkflowState → Prop
  | present {state : WorkflowState} (stored : server.stored workflowId = some state) :
      Loaded server workflowId tokens state
  | synced {record : WorkflowState} (absent : server.stored workflowId = none)
      (recorded : server.record workflowId = some record) :
      Loaded server workflowId tokens (identified tokens record)

/-- The workflow that a submission writes. -/
def submitted (submission : Submission) (tokens : Tokens) (draft : WorkflowState) :
    WorkflowState :=
  Database.advance tokens (submission.request.change.applied draft)
    submission.request.expectedVersion

/-- How a step changes a record without running the graph: a claim, an error of a
background execution, or an ingested document. -/
inductive Progress (workflowId : String) (source : Server) (before after : WorkflowState) :
    Command → Prop
  | claimed {index : Nat} {claimedAt : DateTime} (queued : before.executionState = .queued)
      (running : after.executionState = .running) :
      Progress workflowId source before after (.claim index claimedAt)
  | failed {command : Command} {index : Nat} {execution : Execution}
      (active : source.executions[index]? = some execution) (background : execution.background)
      (named : execution.workflowId = workflowId) (state : after.executionState = .failed)
      (step : (∃ claimedAt, command = .claim index claimedAt) ∨
        ∃ services, command = .execute index services) :
      Progress workflowId source before after command
  | ingested {filename : String} (state : after.executionState = before.executionState) :
      Progress workflowId source before after (.ingest workflowId filename)

/-- What a new workflow is, and what of it is stored. -/
inductive Created (workflowId : String) (goal : Goal) (record : WorkflowState) :
    Option WorkflowState → Option (Except Exn WorkflowState) → Prop
  | recorded {response : Option (Except Exn WorkflowState)}
      (failed : ∀ returned, response ≠ some (.ok returned)) :
      Created workflowId goal record none response
  | stored {workflow : WorkflowState} (tasks : workflow.tasks = record.tasks)
      (state : workflow.executionState = record.executionState)
      (produced : Produced workflow) :
      Created workflowId goal record (some (recomputed workflow).jsonCopy)
        (some (.ok (identified goal.tokens workflow)))

/-- The command writes the workflow if it succeeds. -/
def Command.writes (workflowId : String) : Command → Prop
  | continueGoal owner _ _ | refresh owner _ _ _ | submit owner _ _ _ => owner = workflowId
  | createGoal _ | getWorkflow _ _ | ingest _ _ | deliver _ _ | claim _ _ | execute _ _
  | finish _ => False

/-- Everything that one command can do to the record and the state of a workflow. -/
inductive Effect (workflowId : String) (source : Server) :
    Command → Option (Except Exn WorkflowState) → Server → Prop
  /-- Nothing changes, and an answer for the workflow is its stored state. -/
  | kept {command : Command} {response : Option (Except Exn WorkflowState)} {target : Server}
      (record : target.record workflowId = source.record workflowId)
      (stored : target.stored workflowId = source.stored workflowId)
      (answer : ∀ returned, response = some (.ok returned) → ¬ command.writes workflowId ∧
        (returned.workflowId = workflowId → source.stored workflowId = some returned)) :
      Effect workflowId source command response target
  /-- A workspace route has brought the record into the workspace store. -/
  | synced {command : Command} {response : Option (Except Exn WorkflowState)} {target : Server}
      {record : WorkflowState}
      (absent : source.stored workflowId = none)
      (recorded : source.record workflowId = some record)
      (same : target.record workflowId = source.record workflowId)
      (stored : target.stored workflowId = some (recomputed record).jsonCopy)
      (answer : ∀ returned, response = some (.ok returned) →
        ∃ tokens, command = .getWorkflow workflowId tokens ∧
          returned = identified tokens record) :
      Effect workflowId source command response target
  /-- A submission has been written. -/
  | submitted {submission : Submission} {readTokens writeTokens : Tokens}
      {base draft : WorkflowState} {target : Server}
      (loaded : Loaded source workflowId readTokens base)
      (prepared : submission.request.change.prepare base = .ok draft)
      (version : base.version = submission.request.expectedVersion)
      (valid : TaskPlan.validateTasks (submitted submission writeTokens draft).tasks = .ok ())
      (same : target.record workflowId = source.record workflowId)
      (stored : target.stored workflowId =
        some (recomputed (submitted submission writeTokens draft)).jsonCopy) :
      Effect workflowId source (.submit workflowId submission readTokens writeTokens)
        (some (.ok (identified writeTokens (submitted submission writeTokens draft)))) target
  /-- The workflow has been created. -/
  | created {goal : Goal} {response : Option (Except Exn WorkflowState)} {target : Server}
      {record : WorkflowState} (named : goal.creation.workflowId = workflowId)
      (unrecorded : source.record workflowId = none) (unstored : source.stored workflowId = none)
      (recorded : target.record workflowId = some record)
      (owned : record.workflowId = workflowId) (produced : Produced record)
      (created : Created workflowId goal record (target.stored workflowId) response) :
      Effect workflowId source (.createGoal goal) response target
  /-- The record reports progress. -/
  | progressed {command : Command} {target : Server} {before after : WorkflowState}
      (present : source.record workflowId = some before)
      (recorded : target.record workflowId = some after) (work : SameWork before after)
      (stored : target.stored workflowId = source.stored workflowId)
      (progress : Progress workflowId source before after command) :
      Effect workflowId source command none target
  /-- The memory node of an execution has saved its copy. -/
  | copied {index : Nat} {services : Services} {execution : Execution} {target : Server}
      {after : WorkflowState} (active : source.executions[index]? = some execution)
      (named : execution.workflowId = workflowId)
      (recorded : target.record workflowId = some after)
      (owned : after.workflowId = workflowId) (produced : Produced after)
      (completed : after.completedTasks = []) (state : after.executionState = .queued)
      (stored : target.stored workflowId = source.stored workflowId) :
      Effect workflowId source (.execute index services) none target
  /-- An execution has saved its result. -/
  | finished {index : Nat} {execution : Execution} {clock : Clock} {result : AgentState}
      {target : Server} {after : WorkflowState}
      (active : source.executions[index]? = some execution)
      (named : execution.workflowId = workflowId) (saved : execution.stage = .saved clock result)
      (recorded : target.record workflowId = some after)
      (owned : after.workflowId = workflowId) (produced : Produced after)
      (completed : after.completedTasks = []) (tasks : after.tasks = result.tasks.getD [])
      (state : after.executionState = .completed)
      (stored : target.stored workflowId = source.stored workflowId) :
      Effect workflowId source (.finish index) none target
  /-- The workflow has been continued. -/
  | continued {completedTaskIds : List String} {services : Services} {target : Server}
      {before returned after : WorkflowState} (present : source.record workflowId = some before)
      (delivered : Delivered services (continueInput before completedTaskIds) returned)
      (state : returned.executionState = before.executionState)
      (recorded : target.record workflowId = some after) (work : SameWork returned after)
      (afterState : after.executionState = returned.executionState)
      (stored : target.stored workflowId = source.stored workflowId) :
      Effect workflowId source (.continueGoal workflowId completedTaskIds services)
        (some (.ok returned)) target
  /-- The workflow has been rebuilt and written to both stores. -/
  | refreshed {services : Services} {ensureTokens saveTokens : Tokens} {target : Server}
      {before rebuilt after : WorkflowState} {payload : WorkRequestInput}
      (present : source.record workflowId = some before)
      (delivered : Delivered services (rebuildInput before payload) rebuilt)
      (state : rebuilt.executionState = .completed)
      (recorded : target.record workflowId = some after) (work : SameWork rebuilt after)
      (afterState : after.executionState = rebuilt.executionState)
      (stored : target.stored workflowId =
        some (recomputed (Database.advance saveTokens rebuilt before.version)).jsonCopy) :
      Effect workflowId source (.refresh workflowId services ensureTokens saveTokens)
        (some (.ok (identified saveTokens
          (Database.advance saveTokens rebuilt before.version)))) target

section Unanswered

variable {workflowId : String} {source target : Server} {command : Command}

/-- A step without an answer that leaves the workflow as it was. -/
theorem Effect.silent (record : target.record workflowId = source.record workflowId)
    (stored : target.stored workflowId = source.stored workflowId) :
    Effect workflowId source command none target := by
  refine .kept record stored ?_
  intro returned answer
  cases answer

/-- A step that answers with an error and leaves the workflow as it was. -/
theorem Effect.refused {failure : Exn}
    (record : target.record workflowId = source.record workflowId)
    (stored : target.stored workflowId = source.stored workflowId) :
    Effect workflowId source command (some (.error failure)) target := by
  refine .kept record stored ?_
  intro returned answer
  cases answer

end Unanswered

/-- What `get_workflow` answers is not the answer of a writing command. -/
theorem not_writes_of_read {workflowId : String} {command : Command}
    {response : Option (Except Exn WorkflowState)} {record : WorkflowState}
    (answer : ∀ returned, response = some (.ok returned) →
      ∃ tokens, command = .getWorkflow workflowId tokens ∧ returned = identified tokens record) :
    ∀ returned, response = some (.ok returned) → ¬ command.writes workflowId := by
  intro returned ok
  obtain ⟨tokens, rfl, -⟩ := answer returned ok
  exact id

section Sound

variable {server : Server} (sound : Sound server)

include sound

theorem Sound.keyed : server.memory.Keyed := fun workflowId record present =>
  (sound.records workflowId record present).1

theorem Sound.stored_workflowId {workflowId : String} {state : WorkflowState}
    (stored : server.stored workflowId = some state) : state.workflowId = workflowId := by
  obtain ⟨row, found, rfl⟩ := Option.map_eq_some_iff.mp stored
  have key := ((Table.find?_eq_some _ _ _).mp found).2
  exact (sound.rows workflowId row found).workflowId.trans key

/-- The tasks of a record pass the validation of the workspace. -/
theorem Sound.valid_record {workflowId : String} {record : WorkflowState}
    (recorded : server.record workflowId = some record) :
    TaskPlan.validateTasks record.tasks = .ok () :=
  (sound.records workflowId record recorded).2.valid

omit sound in
/-- A written workflow is serialised with recomputed tasks. -/
theorem serialised_recomputed {workflow : WorkflowState}
    (valid : TaskPlan.validateTasks workflow.tasks = .ok ()) (version : 1 ≤ workflow.version) :
    Serialised (recomputed workflow).jsonCopy :=
  ⟨(validateTasks_readied workflow.tasks).trans valid, readied_readied workflow.tasks, version⟩

end Sound

section Routes

variable {server : Server}

/-- What `workspaceWorkflow` can do. -/
inductive Read (server : Server) (tokens : Tokens) (workflowId : String) : Served → Prop
  | present {state : WorkflowState} (stored : server.stored workflowId = some state) :
      Read server tokens workflowId (.ok state, server)
  | missing {failure : Exn} (absent : server.stored workflowId = none)
      (unrecorded : server.record workflowId = none) :
      Read server tokens workflowId (.error failure, server)
  | synced {record : WorkflowState} {db : Database} (absent : server.stored workflowId = none)
      (recorded : server.record workflowId = some record)
      (written : server.db.Written tokens record (identified tokens record) db) :
      Read server tokens workflowId (.ok (identified tokens record), { server with db })

theorem read_cases (sound : Sound server) {tokens : Tokens}
    (fresh : server.db.events.find? tokens.eventId = none) (workflowId : String) :
    Read server tokens workflowId (server.workspaceWorkflow tokens workflowId) := by
  rw [Server.workspaceWorkflow]
  cases stored : server.db.stored workflowId with
  | some state =>
      rw [Database.get_eq_ok.mpr stored]
      exact .present stored
  | none =>
      rw [Database.get_of_stored_none stored]
      cases recorded : server.memory.getWorkflow workflowId with
      | none => exact .missing stored recorded
      | some record =>
          obtain ⟨db, success, written⟩ :=
            Database.exists_written (sound.valid_record recorded) fresh
          dsimp only
          rw [success]
          exact .synced stored recorded written

variable {tokens readTokens writeTokens : Tokens} {owner : String}

/-- A read leaves the memory store alone. -/
theorem Read.record {served : Served} (read : Read server tokens owner served)
    (workflowId : String) : served.2.record workflowId = server.record workflowId := by
  cases read <;> rfl

/-- A read changes the state of its own workflow at most. -/
theorem Read.stored_of_ne (sound : Sound server) {served : Served}
    (read : Read server tokens owner served) {workflowId : String}
    (different : workflowId ≠ owner) :
    served.2.stored workflowId = server.stored workflowId := by
  cases read with
  | present | missing => rfl
  | synced absent recorded written =>
      have same := (sound.records _ _ recorded).1
      exact written.stored_of_ne (same ▸ different)

/-- What a read does, when it is the whole of a command. -/
theorem Read.effect (sound : Sound server) {served : Served}
    (read : Read server tokens owner served) (workflowId : String) :
    Effect workflowId server (.getWorkflow owner tokens) (some served.1) served.2 := by
  by_cases same : workflowId = owner
  · subst same
    cases read with
    | present stored =>
        refine .kept rfl rfl fun returned answer => ⟨id, fun _ => ?_⟩
        cases answer
        exact stored
    | missing =>
        refine .kept rfl rfl fun returned answer => ?_
        cases answer
    | @synced record db absent recorded written =>
        have owned := (sound.records _ _ recorded).1
        refine .synced absent recorded rfl (owned ▸ written.stored_self) fun returned answer => ?_
        cases answer
        exact ⟨tokens, rfl, rfl⟩
  · refine .kept (read.record workflowId) (read.stored_of_ne sound same)
      fun returned answer => ⟨id, fun named => ?_⟩
    cases read with
    | present stored =>
        cases answer
        exact absurd (named.symm.trans (sound.stored_workflowId stored)) same
    | missing => cases answer
    | synced absent recorded written =>
        cases answer
        exact absurd (named.symm.trans (sound.records _ _ recorded).1) same

/-- What a submission does after its read, which has left the server in `middle`. -/
theorem effect_loaded {submission : Submission} {base : WorkflowState} {middle : Server}
    {workflowId : String} (loaded : Loaded server owner readTokens base)
    (owned : base.workflowId = owner) (memory : middle.memory = server.memory)
    (version : middle.db.selectVersion owner = some base.version)
    (others : workflowId ≠ owner → middle.stored workflowId = server.stored workflowId)
    (refused : ∀ failure, Effect workflowId server
      (.submit owner submission readTokens writeTokens) (some (.error failure)) middle) :
    let served : Served :=
      match submission.request.submit middle.db writeTokens base with
      | .error failure => (.error (raised failure), middle)
      | .ok (workflow, db) => (.ok workflow, { middle with db })
    Effect workflowId server (.submit owner submission readTokens writeTokens) (some served.1)
      served.2 := by
  have records : ∀ db, Server.record { middle with db } workflowId = server.record workflowId :=
    fun db => congrArg (fun store => store.getWorkflow workflowId) memory
  cases outcome : submission.request.submit middle.db writeTokens base with
  | error failure => exact refused _
  | ok result =>
      obtain ⟨returned, next⟩ := result
      obtain ⟨draft, prepared, same, selected, written⟩ := submit_ok outcome
      have expected : base.version = submission.request.expectedVersion := by
        rw [owned, version] at selected
        exact Option.some.inj selected
      have named : (submitted submission writeTokens draft).workflowId = owner :=
        (applied_workflowId submission.request.change).trans (same.trans owned)
      obtain rfl := written.returned
      by_cases whose : workflowId = owner
      · subst whose
        exact .submitted loaded prepared expected written.valid (records next)
          (named ▸ written.stored_self)
      · refine .kept (records next) ?_ fun returned answer => ⟨Ne.symm whose, fun other => ?_⟩
        · exact (written.stored_of_ne (named.symm ▸ whose)).trans (others whose)
        · cases answer
          exact absurd (other.symm.trans named) whose

/-- What a submission does. -/
theorem effect_submit (sound : Sound server) {submission : Submission}
    (fresh : server.db.events.find? readTokens.eventId = none) (workflowId : String) :
    Effect workflowId server (.submit owner submission readTokens writeTokens)
      (some (server.submit owner submission readTokens writeTokens).1)
      (server.submit owner submission readTokens writeTokens).2 := by
  have read := read_cases sound fresh owner
  rw [Server.submit]
  generalize server.workspaceWorkflow readTokens owner = served at read
  cases read with
  | missing => exact .refused rfl rfl
  | @present state stored =>
      have owned := sound.stored_workflowId stored
      have version : server.db.selectVersion owner = some state.version := by
        exact (sound.rows.selectVersion owner).trans (congrArg _ stored)
      apply effect_loaded (.present stored) owned rfl version fun _ => rfl
      exact fun failure => .refused rfl rfl
  | @synced record db absent recorded written =>
      have owned := (sound.records _ _ recorded).1
      have version : db.selectVersion owner = some record.version :=
        owned ▸ written.selectVersion_self
      have others : workflowId ≠ owner → db.stored workflowId = server.stored workflowId :=
        fun different => written.stored_of_ne (owned.symm ▸ different)
      have memory : ({ server with db } : Server).memory = server.memory := rfl
      apply effect_loaded (.synced absent recorded) owned memory version others
      intro failure
      by_cases whose : workflowId = owner
      · subst whose
        exact .synced absent recorded rfl (owned ▸ written.stored_self)
          fun returned answer => by cases answer
      · exact .refused rfl (others whose)

section Runs

variable {services : Services}

/-- What a refresh can do before its last save. -/
inductive Resynced (server : Server) (services : Services) (tokens : Tokens)
    (workflowId : String) : Except Exn (WorkflowState × WorkflowState) × Server → Prop
  | failed (failure : Exn) : Resynced server services tokens workflowId (.error failure, server)
  | synced {record rebuilt : WorkflowState} {payload : WorkRequestInput} {memory : MemoryStore}
      {db : Database} (recorded : server.record workflowId = some record)
      (delivered : Delivered services (rebuildInput record payload) rebuilt)
      (state : rebuilt.executionState = .completed) (saves : Saves server.memory memory rebuilt)
      (written : server.db.Written tokens record (identified tokens record) db) :
      Resynced server services tokens workflowId
        (.ok (rebuilt, identified tokens record), { server with memory, db })

theorem resync_cases (sound : Sound server)
    (fresh : server.db.events.find? tokens.eventId = none) (workflowId : String) :
    Resynced server services tokens workflowId (server.resync workflowId services tokens) := by
  rw [Server.resync]
  cases recorded : server.memory.getWorkflow workflowId with
  | none => exact .failed _
  | some record =>
      dsimp only
      rcases rebuildWorkflow_cases services server.memory record with
        ⟨failure, failed⟩ | ⟨payload, reached, memory, made, ran, rebuilt, saves⟩
      · rw [failed]
        exact .failed _
      · rw [rebuilt]
        have delivered := delivered_rebuiltWorkflow ran
        obtain ⟨db, success, written⟩ :=
          Database.exists_written (sound.valid_record recorded) fresh
        dsimp only
        rw [success]
        exact .synced recorded delivered rfl saves written

/-- A refresh changes nothing, or it rebuilds the workflow in both stores. -/
theorem effect_refresh (sound : Sound server) {ensureTokens saveTokens : Tokens}
    (fresh : server.db.events.find? ensureTokens.eventId = none)
    (freshSave : server.db.events.find? saveTokens.eventId = none)
    (distinct : saveTokens.eventId ≠ ensureTokens.eventId) (workflowId : String) :
    Effect workflowId server (.refresh owner services ensureTokens saveTokens)
      (some (server.refreshWorkflow owner services ensureTokens saveTokens).1)
      (server.refreshWorkflow owner services ensureTokens saveTokens).2 := by
  have resynced : Resynced server services ensureTokens owner
      (server.resync owner services ensureTokens) := resync_cases sound fresh owner
  rw [Server.refreshWorkflow]
  generalize server.resync owner services ensureTokens = outcome at resynced
  cases resynced with
  | failed failure => exact .refused rfl rfl
  | @synced record rebuilt payload memory middle recorded delivered state saves ensure =>
      have owned := (sound.records _ _ recorded).1
      have named : rebuilt.workflowId = owner := delivered.workflowId.trans owned
      have selected : middle.selectVersion rebuilt.workflowId = some record.version := by
        rw [named, ← owned]
        exact ensure.selectVersion_self
      have total : ∃ result, middle.save saveTokens rebuilt record.version
          { eventType := "assessment_completed", actor := "system" } = .ok result :=
        Database.save_total selected delivered.produced.valid
          (ensure.event_unused distinct freshSave) rfl
      obtain ⟨⟨returned, db⟩, saved⟩ := total
      have written := (Database.save_ok saved).2
      obtain rfl := written.returned
      dsimp only
      rw [identified_version, saved]
      by_cases whose : workflowId = owner
      · subst whose
        have loaded := sameWork_load server.memory.backend rebuilt
        refine .refreshed recorded delivered state ?_ loaded
          (MemoryStore.load_executionState _ _) ?_
        · exact named ▸ saves.stored
        · exact named ▸ written.stored_self
      · refine .kept (saves.others _ (named.symm ▸ whose)) ?_
          fun returned answer => ⟨Ne.symm whose, fun other => ?_⟩
        · exact (written.stored_of_ne (named.symm ▸ whose)).trans
            (ensure.stored_of_ne (owned.symm ▸ whose))
        · cases answer
          exact absurd (other.symm.trans named) whose

/-- A continuation changes nothing, or it saves its result in the memory store. -/
theorem effect_continue (sound : Sound server) (completedTaskIds : List String)
    (workflowId : String) :
    Effect workflowId server (.continueGoal owner completedTaskIds services)
      (some (server.continueGoal owner completedTaskIds services).1)
      (server.continueGoal owner completedTaskIds services).2 := by
  rw [Server.continueGoal]
  cases recorded : server.memory.getWorkflow owner with
  | none => exact .refused rfl rfl
  | some record =>
      have owned := (sound.records _ _ recorded).1
      dsimp only
      rcases continueWorkflow_cases services server.memory record completedTaskIds with
        ⟨failure, failed⟩ | ⟨reached, memory, ran, continued, saves⟩
      · rw [failed]
        exact .refused rfl rfl
      · rw [continued]
        have delivered := delivered_continuedWorkflow (sound.records _ _ recorded).2 ran
        have state : (continuedWorkflow services.clock record
            (updateMemoryResult services.clock reached)).executionState =
              record.executionState := rfl
        generalize continuedWorkflow services.clock record
          (updateMemoryResult services.clock reached) = returned at delivered state saves
        have named : returned.workflowId = owner := delivered.workflowId.trans owned
        by_cases whose : workflowId = owner
        · subst whose
          exact .continued recorded delivered state (named ▸ saves.stored)
            (sameWork_load server.memory.backend returned) (MemoryStore.load_executionState _ _) rfl
        · refine .kept (saves.others _ (named.symm ▸ whose)) rfl
            fun other answer => ⟨Ne.symm whose, fun same => ?_⟩
          cases answer
          exact absurd (same.symm.trans named) whose

/-- A record that is saved again with its progress. -/
theorem effect_progressed {command : Command} {before changed : WorkflowState}
    (recorded : server.record owner = some before) (work : SameWork before changed)
    (owned : before.workflowId = owner)
    (progress : ∀ after, after.executionState = changed.executionState →
      Progress owner server before after command)
    (executions : List Execution) (workflowId : String) :
    Effect workflowId server command none
      { server with memory := server.memory.saveWorkflow changed, executions } := by
  have named : changed.workflowId = owner := work.workflowId.trans owned
  have saves := saves_saveWorkflow server.memory changed
  by_cases whose : workflowId = owner
  · subst whose
    have loaded := sameWork_load server.memory.backend changed
    exact .progressed recorded (named ▸ saves.stored) (work.trans loaded) rfl
      (progress _ (MemoryStore.load_executionState _ _))
  · exact .silent (saves.others _ (named.symm ▸ whose)) rfl

/-- An ingested document changes the metadata of its record. -/
theorem effect_ingest (sound : Sound server) (filename workflowId : String) :
    Effect workflowId server (.ingest owner filename) none (server.ingest owner filename) := by
  rw [Server.ingest]
  cases recorded : server.memory.getWorkflow owner with
  | none => exact .silent rfl rfl
  | some record =>
      have owned := (sound.records _ _ recorded).1
      dsimp only
      cases listed : withDocument filename record with
      | error failure => exact .silent rfl rfl
      | ok saved =>
          have work : SameWork record saved ∧ saved.executionState = record.executionState := by
            obtain ⟨names, -, rfl⟩ := withDocument_ok listed
            exact ⟨⟨rfl, rfl, rfl, rfl, rfl, rfl, rfl⟩, rfl⟩
          exact effect_progressed recorded work.1 owned
            (fun after state => .ingested (state.trans work.2)) server.executions workflowId

/-- The worker only begins an execution. -/
theorem effect_deliver (workflowId workerId : String) :
    Effect workflowId server (.deliver owner workerId) none (server.deliver owner workerId) := by
  rw [Server.deliver]
  split
  · exact .silent rfl rfl
  · split <;> exact .silent rfl rfl

/-- An execution that ends with an error after its claim or in its run marks the
record as failed, if it is in the background. -/
theorem effect_abandon (sound : Sound server) {command : Command} {index : Nat}
    {execution : Execution} (active : server.executions[index]? = some execution)
    (step : (∃ claimedAt, command = .claim index claimedAt) ∨
      ∃ services, command = .execute index services) (failure : Exn) (workflowId : String) :
    Effect workflowId server command none (server.abandon index execution failure) := by
  rw [Server.abandon]
  split
  · rename_i background
    cases recorded : server.memory.getWorkflow execution.workflowId with
    | none => exact .silent rfl rfl
    | some record =>
        have work : SameWork record (failedWorkflow failure record) :=
          ⟨rfl, rfl, rfl, rfl, rfl, rfl, rfl⟩
        exact effect_progressed recorded work (sound.records _ _ recorded).1
          (fun after state => .failed active background rfl state step) _ workflowId
  · exact .silent rfl rfl

/-- A claim that succeeds leaves the record running. -/
theorem effect_claim (sound : Sound server) {index : Nat} {execution : Execution}
    (active : server.executions[index]? = some execution) (claimedAt : DateTime)
    (workflowId : String) :
    Effect workflowId server (.claim index claimedAt) none
      (server.claim index execution claimedAt) := by
  have claims := MemoryStore.claim_cases (sound.keyed execution.workflowId) execution.workerId
    claimedAt
  rw [Server.claim]
  generalize server.memory.claimWorkflowForExecution execution.workflowId execution.workerId
    claimedAt = outcome at claims
  cases claims with
  | refused => exact effect_abandon sound active (.inl ⟨claimedAt, rfl⟩) _ workflowId
  | @claimed record found after next present queued stored running others backend =>
      by_cases whose : workflowId = execution.workflowId
      · subst whose
        have work : SameWork record after := by
          rcases running with rfl | rfl <;> exact ⟨rfl, rfl, rfl, rfl, rfl, rfl, rfl⟩
        have state : after.executionState = .running := by
          rcases running with rfl | rfl <;> rfl
        exact .progressed present stored work rfl (.claimed queued state)
      · exact .silent (others _ whose) rfl

/-- What the memory node of an execution saves. -/
theorem effect_execute (sound : Sound server) {index : Nat} {execution : Execution}
    (active : server.executions[index]? = some execution) (workflowId : String) :
    Effect workflowId server (.execute index services) none
      (server.execute index execution services) := by
  rw [Server.execute]
  rcases invoke_cases services server.memory (executionInput execution.workflowId
    execution.workerId execution.payload) with ⟨failure, -, failed⟩ | ⟨reached, ran, invoked⟩
  · rw [failed]
    exact effect_abandon sound active (.inr ⟨services, rfl⟩) failure workflowId
  · rw [invoked]
    have delivered := delivered_stateToWorkflow (builtInitially_of_none rfl) ran
    have saves := saves_saveWorkflow server.memory (stateToWorkflow services.clock reached)
    have state : (stateToWorkflow services.clock reached).executionState = .queued := rfl
    generalize stateToWorkflow services.clock reached = copy at delivered saves state
    have named : copy.workflowId = execution.workflowId := delivered.workflowId
    by_cases whose : workflowId = execution.workflowId
    · subst whose
      have loaded := sameWork_load server.memory.backend copy
      refine .copied active rfl (named ▸ saves.stored) (loaded.workflowId.trans named)
        (loaded.produced delivered.produced) ?_ ?_ rfl
      · exact loaded.completedTasks.trans delivered.completed
      · exact (MemoryStore.load_executionState _ _).trans state
    · exact .silent (saves.others _ (named.symm ▸ whose)) rfl

/-- What an execution saves last. -/
theorem effect_finish (sound : Sound server) {index : Nat} {execution : Execution}
    (active : server.executions[index]? = some execution) {clock : Clock} {result : AgentState}
    (saved : execution.stage = .saved clock result) (workflowId : String) :
    Effect workflowId server (.finish index) none (server.finish index clock result) := by
  obtain ⟨services, reached, rfl, ran, rfl⟩ :=
    sound.executions execution (List.mem_of_getElem? active) clock result saved
  rw [Server.finish]
  have delivered := delivered_executedWorkflow ran
  have state : (executedWorkflow services.clock
      (updateMemoryResult services.clock reached)).executionState = .completed := rfl
  have tasks : (executedWorkflow services.clock (updateMemoryResult services.clock reached)).tasks =
      (updateMemoryResult services.clock reached).tasks.getD [] := rfl
  have saves := saves_saveWorkflow server.memory
    (executedWorkflow services.clock (updateMemoryResult services.clock reached))
  generalize executedWorkflow services.clock (updateMemoryResult services.clock reached) =
    workflow at delivered state saves tasks
  have named : workflow.workflowId = execution.workflowId := delivered.workflowId
  by_cases whose : workflowId = execution.workflowId
  · subst whose
    have loaded := sameWork_load server.memory.backend workflow
    refine .finished active rfl saved (named ▸ saves.stored) (loaded.workflowId.trans named)
      (loaded.produced delivered.produced) (loaded.completedTasks.trans delivered.completed)
      (loaded.tasks.trans tasks) ?_ rfl
    exact (MemoryStore.load_executionState _ _).trans state
  · exact .silent (saves.others _ (named.symm ▸ whose)) rfl

end Runs

section Creation

variable {goal : Goal}

/-- How a creation leaves the memory store. -/
structure Records (server : Server) (goal : Goal) (record : WorkflowState) (middle : Server) :
    Prop where
  recorded : middle.record goal.creation.workflowId = some record
  owned : record.workflowId = goal.creation.workflowId
  produced : Produced record
  others : ∀ other, other ≠ goal.creation.workflowId → middle.record other = server.record other
  db : middle.db = server.db

/-- What `create` can do. -/
inductive Creates (server : Server) (goal : Goal) : Served → Prop
  | failed (failure : Exn) {record : WorkflowState} {middle : Server}
      (records : Records server goal record middle) :
      Creates server goal (.error failure, middle)
  | made {workflow record : WorkflowState} {middle : Server}
      (records : Records server goal record middle) (work : SameWork workflow record)
      (state : record.executionState = workflow.executionState) :
      Creates server goal (.ok workflow, middle)

theorem create_cases : Creates server goal (server.create goal) := by
  have queued : ∀ executions, Records server goal (queuedWorkflow goal.creation goal.payload)
      { server with
        memory := server.memory.saveWorkflow (queuedWorkflow goal.creation goal.payload)
        executions } := fun executions =>
    ⟨saves_queuedWorkflow server.memory goal.creation goal.payload, rfl, .queued _ _,
      (saves_saveWorkflow server.memory (queuedWorkflow goal.creation goal.payload)).others, rfl⟩
  rw [Server.create]
  split
  · rw [createWorkflowSync]
    rcases executeWorkflowSync_cases goal.services server.memory goal.creation goal.payload
      goal.workerId goal.claimedAt goal.payload with
      ⟨failure, next, -, failed, running, others⟩ | ⟨reached, next, ran, succeeded, saves⟩
    · rw [failed]
      exact .failed _ ⟨running, rfl, (Produced.queued _ _).running goal.claimedAt, others, rfl⟩
    · rw [succeeded]
      have delivered := delivered_executedWorkflow ran
      generalize executedWorkflow goal.services.clock
        (updateMemoryResult goal.services.clock reached) = workflow at delivered saves
      have named : workflow.workflowId = goal.creation.workflowId := delivered.workflowId
      have loaded := sameWork_load server.memory.backend workflow
      exact .made
        ⟨named ▸ saves.stored, loaded.workflowId.trans named,
          loaded.produced delivered.produced,
          fun other different => saves.others other (named.symm ▸ different), rfl⟩
        loaded (MemoryStore.load_executionState _ _)
  · split
    · rw [createWorkflow]
      cases queueMessage goal.creation.workflowId goal.payload with
      | error failure => exact .failed failure (queued _)
      | ok message => exact .made (queued _) ⟨rfl, rfl, rfl, rfl, rfl, rfl, rfl⟩ rfl
    · exact .made (queued _) ⟨rfl, rfl, rfl, rfl, rfl, rfl, rfl⟩ rfl

/-- The answer to a repeated request is a stored state. -/
theorem stored_of_existing (sound : Sound server) {workflow : WorkflowState}
    (found : server.existing goal = .ok (some workflow)) :
    server.stored workflow.workflowId = some workflow := by
  unfold Server.existing at found
  split at found
  · cases found
  · unfold Database.getByIdempotencyKey at found
    split at found
    · cases found
    · obtain ⟨state, get, same⟩ := ok_of_map found
      cases same
      have stored := Database.get_eq_ok.mp get
      have named := sound.stored_workflowId stored
      exact named ▸ stored

theorem keyed_cases (goal : Goal) (middle : Server) (workflowId : String) :
    ∃ idempotencyKeys, middle.keyed goal workflowId =
      { middle with db := { middle.db with idempotencyKeys } } := by
  unfold Server.keyed
  split
  · exact ⟨_, rfl⟩
  · exact ⟨_, rfl⟩

/-- What a creation does. -/
theorem effect_createGoal (sound : Sound server)
    (unrecorded : server.record goal.creation.workflowId = none)
    (unstored : server.stored goal.creation.workflowId = none)
    (fresh : server.db.events.find? goal.tokens.eventId = none) (workflowId : String) :
    Effect workflowId server (.createGoal goal) (some (server.createGoal goal).1)
      (server.createGoal goal).2 := by
  rw [Server.createGoal]
  cases existing : server.existing goal with
  | error failure => exact .refused rfl rfl
  | ok found =>
      cases found with
      | some workflow =>
          refine .kept rfl rfl fun returned answer => ⟨id, fun named => ?_⟩
          cases answer
          exact named ▸ stored_of_existing sound existing
      | none =>
          dsimp only
          have creates : Creates server goal (server.create goal) := create_cases
          generalize server.create goal = served at creates
          cases creates with
          | @failed failure record middle records =>
              have stored : middle.stored workflowId = server.stored workflowId :=
                congrArg (fun db => Database.stored db workflowId) records.db
              by_cases whose : workflowId = goal.creation.workflowId
              · subst whose
                refine .created rfl unrecorded unstored records.recorded records.owned
                  records.produced ?_
                rw [stored, unstored]
                exact .recorded fun returned answer => by cases answer
              · exact .refused (records.others _ whose) stored
          | @made workflow record middle records work state =>
              have named : workflow.workflowId = goal.creation.workflowId :=
                work.workflowId.symm.trans records.owned
              have produced : Produced workflow := work.symm.produced records.produced
              have freshMiddle : middle.db.events.find? goal.tokens.eventId = none :=
                records.db ▸ fresh
              obtain ⟨db, success, written⟩ := Database.exists_written produced.valid freshMiddle
              dsimp only
              rw [success]
              obtain ⟨idempotencyKeys, keyed⟩ :=
                keyed_cases goal { middle with db } (identified goal.tokens workflow).workflowId
              dsimp only
              rw [keyed]
              by_cases whose : workflowId = goal.creation.workflowId
              · subst whose
                have stored : db.stored goal.creation.workflowId =
                    some (recomputed workflow).jsonCopy := named ▸ written.stored_self
                refine .created rfl unrecorded unstored records.recorded records.owned
                  records.produced ?_
                change Created _ goal record (db.stored goal.creation.workflowId) _
                rw [stored]
                exact .stored work.tasks.symm state.symm produced
              · have stored : middle.db.stored workflowId = server.stored workflowId :=
                  congrArg (fun db => Database.stored db workflowId) records.db
                refine .kept (records.others _ whose)
                  ((written.stored_of_ne (named.symm ▸ whose)).trans stored)
                  fun returned answer => ⟨id, fun other => ?_⟩
                cases answer
                exact absurd (other.symm.trans named) whose

end Creation

end Routes

section Handling

variable {server target : Server} {command : Command}
  {response : Option (Except Exn WorkflowState)}

/-- A drawn event id is not in use. -/
theorem fresh_of_unused {tokens : Tokens} (unused : server.unused command = true)
    (drawn : tokens ∈ command.draws) : server.db.events.find? tokens.eventId = none := by
  have both : Server.unused.drawn server command.draws = true := by
    cases command <;> simp only [Server.unused, Bool.and_eq_true] at unused <;>
      first | exact unused | exact unused.2
  simp only [Server.unused.drawn, Bool.and_eq_true, List.all_eq_true] at both
  exact Option.isNone_iff_eq_none.mp (both.2 tokens drawn).1

/-- What a handled command is. -/
theorem handle_cases (handled : server.handle command = some (response, target)) :
    server.unused command = true ∧
      ((command.routed = false ∧ target = server ∧
        response = some (.error (.httpException 404 "Not Found"))) ∨
        command.routed = true ∧ server.serve command = some (response, target)) := by
  unfold Server.handle at handled
  split at handled
  · cases handled
  · rename_i unused
    refine ⟨Bool.not_eq_false _ ▸ unused, ?_⟩
    split at handled
    · rename_i unrouted
      cases handled
      exact .inl ⟨unrouted, rfl, rfl⟩
    · rename_i routed
      exact .inr ⟨Bool.not_eq_false _ ▸ routed, handled⟩

/-- A handled `get_workflow` is a read. -/
theorem read_of_handle (sound : Sound server) {owner : String} {tokens : Tokens}
    (handled : server.handle (.getWorkflow owner tokens) = some (response, target)) :
    ∃ answer, response = some answer ∧ Read server tokens owner (answer, target) := by
  obtain ⟨unused, ⟨unrouted, -⟩ | ⟨-, served⟩⟩ := handle_cases handled
  · cases unrouted
  · have fresh := fresh_of_unused unused (List.mem_singleton.mpr rfl)
    have both := Option.some.inj served
    refine ⟨_, (congrArg Prod.fst both).symm, ?_⟩
    obtain rfl := congrArg Prod.snd both
    exact read_cases sound fresh owner

/-- A step of an execution is a step of an active one. -/
theorem step_cases {index : Nat} {next : Execution → Option Server}
    (stepped : server.step index next = some (response, target)) :
    response = none ∧ ∃ execution, server.executions[index]? = some execution ∧
      next execution = some target := by
  obtain ⟨found, present, same⟩ := Option.map_eq_some_iff.mp stepped
  cases same
  obtain ⟨execution, active, moved⟩ := Option.bind_eq_some_iff.mp present
  exact ⟨rfl, execution, active, moved⟩

/-- **Every handled command has one of the effects.** -/
theorem effect_handle (sound : Sound server)
    (handled : server.handle command = some (response, target)) (workflowId : String) :
    Effect workflowId server command response target := by
  obtain ⟨unused, ⟨-, rfl, rfl⟩ | ⟨-, served⟩⟩ := handle_cases handled
  · exact .refused rfl rfl
  · cases command with
    | createGoal goal =>
        have fresh := fresh_of_unused unused (List.mem_singleton.mpr rfl)
        simp only [Server.unused, Bool.and_eq_true] at unused
        cases served
        apply effect_createGoal sound _ _ fresh
        · exact Option.isNone_iff_eq_none.mp unused.1.1.2
        · exact congrArg _ (Option.isNone_iff_eq_none.mp unused.1.2)
    | continueGoal owner completedTaskIds services =>
        cases served
        exact effect_continue sound completedTaskIds workflowId
    | getWorkflow owner tokens =>
        have fresh := fresh_of_unused unused (List.mem_singleton.mpr rfl)
        cases served
        exact (read_cases sound fresh owner).effect sound workflowId
    | refresh owner services ensureTokens saveTokens =>
        have first := fresh_of_unused unused (.head _)
        have second := fresh_of_unused unused (.tail _ (.head _))
        simp only [Server.unused, Server.unused.drawn, Command.draws, Bool.and_eq_true,
          decide_eq_true_eq, List.map_cons, List.map_nil, List.nodup_cons,
          List.mem_singleton] at unused
        cases served
        exact effect_refresh sound first second (Ne.symm unused.1.1) workflowId
    | submit owner submission readTokens writeTokens =>
        have fresh := fresh_of_unused unused (.head _)
        cases served
        exact effect_submit sound fresh workflowId
    | ingest owner filename =>
        cases served
        exact effect_ingest sound filename workflowId
    | deliver owner workerId =>
        cases served
        exact effect_deliver workflowId workerId
    | claim index claimedAt =>
        obtain ⟨rfl, execution, active, moved⟩ := step_cases served
        split at moved
        · cases moved
          exact effect_claim sound active claimedAt workflowId
        · cases moved
    | execute index services =>
        obtain ⟨rfl, execution, active, moved⟩ := step_cases served
        split at moved
        · cases moved
          exact effect_execute sound active workflowId
        · cases moved
    | finish index =>
        obtain ⟨rfl, execution, active, moved⟩ := step_cases served
        split at moved
        · rename_i clock result saved
          cases moved
          exact effect_finish sound active saved workflowId
        · cases moved

end Handling

end ActionPlan.Api
