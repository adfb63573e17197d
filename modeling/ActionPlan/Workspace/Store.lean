import ActionPlan.Foundation.Table
import ActionPlan.Workspace.Tasks

/-! # The workspace store

`WorkspaceStore` of `workspace.py` over its SQLite database. A call that raises
rolls its transaction back, so it returns no database. A JSON column is
represented by the value that loading it gives. The ids and the readings of the
clock that a call draws are its `Tokens`.
-/

namespace ActionPlan.Workspace

open ActionPlan.Foundation ActionPlan.Models

/-- A row of `workspace_workflows`. -/
structure WorkflowRow where
  workflowId : String
  stateJson : WorkflowState
  version : Int
  createdAt : DateTime
  updatedAt : DateTime

/-- A row of `workspace_tasks`. -/
structure TaskRow where
  workflowId : String
  taskId : String
  taskJson : Task
  deriving DecidableEq

/-- A row of `workflow_events`. -/
structure EventRow where
  eventId : String
  workflowId : String
  eventType : String
  occurredAt : DateTime
  entityId : Option String
  detailsJson : JsonText
  actor : String
  version : Option Int

/-- A row of `plan_revisions`. -/
structure PlanRevisionRow where
  revisionId : String
  workflowId : String
  version : Int
  tasksJson : List Task
  reason : Option String
  createdAt : DateTime

/-- A row of `recommendations`. -/
structure RecommendationRow where
  recommendationId : String
  workflowId : String
  recommendationJson : Recommendation
  version : Int
  createdAt : DateTime
  decidedAt : Option DateTime

/-- A row of `idempotency_keys`. -/
structure IdempotencyRow where
  idempotencyKey : String
  workflowId : String
  createdAt : DateTime

/-- The tables with their primary keys. -/
structure Database where
  workflows : Table WorkflowRow.workflowId := ∅
  tasks : Table (fun row : TaskRow => (row.workflowId, row.taskId)) := ∅
  events : Table EventRow.eventId := ∅
  planRevisions : Table PlanRevisionRow.revisionId := ∅
  recommendations : Table RecommendationRow.recommendationId := ∅
  idempotencyKeys : Table IdempotencyRow.idempotencyKey := ∅

/-- What one call draws from `uuid4` and from the clock. -/
structure Tokens where
  eventId : String
  recommendationId : { text : String // text ≠ "" }
  revisionId : String
  occurredAt : DateTime
  updatedAt : DateTime
  revisedAt : DateTime

/-- The description of a write in the event log. -/
structure Event where
  eventType : String
  entityId : Option String := none
  details : Value := .dict []
  actor : String := "user"

/-- The result of a statement that can violate a primary key. -/
def orIntegrityError {α : Type*} : Option α → Except Exn α
  | some result => .ok result
  | none => .error .integrityError

/-- The recommendation of a written workflow: an empty id is replaced. -/
def identify (tokens : Tokens) (workflowId : String) (recommendation : Recommendation) :
    Recommendation :=
  { recommendation with
    recommendationId :=
      if recommendation.recommendationId = "" then tokens.recommendationId.val
      else recommendation.recommendationId
    workflowId }

/-- The row that `ensure` and `save` write for a workflow. -/
def workflowRow (workflow : WorkflowState) : WorkflowRow where
  workflowId := workflow.workflowId
  stateJson := workflow.jsonCopy
  version := workflow.version
  createdAt := workflow.createdAt
  updatedAt := workflow.updatedAt

/-- The rows of the tasks of a workflow. -/
def taskRows (workflow : WorkflowState) : List TaskRow :=
  workflow.tasks.map fun task =>
    { workflowId := workflow.workflowId, taskId := task.id, taskJson := task }

/-- The row of the recommendation of a workflow. -/
def recommendationRow (workflow : WorkflowState) (recommendation : Recommendation) :
    RecommendationRow where
  recommendationId := recommendation.recommendationId
  workflowId := workflow.workflowId
  recommendationJson := recommendation
  version := workflow.version
  createdAt := recommendation.createdAt
  decidedAt := recommendation.decidedAt

namespace Database

variable (db : Database)

/-- The `INSERT .. ON CONFLICT(workflow_id) DO UPDATE` of `_write`. -/
def upsertWorkflow (row : WorkflowRow) : Table WorkflowRow.workflowId :=
  db.workflows.insertOnConflict row
    (fun other =>
      { other with stateJson := row.stateJson, version := row.version, updatedAt := row.updatedAt })
    fun _ => rfl

/-- The part of `_write` up to the event. -/
def writeState (tokens : Tokens) (workflow : WorkflowState) (event : Event) :
    Except Exn Database := do
  let tasks ← orIntegrityError ((db.tasks.deleteWhere fun row =>
    row.workflowId = workflow.workflowId).insertMany (taskRows workflow))
  let detailsJson ← jsonDumps event.details
  let events ← orIntegrityError (db.events.insert
    { eventId := tokens.eventId
      workflowId := workflow.workflowId
      eventType := event.eventType
      occurredAt := tokens.occurredAt
      entityId := event.entityId
      detailsJson
      actor := event.actor
      version := some workflow.version })
  return { db with workflows := db.upsertWorkflow (workflowRow workflow), tasks, events }

/-- The end of `_write`: the recommendation gets its id after the state has been
serialised. -/
def writeRecommendation (tokens : Tokens) (workflow : WorkflowState) : WorkflowState × Database :=
  match workflow.recommendation with
  | none => (workflow, db)
  | some recommendation =>
    let identified := identify tokens workflow.workflowId recommendation
    ({ workflow with recommendation := some identified },
      { db with
        recommendations := db.recommendations.insertOrReplace
          (recommendationRow workflow identified) })

/-- `_write`. -/
def write (tokens : Tokens) (workflow : WorkflowState) (event : Event) :
    Except Exn (WorkflowState × Database) := do
  let tasks ← recomputeReadiness workflow.tasks
  let workflow := { workflow with tasks }
  let written ← db.writeState tokens workflow event
  return written.writeRecommendation tokens workflow

/-- `ensure`. -/
def ensure (tokens : Tokens) (workflow : WorkflowState) : Except Exn (WorkflowState × Database) :=
  db.write tokens workflow { eventType := "workflow_synced", actor := "system" }

/-- `SELECT version`. -/
def selectVersion (workflowId : String) : Option Int :=
  (db.workflows.find? workflowId).map WorkflowRow.version

/-- The version check that `save` and `revise` share. -/
def checkVersion (workflowId : String) (expectedVersion : Int) : Except Exn Unit :=
  match db.selectVersion workflowId with
  | none => .error (.notFound ("Workflow " ++ workflowId ++ " not found."))
  | some current =>
    if current ≠ expectedVersion then
      .error (.conflict "This workflow changed. Reload it before making another update.")
    else .ok ()

/-- `get`. -/
def get (workflowId : String) : Except Exn WorkflowState :=
  match db.workflows.find? workflowId with
  | none => .error (.notFound ("Workflow " ++ workflowId ++ " not found."))
  | some row => .ok row.stateJson

/-- The state in the row of a workflow. -/
def stored (workflowId : String) : Option WorkflowState :=
  (db.workflows.find? workflowId).map WorkflowRow.stateJson

/-- The workflow as `save` and `save_in_transaction` write it. -/
def advance (tokens : Tokens) (workflow : WorkflowState) (expectedVersion : Int) : WorkflowState :=
  { workflow with version := expectedVersion + 1, updatedAt := tokens.updatedAt }

/-- The write transaction of `save`, and `save_in_transaction`. -/
def commitSave (tokens : Tokens) (workflow : WorkflowState) (expectedVersion : Int)
    (event : Event) : Except Exn (WorkflowState × Database) :=
  db.write tokens (advance tokens workflow expectedVersion) event

/-- `save`. -/
def save (tokens : Tokens) (workflow : WorkflowState) (expectedVersion : Int) (event : Event) :
    Except Exn (WorkflowState × Database) := do
  db.checkVersion workflow.workflowId expectedVersion
  db.commitSave tokens workflow expectedVersion event

/-- The workflow that `revise` writes. -/
def revised (workflow : WorkflowState) (tasks : List Task) : WorkflowState :=
  { workflow with tasks, planRevisionCount := workflow.planRevisionCount + 1 }

/-- `reason or ""`. -/
def reasonText (reason : Option String) : Value := .str (reason.getD "")

/-- The event of a plan revision. -/
def revisionEvent (tasks : List Task) (reason : Option String) : Event where
  eventType := "plan_revised"
  details := .dict [("reason", reasonText reason), ("task_count", .int tasks.length)]

/-- The write transaction of `revise`. -/
def commitRevise (tokens : Tokens) (workflow : WorkflowState) (expectedVersion : Int)
    (tasks : List Task) (reason : Option String) : Except Exn (WorkflowState × Database) := do
  let planRevisions ← orIntegrityError (db.planRevisions.insert
    { revisionId := tokens.revisionId
      workflowId := workflow.workflowId
      version := expectedVersion
      tasksJson := workflow.tasks
      reason
      createdAt := tokens.revisedAt })
  { db with planRevisions }.commitSave tokens (revised workflow tasks) expectedVersion
    (revisionEvent tasks reason)

/-- `revise`. -/
def revise (tokens : Tokens) (workflow : WorkflowState) (expectedVersion : Int)
    (tasks : List Task) (reason : Option String) : Except Exn (WorkflowState × Database) := do
  TaskPlan.validateTasks tasks
  db.checkVersion workflow.workflowId expectedVersion
  db.commitRevise tokens workflow expectedVersion tasks reason

/-- `get_by_idempotency_key`. -/
def getByIdempotencyKey (idempotencyKey : String) : Except Exn (Option WorkflowState) :=
  match db.idempotencyKeys.find? idempotencyKey with
  | none => .ok none
  | some row => (db.get row.workflowId).map some

/-- `set_idempotency_key`. -/
def setIdempotencyKey (idempotencyKey workflowId : String) (createdAt : DateTime) : Database :=
  { db with
    idempotencyKeys := db.idempotencyKeys.insertOrIgnore { idempotencyKey, workflowId, createdAt } }

end Database

/-- The workflow whose state `_write` serialises. -/
def recomputed (workflow : WorkflowState) : WorkflowState :=
  { workflow with tasks := workflow.tasks.map (recomputeTask workflow.tasks) }

/-- The workflow that a successful `_write` leaves to its caller. -/
def identified (tokens : Tokens) (workflow : WorkflowState) : WorkflowState :=
  { recomputed workflow with
    recommendation := workflow.recommendation.map (identify tokens workflow.workflowId) }

/-- Only the tasks are recomputed. -/
@[simp] theorem recomputed_workflowId (workflow : WorkflowState) :
    (recomputed workflow).workflowId = workflow.workflowId := rfl

@[simp] theorem recomputed_version (workflow : WorkflowState) :
    (recomputed workflow).version = workflow.version := rfl

@[simp] theorem recomputed_recommendation (workflow : WorkflowState) :
    (recomputed workflow).recommendation = workflow.recommendation := rfl

@[simp] theorem recomputed_executionState (workflow : WorkflowState) :
    (recomputed workflow).executionState = workflow.executionState := rfl

/-- Only the recommendation receives an id. -/
@[simp] theorem identified_workflowId (tokens : Tokens) (workflow : WorkflowState) :
    (identified tokens workflow).workflowId = workflow.workflowId := rfl

@[simp] theorem identified_version (tokens : Tokens) (workflow : WorkflowState) :
    (identified tokens workflow).version = workflow.version := rfl

@[simp] theorem identified_tasks (tokens : Tokens) (workflow : WorkflowState) :
    (identified tokens workflow).tasks = (recomputed workflow).tasks := rfl

@[simp] theorem identified_executionState (tokens : Tokens) (workflow : WorkflowState) :
    (identified tokens workflow).executionState = workflow.executionState := rfl

/-- A new version keeps the workflow's id. -/
@[simp] theorem advance_workflowId (tokens : Tokens) (workflow : WorkflowState) (expected : Int) :
    (Database.advance tokens workflow expected).workflowId = workflow.workflowId := rfl

@[simp] theorem advance_version (tokens : Tokens) (workflow : WorkflowState) (expected : Int) :
    (Database.advance tokens workflow expected).version = expected + 1 := rfl

@[simp] theorem revised_workflowId (workflow : WorkflowState) (tasks : List Task) :
    (Database.revised workflow tasks).workflowId = workflow.workflowId := rfl

/-- A recommendation that names itself and its workflow keeps its identity. -/
theorem identify_of_identified {tokens : Tokens} {workflowId : String}
    {recommendation : Recommendation} (named : recommendation.recommendationId ≠ "")
    (owned : recommendation.workflowId = workflowId) :
    identify tokens workflowId recommendation = recommendation := by
  subst owned
  rw [identify, if_neg named]

/-- The identity of a written recommendation is never empty. -/
theorem identify_nonempty (tokens : Tokens) (workflowId : String)
    (recommendation : Recommendation) :
    (identify tokens workflowId recommendation).recommendationId ≠ "" := by
  unfold identify
  dsimp only
  split
  · exact tokens.recommendationId.property
  · assumption

/-- A constraint that holds raises no error. -/
theorem ok_of_orIntegrityError {α : Type*} {result : Option α} {value : α}
    (success : orIntegrityError result = .ok value) : result = some value := by
  cases result with
  | none => cases success
  | some present => exact congrArg some (Except.ok.inj success)

namespace Database

/-- `get` answers the stored state. -/
theorem get_eq_ok {db : Database} {workflowId : String} {state : WorkflowState} :
    db.get workflowId = .ok state ↔ db.stored workflowId = some state := by
  rw [get, stored]
  cases db.workflows.find? workflowId with
  | none => simp
  | some row => simp

theorem get_of_stored_none {db : Database} {workflowId : String}
    (absent : db.stored workflowId = none) :
    db.get workflowId = .error (.notFound ("Workflow " ++ workflowId ++ " not found.")) := by
  rw [get, Option.map_eq_none_iff.mp absent]

/-- What a successful `_write` of a workflow does. -/
structure Written (db : Database) (tokens : Tokens) (workflow returned : WorkflowState)
    (next : Database) : Prop where
  valid : TaskPlan.validateTasks workflow.tasks = .ok ()
  returned : returned = identified tokens workflow
  workflows : next.workflows = db.upsertWorkflow (workflowRow (recomputed workflow))
  tasks : next.tasks.rows =
    (db.tasks.deleteWhere fun row => row.workflowId = workflow.workflowId).rows ++
      taskRows (recomputed workflow)
  recommendations : next.recommendations =
    ((identified tokens workflow).recommendation.map fun recommendation =>
      db.recommendations.insertOrReplace
        (recommendationRow workflow recommendation)).getD db.recommendations
  eventIds : next.events.rows.map EventRow.eventId =
    db.events.rows.map EventRow.eventId ++ [tokens.eventId]
  idempotencyKeys : next.idempotencyKeys = db.idempotencyKeys

variable {db next : Database} {tokens : Tokens} {workflow returned : WorkflowState} {event : Event}

/-- `_write_recommendation` as one update of the database. -/
theorem writeRecommendation_eq (db : Database) (tokens : Tokens) (workflow : WorkflowState) :
    db.writeRecommendation tokens workflow =
      let recommendation := workflow.recommendation.map (identify tokens workflow.workflowId)
      ({ workflow with recommendation },
        { db with
          recommendations := (recommendation.map fun recommendation =>
            db.recommendations.insertOrReplace
              (recommendationRow workflow recommendation)).getD db.recommendations }) := by
  unfold writeRecommendation
  split
  · rename_i absent
    cases workflow
    dsimp only at absent
    subst absent
    rfl
  · rename_i recommendation present
    simp only [present, Option.map_some, Option.getD_some]

/-- What the statements up to the event do. -/
theorem writeState_ok (success : db.writeState tokens workflow event = .ok next) :
    ∃ tasks events, tasks.rows = (db.tasks.deleteWhere fun row =>
        row.workflowId = workflow.workflowId).rows ++ taskRows workflow ∧
      events.rows.map EventRow.eventId = db.events.rows.map EventRow.eventId ++ [tokens.eventId] ∧
      next = { db with workflows := db.upsertWorkflow (workflowRow workflow), tasks, events } := by
  obtain ⟨tasks, inserted, rest⟩ := ok_of_bind success
  obtain ⟨detailsJson, -, rest⟩ := ok_of_bind rest
  obtain ⟨events, logged, done⟩ := ok_of_bind rest
  cases done
  refine ⟨tasks, events, Table.rows_insertMany (ok_of_orIntegrityError inserted), ?_, rfl⟩
  rw [Table.rows_insert (ok_of_orIntegrityError logged), List.map_append]
  rfl

/-- A write that succeeds has written the rows of its workflow. -/
theorem write_ok (success : db.write tokens workflow event = .ok (returned, next)) :
    Written db tokens workflow returned next := by
  obtain ⟨tasks, ready, rest⟩ := ok_of_bind success
  obtain ⟨valid, rfl⟩ := recomputeReadiness_ok ready
  obtain ⟨written, stored, done⟩ := ok_of_bind rest
  obtain ⟨taskTable, events, taskRows, eventIds, rfl⟩ := writeState_ok stored
  have both := Except.ok.inj done
  rw [writeRecommendation_eq] at both
  obtain ⟨rfl, rfl⟩ := Prod.mk.inj both
  exact ⟨valid, rfl, rfl, taskRows, rfl, eventIds, rfl⟩

/-- A write leaves the plan revisions alone. -/
theorem write_planRevisions (success : db.write tokens workflow event = .ok (returned, next)) :
    next.planRevisions = db.planRevisions := by
  obtain ⟨tasks, ready, rest⟩ := ok_of_bind success
  obtain ⟨written, stored, done⟩ := ok_of_bind rest
  obtain ⟨taskTable, events, -, -, rfl⟩ := writeState_ok stored
  have both := Except.ok.inj done
  rw [writeRecommendation_eq] at both
  obtain ⟨-, rfl⟩ := Prod.mk.inj both
  rfl

/-- The task rows of a valid workflow can replace those that are there. -/
theorem taskRows_insertable (db : Database)
    (valid : TaskPlan.validateTasks workflow.tasks = .ok ()) :
    ∃ tasks, (db.tasks.deleteWhere fun row => row.workflowId = workflow.workflowId).insertMany
      (taskRows (recomputed workflow)) = some tasks := by
  apply Table.insertMany_isSome
  · have ids := TaskPlan.nodup_of_validateTasks valid
    have keys : (taskRows (recomputed workflow)).map (fun row => (row.workflowId, row.taskId)) =
        (workflow.tasks.map Task.id).map (Prod.mk workflow.workflowId) := by
      simp only [taskRows, recomputed, List.map_map]
      apply List.map_congr_left
      intro task _
      simp
    rw [keys]
    exact ids.map (Prod.mk_right_injective _)
  · intro row member other old same
    obtain ⟨task, -, rfl⟩ := List.mem_map.mp member
    have different := ((db.tasks.mem_deleteWhere _ other).mp old).2
    have owner : other.workflowId = workflow.workflowId := congrArg Prod.fst same
    simp [owner] at different

/-- **A write of a valid workflow succeeds**, given a new event id. -/
theorem write_total (valid : TaskPlan.validateTasks workflow.tasks = .ok ())
    (fresh : db.events.find? tokens.eventId = none) (json : event.details.isJson = true) :
    ∃ result, db.write tokens workflow event = .ok result := by
  obtain ⟨tasks, inserted⟩ := taskRows_insertable db valid
  have encoded : jsonDumps event.details = .ok ⟨event.details, json⟩ := dif_pos json
  obtain ⟨events, logged⟩ := db.events.insert_isSome
    { eventId := tokens.eventId
      workflowId := workflow.workflowId
      eventType := event.eventType
      occurredAt := tokens.occurredAt
      entityId := event.entityId
      detailsJson := ⟨event.details, json⟩
      actor := event.actor
      version := some workflow.version } fresh
  have stored : ∃ written, db.writeState tokens (recomputed workflow) event = .ok written :=
    ⟨_, bind_of_ok (congrArg orIntegrityError inserted)
      (bind_of_ok encoded (bind_of_ok (congrArg orIntegrityError logged) rfl))⟩
  obtain ⟨written, stored⟩ := stored
  exact ⟨_, bind_of_ok (recomputeReadiness_of_valid valid) (bind_of_ok stored rfl)⟩

/-- Valid tasks and a new event id are all that `ensure` needs. -/
theorem ensure_total (valid : TaskPlan.validateTasks workflow.tasks = .ok ())
    (fresh : db.events.find? tokens.eventId = none) :
    ∃ result, db.ensure tokens workflow = .ok result :=
  write_total valid fresh rfl

/-- What `ensure` returns and writes. -/
theorem exists_written (valid : TaskPlan.validateTasks workflow.tasks = .ok ())
    (fresh : db.events.find? tokens.eventId = none) :
    ∃ next, db.ensure tokens workflow = .ok (identified tokens workflow, next) ∧
      Written db tokens workflow (identified tokens workflow) next := by
  obtain ⟨⟨returned, next⟩, success⟩ := ensure_total valid fresh
  have written := write_ok success
  obtain rfl := written.returned
  exact ⟨next, success, written⟩

namespace Written

variable (written : Written db tokens workflow returned next)

include written

/-- The workflow's row afterwards: the JSON form of the recomputed workflow. -/
theorem find_self : ∃ row, next.workflows.find? workflow.workflowId = some row ∧
    row.workflowId = workflow.workflowId ∧ row.version = workflow.version ∧
    row.stateJson = (recomputed workflow).jsonCopy := by
  rw [written.workflows]
  have found := db.workflows.find?_insertOnConflict_self (workflowRow (recomputed workflow))
    (fun other =>
      { other with
        stateJson := (workflowRow (recomputed workflow)).stateJson
        version := (workflowRow (recomputed workflow)).version
        updatedAt := (workflowRow (recomputed workflow)).updatedAt }) fun _ => rfl
  refine ⟨_, found, ?_, ?_, ?_⟩
  · exact ((Table.find?_eq_some _ _ _).mp found).2
  all_goals cases db.workflows.find? (workflowRow (recomputed workflow)).workflowId <;> rfl

/-- The rows of the other workflows stay. -/
theorem find_of_ne {other : String} (different : other ≠ workflow.workflowId) :
    next.workflows.find? other = db.workflows.find? other := by
  rw [written.workflows]
  exact Table.find?_insertOnConflict_of_ne _ _ _ _ different

/-- The state is stored as it was recomputed. -/
theorem stored_self :
    next.stored workflow.workflowId = some (recomputed workflow).jsonCopy := by
  obtain ⟨row, found, -, -, state⟩ := written.find_self
  rw [stored, found, Option.map_some, state]

/-- The other workflows keep their states. -/
theorem stored_of_ne {other : String} (different : other ≠ workflow.workflowId) :
    next.stored other = db.stored other := by
  rw [stored, written.find_of_ne different, stored]

theorem get_self : next.get workflow.workflowId = .ok (recomputed workflow).jsonCopy := by
  obtain ⟨row, found, -, -, state⟩ := written.find_self
  rw [Database.get, found, ← state]

/-- The version of the row is that of the state. -/
theorem selectVersion_self : next.selectVersion workflow.workflowId = some workflow.version := by
  obtain ⟨row, found, -, version, -⟩ := written.find_self
  rw [selectVersion, found, Option.map_some, version]

theorem get_of_ne {other : String} (different : other ≠ workflow.workflowId) :
    next.get other = db.get other := by
  rw [Database.get, written.find_of_ne different, Database.get]

/-- Only the drawn event id is taken. -/
theorem event_unused {eventId : String} (different : eventId ≠ tokens.eventId)
    (fresh : db.events.find? eventId = none) : next.events.find? eventId = none := by
  rw [Table.find?_eq_none] at fresh ⊢
  intro row member same
  have taken : row.eventId ∈ next.events.rows.map EventRow.eventId := List.mem_map_of_mem member
  rw [written.eventIds, List.mem_append, List.mem_singleton] at taken
  rcases taken with old | new
  · obtain ⟨other, otherMember, equal⟩ := List.mem_map.mp old
    exact fresh other otherMember (equal.trans same)
  · exact different (same.symm.trans new)

/-- The workflow's task rows afterwards are those of the written state. -/
theorem tasks_self :
    (next.tasks.selectWhere fun row => row.workflowId = workflow.workflowId) =
      taskRows (recomputed workflow) := by
  rw [Table.selectWhere, written.tasks, List.filter_append]
  have old : ((db.tasks.deleteWhere fun row => row.workflowId = workflow.workflowId).rows.filter
      fun row => row.workflowId = workflow.workflowId) = [] := by
    rw [List.filter_eq_nil_iff]
    intro row member
    simpa using ((db.tasks.mem_deleteWhere _ row).mp member).2
  have new : (taskRows (recomputed workflow)).filter
      (fun row => row.workflowId = workflow.workflowId) = taskRows (recomputed workflow) := by
    rw [List.filter_eq_self]
    intro row member
    obtain ⟨task, -, rfl⟩ := List.mem_map.mp member
    exact decide_eq_true rfl
  rw [old, new, List.nil_append]

/-- The task rows of the other workflows stay. -/
theorem tasks_of_ne {other : String} (different : other ≠ workflow.workflowId) :
    (next.tasks.selectWhere fun row => row.workflowId = other) =
      db.tasks.selectWhere fun row => row.workflowId = other := by
  rw [Table.selectWhere, written.tasks, List.filter_append]
  have new : (taskRows (recomputed workflow)).filter (fun row => row.workflowId = other) = [] := by
    rw [List.filter_eq_nil_iff]
    intro row member
    obtain ⟨task, -, rfl⟩ := List.mem_map.mp member
    exact fun same => different (of_decide_eq_true same).symm
  rw [new, List.append_nil, Table.deleteWhere, List.filter_filter]
  apply List.filter_congr
  intro row _
  by_cases same : row.workflowId = other
  · simp [same, different]
  · simp [same]

end Written

variable {expectedVersion : Int}

/-- The check passes on the version that is stored. -/
theorem checkVersion_ok {workflowId : String}
    (success : db.checkVersion workflowId expectedVersion = .ok ()) :
    db.selectVersion workflowId = some expectedVersion := by
  unfold checkVersion at success
  split at success
  · cases success
  · rename_i current selected
    split at success
    · cases success
    · rename_i same
      rw [selected, not_not.mp same]

theorem checkVersion_of_selected {workflowId : String}
    (selected : db.selectVersion workflowId = some expectedVersion) :
    db.checkVersion workflowId expectedVersion = .ok () := by
  rw [checkVersion, selected]
  exact if_neg (not_not.mpr rfl)

/-- A save of a valid workflow with the stored version succeeds. -/
theorem save_total (selected : db.selectVersion workflow.workflowId = some expectedVersion)
    (valid : TaskPlan.validateTasks workflow.tasks = .ok ())
    (fresh : db.events.find? tokens.eventId = none) (json : event.details.isJson = true) :
    ∃ result, db.save tokens workflow expectedVersion event = .ok result := by
  have advanced : TaskPlan.validateTasks (advance tokens workflow expectedVersion).tasks = .ok () :=
    valid
  obtain ⟨result, written⟩ := write_total advanced fresh json
  exact ⟨result, bind_of_ok (checkVersion_of_selected selected) written⟩

/-- A save that succeeds has found its version and written the next one. -/
theorem save_ok
    (success : db.save tokens workflow expectedVersion event = .ok (returned, next)) :
    db.selectVersion workflow.workflowId = some expectedVersion ∧
      Written db tokens (advance tokens workflow expectedVersion) returned next := by
  obtain ⟨_, checked, committed⟩ := ok_of_bind success
  exact ⟨checkVersion_ok checked, write_ok committed⟩

/-- A revision that commits has written the revised workflow. -/
theorem commitRevise_ok {tasks : List Task} {reason : Option String}
    (success : db.commitRevise tokens workflow expectedVersion tasks reason =
      .ok (returned, next)) :
    Written db tokens (advance tokens (revised workflow tasks) expectedVersion) returned next := by
  obtain ⟨planRevisions, -, committed⟩ := ok_of_bind success
  have written := write_ok committed
  exact ⟨written.valid, written.returned, written.workflows, written.tasks,
    written.recommendations, written.eventIds, written.idempotencyKeys⟩

/-- A revision to valid tasks is written, given new ids. -/
theorem commitRevise_total {tasks : List Task} (valid : TaskPlan.validateTasks tasks = .ok ())
    (unused : db.planRevisions.find? tokens.revisionId = none)
    (fresh : db.events.find? tokens.eventId = none) (expectedVersion : Int)
    (reason : Option String) :
    ∃ result, db.commitRevise tokens workflow expectedVersion tasks reason = .ok result := by
  obtain ⟨planRevisions, inserted⟩ := db.planRevisions.insert_isSome
    { revisionId := tokens.revisionId
      workflowId := workflow.workflowId
      version := expectedVersion
      tasksJson := workflow.tasks
      reason
      createdAt := tokens.revisedAt } unused
  have draft : TaskPlan.validateTasks
      (advance tokens (revised workflow tasks) expectedVersion).tasks = .ok () := valid
  have kept : ({ db with planRevisions } : Database).events.find? tokens.eventId = none := fresh
  obtain ⟨result, written⟩ := write_total draft kept
    (show (revisionEvent tasks reason).details.isJson = true from rfl)
  exact ⟨result, bind_of_ok (congrArg orIntegrityError inserted) written⟩

/-- A revision that succeeds has found its version and written the next one. -/
theorem revise_ok {tasks : List Task} {reason : Option String}
    (success : db.revise tokens workflow expectedVersion tasks reason = .ok (returned, next)) :
    db.selectVersion workflow.workflowId = some expectedVersion ∧
      Written db tokens (advance tokens (revised workflow tasks) expectedVersion)
        returned next := by
  obtain ⟨_, -, rest⟩ := ok_of_bind success
  obtain ⟨_, checked, committed⟩ := ok_of_bind rest
  exact ⟨checkVersion_ok checked, commitRevise_ok committed⟩

/-- A version that is not the stored one is refused. -/
theorem checkVersion_conflict {workflowId : String} {current : Int}
    (selected : db.selectVersion workflowId = some current)
    (different : current ≠ expectedVersion) :
    db.checkVersion workflowId expectedVersion =
      .error (.conflict "This workflow changed. Reload it before making another update.") := by
  rw [checkVersion, selected]
  exact if_pos different

end Database

end ActionPlan.Workspace
