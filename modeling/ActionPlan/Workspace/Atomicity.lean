import ActionPlan.Foundation.Transaction
import ActionPlan.Workspace.Ledger

/-! # Atomicity of the writing calls

The statements of `ensure`, `save` and `revise` on one connection, each of which may
fail. `_connection` commits them together or not at all, so a call that raises leaves
every table as it was, and a call that returns has logged one event.
-/

namespace ActionPlan.Workspace

open ActionPlan.Foundation ActionPlan.Models

section Statements

variable (faults : Faults Exn)

/-- `db.execute` of a statement that returns no rows. -/
def execute (effect : Database → Except Exn Database) : Script Database Exn PUnit :=
  Script.step faults fun db => (effect db).map fun next => (⟨⟩, next)

/-- The end of `_write`. -/
def recommendationStatements (tokens : Tokens) (workflow : WorkflowState) :
    Script Database Exn WorkflowState :=
  match workflow.recommendation with
  | none => return workflow
  | some recommendation => do
    let identified := identify tokens workflow.workflowId recommendation
    execute faults fun db => .ok
      { db with
        recommendations := db.recommendations.insertOrReplace
          (recommendationRow workflow identified) }
    return { workflow with recommendation := some identified }

/-- `_write` up to the event, with the encodings between the statements. -/
def stateStatements (tokens : Tokens) (workflow : WorkflowState) (event : Event) :
    Script Database Exn PUnit := do
  let row ← Script.compute faults (.ok (workflowRow workflow))
  execute faults fun db => .ok { db with workflows := db.upsertWorkflow row }
  execute faults fun db => .ok
    { db with tasks := db.tasks.deleteWhere fun row => row.workflowId = workflow.workflowId }
  Script.forEach (taskRows workflow) fun row =>
    execute faults fun db =>
      (orIntegrityError (db.tasks.insert row)).map fun tasks => { db with tasks }
  let detailsJson ← Script.compute faults (jsonDumps event.details)
  execute faults fun db =>
    (orIntegrityError (db.events.insert
      { eventId := tokens.eventId
        workflowId := workflow.workflowId
        eventType := event.eventType
        occurredAt := tokens.occurredAt
        entityId := event.entityId
        detailsJson
        actor := event.actor
        version := some workflow.version })).map fun events => { db with events }

/-- `_write`. -/
def writeStatements (tokens : Tokens) (workflow : WorkflowState) (event : Event) :
    Script Database Exn WorkflowState := do
  let tasks ← Script.compute faults (recomputeReadiness workflow.tasks)
  stateStatements faults tokens { workflow with tasks } event
  recommendationStatements faults tokens { workflow with tasks }

/-- `SELECT version` and the checks of its result. -/
def checkStatements (workflowId : String) (expectedVersion : Int) : Script Database Exn PUnit :=
  Script.step faults fun db =>
    (db.checkVersion workflowId expectedVersion).map fun _ => (⟨⟩, db)

/-- The body of the `with` block of each call. -/
def statements : Call → Script Database Exn WorkflowState
  | .ensure tokens workflow =>
    writeStatements faults tokens workflow { eventType := "workflow_synced", actor := "system" }
  | .save tokens workflow expectedVersion event => do
    checkStatements faults workflow.workflowId expectedVersion
    writeStatements faults tokens (Database.advance tokens workflow expectedVersion) event
  | .revise tokens workflow expectedVersion tasks reason => do
    checkStatements faults workflow.workflowId expectedVersion
    execute faults fun db =>
      (orIntegrityError (db.planRevisions.insert
        { revisionId := tokens.revisionId
          workflowId := workflow.workflowId
          version := expectedVersion
          tasksJson := workflow.tasks
          reason
          createdAt := tokens.revisedAt })).map fun planRevisions => { db with planRevisions }
    writeStatements faults tokens
      (Database.advance tokens (Database.revised workflow tasks) expectedVersion)
      (Database.revisionEvent tasks reason)

/-- What a call checks before it opens its connection. -/
def precondition : Call → Except Exn Unit
  | .ensure _ _ | .save _ _ _ _ => .ok ()
  | .revise _ _ _ tasks _ => TaskPlan.validateTasks tasks

/-- A call on a connection of its own: its answer, and the database that it leaves. -/
def transactCall (call : Call) (db : Database) : Except Exn WorkflowState × Database :=
  match precondition call with
  | .error failure => (.error failure, db)
  | .ok _ => transact faults (statements faults call) db

end Statements

section Effects

variable {faults : Faults Exn}

theorem implements_execute (effect : Database → Except Exn Database) :
    Script.Implements faults (execute faults effect)
      fun db => (effect db).map fun next => (⟨⟩, next) :=
  Script.implements_step _

/-- Inserting the task rows one by one is inserting them all. -/
theorem foldlM_insert_tasks (rows : List TaskRow) (db : Database) :
    rows.foldlM (fun (db : Database) row =>
        (orIntegrityError (db.tasks.insert row)).map fun tasks => { db with tasks }) db =
      (orIntegrityError (db.tasks.insertMany rows)).map fun tasks => { db with tasks } := by
  induction rows generalizing db with
  | nil => rfl
  | cons row rows ih =>
      rw [List.foldlM_cons, Table.insertMany]
      cases db.tasks.insert row with
      | none => rfl
      | some tasks => exact ih { db with tasks }

theorem implements_recommendation (tokens : Tokens) (workflow : WorkflowState) :
    Script.Implements faults (recommendationStatements faults tokens workflow)
      fun db => .ok (db.writeRecommendation tokens workflow) := by
  cases present : workflow.recommendation with
  | none =>
      simp only [recommendationStatements, Database.writeRecommendation, present]
      exact Script.implements_pure _
  | some recommendation =>
      simp only [recommendationStatements, Database.writeRecommendation, present]
      exact ((implements_execute _).bind fun _ => Script.implements_pure _).congr fun _ => rfl

theorem implements_state (tokens : Tokens) (workflow : WorkflowState) (event : Event) :
    Script.Implements faults (stateStatements faults tokens workflow event)
      fun db => (db.writeState tokens workflow event).map fun next => (⟨⟩, next) := by
  refine Script.Implements.congr
    ((Script.implements_compute _).bind fun row => (implements_execute _).bind fun _ =>
      (implements_execute _).bind fun _ =>
      (Script.implements_forEach fun row => implements_execute _).bind fun _ =>
      (Script.implements_compute _).bind fun detailsJson => implements_execute _) fun db => ?_
  change Except.map _ (List.foldlM _ ({ db with
      workflows := db.upsertWorkflow (workflowRow workflow)
      tasks := db.tasks.deleteWhere fun row => row.workflowId = workflow.workflowId } : Database)
    (taskRows workflow)) >>= _ = _
  rw [foldlM_insert_tasks, Database.writeState]
  dsimp only
  cases (db.tasks.deleteWhere fun row => row.workflowId = workflow.workflowId).insertMany
      (taskRows workflow) with
  | none => rfl
  | some tasks =>
      cases jsonDumps event.details with
      | error failure => rfl
      | ok detailsJson =>
          change Except.map _ (Except.map _ (orIntegrityError (db.events.insert _))) =
            Except.map _ (orIntegrityError (db.events.insert _) >>= _)
          generalize db.events.insert _ = events
          cases events <;> rfl

/-- **The statements of `_write`** have the effect of a write. -/
theorem implements_write (tokens : Tokens) (workflow : WorkflowState) (event : Event) :
    Script.Implements faults (writeStatements faults tokens workflow event)
      fun db => db.write tokens workflow event := by
  refine Script.Implements.congr
    ((Script.implements_compute _).bind fun tasks =>
      (implements_state tokens { workflow with tasks } event).bind fun _ =>
      implements_recommendation tokens { workflow with tasks }) fun db => ?_
  rw [Database.write]
  cases recomputeReadiness workflow.tasks with
  | error failure => rfl
  | ok tasks =>
      change (Except.map _ (db.writeState tokens { workflow with tasks } event) >>= _) =
        (db.writeState tokens { workflow with tasks } event >>= _)
      cases db.writeState tokens { workflow with tasks } event <;> rfl

theorem implements_check (workflowId : String) (expectedVersion : Int) :
    Script.Implements faults (checkStatements faults workflowId expectedVersion)
      fun db => (db.checkVersion workflowId expectedVersion).map fun _ => (⟨⟩, db) :=
  Script.implements_step _

/-- The statements of a call have the effect of the call, once it has passed its check. -/
theorem implements_statements (call : Call) (checked : precondition call = .ok ()) :
    Script.Implements faults (statements faults call) fun db => call.run db := by
  cases call with
  | ensure tokens workflow => exact implements_write tokens workflow _
  | save tokens workflow expectedVersion event =>
      refine ((implements_check _ _).bind fun _ => implements_write _ _ _).congr fun db => ?_
      rw [Call.run, Database.save]
      cases db.checkVersion workflow.workflowId expectedVersion <;> rfl
  | revise tokens workflow expectedVersion tasks reason =>
      have valid : TaskPlan.validateTasks tasks = .ok () := checked
      refine ((implements_check _ _).bind fun _ => (implements_execute _).bind fun _ =>
        implements_write _ _ _).congr fun db => ?_
      rw [Call.run, Database.revise, valid]
      cases db.checkVersion workflow.workflowId expectedVersion with
      | error failure => rfl
      | ok _ =>
          change (Except.map _
              (Except.map _ (orIntegrityError (db.planRevisions.insert _))) >>= _) =
            (orIntegrityError (db.planRevisions.insert _) >>= _)
          generalize db.planRevisions.insert _ = planRevisions
          cases planRevisions <;> rfl

end Effects

section Transactions

variable {faults : Faults Exn} {call : Call} {db after : Database} {returned : WorkflowState}

/-- A call that returns has the effect of the call, whatever faults may have struck. -/
theorem run_of_transactCall (success : transactCall faults call db = (.ok returned, after)) :
    call.run db = .ok (returned, after) := by
  unfold transactCall at success
  split at success
  · cases success
  · rename_i checked
    exact transact_ok (implements_statements call checked) success

/-- A call that raises leaves the database as it was. -/
theorem unchanged_of_transactCall {failure : Exn}
    (raised : transactCall faults call db = (.error failure, after)) : after = db := by
  unfold transactCall at raised
  split at raised
  · cases raised
    rfl
  · rename_i checked
    exact transact_error (implements_statements call checked) raised

/-- Without faults a call is what the store computes. -/
theorem transactCall_faultless (silent : ∀ number, faults number = none) (call : Call)
    (db : Database) :
    transactCall faults call db = settle db (call.run db) := by
  cases checked : precondition call with
  | error failure =>
      cases call with
      | ensure | save => cases checked
      | revise tokens workflow expectedVersion tasks reason =>
          have invalid : TaskPlan.validateTasks tasks = .error failure := checked
          rw [transactCall, checked, Call.run, Database.revise, invalid]
          rfl
  | ok _ =>
      simp only [transactCall, checked]
      exact transact_faultless (implements_statements call checked) silent db

/-- What a successful write logs. -/
theorem eventRow_of_write {tokens : Tokens} {workflow : WorkflowState} {event : Event}
    (success : db.write tokens workflow event = .ok (returned, after)) :
    ∃ detailsJson : JsonText, detailsJson.document = event.details ∧
      after.events.rows = db.events.rows ++
        [{ eventId := tokens.eventId
           workflowId := workflow.workflowId
           eventType := event.eventType
           occurredAt := tokens.occurredAt
           entityId := event.entityId
           detailsJson
           actor := event.actor
           version := some workflow.version }] := by
  obtain ⟨tasks, ready, rest⟩ := ok_of_bind success
  obtain ⟨written, stored, done⟩ := ok_of_bind rest
  obtain ⟨taskTable, -, rest⟩ := ok_of_bind stored
  obtain ⟨detailsJson, encoded, rest⟩ := ok_of_bind rest
  obtain ⟨events, logged, saved⟩ := ok_of_bind rest
  cases saved
  have both := Except.ok.inj done
  rw [Database.writeRecommendation_eq] at both
  obtain ⟨-, rfl⟩ := Prod.mk.inj both
  exact ⟨detailsJson, document_of_jsonDumps encoded,
    Table.rows_insert (ok_of_orIntegrityError logged)⟩

theorem event_of_write {tokens : Tokens} {workflow : WorkflowState} {event : Event}
    (success : db.write tokens workflow event = .ok (returned, after)) :
    ∃ row, after.events.rows = db.events.rows ++ [row] ∧ row.workflowId = workflow.workflowId ∧
      row.version = some workflow.version := by
  obtain ⟨detailsJson, -, logged⟩ := eventRow_of_write success
  exact ⟨_, logged, rfl, rfl⟩

/-- A successful call logs the version that it commits. -/
theorem event_of_call (success : call.run db = .ok (returned, after)) :
    ∃ row, after.events.rows = db.events.rows ++ [row] ∧
      row.workflowId = call.draft.workflowId ∧ row.version = some call.draft.version := by
  cases call with
  | ensure => exact event_of_write success
  | save =>
      obtain ⟨_, -, committed⟩ := ok_of_bind success
      exact event_of_write committed
  | revise =>
      obtain ⟨_, -, rest⟩ := ok_of_bind success
      obtain ⟨_, -, rest⟩ := ok_of_bind rest
      obtain ⟨planRevisions, -, committed⟩ := ok_of_bind rest
      obtain ⟨row, logged, owner, version⟩ := event_of_write committed
      exact ⟨row, logged, owner, version⟩

/-- **A writing call is atomic.** Whatever faults strike, a call that raises leaves every
table as it was, and a call that returns has logged one event, with the version that it
has committed. -/
theorem call_atomic (faults : Faults Exn) (call : Call) (db : Database) :
    (∀ failure after, transactCall faults call db = (.error failure, after) → after = db) ∧
    ∀ returned after, transactCall faults call db = (.ok returned, after) →
      ∃ row, after.events.rows = db.events.rows ++ [row] ∧
        row.workflowId = returned.workflowId ∧ row.version = some returned.version ∧
        after.selectVersion returned.workflowId = some returned.version := by
  constructor
  · intro failure after raised
    exact unchanged_of_transactCall raised
  · intro returned after outcome
    have success := run_of_transactCall outcome
    have written := Call.run_ok success
    obtain ⟨row, logged, owner, version⟩ := event_of_call success
    rw [written.returned, identified_workflowId, identified_version]
    exact ⟨row, logged, owner, version, written.selectVersion_self⟩

end Transactions

end ActionPlan.Workspace
