import ActionPlan.Foundation.Sorting
import ActionPlan.Models.Timestamps
import ActionPlan.Workspace.Atomicity

/-! # The event log

`events` of `workspace.py` orders the rows by the texts of their timestamps. In every run of
writing calls, of which some raise and are rolled back, it returns the events of the calls that
returned, the last one first, because these texts are ordered as the readings of the clock are.
-/

namespace ActionPlan.Workspace

open ActionPlan.Foundation ActionPlan.Models

/-- `WorkflowEvent`. -/
structure WorkflowEvent where
  eventId : String
  workflowId : String
  eventType : String
  occurredAt : DateTime
  entityId : Option String := none
  details : Value := .dict []
  actor : String := "user"
  version : Option Int := none

/-- The event that a row of the log is read as. -/
def EventRow.load (row : EventRow) : WorkflowEvent where
  eventId := row.eventId
  workflowId := row.workflowId
  eventType := row.eventType
  occurredAt := row.occurredAt
  entityId := row.entityId
  details := row.detailsJson.document
  actor := row.actor
  version := row.version

/-- `SELECT * FROM workflow_events WHERE workflow_id=? ORDER BY occurred_at DESC`, on the texts
that the column holds. -/
def Database.selectEvents (db : Database) (workflowId : String) : List EventRow :=
  sortDescending (fun row => row.occurredAt.isoformat)
    (db.events.selectWhere fun row => row.workflowId = workflowId)

/-- `events`. -/
def Database.listEvents (db : Database) (workflowId : String) : List WorkflowEvent :=
  (db.selectEvents workflowId).map EventRow.load

namespace Call

/-- The type, entity, details and actor that a call gives its event. -/
def event : Call → Event
  | ensure _ _ => { eventType := "workflow_synced", actor := "system" }
  | save _ _ _ event => event
  | revise _ _ _ tasks reason => Database.revisionEvent tasks reason

/-- The event that a call is to leave in the log. -/
def logged (call : Call) : WorkflowEvent where
  eventId := call.tokens.eventId
  workflowId := call.workflow.workflowId
  eventType := call.event.eventType
  occurredAt := call.tokens.occurredAt
  entityId := call.event.entityId
  details := call.event.details
  actor := call.event.actor
  version := some call.draft.version

/-- What a successful write appends to the log, as it is read. -/
theorem load_of_write {tokens : Tokens} {workflow returned : WorkflowState} {event : Event}
    {db after : Database} (success : db.write tokens workflow event = .ok (returned, after)) :
    after.events.rows.map EventRow.load = db.events.rows.map EventRow.load ++
      [{ eventId := tokens.eventId
         workflowId := workflow.workflowId
         eventType := event.eventType
         occurredAt := tokens.occurredAt
         entityId := event.entityId
         details := event.details
         actor := event.actor
         version := some workflow.version }] := by
  obtain ⟨detailsJson, document, appended⟩ := eventRow_of_write success
  rw [appended, List.map_append, List.map_singleton, EventRow.load, document]

/-- A successful call appends its event. -/
theorem load_of_run {call : Call} {db after : Database} {returned : WorkflowState}
    (success : call.run db = .ok (returned, after)) :
    after.events.rows.map EventRow.load = db.events.rows.map EventRow.load ++ [call.logged] := by
  cases call with
  | ensure => exact load_of_write success
  | save =>
    obtain ⟨_, -, committed⟩ := ok_of_bind success
    exact load_of_write committed
  | revise =>
    obtain ⟨_, -, rest⟩ := ok_of_bind success
    obtain ⟨_, -, rest⟩ := ok_of_bind rest
    obtain ⟨planRevisions, -, committed⟩ := ok_of_bind rest
    exact load_of_write committed

end Call

/-- The database, and the calls that have returned. -/
structure Audit where
  db : Database := {}
  calls : List Call := []

namespace Audit

/-- A call, with the faults that strike its statements. -/
structure Attempt where
  faults : Faults Exn
  call : Call

/-- Calls one after the other. -/
def system : TransitionSystem Audit Attempt where
  step audit attempt :=
    match transactCall attempt.faults attempt.call audit.db with
    | (.ok _, db) => some { db, calls := audit.calls ++ [attempt.call] }
    | (.error _, db) => some { audit with db }

/-- The clock reads a later time than it did in the calls that have returned. -/
structure Clocked (audit : Audit) (attempt : Attempt) : Prop where
  valid : attempt.call.tokens.occurredAt.Valid
  later : ∀ call ∈ audit.calls,
    call.tokens.occurredAt.instant < attempt.call.tokens.occurredAt.instant

/-- What holds between the calls: the log holds their events in the order of the clock. -/
structure Complete (audit : Audit) : Prop where
  events : audit.db.events.rows.map EventRow.load = audit.calls.map Call.logged
  valid : ∀ call ∈ audit.calls, call.tokens.occurredAt.Valid
  ascending : audit.calls.Pairwise fun earlier later =>
    earlier.tokens.occurredAt.instant < later.tokens.occurredAt.instant

theorem complete_initial : Complete {} where
  events := rfl
  valid := by
    intro call absent
    cases absent
  ascending := .nil

theorem Complete.step {source target : Audit} {attempt : Attempt} (complete : Complete source)
    (clocked : Clocked source attempt) (stepped : system.step source attempt = some target) :
    Complete target := by
  simp only [system] at stepped
  cases outcome : transactCall attempt.faults attempt.call source.db with
  | mk answer db =>
  rw [outcome] at stepped
  cases answer with
  | error failure =>
    cases stepped
    obtain rfl := unchanged_of_transactCall outcome
    exact complete
  | ok returned =>
    cases stepped
    refine ⟨?_, ?_, ?_⟩
    · change db.events.rows.map EventRow.load = _
      rw [Call.load_of_run (run_of_transactCall outcome), complete.events, List.map_append,
        List.map_singleton]
    · intro call member
      rcases List.mem_append.mp member with earlier | last
      · exact complete.valid call earlier
      · rw [List.mem_singleton.mp last]
        exact clocked.valid
    · refine List.pairwise_append.mpr ⟨complete.ascending, List.pairwise_singleton _ _, ?_⟩
      intro call member last same
      rw [List.mem_singleton.mp same]
      exact clocked.later call member

/-- The rows of a complete log are in the order of their texts. -/
theorem Complete.rows_ascending {audit : Audit} (complete : Complete audit) :
    audit.db.events.rows.Pairwise fun first second =>
      first.occurredAt.isoformat < second.occurredAt.isoformat := by
  have texts : (audit.calls.map Call.logged).Pairwise fun first second =>
      first.occurredAt.isoformat < second.occurredAt.isoformat := by
    rw [List.pairwise_map]
    refine complete.ascending.imp_of_mem ?_
    intro earlier later member member' order
    exact (DateTime.isoformat_lt_iff (complete.valid earlier member)
      (complete.valid later member')).mpr order
  rw [← complete.events, List.pairwise_map] at texts
  exact texts

/-- The events of a complete log, the last one first. -/
theorem Complete.listEvents {audit : Audit} (complete : Complete audit) (workflowId : String) :
    audit.db.listEvents workflowId =
      ((audit.calls.filter fun call => call.workflow.workflowId = workflowId).map
        Call.logged).reverse := by
  have ascending := complete.rows_ascending.sublist
    (List.filter_sublist (p := fun row => row.workflowId = workflowId))
  have selected := congrArg
    (List.filter fun event : WorkflowEvent => event.workflowId = workflowId) complete.events
  rw [List.filter_map, List.filter_map] at selected
  rw [Database.listEvents, Database.selectEvents, Table.selectWhere,
    sortDescending_of_pairwise ascending, List.map_reverse]
  exact congrArg List.reverse selected

end Audit

/-- **The log tells what the calls did.** The texts of timestamps are ordered as the points in
time are; and after any run of writing calls, whatever faults strike them, each at a later time
than those before it that returned, `events` returns for a workflow one event for each of its
calls that returned, as the call describes it, the last one first, and no others. -/
theorem events_report_calls :
    (∀ first second : DateTime, first.Valid → second.Valid →
      (first.isoformat < second.isoformat ↔ first.instant < second.instant)) ∧
    ∀ audit, Audit.system.Run Audit.Clocked {} audit → ∀ workflowId,
      audit.db.listEvents workflowId =
        ((audit.calls.filter fun call => call.workflow.workflowId = workflowId).map
          Call.logged).reverse := by
  refine ⟨fun first second valid valid' => DateTime.isoformat_lt_iff valid valid', ?_⟩
  intro audit run workflowId
  have complete := TransitionSystem.Run.invariant Audit.Complete
    (fun _ _ _ complete clocked stepped => complete.step clocked stepped) Audit.complete_initial run
  exact complete.listEvents workflowId

section Samples

/-- A synchronization in the first second of the year. -/
def synchronizedAt (eventId : { text : String // text ≠ "" }) (microsecond : Nat) : Call :=
  .ensure { Ledger.tokensOf eventId with occurredAt := { DateTime.newYear with microsecond } }
    (Ledger.recommending "rec")

/-- Without faults, a synchronization with a new event id returns. -/
theorem exists_synchronized (audit : Audit) (eventId : { text : String // text ≠ "" })
    (microsecond : Nat) (fresh : audit.db.events.find? eventId.val = none) :
    ∃ db, Audit.system.step audit
        { faults := fun _ => none, call := synchronizedAt eventId microsecond } =
      some { db, calls := audit.calls ++ [synchronizedAt eventId microsecond] } ∧
      ∀ other, other ≠ eventId.val → audit.db.events.find? other = none →
        db.events.find? other = none := by
  have valid : TaskPlan.validateTasks (Ledger.recommending "rec").tasks = .ok () := rfl
  have unused : audit.db.events.find?
      (synchronizedAt eventId microsecond).tokens.eventId = none := fresh
  obtain ⟨db, success, written⟩ := Database.exists_written valid unused
  refine ⟨db, ?_, fun other different unused => written.event_unused different unused⟩
  have outcome : (synchronizedAt eventId microsecond).run audit.db = _ := success
  simp only [Audit.system, transactCall_faultless (fun _ => rfl), outcome, settle]

theorem synchronizedAt_valid {eventId : { text : String // text ≠ "" }} {microsecond : Nat}
    (fits : microsecond < 1000000) :
    (synchronizedAt eventId microsecond).tokens.occurredAt.Valid :=
  { DateTime.newYear_valid with microsecond := fits }

theorem synchronized_twice_logged : ∃ audit : Audit,
    audit.calls = [synchronizedAt ⟨"first", by decide⟩ 0,
      synchronizedAt ⟨"second", by decide⟩ 500000] ∧
    audit.db.listEvents "wf" = [(synchronizedAt ⟨"second", by decide⟩ 500000).logged,
      (synchronizedAt ⟨"first", by decide⟩ 0).logged] := by
  obtain ⟨middle, first, unused⟩ := exists_synchronized {} ⟨"first", by decide⟩ 0 rfl
  obtain ⟨last, second, -⟩ := exists_synchronized
    { db := middle, calls := [synchronizedAt ⟨"first", by decide⟩ 0] } ⟨"second", by decide⟩ 500000
    (unused "second" (by decide) rfl)
  refine ⟨_, rfl, events_report_calls.2 _ (.tail (.single ⟨_, ⟨?_, ?_⟩, first⟩)
    ⟨_, ⟨?_, ?_⟩, second⟩) "wf"⟩
  · exact synchronizedAt_valid (by decide)
  · intro call absent
    cases absent
  · exact synchronizedAt_valid (by decide)
  · intro call member
    rw [List.mem_singleton.mp member]
    decide

end Samples

end ActionPlan.Workspace
