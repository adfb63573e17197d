import ActionPlan.Foundation.TransitionSystem
import ActionPlan.Workspace.Store

/-! # What the tables say after any sequence of writes

A ledger is the database together with what the last successful call for each
workflow returned and the recommendation row that it wrote. `_write` serialises
the state before it names the recommendation, so the stored state and the
returned workflow agree only for workflows whose recommendation has its
identity already.
-/

namespace ActionPlan.Workspace

open ActionPlan.Foundation ActionPlan.Models

/-- The writing calls of the store. -/
inductive Call where
  | ensure (tokens : Tokens) (workflow : WorkflowState)
  | save (tokens : Tokens) (workflow : WorkflowState) (expectedVersion : Int) (event : Event)
  | revise (tokens : Tokens) (workflow : WorkflowState) (expectedVersion : Int)
      (tasks : List Task) (reason : Option String)

namespace Call

/-- The result of a call, with the database after it. -/
def run (db : Database) : Call → Except Exn (WorkflowState × Database)
  | ensure tokens workflow => db.ensure tokens workflow
  | save tokens workflow expectedVersion event => db.save tokens workflow expectedVersion event
  | revise tokens workflow expectedVersion tasks reason =>
    db.revise tokens workflow expectedVersion tasks reason

/-- The workflow that the caller passes. -/
def workflow : Call → WorkflowState
  | ensure _ workflow | save _ workflow _ _ | revise _ workflow _ _ _ => workflow

/-- What a call draws from the clock and the id generator. -/
def tokens : Call → Tokens
  | ensure tokens _ | save tokens _ _ _ | revise tokens _ _ _ _ => tokens

/-- The workflow that reaches `_write`. -/
def draft : Call → WorkflowState
  | ensure _ workflow => workflow
  | save tokens workflow expectedVersion _ => Database.advance tokens workflow expectedVersion
  | revise tokens workflow expectedVersion tasks _ =>
    Database.advance tokens (Database.revised workflow tasks) expectedVersion

@[simp] theorem draft_workflowId (call : Call) :
    call.draft.workflowId = call.workflow.workflowId := by
  cases call <;> rfl

@[simp] theorem draft_recommendation (call : Call) :
    call.draft.recommendation = call.workflow.recommendation := by
  cases call <;> rfl

theorem untypedJson_recomputed_draft (call : Call) :
    (recomputed call.draft).untypedJson = call.workflow.untypedJson := by
  cases call <;> rfl

/-- Every successful call is a write of its draft. -/
theorem run_ok {call : Call} {db next : Database} {returned : WorkflowState}
    (success : call.run db = .ok (returned, next)) :
    db.Written call.tokens call.draft returned next := by
  cases call with
  | ensure => exact Database.write_ok success
  | save => exact (Database.save_ok success).2
  | revise => exact (Database.revise_ok success).2

end Call

/-- The database and, for each workflow, the answer of the last successful call
and the recommendation row written with it. -/
structure Ledger where
  db : Database := {}
  returned : String → Option WorkflowState := fun _ => none
  recommendation : String → Option RecommendationRow := fun _ => none

namespace Ledger

/-- The ledger after a successful call. -/
def record (ledger : Ledger) (returned : WorkflowState) (next : Database) : Ledger where
  db := next
  returned := Function.update ledger.returned returned.workflowId (some returned)
  recommendation := Function.update ledger.recommendation returned.workflowId
    (returned.recommendation.bind fun recommendation =>
      next.recommendations.find? recommendation.recommendationId)

/-- Calls one after the other; a call that raises changes nothing. -/
def system : TransitionSystem Ledger Call where
  step ledger call :=
    match call.run ledger.db with
    | .error _ => some ledger
    | .ok (returned, next) => some (ledger.record returned next)

theorem system_step {source target : Ledger} {call : Call}
    (stepped : system.step source call = some target) :
    target = source ∨ ∃ returned next, call.run source.db = .ok (returned, next) ∧
      target = source.record returned next := by
  simp only [system] at stepped
  split at stepped
  · exact .inl (Option.some.inj stepped).symm
  · rename_i returned next success
    exact .inr ⟨returned, next, success, (Option.some.inj stepped).symm⟩

/-- The row of a workflow agrees with its task rows and with itself. -/
structure RowConsistent (db : Database) (row : WorkflowRow) : Prop where
  workflowId : row.stateJson.workflowId = row.workflowId
  version : row.version = row.stateJson.version
  tasks : (db.tasks.selectWhere fun task => task.workflowId = row.workflowId) =
    taskRows row.stateJson

/-- Every row of the database is consistent. -/
def RowsConsistent (db : Database) : Prop :=
  ∀ workflowId row, db.workflows.find? workflowId = some row → RowConsistent db row

/-- Only these two tables matter. -/
theorem RowsConsistent.congr {db next : Database} (consistent : RowsConsistent db)
    (workflows : next.workflows = db.workflows) (tasks : next.tasks = db.tasks) :
    RowsConsistent next := by
  intro workflowId row found
  have same := consistent workflowId row (workflows ▸ found)
  exact ⟨same.workflowId, same.version, tasks ▸ same.tasks⟩

/-- The selected version is that of the stored state. -/
theorem RowsConsistent.selectVersion {db : Database} (consistent : RowsConsistent db)
    (workflowId : String) :
    db.selectVersion workflowId = (db.stored workflowId).map WorkflowState.version := by
  rw [Database.selectVersion, Database.stored, Option.map_map]
  cases found : db.workflows.find? workflowId with
  | none => rfl
  | some row => exact congrArg some (consistent workflowId row found).version

/-- A write keeps the rows consistent, whatever it writes. -/
theorem rowsConsistent_written {db next : Database} {tokens : Tokens}
    {workflow returned : WorkflowState} (written : db.Written tokens workflow returned next)
    (consistent : RowsConsistent db) : RowsConsistent next := by
  intro workflowId row found
  by_cases same : workflowId = workflow.workflowId
  · subst same
    obtain ⟨stored, storedFound, id, version, state⟩ := written.find_self
    obtain rfl : stored = row := Option.some.inj (storedFound.symm.trans found)
    refine ⟨?_, ?_, ?_⟩
    · rw [state, id]
      rfl
    · rw [state, version]
      rfl
    · rw [id, written.tasks_self, state]
      rfl
  · rw [written.find_of_ne same] at found
    have old := consistent workflowId row found
    have id := ((Table.find?_eq_some _ _ _).mp found).2
    exact ⟨old.workflowId, old.version, by rw [id, written.tasks_of_ne same, ← id, old.tasks]⟩

/-- Every reachable database has consistent rows. -/
theorem rowsConsistent_run {guard : Ledger → Call → Prop} {ledger : Ledger}
    (run : system.Run guard {} ledger) : RowsConsistent ledger.db := by
  refine TransitionSystem.Run.invariant (fun ledger => RowsConsistent ledger.db) ?_ ?_ run
  · intro source call target consistent _ stepped
    obtain rfl | ⟨returned, next, success, rfl⟩ := system_step stepped
    · exact consistent
    · exact rowsConsistent_written (Call.run_ok success) consistent
  · intro workflowId row found
    cases found

/-- A workflow that serialises to what `_write` leaves to its caller: its
recommendation is named already, and its untyped data is JSON. -/
structure Settled (workflow : WorkflowState) : Prop where
  recommendation : ∀ recommendation ∈ workflow.recommendation,
    recommendation.recommendationId ≠ "" ∧ recommendation.workflowId = workflow.workflowId
  untyped : workflow.untypedJson = true

/-- The row of a workflow agrees with what the last successful call returned. -/
structure Answered (ledger : Ledger) (row : WorkflowRow) : Prop where
  recommendation : ∀ recommendation ∈ row.stateJson.recommendation,
    ∃ written, ledger.recommendation row.workflowId = some written ∧
      recommendation.recommendationId = written.recommendationId ∧
      recommendation.workflowId = written.workflowId
  returned : ∃ returned, ledger.returned row.workflowId = some returned ∧
    ledger.db.get row.workflowId = .ok returned

/-- Writing a settled workflow returns what is stored. -/
theorem identified_of_settled {call : Call} (settled : Settled call.workflow) :
    identified call.tokens call.draft = (recomputed call.draft).jsonCopy := by
  rw [WorkflowState.jsonCopy_of_untypedJson
    (by rw [call.untypedJson_recomputed_draft]; exact settled.untyped)]
  have same : call.draft.recommendation.map (identify call.tokens call.draft.workflowId) =
      call.draft.recommendation := by
    rw [call.draft_recommendation, call.draft_workflowId]
    cases present : call.workflow.recommendation with
    | none => rfl
    | some recommendation =>
        obtain ⟨named, owned⟩ := settled.recommendation recommendation present
        rw [Option.map_some, identify_of_identified named owned]
  rw [identified, same]
  rfl

/-- A settled call keeps every row answered. -/
theorem answered_step {source target : Ledger} {call : Call}
    (answered : ∀ workflowId row, source.db.workflows.find? workflowId = some row →
      Answered source row)
    (settled : Settled call.workflow) (stepped : system.step source call = some target) :
    ∀ workflowId row, target.db.workflows.find? workflowId = some row → Answered target row := by
  obtain rfl | ⟨returned, next, success, rfl⟩ := system_step stepped
  · exact answered
  intro workflowId row found
  have written := Call.run_ok success
  have returnedId : returned.workflowId = call.draft.workflowId := by
    rw [written.returned]
    rfl
  have id := ((Table.find?_eq_some _ _ _).mp found).2
  by_cases same : workflowId = call.draft.workflowId
  · subst same
    obtain ⟨stored, storedFound, -, -, state⟩ := written.find_self
    obtain rfl : stored = row := Option.some.inj (storedFound.symm.trans found)
    have stateReturned : stored.stateJson = returned := by
      rw [state, written.returned, identified_of_settled settled]
    refine ⟨?_, returned, ?_, ?_⟩
    · intro recommendation present
      rw [stateReturned] at present
      have table := written.recommendations
      rw [← written.returned, present, Option.map_some, Option.getD_some] at table
      refine ⟨recommendationRow call.draft recommendation, ?_, rfl, ?_⟩
      · change Function.update source.recommendation _ _ _ = _
        rw [id, returnedId, Function.update_self, present, Option.bind_some, table]
        exact Table.find?_insertOrReplace_self _ (recommendationRow call.draft recommendation)
      · have named : call.workflow.recommendation = some recommendation := by
          rw [← call.draft_recommendation, ← present, ← stateReturned, state]
          rfl
        rw [(settled.recommendation recommendation named).2, ← call.draft_workflowId]
        rfl
    · simp only [record, id, returnedId, Function.update_self]
    · rw [id]
      change next.get call.draft.workflowId = _
      rw [written.get_self, ← state, stateReturned]
  · have other : workflowId ≠ returned.workflowId := returnedId ▸ same
    have foundOld := written.find_of_ne same ▸ found
    obtain ⟨recommendation, last, lastReturned, stored⟩ := answered workflowId row foundOld
    rw [id] at recommendation lastReturned stored
    refine ⟨?_, last, ?_, ?_⟩
    · rw [id]
      simpa only [record, Function.update_of_ne other] using recommendation
    · rw [id]
      simpa only [record, Function.update_of_ne other] using lastReturned
    · rw [id]
      change next.get workflowId = _
      rw [written.get_of_ne same, stored]

/-- **The tables agree after settled calls.** In every state reached from the
empty database by calls with settled workflows, each row agrees with its task
rows, with the recommendation row written with it, and with the answer of the
last successful call. -/
theorem tables_agree {ledger : Ledger}
    (run : system.Run (fun _ call => Settled call.workflow) {} ledger) :
    ∀ row ∈ ledger.db.workflows.rows, RowConsistent ledger.db row ∧ Answered ledger row := by
  intro row member
  have found : ledger.db.workflows.find? row.workflowId = some row :=
    (Table.find?_eq_some _ _ _).mpr ⟨member, rfl⟩
  refine ⟨rowsConsistent_run run _ row found, ?_⟩
  refine TransitionSystem.Run.invariant (fun ledger => ∀ workflowId row,
    ledger.db.workflows.find? workflowId = some row → Answered ledger row) ?_ ?_ run _ row found
  · exact fun source call target answered settled stepped =>
      answered_step answered settled stepped
  · intro workflowId row found
    cases found

section FirstWrite

/-- Tokens all of whose ids are the given text. -/
def tokensOf (text : { text : String // text ≠ "" }) : Tokens where
  eventId := text.val
  recommendationId := text
  revisionId := text.val
  occurredAt := .newYear
  updatedAt := .newYear
  revisedAt := .newYear

def firstTask : Task := { id := "first", description := "first" }

def secondTask : Task := { id := "second", description := "second" }

/-- A workflow whose recommendation has the given id. -/
def recommending (recommendationId : String) : WorkflowState where
  workflowId := "wf"
  originalGoal := "goal"
  recommendation := some
    { recommendationId
      workflowId := "wf"
      action := "no_action"
      reason := "All planned work is complete."
      createdAt := .newYear }
  createdAt := .newYear
  updatedAt := .newYear

/-- The call that first writes the workflow. -/
def firstWrite (recommendationId : String) : Call :=
  .ensure (tokensOf ⟨"fresh", by decide⟩) (recommending recommendationId)

/-- The ledger after the first write. -/
def firstLedger (recommendationId : String) : Ledger :=
  (system.runFrom {} [firstWrite recommendationId]).getD {}

theorem firstWrite_step (recommendationId : String) :
    system.step {} (firstWrite recommendationId) = some (firstLedger recommendationId) := by
  rfl

/-- A workflow whose recommendation is named can be written and agrees. -/
theorem tables_agree_named : ∃ row, (firstLedger "rec").db.workflows.rows = [row] ∧
    RowConsistent (firstLedger "rec").db row ∧ Answered (firstLedger "rec") row :=
  ⟨_, rfl, tables_agree (.single ⟨firstWrite "rec",
    ⟨fun recommendation present => by cases present; exact ⟨by decide, rfl⟩, by decide⟩,
    firstWrite_step "rec"⟩) _ (.head _)⟩

/-- A recommendation without an id is stored without one, but its row and the
answer have one. -/
theorem tables_disagree_unnamed : ¬ ∀ ledger, system.Run TransitionSystem.unguarded {} ledger →
    ∀ row ∈ ledger.db.workflows.rows, RowConsistent ledger.db row ∧ Answered ledger row := by
  intro claim
  have run : system.Run TransitionSystem.unguarded {} (firstLedger "") :=
    .single ⟨firstWrite "", trivial, firstWrite_step ""⟩
  obtain ⟨written, present, same, -⟩ :=
    (claim _ run _ (.head _)).2.recommendation _ rfl
  cases present
  exact absurd same (by decide)

end FirstWrite

end Ledger

end ActionPlan.Workspace
