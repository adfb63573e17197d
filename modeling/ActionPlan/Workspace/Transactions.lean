import ActionPlan.Workspace.Atomicity

/-! # What the store keeps

The write transactions of the store, committed in any order. The log, the plan revisions and the
keys are only appended to; no workflow is removed, and none changes without an entry in the log,
whose last one has the stored version. The revisions are those of the log.
-/

namespace ActionPlan.Workspace

open ActionPlan.Foundation ActionPlan.Models

/-- The write transactions. -/
inductive Transaction where
  | ensure (tokens : Tokens) (workflow : WorkflowState)
  | save (tokens : Tokens) (workflow : WorkflowState) (expectedVersion : Int) (event : Event)
  | revise (tokens : Tokens) (workflow : WorkflowState) (expectedVersion : Int)
      (tasks : List Task) (reason : Option String)
  | setIdempotencyKey (idempotencyKey workflowId : String) (createdAt : DateTime)

namespace Transaction

/-- The database after a transaction that commits. -/
def commit (db : Database) : Transaction → Except Exn Database
  | ensure tokens workflow => (db.ensure tokens workflow).map Prod.snd
  | save tokens workflow expectedVersion event =>
    (db.commitSave tokens workflow expectedVersion event).map Prod.snd
  | revise tokens workflow expectedVersion tasks reason =>
    (db.commitRevise tokens workflow expectedVersion tasks reason).map Prod.snd
  | setIdempotencyKey idempotencyKey workflowId createdAt =>
    .ok (db.setIdempotencyKey idempotencyKey workflowId createdAt)

/-- A save is not logged as a revision, a revision replaces the tasks of the stored state, and a
key is recorded for a workflow that is stored. -/
def Admitted (db : Database) : Transaction → Prop
  | ensure _ _ => True
  | save _ _ _ event => event.eventType ≠ "plan_revised"
  | revise _ workflow expectedVersion _ _ =>
    ∃ state, db.stored workflow.workflowId = some state ∧ state.tasks = workflow.tasks ∧
      state.version = expectedVersion
  | setIdempotencyKey _ workflowId _ => (db.stored workflowId).isSome

/-- Whether the plan is revised. -/
def revises : Transaction → Bool
  | revise .. => true
  | ensure .. | save .. | setIdempotencyKey .. => false

end Transaction

/-- The store as its transactions change it. -/
def transactions : TransitionSystem Database Transaction where
  step db transaction := (transaction.commit db).toOption

/-- Admitted transactions lead from one database to the other. -/
abbrev Reaches : Database → Database → Prop := transactions.Run Transaction.Admitted

/-- Admitted transactions that do not revise a plan lead from one database to the other. -/
abbrev Unrevised : Database → Database → Prop :=
  transactions.Run fun db transaction => transaction.Admitted db ∧ transaction.revises = false

theorem Unrevised.reaches {before after : Database} (unrevised : Unrevised before after) :
    Reaches before after :=
  unrevised.mono fun _ _ => And.left

/-- The entries of a workflow in the log, in the order in which they were made. -/
def Database.log (db : Database) (workflowId : String) : List EventRow :=
  db.events.selectWhere fun row => row.workflowId = workflowId

/-- A workflow is written, with an entry in the log. -/
structure Journaled (db : Database) (workflowId : String) (row : EventRow) (next : Database) :
    Prop where
  events : next.events.rows = db.events.rows ++ [row]
  owner : row.workflowId = workflowId
  stored : ∃ state, next.stored workflowId = some state ∧ row.version = some state.version
  others : ∀ other, other ≠ workflowId → next.stored other = db.stored other
  idempotencyKeys : next.idempotencyKeys = db.idempotencyKeys

/-- A revision is recorded when it takes effect: with the tasks and the version of the workflow
that is stored before, which has the next version afterwards. -/
structure Replaced (db next : Database) (revision : PlanRevisionRow) : Prop where
  inserted : next.planRevisions.rows = db.planRevisions.rows ++ [revision]
  before : ∃ state, db.stored revision.workflowId = some state ∧
    state.tasks = revision.tasksJson ∧ state.version = revision.version
  after : ∃ state, next.stored revision.workflowId = some state ∧
    state.version = revision.version + 1

/-- Everything that an admitted transaction can do. -/
inductive Committed (db : Database) : Database → Prop
  | written {workflowId : String} {row : EventRow} {next : Database}
      (journaled : Journaled db workflowId row next)
      (planRevisions : next.planRevisions = db.planRevisions)
      (kind : row.eventType ≠ "plan_revised") : Committed db next
  | revised {workflowId : String} {row : EventRow} {revision : PlanRevisionRow} {next : Database}
      {state : WorkflowState} (journaled : Journaled db workflowId row next)
      (planRevisions : next.planRevisions.rows = db.planRevisions.rows ++ [revision])
      (kind : row.eventType = "plan_revised") (owner : revision.workflowId = workflowId)
      (version : row.version = some (revision.version + 1))
      (stored : db.stored workflowId = some state) (tasks : state.tasks = revision.tasksJson)
      (replaced : state.version = revision.version) : Committed db next
  | keyed {idempotencyKey workflowId : String} {createdAt : DateTime}
      (stored : (db.stored workflowId).isSome) :
      Committed db (db.setIdempotencyKey idempotencyKey workflowId createdAt)

section Steps

variable {db next : Database} {tokens : Tokens} {workflow returned : WorkflowState} {event : Event}

/-- A write adds the event of its transaction, with the version that it writes. -/
theorem journaled_of_write (success : db.write tokens workflow event = .ok (returned, next)) :
    ∃ row, Journaled db workflow.workflowId row next ∧ row.eventType = event.eventType ∧
      row.version = some workflow.version := by
  obtain ⟨detailsJson, -, logged⟩ := eventRow_of_write success
  have written := Database.write_ok success
  exact ⟨_, ⟨logged, rfl, ⟨_, written.stored_self, rfl⟩, fun _ => written.stored_of_ne,
    written.idempotencyKeys⟩, rfl, rfl⟩

/-- **What a transaction does.** -/
theorem committed_of_step {transaction : Transaction}
    (admitted : transaction.Admitted db) (stepped : transactions.step db transaction = some next) :
    Committed db next := by
  have success : transaction.commit db = .ok next := ok_of_toOption stepped
  cases transaction with
  | ensure tokens workflow =>
    obtain ⟨⟨returned, next⟩, written, rfl⟩ := ok_of_map success
    obtain ⟨row, journaled, kind, -⟩ := journaled_of_write written
    refine .written journaled (Database.write_planRevisions written) ?_
    rw [kind]
    decide
  | save tokens workflow expectedVersion event =>
    obtain ⟨⟨returned, next⟩, written, rfl⟩ := ok_of_map success
    obtain ⟨row, journaled, kind, -⟩ := journaled_of_write written
    refine .written journaled (Database.write_planRevisions written) ?_
    rw [kind]
    exact admitted
  | revise tokens workflow expectedVersion tasks reason =>
    obtain ⟨⟨returned, next⟩, revised, rfl⟩ := ok_of_map success
    obtain ⟨planRevisions, inserted, written⟩ := ok_of_bind revised
    obtain ⟨row, journaled, kind, version⟩ := journaled_of_write written
    obtain ⟨state, stored, same, current⟩ := admitted
    have appended := (congrArg Table.rows (Database.write_planRevisions written)).trans
      (Table.rows_insert (ok_of_orIntegrityError inserted))
    exact .revised ⟨journaled.events, journaled.owner, journaled.stored, journaled.others,
      journaled.idempotencyKeys⟩ appended kind rfl version stored same current
  | setIdempotencyKey idempotencyKey workflowId createdAt =>
    obtain rfl := Except.ok.inj success
    exact .keyed admitted

/-- Only a revision adds to the plan revisions. -/
theorem planRevisions_of_step {transaction : Transaction} (plain : transaction.revises = false)
    (stepped : transactions.step db transaction = some next) :
    next.planRevisions = db.planRevisions := by
  have success : transaction.commit db = .ok next := ok_of_toOption stepped
  cases transaction with
  | ensure tokens workflow =>
    obtain ⟨⟨returned, next⟩, written, rfl⟩ := ok_of_map success
    exact Database.write_planRevisions written
  | save tokens workflow expectedVersion event =>
    obtain ⟨⟨returned, next⟩, written, rfl⟩ := ok_of_map success
    exact Database.write_planRevisions written
  | revise => cases plain
  | setIdempotencyKey =>
    obtain rfl := Except.ok.inj success
    rfl

/-- What a transaction adds to the plan revisions is the state that it replaces. -/
theorem Committed.replaced (committed : Committed db next) :
    next.planRevisions = db.planRevisions ∨ ∃ revision, Replaced db next revision := by
  cases committed with
  | written _ planRevisions => exact .inl planRevisions
  | keyed => exact .inl rfl
  | @revised _ _ revision _ state journaled planRevisions _ owner version stored tasks replaced =>
    subst owner
    obtain ⟨later, present, written⟩ := journaled.stored
    refine .inr ⟨revision, planRevisions, ⟨state, stored, tasks, replaced⟩, later, present, ?_⟩
    exact Option.some.inj (written.symm.trans version)

end Steps

section Growth

variable {before after last : Database}

/-- What is recorded stays, and what is stored changes only with an entry in the log. -/
structure Extends (before after : Database) : Prop where
  events : before.events.rows <+: after.events.rows
  planRevisions : before.planRevisions.rows <+: after.planRevisions.rows
  idempotencyKeys : before.idempotencyKeys.rows <+: after.idempotencyKeys.rows
  kept : ∀ workflowId, (before.stored workflowId).isSome → (after.stored workflowId).isSome
  logged : ∀ workflowId, after.log workflowId = before.log workflowId →
    after.stored workflowId = before.stored workflowId

theorem Extends.refl (db : Database) : Extends db db where
  events := List.prefix_rfl
  planRevisions := List.prefix_rfl
  idempotencyKeys := List.prefix_rfl
  kept _ present := present
  logged _ _ := rfl

/-- A longer history has longer logs. -/
theorem Extends.log (extended : Extends before after) (workflowId : String) :
    before.log workflowId <+: after.log workflowId :=
  extended.events.filter _

theorem Extends.trans (first : Extends before after) (second : Extends after last) :
    Extends before last where
  events := first.events.trans second.events
  planRevisions := first.planRevisions.trans second.planRevisions
  idempotencyKeys := first.idempotencyKeys.trans second.idempotencyKeys
  kept workflowId present := second.kept workflowId (first.kept workflowId present)
  logged workflowId same := by
    -- a log that is the same at both ends is the same in between
    have grown := second.log workflowId
    rw [same] at grown
    have middle := (first.log workflowId).eq_of_length_le grown.length_le
    rw [second.logged workflowId (same.trans middle), first.logged workflowId middle.symm]

/-- A key that is recorded stays recorded with its workflow. -/
theorem Extends.key (extended : Extends before after) {idempotencyKey : String}
    {row : IdempotencyRow} (recorded : before.idempotencyKeys.find? idempotencyKey = some row) :
    after.idempotencyKeys.find? idempotencyKey = some row :=
  Table.find?_of_prefix extended.idempotencyKeys recorded

end Growth

section Journals

variable {db next : Database} {workflowId : String} {row : EventRow}

/-- The log of the workflow has one more event. -/
theorem Journaled.log_self (journaled : Journaled db workflowId row next) :
    next.log workflowId = db.log workflowId ++ [row] := by
  rw [Database.log, Table.selectWhere, journaled.events, List.filter_append,
    List.filter_singleton, decide_eq_true journaled.owner]
  rfl

/-- The logs of the other workflows stay as they are. -/
theorem Journaled.log_of_ne (journaled : Journaled db workflowId row next) {other : String}
    (different : other ≠ workflowId) : next.log other = db.log other := by
  have foreign : ¬row.workflowId = other := fun same =>
    different (same.symm.trans journaled.owner)
  rw [Database.log, Table.selectWhere, journaled.events, List.filter_append,
    List.filter_singleton, decide_eq_false foreign]
  exact List.append_nil _

/-- A new event extends the history. -/
theorem Journaled.extends (journaled : Journaled db workflowId row next)
    (planRevisions : db.planRevisions.rows <+: next.planRevisions.rows) : Extends db next where
  events := ⟨[row], journaled.events.symm⟩
  planRevisions := planRevisions
  idempotencyKeys := journaled.idempotencyKeys ▸ List.prefix_rfl
  kept other present := by
    by_cases same : other = workflowId
    · obtain ⟨state, stored, -⟩ := journaled.stored
      rw [same, stored, Option.isSome_some]
    · rwa [journaled.others other same]
  logged other unlogged := by
    by_cases same : other = workflowId
    · rw [same, journaled.log_self] at unlogged
      exact absurd (List.append_right_eq_self.mp unlogged) (List.cons_ne_nil row [])
    · exact journaled.others other same

/-- **Nothing is lost** by a transaction. -/
theorem Committed.extends (committed : Committed db next) : Extends db next := by
  cases committed with
  | written journaled planRevisions _ =>
    exact journaled.extends (planRevisions ▸ List.prefix_rfl)
  | revised journaled planRevisions =>
    exact journaled.extends ⟨_, planRevisions.symm⟩
  | keyed stored =>
    exact ⟨List.prefix_rfl, List.prefix_rfl, Table.rows_insertOrIgnore _ _,
      fun _ present => present, fun _ _ => rfl⟩

/-- The log and the other tables tell the same. -/
structure Documented (db : Database) : Prop where
  /-- The last entry of a workflow has the version that is stored. -/
  version : ∀ workflowId, (db.log workflowId).getLast?.map EventRow.version =
    (db.stored workflowId).map fun state => some state.version
  /-- The revisions are those of the log. -/
  revisions : db.planRevisions.rows.map (fun revision =>
      (revision.workflowId, some (revision.version + 1))) =
    (db.events.rows.filter fun row => row.eventType = "plan_revised").map fun row =>
      (row.workflowId, row.version)
  /-- A key is recorded with a workflow that is stored. -/
  keys : ∀ row ∈ db.idempotencyKeys.rows, (db.stored row.workflowId).isSome

theorem documented_empty : Documented {} where
  version _ := rfl
  revisions := rfl
  keys row absent := by cases absent

/-- One more event, and a revision with it if the event says so. -/
theorem Documented.journaled (documented : Documented db)
    (journaled : Journaled db workflowId row next) (extended : Extends db next)
    (revisions : next.planRevisions.rows.map (fun revision =>
        (revision.workflowId, some (revision.version + 1))) =
      (next.events.rows.filter fun row => row.eventType = "plan_revised").map fun row =>
        (row.workflowId, row.version)) : Documented next where
  version other := by
    by_cases same : other = workflowId
    · obtain ⟨state, stored, version⟩ := journaled.stored
      rw [same, journaled.log_self, List.getLast?_concat, stored, Option.map_some,
        Option.map_some, version]
    · rw [journaled.log_of_ne same, journaled.others other same, documented.version]
  revisions := revisions
  keys keyed member := by
    rw [journaled.idempotencyKeys] at member
    exact extended.kept _ (documented.keys keyed member)

/-- A transaction that commits keeps the revisions documented. -/
theorem Committed.documented (committed : Committed db next) (documented : Documented db) :
    Documented next := by
  have extended := committed.extends
  cases committed with
  | @written workflowId row _ journaled planRevisions kind =>
    refine documented.journaled journaled extended ?_
    rw [planRevisions, documented.revisions, journaled.events, List.filter_append,
      List.filter_singleton, decide_eq_false kind]
    exact congrArg _ (List.append_nil _).symm
  | @revised workflowId row revision _ state journaled planRevisions kind owner version =>
    refine documented.journaled journaled extended ?_
    rw [planRevisions, List.map_append, documented.revisions, journaled.events,
      List.filter_append, List.filter_singleton, decide_eq_true kind, cond_true, List.map_append]
    simp only [List.map_cons, List.map_nil, owner, journaled.owner, version]
  | @keyed idempotencyKey workflowId createdAt stored =>
    refine ⟨documented.version, documented.revisions, fun row member => ?_⟩
    have found := (Table.find?_eq_some _ row.idempotencyKey row).mpr ⟨member, rfl⟩
    rcases Table.find?_insertOrIgnore found with old | rfl
    · exact documented.keys row ((Table.find?_eq_some _ _ _).mp old).1
    · exact stored

end Journals

section Runs

variable {before after : Database}

/-- Histories only grow. -/
theorem extends_of_reaches (reaches : Reaches before after) : Extends before after :=
  TransitionSystem.Run.relation (fun _ => True) Extends .refl (fun _ _ _ => Extends.trans)
    (fun _ _ _ _ _ _ => trivial)
    (fun _ _ _ _ admitted stepped => (committed_of_step admitted stepped).extends) trivial reaches

/-- The revisions of every reachable database are documented. -/
theorem documented_of_reaches (reaches : Reaches {} after) : Documented after :=
  TransitionSystem.Run.invariant Documented
    (fun _ _ _ documented admitted stepped =>
      (committed_of_step admitted stepped).documented documented) documented_empty reaches

/-- Without revisions the plan revisions stay as they are. -/
theorem Unrevised.planRevisions (unrevised : Unrevised before after) :
    after.planRevisions = before.planRevisions := by
  induction unrevised with
  | refl => rfl
  | tail _ step ih =>
    obtain ⟨transaction, ⟨-, plain⟩, stepped⟩ := step
    exact (planRevisions_of_step plain stepped).trans ih

end Runs

end ActionPlan.Workspace
