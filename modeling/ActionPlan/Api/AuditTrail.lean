import ActionPlan.Api.Idempotency
import ActionPlan.Api.Ordering
import ActionPlan.Api.Versions
import ActionPlan.Workspace.Transactions

/-! # What the server keeps

The routes change the workspace store by its transactions only. What they do is therefore in the
log, and the keys with which workflows were created stay with them: a creation that is repeated,
however much later, answers with the workflow of the first one as it is stored by then.
-/

namespace ActionPlan.Api

open ActionPlan.Foundation ActionPlan.Models ActionPlan.Memory ActionPlan.Agent
  ActionPlan.Workspace

section Transactions

variable {db next : Database} {tokens : Tokens} {workflow returned : WorkflowState}

/-- A transaction that is no revision adds none. -/
theorem unrevised_of_commit (transaction : Transaction) (admitted : transaction.Admitted db)
    (plain : transaction.revises = false) (success : transaction.commit db = .ok next) :
    Unrevised db next :=
  .single ⟨transaction, ⟨admitted, plain⟩, congrArg Except.toOption success⟩

theorem unrevised_ensure (success : db.ensure tokens workflow = .ok (returned, next)) :
    Unrevised db next :=
  unrevised_of_commit (.ensure tokens workflow) trivial rfl (congrArg (Except.map Prod.snd) success)

theorem unrevised_save {expectedVersion : Int} {event : Event}
    (success : db.save tokens workflow expectedVersion event = .ok (returned, next))
    (kind : event.eventType ≠ "plan_revised") : Unrevised db next := by
  obtain ⟨_, -, saved⟩ := ok_of_bind success
  exact unrevised_of_commit (.save tokens workflow expectedVersion event) kind rfl
    (congrArg (Except.map Prod.snd) saved)

/-- The routes do not give a save the event of a revision. -/
theorem eventType_ne (submission : Submission) {edit : Edit} {event : Event}
    (saves : submission.request.change = .save edit event) : event.eventType ≠ "plan_revised" := by
  cases submission with
  | revise payload => cases saves
  | decide recommendationId payload =>
    cases saves
    dsimp only
    cases payload.decision <;> decide
  | patch taskId payload =>
    cases saves
    dsimp only
    decide
  | transition taskId payload =>
    cases saves
    dsimp only
    decide
  | update payload =>
    cases saves
    dsimp only
    decide

/-- The loaded workflow is the stored one. -/
def StoredAs (db : Database) (workflow : WorkflowState) : Prop :=
  ∃ state, db.stored workflow.workflowId = some state ∧ state.tasks = workflow.tasks ∧
    state.version = workflow.version

/-- A submission that succeeds is an admitted transaction. -/
theorem admitted_submit {submission : Submission} (fresh : StoredAs db workflow)
    (rows : Ledger.RowsConsistent db)
    (success : submission.request.submit db tokens workflow = .ok (returned, next)) :
    ∃ transaction : Transaction, transaction.Admitted db ∧
      transactions.step db transaction = some next := by
  obtain ⟨draft, prepared, rest⟩ := ok_of_bind success
  obtain ⟨_, checked, committed⟩ := ok_of_bind rest
  unfold Request.commit at committed
  cases kind : submission.request.change with
  | save edit event =>
    rw [kind] at committed
    exact ⟨.save tokens draft submission.request.expectedVersion event,
      eventType_ne submission kind,
      congrArg Except.toOption (congrArg (Except.map Prod.snd) committed)⟩
  | revise tasks reason =>
    rw [kind] at prepared committed
    obtain ⟨_, -, rfl⟩ := ok_of_map prepared
    obtain ⟨state, stored, same, -⟩ := fresh
    have selected := Database.checkVersion_ok checked
    rw [rows.selectVersion, stored] at selected
    exact ⟨.revise tokens workflow submission.request.expectedVersion tasks reason,
      ⟨state, stored, same, Option.some.inj selected⟩,
      congrArg Except.toOption (congrArg (Except.map Prod.snd) committed)⟩

end Transactions

section Routes

variable {server target : Server} {command : Command}
  {response : Option (Except Exn WorkflowState)} {owner : String}

/-- A read through the workspace adds no revision. -/
theorem unrevised_workspaceWorkflow (tokens : Tokens) (owner : String) :
    Unrevised server.db (server.workspaceWorkflow tokens owner).2.db := by
  unfold Server.workspaceWorkflow
  split
  · exact .refl
  · split
    · exact .refl
    · split
      · exact .refl
      · rename_i success
        exact unrevised_ensure success

/-- A route has loaded what is stored. -/
theorem Read.fresh (sound : Sound server) {tokens : Tokens} {served : Served}
    (read : Read server tokens owner served) :
    Ledger.RowsConsistent served.2.db ∧ ∀ workflow, served.1 = .ok workflow →
      StoredAs served.2.db workflow := by
  cases read with
  | @present state stored =>
    refine ⟨sound.rows, ?_⟩
    rintro _ ⟨⟩
    exact ⟨state, (sound.stored_workflowId stored).symm ▸ stored, rfl, rfl⟩
  | missing =>
    refine ⟨sound.rows, ?_⟩
    rintro _ ⟨⟩
  | @synced record db absent recorded written =>
    refine ⟨Ledger.rowsConsistent_written written sound.rows, ?_⟩
    rintro _ ⟨⟩
    exact ⟨_, written.stored_self, rfl, rfl⟩

/-- A submission reads, which may write the workflow first, and commits or changes nothing more. -/
theorem changes_submission (sound : Sound server) {readTokens : Tokens}
    (unused : server.db.events.find? readTokens.eventId = none) (submission : Submission)
    (writeTokens : Tokens) :
    (server.submit owner submission readTokens writeTokens).2.db =
        (server.workspaceWorkflow readTokens owner).2.db ∨
      ∃ transaction : Transaction,
        transaction.Admitted (server.workspaceWorkflow readTokens owner).2.db ∧
        transactions.step (server.workspaceWorkflow readTokens owner).2.db transaction =
          some (server.submit owner submission readTokens writeTokens).2.db := by
  obtain ⟨rows, fresh⟩ := (read_cases sound unused owner).fresh sound
  unfold Server.submit
  generalize server.workspaceWorkflow readTokens owner = served at rows fresh
  obtain ⟨outcome, middle⟩ := served
  cases outcome with
  | error failure => exact .inl rfl
  | ok workflow =>
    dsimp only
    split
    · exact .inl rfl
    · rename_i success
      exact .inr (admitted_submit (fresh workflow rfl) rows success)

/-- A refresh adds no revision. -/
theorem unrevised_refreshWorkflow (services : Services) (ensureTokens saveTokens : Tokens) :
    Unrevised server.db
      (server.refreshWorkflow owner services ensureTokens saveTokens).2.db := by
  unfold Server.refreshWorkflow Server.resync
  cases server.memory.getWorkflow owner with
  | none => exact .refl
  | some record =>
    dsimp only
    rcases rebuildWorkflow services record server.memory with ⟨rebuilt | rebuilt, memory⟩
    · exact .refl
    · dsimp only
      cases ensure : server.db.ensure ensureTokens record with
      | error failure => exact .refl
      | ok result =>
        have ensured := unrevised_ensure ensure
        dsimp only
        split
        · exact ensured
        · rename_i success
          exact ensured.trans (unrevised_save success (by decide))

/-- A key is recorded for a workflow that is stored. -/
theorem unrevised_keyed (goal : Goal) {workflowId : String}
    (stored : (server.db.stored workflowId).isSome) :
    Unrevised server.db (server.keyed goal workflowId).db := by
  unfold Server.keyed
  split
  · exact .refl
  · rename_i key _
    exact unrevised_of_commit (.setIdempotencyKey key workflowId goal.keyedAt) stored rfl rfl

/-- A creation adds no revision. -/
theorem unrevised_createGoal (goal : Goal) : Unrevised server.db (server.createGoal goal).2.db := by
  unfold Server.createGoal
  split
  · exact .refl
  · exact .refl
  · have creates : Creates server goal (server.create goal) := create_cases
    generalize server.create goal = served at creates
    cases creates with
    | @failed failure record middle records => exact records.db ▸ .refl
    | @made workflow record middle records work state =>
      dsimp only
      rw [← records.db]
      cases ensure : middle.db.ensure goal.tokens workflow with
      | error failure => exact .refl
      | ok result =>
        have written := Database.write_ok ensure
        have named : result.1.workflowId = workflow.workflowId := by rw [written.returned]; rfl
        have stored : (result.2.stored result.1.workflowId).isSome := by
          rw [named, written.stored_self, Option.isSome_some]
        have keyed : Unrevised ({ middle with db := result.2 } : Server).db _ :=
          unrevised_keyed goal stored
        exact (unrevised_ensure ensure).trans keyed

/-- **Every command is a sequence of transactions,** of which the last one may revise a plan. -/
theorem changes_handle (sound : Sound server)
    (handled : server.handle command = some (response, target)) :
    Unrevised server.db target.db ∨ ∃ transaction : Transaction,
      Unrevised server.db (server.between command).db ∧
      transaction.Admitted (server.between command).db ∧
      transactions.step (server.between command).db transaction = some target.db := by
  obtain ⟨unused, ⟨-, rfl, rfl⟩ | ⟨routed, served⟩⟩ := handle_cases handled
  · exact .inl .refl
  · cases command with
    | createGoal goal =>
      cases served
      exact .inl (unrevised_createGoal goal)
    | continueGoal owner completedTaskIds services =>
      cases served
      obtain ⟨memory, same⟩ := continueGoal_eq server owner completedTaskIds services
      change Unrevised server.db (server.continueGoal owner completedTaskIds services).2.db ∨ _
      rw [same]
      exact .inl .refl
    | getWorkflow owner tokens =>
      cases served
      exact .inl (unrevised_workspaceWorkflow tokens owner)
    | refresh owner services ensureTokens saveTokens =>
      cases served
      exact .inl (unrevised_refreshWorkflow services ensureTokens saveTokens)
    | submit owner submission readTokens writeTokens =>
      have fresh := fresh_of_unused unused (.head _)
      have read : Unrevised server.db (server.workspaceWorkflow readTokens owner).2.db :=
        unrevised_workspaceWorkflow readTokens owner
      cases served
      rw [Server.between, if_neg (by simp [routed])]
      rcases changes_submission sound fresh submission writeTokens with same | ⟨transaction, step⟩
      · exact .inl (same ▸ read)
      · exact .inr ⟨transaction, read, step⟩
    | ingest owner filename =>
      cases served
      obtain ⟨memory, same⟩ := ingest_eq server owner filename
      rw [same]
      exact .inl .refl
    | deliver owner workerId =>
      cases served
      obtain same | ⟨execution, -, same⟩ := deliver_eq server owner workerId
      all_goals
        rw [same]
        exact .inl .refl
    | claim index claimedAt =>
      obtain ⟨rfl, execution, active, moved⟩ := step_cases served
      split at moved <;> cases moved
      obtain ⟨memory, executions, same, -⟩ := claim_eq server index execution claimedAt
      rw [same]
      exact .inl .refl
    | execute index services =>
      obtain ⟨rfl, execution, active, moved⟩ := step_cases served
      split at moved <;> cases moved
      obtain ⟨memory, executions, same, -⟩ := execute_eq server index execution services
      rw [same]
      exact .inl .refl
    | finish index =>
      obtain ⟨rfl, execution, active, moved⟩ := step_cases served
      split at moved <;> cases moved
      exact .inl .refl

/-- One command takes the database through transactions of the store. -/
theorem reaches_handle (sound : Sound server)
    (handled : server.handle command = some (response, target)) :
    Reaches server.db target.db := by
  rcases changes_handle sound handled with unrevised | ⟨transaction, read, admitted, stepped⟩
  · exact unrevised.reaches
  · exact read.reaches.tail ⟨transaction, admitted, stepped⟩

/-- A plan revision that a command adds holds the state that the command replaces. -/
theorem replaced_handle (sound : Sound server)
    (handled : server.handle command = some (response, target)) {revision : PlanRevisionRow}
    (absent : revision ∉ server.db.planRevisions.rows)
    (member : revision ∈ target.db.planRevisions.rows) :
    Replaced (server.between command).db target.db revision := by
  rcases changes_handle sound handled with unrevised | ⟨transaction, read, admitted, stepped⟩
  · rw [unrevised.planRevisions] at member
    exact absurd member absent
  · rw [← read.planRevisions] at absent
    rcases (committed_of_step admitted stepped).replaced with same | ⟨added, replaced⟩
    · rw [same] at member
      exact absurd member absent
    · rw [replaced.inserted] at member
      obtain rfl := List.mem_singleton.mp ((List.mem_append.mp member).resolve_left absent)
      exact replaced

end Routes

section Runs

variable {start server target later : Server}

/-- A run takes the database through transactions of the store. -/
theorem reaches_run (sound : Sound server)
    (run : system.Run TransitionSystem.unguarded server target) : Reaches server.db target.db := by
  refine TransitionSystem.Run.relation Sound (fun source next => Reaches source.db next.db)
    (fun _ => .refl) (fun _ _ _ => .trans) ?_ ?_ sound run
  · intro source command next sound _ stepped
    obtain ⟨response, handled⟩ := TransitionSystem.step_ofOutputs.mp stepped
    exact sound_handle sound handled
  · intro source command next sound _ stepped
    obtain ⟨response, handled⟩ := TransitionSystem.step_ofOutputs.mp stepped
    exact reaches_handle sound handled

theorem Initial.reaches (initial : Initial start)
    (run : system.Run TransitionSystem.unguarded start server) : Reaches {} server.db :=
  initial.db ▸ reaches_run initial.sound run

/-- **The audit trail.** In any run of commands, the log, the plan revisions and the keys are only
appended to, no workflow is removed, and one without new entries in the log has not changed; the
last entry has the stored version, the revisions are those of the log, a key is recorded with a
stored workflow; and each revision was added by a command that replaced the tasks and the version
that it holds. -/
theorem audit_trail (initial : Initial start) {before since : List Command}
    (first : system.runFrom start before = some server)
    (second : system.runFrom server since = some later) :
    Extends server.db later.db ∧ Documented later.db ∧
      ∀ revision ∈ later.db.planRevisions.rows, ∃ earlier command rest source target,
        before ++ since = earlier ++ command :: rest ∧
        system.runFrom start earlier = some source ∧ system.step source command = some target ∧
        system.runFrom target rest = some later ∧
        Replaced (source.between command).db target.db revision := by
  have run := TransitionSystem.run_of_runFrom before first
  have sound := sound_run initial.sound run
  have reached := initial.reaches run
  have further := reaches_run sound (TransitionSystem.run_of_runFrom since second)
  refine ⟨extends_of_reaches further, documented_of_reaches (reached.trans further), ?_⟩
  intro revision member
  have whole : system.runFrom start (before ++ since) = some later := by
    rw [TransitionSystem.runFrom_append, first]
    exact second
  have absent : revision ∉ start.db.planRevisions.rows := by
    rw [initial.db]
    exact List.not_mem_nil
  obtain ⟨earlier, command, rest, source, target, split, reachedSource, stepped, continued,
    missing, added⟩ := TransitionSystem.exists_origin
      (fun server => revision ∈ server.db.planRevisions.rows) _ whole absent member
  refine ⟨earlier, command, rest, source, target, split, reachedSource, stepped, continued, ?_⟩
  have soundSource :=
    sound_run initial.sound (TransitionSystem.run_of_runFrom earlier reachedSource)
  obtain ⟨response, handled⟩ := TransitionSystem.step_ofOutputs.mp stepped
  exact replaced_handle soundSource handled missing added

/-- After a plan with dependencies has been revised in and worked on. -/
theorem audit_trail_afterEdits :
    Extends createdServer.db afterEdits.db ∧ Documented afterEdits.db ∧
      ∀ revision ∈ afterEdits.db.planRevisions.rows, ∃ earlier command rest source target,
        [Command.createGoal (taskGoal true)] ++ orderlyEdits = earlier ++ command :: rest ∧
        system.runFrom emptyServer earlier = some source ∧
        system.step source command = some target ∧
        system.runFrom target rest = some afterEdits ∧
        Replaced (source.between command).db target.db revision :=
  audit_trail initial_emptyServer rfl rfl

/-- The key of a creation that was answered is recorded with its workflow. -/
theorem recorded_of_createGoal (sound : Sound server) {goal : Goal} {key : String}
    {workflow : WorkflowState} (keyed : truthyString goal.idempotencyKey = some key)
    (created : server.createGoal goal = (.ok workflow, target)) :
    ∃ row, target.db.idempotencyKeys.find? key = some row ∧
      row.workflowId = workflow.workflowId := by
  unfold Server.createGoal at created
  split at created
  · cases created
  · rename_i found
    cases created
    obtain ⟨row, present, same⟩ := Idempotency.recorded_of_existing sound.rows
      (eq_some_of_truthyString keyed) found
    exact ⟨row, present, same.symm⟩
  · rename_i unknown
    have absent : server.db.idempotencyKeys.find? key = none := by
      rw [Server.existing, keyed] at unknown
      dsimp only [Database.getByIdempotencyKey] at unknown
      split at unknown
      · assumption
      · obtain ⟨_, -, impossible⟩ := ok_of_map unknown
        cases impossible
    have creates : Creates server goal (server.create goal) := create_cases
    generalize server.create goal = served at creates created
    cases creates with
    | failed => cases created
    | @made draft record middle records work state =>
      dsimp only at created
      split at created
      · cases created
      · rename_i result db ensure
        have written := Database.write_ok ensure
        cases created
        rw [Server.keyed, keyed]
        refine ⟨_, Table.find?_insertOrIgnore_self _ _ ?_, rfl⟩
        dsimp only
        rw [written.idempotencyKeys, records.db]
        exact absent

/-- **A creation can be repeated.** Once a creation with a key has been answered, every later one
with the key changes nothing and is answered with the workflow of the first one, in the state that
is stored by then. -/
theorem creation_repeated (initial : Initial start)
    (run : system.Run TransitionSystem.unguarded start server) {first again : Goal} {key : String}
    (keyed : truthyString first.idempotencyKey = some key)
    (same : truthyString again.idempotencyKey = some key) {workflow : WorkflowState}
    (created : server.handle (.createGoal first) = some (some (.ok workflow), target))
    (since : system.Run TransitionSystem.unguarded target later)
    {response : Option (Except Exn WorkflowState)} {next : Server}
    (repeated : later.handle (.createGoal again) = some (response, next)) :
    next = later ∧ ∃ current, response = some (.ok current) ∧
      current.workflowId = workflow.workflowId ∧
      later.stored workflow.workflowId = some current := by
  have sound := sound_run initial.sound run
  have soundTarget := sound_handle sound created
  have reached : Reaches {} target.db :=
    (initial.reaches run).trans (reaches_handle sound created)
  have rest := reaches_run soundTarget since
  obtain ⟨row, recorded, named⟩ : ∃ row, target.db.idempotencyKeys.find? key = some row ∧
      row.workflowId = workflow.workflowId := by
    obtain ⟨-, ⟨unrouted, -⟩ | ⟨-, served⟩⟩ := handle_cases created
    · cases unrouted
    · obtain ⟨answer, after⟩ := Prod.mk.inj (Option.some.inj served)
      exact recorded_of_createGoal sound keyed
        (Prod.ext (Option.some.inj answer) after)
  have kept := (extends_of_reaches rest).key recorded
  have present := (documented_of_reaches (reached.trans rest)).keys row
    ((Table.find?_eq_some _ _ _).mp kept).1
  obtain ⟨current, stored⟩ := Option.isSome_iff_exists.mp present
  have answers : later.createGoal again = (.ok current, later) := by
    have found : later.existing again = .ok (some current) := by
      rw [Server.existing, same]
      dsimp only [Database.getByIdempotencyKey]
      rw [kept]
      dsimp only
      rw [Database.get_eq_ok.mpr stored]
      rfl
    rw [Server.createGoal, found]
  obtain ⟨-, ⟨unrouted, -⟩ | ⟨-, served⟩⟩ := handle_cases repeated
  · cases unrouted
  · rw [Server.serve, answers] at served
    cases served
    refine ⟨rfl, current, rfl, ?_, named ▸ stored⟩
    exact ((sound_run soundTarget since).stored_workflowId stored).trans named

/-- The server after the creation with the key. -/
def keyedServer : Server :=
  (system.runFrom emptyServer [.createGoal (Idempotency.keyedGoal false)]).getD emptyServer

theorem creation_repeated_keyedServer : ∃ current,
    keyedServer.handle (.createGoal (Idempotency.keyedGoal true)) =
        some (some (.ok current), keyedServer) ∧
      current.workflowId = "wf_goal_1" := by
  have created : emptyServer.handle (.createGoal (Idempotency.keyedGoal false)) =
      some (some (.ok _), keyedServer) := rfl
  have repeated : keyedServer.handle (.createGoal (Idempotency.keyedGoal true)) =
      some (some (.ok _), keyedServer) := rfl
  obtain ⟨-, current, answer, named, -⟩ :=
    creation_repeated initial_emptyServer .refl rfl rfl created .refl repeated
  cases answer
  exact ⟨_, repeated, named⟩

end Runs

end ActionPlan.Api
