import ActionPlan.Api.Soundness

/-! # What the writing routes answer

The routes turn a `WorkspaceError` into a response with its status. The validation of
the tasks raises a `ValueError`, of which `WorkspaceError` is a subclass, so the
`except` clauses let it pass.
-/

namespace ActionPlan.Api

open ActionPlan.Foundation ActionPlan.Models ActionPlan.Memory ActionPlan.Agent
  ActionPlan.Workspace

/-- The exception is a response with one of the three statuses. -/
def Declined (failure : Exn) : Prop :=
  ∃ statusCode detail, failure = .httpException statusCode detail ∧ statusCode ∈ [400, 404, 409]

/-- The route returns a workflow or refuses the request. -/
def Responds : Except Exn WorkflowState → Prop
  | .ok _ => True
  | .error failure => Declined failure

/-- The workflow that a route works on: the stored state, or else the record. -/
def Server.current (server : Server) (workflowId : String) : Option WorkflowState :=
  (server.stored workflowId).or (server.record workflowId)

/-- The tasks that the submission brings can be worked off: those of a patched plan, if the patch
reaches its task, and those of a revision. An update needs a list to append to. -/
def Acceptable (workflow : WorkflowState) : Submission → Prop
  | .patch taskId payload =>
    workflow.tasks.any (fun task => task.id = taskId) = true →
      workflow.version = payload.version.val →
        TaskPlan.Sequential (patchTasks taskId payload workflow.tasks)
  | .revise payload => TaskPlan.Sequential payload.tasks
  | .update _ => ∀ updates, workflow.executionMetadata.lookup "user_updates" = some updates →
    ∃ entries, updates = .list entries
  | .transition _ _ | .decide _ _ => True

section Errors

variable {failure : Exn}

theorem declined_raised (statusCode : Nat) (status : failure.workspaceStatus = some statusCode) :
    Declined (raised failure) := by
  rw [raised, status]
  refine ⟨statusCode, failure.message, rfl, ?_⟩
  cases failure <;> cases status <;> simp

theorem declined_httpException {statusCode : Nat} (detail : String)
    (listed : statusCode ∈ [400, 404, 409]) :
    Declined (raised (.httpException statusCode detail)) :=
  ⟨statusCode, detail, rfl, listed⟩

/-- No route refuses an invalid task list; the error passes through. -/
theorem not_declined_of_invalidates (invalidates : TaskPlan.Invalidates failure) :
    ¬ Declined (raised failure) := by
  rintro ⟨statusCode, detail, same, -⟩
  rcases invalidates with rfl | ⟨message, rfl⟩ <;> cases same

end Errors

section Tasks

variable {workflow : WorkflowState} {taskId : String}

/-- A transition of valid tasks leaves them valid, or is refused. -/
theorem transitionTask_cases (valid : TaskPlan.validateTasks workflow.tasks = .ok ())
    (target : TaskStatus) :
    (∃ failure, transitionTask workflow taskId target = .error failure ∧
        Declined (raised failure)) ∨
      ∃ changed, transitionTask workflow taskId target = .ok changed ∧
        TaskPlan.validateTasks changed.tasks = .ok () := by
  have moved : TaskPlan.validateTasks ((readied workflow.tasks).map (setStatus taskId target)) =
      .ok () := by
    refine (TaskPlan.validateTasks_congr ?_).trans ((validateTasks_readied _).trans valid)
    simp [Function.comp_def]
  rw [transitionTask, recomputeReadiness_of_valid valid]
  split
  · exact .inl ⟨_, rfl, declined_raised 404 rfl⟩
  · simp only [bind, Except.bind]
    split
    · exact .inl ⟨_, rfl, declined_raised 404 rfl⟩
    · split
      · exact .inl ⟨_, rfl, declined_raised 400 rfl⟩
      · split
        · exact .inl ⟨_, rfl, declined_raised 400 rfl⟩
        · rw [recomputeReadiness_of_valid moved]
          exact .inr ⟨_, rfl, (validateTasks_readied _).trans moved⟩

/-- A decision keeps the tasks, or is refused. -/
theorem decideRecommendation_cases (workflow : WorkflowState) (recommendationId : String)
    (payload : RecommendationDecision) :
    (∃ failure, decideRecommendation recommendationId payload workflow = .error failure ∧
        Declined (raised failure)) ∨
      ∃ decided, decideRecommendation recommendationId payload workflow = .ok decided ∧
        decided.tasks = workflow.tasks := by
  unfold decideRecommendation
  split
  · exact .inl ⟨_, rfl, declined_httpException _ (by simp)⟩
  · split
    · exact .inl ⟨_, rfl, declined_httpException _ (by simp)⟩
    · split
      · exact .inl ⟨_, rfl, declined_httpException _ (by simp)⟩
      · exact .inr ⟨_, rfl, rfl⟩

/-- An update keeps the tasks, unless it has no list to append to. -/
theorem supplyInformation_cases (workflow : WorkflowState) (text : String) :
    ((∃ failure, supplyInformation text workflow = .error failure ∧ ¬ Declined (raised failure)) ∧
        ∃ updates, workflow.executionMetadata.lookup "user_updates" = some updates ∧
          ∀ entries, updates ≠ .list entries) ∨
      (∃ supplied, supplyInformation text workflow = .ok supplied ∧
          supplied.tasks = workflow.tasks) ∧
        ∀ updates, workflow.executionMetadata.lookup "user_updates" = some updates →
          ∃ entries, updates = .list entries := by
  unfold supplyInformation
  split
  · rename_i absent
    exact .inr ⟨⟨_, rfl, rfl⟩, fun updates found => by cases absent.symm.trans found⟩
  · rename_i entries present
    refine .inr ⟨⟨_, rfl, rfl⟩, fun updates found => ⟨entries, ?_⟩⟩
    exact Option.some.inj (found.symm.trans present)
  · rename_i updates unlisted present
    refine .inl ⟨⟨_, rfl, ?_⟩, updates, present, fun entries same => unlisted entries same⟩
    rintro ⟨statusCode, detail, same, -⟩
    cases same

end Tasks

section Submissions

/-- A submitted request is written, or its error is refused by the route. -/
def Settles : Except Exn (WorkflowState × Database) → Prop
  | .ok _ => True
  | .error failure => Declined (raised failure)

variable {db : Database} {tokens : Tokens} {base : WorkflowState}

/-- A write fails as the validation of its tasks does. -/
theorem write_invalid {workflow : WorkflowState} {event : Event} {failure : Exn}
    (invalid : TaskPlan.validateTasks workflow.tasks = .error failure) :
    db.write tokens workflow event = .error failure := by
  rw [Database.write, recomputeReadiness, invalid]
  rfl

/-- Once an edit has succeeded, its request settles unless it has the stored version and
invalid tasks. -/
theorem settles_save {edit : Edit} {event : Event} {expectedVersion : Int} {draft : WorkflowState}
    (selected : db.selectVersion base.workflowId = some base.version)
    (fresh : db.events.find? tokens.eventId = none) (json : event.details.isJson = true)
    (prepared : edit.val base = .ok draft) :
    Settles (Request.submit { change := .save edit event, expectedVersion } db tokens base) ↔
      (base.version = expectedVersion → TaskPlan.validateTasks draft.tasks = .ok ()) := by
  have owned := edit.property base draft prepared
  rw [submit_save, prepared]
  change Settles (db.save tokens draft expectedVersion event) ↔ _
  by_cases current : base.version = expectedVersion
  · subst current
    have drafted : db.selectVersion draft.workflowId = some base.version := owned ▸ selected
    cases validated : TaskPlan.validateTasks draft.tasks with
    | ok =>
        obtain ⟨result, saved⟩ := Database.save_total drafted validated fresh json
        rw [saved]
        exact iff_of_true trivial fun _ => rfl
    | error failure =>
        have advanced : TaskPlan.validateTasks
            (Database.advance tokens draft base.version).tasks = .error failure := validated
        have refused : db.save tokens draft base.version event = .error failure := by
          rw [Database.save, Database.checkVersion_of_selected drafted]
          exact write_invalid advanced
        rw [refused]
        refine iff_of_false ?_ fun valid => by cases valid rfl
        exact not_declined_of_invalidates (TaskPlan.validateTasks_error validated)
  · have conflict := Database.checkVersion_conflict (owned.symm ▸ selected) current
    rw [Database.save, conflict]
    exact iff_of_true (declined_raised 409 rfl) fun same => absurd same current

/-- A request settles if its edit is refused. -/
theorem settles_refused {change : Change} {expectedVersion : Int} {failure : Exn}
    (prepared : change.prepare base = .error failure) (refused : Declined (raised failure)) :
    Settles (Request.submit { change, expectedVersion } db tokens base) := by
  rw [Request.submit, prepared]
  exact refused

/-- A request whose edit keeps the tasks valid settles. -/
theorem settles_valid {edit : Edit} {event : Event} {expectedVersion : Int} {draft : WorkflowState}
    (selected : db.selectVersion base.workflowId = some base.version)
    (fresh : db.events.find? tokens.eventId = none) (json : event.details.isJson = true)
    (prepared : edit.val base = .ok draft)
    (valid : TaskPlan.validateTasks draft.tasks = .ok ()) :
    Settles (Request.submit { change := .save edit event, expectedVersion } db tokens base) :=
  (settles_save selected fresh json prepared).mpr fun _ => valid

/-- A revision settles just when its tasks are valid. -/
theorem settles_revise {tasks : List Task} {reason : Option String} {expectedVersion : Int}
    (selected : db.selectVersion base.workflowId = some base.version)
    (fresh : db.events.find? tokens.eventId = none)
    (unused : db.planRevisions.find? tokens.revisionId = none) :
    Settles (Request.submit { change := .revise tasks reason, expectedVersion } db tokens base) ↔
      TaskPlan.validateTasks tasks = .ok () := by
  rw [submit_revise, Database.revise]
  cases validated : TaskPlan.validateTasks tasks with
  | error failure =>
      refine iff_of_false ?_ fun valid => by cases valid
      exact not_declined_of_invalidates (TaskPlan.validateTasks_error validated)
  | ok =>
      refine iff_of_true ?_ rfl
      by_cases current : base.version = expectedVersion
      · subst current
        have total : ∃ result,
            db.commitRevise tokens base base.version tasks reason = .ok result :=
          Database.commitRevise_total validated unused fresh base.version reason
        obtain ⟨result, committed⟩ := total
        simp only [bind, Except.bind, Database.checkVersion_of_selected selected, committed]
        trivial
      · simp only [bind, Except.bind, Database.checkVersion_conflict selected current]
        exact declined_raised 409 rfl

/-- **A request settles just when it is acceptable.** -/
theorem settles_iff (valid : TaskPlan.validateTasks base.tasks = .ok ())
    (selected : db.selectVersion base.workflowId = some base.version)
    (fresh : db.events.find? tokens.eventId = none)
    (unused : db.planRevisions.find? tokens.revisionId = none) (submission : Submission) :
    Settles (submission.request.submit db tokens base) ↔ Acceptable base submission := by
  cases submission with
  | patch taskId payload =>
      by_cases present : base.tasks.any (fun task => task.id = taskId) = true
      · have prepared : patchTask taskId payload base =
            .ok { base with tasks := patchTasks taskId payload base.tasks } := if_pos present
        have json : (Value.dict [("fields", .strings (patchedFields payload))]).isJson = true := by
          simp [Value.isJson, Value.allEntriesJson]
        refine (settles_save selected fresh json prepared).trans ?_
        rw [TaskPlan.validateTasks_ok_iff]
        exact ⟨fun holds _ => holds, fun holds => holds present⟩
      · have absent : patchTask taskId payload base =
            .error (.httpException 404 ("Task " ++ taskId ++ " not found.")) := if_neg present
        exact iff_of_true (settles_refused absent (declined_httpException _ (by simp)))
          fun given => absurd given present
  | transition taskId payload =>
      refine iff_of_true ?_ trivial
      rcases transitionTask_cases valid payload.status with
        ⟨failure, refused, listed⟩ | ⟨changed, moved, validAfter⟩
      · exact settles_refused refused listed
      · exact settles_valid selected fresh rfl moved validAfter
  | revise payload =>
      exact (settles_revise selected fresh unused).trans TaskPlan.validateTasks_ok_iff
  | update payload =>
      rcases supplyInformation_cases base payload.text.val with
        ⟨⟨failure, raises, unlisted⟩, updates, found, plain⟩ | ⟨⟨supplied, appended, tasks⟩, listed⟩
      · refine iff_of_false ?_ fun acceptable => ?_
        · have escapes : Request.submit (Submission.update payload).request db tokens base =
              .error failure := by
            rw [Request.submit]
            exact congrArg (· >>= _) raises
          rw [escapes]
          exact unlisted
        · obtain ⟨entries, same⟩ := acceptable updates found
          exact plain entries same
      · exact iff_of_true (settles_valid selected fresh rfl appended (tasks ▸ valid)) listed
  | decide recommendationId payload =>
      refine iff_of_true ?_ trivial
      rcases decideRecommendation_cases base recommendationId payload with
        ⟨failure, refused, listed⟩ | ⟨decided, done, tasks⟩
      · exact settles_refused refused listed
      · exact settles_valid selected fresh rfl done (tasks ▸ valid)

end Submissions

section Routes

variable {server : Server} {workflowId : String} {submission : Submission}
  {readTokens writeTokens : Tokens}

/-- Ensuring a record does not change what is acceptable for it. -/
theorem acceptable_identified (tokens : Tokens) (record : WorkflowState) :
    Acceptable (identified tokens record) submission ↔ Acceptable record submission := by
  cases submission with
  | patch taskId payload =>
      have present : (readied record.tasks).any (fun task => task.id = taskId) =
          record.tasks.any fun task => task.id = taskId := by
        rw [readied, List.any_map]
        exact congrArg record.tasks.any (funext fun task => by
          rw [Function.comp_apply, recomputeTask_id])
      have validated : TaskPlan.validateTasks (patchTasks taskId payload (readied record.tasks)) =
          TaskPlan.validateTasks (patchTasks taskId payload record.tasks) := by
        apply TaskPlan.validateTasks_congr
        simp only [patchTasks, readied, List.map_map]
        apply List.map_congr_left
        intro task _
        simp only [Function.comp_apply, recomputeTask_id]
        split <;> simp
      change ((readied record.tasks).any _ = true → _ →
        TaskPlan.Sequential (patchTasks taskId payload (readied record.tasks))) ↔ _
      rw [present, ← TaskPlan.validateTasks_ok_iff, validated, TaskPlan.validateTasks_ok_iff]
      rfl
  | transition | revise | update | decide => exact Iff.rfl

/-- The draws of a submission are new. -/
theorem unused_submit
    (unused : server.unused (.submit workflowId submission readTokens writeTokens) = true) :
    readTokens.eventId ≠ writeTokens.eventId ∧
      server.db.events.find? readTokens.eventId = none ∧
      server.db.events.find? writeTokens.eventId = none ∧
      server.db.planRevisions.find? writeTokens.revisionId = none := by
  simp only [Server.unused, Server.unused.drawn, Command.draws, Bool.and_eq_true,
    decide_eq_true_eq, List.map_cons, List.map_nil, List.nodup_cons, List.mem_singleton,
    List.all_cons, List.all_nil, Option.isNone_iff_eq_none] at unused
  exact ⟨unused.1.1, unused.2.1.1, unused.2.2.1.1, unused.2.2.1.2⟩

/-- What a writing route works on after its read. -/
structure Reads (server : Server) (workflowId : String) (submission : Submission)
    (writeTokens : Tokens) (base : WorkflowState) (middle : Server) : Prop where
  acceptable : Acceptable base submission ↔
    ∀ workflow, server.current workflowId = some workflow → Acceptable workflow submission
  valid : TaskPlan.validateTasks base.tasks = .ok ()
  selected : middle.db.selectVersion base.workflowId = some base.version
  fresh : middle.db.events.find? writeTokens.eventId = none
  unused : middle.db.planRevisions.find? writeTokens.revisionId = none

/-- A read answers that the workflow is missing, or loads a valid one. -/
theorem reads_cases (sound : Sound server)
    (unused : server.unused (.submit workflowId submission readTokens writeTokens) = true) :
    (server.current workflowId = none ∧ server.workspaceWorkflow readTokens workflowId =
        (.error (workflowNotFound workflowId), server)) ∨
      ∃ base middle, server.workspaceWorkflow readTokens workflowId = (.ok base, middle) ∧
        Reads server workflowId submission writeTokens base middle := by
  obtain ⟨different, readFresh, writeFresh, revisionUnused⟩ := unused_submit unused
  rw [Server.workspaceWorkflow, Server.current, Server.stored, Server.record]
  cases stored : server.db.stored workflowId with
  | some state =>
      rw [Database.get_eq_ok.mpr stored]
      have owned := sound.stored_workflowId stored
      refine .inr ⟨state, server, rfl, ?_, (sound.states _ _ stored).valid, ?_, writeFresh,
        revisionUnused⟩
      · rw [Server.current, Server.stored, stored]
        exact ⟨fun acceptable _ same => Option.some.inj same ▸ acceptable,
          fun holds => holds state rfl⟩
      · rw [owned, sound.rows.selectVersion, stored]
        rfl
  | none =>
      rw [Database.get_of_stored_none stored]
      cases recorded : server.memory.getWorkflow workflowId with
      | none => exact .inl ⟨rfl, rfl⟩
      | some record =>
          have valid := sound.valid_record recorded
          obtain ⟨db, success, written⟩ := Database.exists_written valid readFresh
          dsimp only
          rw [success]
          refine .inr ⟨_, { server with db }, rfl, ?_, (validateTasks_readied _).trans valid,
            written.selectVersion_self, written.event_unused (Ne.symm different) writeFresh, ?_⟩
          · rw [acceptable_identified, Server.current, Server.stored, stored]
            change _ ↔ ∀ workflow, server.memory.getWorkflow workflowId = some workflow → _
            rw [recorded]
            exact ⟨fun acceptable _ same => Option.some.inj same ▸ acceptable,
              fun holds => holds record rfl⟩
          · rw [← revisionUnused]
            exact congrArg (Table.find? · _) (Database.write_planRevisions success)

/-- **A writing route responds just when the request is acceptable.** It returns the
workflow or refuses the request with status 400, 404 or 409 exactly if the workflow is
missing or the request is acceptable for it. -/
theorem responds_iff (sound : Sound server)
    (unused : server.unused (.submit workflowId submission readTokens writeTokens) = true) :
    Responds (server.submit workflowId submission readTokens writeTokens).1 ↔
      ∀ workflow, server.current workflowId = some workflow → Acceptable workflow submission := by
  rw [Server.submit]
  rcases reads_cases sound unused with ⟨missing, read⟩ | ⟨base, middle, read, reads⟩
  · rw [read, missing]
    exact iff_of_true ⟨404, _, rfl, by simp⟩ fun workflow present => by cases present
  · rw [read, ← reads.acceptable,
      ← settles_iff reads.valid reads.selected reads.fresh reads.unused submission]
    dsimp only
    cases submission.request.submit middle.db writeTokens base with
    | error failure => exact Iff.rfl
    | ok result => exact Iff.rfl

end Routes

section Revisions

/-- Two tasks of which the first depends on the second. -/
def linkedTasks (dependencies : List String) : List Task :=
  [{ Ledger.firstTask with dependencies := ["second"] },
    { Ledger.secondTask with dependencies }]

def reviseTo (dependencies : List String) : Submission :=
  .revise { tasks := linkedTasks dependencies, version := firstVersion }

theorem sound_createdServer : Sound createdServer :=
  sound_run initial_emptyServer.sound run_createdServer

/-- A revision without a cycle gets a response. -/
theorem responds_acyclic : Responds
    (createdServer.submit "wf" (reviseTo []) (tokensOf "read") (tokensOf "revised")).1 := by
  have acceptable : TaskPlan.Sequential (linkedTasks []) :=
    TaskPlan.validateTasks_ok_iff.mp (by decide)
  exact (responds_iff sound_createdServer rfl).mpr fun _ _ => acceptable

/-- A revision with a cycle gets none: the error of the validation escapes. -/
theorem cycle_escapes : ¬ ∀ (started server : Server) (workflowId : String)
    (submission : Submission) (readTokens writeTokens : Tokens), Initial started →
      system.Run TransitionSystem.unguarded started server →
      server.unused (.submit workflowId submission readTokens writeTokens) = true →
        Responds (server.submit workflowId submission readTokens writeTokens).1 := by
  intro claim
  have responds := claim emptyServer createdServer "wf" (reviseTo ["first"]) (tokensOf "read")
    (tokensOf "revised") initial_emptyServer run_createdServer rfl
  have escaped : ((createdServer.submit "wf" (reviseTo ["first"]) (tokensOf "read")
      (tokensOf "revised")).1).map (fun _ => ()) =
        .error (.valueError "task dependencies contain a cycle") := by
    decide +kernel
  rw [error_of_map escaped] at responds
  obtain ⟨statusCode, detail, same, -⟩ := responds
  cases same

end Revisions

end ActionPlan.Api
