import ActionPlan.Api.Soundness

/-! # Does the stored version grow?

`save` and `revise` refuse a version that is not the stored one and store the
next. `ensure` stores the version that it finds in the record of the memory
store, and a refresh calls it for workflows that have a row: the version then
grows only while the row is what `ensure` would write.
-/

namespace ActionPlan.Api

open ActionPlan.Foundation ActionPlan.Models ActionPlan.Memory ActionPlan.Agent
  ActionPlan.Workspace

variable (workflowId : String)

/-- The stored state stays, or one with a larger version takes its place. -/
def Increases (source target : Server) : Prop :=
  ∀ before, source.stored workflowId = some before →
    ∃ after, target.stored workflowId = some after ∧
      (after = before ∨ before.version < after.version)

/-- The server between the two transactions of a command. -/
def Server.between (server : Server) (command : Command) : Server :=
  if command.routed = false then server
  else
    match command with
    | .submit owner _ readTokens _ => (server.workspaceWorkflow readTokens owner).2
    | .refresh owner services ensureTokens _ => (server.resync owner services ensureTokens).2
    | _ => server

/-- A refresh finds the workflow in the workspace store as its record, or not at all. -/
def InStep (server : Server) (command : Command) : Prop :=
  match command with
  | .refresh owner _ _ _ =>
    owner = workflowId → ∀ record state, server.record workflowId = some record →
      server.stored workflowId = some state → state = (recomputed record).jsonCopy
  | _ => True

/-- The workspace store refuses to write the workflow with this version. -/
def Refused (db : Database) (expectedVersion : Int) : Prop :=
  ∀ tokens workflow, workflow.workflowId = workflowId →
    (∀ event, db.save tokens workflow expectedVersion event =
      .error (.conflict "This workflow changed. Reload it before making another update.")) ∧
    ∀ tasks reason, TaskPlan.validateTasks tasks = .ok () →
      db.revise tokens workflow expectedVersion tasks reason =
        .error (.conflict "This workflow changed. Reload it before making another update.")

section Growth

variable {workflowId} {source middle target : Server}

theorem Increases.refl (server : Server) : Increases workflowId server server :=
  fun before stored => ⟨before, stored, .inl rfl⟩

/-- Growth composes. -/
theorem Increases.trans (first : Increases workflowId source middle)
    (second : Increases workflowId middle target) : Increases workflowId source target := by
  intro before stored
  obtain ⟨between, middleStored, firstGrowth⟩ := first before stored
  obtain ⟨after, targetStored, secondGrowth⟩ := second between middleStored
  refine ⟨after, targetStored, ?_⟩
  rcases firstGrowth with rfl | firstLess
  · exact secondGrowth
  · rcases secondGrowth with rfl | secondLess
    · exact .inr firstLess
    · exact .inr (firstLess.trans secondLess)

/-- A row that does not change does not go back. -/
theorem increases_of_eq (same : target.stored workflowId = source.stored workflowId) :
    Increases workflowId source target :=
  fun before stored => ⟨before, same.trans stored, .inl rfl⟩

/-- There is nothing to go back from without a row. -/
theorem increases_of_absent (absent : source.stored workflowId = none) :
    Increases workflowId source target := by
  intro before stored
  rw [absent] at stored
  cases stored

/-- A write grows the version, if the stored state is older or the same. -/
theorem increases_of_written {tokens : Tokens} {workflow returned : WorkflowState}
    (written : source.db.Written tokens workflow returned target.db)
    (newer : ∀ state, source.stored workflow.workflowId = some state →
      state = (recomputed workflow).jsonCopy ∨ state.version < workflow.version) :
    Increases workflowId source target := by
  by_cases whose : workflowId = workflow.workflowId
  · subst whose
    intro before stored
    refine ⟨_, written.stored_self, ?_⟩
    rcases newer before stored with same | less
    · exact .inl same.symm
    · exact .inr less
  · exact increases_of_eq (written.stored_of_ne whose)

/-- A save with the stored version grows it. -/
theorem increases_of_save (rows : Ledger.RowsConsistent source.db) {tokens : Tokens}
    {workflow returned : WorkflowState} {expectedVersion : Int}
    (selected : source.db.selectVersion workflow.workflowId = some expectedVersion)
    (written : source.db.Written tokens workflow returned target.db)
    (next : workflow.version = expectedVersion + 1) : Increases workflowId source target := by
  apply increases_of_written written
  intro state stored
  rw [rows.selectVersion] at selected
  change source.db.stored workflow.workflowId = some state at stored
  rw [stored, Option.map_some] at selected
  have version := Option.some.inj selected
  exact .inr (by omega)

/-- A version that was read before the content changed is refused. -/
theorem refused_of_increases (rows : Ledger.RowsConsistent target.db)
    (increases : Increases workflowId source target) {before : WorkflowState}
    (stored : source.stored workflowId = some before)
    (changed : target.stored workflowId ≠ some before) :
    Refused workflowId target.db before.version := by
  obtain ⟨after, present, rfl | less⟩ := increases before stored
  · exact absurd present changed
  · have selected : target.db.selectVersion workflowId = some after.version :=
      (rows.selectVersion workflowId).trans (congrArg _ present)
    rintro tokens workflow rfl
    have conflict := Database.checkVersion_conflict selected (Int.ne_of_gt less)
    constructor
    · intro event
      rw [Database.save, conflict]
      rfl
    · intro tasks reason valid
      rw [Database.revise, valid]
      change (target.db.checkVersion workflow.workflowId before.version >>= _) = _
      rw [conflict]
      rfl

end Growth

section Steps

variable {workflowId} {source target : Server} {command : Command}
  {response : Option (Except Exn WorkflowState)}

/-- A read leaves the row alone or inserts it. -/
theorem Read.increases {tokens : Tokens} {owner : String} {served : Served}
    (sound : Sound source) (read : Read source tokens owner served) :
    Increases workflowId source served.2 := by
  cases read with
  | present | missing => exact .refl source
  | synced absent recorded written =>
      have owned := (sound.records _ _ recorded).1
      apply increases_of_written written
      intro state stored
      rw [owned, absent] at stored
      cases stored

/-- The two transactions of a submission. -/
theorem increases_submit (sound : Sound source) {owner : String} {submission : Submission}
    {readTokens writeTokens : Tokens}
    (fresh : source.db.events.find? readTokens.eventId = none) :
    Increases workflowId source (source.workspaceWorkflow readTokens owner).2 ∧
      Increases workflowId (source.workspaceWorkflow readTokens owner).2
        (source.submit owner submission readTokens writeTokens).2 := by
  have read := read_cases sound fresh owner
  have rows := rows_workspaceWorkflow sound.rows readTokens owner
  refine ⟨read.increases sound, ?_⟩
  unfold Server.submit
  generalize source.workspaceWorkflow readTokens owner = served at rows
  obtain ⟨outcome, middle⟩ := served
  cases outcome with
  | error failure => exact .refl middle
  | ok base =>
      dsimp only
      cases submitted : submission.request.submit middle.db writeTokens base with
      | error failure => exact .refl middle
      | ok result =>
          obtain ⟨returned, db⟩ := result
          obtain ⟨draft, -, same, selected, written⟩ := submit_ok submitted
          have target : middle.db.Written writeTokens _ returned { middle with db }.db := written
          refine increases_of_save rows ?_ target rfl
          rw [advance_workflowId, applied_workflowId, same]
          exact selected

/-- The two transactions of a refresh. -/
theorem increases_refresh (sound : Sound source) {owner : String} {services : Services}
    {ensureTokens saveTokens : Tokens}
    (fresh : source.db.events.find? ensureTokens.eventId = none)
    (inStep : InStep workflowId source (.refresh owner services ensureTokens saveTokens)) :
    Increases workflowId source (source.resync owner services ensureTokens).2 ∧
      Increases workflowId (source.resync owner services ensureTokens).2
        (source.refreshWorkflow owner services ensureTokens saveTokens).2 := by
  have resynced : Resynced source services ensureTokens owner
      (source.resync owner services ensureTokens) := resync_cases sound fresh owner
  unfold Server.refreshWorkflow
  generalize source.resync owner services ensureTokens = outcome at resynced
  cases resynced with
  | failed failure => exact ⟨.refl source, .refl source⟩
  | @synced record rebuilt payload memory db recorded delivered state saves written =>
      have owned := (sound.records _ _ recorded).1
      have target : source.db.Written ensureTokens record _ { source with memory, db }.db := written
      have rows : Ledger.RowsConsistent { source with memory, db }.db :=
        Ledger.rowsConsistent_written written sound.rows
      constructor
      · by_cases whose : owner = workflowId
        · subst whose
          apply increases_of_written target
          intro before stored
          exact .inl (inStep rfl record before recorded (owned ▸ stored))
        · exact increases_of_eq (written.stored_of_ne (fun same => whose (owned ▸ same.symm)))
      · dsimp only
        cases saved : db.save saveTokens rebuilt (identified ensureTokens record).version
            { eventType := "assessment_completed", actor := "system" } with
        | error failure => exact .refl _
        | ok result =>
            obtain ⟨returned, last⟩ := result
            obtain ⟨selected, lastWritten⟩ := Database.save_ok saved
            have lastTarget : ({ source with memory, db } : Server).db.Written saveTokens
              (Database.advance saveTokens rebuilt (identified ensureTokens record).version)
              returned { source with memory, db := last }.db := lastWritten
            refine increases_of_save rows ?_ lastTarget rfl
            exact selected

/-- A command in step grows the version. -/
theorem Effect.increases (effect : Effect workflowId source command response target)
    (inStep : InStep workflowId source command) : Increases workflowId source target := by
  cases effect with
  | kept _ stored | progressed _ _ _ stored | copied _ _ _ _ _ _ _ stored
  | finished _ _ _ _ _ _ _ _ _ stored | continued _ _ _ _ _ _ stored =>
      exact increases_of_eq stored
  | synced absent | created _ _ absent => exact increases_of_absent absent
  | @submitted submission readTokens _ base _ _ loaded _ version _ _ stored =>
      intro before present
      refine ⟨_, stored, .inr ?_⟩
      cases loaded with
      | present found =>
          cases found.symm.trans present
          change base.version < submission.request.expectedVersion + 1
          omega
      | synced absent =>
          rw [absent] at present
          cases present
  | @refreshed _ _ _ _ record _ _ _ recorded _ _ _ _ _ stored =>
      intro before present
      refine ⟨_, stored, .inr ?_⟩
      rw [inStep rfl record before recorded present]
      exact Int.lt_succ record.version

/-- **Each transaction of a command in step grows the version.** -/
theorem increases_handle (sound : Sound source) (inStep : InStep workflowId source command)
    (handled : source.handle command = some (response, target)) :
    Increases workflowId source (source.between command) ∧
      Increases workflowId (source.between command) target := by
  have increases := (effect_handle sound handled workflowId).increases inStep
  obtain ⟨unused, ⟨unrouted, rfl, -⟩ | ⟨routed, served⟩⟩ := handle_cases handled
  · unfold Server.between
    rw [if_pos unrouted]
    exact ⟨.refl _, .refl _⟩
  · unfold Server.between
    rw [if_neg (by simp [routed])]
    cases command with
    | submit owner submission readTokens writeTokens =>
        have fresh := fresh_of_unused unused (.head _)
        cases served
        exact increases_submit sound fresh
    | refresh owner services ensureTokens saveTokens =>
        have fresh := fresh_of_unused unused (.head _)
        cases served
        exact increases_refresh sound fresh inStep
    | createGoal | continueGoal | getWorkflow | ingest | deliver | claim | execute | finish =>
        exact ⟨.refl source, increases⟩

/-- A refresh that is not in step stores a version again, with other content. -/
theorem rewinds_of_refresh (sound : Sound source) {services : Services}
    {ensureTokens saveTokens : Tokens} {returned : WorkflowState}
    (handled : source.handle (.refresh workflowId services ensureTokens saveTokens) =
      some (some (.ok returned), target))
    (outOfStep : ¬ InStep workflowId source
      (.refresh workflowId services ensureTokens saveTokens)) :
    ¬ Increases workflowId source
      (source.between (.refresh workflowId services ensureTokens saveTokens)) := by
  obtain ⟨unused, ⟨unrouted, -⟩ | ⟨-, served⟩⟩ := handle_cases handled
  · cases unrouted
  · have fresh := fresh_of_unused unused (.head _)
    have answer : (source.refreshWorkflow workflowId services ensureTokens saveTokens).1 =
        .ok returned := Option.some.inj (congrArg Prod.fst (Option.some.inj served))
    have resynced : Resynced source services ensureTokens workflowId
        (source.resync workflowId services ensureTokens) := resync_cases sound fresh workflowId
    change ¬ Increases workflowId source (source.resync workflowId services ensureTokens).2
    rw [Server.refreshWorkflow] at answer
    generalize source.resync workflowId services ensureTokens = outcome at resynced answer
    cases resynced with
    | failed failure => cases answer
    | @synced record rebuilt payload memory db recorded delivered state saves written =>
        intro increases
        apply outOfStep
        rintro - other before present stored
        cases recorded.symm.trans present
        obtain ⟨owned, produced⟩ := sound.records _ _ recorded
        have between : db.stored workflowId = some (recomputed record).jsonCopy :=
          owned ▸ written.stored_self
        obtain ⟨after, found, same | less⟩ := increases before stored
        · cases between.symm.trans found
          exact same.symm
        · cases between.symm.trans found
          have positive := (sound.states _ _ stored).version
          have one := produced.version
          change before.version < record.version at less
          omega

end Steps

section Runs

variable {workflowId} {start source target : Server}

/-- What holds of the versions of a workflow between two states of the server. -/
structure Versioned (workflowId : String) (source target : Server) : Prop where
  increases : Increases workflowId source target
  refused : ∀ before, source.stored workflowId = some before →
    target.stored workflowId ≠ some before → Refused workflowId target.db before.version
  transactions : ∀ command response next, InStep workflowId target command →
    target.handle command = some (response, next) →
      Increases workflowId target (target.between command) ∧
        Increases workflowId (target.between command) next

/-- **Versions grow while refreshes are in step.** From any reachable state, every
write that changes the content of a workflow grows its version, and a save with a
version that was read before such a write is refused. -/
theorem versions_grow (initial : Initial start)
    (reached : system.Run TransitionSystem.unguarded start source)
    (run : system.Run (InStep workflowId) source target) :
    Versioned workflowId source target := by
  have sound := sound_run initial.sound reached
  have soundTarget := sound_run sound run
  have increases : Increases workflowId source target := by
    refine TransitionSystem.Run.relation Sound (Increases workflowId) .refl
      (fun _ _ _ => .trans) ?_ ?_ sound run
    · intro first command second sound _ stepped
      obtain ⟨response, handled⟩ := TransitionSystem.step_ofOutputs.mp stepped
      exact sound_handle sound handled
    · intro first command second sound inStep stepped
      obtain ⟨response, handled⟩ := TransitionSystem.step_ofOutputs.mp stepped
      exact (effect_handle sound handled workflowId).increases inStep
  refine ⟨increases, ?_, ?_⟩
  · intro before stored changed
    exact refused_of_increases soundTarget.rows increases stored changed
  · intro command response next inStep handled
    exact increases_handle soundTarget inStep handled

/-- The start of the task of a workflow. -/
def startTask (version : PositiveVersion) : Command :=
  .submit "wf" (.transition "task_1" { status := .inProgress, version }) (tokensOf "read")
    (tokensOf "started")

def refreshTask : Command := .refresh "wf" taskServices (tokensOf "synced") (tokensOf "saved")

/-- A refresh that brings the workflow into the workspace store, and an edit. -/
def refreshFirst : List Command := [refreshTask, startTask secondVersion]

def afterEdit : Server := (system.runFrom restartedServer refreshFirst).getD emptyServer

theorem allows_refreshFirst :
    system.Allows (InStep "wf") restartedServer refreshFirst := by
  refine ⟨?_, trivial, trivial⟩
  intro _ record state _ stored
  cases stored

/-- A refresh after a restart, which inserts the row. -/
theorem versions_grow_afterEdit : Versioned "wf" restartedServer afterEdit :=
  versions_grow initial_restartedServer .refl
    (TransitionSystem.run_of_allows refreshFirst allows_refreshFirst rfl)

def afterStart : Server := (system.runFrom createdServer [startTask firstVersion]).getD emptyServer

def afterRefresh : Server := (system.runFrom afterStart [refreshTask]).getD emptyServer

/-- The refresh gives the version of the edit to other content. -/
theorem version_reused : ¬ ∀ (workflowId : String) (start source target : Server),
    Initial start → system.Run TransitionSystem.unguarded start source →
      system.Run TransitionSystem.unguarded source target →
      Versioned workflowId source target := by
  intro claim
  have versioned := claim "wf" emptyServer afterStart afterRefresh initial_emptyServer
    (run_createdServer.trans (TransitionSystem.run_of_runFrom [startTask firstVersion] rfl))
    (TransitionSystem.run_of_runFrom [refreshTask] rfl)
  have before : (afterStart.stored "wf").map (fun state =>
      (state.version, state.tasks.map Task.status)) = some (2, [.inProgress]) := by decide
  have after : (afterRefresh.stored "wf").map (fun state =>
      (state.version, state.tasks.map Task.status)) = some (2, [.ready]) := by decide
  obtain ⟨first, stored, firstSeen⟩ := Option.map_eq_some_iff.mp before
  obtain ⟨second, restored, secondSeen⟩ := Option.map_eq_some_iff.mp after
  obtain ⟨third, found, same | less⟩ := versioned.increases first stored
  · cases restored.symm.trans found
    rw [same, firstSeen] at secondSeen
    cases secondSeen
  · cases restored.symm.trans found
    have firstVersion := congrArg Prod.fst firstSeen
    have secondVersion := congrArg Prod.fst secondSeen
    dsimp only at firstVersion secondVersion
    omega

end Runs

end ActionPlan.Api
