import ActionPlan.Api.Soundness
import ActionPlan.Foundation.Exhaustion
import Mathlib.Data.List.Perm.Basic
import Mathlib.Algebra.BigOperators.Group.List.Basic

/-! # Executions come to an end

Without a queue, a workflow is created with an execution in the background. Whatever is requested
meanwhile, and whichever other executions there are, it is not left queued or running: as long as
it is, one of its executions is still to write it.
-/

namespace ActionPlan.Api

open ActionPlan.Foundation ActionPlan.Models ActionPlan.Memory ActionPlan.Agent
  ActionPlan.Workspace

section Steps

/-- The steps that an execution has before it. -/
def Stage.remaining : Stage → Nat
  | claiming => 3
  | claimed => 2
  | saved _ _ => 1

/-- The steps that executions have before them. -/
def remaining (executions : List Execution) : Nat :=
  (executions.map fun execution => execution.stage.remaining).sum

/-- The steps of executions. -/
def Command.executes : Command → Prop
  | claim _ _ | execute _ _ | finish _ => True
  | createGoal _ | continueGoal _ _ _ | getWorkflow _ _ | refresh _ _ _ _ | submit _ _ _ _
  | ingest _ _ | deliver _ _ => False

variable {server target : Server} {index : Nat} {execution : Execution}

theorem remaining_eraseIdx {executions : List Execution}
    (active : executions[index]? = some execution) :
    remaining executions = execution.stage.remaining + remaining (executions.eraseIdx index) := by
  obtain ⟨bound, rfl⟩ := List.getElem?_eq_some_iff.mp active
  have split := (List.getElem_cons_eraseIdx_perm bound).map fun other : Execution =>
    other.stage.remaining
  rw [remaining, ← split.sum_eq, List.map_cons, List.sum_cons, remaining]

/-- An execution that ends leaves fewer steps to take. -/
theorem remaining_eraseIdx_lt {executions : List Execution}
    (active : executions[index]? = some execution) :
    remaining (executions.eraseIdx index) < remaining executions := by
  have positive : 0 < execution.stage.remaining := by
    cases execution.stage <;> exact Nat.succ_pos _
  have rest := remaining_eraseIdx active
  omega

/-- So does an execution that advances. -/
theorem remaining_set_lt {executions : List Execution}
    (active : executions[index]? = some execution) {replacement : Execution}
    (nearer : replacement.stage.remaining < execution.stage.remaining) :
    remaining (executions.set index replacement) < remaining executions := by
  obtain ⟨bound, -⟩ := List.getElem?_eq_some_iff.mp active
  have split := (List.set_perm_cons_eraseIdx bound replacement).map fun other : Execution =>
    other.stage.remaining
  rw [remaining, split.sum_eq, List.map_cons, List.sum_cons, remaining_eraseIdx active]
  exact Nat.add_lt_add_right nearer _

/-- **Every step of an execution brings it nearer to its end.** -/
theorem ranked_executions :
    system.Ranked Command.executes fun server => remaining server.executions := by
  intro source command next executes stepped
  obtain ⟨response, handled⟩ := TransitionSystem.step_ofOutputs.mp stepped
  obtain ⟨-, ⟨unrouted, -⟩ | ⟨-, served⟩⟩ := handle_cases handled
  · cases command with
    | claim | execute | finish => cases unrouted
    | _ => exact executes.elim
  · cases command with
    | claim index claimedAt =>
      obtain ⟨rfl, execution, active, moved⟩ := step_cases served
      split at moved <;> cases moved
      rename_i claiming
      obtain ⟨memory, executions, same, rfl | rfl⟩ := claim_eq source index execution claimedAt
      · rw [same]
        exact remaining_eraseIdx_lt active
      · rw [same]
        refine remaining_set_lt active ?_
        rw [claiming]
        exact Nat.lt_succ_self 2
    | execute index services =>
      obtain ⟨rfl, execution, active, moved⟩ := step_cases served
      split at moved <;> cases moved
      rename_i claimed
      obtain ⟨memory, executions, same, rfl | ⟨result, -, rfl⟩⟩ :=
        execute_eq source index execution services
      · rw [same]
        exact remaining_eraseIdx_lt active
      · rw [same]
        refine remaining_set_lt active ?_
        rw [claimed]
        exact Nat.one_lt_two
    | finish index =>
      obtain ⟨rfl, execution, active, moved⟩ := step_cases served
      split at moved <;> cases moved
      exact remaining_eraseIdx_lt active
    | _ => exact executes.elim

/-- **The executions never wait for each other.** As long as there is one, the first can take its
next step, whatever the services answer to it. -/
theorem executions_of_exhausted (exhausted : system.Exhausted Command.executes server) :
    server.executions = [] := by
  cases listed : server.executions with
  | nil => rfl
  | cons execution rest =>
    have active : server.executions[0]? = some execution := by rw [listed]; rfl
    have enabled : ∃ command next, Command.executes command ∧
        system.step server command = some next := by
      cases stage : execution.stage with
      | claiming =>
        refine ⟨.claim 0 .newYear, server.claim 0 execution .newYear, trivial, ?_⟩
        refine TransitionSystem.step_ofOutputs.mpr ⟨none, ?_⟩
        change server.step 0 _ = _
        rw [Server.step, active, Option.bind_some, stage]
        rfl
      | claimed =>
        refine ⟨.execute 0 silentServices, server.execute 0 execution silentServices, trivial, ?_⟩
        refine TransitionSystem.step_ofOutputs.mpr ⟨none, ?_⟩
        change server.step 0 _ = _
        rw [Server.step, active, Option.bind_some, stage]
        rfl
      | saved clock result =>
        refine ⟨.finish 0, server.finish 0 clock result, trivial, ?_⟩
        refine TransitionSystem.step_ofOutputs.mpr ⟨none, ?_⟩
        change server.step 0 _ = _
        rw [Server.step, active, Option.bind_some, stage]
        rfl
    obtain ⟨command, next, executes, stepped⟩ := enabled
    rw [exhausted command executes] at stepped
    cases stepped

end Steps

section Lists

variable {α : Type*} {items : List α} {index : Nat} {item other : α}

/-- What differs from the item at an index stays when this is removed. -/
theorem mem_eraseIdx_of_ne (found : items[index]? = some item) (member : other ∈ items)
    (different : other ≠ item) : other ∈ items.eraseIdx index := by
  obtain ⟨position, present⟩ := List.mem_iff_getElem?.mp member
  refine List.mem_eraseIdx_iff_getElem?.mpr ⟨position, ?_, present⟩
  rintro rfl
  exact different (Option.some.inj (present.symm.trans found))

theorem mem_set_of_ne (found : items[index]? = some item) (member : other ∈ items)
    (different : other ≠ item) (replacement : α) : other ∈ items.set index replacement := by
  obtain ⟨position, present⟩ := List.mem_iff_getElem?.mp member
  refine List.mem_of_getElem? (i := position) ?_
  rw [List.getElem?_set_ne, present]
  rintro rfl
  exact different (Option.some.inj (present.symm.trans found))

end Lists

section Attendance

variable {server target : Server} {workflowId : String} {executions : List Execution}
  {index : Nat} {execution : Execution}

/-- The execution is to write the workflow: it has its result, or it handles its errors. -/
def Writes (workflowId : String) (execution : Execution) : Prop :=
  execution.workflowId = workflowId ∧
    (execution.background = true ∨ ∃ clock result, execution.stage = .saved clock result)

/-- One of the executions is to write the workflow. -/
def Awaited (workflowId : String) (executions : List Execution) : Prop :=
  ∃ execution ∈ executions, Writes workflowId execution

/-- The record says how its execution has ended. -/
def Finished (record : WorkflowState) : Prop :=
  record.executionState = .completed ∨ record.executionState = .failed

/-- The workflow is finished, or still to be written. -/
def Attended (workflowId : String) (server : Server) : Prop :=
  ∀ record, server.record workflowId = some record →
    Finished record ∨ Awaited workflowId server.executions

/-- An awaited workflow stays so when executions are added. -/
theorem Awaited.append (awaited : Awaited workflowId executions) (added : List Execution) :
    Awaited workflowId (executions ++ added) := by
  obtain ⟨execution, member, writes⟩ := awaited
  exact ⟨execution, List.mem_append_left added member, writes⟩

/-- It stays so when another execution ends. -/
theorem Awaited.eraseIdx (awaited : Awaited workflowId executions)
    (active : executions[index]? = some execution) (other : ¬Writes workflowId execution) :
    Awaited workflowId (executions.eraseIdx index) := by
  obtain ⟨witness, member, writes⟩ := awaited
  refine ⟨witness, mem_eraseIdx_of_ne active member ?_, writes⟩
  rintro rfl
  exact other writes

/-- It stays so when an execution advances that is still to write. -/
theorem Awaited.set (awaited : Awaited workflowId executions)
    (active : executions[index]? = some execution) {replacement : Execution}
    (kept : Writes workflowId execution → Writes workflowId replacement) :
    Awaited workflowId (executions.set index replacement) := by
  obtain ⟨witness, member, writes⟩ := awaited
  by_cases same : witness = execution
  · subst same
    obtain ⟨bound, -⟩ := List.getElem?_eq_some_iff.mp active
    exact ⟨replacement, List.mem_set bound replacement, kept writes⟩
  · exact ⟨witness, mem_set_of_ne active member same replacement, writes⟩

theorem Attended.eraseIdx (attended : Attended workflowId server)
    (active : server.executions[index]? = some execution)
    (other : ¬Writes workflowId execution) :
    Attended workflowId { server with executions := server.executions.eraseIdx index } :=
  fun record present => (attended record present).imp_right fun awaited =>
    awaited.eraseIdx active other

/-- An execution that ends has saved its workflow as a finished one. -/
theorem Attended.saved (attended : Attended workflowId server)
    (active : server.executions[index]? = some execution) {saved : WorkflowState}
    (finished : Finished saved) (named : saved.workflowId = execution.workflowId) :
    Attended workflowId
      { server with
        memory := server.memory.saveWorkflow saved
        executions := server.executions.eraseIdx index } := by
  have saves := saves_saveWorkflow server.memory saved
  intro record present
  by_cases whose : saved.workflowId = workflowId
  · subst whose
    cases saves.stored.symm.trans present
    refine .inl ?_
    rw [Finished, MemoryStore.load_executionState]
    exact finished
  · have same : server.record workflowId = some record :=
      (saves.others workflowId (Ne.symm whose)).symm.trans present
    exact attended.eraseIdx active (fun writes => whose (named.trans writes.1)) record same

/-- An execution that ends without a result. -/
theorem Attended.abandon (attended : Attended workflowId server) (sound : Sound server)
    (active : server.executions[index]? = some execution)
    (unsaved : ∀ clock result, execution.stage ≠ .saved clock result) (failure : Exn) :
    Attended workflowId (server.abandon index execution failure) := by
  rw [Server.abandon]
  split
  · cases found : server.memory.getWorkflow execution.workflowId with
    | none =>
      by_cases whose : execution.workflowId = workflowId
      · intro record present
        subst whose
        cases found.symm.trans present
      · exact attended.eraseIdx active fun writes => whose writes.1
    | some workflow =>
      have named := (sound.records execution.workflowId workflow found).1
      have finished : Finished (failedWorkflow failure workflow) := .inr rfl
      exact attended.saved active finished named
  · rename_i foreground
    refine attended.eraseIdx active fun writes => ?_
    rcases writes.2 with background | ⟨clock, result, saved⟩
    · exact foreground background
    · exact unsaved clock result saved

/-- A claim keeps the workflow attended. -/
theorem Attended.claim (attended : Attended workflowId server) (sound : Sound server)
    (active : server.executions[index]? = some execution) (claiming : execution.stage = .claiming)
    (claimedAt : DateTime) :
    Attended workflowId (server.claim index execution claimedAt) := by
  have unsaved : ∀ clock result, execution.stage ≠ .saved clock result := by
    intro clock result saved
    cases claiming.symm.trans saved
  have claims := MemoryStore.claim_cases (sound.keyed execution.workflowId) execution.workerId
    claimedAt
  rw [Server.claim]
  generalize server.memory.claimWorkflowForExecution execution.workflowId execution.workerId
    claimedAt = outcome at claims
  cases claims with
  | refused => exact attended.abandon sound active unsaved _
  | @claimed record found after next present queued stored running others backend =>
    have advances : Writes workflowId execution →
        Writes workflowId { execution with stage := .claimed } := by
      rintro ⟨named, background | ⟨clock, result, saved⟩⟩
      · exact ⟨named, .inl background⟩
      · exact absurd saved (unsaved clock result)
    intro current recorded
    by_cases whose : workflowId = execution.workflowId
    · subst whose
      -- the record was queued, so that an execution is to write it
      rcases attended record present with (completed | failed) | awaited
      · cases queued.symm.trans completed
      · cases queued.symm.trans failed
      · exact .inr (awaited.set active advances)
    · have same : server.record workflowId = some current :=
        (others workflowId whose).symm.trans recorded
      exact (attended current same).imp_right fun awaited => awaited.set active advances

/-- So does a run, which either saves or leaves a failed record. -/
theorem Attended.execute (attended : Attended workflowId server) (sound : Sound server)
    (active : server.executions[index]? = some execution) (claimed : execution.stage = .claimed)
    (services : Services) :
    Attended workflowId (server.execute index execution services) := by
  rw [Server.execute]
  rcases invoke_cases services server.memory (executionInput execution.workflowId
    execution.workerId execution.payload) with ⟨failure, -, failed⟩ | ⟨reached, ran, invoked⟩
  · rw [failed]
    refine attended.abandon sound active ?_ failure
    intro clock result saved
    cases claimed.symm.trans saved
  · rw [invoked]
    have delivered := delivered_stateToWorkflow (builtInitially_of_none rfl) ran
    have saves := saves_saveWorkflow server.memory (stateToWorkflow services.clock reached)
    have named : (stateToWorkflow services.clock reached).workflowId = execution.workflowId :=
      delivered.workflowId
    intro current recorded
    by_cases whose : workflowId = execution.workflowId
    · obtain ⟨bound, -⟩ := List.getElem?_eq_some_iff.mp active
      exact .inr ⟨_, List.mem_set bound _, whose.symm, .inr ⟨_, _, rfl⟩⟩
    · have same : server.record workflowId = some current :=
        (saves.others workflowId (named.symm ▸ whose)).symm.trans recorded
      exact (attended current same).imp_right fun awaited =>
        awaited.set active fun writes => absurd writes.1.symm whose

/-- An execution that ends has finished its workflow. -/
theorem Attended.finish (attended : Attended workflowId server) (sound : Sound server)
    (active : server.executions[index]? = some execution) {clock : Clock} {result : AgentState}
    (saved : execution.stage = .saved clock result) :
    Attended workflowId (server.finish index clock result) := by
  obtain ⟨services, reached, rfl, ran, rfl⟩ :=
    sound.executions execution (List.mem_of_getElem? active) clock result saved
  have delivered := delivered_executedWorkflow ran
  exact attended.saved active (.inl rfl) delivered.workflowId

end Attendance

section Commands

variable {server target : Server} {workflowId : String} {command : Command}
  {response : Option (Except Exn WorkflowState)}

/-- A creation changes the memory and adds executions. -/
theorem create_eq (server : Server) (goal : Goal) : ∃ memory added, (server.create goal).2 =
    { server with memory, executions := server.executions ++ added } := by
  unfold Server.create
  split
  · exact ⟨_, [], by rw [List.append_nil]⟩
  · split
    · exact ⟨_, [], by rw [List.append_nil]⟩
    · exact ⟨_, _, rfl⟩

/-- What a creation does beside the workspace store is done by `create`, if anything. -/
theorem createGoal_eq (server : Server) (goal : Goal) : (server.createGoal goal).2 = server ∨
    ∃ db, (server.createGoal goal).2 = { (server.create goal).2 with db } := by
  unfold Server.createGoal
  split
  · exact .inl rfl
  · exact .inl rfl
  · generalize server.create goal = served
    obtain ⟨outcome, middle⟩ := served
    cases outcome with
    | error failure => exact .inr ⟨middle.db, rfl⟩
    | ok workflow =>
      dsimp only
      split
      · exact .inr ⟨middle.db, rfl⟩
      · rename_i result db ensured
        obtain ⟨idempotencyKeys, keyed⟩ :=
          keyed_cases goal { middle with db } result.workflowId
        rw [keyed]
        exact .inr ⟨_, rfl⟩

/-- A command that is not a step of an execution ends none. -/
theorem handle_outside (handled : server.handle command = some (response, target))
    (outside : ¬command.executes) : ∃ memory db added,
      target = { server with memory, db, executions := server.executions ++ added } := by
  obtain ⟨-, ⟨-, rfl, rfl⟩ | ⟨-, served⟩⟩ := handle_cases handled
  · exact ⟨target.memory, target.db, [], by rw [List.append_nil]⟩
  · cases command with
    | createGoal goal =>
      cases served
      obtain ⟨memory, added, created⟩ := create_eq server goal
      rcases createGoal_eq server goal with same | ⟨db, same⟩
      · exact ⟨server.memory, server.db, [], same.trans (by rw [List.append_nil])⟩
      · exact ⟨memory, db, added, same.trans (by rw [created])⟩
    | continueGoal owner completedTaskIds services =>
      cases served
      obtain ⟨memory, same⟩ := continueGoal_eq server owner completedTaskIds services
      exact ⟨memory, server.db, [], same.trans (by rw [List.append_nil])⟩
    | getWorkflow owner tokens =>
      cases served
      obtain ⟨db, same⟩ := workspaceWorkflow_eq server owner tokens
      exact ⟨server.memory, db, [], same.trans (by rw [List.append_nil])⟩
    | refresh owner services ensureTokens saveTokens =>
      cases served
      obtain ⟨memory, db, same⟩ :=
        refreshWorkflow_eq server owner services ensureTokens saveTokens
      exact ⟨memory, db, [], same.trans (by rw [List.append_nil])⟩
    | submit owner submission readTokens writeTokens =>
      cases served
      obtain ⟨db, same⟩ := submit_eq server owner submission readTokens writeTokens
      exact ⟨server.memory, db, [], same.trans (by rw [List.append_nil])⟩
    | ingest owner filename =>
      cases served
      obtain ⟨memory, same⟩ := ingest_eq server owner filename
      exact ⟨memory, server.db, [], same.trans (by rw [List.append_nil])⟩
    | deliver owner workerId =>
      cases served
      rcases deliver_eq server owner workerId with same | ⟨execution, -, same⟩
      · exact ⟨server.memory, server.db, [], same.trans (by rw [List.append_nil])⟩
      · exact ⟨server.memory, server.db, [execution], same⟩
    | claim | execute | finish => exact absurd trivial outside

/-- A command that is neither a step of an execution nor the creation of the workflow. -/
theorem Attended.outside (attended : Attended workflowId server) (sound : Sound server)
    (handled : server.handle command = some (response, target)) (outside : ¬command.executes)
    (other : ∀ goal, command = .createGoal goal → goal.creation.workflowId ≠ workflowId) :
    Attended workflowId target := by
  obtain ⟨memory, db, added, rfl⟩ := handle_outside handled outside
  intro after recorded
  have before : ∀ record, server.record workflowId = some record →
      record.executionState = after.executionState →
      Finished after ∨ Awaited workflowId (server.executions ++ added) := by
    intro record present same
    rw [Finished, ← same]
    exact (attended record present).imp_right fun awaited => awaited.append added
  cases effect_handle sound handled workflowId with
  | kept same | synced _ _ same | submitted _ _ _ _ same =>
    exact before after (same.symm.trans recorded) rfl
  | created named => exact absurd named (other _ rfl)
  | progressed present stored work _ progress =>
    cases stored.symm.trans recorded
    cases progress with
    | claimed => exact absurd trivial outside
    | failed active background named state step =>
      rcases step with ⟨claimedAt, rfl⟩ | ⟨services, rfl⟩ <;> exact absurd trivial outside
    | ingested same => exact before _ present same.symm
  | copied | finished => exact absurd trivial outside
  | continued present _ state stored _ same =>
    cases stored.symm.trans recorded
    exact before _ present (state.symm.trans same.symm)
  | refreshed present _ state stored _ same =>
    cases stored.symm.trans recorded
    exact .inl (.inl (same.trans state))

/-- An asynchronous creation begins an execution in the background. -/
theorem attended_createGoal {goal : Goal} (asynchronous : goal.sync = false)
    (direct : server.queueConfigured = false)
    (unrecorded : server.record goal.creation.workflowId = none) :
    Attended goal.creation.workflowId (server.createGoal goal).2 := by
  rcases createGoal_eq server goal with same | ⟨db, same⟩
  · rw [same]
    intro record present
    cases unrecorded.symm.trans present
  · rw [same]
    intro record _
    have synchronous : ¬goal.sync = true := Bool.eq_false_iff.mp asynchronous
    have queued : ¬server.queueConfigured = true := Bool.eq_false_iff.mp direct
    rw [Server.create, if_neg synchronous, if_neg queued]
    exact .inr ⟨_, List.mem_append_right _ (List.mem_singleton_self _), rfl, .inl rfl⟩

/-- A step of an execution. -/
theorem Attended.executes (attended : Attended workflowId server) (sound : Sound server)
    (handled : server.handle command = some (response, target)) (executes : command.executes) :
    Attended workflowId target ∧ target.queueConfigured = server.queueConfigured := by
  obtain ⟨-, ⟨-, rfl, rfl⟩ | ⟨-, served⟩⟩ := handle_cases handled
  · exact ⟨attended, rfl⟩
  · cases command with
    | claim index claimedAt =>
      obtain ⟨rfl, execution, active, moved⟩ := step_cases served
      split at moved <;> cases moved
      rename_i claiming
      obtain ⟨memory, executions, same, -⟩ := claim_eq server index execution claimedAt
      have configured := congrArg Server.queueConfigured same
      exact ⟨attended.claim sound active claiming claimedAt, configured⟩
    | execute index services =>
      obtain ⟨rfl, execution, active, moved⟩ := step_cases served
      split at moved <;> cases moved
      rename_i claimed
      obtain ⟨memory, executions, same, -⟩ := execute_eq server index execution services
      have configured := congrArg Server.queueConfigured same
      exact ⟨attended.execute sound active claimed services, configured⟩
    | finish index =>
      obtain ⟨rfl, execution, active, moved⟩ := step_cases served
      split at moved <;> cases moved
      rename_i clock result saved
      exact ⟨attended.finish sound active saved, rfl⟩
    | _ => exact executes.elim

/-- The workflow is created asynchronously, if it is. -/
def Asynchronous (workflowId : String) (_ : Server) : Command → Prop
  | .createGoal goal => goal.creation.workflowId = workflowId → goal.sync = false
  | _ => True

/-- **Every command** leaves an unfinished workflow with an execution that is to write it. -/
theorem Attended.handle (attended : Attended workflowId server) (sound : Sound server)
    (direct : server.queueConfigured = false)
    (handled : server.handle command = some (response, target))
    (asynchronous : Asynchronous workflowId server command) :
    Attended workflowId target ∧ target.queueConfigured = false := by
  by_cases executes : command.executes
  · obtain ⟨still, same⟩ := attended.executes sound handled executes
    exact ⟨still, same.trans direct⟩
  · have configured : target.queueConfigured = false := by
      obtain ⟨memory, db, added, rfl⟩ := handle_outside handled executes
      exact direct
    refine ⟨?_, configured⟩
    by_cases creates : ∃ goal, command = .createGoal goal ∧ goal.creation.workflowId = workflowId
    · obtain ⟨goal, rfl, rfl⟩ := creates
      obtain ⟨unused, ⟨unrouted, -⟩ | ⟨-, served⟩⟩ := handle_cases handled
      · cases unrouted
      · simp only [Server.unused, Bool.and_eq_true] at unused
        cases served
        exact attended_createGoal (asynchronous rfl) direct
          (Option.isNone_iff_eq_none.mp unused.1.1.2)
    · refine attended.outside sound handled executes fun goal same named => ?_
      exact creates ⟨goal, same, named⟩

end Commands

section Runs

variable {start server : Server} {workflowId : String}

/-- The workflow is attended in every state of a run without a queue. -/
theorem attended_run (initial : Initial start) (direct : start.queueConfigured = false)
    (unrecorded : start.record workflowId = none)
    (run : system.Run (Asynchronous workflowId) start server) : Attended workflowId server := by
  have begun : Attended workflowId start ∧ start.queueConfigured = false := by
    refine ⟨fun record present => ?_, direct⟩
    cases unrecorded.symm.trans present
  refine (run_invariant (fun server => Attended workflowId server ∧
    server.queueConfigured = false) ?_ initial.sound begun run).2.1
  rintro source command response target sound ⟨attended, direct⟩ asynchronous handled
  exact attended.handle sound direct handled asynchronous

/-- A record is not removed. -/
theorem recorded_run {guard : Server → Command → Prop} {target : Server} (sound : Sound server)
    (recorded : (server.record workflowId).isSome) (run : system.Run guard server target) :
    (target.record workflowId).isSome := by
  refine (run_invariant (fun server => (server.record workflowId).isSome) ?_ sound recorded run).2
  rintro source command response next sound present _ handled
  cases effect_handle sound handled workflowId with
  | kept same | synced _ _ same | submitted _ _ _ _ same => exact same ▸ present
  | created _ _ _ stored | progressed _ stored | copied _ _ stored | finished _ _ _ stored
  | continued _ _ _ stored | refreshed _ _ _ stored => exact Option.isSome_of_eq_some stored

/-- The steps of executions create nothing. -/
theorem asynchronous_of_executes {command : Command} (executes : command.executes)
    (source : Server) : Asynchronous workflowId source command := by
  cases command with
  | createGoal => exact executes.elim
  | _ => trivial

/-- **No workflow is left unfinished,** as long as routes run one at a time and the calls of the
store do not fail. Without a queue, a workflow that is created asynchronously, whatever else is
requested, executed or delivered, is completed or failed, or one of its executions is still to
write it. From then on the executions take their steps in any order and whatever the
services answer, at most as many as are remaining; when none can be taken, which some order
reaches, the workflow is completed or failed. -/
theorem executions_finish (initial : Initial start) (direct : start.queueConfigured = false)
    (unrecorded : start.record workflowId = none)
    (run : system.Run (Asynchronous workflowId) start server) :
    Attended workflowId server ∧
    (∀ steps target, (∀ step ∈ steps, step.executes) →
      system.runFrom server steps = some target →
      steps.length + remaining target.executions ≤ remaining server.executions ∧
        (system.Exhausted Command.executes target → (server.record workflowId).isSome →
          ∃ record, target.record workflowId = some record ∧ Finished record)) ∧
    ∃ steps target, (∀ step ∈ steps, step.executes) ∧
      system.runFrom server steps = some target ∧ system.Exhausted Command.executes target := by
  refine ⟨attended_run initial direct unrecorded run, ?_, ?_⟩
  · intro steps target only done
    refine ⟨ranked_executions.length_add_le steps only done, fun exhausted recorded => ?_⟩
    have continued : system.Run (Asynchronous workflowId) server target :=
      TransitionSystem.run_of_labels steps
        (fun step member => asynchronous_of_executes (only step member)) done
    obtain ⟨record, present⟩ := Option.isSome_iff_exists.mp
      (recorded_run (sound_run initial.sound run) recorded continued)
    have attended := attended_run initial direct unrecorded (run.trans continued)
    rcases attended record present with finished | ⟨execution, member, -⟩
    · exact ⟨record, present, finished⟩
    · rw [executions_of_exhausted exhausted] at member
      cases member
  · exact ranked_executions.exists_exhausted server

/-- The server after an asynchronous creation. -/
def launchedServer : Server :=
  (system.runFrom emptyServer [.createGoal (taskGoal false)]).getD emptyServer

/-- A workflow that has just been created finishes in three steps. -/
theorem executions_finish_launched : ∃ steps target record,
    (∀ step ∈ steps, step.executes) ∧ system.runFrom launchedServer steps = some target ∧
      steps.length ≤ 3 ∧ target.record "wf" = some record ∧ Finished record := by
  have allowed : system.Allows (Asynchronous "wf") emptyServer [.createGoal (taskGoal false)] :=
    ⟨fun _ => rfl, trivial⟩
  have run : system.Run (Asynchronous "wf") emptyServer launchedServer :=
    TransitionSystem.run_of_allows [.createGoal (taskGoal false)] allowed rfl
  obtain ⟨-, finishes, steps, target, only, done, exhausted⟩ :=
    executions_finish initial_emptyServer rfl rfl run
  obtain ⟨bounded, finished⟩ := finishes steps target only done
  obtain ⟨record, present, ends⟩ := finished exhausted rfl
  have three : remaining launchedServer.executions = 3 := rfl
  exact ⟨steps, target, record, only, done, by omega, present, ends⟩

end Runs

end ActionPlan.Api
