import ActionPlan.Api.Soundness

/-! # Does a read show the completed workflow?

The memory store receives the results of executions and continuations; `GET`
answers from the workspace store whenever that has a row of the workflow. An
observer notes the tasks that a reader may expect since the memory store held
the workflow as completed, and `Timely` is the condition under which the read
path keeps up with them.
-/

namespace ActionPlan.Api

open ActionPlan.Foundation ActionPlan.Models ActionPlan.Memory ActionPlan.Agent
  ActionPlan.Workspace

variable (workflowId : String)

/-- The tasks of a workflow that the memory store holds as completed. -/
def completion (server : Server) : Option (List Task) :=
  ((server.record workflowId).filter fun record => record.executionState = .completed).map
    fun record => readied record.tasks

/-- The expectation after a step that may have completed the workflow. -/
def notice (source target : Server) (expected : Option (List Task)) : Option (List Task) :=
  if completion workflowId target = completion workflowId source then expected
  else (completion workflowId target).or expected

/-- What a reader may expect: the tasks with which the memory store last completed
the workflow, as edited since through the workspace. -/
def expect (source : Server) (command : Command) (response : Option (Except Exn WorkflowState))
    (target : Server) (expected : Option (List Task)) : Option (List Task) :=
  match command, response with
  | .submit owner submission _ _, some (.ok _) =>
    if owner = workflowId then expected.map fun tasks => readied (submission.editTasks tasks)
    else expected
  | .refresh owner _ _ _, some (.ok _) =>
    if owner = workflowId then completion workflowId target else expected
  | _, _ => notice workflowId source target expected

/-- The step does not complete the workflow behind a row of the workspace store, and
does not take a completed workflow back that has no row. -/
def Timely (seen : Server × Option (List Task)) (command : Command) : Prop :=
  match command with
  | .continueGoal owner completedTaskIds _ =>
    owner = workflowId → ∀ record, seen.1.record workflowId = some record →
      record.executionState = .completed →
        seen.1.stored workflowId = none ∨ Repeats record completedTaskIds
  | .finish index =>
    ∀ execution, seen.1.executions[index]? = some execution →
      execution.workflowId = workflowId → ∀ clock result, execution.stage = .saved clock result →
        ∀ state, seen.1.stored workflowId = some state →
          state.executionState = .completed ∧ state.tasks = readied (result.tasks.getD [])
  | .claim index _ =>
    ∀ execution, seen.1.executions[index]? = some execution →
      execution.workflowId = workflowId → execution.background →
        seen.2 = none ∨ (seen.1.stored workflowId).isSome
  | .execute index _ =>
    ∀ execution, seen.1.executions[index]? = some execution →
      execution.workflowId = workflowId → seen.2 = none ∨ (seen.1.stored workflowId).isSome
  | _ => True

/-- A read would show the tasks as those of a completed workflow. -/
def Shown (server : Server) (tasks : List Task) : Prop :=
  match server.stored workflowId with
  | some state => state.executionState = .completed ∧ state.tasks = tasks
  | none => completion workflowId server = some tasks

/-- What a reader expects is what a read would show. -/
def Fresh (seen : Server × Option (List Task)) : Prop :=
  ∀ tasks, seen.2 = some tasks → Shown workflowId seen.1 tasks

section Notes

variable {workflowId} {source target : Server} {expected : Option (List Task)}
  {tasks : List Task} {record : WorkflowState}

/-- The tasks of a completed record are those to be read. -/
theorem completion_of_completed (recorded : target.record workflowId = some record)
    (state : record.executionState = .completed) :
    completion workflowId target = some (readied record.tasks) := by
  rw [completion, recorded, Option.filter_some, if_pos (decide_eq_true state), Option.map_some]

/-- There is nothing to be read before the record is completed. -/
theorem completion_of_ne (recorded : target.record workflowId = some record)
    (state : record.executionState ≠ .completed) : completion workflowId target = none := by
  rw [completion, recorded, Option.filter_some, if_neg (by simpa using state), Option.map_none]

theorem completion_congr (same : target.record workflowId = source.record workflowId) :
    completion workflowId target = completion workflowId source := by
  rw [completion, same, completion]

/-- What is to be read comes from a completed record. -/
theorem completed_of_completion (completed : completion workflowId target = some tasks) :
    ∃ record, target.record workflowId = some record ∧ record.executionState = .completed ∧
      readied record.tasks = tasks := by
  obtain ⟨record, found, same⟩ := Option.map_eq_some_iff.mp completed
  obtain ⟨recorded, state⟩ := Option.filter_eq_some_iff.mp found
  exact ⟨record, recorded, of_decide_eq_true state, same⟩

/-- Where the record has not changed, the same is expected. -/
theorem notice_of_eq (same : completion workflowId target = completion workflowId source) :
    notice workflowId source target expected = expected := if_pos same

/-- A step that completes nothing keeps the expectation. -/
theorem notice_of_none (none : completion workflowId target = none) :
    notice workflowId source target expected = expected := by
  rw [notice, none, Option.none_or, ite_self]

/-- After a step that completes the workflow, its tasks are expected, unless it was
completed with these already. -/
theorem notice_cases (noticed : notice workflowId source target expected = some tasks) :
    completion workflowId target = some tasks ∨ expected = some tasks ∧
      (completion workflowId target = completion workflowId source ∨
        completion workflowId target = none) := by
  unfold notice at noticed
  split at noticed
  · rename_i same
    exact .inr ⟨noticed, .inl same⟩
  · cases completed : completion workflowId target with
    | none =>
        rw [completed, Option.none_or] at noticed
        exact .inr ⟨noticed, .inr rfl⟩
    | some other =>
        rw [completed, Option.some_or] at noticed
        exact .inl noticed

variable {command : Command} {response : Option (Except Exn WorkflowState)}

/-- A command that does not write the workflow successfully leaves the expectation
to its effect on the memory store. -/
theorem expect_of_not_writes
    (unwritten : ∀ returned, response = some (.ok returned) → ¬ command.writes workflowId)
    (same : completion workflowId target = completion workflowId source) :
    expect workflowId source command response target expected = expected := by
  unfold expect
  split
  · exact if_neg (unwritten _ rfl)
  · exact if_neg (unwritten _ rfl)
  · exact notice_of_eq same

end Notes

section Steps

variable {workflowId} {source target : Server} {expected : Option (List Task)}
  {tasks : List Task} {command : Command} {response : Option (Except Exn WorkflowState)}

/-- With a row, the row is answered. -/
theorem shown_present {state : WorkflowState} (stored : target.stored workflowId = some state) :
    Shown workflowId target tasks ↔ state.executionState = .completed ∧ state.tasks = tasks := by
  rw [Shown, stored]

/-- Without a row, the record is answered. -/
theorem shown_absent (absent : target.stored workflowId = none) :
    Shown workflowId target tasks ↔ completion workflowId target = some tasks := by
  rw [Shown, absent]

theorem shown_congr (completed : completion workflowId target = completion workflowId source)
    (stored : target.stored workflowId = source.stored workflowId) :
    Shown workflowId target tasks ↔ Shown workflowId source tasks := by
  rw [Shown, Shown, stored, completed]

/-- A workspace route loads what a read would show. -/
theorem Loaded.shown {tokens : Tokens} {base : WorkflowState}
    (loaded : Loaded source workflowId tokens base) (shown : Shown workflowId source tasks) :
    base.executionState = .completed ∧ base.tasks = tasks := by
  cases loaded with
  | present stored => exact (shown_present stored).mp shown
  | synced absent recorded =>
      obtain ⟨record, present, state, same⟩ :=
        completed_of_completion ((shown_absent absent).mp shown)
      cases recorded.symm.trans present
      exact ⟨state, same⟩

/-- A row hides what happens to the record. -/
theorem shown_of_isSome (present : (source.stored workflowId).isSome)
    (stored : target.stored workflowId = source.stored workflowId) :
    Shown workflowId target tasks ↔ Shown workflowId source tasks := by
  obtain ⟨state, found⟩ := Option.isSome_iff_exists.mp present
  rw [shown_present (stored.trans found), shown_present found]

/-- A step that changes neither the row nor the completion leaves a read as it was. -/
theorem shown_of_same (fresh : Fresh workflowId (source, expected))
    (same : completion workflowId target = completion workflowId source)
    (stored : target.stored workflowId = source.stored workflowId)
    (noted : notice workflowId source target expected = some tasks) :
    Shown workflowId target tasks :=
  (shown_congr same stored).mpr (fresh tasks ((notice_of_eq same).symm.trans noted))

/-- A step that ends a completion is hidden by a row, or nothing is expected. -/
theorem shown_of_gone (fresh : Fresh workflowId (source, expected))
    (gone : completion workflowId target = none)
    (stored : target.stored workflowId = source.stored workflowId)
    (hidden : expected = none ∨ (source.stored workflowId).isSome)
    (noted : notice workflowId source target expected = some tasks) :
    Shown workflowId target tasks := by
  have known : expected = some tasks := (notice_of_none gone).symm.trans noted
  rcases hidden with nothing | row
  · cases known.symm.trans nothing
  · exact (shown_of_isSome row stored).mpr (fresh tasks known)

/-- Without a row, a read shows the completion that a step has made. -/
theorem shown_of_absent (fresh : Fresh workflowId (source, expected))
    (absent : source.stored workflowId = none)
    (stored : target.stored workflowId = source.stored workflowId)
    (shows : (completion workflowId target).isSome)
    (noted : notice workflowId source target expected = some tasks) :
    Shown workflowId target tasks := by
  rw [shown_absent (stored.trans absent)]
  rcases notice_cases noted with completed | ⟨known, same | gone⟩
  · exact completed
  · exact same.trans ((shown_absent absent).mp (fresh tasks known))
  · rw [gone] at shows
    cases shows

/-- The tasks of a new workflow are shown when it is completed. -/
theorem shown_created {goal : Goal} (fresh : Fresh workflowId (source, expected))
    (unrecorded : source.record workflowId = none) (unstored : source.stored workflowId = none)
    {record : WorkflowState} (recorded : target.record workflowId = some record)
    (created : Created workflowId goal record (target.stored workflowId) response)
    (noted : notice workflowId source target expected = some tasks) :
    Shown workflowId target tasks := by
  rcases notice_cases noted with completed | ⟨known, -⟩
  · obtain ⟨other, present, state, rfl⟩ := completed_of_completion completed
    cases recorded.symm.trans present
    generalize found : target.stored workflowId = row at created
    cases created with
    | recorded failed => exact (shown_absent found).mpr completed
    | stored same sameState _ =>
        exact (shown_present found).mpr ⟨sameState.trans state, congrArg readied same⟩
  · have nothing : completion workflowId source = none := by
      rw [completion, unrecorded, Option.filter_none, Option.map_none]
    have shown := (shown_absent unstored).mp (fresh tasks known)
    rw [nothing] at shown
    cases shown

/-- Progress completes nothing, and a failure is hidden when it is timely. -/
theorem shown_progressed {before after : WorkflowState}
    (fresh : Fresh workflowId (source, expected))
    (timely : Timely workflowId (source, expected) command)
    (present : source.record workflowId = some before)
    (recorded : target.record workflowId = some after) (work : SameWork before after)
    (stored : target.stored workflowId = source.stored workflowId)
    (progress : Progress workflowId source before after command)
    (noted : expect workflowId source command none target expected = some tasks) :
    Shown workflowId target tasks := by
  cases progress with
  | claimed queued running =>
      have gone : completion workflowId target = none :=
        completion_of_ne recorded (by rw [running]; decide)
      have nothing : completion workflowId source = none :=
        completion_of_ne present (by rw [queued]; decide)
      exact shown_of_same fresh (gone.trans nothing.symm) stored noted
  | @failed _ index execution active background named state step =>
      have gone : completion workflowId target = none :=
        completion_of_ne recorded (by rw [state]; decide)
      rcases step with ⟨claimedAt, rfl⟩ | ⟨services, rfl⟩
      · exact shown_of_gone fresh gone stored (timely execution active named background) noted
      · exact shown_of_gone fresh gone stored (timely execution active named) noted
  | ingested state =>
      have same : completion workflowId target = completion workflowId source := by
        rw [completion, recorded, completion, present]
        simp only [Option.filter_some, state]
        split
        · rw [Option.map_some, Option.map_some, work.tasks]
        · rfl
      exact shown_of_same fresh same stored noted

/-- A finished execution shows its tasks, or those of a row that has them already. -/
theorem shown_finished {result : AgentState} {after : WorkflowState}
    (fresh : Fresh workflowId (source, expected))
    (allowed : ∀ state, source.stored workflowId = some state →
      state.executionState = .completed ∧ state.tasks = readied (result.tasks.getD []))
    (recorded : target.record workflowId = some after)
    (made : after.tasks = result.tasks.getD []) (state : after.executionState = .completed)
    (stored : target.stored workflowId = source.stored workflowId)
    (noted : notice workflowId source target expected = some tasks) :
    Shown workflowId target tasks := by
  have shows : completion workflowId target = some (readied (result.tasks.getD [])) :=
    made ▸ completion_of_completed recorded state
  cases found : source.stored workflowId with
  | none => exact shown_of_absent fresh found stored (by rw [shows]; rfl) noted
  | some row =>
      obtain ⟨rowState, rowTasks⟩ := allowed row found
      rw [shown_present (stored.trans found)]
      refine ⟨rowState, ?_⟩
      rcases notice_cases noted with completed | ⟨known, -⟩
      · rw [shows] at completed
        exact rowTasks.trans (Option.some.inj completed)
      · exact ((shown_present found).mp (fresh tasks known)).2

/-- A continuation of a completed workflow shows what it has made where there is no row, and
else it has completed nothing more. -/
theorem shown_continued {services : Services} {completedTaskIds : List String}
    {before returned after : WorkflowState} (sound : Sound source)
    (fresh : Fresh workflowId (source, expected))
    (timely : before.executionState = .completed →
      source.stored workflowId = none ∨ Repeats before completedTaskIds)
    (present : source.record workflowId = some before)
    (delivered : Delivered services (continueInput before completedTaskIds) returned)
    (state : returned.executionState = before.executionState)
    (recorded : target.record workflowId = some after) (work : SameWork returned after)
    (afterState : after.executionState = returned.executionState)
    (stored : target.stored workflowId = source.stored workflowId)
    (noted : notice workflowId source target expected = some tasks) :
    Shown workflowId target tasks := by
  have carried : after.executionState = before.executionState := afterState.trans state
  by_cases complete : before.executionState = .completed
  · have shows : completion workflowId target = some (readied after.tasks) :=
      completion_of_completed recorded (carried.trans complete)
    rcases timely complete with absent | repeats
    · exact shown_of_absent fresh absent stored (by rw [shows]; rfl) noted
    · have produced := (sound.records _ _ present).2
      have kept : after.tasks = before.tasks :=
        work.tasks.trans (delivered.tasks_of_repeats produced repeats)
      have same : completion workflowId target = completion workflowId source := by
        rw [shows, completion_of_completed present complete, kept]
      exact shown_of_same fresh same stored noted
  · have gone : completion workflowId target = none :=
      completion_of_ne recorded (by rw [carried]; exact complete)
    exact shown_of_same fresh (gone.trans (completion_of_ne present complete).symm) stored noted

/-- **Every timely command keeps the read path up to date.** -/
theorem fresh_step (sound : Sound source) (fresh : Fresh workflowId (source, expected))
    (timely : Timely workflowId (source, expected) command)
    (handled : source.handle command = some (response, target)) :
    Fresh workflowId (target, expect workflowId source command response target expected) := by
  intro tasks noted
  change expect workflowId source command response target expected = some tasks at noted
  change Shown workflowId target tasks
  cases effect_handle sound handled workflowId with
  | kept record stored answer =>
      have same := completion_congr record
      rw [expect_of_not_writes (fun returned ok => (answer returned ok).1) same] at noted
      exact (shown_congr same stored).mpr (fresh tasks noted)
  | @synced _ _ _ record absent recorded same stored answer =>
      rw [expect_of_not_writes (not_writes_of_read answer) (completion_congr same)] at noted
      obtain ⟨other, present, state, readied⟩ :=
        completed_of_completion ((shown_absent absent).mp (fresh tasks noted))
      cases recorded.symm.trans present
      exact (shown_present stored).mpr ⟨state, readied⟩
  | @submitted submission readTokens writeTokens base draft _ loaded prepared version valid same
      stored =>
      have edited : expected.map (fun tasks => readied (submission.editTasks tasks)) =
        some tasks := (if_pos rfl).symm.trans noted
      obtain ⟨before, known, rfl⟩ := Option.map_eq_some_iff.mp edited
      obtain ⟨state, rfl⟩ := loaded.shown (fresh before known)
      have changed := Submission.prepare_ok prepared
      refine (shown_present stored).mpr ⟨?_, changed.tasks⟩
      exact (applied_executionState submission.request.change).trans
        (changed.executionState.trans state)
  | created named unrecorded unstored recorded owned produced created =>
      exact shown_created fresh unrecorded unstored recorded created noted
  | progressed present recorded work stored progress =>
      exact shown_progressed fresh timely present recorded work stored progress noted
  | @copied index services execution _ after active named recorded owned produced completed state
      stored =>
      have gone : completion workflowId target = none :=
        completion_of_ne recorded (by rw [state]; decide)
      exact shown_of_gone fresh gone stored (timely execution active named) noted
  | @finished index execution clock result _ after active named saved recorded owned produced
      completed made state stored =>
      exact shown_finished fresh (timely execution active named clock result saved) recorded made
        state stored noted
  | continued present delivered state recorded work afterState stored =>
      exact shown_continued sound fresh (timely rfl _ present) present delivered state recorded
        work afterState stored noted
  | @refreshed services ensureTokens saveTokens _ before rebuilt after payload present delivered
      state recorded work afterState stored =>
      have shows : completion workflowId target = some (readied after.tasks) :=
        completion_of_completed recorded (afterState.trans state)
      have noted : completion workflowId target = some tasks := (if_pos rfl).symm.trans noted
      rw [shows] at noted
      obtain rfl := Option.some.inj noted
      exact (shown_present stored).mpr ⟨state, by rw [work.tasks]; rfl⟩

/-- A reader expects something of every completed workflow. -/
def Noticed (workflowId : String) (seen : Server × Option (List Task)) : Prop :=
  (completion workflowId seen.1).isSome → seen.2.isSome

/-- An expectation is that of a completed record. -/
theorem noticed_notice (noticed : Noticed workflowId (source, expected)) :
    Noticed workflowId (target, notice workflowId source target expected) := by
  intro completed
  change (notice workflowId source target expected).isSome
  unfold notice
  split
  · rename_i same
    exact noticed (same ▸ completed)
  · rw [Option.isSome_or]
    exact Bool.or_eq_true_iff.mpr (.inl completed)

/-- One command keeps the expectations right. -/
theorem noticed_step (sound : Sound source) (noticed : Noticed workflowId (source, expected))
    (handled : source.handle command = some (response, target)) :
    Noticed workflowId (target, expect workflowId source command response target expected) := by
  cases effect_handle sound handled workflowId with
  | kept record stored answer =>
      have same := completion_congr record
      rw [expect_of_not_writes (fun returned ok => (answer returned ok).1) same]
      exact fun completed => noticed (same ▸ completed)
  | synced absent recorded record stored answer =>
      have same := completion_congr record
      rw [expect_of_not_writes (not_writes_of_read answer) same]
      exact fun completed => noticed (same ▸ completed)
  | submitted _ _ _ _ record _ =>
      intro completed
      have before := noticed ((completion_congr record) ▸ completed)
      change (if workflowId = workflowId then _ else _ : Option (List Task)).isSome
      rw [if_pos rfl, Option.isSome_map]
      exact before
  | refreshed =>
      intro completed
      change (if workflowId = workflowId then _ else _ : Option (List Task)).isSome
      rw [if_pos rfl]
      exact completed
  | progressed _ _ _ _ progress =>
      cases progress with
      | claimed | ingested => exact noticed_notice noticed
      | failed _ _ _ _ step =>
          rcases step with ⟨claimedAt, rfl⟩ | ⟨services, rfl⟩
          · exact noticed_notice noticed
          · exact noticed_notice noticed
  | created | copied | finished | continued => exact noticed_notice noticed

/-- A response with a completed workflow and its tasks. -/
def Answers (response : Option (Except Exn WorkflowState)) (tasks : List Task) : Prop :=
  ∃ returned, response = some (.ok returned) ∧ returned.executionState = .completed ∧
    returned.tasks = tasks

/-- A read answers what is shown. -/
theorem answers_of_shown (sound : Sound source) (shown : Shown workflowId source tasks)
    {tokens : Tokens}
    (handled : source.handle (.getWorkflow workflowId tokens) = some (response, target)) :
    Answers response tasks := by
  obtain ⟨answer, rfl, read⟩ := read_of_handle sound handled
  cases read with
  | present stored => exact ⟨_, rfl, (shown_present stored).mp shown⟩
  | missing absent unrecorded =>
      obtain ⟨record, present, -⟩ := completed_of_completion ((shown_absent absent).mp shown)
      rw [unrecorded] at present
      cases present
  | synced absent recorded written =>
      obtain ⟨record, present, state, same⟩ :=
        completed_of_completion ((shown_absent absent).mp shown)
      cases recorded.symm.trans present
      exact ⟨_, rfl, state, same⟩

end Steps

section Runs

variable {workflowId} {start seen : Server × Option (List Task)}

/-- Every read answers with the completed workflow that is expected. -/
def ReadsCompleted (workflowId : String) (seen : Server × Option (List Task)) : Prop :=
  ∀ tasks tokens response target, seen.2 = some tasks →
    seen.1.handle (.getWorkflow workflowId tokens) = some (response, target) →
    Answers response tasks

/-- **A timely server answers with the completed workflow.** Once the memory store
has held a workflow as completed, a read answers with it and its tasks. -/
theorem completed_read (initial : Initial start.1)
    (noted : start.2 = completion workflowId start.1)
    (run : (TransitionSystem.observed Server.handle (expect workflowId)).Run (Timely workflowId)
      start seen) :
    Noticed workflowId seen ∧ ReadsCompleted workflowId seen := by
  have holds : Sound seen.1 ∧ Noticed workflowId seen ∧ Fresh workflowId seen := by
    refine observed_invariant (fun seen => Noticed workflowId seen ∧ Fresh workflowId seen) ?_
      initial ⟨?_, ?_⟩ run
    · intro source command response target expected sound ⟨noticed, fresh⟩ timely handled
      exact ⟨noticed_step sound noticed handled, fresh_step sound fresh timely handled⟩
    · intro completed
      rw [noted]
      exact completed
    · intro tasks expected
      have absent : start.1.stored workflowId = none := by
        rw [Server.stored, initial.db]
        rfl
      exact (shown_absent absent).mpr (noted.symm.trans expected)
  obtain ⟨sound, noticed, fresh⟩ := holds
  exact ⟨noticed, fun tasks tokens response target expected handled =>
    answers_of_shown sound (fresh tasks expected) handled⟩

/-- A workflow that is created synchronously, edited, and continued without news. -/
def editedRun : List Command :=
  [.createGoal (taskGoal true),
    .submit "wf" (.transition "task_1" { status := .inProgress, version := firstVersion })
      (tokensOf "read") (tokensOf "written"),
    .continueGoal "wf" [] taskServices]

def edited : Server × Option (List Task) :=
  ((TransitionSystem.observed Server.handle (expect "wf")).runFrom (emptyServer, none)
    editedRun).getD (emptyServer, none)

theorem allows_editedRun : (TransitionSystem.observed Server.handle (expect "wf")).Allows
    (Timely "wf") (emptyServer, none) editedRun := by
  refine ⟨trivial, trivial, fun _ record recorded _ => ?_, trivial⟩
  cases recorded
  exact .inr ⟨List.cons_ne_nil _ _, rfl⟩

/-- An edit of the completed plan, followed by a read. -/
theorem completed_read_edited : Noticed "wf" edited ∧ ReadsCompleted "wf" edited :=
  @completed_read "wf" (emptyServer, none) edited initial_emptyServer rfl
    (TransitionSystem.run_of_allows editedRun allows_editedRun (by rfl))

/-- A workflow that is created asynchronously and executed. -/
def executedRun : List Command :=
  [.createGoal (taskGoal false), .claim 0 .newYear, .execute 0 taskServices, .finish 0]

def executed : Server × Option (List Task) :=
  ((TransitionSystem.observed Server.handle (expect "wf")).runFrom (emptyServer, none)
    executedRun).getD (emptyServer, none)

/-- The read answers with the row that the creation has stored. -/
theorem queued_read : ¬ ∀ (workflowId : String) (start seen : Server × Option (List Task)),
    Initial start.1 → start.2 = completion workflowId start.1 →
      (TransitionSystem.observed Server.handle (expect workflowId)).Run
        TransitionSystem.unguarded start seen →
      ReadsCompleted workflowId seen := by
  intro claim
  have reads := claim "wf" (emptyServer, none) executed initial_emptyServer rfl
    (TransitionSystem.run_of_runFrom executedRun rfl)
  obtain ⟨tasks, expected⟩ : ∃ tasks, executed.2 = some tasks := ⟨_, rfl⟩
  obtain ⟨returned, answer, completed, -⟩ :=
    reads tasks (tokensOf "read") _ _ expected rfl
  cases answer
  cases completed

end Runs

end ActionPlan.Api
