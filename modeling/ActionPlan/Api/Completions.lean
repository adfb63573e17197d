import ActionPlan.Api.Soundness

/-! # Does a reported completion stay?

Transitions complete tasks in the workspace store and continuations in the
memory store. An observer notes the tasks that were reported as completed, by
their ids and requirements, and `Carried` is the condition under which the
operations on the other store carry the completions along.
-/

namespace ActionPlan.Api

open ActionPlan.Foundation ActionPlan.Models ActionPlan.Memory ActionPlan.Agent
  ActionPlan.Workspace

/-- What identifies a task in an answer: its id and its requirements. -/
abbrev TaskKey := String × List String

def taskKey (task : Task) : TaskKey := (task.id, task.requirementIds)

/-- The tasks that are completed in an answer. -/
def completedKeys (tasks : List Task) : List TaskKey :=
  (tasks.filter fun task => task.status = .completed).map taskKey

/-- Every reported task of the list is completed. -/
def Remembers (reported : List TaskKey) (tasks : List Task) : Prop :=
  ∀ task ∈ tasks, taskKey task ∈ reported → task.status = .completed

variable (workflowId : String)

/-- What is reported: the completed tasks in the answers of transitions and continuations. -/
def report (_ : Server) (command : Command) (response : Option (Except Exn WorkflowState))
    (_ : Server) (reported : List TaskKey) : List TaskKey :=
  match command, response with
  | .submit owner (.transition _ _) _ _, some (.ok returned)
  | .continueGoal owner _ _, some (.ok returned) =>
    if owner = workflowId then completedKeys returned.tasks ++ reported else reported
  | _, _ => reported

/-- The command answers with the workflow. -/
def Command.answers : Command → Prop
  | getWorkflow owner _ | continueGoal owner _ _ | refresh owner _ _ _ => owner = workflowId
  | createGoal _ | submit _ _ _ _ | ingest _ _ | deliver _ _ | claim _ _ | execute _ _
  | finish _ => False

/-- The record can have the task in a continuation. -/
def Mentions (record : WorkflowState) (key : TaskKey) : Prop :=
  record.tasks = [] ∨ ∃ task ∈ record.tasks, taskKey task = key

/-- The completions are known where the command looks for them. A continuation
knows those of the record and those that it is posted, and completes no task of the
record that the row does not have as completed; a refresh knows those of the record;
an execution knows none; a revised plan keeps them. -/
def Carried (seen : Server × List TaskKey) (command : Command) : Prop :=
  match command with
  | .continueGoal owner completedTaskIds _ =>
    owner = workflowId → ∀ record state, seen.1.record workflowId = some record →
      seen.1.stored workflowId = some state →
        (∀ key ∈ seen.2, Mentions record key →
          key.1 ∈ initialCompleted (continueInput record completedTaskIds)) ∧
        ∀ task ∈ state.tasks, Mentions record (taskKey task) →
          task.id ∈ initialCompleted (continueInput record completedTaskIds) →
            task.status = .completed
  | .refresh owner _ _ _ =>
    owner = workflowId → ∀ record state, seen.1.record workflowId = some record →
      seen.1.stored workflowId = some state → ∀ key ∈ seen.2, key.1 ∈ record.completedTasks
  | .execute index _ | .finish index =>
    ∀ execution, seen.1.executions[index]? = some execution →
      execution.workflowId = workflowId → (seen.1.stored workflowId).isSome ∨ seen.2 = []
  | .submit owner (.revise payload) _ _ => owner = workflowId → Remembers seen.2 payload.tasks
  | _ => True

/-- The completions are in the row of the workflow, or else in its record. -/
def Kept (seen : Server × List TaskKey) : Prop :=
  match seen.1.stored workflowId with
  | some state => Remembers seen.2 state.tasks
  | none => ∀ key ∈ seen.2, ∃ record, seen.1.record workflowId = some record ∧
      key.1 ∈ record.completedTasks

section Tasks

variable {workflowId} {reported : List TaskKey} {tasks : List Task}

theorem mem_completedKeys {key : TaskKey} :
    key ∈ completedKeys tasks ↔
      ∃ task ∈ tasks, task.status = .completed ∧ taskKey task = key := by
  simp [completedKeys, and_assoc]

/-- Completions that are remembered before and after a list changes. -/
theorem Remembers.of_map {change : Task → Task} (remembers : Remembers reported tasks)
    (key : ∀ task ∈ tasks, taskKey (change task) = taskKey task)
    (status : ∀ task ∈ tasks, task.status = .completed → (change task).status = .completed) :
    Remembers reported (tasks.map change) := by
  intro task member known
  obtain ⟨before, beforeMember, rfl⟩ := List.mem_map.mp member
  rw [key before beforeMember] at known
  exact status before beforeMember (remembers before beforeMember known)

theorem Remembers.map_recomputeTask (remembers : Remembers reported tasks) :
    Remembers reported (readied tasks) :=
  remembers.of_map (fun task _ => by simp [taskKey]) fun task _ => (recomputeTask_completed _ _).mpr

/-- A list with distinct ids remembers what it reports itself. -/
theorem remembers_completedKeys (distinct : (tasks.map Task.id).Nodup) :
    Remembers (completedKeys tasks) tasks := by
  intro task member known
  obtain ⟨other, otherMember, completed, same⟩ := mem_completedKeys.mp known
  have equal : other = task :=
    List.inj_on_of_nodup_map distinct otherMember member (congrArg Prod.fst same)
  exact equal ▸ completed

theorem Remembers.append {more : List TaskKey} (left : Remembers more tasks)
    (right : Remembers reported tasks) : Remembers (more ++ reported) tasks := by
  intro task member known
  rcases List.mem_append.mp known with known | known
  · exact left task member known
  · exact right task member known

/-- A record remembers the tasks that it has as completed. -/
theorem remembers_of_produced {record : WorkflowState} (produced : Produced record)
    (known : ∀ task ∈ record.tasks, taskKey task ∈ reported → task.id ∈ record.completedTasks) :
    Remembers reported record.tasks :=
  fun task member key => (produced.completed task member).mpr (known task member key)

/-- A submission undoes no completion, unless it revises the plan. -/
theorem Remembers.editTasks {submission : Submission} {base draft : WorkflowState}
    (remembers : Remembers reported base.tasks)
    (valid : TaskPlan.validateTasks base.tasks = .ok ())
    (prepared : submission.request.change.prepare base = .ok draft)
    (revised : ∀ payload, submission = .revise payload → Remembers reported payload.tasks) :
    Remembers reported (submission.editTasks base.tasks) := by
  cases submission with
  | patch taskId payload =>
      apply remembers.of_map
      · intro task _
        split <;> rfl
      · intro task _ completed
        split <;> exact completed
  | transition taskId payload =>
      obtain ⟨⟨found, foundMember, named, permitted, -⟩, -⟩ := transitionTask_ok prepared
      apply remembers.map_recomputeTask.of_map
      · intro task _
        rw [setStatus]
        split <;> rfl
      · intro task member completed
        rw [setStatus]
        split
        · rename_i same
          have distinct : ((readied base.tasks).map Task.id).Nodup := by
            rw [ids_readied]
            exact TaskPlan.nodup_of_validateTasks valid
          have equal : found = task :=
            List.inj_on_of_nodup_map distinct foundMember member (named.trans same.symm)
          rw [equal, completed] at permitted
          cases permitted
        · exact completed
  | revise payload => exact revised payload rfl
  | update payload => exact remembers
  | decide recommendationId payload => exact remembers

end Tasks

section Steps

variable {workflowId} {source target : Server} {reported : List TaskKey}
  {command : Command} {response : Option (Except Exn WorkflowState)}

theorem kept_present {state : WorkflowState} (stored : target.stored workflowId = some state) :
    Kept workflowId (target, reported) ↔ Remembers reported state.tasks := by
  rw [Kept, stored]

theorem kept_absent (absent : target.stored workflowId = none) :
    Kept workflowId (target, reported) ↔ ∀ key ∈ reported, ∃ record,
      target.record workflowId = some record ∧ key.1 ∈ record.completedTasks := by
  rw [Kept, absent]

theorem kept_nil : Kept workflowId (target, []) := by
  cases stored : target.stored workflowId with
  | some state => exact (kept_present stored).mpr fun task _ known => by cases known
  | none => exact (kept_absent stored).mpr fun key known => by cases known

/-- A row hides what happens to the record. -/
theorem kept_of_isSome (present : (source.stored workflowId).isSome)
    (stored : target.stored workflowId = source.stored workflowId)
    (kept : Kept workflowId (source, reported)) : Kept workflowId (target, reported) := by
  obtain ⟨state, found⟩ := Option.isSome_iff_exists.mp present
  exact (kept_present (stored.trans found)).mpr ((kept_present found).mp kept)

/-- Without a row, the reported tasks are completed in the record. -/
theorem remembers_record (kept : Kept workflowId (source, reported))
    (absent : source.stored workflowId = none) {record : WorkflowState}
    (recorded : source.record workflowId = some record) (produced : Produced record) :
    Remembers reported record.tasks := by
  apply remembers_of_produced produced
  intro task _ known
  obtain ⟨other, present, completed⟩ := (kept_absent absent).mp kept _ known
  cases recorded.symm.trans present
  exact completed

/-- A workspace route loads the reported completions. -/
theorem Loaded.remembers (sound : Sound source) (kept : Kept workflowId (source, reported))
    {tokens : Tokens} {base : WorkflowState} (loaded : Loaded source workflowId tokens base) :
    Remembers reported base.tasks := by
  cases loaded with
  | present stored => exact (kept_present stored).mp kept
  | synced absent recorded =>
      exact (remembers_record kept absent recorded
        (sound.records _ _ recorded).2).map_recomputeTask

theorem Loaded.valid (sound : Sound source) {tokens : Tokens} {base : WorkflowState}
    (loaded : Loaded source workflowId tokens base) :
    TaskPlan.validateTasks base.tasks = .ok () := by
  cases loaded with
  | present stored => exact (sound.states _ _ stored).valid
  | synced _ recorded =>
      exact (validateTasks_readied _).trans (sound.valid_record recorded)

theorem report_of_not_writes
    (unwritten : ∀ returned, response = some (.ok returned) → ¬ command.writes workflowId) :
    report workflowId source command response target reported = reported := by
  unfold report
  split
  · exact if_neg (unwritten _ rfl)
  · exact if_neg (unwritten _ rfl)
  · rfl

/-- A run knows what its initial state knew. -/
theorem completed_of_delivered {services : Services} {initial : AgentState}
    {saved : WorkflowState} (delivered : Delivered services initial saved) {taskId : String}
    (known : taskId ∈ initial.completedList) : taskId ∈ saved.completedTasks := by
  rw [delivered.completed, initialCompleted, mem_sortedSet]
  exact List.mem_append_left _ known

/-- The tasks of a continuation are tasks that the record can have. -/
theorem mentions_of_continued {services : Services} {before returned : WorkflowState}
    {completedTaskIds : List String}
    (delivered : Delivered services (continueInput before completedTaskIds) returned)
    (produced : Produced before) {task : Task} (member : task ∈ returned.tasks) :
    Mentions before (taskKey task) := by
  by_cases empty : before.tasks = []
  · exact .inl empty
  · have image : resetTask task ∈ before.tasks.map resetTask :=
      delivered.reset_of_continued produced empty ▸ List.mem_map_of_mem member
    obtain ⟨planned, plannedMember, same⟩ := List.mem_map.mp image
    have key : taskKey (resetTask planned) = taskKey (resetTask task) := congrArg taskKey same
    exact .inr ⟨planned, plannedMember, key⟩

/-- A carried continuation reports the completions again. -/
theorem remembers_continued (sound : Sound source) (kept : Kept workflowId (source, reported))
    {services : Services} {before returned : WorkflowState} {completedTaskIds : List String}
    (carried : Carried workflowId (source, reported)
      (.continueGoal workflowId completedTaskIds services))
    (present : source.record workflowId = some before)
    (delivered : Delivered services (continueInput before completedTaskIds) returned) :
    Remembers reported returned.tasks := by
  apply remembers_of_produced delivered.produced
  intro task member known
  cases stored : source.stored workflowId with
  | none =>
      obtain ⟨record, recorded, completed⟩ := (kept_absent stored).mp kept _ known
      cases present.symm.trans recorded
      exact completed_of_delivered delivered completed
  | some state =>
      have mentions := mentions_of_continued delivered (sound.records _ _ present).2 member
      rw [delivered.completed]
      exact (carried rfl before state present stored).1 _ known mentions

/-- A carried refresh reports the completions again. -/
theorem remembers_rebuilt (kept : Kept workflowId (source, reported)) {services : Services}
    {ensureTokens saveTokens : Tokens} {before rebuilt : WorkflowState}
    {payload : WorkRequestInput}
    (carried : Carried workflowId (source, reported)
      (.refresh workflowId services ensureTokens saveTokens))
    (present : source.record workflowId = some before)
    (delivered : Delivered services (rebuildInput before payload) rebuilt) :
    Remembers reported rebuilt.tasks := by
  apply remembers_of_produced delivered.produced
  intro task member known
  apply completed_of_delivered delivered
  cases stored : source.stored workflowId with
  | none =>
      obtain ⟨record, recorded, completed⟩ := (kept_absent stored).mp kept _ known
      cases present.symm.trans recorded
      exact completed
  | some state => exact carried rfl before state present stored _ known

/-- A written submission keeps the reported completions, and a transition reports its own. -/
theorem kept_submitted {submission : Submission} {readTokens writeTokens : Tokens}
    {base draft : WorkflowState} (sound : Sound source) (kept : Kept workflowId (source, reported))
    (carried : Carried workflowId (source, reported)
      (.submit workflowId submission readTokens writeTokens))
    (loaded : Loaded source workflowId readTokens base)
    (prepared : submission.request.change.prepare base = .ok draft)
    (valid : TaskPlan.validateTasks (submitted submission writeTokens draft).tasks = .ok ())
    (stored : target.stored workflowId =
      some (recomputed (submitted submission writeTokens draft)).jsonCopy) :
    Kept workflowId (target, report workflowId source
      (.submit workflowId submission readTokens writeTokens)
      (some (.ok (identified writeTokens (submitted submission writeTokens draft)))) target
      reported) := by
  have edited : readied (submission.request.change.applied draft).tasks =
      readied (submission.editTasks base.tasks) := (Submission.prepare_ok prepared).tasks
  have revised : ∀ payload, submission = .revise payload → Remembers reported payload.tasks := by
    rintro payload rfl
    exact carried rfl
  have remembers : Remembers reported (readied (submission.editTasks base.tasks)) :=
    ((loaded.remembers sound kept).editTasks (loaded.valid sound) prepared
      revised).map_recomputeTask
  have distinct : ((readied (submission.request.change.applied draft).tasks).map
      Task.id).Nodup := by
    rw [ids_readied]
    exact TaskPlan.nodup_of_validateTasks valid
  rw [← edited] at remembers
  rw [kept_present stored]
  cases submission with
  | transition taskId payload =>
      change Remembers (if workflowId = workflowId then _ else _) _
      rw [if_pos rfl]
      exact (remembers_completedKeys distinct).append remembers
  | patch | revise | update | decide => exact remembers

/-- A carried continuation keeps the reported completions and reports its own. -/
theorem kept_continued {services : Services} {completedTaskIds : List String}
    {before returned after : WorkflowState} (sound : Sound source)
    (kept : Kept workflowId (source, reported))
    (carried : Carried workflowId (source, reported)
      (.continueGoal workflowId completedTaskIds services))
    (present : source.record workflowId = some before)
    (delivered : Delivered services (continueInput before completedTaskIds) returned)
    (recorded : target.record workflowId = some after) (work : SameWork returned after)
    (stored : target.stored workflowId = source.stored workflowId) :
    Kept workflowId (target, completedKeys returned.tasks ++ reported) := by
  have produced := delivered.produced
  cases found : source.stored workflowId with
  | none =>
      rw [kept_absent (stored.trans found)]
      intro key known
      refine ⟨after, recorded, ?_⟩
      rw [work.completedTasks]
      rcases List.mem_append.mp known with news | known
      · obtain ⟨task, member, complete, rfl⟩ := mem_completedKeys.mp news
        exact (produced.completed task member).mp complete
      · obtain ⟨record, same, completed⟩ := (kept_absent found).mp kept key known
        cases present.symm.trans same
        exact completed_of_delivered delivered completed
  | some row =>
      rw [kept_present (stored.trans found)]
      refine Remembers.append ?_ ((kept_present found).mp kept)
      intro task member news
      obtain ⟨other, otherMember, complete, same⟩ := mem_completedKeys.mp news
      have mentions := mentions_of_continued delivered (sound.records _ _ present).2 otherMember
      have known := (produced.completed other otherMember).mp complete
      rw [delivered.completed] at known
      rw [same] at mentions
      have ids : other.id = task.id := congrArg Prod.fst same
      exact (carried rfl before row present found).2 task member mentions (ids ▸ known)

/-- **Every carried command keeps the reported completions.** -/
theorem kept_step (sound : Sound source) (kept : Kept workflowId (source, reported))
    (carried : Carried workflowId (source, reported) command)
    (handled : source.handle command = some (response, target)) :
    Kept workflowId (target, report workflowId source command response target reported) := by
  cases effect_handle sound handled workflowId with
  | kept record stored answer =>
      rw [report_of_not_writes fun returned ok => (answer returned ok).1]
      cases found : source.stored workflowId with
      | some state => exact kept_of_isSome (by rw [found]; rfl) stored kept
      | none =>
          have known := (kept_absent found).mp kept
          rw [← record] at known
          exact (kept_absent (stored.trans found)).mpr known
  | synced absent recorded same stored answer =>
      rw [report_of_not_writes (not_writes_of_read answer), kept_present stored]
      exact (remembers_record kept absent recorded
        (sound.records _ _ recorded).2).map_recomputeTask
  | submitted loaded prepared version valid same stored =>
      exact kept_submitted sound kept carried loaded prepared valid stored
  | created named unrecorded unstored recorded owned produced created =>
      have nothing : reported = [] := by
        rw [List.eq_nil_iff_forall_not_mem]
        intro key known
        obtain ⟨record, present, -⟩ := (kept_absent unstored).mp kept key known
        rw [unrecorded] at present
        cases present
      rw [nothing]
      exact kept_nil
  | progressed present recorded work stored progress =>
      rw [report_of_not_writes fun returned ok => by cases ok]
      cases found : source.stored workflowId with
      | some state => exact kept_of_isSome (by rw [found]; rfl) stored kept
      | none =>
          rw [kept_absent (stored.trans found)]
          intro key known
          obtain ⟨record, same, completed⟩ := (kept_absent found).mp kept key known
          cases present.symm.trans same
          exact ⟨_, recorded, work.completedTasks.symm ▸ completed⟩
  | copied active named recorded owned produced completed state stored =>
      rcases carried _ active named with present | nothing
      · exact kept_of_isSome present stored kept
      · obtain rfl : reported = [] := nothing
        exact kept_nil
  | finished active named saved recorded owned produced completed tasks state stored =>
      rcases carried _ active named with present | nothing
      · exact kept_of_isSome present stored kept
      · obtain rfl : reported = [] := nothing
        exact kept_nil
  | @continued completedTaskIds services _ before returned after present delivered state recorded
      work afterState stored =>
      change Kept workflowId (target, if workflowId = workflowId then _ else _)
      rw [if_pos rfl]
      exact kept_continued sound kept carried present delivered recorded work stored
  | refreshed present delivered state recorded work afterState stored =>
      rw [kept_present stored]
      exact (remembers_rebuilt kept carried present delivered).map_recomputeTask

/-- The answer of a carried command has the reported completions. -/
theorem remembers_answer (sound : Sound source) (kept : Kept workflowId (source, reported))
    (carried : Carried workflowId (source, reported) command)
    (answers : command.answers workflowId) {returned : WorkflowState}
    (handled : source.handle command = some (some (.ok returned), target)) :
    Remembers reported returned.tasks := by
  cases command with
  | getWorkflow owner tokens =>
      obtain rfl : owner = workflowId := answers
      obtain ⟨answer, same, read⟩ := read_of_handle sound handled
      cases same
      cases read with
      | present stored => exact (kept_present stored).mp kept
      | synced absent recorded =>
          exact (remembers_record kept absent recorded
            (sound.records _ _ recorded).2).map_recomputeTask
  | continueGoal owner completedTaskIds services =>
      obtain rfl : owner = workflowId := answers
      cases effect_handle sound handled owner with
      | kept _ _ answer => exact absurd rfl (answer returned rfl).1
      | synced _ _ _ _ answer =>
          obtain ⟨tokens, same, -⟩ := answer returned rfl
          cases same
      | continued present delivered =>
          exact remembers_continued sound kept carried present delivered
  | refresh owner services ensureTokens saveTokens =>
      obtain rfl : owner = workflowId := answers
      cases effect_handle sound handled owner with
      | kept _ _ answer => exact absurd rfl (answer returned rfl).1
      | synced _ _ _ _ answer =>
          obtain ⟨tokens, same, -⟩ := answer returned rfl
          cases same
      | refreshed present delivered =>
          exact (remembers_rebuilt kept carried present delivered).map_recomputeTask
  | createGoal | submit | ingest | deliver | claim | execute | finish => exact answers.elim

end Steps

section Runs

variable {workflowId} {start : Server} {seen : Server × List TaskKey} {command : Command}
  {returned : WorkflowState} {target : Server}

/-- **Carried completions stay.** A task that a transition or a continuation has
reported as completed is completed in every later answer that has it. -/
theorem completions_stay (initial : Initial start)
    (run : (TransitionSystem.observed Server.handle (report workflowId)).Run (Carried workflowId)
      (start, []) seen)
    (carried : Carried workflowId seen command) (answers : command.answers workflowId)
    (handled : seen.1.handle command = some (some (.ok returned), target)) :
    Remembers seen.2 returned.tasks := by
  obtain ⟨sound, kept⟩ := observed_invariant (Kept workflowId)
    (fun source command response target reported sound kept carried handled =>
      kept_step sound kept carried handled) initial kept_nil run
  exact remembers_answer sound kept carried answers handled

def completeTask : Command := .continueGoal "wf" ["task_1"] taskServices

/-- What has been noted after a run. -/
def notesAfter (server : Server) (commands : List Command) : Server × List TaskKey :=
  ((TransitionSystem.observed Server.handle (report "wf")).runFrom (server, [])
    commands).getD (server, [])

theorem allows_completeTask : (TransitionSystem.observed Server.handle (report "wf")).Allows
    (Carried "wf") (restartedServer, []) [completeTask] := by
  refine ⟨?_, trivial⟩
  intro _ record state _ stored
  cases stored

/-- Without a row, the completion reaches the workspace store with the first read. -/
theorem completions_stay_read : ∃ returned target,
    (notesAfter restartedServer [completeTask]).1.handle (.getWorkflow "wf" (tokensOf "read")) =
      some (some (.ok returned), target) ∧
    Remembers (notesAfter restartedServer [completeTask]).2 returned.tasks :=
  have carried : Carried "wf" (notesAfter restartedServer [completeTask])
    (.getWorkflow "wf" (tokensOf "read")) := trivial
  ⟨_, _, rfl, completions_stay initial_restartedServer
    (TransitionSystem.run_of_allows [completeTask] allows_completeTask rfl) carried rfl rfl⟩

/-- A workflow that is created synchronously and continued. -/
def completedRun : List Command := [.createGoal (taskGoal true), completeTask]

/-- With a row, the read hides the completion. -/
theorem completion_hidden : ¬ ∀ (workflowId : String) (start : Server)
    (seen : Server × List TaskKey) (command : Command) (returned : WorkflowState)
    (target : Server), Initial start →
      (TransitionSystem.observed Server.handle (report workflowId)).Run
        TransitionSystem.unguarded (start, []) seen →
      command.answers workflowId →
      seen.1.handle command = some (some (.ok returned), target) →
      Remembers seen.2 returned.tasks := by
  intro claim
  have run : (TransitionSystem.observed Server.handle (report "wf")).Run
      TransitionSystem.unguarded (emptyServer, []) (notesAfter emptyServer completedRun) :=
    TransitionSystem.run_of_runFrom completedRun rfl
  have remembers := claim "wf" emptyServer _ (.getWorkflow "wf" (tokensOf "read")) _ _
    initial_emptyServer run rfl rfl
  have completed := remembers _ (.head _) (.head _)
  cases completed

end Runs

end ActionPlan.Api
