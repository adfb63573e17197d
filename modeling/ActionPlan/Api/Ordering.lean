import ActionPlan.Api.Soundness

/-! # Tasks in the order of their dependencies

`transition_task` starts a task only when its dependencies are completed. The other
routes have no such check: `patch_task` can give a task that has been started new
dependencies, and a plan revision brings its own statuses.
-/

namespace ActionPlan.Api

open ActionPlan.Foundation ActionPlan.Models ActionPlan.Agent ActionPlan.Workspace

/-- The task is in progress or completed. -/
def Underway (task : Task) : Prop := task.status = .inProgress ∨ task.status = .completed

instance : DecidablePred Underway := fun task =>
  inferInstanceAs (Decidable (task.status = .inProgress ∨ task.status = .completed))

/-- Every dependency of a task that is underway is completed. -/
def Ordered (tasks : List Task) : Prop :=
  ∀ task ∈ tasks, Underway task → ∀ dependency ∈ task.dependencies,
    isCompleted tasks dependency = true

instance : DecidablePred Ordered := fun tasks =>
  inferInstanceAs (Decidable (∀ task ∈ tasks, Underway task → ∀ dependency ∈ task.dependencies,
    isCompleted tasks dependency = true))

/-- A patch gives a task that is underway completed dependencies only, and a revision
brings ordered tasks. -/
def Respects (tasks : List Task) : Submission → Prop
  | .patch taskId payload => ∀ dependencies ∈ payload.dependencies, ∀ task ∈ tasks,
    task.id = taskId → Underway task → ∀ dependency ∈ dependencies,
      isCompleted tasks dependency = true
  | .revise payload => Ordered payload.tasks
  | .transition _ _ | .update _ | .decide _ _ => True

section Tasks

variable {tasks : List Task}

/-- A change of the tasks that completes none and takes no completion back. -/
theorem ordered_map {change : Task → Task}
    (same : ∀ taskId, isCompleted (tasks.map change) taskId = isCompleted tasks taskId) :
    Ordered (tasks.map change) ↔ ∀ task ∈ tasks, Underway (change task) →
      ∀ dependency ∈ (change task).dependencies, isCompleted tasks dependency = true := by
  simp only [Ordered, same, List.forall_mem_map]

theorem underway_recomputeTask (task : Task) :
    Underway (recomputeTask tasks task) ↔ Underway task := by
  have started : (recomputeTask tasks task).status = .inProgress ↔ task.status = .inProgress := by
    unfold recomputeTask
    split
    all_goals first
      | (split <;> simp_all)
      | simp_all
  rw [Underway, Underway, started, recomputeTask_completed]

/-- Recomputing keeps the order. -/
theorem ordered_readied : Ordered (readied tasks) ↔ Ordered tasks := by
  rw [readied, ordered_map (isCompleted_readied tasks)]
  simp only [underway_recomputeTask, recomputeTask_dependencies, Ordered]

/-- Tasks that have not been started are ordered. -/
theorem ordered_of_pending (pending : ∀ task ∈ tasks, task.status = .pending) : Ordered tasks := by
  rintro task member (started | completed)
  · rw [pending task member] at started
    cases started
  · rw [pending task member] at completed
    cases completed

/-- A ready task has completed dependencies. -/
theorem completed_of_ready {task : Task} (ready : (recomputeTask tasks task).readiness = .ready) :
    ∀ dependency ∈ task.dependencies, isCompleted tasks dependency = true := by
  apply List.all_eq_true.mp
  by_contra waiting
  unfold recomputeTask at ready
  split at ready
  all_goals first
    | cases ready
    | (rw [if_neg waiting] at ready; cases ready)

/-- A patch keeps the order just when it respects it. -/
theorem ordered_patchTasks (ordered : Ordered tasks) (taskId : String) (payload : TaskPatch) :
    Ordered (patchTasks taskId payload tasks) ↔ Respects tasks (.patch taskId payload) := by
  rw [patchTasks, ordered_map]
  · constructor
    · intro holds dependencies given task member named underway
      have patched := holds task member
      rw [if_pos named, patchedTask_dependencies, given, Option.getD_some] at patched
      exact patched underway
    · intro respects task member underway
      split at underway
      · rename_i named
        rw [if_pos named, patchedTask_dependencies]
        cases given : payload.dependencies with
        | none => exact ordered task member underway
        | some dependencies => exact respects dependencies given task member named underway
      · rename_i unnamed
        rw [if_neg unnamed]
        exact ordered task member underway
  · intro other
    apply isCompleted_congr
    rw [List.map_map]
    apply List.map_congr_left
    intro task _
    rw [Function.comp_apply]
    split <;> rfl

/-- A transition keeps the order: it starts a ready task, completes a task in progress,
and takes no completion back. -/
theorem ordered_transition {workflow changed : WorkflowState} {taskId : String}
    {target : TaskStatus} (ordered : Ordered workflow.tasks)
    (valid : TaskPlan.validateTasks workflow.tasks = .ok ())
    (success : transitionTask workflow taskId target = .ok changed) :
    Ordered ((readied workflow.tasks).map (setStatus taskId target)) := by
  obtain ⟨⟨found, foundMember, named, permitted, started⟩, -⟩ := transitionTask_ok success
  have distinct : ((readied workflow.tasks).map Task.id).Nodup := by
    rw [ids_readied]
    exact TaskPlan.nodup_of_validateTasks valid
  have only : ∀ task ∈ readied workflow.tasks, task.id = taskId → task = found :=
    fun task member same =>
      List.inj_on_of_nodup_map distinct member foundMember (same.trans named.symm)
  have orderedBefore : Ordered (readied workflow.tasks) := ordered_readied.mpr ordered
  -- A completed task is not the one that changes.
  have stays : ∀ taskId', isCompleted (readied workflow.tasks) taskId' = true →
      isCompleted ((readied workflow.tasks).map (setStatus taskId target)) taskId' = true := by
    intro other completed
    have sameIds : ((readied workflow.tasks).map (setStatus taskId target)).map Task.id =
        (readied workflow.tasks).map Task.id := by
      simp [Function.comp_def]
    obtain ⟨task, member, sameId, status⟩ := (isCompleted_iff distinct other).mp completed
    have different : task.id ≠ taskId := by
      intro same
      rw [← only task member same, status] at permitted
      cases permitted
    refine (isCompleted_iff (sameIds.symm ▸ distinct) other).mpr
      ⟨task, List.mem_map.mpr ⟨task, member, ?_⟩, sameId, status⟩
    rw [setStatus, if_neg different]
  intro task member underway dependency depends
  obtain ⟨old, oldMember, rfl⟩ := List.mem_map.mp member
  apply stays
  by_cases same : old.id = taskId
  · obtain rfl := only old oldMember same
    rw [setStatus, if_pos same] at underway depends
    rcases underway with starting | completing
    · obtain ⟨plain, plainMember, rfl⟩ := List.mem_map.mp oldMember
      rw [isCompleted_readied]
      have ready := started (.inr starting)
      rw [recomputeTask_dependencies] at depends
      exact completed_of_ready ready dependency depends
    · have target_eq : target = .completed := completing
      have running : old.status = .inProgress := by
        rw [target_eq] at permitted
        cases status : old.status <;> rw [status] at permitted <;> simp [allowed] at permitted ⊢
      exact orderedBefore old oldMember (.inl running) dependency depends
  · rw [setStatus, if_neg same] at underway depends
    exact orderedBefore old oldMember underway dependency depends

/-- A successful submission keeps the order just when it respects it. -/
theorem ordered_editTasks {submission : Submission} {base draft : WorkflowState}
    (ordered : Ordered base.tasks) (valid : TaskPlan.validateTasks base.tasks = .ok ())
    (prepared : submission.request.change.prepare base = .ok draft) :
    Ordered (submission.editTasks base.tasks) ↔ Respects base.tasks submission := by
  cases submission with
  | patch taskId payload => exact ordered_patchTasks ordered taskId payload
  | transition taskId payload =>
      exact iff_of_true (ordered_transition ordered valid prepared) trivial
  | revise payload => exact Iff.rfl
  | update payload => exact iff_of_true ordered trivial
  | decide recommendationId payload => exact iff_of_true ordered trivial

end Tasks

/-- The workflow is in the workspace store, and its tasks are ordered. -/
def InOrder (workflowId : String) (server : Server) : Prop :=
  ∃ state, server.stored workflowId = some state ∧ Ordered state.tasks

/-- The workflow has been created with pending tasks and written for the first time. -/
structure FreshlyCreated (workflowId : String) (server : Server) : Prop where
  reachable : ∃ started, Initial started ∧ system.Run TransitionSystem.unguarded started server
  created : ∃ workflow, (∀ task ∈ workflow.tasks, task.status = .pending) ∧
    server.stored workflowId = some (recomputed workflow).jsonCopy

/-- A patch, a transition, a plan revision or an update of the workflow. -/
def Edits (workflowId : String) (_ : Server) : Command → Prop
  | .submit _ (.decide _ _) _ _ => False
  | .submit owner _ _ _ => owner = workflowId
  | _ => False

/-- A submission for the workflow respects the order of its tasks. Any other command is
allowed, except a refresh of the workflow, which plans it anew. -/
def Orderly (workflowId : String) (server : Server) : Command → Prop
  | .submit owner submission _ _ =>
    owner = workflowId → ∀ state ∈ server.stored workflowId, Respects state.tasks submission
  | .refresh owner _ _ _ => owner ≠ workflowId
  | _ => True

section Runs

variable {workflowId : String} {source target : Server}

/-- A submission to an ordered workflow that is written leaves it ordered just when it
respects the order. -/
theorem ordered_submitted {submission : Submission} {tokens : Tokens}
    {state draft : WorkflowState} (ordered : Ordered state.tasks)
    (valid : TaskPlan.validateTasks state.tasks = .ok ())
    (prepared : submission.request.change.prepare state = .ok draft) :
    Ordered (recomputed (submitted submission tokens draft)).jsonCopy.tasks ↔
      Respects state.tasks submission := by
  have tasks : (recomputed (submitted submission tokens draft)).jsonCopy.tasks =
      readied (submission.editTasks state.tasks) := (Submission.prepare_ok prepared).tasks
  rw [tasks, ordered_readied, ordered_editTasks ordered valid prepared]

/-- **Orderly edits keep the order.** In every state reached from a freshly created
workflow with pending tasks by submissions that respect the order of its tasks, whatever
else the server does except to refresh the workflow, every task that is in progress or
completed has completed dependencies. -/
theorem orderly_inOrder (fresh : FreshlyCreated workflowId source)
    (run : system.Run (Orderly workflowId) source target) : InOrder workflowId target := by
  obtain ⟨started, initial, reachable⟩ := fresh.reachable
  obtain ⟨workflow, pending, stored⟩ := fresh.created
  have admitted : system.Run (Admits workflowId (fun state => Respects state.tasks) fun _ => False)
      source target := by
    apply run.mono
    intro server command orderly
    cases command with
    | submit owner submission readTokens writeTokens => exact orderly
    | refresh owner completedTaskIds readTokens writeTokens =>
        exact fun same => absurd same orderly
    | _ => trivial
  apply stores_run ?_ ?_ (sound_run initial.sound reachable)
    ⟨_, stored, ordered_readied.mpr (ordered_of_pending pending)⟩ admitted
  · intro state draft submission tokens serialised ordered respects prepared
    exact (ordered_submitted ordered serialised.valid prepared).mpr respects
  · exact fun _ _ _ _ _ never => never.elim

/-- A plan whose second task depends on the first one. -/
def dependentTasks (status : TaskStatus) : List Task :=
  [Ledger.firstTask, { Ledger.secondTask with dependencies := ["first"], status }]

/-- The revision to the dependent tasks. -/
def reviseTasks (status : TaskStatus) : Command :=
  .submit "wf" (.revise { tasks := dependentTasks status, version := firstVersion })
    (tokensOf "read") (tokensOf "revised")

/-- A transition of the first task. -/
def moveFirst (event : String) (status : TaskStatus) (version : PositiveVersion) : Command :=
  .submit "wf" (.transition "first" { status, version }) (tokensOf "reread") (tokensOf event)

/-- What `create_workflow_sync` returns for the goal. -/
def createdWorkflow : WorkflowState :=
  (emptyServer.create (taskGoal true)).1.toOption.getD (queuedWorkflow (taskGoal true).creation
    (taskGoal true).payload)

theorem fresh_createdServer : FreshlyCreated "wf" createdServer where
  reachable := ⟨emptyServer, initial_emptyServer, run_createdServer⟩
  created := ⟨createdWorkflow, by decide, rfl⟩

/-- A plan with dependencies is revised in and its first task completed. -/
def orderlyEdits : List Command :=
  [reviseTasks .pending, moveFirst "started" .inProgress secondVersion,
    moveFirst "finished" .completed ⟨3, by decide⟩]

def afterEdits : Server := (system.runFrom createdServer orderlyEdits).getD emptyServer

theorem orderly_inOrder_afterEdits : InOrder "wf" afterEdits := by
  have allowed : system.Allows (Orderly "wf") createdServer orderlyEdits := by
    refine ⟨fun _ state _ => ?_, fun _ _ _ => trivial, fun _ _ _ => trivial, trivial⟩
    exact ordered_of_pending (by decide)
  exact orderly_inOrder fresh_createdServer
    (TransitionSystem.run_of_allows orderlyEdits allowed rfl)

/-- A revision can bring a completed task whose dependency is pending. -/
theorem revision_disorders : ¬ ∀ (workflowId : String) (source target : Server),
    FreshlyCreated workflowId source → system.Run (Edits workflowId) source target →
      InOrder workflowId target := by
  intro claim
  let revised := (system.runFrom createdServer [reviseTasks .completed]).getD emptyServer
  have run : system.Run (Edits "wf") createdServer revised :=
    TransitionSystem.run_of_allows [reviseTasks .completed] ⟨rfl, trivial⟩ rfl
  obtain ⟨state, stored, ordered⟩ := claim "wf" _ _ fresh_createdServer run
  have seen : (revised.stored "wf").map (fun state => decide (Ordered state.tasks)) =
      some false := by decide
  rw [stored, Option.map_some, decide_eq_true ordered] at seen
  cases seen

end Runs

end ActionPlan.Api
