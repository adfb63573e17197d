import ActionPlan.Api.Ordering

/-! # Recommendations that go stale

The graph recommends a task to start, and the recommendation is stored beside
the tasks. The routes that change the tasks leave the recommendation as it is,
although the decision route refuses one that is `stale`.
-/

namespace ActionPlan.Api

open ActionPlan.Foundation ActionPlan.Models ActionPlan.Agent ActionPlan.Workspace

/-- The task is completed or cancelled. -/
def Over (task : Task) : Prop := task.status = .completed ∨ task.status = .cancelled

instance : DecidablePred Over := fun task =>
  inferInstanceAs (Decidable (task.status = .completed ∨ task.status = .cancelled))

/-- The task is in the plan and neither completed nor cancelled. -/
def Live (taskId : String) (tasks : List Task) : Prop :=
  ∃ task ∈ tasks, task.id = taskId ∧ ¬ Over task

instance (taskId : String) : DecidablePred (Live taskId) := fun tasks =>
  inferInstanceAs (Decidable (∃ task ∈ tasks, task.id = taskId ∧ ¬ Over task))

/-- The recommendation is open and asks to start a task. -/
def AsksToStart (recommendation : Recommendation) : Prop :=
  recommendation.status = .opened ∧ recommendation.action = "start_task"

instance : DecidablePred AsksToStart := fun recommendation =>
  inferInstanceAs (Decidable (recommendation.status = .opened ∧
    recommendation.action = "start_task"))

/-- An open recommendation to start a task names one that is live. -/
def UpToDate (workflow : WorkflowState) : Prop :=
  ∀ recommendation ∈ workflow.recommendation, AsksToStart recommendation →
    ∃ taskId ∈ recommendation.affectedTask, Live taskId workflow.tasks

instance : DecidablePred UpToDate := fun workflow =>
  inferInstanceAs (Decidable (∀ recommendation ∈ workflow.recommendation,
    AsksToStart recommendation →
      ∃ taskId ∈ recommendation.affectedTask, Live taskId workflow.tasks))

/-- A submission leaves the task in the plan, neither completed nor cancelled. -/
def Spares (taskId : String) : Submission → Prop
  | .transition moved payload =>
    moved = taskId → payload.status ≠ .completed ∧ payload.status ≠ .cancelled
  | .revise payload => Live taskId payload.tasks
  | .patch _ _ | .update _ | .decide _ _ => True

/-- A submission spares the task that an open recommendation asks to start. -/
def SparesRecommended (workflow : WorkflowState) (submission : Submission) : Prop :=
  ∀ recommendation ∈ workflow.recommendation, AsksToStart recommendation →
    ∀ taskId ∈ recommendation.affectedTask, Spares taskId submission

section Tasks

variable {tasks : List Task} {taskId : String}

/-- A change of tasks that keeps ids and ends none keeps the live ones. -/
theorem live_map {change : Task → Task} (id : ∀ task ∈ tasks, (change task).id = task.id)
    (ends : ∀ task ∈ tasks, Over (change task) ↔ Over task) :
    Live taskId (tasks.map change) ↔ Live taskId tasks := by
  unfold Live
  constructor
  · rintro ⟨_, member, named, live⟩
    obtain ⟨task, present, rfl⟩ := List.mem_map.mp member
    exact ⟨task, present, (id task present).symm.trans named, fun ended =>
      live ((ends task present).mpr ended)⟩
  · rintro ⟨task, present, named, live⟩
    exact ⟨change task, List.mem_map_of_mem present, (id task present).trans named, fun ended =>
      live ((ends task present).mp ended)⟩

/-- The recomputation neither ends nor reopens a task. -/
theorem over_recomputeTask (task : Task) : Over (recomputeTask tasks task) ↔ Over task := by
  have cancelled : (recomputeTask tasks task).status = .cancelled ↔ task.status = .cancelled := by
    unfold recomputeTask
    split
    all_goals first
      | (split <;> simp_all)
      | simp_all
  rw [Over, Over, cancelled, recomputeTask_completed]

theorem live_readied : Live taskId (readied tasks) ↔ Live taskId tasks :=
  live_map (fun task _ => recomputeTask_id tasks task) fun task _ => over_recomputeTask task

/-- What a submission does to a live task. -/
theorem live_editTasks (live : Live taskId tasks) (submission : Submission) :
    Live taskId (submission.editTasks tasks) ↔ Spares taskId submission := by
  cases submission with
  | patch edited payload =>
      refine iff_of_true ((live_map ?_ ?_).mpr live) trivial
      · intro task _
        split <;> rfl
      · intro task _
        split <;> exact Iff.rfl
  | transition moved payload =>
      obtain ⟨task, member, named, continues⟩ := live_readied.mpr live
      by_cases same : moved = taskId
      · subst same
        constructor
        · rintro ⟨changed, present, changedNamed, changedLive⟩ _
          obtain ⟨old, -, rfl⟩ := List.mem_map.mp present
          rw [setStatus_id] at changedNamed
          rw [setStatus, if_pos changedNamed] at changedLive
          exact not_or.mp changedLive
        · intro spared
          refine ⟨setStatus moved payload.status task, List.mem_map_of_mem member, ?_, ?_⟩
          · rw [setStatus_id, named]
          · rw [setStatus, if_pos named]
            exact not_or.mpr (spared rfl)
      · refine iff_of_true ⟨task, List.mem_map.mpr ⟨task, member, ?_⟩, named, continues⟩
          fun equal => absurd equal same
        rw [setStatus, if_neg fun equal => same (equal.symm.trans named)]
  | revise payload => exact Iff.rfl
  | update payload => exact iff_of_true live trivial
  | decide recommendationId payload => exact iff_of_true live trivial

end Tasks

section Submissions

variable {workflow state draft : WorkflowState} {submission : Submission} {tokens : Tokens}

/-- Nor does it make a recommendation stale. -/
theorem upToDate_recomputed :
    UpToDate (recomputed workflow).jsonCopy ↔ UpToDate workflow := by
  have live : ∀ taskId, Live taskId (recomputed workflow).jsonCopy.tasks ↔
      Live taskId workflow.tasks := fun taskId => live_readied
  have recommendation :
      (recomputed workflow).jsonCopy.recommendation = workflow.recommendation := rfl
  simp only [UpToDate, live, recommendation]

/-- Only a decision changes the recommendation. -/
theorem prepare_recommendation
    (prepared : submission.request.change.prepare state = .ok draft) :
    draft.recommendation = state.recommendation ∨
      (∃ recommendationId payload, submission = .decide recommendationId payload) ∧
        ∀ recommendation ∈ draft.recommendation, recommendation.status ≠ .opened := by
  cases submission with
  | patch taskId payload =>
      obtain rfl := patchTask_ok prepared
      exact .inl rfl
  | transition taskId payload =>
      obtain ⟨-, completedTasks, rfl⟩ := transitionTask_ok prepared
      exact .inl rfl
  | revise payload =>
      obtain ⟨_, -, rfl⟩ := ok_of_map prepared
      exact .inl rfl
  | update payload =>
      obtain ⟨_, _, rfl⟩ := supplyInformation_ok prepared
      exact .inl rfl
  | decide recommendationId payload =>
      refine .inr ⟨⟨recommendationId, payload, rfl⟩, ?_⟩
      obtain ⟨_, -, rfl⟩ := decideRecommendation_ok prepared
      rintro recommendation ⟨⟩
      cases payload.decision <;> simp [Decision.status]

/-- **A written submission leaves the recommendation up to date** exactly when it
spares the recommended task. -/
theorem upToDate_submitted (upToDate : UpToDate state)
    (prepared : submission.request.change.prepare state = .ok draft) :
    UpToDate (recomputed (submitted submission tokens draft)).jsonCopy ↔
      SparesRecommended state submission := by
  have live : ∀ taskId, Live taskId state.tasks →
      (Live taskId (recomputed (submitted submission tokens draft)).jsonCopy.tasks ↔
        Spares taskId submission) := by
    intro taskId before
    have tasks : (recomputed (submitted submission tokens draft)).jsonCopy.tasks =
        readied (submission.editTasks state.tasks) := (Submission.prepare_ok prepared).tasks
    rw [tasks, live_readied, live_editTasks before]
  have kept : (recomputed (submitted submission tokens draft)).jsonCopy.recommendation =
      draft.recommendation := applied_recommendation submission.request.change
  rcases prepare_recommendation prepared with same | ⟨⟨recommendationId, payload, rfl⟩, decided⟩
  · rw [same] at kept
    unfold UpToDate SparesRecommended
    rw [kept]
    refine forall₃_congr fun recommendation present asks => ?_
    obtain ⟨taskId, named, before⟩ := upToDate recommendation present asks
    rw [Option.mem_def] at named
    simpa [named] using live taskId before
  · refine iff_of_true ?_ fun _ _ _ _ _ => trivial
    intro recommendation present asks
    rw [kept] at present
    exact absurd asks.1 (decided recommendation present)

end Submissions

section Assessment

/-- The tasks, the completed tasks and the recommendation are those that a run of the graph
delivers. -/
def Assessed (workflow : WorkflowState) : Prop :=
  ∃ services initial reached, BuiltInitially initial ∧
    reachMemory services initial = .ok reached ∧ workflow.tasks = reached.taskList ∧
    workflow.completedTasks = reached.completedList ∧
    workflow.recommendation = reached.recommendation

/-- The recommendation of an assessed workflow is up to date. -/
theorem upToDate_of_assessed {workflow : WorkflowState} (assessed : Assessed workflow) :
    UpToDate workflow := by
  obtain ⟨services, initial, reached, built, ran, tasks, -, recommended⟩ := assessed
  obtain ⟨initialized, -, planned, -⟩ := reachMemory_outline built ran
  obtain ⟨made, materialized, marked⟩ := planned.tasks
  intro recommendation present asks
  rw [recommended] at present
  obtain ⟨task, member, named, incomplete⟩ :=
    reachMemory_namesStartable built ran recommendation present asks.2
  refine ⟨task.id, named, task, tasks ▸ member, rfl, ?_⟩
  rw [AgentState.taskList, marked, Option.getD_some] at member
  obtain ⟨plain, plainMember, rfl⟩ := List.mem_map.mp member
  have pending := (pending_of_built materialized plainMember).2
  rw [AgentState.completedList, initialized.completed, Option.getD_some,
    markCompleted_id] at incomplete
  rw [markCompleted, if_neg incomplete, Over, pending]
  simp

end Assessment

/-- The workflow has just been assessed and written to the workspace store. -/
structure FreshlyAssessed (workflowId : String) (server : Server) : Prop where
  reachable : ∃ started, Initial started ∧ system.Run TransitionSystem.unguarded started server
  assessed : ∃ workflow, Assessed workflow ∧
    server.stored workflowId = some (recomputed workflow).jsonCopy

section Runs

variable {workflowId : String} {source target : Server}

/-- **Recommendations stay up to date** in every run from a freshly assessed workflow whose
submissions spare the recommended task, whatever else the server does except to refresh the
workflow: an open recommendation to start a task names a task of the current plan that is
neither completed nor cancelled. -/
theorem upToDate_run (fresh : FreshlyAssessed workflowId source)
    (run : system.Run (Admits workflowId SparesRecommended fun _ => False) source target) :
    Stores workflowId UpToDate target := by
  obtain ⟨started, initial, reachable⟩ := fresh.reachable
  obtain ⟨workflow, assessed, stored⟩ := fresh.assessed
  refine stores_run ?_ ?_ (sound_run initial.sound reachable)
    ⟨_, stored, upToDate_recomputed.mpr (upToDate_of_assessed assessed)⟩ run
  · intro state draft submission tokens _ upToDate spares prepared
    exact (upToDate_submitted upToDate prepared).mpr spares
  · exact fun _ _ _ _ _ never => never.elim

/-- What the graph delivers for the created workflow. -/
def assessedState : AgentState :=
  (reachMemory taskServices (executionInput "wf" "worker" (taskGoal true).payload)).toOption.getD {}

theorem freshlyAssessed_createdServer : FreshlyAssessed "wf" createdServer where
  reachable := ⟨emptyServer, initial_emptyServer, run_createdServer⟩
  assessed := by
    obtain ⟨reached, ran⟩ := ok_of_isOk (show
      (reachMemory taskServices (executionInput "wf" "worker" (taskGoal true).payload)).isOk = true
        by decide +kernel)
    have same : assessedState = reached := by rw [assessedState, ran]; rfl
    subst same
    refine ⟨createdWorkflow, ⟨taskServices, _, assessedState, ?_, ran, ?_, ?_, ?_⟩, rfl⟩
    · intro plan present
      cases present
    all_goals decide +kernel

/-- The transition of the recommended task. -/
def moveRecommended (status : TaskStatus) : Command :=
  .submit "wf" (.transition "task_1" { status, version := firstVersion }) (tokensOf "read")
    (tokensOf "moved")

def afterMove (status : TaskStatus) : Server :=
  (system.runFrom createdServer [moveRecommended status]).getD emptyServer

/-- The recommended task has been started. -/
theorem upToDate_afterStart : Stores "wf" UpToDate (afterMove .inProgress) := by
  have allowed : system.Allows (Admits "wf" SparesRecommended fun _ => False) createdServer
      [moveRecommended .inProgress] := by
    refine ⟨fun _ state _ recommendation _ _ taskId _ _ => ?_, trivial⟩
    exact ⟨by decide, by decide⟩
  exact upToDate_run freshlyAssessed_createdServer
    (TransitionSystem.run_of_allows [moveRecommended .inProgress] allowed rfl)

/-- A recommended task can be cancelled, and its recommendation stays open. -/
theorem cancellation_outdates : ¬ ∀ (workflowId : String) (source target : Server),
    FreshlyAssessed workflowId source → system.Run (Edits workflowId) source target →
      Stores workflowId UpToDate target := by
  intro claim
  have run : system.Run (Edits "wf") createdServer (afterMove .cancelled) :=
    TransitionSystem.run_of_allows [moveRecommended .cancelled] ⟨rfl, trivial⟩ rfl
  obtain ⟨state, stored, upToDate⟩ := claim "wf" _ _ freshlyAssessed_createdServer run
  have seen : ((afterMove .cancelled).stored "wf").map (fun state => decide (UpToDate state)) =
      some false := by decide +kernel
  rw [stored, Option.map_some, decide_eq_true upToDate] at seen
  cases seen

end Runs

end ActionPlan.Api
