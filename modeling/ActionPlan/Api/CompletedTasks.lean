import ActionPlan.Api.Ordering

/-! # The completed tasks of a workflow

`completed_tasks` repeats what the statuses of the tasks say. `transition_task`
counts it anew, a patch and an update change neither, and a plan revision brings
its own statuses and leaves `completed_tasks` as it is.
-/

namespace ActionPlan.Api

open ActionPlan.Foundation ActionPlan.Models ActionPlan.Agent ActionPlan.Workspace

/-- `completed_tasks` holds exactly the ids of the tasks that are completed. -/
def Counted (workflow : WorkflowState) : Prop :=
  ∀ taskId, taskId ∈ workflow.completedTasks ↔ taskId ∈ completedIds workflow.tasks

instance : DecidablePred Counted := fun workflow =>
  decidable_of_iff ((∀ taskId ∈ workflow.completedTasks, taskId ∈ completedIds workflow.tasks) ∧
      ∀ taskId ∈ completedIds workflow.tasks, taskId ∈ workflow.completedTasks) <| by
    simp only [Counted, iff_iff_implies_and_implies, forall_and]

/-- A revision brings the same completed tasks. -/
def KeepsCompleted (workflow : WorkflowState) : Submission → Prop
  | .revise payload =>
    ∀ taskId, taskId ∈ completedIds payload.tasks ↔ taskId ∈ completedIds workflow.tasks
  | .patch _ _ | .transition _ _ | .update _ | .decide _ _ => True

section Submissions

variable {workflow state draft : WorkflowState} {submission : Submission} {tokens : Tokens}

/-- Serialising a workflow keeps what is counted. -/
theorem counted_recomputed :
    Counted (recomputed workflow).jsonCopy ↔ Counted workflow := by
  have tasks : completedIds (recomputed workflow).jsonCopy.tasks = completedIds workflow.tasks :=
    completedIds_readied workflow.tasks
  have completed : (recomputed workflow).jsonCopy.completedTasks = workflow.completedTasks := rfl
  rw [Counted, tasks, completed, Counted]

theorem completedIds_patchTasks (taskId : String) (payload : TaskPatch) (tasks : List Task) :
    completedIds (patchTasks taskId payload tasks) = completedIds tasks := by
  apply completedIds_map
  · intro task _
    split <;> rfl
  · intro task _
    split <;> rfl

/-- **A written submission counts the completed tasks** exactly when it is no
revision that brings other ones. -/
theorem counted_submitted (counted : Counted state)
    (prepared : submission.request.change.prepare state = .ok draft) :
    Counted (recomputed (submitted submission tokens draft)).jsonCopy ↔
      KeepsCompleted state submission := by
  rw [counted_recomputed]
  cases submission with
  | patch taskId payload =>
      obtain rfl := patchTask_ok prepared
      refine iff_of_true (fun other => ?_) trivial
      exact (counted other).trans
        (by rw [← completedIds_patchTasks taskId payload state.tasks]; rfl)
  | transition taskId payload =>
      refine iff_of_true (fun other => ?_) trivial
      have same : draft.completedTasks = completedIds draft.tasks :=
        transitionTask_completedTasks prepared
      exact iff_of_eq (congrArg (other ∈ ·) same)
  | revise payload =>
      obtain ⟨_, -, rfl⟩ := ok_of_map prepared
      change (∀ taskId, taskId ∈ state.completedTasks ↔ taskId ∈ completedIds payload.tasks) ↔ _
      refine forall_congr' fun taskId => ?_
      rw [counted taskId]
      exact iff_comm
  | update payload =>
      obtain ⟨_, _, rfl⟩ := supplyInformation_ok prepared
      exact iff_of_true counted trivial
  | decide recommendationId payload =>
      obtain ⟨_, -, rfl⟩ := decideRecommendation_ok prepared
      exact iff_of_true counted trivial

/-- A refresh carries the completed tasks of the record over to a new plan. -/
def NothingCompleted (record : WorkflowState) : Prop := record.completedTasks = []

/-- A rebuilt workflow without completed tasks has none among its tasks. -/
theorem counted_rebuilt {services : Services} {before rebuilt : WorkflowState}
    {payload : WorkRequestInput} (nothing : NothingCompleted before)
    (delivered : Delivered services (rebuildInput before payload) rebuilt) : Counted rebuilt := by
  have carried : initialCompleted (rebuildInput before payload) =
      sortedSet (before.completedTasks ++ []) := rfl
  have none : rebuilt.completedTasks = [] := by
    rw [delivered.completed, carried, nothing]
    rfl
  intro taskId
  rw [none, List.mem_map]
  refine iff_of_false List.not_mem_nil ?_
  rintro ⟨task, member, -⟩
  obtain ⟨present, status⟩ := List.mem_filter.mp member
  have done := (delivered.produced.completed task present).mp (of_decide_eq_true status)
  rw [none] at done
  cases done

end Submissions

/-- The workflow has been brought into the workspace store by `ensure`, with the
completed tasks counted. -/
structure FirstEnsured (workflowId : String) (server : Server) : Prop where
  reachable : ∃ started, Initial started ∧ system.Run TransitionSystem.unguarded started server
  ensured : ∃ workflow, Counted workflow ∧
    server.stored workflowId = some (recomputed workflow).jsonCopy

section Runs

variable {workflowId : String} {source target : Server}

/-- **Completed tasks stay counted.** In every state reached from the first ensured
workflow, whatever the server does, `completed_tasks` of the stored workflow holds exactly
the ids of its completed tasks, if each revision of its plan brings the completed tasks that
it has and it is refreshed only while its record has none. -/
theorem counted_run (ensured : FirstEnsured workflowId source)
    (run : system.Run (Admits workflowId KeepsCompleted NothingCompleted) source target) :
    Stores workflowId Counted target := by
  obtain ⟨started, initial, reachable⟩ := ensured.reachable
  obtain ⟨workflow, counted, stored⟩ := ensured.ensured
  refine stores_run ?_ ?_ (sound_run initial.sound reachable)
    ⟨_, stored, counted_recomputed.mpr counted⟩ run
  · intro state draft submission tokens _ counted keeps prepared
    exact (counted_submitted counted prepared).mpr keeps
  · intro services before payload rebuilt tokens nothing delivered
    have counted : Counted rebuilt := counted_rebuilt nothing delivered
    exact counted_recomputed.mpr counted

theorem firstEnsured_createdServer : FirstEnsured "wf" createdServer where
  reachable := ⟨emptyServer, initial_emptyServer, run_createdServer⟩
  ensured := ⟨createdWorkflow, by decide, rfl⟩

theorem counted_afterEdits : Stores "wf" Counted afterEdits := by
  have allowed : system.Allows (Admits "wf" KeepsCompleted NothingCompleted) createdServer
      orderlyEdits := by
    refine ⟨fun _ state present => ?_, fun _ _ _ => trivial, fun _ _ _ => trivial, trivial⟩
    have none : (createdServer.stored "wf").map (fun state => completedIds state.tasks) =
        some (completedIds (dependentTasks .pending)) := by decide
    rw [Option.mem_def.mp present, Option.map_some, Option.some_inj] at none
    intro taskId
    rw [none]
  exact counted_run firstEnsured_createdServer
    (TransitionSystem.run_of_allows orderlyEdits allowed rfl)

/-- A revision can bring a completed task that `completed_tasks` does not hold. -/
theorem revision_miscounts : ¬ ∀ (workflowId : String) (source target : Server),
    FirstEnsured workflowId source → system.Run (Edits workflowId) source target →
      Stores workflowId Counted target := by
  intro claim
  let revised := (system.runFrom createdServer [reviseTasks .completed]).getD emptyServer
  have run : system.Run (Edits "wf") createdServer revised :=
    TransitionSystem.run_of_allows [reviseTasks .completed] ⟨rfl, trivial⟩ rfl
  obtain ⟨state, stored, counted⟩ := claim "wf" _ _ firstEnsured_createdServer run
  have seen : (revised.stored "wf").map (fun state => decide (Counted state)) = some false := by
    decide
  rw [stored, Option.map_some, decide_eq_true counted] at seen
  cases seen

end Runs

end ActionPlan.Api
