import ActionPlan.Workspace.Ledger
import ActionPlan.Workspace.Tasks

/-! # What readiness means, and which transitions take effect

`recompute_readiness` and `transition_task` compared with what they are for, stated on
the tasks alone: a task can start when its dependencies are completed.
-/

namespace ActionPlan.Workspace

open ActionPlan.Foundation ActionPlan.Foundation.DepthFirst ActionPlan.Models

/-- Every dependency of the task is a completed task of the list. -/
def CanStart (tasks : List Task) (task : Task) : Prop :=
  ∀ dependency ∈ task.dependencies,
    ∃ other ∈ tasks, other.id = dependency ∧ other.status = .completed

instance (tasks : List Task) : DecidablePred (CanStart tasks) := fun task =>
  inferInstanceAs (Decidable (∀ dependency ∈ task.dependencies,
    ∃ other ∈ tasks, other.id = dependency ∧ other.status = .completed))

/-- The status says that the task has not been started. -/
def Unstarted (status : TaskStatus) : Prop := status = .pending ∨ status = .ready

instance : DecidablePred Unstarted := fun status =>
  inferInstanceAs (Decidable (status = .pending ∨ status = .ready))

/-- A status that is kept, or changed between pending and ready. -/
def KeptOpen (before after : TaskStatus) : Prop :=
  after ≠ before → Unstarted before ∧ Unstarted after

theorem KeptOpen.trans {before middle after : TaskStatus} (first : KeptOpen before middle)
    (second : KeptOpen middle after) : KeptOpen before after := by
  intro changed
  by_cases same : middle = before
  · exact same ▸ second (same ▸ changed)
  · by_cases last : after = middle
    · exact last ▸ first same
    · exact ⟨(first same).1, (second last).2⟩

theorem KeptOpen.blocked_iff {before after : TaskStatus} (kept : KeptOpen before after) :
    after = .blocked ↔ before = .blocked := by
  by_cases same : after = before
  · rw [same]
  · obtain ⟨first, second⟩ := kept same
    constructor
    · rintro rfl
      rcases second with started | started <;> cases started
    · rintro rfl
      rcases first with started | started <;> cases started

theorem KeptOpen.unstarted_iff {before after : TaskStatus} (kept : KeptOpen before after) :
    Unstarted after ↔ Unstarted before := by
  by_cases same : after = before
  · rw [same]
  · exact iff_of_true (kept same).2 (kept same).1

/-- What a recomputation makes of a task of the list. -/
structure Reassessed (tasks : List Task) (before after : Task) : Prop where
  frame : after = { before with status := after.status, readiness := after.readiness }
  status : KeptOpen before.status after.status
  ready : after.status = .ready ↔ Unstarted before.status ∧ CanStart tasks before
  readiness : after.status ≠ .completed → after.status ≠ .cancelled → after.status ≠ .blocked →
    (after.readiness = .ready ↔ CanStart tasks before)

section Recompute

variable {tasks : List Task}

/-- With distinct ids the test of the loop is whether the task can start. -/
theorem all_isCompleted_iff (distinct : (tasks.map Task.id).Nodup) (task : Task) :
    task.dependencies.all (isCompleted tasks) = true ↔ CanStart tasks task := by
  simp only [List.all_eq_true, isCompleted_iff distinct, CanStart]

theorem reassessed_recomputeTask (distinct : (tasks.map Task.id).Nodup) (task : Task) :
    Reassessed tasks task (recomputeTask tasks task) := by
  have startable := all_isCompleted_iff distinct task
  by_cases complete : task.dependencies.all (isCompleted tasks) = true
  · have can := startable.mp complete
    cases status : task.status <;>
      constructor <;> simp [recomputeTask, status, complete, can, Unstarted, KeptOpen]
  · have cannot : ¬ CanStart tasks task := fun can => complete (startable.mpr can)
    cases status : task.status <;>
      constructor <;> simp [recomputeTask, status, complete, cannot, Unstarted, KeptOpen]

/-- Validation does not depend on the order of the tasks. -/
theorem validateTasks_perm {permuted : List Task} (perm : tasks.Perm permuted)
    (valid : TaskPlan.validateTasks tasks = .ok ()) :
    TaskPlan.validateTasks permuted = .ok () := by
  obtain ⟨distinct, known, acyclic⟩ := TaskPlan.validateGraph_ok_iff.mp valid
  have nodes := perm.map fun task => (task.id, task.dependencies)
  have ids := nodes.map Prod.fst
  apply TaskPlan.validateGraph_ok_iff.mpr
  refine ⟨ids.nodup_iff.mp distinct, ?_, ?_⟩
  · intro node member dependency listed
    exact ids.mem_iff.mp (known node (nodes.mem_iff.mpr member) dependency listed)
  · refine (acyclic_congr fun taskId dependency => ?_).mp acyclic
    simp only [TaskPlan.Graph.DependsOn, nodes.mem_iff]

/-- Nor does the recomputed task. -/
theorem recomputeTask_perm {permuted : List Task} (perm : tasks.Perm permuted)
    (distinct : (tasks.map Task.id).Nodup) (task : Task) :
    recomputeTask permuted task = recomputeTask tasks task := by
  apply recomputeTask_congr
  intro taskId
  apply Bool.eq_iff_iff.mpr
  have permutedDistinct := (perm.map Task.id).nodup_iff.mp distinct
  simp only [isCompleted_iff distinct, isCompleted_iff permutedDistinct, perm.mem_iff]

/-- **The specification of `recompute_readiness`.** On a valid list it changes each task
in a way that does not depend on the order of the list, and once more changes nothing. -/
theorem recomputeReadiness_specification (valid : TaskPlan.validateTasks tasks = .ok ()) :
    ∃ change : Task → Task,
      (∀ permuted, tasks.Perm permuted →
        recomputeReadiness permuted = .ok (permuted.map change)) ∧
      recomputeReadiness (tasks.map change) = .ok (tasks.map change) ∧
      ∀ task ∈ tasks, Reassessed tasks task (change task) := by
  have distinct := TaskPlan.nodup_of_validateTasks valid
  refine ⟨recomputeTask tasks, ?_, ?_, fun task _ => reassessed_recomputeTask distinct task⟩
  · intro permuted perm
    rw [recomputeReadiness_of_valid (validateTasks_perm perm valid)]
    exact congrArg Except.ok (List.map_congr_left fun task _ =>
      recomputeTask_perm perm distinct task)
  · have again := recomputeReadiness_of_valid ((validateTasks_readied tasks).trans valid)
    exact again.trans (congrArg Except.ok (readied_readied tasks))

/-- Two tasks, of which the second one waits for the first one. -/
theorem recomputeReadiness_specification_pair :
    TaskPlan.validateTasks
        [Ledger.firstTask, { Ledger.secondTask with dependencies := ["first"] }] = .ok () ∧
    ∃ change : Task → Task,
      recomputeReadiness
          [{ Ledger.secondTask with dependencies := ["first"] }, Ledger.firstTask] =
        .ok ([{ Ledger.secondTask with dependencies := ["first"] }, Ledger.firstTask].map
          change) := by
  have valid : TaskPlan.validateTasks
      [Ledger.firstTask, { Ledger.secondTask with dependencies := ["first"] }] = .ok () := by decide
  obtain ⟨change, permutes, -⟩ := recomputeReadiness_specification valid
  exact ⟨valid, change, permutes _ (.swap _ _ _)⟩

end Recompute

section Table

variable {status : TaskStatus}

theorem pending_mem_allowed : .pending ∈ allowed status ↔ status = .ready ∨ status = .blocked := by
  cases status <;> simp [allowed]

theorem ready_mem_allowed : .ready ∈ allowed status ↔ status = .pending ∨ status = .blocked := by
  cases status <;> simp [allowed]

theorem inProgress_mem_allowed : .inProgress ∈ allowed status ↔ status = .ready := by
  cases status <;> simp [allowed]

end Table

/-- The transition that the table allows for the task once its readiness is recomputed. A
task starts only when it can. -/
structure Permitted (tasks : List Task) (task : Task) (target : TaskStatus) : Prop where
  listed : target ∈ allowed (recomputeTask tasks task).status
  startable : target = .ready ∨ target = .inProgress → CanStart tasks task

/-- What a transition is to do to a workflow. -/
structure TakesEffect (workflow : WorkflowState) (task : Task) (target : TaskStatus)
    (changed : WorkflowState) : Prop where
  ids : changed.tasks.map Task.id = workflow.tasks.map Task.id
  status : ∃ after ∈ changed.tasks, after.id = task.id ∧ after.status = target
  others : ∀ other ∈ workflow.tasks, other.id ≠ task.id → ∀ after ∈ changed.tasks,
    after.id = other.id → KeptOpen other.status after.status
  completed : ∀ taskId, taskId ∈ changed.completedTasks ↔
    ∃ after ∈ changed.tasks, after.id = taskId ∧ after.status = .completed

/-- The transition is made when it is permitted, and refused otherwise. -/
structure FollowsTable (workflow : WorkflowState) (task : Task) (target : TaskStatus) : Prop where
  succeeds : (∃ changed, transitionTask workflow task.id target = .ok changed) ↔
    Permitted workflow.tasks task target
  takesEffect : ∀ changed, transitionTask workflow task.id target = .ok changed →
    TakesEffect workflow task target changed
  refuses : ¬ Permitted workflow.tasks task target →
    ∃ message, transitionTask workflow task.id target = .error (.workspaceError message)

/-- The recomputation works against the transition: the task can start, so it does not stay
pending, and a blocked one is not ready as long as it is blocked. -/
def Overridden (tasks : List Task) (task : Task) (target : TaskStatus) : Prop :=
  CanStart tasks task ∧
    (target = .pending ∧ (Unstarted task.status ∨ task.status = .blocked) ∨
      target = .ready ∧ task.status = .blocked)

section Transition

variable {workflow : WorkflowState} {task : Task} {target : TaskStatus}

/-- The tasks with the recomputed one set to the target. -/
abbrev retargeted (tasks : List Task) (taskId : String) (target : TaskStatus) : List Task :=
  (readied tasks).map (setStatus taskId target)

theorem validateTasks_retargeted (tasks : List Task) (taskId : String) (target : TaskStatus) :
    TaskPlan.validateTasks (retargeted tasks taskId target) = TaskPlan.validateTasks tasks := by
  apply TaskPlan.validateTasks_congr
  simp

/-- Among recomputed tasks with distinct ids the task is found by its id. -/
theorem find_readied {tasks : List Task} (distinct : (tasks.map Task.id).Nodup)
    (member : task ∈ tasks) :
    (readied tasks).find? (fun other => other.id = task.id) = some (recomputeTask tasks task) := by
  have present : recomputeTask tasks task ∈ readied tasks := List.mem_map_of_mem member
  have readiedDistinct : ((readied tasks).map Task.id).Nodup := ids_readied tasks ▸ distinct
  have found := find?_key readiedDistinct present
  rw [recomputeTask_id] at found
  exact found

/-- A task that the table would let become ready is not: it waits or is blocked. -/
theorem unready_of_listed {tasks : List Task}
    (listed : .ready ∈ allowed (recomputeTask tasks task).status) :
    (recomputeTask tasks task).readiness ≠ .ready := by
  by_cases complete : task.dependencies.all (isCompleted tasks) = true
  all_goals
    cases status : task.status <;>
      simp [recomputeTask, status, complete, allowed] at listed ⊢

/-- What `transition_task` does to a task of a valid list. -/
theorem transitionTask_eq (valid : TaskPlan.validateTasks workflow.tasks = .ok ())
    (member : task ∈ workflow.tasks) :
    transitionTask workflow task.id target =
      if target ∉ allowed (recomputeTask workflow.tasks task).status then
        .error (.workspaceError ("Cannot transition task from " ++
          (recomputeTask workflow.tasks task).status.value ++ " to " ++ target.value ++ "."))
      else if (target = .ready ∨ target = .inProgress) ∧
          (recomputeTask workflow.tasks task).readiness ≠ .ready then
        .error (.workspaceError "Dependencies must be completed before this task can start.")
      else
        .ok { workflow with
          tasks := readied (retargeted workflow.tasks task.id target)
          completedTasks :=
            completedIds (readied (retargeted workflow.tasks task.id target)) } := by
  have distinct := TaskPlan.nodup_of_validateTasks valid
  have present : workflow.tasks.any (fun other => other.id = task.id) = true :=
    List.any_eq_true.mpr ⟨task, member, decide_eq_true rfl⟩
  have found : (readied workflow.tasks).find? (fun other => other.id = task.id) =
      some (recomputeTask workflow.tasks task) := find_readied distinct member
  have again := recomputeReadiness_of_valid
    ((validateTasks_retargeted workflow.tasks task.id target).trans valid)
  rw [transitionTask, if_neg (not_not_intro present), recomputeReadiness_of_valid valid]
  simp only [bind, Except.bind, found, again]
  rfl

/-- A transition that the table lists goes through unless its target is to be ready: what
may become ready in the table is waiting or blocked. -/
theorem transitionTask_of_listed (valid : TaskPlan.validateTasks workflow.tasks = .ok ())
    (member : task ∈ workflow.tasks)
    (listed : target ∈ allowed (recomputeTask workflow.tasks task).status)
    (other : target ≠ .ready) :
    transitionTask workflow task.id target =
      .ok { workflow with
        tasks := readied (retargeted workflow.tasks task.id target)
        completedTasks := completedIds (readied (retargeted workflow.tasks task.id target)) } := by
  have reassessed := reassessed_recomputeTask (TaskPlan.nodup_of_validateTasks valid) task
  rw [transitionTask_eq valid member, if_neg (not_not_intro listed), if_neg]
  rintro ⟨rfl | rfl, unready⟩
  · exact other rfl
  · have ready := inProgress_mem_allowed.mp listed
    have can := (reassessed.ready.mp ready).2
    exact unready ((reassessed.readiness (by simp [ready]) (by simp [ready])
      (by simp [ready])).mpr can)

/-- Every other transition is refused. -/
theorem transitionTask_refused (valid : TaskPlan.validateTasks workflow.tasks = .ok ())
    (member : task ∈ workflow.tasks)
    (unlisted : target ∈ allowed (recomputeTask workflow.tasks task).status → target = .ready) :
    ∃ message, transitionTask workflow task.id target = .error (.workspaceError message) := by
  have reassessed := reassessed_recomputeTask (TaskPlan.nodup_of_validateTasks valid) task
  rw [transitionTask_eq valid member]
  by_cases listed : target ∈ allowed (recomputeTask workflow.tasks task).status
  · obtain rfl := unlisted listed
    rw [if_neg (not_not_intro listed), if_pos]
    · exact ⟨_, rfl⟩
    · exact ⟨.inl rfl, unready_of_listed listed⟩
  · rw [if_pos listed]
    exact ⟨_, rfl⟩

/-- A recomputation that leaves the set of completed tasks alone leaves the startable ones. -/
theorem canStart_congr {first second : List Task}
    (firstDistinct : (first.map Task.id).Nodup) (secondDistinct : (second.map Task.id).Nodup)
    (same : ∀ taskId, isCompleted first taskId = isCompleted second taskId) (task : Task) :
    CanStart first task ↔ CanStart second task := by
  rw [← all_isCompleted_iff firstDistinct, ← all_isCompleted_iff secondDistinct, funext same]

/-- Where the status of a task changes between statuses of open tasks, the same tasks are
completed as before. -/
theorem isCompleted_retargeted {tasks : List Task} (distinct : (tasks.map Task.id).Nodup)
    (member : task ∈ tasks) (unfinished : task.status ≠ .completed)
    (unfinishing : target ≠ .completed) (taskId : String) :
    isCompleted (retargeted tasks task.id target) taskId = isCompleted tasks taskId := by
  rw [← isCompleted_readied tasks taskId]
  apply isCompleted_congr
  rw [List.map_map]
  apply List.map_congr_left
  intro changed present
  obtain ⟨other, otherMember, rfl⟩ := List.mem_map.mp present
  rw [Function.comp_apply, setStatus_id, setStatus]
  split
  · rename_i named
    obtain rfl := List.inj_on_of_nodup_map distinct otherMember member
      ((recomputeTask_id tasks other).symm.trans named)
    simp [unfinished, unfinishing]
  · rfl

/-- The tasks after a transition have the ids of those before it. -/
theorem nodup_retargeted {tasks : List Task} (distinct : (tasks.map Task.id).Nodup)
    (taskId : String) (target : TaskStatus) :
    ((retargeted tasks taskId target).map Task.id).Nodup := by
  have same : (retargeted tasks taskId target).map Task.id = tasks.map Task.id := by
    simp [Function.comp_def]
  exact same ▸ distinct

/-- The task that a transition makes of a task of the list. -/
abbrev transitioned (tasks : List Task) (taskId : String) (target : TaskStatus) (task : Task) :
    Task :=
  recomputeTask (retargeted tasks taskId target)
    (setStatus taskId target (recomputeTask tasks task))

theorem mem_transitioned {tasks : List Task} {taskId : String} {after : Task} :
    after ∈ readied (retargeted tasks taskId target) ↔
      ∃ other ∈ tasks, transitioned tasks taskId target other = after := by
  simp only [retargeted, List.mem_map, exists_exists_and_eq_and]

/-- The status of another task is kept, or changed between pending and ready. -/
theorem keptOpen_transitioned {tasks : List Task} (distinct : (tasks.map Task.id).Nodup)
    {other : Task} {taskId : String} (different : other.id ≠ taskId) :
    KeptOpen other.status (transitioned tasks taskId target other).status := by
  have first := (reassessed_recomputeTask distinct other).status
  have second := (reassessed_recomputeTask (nodup_retargeted distinct taskId target)
    (recomputeTask tasks other)).status
  rw [transitioned, setStatus, if_neg (by rwa [recomputeTask_id])]
  exact first.trans second

/-- An open task can start after a change of its status just when it can before. -/
theorem canStart_retargeted {tasks : List Task} (distinct : (tasks.map Task.id).Nodup)
    (member : task ∈ tasks) (unfinished : task.status ≠ .completed)
    (unfinishing : target ≠ .completed) :
    CanStart (retargeted tasks task.id target)
      (setStatus task.id target (recomputeTask tasks task)) ↔ CanStart tasks task := by
  rw [← canStart_congr (nodup_retargeted distinct task.id target) distinct
    (isCompleted_retargeted distinct member unfinished unfinishing) task]
  simp only [CanStart, setStatus_dependencies, recomputeTask_dependencies]

/-- What becomes of the task itself when it is set to the target: a pending task that can
start is ready, and every other status but that of a ready task stays. -/
theorem status_transitioned {tasks : List Task} (distinct : (tasks.map Task.id).Nodup)
    (member : task ∈ tasks) (unfinished : task.status ≠ .completed) (other : target ≠ .ready) :
    (transitioned tasks task.id target task).status = target ↔
      ¬ (target = .pending ∧ CanStart tasks task) := by
  have changed : (setStatus task.id target (recomputeTask tasks task)).status = target := by
    rw [setStatus, if_pos (recomputeTask_id tasks task)]
  have reassessed := reassessed_recomputeTask (nodup_retargeted distinct task.id target)
    (setStatus task.id target (recomputeTask tasks task))
  have ready := reassessed.ready
  have kept := reassessed.status
  rw [changed] at ready kept
  by_cases pending : target = .pending
  · have unfinishing : target ≠ .completed := by simp [pending]
    have can := canStart_retargeted distinct member unfinished unfinishing
    rw [can] at ready
    subst pending
    simp only [Unstarted, true_or, true_and] at ready ⊢
    constructor
    · intro stays can
      rw [transitioned, ready.mpr can] at stays
      cases stays
    · intro cannot
      by_contra moved
      rcases (kept moved).2 with stays | becomes
      · exact moved stays
      · exact cannot (ready.mp becomes)
  · simp only [pending, false_and, not_false_eq_true, iff_true]
    by_contra moved
    rcases (kept moved).1 with same | same
    · exact pending same
    · exact other same

/-- **What a transition does**, and when it does it. -/
theorem takesEffect_iff (valid : TaskPlan.validateTasks workflow.tasks = .ok ())
    (member : task ∈ workflow.tasks) (unfinished : task.status ≠ .completed)
    (other : target ≠ .ready) :
    TakesEffect workflow task target
      { workflow with
        tasks := readied (retargeted workflow.tasks task.id target)
        completedTasks := completedIds (readied (retargeted workflow.tasks task.id target)) } ↔
      ¬ (target = .pending ∧ CanStart workflow.tasks task) := by
  have distinct := TaskPlan.nodup_of_validateTasks valid
  rw [← status_transitioned distinct member unfinished other]
  have only : ∀ source ∈ workflow.tasks, ∀ found ∈ workflow.tasks,
      (transitioned workflow.tasks task.id target found).id = source.id → found = source := by
    intro source sourceMember found foundMember same
    rw [transitioned, recomputeTask_id, setStatus_id, recomputeTask_id] at same
    exact List.inj_on_of_nodup_map distinct foundMember sourceMember same
  constructor
  · intro effect
    obtain ⟨after, present, named, status⟩ := effect.status
    obtain ⟨found, foundMember, rfl⟩ := mem_transitioned.mp present
    rwa [only task member found foundMember named] at status
  · intro status
    constructor
    · simp only [readied, List.map_map, Function.comp_def, recomputeTask_id, setStatus_id]
    · refine ⟨_, mem_transitioned.mpr ⟨task, member, rfl⟩, ?_, status⟩
      rw [transitioned, recomputeTask_id, setStatus_id, recomputeTask_id]
    · intro source sourceMember different after present named
      obtain ⟨found, foundMember, rfl⟩ := mem_transitioned.mp present
      rw [only source sourceMember found foundMember named]
      exact keptOpen_transitioned distinct different
    · intro taskId
      simp only [completedIds, List.mem_map, List.mem_filter, decide_eq_true_eq]
      constructor
      · rintro ⟨after, ⟨present, completed⟩, named⟩
        exact ⟨after, present, named, completed⟩
      · rintro ⟨after, present, named, completed⟩
        exact ⟨after, ⟨present, completed⟩, named⟩

/-- The code makes just the transitions that it lists and that do not lead to ready; these
are the permitted ones if the recomputation does not work against the transition. -/
theorem permitted_iff (valid : TaskPlan.validateTasks workflow.tasks = .ok ())
    (free : ¬ Overridden workflow.tasks task target) :
    Permitted workflow.tasks task target ↔
      target ∈ allowed (recomputeTask workflow.tasks task).status ∧ target ≠ .ready := by
  have reassessed := reassessed_recomputeTask (TaskPlan.nodup_of_validateTasks valid) task
  constructor
  · rintro ⟨listed, startable⟩
    refine ⟨listed, ?_⟩
    rintro rfl
    have can := startable (.inl rfl)
    rcases ready_mem_allowed.mp listed with pending | blocked
    · have unstarted := reassessed.status.unstarted_iff.mp (.inl pending)
      rw [reassessed.ready.mpr ⟨unstarted, can⟩] at pending
      cases pending
    · exact free ⟨can, .inr ⟨rfl, reassessed.status.blocked_iff.mp blocked⟩⟩
  · rintro ⟨listed, other⟩
    refine ⟨listed, ?_⟩
    rintro (rfl | rfl)
    · exact absurd rfl other
    · exact (reassessed.ready.mp (inProgress_mem_allowed.mp listed)).2

/-- A transition to pending that the table lists is overridden when the task can start. -/
theorem overridden_of_pending (valid : TaskPlan.validateTasks workflow.tasks = .ok ()) :
    .pending ∈ allowed (recomputeTask workflow.tasks task).status ∧
        CanStart workflow.tasks task ↔ Overridden workflow.tasks task .pending := by
  have reassessed := reassessed_recomputeTask (TaskPlan.nodup_of_validateTasks valid) task
  rw [pending_mem_allowed, reassessed.ready, reassessed.status.blocked_iff]
  simp only [Overridden, true_and, reduceCtorEq, false_and, or_false]
  constructor
  · rintro ⟨⟨unstarted, -⟩ | blocked, can⟩
    · exact ⟨can, .inl unstarted⟩
    · exact ⟨can, .inr blocked⟩
  · rintro ⟨can, unstarted | blocked⟩
    · exact ⟨.inl ⟨unstarted, can⟩, can⟩
    · exact ⟨.inr blocked, can⟩

theorem unfinished_of_listed {tasks : List Task}
    (listed : target ∈ allowed (recomputeTask tasks task).status) : task.status ≠ .completed := by
  intro completed
  rw [(recomputeTask_completed tasks task).mpr completed] at listed
  cases listed

/-- **When `transition_task` follows its table**: the recomputation does not work against
the transition. -/
theorem followsTable_iff (valid : TaskPlan.validateTasks workflow.tasks = .ok ())
    (member : task ∈ workflow.tasks) :
    FollowsTable workflow task target ↔ ¬ Overridden workflow.tasks task target := by
  have reassessed := reassessed_recomputeTask (TaskPlan.nodup_of_validateTasks valid) task
  constructor
  · intro follows overridden
    have can := overridden.1
    rcases overridden.2 with ⟨rfl, -⟩ | ⟨rfl, blocked⟩
    · -- the task is set to pending, and the second recomputation makes it ready
      have listed := ((overridden_of_pending valid).mpr overridden).1
      have made := transitionTask_of_listed valid member listed (by simp)
      have effect := follows.takesEffect _ made
      exact (takesEffect_iff valid member (unfinished_of_listed listed) (by simp)).mp effect
        ⟨rfl, can⟩
    · -- the readiness of a blocked task is to be blocked, whatever it depends on
      have listed : .ready ∈ allowed (recomputeTask workflow.tasks task).status :=
        ready_mem_allowed.mpr (.inr (reassessed.status.blocked_iff.mpr blocked))
      obtain ⟨changed, success⟩ := follows.succeeds.mpr ⟨listed, fun _ => can⟩
      obtain ⟨message, refused⟩ := transitionTask_refused valid member fun _ => rfl
      rw [refused] at success
      cases success
  · intro free
    have permitted := permitted_iff valid free
    by_cases accepted : target ∈ allowed (recomputeTask workflow.tasks task).status ∧
      target ≠ .ready
    · have made := transitionTask_of_listed valid member accepted.1 accepted.2
      refine ⟨iff_of_true ⟨_, made⟩ (permitted.mpr accepted), ?_, ?_⟩
      · intro changed success
        rw [made] at success
        cases success
        apply (takesEffect_iff valid member (unfinished_of_listed accepted.1) accepted.2).mpr
        rintro ⟨rfl, can⟩
        exact free ((overridden_of_pending valid).mp ⟨accepted.1, can⟩)
      · exact fun refused => absurd (permitted.mpr accepted) refused
    · obtain ⟨message, refused⟩ := transitionTask_refused valid member
        fun listed => by_contra fun other => accepted ⟨listed, other⟩
      refine ⟨iff_of_false ?_ (accepted ∘ permitted.mp), ?_, fun _ => ⟨message, refused⟩⟩
      · rintro ⟨changed, success⟩
        rw [refused] at success
        cases success
      · intro changed success
        rw [refused] at success
        cases success

/-- A workflow with one task, which is blocked and waits for nothing. -/
def stalledWorkflow : WorkflowState where
  workflowId := "workflow"
  originalGoal := "goal"
  tasks := [{ Ledger.firstTask with status := .blocked }]
  createdAt := .newYear
  updatedAt := .newYear

/-- A blocked task that waits for nothing is not let become ready, and becomes ready when
it is set to pending. -/
theorem not_followsTable_stalled :
    ¬ FollowsTable stalledWorkflow { Ledger.firstTask with status := .blocked } .ready ∧
    ¬ FollowsTable stalledWorkflow { Ledger.firstTask with status := .blocked } .pending := by
  constructor
  · intro follows
    obtain ⟨changed, success⟩ := follows.succeeds.mpr ⟨by decide, fun _ => by decide⟩
    cases success
  · intro follows
    have made : transitionTask stalledWorkflow "first" .pending =
        .ok { stalledWorkflow with
          tasks := [{ Ledger.firstTask with status := .ready, readiness := .ready }] } := rfl
    obtain ⟨after, present, -, status⟩ := (follows.takesEffect _ made).status
    rw [List.mem_singleton.mp present] at status
    cases status

/-- The criterion for the blocked task when it is to be cancelled. -/
theorem followsTable_iff_stalled :
    TaskPlan.validateTasks stalledWorkflow.tasks = .ok () ∧
    (FollowsTable stalledWorkflow { Ledger.firstTask with status := .blocked } .cancelled ↔
      ¬ Overridden stalledWorkflow.tasks { Ledger.firstTask with status := .blocked }
        .cancelled) :=
  ⟨by decide, followsTable_iff (by decide) (by simp [stalledWorkflow])⟩

end Transition

end ActionPlan.Workspace
