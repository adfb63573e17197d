import ActionPlan.Agent.Answers
import ActionPlan.Agent.Outcomes
import ActionPlan.Agent.Similarity
import ActionPlan.Worker.Handler

/-! # The queue against the synchronous path

A workflow reaches the worker as its id and the stored record, and the record
holds no request before the execution. The two paths are compared by what they
leave in the memory store, generated ids, worker id and timestamps aside.
-/

namespace ActionPlan.Models

/-- The payload without its optional fields. -/
def WorkRequestInput.goalOnly (payload : WorkRequestInput) : WorkRequestInput where
  goal := payload.goal
  goal_nonempty := payload.goal_nonempty
  goal_short := payload.goal_short

theorem goalInput_goal (payload : WorkRequestInput) :
    goalInput payload.goal = .ok payload.goalOnly :=
  dif_pos ⟨payload.goal_nonempty, payload.goal_short⟩

end ActionPlan.Models

namespace ActionPlan.Worker

open ActionPlan.Foundation ActionPlan.Models ActionPlan.Memory ActionPlan.Agent

/-- What one path reads besides the payload and the store. -/
structure Path where
  services : Services
  creation : Creation
  workerId : String
  claimedAt : DateTime
  /-- `_generate_workflow_id` returns no empty text. -/
  generated : creation.workflowId ≠ ""

namespace Path

variable (path : Path) (payload : WorkRequestInput) (store : MemoryStore)

/-- The workflow that the path is about. -/
def workflowId : String := path.creation.workflowId

/-- What `create_workflow_sync` leaves in the store. -/
def storedDirectly : Option WorkflowState :=
  (createWorkflowSync path.services path.creation path.workerId path.claimedAt payload
    store).2.getWorkflow path.workflowId

/-- What `create_workflow` leaves in the store once the worker has handled the
message, if one has been published. -/
def storedThroughQueue : Option WorkflowState :=
  match createWorkflow path.creation payload store with
  | (.error _, store) => store.getWorkflow path.workflowId
  | (.ok (_, message), store) =>
    (handler path.workerId
      [{ body := .ok message, services := path.services, claimedAt := path.claimedAt }]
      store).2.getWorkflow path.workflowId

/-- The record of the new workflow once it is claimed. -/
def claimedRecord : WorkflowState :=
  MemoryStore.running path.claimedAt (queuedWorkflow path.creation payload)

/-- The record that an execution of `request` leaves for a workflow created from `payload`. -/
def executedRecord (backend : Backend) (request : WorkRequestInput) : WorkflowState :=
  match reachMemory path.services (executionInput path.workflowId path.workerId request) with
  | .error _ => path.claimedRecord payload
  | .ok reached =>
    MemoryStore.load backend (executedWorkflow path.services.clock
      (updateMemoryResult path.services.clock reached)).jsonCopy

/-- What an execution of a new workflow leaves in the store. -/
theorem stored_executeWorkflowSync (request : WorkRequestInput) :
    (executeWorkflowSync path.services path.workflowId path.workerId path.claimedAt request
      (store.saveWorkflow (queuedWorkflow path.creation payload))).2.getWorkflow path.workflowId =
        some (path.executedRecord payload store.backend request) := by
  rw [workflowId, executedRecord, workflowId]
  rcases executeWorkflowSync_cases path.services store path.creation payload path.workerId
    path.claimedAt request with ⟨failure, next, failed, ended, running, -⟩ |
      ⟨reached, next, ran, ended, saves⟩
  · rw [ended, failed]
    exact running
  · have stored := saves.stored
    rw [workflowId_executedWorkflow ran] at stored
    rw [ended, ran]
    exact stored

/-- What a direct execution stores. -/
theorem storedDirectly_eq :
    path.storedDirectly payload store =
      some (path.executedRecord payload store.backend payload) :=
  path.stored_executeWorkflowSync payload store payload

/-- The worker executes the goal of the record, if a message could be made. -/
theorem storedThroughQueue_eq :
    path.storedThroughQueue payload store =
      some (if payload.deadline = none
        then path.executedRecord payload store.backend payload.goalOnly
        else queuedWorkflow path.creation payload) := by
  have saved := saves_queuedWorkflow store path.creation payload
  rcases queueMessage_cases path.creation.workflowId payload with
    ⟨⟨message, made⟩, undated⟩ | ⟨⟨failure, refused⟩, dated⟩
  · simp only [storedThroughQueue, createWorkflow, made, Except.map, if_pos undated]
    rw [handler_queueMessage made path.generated, executeQueuedWorkflow, saved]
    have goal : goalInput (queuedWorkflow path.creation payload).originalGoal =
      .ok payload.goalOnly := goalInput_goal payload
    simp only [goal]
    exact path.stored_executeWorkflowSync payload store payload.goalOnly
  · simp only [storedThroughQueue, createWorkflow, refused, Except.map, if_neg dated]
    exact saved

variable {path payload} in
/-- An execution that raises leaves the claimed record. -/
theorem executedRecord_error {backend : Backend} {request : WorkRequestInput} {failure : Exn}
    (failed : reachMemory path.services (executionInput path.workflowId path.workerId request) =
      .error failure) :
    path.executedRecord payload backend request = path.claimedRecord payload := by
  rw [executedRecord, failed]

variable {path payload} in
/-- An execution that ends leaves its result. -/
theorem executedRecord_ok {backend : Backend} {request : WorkRequestInput} {reached : AgentState}
    (ended : reachMemory path.services (executionInput path.workflowId path.workerId request) =
      .ok reached) :
    path.executedRecord payload backend request =
      MemoryStore.load backend (executedWorkflow path.services.clock
        (updateMemoryResult path.services.clock reached)).jsonCopy := by
  rw [executedRecord, ended]

/-- An answered execution leaves its request in a completed record, another one
leaves the record as it was claimed. -/
theorem executedRecord_cases (backend : Backend) (request : WorkRequestInput) :
    Answered path.services path.workflowId (compileWorkRequest request) ∧
        (path.executedRecord payload backend request).executionState = .completed ∧
        (path.executedRecord payload backend request).workRequest =
          some (compileWorkRequest request) ∨
      ¬ Answered path.services path.workflowId (compileWorkRequest request) ∧
        path.executedRecord payload backend request = path.claimedRecord payload := by
  cases ended : reachMemory path.services
      (executionInput path.workflowId path.workerId request) with
  | error failure =>
      refine .inr ⟨fun answered => ?_, executedRecord_error ended⟩
      obtain ⟨reached, success⟩ := (reachMemory_ok_iff path.workerId).mpr answered
      cases ended.symm.trans success
  | ok reached =>
      have initialized := (reachMemory_outline (builtInitially_of_none rfl) ended).1
      rw [executedRecord_ok ended, MemoryStore.load_executionState, MemoryStore.load_workRequest]
      exact .inl ⟨(reachMemory_ok_iff path.workerId).mp ⟨reached, ended⟩, rfl,
        initialized.execution⟩

end Path

variable {direct queued : Path} {payload : WorkRequestInput} {store : MemoryStore}

/-- The two paths leave the same record, generated ids, worker id and timestamps aside. -/
def SameRecord (direct queued : Path) (payload : WorkRequestInput) (store : MemoryStore) : Prop :=
  (queued.storedThroughQueue payload store).map WorkflowState.anonymous =
    (direct.storedDirectly payload store).map WorkflowState.anonymous

/-- Executions of one request without a deadline leave the same record. -/
theorem anonymous_executedRecord
    (same : SameAnswers direct.services queued.services direct.workflowId queued.workflowId)
    (backend : Backend) {request : WorkRequestInput} (undated : request.deadline = none) :
    (queued.executedRecord payload backend request).anonymous =
      (direct.executedRecord payload backend request).anonymous := by
  have similar : Similar direct.workflowId queued.workflowId
      (executionInput direct.workflowId direct.workerId request)
      (executionInput queued.workflowId queued.workerId request) :=
    ⟨rfl, ⟨rfl, undated⟩, none, _, rfl, rfl⟩
  have agree := reachMemory_similar same similar
  cases directly : reachMemory direct.services
      (executionInput direct.workflowId direct.workerId request) with
  | error failure =>
      cases queuedRun : reachMemory queued.services
          (executionInput queued.workflowId queued.workerId request) with
      | error other =>
          rw [Path.executedRecord_error directly, Path.executedRecord_error queuedRun]
          rfl
      | ok other =>
          rw [directly, queuedRun] at agree
          exact agree.elim
  | ok reached =>
      cases queuedRun : reachMemory queued.services
          (executionInput queued.workflowId queued.workerId request) with
      | error other =>
          rw [directly, queuedRun] at agree
          exact agree.elim
      | ok other =>
          rw [directly, queuedRun] at agree
          rw [Path.executedRecord_ok directly, Path.executedRecord_ok queuedRun]
          exact anonymous_executedWorkflow agree backend _ _

/-- **What the queue preserves.** The worker leaves the record of the synchronous
path exactly when the payload holds a goal only, or when a message can be made
and both executions fail. -/
theorem sameRecord_iff
    (same : SameAnswers direct.services queued.services direct.workflowId queued.workflowId) :
    SameRecord direct queued payload store ↔
      payload = payload.goalOnly ∨
        payload.deadline = none ∧
          ¬ Answered direct.services direct.workflowId (compileWorkRequest payload) ∧
          ¬ Answered queued.services queued.workflowId (compileWorkRequest payload.goalOnly) := by
  rw [SameRecord, Path.storedThroughQueue_eq, Path.storedDirectly_eq, Option.map_some,
    Option.map_some, Option.some_inj]
  by_cases undated : payload.deadline = none
  · rw [if_pos undated]
    constructor
    · intro equal
      obtain ⟨states, requests⟩ := WorkflowState.same_of_anonymous equal
      rcases direct.executedRecord_cases payload store.backend payload with
        ⟨-, directState, directRequest⟩ | ⟨unanswered, directRecord⟩
      · rcases queued.executedRecord_cases payload store.backend payload.goalOnly with
          ⟨-, -, queuedRequest⟩ | ⟨-, queuedRecord⟩
        · rw [directRequest, queuedRequest, Option.some_inj] at requests
          exact .inl (compileWorkRequest_injective requests).symm
        · rw [directState, queuedRecord] at states
          cases states
      · rcases queued.executedRecord_cases payload store.backend payload.goalOnly with
          ⟨-, queuedState, -⟩ | ⟨refused, -⟩
        · rw [directRecord, queuedState] at states
          cases states
        · exact .inr ⟨undated, unanswered, refused⟩
    · rintro (goalOnly | ⟨-, unanswered, refused⟩)
      · rw [← goalOnly]
        exact anonymous_executedRecord same store.backend undated
      · rcases direct.executedRecord_cases payload store.backend payload with
          ⟨answered, -⟩ | ⟨-, directRecord⟩
        · exact absurd answered unanswered
        · rcases queued.executedRecord_cases payload store.backend payload.goalOnly with
            ⟨answered, -⟩ | ⟨-, queuedRecord⟩
          · exact absurd answered refused
          · rw [directRecord, queuedRecord]
            rfl
  · rw [if_neg undated]
    constructor
    · intro equal
      obtain ⟨states, -⟩ := WorkflowState.same_of_anonymous equal
      rcases direct.executedRecord_cases payload store.backend payload with
        ⟨-, directState, -⟩ | ⟨-, directRecord⟩
      · rw [directState] at states
        cases states
      · rw [directRecord] at states
        cases states
    · rintro (goalOnly | ⟨present, -⟩)
      · exact absurd (congrArg WorkRequestInput.deadline goalOnly) undated
      · exact absurd present undated

section Examples

/-- A path with services that find no requirements. -/
def silentPath (workflowId : { text : String // text ≠ "" }) : Path where
  services := silentServices
  creation := { workflowId := workflowId.val, createdAt := .newYear, updatedAt := .newYear }
  workerId := "worker"
  claimedAt := .newYear
  generated := workflowId.property

def directPath : Path := silentPath ⟨"wf_goal_1", by decide⟩

def queuedPath : Path := silentPath ⟨"wf_goal_2", by decide⟩

theorem sameAnswers_silent : SameAnswers directPath.services queuedPath.services
    directPath.workflowId queuedPath.workflowId := ⟨rfl, fun _ _ => rfl⟩

/-- A goal alone reaches the worker. -/
theorem sameRecord_goalOnly :
    SameRecord directPath queuedPath { goal := "goal" } { backend := .localStore } :=
  (sameRecord_iff sameAnswers_silent).mpr (.inl rfl)

/-- A priority is lost on the way to the worker. -/
theorem priority_lost : ¬ ∀ (direct queued : Path) (payload : WorkRequestInput)
    (store : MemoryStore),
    SameAnswers direct.services queued.services direct.workflowId queued.workflowId →
      SameRecord direct queued payload store := by
  intro claim
  have same := claim directPath queuedPath { goal := "goal", priority := .high }
    { backend := .localStore } sameAnswers_silent
  have requests := congrArg (Option.map WorkflowState.workRequest) same
  revert requests
  decide

end Examples

end ActionPlan.Worker
