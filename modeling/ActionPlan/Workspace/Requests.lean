import ActionPlan.Workspace.Store

/-! # The writing requests of the workspace routes

`api/routes/workflows.py`: each of the routes loads the workflow, edits it, and
calls `save` or `revise` with the version of its payload. The edits are given
here one by one; `Request.submit` is what the routes share.
-/

namespace ActionPlan.Workspace

open ActionPlan.Foundation ActionPlan.Models

/-- A change of a loaded workflow that keeps its id. -/
abbrev Edit :=
  { edit : WorkflowState → Except Exn WorkflowState //
    ∀ workflow edited, edit workflow = .ok edited → edited.workflowId = workflow.workflowId }

/-- What the caller of `save` or `revise` does with the loaded workflow. -/
inductive Change where
  | save (edit : Edit) (event : Event)
  | revise (tasks : List Task) (reason : Option String)

/-- An edit together with the version that its client has seen. -/
structure Request where
  change : Change
  expectedVersion : Int

/-- The work between loading the workflow and selecting its version. -/
def Change.prepare (workflow : WorkflowState) : Change → Except Exn WorkflowState
  | save edit _ => edit.val workflow
  | revise tasks _ => (TaskPlan.validateTasks tasks).map fun _ => workflow

/-- The write transaction. -/
def Request.commit (request : Request) (db : Database) (tokens : Tokens) (draft : WorkflowState) :
    Except Exn (WorkflowState × Database) :=
  match request.change with
  | .save _ event => db.commitSave tokens draft request.expectedVersion event
  | .revise tasks reason => db.commitRevise tokens draft request.expectedVersion tasks reason

/-- The request after the workflow is loaded, without interruption. -/
def Request.submit (request : Request) (db : Database) (tokens : Tokens)
    (workflow : WorkflowState) : Except Exn (WorkflowState × Database) := do
  let draft ← request.change.prepare workflow
  db.checkVersion draft.workflowId request.expectedVersion
  request.commit db tokens draft

/-- The workflow that the write transaction makes of a prepared one. -/
def Change.applied (draft : WorkflowState) : Change → WorkflowState
  | save _ _ => draft
  | revise tasks _ => Database.revised draft tasks

section Submit

variable {request : Request} {db next : Database} {tokens : Tokens}
  {workflow draft returned : WorkflowState}

/-- A submitted edit is a call of `save`. -/
theorem submit_save (edit : Edit) (event : Event) (expectedVersion : Int) :
    Request.submit { change := .save edit event, expectedVersion } db tokens workflow =
      (edit.val workflow >>= fun draft => db.save tokens draft expectedVersion event) := rfl

/-- A submitted revision is a call of `revise`. -/
theorem submit_revise (tasks : List Task) (reason : Option String) (expectedVersion : Int) :
    Request.submit { change := .revise tasks reason, expectedVersion } db tokens workflow =
      db.revise tokens workflow expectedVersion tasks reason := by
  rw [Request.submit, Database.revise]
  change (TaskPlan.validateTasks tasks).map _ >>= _ = TaskPlan.validateTasks tasks >>= _
  cases TaskPlan.validateTasks tasks <;> rfl

/-- An edit of a valid workflow with the stored version succeeds. -/
theorem submit_total {edit : Edit} {event : Event} {expectedVersion : Int}
    (prepared : edit.val workflow = .ok draft)
    (selected : db.selectVersion draft.workflowId = some expectedVersion)
    (valid : TaskPlan.validateTasks draft.tasks = .ok ())
    (fresh : db.events.find? tokens.eventId = none) (json : event.details.isJson = true) :
    ∃ result, Request.submit { change := .save edit event, expectedVersion } db tokens workflow =
      .ok result := by
  obtain ⟨result, saved⟩ := Database.save_total selected valid fresh json
  exact ⟨result, (submit_save edit event expectedVersion).trans (bind_of_ok prepared saved)⟩

theorem prepare_workflowId {change : Change} (prepared : change.prepare workflow = .ok draft) :
    draft.workflowId = workflow.workflowId := by
  cases change with
  | save edit event => exact edit.property _ _ prepared
  | revise tasks reason =>
      obtain ⟨_, -, rfl⟩ := ok_of_map prepared
      rfl

@[simp] theorem applied_workflowId (change : Change) :
    (change.applied draft).workflowId = draft.workflowId := by
  cases change <;> rfl

@[simp] theorem applied_executionState (change : Change) :
    (change.applied draft).executionState = draft.executionState := by
  cases change <;> rfl

@[simp] theorem applied_recommendation (change : Change) :
    (change.applied draft).recommendation = draft.recommendation := by
  cases change <;> rfl

/-- A commit writes the applied change with the next version. -/
theorem commit_ok (committed : request.commit db tokens draft = .ok (returned, next)) :
    db.Written tokens
      (Database.advance tokens (request.change.applied draft) request.expectedVersion)
      returned next := by
  unfold Request.commit at committed
  cases kind : request.change with
  | save edit event =>
      rw [kind] at committed
      exact Database.write_ok committed
  | revise tasks reason =>
      rw [kind] at committed
      exact Database.commitRevise_ok committed

/-- What a successful request does. -/
theorem submit_ok (success : request.submit db tokens workflow = .ok (returned, next)) :
    ∃ draft, request.change.prepare workflow = .ok draft ∧
      draft.workflowId = workflow.workflowId ∧
      db.selectVersion workflow.workflowId = some request.expectedVersion ∧
      db.Written tokens
        (Database.advance tokens (request.change.applied draft) request.expectedVersion)
        returned next := by
  obtain ⟨draft, prepared, rest⟩ := ok_of_bind success
  obtain ⟨_, checked, committed⟩ := ok_of_bind rest
  have same := prepare_workflowId prepared
  exact ⟨draft, prepared, same, same ▸ Database.checkVersion_ok checked, commit_ok committed⟩

end Submit

section Edits

/-- The task that `patch_task` leaves of the patched one. -/
def patchedTask (patch : TaskPatch) (task : Task) : Task :=
  { task with
    description := (patch.description.map Subtype.val).getD task.description
    dependencies := patch.dependencies.getD task.dependencies
    acceptanceCriteria := patch.acceptanceCriteria.getD task.acceptanceCriteria
    description_nonempty := by
      cases patch.description with
      | none => exact task.description_nonempty
      | some description => exact description.property }

@[simp] theorem patchedTask_id (patch : TaskPatch) (task : Task) :
    (patchedTask patch task).id = task.id := rfl

@[simp] theorem patchedTask_status (patch : TaskPatch) (task : Task) :
    (patchedTask patch task).status = task.status := rfl

@[simp] theorem patchedTask_dependencies (patch : TaskPatch) (task : Task) :
    (patchedTask patch task).dependencies = patch.dependencies.getD task.dependencies := rfl

/-- `list(payload.model_dump(exclude_none=True, exclude={"version"}))`. -/
def patchedFields (patch : TaskPatch) : List String :=
  (if patch.description.isSome then ["description"] else []) ++
    (if patch.dependencies.isSome then ["dependencies"] else []) ++
    if patch.acceptanceCriteria.isSome then ["acceptance_criteria"] else []

/-- The loop over the fields in `patch_task`; the ids of stored tasks are distinct. -/
def patchTasks (taskId : String) (patch : TaskPatch) (tasks : List Task) : List Task :=
  tasks.map fun task => if task.id = taskId then patchedTask patch task else task

/-- The edit of `patch_task`. -/
def patchTask (taskId : String) (patch : TaskPatch) (workflow : WorkflowState) :
    Except Exn WorkflowState :=
  if workflow.tasks.any fun task => task.id = taskId then
    .ok { workflow with tasks := patchTasks taskId patch workflow.tasks }
  else .error (.httpException 404 ("Task " ++ taskId ++ " not found."))

/-- The edit of `update`. -/
def supplyInformation (text : String) (workflow : WorkflowState) : Except Exn WorkflowState :=
  let entry : Value := .dict [("text", .str text), ("at", .str "user-provided")]
  let supplied (updates : List Value) : WorkflowState :=
    { workflow with
      executionMetadata := workflow.executionMetadata.insert "user_updates" (.list updates)
      lastAssessedAt := some workflow.updatedAt }
  match workflow.executionMetadata.lookup "user_updates" with
  | none => .ok (supplied [entry])
  | some (.list updates) => .ok (supplied (updates ++ [entry]))
  | some _ => .error (.attributeError "object has no attribute 'append'")

/-- The edit of `recommendation_decision`. -/
def decideRecommendation (recommendationId : String) (payload : RecommendationDecision)
    (workflow : WorkflowState) : Except Exn WorkflowState :=
  match workflow.recommendation with
  | none => .error (.httpException 404 "Recommendation not found.")
  | some recommendation =>
    if recommendation.recommendationId ≠ recommendationId then
      .error (.httpException 404 "Recommendation not found.")
    else if recommendation.status = .stale ∨ workflow.version ≠ payload.version.val then
      .error (.httpException 409
        "Recommendation is stale. Review the current workflow first.")
    else
      .ok { workflow with
        recommendation := some
          { recommendation with
            status := payload.decision.status
            decisionReason := payload.reason.map Subtype.val
            decidedAt := some workflow.updatedAt } }

variable {workflow draft : WorkflowState}

/-- A patch that succeeds edits the tasks. -/
theorem patchTask_ok {taskId : String} {patch : TaskPatch}
    (success : patchTask taskId patch workflow = .ok draft) :
    draft = { workflow with tasks := patchTasks taskId patch workflow.tasks } := by
  unfold patchTask at success
  split at success <;> cases success
  rfl

/-- An update that succeeds writes the metadata and a timestamp. -/
theorem supplyInformation_ok {text : String}
    (success : supplyInformation text workflow = .ok draft) :
    ∃ executionMetadata lastAssessedAt,
      draft = { workflow with executionMetadata, lastAssessedAt } := by
  unfold supplyInformation at success
  split at success <;> cases success <;> exact ⟨_, _, rfl⟩

/-- A decision that succeeds is written into the recommendation. -/
theorem decideRecommendation_ok {recommendationId : String} {payload : RecommendationDecision}
    (success : decideRecommendation recommendationId payload workflow = .ok draft) :
    ∃ recommendation, workflow.recommendation = some recommendation ∧
      draft = { workflow with
        recommendation := some
          { recommendation with
            status := payload.decision.status
            decisionReason := payload.reason.map Subtype.val
            decidedAt := some workflow.updatedAt } } := by
  unfold decideRecommendation at success
  split at success
  · cases success
  · rename_i recommendation present
    split at success
    · cases success
    · split at success <;> cases success
      exact ⟨recommendation, present, rfl⟩

/-- The payloads of the writing routes. -/
inductive Submission where
  | patch (taskId : String) (payload : TaskPatch)
  | transition (taskId : String) (payload : TaskTransition)
  | revise (payload : PlanRevisionRequest)
  | update (payload : WorkflowUpdateRequest)
  | decide (recommendationId : String) (payload : RecommendationDecision)

namespace Submission

/-- The edit and the event of each route. -/
def request : Submission → Request
  | patch taskId payload =>
    { change := .save
        ⟨patchTask taskId payload, fun workflow edited success => by rw [patchTask_ok success]⟩
        { eventType := "task_edited"
          entityId := some taskId
          details := .dict [("fields", .strings (patchedFields payload))] }
      expectedVersion := payload.version.val }
  | transition taskId payload =>
    { change := .save
        ⟨fun workflow => transitionTask workflow taskId payload.status,
          fun workflow edited success => by
            obtain ⟨-, completedTasks, rfl⟩ := transitionTask_ok success
            rfl⟩
        { eventType := "task_status_changed"
          entityId := some taskId
          details := .dict [("status", .str payload.status.value),
            ("reason", Database.reasonText (payload.reason.map Subtype.val))] }
      expectedVersion := payload.version.val }
  | revise payload =>
    { change := .revise payload.tasks (payload.reason.map Subtype.val)
      expectedVersion := payload.version.val }
  | update payload =>
    { change := .save
        ⟨supplyInformation payload.text.val, fun workflow edited success => by
          obtain ⟨_, _, rfl⟩ := supplyInformation_ok success
          rfl⟩
        { eventType := "user_information_supplied"
          details := .dict [("text", .str payload.text.val)] }
      expectedVersion := payload.version.val }
  | decide recommendationId payload =>
    { change := .save
        ⟨decideRecommendation recommendationId payload, fun workflow edited success => by
          obtain ⟨_, -, rfl⟩ := decideRecommendation_ok success
          rfl⟩
        { eventType := "recommendation_" ++ payload.decision.value
          entityId := some recommendationId
          details := .dict
            [("reason", Database.reasonText (payload.reason.map Subtype.val))] }
      expectedVersion := payload.version.val }

/-- What a submission does to the tasks of a workflow, before they are recomputed. -/
def editTasks : Submission → List Task → List Task
  | patch taskId payload, tasks => patchTasks taskId payload tasks
  | transition taskId payload, tasks => (readied tasks).map (setStatus taskId payload.status)
  | revise payload, _ => payload.tasks
  | update _, tasks | decide _ _, tasks => tasks

variable {submission : Submission}

/-- What the workspace routes change of a workflow. -/
structure Prepared (submission : Submission) (workflow draft : WorkflowState) : Prop where
  tasks : readied (submission.request.change.applied draft).tasks =
    readied (submission.editTasks workflow.tasks)
  executionState : draft.executionState = workflow.executionState
  recommendation : draft.recommendation.map Recommendation.recommendationId =
    workflow.recommendation.map Recommendation.recommendationId

theorem prepare_ok (prepared : submission.request.change.prepare workflow = .ok draft) :
    Prepared submission workflow draft := by
  cases submission with
  | patch taskId payload =>
      obtain rfl := patchTask_ok prepared
      exact ⟨rfl, rfl, rfl⟩
  | transition taskId payload =>
      obtain ⟨-, completedTasks, rfl⟩ := transitionTask_ok prepared
      exact ⟨readied_readied _, rfl, rfl⟩
  | revise payload =>
      obtain ⟨_, -, rfl⟩ := ok_of_map prepared
      exact ⟨rfl, rfl, rfl⟩
  | update payload =>
      obtain ⟨_, _, rfl⟩ := supplyInformation_ok prepared
      exact ⟨rfl, rfl, rfl⟩
  | decide recommendationId payload =>
      obtain ⟨recommendation, present, rfl⟩ := decideRecommendation_ok prepared
      exact ⟨rfl, rfl, by rw [present]; rfl⟩

end Submission

end Edits

end ActionPlan.Workspace
