import ActionPlan.Agent.Outcomes

/-! # Identity and history across a run

A continuation and a refresh take the record of a workflow apart into a state of the
graph and make a new record of the result. The id, the goal and the metadata of the
workflow survive this. The version and the two timestamps are in neither list of
fields, so they start again as those of a new record.
-/

namespace ActionPlan.Agent

open ActionPlan.Foundation ActionPlan.Models ActionPlan.Memory

/-- The runs of the graph for a workflow that has a record already. -/
inductive Rerun where
  | continuation (completedTaskIds : List String)
  | refresh

namespace Rerun

/-- The operation of the service. -/
def run (services : Services) (workflow : WorkflowState) :
    Rerun → MemoryStore → Except Exn WorkflowState × MemoryStore
  | continuation completedTaskIds => continueWorkflow services workflow completedTaskIds
  | refresh => rebuildWorkflow services workflow

end Rerun

/-- The record holds the identity and the history of a workflow. The memory node writes the
entry `memory`, and no other entry of the metadata reaches the record. -/
structure KeepsHistory (workflow saved : WorkflowState) : Prop where
  workflowId : saved.workflowId = workflow.workflowId
  originalGoal : saved.originalGoal = workflow.originalGoal
  workRequest : saved.workRequest = workflow.workRequest
  createdAt : saved.createdAt = workflow.createdAt
  version : saved.version = workflow.version
  lastAssessedAt : saved.lastAssessedAt = workflow.lastAssessedAt
  executionMetadata : ∀ key, key ≠ "memory" →
    saved.executionMetadata.lookup key = workflow.executionMetadata.lookup key

/-- The request is what `compile_work_request` makes for the goal. -/
def CompiledFor (goal : String) (request : WorkRequest) : Prop :=
  request.goal = goal ∧
    request.roles = sortedSet ((request.people.map Person.role).filter (· ≠ ""))

/-- The workflow has no history that a run could lose: it was created at the reading of the
clock, has its first version and was never assessed by a person, and its request is there
and would be compiled again. -/
structure WithoutHistory (clock : Clock) (rerun : Rerun) (workflow : WorkflowState) : Prop where
  createdAt : workflow.createdAt = clock.resultCreatedAt
  version : workflow.version = 1
  lastAssessedAt : workflow.lastAssessedAt = none
  workRequest : ∃ request, workflow.workRequest = some request ∧
    (rerun = .refresh → CompiledFor workflow.originalGoal request)

section Requests

variable {workflow : WorkflowState} {payload : WorkRequestInput} {request : WorkRequest}

theorem workRequestInput_ok {goal : String} {people : List Person} {deadline : Option Date}
    {priority : Priority} {status : Option String} {constraints resources criteria : List String}
    (made : workRequestInput goal people deadline priority status constraints resources criteria =
      .ok payload) : compileWorkRequest payload =
        { goal, people, roles := sortedSet ((people.map Person.role).filter (· ≠ "")), deadline,
          priority, currentStatus := status, constraints, resources,
          successCriteria := criteria } := by
  unfold workRequestInput at made
  split at made <;> cases made
  rfl

/-- A refresh compiles the request of the record again. -/
theorem compileWorkRequest_rebuildPayload (stored : workflow.workRequest = some request)
    (made : rebuildPayload workflow = .ok payload) :
    compileWorkRequest payload = request ↔ CompiledFor workflow.originalGoal request := by
  unfold rebuildPayload at made
  rw [stored] at made
  rw [workRequestInput_ok made]
  obtain ⟨goal, people, roles, deadline, priority, status, constraints, resources, criteria⟩ :=
    request
  simp [CompiledFor, eq_comm]

/-- A continuation keeps the request that is there, or makes one. -/
theorem initializeRequest_continueInput {completedTaskIds : List String}
    (made : initializeRequest (continueInput workflow completedTaskIds) = .ok request) :
    some request = workflow.workRequest ↔ workflow.workRequest.isSome := by
  cases stored : workflow.workRequest with
  | none => simp
  | some present =>
      have kept : initializeRequest (continueInput workflow completedTaskIds) = .ok present := by
        simp only [initializeRequest, continueInput, toAgentState, stored]
      rw [kept] at made
      cases made
      simp

end Requests

section Reached

variable {services : Services} {workflow : WorkflowState} {initial reached : AgentState}

theorem next_ne_initializeNode (node : Node) (state : AgentState) :
    Node.next node state ≠ .initializeNode := by
  intro initialized
  cases node with
  | validatePlan =>
      rw [Node.next] at initialized
      split at initialized <;> cases initialized
  | _ => cases initialized

/-- A run delivers the request that it has initialized. -/
theorem reachMemory_workRequest (ended : reachMemory services initial = .ok reached) :
    ∃ request, initializeRequest initial = .ok request ∧ reached.workRequest = some request := by
  have annotated : (buildGraph services).Annotated fun node state =>
      if node = .initializeNode then state = initial else
        ∃ request, initializeRequest initial = .ok request ∧ state.workRequest = some request := by
    intro node state result _ holds executed
    change Node.exec services node state = .ok result at executed
    change if Node.next node result = .initializeNode then result = initial else _
    rw [if_neg (next_ne_initializeNode node result)]
    by_cases first : node = .initializeNode
    · subst first
      obtain rfl : state = initial := by simpa using holds
      obtain ⟨request, made, rfl⟩ := initializeNode_ok executed
      exact ⟨request, made, rfl⟩
    · rw [if_neg first] at holds
      rw [(Node.framed_of_exec executed).workRequest first]
      exact holds
  obtain ⟨exit, atExit, holds⟩ := annotated.run (by simp) ended
  obtain rfl : exit = .updateMemory := by simpa [buildGraph] using atExit
  simpa using holds

theorem originalGoal_of_identity {first second : AgentState}
    (same : first.identity = second.identity) : first.originalGoal = second.originalGoal :=
  congrArg (fun identity => identity.2.1) same

theorem originalGoal_toWorkflowState {state : AgentState} {goal : String}
    (named : state.originalGoal = some goal) (clock : Clock) :
    (toWorkflowState clock state).originalGoal = goal := by
  rw [toWorkflowState, named, Option.getD_some]

/-- What the record of a run takes from its initial state and from the clock. -/
structure Restarted (clock : Clock) (workflow : WorkflowState) (initial : AgentState)
    (saved : WorkflowState) : Prop where
  workflowId : saved.workflowId = workflow.workflowId
  originalGoal : saved.originalGoal = workflow.originalGoal
  workRequest : ∃ request, initializeRequest initial = .ok request ∧
    saved.workRequest = some request
  createdAt : saved.createdAt = clock.resultCreatedAt
  version : saved.version = 1
  lastAssessedAt : saved.lastAssessedAt = none
  executionMetadata : saved.executionMetadata =
    Dict.override workflow.executionMetadata (AList.singleton "memory" (.str "saved"))

theorem Restarted.lookup_executionMetadata {clock : Clock} {saved : WorkflowState}
    (restarted : Restarted clock workflow initial saved) {key : String} (other : key ≠ "memory") :
    saved.executionMetadata.lookup key = workflow.executionMetadata.lookup key := by
  rw [restarted.executionMetadata]
  exact Dict.lookup_override_singleton_of_ne _ _ other

/-- What such a record keeps is what would be the same in a new one. -/
theorem Restarted.keeps_iff {clock : Clock} {saved : WorkflowState}
    (restarted : Restarted clock workflow initial saved) :
    KeepsHistory workflow saved ↔ workflow.createdAt = clock.resultCreatedAt ∧
      workflow.version = 1 ∧ workflow.lastAssessedAt = none ∧
        saved.workRequest = workflow.workRequest := by
  constructor
  · intro keeps
    exact ⟨keeps.createdAt.symm.trans restarted.createdAt,
      keeps.version.symm.trans restarted.version,
      keeps.lastAssessedAt.symm.trans restarted.lastAssessedAt, keeps.workRequest⟩
  · rintro ⟨created, version, assessed, request⟩
    exact
      { workflowId := restarted.workflowId
        originalGoal := restarted.originalGoal
        workRequest := request
        createdAt := restarted.createdAt.trans created.symm
        version := restarted.version.trans version.symm
        lastAssessedAt := restarted.lastAssessedAt.trans assessed.symm
        executionMetadata := fun _ other => restarted.lookup_executionMetadata other }

/-- What a run makes is a new record for the workflow, to which its metadata are carried over. -/
theorem restarted_of_run (named : initial.workflowId = some workflow.workflowId)
    (goal : initial.originalGoal = some workflow.originalGoal)
    (ran : reachMemory services initial = .ok reached) (executionState : ExecutionState) :
    Restarted services.clock workflow initial
      { toWorkflowState services.clock (updateMemoryResult services.clock reached) with
        executionState
        executionMetadata := Dict.override workflow.executionMetadata
          (AList.singleton "memory" (.str "saved")) } where
  workflowId := workflowId_toWorkflowState
    ((workflowId_of_identity (reachMemory_identity ran)).trans named) services.clock
  originalGoal := originalGoal_toWorkflowState
    ((originalGoal_of_identity (reachMemory_identity ran)).trans goal) services.clock
  workRequest := by
    obtain ⟨request, made, stored⟩ := reachMemory_workRequest ran
    exact ⟨request, made, stored⟩
  createdAt := rfl
  version := rfl
  lastAssessedAt := rfl
  executionMetadata := rfl

theorem restarted_rebuiltWorkflow {payload : WorkRequestInput}
    (ran : reachMemory services (rebuildInput workflow payload) = .ok reached) :
    Restarted services.clock workflow (rebuildInput workflow payload)
      (rebuiltWorkflow services.clock workflow (updateMemoryResult services.clock reached)) :=
  restarted_of_run rfl rfl ran .completed

theorem restarted_continuedWorkflow {completedTaskIds : List String}
    (ran : reachMemory services (continueInput workflow completedTaskIds) = .ok reached) :
    Restarted services.clock workflow (continueInput workflow completedTaskIds)
      (continuedWorkflow services.clock workflow (updateMemoryResult services.clock reached)) :=
  restarted_of_run rfl rfl ran workflow.executionState

end Reached

section Histories

variable {services : Services} {workflow saved : WorkflowState} {store after : MemoryStore}

/-- **What survives a run.** The record that a continuation or a refresh saves last keeps
the identity and the history of its workflow exactly when there is no history to lose. -/
theorem keepsHistory_iff {rerun : Rerun}
    (ended : rerun.run services workflow store = (.ok saved, after)) :
    KeepsHistory workflow saved ↔ WithoutHistory services.clock rerun workflow := by
  cases rerun with
  | continuation completedTaskIds =>
      obtain ⟨reached, ran, rfl, -⟩ := exists_run_of_continueWorkflow ended
      have restarted := restarted_continuedWorkflow ran
      obtain ⟨request, made, stored⟩ := restarted.workRequest
      rw [restarted.keeps_iff, stored, initializeRequest_continueInput made,
        Option.isSome_iff_exists]
      constructor
      · rintro ⟨created, version, assessed, present, held⟩
        exact ⟨created, version, assessed, present, held, nofun⟩
      · rintro ⟨created, version, assessed, present, held, -⟩
        exact ⟨created, version, assessed, present, held⟩
  | refresh =>
      obtain ⟨payload, reached, compiled, ran, rfl⟩ := exists_run_of_rebuildWorkflow ended
      have restarted := restarted_rebuiltWorkflow ran
      obtain ⟨request, made, stored⟩ := restarted.workRequest
      cases made
      rw [restarted.keeps_iff, stored]
      constructor
      · rintro ⟨created, version, assessed, held⟩
        exact ⟨created, version, assessed, _, held.symm, fun _ =>
          (compileWorkRequest_rebuildPayload held.symm compiled).mp rfl⟩
      · rintro ⟨created, version, assessed, present, held, fits⟩
        rw [held, (compileWorkRequest_rebuildPayload held compiled).mpr (fits rfl)]
        exact ⟨created, version, assessed, rfl⟩

end Histories

section Continued

/-- A workflow with one task, created at the turn of the year. -/
def plannedWorkflow : WorkflowState where
  workflowId := "workflow"
  originalGoal := "goal"
  workRequest := some { goal := "goal" }
  requirements := [sampleRequirement]
  candidatePlan := some (buildCandidatePlan [sampleRequirement])
  tasks :=
    [{ sampleTask with
       description := "Define the work precisely: text"
       requirementIds := ["requirement"]
       description_nonempty := by decide }]
  createdAt := .newYear
  updatedAt := .newYear
  executionState := .completed

/-- The services of a later day. -/
def laterServices : Services :=
  { taskServices with
    clock := { taskServices.clock with resultCreatedAt := { DateTime.newYear with hour := 1 } } }

theorem continuation_ends (services : Services) (succeeds : (continueWorkflow services
    plannedWorkflow ["task_1"] { backend := .localStore }).1.isOk = true) : ∃ saved after,
      (Rerun.continuation ["task_1"]).run services plannedWorkflow { backend := .localStore } =
        (.ok saved, after) := by
  obtain ⟨saved, result⟩ := ok_of_isOk succeeds
  exact ⟨saved, _, Prod.ext result rfl⟩

/-- A continuation at the moment of the creation. -/
theorem keepsHistory_iff_planned : ∃ saved after,
    (Rerun.continuation ["task_1"]).run taskServices plannedWorkflow { backend := .localStore } =
      (.ok saved, after) ∧
    (KeepsHistory plannedWorkflow saved ↔
      WithoutHistory taskServices.clock (.continuation ["task_1"]) plannedWorkflow) := by
  obtain ⟨saved, after, ended⟩ := continuation_ends taskServices (by decide +kernel)
  exact ⟨saved, after, ended, keepsHistory_iff ended⟩

/-- A later continuation makes the workflow younger. -/
theorem continuation_recreates : ¬ ∀ (services : Services) (workflow saved : WorkflowState)
    (rerun : Rerun) (store after : MemoryStore),
      rerun.run services workflow store = (.ok saved, after) → KeepsHistory workflow saved := by
  intro claim
  obtain ⟨saved, after, ended⟩ := continuation_ends laterServices (by decide +kernel)
  have created := (claim _ _ _ _ _ _ ended).createdAt
  have continued : continueWorkflow laterServices plannedWorkflow ["task_1"]
      { backend := .localStore } = (.ok saved, after) := ended
  obtain ⟨reached, -, rfl, -⟩ := exists_run_of_continueWorkflow continued
  have later : laterServices.clock.resultCreatedAt ≠ plannedWorkflow.createdAt := by decide
  exact later created

end Continued

end ActionPlan.Agent
