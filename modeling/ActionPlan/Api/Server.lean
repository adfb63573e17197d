import ActionPlan.Agent.Service
import ActionPlan.Api.Documents
import ActionPlan.Foundation.TransitionSystem
import ActionPlan.Workspace.Requests

/-! # The server: two stores and the routes over them

`api/routes/goals.py`, `api/routes/workflows.py` and `api/routes/documents.py`,
with the background executions of the service. Routes run one at a time and as a
whole, without an execution in between, and the calls of the memory store do not fail
(`Agent.Operations` has routes and executions that overlap). An execution stops after its
claim and after the save of the memory node, so that routes can run in between. A command
carries what its step draws from `uuid4`, the clock and the services.
-/

namespace ActionPlan.Api

open ActionPlan.Foundation ActionPlan.Models ActionPlan.Memory ActionPlan.Agent
  ActionPlan.Workspace

/-- How far an execution has come. -/
inductive Stage where
  | claiming
  | claimed
  | saved (clock : Clock) (result : AgentState)

/-- A call of `_execute_workflow_sync` outside a request; `background` when
`execute_in_background` handles its errors. -/
structure Execution where
  workflowId : String
  workerId : String
  payload : WorkRequestInput
  background : Bool
  stage : Stage := .claiming

/-- The memory of the agent, the workspace database and the executions that have been started. -/
structure Server where
  memory : MemoryStore
  db : Database := {}
  executions : List Execution := []
  /-- Whether `workflow_queue_url` is set. -/
  queueConfigured : Bool := false

/-- What a route returns, and the server after it. -/
abbrev Served := Except Exn WorkflowState × Server

/-- The answer of a route that does not know the workflow. -/
def workflowNotFound (workflowId : String) : Exn :=
  .httpException 404 ("Workflow " ++ workflowId ++ " not found.")

/-- `_raise`; other exceptions pass through the `except` clauses. -/
def raised (failure : Exn) : Exn :=
  match failure.workspaceStatus with
  | none => failure
  | some statusCode => .httpException statusCode failure.message

namespace Server

variable (server : Server)

/-- `_workspace_workflow`. -/
def workspaceWorkflow (tokens : Tokens) (workflowId : String) : Served :=
  match server.db.get workflowId with
  | .ok workflow => (.ok workflow, server)
  | .error _ =>
    match server.memory.getWorkflow workflowId with
    | none => (.error (workflowNotFound workflowId), server)
    | some legacy =>
      match server.db.ensure tokens legacy with
      | .error failure => (.error failure, server)
      | .ok (workflow, db) => (.ok workflow, { server with db })

/-- `patch_task`, `transition`, `revise_plan`, `update` and `recommendation_decision`. -/
def submit (workflowId : String) (submission : Submission) (readTokens writeTokens : Tokens) :
    Served :=
  match server.workspaceWorkflow readTokens workflowId with
  | (.error failure, server) => (.error failure, server)
  | (.ok workflow, server) =>
    match submission.request.submit server.db writeTokens workflow with
    | .error failure => (.error (raised failure), server)
    | .ok (workflow, db) => (.ok workflow, { server with db })

/-- `refresh_workflow` up to the synchronization: the rebuilt workflow, and the
stored one with its version. -/
def resync (workflowId : String) (services : Services) (tokens : Tokens) :
    Except Exn (WorkflowState × WorkflowState) × Server :=
  match server.memory.getWorkflow workflowId with
  | none => (.error (workflowNotFound workflowId), server)
  | some workflow =>
    match rebuildWorkflow services workflow server.memory with
    | (.error failure, memory) => (.error failure, { server with memory })
    | (.ok rebuilt, memory) =>
      match server.db.ensure tokens workflow with
      | .error failure => (.error failure, { server with memory })
      | .ok (workflow, db) => (.ok (rebuilt, workflow), { server with memory, db })

/-- `refresh_workflow`. -/
def refreshWorkflow (workflowId : String) (services : Services)
    (ensureTokens saveTokens : Tokens) : Served :=
  match server.resync workflowId services ensureTokens with
  | (.error failure, server) => (.error failure, server)
  | (.ok (rebuilt, workflow), server) =>
    match server.db.save saveTokens rebuilt workflow.version
      { eventType := "assessment_completed", actor := "system" } with
    | .error failure => (.error (raised failure), server)
    | .ok (returned, db) => (.ok returned, { server with db })

/-- `continue_goal`. It reads, works and saves, and no execution saves in between. -/
def continueGoal (workflowId : String) (completedTaskIds : List String) (services : Services) :
    Served :=
  match server.memory.getWorkflow workflowId with
  | none => (.error (workflowNotFound workflowId), server)
  | some workflow =>
    match continueWorkflow services workflow completedTaskIds server.memory with
    | (outcome, memory) => (outcome, { server with memory })

/-- The end of `ingest_document_route`, once the document is embedded. The route reads the record
before it embeds the document and saves it afterwards; here no execution saves it in between. -/
def ingest (workflowId filename : String) : Server :=
  match server.memory.getWorkflow workflowId with
  | none => server
  | some workflow =>
    match withDocument filename workflow with
    | .error _ => server
    | .ok workflow => { server with memory := server.memory.saveWorkflow workflow }

end Server

/-- A request to `create_goal`, with what its handling draws. -/
structure Goal where
  payload : WorkRequestInput
  idempotencyKey : Option String := none
  sync : Bool := false
  creation : Creation
  workerId : String
  claimedAt : DateTime
  services : Services
  tokens : Tokens
  keyedAt : DateTime

namespace Server

variable (server : Server)

/-- `create_workflow_sync` or `create_workflow`; without a queue the latter
starts a thread. -/
def create (goal : Goal) : Served :=
  if goal.sync then
    match createWorkflowSync goal.services goal.creation goal.workerId goal.claimedAt goal.payload
      server.memory with
    | (outcome, memory) => (outcome, { server with memory })
  else if server.queueConfigured then
    match createWorkflow goal.creation goal.payload server.memory with
    | (outcome, memory) => (outcome.map Prod.fst, { server with memory })
  else
    let workflow := queuedWorkflow goal.creation goal.payload
    (.ok workflow,
      { server with
        memory := server.memory.saveWorkflow workflow
        executions := server.executions ++
          [{ workflowId := workflow.workflowId
             workerId := goal.workerId
             payload := goal.payload
             background := true }] })

/-- The workflow that an earlier request with the key has created. -/
def existing (goal : Goal) : Except Exn (Option WorkflowState) :=
  match truthyString goal.idempotencyKey with
  | none => .ok none
  | some key => server.db.getByIdempotencyKey key

/-- `set_idempotency_key`, if the request has a key. -/
def keyed (goal : Goal) (workflowId : String) : Server :=
  match truthyString goal.idempotencyKey with
  | none => server
  | some key => { server with db := server.db.setIdempotencyKey key workflowId goal.keyedAt }

/-- `create_goal`. The thread of an asynchronous creation is started before `ensure`; since the
route runs as a whole, its execution takes its first step after it. `Idempotency.requests` has the
transactions of the route one by one. -/
def createGoal (goal : Goal) : Served :=
  match server.existing goal with
  | .error failure => (.error failure, server)
  | .ok (some workflow) => (.ok workflow, server)
  | .ok none =>
    match server.create goal with
    | (.error failure, server) => (.error failure, server)
    | (.ok workflow, server) =>
      match server.db.ensure goal.tokens workflow with
      | .error failure => (.error failure, server)
      | .ok (result, db) => (.ok result, { server with db }.keyed goal result.workflowId)

/-- The worker takes the message of a workflow. -/
def deliver (workflowId workerId : String) : Server :=
  match server.memory.getWorkflow workflowId with
  | none => server
  | some workflow =>
    match goalInput workflow.originalGoal with
    | .error _ => server
    | .ok payload =>
      { server with
        executions := server.executions ++
          [{ workflowId, workerId, payload, background := false }] }

/-- An execution ends with an error. -/
def abandon (index : Nat) (execution : Execution) (failure : Exn) : Server :=
  let executions := server.executions.eraseIdx index
  if execution.background then
    match server.memory.getWorkflow execution.workflowId with
    | none => { server with executions }
    | some workflow =>
      { server with memory := server.memory.saveWorkflow (failedWorkflow failure workflow)
                    executions }
  else { server with executions }

/-- The execution has come to the stage. -/
def advance (index : Nat) (execution : Execution) (stage : Stage) : Server :=
  { server with executions := server.executions.set index { execution with stage } }

/-- The claim of an execution. -/
def claim (index : Nat) (execution : Execution) (claimedAt : DateTime) : Server :=
  match server.memory.claimWorkflowForExecution execution.workflowId execution.workerId
    claimedAt with
  | (none, memory) =>
    { server with memory }.abandon index execution
      (.runtimeError ("Could not claim workflow " ++ execution.workflowId ++ " for execution"))
  | (some _, memory) => { server with memory }.advance index execution .claimed

/-- The graph run of an execution. -/
def execute (index : Nat) (execution : Execution) (services : Services) : Server :=
  match invoke services
    (executionInput execution.workflowId execution.workerId execution.payload) server.memory with
  | (.error failure, memory) => { server with memory }.abandon index execution failure
  | (.ok result, memory) =>
    { server with memory }.advance index execution (.saved services.clock result)

/-- The last save of an execution. -/
def finish (index : Nat) (clock : Clock) (result : AgentState) : Server :=
  { server with
    memory := server.memory.saveWorkflow (executedWorkflow clock result)
    executions := server.executions.eraseIdx index }

end Server

/-- The requests that the server answers, and the end of an execution. -/
inductive Command where
  | createGoal (goal : Goal)
  | continueGoal (workflowId : String) (completedTaskIds : List String) (services : Services)
  | getWorkflow (workflowId : String) (tokens : Tokens)
  | refresh (workflowId : String) (services : Services) (ensureTokens saveTokens : Tokens)
  | submit (workflowId : String) (submission : Submission) (readTokens writeTokens : Tokens)
  | ingest (workflowId filename : String)
  | deliver (workflowId workerId : String)
  | claim (index : Nat) (claimedAt : DateTime)
  | execute (index : Nat) (services : Services)
  | finish (index : Nat)

namespace Command

/-- The draws of a command from `uuid4` for its writes to the workspace. -/
def draws : Command → List Tokens
  | createGoal goal => [goal.tokens]
  | getWorkflow _ tokens => [tokens]
  | refresh _ _ ensureTokens saveTokens => [ensureTokens, saveTokens]
  | submit _ _ readTokens writeTokens => [readTokens, writeTokens]
  | continueGoal _ _ _ | ingest _ _ | deliver _ _ | claim _ _ | execute _ _ | finish _ => []

/-- A path parameter is never empty: the router matches no such path. -/
def routed : Command → Bool
  | submit _ (.patch taskId _) _ _ | submit _ (.transition taskId _) _ _ => taskId ≠ ""
  | submit _ (.decide recommendationId _) _ _ => recommendationId ≠ ""
  | _ => true

end Command

namespace Server

variable (server : Server)

/-- `uuid4` draws no id that is in use. -/
def unused : Command → Bool
  | command@(.createGoal goal) =>
    goal.creation.workflowId ≠ "" && (server.memory.getWorkflow goal.creation.workflowId).isNone &&
      (server.db.workflows.find? goal.creation.workflowId).isNone && drawn command.draws
  | command => drawn command.draws
where
  drawn (tokens : List Tokens) : Bool :=
    (tokens.map Tokens.eventId).Nodup && tokens.all fun tokens =>
      (server.db.events.find? tokens.eventId).isNone &&
        (server.db.planRevisions.find? tokens.revisionId).isNone

/-- The step of the execution at an index. -/
def step (index : Nat) (next : Execution → Option Server) :
    Option (Option (Except Exn WorkflowState) × Server) :=
  (server.executions[index]?.bind next).map fun server => (none, server)

/-- One command: the workflow that is returned, if the command is a request for
one, and the server afterwards; `none` when the command is not enabled. -/
def serve : Command → Option (Option (Except Exn WorkflowState) × Server)
  | .createGoal goal => some ((server.createGoal goal).map some id)
  | .continueGoal workflowId completedTaskIds services =>
    some ((server.continueGoal workflowId completedTaskIds services).map some id)
  | .getWorkflow workflowId tokens =>
    some ((server.workspaceWorkflow tokens workflowId).map some id)
  | .refresh workflowId services ensureTokens saveTokens =>
    some ((server.refreshWorkflow workflowId services ensureTokens saveTokens).map some id)
  | .submit workflowId submission readTokens writeTokens =>
    some ((server.submit workflowId submission readTokens writeTokens).map some id)
  | .ingest workflowId filename => some (none, server.ingest workflowId filename)
  | .deliver workflowId workerId => some (none, server.deliver workflowId workerId)
  | .claim index claimedAt => server.step index fun execution =>
    match execution.stage with
    | .claiming => some (server.claim index execution claimedAt)
    | _ => none
  | .execute index services => server.step index fun execution =>
    match execution.stage with
    | .claimed => some (server.execute index execution services)
    | _ => none
  | .finish index => server.step index fun execution =>
    match execution.stage with
    | .saved clock result => some (server.finish index clock result)
    | _ => none

/-- A routed command whose draws are new. -/
def handle (command : Command) : Option (Option (Except Exn WorkflowState) × Server) :=
  if server.unused command = false then none
  else if command.routed = false then some (some (.error (.httpException 404 "Not Found")), server)
  else server.serve command

end Server

/-- The server as a transition system. -/
def system : TransitionSystem Server Command := .ofOutputs Server.handle

section Examples

/-- A server that has nothing stored. -/
def emptyServer : Server where
  memory := { backend := .localStore }

/-- Draws at the turn of the year that are named after an event. -/
def tokensOf (eventId : String) : Tokens where
  eventId
  recommendationId := ⟨"recommendation_1", by decide⟩
  revisionId := eventId
  occurredAt := .newYear
  updatedAt := .newYear
  revisedAt := .newYear

def firstVersion : PositiveVersion := ⟨1, by decide⟩

def secondVersion : PositiveVersion := ⟨2, by decide⟩

/-- The request for a goal for which one task is planned. -/
def taskGoal (sync : Bool) : Goal where
  payload := sampleInput
  sync
  creation := { workflowId := "wf", createdAt := .newYear, updatedAt := .newYear }
  workerId := "worker"
  claimedAt := .newYear
  services := taskServices
  tokens := tokensOf "created"
  keyedAt := .newYear

end Examples

end ActionPlan.Api
