import ActionPlan.Agent.Outcomes
import ActionPlan.Worker.Handler

/-! # Publishing a new workflow

`create_workflow` with a queue configured saves the record of the workflow before it
makes the client, encodes the message and sends it, and takes nothing back when one of
them fails.
-/

namespace ActionPlan.Worker

open ActionPlan.Foundation ActionPlan.Models ActionPlan.Memory ActionPlan.Agent

/-- What the memory store and the queue answer to `create_workflow`. -/
structure Surroundings where
  /-- `memory.save_workflow`; a save that raises stores nothing. -/
  save : Except Exn Unit := .ok ()
  /-- `boto3.client`. -/
  client : Except Exn Unit := .ok ()
  /-- `send_message`; a message whose sending raises is not delivered. -/
  send : JsonText → Except Exn Unit := fun _ => .ok ()

/-- What `create_workflow` returns or raises, the store afterwards and the messages in
the queue. -/
structure Publication where
  result : Except Exn WorkflowState
  store : MemoryStore
  messages : List JsonText := []

/-- `_trigger_async_execution` with a queue: the message that is sent. -/
def triggerAsyncExecution (surroundings : Surroundings) (workflowId : String)
    (payload : WorkRequestInput) : Except Exn JsonText := do
  surroundings.client
  let message ← queueMessage workflowId payload
  surroundings.send message
  return message

/-- `create_workflow`. -/
def publishWorkflow (surroundings : Surroundings) (creation : Creation)
    (payload : WorkRequestInput) (store : MemoryStore) : Publication :=
  let workflow := queuedWorkflow creation payload
  match surroundings.save with
  | .error failure => { result := .error failure, store }
  | .ok _ =>
    let store := store.saveWorkflow workflow
    match triggerAsyncExecution surroundings creation.workflowId payload with
    | .error failure => { result := .error failure, store }
    | .ok message => { result := .ok workflow, store, messages := [message] }

section Publishing

variable {surroundings : Surroundings} {creation : Creation} {payload : WorkRequestInput}
  {store : MemoryStore} {readDate : Value → Option Date}

/-- With services that raise nothing, `create_workflow` is as without the queue client. -/
theorem publishWorkflow_answered (creation : Creation) (payload : WorkRequestInput)
    (store : MemoryStore) :
    (publishWorkflow {} creation payload store).store =
        (createWorkflow creation payload store).2 ∧
      (publishWorkflow {} creation payload store).result =
        (createWorkflow creation payload store).1.map Prod.fst := by
  rw [publishWorkflow, triggerAsyncExecution, createWorkflow]
  cases queueMessage creation.workflowId payload <;> exact ⟨rfl, rfl⟩

end Publishing

section Dated

end Dated

end ActionPlan.Worker
