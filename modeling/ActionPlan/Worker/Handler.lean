import ActionPlan.Agent.Service

/-! # The queue worker

`worker_handler.py`. The local variable `body` outlives the pass of the loop
that binds it, so the `except` clause can read the body of an earlier record. A
stored workflow has a generated id, so an id that is not a text names none.
-/

namespace ActionPlan.Worker

open ActionPlan.Foundation ActionPlan.Models ActionPlan.Memory ActionPlan.Agent

/-- A record of the event, and what its processing reads besides the store. -/
structure Delivery where
  /-- `json.loads(record["body"])`. -/
  body : Except Exn JsonText
  services : Services
  claimedAt : DateTime

/-- `body.get("workflow_id")`; only a dictionary has the method. -/
def bodyWorkflowId : Value → Except Exn Value
  | .dict entries => .ok ((entries.lookup "workflow_id").getD .none)
  | _ => .error (.attributeError "object has no attribute 'get'")

/-- What the loop of `handler` carries from one record to the next. -/
structure Loop where
  store : MemoryStore
  body : Option Value := none
  results : List Value := []

namespace Loop

variable (loop : Loop)

/-- One more result. -/
def append (entries : List (String × Value)) : Loop :=
  { loop with results := loop.results ++ [.dict entries] }

/-- The result of a delivery that failed. -/
def error (workflowId : Value) (message : String) : Loop :=
  loop.append [("workflow_id", workflowId), ("status", .str "error"), ("error", .str message)]

/-- The result of a delivery whose workflow cannot be claimed. -/
def skipped (workflowId : Value) : Loop :=
  loop.append [("workflow_id", workflowId), ("status", .str "skipped"),
    ("reason", .str "not_queued_or_already_running")]

/-- The result of a delivery that was executed. -/
def success (workflowId : Value) (result : WorkflowState) : Loop :=
  loop.append [("workflow_id", workflowId), ("status", .str "success"),
    ("execution_state", .str result.executionState.value)]

/-- `body.get("workflow_id") if "body" in locals() else None`. -/
def recordedId : Except Exn Value := (loop.body.map bodyWorkflowId).getD (.ok .none)

/-- The call of `execute_queued_workflow` and the result that is appended. -/
def execute (workerId workflowId : String) (delivery : Delivery) : Loop :=
  match executeQueuedWorkflow delivery.services workflowId workerId delivery.claimedAt
    loop.store with
  | (.error failure, store) => { loop with store }.error (.str workflowId) failure.message
  | (.ok none, store) => { loop with store }.skipped (.str workflowId)
  | (.ok (some result), store) => { loop with store }.success (.str workflowId) result

/-- One pass of the loop. A body without the method `get` raises in the `try`
block and once more in its `except` clause. -/
def pass (workerId : String) (delivery : Delivery) : Except Exn Loop :=
  match delivery.body with
  | .error failure => loop.recordedId.map fun workflowId => loop.error workflowId failure.message
  | .ok text =>
    let loop := { loop with body := some text.document }
    (bodyWorkflowId text.document).map fun workflowId =>
      if workflowId.truthy = false then loop.error .none "Missing workflow_id"
      else
        match workflowId with
        | .str workflowId => loop.execute workerId workflowId delivery
        | _ => loop.skipped workflowId

/-- The loop over the records: its results, unless a pass raises, and the store. -/
def overRecords (workerId : String) : List Delivery → Loop → Except Exn (List Value) × MemoryStore
  | [], loop => (.ok loop.results, loop.store)
  | delivery :: deliveries, loop =>
    match loop.pass workerId delivery with
    | .error failure => (.error failure, loop.store)
    | .ok next => overRecords workerId deliveries next

end Loop

/-- The answer of the handler; its body is the serialised detail. -/
structure Response where
  statusCode : Nat
  body : JsonText

/-- `handler`. -/
def handler (workerId : String) (deliveries : List Delivery) (store : MemoryStore) :
    Except Exn Response × MemoryStore :=
  match Loop.overRecords workerId deliveries { store } with
  | (.error failure, store) => (.error failure, store)
  | (.ok results, store) =>
    ((jsonDumps (.dict [("results", .list results)])).map fun body => { statusCode := 200, body },
      store)

section Message

variable {workflowId : String} {payload : WorkRequestInput} {message : JsonText}

/-- The document of a published message. -/
theorem document_queueMessage (made : queueMessage workflowId payload = .ok message) :
    message.document =
      .dict [("workflow_id", .str workflowId), ("payload", payload.modelDump)] := by
  unfold queueMessage jsonDumps at made
  split at made
  · cases made
    rfl
  · cases made

/-- A message can be made exactly for the payloads without a deadline. -/
theorem queueMessage_cases (workflowId : String) (payload : WorkRequestInput) :
    (∃ message, queueMessage workflowId payload = .ok message) ∧ payload.deadline = none ∨
      (∃ failure, queueMessage workflowId payload = .error failure) ∧ payload.deadline ≠ none := by
  have encoded : (Value.dict [("workflow_id", .str workflowId),
      ("payload", payload.modelDump)]).isJson = payload.deadline.isNone := by
    simp [Value.isJson, Value.allEntriesJson, payload.isJson_modelDump]
  unfold queueMessage jsonDumps
  by_cases present : payload.deadline = none
  · exact .inl ⟨⟨_, dif_pos (by rw [encoded, present, Option.isNone_none])⟩, present⟩
  · exact .inr ⟨⟨_, dif_neg (by simpa [encoded] using present)⟩, present⟩

/-- **A published message executes its workflow.** The handler leaves the store
that `execute_queued_workflow` leaves, whatever else the message holds. -/
theorem handler_queueMessage (made : queueMessage workflowId payload = .ok message)
    (generated : workflowId ≠ "") (workerId : String) (services : Services) (claimedAt : DateTime)
    (store : MemoryStore) :
    (handler workerId [{ body := .ok message, services, claimedAt }] store).2 =
      (executeQueuedWorkflow services workflowId workerId claimedAt store).2 := by
  have named : bodyWorkflowId message.document = .ok (.str workflowId) := by
    rw [document_queueMessage made]
    rfl
  have nonempty : (Value.str workflowId).truthy ≠ false := by simpa [Value.truthy] using generated
  simp only [handler, Loop.overRecords, Loop.pass, named, Except.map, if_neg nonempty,
    Loop.execute]
  rcases executeQueuedWorkflow services workflowId workerId claimedAt store with
    ⟨_ | _ | _, final⟩ <;> rfl

end Message

end ActionPlan.Worker
