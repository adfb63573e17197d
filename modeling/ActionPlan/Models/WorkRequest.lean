import ActionPlan.Models.Task

/-! # Work requests

`models/work_request.py`: the payload of `POST /goals` and the compiled request
that the agent works with.
-/

namespace ActionPlan.Models

/-- The priorities of a request. -/
inductive Priority where
  | low
  | medium
  | high
  deriving DecidableEq, Repr

/-- The text of a priority in requests and records. -/
def Priority.value : Priority → String
  | low => "low"
  | medium => "medium"
  | high => "high"

/-- A person named by a request. -/
structure Person where
  name : String
  role : String := "contributor"
  deriving DecidableEq, Repr

/-- What a client submits: a goal and, optionally, its context. -/
structure WorkRequestInput where
  goal : String
  peopleInvolved : List Person := []
  deadline : Option Date := none
  priority : Priority := .medium
  currentStatus : Option String := none
  constraints : List String := []
  resources : List String := []
  successCriteria : List String := []
  goal_nonempty : goal ≠ "" := by decide
  goal_short : goal.length ≤ 2000 := by decide
  deriving Repr

/-- The request after its normalisation, with the roles of the people involved. -/
structure WorkRequest where
  goal : String
  people : List Person := []
  roles : List String := []
  deadline : Option Date := none
  priority : Priority := .medium
  currentStatus : Option String := none
  constraints : List String := []
  resources : List String := []
  successCriteria : List String := []
  deriving DecidableEq, Repr

/-- `WorkRequestInput(goal=goal, ..)`, which pydantic refuses for an empty or an
overlong goal. -/
def workRequestInput (goal : String) (peopleInvolved : List Person) (deadline : Option Date)
    (priority : Priority) (currentStatus : Option String)
    (constraints resources successCriteria : List String) : Except Exn WorkRequestInput :=
  if bounds : goal ≠ "" ∧ goal.length ≤ 2000 then
    .ok
      { goal, peopleInvolved, deadline, priority, currentStatus, constraints, resources,
        successCriteria, goal_nonempty := bounds.1, goal_short := bounds.2 }
  else .error .validationError

/-- `WorkRequestInput(goal=goal)`. -/
def goalInput (goal : String) : Except Exn WorkRequestInput :=
  workRequestInput goal [] none .medium none [] [] []

/-- `compile_work_request`. -/
def compileWorkRequest (payload : WorkRequestInput) : WorkRequest where
  goal := payload.goal
  people := payload.peopleInvolved
  roles := sortedSet ((payload.peopleInvolved.map Person.role).filter (· ≠ ""))
  deadline := payload.deadline
  priority := payload.priority
  currentStatus := payload.currentStatus
  constraints := payload.constraints
  resources := payload.resources
  successCriteria := payload.successCriteria

/-- The compiled request determines the payload. -/
theorem compileWorkRequest_injective : Function.Injective compileWorkRequest := by
  intro first second same
  simp only [compileWorkRequest, WorkRequest.mk.injEq] at same
  obtain ⟨goal, people, -, deadline, priority, status, constraints, resources, criteria⟩ := same
  cases first
  cases second
  simp_all

/-- A text, or `None`. -/
private def optionalString : Option String → Value
  | some text => .str text
  | none => .none

/-- `payload.model_dump()`: python mode, which keeps the deadline a `date`. -/
def WorkRequestInput.modelDump (payload : WorkRequestInput) : Value :=
  .dict
    [("goal", .str payload.goal),
      ("people_involved", .list (payload.peopleInvolved.map fun person =>
        .dict [("name", .str person.name), ("role", .str person.role)])),
      ("deadline", (payload.deadline.map Value.date).getD .none),
      ("priority", .str payload.priority.value),
      ("current_status", optionalString payload.currentStatus),
      ("constraints", .strings payload.constraints),
      ("resources", .strings payload.resources),
      ("success_criteria", .strings payload.successCriteria)]

/-- `json.dumps` accepts every field of a payload but a deadline. -/
theorem WorkRequestInput.isJson_modelDump (payload : WorkRequestInput) :
    payload.modelDump.isJson = payload.deadline.isNone := by
  have people : Value.allJson (payload.peopleInvolved.map fun person =>
      .dict [("name", .str person.name), ("role", .str person.role)]) = true :=
    Value.allJson_map _ (fun _ => rfl) _
  have status : (optionalString payload.currentStatus).isJson = true := by
    cases payload.currentStatus <;> rfl
  have deadline : ((payload.deadline.map Value.date).getD .none).isJson =
      payload.deadline.isNone := by
    cases payload.deadline <;> rfl
  simp [modelDump, Value.isJson, Value.allEntriesJson, people, status, deadline]

section Validation

/-! `WorkRequestInput.model_validate`. What pydantic makes of a value that is given for
a date but is none is the parameter `readDate`. -/

variable {α : Type}

/-- The validation of a field `str`. -/
def stringField : Value → Except Exn String
  | .str text => .ok text
  | _ => .error .validationError

/-- The validation of a field `list[T]`. -/
def listField (itemField : Value → Except Exn α) : Value → Except Exn (List α)
  | .list items => items.mapM itemField
  | _ => .error .validationError

/-- The validation of a field `T | None`. -/
def optionalField (field : Value → Except Exn α) : Value → Except Exn (Option α)
  | .none => .ok none
  | value => (field value).map some

/-- The validation of a field `date`, which accepts a date or a text that denotes one. -/
def dateField (readDate : Value → Option Date) : Value → Except Exn Date
  | .date day => .ok day
  | value =>
    match readDate value with
    | some day => .ok day
    | none => .error .validationError

/-- The validation of the `Literal` of the priorities. -/
def priorityField : Value → Except Exn Priority
  | .str "low" => .ok .low
  | .str "medium" => .ok .medium
  | .str "high" => .ok .high
  | _ => .error .validationError

/-- A field without a default. -/
def requiredField (entries : List (String × Value)) (key : String)
    (field : Value → Except Exn α) : Except Exn α :=
  match entries.lookup key with
  | some value => field value
  | none => .error .validationError

/-- A field with a default. -/
def defaultedField (entries : List (String × Value)) (key : String) (default : α)
    (field : Value → Except Exn α) : Except Exn α :=
  match entries.lookup key with
  | some value => field value
  | none => .ok default

/-- `Person.model_validate`. -/
def Person.modelValidate : Value → Except Exn Person
  | .dict entries => do
    let name ← requiredField entries "name" stringField
    let role ← defaultedField entries "role" "contributor" stringField
    return { name, role }
  | _ => .error .validationError

/-- `WorkRequestInput.model_validate`. -/
def WorkRequestInput.modelValidate (readDate : Value → Option Date) :
    Value → Except Exn WorkRequestInput
  | .dict entries => do
    let goal ← requiredField entries "goal" stringField
    let people ← defaultedField entries "people_involved" [] (listField Person.modelValidate)
    let deadline ← defaultedField entries "deadline" none (optionalField (dateField readDate))
    let priority ← defaultedField entries "priority" .medium priorityField
    let status ← defaultedField entries "current_status" none (optionalField stringField)
    let constraints ← defaultedField entries "constraints" [] (listField stringField)
    let resources ← defaultedField entries "resources" [] (listField stringField)
    let successCriteria ← defaultedField entries "success_criteria" [] (listField stringField)
    workRequestInput goal people deadline priority status constraints resources successCriteria
  | _ => .error .validationError

end Validation

end ActionPlan.Models
