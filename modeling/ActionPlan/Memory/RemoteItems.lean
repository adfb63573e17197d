import ActionPlan.Memory.BackEnds
import ActionPlan.Models.Documents

/-! # The items of the remote store

`memory/dynamodb.py` over the attributes of its items: a state is stored as the document that is
dumped of it, a claim sets three attributes of it, and what is returned is validated. The table of
records of `Memory.RemoteTable` is what this table means.
-/

namespace ActionPlan.Memory

open ActionPlan.Foundation ActionPlan.Models

/-- An item with its attributes; the table takes none without its key. -/
structure AttributeItem where
  workflowId : String
  attributes : Dict Value
  keyed : attributes.lookup "workflow_id" = some (.str workflowId)

namespace AttributeItem

variable (item : AttributeItem)

/-- An attribute as the client returns it. -/
def given (name : String) : Option Value :=
  (item.attributes.lookup name).map Value.numbersAsDecimal

/-- `SET` of an attribute that is not the key. -/
def set (name : String) (value : Value) (other : name ≠ "workflow_id") : AttributeItem where
  workflowId := item.workflowId
  attributes := item.attributes.insert name value
  keyed := by rw [AList.lookup_insert_ne other.symm, item.keyed]

/-- An attribute that is set has its new value. -/
@[simp] theorem lookup_set_self {name : String} {value : Value} (other : name ≠ "workflow_id") :
    (item.set name value other).attributes.lookup name = some value :=
  AList.lookup_insert _

@[simp] theorem lookup_set_of_ne {name wanted : String} {value : Value}
    (other : name ≠ "workflow_id") (different : wanted ≠ name) :
    (item.set name value other).attributes.lookup wanted = item.attributes.lookup wanted :=
  AList.lookup_insert_ne different

/-- The text of an attribute. -/
def text? (name : String) : Option String := (item.attributes.lookup name).bind Value.text?

/-- The condition of a claim. -/
def Claimable (workerId : String) : Prop :=
  item.text? "execution_state" = some ExecutionState.queued.value ∧
    (item.attributes.lookup "execution_lock" = none ∨ item.text? "execution_lock" = some workerId)

instance (workerId : String) : Decidable (item.Claimable workerId) :=
  inferInstanceAs (Decidable (_ ∧ (_ ∨ _)))

/-- The update of a claim. -/
def run (workerId : String) (claimedAt : DateTime) : AttributeItem :=
  ((item.set "execution_state" (.str ExecutionState.running.value) (by decide)).set
    "execution_lock" (.str workerId) (by decide)).set
    "updated_at" (.str claimedAt.isoformat) (by decide)

/-- The item of a value of the long-term memory. -/
def longTerm (key value : String) : AttributeItem where
  workflowId := memoryId key
  attributes := Dict.ofEntries
    [("workflow_id", .str (memoryId key)), ("memory_key", .str key), ("memory_value", .str value)]
  keyed := Dict.lookup_ofEntries _ _

variable (conversions : Conversions) (now : DateTime)

/-- `model_dump(mode="json")`, by attribute. -/
def dumped (workflow : WorkflowState) : AttributeItem where
  workflowId := workflow.workflowId
  attributes := Dict.ofEntries ((WorkflowState.schema conversions now).entries workflow)
  keyed := by
    rw [Dict.lookup_ofEntries]
    simp [WorkflowState.schema, string]

/-- The payload of `save_workflow`. -/
def payload (workflow : WorkflowState) : AttributeItem :=
  let dumped := dumped conversions now workflow
  let updatedAt := (dumped.attributes.lookup "updated_at").filter Value.truthy
  dumped.set "updated_at" (updatedAt.getD (.str workflow.updatedAt.isoformat)) (by decide)

/-- `model_validate`. -/
def modelValidate : Except Exn WorkflowState :=
  orValidationError ((WorkflowState.schema conversions now).read item.given)

end AttributeItem

/-- The items by their key. -/
abbrev AttributeTable := Table AttributeItem.workflowId

/-- The items that the pages of a scan hold together, in a table that does not change meanwhile. -/
structure AttributeScan where
  scan : AttributeTable → List AttributeItem
  scan_perm : ∀ table, (scan table).Perm table.rows

namespace AttributeTable

variable (conversions : Conversions) (now : DateTime) (scanner : AttributeScan)
  (table : AttributeTable)

/-- `save_workflow`. -/
def saveWorkflow (workflow : WorkflowState) : AttributeTable :=
  table.insertOrReplace (.payload conversions now workflow)

/-- `get_workflow`. -/
def getWorkflow (workflowId : String) : Except Exn (Option WorkflowState) :=
  match table.find? workflowId with
  | none => .ok none
  | some item => (item.modelValidate conversions now).map some

/-- `set_long_term_memory`. -/
def setLongTermMemory (key value : String) : AttributeTable :=
  table.insertOrReplace (.longTerm key value)

/-- `get_long_term_memory`. -/
def getLongTermMemory (key : String) : Option String :=
  (table.find? (memoryId key)).bind fun item => item.text? "memory_value"

/-- The conditional `update_item` of a claim: `none` when the condition fails. -/
def claimUpdate (workflowId workerId : String) (claimedAt : DateTime) : Option AttributeTable :=
  match table.find? workflowId with
  | none => none
  | some item =>
    if item.Claimable workerId then some (table.insertOrReplace (item.run workerId claimedAt))
    else none

/-- `claim_workflow_for_execution`, run without interruption. -/
def claimWorkflowForExecution (workflowId workerId : String) (claimedAt : DateTime) :
    Except Exn (Option WorkflowState) × AttributeTable :=
  match table.getWorkflow conversions now workflowId with
  | .error failure => (.error failure, table)
  | .ok none => (.ok none, table)
  | .ok (some workflow) =>
    if workflow.executionState = .queued then
      match table.claimUpdate workflowId workerId claimedAt with
      | none => (.ok none, table)
      | some claimed => (claimed.getWorkflow conversions now workflowId, claimed)
    else (.ok none, table)

/-- `list_workflows`. -/
def listWorkflows : List WorkflowState :=
  sortDescending (fun workflow => workflow.updatedAt.instant)
    ((scanner.scan table).filterMap fun item => (item.modelValidate conversions now).toOption)

/-- An operation of `DynamoDBMemoryStore`. -/
def perform : Operation → Answer × AttributeTable
  | .save workflow _ => (.done, table.saveWorkflow conversions now workflow)
  | .get workflowId _ =>
    match table.getWorkflow conversions now workflowId with
    | .ok found => (.workflow found, table)
    | .error _ => (.raised, table)
  | .claim workflowId workerId claimedAt _ =>
    match table.claimWorkflowForExecution conversions now workflowId workerId claimedAt with
    | (.ok found, next) => (.workflow found, next)
    | (.error _, next) => (.raised, next)
  | .list => (.listing (table.listWorkflows conversions now scanner), table)
  | .summarize =>
    (.summary (Memory.summarize (table.listWorkflows conversions now scanner)), table)
  | .remember key value _ => (.done, table.setLongTermMemory key value)
  | .recollect key => (.memory (table.getLongTermMemory key), table)

end AttributeTable

section Items

variable (conversions : Conversions) (now : DateTime)

/-- What an item means. -/
inductive Denotes : AttributeItem → TableItem → Prop
  | workflow {item : AttributeItem} {stored : Item}
      (named : item.workflowId = stored.record.workflowId)
      (described : (WorkflowState.schema conversions now).Each fun field =>
        field.Describes item.given (MemoryStore.load .dynamodb stored.record))
      (state : item.text? "execution_state" = some stored.record.executionState.value)
      (lock : item.attributes.lookup "execution_lock" = stored.executionLock.map Value.str)
      (memory : item.attributes.lookup "memory_value" = none) :
      Denotes item (.workflow stored)
  | longTerm {item : AttributeItem} {key value : String} (named : item.workflowId = memoryId key)
      (goal : item.attributes.lookup "original_goal" = none)
      (state : item.attributes.lookup "execution_state" = none)
      (memory : item.text? "memory_value" = some value) :
      Denotes item (.longTerm key value)

variable {conversions now} {item : AttributeItem} {meaning : TableItem}

/-- An item has the key of what it denotes. -/
theorem Denotes.workflowId (denotes : Denotes conversions now item meaning) :
    item.workflowId = meaning.workflowId := by
  cases denotes with
  | workflow named | longTerm named => exact named

/-- An item is validated as the record it denotes is loaded. -/
theorem Denotes.modelValidate (denotes : Denotes conversions now item meaning) :
    item.modelValidate conversions now = meaning.modelValidate := by
  rw [AttributeItem.modelValidate]
  cases denotes with
  | workflow named described =>
    rw [Schema.read_eq_some described]
    rfl
  | longTerm named goal =>
    cases read : (WorkflowState.schema conversions now).read item.given with
    | none => rfl
    | some workflow =>
      -- the goal has no default, and is not there
      have unread : item.given "original_goal" = none := by
        rw [AttributeItem.given, goal, Option.map_none]
      have readable : (WorkflowState.schema conversions now).Each fun field =>
          (field.read item.given).isSome :=
        Fields.isSome_of_read _ item.given (Option.isSome_of_eq_some read)
      simp [WorkflowState.schema, RecordField.read, unread] at readable

theorem Denotes.memoryValue (denotes : Denotes conversions now item meaning) :
    item.text? "memory_value" = meaning.memoryValue := by
  cases denotes with
  | workflow _ _ _ _ memory =>
    rw [AttributeItem.text?, memory]
    rfl
  | longTerm _ _ _ memory => exact memory

/-- The condition of a claim, on the attributes and on the record. -/
theorem Denotes.claimable_iff {stored : Item}
    (denotes : Denotes conversions now item (.workflow stored)) (workerId : String) :
    item.Claimable workerId ↔ stored.record.executionState = .queued ∧
      (stored.executionLock = none ∨ stored.executionLock = some workerId) := by
  cases denotes with
  | workflow _ _ state lock _ =>
    have same : ExecutionState.queued.value = stored.record.executionState.value ↔
        stored.record.executionState = .queued := by
      cases stored.record.executionState <;> simp [ExecutionState.value]
    rw [AttributeItem.Claimable, state, AttributeItem.text?, lock, Option.some_inj, eq_comm, same]
    cases stored.executionLock with
    | none => simp
    | some worker => simp [Value.text?]

/-- A long-term memory cannot be claimed. -/
theorem Denotes.not_claimable {key value : String}
    (denotes : Denotes conversions now item (.longTerm key value)) (workerId : String) :
    ¬item.Claimable workerId := by
  cases denotes with
  | longTerm _ _ state =>
    rintro ⟨queued, -⟩
    rw [AttributeItem.text?, state] at queued
    cases queued

theorem denotes_longTerm (key value : String) :
    Denotes conversions now (.longTerm key value) (.longTerm key value) :=
  .longTerm rfl (Dict.lookup_ofEntries _ _) (Dict.lookup_ofEntries _ _)
    (congrArg (Option.bind · Value.text?) (Dict.lookup_ofEntries _ _))

/-- A document whose state and time are those of a record describes it where one that agrees with
it otherwise does. -/
theorem describes_of_touched {given next : String → Option Value} {record : WorkflowState}
    {state : ExecutionState} {time : DateTime}
    (described : (WorkflowState.schema conversions now).Each fun field =>
      field.Describes given record)
    (same : ∀ name, name ≠ "execution_state" → name ≠ "execution_lock" → name ≠ "updated_at" →
      next name = given name)
    (stated : (next "execution_state").bind executionState.read = some state)
    (timed : (next "updated_at").bind (dateTime conversions).read = some time) :
    (WorkflowState.schema conversions now).Each fun field =>
      field.Describes next { record with executionState := state, updatedAt := time } := by
  obtain ⟨stateText, stateGiven, stateRead⟩ := Option.bind_eq_some_iff.mp stated
  obtain ⟨timeText, timeGiven, timeRead⟩ := Option.bind_eq_some_iff.mp timed
  apply Schema.describes_of_changed described
  simp [WorkflowState.schema, RecordField.names, RecordField.Describes, RecordField.read, same,
    stateGiven, stateRead, timeGiven, timeRead]

/-- The attributes of an item describe the record that is loaded from it. -/
theorem describes_dumped {workflow : WorkflowState} (timely : workflow.Timely) :
    (WorkflowState.schema conversions now).Each fun field =>
      field.Describes (AttributeItem.dumped conversions now workflow).given
        (MemoryStore.load .dynamodb workflow.jsonCopy) := by
  have written := ((WorkflowState.schema conversions now).holds_entries workflow
    Route.client.toTransport (MemoryStore.load .dynamodb workflow.jsonCopy)).describes
    (WorkflowState.restores timely)
  have same : (AttributeItem.dumped conversions now workflow).given = fun key =>
      (((WorkflowState.schema conversions now).entries workflow).map fun entry =>
        (entry.1, Route.client.carry entry.2)).lookup key := by
    funext key
    rw [AttributeItem.given, AttributeItem.dumped, Dict.lookup_ofEntries,
      Schema.lookup_map_snd]
    rfl
  rw [same]
  exact written

/-- What a claim makes of an item means the running state, locked. -/
theorem Denotes.run {stored : Item} (denotes : Denotes conversions now item (.workflow stored))
    (workerId : String) {claimedAt : DateTime} (valid : claimedAt.Valid) :
    Denotes conversions now (item.run workerId claimedAt) (.workflow {
      record := MemoryStore.running claimedAt stored.record
      executionLock := some workerId }) := by
  cases denotes with
  | workflow named described state lock memory =>
    refine .workflow named ?_ ?_ ?_ ?_
    · rw [MemoryStore.load_running]
      apply describes_of_touched described
      · intro name stateName lockName timeName
        simp [AttributeItem.given, AttributeItem.run, stateName, lockName, timeName]
      · simp [AttributeItem.given, AttributeItem.run]
        rfl
      · simp [AttributeItem.given, AttributeItem.run]
        exact conversions.readDateTime_isoformat claimedAt valid
    · simp [AttributeItem.text?, AttributeItem.run]
      rfl
    · simp [AttributeItem.run]
    · simp [AttributeItem.run, memory]

section Payloads

variable (conversions now) (workflow : WorkflowState)

theorem lookup_dumped (name : String) :
    (AttributeItem.dumped conversions now workflow).attributes.lookup name =
      ((WorkflowState.schema conversions now).entries workflow).lookup name :=
  Dict.lookup_ofEntries _ _

theorem lookup_payload_of_ne {name : String} (different : name ≠ "updated_at") :
    (AttributeItem.payload conversions now workflow).attributes.lookup name =
      (AttributeItem.dumped conversions now workflow).attributes.lookup name :=
  AttributeItem.lookup_set_of_ne _ (by decide) different

/-- The attribute that a claim compares. -/
theorem state_dumped : (AttributeItem.dumped conversions now workflow).attributes.lookup
    "execution_state" = some (.str workflow.executionState.value) := by
  rw [lookup_dumped]
  simp [WorkflowState.schema, List.lookup_cons]
  rfl

/-- The attribute that the listing orders by. -/
theorem time_dumped : (AttributeItem.dumped conversions now workflow).attributes.lookup
    "updated_at" = some (.str (conversions.writeDateTime workflow.updatedAt)) := by
  rw [lookup_dumped]
  simp [WorkflowState.schema, List.lookup_cons, dateTime]

/-- Either text for the time is read as it. -/
theorem time_payload (valid : workflow.updatedAt.Valid) : ∃ text,
    (AttributeItem.payload conversions now workflow).attributes.lookup "updated_at" =
        some (.str text) ∧
      conversions.readDateTime (.str text) = some workflow.updatedAt := by
  rw [AttributeItem.payload, AttributeItem.lookup_set_self, time_dumped]
  cases nonempty : (Value.str (conversions.writeDateTime workflow.updatedAt)).truthy with
  | false =>
    refine ⟨workflow.updatedAt.isoformat, ?_, conversions.readDateTime_isoformat _ valid⟩
    rw [Option.filter_some_neg nonempty, Option.getD_none]
  | true =>
    refine ⟨conversions.writeDateTime workflow.updatedAt, ?_,
      conversions.readDateTime_write _ valid⟩
    rw [Option.filter_some_pos nonempty, Option.getD_some]

end Payloads

/-- What is saved means the saved state. -/
theorem denotes_payload {workflow : WorkflowState} (timely : workflow.Timely) :
    Denotes conversions now (.payload conversions now workflow)
      (.workflow { record := workflow.jsonCopy }) := by
  have kept : ∀ name, name ≠ "updated_at" →
      (AttributeItem.payload conversions now workflow).attributes.lookup name =
        (AttributeItem.dumped conversions now workflow).attributes.lookup name :=
    fun name => lookup_payload_of_ne conversions now workflow
  have state := state_dumped conversions now workflow
  obtain ⟨text, timeGiven, timeRead⟩ := time_payload conversions now workflow timely.updatedAt
  refine .workflow rfl ?_ ?_ ?_ ?_
  · have stated : (executionState.read (.str workflow.executionState.value)) =
        some workflow.executionState := lossless_executionState .direct workflow.executionState
    refine describes_of_touched (describes_dumped timely) ?_ ?_ ?_
    · intro name _ _ different
      rw [AttributeItem.given, kept name different, AttributeItem.given]
    · rw [AttributeItem.given, kept _ (by decide), state]
      exact stated
    · rw [AttributeItem.given, timeGiven]
      exact timeRead
  · rw [AttributeItem.text?, kept _ (by decide), state]
    rfl
  · rw [kept _ (by decide), lookup_dumped]
    simp [WorkflowState.schema, List.lookup_cons]
  · rw [kept _ (by decide), lookup_dumped]
    simp [WorkflowState.schema, List.lookup_cons]

end Items

section Tables

variable {conversions : Conversions} {now : DateTime}

/-- What a table means. -/
abbrev Means (conversions : Conversions) (now : DateTime) (table : AttributeTable)
    (meaning : RemoteTable) : Prop :=
  Table.Matches (Denotes conversions now) table meaning

variable {table : AttributeTable} {meaning : RemoteTable}

/-- The same keys have items, and they denote each other. -/
theorem Means.find? (means : Means conversions now table meaning) (workflowId : String) :
    Option.Rel (Denotes conversions now) (table.find? workflowId) (meaning.find? workflowId) :=
  Table.Matches.find? means (fun _ _ => Denotes.workflowId) workflowId

/-- Items that denote each other can be put. -/
theorem Means.put (means : Means conversions now table meaning) {item : AttributeItem}
    {denoted : TableItem} (denotes : Denotes conversions now item denoted) :
    Means conversions now (table.insertOrReplace item) (meaning.insertOrReplace denoted) :=
  Table.Matches.insertOrReplace means (fun _ _ => Denotes.workflowId) denotes

/-- `get_workflow` answers alike. -/
theorem Means.getWorkflow (means : Means conversions now table meaning) (workflowId : String) :
    table.getWorkflow conversions now workflowId = meaning.getWorkflow workflowId := by
  have found := means.find? workflowId
  rw [AttributeTable.getWorkflow, RemoteTable.getWorkflow]
  generalize table.find? workflowId = item, meaning.find? workflowId = denoted at found
  cases found with
  | none => rfl
  | some denotes => exact congrArg (Except.map some) denotes.modelValidate

/-- `get_long_term_memory` answers alike. -/
theorem Means.getLongTermMemory (means : Means conversions now table meaning) (key : String) :
    table.getLongTermMemory key = meaning.getLongTermMemory key := by
  have found := means.find? (memoryId key)
  rw [AttributeTable.getLongTermMemory, RemoteTable.getLongTermMemory]
  generalize table.find? (memoryId key) = item, meaning.find? (memoryId key) = denoted at found
  cases found with
  | none => rfl
  | some denotes => exact denotes.memoryValue

/-- The update of a claim is refused on both levels or on none. -/
theorem Means.claimUpdate (means : Means conversions now table meaning)
    (workflowId workerId : String) {claimedAt : DateTime} (valid : claimedAt.Valid) :
    Option.Rel (Means conversions now) (table.claimUpdate workflowId workerId claimedAt)
      (meaning.claimUpdate workflowId workerId claimedAt) := by
  have found := means.find? workflowId
  rw [AttributeTable.claimUpdate, RemoteTable.claimUpdate]
  generalize table.find? workflowId = item, meaning.find? workflowId = denoted at found
  cases found with
  | none => exact .none
  | @some item denoted denotes =>
    cases denoted with
    | longTerm key value =>
      dsimp only
      rw [if_neg (denotes.not_claimable workerId)]
      exact .none
    | workflow stored =>
      dsimp only
      by_cases claimable : item.Claimable workerId
      · rw [if_pos claimable, if_pos ((denotes.claimable_iff workerId).mp claimable)]
        exact .some (means.put (denotes.run workerId valid))
      · rw [if_neg claimable, if_neg (mt (denotes.claimable_iff workerId).mpr claimable)]
        exact .none

/-- A claim succeeds on both or on neither, and answers alike. -/
theorem Means.claim (means : Means conversions now table meaning) (workflowId workerId : String)
    {claimedAt : DateTime} (valid : claimedAt.Valid) :
    (table.claimWorkflowForExecution conversions now workflowId workerId claimedAt).1 =
        (meaning.claimWorkflowForExecution workflowId workerId claimedAt).1 ∧
      Means conversions now
        (table.claimWorkflowForExecution conversions now workflowId workerId claimedAt).2
        (meaning.claimWorkflowForExecution workflowId workerId claimedAt).2 := by
  rw [AttributeTable.claimWorkflowForExecution, RemoteTable.claimWorkflowForExecution,
    means.getWorkflow workflowId]
  cases meaning.getWorkflow workflowId with
  | error failure => exact ⟨rfl, means⟩
  | ok found =>
    cases found with
    | none => exact ⟨rfl, means⟩
    | some workflow =>
      dsimp only
      by_cases queued : workflow.executionState = .queued
      · have updated := means.claimUpdate workflowId workerId valid
        rw [if_pos queued, if_pos queued]
        generalize table.claimUpdate workflowId workerId claimedAt = next,
          meaning.claimUpdate workflowId workerId claimedAt = after at updated
        cases updated with
        | none => exact ⟨rfl, means⟩
        | some next => exact ⟨next.getWorkflow workflowId, next⟩
      · rw [if_neg queued, if_neg queued]
        exact ⟨rfl, means⟩

/-- The workflows that a listing finds. -/
theorem Means.listWorkflows (means : Means conversions now table meaning)
    (scanner : AttributeScan) {contents : Contents} (keeps : meaning.Keeps contents)
    (wellFormed : contents.WellFormed) :
    contents.Answers (MemoryStore.load .dynamodb) .list
      (.listing (table.listWorkflows conversions now scanner)) := by
  have read : table.rows.filterMap
      (fun item => (item.modelValidate conversions now).toOption) =
        RemoteTable.validated meaning.rows := by
    refine List.forall₂_eq_eq_eq ▸ List.rel_filterMap ?_ means
    intro item denoted denotes
    simp only [denotes.modelValidate]
    cases denoted.modelValidate.toOption with
    | none => exact .none
    | some workflow => exact .some rfl
  have perm := (scanner.scan_perm table).filterMap
    fun item => (item.modelValidate conversions now).toOption
  rw [read] at perm
  refine ⟨_, rfl, ?_, pairwise_sortDescending _ _⟩
  exact (sortDescending_perm _ _).trans (perm.trans (keeps.validated wellFormed))

end Tables

section Runs

/-- The dates and times that the operation stores exist. -/
def Operation.Timely : Operation → Prop
  | .save workflow _ => workflow.Timely
  | .claim _ _ claimedAt _ => claimedAt.Valid
  | .get .. | .list | .summarize | .remember .. | .recollect _ => True

variable {conversions : Conversions} {now : DateTime}

/-- The table means one of records that keeps the contents. -/
def AttributeTable.Keeps (conversions : Conversions) (now : DateTime) (table : AttributeTable)
    (contents : Contents) : Prop :=
  ∃ meaning, Means conversions now table meaning ∧ RemoteTable.Keeps meaning contents

/-- An operation on the items answers as the contents do, and keeps them. -/
theorem AttributeTable.Keeps.perform {table : AttributeTable} {contents : Contents}
    (kept : table.Keeps conversions now contents) (scanner : AttributeScan)
    (wellFormed : contents.WellFormed) (operation : Operation) (timely : operation.Timely) :
    contents.Answers (MemoryStore.load .dynamodb) operation
        (table.perform conversions now scanner operation).1 ∧
      (table.perform conversions now scanner operation).2.Keeps conversions now
        (contents.apply operation) := by
  obtain ⟨meaning, means, keeps⟩ := kept
  cases operation with
  | save workflow proper =>
    exact ⟨rfl, _, means.put (denotes_payload timely), keeps.put proper fun _ => rfl⟩
  | get workflowId proper =>
    simp only [AttributeTable.perform, means.getWorkflow, keeps.getWorkflow proper]
    exact ⟨rfl, meaning, means, keeps⟩
  | claim workflowId workerId claimedAt proper =>
    obtain ⟨next, claimed, after⟩ := keeps.claim wellFormed proper workerId claimedAt
    obtain ⟨same, rest⟩ := means.claim workflowId workerId timely
    rw [claimed] at same rest
    rw [AttributeTable.perform]
    generalize table.claimWorkflowForExecution conversions now workflowId workerId claimedAt =
      outcome at same rest
    obtain ⟨found, reached⟩ := outcome
    cases same
    exact ⟨rfl, next, rest, after⟩
  | list =>
    exact ⟨means.listWorkflows scanner keeps wellFormed, meaning, means, keeps⟩
  | summarize =>
    have typed (workflow : WorkflowState) :
        toSummary (MemoryStore.load .dynamodb workflow) = toSummary workflow := rfl
    exact ⟨Contents.answers_summarize typed (means.listWorkflows scanner keeps wellFormed),
      meaning, means, keeps⟩
  | remember key value time =>
    exact ⟨rfl, _, means.put (denotes_longTerm key value),
      keeps.setLongTermMemory wellFormed key value⟩
  | recollect key =>
    have same := (means.getLongTermMemory key).trans (keeps.getLongTermMemory key)
    exact ⟨congrArg Answer.memory same, meaning, means, keeps⟩

/-- **Items are records.** In every run of operations on proper ids whose dates and times exist,
the store answers as the states last saved and the values last remembered do, with untyped numbers
as decimals: what it validates is never more or less than what was saved, neither for a claim, which
changes the document in three places and locks it, nor for a remembered value, which is no
workflow. -/
theorem items_are_records (conversions : Conversions) (now : DateTime) (scanner : AttributeScan)
    (operations : List Operation) (timely : ∀ operation ∈ operations, operation.Timely) :
    Contents.Explains (MemoryStore.load .dynamodb) {} operations
      (answers (AttributeTable.perform conversions now scanner) ∅ operations) := by
  have empty : AttributeTable.Keeps conversions now ∅ {} :=
    ⟨∅, Table.matches_empty _, RemoteTable.keeps_empty⟩
  apply Contents.explains_answers ?_ operations timely empty Contents.wellFormed_empty
  intro table contents operation kept wellFormed timely
  exact kept.perform scanner wellFormed operation timely

section Samples

theorem proper_revised : Proper revisedWorkflow.workflowId where
  flat := by decide
  not_index := by decide
  not_memory key same := by
    have first := congrArg (fun text => text.toList.head?) same
    rw [memoryId, String.toList_append] at first
    have initial : 'w' = 'm' := Option.some.inj first
    exact absurd initial (by decide)

/-- A plan is saved, claimed and read, with a value that is remembered meanwhile. -/
def sampleOperations : List Operation :=
  [.save revisedWorkflow proper_revised,
    .remember "wf_ship" "Ship" .newYear,
    .claim revisedWorkflow.workflowId "worker" .newYear proper_revised,
    .list]

/-- All items at once, in the order in which they are kept. -/
def wholeScan : AttributeScan where
  scan table := table.rows
  scan_perm _ := .refl _

theorem items_are_records_sample :
    Contents.Explains (MemoryStore.load .dynamodb) {} sampleOperations
      (answers (AttributeTable.perform .strict .newYear wholeScan) ∅ sampleOperations) := by
  refine items_are_records .strict .newYear wholeScan sampleOperations ?_
  refine List.forall_mem_cons.mpr ⟨revisedWorkflow_timely, ?_⟩
  refine List.forall_mem_cons.mpr ⟨trivial, ?_⟩
  refine List.forall_mem_cons.mpr ⟨DateTime.newYear_valid, ?_⟩
  exact List.forall_mem_singleton.mpr trivial

end Samples

end Runs

end ActionPlan.Memory
