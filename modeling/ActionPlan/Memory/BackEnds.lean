import ActionPlan.Frontend.Routes
import ActionPlan.Memory.LocalStore
import ActionPlan.Memory.RemoteTable

/-! # One store, two back ends

The operations of `memory/local.py` and of `memory/dynamodb.py` one after the other, with the
long-term memory, which is a file of its own locally and shares the table of the workflows
remotely. Apart from untyped numbers and from the order of workflows of the same time, both answer
as two maps do: one of states and one of remembered values.
-/

namespace ActionPlan.Memory

open ActionPlan.Foundation ActionPlan.Foundation.Paging ActionPlan.Models

/-- `WorkflowSummary`. -/
structure WorkflowSummary where
  workflowId : String
  goal : String
  updatedAt : DateTime
  deadline : Option Date := none
  priority : Priority := .medium
  totalTasks : Nat := 0
  completedTasks : Nat := 0
  blockerCount : Nat := 0
  recommendationAction : Option String := none
  deriving DecidableEq, Repr

/-- `_to_summary`; the local `summarize` writes the same fields out. -/
def toSummary (workflow : WorkflowState) : WorkflowSummary where
  workflowId := workflow.workflowId
  goal := workflow.originalGoal
  updatedAt := workflow.updatedAt
  deadline := workflow.workRequest.bind WorkRequest.deadline
  priority := (workflow.workRequest.map WorkRequest.priority).getD .medium
  totalTasks := workflow.tasks.length
  completedTasks := (workflow.tasks.filter fun task => task.status = .completed).length
  blockerCount := workflow.detectedBlockers.length
  recommendationAction := workflow.recommendation.map Recommendation.action

/-- `summarize`: the first of the listed workflows. -/
def summarize (listed : List WorkflowState) : Option WorkflowSummary := listed.head?.map toSummary

/-- An id that is the name of no other file and the key of no other item. -/
structure Proper (workflowId : String) : Prop where
  flat : '/' ∉ workflowId.toList
  not_index : workflowId ≠ "_index"
  not_memory : ∀ key, workflowId ≠ memoryId key

/-- The ids that `_generate_workflow_id` makes are proper. -/
theorem proper_of_generated {classes : Frontend.CharacterClasses} {workflowId : List Char}
    (generated : Frontend.Generated classes workflowId) : Proper (String.ofList workflowId) where
  flat := by
    rw [String.toList_ofList]
    intro member
    have unreserved := (Frontend.isUnreserved_generated generated member).mpr (by decide)
    exact absurd unreserved (by decide)
  not_index same := by
    obtain ⟨goal, token, rfl⟩ := generated
    have first := congrArg (fun text => text.toList.head?) same
    rw [String.toList_ofList] at first
    cases first
  not_memory key same := by
    obtain ⟨goal, token, rfl⟩ := generated
    have first := congrArg (fun text => text.toList.head?) same
    rw [String.toList_ofList, memoryId, String.toList_append] at first
    cases first

/-- The operations of a store. -/
inductive Operation where
  | save (workflow : WorkflowState) (proper : Proper workflow.workflowId)
  | get (workflowId : String) (proper : Proper workflowId)
  | claim (workflowId workerId : String) (now : DateTime) (proper : Proper workflowId)
  | list
  | summarize
  | remember (key value : String) (now : DateTime)
  | recollect (key : String)

/-- What an operation answers. -/
inductive Answer where
  | done
  | workflow (found : Option WorkflowState)
  | listing (workflows : List WorkflowState)
  | summary (found : Option WorkflowSummary)
  | memory (value : Option String)
  | raised

/-- The answers to operations, one after the other. -/
def answers {State : Type*} (perform : State → Operation → Answer × State) :
    State → List Operation → List Answer
  | _, [] => []
  | state, operation :: operations =>
    (perform state operation).1 :: answers perform (perform state operation).2 operations

section Local

/-- A value in the file `long_term_memory.json`. -/
structure LongTermEntry where
  value : String
  updatedAt : String

/-- The data directory. -/
structure LocalData where
  files : LocalStore.Files := ∅
  longTerm : Dict LongTermEntry := ∅

namespace LocalData

variable (platform : LocalStore.Platform) (data : LocalData)

/-- `claim_workflow_for_execution`, under the lock that covers its read and its write. -/
def claimWorkflowForExecution (workflowId : LocalStore.WorkflowId) (now : DateTime) :
    Except Exn (Option WorkflowState × LocalData) :=
  match LocalStore.getWorkflow platform data.files workflowId with
  | .error failure => .error failure
  | .ok none => .ok (none, data)
  | .ok (some workflow) =>
    if workflow.executionState = .queued then
      let claimed := MemoryStore.running now workflow
      if flat : '/' ∉ claimed.workflowId.toList then
        .ok (some claimed,
          { data with files := LocalStore.saveWorkflow data.files ⟨claimed, flat⟩ })
      -- The files of the directory have the ids that they are named after.
      else .error .validationError
    else .ok (none, data)

/-- `set_long_term_memory`. -/
def setLongTermMemory (key value : String) (now : DateTime) : LocalData :=
  { data with longTerm := data.longTerm.insert key { value, updatedAt := now.isoformat } }

/-- `get_long_term_memory`. -/
def getLongTermMemory (key : String) : Option String :=
  (data.longTerm.lookup key).map LongTermEntry.value

/-- An operation of `LocalMemoryStore`. -/
def perform : Operation → Answer × LocalData
  | .save workflow proper =>
    (.done, { data with files := LocalStore.saveWorkflow data.files ⟨workflow, proper.flat⟩ })
  | .get workflowId proper =>
    match LocalStore.getWorkflow platform data.files ⟨workflowId, proper.flat⟩ with
    | .ok found => (.workflow found, data)
    | .error _ => (.raised, data)
  | .claim workflowId _ now proper =>
    match data.claimWorkflowForExecution platform ⟨workflowId, proper.flat⟩ now with
    | .ok (found, next) => (.workflow found, next)
    | .error _ => (.raised, data)
  | .list =>
    match LocalStore.listWorkflows platform data.files with
    | .ok listed => (.listing listed, data)
    | .error _ => (.raised, data)
  | .summarize =>
    match LocalStore.listWorkflows platform data.files with
    | .ok listed => (.summary (Memory.summarize listed), data)
    | .error _ => (.raised, data)
  | .remember key value now => (.done, data.setLongTermMemory key value now)
  | .recollect key => (.memory (data.getLongTermMemory key), data)

end LocalData

end Local

section Remote

variable {Place : Type*} [LinearOrder Place] (scanner : RemoteTable.Scanner Place)
  (table : RemoteTable)

namespace RemoteTable

/-- An operation of `DynamoDBMemoryStore`. -/
def perform : Operation → Answer × RemoteTable
  | .save workflow _ => (.done, table.saveWorkflow workflow)
  | .get workflowId _ =>
    match table.getWorkflow workflowId with
    | .ok found => (.workflow found, table)
    | .error _ => (.raised, table)
  | .claim workflowId workerId now _ =>
    match table.claimWorkflowForExecution workflowId workerId now with
    | (.ok found, next) => (.workflow found, next)
    | (.error _, next) => (.raised, next)
  | .list =>
    match table.listAll scanner with
    | some (.ok listed) => (.listing listed, table)
    | _ => (.raised, table)
  | .summarize =>
    match table.listAll scanner with
    | some (.ok listed) => (.summary (Memory.summarize listed), table)
    | _ => (.raised, table)
  | .remember key value _ => (.done, table.setLongTermMemory key value)
  | .recollect key => (.memory (table.getLongTermMemory key), table)

end RemoteTable

end Remote

section Abstraction

/-- What a store is for: the states last saved and the values last remembered. -/
structure Contents where
  states : Dict WorkflowState := ∅
  longTerm : Dict String := ∅

namespace Contents

variable (contents : Contents)

/-- The state under an id, if it is queued. -/
def queued (workflowId : String) : Option WorkflowState :=
  (contents.states.lookup workflowId).filter fun workflow => workflow.executionState = .queued

/-- What an operation changes. -/
def apply : Operation → Contents
  | .save workflow _ =>
    { contents with states := contents.states.insert workflow.workflowId workflow }
  | .claim workflowId _ now _ =>
    match contents.queued workflowId with
    | none => contents
    | some workflow =>
      { contents with
        states := contents.states.insert workflowId (MemoryStore.running now workflow.jsonCopy) }
  | .remember key value _ => { contents with longTerm := contents.longTerm.insert key value }
  | .get .. | .list | .summarize | .recollect _ => contents

/-- What an operation answers, where a state is read back as `read` makes of its JSON form. -/
def Answers (read : WorkflowState → WorkflowState) : Operation → Answer → Prop
  | .save .., answer | .remember .., answer => answer = .done
  | .get workflowId _, answer =>
    answer = .workflow ((contents.states.lookup workflowId).map fun workflow =>
      read workflow.jsonCopy)
  | .claim workflowId _ now _, answer =>
    answer = .workflow ((contents.queued workflowId).map fun workflow =>
      read (MemoryStore.running now workflow.jsonCopy))
  | .list, answer => ∃ listed, answer = .listing listed ∧
      listed.Perm (contents.states.entries.map fun entry => read entry.2.jsonCopy) ∧
      listed.Pairwise fun first second => second.updatedAt.instant ≤ first.updatedAt.instant
  | .summarize, answer =>
    (contents.states.entries = [] ∧ answer = .summary none) ∨
      ∃ entry ∈ contents.states.entries,
        (∀ other ∈ contents.states.entries,
          other.2.updatedAt.instant ≤ entry.2.updatedAt.instant) ∧
        answer = .summary (some (toSummary entry.2))
  | .recollect key, answer => answer = .memory (contents.longTerm.lookup key)

/-- The answers to operations, one after the other. -/
def Explains (read : WorkflowState → WorkflowState) :
    Contents → List Operation → List Answer → Prop
  | _, [], given => given = []
  | contents, operation :: operations, given => ∃ answer rest, given = answer :: rest ∧
      contents.Answers read operation answer ∧
      Explains read (contents.apply operation) operations rest

/-- Every state is stored under its own id, and this is a proper one. -/
def WellFormed : Prop :=
  ∀ workflowId workflow, contents.states.lookup workflowId = some workflow →
    workflow.workflowId = workflowId ∧ Proper workflowId

end Contents

namespace Contents

variable {contents : Contents} {read : WorkflowState → WorkflowState}

theorem queued_eq_some {workflowId : String} {workflow : WorkflowState} :
    contents.queued workflowId = some workflow ↔
      contents.states.lookup workflowId = some workflow ∧ workflow.executionState = .queued := by
  simp [queued, Option.filter_eq_some_iff]

theorem wellFormed_empty : ({} : Contents).WellFormed := by
  intro workflowId workflow absent
  cases absent

theorem WellFormed.insert (wellFormed : contents.WellFormed) {workflow : WorkflowState}
    (proper : Proper workflow.workflowId) : WellFormed
      { contents with states := contents.states.insert workflow.workflowId workflow } := by
  intro workflowId found present
  by_cases same : workflowId = workflow.workflowId
  · subst same
    rw [AList.lookup_insert] at present
    cases present
    exact ⟨rfl, proper⟩
  · rw [AList.lookup_insert_ne same] at present
    exact wellFormed workflowId found present

theorem WellFormed.apply (wellFormed : contents.WellFormed) (operation : Operation) :
    (contents.apply operation).WellFormed := by
  cases operation with
  | save workflow proper => exact wellFormed.insert proper
  | claim workflowId workerId now proper =>
    simp only [Contents.apply]
    cases found : contents.queued workflowId with
    | none => exact wellFormed
    | some workflow =>
      obtain ⟨rfl, proper⟩ := wellFormed _ _ (queued_eq_some.mp found).1
      let claimed := MemoryStore.running now workflow.jsonCopy
      have kept : Proper claimed.workflowId := proper
      exact wellFormed.insert kept
  | remember => exact wellFormed
  | get | list | summarize | recollect => exact wellFormed

/-- A listing determines the summary: that of one of the newest states. -/
theorem answers_summarize (typed : ∀ workflow, toSummary (read workflow) = toSummary workflow)
    {listed : List WorkflowState} (listing : contents.Answers read .list (.listing listed)) :
    contents.Answers read .summarize (.summary (Memory.summarize listed)) := by
  obtain ⟨_, ⟨rfl⟩, perm, sorted⟩ := listing
  cases listed with
  | nil =>
    refine .inl ⟨List.map_eq_nil_iff.mp perm.symm.eq_nil, rfl⟩
  | cons newest rest =>
    obtain ⟨entry, member, rfl⟩ := List.mem_map.mp (perm.mem_iff.mp List.mem_cons_self)
    have time (workflow : WorkflowState) :
        (read workflow.jsonCopy).updatedAt = workflow.updatedAt :=
      congrArg WorkflowSummary.updatedAt (typed workflow.jsonCopy)
    refine .inr ⟨entry, member, ?_, congrArg (Answer.summary ∘ some) (typed entry.2.jsonCopy)⟩
    intro other stored
    have listed := perm.mem_iff.mpr (List.mem_map_of_mem stored)
    rw [← time other.2, ← time entry.2]
    rcases List.mem_cons.mp listed with same | later
    · rw [same]
    · exact (List.pairwise_cons.mp sorted).1 _ later

/-- A store that answers each operation as the contents do, and keeps them, answers every run of
operations so. -/
theorem explains_answers {State : Type*} {perform : State → Operation → Answer × State}
    {keeps : State → Contents → Prop} {allowed : Operation → Prop}
    (step : ∀ state contents operation, keeps state contents → contents.WellFormed →
      allowed operation → contents.Answers read operation (perform state operation).1 ∧
        keeps (perform state operation).2 (contents.apply operation))
    (operations : List Operation) (each : ∀ operation ∈ operations, allowed operation)
    {state : State} (kept : keeps state contents) (wellFormed : contents.WellFormed) :
    Explains read contents operations (answers perform state operations) := by
  induction operations generalizing state contents with
  | nil => rfl
  | cons operation operations ih =>
    obtain ⟨first, others⟩ := List.forall_mem_cons.mp each
    obtain ⟨answered, next⟩ := step state contents operation kept wellFormed first
    exact ⟨_, _, rfl, answered, ih others next (wellFormed.apply operation)⟩

end Contents

end Abstraction

section LocalRefinement

namespace LocalData

variable (platform : LocalStore.Platform) {data : LocalData} {contents : Contents}

/-- The directory keeps the contents. -/
structure Keeps (data : LocalData) (contents : Contents) : Prop where
  files : LocalStore.Represents data.files contents.states
  memory : ∀ key, data.getLongTermMemory key = contents.longTerm.lookup key

theorem keeps_empty : Keeps {} {} where
  files := LocalStore.represents_empty
  memory _ := rfl

theorem Keeps.getWorkflow (keeps : data.Keeps contents) {workflowId : String}
    (proper : Proper workflowId) :
    LocalStore.getWorkflow platform data.files ⟨workflowId, proper.flat⟩ =
      .ok ((contents.states.lookup workflowId).map WorkflowState.jsonCopy) :=
  keeps.files.getWorkflow proper.not_index

/-- A claim of the local store is that of the contents. -/
theorem Keeps.claim (keeps : data.Keeps contents) (wellFormed : contents.WellFormed)
    {workflowId : String} (proper : Proper workflowId) (workerId : String) (now : DateTime) :
    ∃ next, data.claimWorkflowForExecution platform ⟨workflowId, proper.flat⟩ now =
        .ok ((contents.queued workflowId).map fun workflow =>
          MemoryStore.running now workflow.jsonCopy, next) ∧
      next.Keeps (contents.apply (.claim workflowId workerId now proper)) := by
  unfold claimWorkflowForExecution Contents.apply
  rw [keeps.getWorkflow platform proper]
  cases stored : contents.states.lookup workflowId with
  | none =>
    simp only [Contents.queued, stored, Option.map_none, Option.filter_none]
    exact ⟨data, rfl, keeps⟩
  | some workflow =>
    simp only [Option.map_some]
    by_cases state : workflow.jsonCopy.executionState = .queued
    · obtain ⟨rfl, -⟩ := wellFormed workflowId workflow stored
      let claimed := MemoryStore.running now workflow.jsonCopy
      have flat : '/' ∉ claimed.workflowId.toList := proper.flat
      rw [if_pos state, dif_pos flat, Contents.queued_eq_some.mpr ⟨stored, state⟩]
      exact ⟨_, rfl, keeps.files.saveWorkflow ⟨claimed, flat⟩, keeps.memory⟩
    · have refused : contents.queued workflowId = none := by
        rw [Contents.queued, stored]
        exact Option.filter_some_neg (decide_eq_false state)
      rw [if_neg state, refused]
      exact ⟨data, rfl, keeps⟩

/-- The files that are listed are those of the states. -/
theorem Keeps.listWorkflows (keeps : data.Keeps contents) (wellFormed : contents.WellFormed) :
    ∃ listed, LocalStore.listWorkflows platform data.files = .ok listed ∧
      contents.Answers id .list (.listing listed) := by
  obtain ⟨listed, success, perm, sorted⟩ :
      ∃ listed, LocalStore.listWorkflows platform data.files = .ok listed ∧ _ ∧ _ :=
    keeps.files.listWorkflows
  have apart : "_index" ∉ contents.states := by
    intro present
    obtain ⟨workflow, found⟩ := Option.isSome_iff_exists.mp (AList.lookup_isSome.mpr present)
    exact (wellFormed "_index" workflow found).2.not_index rfl
  have whole : contents.states.erase "_index" = contents.states :=
    AList.ext (List.kerase_of_notMem_keys apart)
  rw [whole] at perm
  exact ⟨listed, success, listed, rfl, perm, sorted⟩

theorem Keeps.setLongTermMemory (keeps : data.Keeps contents) (key value : String)
    (now : DateTime) : (data.setLongTermMemory key value now).Keeps
      { contents with longTerm := contents.longTerm.insert key value } where
  files := keeps.files
  memory other := by
    rw [getLongTermMemory, LocalData.setLongTermMemory]
    by_cases same : other = key
    · subst same
      rw [AList.lookup_insert, AList.lookup_insert, Option.map_some]
    · rw [AList.lookup_insert_ne same, AList.lookup_insert_ne same]
      exact keeps.memory other

/-- An operation of the local store answers as the contents do, and keeps them. -/
theorem Keeps.perform (keeps : data.Keeps contents) (wellFormed : contents.WellFormed)
    (operation : Operation) :
    contents.Answers id operation (data.perform platform operation).1 ∧
      (data.perform platform operation).2.Keeps (contents.apply operation) := by
  cases operation with
  | save workflow proper =>
    exact ⟨rfl, keeps.files.saveWorkflow ⟨workflow, proper.flat⟩, keeps.memory⟩
  | get workflowId proper =>
    simp only [LocalData.perform, keeps.getWorkflow platform proper]
    exact ⟨rfl, keeps⟩
  | claim workflowId workerId now proper =>
    obtain ⟨next, claimed, kept⟩ := keeps.claim platform wellFormed proper workerId now
    simp only [LocalData.perform, claimed]
    exact ⟨rfl, kept⟩
  | list =>
    obtain ⟨listed, success, answered⟩ := keeps.listWorkflows platform wellFormed
    simp only [LocalData.perform, success]
    exact ⟨answered, keeps⟩
  | summarize =>
    obtain ⟨listed, success, answered⟩ := keeps.listWorkflows platform wellFormed
    simp only [LocalData.perform, success]
    exact ⟨Contents.answers_summarize (fun _ => rfl) answered, keeps⟩
  | remember key value now => exact ⟨rfl, keeps.setLongTermMemory key value now⟩
  | recollect key => exact ⟨congrArg Answer.memory (keeps.memory key), keeps⟩

end LocalData

end LocalRefinement

section RemoteRefinement

namespace RemoteTable

variable {table : RemoteTable} {contents : Contents}

theorem memoryId_injective : Function.Injective memoryId := by
  intro first second same
  exact (String.append_right_inj "memory::").mp same

/-- The table keeps the contents, and the item of a queued workflow has no lock: a worker that has
locked it is running it. -/
structure Keeps (table : RemoteTable) (contents : Contents) : Prop where
  stored : ∀ workflowId workflow, contents.states.lookup workflowId = some workflow →
    ∃ lock, table.find? workflowId =
        some (.workflow { record := workflow.jsonCopy, executionLock := lock }) ∧
      (workflow.executionState = .queued → lock = none)
  absent : ∀ workflowId, Proper workflowId → contents.states.lookup workflowId = none →
    table.find? workflowId = none
  named : ∀ item, .workflow item ∈ table.rows → item.record.workflowId ∈ contents.states
  memory : ∀ key, table.find? (memoryId key) =
    (contents.longTerm.lookup key).map fun value => .longTerm key value

theorem keeps_empty : Keeps ∅ {} where
  stored _ _ absent := by cases absent
  absent _ _ _ := rfl
  named _ absent := by cases absent
  memory _ := rfl

theorem find?_put {workflow : WorkflowState} {lock : Option String} {workflowId : String}
    (different : workflowId ≠ workflow.workflowId) :
    Table.find? (table.insertOrReplace
        (.workflow { record := workflow.jsonCopy, executionLock := lock })) workflowId =
      table.find? workflowId :=
  Table.find?_insertOrReplace_of_ne table (.workflow ⟨workflow.jsonCopy, lock⟩) different

/-- A state that is put into the table. -/
theorem Keeps.put (keeps : table.Keeps contents) {workflow : WorkflowState}
    (proper : Proper workflow.workflowId) {lock : Option String}
    (unlocked : workflow.executionState = .queued → lock = none) :
    Keeps (table.insertOrReplace (.workflow { record := workflow.jsonCopy, executionLock := lock }))
      { contents with states := contents.states.insert workflow.workflowId workflow } where
  stored workflowId found present := by
    by_cases same : workflowId = workflow.workflowId
    · subst same
      rw [AList.lookup_insert] at present
      cases present
      exact ⟨lock, Table.find?_insertOrReplace_self _ _, unlocked⟩
    · rw [AList.lookup_insert_ne same] at present
      rw [find?_put same]
      exact keeps.stored workflowId found present
  absent workflowId other missing := by
    have different : workflowId ≠ workflow.workflowId := by
      rintro rfl
      rw [AList.lookup_insert] at missing
      cases missing
    rw [AList.lookup_insert_ne different] at missing
    rw [find?_put different]
    exact keeps.absent workflowId other missing
  named item member := by
    rw [AList.mem_insert]
    rcases (Table.mem_insertOrReplace _ _ _).mp member with same | ⟨earlier, -⟩
    · cases same
      exact .inl rfl
    · exact .inr (keeps.named item earlier)
  memory key := by
    rw [find?_put fun same => proper.not_memory key same.symm]
    exact keeps.memory key

theorem find?_setLongTermMemory {key value workflowId : String}
    (different : workflowId ≠ memoryId key) :
    (table.setLongTermMemory key value).find? workflowId = table.find? workflowId :=
  Table.find?_insertOrReplace_of_ne table (.longTerm key value) different

theorem Keeps.setLongTermMemory (keeps : table.Keeps contents)
    (wellFormed : contents.WellFormed) (key value : String) :
    (table.setLongTermMemory key value).Keeps
      { contents with longTerm := contents.longTerm.insert key value } where
  stored workflowId workflow present := by
    have different := (wellFormed workflowId workflow present).2.not_memory key
    rw [find?_setLongTermMemory different]
    exact keeps.stored workflowId workflow present
  absent workflowId proper missing := by
    rw [find?_setLongTermMemory (proper.not_memory key)]
    exact keeps.absent workflowId proper missing
  named item member := by
    rcases (Table.mem_insertOrReplace _ _ _).mp member with same | ⟨earlier, -⟩
    · cases same
    · exact keeps.named item earlier
  memory other := by
    by_cases same : other = key
    · subst same
      rw [AList.lookup_insert]
      exact Table.find?_insertOrReplace_self table (TableItem.longTerm other value)
    · rw [AList.lookup_insert_ne same, find?_setLongTermMemory (memoryId_injective.ne same)]
      exact keeps.memory other

theorem Keeps.getWorkflow (keeps : table.Keeps contents) {workflowId : String}
    (proper : Proper workflowId) :
    table.getWorkflow workflowId = .ok ((contents.states.lookup workflowId).map fun workflow =>
      MemoryStore.load .dynamodb workflow.jsonCopy) := by
  rw [RemoteTable.getWorkflow]
  cases present : contents.states.lookup workflowId with
  | none =>
    rw [keeps.absent workflowId proper present]
    rfl
  | some workflow =>
    obtain ⟨lock, found, -⟩ := keeps.stored workflowId workflow present
    rw [found]
    rfl

theorem Keeps.getLongTermMemory (keeps : table.Keeps contents) (key : String) :
    table.getLongTermMemory key = contents.longTerm.lookup key := by
  rw [RemoteTable.getLongTermMemory, keeps.memory key]
  cases contents.longTerm.lookup key with
  | none => rfl
  | some value => rfl

/-- JSON keeps the claimed form of what it has made. -/
theorem jsonCopy_running (workflow : WorkflowState) (now : DateTime) :
    (MemoryStore.running now workflow.jsonCopy).jsonCopy =
      MemoryStore.running now workflow.jsonCopy :=
  congrArg (MemoryStore.running now)
    (WorkflowState.jsonCopy_of_untypedJson workflow.untypedJson_jsonCopy)

/-- A claim on the table is that of the contents: its condition on the lock is no further one. -/
theorem Keeps.claim (keeps : table.Keeps contents) (wellFormed : contents.WellFormed)
    {workflowId : String} (proper : Proper workflowId) (workerId : String) (now : DateTime) :
    ∃ next, table.claimWorkflowForExecution workflowId workerId now =
        (.ok ((contents.queued workflowId).map fun workflow =>
          MemoryStore.load .dynamodb (MemoryStore.running now workflow.jsonCopy)), next) ∧
      next.Keeps (contents.apply (.claim workflowId workerId now proper)) := by
  unfold claimWorkflowForExecution Contents.apply
  rw [keeps.getWorkflow proper]
  cases present : contents.states.lookup workflowId with
  | none =>
    simp only [Contents.queued, present, Option.map_none, Option.filter_none]
    exact ⟨table, rfl, keeps⟩
  | some workflow =>
    obtain ⟨lock, found, unlocked⟩ := keeps.stored workflowId workflow present
    simp only [Option.map_some, MemoryStore.load_executionState]
    by_cases state : workflow.jsonCopy.executionState = .queued
    · obtain ⟨rfl, -⟩ := wellFormed workflowId workflow present
      obtain rfl : lock = none := unlocked state
      have updated : table.claimUpdate workflow.workflowId workerId now =
          some (table.insertOrReplace (.workflow
            { record := MemoryStore.running now workflow.jsonCopy
              executionLock := some workerId })) := by
        rw [claimUpdate, found]
        exact if_pos ⟨state, .inl rfl⟩
      have named : Proper (MemoryStore.running now workflow.jsonCopy).workflowId := proper
      have running : (MemoryStore.running now workflow.jsonCopy).executionState = .queued →
          some workerId = none := by
        intro queued
        cases queued
      have kept := keeps.put named running
      rw [jsonCopy_running] at kept
      rw [if_pos state, updated, Contents.queued_eq_some.mpr ⟨present, state⟩]
      refine ⟨_, ?_, kept⟩
      have stored := kept.getWorkflow named
      rw [AList.lookup_insert, Option.map_some, jsonCopy_running] at stored
      exact Prod.ext stored rfl
    · have refused : contents.queued workflowId = none := by
        rw [Contents.queued, present]
        exact Option.filter_some_neg (decide_eq_false state)
      rw [if_neg state, refused]
      exact ⟨table, rfl, keeps⟩

section Listing

variable {Place : Type*} [LinearOrder Place] (scanner : Scanner Place)

/-- The workflows of the table are the states of the contents. -/
theorem Keeps.validated (keeps : table.Keeps contents) (wellFormed : contents.WellFormed) :
    (validated table.rows).Perm (contents.states.entries.map fun entry =>
      MemoryStore.load .dynamodb entry.2.jsonCopy) := by
  have named : ∀ entry ∈ contents.states.entries,
      (MemoryStore.load .dynamodb entry.2.jsonCopy).workflowId = entry.1 := by
    intro entry member
    rw [MemoryStore.load_workflowId]
    exact (wellFormed entry.1 entry.2 (AList.mem_lookup_iff.mpr member)).1
  have distinct : (contents.states.entries.map fun entry =>
      MemoryStore.load .dynamodb entry.2.jsonCopy).Nodup := by
    refine List.Nodup.of_map WorkflowState.workflowId ?_
    have keys : (contents.states.entries.map fun entry =>
        (MemoryStore.load .dynamodb entry.2.jsonCopy).workflowId) = contents.states.keys :=
      List.map_congr_left named
    rw [List.map_map]
    exact keys ▸ contents.states.keys_nodup
  refine (List.perm_ext_iff_of_nodup (nodup_validated table.unique).of_map distinct).mpr ?_
  intro workflow
  rw [mem_validated, List.mem_map]
  constructor
  · rintro ⟨item, member, valid⟩
    cases item with
    | longTerm => cases valid
    | workflow item =>
      cases valid
      obtain ⟨state, present⟩ := Option.isSome_iff_exists.mp
        (AList.lookup_isSome.mpr (keeps.named item member))
      obtain ⟨lock, found, -⟩ := keeps.stored _ state present
      have itself : table.find? item.record.workflowId = some (.workflow item) :=
        (Table.find?_eq_some _ _ _).mpr ⟨member, rfl⟩
      rw [itself] at found
      cases found
      exact ⟨_, AList.mem_lookup_iff.mp present, rfl⟩
  · rintro ⟨entry, member, rfl⟩
    obtain ⟨lock, found, -⟩ := keeps.stored entry.1 entry.2 (AList.mem_lookup_iff.mpr member)
    exact ⟨_, ((Table.find?_eq_some _ _ _).mp found).1, rfl⟩

theorem Keeps.listAll (keeps : table.Keeps contents) (wellFormed : contents.WellFormed) :
    ∃ listed, table.listAll scanner = some (.ok listed) ∧
      contents.Answers (MemoryStore.load .dynamodb) .list (.listing listed) := by
  obtain ⟨listed, success, perm, sorted⟩ := listAll_eq scanner table
  exact ⟨listed, success, listed, rfl, perm.trans (keeps.validated wellFormed), sorted⟩

/-- An operation on the table answers as the contents do, and keeps them. -/
theorem Keeps.perform (keeps : table.Keeps contents) (wellFormed : contents.WellFormed)
    (operation : Operation) :
    contents.Answers (MemoryStore.load .dynamodb) operation (table.perform scanner operation).1 ∧
      Keeps (table.perform scanner operation).2 (contents.apply operation) := by
  cases operation with
  | save workflow proper => exact ⟨rfl, keeps.put proper fun _ => rfl⟩
  | get workflowId proper =>
    simp only [RemoteTable.perform, keeps.getWorkflow proper]
    exact ⟨rfl, keeps⟩
  | claim workflowId workerId now proper =>
    obtain ⟨next, claimed, kept⟩ := keeps.claim wellFormed proper workerId now
    simp only [RemoteTable.perform, claimed]
    exact ⟨rfl, kept⟩
  | list =>
    obtain ⟨listed, success, answered⟩ := keeps.listAll scanner wellFormed
    simp only [RemoteTable.perform, success]
    exact ⟨answered, keeps⟩
  | summarize =>
    obtain ⟨listed, success, answered⟩ := keeps.listAll scanner wellFormed
    simp only [RemoteTable.perform, success]
    have typed (workflow : WorkflowState) :
        toSummary (MemoryStore.load .dynamodb workflow) = toSummary workflow := rfl
    exact ⟨Contents.answers_summarize typed answered, keeps⟩
  | remember key value now => exact ⟨rfl, keeps.setLongTermMemory wellFormed key value⟩
  | recollect key => exact ⟨congrArg Answer.memory (keeps.getLongTermMemory key), keeps⟩

end Listing

end RemoteTable

end RemoteRefinement

/-- **The two back ends are the same store.** In every run of operations on proper ids, each of
them answers as the states last saved and the values last remembered do, the remote one with the
untyped numbers of a state as decimals: they claim the same workflows, whatever has been locked
before, they list the same ones, and neither mistakes a remembered value for a workflow. -/
theorem back_ends_agree (platform : LocalStore.Platform) {Place : Type*} [LinearOrder Place]
    (scanner : RemoteTable.Scanner Place) (operations : List Operation) :
    Contents.Explains id {} operations (answers (LocalData.perform platform) {} operations) ∧
      Contents.Explains (MemoryStore.load .dynamodb) {} operations
        (answers (RemoteTable.perform scanner) ∅ operations) := by
  constructor
  · exact Contents.explains_answers
      (fun _ _ operation kept wellFormed _ => kept.perform platform wellFormed operation)
      operations (fun _ _ => trivial) LocalData.keeps_empty Contents.wellFormed_empty
  · exact Contents.explains_answers
      (fun _ _ operation kept wellFormed _ => kept.perform scanner wellFormed operation)
      operations (fun _ _ => trivial) RemoteTable.keeps_empty Contents.wellFormed_empty

end ActionPlan.Memory
