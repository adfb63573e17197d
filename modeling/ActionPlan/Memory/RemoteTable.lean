import ActionPlan.Foundation.Paging
import ActionPlan.Foundation.Sorting
import ActionPlan.Foundation.Table
import ActionPlan.Memory.RemoteClaim
import ActionPlan.Models.Timestamps

/-! # The table of the remote store

`memory/dynamodb.py` over its one table, which keeps the workflows and the long-term memory under
the same key attribute. `list_workflows` reads it in pages, in the order of the hash of the key,
while other processes write: each request finds a table of its own.
-/

namespace ActionPlan.Memory

open ActionPlan.Foundation ActionPlan.Foundation.Paging ActionPlan.Models

/-- The key of a value of the long-term memory. -/
def memoryId (key : String) : String := "memory::" ++ key

/-- An item of the table. -/
inductive TableItem where
  | workflow (item : Item)
  | longTerm (memoryKey memoryValue : String)

namespace TableItem

/-- The attribute `workflow_id`. -/
def workflowId : TableItem → String
  | .workflow item => item.record.workflowId
  | .longTerm memoryKey _ => memoryId memoryKey

/-- `model_validate`; an item of the long-term memory lacks the goal. -/
def modelValidate : TableItem → Except Exn WorkflowState
  | .workflow item => .ok (MemoryStore.load .dynamodb item.record)
  | .longTerm .. => .error .validationError

/-- The attribute `memory_value`. -/
def memoryValue : TableItem → Option String
  | .workflow _ => none
  | .longTerm _ value => some value

end TableItem

/-- The items by their key. -/
abbrev RemoteTable := Table TableItem.workflowId

namespace RemoteTable

variable (table : RemoteTable)

/-- `save_workflow`. -/
def saveWorkflow (workflow : WorkflowState) : RemoteTable :=
  table.insertOrReplace (.workflow { record := workflow.jsonCopy })

/-- `get_workflow`. -/
def getWorkflow (workflowId : String) : Except Exn (Option WorkflowState) :=
  match table.find? workflowId with
  | none => .ok none
  | some item => item.modelValidate.map some

/-- `set_long_term_memory`. -/
def setLongTermMemory (key value : String) : RemoteTable :=
  table.insertOrReplace (.longTerm key value)

/-- `get_long_term_memory`. -/
def getLongTermMemory (key : String) : Option String :=
  (table.find? (memoryId key)).bind TableItem.memoryValue

/-- The conditional `update_item` of a claim: `none` when the condition fails, as it does for an
item without an `execution_state`. -/
def claimUpdate (workflowId workerId : String) (now : DateTime) : Option RemoteTable :=
  match table.find? workflowId with
  | some (.workflow item) =>
    if item.record.executionState = .queued ∧
        (item.executionLock = none ∨ item.executionLock = some workerId) then
      some (table.insertOrReplace (.workflow
        { record := MemoryStore.running now item.record, executionLock := some workerId }))
    else none
  | _ => none

/-- `claim_workflow_for_execution`, run without interruption. -/
def claimWorkflowForExecution (workflowId workerId : String) (now : DateTime) :
    Except Exn (Option WorkflowState) × RemoteTable :=
  match table.getWorkflow workflowId with
  | .error failure => (.error failure, table)
  | .ok none => (.ok none, table)
  | .ok (some workflow) =>
    if workflow.executionState = .queued then
      match table.claimUpdate workflowId workerId now with
      | none => (.ok none, table)
      | some claimed => (claimed.getWorkflow workflowId, claimed)
    else (.ok none, table)

section Listing

variable {Place : Type*}

/-- The answers to the scans, by their number and where they start. -/
abbrev Scan (Place : Type*) := Nat → Option Place → Except Fault (Page TableItem Place)

/-- The workflows of a response; the other items are passed over. -/
def validated (items : List TableItem) : List WorkflowState :=
  items.filterMap fun item => item.modelValidate.toOption

/-- The loop of `list_workflows`, for a bounded number of requests. -/
def scanFrom (scan : Scan Place) :
    Nat → Nat → Option Place → List WorkflowState → Option (Except Fault (List WorkflowState))
  | 0, _, _, _ => none
  | requests + 1, number, cursor, workflows =>
    match scan number cursor with
    | .error fault => some (.error fault)
    | .ok page =>
      match page.next with
      | none => some (.ok (workflows ++ validated page.items))
      | some reached =>
        scanFrom scan requests (number + 1) (some reached) (workflows ++ validated page.items)

/-- `list_workflows`. -/
def listWorkflows (scan : Scan Place) (requests : Nat) :
    Option (Except Fault (List WorkflowState)) :=
  (scanFrom scan requests 0 none []).map
    (Except.map (sortDescending fun workflow => workflow.updatedAt.instant))

variable [LinearOrder Place] (hash : String → Place)

/-- The items in the order in which a scan finds them. -/
def inHashOrder : List TableItem :=
  sortDescending (fun item => OrderDual.toDual (hash item.workflowId)) table.rows

/-- Each scan that answers has a page of the table that it finds. -/
def Scans (tables : Nat → RemoteTable) (scan : Scan Place) : Prop :=
  ∀ number cursor page, scan number cursor = .ok page →
    IsPage (fun item => hash item.workflowId) ((tables number).inHashOrder hash) cursor page

end Listing

@[simp] theorem workflowId_modelValidate {item : TableItem} {workflow : WorkflowState}
    (valid : item.modelValidate = .ok workflow) : item.workflowId = workflow.workflowId := by
  cases item with
  | workflow item =>
    cases valid
    exact (MemoryStore.load_workflowId _ _).symm
  | longTerm => cases valid

/-- A workflow is found under its id exactly if an item of the table is read as it. -/
theorem getWorkflow_eq_some {table : RemoteTable} {workflowId : String}
    {workflow : WorkflowState} :
    table.getWorkflow workflowId = .ok (some workflow) ↔
      ∃ item ∈ table.rows, item.workflowId = workflowId ∧ item.modelValidate = .ok workflow := by
  rw [getWorkflow]
  constructor
  · intro found
    cases stored : table.find? workflowId with
    | none => simp [stored] at found
    | some item =>
      obtain ⟨member, same⟩ := (Table.find?_eq_some _ _ _).mp stored
      rw [stored] at found
      obtain ⟨read, valid, equal⟩ := ok_of_map found
      cases equal
      exact ⟨item, member, same, valid⟩
  · rintro ⟨item, member, same, valid⟩
    rw [(Table.find?_eq_some _ _ _).mpr ⟨member, same⟩]
    simp only [valid, Except.map]

section Listing

variable {Place : Type*}

theorem mem_validated {items : List TableItem} {workflow : WorkflowState} :
    workflow ∈ validated items ↔ ∃ item ∈ items, item.modelValidate = .ok workflow := by
  rw [validated, List.mem_filterMap]
  refine exists_congr fun item => and_congr_right fun _ => ?_
  cases item.modelValidate with
  | error failure => simp [Except.toOption]
  | ok read => simp [Except.toOption]

theorem validated_append (items later : List TableItem) :
    validated (items ++ later) = validated items ++ validated later :=
  List.filterMap_append

/-- Distinct keys are those of distinct workflows. -/
theorem nodup_validated {items : List TableItem}
    (distinct : (items.map TableItem.workflowId).Nodup) :
    ((validated items).map WorkflowState.workflowId).Nodup := by
  have narrower : ((validated items).map WorkflowState.workflowId).Sublist
      (items.map TableItem.workflowId) := by
    induction items with
    | nil => exact List.Sublist.refl _
    | cons item items ih =>
      have rest := ih (List.nodup_cons.mp distinct).2
      cases valid : item.modelValidate with
      | error failure =>
        simp only [validated, List.filterMap_cons, valid, Except.toOption, List.map_cons]
        exact rest.cons _
      | ok workflow =>
        simp only [validated, List.filterMap_cons, valid, Except.toOption, List.map_cons,
          workflowId_modelValidate valid]
        exact rest.cons_cons _
  exact distinct.sublist narrower

/-- Where every scan answers, a listing does not raise. -/
theorem scanFrom_ne_error {scan : Scan Place}
    (answered : ∀ number cursor, ∃ page, scan number cursor = .ok page) (requests number : Nat)
    (cursor : Option Place) (workflows : List WorkflowState) (fault : Fault) :
    scanFrom scan requests number cursor workflows ≠ some (.error fault) := by
  induction requests generalizing number cursor workflows with
  | zero => exact fun ends => by cases ends
  | succ requests ih =>
    obtain ⟨page, answer⟩ := answered number cursor
    rw [scanFrom, answer]
    cases next : page.next with
    | none => simp only [next, ne_eq, Option.some.injEq, reduceCtorEq, not_false_eq_true]
    | some reached =>
      simp only [next]
      exact ih _ _ _

variable [LinearOrder Place] {hash : String → Place} {tables : Nat → RemoteTable}
  {scan : Scan Place}

theorem mem_inHashOrder {table : RemoteTable} {item : TableItem} :
    item ∈ table.inHashOrder hash ↔ item ∈ table.rows :=
  (sortDescending_perm _ _).mem_iff

/-- The keys are distinct, so the items come in a strict order. -/
theorem ordered_inHashOrder (injective : Function.Injective hash) (table : RemoteTable) :
    Ordered (fun item => hash item.workflowId) (table.inHashOrder hash) := by
  have distinct : ((table.inHashOrder hash).map TableItem.workflowId).Nodup :=
    ((sortDescending_perm _ _).map _).nodup_iff.mpr table.unique
  have apart := List.pairwise_map.mp distinct
  refine (apart.and (pairwise_sortDescending _ table.rows)).imp ?_
  rintro first second ⟨different, less⟩
  exact lt_of_le_of_ne (OrderDual.toDual_le_toDual.mp less) (injective.ne different)

/-- A listing that ends has read the table page by page. -/
theorem read_of_scanFrom (scans : Scans hash tables scan) {requests number : Nat}
    {cursor : Option Place} {workflows listed : List WorkflowState}
    (ends : scanFrom scan requests number cursor workflows = some (.ok listed)) :
    ∃ items, Read (fun item => hash item.workflowId)
        (fun time => (tables time).inHashOrder hash) number cursor items ∧
      listed = workflows ++ validated items := by
  induction requests generalizing number cursor workflows with
  | zero => cases ends
  | succ requests ih =>
    rw [scanFrom] at ends
    cases answer : scan number cursor with
    | error fault => simp [answer] at ends
    | ok page =>
    have isPage := scans number cursor page answer
    cases next : page.next with
    | none =>
      simp only [answer, next, Option.some.injEq, Except.ok.injEq] at ends
      exact ⟨page.items, .last isPage next, ends.symm⟩
    | some reached =>
      simp only [answer, next] at ends
      obtain ⟨rest, read, rfl⟩ := ih ends
      refine ⟨page.items ++ rest, .more isPage next read, ?_⟩
      rw [validated_append, List.append_assoc]

/-- Where the tables have keys among finitely many, a listing ends: each request leaves fewer of
them. -/
theorem scanFrom_ends (scans : Scans hash tables scan) {keys : List String}
    (known : ∀ number, ∀ item ∈ (tables number).rows, item.workflowId ∈ keys)
    {requests number : Nat} {cursor : Option Place} {workflows : List WorkflowState}
    (enough : (ahead (keys.map hash) cursor).length < requests) :
    scanFrom scan requests number cursor workflows ≠ none := by
  induction requests generalizing number cursor workflows with
  | zero => exact absurd enough (Nat.not_lt_zero _)
  | succ requests ih =>
    rw [scanFrom]
    cases answer : scan number cursor with
    | error fault => exact Option.some_ne_none _
    | ok page =>
    cases next : page.next with
    | none => simp only [next, ne_eq, reduceCtorEq, not_false_eq_true]
    | some reached =>
      simp only [next]
      apply ih
      have fewer : (ahead (keys.map hash) (some reached)).length <
          (ahead (keys.map hash) cursor).length :=
        (scans number cursor page answer).ahead_lt next fun item member =>
          List.mem_map_of_mem (known number item (mem_inHashOrder.mp member))
      omega

/-- **A listing while others write.** Where the keys are among finitely many, it ends after as many
requests and one more. What it returns has no workflow twice, the newest first; each was stored as
it is listed when a request was made; a workflow that is stored under its id all the while is
listed, whatever is written or put into the long-term memory meanwhile. -/
theorem listWorkflows_meanwhile (injective : Function.Injective hash)
    (scans : Scans hash tables scan) :
    (∀ (keys : List String) requests,
      (∀ number, ∀ item ∈ (tables number).rows, item.workflowId ∈ keys) →
      keys.length < requests → listWorkflows scan requests ≠ none) ∧
    ∀ requests listed, listWorkflows scan requests = some (.ok listed) →
      (listed.map WorkflowState.workflowId).Nodup ∧
      (listed.Pairwise fun first second => second.updatedAt.instant ≤ first.updatedAt.instant) ∧
      (∀ workflow ∈ listed, ∃ number,
        (tables number).getWorkflow workflow.workflowId = .ok (some workflow)) ∧
      ∀ workflowId,
        (∀ number, ∃ workflow, (tables number).getWorkflow workflowId = .ok (some workflow)) →
        ∃ workflow ∈ listed, workflow.workflowId = workflowId := by
  constructor
  · intro keys requests known enough ends
    refine scanFrom_ends scans known ?_ (Option.map_eq_none_iff.mp ends)
    exact ((List.length_filter_le _ _).trans_eq (List.length_map _)).trans_lt enough
  · intro requests listed ends
    obtain ⟨result, scanned, sorted⟩ := Option.map_eq_some_iff.mp ends
    obtain ⟨workflows, rfl, rfl⟩ := ok_of_map sorted
    obtain ⟨items, read, rfl⟩ := read_of_scanFrom scans scanned
    have same := sortDescending_perm (fun workflow : WorkflowState => workflow.updatedAt.instant)
      (validated items)
    refine ⟨?_, pairwise_sortDescending _ _, ?_, ?_⟩
    · have ordered := read.ordered fun time => ordered_inHashOrder injective (tables time)
      refine (same.map _).nodup_iff.mpr (nodup_validated ?_)
      exact List.pairwise_map.mpr (ordered.imp fun less equal => less.ne (congrArg hash equal))
    · intro workflow member
      obtain ⟨item, listed, valid⟩ := mem_validated.mp (same.mem_iff.mp member)
      obtain ⟨time, stored⟩ := read.stored item listed
      refine ⟨time, getWorkflow_eq_some.mpr ⟨item, mem_inHashOrder.mp stored, ?_, valid⟩⟩
      exact workflowId_modelValidate valid
    · intro workflowId present
      have kept : ∀ time, ∃ item ∈ (tables time).inHashOrder hash,
          hash item.workflowId = hash workflowId ∧ ∃ workflow,
            item.modelValidate = .ok workflow ∧ workflow.workflowId = workflowId := by
        intro time
        obtain ⟨workflow, found⟩ := present time
        obtain ⟨item, stored, named, valid⟩ := getWorkflow_eq_some.mp found
        exact ⟨item, mem_inHashOrder.mpr stored, congrArg hash named, workflow, valid,
          (workflowId_modelValidate valid).symm.trans named⟩
      obtain ⟨item, listed, -, workflow, valid, rfl⟩ := read.complete
        (fun time => ordered_inHashOrder injective (tables time)) rfl kept
      exact ⟨workflow, same.mem_iff.mpr (mem_validated.mpr ⟨item, listed, valid⟩), rfl⟩

end Listing

section Quiet

/-- What the store uses of DynamoDB when nobody else writes and no call fails: the order of a scan
and its pages. -/
structure Scanner (Place : Type*) [LinearOrder Place] where
  hash : String → Place
  injective : Function.Injective hash
  scan : RemoteTable → Scan Place
  answered : ∀ table number cursor, ∃ page, scan table number cursor = .ok page
  scans : ∀ table, Scans hash (fun _ => table) (scan table)

variable {Place : Type*} [LinearOrder Place] (scanner : Scanner Place)

/-- `list_workflows`, with as many requests as it can need. -/
def listAll (table : RemoteTable) : Option (Except Fault (List WorkflowState)) :=
  listWorkflows (scanner.scan table) (table.rows.length + 1)

/-- A listing has every workflow of the table, the newest first. -/
theorem listAll_eq (table : RemoteTable) :
    ∃ listed, table.listAll scanner = some (.ok listed) ∧
      listed.Perm (validated table.rows) ∧
      listed.Pairwise fun first second => second.updatedAt.instant ≤ first.updatedAt.instant := by
  have scans := scanner.scans table
  let keys := table.rows.map TableItem.workflowId
  have known : ∀ _ : Nat, ∀ item ∈ table.rows, item.workflowId ∈ keys := fun _ item member =>
    List.mem_map_of_mem member
  have enough : (ahead (keys.map scanner.hash) none).length < table.rows.length + 1 := by
    refine Nat.lt_succ_of_le ((List.length_filter_le _ _).trans_eq ?_)
    rw [List.length_map, List.length_map]
  have ends : scanFrom (scanner.scan table) (table.rows.length + 1) 0 none [] ≠ none :=
    scanFrom_ends scans known enough
  obtain ⟨outcome, scanned⟩ := Option.ne_none_iff_exists'.mp ends
  cases outcome with
  | error fault => exact absurd scanned (scanFrom_ne_error (scanner.answered table) _ _ _ _ fault)
  | ok workflows =>
    obtain ⟨items, read, rfl⟩ := read_of_scanFrom scans scanned
    have perm := (read.perm_of_quiet (ordered_inHashOrder scanner.injective table)).trans
      (sortDescending_perm _ _)
    refine ⟨_, ?_, (sortDescending_perm _ _).trans (perm.filterMap _),
      pairwise_sortDescending _ _⟩
    rw [listAll, listWorkflows, scanned]
    rfl

/-- A scanner with pages of bounded size, in the order of the keys themselves. -/
def alphabetical (size : Nat) (some_room : 0 < size) : Scanner String where
  hash := id
  injective := Function.injective_id
  scan table _ cursor :=
    .ok (firstPage (fun item => id item.workflowId) size (table.inHashOrder id) cursor)
  answered _ _ _ := ⟨_, rfl⟩
  scans table number cursor page answer := by
    cases answer
    exact isPage_firstPage some_room _ _

end Quiet

section Samples

/-- A table with two workflows. -/
def twoWorkflows : RemoteTable :=
  (∅ : RemoteTable)
    |>.saveWorkflow
      { workflowId := "wf_a", originalGoal := "Ship", createdAt := .newYear, updatedAt := .newYear }
    |>.saveWorkflow
      { workflowId := "wf_b", originalGoal := "Hire", createdAt := .newYear, updatedAt := .newYear }

/-- After the first request a value is put into the long-term memory. -/
def growing (number : Nat) : RemoteTable :=
  if number = 0 then twoWorkflows else twoWorkflows.setLongTermMemory "goal" "Ship"

/-- Pages of one item, so that a page does not hold both workflows. -/
def growingScan (number : Nat) : Option String → Except Fault (Page TableItem String) :=
  (alphabetical 1 Nat.one_pos).scan (growing number) number

theorem growing_is_listed : ∃ listed, listWorkflows growingScan 4 = some (.ok listed) ∧
    (∃ workflow ∈ listed, workflow.workflowId = "wf_a") ∧
    ∃ workflow ∈ listed, workflow.workflowId = "wf_b" := by
  have scans : Scans id growing growingScan := fun number =>
    (alphabetical 1 Nat.one_pos).scans (growing number) number
  obtain ⟨ends, listing⟩ := listWorkflows_meanwhile Function.injective_id scans
  have known : ∀ number, ∀ item ∈ (growing number).rows,
      item.workflowId ∈ ["wf_a", "wf_b", "memory::goal"] := by
    intro number
    rw [growing]
    split <;> decide
  have stored (workflowId : String) (either : workflowId = "wf_a" ∨ workflowId = "wf_b") :
      ∀ number, ∃ workflow, (growing number).getWorkflow workflowId = .ok (some workflow) := by
    intro number
    rw [growing]
    rcases either with rfl | rfl
    all_goals split <;> exact ⟨_, rfl⟩
  have answered : ∀ number cursor, ∃ page, growingScan number cursor = .ok page :=
    fun number => (alphabetical 1 Nat.one_pos).answered (growing number) number
  obtain ⟨outcome, listed⟩ := Option.ne_none_iff_exists'.mp
    (ends ["wf_a", "wf_b", "memory::goal"] 4 known (by decide))
  obtain ⟨scanned, success, rfl⟩ := Option.map_eq_some_iff.mp listed
  cases scanned with
  | error fault => exact absurd success (scanFrom_ne_error answered _ _ _ _ fault)
  | ok workflows =>
    obtain ⟨-, -, -, complete⟩ := listing 4 _ listed
    exact ⟨_, listed, complete "wf_a" (stored _ (.inl rfl)),
      complete "wf_b" (stored _ (.inr rfl))⟩

end Samples

end RemoteTable

end ActionPlan.Memory
