import ActionPlan.Memory.Store

/-! # A claim whose calls can fail

`claim_workflow_for_execution` of `memory/dynamodb.py` as its three calls to the table, each of
which may fail, with what other processes write in between. An error of a read is turned into
`None` twice: before the claim, where nothing has happened, and after it.
-/

namespace ActionPlan.Memory

open ActionPlan.Models

/-- What a call to the table raises: a `ClientError` with its code, or anything else. -/
inductive Fault where
  | clientError (code : String)
  | other (failure : Exn)
  deriving DecidableEq, Repr

/-- The code for a condition that does not hold. -/
def conditionalCheckFailed : String := "ConditionalCheckFailedException"

/-- A failed update. A request whose answer is lost is applied all the same, and when the client
library repeats it the condition no longer holds. -/
structure UpdateFault where
  fault : Fault
  applied : Bool
  deriving DecidableEq, Repr

/-- What happens to the calls of a claim, and what others write between them. Nobody deletes an
item. -/
structure Circumstances where
  firstRead : Option Fault := none
  meanwhile : MemoryStore → MemoryStore := id
  update : Option UpdateFault := none
  later : MemoryStore → MemoryStore := id
  lastRead : Option Fault := none
  later_keeps : ∀ store workflowId, store.getWorkflow workflowId ≠ none →
    (later store).getWorkflow workflowId ≠ none := by exact fun _ _ found => found

/-- What a claim returns or raises, whether its own update was applied, and the table. -/
structure Attempt where
  result : Except Fault (Option WorkflowState)
  applied : Bool
  table : MemoryStore

namespace MemoryStore

variable (store : MemoryStore) (workflowId workerId : String) (now : DateTime)

/-- `get_workflow`, for a call that may fail. -/
def getWorkflowRemotely (fault : Option Fault) : Except Fault (Option WorkflowState) :=
  match fault with
  | none => .ok (store.getWorkflow workflowId)
  | some (.clientError _) => .ok none
  | some (.other failure) => .error (.other failure)

/-- `update_item` with its condition: what it raises, whether it was applied, and the table. -/
def updateRemotely (fault : Option UpdateFault) : Option Fault × Bool × MemoryStore :=
  match store.claimUpdate workflowId workerId now, fault with
  | none, none => (some (.clientError conditionalCheckFailed), false, store)
  | none, some failed => (some failed.fault, false, store)
  | some updated, none => (none, true, updated)
  | some updated, some failed =>
    (some failed.fault, failed.applied, if failed.applied then updated else store)

/-- `claim_workflow_for_execution`. -/
def claimRemotely (circumstances : Circumstances) : Attempt :=
  match circumstances.firstRead with
  | some (.clientError _) => { result := .ok none, applied := false, table := store }
  | some (.other failure) => { result := .error (.other failure), applied := false, table := store }
  | none =>
    match store.claimable workflowId with
    | none => { result := .ok none, applied := false, table := store }
    | some _ =>
      match (circumstances.meanwhile store).updateRemotely workflowId workerId now
        circumstances.update with
      | (some (.clientError code), applied, table) =>
        if code = conditionalCheckFailed then { result := .ok none, applied, table }
        else { result := .error (.clientError code), applied, table }
      | (some (.other failure), applied, table) =>
        { result := .error (.other failure), applied, table }
      | (none, applied, table) =>
        { result := (circumstances.later table).getWorkflowRemotely workflowId
            circumstances.lastRead
          applied
          table := circumstances.later table }

/-- When no call fails and nobody writes meanwhile, this is the claim of `Memory.Store`. -/
theorem claimRemotely_undisturbed (remote : store.backend = .dynamodb) :
    (store.claimRemotely workflowId workerId now {}).result =
        .ok (store.claimWorkflowForExecution workflowId workerId now).1 ∧
      (store.claimRemotely workflowId workerId now {}).table =
        (store.claimWorkflowForExecution workflowId workerId now).2 := by
  simp only [claimRemotely, claimWorkflowForExecution, remote]
  cases store.claimable workflowId with
  | none => exact ⟨rfl, rfl⟩
  | some workflow =>
    simp only [updateRemotely, id]
    cases store.claimUpdate workflowId workerId now with
    | none => exact ⟨rfl, rfl⟩
    | some claimed => exact ⟨rfl, rfl⟩

/-- The condition of the update holds: the item is queued, and no other worker has locked it. -/
def Free : Prop :=
  ∃ item, store.items.lookup workflowId = some item ∧ item.record.executionState = .queued ∧
    (item.executionLock = none ∨ item.executionLock = some workerId)

/-- The update is applied, and the claim does not hear of it: the read after it fails with a
`ClientError`, or the request was repeated and its condition no longer held. -/
structure Unheard (circumstances : Circumstances) : Prop where
  read : circumstances.firstRead = none
  queued : ∃ workflow, store.claimable workflowId = some workflow
  free : (circumstances.meanwhile store).Free workflowId workerId
  silenced : (circumstances.update = none ∧
      ∃ code, circumstances.lastRead = some (.clientError code)) ∨
    circumstances.update =
      some { fault := .clientError conditionalCheckFailed, applied := true }

variable {store workflowId workerId now}

theorem claimUpdate_eq_none_iff :
    store.claimUpdate workflowId workerId now = none ↔ ¬store.Free workflowId workerId := by
  unfold claimUpdate Free
  cases store.items.lookup workflowId with
  | none => simp only [reduceCtorEq, false_and, exists_false, not_false_eq_true]
  | some item =>
    by_cases allowed : item.record.executionState = .queued ∧
        (item.executionLock = none ∨ item.executionLock = some workerId)
    · simp only [allowed, and_self, ↓reduceIte, reduceCtorEq, Option.some.injEq, exists_eq_left',
        not_true_eq_false]
    · simp only [allowed, ↓reduceIte, Option.some.injEq, exists_eq_left', not_false_eq_true]

/-- An update that is applied found its condition true, and it is answered, or it fails as its
request does. -/
theorem updateRemotely_applied {fault : Option UpdateFault} {answer : Option Fault}
    {table : MemoryStore}
    (answered : store.updateRemotely workflowId workerId now fault = (answer, true, table)) :
    store.Free workflowId workerId ∧
      (fault = none ∧ answer = none ∨
        ∃ failed, fault = some { fault := failed, applied := true } ∧ answer = some failed) := by
  have free : store.claimUpdate workflowId workerId now ≠ none := by
    intro refused
    unfold updateRemotely at answered
    rw [refused] at answered
    cases fault <;> cases answered
  refine ⟨by_contra fun closed => free (claimUpdate_eq_none_iff.mpr closed), ?_⟩
  obtain ⟨updated, accepted⟩ := Option.ne_none_iff_exists'.mp free
  unfold updateRemotely at answered
  rw [accepted] at answered
  cases fault with
  | none =>
    cases answered
    exact .inl ⟨rfl, rfl⟩
  | some failed =>
    obtain ⟨failed, applied⟩ := failed
    cases answered
    exact .inr ⟨failed, rfl, rfl⟩

/-- After an applied update that is answered the item is there. -/
theorem updateRemotely_stored {fault : Option UpdateFault} {applied : Bool} {table : MemoryStore}
    (answered : store.updateRemotely workflowId workerId now fault = (none, applied, table)) :
    applied = true ∧ table.getWorkflow workflowId ≠ none := by
  unfold updateRemotely at answered
  cases accepted : store.claimUpdate workflowId workerId now with
  | none =>
    rw [accepted] at answered
    cases fault <;> cases answered
  | some updated =>
    rw [accepted] at answered
    cases fault with
    | none =>
      cases answered
      obtain ⟨record, -, -, rfl⟩ := claimUpdate_eq_some accepted
      exact ⟨rfl, by rw [getWorkflow_insert]; exact Option.some_ne_none _⟩
    | some failed => cases answered

/-- A claim that answers with nothing after its update was applied is unheard. -/
theorem unheard_of_none {circumstances : Circumstances}
    (told : (store.claimRemotely workflowId workerId now circumstances).result = .ok none)
    (applied : (store.claimRemotely workflowId workerId now circumstances).applied = true) :
    store.Unheard workflowId workerId circumstances := by
  unfold claimRemotely at told applied
  cases first : circumstances.firstRead with
  | some fault => cases fault <;> simp [first] at applied
  | none =>
  cases claimable : store.claimable workflowId with
  | none => simp [first, claimable] at applied
  | some workflow =>
  simp only [first, claimable] at told applied
  cases answered : (circumstances.meanwhile store).updateRemotely workflowId workerId now
    circumstances.update with
  | mk answer rest =>
  obtain ⟨wrote, table⟩ := rest
  simp only [answered] at told applied
  cases answer with
  | none =>
    obtain ⟨rfl, stored⟩ := updateRemotely_stored answered
    obtain ⟨free, ⟨unfailed, -⟩ | ⟨failed, -, impossible⟩⟩ := updateRemotely_applied answered
    · refine ⟨first, ⟨workflow, claimable⟩, free, .inl ⟨unfailed, ?_⟩⟩
      have kept := circumstances.later_keeps table workflowId stored
      cases last : circumstances.lastRead with
      | none =>
        have gone : (circumstances.later table).getWorkflow workflowId = none := by
          simpa [getWorkflowRemotely, last] using told
        exact absurd gone kept
      | some fault =>
        cases fault with
        | clientError code => exact ⟨code, rfl⟩
        | other failure => simp [getWorkflowRemotely, last] at told
    · cases impossible
  | some fault =>
    cases fault with
    | other failure => cases told
    | clientError code =>
      by_cases failed : code = conditionalCheckFailed
      · subst failed
        simp only [↓reduceIte] at applied
        subst applied
        obtain ⟨free, ⟨-, impossible⟩ | ⟨fault, request, same⟩⟩ := updateRemotely_applied answered
        · cases impossible
        · cases same
          exact ⟨first, ⟨workflow, claimable⟩, free, .inr request⟩
      · simp only [failed, ↓reduceIte, reduceCtorEq] at told

/-- An unheard claim answers with nothing, and its update was applied. -/
theorem none_of_unheard {circumstances : Circumstances}
    (unheard : store.Unheard workflowId workerId circumstances) :
    (store.claimRemotely workflowId workerId now circumstances).result = .ok none ∧
      (store.claimRemotely workflowId workerId now circumstances).applied = true := by
  obtain ⟨workflow, claimable⟩ := unheard.queued
  have accepted : (circumstances.meanwhile store).claimUpdate workflowId workerId now ≠ none :=
    fun refused => claimUpdate_eq_none_iff.mp refused unheard.free
  obtain ⟨updated, accepted⟩ := Option.ne_none_iff_exists'.mp accepted
  rcases unheard.silenced with ⟨unfailed, code, last⟩ | request
  · simp only [claimRemotely, unheard.read, claimable, updateRemotely, accepted, unfailed,
      getWorkflowRemotely, last, and_self]
  · simp only [claimRemotely, unheard.read, claimable, updateRemotely, accepted, request,
      ↓reduceIte, and_self]

/-- **When a refused claim has changed nothing.** A claim that returns `None` has not changed the
record, if and only if its own update is not one that is applied unheard. -/
theorem claim_none_unchanged_iff (circumstances : Circumstances) :
    ((store.claimRemotely workflowId workerId now circumstances).result = .ok none →
        (store.claimRemotely workflowId workerId now circumstances).applied = false) ↔
      ¬store.Unheard workflowId workerId circumstances := by
  constructor
  · intro unchanged unheard
    obtain ⟨told, applied⟩ := none_of_unheard unheard
    rw [unchanged told] at applied
    exact absurd applied Bool.false_ne_true
  · intro heard told
    rw [← Bool.not_eq_true]
    exact fun applied => heard (unheard_of_none told applied)

section Samples

def queuedRecord : WorkflowState where
  workflowId := "wf"
  originalGoal := "goal"
  createdAt := .newYear
  updatedAt := .newYear

/-- A table with one queued workflow. -/
def queuedTable : MemoryStore :=
  ({ backend := .dynamodb } : MemoryStore).saveWorkflow queuedRecord

/-- The last of the three calls is throttled. -/
def throttled : Circumstances where
  lastRead := some (.clientError "ProvisionedThroughputExceededException")

theorem unheard_throttled : queuedTable.Unheard "wf" "worker" throttled where
  read := rfl
  queued := ⟨_, claimable_eq_some.mpr ⟨getWorkflow_saveWorkflow _ queuedRecord, rfl⟩⟩
  free := by
    refine ⟨{ record := queuedRecord.jsonCopy }, ?_, rfl, .inl rfl⟩
    exact AList.lookup_insert _
  silenced := .inl ⟨rfl, _, rfl⟩

/-- The worker is told that there is nothing to execute, and the workflow is running. -/
theorem throttled_claim_leaves_running :
    ¬((queuedTable.claimRemotely "wf" "worker" .newYear throttled).result = .ok none →
        (queuedTable.claimRemotely "wf" "worker" .newYear throttled).applied = false) := by
  intro unchanged
  obtain ⟨told, applied⟩ := none_of_unheard unheard_throttled
  rw [unchanged told] at applied
  exact absurd applied Bool.false_ne_true

end Samples

end MemoryStore

end ActionPlan.Memory
