import ActionPlan.Agent.CurrentState

/-! # Records that are saved and loaded

The two memory stores hold the same JSON documents, but the client of DynamoDB returns
a number in an untyped dictionary as a `Decimal`, which JSON mode writes as a string
from then on. So the stores agree on the records whose untyped dictionaries hold no
number, and the progress that every run reports is one.
-/

namespace ActionPlan.Agent

open ActionPlan.Foundation ActionPlan.Models ActionPlan.Memory

/-- The untyped dictionaries of the record hold no number. -/
def NumberFree (workflow : WorkflowState) : Prop :=
  ∀ value ∈ workflow.untypedValues, value.numberFree = true

/-- The record after a save and a load. -/
def reload (backend : Backend) (workflow : WorkflowState) : WorkflowState :=
  MemoryStore.load backend workflow.jsonCopy

/-- The record after it has been saved and loaded so many times. -/
def rounds (store : MemoryStore) : Nat → WorkflowState → Option WorkflowState
  | 0, workflow => some workflow
  | count + 1, workflow =>
    let saved := store.saveWorkflow workflow
    (saved.getWorkflow workflow.workflowId).bind (rounds saved count)

section Reload

variable {backend : Backend} {workflow : WorkflowState}

theorem rounds_eq_iterate (store : MemoryStore) (count : Nat) (workflow : WorkflowState) :
    rounds store count workflow = some ((reload store.backend)^[count] workflow) := by
  induction count generalizing store workflow with
  | zero => rfl
  | succ count ih =>
      rw [rounds, MemoryStore.getWorkflow_saveWorkflow, Option.bind_some, ih,
        MemoryStore.saveWorkflow_backend, Function.iterate_succ_apply, reload]

theorem jsonCopy_jsonCopy (workflow : WorkflowState) :
    workflow.jsonCopy.jsonCopy = workflow.jsonCopy := by
  change (workflow.mapUntyped Value.toJsonMode).mapUntyped Value.toJsonMode =
    workflow.mapUntyped Value.toJsonMode
  rw [WorkflowState.mapUntyped_mapUntyped, WorkflowState.mapUntyped_eq_iff]
  exact fun value _ => value.toJsonMode_toJsonMode

/-- The DynamoDB store returns a record without numbers. -/
theorem numberFree_reload : NumberFree (reload .dynamodb workflow) := by
  intro value member
  rw [reload, MemoryStore.load, WorkflowState.untypedValues_mapUntyped] at member
  obtain ⟨stored, -, rfl⟩ := List.mem_map.mp member
  exact stored.numberFree_numbersAsDecimal

/-- **One round** keeps the JSON form of a record in the local store, and in the DynamoDB
store of the records without numbers only. -/
theorem jsonCopy_reload_iff :
    (reload backend workflow).jsonCopy = workflow.jsonCopy ↔
      backend = .localStore ∨ NumberFree workflow := by
  cases backend with
  | localStore => exact iff_of_true (jsonCopy_jsonCopy workflow) (.inl rfl)
  | dynamodb =>
      have same : (reload .dynamodb workflow).jsonCopy = workflow.mapUntyped
          (Value.toJsonMode ∘ Value.numbersAsDecimal ∘ Value.toJsonMode) := by
        simp [reload, MemoryStore.load]
      rw [same, WorkflowState.mapUntyped_eq_iff]
      simp only [Function.comp_apply, Value.toJsonMode_numbersAsDecimal_iff, reduceCtorEq,
        false_or, NumberFree]

/-- Later rounds change nothing more. -/
theorem jsonCopy_iterate_reload (count : Nat) :
    ((reload backend)^[count + 1] workflow).jsonCopy = (reload backend workflow).jsonCopy := by
  induction count with
  | zero => rfl
  | succ count ih =>
      rw [Function.iterate_succ_apply', ← ih, jsonCopy_reload_iff]
      cases backend with
      | localStore => exact .inl rfl
      | dynamodb =>
          rw [Function.iterate_succ_apply']
          exact .inr numberFree_reload

end Reload

/-- **The stores agree.** After any number of saves and loads the JSON form of a record is
that of the saved record in both stores exactly when its untyped dictionaries hold no
number. -/
theorem stores_agree_iff (localItems dynamodbItems : Dict Item) (workflow : WorkflowState)
    (count : Nat) :
    ((rounds ⟨.localStore, localItems⟩ (count + 1) workflow).map WorkflowState.jsonCopy =
        some workflow.jsonCopy ∧
      (rounds ⟨.dynamodb, dynamodbItems⟩ (count + 1) workflow).map WorkflowState.jsonCopy =
        some workflow.jsonCopy) ↔ NumberFree workflow := by
  simp only [rounds_eq_iterate, Option.map_some, Option.some_inj, jsonCopy_iterate_reload,
    jsonCopy_reload_iff, true_or, true_and, reduceCtorEq, false_or]

section Delivered

variable {workflow : WorkflowState}

theorem not_numberFree_of_progress {progress : Int}
    (reported : workflow.currentState.lookup "progress" = some (.int progress)) :
    ¬ NumberFree workflow := by
  intro free
  have entry : (⟨"progress", .int progress⟩ : Sigma fun _ : String => Value) ∈
      workflow.currentState.entries := AList.mem_lookup_iff.mp (Option.mem_def.mpr reported)
  have held : Value.int progress ∈ workflow.untypedValues := by
    refine List.mem_flatMap.mpr ⟨workflow.currentState, ?_, List.mem_map_of_mem entry⟩
    simp
  cases free _ held

/-- Every executed workflow holds a number, its progress. -/
theorem not_numberFree_executed {services : Services} {workflowId workerId : String}
    {claimedAt : DateTime} {payload : WorkRequestInput} {store after : MemoryStore}
    (success : executeWorkflowSync services workflowId workerId claimedAt payload store =
      (.ok workflow, after)) : ¬ NumberFree workflow := by
  obtain ⟨⟨completed, pending, progress, -, -, reported, -⟩, -⟩ := stateConsistent_executed success
  exact not_numberFree_of_progress reported

/-- The progress of a created workflow comes back from DynamoDB as a string. -/
theorem progress_becomes_string : ¬ ∀ workflow : WorkflowState,
    Reachable (fun _ _ _ => True) workflow →
      ∀ (localItems dynamodbItems : Dict Item) (count : Nat),
        (rounds ⟨.localStore, localItems⟩ count workflow).map WorkflowState.jsonCopy =
            some workflow.jsonCopy ∧
          (rounds ⟨.dynamodb, dynamodbItems⟩ count workflow).map WorkflowState.jsonCopy =
            some workflow.jsonCopy := by
  intro claim
  obtain ⟨workflow, _, _, _, _, _, created, -⟩ := sample_completed
  have loaded := (claim workflow (.created created) ∅ ∅ 1).2
  rw [rounds_eq_iterate, Option.map_some, Option.some_inj, Function.iterate_one,
    jsonCopy_reload_iff] at loaded
  exact loaded.elim nofun (not_numberFree_executed created)

end Delivered

end ActionPlan.Agent
