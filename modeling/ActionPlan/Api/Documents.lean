import ActionPlan.Foundation.ControlFlow
import ActionPlan.Memory.Store

/-! # Documents attached to a workflow

`api/routes/documents.py`. The names of the ingested documents are kept in the
untyped `execution_metadata` of the record; the extraction and the embedding of
the text are a service whose outcome is an input.
-/

namespace ActionPlan.Api

open ActionPlan.Foundation ActionPlan.Models ActionPlan.Memory

/-- `list(value)`. -/
def pythonList : Value → Except Exn (List Value)
  | .list items => .ok items
  | .dict entries => .ok (entries.map fun entry => .str entry.1)
  | .str text => .ok (text.toList.map fun char => .str (String.singleton char))
  | .none | .bool _ | .int _ | .decimal _ | .date _ => .error (.typeError "object is not iterable")

/-- `value == text`. -/
def isText (text : String) : Value → Bool
  | .str other => other = text
  | _ => false

/-- `list(workflow.execution_metadata.get("documents", []))`. -/
def documents (workflow : WorkflowState) : Except Exn (List Value) :=
  match workflow.executionMetadata.lookup "documents" with
  | none => .ok []
  | some value => pythonList value

/-- The name is appended unless it is there. -/
def addDocument (filename : String) (documents : List Value) : List Value :=
  if documents.any (isText filename) then documents else documents ++ [.str filename]

/-- The workflow that `ingest_document_route` saves. -/
def withDocument (filename : String) (workflow : WorkflowState) : Except Exn WorkflowState := do
  let names ← documents workflow
  return { workflow with
    executionMetadata :=
      workflow.executionMetadata.insert "documents" (.list (addDocument filename names)) }

/-- The filename is among the documents of the metadata. -/
def Recorded (filename : String) (executionMetadata : Dict Value) : Prop :=
  ∃ items, executionMetadata.lookup "documents" = some (.list items) ∧ .str filename ∈ items

section Recorded

variable {filename : String} {workflow saved : WorkflowState}

theorem mem_addDocument (names : List Value) : .str filename ∈ addDocument filename names := by
  unfold addDocument
  split
  · rename_i present
    obtain ⟨name, member, same⟩ := List.any_eq_true.mp present
    cases name with
    | str text =>
        obtain rfl : text = filename := by simpa [isText] using same
        exact member
    | none | bool | int | decimal | date | list | dict => cases same
  · exact List.mem_append_right _ (.head _)

theorem subset_addDocument (names : List Value) : names ⊆ addDocument filename names := by
  unfold addDocument
  split
  · exact List.Subset.refl names
  · exact List.subset_append_left _ _

/-- What the route changes: the documents, and nothing else. -/
theorem withDocument_ok (success : withDocument filename workflow = .ok saved) :
    ∃ names, documents workflow = .ok names ∧ saved =
      { workflow with
        executionMetadata :=
          workflow.executionMetadata.insert "documents" (.list (addDocument filename names)) } := by
  obtain ⟨names, listed, done⟩ := ok_of_bind success
  cases done
  exact ⟨names, listed, rfl⟩

theorem recorded_withDocument (success : withDocument filename workflow = .ok saved) :
    Recorded filename saved.executionMetadata := by
  obtain ⟨names, -, rfl⟩ := withDocument_ok success
  exact ⟨_, AList.lookup_insert _, mem_addDocument names⟩

/-- A document that was recorded stays recorded. -/
theorem recorded_withDocument_of_recorded {other : String}
    (success : withDocument filename workflow = .ok saved)
    (recorded : Recorded other workflow.executionMetadata) :
    Recorded other saved.executionMetadata := by
  obtain ⟨names, listed, rfl⟩ := withDocument_ok success
  obtain ⟨items, present, member⟩ := recorded
  rw [documents, present] at listed
  cases listed
  exact ⟨_, AList.lookup_insert _, subset_addDocument _ member⟩

theorem toJsonModeList_eq_map (items : List Value) :
    Value.toJsonModeList items = items.map Value.toJsonMode := by
  induction items with
  | nil => rfl
  | cons item items ih => rw [Value.toJsonModeList, ih, List.map_cons]

theorem numbersAsDecimalList_eq_map (items : List Value) :
    Value.numbersAsDecimalList items = items.map Value.numbersAsDecimal := by
  induction items with
  | nil => rfl
  | cons item items ih => rw [Value.numbersAsDecimalList, ih, List.map_cons]

/-- Saving keeps the recorded documents. -/
theorem recorded_jsonCopy (recorded : Recorded filename workflow.executionMetadata) :
    Recorded filename workflow.jsonCopy.executionMetadata := by
  obtain ⟨items, present, member⟩ := recorded
  refine ⟨items.map Value.toJsonMode, ?_, List.mem_map.mpr ⟨_, member, rfl⟩⟩
  rw [WorkflowState.mapUntyped_executionMetadata, Dict.lookup_mapValues, present, Option.map_some,
    Value.toJsonMode, toJsonModeList_eq_map]

/-- Loading keeps the recorded documents. -/
theorem recorded_load (backend : Backend)
    (recorded : Recorded filename workflow.executionMetadata) :
    Recorded filename (MemoryStore.load backend workflow).executionMetadata := by
  cases backend with
  | localStore => exact recorded
  | dynamodb =>
      obtain ⟨items, present, member⟩ := recorded
      refine ⟨items.map Value.numbersAsDecimal, ?_, List.mem_map.mpr ⟨_, member, rfl⟩⟩
      rw [MemoryStore.load, WorkflowState.mapUntyped_executionMetadata, Dict.lookup_mapValues,
        present, Option.map_some, Value.numbersAsDecimal, numbersAsDecimalList_eq_map]

/-- Overriding the metadata with another key keeps the recorded documents. -/
theorem recorded_override {metadata : Dict Value} {key : String} {value : Value}
    (other : "documents" ≠ key) (recorded : Recorded filename metadata) :
    Recorded filename (Dict.override metadata (AList.singleton key value)) := by
  obtain ⟨items, present, member⟩ := recorded
  exact ⟨items, by rw [Dict.lookup_override_singleton_of_ne _ _ other, present], member⟩

end Recorded

end ActionPlan.Api
