import ActionPlan.Foundation.ControlFlow
import ActionPlan.Foundation.Sorting
import ActionPlan.Memory.Store
import ActionPlan.Models.Timestamps

/-! # The directory of the local store

`memory/local.py` with its files by name, each write taken as one step. The index that the store
keeps is a file of the same directory, and its name is that of the file of a workflow `_index`: as
a map from ids to states the store fails for this id.
-/

namespace ActionPlan.Memory.LocalStore

open ActionPlan.Foundation ActionPlan.Models

/-- A JSON object in a file: the fields that `model_dump` has written, if any, and the keys that
`_update_index` has set since. -/
structure JsonFile where
  payload : Option WorkflowState := none
  index : Dict String := ∅

/-- The files of the directory `workflows`, by name. -/
abbrev Files := Dict JsonFile

/-- An id without a path separator, so that its file is in the directory. -/
structure WorkflowId where
  text : String
  flat : '/' ∉ text.toList

/-- A workflow with such an id. -/
structure Storable where
  workflow : WorkflowState
  flat : '/' ∉ workflow.workflowId.toList

/-- What the store uses of the file system and of pydantic: the order in which a directory lists
its files, and the record that `model_validate` makes of an object. -/
structure Platform where
  scan : Files → List (Sigma fun _ : String => JsonFile)
  scan_perm : ∀ files, (scan files).Perm files.entries
  modelValidate : JsonFile → Option WorkflowState
  modelValidate_dump : ∀ record : WorkflowState,
    modelValidate { payload := some record.jsonCopy } = some record.jsonCopy

/-- The name of the index. -/
def indexFile : String := "_index.json"

/-- The name of the file of a workflow. -/
def workflowFile (workflowId : String) : String := workflowId ++ ".json"

/-- `_update_index`. -/
def updateIndex (files : Files) (workflowId updatedAt : String) : Files :=
  let file := (files.lookup indexFile).getD {}
  files.insert indexFile { file with index := file.index.insert workflowId updatedAt }

/-- `save_workflow`. -/
def saveWorkflow (files : Files) (stored : Storable) : Files :=
  updateIndex
    (files.insert (workflowFile stored.workflow.workflowId)
      { payload := some stored.workflow.jsonCopy })
    stored.workflow.workflowId stored.workflow.updatedAt.isoformat

/-- The directory after saving workflows one after the other. -/
def saveAll (saves : List Storable) : Files := saves.foldl saveWorkflow ∅

variable (platform : Platform)

/-- Reading a file of the directory. -/
def load (file : JsonFile) : Except Exn WorkflowState :=
  match platform.modelValidate file with
  | none => .error .validationError
  | some workflow => .ok workflow

/-- `get_workflow`. -/
def getWorkflow (files : Files) (workflowId : WorkflowId) : Except Exn (Option WorkflowState) :=
  match files.lookup (workflowFile workflowId.text) with
  | none => .ok none
  | some file => (load platform file).map some

/-- Whether `list_workflows` reads a file: its name matches `*.json` and is not that of the
index. -/
def isListed (name : String) : Bool :=
  ".json".toList.isSuffixOf name.toList && name != indexFile

/-- `list_workflows`. -/
def listWorkflows (files : Files) : Except Exn (List WorkflowState) :=
  (((platform.scan files).filter fun file => isListed file.1).mapM fun file =>
    load platform file.2).map (sortDescending fun workflow => workflow.updatedAt.instant)

/-- `get_workflow_status` of the API. -/
def getWorkflowStatus (files : Files) (workflowId : WorkflowId) : Except Exn Value := do
  match ← getWorkflow platform files workflowId with
  | none => .error (.httpException 404 ("Workflow " ++ workflowId.text ++ " not found."))
  | some workflow => .ok (.dict
    [("workflow_id", .str workflow.workflowId),
      ("execution_state", .str workflow.executionState.value),
      ("execution_error", (workflow.executionError.map Value.str).getD .none),
      ("updated_at", .str workflow.updatedAt.isoformat)])

/-- The map that the store is to be: the state last saved under each id. -/
def latest (saves : List Storable) : Dict WorkflowState :=
  saves.foldl (fun states stored => states.insert stored.workflow.workflowId stored.workflow) ∅

/-- The JSON form of these states. -/
def kept (saves : List Storable) : Dict WorkflowState :=
  (latest saves).mapValues WorkflowState.jsonCopy

/-- The store answers as a map from ids to states does. -/
structure IsMap (states : Dict WorkflowState) (files : Files) (workflowId : WorkflowId) :
    Prop where
  get : getWorkflow platform files workflowId = .ok (states.lookup workflowId.text)
  answer : states.lookup workflowId.text = none →
    getWorkflowStatus platform files workflowId =
      .error (.httpException 404 ("Workflow " ++ workflowId.text ++ " not found."))
  list : ∃ listed, listWorkflows platform files = .ok listed ∧
    listed.Perm (states.entries.map Sigma.snd) ∧
    listed.Pairwise fun first second => second.updatedAt.instant ≤ first.updatedAt.instant

/-- There is no index yet, or neither the workflow nor one that was saved has its name. -/
def ClearOfIndex (saves : List Storable) (workflowId : WorkflowId) : Prop :=
  saves = [] ∨ workflowId.text ≠ "_index" ∧
    ∀ stored ∈ saves, stored.workflow.workflowId ≠ "_index"

section Names

/-- Two workflows do not share a file. -/
theorem workflowFile_injective : Function.Injective workflowFile := by
  intro first second same
  exact (String.append_left_inj ".json").mp same

theorem workflowFile_index : workflowFile "_index" = indexFile := by
  rfl

/-- One id would have the index for its file. -/
theorem workflowFile_eq_index_iff {workflowId : String} :
    workflowFile workflowId = indexFile ↔ workflowId = "_index" := by
  rw [← workflowFile_index, workflowFile_injective.eq_iff]

/-- Every other file of a workflow is listed. -/
theorem isListed_workflowFile {workflowId : String} :
    isListed (workflowFile workflowId) = true ↔ workflowId ≠ "_index" := by
  have suffix : ".json".toList.isSuffixOf (workflowFile workflowId).toList = true := by
    rw [workflowFile, String.toList_append, List.isSuffixOf_iff_suffix]
    exact List.suffix_append _ _
  rw [isListed, suffix, Bool.true_and, bne_iff_ne, Ne, workflowFile_eq_index_iff]

end Names

section Directory

/-- A directory keeps the states of a map, apart from one under the id `_index`, and its index. -/
structure Represents (files : Files) (states : Dict WorkflowState) : Prop where
  kept : ∀ workflowId, workflowId ≠ "_index" →
    files.lookup (workflowFile workflowId) =
      (states.lookup workflowId).map fun workflow => { payload := some workflow.jsonCopy }
  named : ∀ name ∈ files, ∃ workflowId, workflowFile workflowId = name
  indexed : ∀ workflowId ∈ states, indexFile ∈ files

theorem represents_empty : Represents ∅ ∅ where
  kept _ _ := rfl
  named _ absent := absurd absent (AList.notMem_empty _)
  indexed _ absent := absurd absent (AList.notMem_empty _)

/-- A save keeps the directory in step with the states. -/
theorem Represents.saveWorkflow {files : Files} {states : Dict WorkflowState}
    (represents : Represents files states) (stored : Storable) :
    Represents (saveWorkflow files stored)
      (states.insert stored.workflow.workflowId stored.workflow) where
  kept workflowId different := by
    have apart : workflowFile workflowId ≠ indexFile := mt workflowFile_eq_index_iff.mp different
    rw [LocalStore.saveWorkflow, updateIndex, AList.lookup_insert_ne apart]
    by_cases same : workflowId = stored.workflow.workflowId
    · subst same
      rw [AList.lookup_insert, AList.lookup_insert, Option.map_some]
    · rw [AList.lookup_insert_ne (workflowFile_injective.ne same), AList.lookup_insert_ne same,
        represents.kept workflowId different]
  named name member := by
    rw [LocalStore.saveWorkflow, updateIndex, AList.mem_insert, AList.mem_insert] at member
    rcases member with index | workflow | earlier
    · exact ⟨"_index", workflowFile_index.trans index.symm⟩
    · exact ⟨stored.workflow.workflowId, workflow.symm⟩
    · exact represents.named name earlier
  indexed _ _ := AList.mem_insert _ |>.mpr (.inl rfl)

/-- The last save comes last. -/
theorem saveAll_concat (saves : List Storable) (stored : Storable) :
    saveAll (saves ++ [stored]) = saveWorkflow (saveAll saves) stored :=
  List.foldl_concat _ _ _ _

theorem latest_concat (saves : List Storable) (stored : Storable) :
    latest (saves ++ [stored]) =
      (latest saves).insert stored.workflow.workflowId stored.workflow :=
  List.foldl_concat _ _ _ _

theorem lookup_kept (saves : List Storable) (key : String) :
    (kept saves).lookup key = ((latest saves).lookup key).map WorkflowState.jsonCopy :=
  Dict.lookup_mapValues _ _ _

/-- After any saves the directory keeps the states last saved. -/
theorem represents_saveAll (saves : List Storable) : Represents (saveAll saves) (latest saves) := by
  induction saves using List.reverseRecOn with
  | nil => exact represents_empty
  | append_singleton saves stored ih =>
    rw [saveAll_concat, latest_concat]
    exact ih.saveWorkflow stored

/-- The workflows that have a state are those that were saved. -/
theorem mem_latest {saves : List Storable} {workflowId : String} :
    workflowId ∈ latest saves ↔ ∃ stored ∈ saves, stored.workflow.workflowId = workflowId := by
  induction saves using List.reverseRecOn with
  | nil => exact iff_of_false (AList.notMem_empty _) (by rintro ⟨stored, absent, -⟩; cases absent)
  | append_singleton saves stored ih =>
    rw [latest_concat, AList.mem_insert, ih]
    simp only [List.mem_append, List.mem_singleton, or_and_right, exists_or, exists_eq_left]
    rw [or_comm, eq_comm]

/-- What the map holds was saved. -/
theorem stored_of_latest {saves : List Storable} {workflowId : String} {workflow : WorkflowState}
    (found : (latest saves).lookup workflowId = some workflow) :
    ∃ stored ∈ saves, stored.workflow = workflow := by
  induction saves using List.reverseRecOn with
  | nil => cases found
  | append_singleton saves stored ih =>
    rw [latest_concat] at found
    by_cases same : workflowId = stored.workflow.workflowId
    · subst same
      rw [AList.lookup_insert] at found
      exact ⟨stored, List.mem_concat_self, Option.some_inj.mp found⟩
    · rw [AList.lookup_insert_ne same] at found
      obtain ⟨earlier, member, equal⟩ := ih found
      exact ⟨earlier, List.mem_append_left _ member, equal⟩

end Directory

section Answers

variable {platform} {files : Files} {states : Dict WorkflowState}

/-- A file is read back as its JSON copy. -/
@[simp] theorem load_dump (workflow : WorkflowState) :
    load platform { payload := some workflow.jsonCopy } = .ok workflow.jsonCopy := by
  rw [load, platform.modelValidate_dump]

/-- A read answers the JSON copy of the state. -/
theorem Represents.getWorkflow (represents : Represents files states) {workflowId : WorkflowId}
    (different : workflowId.text ≠ "_index") :
    getWorkflow platform files workflowId =
      .ok ((states.lookup workflowId.text).map WorkflowState.jsonCopy) := by
  rw [LocalStore.getWorkflow, represents.kept _ different]
  cases states.lookup workflowId.text with
  | none => rfl
  | some workflow =>
    simp only [Option.map_some, load_dump]
    rfl

/-- Once there is an index it is read for a workflow. -/
theorem getWorkflow_index {workflowId : WorkflowId} (index : workflowId.text = "_index")
    (present : indexFile ∈ files) : getWorkflow platform files workflowId ≠ .ok none := by
  obtain ⟨file, found⟩ := Option.isSome_iff_exists.mp (AList.lookup_isSome.mpr present)
  rw [LocalStore.getWorkflow, index, workflowFile_index, found]
  intro nothing
  obtain ⟨workflow, -, absent⟩ := ok_of_map nothing
  cases absent

/-- The files that a listing reads are those of the states other than that of `_index`. -/
theorem Represents.scan (represents : Represents files states) :
    ((platform.scan files).filter fun file => isListed file.1).Perm
      ((states.erase "_index").entries.map fun entry =>
        (⟨workflowFile entry.1, { payload := some entry.2.jsonCopy }⟩ :
          Sigma fun _ => JsonFile)) := by
  refine ((platform.scan_perm files).filter _).trans ?_
  refine Dict.filter_entries_perm workflowFile_injective
    (fun workflow : WorkflowState => { payload := some workflow.jsonCopy }) isListed ?_
    represents.named ?_
  · intro workflowId member
    exact isListed_workflowFile.mpr (AList.mem_erase.mp member).1
  · intro workflowId listed
    have different := isListed_workflowFile.mp listed
    rw [represents.kept workflowId different, AList.lookup_erase_ne different]

/-- A listing has the JSON form of every state but that of `_index`. -/
theorem Represents.listWorkflows (represents : Represents files states) :
    ∃ listed, listWorkflows platform files = .ok listed ∧
      listed.Perm ((states.erase "_index").entries.map fun entry => entry.2.jsonCopy) ∧
      listed.Pairwise fun first second => second.updatedAt.instant ≤ first.updatedAt.instant := by
  have scanned : ((platform.scan files).filter fun file => isListed file.1).Perm _ :=
    represents.scan
  have loaded : ∀ file ∈ (platform.scan files).filter fun file => isListed file.1,
      ∃ workflow, load platform file.2 = .ok workflow ∧ file.2.payload = some workflow := by
    intro file member
    obtain ⟨entry, -, rfl⟩ := List.mem_map.mp (scanned.mem_iff.mp member)
    exact ⟨entry.2.jsonCopy, load_dump entry.2, rfl⟩
  have payloads := scanned.filterMap fun file => file.2.payload
  rw [List.filterMap_map] at payloads
  refine ⟨_, congrArg (Except.map _) (mapM_of_filterMap loaded), ?_, pairwise_sortDescending _ _⟩
  exact (sortDescending_perm _ _).trans (payloads.trans (.of_eq (congrFun List.filterMap_eq_map _)))

/-- The route answers 404 for a workflow that is not found. -/
theorem getWorkflowStatus_of_none {workflowId : WorkflowId}
    (missing : getWorkflow platform files workflowId = .ok none) :
    getWorkflowStatus platform files workflowId =
      .error (.httpException 404 ("Workflow " ++ workflowId.text ++ " not found.")) := by
  rw [getWorkflowStatus, missing]
  rfl

end Answers

section Documents

/-- The saves in the store of documents. -/
def documents (saves : List Storable) : MemoryStore :=
  saves.foldl (fun store stored => store.saveWorkflow stored.workflow) { backend := .localStore }

theorem documents_concat (saves : List Storable) (stored : Storable) :
    documents (saves ++ [stored]) = (documents saves).saveWorkflow stored.workflow :=
  List.foldl_concat _ _ _ _

theorem documents_backend (saves : List Storable) : (documents saves).backend = .localStore := by
  induction saves using List.reverseRecOn with
  | nil => rfl
  | append_singleton saves stored ih => rw [documents_concat, MemoryStore.saveWorkflow_backend, ih]

/-- The documents hold what the directory keeps. -/
theorem getWorkflow_documents (saves : List Storable) (workflowId : String) :
    (documents saves).getWorkflow workflowId = (kept saves).lookup workflowId := by
  rw [lookup_kept]
  induction saves using List.reverseRecOn with
  | nil => rfl
  | append_singleton saves stored ih =>
    rw [documents_concat, latest_concat]
    by_cases same : workflowId = stored.workflow.workflowId
    · subst same
      rw [MemoryStore.getWorkflow_saveWorkflow, AList.lookup_insert, documents_backend]
      rfl
    · rw [MemoryStore.getWorkflow_saveWorkflow_of_ne _ same, AList.lookup_insert_ne same, ih]

/-- **The directory refines the store of documents:** for every id but `_index` they answer the
same. -/
theorem getWorkflow_saveAll (saves : List Storable) {workflowId : WorkflowId}
    (different : workflowId.text ≠ "_index") :
    getWorkflow platform (saveAll saves) workflowId =
      .ok ((documents saves).getWorkflow workflowId.text) := by
  rw [(represents_saveAll saves).getWorkflow different, getWorkflow_documents, lookup_kept]

end Documents

section Map

variable {platform} {saves : List Storable} {states : Dict WorkflowState} {workflowId : WorkflowId}

/-- The states of the map are what a listing has. -/
theorem IsMap.perm (map : IsMap platform states (saveAll saves) workflowId) :
    (states.entries.map Sigma.snd).Perm
      (((latest saves).erase "_index").entries.map fun entry => entry.2.jsonCopy) := by
  obtain ⟨listed, success, same, -⟩ := map.list
  obtain ⟨others, success', copies, -⟩ := (represents_saveAll saves).listWorkflows
  cases Except.ok.inj (success.symm.trans success')
  exact same.symm.trans copies

/-- JSON keeps what is stored as it is. -/
theorem IsMap.untypedJson (map : IsMap platform states (saveAll saves) workflowId) {key : String}
    {workflow : WorkflowState} (found : states.lookup key = some workflow) :
    workflow.untypedJson = true := by
  have member : workflow ∈ states.entries.map Sigma.snd :=
    List.mem_map.mpr ⟨⟨key, workflow⟩, AList.mem_lookup_iff.mp found, rfl⟩
  obtain ⟨entry, -, rfl⟩ := List.mem_map.mp (map.perm.mem_iff.mp member)
  exact entry.2.untypedJson_jsonCopy

/-- JSON records are kept as they were saved. -/
theorem kept_eq_latest (json : ∀ key workflow, (latest saves).lookup key = some workflow →
    workflow.untypedJson = true) : kept saves = latest saves :=
  Dict.mapValues_eq_self _ _ fun _ member =>
    WorkflowState.jsonCopy_of_untypedJson (json _ _ (AList.mem_lookup_iff.mpr member))

theorem kept_states : (kept saves).entries.map Sigma.snd =
    (latest saves).entries.map fun entry => entry.2.jsonCopy := by
  rw [kept, Dict.mapValues, List.map_map]
  rfl

/-- Nothing is stored under the id that a listing leaves out. -/
theorem IsMap.not_index (map : IsMap platform (kept saves) (saveAll saves) workflowId) :
    "_index" ∉ latest saves := by
  intro present
  have counted := map.perm.length_eq
  rw [kept_states, List.length_map, List.length_map] at counted
  have erased := List.length_erase_add_one (AList.mem_keys.mp present)
  rw [← AList.keys_erase] at erased
  simp only [AList.keys, List.keys, List.length_map, counted] at erased
  exact Nat.succ_ne_self _ erased

/-- The index that was written by the first save is read for a workflow. -/
theorem IsMap.ne_index (map : IsMap platform (kept saves) (saveAll saves) workflowId)
    (saved : saves ≠ []) : workflowId.text ≠ "_index" := by
  intro index
  obtain ⟨stored, member⟩ := List.exists_mem_of_ne_nil saves saved
  have present := (represents_saveAll saves).indexed _ (mem_latest.mpr ⟨stored, member, rfl⟩)
  refine getWorkflow_index index present (map.get.trans ?_)
  rw [lookup_kept, index, AList.lookup_eq_none.mpr map.not_index, Option.map_none]

/-- A store that is a map has nothing to do with the name of its index. -/
theorem IsMap.clear (map : IsMap platform (kept saves) (saveAll saves) workflowId) :
    ClearOfIndex saves workflowId := by
  by_cases saved : saves = []
  · exact .inl saved
  · refine .inr ⟨map.ne_index saved, ?_⟩
    intro stored member index
    exact map.not_index (mem_latest.mpr ⟨stored, member, index⟩)

/-- Apart from the name of its index the store is the map. -/
theorem ClearOfIndex.isMap (clear : ClearOfIndex saves workflowId) :
    IsMap platform (kept saves) (saveAll saves) workflowId := by
  have represents := represents_saveAll saves
  rcases clear with rfl | ⟨different, apart⟩
  · exact ⟨rfl, fun _ => getWorkflowStatus_of_none rfl, represents.listWorkflows⟩
  · have same : getWorkflow platform (saveAll saves) workflowId =
        .ok ((kept saves).lookup workflowId.text) := by
      rw [represents.getWorkflow different, lookup_kept]
    have absent : "_index" ∉ latest saves := by
      intro present
      obtain ⟨stored, member, index⟩ := mem_latest.mp present
      exact apart stored member index
    have whole : (latest saves).erase "_index" = latest saves :=
      AList.ext (List.kerase_of_notMem_keys absent)
    obtain ⟨listed, success, copies, sorted⟩ := represents.listWorkflows
    rw [whole, ← kept_states] at copies
    exact ⟨same, fun missing => getWorkflowStatus_of_none (same.trans (congrArg _ missing)),
      listed, success, copies, sorted⟩

end Map

/-- **Where the local store is a map.** Its answers are those of the map of the states last saved
exactly if they stay clear of the name of its index and JSON keeps these states as they are; in
the JSON form of the states, exactly if they stay clear of that name. -/
theorem local_store_is_map_iff (saves : List Storable) (workflowId : WorkflowId) :
    (IsMap platform (latest saves) (saveAll saves) workflowId ↔
      ClearOfIndex saves workflowId ∧ ∀ key workflow,
        (latest saves).lookup key = some workflow → workflow.untypedJson = true) ∧
    (IsMap platform (kept saves) (saveAll saves) workflowId ↔ ClearOfIndex saves workflowId) := by
  refine ⟨⟨?_, ?_⟩, IsMap.clear, ClearOfIndex.isMap⟩
  · intro map
    have json := fun key workflow (found : (latest saves).lookup key = some workflow) =>
      map.untypedJson found
    rw [← kept_eq_latest json] at map
    exact ⟨map.clear, json⟩
  · rintro ⟨clear, json⟩
    rw [← kept_eq_latest json]
    exact clear.isMap

section Samples

/-- A platform that lists files as they are kept and takes for a record what was dumped as one. -/
def plain : Platform where
  scan files := files.entries
  scan_perm _ := .refl _
  modelValidate file := file.payload
  modelValidate_dump _ := rfl

def sampleSave (workflowId : String) (flat : '/' ∉ workflowId.toList) : Storable where
  workflow :=
    { workflowId, originalGoal := "Ship", createdAt := .newYear, updatedAt := .newYear }
  flat := flat

/-- Two workflows, saved one after the other. -/
theorem two_workflows_kept :
    IsMap plain (latest [sampleSave "one" (by decide), sampleSave "two" (by decide)])
      (saveAll [sampleSave "one" (by decide), sampleSave "two" (by decide)])
      ⟨"two", by decide⟩ := by
  refine (local_store_is_map_iff plain _ _).1.mpr ⟨.inr ⟨by decide, ?_⟩, ?_⟩
  · intro stored member
    rcases List.mem_pair.mp member with rfl | rfl
    · decide
    · decide
  · intro key workflow found
    obtain ⟨stored, member, rfl⟩ := stored_of_latest found
    rcases List.mem_pair.mp member with rfl | rfl
    · rfl
    · rfl

/-- With one workflow saved, the index answers for a workflow that was not; and a workflow that
is saved under its name is not listed. -/
theorem index_is_taken_for_a_workflow :
    (latest [sampleSave "wf" (by decide)]).lookup "_index" = none ∧
    getWorkflow plain (saveAll [sampleSave "wf" (by decide)]) ⟨"_index", by decide⟩ =
      .error .validationError ∧
    getWorkflowStatus plain (saveAll [sampleSave "wf" (by decide)]) ⟨"_index", by decide⟩ =
      .error .validationError ∧
    (latest [sampleSave "_index" (by decide)]).keys = ["_index"] ∧
    listWorkflows plain (saveAll [sampleSave "_index" (by decide)]) = .ok [] ∧
    (¬ ∀ saves workflowId, IsMap plain (latest saves) (saveAll saves) workflowId) ∧
    ¬ ∀ saves workflowId, IsMap plain (kept saves) (saveAll saves) workflowId := by
  refine ⟨rfl, rfl, rfl, rfl, congrArg Except.ok (sortDescending_perm _ _).eq_nil, ?_, ?_⟩
  · intro always
    cases (always [sampleSave "wf" (by decide)] ⟨"_index", by decide⟩).get
  · intro always
    cases (always [sampleSave "wf" (by decide)] ⟨"_index", by decide⟩).get

end Samples

end ActionPlan.Memory.LocalStore
