import ActionPlan.Agent.Locality
import ActionPlan.Api.Server
import ActionPlan.Frontend.Routes
import ActionPlan.Rag.Isolation

/-! # Projects do not affect each other

The calls of the service and the ingestion of documents over one memory store and one vector store.
A project is told, by every call that concerns it, what it would be told if the other projects did
not exist: they have no plans, no documents and no executions as far as it can see.
-/

namespace ActionPlan.Api.Isolation

open ActionPlan.Foundation ActionPlan.Models ActionPlan.Memory ActionPlan.Agent ActionPlan.Rag

section Retriever

variable {Embedding Score : Type} [LE Score] [DecidableLE Score]

/-- An embeddings provider; not every class of them has a method for queries. -/
structure Embedder (Embedding : Type) where
  readers : Readers Embedding
  embedQuery : Option (String → Except Exn Embedding) := none

/-- The embedding of a query, by its own method or as the first of one document. -/
def Embedder.query (embedder : Embedder Embedding) (query : String) : Except Exn Embedding :=
  match embedder.embedQuery with
  | some embedQuery => embedQuery query
  | none =>
    match embedder.readers.embed [query] with
    | .error failure => .error failure
    | .ok (embedding :: _) => .ok embedding
    | .ok [] => .error (.upstream "list index out of range")

/-- `VectorRetriever.retrieve`. -/
def retrieve (embedder : Embedder Embedding) (similarity : Embedding → Embedding → Score)
    (store : VectorStore Embedding) : Retriever := fun query limit workflowId =>
  (embedder.query query).map fun embedding => store.search similarity embedding limit workflowId

theorem agreeOn_retrieve (embedder : Embedder Embedding)
    (similarity : Embedding → Embedding → Score) {workflowId : String}
    {first second : VectorStore Embedding} (alike : Alike workflowId first second) :
    AgreeOn workflowId (retrieve embedder similarity first)
      (retrieve embedder similarity second) := by
  intro query limit
  unfold retrieve
  cases embedder.query query with
  | error failure => rfl
  | ok embedding => exact congrArg Except.ok (alike.search similarity embedding limit)

end Retriever

section Ids

variable {classes : Frontend.CharacterClasses} {workflowId : String}

/-- The service can have generated the id. -/
def HasGenerated (classes : Frontend.CharacterClasses) (workflowId : String) : Prop :=
  Frontend.Generated classes workflowId.toList

/-- No generated id holds a colon. -/
theorem HasGenerated.separable (generated : HasGenerated classes workflowId) :
    Separable workflowId :=
  (generated_of_generator generated).separable

end Ids

/-- What one run of the graph draws and is answered. -/
structure Drawn where
  llm : LLMProvider
  clock : Clock
  workerId : String
  claimedAt : DateTime

/-- A call of the service, on a new id or on one that the caller gives. -/
inductive ServiceCall (classes : Frontend.CharacterClasses) where
  | create (creation : Creation) (payload : WorkRequestInput)
    (generated : HasGenerated classes creation.workflowId)
  | createSync (creation : Creation) (payload : WorkRequestInput)
    (generated : HasGenerated classes creation.workflowId) (drawn : Drawn)
  | executeQueued (workflowId : String) (drawn : Drawn)
  | executeInBackground (workflowId : String) (payload : WorkRequestInput) (drawn : Drawn)
  | rebuild (workflowId : String) (drawn : Drawn)
  | resume (workflowId : String) (completedTaskIds : List String) (drawn : Drawn)
  | get (workflowId : String)

/-- What a call or a request is told. -/
inductive Reply where
  | created (outcome : Except Exn (WorkflowState × JsonText))
  | workflow (outcome : Except Exn WorkflowState)
  | found (outcome : Except Exn (Option WorkflowState))
  | ingested (outcome : Except Exn Nat)
  | nothing

section Calls

variable {classes : Frontend.CharacterClasses}

/-- The workflow that a call concerns. -/
def ServiceCall.workflowId : ServiceCall classes → String
  | create creation _ _ | createSync creation _ _ _ => creation.workflowId
  | executeQueued workflowId _ | executeInBackground workflowId _ _ | rebuild workflowId _
  | resume workflowId _ _ | get workflowId => workflowId

/-- The services of a run. -/
def Drawn.services (drawn : Drawn) (retriever : Retriever) : Services where
  llm := drawn.llm
  retriever
  clock := drawn.clock

/-- An operation on a record that is there. -/
def onFound (workflowId : String)
    (operation : WorkflowState → MemoryStore → Except Exn WorkflowState × MemoryStore)
    (store : MemoryStore) : Reply × MemoryStore :=
  match store.getWorkflow workflowId with
  | none => (.workflow (.error (workflowNotFound workflowId)), store)
  | some workflow => (operation workflow store).map .workflow id

/-- The calls, on the memory store. -/
def ServiceCall.perform (retriever : Retriever) :
    ServiceCall classes → MemoryStore → Reply × MemoryStore
  | create creation payload _, store => (createWorkflow creation payload store).map .created id
  | createSync creation payload _ drawn, store =>
    (createWorkflowSync (drawn.services retriever) creation drawn.workerId drawn.claimedAt payload
      store).map .workflow id
  | executeQueued workflowId drawn, store =>
    (executeQueuedWorkflow (drawn.services retriever) workflowId drawn.workerId drawn.claimedAt
      store).map .found id
  | executeInBackground workflowId payload drawn, store =>
    (.nothing, Agent.executeInBackground (drawn.services retriever) workflowId drawn.workerId
      drawn.claimedAt payload store)
  | rebuild workflowId drawn, store =>
    onFound workflowId (rebuildWorkflow (drawn.services retriever)) store
  | resume workflowId completedTaskIds drawn, store =>
    onFound workflowId (fun workflow =>
      continueWorkflow (drawn.services retriever) workflow completedTaskIds) store
  | get workflowId, store => (.found (.ok (store.getWorkflow workflowId)), store)

variable {workflowId : String} {first second : Retriever}

theorem onFound_congr {kind : String → Prop}
    {operation other : WorkflowState → MemoryStore → Except Exn WorkflowState × MemoryStore}
    {store : MemoryStore} (held : Holds kind store)
    (same : ∀ workflow, workflow.workflowId = workflowId →
      operation workflow store = other workflow store) :
    onFound workflowId operation store = onFound workflowId other store := by
  unfold onFound
  cases found : store.getWorkflow workflowId with
  | none => rfl
  | some workflow =>
    exact congrArg (Prod.map Reply.workflow id) (same workflow (held workflowId workflow found).1)

/-- A call depends on the searches for its own workflow only. -/
theorem perform_congr (call : ServiceCall classes) (agree : AgreeOn call.workflowId first second)
    (nonempty : call.workflowId ≠ "") {kind : String → Prop} {store : MemoryStore}
    (held : Holds kind store) : call.perform first store = call.perform second store := by
  cases call with
  | create creation payload generated => rfl
  | createSync creation payload generated drawn =>
    exact congrArg (Prod.map _ _) (executeWorkflowSync_congr agree nonempty _ _ payload _)
  | executeQueued workflowId drawn =>
    exact congrArg (Prod.map _ _) (executeQueuedWorkflow_congr agree nonempty _ _ store)
  | executeInBackground workflowId payload drawn =>
    exact congrArg (Prod.mk _) (executeInBackground_congr agree nonempty _ _ payload store)
  | rebuild workflowId drawn =>
    exact onFound_congr held fun workflow named => rebuildWorkflow_congr agree nonempty named store
  | resume workflowId completedTaskIds drawn =>
    exact onFound_congr held fun workflow named =>
      continueWorkflow_congr agree nonempty named completedTaskIds store
  | get workflowId => rfl

/-- The same with the answer in another form. -/
theorem confined_map {kind : String → Prop} {Answer : Type}
    {operation : MemoryStore → Answer × MemoryStore}
    (confined : Confined (Holds kind) entry workflowId operation) (reply : Answer → Reply) :
    Confined (Holds kind) entry workflowId fun store => (operation store).map reply id :=
  confined.bind (fun answer store => (reply answer, store)) fun answer _ =>
    confined_answer (reply answer)

theorem confined_onFound {kind : String → Prop}
    {operation : WorkflowState → MemoryStore → Except Exn WorkflowState × MemoryStore}
    (confined : ∀ workflow, workflow.workflowId = workflowId → kind workflowId →
      Confined (Holds kind) entry workflowId (operation workflow)) :
    Confined (Holds kind) entry workflowId (onFound workflowId operation) := by
  refine (confined_get.bind (fun found store =>
    match found with
    | none => (.workflow (.error (workflowNotFound workflowId)), store)
    | some workflow => (operation workflow store).map Reply.workflow id)
    fun found answers => ?_).congr fun store => rfl
  cases found with
  | none => exact confined_answer _
  | some workflow =>
    obtain ⟨named, kept⟩ := found_of_answers answers
    exact confined_map (confined workflow named kept) .workflow

/-- **A call concerns one workflow.** -/
theorem confined_perform (retriever : Retriever) (call : ServiceCall classes) :
    Confined (Holds (HasGenerated classes)) entry call.workflowId (call.perform retriever) := by
  cases call with
  | create creation payload generated =>
    exact confined_map (confined_save _ generated rfl) .created
  | createSync creation payload generated drawn =>
    have saved : Confined (Holds (HasGenerated classes)) entry creation.workflowId
        fun store : MemoryStore => ((), store.saveWorkflow (queuedWorkflow creation payload)) :=
      confined_save () generated rfl
    exact confined_map (saved.bind _ fun _ _ =>
      confined_executeWorkflowSync (drawn.services retriever) _ _ payload) .workflow
  | executeQueued workflowId drawn =>
    exact confined_map (confined_executeQueuedWorkflow (drawn.services retriever) _ _) .found
  | executeInBackground workflowId payload drawn =>
    exact (confined_executeInBackground (drawn.services retriever) _ _ payload).bind
      (fun _ store => (Reply.nothing, store)) fun _ _ => confined_answer _
  | rebuild workflowId drawn =>
    exact confined_onFound fun workflow named kept =>
      confined_rebuildWorkflow (drawn.services retriever) kept named
  | resume workflowId completedTaskIds drawn =>
    exact confined_onFound fun workflow named kept =>
      confined_continueWorkflow (drawn.services retriever) kept named completedTaskIds
  | get workflowId =>
    exact confined_get.bind (fun found store => (Reply.found (.ok found), store)) fun _ _ =>
      confined_answer _

end Calls

section System

variable {classes : Frontend.CharacterClasses} {Embedding Score : Type} [LE Score]
  [DecidableLE Score] (embedder : Embedder Embedding) (similarity : Embedding → Embedding → Score)

/-- The two stores of the service. -/
structure Installation (Embedding : Type) where
  documents : VectorStore Embedding
  memory : MemoryStore

/-- Something that happens to an installation. -/
inductive Request (classes : Frontend.CharacterClasses) where
  | call (call : ServiceCall classes)
  | ingest (upload : Upload)
  | restart

namespace Installation

variable (installation : Installation Embedding)

/-- `ingest_document_route`. -/
def ingest (upload : Upload) : Reply × Installation Embedding :=
  match truthyString upload.workflowId with
  | none =>
    let ingested := ingestUpload embedder.readers upload installation.documents
    (.ingested ingested.1, { installation with documents := ingested.2 })
  | some workflowId =>
    match installation.memory.getWorkflow workflowId with
    | none => (.ingested (.error (workflowNotFound workflowId)), installation)
    | some workflow =>
      match ingestUpload embedder.readers upload installation.documents with
      | (.error failure, documents) =>
        (.ingested (.error failure), { installation with documents })
      | (.ok chunks, documents) =>
        match withDocument upload.filename workflow with
        | .error failure => (.ingested (.error failure), { installation with documents })
        | .ok saved =>
          (.ingested (.ok chunks),
            { documents, memory := installation.memory.saveWorkflow saved })

/-- What is told, and the installation afterwards. -/
def handle : Request classes → Reply × Installation Embedding
  | .call call =>
    let performed :=
      call.perform (retrieve embedder similarity installation.documents) installation.memory
    (performed.1, { installation with memory := performed.2 })
  | .ingest upload => installation.ingest embedder upload
  | .restart => (.nothing, { installation with documents := installation.documents.restart })

/-- Nothing is stored. -/
def empty (backing : Backing) (backend : Backend) : Installation Embedding where
  documents := { backing, persisted := VectorStore.nothing_persisted backing }
  memory := { backend }

end Installation

/-- What a project can notice: its own calls and uploads, the uploads for the organisation, and, if
the documents are kept in memory, the restarts. -/
def concerns (backing : Backing) (workflowId : String) : Request classes → Bool
  | .call call => call.workflowId = workflowId
  | .ingest upload => (truthyString upload.workflowId).all (· = workflowId)
  | .restart => backing = .inMemory

/-- Two installations that a project cannot tell apart. -/
structure Indistinguishable (workflowId : String) (first second : Installation Embedding) :
    Prop where
  documents : Alike workflowId first.documents second.documents
  memory : entry workflowId first.memory = entry workflowId second.memory

/-- The records have generated ids, and the documents are kept in the way that was configured. -/
structure Sound (classes : Frontend.CharacterClasses) (backing : Backing)
    (installation : Installation Embedding) : Prop where
  holds : Holds (HasGenerated classes) installation.memory
  backing : installation.documents.backing = backing

variable {embedder} {similarity} {backing : Backing} {workflowId : String}
  {first second : Installation Embedding}

theorem withDocument_workflowId {filename : String} {workflow saved : WorkflowState}
    (success : withDocument filename workflow = .ok saved) :
    saved.workflowId = workflow.workflowId := by
  obtain ⟨names, -, rfl⟩ := withDocument_ok success
  rfl

/-- What an ingestion for a workflow does to a memory store that has the workflow. -/
theorem confined_saved {filename : String} {workflow saved : WorkflowState}
    (success : withDocument filename workflow = .ok saved)
    (named : workflow.workflowId = workflowId) (generated : HasGenerated classes workflowId) :
    Confined (Holds (HasGenerated classes)) entry workflowId fun store : MemoryStore =>
      ((), store.saveWorkflow saved) :=
  confined_save () generated ((withDocument_workflowId success).trans named)

theorem Sound.ingest (sound : Sound classes backing first) (upload : Upload) :
    Sound classes backing (first.ingest embedder upload).2 := by
  have kept := backing_ingestUpload embedder.readers upload first.documents
  unfold Installation.ingest
  cases truthyString upload.workflowId with
  | none => exact ⟨sound.holds, kept.trans sound.backing⟩
  | some owner =>
    dsimp only
    cases found : first.memory.getWorkflow owner with
    | none => exact sound
    | some workflow =>
      dsimp only
      cases ingested : ingestUpload embedder.readers upload first.documents with
      | mk outcome documents =>
        rw [ingested] at kept
        cases outcome with
        | error failure => exact ⟨sound.holds, kept.trans sound.backing⟩
        | ok chunks =>
          dsimp only
          cases recorded : withDocument upload.filename workflow with
          | error failure => exact ⟨sound.holds, kept.trans sound.backing⟩
          | ok saved =>
            obtain ⟨named, generated⟩ := sound.holds owner workflow found
            exact ⟨(confined_saved recorded named generated).kept _ sound.holds,
              kept.trans sound.backing⟩

theorem Sound.handle (sound : Sound classes backing first) (request : Request classes) :
    Sound classes backing (first.handle embedder similarity request).2 := by
  cases request with
  | call call =>
    exact ⟨(confined_perform _ call).kept first.memory sound.holds, sound.backing⟩
  | ingest upload => exact sound.ingest upload
  | restart => exact ⟨sound.holds, sound.backing⟩

/-- An upload that the project can notice. -/
theorem Indistinguishable.ingest (same : Indistinguishable workflowId first second)
    (sound : Sound classes backing first) (sound' : Sound classes backing second) (upload : Upload)
    (relevant : (truthyString upload.workflowId).all (· = workflowId) = true) :
    (first.ingest embedder upload).1 = (second.ingest embedder upload).1 ∧
      Indistinguishable workflowId (first.ingest embedder upload).2
        (second.ingest embedder upload).2 := by
  obtain ⟨told, alike⟩ := same.documents.upload embedder.readers upload
  unfold Installation.ingest
  cases owned : truthyString upload.workflowId with
  | none => exact ⟨congrArg Reply.ingested told, alike, same.memory⟩
  | some owner =>
    rw [owned] at relevant
    obtain rfl : owner = workflowId := of_decide_eq_true relevant
    dsimp only
    rw [getWorkflow_of_entry same.memory]
    cases found : second.memory.getWorkflow owner with
    | none => exact ⟨rfl, same⟩
    | some workflow =>
      dsimp only
      cases ingested : ingestUpload embedder.readers upload first.documents with
      | mk outcome documents =>
        cases ingested' : ingestUpload embedder.readers upload second.documents with
        | mk outcome' documents' =>
          rw [ingested, ingested'] at told alike
          dsimp only at told alike
          subst told
          cases outcome with
          | error failure => exact ⟨rfl, alike, same.memory⟩
          | ok chunks =>
            dsimp only
            cases recorded : withDocument upload.filename workflow with
            | error failure => exact ⟨rfl, alike, same.memory⟩
            | ok saved =>
              obtain ⟨named, generated⟩ := sound'.holds owner workflow found
              exact ⟨rfl, alike, ((confined_saved recorded named generated).same _ _ sound.holds
                sound'.holds same.memory).2⟩

/-- An upload for another project. -/
theorem Indistinguishable.ingest_foreign (same : Indistinguishable workflowId first second)
    (sound : Sound classes backing first) (searching : Separable workflowId) (upload : Upload)
    (irrelevant : (truthyString upload.workflowId).all (· = workflowId) = false) :
    Indistinguishable workflowId (first.ingest embedder upload).2 second := by
  unfold Installation.ingest
  cases owned : truthyString upload.workflowId with
  | none =>
    rw [owned] at irrelevant
    cases irrelevant
  | some owner =>
    rw [owned] at irrelevant
    have other : owner ≠ workflowId := of_decide_eq_false irrelevant
    dsimp only
    cases found : first.memory.getWorkflow owner with
    | none => exact same
    | some workflow =>
      obtain ⟨named, generated⟩ := sound.holds owner workflow found
      have alike := same.documents.foreign embedder.readers searching
        (eq_some_of_truthyString owned) generated.separable other
      dsimp only
      cases ingested : ingestUpload embedder.readers upload first.documents with
      | mk outcome documents =>
        rw [ingested] at alike
        cases outcome with
        | error failure => exact ⟨alike, same.memory⟩
        | ok chunks =>
          dsimp only
          cases recorded : withDocument upload.filename workflow with
          | error failure => exact ⟨alike, same.memory⟩
          | ok saved =>
            exact ⟨alike, ((confined_saved recorded named generated).others _ sound.holds
              workflowId other.symm).trans same.memory⟩

variable (embedder similarity backing) in
/-- The conditions under which a project is on its own. -/
theorem unwinding (searching : Separable workflowId) :
    Unwinding (Installation.handle embedder similarity)
      (concerns backing workflowId : Request classes → Bool) (Sound classes backing)
      (Indistinguishable workflowId) where
  kept _ request sound := sound.handle request
  both first second request relevant sound sound' same := by
    cases request with
    | call call =>
      obtain rfl : call.workflowId = workflowId := of_decide_eq_true relevant
      have agree := agreeOn_retrieve embedder similarity same.documents
      obtain ⟨told, after⟩ :=
        (confined_perform (retrieve embedder similarity first.documents) call).same _ _
          sound.holds sound'.holds same.memory
      rw [perform_congr call agree searching.1 sound'.holds] at told after
      exact ⟨told, same.documents, after⟩
    | ingest upload => exact same.ingest sound sound' upload relevant
    | restart =>
      have inMemory : backing = .inMemory := of_decide_eq_true relevant
      exact ⟨rfl, same.documents.restart (sound.backing.trans inMemory), same.memory⟩
  alone first second request irrelevant sound same := by
    cases request with
    | call call =>
      have other : call.workflowId ≠ workflowId := of_decide_eq_false irrelevant
      exact ⟨same.documents, ((confined_perform _ call).others _ sound.holds workflowId
        other.symm).trans same.memory⟩
    | ingest upload => exact same.ingest_foreign sound searching upload irrelevant
    | restart =>
      have persistent : backing ≠ .inMemory := of_decide_eq_false irrelevant
      exact ⟨same.documents.reload (sound.backing.symm ▸ persistent), same.memory⟩

/-- **Projects are isolated.** In any sequence of calls, executions, uploads and restarts, the
answers to the requests that concern a project are those of an installation in which nothing else
ever happened: no other project has been created, executed, continued or refreshed, and no document
has been uploaded for one. -/
theorem projects_isolated (embedder : Embedder Embedding)
    (similarity : Embedding → Embedding → Score) (backing : Backing) (backend : Backend)
    (searching : Separable workflowId) (requests : List (Request classes)) :
    visibleAnswers (Installation.handle embedder similarity) (concerns backing workflowId)
        (.empty backing backend) requests =
      visibleAnswers (Installation.handle embedder similarity) (concerns backing workflowId)
        (.empty backing backend) (requests.filter (concerns backing workflowId)) := by
  have sound :
      Sound classes backing (Installation.empty backing backend : Installation Embedding) :=
    ⟨holds_empty backend, rfl⟩
  exact (unwinding embedder similarity backing searching).visibleAnswers_filter requests sound sound
    ⟨⟨rfl, rfl⟩, rfl⟩

end System

section Samples

/-- Every text has the one embedding that there is. -/
def wordEmbedder : Embedder Unit where
  readers := wordReaders

def creationOf (workflowId : String) : Creation where
  workflowId
  createdAt := .newYear
  updatedAt := .newYear

/-- A new project. -/
def launch : Request Frontend.latin1 :=
  .call (.create (creationOf "wf_plan-launch_0a1b2c3d") sampleInput
    ⟨"Plan launch".toList, Frontend.sampleToken, by decide +kernel⟩)

/-- Another one, with a document. -/
def otherLaunch : Request Frontend.latin1 :=
  .call (.create (creationOf "wf_goal_0a1b2c3d") sampleInput
    ⟨[], Frontend.sampleToken, by decide +kernel⟩)

def otherUpload : Request Frontend.latin1 :=
  .ingest { filename := "notes.txt", fileBytes := [], workflowId := some "wf_goal_0a1b2c3d" }

theorem other_launch_unnoticed :
    visibleAnswers (Installation.handle wordEmbedder fun _ _ => 0)
        (concerns .localFile "wf_plan-launch_0a1b2c3d") (.empty .localFile .localStore)
        [launch, otherLaunch, otherUpload, .restart, .call (.get "wf_plan-launch_0a1b2c3d")] =
      visibleAnswers (Installation.handle wordEmbedder fun _ _ => 0)
        (concerns .localFile "wf_plan-launch_0a1b2c3d") (.empty .localFile .localStore)
        [launch, .call (.get "wf_plan-launch_0a1b2c3d")] := by
  have searching : Separable "wf_plan-launch_0a1b2c3d" := ⟨by decide, by decide⟩
  exact projects_isolated wordEmbedder (fun _ _ => 0) .localFile .localStore searching
    [launch, otherLaunch, otherUpload, .restart, .call (.get "wf_plan-launch_0a1b2c3d")]

end Samples

end ActionPlan.Api.Isolation
