import ActionPlan.Rag.Uploads

/-! # What the stores report of a document

The ingestion of a workflow's document writes the workflow before the filename. The search of
the Zilliz store takes it off again; the stores of `rag/vector_store.py` show the source as it
is stored.
-/

namespace ActionPlan.Rag

open ActionPlan.Models

section Retrieval

/-- The three classes of vector stores. -/
inductive BackEnd where
  | inMemory
  | localFile
  | zilliz
  deriving DecidableEq, Repr

/-- A vector store of one of the three classes. -/
inductive AnyStore (Embedding : Type) where
  | vectors (store : VectorStore Embedding)
  | collection (store : ZillizVectorStore Embedding)

namespace AnyStore

variable {Embedding Score : Type} [LE Score] [DecidableLE Score]
  (similarity : Embedding → Embedding → Score) (length : Embedding → Nat)
  (client : Client Embedding)

/-- The class of a store. -/
def backEnd : AnyStore Embedding → BackEnd
  | .vectors store =>
    match store.backing with
    | .inMemory => .inMemory
    | .localFile => .localFile
  | .collection _ => .zilliz

/-- What the store holds, as records. -/
def records : AnyStore Embedding → List (Record Embedding)
  | .vectors store => store.records
  | .collection store => store.entities.map Entity.toRecord

/-- `add`. A collection refuses embeddings of another length. -/
def add (record : Record Embedding) :
    AnyStore Embedding → Except Exn Unit × AnyStore Embedding
  | .vectors store =>
    (.ok (), .vectors (store.add record.content record.metadata record.embedding))
  | .collection store =>
    match store.add length record.content record.metadata record.embedding with
    | .ok after => (.ok (), .collection after)
    | .error failure => (.error failure, .collection store)

/-- The three classes as the stores of an ingestion. -/
def services (readers : Readers Embedding) : Services Embedding (AnyStore Embedding) where
  embed texts store := (readers.embed texts, store)
  add := add length
  records := records
  readPdf := readers.readPdf
  decode := readers.decode
  records_embed _ _ := rfl
  records_add record store succeeded := by
    cases store with
    | vectors store => rfl
    | collection store =>
      by_cases fits : length record.embedding = store.dimension
      · simp only [add, ZillizVectorStore.add, fits, ↓reduceIte, records, List.map_append,
          List.map_cons, List.map_nil]
        rfl
      · simp [add, ZillizVectorStore.add, fits] at succeeded
  records_raised record store failure raised := by
    cases store with
    | vectors store => cases raised
    | collection store =>
      by_cases fits : length record.embedding = store.dimension
      · simp [add, ZillizVectorStore.add, fits] at raised
      · simp [add, ZillizVectorStore.add, fits, records]

/-- What a search finds: records, each with the evidence that is made of it. -/
def retrieve (embedding : Embedding) (limit : Nat) (workflowId : Option String) :
    AnyStore Embedding → Except Exn (List (Record Embedding × Evidence))
  | .vectors store =>
    let scored := (store.candidates workflowId).map fun record =>
      (similarity embedding record.embedding, record)
    .ok (((scored.mergeSort fun first second => decide (second.1 ≤ first.1)).take limit).map
      fun entry => (entry.2, entry.2.evidence))
  | .collection store =>
    if length embedding = store.dimension then
      let rows := store.entities.filter fun entity =>
        VectorStore.isCandidate workflowId entity.toRecord
      .ok ((client.nearest embedding limit rows).map fun entity =>
        (entity.toRecord, entity.evidence workflowId))
    else .error (ZillizVectorStore.dimensionError (length embedding) store.dimension)

/-- The search of the stores of `rag/vector_store.py` gives the evidence of what is found. -/
theorem retrieve_vectors (store : VectorStore Embedding) (embedding : Embedding) (limit : Nat)
    (workflowId : Option String) :
    (retrieve similarity length client embedding limit workflowId (.vectors store)).map
        (List.map Prod.snd) =
      .ok (store.search similarity embedding limit workflowId) := by
  simp only [retrieve, VectorStore.search, Except.map, List.map_map, Function.comp_def]

/-- And so does the search of a collection. -/
theorem retrieve_collection (store : ZillizVectorStore Embedding) (embedding : Embedding)
    (limit : Nat) (workflowId : Option String) :
    (retrieve similarity length client embedding limit workflowId (.collection store)).map
        (List.map Prod.snd) =
      store.search length client embedding limit workflowId := by
  by_cases fits : length embedding = store.dimension
  · simp only [retrieve, ZillizVectorStore.search, store.selected_eq workflowId, fits, ↓reduceIte,
      Except.map, List.map_map, Function.comp_def]
  · simp only [retrieve, ZillizVectorStore.search, fits, ↓reduceIte, Except.map]

end AnyStore

/-- The evidence names the file, the page and the type that a document was ingested with. -/
def Reports (filename documentType : String) (page : Nat) (evidence : Evidence) : Prop :=
  evidence.source = some filename ∧ evidence.page = some (page : Int) ∧
    evidence.documentType = some documentType

section Reports

variable {Embedding : Type} {workflowId filename documentType : String} {page : Nat}

/-- What the ingestion writes is read back by the search of a collection. -/
theorem evidence_ofRecord_ingested (named : workflowId ≠ "") {record : Record Embedding}
    (ingested : record.metadata =
      ingestedMetadata filename documentType (some workflowId) page) :
    Reports filename documentType page ((Entity.ofRecord record).evidence (some workflowId)) := by
  have written : record.metadata.source.toList =
      (workflowId ++ "::").toList ++ filename.toList := by
    rw [ingested, ingestedMetadata, ingestedSource, truthyString_some named]
    simp only [String.toList_append]
  have count : workflowId.toList.length + 2 = (workflowId ++ "::").toList.length := by
    simp [String.toList_append]
  have starts : (workflowId ++ "::").toList.isPrefixOf
      ((workflowId ++ "::").toList ++ filename.toList) = true :=
    List.isPrefixOf_iff_prefix.mpr (List.prefix_append _ _)
  refine ⟨?_, ?_, ?_⟩
  · simp only [Entity.evidence, Entity.ofRecord, written, starts, ↓reduceIte, count,
      List.drop_left, String.ofList_toList]
  · simp only [Entity.evidence, Entity.ofRecord, ingested, ingestedMetadata]
  · simp only [Entity.evidence, Entity.ofRecord, ingested, ingestedMetadata]

/-- The other stores show the workflow before the filename. -/
theorem evidence_ingested (named : workflowId ≠ "") {record : Record Embedding}
    (ingested : record.metadata =
      ingestedMetadata filename documentType (some workflowId) page) :
    ¬Reports filename documentType page record.evidence := by
  intro reports
  have same : record.metadata.source = filename := Option.some.inj reports.1
  rw [ingested, ingestedMetadata, ingestedSource, truthyString_some named] at same
  have lengths := congrArg (fun source => source.toList.length) same
  simp [String.toList_append] at lengths
  omega

end Reports

section BackEnds

variable {Embedding Score : Type} [LE Score] [DecidableLE Score]
  (similarity : Embedding → Embedding → Score) (length : Embedding → Nat)
  (client : Client Embedding) {workflowId filename documentType : String} {page : Nat}

/-- A store of the class that holds one record. -/
def storeOf (backing : Backing) (record : Record Embedding) : VectorStore Embedding :=
  VectorStore.add { backing, persisted := VectorStore.nothing_persisted backing } record.content
    record.metadata record.embedding

/-- A search for the workflow of the record finds it there. -/
theorem retrieve_storeOf (backing : Backing) (named : workflowId ≠ "") {record : Record Embedding}
    (ingested : record.metadata =
      ingestedMetadata filename documentType (some workflowId) page) :
    AnyStore.retrieve similarity length client record.embedding 1 (some workflowId)
        (.vectors (storeOf backing record)) = .ok [(record, record.evidence)] := by
  have considered : VectorStore.isCandidate (some workflowId) record = true := by
    rw [isCandidate_iff, ingested, ingestedMetadata, ingestedSource, truthyString_some named]
    refine .inl ⟨filename.toList, ?_⟩
    simp [String.toList_append]
  have held : (storeOf backing record).candidates (some workflowId) = [record] := by
    simp only [VectorStore.candidates, storeOf, VectorStore.add, List.nil_append]
    exact List.filter_cons_of_pos considered
  simp only [AnyStore.retrieve, held, List.map_cons, List.map_nil, List.mergeSort_singleton,
    List.take_succ_cons, List.take_nil]

/-- **What is shown of a document depends on the back end.** A record that `ingest_text` has
added for a workflow is reported under its filename, page and type by every search for the
workflow if and only if the back end is the Zilliz store. -/
theorem document_reported_iff_zilliz {World : Type} (services : Services Embedding World)
    (backEnd : BackEnd) (text : String) (world : World) (kept : List (Record Embedding))
    (record : Record Embedding) (named : workflowId ≠ "")
    (grown : services.records (ingestTextWith services text filename documentType
      (some workflowId) page world).2 = services.records world ++ kept)
    (member : record ∈ kept) :
    (∀ (store : AnyStore Embedding), store.backEnd = backEnd → ∀ embedding limit found,
      store.retrieve similarity length client embedding limit (some workflowId) = .ok found →
        ∀ evidence, (record, evidence) ∈ found →
          Reports filename documentType page evidence) ↔
      backEnd = .zilliz := by
  have ingested : record.metadata =
      ingestedMetadata filename documentType (some workflowId) page := by
    obtain ⟨added, same, sourced⟩ := ingestTextWith_metadata text filename
      documentType (some workflowId) page world
    rw [grown] at same
    exact sourced record (List.append_cancel_left same ▸ member)
  constructor
  · intro reported
    have shown (backing : Backing)
        (same : (AnyStore.vectors (storeOf backing record)).backEnd = backEnd) : False :=
      evidence_ingested named ingested (reported (.vectors (storeOf backing record)) same
        record.embedding 1 _ (retrieve_storeOf similarity length client backing named ingested)
        record.evidence List.mem_cons_self)
    cases backEnd with
    | inMemory => exact (shown .inMemory rfl).elim
    | localFile => exact (shown .localFile rfl).elim
    | zilliz => rfl
  · rintro rfl store kind embedding limit found retrieved evidence member
    cases store with
    | vectors store =>
      cases backing : store.backing <;> simp [AnyStore.backEnd, backing] at kind
    | collection store =>
      by_cases fits : length embedding = store.dimension
      · simp only [AnyStore.retrieve, fits, ↓reduceIte, Except.ok.injEq] at retrieved
        rw [← retrieved] at member
        obtain ⟨entity, _, found⟩ := List.mem_map.mp member
        cases found
        exact evidence_ofRecord_ingested named ingested
      · simp only [AnyStore.retrieve, fits, ↓reduceIte, reduceCtorEq] at retrieved

end BackEnds

section Samples

/-- A client that ranks nothing. -/
def anyClient : Client Unit where
  nearest _ limit rows := rows.take limit
  nearest_subset _ limit rows := List.take_subset limit rows

/-- The record of a text of one word. -/
def notesRecord : Record Unit where
  embedding := ()
  content := "word"
  metadata := ingestedMetadata "notes.txt" "upload" (some "wf_goal_0a1b2c3d") 0

/-- An in-memory store after the ingestion of the text. -/
def notesStore : AnyStore Unit :=
  (ingestTextWith (AnyStore.services (fun _ => 0) wordReaders) "word" "notes.txt" "upload"
    (some "wf_goal_0a1b2c3d") 0 (.vectors { backing := .inMemory })).2

theorem notesStore_eq : notesStore = .vectors (storeOf .inMemory notesRecord) := by
  have chunks : chunkText "word" 512 48 = ["word"] := by
    rw [chunkText, chunksFrom]
    decide
  simp only [notesStore, ingestTextWith, chunks, AnyStore.services, wordReaders]
  rfl

theorem notes_reported_by_zilliz :
    (∀ (store : AnyStore Unit), store.backEnd = .zilliz → ∀ embedding limit found,
      store.retrieve (fun _ _ => 0) (fun _ => 0) anyClient embedding limit
          (some "wf_goal_0a1b2c3d") = .ok found →
        ∀ evidence, (notesRecord, evidence) ∈ found →
          Reports "notes.txt" "upload" 0 evidence) ↔
      BackEnd.zilliz = .zilliz := by
  have added : (AnyStore.services (fun _ => 0) wordReaders).records notesStore =
      [] ++ [notesRecord] := by
    rw [notesStore_eq]
    rfl
  exact document_reported_iff_zilliz (fun _ _ => 0) (fun _ => 0) anyClient
    (AnyStore.services (fun _ => 0) wordReaders) .zilliz "word" (.vectors { backing := .inMemory })
    [notesRecord] notesRecord (by decide) added List.mem_cons_self

/-- An in-memory store reports the document as one of the workflow's namespace. -/
theorem notes_not_reported_inMemory : ¬ ∀ found,
    notesStore.retrieve (fun _ _ => 0) (fun _ => 0) anyClient () 1 (some "wf_goal_0a1b2c3d") =
        .ok found →
      ∀ entry ∈ found, Reports "notes.txt" "upload" 0 entry.2 := by
  intro claim
  have named : "wf_goal_0a1b2c3d" ≠ "" := by decide
  have ingested : notesRecord.metadata =
      ingestedMetadata "notes.txt" "upload" (some "wf_goal_0a1b2c3d") 0 := rfl
  have found := retrieve_storeOf (fun _ _ => 0) (fun _ => 0) anyClient .inMemory named ingested
  rw [← notesStore_eq] at found
  exact evidence_ingested named ingested (claim _ found _ List.mem_cons_self)

end Samples

end Retrieval

end ActionPlan.Rag
