import ActionPlan.Models.Plan
import Mathlib.Data.List.DropRight
import Mathlib.Data.List.Infix

/-! # Ingestion and search of documents

`rag/ingestion.py`, `rag/documents.py` and the two stores of `rag/vector_store.py`. The
embeddings, the reader of PDF files and the decoding of bytes are parameters, and so is
the similarity of two embeddings.
-/

namespace ActionPlan.Rag

open ActionPlan.Models

section Text

/-- `char.isspace()`. -/
def isSpace (char : Char) : Bool :=
  let code := char.toNat
  (9 ≤ code && code ≤ 13) || (28 ≤ code && code ≤ 32) ||
    [0x85, 0xA0, 0x1680, 0x2028, 0x2029, 0x202F, 0x205F, 0x3000].contains code ||
    (0x2000 ≤ code && code ≤ 0x200A)

/-- `text.strip()`, as the list of its characters. -/
def strip (text : String) : List Char := (text.toList.dropWhile isSpace).rdropWhile isSpace

/-- The loop of `chunk_text` from `start` on. -/
def chunksFrom (text : List Char) (chunkSize overlap start : Nat) : List String :=
  if start < text.length then
    let stop := start + chunkSize
    String.ofList ((text.drop start).take chunkSize) ::
      if text.length ≤ stop then []
      else chunksFrom text chunkSize overlap (max (stop - overlap) (start + 1))
  else []
termination_by text.length - start
decreasing_by omega

/-- `chunk_text`. -/
def chunkText (text : String) (chunkSize overlap : Nat) : List String :=
  chunksFrom (strip text) chunkSize overlap 0

end Text

section Stores

/-- Where a chunk comes from. -/
structure Metadata where
  source : String
  page : Nat
  documentType : String
  deriving DecidableEq, Repr

/-- A stored chunk with its embedding. -/
structure Record (Embedding : Type) where
  embedding : Embedding
  content : String
  metadata : Metadata
  deriving DecidableEq, Repr

/-- `Evidence(content=.., **metadata)`. -/
def Record.evidence {Embedding : Type} (record : Record Embedding) : Evidence where
  content := record.content
  source := some record.metadata.source
  page := some record.metadata.page
  documentType := some record.metadata.documentType

/-- The classes of stores: `InMemoryVectorStore` and `LocalVectorStore`. -/
inductive Backing where
  | inMemory
  | localFile
  deriving DecidableEq, Repr

/-- A store. The file of a local one holds its records. -/
structure VectorStore (Embedding : Type) where
  backing : Backing
  records : List (Record Embedding) := []
  file : List (Record Embedding) := []
  persisted : backing = .localFile → file = records := by simp

namespace VectorStore

variable {Embedding : Type} (store : VectorStore Embedding)

/-- The file of a new store is empty like the store. -/
theorem nothing_persisted (backing : Backing) :
    backing = .localFile → ([] : List (Record Embedding)) = [] :=
  fun _ => rfl

/-- `add`, which a local store persists. -/
def add (content : String) (metadata : Metadata) (embedding : Embedding) :
    VectorStore Embedding where
  backing := store.backing
  records := store.records ++ [{ embedding, content, metadata }]
  file :=
    match store.backing with
    | .inMemory => store.file
    | .localFile => store.records ++ [{ embedding, content, metadata }]
  persisted := fun persistent => by rw [persistent]

/-- The store of a process that starts again. -/
def restart : VectorStore Embedding where
  backing := store.backing
  records :=
    match store.backing with
    | .inMemory => []
    | .localFile => store.file
  file := store.file
  persisted := fun persistent => by rw [persistent]

theorem records_restart_inMemory {store : VectorStore Embedding}
    (kind : store.backing = .inMemory) : store.restart.records = [] := by
  simp only [restart, kind]

/-- A local store is loaded as it was. -/
theorem records_restart_localFile {store : VectorStore Embedding}
    (kind : store.backing = .localFile) : store.restart.records = store.records := by
  simp only [restart, kind]
  exact store.persisted kind

/-- Whether a record is scored in a search for a workflow. -/
def isCandidate (workflowId : Option String) (record : Record Embedding) : Bool :=
  match workflowId with
  | none => true
  | some workflowId =>
    (workflowId ++ "::").toList.isPrefixOf record.metadata.source.toList ||
      !decide ("::".toList <:+: record.metadata.source.toList)

/-- The records that `search` scores. -/
def candidates (workflowId : Option String) : List (Record Embedding) :=
  store.records.filter (isCandidate workflowId)

/-- `search`: the best candidates, the first ones of equals first. -/
def search {Score : Type} [LE Score] [DecidableLE Score]
    (similarity : Embedding → Embedding → Score) (embedding : Embedding) (limit : Nat)
    (workflowId : Option String) : List Evidence :=
  let scored := (store.candidates workflowId).map fun record =>
    (similarity embedding record.embedding, record)
  ((scored.mergeSort fun first second => decide (second.1 ≤ first.1)).take limit).map
    fun entry => entry.2.evidence

/-- What a search finds are candidates. -/
theorem exists_candidate_of_mem_search {Score : Type} [LE Score] [DecidableLE Score]
    {similarity : Embedding → Embedding → Score} {embedding : Embedding} {limit : Nat}
    {workflowId : Option String} {evidence : Evidence}
    (found : evidence ∈ store.search similarity embedding limit workflowId) :
    ∃ record ∈ store.candidates workflowId, record.evidence = evidence := by
  obtain ⟨entry, best, rfl⟩ := List.mem_map.mp found
  have scored := List.mem_mergeSort.mp (List.mem_of_mem_take best)
  obtain ⟨record, candidate, rfl⟩ := List.mem_map.mp scored
  exact ⟨record, candidate, rfl⟩

end VectorStore

end Stores

section Uploads

/-- The services of the ingestion. `readPdf` gives the texts of the pages, or nothing for a
file that cannot be read, and `decode` leaves out what is no UTF-8. -/
structure Readers (Embedding : Type) where
  embed : List String → Except Exn (List Embedding)
  readPdf : List UInt8 → Option (List String)
  decode : List UInt8 → String

/-- An uploaded file. -/
structure Upload where
  filename : String
  fileBytes : List UInt8
  workflowId : Option String := none
  deriving DecidableEq, Repr

variable {Embedding : Type} (readers : Readers Embedding)

/-- `f"{workflow_id}::{source}" if workflow_id else source`. -/
def ingestedSource (source : String) (workflowId : Option String) : String :=
  match truthyString workflowId with
  | some workflowId => workflowId ++ "::" ++ source
  | none => source

/-- The loop of `ingest_text`. -/
def addChunks (metadata : Metadata) (store : VectorStore Embedding)
    (chunks : List (String × Embedding)) : VectorStore Embedding :=
  chunks.foldl (fun store chunk => store.add chunk.1 metadata chunk.2) store

/-- `ingest_text`, with the default sizes. -/
def ingestText (text source documentType : String) (workflowId : Option String)
    (page : Nat) (store : VectorStore Embedding) : Except Exn Nat × VectorStore Embedding :=
  let chunks := chunkText text 512 48
  match readers.embed chunks with
  | .error failure => (.error failure, store)
  | .ok vectors =>
    (.ok chunks.length, addChunks
      { source := ingestedSource source workflowId, page, documentType } store
      (chunks.zip vectors))

/-- The sum over the pages of a PDF file. -/
def ingestPages (upload : Upload) : List (String × Nat) → VectorStore Embedding →
    Except Exn Nat × VectorStore Embedding
  | [], store => (.ok 0, store)
  | (text, page) :: pages, store =>
    if strip text = [] then ingestPages upload pages store
    else
      match ingestText readers text upload.filename "upload" upload.workflowId page store with
      | (.error failure, store) => (.error failure, store)
      | (.ok count, store) =>
        let rest := ingestPages upload pages store
        (rest.1.map (count + ·), rest.2)

/-- `filename.lower().endswith(".pdf")`. -/
def isPdf (filename : String) : Bool :=
  ".pdf".toList.isSuffixOf (filename.toList.map Char.toLower)

/-- `ingest_upload`: the number of chunks. -/
def ingestUpload (upload : Upload) (store : VectorStore Embedding) :
    Except Exn Nat × VectorStore Embedding :=
  if isPdf upload.filename then
    match readers.readPdf upload.fileBytes with
    | none => (.error (.httpException 400 "Could not read this PDF."), store)
    | some pages =>
      match ingestPages readers upload (pages.zipIdx 1) store with
      | (.error failure, store) => (.error failure, store)
      | (.ok count, store) =>
        if count = 0 then
          (.error (.httpException 400 "This PDF has no extractable text."), store)
        else (.ok count, store)
  else
    let content := readers.decode upload.fileBytes
    if strip content = [] then
      (.error (.httpException 400 "File is empty or has no extractable text."), store)
    else ingestText readers content upload.filename "upload" upload.workflowId 0 store

end Uploads

end ActionPlan.Rag
