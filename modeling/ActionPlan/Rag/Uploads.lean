import ActionPlan.Rag.Zilliz

/-! # Uploads with services that fail

`ingest_upload` of `rag/documents.py` where an embeddings provider and a vector store may raise
in any call. Records are stored one by one and stay when a later call raises.
-/

namespace ActionPlan.Rag

open ActionPlan.Models

section Services

/-- The services of an ingestion in a world that their calls change. Only `add` changes what a
vector store holds: it appends a record when it succeeds, and it has either appended the
record or changed nothing when it raises. -/
structure Services (Embedding World : Type) where
  embed : List String → World → Except Exn (List Embedding) × World
  add : Record Embedding → World → Except Exn Unit × World
  records : World → List (Record Embedding)
  readPdf : List UInt8 → Option (List String)
  decode : List UInt8 → String
  records_embed : ∀ texts world, records (embed texts world).2 = records world
  records_add : ∀ record world, (add record world).1 = .ok () →
    records (add record world).2 = records world ++ [record]
  records_raised : ∀ record world failure, (add record world).1 = .error failure →
    records (add record world).2 = records world ∨
      records (add record world).2 = records world ++ [record]

/-- The metadata that `ingest_text` gives the chunks of a document. -/
def ingestedMetadata (filename documentType : String) (workflowId : Option String) (page : Nat) :
    Metadata where
  source := ingestedSource filename workflowId
  page := page
  documentType := documentType

variable {Embedding World : Type} (services : Services Embedding World)

/-- The calls of `store.add`, up to the first that raises. -/
def addAll : List (Record Embedding) → World → Except Exn Unit × World
  | [], world => (.ok (), world)
  | record :: records, world =>
    match services.add record world with
    | (.error failure, world) => (.error failure, world)
    | (.ok (), world) => addAll records world

/-- `ingest_text`: the number of chunks, of which those with a vector are stored. -/
def ingestTextWith (text source documentType : String) (workflowId : Option String)
    (page : Nat) (world : World) : Except Exn Nat × World :=
  let chunks := chunkText text 512 48
  match services.embed chunks world with
  | (.error failure, world) => (.error failure, world)
  | (.ok vectors, world) =>
    let records := (chunks.zip vectors).map fun (chunk, vector) =>
      { embedding := vector, content := chunk,
        metadata := ingestedMetadata source documentType workflowId page }
    match addAll services records world with
    | (.error failure, world) => (.error failure, world)
    | (.ok (), world) => (.ok chunks.length, world)

/-- The sum over the pages of a PDF file. -/
def ingestPagesWith (upload : Upload) : List (String × Nat) → World → Except Exn Nat × World
  | [], world => (.ok 0, world)
  | (text, page) :: pages, world =>
    if strip text = [] then ingestPagesWith upload pages world
    else
      match ingestTextWith services text upload.filename "upload" upload.workflowId page world with
      | (.error failure, world) => (.error failure, world)
      | (.ok count, world) =>
        let rest := ingestPagesWith upload pages world
        (rest.1.map (count + ·), rest.2)

/-- `ingest_upload`: the number of chunks. -/
def ingestUploadWith (upload : Upload) (world : World) : Except Exn Nat × World :=
  if isPdf upload.filename then
    match services.readPdf upload.fileBytes with
    | none => (.error (.httpException 400 "Could not read this PDF."), world)
    | some pages =>
      match ingestPagesWith services upload (pages.zipIdx 1) world with
      | (.error failure, world) => (.error failure, world)
      | (.ok count, world) =>
        if count = 0 then
          (.error (.httpException 400 "This PDF has no extractable text."), world)
        else (.ok count, world)
  else
    let content := services.decode upload.fileBytes
    if strip content = [] then
      (.error (.httpException 400 "File is empty or has no extractable text."), world)
    else ingestTextWith services content upload.filename "upload" upload.workflowId 0 world

end Services

section Faultless

variable {Embedding : Type} (readers : Readers Embedding)

/-- The services of a store that never raises. -/
def Readers.services : Services Embedding (VectorStore Embedding) where
  embed texts store := (readers.embed texts, store)
  add record store := (.ok (), store.add record.content record.metadata record.embedding)
  records := VectorStore.records
  readPdf := readers.readPdf
  decode := readers.decode
  records_embed _ _ := rfl
  records_add _ _ _ := rfl
  records_raised _ _ _ raised := by cases raised

theorem addAll_services (metadata : Metadata) (chunks : List (String × Embedding)) :
    ∀ store, addAll readers.services
        (chunks.map fun (chunk, vector) =>
          { embedding := vector, content := chunk, metadata := metadata }) store =
      (.ok (), addChunks metadata store chunks) := by
  induction chunks with
  | nil =>
    intro store
    rfl
  | cons chunk chunks ih =>
    intro store
    exact ih _

theorem ingestTextWith_services (text source documentType : String)
    (workflowId : Option String) (page : Nat) (store : VectorStore Embedding) :
    ingestTextWith readers.services text source documentType workflowId page store =
      ingestText readers text source documentType workflowId page store := by
  have embedded (texts : List String) :
      readers.services.embed texts store = (readers.embed texts, store) := rfl
  unfold ingestTextWith ingestText
  dsimp only
  rw [embedded]
  cases readers.embed (chunkText text 512 48) with
  | error failure => rfl
  | ok vectors =>
    dsimp only
    rw [addAll_services]
    rfl

theorem ingestPagesWith_services (upload : Upload) (pages : List (String × Nat)) :
    ∀ store, ingestPagesWith readers.services upload pages store =
      ingestPages readers upload pages store := by
  induction pages with
  | nil =>
    intro store
    rfl
  | cons entry pages ih =>
    intro store
    obtain ⟨text, page⟩ := entry
    simp only [ingestPagesWith, ingestPages, ingestTextWith_services, ih]
    by_cases blank : strip text = []
    · simp only [blank, ↓reduceIte]
    · simp only [blank, ↓reduceIte]
      cases ingestText readers text upload.filename "upload" upload.workflowId page store with
      | mk result after => cases result <;> rfl

/-- With services that never raise in a store, this is the ingestion of `Rag.Ingestion`. -/
theorem ingestUploadWith_services (upload : Upload) (store : VectorStore Embedding) :
    ingestUploadWith readers.services upload store = ingestUpload readers upload store := by
  have read : readers.services.readPdf = readers.readPdf := rfl
  have decoded : readers.services.decode = readers.decode := rfl
  unfold ingestUploadWith ingestUpload
  simp only [ingestPagesWith_services, ingestTextWith_services, read, decoded]
  by_cases pdf : isPdf upload.filename = true
  · simp only [pdf, ↓reduceIte]
    cases readers.readPdf upload.fileBytes with
    | none => rfl
    | some pages =>
      dsimp only
      cases ingestPages readers upload (pages.zipIdx 1) store with
      | mk result after => cases result <;> rfl
  · simp only [pdf, Bool.false_eq_true, ↓reduceIte]

end Faultless

section Kept

/-- What is stored of a chunk, its embedding aside. -/
def Record.chunk {Embedding : Type} (record : Record Embedding) : String × Metadata :=
  (record.content, record.metadata)

/-- The chunks of a page, under its number and the source of the upload. -/
def pageChunks (upload : Upload) (page : String × Nat) : List (String × Metadata) :=
  (chunkText page.1 512 48).map fun chunk =>
    (chunk, ingestedMetadata upload.filename "upload" upload.workflowId page.2)

variable {Embedding World : Type} (services : Services Embedding World)

/-- The pages of an upload that are not blank, with their numbers. A text has one page. -/
def uploadPages (upload : Upload) : List (String × Nat) :=
  let pages :=
    if isPdf upload.filename then ((services.readPdf upload.fileBytes).getD []).zipIdx 1
    else [(services.decode upload.fileBytes, 0)]
  pages.filter fun page => strip page.1 ≠ []

/-- Every embeddings answer has a vector for each text. -/
def Services.AnswersAll : Prop :=
  ∀ texts world vectors, (services.embed texts world).1 = .ok vectors →
    texts.length ≤ vectors.length

/-- The call of `store.add` that raised among those for some records, and what they have stored:
the records before it, and its own if the store has kept it all the same. -/
def AddRaised (records : List (Record Embedding)) (start : World) (failure : Exn) (after : World)
    (kept : List (Record Embedding)) : Prop :=
  ∃ stored record later before, records = stored ++ record :: later ∧
    addAll services stored start = (.ok (), before) ∧
    services.add record before = (.error failure, after) ∧
    (kept = stored ∨ kept = stored ++ [record])

/-- The records of a page whose chunks have been given vectors. -/
def pageRecords (upload : Upload) (page : String × Nat) (vectors : List Embedding) :
    List (Record Embedding) :=
  ((chunkText page.1 512 48).zip vectors).map fun (chunk, vector) =>
    { embedding := vector, content := chunk,
      metadata := ingestedMetadata upload.filename "upload" upload.workflowId page.2 }

/-- The call that raised for a page, and what is stored of the page. -/
inductive PageRaised (upload : Upload) (page : String × Nat) (start : World) (failure : Exn)
    (after : World) : List (Record Embedding) → Prop
  | embed (raised : services.embed (chunkText page.1 512 48) start = (.error failure, after)) :
      PageRaised upload page start failure after []
  | add {vectors : List Embedding} {answered : World} {kept : List (Record Embedding)}
      (embedded : services.embed (chunkText page.1 512 48) start = (.ok vectors, answered))
      (raised : AddRaised services (pageRecords upload page vectors) answered failure after kept) :
      PageRaised upload page start failure after kept

/-- What an interrupted ingestion of pages has stored: all chunks of the pages before the one for
which a call raised, and of that page what was stored until then. -/
def Interrupted (upload : Upload) (pages : List (String × Nat)) (world : World) (failure : Exn)
    (after : World) (kept : List (Record Embedding)) : Prop :=
  ∃ done page rest count before whole begun, pages = done ++ page :: rest ∧
    ingestPagesWith services upload done world = (.ok count, before) ∧
    PageRaised services upload page before failure after begun ∧
    whole.map Record.chunk = done.flatMap (pageChunks upload) ∧ kept = whole ++ begun

/-- A run of `store.add` over records stores all of them, or what the call that raised tells. -/
theorem records_addAll (records : List (Record Embedding)) : ∀ world,
    ∃ kept, services.records (addAll services records world).2 = services.records world ++ kept ∧
      match addAll services records world with
      | (.ok (), _) => kept = records
      | (.error failure, after) => AddRaised services records world failure after kept := by
  induction records with
  | nil =>
    intro world
    exact ⟨[], (List.append_nil _).symm, rfl⟩
  | cons record records ih =>
    intro world
    cases added : services.add record world with
    | mk result after =>
    cases result with
    | error failure =>
      have unchanged := services.records_raised record world failure (by rw [added])
      rw [added] at unchanged
      simp only [addAll, added]
      rcases unchanged with same | stored
      · exact ⟨[], by rw [same, List.append_nil], [], record, records, world, rfl, rfl, added,
          .inl rfl⟩
      · exact ⟨[record], stored, [], record, records, world, rfl, rfl, added, .inr rfl⟩
    | ok =>
      have stored := services.records_add record world (by rw [added])
      obtain ⟨kept, grown, rest⟩ := ih after
      rw [added] at stored
      simp only [addAll, added]
      refine ⟨record :: kept, ?_, ?_⟩
      · rw [grown, stored, List.append_assoc, List.singleton_append]
      · cases continued : addAll services records after with
        | mk outcome last =>
        rw [continued] at rest
        cases outcome with
        | ok =>
          dsimp only at rest ⊢
          rw [rest]
        | error failure =>
          obtain ⟨first, raising, later, before, split, ran, raised, kept⟩ := rest
          refine ⟨record :: first, raising, later, before, by rw [split, List.cons_append], ?_,
            raised, ?_⟩
          · simp only [addAll, added, ran]
          · rcases kept with rfl | rfl
            · exact .inl rfl
            · exact .inr rfl

theorem AddRaised.subset {services : Services Embedding World} {records : List (Record Embedding)}
    {start after : World} {failure : Exn} {kept : List (Record Embedding)}
    (raised : AddRaised services records start failure after kept) : kept ⊆ records := by
  obtain ⟨stored, record, later, before, rfl, -, -, same | same⟩ := raised
  · rw [same]
    exact List.subset_append_left stored _
  · have whole : stored ++ record :: later = (stored ++ [record]) ++ later :=
      List.append_cons stored record later
    rw [same, whole]
    exact List.subset_append_left _ later

/-- A call of the embeddings stores nothing. -/
theorem exists_embedded (texts : List String) (world : World) :
    ∃ answer answered, services.embed texts world = (answer, answered) ∧
      services.records answered = services.records world :=
  ⟨_, _, rfl, services.records_embed texts world⟩

variable {services}

/-- Whatever the services answer, what `ingest_text` adds has the metadata of the document. -/
theorem ingestTextWith_metadata (text source documentType : String) (workflowId : Option String)
    (page : Nat) (world : World) :
    ∃ kept, services.records (ingestTextWith services text source documentType workflowId page
        world).2 = services.records world ++ kept ∧
      ∀ record ∈ kept,
        record.metadata = ingestedMetadata source documentType workflowId page := by
  obtain ⟨answer, answered, embedded, unchanged⟩ :=
    exists_embedded services (chunkText text 512 48) world
  cases answer with
  | error failure =>
    simp only [ingestTextWith, embedded]
    exact ⟨[], by rw [unchanged, List.append_nil], fun _ member => by cases member⟩
  | ok vectors =>
    simp only [ingestTextWith, embedded]
    obtain ⟨kept, grown, outcome⟩ := records_addAll services
      (((chunkText text 512 48).zip vectors).map fun (chunk, vector) =>
        { embedding := vector, content := chunk,
          metadata := ingestedMetadata source documentType workflowId page }) answered
    rw [unchanged] at grown
    refine ⟨kept, ?_, ?_⟩
    · rw [← grown]
      split <;> simp_all
    · intro record member
      have among : record ∈ ((chunkText text 512 48).zip vectors).map fun (chunk, vector) =>
          { embedding := vector, content := chunk,
            metadata := ingestedMetadata source documentType workflowId page } := by
        split at outcome
        · exact outcome ▸ member
        · exact outcome.subset member
      obtain ⟨chunk, _, rfl⟩ := List.mem_map.mp among
      rfl

variable (upload : Upload)

/-- Where each chunk has a vector, the records of a page are its chunks. -/
theorem chunk_pageRecords {page : String × Nat} {vectors : List Embedding}
    (enough : (chunkText page.1 512 48).length ≤ vectors.length) :
    (pageRecords upload page vectors).map Record.chunk = pageChunks upload page := by
  simp only [pageRecords, List.map_map, pageChunks]
  conv_rhs => rw [← List.map_fst_zip enough, List.map_map]
  rfl

/-- One page: all of its chunks are stored, or what the call that raised tells. -/
theorem ingestTextWith_keeps (complete : services.AnswersAll) (page : String × Nat)
    (world : World) :
    ∃ kept, services.records (ingestTextWith services page.1 upload.filename "upload"
        upload.workflowId page.2 world).2 = services.records world ++ kept ∧
      match ingestTextWith services page.1 upload.filename "upload" upload.workflowId page.2
        world with
      | (.ok count, _) => kept.map Record.chunk = pageChunks upload page ∧ count = kept.length
      | (.error failure, after) => PageRaised services upload page world failure after kept := by
  obtain ⟨answer, answered, embedded, unchanged⟩ :=
    exists_embedded services (chunkText page.1 512 48) world
  cases answer with
  | error failure =>
    simp only [ingestTextWith, embedded]
    exact ⟨[], by rw [unchanged, List.append_nil], .embed embedded⟩
  | ok vectors =>
    have enough := complete _ world vectors (by rw [embedded])
    have named := chunk_pageRecords upload enough
    obtain ⟨kept, grown, outcome⟩ :=
      records_addAll services (pageRecords upload page vectors) answered
    rw [unchanged] at grown
    have ran : ingestTextWith services page.1 upload.filename "upload" upload.workflowId page.2
        world = match addAll services (pageRecords upload page vectors) answered with
          | (.error failure, world) => (.error failure, world)
          | (.ok (), world) => (.ok (chunkText page.1 512 48).length, world) := by
      simp only [ingestTextWith, embedded]
      rfl
    rw [ran]
    cases added : addAll services (pageRecords upload page vectors) answered with
    | mk result after =>
    rw [added] at grown outcome
    cases result with
    | error failure => exact ⟨kept, grown, .add embedded outcome⟩
    | ok =>
      have all : kept = pageRecords upload page vectors := outcome
      refine ⟨kept, grown, ?_, ?_⟩
      · rw [all, named]
      · have counted := congrArg List.length named
        rw [List.length_map, pageChunks, List.length_map] at counted
        rw [all, counted]

/-- Blank pages are skipped. -/
theorem ingestPagesWith_filter (pages : List (String × Nat)) : ∀ world,
    ingestPagesWith services upload (pages.filter fun page => strip page.1 ≠ []) world =
      ingestPagesWith services upload pages world := by
  induction pages with
  | nil =>
    intro world
    rfl
  | cons page pages ih =>
    intro world
    by_cases blank : strip page.1 = []
    · rw [List.filter_cons_of_neg (by simpa using blank), ih, ingestPagesWith, if_pos blank]
    · rw [List.filter_cons_of_pos (by simpa using blank), ingestPagesWith, ingestPagesWith,
        if_neg blank, if_neg blank]
      simp only [ih]

/-- Pages that are not blank have chunks. -/
theorem pages_eq_nil {pages : List (String × Nat)} (written : ∀ page ∈ pages, strip page.1 ≠ [])
    (none : pages.flatMap (pageChunks upload) = []) : pages = [] := by
  cases pages with
  | nil => rfl
  | cons page pages =>
    have nonblank := List.length_pos_iff.mpr (written page List.mem_cons_self)
    rw [List.flatMap_cons, List.append_eq_nil_iff, pageChunks, List.map_eq_nil_iff, chunkText,
      chunksFrom, if_pos nonblank] at none
    cases none.1

/-- Pages that are not blank: all of their chunks are stored, or those until a call raised. -/
theorem ingestPagesWith_keeps (complete : services.AnswersAll) (pages : List (String × Nat))
    (written : ∀ page ∈ pages, strip page.1 ≠ []) : ∀ world,
    ∃ kept, services.records (ingestPagesWith services upload pages world).2 =
        services.records world ++ kept ∧
      match ingestPagesWith services upload pages world with
      | (.ok count, _) =>
        kept.map Record.chunk = pages.flatMap (pageChunks upload) ∧ count = kept.length
      | (.error failure, after) =>
        Interrupted services upload pages world failure after kept := by
  induction pages with
  | nil =>
    intro world
    exact ⟨[], (List.append_nil _).symm, rfl, rfl⟩
  | cons page pages ih =>
    intro world
    have nonblank := written page List.mem_cons_self
    obtain ⟨first, grown, here⟩ := ingestTextWith_keeps upload complete page world
    simp only [ingestPagesWith, nonblank, ↓reduceIte]
    cases ingested : ingestTextWith services page.1 upload.filename "upload" upload.workflowId
      page.2 world with
    | mk result after =>
    rw [ingested] at grown here
    cases result with
    | error failure =>
      exact ⟨first, grown, [], page, pages, 0, world, [], first, rfl, rfl, here, rfl, rfl⟩
    | ok count =>
      obtain ⟨others, grownOn, rest⟩ :=
        ih (fun other member => written other (.tail page member)) after
      refine ⟨first ++ others, ?_, ?_⟩
      · rw [grownOn, grown, List.append_assoc]
      · cases ended : ingestPagesWith services upload pages after with
        | mk outcome last =>
        rw [ended] at rest
        simp only [ended]
        cases outcome with
        | error failure =>
          obtain ⟨done, raising, later, more, before, whole, begun, split, ran, raised, stored,
            rfl⟩ := rest
          refine ⟨page :: done, raising, later, count + more, before, first ++ whole, begun,
            by rw [split, List.cons_append], ?_, raised, ?_, (List.append_assoc ..).symm⟩
          · simp only [ingestPagesWith, nonblank, ↓reduceIte, ingested, ran, Except.map]
          · rw [List.map_append, here.1, stored, List.flatMap_cons]
        | ok more =>
          refine ⟨?_, ?_⟩
          · rw [List.map_append, here.1, rest.1, List.flatMap_cons]
          · rw [List.length_append, here.2, rest.2]

/-- **What an upload stores.** An upload that returns has stored every chunk of every page that
is not blank, once and in order, under the page number and the source, and returns how many
these are. One that raises has no such page, and nothing was called, or it has stored what was
stored before the call that raised. -/
theorem ingest_upload_keeps_beginning (complete : services.AnswersAll) (world : World) :
    ∃ kept, services.records (ingestUploadWith services upload world).2 =
        services.records world ++ kept ∧
      match ingestUploadWith services upload world with
      | (.ok count, _) =>
        kept.map Record.chunk = (uploadPages services upload).flatMap (pageChunks upload) ∧
          count = kept.length
      | (.error failure, after) =>
        uploadPages services upload = [] ∧ after = world ∧ kept = [] ∨
          Interrupted services upload (uploadPages services upload) world failure after kept := by
  unfold ingestUploadWith uploadPages
  by_cases pdf : isPdf upload.filename = true
  · simp only [pdf, ↓reduceIte]
    cases services.readPdf upload.fileBytes with
    | none => exact ⟨[], (List.append_nil _).symm, .inl ⟨rfl, rfl, rfl⟩⟩
    | some texts =>
      simp only [Option.getD_some]
      have written : ∀ page ∈ (texts.zipIdx 1).filter fun page => strip page.1 ≠ [],
          strip page.1 ≠ [] := by
        intro page member
        simpa using (List.mem_filter.mp member).2
      obtain ⟨kept, grown, outcome⟩ := ingestPagesWith_keeps upload complete _ written world
      rw [ingestPagesWith_filter] at grown outcome
      cases ingested : ingestPagesWith services upload (texts.zipIdx 1) world with
      | mk result after =>
      rw [ingested] at grown outcome
      cases result with
      | error failure => exact ⟨kept, grown, .inr outcome⟩
      | ok count =>
        by_cases none : count = 0
        · have empty : kept = [] := List.length_eq_zero_iff.mp (outcome.2.symm.trans none)
          have pageless := pages_eq_nil upload written (by rw [← outcome.1, empty, List.map_nil])
          have skipped : ingestPagesWith services upload _ world = _ :=
            ingestPagesWith_filter upload (texts.zipIdx 1) world
          rw [pageless, ingested] at skipped
          simp only [none, ↓reduceIte]
          exact ⟨kept, grown, .inl ⟨pageless, (congrArg Prod.snd skipped).symm, empty⟩⟩
        · simp only [none, ↓reduceIte]
          exact ⟨kept, grown, outcome⟩
  · simp only [pdf, Bool.false_eq_true, ↓reduceIte]
    by_cases blank : strip (services.decode upload.fileBytes) = []
    · simp only [blank, ↓reduceIte]
      exact ⟨[], (List.append_nil _).symm, .inl ⟨by simp [blank], trivial, rfl⟩⟩
    · obtain ⟨kept, grown, outcome⟩ := ingestTextWith_keeps upload complete
        (services.decode upload.fileBytes, 0) world
      have page : [(services.decode upload.fileBytes, 0)].filter
          (fun page => strip page.1 ≠ []) = [(services.decode upload.fileBytes, 0)] := by
        simp [blank]
      simp only [blank, ↓reduceIte, page, List.flatMap_cons, List.flatMap_nil, List.append_nil]
      refine ⟨kept, grown, ?_⟩
      cases ingested : ingestTextWith services (services.decode upload.fileBytes)
        upload.filename "upload" upload.workflowId 0 world with
      | mk result after =>
      rw [ingested] at outcome
      cases result with
      | error failure =>
        exact .inr ⟨[], _, [], 0, world, [], kept, rfl, rfl, outcome, rfl, rfl⟩
      | ok count => exact outcome

/-- All chunks of the upload are stored and counted, or the store is as it was. -/
def StoresAllOrNothing {Embedding World : Type} (services : Services Embedding World)
    (upload : Upload) (world : World) : Prop :=
  match ingestUploadWith services upload world with
  | (.ok count, after) => ∃ kept, services.records after = services.records world ++ kept ∧
    kept.map Record.chunk = (uploadPages services upload).flatMap (pageChunks upload) ∧
    count = kept.length
  | (.error _, after) => services.records after = services.records world

end Kept

section Samples

/-- A file of two pages, and a provider that answers for the first one only. -/
def twoPages : Services Unit (List (Record Unit)) where
  embed texts stored :=
    (if texts = ["one"] then .ok [()] else .error (.upstream "timed out"), stored)
  add record stored := (.ok (), stored ++ [record])
  records stored := stored
  readPdf _ := some ["one", "two"]
  decode _ := ""
  records_embed _ _ := rfl
  records_add _ _ _ := rfl
  records_raised _ _ _ raised := by cases raised

def pdfUpload : Upload := { filename := "plan.pdf", fileBytes := [] }

def firstPage : Record Unit where
  embedding := ()
  content := "one"
  metadata := ingestedMetadata "plan.pdf" "upload" none 1

/-- The upload is interrupted on its second page. -/
theorem ingestUploadWith_twoPages :
    ingestUploadWith twoPages pdfUpload [] = (.error (.upstream "timed out"), [firstPage]) := by
  have first : chunkText "one" 512 48 = ["one"] := by
    rw [chunkText, chunksFrom]
    decide
  have second : chunkText "two" 512 48 = ["two"] := by
    rw [chunkText, chunksFrom]
    decide
  have pdf : isPdf pdfUpload.filename = true := by decide
  have one : strip "one" ≠ [] := by decide
  have two : strip "two" ≠ [] := by decide
  unfold ingestUploadWith
  simp only [pdf, ↓reduceIte, twoPages, List.zipIdx_cons, List.zipIdx_nil, ingestPagesWith, one,
    two, ingestTextWith, first, second]
  rfl

theorem answersAll_twoPages : twoPages.AnswersAll := by
  intro texts world vectors answered
  by_cases first : texts = ["one"]
  · simp only [twoPages, first, ↓reduceIte] at answered
    cases answered
    rw [first]
    rfl
  · simp only [twoPages, first, ↓reduceIte] at answered
    cases answered

theorem two_pages_keep_beginning : Interrupted twoPages pdfUpload
    (uploadPages twoPages pdfUpload) [] (.upstream "timed out") [firstPage] [firstPage] := by
  obtain ⟨kept, grown, outcome⟩ := ingest_upload_keeps_beginning pdfUpload answersAll_twoPages []
  rw [ingestUploadWith_twoPages] at grown outcome
  rcases outcome with ⟨-, none, -⟩ | interrupted
  · cases none
  · have same : [firstPage] = kept := grown
    rwa [← same] at interrupted

/-- The first page stays when the second one fails. -/
theorem first_page_kept : ¬ ∀ (Embedding World : Type) (services : Services Embedding World)
    (upload : Upload) (world : World), StoresAllOrNothing services upload world := by
  intro claim
  have untouched := claim Unit _ twoPages pdfUpload []
  unfold StoresAllOrNothing at untouched
  rw [ingestUploadWith_twoPages] at untouched
  exact absurd untouched (by simp [twoPages])

end Samples

end ActionPlan.Rag
