import ActionPlan.Foundation.Noninterference
import ActionPlan.Rag.Visibility

/-! # What a search depends on

Two runs of one store that differ in the documents of other workflows only, or in the restarts of
the process of a local store, give the same answers to the searches of a workflow. What an upload
adds does not depend on what is stored.
-/

namespace ActionPlan.Rag

open ActionPlan.Foundation ActionPlan.Models

section Ingestion

variable {Embedding : Type} (readers : Readers Embedding)

/-- An ingestion whose outcome and whose records are the same for every store. -/
def Additive (ingest : VectorStore Embedding → Except Exn Nat × VectorStore Embedding) : Prop :=
  ∃ outcome added, ∀ store, (ingest store).1 = outcome ∧
    (ingest store).2.records = store.records ++ added ∧
    (ingest store).2.backing = store.backing

/-- The chunks are appended in order. -/
theorem records_addChunks (metadata : Metadata) (chunks : List (String × Embedding))
    (store : VectorStore Embedding) :
    (addChunks metadata store chunks).records = store.records ++
        chunks.map (fun chunk => { embedding := chunk.2, content := chunk.1, metadata }) ∧
      (addChunks metadata store chunks).backing = store.backing := by
  induction chunks generalizing store with
  | nil => exact ⟨(List.append_nil _).symm, rfl⟩
  | cons chunk chunks ih =>
    obtain ⟨records, backing⟩ := ih (store.add chunk.1 metadata chunk.2)
    refine ⟨records.trans ?_, backing⟩
    rw [List.map_cons, VectorStore.add, List.append_assoc, List.singleton_append]

/-- The chunks of a text do not depend on what is stored. -/
theorem additive_ingestText (text source documentType : String) (workflowId : Option String)
    (page : Nat) : Additive (ingestText readers text source documentType workflowId page) := by
  cases embedded : readers.embed (chunkText text 512 48) with
  | error failure =>
    refine ⟨.error failure, [], fun store => ?_⟩
    simp only [ingestText, embedded, List.append_nil, and_self]
  | ok vectors =>
    let metadata : Metadata := { source := ingestedSource source workflowId, page, documentType }
    refine ⟨.ok (chunkText text 512 48).length, ((chunkText text 512 48).zip vectors).map
      fun chunk => { embedding := chunk.2, content := chunk.1, metadata }, fun store => ?_⟩
    rw [ingestText, embedded]
    exact ⟨rfl, records_addChunks metadata _ store⟩

/-- The pages are ingested one after the other, each as if it were alone. -/
theorem additive_ingestPages (upload : Upload) (pages : List (String × Nat)) :
    Additive (ingestPages readers upload pages) := by
  induction pages with
  | nil => exact ⟨.ok 0, [], fun _ => ⟨rfl, (List.append_nil _).symm, rfl⟩⟩
  | cons entry pages ih =>
    obtain ⟨text, page⟩ := entry
    by_cases blank : strip text = []
    · obtain ⟨outcome, added, same⟩ := ih
      refine ⟨outcome, added, fun store => ?_⟩
      rw [ingestPages, if_pos blank]
      exact same store
    · obtain ⟨outcome, added, first⟩ :=
        additive_ingestText readers text upload.filename "upload" upload.workflowId page
      obtain ⟨rest, more, later⟩ := ih
      cases outcome with
      | error failure =>
        refine ⟨.error failure, added, fun store => ?_⟩
        obtain ⟨failed, records, backing⟩ := first store
        rw [ingestPages, if_neg blank]
        cases ingested : ingestText readers text upload.filename "upload" upload.workflowId page
          store with
        | mk answer next =>
          rw [ingested] at failed records backing
          cases failed
          exact ⟨rfl, records, backing⟩
      | ok count =>
        refine ⟨rest.map (count + ·), added ++ more, fun store => ?_⟩
        obtain ⟨counted, records, backing⟩ := first store
        rw [ingestPages, if_neg blank]
        cases ingested : ingestText readers text upload.filename "upload" upload.workflowId page
          store with
        | mk answer next =>
          rw [ingested] at counted records backing
          cases counted
          obtain ⟨outcome, grown, kept⟩ := later next
          refine ⟨congrArg (Except.map (count + ·)) outcome, ?_, kept.trans backing⟩
          rw [grown, records, List.append_assoc]

/-- **An upload** answers the same, and adds the same records, whatever is stored. -/
theorem additive_ingestUpload (upload : Upload) : Additive (ingestUpload readers upload) := by
  have refused (failure : Exn)
      (raises : ∀ store, ingestUpload readers upload store = (.error failure, store)) :
      Additive (ingestUpload readers upload) := by
    refine ⟨.error failure, [], fun store => ?_⟩
    rw [raises store, List.append_nil]
    exact ⟨rfl, rfl, rfl⟩
  by_cases pdf : isPdf upload.filename = true
  · cases read : readers.readPdf upload.fileBytes with
    | none =>
      refine refused (.httpException 400 "Could not read this PDF.") fun store => ?_
      rw [ingestUpload, if_pos pdf, read]
    | some pages =>
      obtain ⟨outcome, added, all⟩ := additive_ingestPages readers upload (pages.zipIdx 1)
      have summed : ∃ result, ∀ store next, (ingestPages readers upload (pages.zipIdx 1) store) =
          (outcome, next) → ingestUpload readers upload store = (result, next) := by
        cases outcome with
        | error failure =>
          refine ⟨.error failure, fun store next ingested => ?_⟩
          rw [ingestUpload, if_pos pdf, read]
          simp only [ingested]
        | ok count =>
          by_cases nothing : count = 0
          · refine ⟨.error (.httpException 400 "This PDF has no extractable text."),
              fun store next ingested => ?_⟩
            rw [ingestUpload, if_pos pdf, read]
            simp only [ingested, nothing, if_true]
          · refine ⟨.ok count, fun store next ingested => ?_⟩
            rw [ingestUpload, if_pos pdf, read]
            simp only [ingested, nothing, if_false]
      obtain ⟨result, summed⟩ := summed
      refine ⟨result, added, fun store => ?_⟩
      obtain ⟨counted, grown⟩ := all store
      rw [summed store _ (Prod.ext counted rfl)]
      exact ⟨rfl, grown⟩
  · by_cases blank : strip (readers.decode upload.fileBytes) = []
    · refine refused (.httpException 400 "File is empty or has no extractable text.")
        fun store => ?_
      rw [ingestUpload, if_neg pdf]
      exact if_pos blank
    · obtain ⟨outcome, added, same⟩ := additive_ingestText readers
        (readers.decode upload.fileBytes) upload.filename "upload" upload.workflowId 0
      refine ⟨outcome, added, fun store => ?_⟩
      have direct : ingestUpload readers upload store = ingestText readers
          (readers.decode upload.fileBytes) upload.filename "upload" upload.workflowId 0 store := by
        rw [ingestUpload, if_neg pdf]
        exact if_neg blank
      rw [direct]
      exact same store

theorem backing_ingestUpload (upload : Upload) (store : VectorStore Embedding) :
    (ingestUpload readers upload store).2.backing = store.backing :=
  ((additive_ingestUpload readers upload).choose_spec.choose_spec store).2.2

end Ingestion

section Alike

variable {Embedding : Type} {readers : Readers Embedding} {workflowId : String}
  {first second : VectorStore Embedding}

/-- Two stores that a workflow cannot tell apart. -/
structure Alike (workflowId : String) (first second : VectorStore Embedding) : Prop where
  backing : first.backing = second.backing
  candidates : first.candidates (some workflowId) = second.candidates (some workflowId)

/-- A search for the project finds the same in stores that are alike to it. -/
theorem Alike.search (alike : Alike workflowId first second) {Score : Type} [LE Score]
    [DecidableLE Score] (similarity : Embedding → Embedding → Score) (embedding : Embedding)
    (limit : Nat) : first.search similarity embedding limit (some workflowId) =
      second.search similarity embedding limit (some workflowId) := by
  rw [VectorStore.search, VectorStore.search, alike.candidates]

variable (readers) in
/-- What both searches can find grows by the same records. -/
theorem Alike.upload (alike : Alike workflowId first second) (upload : Upload) :
    (ingestUpload readers upload first).1 = (ingestUpload readers upload second).1 ∧
      Alike workflowId (ingestUpload readers upload first).2
        (ingestUpload readers upload second).2 := by
  obtain ⟨outcome, added, grown⟩ := additive_ingestUpload readers upload
  obtain ⟨told, records, kept⟩ := grown first
  obtain ⟨told', records', kept'⟩ := grown second
  refine ⟨told.trans told'.symm, kept.trans (alike.backing.trans kept'.symm), ?_⟩
  have same := alike.candidates
  unfold VectorStore.candidates at same ⊢
  rw [records, records', List.filter_append, List.filter_append, same]

variable (readers) in
/-- The documents of another workflow are not found. -/
theorem Alike.foreign (alike : Alike workflowId first second) (searching : Separable workflowId)
    {upload : Upload} {owner : String} (owned : upload.workflowId = some owner)
    (separable : Separable owner) (other : owner ≠ workflowId) :
    Alike workflowId (ingestUpload readers upload first).2 second := by
  obtain ⟨added, records, sourced⟩ := appends_ingestUpload readers upload first
  refine ⟨(backing_ingestUpload readers upload first).trans alike.backing, ?_⟩
  have hidden : added.filter (VectorStore.isCandidate (some workflowId)) = [] := by
    refine List.filter_eq_nil_iff.mpr fun record member found => ?_
    have source := sourced record member
    rw [owned] at source
    exact other ((isCandidate_separable separable searching source).mp found)
  have same := alike.candidates
  unfold VectorStore.candidates at same ⊢
  rw [records, List.filter_append, hidden, List.append_nil, same]

/-- Stores in memory are alike after a restart, since both are empty. -/
theorem Alike.restart (alike : Alike workflowId first second) (kind : first.backing = .inMemory) :
    Alike workflowId first.restart second.restart := by
  refine ⟨alike.backing, ?_⟩
  rw [VectorStore.candidates, VectorStore.candidates, VectorStore.records_restart_inMemory kind,
    VectorStore.records_restart_inMemory (alike.backing.symm.trans kind)]

/-- A local store is read again from its file. -/
theorem Alike.reload (alike : Alike workflowId first second) (kind : first.backing ≠ .inMemory) :
    Alike workflowId first.restart second := by
  have file : first.backing = .localFile := by
    cases backing : first.backing with
    | inMemory => exact absurd backing kind
    | localFile => rfl
  refine ⟨alike.backing, ?_⟩
  rw [VectorStore.candidates, VectorStore.records_restart_localFile file]
  exact alike.candidates

end Alike

section Purging

variable {classes : Frontend.CharacterClasses} {Embedding : Type} {readers : Readers Embedding}
  {backing : Backing} {workflowId : String}

/-- The events that a workflow can notice: the uploads for it or for the organisation, and, of a
store that is kept in memory, the restarts. -/
def concerns (backing : Backing) (workflowId : String) : Event classes → Bool
  | .upload upload _ => upload.workflowId.all (· = workflowId)
  | .restart => backing = .inMemory

theorem store_restart (trace : Trace classes Embedding) :
    (trace.step readers .restart).store = trace.store.restart := by
  unfold Trace.step
  dsimp only
  split <;> rfl

/-- No event changes the class of the store. -/
theorem backing_step (trace : Trace classes Embedding) (event : Event classes) :
    (trace.step readers event).store.backing = trace.store.backing := by
  cases event with
  | upload upload generated => exact backing_ingestUpload readers upload trace.store
  | restart =>
    rw [store_restart]
    rfl

/-- **Searches are isolated.** After any uploads and restarts, a search for a workflow answers as
if the documents of all other workflows had never been uploaded, and as if the process of a local
store had never been restarted: the same evidence in the same order, whatever the similarity. -/
theorem search_isolated {Score : Type} [LE Score] [DecidableLE Score]
    (similarity : Embedding → Embedding → Score) (embedding : Embedding) (limit : Nat)
    (searching : Generated classes workflowId) (events : List (Event classes)) :
    (Trace.run readers backing events).store.search similarity embedding limit (some workflowId) =
      (Trace.run readers backing (events.filter (concerns backing workflowId))).store.search
        similarity embedding limit (some workflowId) := by
  have alike : (Trace.run readers backing events).store.backing = backing ∧
      Alike workflowId (Trace.run readers backing events).store
        (Trace.run readers backing (events.filter (concerns backing workflowId))).store := by
    refine related_foldl_filter (fun first second : Trace classes Embedding =>
      first.store.backing = backing ∧ Alike workflowId first.store second.store) ?_ ?_ events
      ⟨rfl, rfl, rfl⟩
    · rintro first second event relevant ⟨kind, alike⟩
      refine ⟨(backing_step first event).trans kind, ?_⟩
      cases event with
      | upload upload generated => exact (alike.upload readers upload).2
      | restart =>
        rw [store_restart, store_restart]
        exact alike.restart (kind.trans (of_decide_eq_true relevant))
    · rintro first second event irrelevant ⟨kind, alike⟩
      refine ⟨(backing_step first event).trans kind, ?_⟩
      cases event with
      | upload upload generated =>
        cases owned : upload.workflowId with
        | none => simp [concerns, owned] at irrelevant
        | some owner =>
          refine alike.foreign readers searching.separable owned
            (generated owner owned).separable ?_
          rintro rfl
          simp [concerns, owned] at irrelevant
      | restart =>
        rw [store_restart]
        exact alike.reload (kind ▸ of_decide_eq_false irrelevant)
  exact alike.2.search similarity embedding limit

end Purging

section Samples

/-- A document of another workflow. -/
def foreignUpload : Upload where
  filename := "notes.txt"
  fileBytes := []
  workflowId := some "wf_other"

theorem generated_foreignUpload :
    ∀ owner ∈ foreignUpload.workflowId, Generated Frontend.latin1 owner := by
  rintro owner ⟨⟩
  decide

/-- A document of one project and a restart, before a document of another. -/
theorem foreign_upload_unnoticed :
    (Trace.run wordReaders .localFile [.upload foreignUpload generated_foreignUpload, .restart,
        .upload ownedUpload generated_ownedUpload]).store.search (fun _ _ => 0) () 5
          (some "wf_café") =
      (Trace.run wordReaders .localFile [.upload ownedUpload generated_ownedUpload]).store.search
        (fun _ _ => 0) () 5 (some "wf_café") := by
  have searching : Generated Frontend.latin1 "wf_café" := by decide
  exact search_isolated (fun _ _ => 0) () 5 searching
    [.upload foreignUpload generated_foreignUpload, .restart,
      .upload ownedUpload generated_ownedUpload]

end Samples

end ActionPlan.Rag
