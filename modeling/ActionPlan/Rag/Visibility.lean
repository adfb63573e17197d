import ActionPlan.Foundation.Qualified
import ActionPlan.Frontend.Routes

/-! # Who sees a document

A document belongs to the workflow that it was uploaded for, or to the whole
organisation. The owner is written before the filename in the source of its records, and
a search reads it off again. This is exact for the documents of a workflow. A document
of the organisation whose filename holds the separator is taken for that of a workflow.
-/

namespace ActionPlan.Rag

open ActionPlan.Foundation ActionPlan.Models
open ActionPlan.Frontend (CharacterClasses)

/-- Generated ids consist of letters, digits, hyphens and underscores. What counts as a letter or
a digit is told by `str.isalnum`. -/
def Generated (classes : CharacterClasses) (workflowId : String) : Prop :=
  workflowId ≠ "" ∧
    ∀ char ∈ workflowId.toList, classes.isAlnum char = true ∨ char = '-' ∨ char = '_'

instance (classes : CharacterClasses) : DecidablePred (Generated classes) := fun workflowId =>
  decidable_of_iff (workflowId ≠ "" ∧ (workflowId.toList.all fun char =>
      classes.isAlnum char || char == '-' || char == '_') = true) <| by
    simp [Generated, or_assoc]

/-- What a workflow id needs for its documents to be told from all others. -/
def Separable (workflowId : String) : Prop := workflowId ≠ "" ∧ ':' ∉ workflowId.toList

/-- The upload belongs to the organisation, and its filename holds the separator. -/
def Planted (upload : Upload) : Prop :=
  upload.workflowId = none ∧ "::".toList <:+: upload.filename.toList

section Candidates

variable {classes : CharacterClasses} {Embedding : Type} {record : Record Embedding}
  {workflowId owner filename : String}

/-- The sources that the filter of a workflow lets pass. -/
theorem isCandidate_iff : VectorStore.isCandidate (some workflowId) record = true ↔
    workflowId.toList ++ [':', ':'] <+: record.metadata.source.toList ∨
      ¬ [':', ':'] <:+: record.metadata.source.toList := by
  simp [VectorStore.isCandidate, String.toList_append]

theorem Generated.colon_not_mem (generated : Generated classes workflowId) :
    ':' ∉ workflowId.toList := by
  intro member
  rcases generated.2 ':' member with letter | hyphen | underscore
  · rw [classes.isAlnum_ascii ':' (by decide)] at letter
    exact absurd letter (by decide)
  · cases hyphen
  · cases underscore

theorem Generated.separable (generated : Generated classes workflowId) : Separable workflowId :=
  ⟨generated.1, generated.colon_not_mem⟩

/-- The ids of one letter are the same whatever counts as one elsewhere. -/
theorem generated_letter (classes : CharacterClasses) {letter : Char}
    (ascii : letter.toNat < 128) (plain : letter.isAlphanum = true) :
    Generated classes (String.singleton letter) := by
  refine ⟨?_, fun char member => .inl ?_⟩
  · exact String.singleton_ne_empty
  · rw [String.toList_singleton, List.mem_singleton] at member
    rw [member, classes.isAlnum_ascii letter ascii, plain]

/-- `_generate_workflow_id` draws such ids. -/
theorem generated_of_generator (generated : Frontend.Generated classes workflowId.toList) :
    Generated classes workflowId := by
  obtain ⟨goal, token, made⟩ := generated
  have plain (text : String)
      (ascii : (text.toList.all fun char =>
        (char.toNat < 128 && char.isAlphanum) || char == '_') = true) {char : Char}
      (member : char ∈ text.toList) :
      classes.isAlnum char = true ∨ char = '-' ∨ char = '_' := by
    have known := List.all_eq_true.mp ascii char member
    rw [Bool.or_eq_true, Bool.and_eq_true, decide_eq_true_eq, beq_iff_eq] at known
    rcases known with ⟨small, letter⟩ | underscore
    · exact .inl ((classes.isAlnum_ascii char small).trans letter)
    · exact .inr (.inr underscore)
  refine ⟨?_, fun char member => ?_⟩
  · rintro rfl
    exact Frontend.generated_ne_nil ⟨goal, token, made⟩ rfl
  · rw [← made, Frontend.generateWorkflowId, List.mem_append, List.mem_append,
      List.mem_append] at member
    rcases member with ((front | name) | underscore) | digit
    · exact plain "wf_" (by decide) front
    · by_cases blank : Frontend.slug classes goal = []
      · rw [if_pos blank] at name
        exact plain "goal" (by decide) name
      · rw [if_neg blank] at name
        exact (Frontend.mem_slug name).elim (fun hyphen => .inr (.inl hyphen)) .inl
    · exact plain "_" (by decide) underscore
    · exact plain "0123456789abcdef" (by decide) (token.hex char digit)

/-- The records of a workflow's documents are candidates for this workflow only. -/
theorem isCandidate_separable (ownerSeparable : Separable owner) (separable : Separable workflowId)
    (source : record.metadata.source = ingestedSource filename (some owner)) :
    VectorStore.isCandidate (some workflowId) record = true ↔ owner = workflowId := by
  have written : record.metadata.source.toList =
      qualified [':', ':'] owner.toList filename.toList := by
    rw [source, ingestedSource, truthyString_some ownerSeparable.1]
    simp [qualified, String.toList_append]
  rw [isCandidate_iff, written, prefix_qualified_iff ownerSeparable.2 separable.2]
  have held : [':', ':'] <:+: qualified [':', ':'] owner.toList filename.toList := infix_qualified
  simp only [held, not_true_eq_false, or_false, String.toList_inj]
  exact eq_comm

/-- A document of a workflow is a candidate for that workflow only. -/
theorem isCandidate_owned (ownerGenerated : Generated classes owner)
    (generated : Generated classes workflowId)
    (source : record.metadata.source = ingestedSource filename (some owner)) :
    VectorStore.isCandidate (some workflowId) record = true ↔ owner = workflowId :=
  isCandidate_separable ownerGenerated.separable generated.separable source

/-- A name without the separator makes its records candidates for every workflow. -/
theorem isCandidate_shared (source : record.metadata.source = filename)
    (free : ¬ "::".toList <:+: filename.toList) :
    VectorStore.isCandidate (some workflowId) record = true :=
  isCandidate_iff.mpr (.inr (source.symm ▸ free))

/-- Some workflow does not see a record whose source holds the separator. -/
theorem exists_not_isCandidate (classes : CharacterClasses)
    (held : "::".toList <:+: record.metadata.source.toList) :
    ∃ workflowId, Generated classes workflowId ∧
      ¬ VectorStore.isCandidate (some workflowId) record = true := by
  by_cases first : "a".toList ++ [':', ':'] <+: record.metadata.source.toList
  · refine ⟨"b", generated_letter classes (by decide : 'b'.toNat < 128) (by decide), ?_⟩
    rw [isCandidate_iff]
    rintro (second | free)
    · -- a source starts with one id only
      have same := List.prefix_of_prefix_length_le first second (by decide)
      exact absurd same (by decide)
    · exact free held
  · refine ⟨"a", generated_letter classes (by decide : 'a'.toNat < 128) (by decide), ?_⟩
    rw [isCandidate_iff]
    rintro (starts | free)
    · exact first starts
    · exact free held

end Candidates

section Appends

variable {Embedding : Type} (readers : Readers Embedding) {source : String}

/-- The store holds further records, which have the source. -/
def Appends (source : String) (before after : VectorStore Embedding) : Prop :=
  ∃ added, after.records = before.records ++ added ∧
    ∀ record ∈ added, record.metadata.source = source

theorem Appends.refl (store : VectorStore Embedding) : Appends source store store :=
  ⟨[], (List.append_nil _).symm, fun _ member => by cases member⟩

theorem Appends.trans {first second third : VectorStore Embedding}
    (start : Appends source first second) (rest : Appends source second third) :
    Appends source first third := by
  obtain ⟨added, grown, sourced⟩ := start
  obtain ⟨more, grownMore, sourcedMore⟩ := rest
  refine ⟨added ++ more, by rw [grownMore, grown, List.append_assoc], ?_⟩
  exact List.forall_mem_append.mpr ⟨sourced, sourcedMore⟩

theorem appends_addChunks (metadata : Metadata) (chunks : List (String × Embedding))
    (store : VectorStore Embedding) :
    Appends metadata.source store (addChunks metadata store chunks) := by
  induction chunks generalizing store with
  | nil => exact .refl store
  | cons chunk chunks ih =>
      have added : Appends metadata.source store (store.add chunk.1 metadata chunk.2) :=
        ⟨_, rfl, fun record member => by rw [List.mem_singleton.mp member]⟩
      exact added.trans (ih _)

/-- The chunks of a text are appended under its source. -/
theorem appends_ingestText (text source documentType : String) (workflowId : Option String)
    (page : Nat) (store : VectorStore Embedding) :
    Appends (ingestedSource source workflowId) store
      (ingestText readers text source documentType workflowId page store).2 := by
  unfold ingestText
  dsimp only
  split
  · exact .refl store
  · exact appends_addChunks _ _ store

/-- So are those of the pages. -/
theorem appends_ingestPages (upload : Upload) (pages : List (String × Nat))
    (store : VectorStore Embedding) :
    Appends (ingestedSource upload.filename upload.workflowId) store
      (ingestPages readers upload pages store).2 := by
  induction pages generalizing store with
  | nil => exact .refl store
  | cons entry pages ih =>
      obtain ⟨text, page⟩ := entry
      rw [ingestPages]
      split
      · exact ih store
      · have first : Appends (ingestedSource upload.filename upload.workflowId) store
            (ingestText readers text upload.filename "upload" upload.workflowId page store).2 :=
          appends_ingestText readers text upload.filename "upload" upload.workflowId page store
        split
        · rename_i raised
          rwa [raised] at first
        · rename_i counted
          rw [counted] at first
          exact first.trans (ih _)

/-- **An upload** adds records with the source that names its owner, and no others. -/
theorem appends_ingestUpload (upload : Upload) (store : VectorStore Embedding) :
    Appends (ingestedSource upload.filename upload.workflowId) store
      (ingestUpload readers upload store).2 := by
  unfold ingestUpload
  split
  · split
    · exact .refl store
    · rename_i pages _
      have all : Appends (ingestedSource upload.filename upload.workflowId) store
          (ingestPages readers upload (pages.zipIdx 1) store).2 :=
        appends_ingestPages readers _ _ store
      split
      · rename_i raised
        rwa [raised] at all
      · rename_i counted
        rw [counted] at all
        split <;> exact all
  · dsimp only
    split
    · exact .refl store
    · exact appends_ingestText readers _ _ _ _ _ store

end Appends

/-- What happens to a store: an upload, or a new start of its process. -/
inductive Event (classes : CharacterClasses) where
  | upload (upload : Upload)
      (generated : ∀ workflowId ∈ upload.workflowId, Generated classes workflowId)
  | restart

/-- A store together with the upload behind each of its records. -/
structure Trace (classes : CharacterClasses) (Embedding : Type) where
  store : VectorStore Embedding
  origins : List (Upload × Record Embedding)
  exact : origins.map Prod.snd = store.records
  sourced : ∀ entry ∈ origins,
    entry.2.metadata.source = ingestedSource entry.1.filename entry.1.workflowId
  generated : ∀ entry ∈ origins, ∀ workflowId ∈ entry.1.workflowId, Generated classes workflowId

section Traces

variable {classes : CharacterClasses} {Embedding : Type} (readers : Readers Embedding)

/-- The records that an upload has added to the store. -/
def addedBy (upload : Upload) (store : VectorStore Embedding) : List (Record Embedding) :=
  (ingestUpload readers upload store).2.records.drop store.records.length

/-- What an upload adds, all of it under its source. -/
theorem addedBy_spec (upload : Upload) (store : VectorStore Embedding) :
    (ingestUpload readers upload store).2.records =
        store.records ++ addedBy readers upload store ∧
      ∀ record ∈ addedBy readers upload store,
        record.metadata.source = ingestedSource upload.filename upload.workflowId := by
  obtain ⟨added, grown, sourced⟩ := appends_ingestUpload readers upload store
  have same : addedBy readers upload store = added := by rw [addedBy, grown, List.drop_left]
  rw [same]
  exact ⟨grown, sourced⟩

namespace Trace

/-- A store without records. -/
def empty (backing : Backing) : Trace classes Embedding where
  store := { backing, persisted := VectorStore.nothing_persisted backing }
  origins := []
  exact := rfl
  sourced _ member := by cases member
  generated _ member := by cases member

/-- The store and the origins of its records after one event. -/
def step (trace : Trace classes Embedding) : Event classes → Trace classes Embedding
  | .upload upload generated =>
    { store := (ingestUpload readers upload trace.store).2
      origins := trace.origins ++ (addedBy readers upload trace.store).map (upload, ·)
      exact := by
        rw [List.map_append, trace.exact, List.map_map, (addedBy_spec readers upload _).1]
        simp
      sourced := by
        refine List.forall_mem_append.mpr ⟨trace.sourced, List.forall_mem_map.mpr ?_⟩
        exact (addedBy_spec readers upload trace.store).2
      generated := List.forall_mem_append.mpr
        ⟨trace.generated, List.forall_mem_map.mpr fun _ _ => generated⟩ }
  | .restart =>
    match kind : trace.store.backing with
    | .inMemory =>
      { store := trace.store.restart
        origins := []
        exact := (VectorStore.records_restart_inMemory kind).symm
        sourced := fun _ member => by cases member
        generated := fun _ member => by cases member }
    | .localFile =>
      { trace with
        store := trace.store.restart
        exact := trace.exact.trans (VectorStore.records_restart_localFile kind).symm }

/-- The stores that events lead to. -/
def run (backing : Backing) (events : List (Event classes)) : Trace classes Embedding :=
  events.foldl (step readers) (empty backing)

end Trace

variable {readers} {backing : Backing} {events : List (Event classes)} {upload : Upload}
  {record : Record Embedding}

/-- A record that is stored is a candidate if its source passes the filter. -/
theorem mem_candidates_of_origin {workflowId : Option String}
    (stored : (upload, record) ∈ (Trace.run readers backing events).origins) :
    record ∈ (Trace.run readers backing events).store.candidates workflowId ↔
      VectorStore.isCandidate workflowId record = true := by
  have present : record ∈ (Trace.run readers backing events).store.records := by
    rw [← (Trace.run readers backing events).exact]
    exact List.mem_map_of_mem stored
  rw [VectorStore.candidates, List.mem_filter]
  exact and_iff_right present

/-- **A search finds no document of another workflow**, whatever the documents are named. -/
theorem search_finds_visible {Score : Type} [LE Score] [DecidableLE Score]
    {similarity : Embedding → Embedding → Score} {embedding : Embedding} {limit : Nat}
    {workflowId : String} {evidence : Evidence} (generated : Generated classes workflowId)
    (found : evidence ∈ (Trace.run readers backing events).store.search similarity embedding
      limit (some workflowId)) :
    ∃ origin ∈ (Trace.run readers backing events).origins, origin.2.evidence = evidence ∧
      (origin.1.workflowId = none ∨ origin.1.workflowId = some workflowId) := by
  obtain ⟨record, candidate, rfl⟩ := VectorStore.exists_candidate_of_mem_search _ found
  obtain ⟨present, matched⟩ := List.mem_filter.mp candidate
  rw [← (Trace.run readers backing events).exact] at present
  obtain ⟨origin, stored, rfl⟩ := List.mem_map.mp present
  refine ⟨origin, stored, rfl, ?_⟩
  cases owned : origin.1.workflowId with
  | none => exact .inl rfl
  | some owner =>
      have sourced := (Trace.run readers backing events).sourced origin stored
      rw [owned] at sourced
      have same := (isCandidate_owned ((Trace.run readers backing events).generated origin stored
        owner owned) generated sourced).mp matched
      exact .inr (congrArg some same)

/-- **Who sees a document.** After any uploads and restarts, the workflows for which a
record is a candidate are the one that it was uploaded for, or all of them if it was
uploaded for none, exactly unless it was planted. -/
theorem visible_iff (stored : (upload, record) ∈ (Trace.run readers backing events).origins) :
    (∀ workflowId, Generated classes workflowId →
      (record ∈ (Trace.run readers backing events).store.candidates (some workflowId) ↔
        upload.workflowId = none ∨ upload.workflowId = some workflowId)) ↔ ¬ Planted upload := by
  have sourced : record.metadata.source = ingestedSource upload.filename upload.workflowId :=
    (Trace.run readers backing events).sourced _ stored
  have generated : ∀ workflowId ∈ upload.workflowId, Generated classes workflowId :=
    (Trace.run readers backing events).generated _ stored
  simp only [mem_candidates_of_origin stored]
  cases owned : upload.workflowId with
  | some owner =>
      rw [owned] at sourced
      refine iff_of_true (fun workflowId other => ?_) fun planted => ?_
      · rw [isCandidate_owned (generated owner owned) other sourced]
        simp
      · exact absurd (owned.symm.trans planted.1) nofun
  | none =>
      rw [owned] at sourced
      constructor
      · rintro visible ⟨-, held⟩
        have hidden : ∃ workflowId, Generated classes workflowId ∧
            ¬ VectorStore.isCandidate (some workflowId) record = true :=
          exists_not_isCandidate classes (sourced.symm ▸ held)
        obtain ⟨workflowId, other, unseen⟩ := hidden
        exact unseen ((visible workflowId other).mpr (.inl rfl))
      · intro unplanted workflowId _
        refine iff_of_true (isCandidate_shared sourced fun held => ?_) (.inl rfl)
        exact unplanted ⟨owned, held⟩

end Traces

section Samples

/-- Every file holds one word. -/
def wordReaders : Readers Unit where
  embed chunks := .ok (chunks.map fun _ => ())
  readPdf _ := none
  decode _ := "word"

/-- The record of an uploaded text file. -/
def wordRecord (upload : Upload) : Record Unit where
  embedding := ()
  content := "word"
  metadata :=
    { source := ingestedSource upload.filename upload.workflowId
      page := 0
      documentType := "upload" }

theorem stored_word {classes : CharacterClasses} (upload : Upload)
    (generated : ∀ workflowId ∈ upload.workflowId, Generated classes workflowId)
    (plain : isPdf upload.filename = false) : (upload, wordRecord upload) ∈
      (Trace.run wordReaders .localFile [.upload upload generated]).origins := by
  have chunks : chunkText "word" 512 48 = ["word"] := by
    rw [chunkText, chunksFrom]
    decide
  have written : strip "word" ≠ [] := by decide
  have added : addedBy wordReaders upload { backing := .localFile } = [wordRecord upload] := by
    simp only [addedBy, ingestUpload, plain, Bool.false_eq_true, ↓reduceIte, wordReaders, written,
      ingestText, chunks, addChunks, VectorStore.add, List.map_cons, List.map_nil,
      List.zip_cons_cons, List.zip_nil_right, List.foldl_cons, List.foldl_nil]
    rfl
  simp only [Trace.run, List.foldl_cons, List.foldl_nil, Trace.step, Trace.empty,
    List.nil_append, added, List.map_cons, List.map_nil, List.mem_singleton]

/-- A document of a workflow. -/
def ownedUpload : Upload where
  filename := "notes.txt"
  fileBytes := []
  workflowId := some "wf_café"

theorem generated_ownedUpload :
    ∀ workflowId ∈ ownedUpload.workflowId, Generated Frontend.latin1 workflowId := by
  rintro workflowId ⟨⟩
  decide

/-- A document of a workflow whose name has an accent. -/
theorem visible_iff_owned :
    (∀ workflowId, Generated Frontend.latin1 workflowId →
      (wordRecord ownedUpload ∈ (Trace.run wordReaders .localFile
          [.upload ownedUpload generated_ownedUpload]).store.candidates (some workflowId) ↔
        ownedUpload.workflowId = none ∨ ownedUpload.workflowId = some workflowId)) ↔
      ¬ Planted ownedUpload :=
  visible_iff (stored_word ownedUpload generated_ownedUpload (by decide))

/-- A document of the organisation, named like one of a workflow. -/
def plantedUpload : Upload := { filename := "wf::notes.txt", fileBytes := [] }

/-- A planted document is hidden from the other workflows. -/
theorem planted_hidden : ¬ ∀ (classes : CharacterClasses) (Embedding : Type)
    (readers : Readers Embedding) (backing : Backing) (events : List (Event classes))
    (upload : Upload) (record : Record Embedding),
      (upload, record) ∈ (Trace.run readers backing events).origins →
        ∀ workflowId, Generated classes workflowId →
          (record ∈ (Trace.run readers backing events).store.candidates (some workflowId) ↔
            upload.workflowId = none ∨ upload.workflowId = some workflowId) := by
  intro claim
  have visible := claim Frontend.latin1 Unit wordReaders .localFile _ _ _
    (stored_word plantedUpload nofun (by decide)) "other" (by decide)
  have member := visible.mpr (.inl rfl)
  rw [VectorStore.candidates, List.mem_filter, isCandidate_iff] at member
  rcases member.2 with starts | free
  · exact absurd starts (by decide)
  · exact absurd free (by decide)

end Samples

end ActionPlan.Rag
