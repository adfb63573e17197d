import ActionPlan.Foundation.TransitionSystem
import ActionPlan.Memory.Store

/-! # The files of the local store

`memory/local.py` with the steps in which a file is written and read. A writer holds the lock from
the truncation of its file to its closing; a reader opens a file and reads it to its end without
the lock. Any number of threads read while workflows are saved one after the other.
-/

namespace ActionPlan.Memory.LocalFiles

open ActionPlan.Foundation ActionPlan.Models

/-- How documents are kept in files: the JSON text of a document, and what is loaded from a text.
Nothing is loaded from a text that is no JSON, as the empty one is not. -/
structure Codec (Document : Type) where
  key : Document → String
  dump : Document → List Char
  load : List Char → Option Document
  copy : Document → Document
  newer : Document → Document → Bool
  load_dump : ∀ document, load (dump document) = some (copy document)
  load_nil : load [] = none

/-- Where a request thread stands in `get_workflow` or `list_workflows`. A request also notes
which workflows had been stored when it began. -/
inductive Reader (Document : Type) where
  | idle
  | looking (workflowId : String) (existed : Bool)
  | getting (workflowId : String) (existed : Bool) (text : List Char)
  | got (workflowId : String) (existed : Bool) (result : Option (Option Document))
  | scanning (rest owed : List String) (entries : List (String × Document))
  | collecting (workflowId : String) (text : List Char) (rest owed : List String)
      (entries : List (String × Document))
  | listed (owed : List String) (entries : List (String × Document))

/-- A thread in `save_workflow` that has truncated the file, with what is left to write. -/
structure Writer (Document : Type) where
  document : Document
  pending : List Char

/-- The directory of workflows, the holder of the lock, the request threads, and what has been
saved: the last state of each workflow, and all states. -/
structure Directory (Thread Document : Type) where
  files : Dict (List Char) := ∅
  writer : Option (Writer Document) := none
  readers : Thread → Reader Document
  stored : Dict Document := ∅
  history : List (String × Document) := []

/-- The steps of a reading call: it opens the file, reads it in pieces and answers. -/
inductive ReaderAction where
  | get (workflowId : String)
  | list
  | openFile
  | read (count : Nat)
  | finish
  | answer
  deriving DecidableEq, Repr

/-- The steps of the writer, between which a reader takes its own. -/
inductive Action (Thread Document : Type) where
  | truncate (document : Document)
  | write (count : Nat)
  | close
  | reader (thread : Thread) (action : ReaderAction)

variable {Thread Document : Type} (codec : Codec Document)

namespace Reader

/-- The thread has no request to finish. -/
def free : Reader Document → Bool
  | .idle | .got _ _ _ | .listed _ _ => true
  | _ => false

/-- The file that the thread has open. -/
def opened : Reader Document → Option String
  | .getting workflowId _ _ => some workflowId
  | .collecting workflowId _ _ _ _ => some workflowId
  | _ => none

/-- The file that the thread opens next. -/
def upcoming : Reader Document → Option String
  | .looking workflowId _ => some workflowId
  | .scanning (workflowId :: _) _ _ => some workflowId
  | _ => none

/-- A step of `get_workflow` or `list_workflows`. A listing leaves out what cannot be loaded. -/
def step (files : Dict (List Char)) (stored : Dict Document) :
    Reader Document → ReaderAction → Option (Reader Document)
  | reader, .get workflowId =>
    if reader.free then
      let existed := (stored.lookup workflowId).isSome
      if (files.lookup workflowId).isSome then some (.looking workflowId existed)
      else some (.got workflowId existed (some none))
    else none
  | reader, .list =>
    if reader.free then some (.scanning files.keys stored.keys []) else none
  | .looking workflowId existed, .openFile => some (.getting workflowId existed [])
  | .scanning (workflowId :: rest) owed entries, .openFile =>
    some (.collecting workflowId [] rest owed entries)
  | .getting workflowId existed text, .read count =>
    (files.lookup workflowId).map fun content =>
      .getting workflowId existed (text ++ (content.drop text.length).take count)
  | .collecting workflowId text rest owed entries, .read count =>
    (files.lookup workflowId).map fun content =>
      .collecting workflowId (text ++ (content.drop text.length).take count) rest owed entries
  | .getting workflowId existed text, .finish =>
    if ∀ content ∈ files.lookup workflowId, content.length ≤ text.length then
      some (.got workflowId existed ((codec.load text).map some))
    else none
  | .collecting workflowId text rest owed entries, .finish =>
    if ∀ content ∈ files.lookup workflowId, content.length ≤ text.length then
      match codec.load text with
      | some document => some (.scanning rest owed (entries ++ [(workflowId, document)]))
      | none => some (.scanning rest owed entries)
    else none
  | .scanning [] owed entries, .answer =>
    some (.listed owed (entries.mergeSort fun first second => codec.newer first.2 second.2))
  | _, _ => none

end Reader

namespace Directory

variable (directory : Directory Thread Document)

/-- The directory before anything is saved. -/
def initial : Directory Thread Document where
  readers _ := .idle

/-- A step of a writer or of a reader. -/
def step [DecidableEq Thread] : Action Thread Document → Option (Directory Thread Document)
  | .truncate document =>
    match directory.writer with
    | some _ => none
    | none => some { directory with
      files := directory.files.insert (codec.key document) []
      writer := some { document, pending := codec.dump document } }
  | .write count =>
    directory.writer.map fun writer =>
      let written := (directory.files.lookup (codec.key writer.document)).getD []
      { directory with
        files := directory.files.insert (codec.key writer.document)
          (written ++ writer.pending.take count)
        writer := some { writer with pending := writer.pending.drop count } }
  | .close =>
    match directory.writer with
    | none => none
    | some writer =>
      if writer.pending = [] then
        let saved := codec.copy writer.document
        some { directory with
          writer := none
          stored := directory.stored.insert (codec.key writer.document) saved
          history := directory.history ++ [(codec.key writer.document, saved)] }
      else none
  | .reader thread action =>
    ((directory.readers thread).step codec directory.files directory.stored action).map fun moved =>
      { directory with readers := Function.update directory.readers thread moved }

/-- The file of a workflow is between its truncation and its closing. -/
def Writing (workflowId : String) : Prop :=
  ∃ writer ∈ directory.writer, codec.key writer.document = workflowId

end Directory

/-- Saves and requests in any order. -/
def system [DecidableEq Thread] :
    TransitionSystem (Directory Thread Document) (Action Thread Document) where
  step directory action := directory.step codec action

/-- No thread reads a file while it is written: a file is truncated only when no thread has it
open, and opened only when it is not being written. -/
def Undisturbed (directory : Directory Thread Document) : Action Thread Document → Prop
  | .truncate document => ∀ thread, (directory.readers thread).opened ≠ some (codec.key document)
  | .reader thread .openFile =>
    ∀ workflowId ∈ (directory.readers thread).upcoming, ¬directory.Writing codec workflowId
  | _ => True

section Completeness

/-- What a request that has ended may have read: a state that was saved, and one in any case for
a workflow that had been stored when the request began. -/
def Reader.Complete (history : List (String × Document)) : Reader Document → Prop
  | .got workflowId existed result => ∃ found, result = some found ∧
    (∀ document ∈ found, (workflowId, document) ∈ history) ∧ (existed = true → found ≠ none)
  | .listed owed entries => (∀ workflowId ∈ owed, ∃ document, (workflowId, document) ∈ entries) ∧
    ∀ entry ∈ entries, entry ∈ history
  | _ => True

/-- A listing under way: what is owed is still to be read, or it is among the entries. -/
structure Listing (directory : Directory Thread Document) (rest owed : List String)
    (entries : List (String × Document)) : Prop where
  owed : ∀ workflowId ∈ owed, workflowId ∈ rest ∨ ∃ document, (workflowId, document) ∈ entries
  saved : ∀ entry ∈ entries, entry ∈ directory.history
  present : ∀ workflowId ∈ rest, (directory.files.lookup workflowId).isSome

/-- An open file is not being written, and what was read of it is its beginning. -/
structure Reading (directory : Directory Thread Document) (workflowId : String)
    (text : List Char) : Prop where
  quiet : ¬directory.Writing codec workflowId
  beginning : ∃ content, directory.files.lookup workflowId = some content ∧ text <+: content

/-- What holds of a thread between its steps. -/
def Reader.Valid (directory : Directory Thread Document) : Reader Document → Prop
  | .looking workflowId _ => (directory.files.lookup workflowId).isSome
  | .getting workflowId _ text => Reading codec directory workflowId text
  | .scanning rest owed entries => Listing directory rest owed entries
  | .collecting workflowId text rest owed entries => Reading codec directory workflowId text ∧
    Listing directory (workflowId :: rest) owed entries
  | reader => reader.Complete directory.history

/-- What holds between the steps of undisturbed runs. A file that is not being written holds the
last state of its workflow. -/
structure Invariant (directory : Directory Thread Document) : Prop where
  whole : ∀ workflowId content, ¬directory.Writing codec workflowId →
    directory.files.lookup workflowId = some content →
      ∃ document, directory.stored.lookup workflowId = some document ∧
        codec.load content = some document
  partial_write : ∀ writer ∈ directory.writer, ∃ content,
    directory.files.lookup (codec.key writer.document) = some content ∧
      content ++ writer.pending = codec.dump writer.document
  present : ∀ workflowId, (directory.stored.lookup workflowId).isSome →
    (directory.files.lookup workflowId).isSome
  recorded : ∀ workflowId document, directory.stored.lookup workflowId = some document →
    (workflowId, document) ∈ directory.history
  readers : ∀ thread, (directory.readers thread).Valid codec directory

theorem invariant_initial : Invariant codec (Directory.initial : Directory Thread Document) where
  whole := by
    intro workflowId content _ found
    cases found
  partial_write := by
    intro writer holder
    cases holder
  present := by
    intro workflowId found
    cases found
  recorded := by
    intro workflowId document found
    cases found
  readers _ := trivial

end Completeness

section Readers

variable {codec} {directory : Directory Thread Document} {workflowId : String}

/-- An open file that is read further. -/
theorem Reading.read {text content : List Char} (reading : Reading codec directory workflowId text)
    (held : directory.files.lookup workflowId = some content) (count : Nat) :
    Reading codec directory workflowId (text ++ (content.drop text.length).take count) := by
  obtain ⟨found, present, rest, rfl⟩ := reading.beginning
  rw [held] at present
  cases present
  refine ⟨reading.quiet, text ++ rest, held, ?_⟩
  rw [List.drop_left]
  exact (List.prefix_append_right_inj text).mpr (List.take_prefix count rest)

/-- A file that is read to its end is loaded as the last state of its workflow. -/
theorem Reading.finish {text : List Char} (holds : Invariant codec directory)
    (reading : Reading codec directory workflowId text)
    (ended : ∀ content ∈ directory.files.lookup workflowId, content.length ≤ text.length) :
    ∃ document, codec.load text = some document ∧
      directory.stored.lookup workflowId = some document := by
  obtain ⟨content, held, beginning⟩ := reading.beginning
  have read : text = content := beginning.eq_of_length_le (ended content held)
  obtain ⟨document, stored, loaded⟩ := holds.whole workflowId content reading.quiet held
  exact ⟨document, read ▸ loaded, stored⟩

/-- A listing begins with every file, and so with every workflow that is stored. -/
theorem listing_keys (holds : Invariant codec directory) :
    Listing directory directory.files.keys directory.stored.keys [] where
  owed := by
    intro workflowId stored
    have found := AList.lookup_isSome.mpr (AList.mem_keys.mpr stored)
    have held := AList.lookup_isSome.mp (holds.present workflowId found)
    exact .inl (AList.mem_keys.mp held)
  saved := by
    intro entry member
    cases member
  present := fun workflowId member => AList.lookup_isSome.mpr (AList.mem_keys.mpr member)

/-- A file whose state is listed is no longer to be read. -/
theorem Listing.add {rest owed : List String} {entries : List (String × Document)}
    (listing : Listing directory (workflowId :: rest) owed entries) {document : Document}
    (saved : (workflowId, document) ∈ directory.history) :
    Listing directory rest owed (entries ++ [(workflowId, document)]) where
  owed := by
    intro other member
    rcases listing.owed other member with later | ⟨found, listed⟩
    · rcases List.mem_cons.mp later with rfl | later
      · exact .inr ⟨document, List.mem_append_right _ List.mem_cons_self⟩
      · exact .inl later
    · exact .inr ⟨found, List.mem_append_left _ listed⟩
  saved := by
    intro entry member
    rcases List.mem_append.mp member with listed | added
    · exact listing.saved entry listed
    · rw [List.mem_singleton.mp added]
      exact saved
  present := fun other member => listing.present other (List.mem_cons_of_mem _ member)

/-- One step of a request keeps what holds of its thread. -/
theorem Reader.step_valid (holds : Invariant codec directory) {reader moved : Reader Document}
    {action : ReaderAction} (valid : reader.Valid codec directory)
    (undisturbed : action = .openFile → ∀ workflowId ∈ reader.upcoming,
      ¬directory.Writing codec workflowId)
    (stepped : reader.step codec directory.files directory.stored action = some moved) :
    moved.Valid codec directory := by
  cases action with
  | get workflowId =>
    by_cases free : reader.free = true
    · by_cases held : (directory.files.lookup workflowId).isSome = true
      · simp only [Reader.step, free, held, ↓reduceIte, Option.some.injEq] at stepped
        subst stepped
        exact held
      · simp only [Reader.step, free, held, ↓reduceIte, Bool.false_eq_true,
          Option.some.injEq] at stepped
        subst stepped
        refine ⟨none, rfl, fun document member => (Option.not_mem_none document member).elim, ?_⟩
        intro existed
        exact absurd (holds.present workflowId existed) held
    · simp only [Reader.step, free, ↓reduceIte, Bool.false_eq_true, reduceCtorEq] at stepped
  | list =>
    by_cases free : reader.free = true
    · simp only [Reader.step, free, ↓reduceIte, Option.some.injEq] at stepped
      subst stepped
      exact listing_keys holds
    · simp only [Reader.step, free, ↓reduceIte, Bool.false_eq_true, reduceCtorEq] at stepped
  | openFile =>
    cases reader with
    | looking workflowId existed =>
      cases stepped
      obtain ⟨content, held⟩ := Option.isSome_iff_exists.mp valid
      exact ⟨undisturbed rfl workflowId rfl, content, held, List.nil_prefix⟩
    | scanning rest owed entries =>
      cases rest with
      | nil => cases stepped
      | cons workflowId rest =>
        cases stepped
        obtain ⟨content, held⟩ := Option.isSome_iff_exists.mp
          (valid.present workflowId List.mem_cons_self)
        exact ⟨⟨undisturbed rfl workflowId rfl, content, held, List.nil_prefix⟩, valid⟩
    | _ => cases stepped
  | read count =>
    cases reader with
    | getting workflowId existed text =>
      obtain ⟨content, held, rfl⟩ := Option.map_eq_some_iff.mp stepped
      exact Reading.read valid held count
    | collecting workflowId text rest owed entries =>
      obtain ⟨content, held, rfl⟩ := Option.map_eq_some_iff.mp stepped
      exact ⟨Reading.read valid.1 held count, valid.2⟩
    | _ => cases stepped
  | finish =>
    cases reader with
    | getting workflowId existed text =>
      by_cases ended : ∀ content ∈ directory.files.lookup workflowId, content.length ≤ text.length
      · obtain ⟨document, loaded, stored⟩ := Reading.finish holds valid ended
        have result := (if_pos ended).symm.trans stepped
        rw [loaded] at result
        cases result
        refine ⟨some document, rfl, ?_, fun _ => Option.some_ne_none document⟩
        intro found same
        rw [← Option.mem_some.mp same]
        exact holds.recorded workflowId document stored
      · cases (if_neg ended).symm.trans stepped
    | collecting workflowId text rest owed entries =>
      by_cases ended : ∀ content ∈ directory.files.lookup workflowId, content.length ≤ text.length
      · obtain ⟨document, loaded, stored⟩ := Reading.finish holds valid.1 ended
        have result := (if_pos ended).symm.trans stepped
        rw [loaded] at result
        cases result
        exact valid.2.add (holds.recorded workflowId document stored)
      · cases (if_neg ended).symm.trans stepped
    | _ => cases stepped
  | answer =>
    cases reader with
    | scanning rest owed entries =>
      cases rest with
      | cons workflowId rest => cases stepped
      | nil =>
        cases stepped
        refine ⟨?_, ?_⟩
        · intro workflowId member
          rcases valid.owed workflowId member with later | ⟨document, listed⟩
          · cases later
          · exact ⟨document, List.mem_mergeSort.mpr listed⟩
        · intro entry member
          exact valid.saved entry (List.mem_mergeSort.mp member)
    | _ => cases stepped

end Readers

section Writers

variable {codec} {before after : Directory Thread Document}

theorem Listing.frame {rest owed : List String} {entries : List (String × Document)}
    (listing : Listing before rest owed entries)
    (present : ∀ workflowId, (before.files.lookup workflowId).isSome →
      (after.files.lookup workflowId).isSome)
    (recorded : ∀ entry ∈ before.history, entry ∈ after.history) :
    Listing after rest owed entries where
  owed := listing.owed
  saved := fun entry member => recorded entry (listing.saved entry member)
  present := fun workflowId member => present workflowId (listing.present workflowId member)

theorem Reader.Complete.frame {reader : Reader Document}
    (complete : reader.Complete before.history)
    (recorded : ∀ entry ∈ before.history, entry ∈ after.history) :
    reader.Complete after.history := by
  cases reader with
  | got workflowId existed result =>
    obtain ⟨found, same, saved, stored⟩ := complete
    exact ⟨found, same, fun document member => recorded _ (saved document member), stored⟩
  | listed owed entries =>
    exact ⟨complete.1, fun entry member => recorded entry (complete.2 entry member)⟩
  | _ => trivial

/-- A writer's step keeps what holds of a thread that does not have the file open. -/
theorem Reader.Valid.frame {reader : Reader Document} (valid : reader.Valid codec before)
    (present : ∀ workflowId, (before.files.lookup workflowId).isSome →
      (after.files.lookup workflowId).isSome)
    (recorded : ∀ entry ∈ before.history, entry ∈ after.history)
    (open_kept : ∀ workflowId text, reader.opened = some workflowId →
      Reading codec before workflowId text → Reading codec after workflowId text) :
    reader.Valid codec after := by
  cases reader with
  | looking workflowId existed => exact present workflowId valid
  | getting workflowId existed text => exact open_kept workflowId text rfl valid
  | scanning rest owed entries => exact Listing.frame valid present recorded
  | collecting workflowId text rest owed entries =>
    exact ⟨open_kept workflowId text rfl valid.1, valid.2.frame present recorded⟩
  | idle => trivial
  | got workflowId existed result =>
    have complete : (Reader.got workflowId existed result).Complete before.history := valid
    exact complete.frame recorded
  | listed owed entries =>
    have complete : (Reader.listed owed entries).Complete before.history := valid
    exact complete.frame recorded

variable [DecidableEq Thread]

omit [DecidableEq Thread] in
theorem writing_iff {writer : Writer Document} (holder : before.writer = some writer)
    {workflowId : String} :
    before.Writing codec workflowId ↔ codec.key writer.document = workflowId := by
  simp only [Directory.Writing, holder, Option.mem_def, Option.some.injEq, exists_eq_left']

omit [DecidableEq Thread] in
theorem not_writing_of_unlocked (unlocked : before.writer = none) (workflowId : String) :
    ¬before.Writing codec workflowId := by
  simp only [Directory.Writing, unlocked, Option.mem_def, reduceCtorEq, false_and, exists_false,
    not_false_eq_true]

/-- A file is truncated when the lock is free. -/
theorem unlocked_of_truncate {document : Document}
    (stepped : before.step codec (.truncate document) = some after) :
    before.writer = none ∧
      after = { before with
        files := before.files.insert (codec.key document) []
        writer := some { document, pending := codec.dump document } } := by
  cases unlocked : before.writer with
  | some writer => simp only [Directory.step, unlocked, reduceCtorEq] at stepped
  | none =>
    simp only [Directory.step, unlocked, Option.some.injEq] at stepped
    exact ⟨rfl, stepped.symm⟩

/-- A file is closed when all of its document is written. -/
theorem written_of_close (stepped : before.step codec .close = some after) :
    ∃ writer, before.writer = some writer ∧ writer.pending = [] ∧
      after = { before with
        writer := none
        stored := before.stored.insert (codec.key writer.document) (codec.copy writer.document)
        history := before.history ++
          [(codec.key writer.document, codec.copy writer.document)] } := by
  cases holder : before.writer with
  | none => simp only [Directory.step, holder, reduceCtorEq] at stepped
  | some writer =>
    by_cases written : writer.pending = []
    · simp only [Directory.step, holder, written, ↓reduceIte, Option.some.injEq] at stepped
      exact ⟨writer, rfl, written, stepped.symm⟩
    · simp only [Directory.step, holder, written, ↓reduceIte, reduceCtorEq] at stepped

omit [DecidableEq Thread] in
theorem Reader.Valid.not_opened {reader : Reader Document} {workflowId : String}
    (valid : reader.Valid codec before) (writing : before.Writing codec workflowId) :
    reader.opened ≠ some workflowId := by
  intro opened
  cases reader with
  | getting read existed text =>
    cases opened
    exact valid.quiet writing
  | collecting read text rest owed entries =>
    cases opened
    exact valid.1.quiet writing
  | _ => cases opened

omit [DecidableEq Thread] in
/-- The contents of a file are replaced for a writer while no thread has it open. -/
theorem Invariant.overwrite (holds : Invariant codec before) (writer : Writer Document)
    (content : List Char)
    (whole : content ++ writer.pending = codec.dump writer.document)
    (others : ∀ workflowId, before.Writing codec workflowId →
      workflowId = codec.key writer.document)
    (closed : ∀ thread, (before.readers thread).opened ≠ some (codec.key writer.document)) :
    Invariant codec
      { before with
        files := before.files.insert (codec.key writer.document) content,
        writer := some writer } := by
  have kept {workflowId : String} (different : workflowId ≠ codec.key writer.document) :
      (before.files.insert (codec.key writer.document) content).lookup workflowId =
        before.files.lookup workflowId := AList.lookup_insert_ne different
  have present (workflowId : String) (held : (before.files.lookup workflowId).isSome) :
      ((before.files.insert (codec.key writer.document) content).lookup workflowId).isSome := by
    by_cases same : workflowId = codec.key writer.document
    · rw [same, AList.lookup_insert]
      rfl
    · rwa [kept same]
  refine ⟨?_, ?_, ?_, holds.recorded, ?_⟩
  · intro workflowId other quiet held
    have different : workflowId ≠ codec.key writer.document :=
      fun same => quiet ((writing_iff rfl).mpr same.symm)
    rw [kept different] at held
    exact holds.whole workflowId other (fun writing => different (others workflowId writing)) held
  · intro holder same
    cases same
    exact ⟨content, AList.lookup_insert _, whole⟩
  · intro workflowId stored
    exact present workflowId (holds.present workflowId stored)
  · intro thread
    refine (holds.readers thread).frame present (fun entry member => member) ?_
    intro workflowId text opened reading
    have different : workflowId ≠ codec.key writer.document :=
      fun same => closed thread (same ▸ opened)
    refine ⟨fun writing => different ((writing_iff rfl).mp writing).symm, ?_⟩
    obtain ⟨found, held, beginning⟩ := reading.beginning
    exact ⟨found, (kept different).trans held, beginning⟩

/-- A file that no thread has open is truncated. -/
theorem Invariant.truncate {document : Document} (holds : Invariant codec before)
    (undisturbed : ∀ thread, (before.readers thread).opened ≠ some (codec.key document))
    (stepped : before.step codec (.truncate document) = some after) : Invariant codec after := by
  obtain ⟨unlocked, rfl⟩ := unlocked_of_truncate stepped
  refine holds.overwrite { document, pending := codec.dump document } [] rfl ?_ undisturbed
  exact fun workflowId writing => absurd writing (not_writing_of_unlocked unlocked workflowId)

/-- A piece is written to the file that the lock is held for. -/
theorem Invariant.write {count : Nat} (holds : Invariant codec before)
    (stepped : before.step codec (.write count) = some after) : Invariant codec after := by
  obtain ⟨writer, holder, rfl⟩ := Option.map_eq_some_iff.mp stepped
  obtain ⟨written, held, whole⟩ := holds.partial_write writer holder
  have writing : before.Writing codec (codec.key writer.document) := (writing_iff holder).mpr rfl
  refine holds.overwrite { writer with pending := writer.pending.drop count } _ ?_ ?_ ?_
  · rw [held, Option.getD_some, List.append_assoc, List.take_append_drop, whole]
  · exact fun workflowId other => ((writing_iff holder).mp other).symm
  · exact fun thread => (holds.readers thread).not_opened writing

/-- A file that is closed holds the document as a whole. -/
theorem Invariant.close (holds : Invariant codec before)
    (stepped : before.step codec .close = some after) : Invariant codec after := by
  obtain ⟨writer, holder, written, rfl⟩ := written_of_close stepped
  obtain ⟨content, held, whole⟩ := holds.partial_write writer holder
  rw [written, List.append_nil] at whole
  subst whole
  refine ⟨?_, ?_, ?_, ?_, ?_⟩
  · intro workflowId content _ found
    by_cases same : workflowId = codec.key writer.document
    · subst same
      cases held.symm.trans found
      exact ⟨codec.copy writer.document, AList.lookup_insert _,
        codec.load_dump writer.document⟩
    · obtain ⟨document, stored, loaded⟩ := holds.whole workflowId content
        (fun writing => same ((writing_iff holder).mp writing).symm) found
      exact ⟨document, (AList.lookup_insert_ne same).trans stored, loaded⟩
  · intro other same
    cases same
  · intro workflowId stored
    by_cases same : workflowId = codec.key writer.document
    · rw [same, held]
      rfl
    · rw [AList.lookup_insert_ne same] at stored
      exact holds.present workflowId stored
  · intro workflowId document stored
    by_cases same : workflowId = codec.key writer.document
    · subst same
      cases (AList.lookup_insert _).symm.trans stored
      exact List.mem_append_right _ List.mem_cons_self
    · rw [AList.lookup_insert_ne same] at stored
      exact List.mem_append_left _ (holds.recorded workflowId document stored)
  · intro thread
    refine (holds.readers thread).frame (fun workflowId held => held)
      (fun entry member => List.mem_append_left _ member) ?_
    intro workflowId text _ reading
    exact ⟨not_writing_of_unlocked rfl workflowId, reading.beginning⟩

/-- A request goes on. -/
theorem Invariant.reader {thread : Thread} {action : ReaderAction}
    (holds : Invariant codec before)
    (undisturbed : Undisturbed codec before (.reader thread action))
    (stepped : before.step codec (.reader thread action) = some after) :
    Invariant codec after := by
  obtain ⟨moved, taken, rfl⟩ := Option.map_eq_some_iff.mp stepped
  have valid : moved.Valid codec before := by
    refine Reader.step_valid holds (holds.readers thread) ?_ taken
    rintro rfl
    exact undisturbed
  refine ⟨holds.whole, holds.partial_write, holds.present, holds.recorded, ?_⟩
  intro other
  have kept : (Function.update before.readers thread moved other).Valid codec before := by
    by_cases same : other = thread
    · rw [same, Function.update_self]
      exact valid
    · rw [Function.update_of_ne same]
      exact holds.readers other
  exact kept.frame (fun _ held => held) (fun _ member => member)
    fun _ _ _ reading => ⟨reading.quiet, reading.beginning⟩

/-- Every undisturbed step keeps the invariant. -/
theorem Invariant.step (holds : Invariant codec before) (action : Action Thread Document)
    (undisturbed : Undisturbed codec before action)
    (stepped : before.step codec action = some after) : Invariant codec after := by
  cases action with
  | truncate document => exact holds.truncate undisturbed stepped
  | write count => exact holds.write stepped
  | close => exact holds.close stepped
  | reader thread action => exact holds.reader undisturbed stepped

end Writers

theorem Reader.Valid.complete {codec : Codec Document} {directory : Directory Thread Document}
    {reader : Reader Document} (valid : reader.Valid codec directory) :
    reader.Complete directory.history := by
  cases reader with
  | got workflowId existed result => exact valid
  | listed owed entries => exact valid
  | _ => trivial

/-- **Undisturbed reads are complete.** In every run in which no thread reads a file while it is
written, `get_workflow` never raises and returns a saved state of the workflow, and one in any
case when the workflow had been stored before; and `list_workflows` returns saved states, with
one of every workflow that had been stored. -/
theorem undisturbed_reads_complete [DecidableEq Thread] {final : Directory Thread Document}
    (run : (system codec).Run (Undisturbed codec) Directory.initial final) (thread : Thread) :
    (final.readers thread).Complete final.history := by
  have holds : Invariant codec final := by
    refine TransitionSystem.Run.invariant (Invariant codec) ?_ (invariant_initial codec) run
    intro source action target holds undisturbed stepped
    exact holds.step action undisturbed stepped
  exact (holds.readers thread).complete

section Refinement

/-- The directory holds what the store of `Memory.Store` holds. -/
def Represents (directory : Directory Thread WorkflowState) (store : MemoryStore) : Prop :=
  store.backend = .localStore ∧
    ∀ workflowId, directory.stored.lookup workflowId = store.getWorkflow workflowId

variable [DecidableEq Thread] {codec : Codec WorkflowState}
  {before after : Directory Thread WorkflowState} {store : MemoryStore}

/-- A file that is closed is a workflow that is saved; no other step changes what is stored. -/
theorem Represents.step (keyed : ∀ workflow, codec.key workflow = workflow.workflowId)
    (copied : ∀ workflow, codec.copy workflow = workflow.jsonCopy)
    (represents : Represents before store) {action : Action Thread WorkflowState}
    (stepped : before.step codec action = some after) :
    Represents after store ∨ ∃ workflow, Represents after (store.saveWorkflow workflow) := by
  cases action with
  | truncate document =>
    obtain ⟨-, rfl⟩ := unlocked_of_truncate stepped
    exact .inl represents
  | write count =>
    obtain ⟨writer, -, rfl⟩ := Option.map_eq_some_iff.mp stepped
    exact .inl represents
  | reader thread action =>
    obtain ⟨moved, -, rfl⟩ := Option.map_eq_some_iff.mp stepped
    exact .inl represents
  | close =>
    obtain ⟨writer, -, -, rfl⟩ := written_of_close stepped
    refine .inr ⟨writer.document, represents.1, ?_⟩
    intro workflowId
    by_cases same : workflowId = writer.document.workflowId
    · rw [same, keyed, AList.lookup_insert, copied, MemoryStore.getWorkflow_saveWorkflow,
        represents.1]
      rfl
    · rw [keyed, AList.lookup_insert_ne same, represents.2,
        MemoryStore.getWorkflow_saveWorkflow_of_ne _ same]

/-- In every run the directory holds what saving workflows one after the other stores. -/
theorem represents_run (keyed : ∀ workflow, codec.key workflow = workflow.workflowId)
    (copied : ∀ workflow, codec.copy workflow = workflow.jsonCopy)
    {guard : Directory Thread WorkflowState → Action Thread WorkflowState → Prop}
    (run : (system codec).Run guard Directory.initial after) :
    ∃ workflows : List WorkflowState,
      Represents after (workflows.foldl MemoryStore.saveWorkflow { backend := .localStore }) := by
  refine TransitionSystem.Run.invariant (fun directory => ∃ workflows : List WorkflowState,
    Represents directory (workflows.foldl MemoryStore.saveWorkflow { backend := .localStore }))
    ?_ ⟨[], rfl, fun _ => rfl⟩ run
  rintro source action target ⟨workflows, represents⟩ - stepped
  rcases represents.step keyed copied stepped with same | ⟨workflow, saved⟩
  · exact ⟨workflows, same⟩
  · exact ⟨workflows ++ [workflow], by rwa [List.foldl_append]⟩

omit [DecidableEq Thread] in
/-- A file that is read to its end undisturbed gives what `getWorkflow` of the store gives. -/
theorem Reading.finish_getWorkflow {workflowId : String} {text : List Char}
    (represents : Represents before store) (holds : Invariant codec before)
    (reading : Reading codec before workflowId text)
    (ended : ∀ content ∈ before.files.lookup workflowId, content.length ≤ text.length) :
    codec.load text = store.getWorkflow workflowId := by
  obtain ⟨document, loaded, stored⟩ := reading.finish holds ended
  rw [loaded, ← stored, represents.2]

end Refinement

section Samples

/-- One document, as the text of an empty object. -/
def unitCodec : Codec Unit where
  key _ := "wf"
  dump _ := ['{', '}']
  load text := if text = ['{', '}'] then some () else none
  copy := id
  newer _ _ := false
  load_dump _ := rfl
  load_nil := rfl

/-- A thread reads the workflow between two saves. -/
def readAfterSave : List (Action Unit Unit) :=
  [.truncate (), .write 2, .close, .reader () (.get "wf"), .reader () .openFile,
    .reader () (.read 2), .reader () .finish, .truncate ()]

/-- A thread reads the workflow after its second save has begun. -/
def readDuringSave : List (Action Unit Unit) :=
  [.truncate (), .write 2, .close, .truncate (), .reader () (.get "wf"), .reader () .openFile,
    .reader () .finish]

theorem allows_readAfterSave : (system unitCodec).Allows (Undisturbed unitCodec)
    (Directory.initial : Directory Unit Unit) readAfterSave := by
  refine .cons ?_ rfl (.cons trivial rfl (.cons trivial rfl (.cons trivial rfl
    (.cons ?_ rfl (.cons trivial rfl (.cons trivial rfl (.cons ?_ rfl trivial)))))))
  · intro thread opened
    cases opened
  · rintro workflowId - ⟨writer, ⟨⟩, -⟩
  · intro thread opened
    cases opened

theorem read_complete_after_save : ∃ final : Directory Unit Unit,
    (system unitCodec).runFrom Directory.initial readAfterSave = some final ∧
      final.readers () = .got "wf" true (some (some ())) ∧
      (final.readers ()).Complete final.history :=
  ⟨_, rfl, rfl, undisturbed_reads_complete unitCodec
    (TransitionSystem.run_of_allows readAfterSave allows_readAfterSave rfl) ()⟩

/-- The read raises, while the workflow is stored. -/
theorem read_raises_during_save : ¬ ∀ final : Directory Unit Unit,
    (system unitCodec).Run TransitionSystem.unguarded Directory.initial final →
      ∀ thread, (final.readers thread).Complete final.history := by
  intro claim
  have executed : ∃ final : Directory Unit Unit,
      (system unitCodec).runFrom Directory.initial readDuringSave = some final ∧
        final.readers () = .got "wf" true none := ⟨_, rfl, rfl⟩
  obtain ⟨final, executed, raised⟩ := executed
  have complete := claim final (TransitionSystem.run_of_runFrom readDuringSave executed) ()
  rw [raised] at complete
  obtain ⟨found, impossible, -⟩ := complete
  cases impossible

end Samples

end ActionPlan.Memory.LocalFiles
