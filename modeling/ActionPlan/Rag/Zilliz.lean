import ActionPlan.Foundation.FilterLanguage
import ActionPlan.Rag.Visibility
import Mathlib.Data.Bool.AllAny

/-! # The Zilliz store

`rag/zilliz.py`. Its search states as a filter expression which records are considered, where
the other stores compute it, and the two select the same records.
-/

namespace ActionPlan.Rag

open ActionPlan.Foundation ActionPlan.Foundation.FilterLanguage ActionPlan.Models

section SearchFilter

/-- `text.replace(old, new)` for a single character. -/
def replaceChar (old : Char) (new text : List Char) : List Char :=
  text.flatMap fun char => if char = old then new else [char]

/-- The workflow id with its special characters escaped, the backslashes first. -/
def escapedPrefix (workflowId : String) : List Char :=
  replaceChar '_' ['\\', '_'] <| replaceChar '%' ['\\', '%'] <| replaceChar '"' ['\\', '"'] <|
    replaceChar '\\' ['\\', '\\'] workflowId.toList

/-- The expression for the rows of a workflow and those of none. -/
def namespaceExpression (workflowId : String) : List Char :=
  "(source like r\"".toList ++ (escapedPrefix workflowId ++
    "::%\" or not (source like r\"%::%\"))".toList)

/-- `search_filter`. The empty one selects every row. -/
def searchFilter : Option String → List Char
  | none => []
  | some workflowId => namespaceExpression workflowId

/-- The characters that the replacements escape. -/
def isSpecial (char : Char) : Bool := ['\\', '"', '%', '_'].contains char

/-- Together the replacements escape each special character once: only the first one writes
what a later one could find, and it writes backslashes. -/
theorem escapedPrefix_eq (workflowId : String) :
    escapedPrefix workflowId = workflowId.toList.flatMap (escape isSpecial) := by
  unfold escapedPrefix replaceChar
  rw [List.flatMap_assoc, List.flatMap_assoc, List.flatMap_assoc]
  apply List.flatMap_congr
  intro char _
  by_cases backslash : char = '\\'
  · subst backslash
    rfl
  by_cases quote : char = '"'
  · subst quote
    rfl
  by_cases percent : char = '%'
  · subst percent
    rfl
  by_cases underscore : char = '_'
  · subst underscore
    rfl
  · simp [escape, isSpecial, backslash, quote, percent, underscore]

/-- The condition that a search for a workflow states. -/
def namespaceFilter (workflowId : String) : Filter :=
  .or (.like "source".toList ((workflowId.toList ++ [':', ':']).map .literal ++ [.anySequence]))
    (.not (.like "source".toList (.anySequence :: ([':', ':'].map .literal ++ [.anySequence]))))

theorem lex_opening (rest : List Char) :
    lex .nothing ("(source like r\"".toList ++ rest) = (lex (.raw []) rest).map fun symbols =>
      .opening :: .word "source".toList :: .word "like".toList :: symbols := by
  simp [lex, Function.comp_def]

theorem lex_closing (content : List Char) :
    lex (.raw content) "::%\" or not (source like r\"%::%\"))".toList = some
      [.raw (content ++ "::%".toList), .word "or".toList, .word "not".toList, .opening,
        .word "source".toList, .word "like".toList, .raw "%::%".toList, .closing, .closing] := by
  simp [lex]

/-- The symbols of the expression, with the contents of its two literals. -/
def namespaceSymbols (own any : List Char) : List Symbol :=
  [.opening, .word "source".toList, .word "like".toList, .raw own, .word "or".toList,
    .word "not".toList, .opening, .word "source".toList, .word "like".toList, .raw any,
    .closing, .closing]

/-- The id stays in the first literal. -/
theorem lex_namespaceExpression (workflowId : String) :
    lex .nothing (namespaceExpression workflowId) = some (namespaceSymbols
      (workflowId.toList.flatMap (escape isSpecial) ++ "::%".toList) "%::%".toList) := by
  have covered : ∀ char ∈ ['\\', '"'], isSpecial char = true :=
    List.all_iff_forall_prop.mp (by decide)
  have kept := lex_escape covered workflowId.toList
    "::%\" or not (source like r\"%::%\"))".toList []
  rw [List.nil_append, lex_closing] at kept
  unfold namespaceExpression
  rw [lex_opening, escapedPrefix_eq, kept, Option.map_some]
  rfl

theorem parseFilter_namespaceSymbols (own any : List Char) :
    parseFilter 26 (namespaceSymbols own any) =
      some (.or (.like "source".toList (readPattern own))
        (.not (.like "source".toList (readPattern any))), []) :=
  rfl

/-- The symbols of the expression are parsed to the condition. -/
theorem parse_namespaceExpression (workflowId : String) :
    parse (namespaceExpression workflowId) = some (namespaceFilter workflowId) := by
  have covered : ∀ char ∈ ['\\', '%', '_'], isSpecial char = true :=
    List.all_iff_forall_prop.mp (by decide)
  have own := readPattern_escape covered workflowId.toList "::%".toList
  have any : readPattern "%::%".toList =
      .anySequence :: ([':', ':'].map .literal ++ [.anySequence]) := by decide
  have ending : readPattern "::%".toList = [':', ':'].map .literal ++ [.anySequence] := by decide
  have depth (own any : List Char) : 2 * (namespaceSymbols own any).length + 2 = 26 := rfl
  unfold parse
  simp only [lex_namespaceExpression, Option.bind_eq_bind, Option.bind_some, depth,
    parseFilter_namespaceSymbols, ↓reduceIte, own, any, ending]
  rw [← List.append_assoc, ← List.map_append]
  rfl

theorem holds_namespaceFilter (workflowId : String) (row : List Char → List Char) :
    (namespaceFilter workflowId).holds row = true ↔
      workflowId.toList ++ [':', ':'] <+: row "source".toList ∨
        ¬[':', ':'] <:+: row "source".toList := by
  simp only [namespaceFilter, Filter.holds, Bool.or_eq_true, isLike_beginning, Bool.not_eq_true',
    ← Bool.not_eq_true, isLike_within]

end SearchFilter

section Entities

/-- A row of the collection. -/
structure Entity (Embedding : Type) where
  embedding : Embedding
  content : String
  source : String
  page : Nat
  documentType : String
  deriving DecidableEq, Repr

namespace Entity

variable {Embedding : Type} (entity : Entity Embedding)

/-- The row that `add` inserts for a record. -/
def ofRecord (record : Record Embedding) : Entity Embedding where
  embedding := record.embedding
  content := record.content
  source := record.metadata.source
  page := record.metadata.page
  documentType := record.metadata.documentType

/-- The record of a row. -/
def toRecord : Record Embedding where
  embedding := entity.embedding
  content := entity.content
  metadata := { source := entity.source, page := entity.page, documentType := entity.documentType }

/-- The field of a name that a filter can compare. -/
def text (name : List Char) : List Char :=
  if name = "source".toList then entity.source.toList
  else if name = "content".toList then entity.content.toList
  else if name = "document_type".toList then entity.documentType.toList
  else []

theorem text_source : entity.text "source".toList = entity.source.toList :=
  if_pos rfl

/-- The evidence that a search for a workflow makes of a row: its source without the workflow. -/
def evidence (workflowId : Option String) : Evidence where
  content := entity.content
  source := some <|
    match workflowId with
    | none => entity.source
    | some workflowId =>
      if (workflowId ++ "::").toList.isPrefixOf entity.source.toList then
        String.ofList (entity.source.toList.drop (workflowId.toList.length + 2))
      else entity.source
  page := some entity.page
  documentType := some entity.documentType

end Entity

/-- **The filter selects what the other stores consider.** The expression that
`ZillizVectorStore.search` writes for a workflow id is well formed and holds for the row of a
record if and only if `InMemoryVectorStore.search` scores the record: its source starts with the
id and the separator, or it has no separator. -/
theorem search_filter_selects_candidates {Embedding : Type} (workflowId : String)
    (record : Record Embedding) :
    ∃ filter, parse (searchFilter (some workflowId)) = some filter ∧
      (filter.holds (Entity.ofRecord record).text = true ↔
        VectorStore.isCandidate (some workflowId) record = true) ∧
      (VectorStore.isCandidate (some workflowId) record = true ↔
        workflowId.toList ++ "::".toList <+: record.metadata.source.toList ∨
          ¬"::".toList <:+: record.metadata.source.toList) := by
  refine ⟨namespaceFilter workflowId, parse_namespaceExpression workflowId, ?_, isCandidate_iff⟩
  rw [holds_namespaceFilter, Entity.text_source]
  exact isCandidate_iff.symm

example : escapedPrefix "a\\\"%_" = "a\\\\\\\"\\%\\_".toList := by decide +kernel

end Entities

section Collections

/-- `MilvusClient.search`: some of the rows that a filter selects, near ones first. -/
structure Client (Embedding : Type) where
  nearest : Embedding → Nat → List (Entity Embedding) → List (Entity Embedding)
  nearest_subset : ∀ embedding limit rows, nearest embedding limit rows ⊆ rows

/-- A collection for embeddings of one length. -/
structure ZillizVectorStore (Embedding : Type) where
  dimension : Nat
  entities : List (Entity Embedding) := []

namespace ZillizVectorStore

/-- What `add` and `search` raise for an embedding of another length. -/
def dimensionError (length dimension : Nat) : Exn :=
  .valueError ("Embedding dimension " ++ toString length ++
    " does not match Milvus collection dimension " ++ toString dimension ++
    ". Use the same embedding model for indexing and search.")

variable {Embedding : Type} (length : Embedding → Nat) (client : Client Embedding)
  (store : ZillizVectorStore Embedding)

/-- `add`. -/
def add (content : String) (metadata : Metadata) (embedding : Embedding) :
    Except Exn (ZillizVectorStore Embedding) :=
  if length embedding = store.dimension then
    .ok { store with
      entities := store.entities ++ [Entity.ofRecord { embedding, content, metadata }] }
  else .error (dimensionError (length embedding) store.dimension)

/-- The rows that the filter of a search selects, if it is an expression. -/
def selected (workflowId : Option String) : Option (List (Entity Embedding)) :=
  match searchFilter workflowId with
  | [] => some store.entities
  | expression => (parse expression).map fun filter =>
    store.entities.filter fun entity => filter.holds entity.text

/-- `search`. -/
def search (embedding : Embedding) (limit : Nat) (workflowId : Option String) :
    Except Exn (List Evidence) :=
  if length embedding = store.dimension then
    match store.selected workflowId with
    | none => .error (.upstream "invalid expression")
    | some rows => .ok ((client.nearest embedding limit rows).map fun entity =>
      entity.evidence workflowId)
  else .error (dimensionError (length embedding) store.dimension)

/-- The filter never fails, and it selects the candidates of the other stores. -/
theorem selected_eq (workflowId : Option String) :
    store.selected workflowId = some (store.entities.filter fun entity =>
      VectorStore.isCandidate workflowId entity.toRecord) := by
  cases workflowId with
  | none => simp [selected, searchFilter, VectorStore.isCandidate]
  | some workflowId =>
    have begun : ∃ first rest, searchFilter (some workflowId) = first :: rest := ⟨_, _, rfl⟩
    obtain ⟨first, rest, begun⟩ := begun
    have parsed : parse (first :: rest) = some (namespaceFilter workflowId) := by
      rw [← begun]
      exact parse_namespaceExpression workflowId
    simp only [selected, begun, parsed, Option.map_some, Option.some.injEq]
    apply List.filter_congr
    intro entity _
    rw [Bool.eq_iff_iff, holds_namespaceFilter, isCandidate_iff, Entity.text_source]
    rfl

end ZillizVectorStore

end Collections

end ActionPlan.Rag
