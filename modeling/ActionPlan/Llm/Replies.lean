import ActionPlan.Llm.Extraction
import ActionPlan.Models.Plan

/-! # Structured replies

`chat_json` of `llm/provider.py`, for the replies that the model gives to its prompts one after
the other.
-/

namespace ActionPlan.Llm

open ActionPlan.Foundation ActionPlan.Foundation.Json ActionPlan.Models

section Attempts

variable {Model : Type}

/-- A response model: the names of its fields, and `model_validate`, which may raise. -/
structure ResponseModel (Model : Type) where
  fields : List String
  validate : Json → Option Model

/-- `json.loads` on texts within the limits of the interpreter. The `ValueError` for a number of
more than 4300 digits and the `RecursionError` for deep nesting, which `chat_json` does not
catch, are left out. -/
abbrev Decoder := List Char → Except JSONDecodeError Json

/-- The errors that `chat_json` answers with another attempt. -/
inductive Rejection where
  | decode (error : JSONDecodeError)
  | schemaEcho (message : String)
  | validation

/-- `_SCHEMA_ONLY_KEYS`, sorted. -/
def schemaOnlyKeys : List String :=
  ["$defs", "$schema", "additionalProperties", "definitions", "properties", "type"]

/-- `_reject_schema_echo`. -/
def rejectSchemaEcho (parsed : Json) (fields : List String) : Except Rejection Unit :=
  match parsed with
  | .object entries =>
    let names := entries.map Prod.fst
    let echoed := schemaOnlyKeys.filter fun key => names.contains key
    if echoed ≠ [] ∧ ∀ name ∈ names, name ∉ fields then
      .error (.schemaEcho ("model returned a JSON schema (keys: " ++ ", ".intercalate echoed ++
        ") instead of populated data"))
    else .ok ()
  | _ => .ok ()

/-- The part of an attempt that follows the extraction. -/
def readDocument (loads : Decoder) (schema : ResponseModel Model) (document : List Char) :
    Except Rejection Model :=
  match loads document with
  | .error error => .error (.decode error)
  | .ok parsed =>
    match rejectSchemaEcho parsed schema.fields with
    | .error rejection => .error rejection
    | .ok () =>
      match schema.validate parsed with
      | none => .error .validation
      | some model => .ok model

/-- One attempt of `chat_json`, with the model's reply. -/
def attempt (loads : Decoder) (schema : ResponseModel Model) (raw : List Char) :
    Except Rejection Model :=
  match extractJson raw with
  | .error error => .error (.decode error)
  | .ok document => readDocument loads schema document

/-- The attempts from a number on: the first response, or the last error. -/
def attemptsFrom (loads : Decoder) (schema : ResponseModel Model) (replies : Nat → List Char)
    (number : Nat) : Nat → Except Rejection Model
  | 0 => attempt loads schema (replies number)
  | retries + 1 =>
    match attempt loads schema (replies number) with
    | .ok model => .ok model
    | .error _ => attemptsFrom loads schema replies (number + 1) retries

/-- `chat_json`, which raises a `RuntimeError` with the last error. -/
def chatJson (loads : Decoder) (schema : ResponseModel Model) (replies : Nat → List Char)
    (retries : Nat) : Except Rejection Model :=
  attemptsFrom loads schema replies 0 retries

variable {loads : Decoder} {schema : ResponseModel Model} {replies : Nat → List Char}

theorem attempt_of_attemptsFrom {number retries : Nat} {model : Model}
    (returned : attemptsFrom loads schema replies number retries = .ok model) :
    ∃ tried ≤ number + retries, attempt loads schema (replies tried) = .ok model := by
  induction retries generalizing number with
  | zero => exact ⟨number, Nat.le_refl _, returned⟩
  | succ retries ih =>
    rw [attemptsFrom] at returned
    cases tried : attempt loads schema (replies number) with
    | ok answer =>
      rw [tried] at returned
      exact ⟨number, Nat.le_add_right _ _, by rw [tried]; exact returned⟩
    | error rejection =>
      rw [tried] at returned
      obtain ⟨later, bound, answered⟩ := ih returned
      exact ⟨later, by omega, answered⟩

/-- A response is read from one of the replies. -/
theorem attempt_of_chatJson {retries : Nat} {model : Model}
    (returned : chatJson loads schema replies retries = .ok model) :
    ∃ tried ≤ retries, attempt loads schema (replies tried) = .ok model := by
  obtain ⟨tried, bound, answered⟩ := attempt_of_attemptsFrom returned
  exact ⟨tried, by omega, answered⟩

end Attempts

section WholeReplies

/-- A reply is read as its document, and never as a part of it. -/
structure ReadsWhole (reply document : List Char) : Prop where
  extracted : extractJson reply = .ok document
  validated : ∀ {Model : Type} (loads : Decoder) (schema : ResponseModel Model),
    attempt loads schema reply = readDocument loads schema document

variable {front document back : List Char}

theorem readsWhole_of_extracted {reply : List Char}
    (extracted : extractJson reply = .ok document) : ReadsWhole reply document where
  extracted := extracted
  validated := by
    intro Model loads schema
    rw [attempt, extracted]

/-- Where every reply is read as a whole, the response is one of the documents. -/
theorem document_of_chatJson {Model : Type} {loads : Decoder} {schema : ResponseModel Model}
    {replies documents : Nat → List Char} {retries : Nat} {model : Model}
    (whole : ∀ number ≤ retries, ReadsWhole (replies number) (documents number))
    (returned : chatJson loads schema replies retries = .ok model) :
    ∃ tried ≤ retries, readDocument loads schema (documents tried) = .ok model := by
  obtain ⟨tried, bound, answered⟩ := attempt_of_chatJson returned
  rw [(whole tried bound).validated] at answered
  exact ⟨tried, bound, answered⟩

/-- An array among prose is read as a whole exactly when no brace is in it and no fence costs it
its front. -/
theorem array_read_whole_iff (array : Derives .array document) (before : NoBrackets front)
    (after : NoBrackets back) :
    ReadsWhole (front ++ document ++ back) document ↔
      '{' ∉ document ∧ FenceSpares front document back := by
  constructor
  · intro whole
    exact ⟨(braces_of_array_extracted array.encloses_bracket whole.extracted).1,
      spared_of_array_extracted array.encloses_bracket after whole.extracted⟩
  · rintro ⟨braces, spared⟩
    exact readsWhole_of_extracted (array_extracted array before after braces spared)

/-- `RequirementExtraction`, given the validation of a `Requirement`. -/
structure RequirementExtraction where
  requirements : List Requirement := []

/-- Keys that no field has are ignored. -/
def requirementExtraction (validateRequirement : Json → Option Requirement) :
    ResponseModel RequirementExtraction where
  fields := ["requirements"]
  validate := fun parsed =>
    match parsed with
    | .object entries =>
      match entries.lookup "requirements" with
      | none => some { requirements := [] }
      | some (.array items) => (items.mapM validateRequirement).map fun requirements =>
        { requirements }
      | some _ => none
    | _ => none

/-- Of an array that begins with an object an attempt reads nothing but that object. -/
theorem attempt_array_of_objects {Model : Type} {loads : Decoder} {schema : ResponseModel Model}
    {blank object others : List Char} (space : IsBlank blank) (first : Derives .object object)
    (before : NoBrackets front) (ended : EndsFenceLine (front ++ ['['] ++ blank)) :
    attempt loads schema (front ++ ['['] ++ blank ++ object ++ others) =
      readDocument loads schema object := by
  have plain : '{' ∉ front ++ ['['] ++ blank := by
    intro member
    rcases List.mem_append.mp member with member | member
    · rcases List.mem_append.mp member with member | member
      · exact before _ member (by decide)
      · exact absurd member (by decide)
    · exact absurd (space _ member) (by decide)
  rw [attempt, extractJson_of_brace first.encloses_brace plain ended]

def stringArray : List Char := "[\"]\", []]".toList

theorem stringArray_read_whole :
    ReadsWhole ("Items: ".toList ++ stringArray ++ ".".toList) stringArray := by
  have text : IsString ('"' :: ([']'] ++ ['"'])) := .ofPlain [']'] (by decide)
  have empty : IsBlank [] := fun _ member => (List.not_mem_nil member).elim
  have array : Derives .array stringArray :=
    .array empty (.elements (.element (.string text)) empty isBlank_space
      (.element (.ofArray (.emptyArray empty)))) empty
  refine (array_read_whole_iff array ?_ ?_).mpr ⟨by decide, ?_⟩
  · exact List.all_iff_forall_prop.mp (by decide)
  · exact List.all_iff_forall_prop.mp (by decide)
  · unfold FenceSpares
    decide +kernel

/-- A requirement. -/
def requirementText : List Char := "\x7b\"id\":\"r1\",\"text\":\"t\"\x7d".toList

/-- The array of one requirement is extracted as the requirement, which passes for an extraction
without requirements. -/
theorem bare_array_read_as_nothing :
    Derives .array (['['] ++ requirementText ++ [']']) ∧
      ¬ReadsWhole (['['] ++ requirementText ++ [']']) (['['] ++ requirementText ++ [']']) ∧
      ∀ loads validateRequirement,
        loads requirementText =
            .ok (.object [("id", .string "r1"), ("text", .string "t")]) →
          chatJson loads (requirementExtraction validateRequirement)
            (fun _ => ['['] ++ requirementText ++ [']']) 2 = .ok { requirements := [] } := by
  have empty : IsBlank [] := fun _ member => (List.not_mem_nil member).elim
  have object : Derives .object requirementText :=
    .object empty
      (.members (.member (.ofPlain "id".toList (by decide)) empty empty
        (.string (.ofPlain "r1".toList (by decide)))) empty empty
        (.member (.ofPlain "text".toList (by decide)) empty empty
          (.string (.ofPlain "t".toList (by decide))))) empty
  have array : Derives .array ('[' :: ([] ++ requirementText ++ [] ++ [']'])) :=
    .array empty (.element (.ofObject object)) empty
  refine ⟨array, ?_, ?_⟩
  · intro whole
    have extracted : extractJson (['['] ++ requirementText ++ [']']) = .ok requirementText := by
      rfl
    rw [whole.extracted] at extracted
    exact absurd (Except.ok.inj extracted) (by decide)
  · intro loads validateRequirement decoded
    have nothing : NoBrackets [] := fun _ member => (List.not_mem_nil member).elim
    have ended : EndsFenceLine ([] ++ ['['] ++ []) := by
      unfold EndsFenceLine
      decide
    have answered : attempt loads (requirementExtraction validateRequirement)
        ([] ++ ['['] ++ [] ++ requirementText ++ [']']) = .ok { requirements := [] } := by
      rw [attempt_array_of_objects empty object nothing ended, readDocument, decoded]
      rfl
    simp only [List.nil_append, List.append_nil] at answered
    rw [chatJson, attemptsFrom, answered]

end WholeReplies

end ActionPlan.Llm
