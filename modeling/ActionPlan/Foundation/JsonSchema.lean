import ActionPlan.Foundation.Json

/-! # JSON Schema

A schema is itself a JSON object. A value conforms to it if it satisfies each of its keywords; the
annotations ask for nothing.
-/

namespace ActionPlan.Foundation.JsonSchema

open Json

/-- The keys and values of a JSON object. -/
abbrev Fields := List (String × Json)

/-- The types that `type` names. -/
inductive HasType : Json → String → Prop
  | null : HasType .null "null"
  | boolean (flag : Bool) : HasType (.bool flag) "boolean"
  | integer (number : Int) : HasType (.int number) "integer"
  | whole (number : Int) : HasType (.int number) "number"
  | number (literal : String) : HasType (.float literal) "number"
  | string (text : String) : HasType (.string text) "string"
  | array (items : List Json) : HasType (.array items) "array"
  | object (fields : Fields) : HasType (.object fields) "object"

/-- A name as a JSON pointer writes it. -/
def escapeName (name : String) : String :=
  String.ofList (name.toList.flatMap fun char =>
    if char = '~' then ['~', '0'] else if char = '/' then ['~', '1'] else [char])

/-- A reference to a definition. -/
def pointer (name : String) : String := "#/$defs/" ++ escapeName name

/-- The keys that ask for nothing. -/
def annotations : List String := ["title", "description", "default", "$defs"]

mutual

/-- A value has everything that the keywords of a schema ask for. -/
inductive Conforms (defs : Fields) : Json → Json → Prop
  | node {entries : Fields} {value : Json}
      (each : ∀ key argument, entries.lookup key = some argument →
        Satisfies defs key argument value) : Conforms defs (.object entries) value

/-- What each keyword asks for. Those for values of another type ask for nothing, and the bounds of
numbers are for whole ones. -/
inductive Satisfies (defs : Fields) : String → Json → Json → Prop
  | ignored {key : String} {argument value : Json} (named : key ∈ annotations) :
      Satisfies defs key argument value
  | ref {name : String} {schema value : Json} (defined : defs.lookup name = some schema)
      (conforms : Conforms defs schema value) :
      Satisfies defs "$ref" (.string (pointer name)) value
  | anyOf {alternatives : List Json} {chosen value : Json} (member : chosen ∈ alternatives)
      (conforms : Conforms defs chosen value) : Satisfies defs "anyOf" (.array alternatives) value
  | type {name : String} {value : Json} (typed : HasType value name) :
      Satisfies defs "type" (.string name) value
  | enum {values : List Json} {value : Json} (member : value ∈ values) :
      Satisfies defs "enum" (.array values) value
  | properties {schemas : Fields} {value : Json}
      (each : ∀ fields name schema field, value = .object fields →
        schemas.lookup name = some schema → fields.lookup name = some field →
        Conforms defs schema field) : Satisfies defs "properties" (.object schemas) value
  | required {names : List Json} {value : Json}
      (each : ∀ fields name, value = .object fields → Json.string name ∈ names →
        ∃ field, fields.lookup name = some field) :
      Satisfies defs "required" (.array names) value
  | items {schema value : Json}
      (each : ∀ items, value = .array items → ∀ item ∈ items, Conforms defs schema item) :
      Satisfies defs "items" schema value
  | minLength {bound : Int} {value : Json}
      (enough : ∀ text, value = .string text → bound ≤ text.length) :
      Satisfies defs "minLength" (.int bound) value
  | maxLength {bound : Int} {value : Json}
      (within : ∀ text, value = .string text → (text.length : Int) ≤ bound) :
      Satisfies defs "maxLength" (.int bound) value
  | minimum {bound : Int} {value : Json}
      (enough : ∀ number, value = .int number → bound ≤ number) :
      Satisfies defs "minimum" (.int bound) value
  | maximum {bound : Int} {value : Json}
      (within : ∀ number, value = .int number → number ≤ bound) :
      Satisfies defs "maximum" (.int bound) value

end

section Inversion

variable {defs : Fields} {value : Json}

/-- A value has the type that is asked for. -/
theorem Conforms.type {entries : Fields} {name : String}
    (conforms : Conforms defs (.object entries) value)
    (asked : entries.lookup "type" = some (.string name)) : HasType value name := by
  obtain ⟨each⟩ := conforms
  have satisfied := each "type" _ asked
  generalize named : "type" = key at satisfied
  cases satisfied with
  | ignored among =>
    rw [← named] at among
    exact absurd among (by decide)
  | type typed => exact typed
  | _ => exact absurd named (by decide)

/-- A text is as long as is asked for. -/
theorem Conforms.minLength {entries : Fields} {bound : Int} {text : String}
    (conforms : Conforms defs (.object entries) (.string text))
    (asked : entries.lookup "minLength" = some (.int bound)) : bound ≤ text.length := by
  obtain ⟨each⟩ := conforms
  have satisfied := each "minLength" _ asked
  generalize named : "minLength" = key at satisfied
  cases satisfied with
  | ignored among =>
    rw [← named] at among
    exact absurd among (by decide)
  | minLength enough => exact enough text rfl
  | _ => exact absurd named (by decide)

/-- A value conforms to the definition that is referred to. -/
theorem Conforms.ref {entries : Fields} {reference : String}
    (conforms : Conforms defs (.object entries) value)
    (asked : entries.lookup "$ref" = some (.string reference)) :
    ∃ name schema, defs.lookup name = some schema ∧ Conforms defs schema value := by
  obtain ⟨each⟩ := conforms
  have satisfied := each "$ref" _ asked
  generalize named : "$ref" = key at satisfied
  generalize Json.string reference = argument at satisfied
  cases satisfied with
  | ignored among =>
    rw [← named] at among
    exact absurd among (by decide)
  | ref defined conforms => exact ⟨_, _, defined, conforms⟩
  | _ => exact absurd named (by decide)

/-- An object has the fields that are asked for. -/
theorem Conforms.required {entries fields : Fields} {names : List Json} {name : String}
    (conforms : Conforms defs (.object entries) (.object fields))
    (asked : entries.lookup "required" = some (.array names))
    (member : Json.string name ∈ names) : ∃ field, fields.lookup name = some field := by
  obtain ⟨each⟩ := conforms
  have satisfied := each "required" _ asked
  generalize named : "required" = key at satisfied
  cases satisfied with
  | ignored among =>
    rw [← named] at among
    exact absurd among (by decide)
  | required each => exact each fields name rfl member
  | _ => exact absurd named (by decide)

end Inversion

section Keywords

variable {entries : Fields} {keys : List String} {key : String} {argument : Json}

/-- A schema has no keywords but the given ones. -/
def KeysWithin (entries : Fields) (keys : List String) : Prop :=
  ∀ entry ∈ entries, entry.1 ∈ keys ∨ entry.1 ∈ annotations

theorem mem_of_lookup (found : entries.lookup key = some argument) : (key, argument) ∈ entries := by
  obtain ⟨front, back, rfl, _⟩ := List.lookup_eq_some_iff.mp found
  exact List.mem_append_right _ List.mem_cons_self

theorem KeysWithin.lookup_eq_none (within : KeysWithin entries keys) (absent : key ∉ keys)
    (keyword : key ∉ annotations) : entries.lookup key = none := by
  cases found : entries.lookup key with
  | none => rfl
  | some argument =>
    rcases within _ (mem_of_lookup found) with named | annotated
    · exact absurd named absent
    · exact absurd annotated keyword

/-- Only the keywords that a schema can have are to be satisfied. -/
theorem KeysWithin.conforms {defs : Fields} {value : Json} (within : KeysWithin entries keys)
    (each : ∀ key ∈ keys, ∀ argument, entries.lookup key = some argument →
      Satisfies defs key argument value) : Conforms defs (.object entries) value := by
  refine .node ?_
  intro key argument found
  rcases within _ (mem_of_lookup found) with named | annotated
  · exact each key named argument found
  · exact .ignored annotated

theorem Satisfies.of_type {defs : Fields} {name : String} {value : Json}
    (type : entries.lookup "type" = some (.string name)) (typed : HasType value name)
    (found : entries.lookup "type" = some argument) : Satisfies defs "type" argument value := by
  rw [type] at found
  cases found
  exact .type typed

/-- A name without the characters that a pointer escapes. -/
theorem pointer_of_plain {name : String} (slash : '/' ∉ name.toList) (tilde : '~' ∉ name.toList) :
    pointer name = "#/$defs/" ++ name := by
  have same : (name.toList.flatMap fun char =>
      if char = '~' then ['~', '0'] else if char = '/' then ['~', '1'] else [char]) =
      name.toList.flatMap fun char => [char] := by
    refine List.flatMap_congr ?_
    intro char member
    have first : char ≠ '~' := by
      rintro rfl
      exact tilde member
    have second : char ≠ '/' := by
      rintro rfl
      exact slash member
    rw [if_neg first, if_neg second]
  rw [pointer, escapeName, same, List.flatMap_singleton', String.ofList_toList]

end Keywords

end ActionPlan.Foundation.JsonSchema
