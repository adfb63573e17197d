import ActionPlan.Foundation.JsonSchema
import Mathlib.Data.List.DropRight
import Mathlib.Data.Nat.Find

/-! # The example in the prompt

`_trim_schema` and `_example_value` of `llm/provider.py`, and the schemas for which the example
conforms to the schema that was trimmed.
-/

namespace ActionPlan.Llm

open ActionPlan.Foundation ActionPlan.Foundation.JsonSchema

section Trimming

/-- `_SCHEMA_NOISE_KEYS`. -/
def schemaNoiseKeys : List String :=
  ["title", "description", "default", "minLength", "maxLength", "minimum", "maximum"]

mutual

/-- `_trim_schema`. -/
def trimSchema : Json → Json
  | .object entries => .object (trimEntries entries)
  | .array items => .array (trimItems items)
  | other => other

/-- The loop over the keys of a node. -/
def trimEntries : Fields → Fields
  | [] => []
  | (key, .object fields) :: entries =>
    if key = "properties" then (key, .object (trimProperties fields)) :: trimEntries entries
    else if key ∈ schemaNoiseKeys then trimEntries entries
    else (key, .object (trimEntries fields)) :: trimEntries entries
  | (key, value) :: entries =>
    if key ∈ schemaNoiseKeys then trimEntries entries
    else (key, trimSchema value) :: trimEntries entries

/-- The loop of `_trim_schema` over the fields of an object. -/
def trimProperties : Fields → Fields
  | [] => []
  | (fieldName, fieldSchema) :: fields =>
    (fieldName, trimSchema fieldSchema) :: trimProperties fields

/-- The loop of `_trim_schema` over the items of an array. -/
def trimItems : List Json → List Json
  | [] => []
  | item :: items => trimSchema item :: trimItems items

end

end Trimming

section Examples

/-- `name.rsplit("/", 1)[-1]`. -/
def afterSlash (name : String) : String :=
  String.ofList (name.toList.rtakeWhile fun char => char ≠ '/')

/-- `node.get("type")`, where it is the name of a type. -/
def typeName (entries : Fields) : Option String :=
  match entries.lookup "type" with
  | some (.string name) => some name
  | _ => none

/-- The test of the alternatives of `anyOf`. -/
def isNotNull : Json → Bool
  | .object entries => typeName entries ≠ some "null"
  | _ => true

/-- `isinstance(node, dict)`. -/
def isNode : Json → Bool
  | .object _ => true
  | _ => false

/-- Whether the alternatives of `anyOf`, if there are any, are nodes. -/
def hasNodes (entries : Fields) : Bool :=
  match entries.lookup "anyOf" with
  | none => true
  | some (.array alternatives) => alternatives.all isNode
  | some _ => false

/-- The first of the alternatives that are not null. -/
def firstAlternative (entries : Fields) : Option Json :=
  match entries.lookup "anyOf" with
  | some (.array alternatives) => alternatives.find? isNotNull
  | _ => none

/-- The part of `_example_value` that depends on the type of a node, given the examples one level
deeper. -/
def exampleOfType (deeper : Json → Option Json) (entries : Fields) : Option Json :=
  if typeName entries = some "object" then
    match entries.lookup "properties" with
    | none => some (.object [])
    | some (.object fields) =>
      (fields.mapM fun field => (deeper field.2).map fun value => (field.1, value)).map .object
    | some _ => none
  else if typeName entries = some "array" then
    (deeper ((entries.lookup "items").getD (.object []))).map fun item => .array [item]
  else if typeName entries = some "boolean" then some (.bool true)
  else if typeName entries = some "integer" ∨ typeName entries = some "number" then some (.int 1)
  else
    match entries.lookup "enum" with
    | none => some (.string "example")
    | some (.array []) => some (.string "example")
    | some (.array (first :: _)) => some first
    | some _ => none

/-- An alternative is smaller than the schema, which is why the examples end. -/
theorem sizeOf_firstAlternative {entries : Fields} {alternative : Json}
    (first : firstAlternative entries = some alternative) :
    sizeOf alternative < sizeOf (Json.object entries) := by
  rw [firstAlternative] at first
  split at first
  · rename_i alternatives found
    have member := List.sizeOf_lt_of_mem (List.mem_of_find?_eq_some first)
    have entry := List.sizeOf_lt_of_mem (mem_of_lookup found)
    simp only [Prod.mk.sizeOf_spec, Json.array.sizeOf_spec] at entry
    simp only [Json.object.sizeOf_spec]
    omega
  · cases first

/-- `_example_value`, or nothing where a keyword has a value that no schema gives it. -/
def exampleValue (defs : Fields) (depth : Nat) (seen : List String) (node : Json) : Option Json :=
  if 12 < depth then some (.object [])
  else
    match node with
    | .object entries =>
      match entries.lookup "$ref" with
      | some (.string reference) =>
        let name := afterSlash reference
        if name ∈ seen then some (.object [])
        else exampleValue defs (depth + 1) (name :: seen) ((defs.lookup name).getD (.object []))
      | some _ => none
      | none =>
        if hasNodes entries then
          match first : firstAlternative entries with
          | some alternative => exampleValue defs depth seen alternative
          | none => exampleOfType (fun child => exampleValue defs (depth + 1) seen child) entries
        else none
    | _ => none
termination_by (13 - depth, sizeOf node)
decreasing_by
  · exact Prod.Lex.left _ _ (by omega)
  · exact Prod.Lex.right _ (sizeOf_firstAlternative first)
  · exact Prod.Lex.left _ _ (by omega)

/-- `schema_node.get("$defs", {})`. -/
def definitions : Json → Fields
  | .object entries =>
    match entries.lookup "$defs" with
    | some (.object defs) => defs
    | _ => []
  | _ => []

/-- The example that `_build_instruction` puts into the prompt. -/
def instructionExample (schema : Json) : Option Json :=
  let schemaNode := trimSchema schema
  exampleValue (definitions schemaNode) 0 [] schemaNode

end Examples

section Lookups

variable {key : String} {value : Json} {entries : Fields}

/-- What stands under a key after the trimming, if the key is kept. -/
def trimValue (key : String) (value : Json) : Json :=
  match value with
  | .object fields =>
    if key = "properties" then .object (trimProperties fields) else trimSchema (.object fields)
  | other => trimSchema other

/-- An annotation is dropped. -/
theorem trimEntries_cons_of_noise (noise : key ∈ schemaNoiseKeys) :
    trimEntries ((key, value) :: entries) = trimEntries entries := by
  have different : key ≠ "properties" := by
    rintro rfl
    exact absurd noise (by decide)
  cases value <;> simp only [trimEntries, different, noise, ↓reduceIte]

/-- Any other entry keeps its place. -/
theorem trimEntries_cons_of_kept (kept : key ∉ schemaNoiseKeys) :
    trimEntries ((key, value) :: entries) = (key, trimValue key value) :: trimEntries entries := by
  cases value with
  | object fields =>
    by_cases properties : key = "properties"
    · simp only [trimEntries, trimValue, properties, ↓reduceIte]
    · simp only [trimEntries, trimValue, trimSchema, properties, kept, ↓reduceIte]
  | _ => simp only [trimEntries, trimValue, kept, ↓reduceIte]

/-- Trimming changes what stands under a key that it keeps, but not the key. -/
theorem lookup_trimEntries (kept : key ∉ schemaNoiseKeys) :
    (trimEntries entries).lookup key = (entries.lookup key).map (trimValue key) := by
  induction entries with
  | nil => rfl
  | cons entry entries ih =>
    obtain ⟨other, value⟩ := entry
    by_cases noise : other ∈ schemaNoiseKeys
    · have different : (key == other) = false := by
        refine beq_false_of_ne ?_
        rintro rfl
        exact kept noise
      rw [trimEntries_cons_of_noise noise, ih, List.lookup_cons, different]
    · rw [trimEntries_cons_of_kept noise, List.lookup_cons, List.lookup_cons, ih]
      cases same : key == other with
      | true =>
        rw [eq_of_beq same]
        rfl
      | false => rfl

theorem trimItems_eq_map (items : List Json) : trimItems items = items.map trimSchema := by
  induction items with
  | nil => rfl
  | cons item items ih => rw [trimItems, ih, List.map_cons]

/-- The definitions are trimmed like a node, of which their names are the keys. -/
theorem definitions_trimSchema (schema : Json) :
    definitions (trimSchema schema) = trimEntries (definitions schema) := by
  cases schema with
  | object entries =>
    have kept : "$defs" ∉ schemaNoiseKeys := by decide
    simp only [trimSchema, definitions, lookup_trimEntries kept]
    cases entries.lookup "$defs" with
    | none => rfl
    | some defs => cases defs <;> rfl
  | _ => rfl

/-- The type is never dropped. -/
theorem typeName_trimEntries : typeName (trimEntries entries) = typeName entries := by
  have kept : "type" ∉ schemaNoiseKeys := by decide
  rw [typeName, typeName, lookup_trimEntries kept]
  cases entries.lookup "type" with
  | none => rfl
  | some name => cases name <;> rfl

end Lookups

section Nodes

variable {defs entries : Fields} {depth : Nat} {seen : List String}

/-- Without a reference and without alternatives, the type decides. -/
theorem exampleValue_of_type (shallow : depth ≤ 12) (noRef : entries.lookup "$ref" = none)
    (noAnyOf : entries.lookup "anyOf" = none) :
    exampleValue defs depth seen (.object entries) =
      exampleOfType (exampleValue defs (depth + 1) seen) entries := by
  have level : ¬12 < depth := by omega
  have nodes : hasNodes entries = true := by rw [hasNodes, noAnyOf]
  have none : firstAlternative entries = none := by rw [firstAlternative, noAnyOf]
  rw [exampleValue, if_neg level]
  simp only [noRef, nodes, ↓reduceIte]
  split
  · rename_i alternative first
    rw [none] at first
    cases first
  · rfl

/-- The example of alternatives is that of the first one that is not null. -/
theorem exampleValue_of_alternative {alternative : Json} (shallow : depth ≤ 12)
    (noRef : entries.lookup "$ref" = none) (nodes : hasNodes entries = true)
    (chosen : firstAlternative entries = some alternative) :
    exampleValue defs depth seen (.object entries) =
      exampleValue defs depth seen alternative := by
  have level : ¬12 < depth := by omega
  rw [exampleValue, if_neg level]
  simp only [noRef, nodes, ↓reduceIte]
  split
  · rename_i other first
    rw [chosen] at first
    rw [Option.some.inj first]
  · rename_i absent
    rw [chosen] at absent
    cases absent

/-- The example of a reference is that of its definition, one level deeper. -/
theorem exampleValue_of_reference {reference : String} {schema : Json} (shallow : depth ≤ 12)
    (ref : entries.lookup "$ref" = some (.string reference)) (new : afterSlash reference ∉ seen)
    (defined : defs.lookup (afterSlash reference) = some schema) :
    exampleValue defs depth seen (.object entries) =
      exampleValue defs (depth + 1) (afterSlash reference :: seen) schema := by
  have level : ¬12 < depth := by omega
  rw [exampleValue, if_neg level]
  simp only [ref, new, defined, ↓reduceIte, Option.getD_some]

/-- A definition that is not found counts as an empty one. -/
theorem exampleValue_of_unknown {reference : String} (shallow : depth ≤ 12)
    (ref : entries.lookup "$ref" = some (.string reference)) (new : afterSlash reference ∉ seen)
    (undefined : defs.lookup (afterSlash reference) = none) :
    exampleValue defs depth seen (.object entries) =
      exampleValue defs (depth + 1) (afterSlash reference :: seen) (.object []) := by
  have level : ¬12 < depth := by omega
  rw [exampleValue, if_neg level]
  simp only [ref, new, undefined, ↓reduceIte, Option.getD_none]

/-- The name in a reference is what follows its last slash. -/
theorem afterSlash_reference {name : String} (slash : '/' ∉ name.toList) :
    afterSlash ("#/$defs/" ++ name) = name := by
  have kept : ∀ char ∈ name.toList.reverse, decide (char ≠ '/') = true := by
    intro char member
    refine decide_eq_true ?_
    rintro rfl
    exact slash (List.mem_reverse.mp member)
  have front : "#/$defs/".toList.reverse = '/' :: "#/$defs".toList.reverse := by decide
  have taken : (("#/$defs/" ++ name).toList.reverse).takeWhile
      (fun char => decide (char ≠ '/')) = name.toList.reverse := by
    rw [String.toList_append, List.reverse_append, front, List.takeWhile_append_of_pos kept,
      List.takeWhile_cons_of_neg (by decide), List.append_nil]
  rw [afterSlash, List.rtakeWhile, taken, List.reverse_reverse, String.ofList_toList]

end Nodes

section Supported

/-- A node that stands for `null` among alternatives. -/
def IsNull (schema : Json) : Prop :=
  ∃ entries, schema = .object entries ∧ entries.lookup "type" = some (.string "null")

/-- A bound, if there is one, is a number that has a property. -/
def Bounded (entries : Fields) (key : String) (within : Int → Prop) : Prop :=
  ∀ argument, entries.lookup key = some argument → ∃ bound, argument = .int bound ∧ within bound

/-- The names of definitions that trimming keeps and does not take for a map of fields, and that a
reference does not escape. -/
structure PlainName (name : String) : Prop where
  kept : name ∉ schemaNoiseKeys
  node : name ≠ "properties"
  slash : '/' ∉ name.toList
  tilde : '~' ∉ name.toList

/-- The schemas of which the code can give an example, with at most so many levels: each property,
each item of an array and each reference is one. -/
inductive Supported (defs : Fields) : Nat → Json → Prop
  | string {levels : Nat} {entries : Fields}
      (keys : KeysWithin entries ["type", "minLength", "maxLength"])
      (type : entries.lookup "type" = some (.string "string"))
      (minLength : Bounded entries "minLength" fun bound => bound ≤ 7)
      (maxLength : Bounded entries "maxLength" fun bound => 7 ≤ bound) :
      Supported defs levels (.object entries)
  | enum {levels : Nat} {entries : Fields} {values : List String}
      (keys : KeysWithin entries ["type", "enum"])
      (type : ∀ argument, entries.lookup "type" = some argument → argument = .string "string")
      (enum : entries.lookup "enum" = some (.array (values.map .string)))
      (nonempty : values ≠ []) : Supported defs levels (.object entries)
  | integer {levels : Nat} {entries : Fields}
      (keys : KeysWithin entries ["type", "minimum", "maximum"])
      (type : entries.lookup "type" = some (.string "integer"))
      (minimum : Bounded entries "minimum" fun bound => bound ≤ 1)
      (maximum : Bounded entries "maximum" fun bound => 1 ≤ bound) :
      Supported defs levels (.object entries)
  | boolean {levels : Nat} {entries : Fields} (keys : KeysWithin entries ["type"])
      (type : entries.lookup "type" = some (.string "boolean")) :
      Supported defs levels (.object entries)
  | nullable {levels : Nat} {entries : Fields} {before after : List Json} {schema : Json}
      (keys : KeysWithin entries ["anyOf"])
      (anyOf : entries.lookup "anyOf" = some (.array (before ++ schema :: after)))
      (front : ∀ alternative ∈ before, IsNull alternative)
      (back : ∀ alternative ∈ after, IsNull alternative)
      (supported : Supported defs levels schema) : Supported defs levels (.object entries)
  | untypedArray {levels : Nat} {entries : Fields} (keys : KeysWithin entries ["type"])
      (type : entries.lookup "type" = some (.string "array")) :
      Supported defs levels (.object entries)
  | array {levels : Nat} {entries : Fields} {schema : Json}
      (keys : KeysWithin entries ["type", "items"])
      (type : entries.lookup "type" = some (.string "array"))
      (items : entries.lookup "items" = some schema) (supported : Supported defs levels schema) :
      Supported defs (levels + 1) (.object entries)
  | object {levels : Nat} {entries schemas : Fields}
      (keys : KeysWithin entries ["type", "properties", "required"])
      (type : entries.lookup "type" = some (.string "object"))
      (properties : entries.lookup "properties" = some (.object schemas))
      (required : ∀ argument, entries.lookup "required" = some argument →
        ∃ names : List String, argument = .array (names.map .string) ∧
          ∀ name ∈ names, ∃ schema, schemas.lookup name = some schema)
      (supported : ∀ property ∈ schemas, Supported defs levels property.2) :
      Supported defs (levels + 1) (.object entries)
  | reference {levels : Nat} {entries : Fields} {name : String} {schema : Json}
      (keys : KeysWithin entries ["$ref"])
      (ref : entries.lookup "$ref" = some (.string (pointer name))) (plain : PlainName name)
      (defined : defs.lookup name = some schema) (supported : Supported defs levels schema) :
      Supported defs (levels + 1) (.object entries)

end Supported

section Trimmed

variable {defs entries : Fields} {keys : List String} {depth : Nat} {seen : List String}

theorem trimValue_of_ne {key : String} (different : key ≠ "properties") (value : Json) :
    trimValue key value = trimSchema value := by
  cases value <;> simp only [trimValue, different, ↓reduceIte]

theorem lookup_trimEntries_eq_none {key : String} (within : KeysWithin entries keys)
    (absent : key ∉ keys) (keyword : key ∉ annotations) (kept : key ∉ schemaNoiseKeys) :
    (trimEntries entries).lookup key = none := by
  rw [lookup_trimEntries kept, within.lookup_eq_none absent keyword]
  rfl

/-- A node without references and alternatives is treated by its type. -/
theorem exampleValue_trimmed (within : KeysWithin entries keys) (noRef : "$ref" ∉ keys)
    (noAnyOf : "anyOf" ∉ keys) (shallow : depth ≤ 12) :
    exampleValue (trimEntries defs) depth seen (trimSchema (.object entries)) =
      exampleOfType (exampleValue (trimEntries defs) (depth + 1) seen) (trimEntries entries) :=
  exampleValue_of_type shallow
    (lookup_trimEntries_eq_none within noRef (by decide) (by decide))
    (lookup_trimEntries_eq_none within noAnyOf (by decide) (by decide))

theorem typeName_eq {name : String} (type : entries.lookup "type" = some (.string name)) :
    typeName (trimEntries entries) = some name := by
  rw [typeName_trimEntries, typeName, type]

/-- The examples of the fields, under the names of the fields. -/
theorem exists_fields {example_ : Json → Option Json} {conforms : Json → Json → Prop}
    (schemas : Fields) (each : ∀ property ∈ schemas, ∃ value,
      example_ (trimSchema property.2) = some value ∧ conforms property.2 value) :
    ∃ fields, (trimProperties schemas).mapM
        (fun field => (example_ field.2).map fun value => (field.1, value)) = some fields ∧
      ∀ name, Option.Rel conforms (schemas.lookup name) (fields.lookup name) := by
  induction schemas with
  | nil => exact ⟨[], rfl, fun _ => .none⟩
  | cons property schemas ih =>
    obtain ⟨⟨value, found, holds⟩, others⟩ := List.forall_mem_cons.mp each
    obtain ⟨fields, built, related⟩ := ih others
    refine ⟨(property.1, value) :: fields, ?_, ?_⟩
    · rw [trimProperties, List.mapM_cons, found, Option.map_some, built]
      rfl
    · intro name
      rw [List.lookup_cons, List.lookup_cons]
      cases name == property.1 with
      | true => exact .some holds
      | false => exact related name

end Trimmed

section Exemplified

variable {defs : Fields}

/-- The definitions around a node need at least so many levels. -/
def Unfinished (defs : Fields) (levels : Nat) (seen : List String) : Prop :=
  ∀ name ∈ seen, ∀ definition, defs.lookup name = some definition →
    ∀ fewer < levels, ¬Supported defs fewer definition

/-- What is unfinished at a depth is unfinished above it. -/
theorem Unfinished.mono {fewer levels : Nat} {seen : List String}
    (unfinished : Unfinished defs levels seen) (less : fewer ≤ levels) :
    Unfinished defs fewer seen :=
  fun name member definition defined count within =>
    unfinished name member definition defined count (Nat.lt_of_lt_of_le within less)

/-- There is an example for a node at any depth at which its levels fit, among definitions that
need no fewer levels. -/
def Exemplified (defs : Fields) (levels : Nat) (schema : Json) : Prop :=
  ∀ depth seen, depth + levels ≤ 12 → Unfinished defs levels seen →
    ∃ value, exampleValue (trimEntries defs) depth seen (trimSchema schema) = some value ∧
      Conforms defs schema value

variable {levels : Nat} {entries : Fields}

/-- The example of a text has seven letters. -/
theorem exemplified_string (keys : KeysWithin entries ["type", "minLength", "maxLength"])
    (type : entries.lookup "type" = some (.string "string"))
    (minLength : Bounded entries "minLength" fun bound => bound ≤ 7)
    (maxLength : Bounded entries "maxLength" fun bound => 7 ≤ bound) :
    Exemplified defs levels (.object entries) := by
  intro depth seen bound _
  have noEnum : (trimEntries entries).lookup "enum" = none :=
    lookup_trimEntries_eq_none keys (by decide) (by decide) (by decide)
  refine ⟨.string "example", ?_, keys.conforms ?_⟩
  · rw [exampleValue_trimmed keys (by decide) (by decide) (by omega), exampleOfType,
      typeName_eq type, noEnum]
    rfl
  · intro key named argument found
    simp only [List.mem_cons, List.not_mem_nil, or_false] at named
    rcases named with rfl | rfl | rfl
    · exact .of_type type (.string _) found
    · obtain ⟨least, rfl, within⟩ := minLength argument found
      refine .minLength ?_
      intro text same
      cases same
      exact within
    · obtain ⟨most, rfl, within⟩ := maxLength argument found
      refine .maxLength ?_
      intro text same
      cases same
      exact within

/-- The example of an enumeration is its first value. -/
theorem exemplified_enum {values : List String} (keys : KeysWithin entries ["type", "enum"])
    (type : ∀ argument, entries.lookup "type" = some argument → argument = .string "string")
    (enum : entries.lookup "enum" = some (.array (values.map .string))) (nonempty : values ≠ []) :
    Exemplified defs levels (.object entries) := by
  intro depth seen bound _
  obtain ⟨first, rest, rfl⟩ := List.exists_cons_of_ne_nil nonempty
  have trimmed : (trimEntries entries).lookup "enum" =
      some (.array (.string first :: trimItems (rest.map .string))) := by
    rw [lookup_trimEntries (by decide), enum]
    rfl
  have typed : typeName (trimEntries entries) = none ∨
      typeName (trimEntries entries) = some "string" := by
    rw [typeName_trimEntries, typeName]
    cases found : entries.lookup "type" with
    | none => exact .inl rfl
    | some argument =>
      rw [type argument found]
      exact .inr rfl
  refine ⟨.string first, ?_, keys.conforms ?_⟩
  · rw [exampleValue_trimmed keys (by decide) (by decide) (by omega), exampleOfType, trimmed]
    rcases typed with none | string
    · rw [none]
      rfl
    · rw [string]
      rfl
  · intro key named argument found
    simp only [List.mem_cons, List.not_mem_nil, or_false] at named
    rcases named with rfl | rfl
    · rw [type argument found]
      exact .type (.string _)
    · rw [enum] at found
      cases found
      exact .enum List.mem_cons_self

/-- The example of an integer is one. -/
theorem exemplified_integer (keys : KeysWithin entries ["type", "minimum", "maximum"])
    (type : entries.lookup "type" = some (.string "integer"))
    (minimum : Bounded entries "minimum" fun bound => bound ≤ 1)
    (maximum : Bounded entries "maximum" fun bound => 1 ≤ bound) :
    Exemplified defs levels (.object entries) := by
  intro depth seen bound _
  refine ⟨.int 1, ?_, keys.conforms ?_⟩
  · rw [exampleValue_trimmed keys (by decide) (by decide) (by omega), exampleOfType,
      typeName_eq type]
    rfl
  · intro key named argument found
    simp only [List.mem_cons, List.not_mem_nil, or_false] at named
    rcases named with rfl | rfl | rfl
    · exact .of_type type (.integer _) found
    · obtain ⟨least, rfl, within⟩ := minimum argument found
      refine .minimum ?_
      intro number same
      cases same
      exact within
    · obtain ⟨most, rfl, within⟩ := maximum argument found
      refine .maximum ?_
      intro number same
      cases same
      exact within

theorem exemplified_boolean (keys : KeysWithin entries ["type"])
    (type : entries.lookup "type" = some (.string "boolean")) :
    Exemplified defs levels (.object entries) := by
  intro depth seen bound _
  refine ⟨.bool true, ?_, keys.conforms ?_⟩
  · rw [exampleValue_trimmed keys (by decide) (by decide) (by omega), exampleOfType,
      typeName_eq type]
    rfl
  · intro key named argument found
    rw [List.mem_singleton] at named
    subst named
    exact .of_type type (.boolean _) found

theorem exampleValue_empty (defs : Fields) (depth : Nat) (seen : List String) :
    ∃ value, exampleValue defs depth seen (.object []) = some value := by
  by_cases deep : 12 < depth
  · rw [exampleValue, if_pos deep]
    exact ⟨_, rfl⟩
  · rw [exampleValue_of_type (by omega) rfl rfl]
    exact ⟨.string "example", rfl⟩

theorem exemplified_untypedArray (keys : KeysWithin entries ["type"])
    (type : entries.lookup "type" = some (.string "array")) :
    Exemplified defs levels (.object entries) := by
  intro depth seen bound _
  have noItems : (trimEntries entries).lookup "items" = none :=
    lookup_trimEntries_eq_none keys (by decide) (by decide) (by decide)
  obtain ⟨item, found⟩ := exampleValue_empty (trimEntries defs) (depth + 1) seen
  refine ⟨.array [item], ?_, keys.conforms ?_⟩
  · rw [exampleValue_trimmed keys (by decide) (by decide) (by omega), exampleOfType,
      typeName_eq type, noItems, Option.getD_none, found]
    rfl
  · intro key named argument found
    rw [List.mem_singleton] at named
    subst named
    exact .of_type type (.array _) found

/-- The example of an array has one item, which is an example of its schema. -/
theorem exemplified_array {schema : Json} (keys : KeysWithin entries ["type", "items"])
    (type : entries.lookup "type" = some (.string "array"))
    (items : entries.lookup "items" = some schema) (below : Exemplified defs levels schema) :
    Exemplified defs (levels + 1) (.object entries) := by
  intro depth seen bound unfinished
  have trimmed : (trimEntries entries).lookup "items" = some (trimSchema schema) := by
    rw [lookup_trimEntries (by decide), items, Option.map_some, trimValue_of_ne (by decide)]
  obtain ⟨item, found, conforms⟩ :=
    below (depth + 1) seen (by omega) (unfinished.mono (Nat.le_succ levels))
  refine ⟨.array [item], ?_, keys.conforms ?_⟩
  · rw [exampleValue_trimmed keys (by decide) (by decide) (by omega), exampleOfType,
      typeName_eq type, trimmed, Option.getD_some, found]
    rfl
  · intro key named argument found
    simp only [List.mem_cons, List.not_mem_nil, or_false] at named
    rcases named with rfl | rfl
    · exact .of_type type (.array _) found
    · rw [items] at found
      cases found
      refine .items ?_
      intro others same other member
      cases same
      rw [List.mem_singleton.mp member]
      exact conforms

/-- The example of an object has an example under each of its properties. -/
theorem exemplified_object {schemas : Fields}
    (keys : KeysWithin entries ["type", "properties", "required"])
    (type : entries.lookup "type" = some (.string "object"))
    (properties : entries.lookup "properties" = some (.object schemas))
    (required : ∀ argument, entries.lookup "required" = some argument →
      ∃ names : List String, argument = .array (names.map .string) ∧
        ∀ name ∈ names, ∃ schema, schemas.lookup name = some schema)
    (below : ∀ property ∈ schemas, Exemplified defs levels property.2) :
    Exemplified defs (levels + 1) (.object entries) := by
  intro depth seen bound unfinished
  have trimmed : (trimEntries entries).lookup "properties" =
      some (.object (trimProperties schemas)) := by
    rw [lookup_trimEntries (by decide), properties]
    rfl
  have each : ∀ property ∈ schemas, ∃ value,
      exampleValue (trimEntries defs) (depth + 1) seen (trimSchema property.2) = some value ∧
        Conforms defs property.2 value := by
    intro property member
    exact below property member (depth + 1) seen (by omega)
      (unfinished.mono (Nat.le_succ levels))
  obtain ⟨fields, built, related⟩ := exists_fields schemas each
  refine ⟨.object fields, ?_, keys.conforms ?_⟩
  · rw [exampleValue_trimmed keys (by decide) (by decide) (by omega), exampleOfType,
      typeName_eq type, trimmed, if_pos rfl]
    simp only [built, Option.map_some]
  · intro key named argument found
    simp only [List.mem_cons, List.not_mem_nil, or_false] at named
    rcases named with rfl | rfl | rfl
    · exact .of_type type (.object _) found
    · rw [properties] at found
      cases found
      refine .properties ?_
      intro others name schema field same given present
      cases same
      have holds := related name
      rw [given, present] at holds
      cases holds with
      | some conforms => exact conforms
    · obtain ⟨names, rfl, known⟩ := required argument found
      refine .required ?_
      intro others name same member
      cases same
      obtain ⟨listed, among, named⟩ := List.mem_map.mp member
      cases named
      obtain ⟨schema, given⟩ := known name among
      have holds := related name
      rw [given] at holds
      cases present : fields.lookup name with
      | none =>
        rw [present] at holds
        cases holds
      | some field => exact ⟨field, rfl⟩

/-- A supported schema is not that of null, also when trimmed. -/
theorem isNotNull_trimSchema {schema : Json} (supported : Supported defs levels schema) :
    isNode (trimSchema schema) = true ∧ isNotNull (trimSchema schema) = true := by
  have plain : ∀ {entries : Fields} {name : String}, name ≠ "null" →
      entries.lookup "type" = some (.string name) →
        isNode (trimSchema (.object entries)) = true ∧
          isNotNull (trimSchema (.object entries)) = true := by
    intro entries name different type
    refine ⟨rfl, ?_⟩
    rw [trimSchema, isNotNull, typeName_eq type]
    simpa using different
  have untyped : ∀ {entries : Fields}, entries.lookup "type" = none →
      isNode (trimSchema (.object entries)) = true ∧
        isNotNull (trimSchema (.object entries)) = true := by
    intro entries absent
    refine ⟨rfl, ?_⟩
    rw [trimSchema, isNotNull, typeName_trimEntries, typeName, absent]
    rfl
  cases supported with
  | string _ type => exact plain (by decide) type
  | @enum _ entries _ _ type =>
    cases found : entries.lookup "type" with
    | none => exact untyped found
    | some argument =>
      rw [type argument found] at found
      exact plain (by decide) found
  | integer _ type => exact plain (by decide) type
  | boolean _ type => exact plain (by decide) type
  | nullable keys => exact untyped (keys.lookup_eq_none (by decide) (by decide))
  | untypedArray _ type => exact plain (by decide) type
  | array _ type => exact plain (by decide) type
  | object _ type => exact plain (by decide) type
  | reference keys => exact untyped (keys.lookup_eq_none (by decide) (by decide))

theorem isNull_trimSchema {schema : Json} (missing : IsNull schema) :
    isNode (trimSchema schema) = true ∧ isNotNull (trimSchema schema) = false := by
  obtain ⟨entries, rfl, type⟩ := missing
  refine ⟨rfl, ?_⟩
  rw [trimSchema, isNotNull, typeName_eq type]
  rfl

/-- The example of a nullable schema is that of the schema. -/
theorem exemplified_nullable {before after : List Json} {schema : Json}
    (keys : KeysWithin entries ["anyOf"])
    (anyOf : entries.lookup "anyOf" = some (.array (before ++ schema :: after)))
    (front : ∀ alternative ∈ before, IsNull alternative)
    (back : ∀ alternative ∈ after, IsNull alternative)
    (supported : Supported defs levels schema) (inside : Exemplified defs levels schema) :
    Exemplified defs levels (.object entries) := by
  intro depth seen bound unfinished
  have trimmed : (trimEntries entries).lookup "anyOf" =
      some (.array (before.map trimSchema ++ trimSchema schema :: after.map trimSchema)) := by
    rw [lookup_trimEntries (by decide), anyOf, Option.map_some, trimValue_of_ne (by decide),
      trimSchema, trimItems_eq_map, List.map_append, List.map_cons]
  have noRef : (trimEntries entries).lookup "$ref" = none :=
    lookup_trimEntries_eq_none keys (by decide) (by decide) (by decide)
  have passed : ∀ alternative ∈ before.map trimSchema, ¬isNotNull alternative = true := by
    intro alternative member
    obtain ⟨missing, among, rfl⟩ := List.mem_map.mp member
    rw [(isNull_trimSchema (front missing among)).2]
    exact Bool.false_ne_true
  have nodes : hasNodes (trimEntries entries) = true := by
    rw [hasNodes, trimmed]
    refine List.all_eq_true.mpr ?_
    intro alternative member
    rcases List.mem_append.mp member with member | member
    · obtain ⟨missing, among, rfl⟩ := List.mem_map.mp member
      exact (isNull_trimSchema (front missing among)).1
    rcases List.mem_cons.mp member with rfl | member
    · exact (isNotNull_trimSchema supported).1
    · obtain ⟨missing, among, rfl⟩ := List.mem_map.mp member
      exact (isNull_trimSchema (back missing among)).1
  have chosen : firstAlternative (trimEntries entries) = some (trimSchema schema) := by
    rw [firstAlternative, trimmed]
    exact List.find?_eq_some_iff_append.mpr
      ⟨(isNotNull_trimSchema supported).2, _, _, rfl, fun alternative member => by
        simpa using passed alternative member⟩
  obtain ⟨value, found, conforms⟩ := inside depth seen bound unfinished
  refine ⟨value, ?_, keys.conforms ?_⟩
  · rw [trimSchema, exampleValue_of_alternative (by omega) noRef nodes chosen, found]
  · intro key named argument found
    rw [List.mem_singleton] at named
    rw [named, anyOf] at found
    cases found
    rw [named]
    exact .anyOf (List.mem_append_right _ List.mem_cons_self) conforms

/-- Of the numbers of levels that a definition can do with there is a least one. -/
theorem exists_least {schema : Json} (supported : Supported defs levels schema) :
    ∃ least ≤ levels, Supported defs least schema ∧
      ∀ fewer < least, ¬Supported defs fewer schema := by
  classical
  have some_levels : ∃ count, Supported defs count schema := ⟨levels, supported⟩
  exact ⟨Nat.find some_levels, Nat.find_le supported, Nat.find_spec some_levels,
    fun fewer less => Nat.find_min some_levels less⟩

/-- A reference leads to fewer levels, so that it leads to no definition that it is a part of. -/
theorem exemplified_reference {name : String} {schema : Json}
    (keys : KeysWithin entries ["$ref"])
    (ref : entries.lookup "$ref" = some (.string (pointer name))) (plain : PlainName name)
    (defined : defs.lookup name = some schema) (supported : Supported defs levels schema)
    (below : ∀ least ≤ levels, Supported defs least schema → Exemplified defs least schema) :
    Exemplified defs (levels + 1) (.object entries) := by
  intro depth seen bound unfinished
  obtain ⟨least, fits, enough, minimal⟩ := exists_least supported
  have trimmed : (trimEntries entries).lookup "$ref" = some (.string ("#/$defs/" ++ name)) := by
    rw [lookup_trimEntries (by decide), ref, pointer_of_plain plain.slash plain.tilde]
    rfl
  have target := afterSlash_reference plain.slash
  have new : afterSlash ("#/$defs/" ++ name) ∉ seen := by
    rw [target]
    intro member
    exact unfinished name member schema defined levels (Nat.lt_succ_self levels) supported
  have definition : (trimEntries defs).lookup (afterSlash ("#/$defs/" ++ name)) =
      some (trimSchema schema) := by
    rw [target, lookup_trimEntries plain.kept, defined, Option.map_some,
      trimValue_of_ne plain.node]
  have inside : Unfinished defs least (name :: seen) := by
    intro other member definition otherDefined fewer less
    rcases List.mem_cons.mp member with rfl | member
    · rw [defined] at otherDefined
      cases otherDefined
      exact minimal fewer less
    · exact unfinished other member definition otherDefined fewer (by omega)
  obtain ⟨value, found, conforms⟩ :=
    below least fits enough (depth + 1) (name :: seen) (by omega) inside
  refine ⟨value, ?_, keys.conforms ?_⟩
  · rw [trimSchema, exampleValue_of_reference (by omega) trimmed new definition, target, found]
  · intro key named argument found
    rw [List.mem_singleton] at named
    rw [named, ref] at found
    cases found
    rw [named]
    exact .ref defined conforms

/-- One step of the induction on the levels, by the form of the schema. -/
theorem exemplified_of_below {schema : Json} (supported : Supported defs levels schema)
    (below : ∀ fewer < levels, ∀ schema, Supported defs fewer schema →
      Exemplified defs fewer schema) : Exemplified defs levels schema := by
  induction supported with
  | string keys type minLength maxLength => exact exemplified_string keys type minLength maxLength
  | enum keys type enum nonempty => exact exemplified_enum keys type enum nonempty
  | integer keys type minimum maximum => exact exemplified_integer keys type minimum maximum
  | boolean keys type => exact exemplified_boolean keys type
  | nullable keys anyOf front back supported ih =>
    exact exemplified_nullable keys anyOf front back supported (ih below)
  | untypedArray keys type => exact exemplified_untypedArray keys type
  | array keys type items supported _ =>
    exact exemplified_array keys type items (below _ (Nat.lt_succ_self _) _ supported)
  | object keys type properties required supported _ =>
    exact exemplified_object keys type properties required fun property member =>
      below _ (Nat.lt_succ_self _) _ (supported property member)
  | reference keys ref plain defined supported _ =>
    exact exemplified_reference keys ref plain defined supported fun least fits enough =>
      below least (Nat.lt_succ_of_le fits) _ enough

/-- Every supported schema has an example that conforms to it. -/
theorem exemplified_of_supported (levels : Nat) :
    ∀ schema, Supported defs levels schema → Exemplified defs levels schema := by
  induction levels using Nat.strong_induction_on with
  | _ levels below => exact fun schema supported => exemplified_of_below supported below

/-- The example in the prompt conforms to the schema that the response is validated against. -/
theorem instruction_example_conforms {schema : Json}
    (supported : Supported (definitions schema) 12 schema) :
    ∃ value, instructionExample schema = some value ∧
      Conforms (definitions schema) schema value := by
  have nothing : Unfinished (definitions schema) 12 [] :=
    fun _ member => (List.not_mem_nil member).elim
  obtain ⟨value, found, conforms⟩ :=
    exemplified_of_supported 12 schema supported 0 [] (Nat.le_refl 12) nothing
  refine ⟨value, ?_, conforms⟩
  rw [instructionExample, definitions_trimSchema, found]

end Exemplified

section Samples

def titleSchema : Json :=
  .object [("title", .string "Title"), ("type", .string "string"), ("minLength", .int 1)]

def orderSchema : Json :=
  .object [("anyOf", .array [.object [("type", .string "integer"), ("minimum", .int 1)],
    .object [("type", .string "null")]]), ("default", .null)]

def stepSchema : Json :=
  .object [("type", .string "object"),
    ("properties", .object [("order", orderSchema),
      ("kind", .object [("enum", .array [.string "policy", .string "process"])])]),
    ("required", .array [.string "kind"])]

/-- A plan with a title and steps, each of a kind and with an optional number. -/
def planSchema : Json :=
  .object [("title", .string "Plan"), ("type", .string "object"),
    ("properties", .object [("title", titleSchema),
      ("steps", .object [("type", .string "array"),
        ("items", .object [("$ref", .string "#/$defs/Step")])])]),
    ("required", .array [.string "title", .string "steps"]),
    ("$defs", .object [("Step", stepSchema)])]

theorem title_supported (defs : Fields) (levels : Nat) : Supported defs levels titleSchema := by
  refine .string (by unfold KeysWithin; decide) rfl ?_ ?_
  · intro argument found
    cases found
    exact ⟨1, rfl, by decide⟩
  · intro argument found
    cases found

theorem order_supported (defs : Fields) (levels : Nat) : Supported defs levels orderSchema := by
  have alternatives : ([("anyOf", Json.array [.object [("type", .string "integer"),
      ("minimum", .int 1)], .object [("type", .string "null")]]), ("default", .null)] :
        Fields).lookup "anyOf" =
      some (.array ([] ++ .object [("type", .string "integer"), ("minimum", .int 1)] ::
        [.object [("type", .string "null")]])) := rfl
  refine .nullable (by unfold KeysWithin; decide) alternatives
    (fun _ member => (List.not_mem_nil member).elim) ?_ ?_
  · intro alternative member
    rw [List.mem_singleton.mp member]
    exact ⟨_, rfl, rfl⟩
  · refine .integer (by unfold KeysWithin; decide) rfl ?_ ?_
    · intro argument found
      cases found
      exact ⟨1, rfl, by decide⟩
    · intro argument found
      cases found

theorem step_supported (defs : Fields) (levels : Nat) :
    Supported defs (levels + 1) stepSchema := by
  refine .object (by unfold KeysWithin; decide) rfl rfl ?_ ?_
  · intro argument found
    cases found
    refine ⟨["kind"], rfl, ?_⟩
    intro name member
    rw [List.mem_singleton.mp member]
    exact ⟨_, rfl⟩
  · intro property member
    rcases List.mem_cons.mp member with rfl | member
    · exact order_supported defs levels
    rw [List.mem_singleton.mp member]
    have values : ([("enum", Json.array [.string "policy", .string "process"])] : Fields).lookup
        "enum" = some (.array (["policy", "process"].map .string)) := rfl
    refine .enum (by unfold KeysWithin; decide) ?_ values (List.cons_ne_nil _ _)
    intro argument found
    cases found

theorem plan_supported : Supported (definitions planSchema) 12 planSchema := by
  have plain : PlainName "Step" :=
    ⟨by decide, by decide, by decide, by decide⟩
  have reference : ([("$ref", Json.string "#/$defs/Step")] : Fields).lookup "$ref" =
      some (.string (pointer "Step")) := by
    rw [pointer_of_plain plain.slash plain.tilde]
    rfl
  refine .object (by unfold KeysWithin; decide) rfl rfl ?_ ?_
  · intro argument found
    cases found
    refine ⟨["title", "steps"], rfl, ?_⟩
    intro name member
    rcases List.mem_cons.mp member with rfl | member
    · exact ⟨_, rfl⟩
    rw [List.mem_singleton.mp member]
    exact ⟨_, rfl⟩
  · intro property member
    rcases List.mem_cons.mp member with rfl | member
    · exact title_supported _ _
    rw [List.mem_singleton.mp member]
    refine .array (by unfold KeysWithin; decide) rfl rfl ?_
    exact .reference (by unfold KeysWithin; decide) reference plain rfl (step_supported _ _)

/-- A plan with a list of steps, each with a nullable order and an enumerated kind. -/
theorem plan_example_conforms : ∃ value, instructionExample planSchema = some value ∧
    Conforms (definitions planSchema) planSchema value :=
  instruction_example_conforms plan_supported

def longNameSchema : Json := .object [("type", .string "string"), ("minLength", .int 8)]

/-- The definition is taken for a map of fields, and its own map of fields for a node. -/
def misnamedSchema : Json :=
  .object [("$ref", .string "#/$defs/properties"),
    ("$defs", .object [("properties", .object [("type", .string "object"),
      ("properties", .object [("title", .object [("type", .string "string")])]),
      ("required", .array [.string "title"])])])]

/-- The reference to the definition escapes its slash. -/
def slashedSchema : Json :=
  .object [("$ref", .string "#/$defs/a~1b"),
    ("$defs", .object [("a/b", .object [("type", .string "integer")])])]

/-- The example of a text is too short where eight letters are required. -/
theorem longName_example : instructionExample longNameSchema = some (.string "example") := by
  unfold instructionExample
  rw [longNameSchema, trimSchema, exampleValue_of_type (by decide) rfl rfl]
  rfl

theorem misnamed_example : instructionExample misnamedSchema = some (.object []) := by
  have slash : afterSlash "#/$defs/properties" = "properties" := by decide +kernel
  have trimmed : trimSchema misnamedSchema = .object [("$ref", .string "#/$defs/properties"),
    ("$defs", .object [("properties", .object [("type", .string "object"),
      ("properties", .object []), ("required", .array [.string "title"])])])] := rfl
  unfold instructionExample
  rw [trimmed]
  simp only
  rw [exampleValue_of_reference (by decide) rfl (by rw [slash]; decide) (by rw [slash]; rfl),
    exampleValue_of_type (by decide) rfl rfl]
  rfl

/-- What follows the last slash of the reference is no name of a definition. -/
theorem slashed_example : instructionExample slashedSchema = some (.string "example") := by
  have name : afterSlash "#/$defs/a~1b" = "a~1b" := by decide +kernel
  have trimmed : trimSchema slashedSchema = slashedSchema := rfl
  unfold instructionExample
  rw [trimmed, slashedSchema]
  simp only
  rw [exampleValue_of_unknown (by decide) rfl (by rw [name]; decide) (by rw [name]; rfl),
    exampleValue_of_type (by decide) rfl rfl]
  rfl

/-- What the trimming takes off is not in the example, nor what an escaped name refers to. -/
theorem example_misses_constraints :
    (∃ value, instructionExample longNameSchema = some value ∧
      ¬Conforms (definitions longNameSchema) longNameSchema value) ∧
    (∃ value, instructionExample misnamedSchema = some value ∧
      ¬Conforms (definitions misnamedSchema) misnamedSchema value) ∧
    ∃ value, instructionExample slashedSchema = some value ∧
      ¬Conforms (definitions slashedSchema) slashedSchema value := by
  refine ⟨⟨_, longName_example, ?_⟩, ⟨_, misnamed_example, ?_⟩, ⟨_, slashed_example, ?_⟩⟩
  · intro conforms
    exact absurd (conforms.minLength rfl) (by decide)
  · intro conforms
    obtain ⟨name, schema, defined, conforms⟩ := conforms.ref rfl
    have member := mem_of_lookup defined
    cases List.mem_singleton.mp member
    obtain ⟨field, present⟩ := conforms.required rfl (List.mem_singleton.mpr rfl)
    cases present
  · intro conforms
    obtain ⟨name, schema, defined, conforms⟩ := conforms.ref rfl
    cases List.mem_singleton.mp (mem_of_lookup defined)
    have typed := conforms.type rfl
    generalize named : "integer" = type at typed
    cases typed
    exact absurd named (by decide)

end Samples

end ActionPlan.Llm
