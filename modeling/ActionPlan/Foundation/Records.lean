import Mathlib.Data.List.Nodup
import ActionPlan.Foundation.Dict
import ActionPlan.Foundation.Lookup

/-! # Records as documents

A record is written as an object with an entry for each of its fields, and read field by field: one
that is absent has its default, and an entry that is no field is passed over. A document may be
older than a field, or changed in one, and still be read as the record that it describes.
-/

namespace ActionPlan.Foundation

/-- Documents that are made of lists and objects. -/
class Document (Doc : Type*) where
  null : Doc
  ofItems : List Doc → Doc
  ofEntries : List (String × Doc) → Doc
  isNull : Doc → Bool
  items? : Doc → Option (List Doc)
  entries? : Doc → Option (List (String × Doc))
  isNull_null : isNull null = true
  isNull_ofItems : ∀ items, isNull (ofItems items) = false
  isNull_ofEntries : ∀ entries, isNull (ofEntries entries) = false
  items?_ofItems : ∀ items, items? (ofItems items) = some items
  entries?_ofEntries : ∀ entries, entries? (ofEntries entries) = some entries

open Document

/-- What happens to a document between its writer and its reader. -/
structure Transport (Doc : Type*) [Document Doc] where
  carry : Doc → Doc
  isNull_carry : ∀ document, isNull (carry document) = isNull document
  carry_ofItems : ∀ items, carry (ofItems items) = ofItems (items.map carry)
  carry_ofEntries : ∀ entries, carry (ofEntries entries) =
    ofEntries (entries.map fun entry => (entry.1, carry entry.2))

/-- How the values of a type are written, and what is read of a document. -/
structure Format (Doc Content : Type*) where
  write : Content → Doc
  read : Doc → Option Content

namespace Format

variable {Doc Content Other : Type*} [Document Doc]

section Combinators

/-- A value that may be missing. -/
def optional (format : Format Doc Content) : Format Doc (Option Content) where
  write content := content.elim null format.write
  read document := if isNull document then some none else (format.read document).map some

/-- A list is written item by item. -/
def list (format : Format Doc Content) : Format Doc (List Content) where
  write contents := ofItems (contents.map format.write)
  read document := (items? document).bind fun items => items.mapM format.read

/-- An object with keys of any number. -/
def dictionary (format : Format Doc Content) : Format Doc (Dict Content) where
  write dict := ofEntries (dict.entries.map fun entry => (entry.1, format.write entry.2))
  read document := (entries? document).bind fun entries =>
    (entries.mapM fun entry => (format.read entry.2).map (Sigma.mk entry.1)).map fun read =>
      read.toAList

/-- The values for which a condition holds. -/
def restrict (format : Format Doc Content) (allowed : Content → Prop) [DecidablePred allowed] :
    Format Doc { content // allowed content } where
  write content := format.write content.1
  read document := (format.read document).bind fun content =>
    if holds : allowed content then some ⟨content, holds⟩ else none

/-- One of several values, each written as its name. -/
def oneOf [DecidableEq Content] (format : Format Doc Content) (values : List Other)
    (name : Other → Content) : Format Doc Other where
  write value := format.write (name value)
  read document := (format.read document).bind fun content =>
    values.find? fun value => name value = content

end Combinators

section Laws

variable (transport : Transport Doc) {format : Format Doc Content}

/-- What is written of a value is read as another one. -/
def Restores (format : Format Doc Content) (content restored : Content) : Prop :=
  format.read (transport.carry (format.write content)) = some restored

/-- Every value is read as it was written. -/
def Lossless (format : Format Doc Content) : Prop :=
  ∀ content, format.Restores transport content content

/-- A lossless format restores every content. -/
@[simp] theorem Lossless.restores {transport : Transport Doc} (lossless : format.Lossless transport)
    (content : Content) : format.Restores transport content content := lossless content

/-- No value is written as a missing one. -/
def Solid (format : Format Doc Content) : Prop := ∀ content, isNull (format.write content) = false

variable {transport}

/-- A value that is not null stays one when it may be absent. -/
theorem Restores.optional {content restored : Content} (solid : format.Solid)
    (restores : format.Restores transport content restored) :
    format.optional.Restores transport (some content) (some restored) := by
  have present : isNull (transport.carry (format.write content)) = false :=
    (transport.isNull_carry _).trans (solid content)
  simp only [Restores, Format.optional, Option.elim_some, present, Bool.false_eq_true, ↓reduceIte]
  rw [restores, Option.map_some]

@[simp] theorem restores_none : format.optional.Restores transport none none := by
  have missing : isNull (transport.carry null) = true :=
    (transport.isNull_carry _).trans isNull_null
  simp only [Restores, Format.optional, Option.elim_none, missing, ↓reduceIte]

@[simp] theorem Lossless.optional (solid : format.Solid) (lossless : format.Lossless transport) :
    format.optional.Lossless transport := by
  intro content
  cases content with
  | none => exact restores_none
  | some content => exact (lossless content).optional solid

theorem mapM_map_some {α β γ : Type*} (read : β → Option γ) (write : α → β) (image : α → γ)
    (items : List α) (each : ∀ item ∈ items, read (write item) = some (image item)) :
    (items.map write).mapM read = some (items.map image) := by
  induction items with
  | nil => rfl
  | cons item items ih =>
    obtain ⟨first, others⟩ := List.forall_mem_cons.mp each
    rw [List.map_cons, List.mapM_cons, first, ih others]
    rfl

/-- A list is restored item by item. -/
@[simp] theorem Lossless.list (lossless : format.Lossless transport) :
    format.list.Lossless transport := by
  intro contents
  have read := mapM_map_some format.read (transport.carry ∘ format.write) id contents
    fun content _ => lossless content
  simp only [Restores, Format.list, transport.carry_ofItems, items?_ofItems, Option.bind_some,
    List.map_map, read, List.map_id]

@[simp] theorem solid_list : format.list.Solid := fun _ => isNull_ofItems _

theorem dedupKeys_of_nodupKeys {entries : List (Sigma fun _ : String => Content)}
    (distinct : entries.NodupKeys) : entries.dedupKeys = entries := by
  induction entries with
  | nil => rfl
  | cons entry entries ih =>
    obtain ⟨absent, others⟩ := List.nodupKeys_cons.mp distinct
    rw [List.dedupKeys_cons, ih others, List.kinsert_def, List.kerase_of_notMem_keys absent]

/-- The values of a dictionary are read each by itself. -/
theorem restores_dictionary {image : Content → Content} {dict : Dict Content}
    (each : ∀ entry ∈ dict.entries, format.Restores transport entry.2 (image entry.2)) :
    format.dictionary.Restores transport dict (dict.mapValues image) := by
  have read := mapM_map_some
    (fun entry : String × Doc =>
      (format.read entry.2).map (Sigma.mk (β := fun _ : String => Content) entry.1))
    (fun entry => (entry.1, transport.carry (format.write entry.2)))
    (fun entry => ⟨entry.1, image entry.2⟩) dict.entries
    fun entry member => congrArg _ (each entry member)
  simp only [Restores, dictionary, transport.carry_ofEntries, entries?_ofEntries,
    Option.bind_some, List.map_map, Function.comp_def, read, Option.map_some, Option.some_inj]
  exact AList.ext (dedupKeys_of_nodupKeys (dict.mapValues image).nodupKeys)

/-- A dictionary is restored entry by entry. -/
@[simp] theorem Lossless.dictionary (lossless : format.Lossless transport) :
    format.dictionary.Lossless transport := by
  intro dict
  have same : format.dictionary.Restores transport dict (dict.mapValues id) :=
    restores_dictionary fun entry _ => lossless entry.2
  rwa [Dict.mapValues_eq_self id dict fun _ _ => rfl] at same

@[simp] theorem solid_dictionary : format.dictionary.Solid := fun _ => isNull_ofEntries _

/-- A restriction does not lose what it allows. -/
theorem Lossless.restrict (lossless : format.Lossless transport) (allowed : Content → Prop)
    [DecidablePred allowed] : (format.restrict allowed).Lossless transport := by
  intro content
  have read := lossless content.1
  simp only [Restores] at read
  simp only [Restores, Format.restrict, read, Option.bind_some, content.2, ↓reduceDIte]

/-- Values with different names are restored by them. -/
theorem Lossless.oneOf [DecidableEq Content] (lossless : format.Lossless transport)
    {values : List Other} {name : Other → Content} (distinct : (values.map name).Nodup)
    (complete : ∀ value, value ∈ values) : (format.oneOf values name).Lossless transport := by
  intro value
  have read := lossless (name value)
  simp only [Restores] at read
  simp only [Restores, Format.oneOf, read, Option.bind_some]
  exact find?_key distinct (complete value)

end Laws

end Format

/-- A field of a record: the content has a name of its own, under which it is written, and may be
given under others. -/
structure RecordField (Doc Record : Type) where
  {Content : Type}
  key : String
  aliases : List String
  get : Record → Content
  format : Format Doc Content
  default : Option Content

namespace RecordField

variable {Doc Record : Type} (field : RecordField Doc Record)

def names : List String := field.key :: field.aliases

/-- What is read of a document, given by its entries. -/
def read (given : String → Option Doc) : Option field.Content :=
  match (field.aliases ++ [field.key]).findSome? given with
  | some document => field.format.read document
  | none => field.default

/-- The document has an entry that is read as the content, or the content is the default. -/
def Describes (given : String → Option Doc) (record : Record) : Prop :=
  field.read given = some (field.get record)

variable {field}

theorem findSome?_congr {α β : Type*} {first second : α → Option β} {items : List α}
    (same : ∀ item ∈ items, first item = second item) :
    items.findSome? first = items.findSome? second := by
  induction items with
  | nil => rfl
  | cons item items ih =>
    obtain ⟨head, tail⟩ := List.forall_mem_cons.mp same
    rw [List.findSome?_cons, List.findSome?_cons, head, ih tail]

/-- Documents that agree on the names of a field say the same of it. -/
theorem read_congr {first second : String → Option Doc}
    (same : ∀ name ∈ field.names, first name = second name) :
    field.read first = field.read second := by
  obtain ⟨key, aliases⟩ := List.forall_mem_cons.mp same
  have found : (field.aliases ++ [field.key]).findSome? first =
      (field.aliases ++ [field.key]).findSome? second := by
    rw [List.findSome?_append, List.findSome?_append, List.findSome?_singleton,
      List.findSome?_singleton, key]
    congr 1
    exact findSome?_congr aliases
  rw [read, read, found]

/-- A field that is given under its own name only. -/
theorem read_of_unaliased {given : String → Option Doc}
    (unaliased : ∀ name ∈ field.aliases, given name = none) :
    field.read given = match given field.key with
      | some document => field.format.read document
      | none => field.default := by
  have absent : field.aliases.findSome? given = none := List.findSome?_eq_none_iff.mpr unaliased
  rw [read, List.findSome?_append, absent, Option.none_or, List.findSome?_singleton]

end RecordField

/-- The fields of a record, and what is built of their contents. -/
structure Fields (Doc Record Result : Type) where
  fields : List (RecordField Doc Record)
  read : (String → Option Doc) → Option Result
  value : Record → Result
  /-- What is described is read. -/
  read_of_describes : ∀ given record, (∀ field ∈ fields, field.Describes given record) →
    read given = some (value record)
  /-- A field that cannot be read makes the record unreadable. -/
  isSome_of_read : ∀ given, (read given).isSome → ∀ field ∈ fields, (field.read given).isSome

namespace Fields

variable {Doc Record Content Result : Type}

/-- A record without fields. -/
def of (result : Result) : Fields Doc Record Result where
  fields := []
  read _ := some result
  value _ := result
  read_of_describes _ _ _ := rfl
  isSome_of_read _ _ _ absent := (List.not_mem_nil absent).elim

section Extension

variable (rest : Fields Doc Record (Content → Result)) (field : RecordField Doc Record)

/-- If the document describes each of the fields, the record is built from them. -/
theorem read_of_describes_append (build : field.Content → Content)
    (given : String → Option Doc) (record : Record)
    (described : ∀ other ∈ rest.fields ++ [field], other.Describes given record) :
    ((rest.read given).bind fun result => (field.read given).map (result ∘ build)) =
      some (rest.value record (build (field.get record))) := by
  obtain ⟨earlier, last⟩ := List.forall_mem_append.mp described
  have present : field.read given = some (field.get record) :=
    last field (List.mem_singleton_self _)
  rw [rest.read_of_describes given record earlier, Option.bind_some, present]
  rfl

/-- A record is read only where each of its fields is. -/
theorem isSome_of_read_append (build : field.Content → Content) (given : String → Option Doc)
    (read : ((rest.read given).bind fun result =>
      (field.read given).map (result ∘ build)).isSome) :
    ∀ other ∈ rest.fields ++ [field], (other.read given).isSome := by
  obtain ⟨result, built⟩ := Option.isSome_iff_exists.mp read
  obtain ⟨earlier, readable, mapped⟩ := Option.bind_eq_some_iff.mp built
  obtain ⟨content, present, -⟩ := Option.map_eq_some_iff.mp mapped
  refine List.forall_mem_append.mpr ⟨rest.isSome_of_read given ?_, ?_⟩
  · rw [readable, Option.isSome_some]
  · intro other member
    rw [List.mem_singleton.mp member, present, Option.isSome_some]

end Extension

/-- The record with another field, whose content is given to what has been built. -/
def field (rest : Fields Doc Record (Content → Result)) (key : String) (aliases : List String)
    (get : Record → Content) (format : Format Doc Content) (default : Option Content) :
    Fields Doc Record Result where
  fields := rest.fields ++ [⟨key, aliases, get, format, default⟩]
  read given := (rest.read given).bind fun result =>
    (RecordField.read ⟨key, aliases, get, format, default⟩ given).map (result ∘ id)
  value record := rest.value record (get record)
  read_of_describes := rest.read_of_describes_append ⟨key, aliases, get, format, default⟩ id
  isSome_of_read := rest.isSome_of_read_append ⟨key, aliases, get, format, default⟩ id

/-- A field without a default. -/
abbrev required (rest : Fields Doc Record (Content → Result)) (key : String)
    (get : Record → Content) (format : Format Doc Content) : Fields Doc Record Result :=
  rest.field key [] get format none

abbrev defaulted (rest : Fields Doc Record (Content → Result)) (key : String)
    (get : Record → Content) (format : Format Doc Content) (default : Content) :
    Fields Doc Record Result :=
  rest.field key [] get format (some default)

/-- The names under which fields are given. -/
def names (fields : Fields Doc Record Result) : List String :=
  fields.fields.flatMap RecordField.names

@[simp] theorem names_of (result : Result) : (of result : Fields Doc Record Result).names = [] :=
  rfl

@[simp] theorem names_field (rest : Fields Doc Record (Content → Result)) (key : String)
    (aliases : List String) (get : Record → Content) (format : Format Doc Content)
    (default : Option Content) :
    (rest.field key aliases get format default).names = rest.names ++ key :: aliases := by
  rw [names, names, field, List.flatMap_append, List.flatMap_singleton, RecordField.names]

/-- The entries that are written for a record. -/
def entries (fields : Fields Doc Record Result) (record : Record) : List (String × Doc) :=
  fields.fields.map fun field => (field.key, field.format.write (field.get record))

@[simp] theorem entries_of (result : Result) (record : Record) :
    (of result : Fields Doc Record Result).entries record = [] := rfl

@[simp] theorem entries_field (rest : Fields Doc Record (Content → Result)) (key : String)
    (aliases : List String) (get : Record → Content) (format : Format Doc Content)
    (default : Option Content) (record : Record) :
    (rest.field key aliases get format default).entries record =
      rest.entries record ++ [(key, format.write (get record))] :=
  List.map_append

/-- What holds of each field. -/
def Each (property : RecordField Doc Record → Prop) (fields : Fields Doc Record Result) : Prop :=
  ∀ field ∈ fields.fields, property field

@[simp] theorem each_of (property : RecordField Doc Record → Prop) (result : Result) :
    Each property (of result) :=
  fun _ absent => (List.not_mem_nil absent).elim

@[simp] theorem each_field (property : RecordField Doc Record → Prop)
    (rest : Fields Doc Record (Content → Result)) (key : String) (aliases : List String)
    (get : Record → Content) (format : Format Doc Content) (default : Option Content) :
    Each property (rest.field key aliases get format default) ↔
      Each property rest ∧ property ⟨key, aliases, get, format, default⟩ :=
  List.forall_mem_append.trans (and_congr_right fun _ => List.forall_mem_singleton)

end Fields

/-- The fields of a record from which it is built, under distinct names. -/
structure Schema (Doc Record : Type) extends Fields Doc Record Record where
  whole : ∀ record, value record = record
  distinct : toFields.names.Nodup

namespace Schema

variable {Doc Record : Type} (schema : Schema Doc Record)

/-- What is described is read. -/
theorem read_eq_some {schema : Schema Doc Record} {record : Record} {given : String → Option Doc}
    (described : schema.Each fun field => field.Describes given record) :
    schema.read given = some record :=
  (schema.read_of_describes given record described).trans (congrArg some (schema.whole record))

/-- A document that has been changed describes the changed record. -/
theorem describes_of_changed {schema : Schema Doc Record} {record changed : Record}
    {given next : String → Option Doc}
    (described : schema.Each fun field => field.Describes given record)
    (each : schema.Each fun field => field.Describes next changed ∨
      (∀ name ∈ field.names, next name = given name) ∧ field.get changed = field.get record) :
    schema.Each fun field => field.Describes next changed := by
  intro field member
  rcases each field member with new | ⟨same, kept⟩
  · exact new
  · rw [RecordField.Describes, RecordField.read_congr same, kept]
    exact described field member

/-- A record writes no key twice. -/
theorem nodup_keys : (schema.fields.map RecordField.key).Nodup := by
  refine List.pairwise_map.mpr ((List.nodup_flatMap.mp schema.distinct).2.imp ?_)
  intro field other apart same
  exact apart List.mem_cons_self (same ▸ List.mem_cons_self)

/-- No field is written under a name under which a field may be given otherwise. -/
theorem key_ne_alias {field other : RecordField Doc Record}
    (member : field ∈ schema.fields) (listed : other ∈ schema.fields) {name : String}
    (named : name ∈ other.aliases) : field.key ≠ name := by
  rintro rfl
  obtain ⟨each, apart⟩ := List.nodup_flatMap.mp schema.distinct
  by_cases same : field = other
  · subst same
    exact (List.nodup_cons.mp (each field member)).1 named
  · have symmetric : Std.Symm (Function.onFun List.Disjoint (@RecordField.names Doc Record)) :=
      ⟨fun _ _ disjoint _ second first => disjoint first second⟩
    exact apart.forall member listed same List.mem_cons_self (List.mem_cons_of_mem _ named)

variable [Document Doc]

/-- A record is written as the entries of its fields and read back by their names. -/
def format : Format Doc Record where
  write record := ofEntries (schema.entries record)
  read document := (entries? document).bind fun entries => schema.read fun key =>
    entries.lookup key

@[simp] theorem solid_format : schema.format.Solid := fun _ => isNull_ofEntries _

variable (record : Record) (transport : Transport Doc) (restored : Record)
  (given : String → Option Doc)

/-- Of a record that was written, the document has the entry of each field, or lacks it where the
restored record has the default. Whatever else it has is no matter. -/
structure Holds : Prop where
  aliases : schema.Each fun field => ∀ name ∈ field.aliases, given name = none
  entry : schema.Each fun field =>
    given field.key = some (transport.carry (field.format.write (field.get record))) ∨
      given field.key = none ∧ field.default = some (field.get restored)

/-- Each field is read as the restored record has it. -/
def Restores : Prop :=
  schema.Each fun field => field.format.Restores transport (field.get record) (field.get restored)

variable {schema record transport restored given}

/-- A document that holds a record describes the restored record field by field. -/
theorem Holds.describes (holds : schema.Holds record transport restored given)
    (restores : schema.Restores record transport restored) :
    schema.Each fun field => field.Describes given restored := by
  intro field member
  rw [RecordField.Describes, RecordField.read_of_unaliased (holds.aliases field member)]
  rcases holds.entry field member with present | ⟨absent, default⟩
  · rw [present]
    exact restores field member
  · rw [absent]
    exact default

/-- An entry is found under the key of its field. -/
theorem lookup_map_of_nodup {α β : Type*} {items : List α} (key : α → String) (image : α → β)
    (distinct : (items.map key).Nodup) {item : α} (member : item ∈ items) :
    (items.map fun item => (key item, image item)).lookup (key item) = some (image item) := by
  induction items with
  | nil => exact (List.not_mem_nil member).elim
  | cons first items ih =>
    obtain ⟨absent, others⟩ := List.nodup_cons.mp distinct
    rw [List.map_cons, List.lookup_cons]
    rcases List.mem_cons.mp member with rfl | later
    · rw [beq_self_eq_true]
    · have different : key item ≠ key first := fun same =>
        absent (same ▸ List.mem_map_of_mem later)
      rw [beq_false_of_ne different]
      exact ih others later

theorem lookup_map_eq_none {α β : Type*} {items : List α} {key : α → String} {image : α → β}
    {name : String} (absent : ∀ item ∈ items, key item ≠ name) :
    (items.map fun item => (key item, image item)).lookup name = none := by
  induction items with
  | nil => rfl
  | cons first items ih =>
    obtain ⟨head, tail⟩ := List.forall_mem_cons.mp absent
    rw [List.map_cons, List.lookup_cons, beq_false_of_ne head.symm]
    exact ih tail

/-- A map of the values commutes with the lookup. -/
theorem lookup_map_snd {α β : Type*} (image : α → β) (entries : List (String × α)) (key : String) :
    (entries.map fun entry => (entry.1, image entry.2)).lookup key =
      (entries.lookup key).map image := by
  induction entries with
  | nil => rfl
  | cons entry entries ih =>
    rw [List.map_cons, List.lookup_cons, List.lookup_cons]
    split
    · rfl
    · exact ih

variable (schema record transport restored) in
/-- **What has been written holds.** -/
theorem holds_entries : schema.Holds record transport restored fun key =>
    ((schema.entries record).map fun entry => (entry.1, transport.carry entry.2)).lookup key where
  aliases field member name named := by
    rw [Fields.entries, List.map_map]
    exact lookup_map_eq_none fun other listed => schema.key_ne_alias listed member named
  entry field member := by
    rw [Fields.entries, List.map_map]
    exact .inl (lookup_map_of_nodup RecordField.key _ schema.nodup_keys member)

/-- **A record is restored** where its fields are. -/
theorem Restores.format (restores : schema.Restores record transport restored) :
    schema.format.Restores transport record restored := by
  simp only [Format.Restores, Schema.format, transport.carry_ofEntries, entries?_ofEntries,
    Option.bind_some]
  exact read_eq_some ((schema.holds_entries record transport restored).describes restores)

/-- A record is restored if the format of each field is lossless. -/
theorem lossless_format
    (each : schema.Each fun field => field.format.Lossless transport) :
    schema.format.Lossless transport :=
  fun record => Restores.format fun field member => each field member (field.get record)

end Schema

end ActionPlan.Foundation
