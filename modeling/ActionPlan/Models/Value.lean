import ActionPlan.Foundation.Dict

/-! # Python values, JSON and exceptions

The untyped dictionaries of the workflow record (`dict[str, Any]`) hold Python
values. Two encodings matter: `json.dumps`, which refuses what JSON has no
notation for, and pydantic's JSON mode, which writes such values as strings. A
JSON text is represented by the value it decodes to.
-/

namespace ActionPlan.Models

open ActionPlan.Foundation

/-- `datetime.date`. -/
structure Date where
  year : Nat
  month : Nat
  day : Nat
  deriving DecidableEq, Repr

namespace Date

/-- Number of days before the first of January of `year`. -/
def daysBeforeYear (year : Nat) : Nat :=
  let completed := year - 1
  completed * 365 + completed / 4 - completed / 100 + completed / 400

/-- The leap years of the Gregorian calendar. -/
def isLeap (year : Nat) : Bool := year % 4 == 0 && (year % 100 != 0 || year % 400 == 0)

/-- Number of days of `year` before the first of `month`. -/
def daysBeforeMonth (year month : Nat) : Nat :=
  [0, 31, 59, 90, 120, 151, 181, 212, 243, 273, 304, 334].getD (month - 1) 0 +
    if month > 2 && isLeap year then 1 else 0

/-- `date.toordinal()`. -/
def toOrdinal (date : Date) : Nat :=
  daysBeforeYear date.year + daysBeforeMonth date.year date.month + date.day

/-- `(first - second).days`. -/
def daysBetween (first second : Date) : Int := (first.toOrdinal : Int) - second.toOrdinal

/-- A number with leading zeros. -/
private def padded (width number : Nat) : String :=
  let digits := toString number
  String.ofList (List.replicate (width - digits.length) '0') ++ digits

/-- `date.isoformat`. -/
def isoformat (date : Date) : String :=
  padded 4 date.year ++ "-" ++ padded 2 date.month ++ "-" ++ padded 2 date.day

end Date

/-- A UTC `datetime.datetime`. -/
structure DateTime where
  date : Date
  hour : Nat
  minute : Nat
  second : Nat
  microsecond : Nat
  deriving DecidableEq, Repr

/-- Midnight of the first of January 2025. -/
def DateTime.newYear : DateTime :=
  { date := ⟨2025, 1, 1⟩, hour := 0, minute := 0, second := 0, microsecond := 0 }

/-- The Python values that the untyped dictionaries of the program can hold.
`decimal` is the number type of the DynamoDB client. -/
inductive Value where
  | none
  | bool (flag : Bool)
  | int (number : Int)
  | decimal (number : Int)
  | str (text : String)
  | date (day : Date)
  | list (items : List Value)
  | dict (entries : List (String × Value))
  deriving Repr

namespace Value

mutual

/-- Whether `json.dumps` accepts the value. -/
def isJson : Value → Bool
  | .none | .bool _ | .int _ | .str _ => true
  | .decimal _ | .date _ => false
  | .list items => allJson items
  | .dict entries => allEntriesJson entries

def allJson : List Value → Bool
  | [] => true
  | item :: items => item.isJson && allJson items

def allEntriesJson : List (String × Value) → Bool
  | [] => true
  | entry :: entries => entry.2.isJson && allEntriesJson entries

end

mutual

/-- pydantic's JSON mode: a `Decimal` or a date held in an untyped field is
written as a string. -/
def toJsonMode : Value → Value
  | .decimal number => .str (toString number)
  | .date day => .str day.isoformat
  | .list items => .list (toJsonModeList items)
  | .dict entries => .dict (toJsonModeEntries entries)
  | value => value

def toJsonModeList : List Value → List Value
  | [] => []
  | item :: items => item.toJsonMode :: toJsonModeList items

def toJsonModeEntries : List (String × Value) → List (String × Value)
  | [] => []
  | entry :: entries => (entry.1, entry.2.toJsonMode) :: toJsonModeEntries entries

end

mutual

/-- What the DynamoDB client returns for a stored JSON value: every number is a
`Decimal`. -/
def numbersAsDecimal : Value → Value
  | .int number => .decimal number
  | .list items => .list (numbersAsDecimalList items)
  | .dict entries => .dict (numbersAsDecimalEntries entries)
  | value => value

def numbersAsDecimalList : List Value → List Value
  | [] => []
  | item :: items => item.numbersAsDecimal :: numbersAsDecimalList items

def numbersAsDecimalEntries : List (String × Value) → List (String × Value)
  | [] => []
  | entry :: entries => (entry.1, entry.2.numbersAsDecimal) :: numbersAsDecimalEntries entries

end

mutual

/-- JSON mode leaves a JSON value as it is. -/
theorem toJsonMode_of_isJson : ∀ value : Value, value.isJson → value.toJsonMode = value
  | .none, _ | .bool _, _ | .int _, _ | .str _, _ => rfl
  | .decimal _, json | .date _, json => by cases json
  | .list items, json => congrArg Value.list (toJsonModeList_of_allJson items json)
  | .dict entries, json => congrArg Value.dict (toJsonModeEntries_of_allEntriesJson entries json)

theorem toJsonModeList_of_allJson : ∀ items : List Value, allJson items →
    toJsonModeList items = items
  | [], _ => rfl
  | item :: items, json => by
      rw [allJson, Bool.and_eq_true] at json
      rw [toJsonModeList, toJsonMode_of_isJson item json.1, toJsonModeList_of_allJson items json.2]

theorem toJsonModeEntries_of_allEntriesJson : ∀ entries : List (String × Value),
    allEntriesJson entries → toJsonModeEntries entries = entries
  | [], _ => rfl
  | entry :: entries, json => by
      rw [allEntriesJson, Bool.and_eq_true] at json
      rw [toJsonModeEntries, toJsonMode_of_isJson entry.2 json.1,
        toJsonModeEntries_of_allEntriesJson entries json.2]

end

mutual

/-- What JSON mode writes is a JSON value. -/
theorem isJson_toJsonMode : ∀ value : Value, value.toJsonMode.isJson = true
  | .none | .bool _ | .int _ | .decimal _ | .str _ | .date _ => rfl
  | .list items => allJson_toJsonModeList items
  | .dict entries => allEntriesJson_toJsonModeEntries entries

theorem allJson_toJsonModeList : ∀ items : List Value, allJson (toJsonModeList items) = true
  | [] => rfl
  | item :: items => by
      rw [toJsonModeList, allJson, isJson_toJsonMode item, allJson_toJsonModeList items,
        Bool.and_self]

theorem allEntriesJson_toJsonModeEntries : ∀ entries : List (String × Value),
    allEntriesJson (toJsonModeEntries entries) = true
  | [] => rfl
  | entry :: entries => by
      rw [toJsonModeEntries, allEntriesJson, isJson_toJsonMode entry.2,
        allEntriesJson_toJsonModeEntries entries, Bool.and_self]

end

/-- JSON mode writes what it has written before in the same way. -/
theorem toJsonMode_toJsonMode (value : Value) : value.toJsonMode.toJsonMode = value.toJsonMode :=
  toJsonMode_of_isJson _ value.isJson_toJsonMode

mutual

/-- Whether the value holds no number that is a number in JSON too. A `Decimal` is written
as a string and counts as none. -/
def numberFree : Value → Bool
  | .int _ => false
  | .list items => allNumberFree items
  | .dict entries => allEntriesNumberFree entries
  | .none | .bool _ | .decimal _ | .str _ | .date _ => true

def allNumberFree : List Value → Bool
  | [] => true
  | item :: items => item.numberFree && allNumberFree items

def allEntriesNumberFree : List (String × Value) → Bool
  | [] => true
  | entry :: entries => entry.2.numberFree && allEntriesNumberFree entries

end

mutual

/-- The DynamoDB client returns no such number. -/
theorem numberFree_numbersAsDecimal : ∀ value : Value, value.numbersAsDecimal.numberFree = true
  | .none | .bool _ | .int _ | .decimal _ | .str _ | .date _ => rfl
  | .list items => allNumberFree_numbersAsDecimalList items
  | .dict entries => allEntriesNumberFree_numbersAsDecimalEntries entries

theorem allNumberFree_numbersAsDecimalList : ∀ items : List Value,
    allNumberFree (numbersAsDecimalList items) = true
  | [] => rfl
  | item :: items => by
      rw [numbersAsDecimalList, allNumberFree, numberFree_numbersAsDecimal item,
        allNumberFree_numbersAsDecimalList items, Bool.and_self]

theorem allEntriesNumberFree_numbersAsDecimalEntries : ∀ entries : List (String × Value),
    allEntriesNumberFree (numbersAsDecimalEntries entries) = true
  | [] => rfl
  | entry :: entries => by
      rw [numbersAsDecimalEntries, allEntriesNumberFree, numberFree_numbersAsDecimal entry.2,
        allEntriesNumberFree_numbersAsDecimalEntries entries, Bool.and_self]

end

mutual

/-- The JSON form of a value survives the DynamoDB client exactly when it holds no number. -/
theorem toJsonMode_numbersAsDecimal_iff : ∀ value : Value,
    value.toJsonMode.numbersAsDecimal.toJsonMode = value.toJsonMode ↔ value.numberFree = true
  | .none | .bool _ | .decimal _ | .str _ | .date _ => iff_of_true rfl rfl
  | .int _ => iff_of_false nofun nofun
  | .list items => by
      rw [toJsonMode, numbersAsDecimal, toJsonMode, Value.list.injEq, numberFree]
      exact toJsonModeList_numbersAsDecimalList_iff items
  | .dict entries => by
      rw [toJsonMode, numbersAsDecimal, toJsonMode, Value.dict.injEq, numberFree]
      exact toJsonModeEntries_numbersAsDecimalEntries_iff entries

theorem toJsonModeList_numbersAsDecimalList_iff : ∀ items : List Value,
    toJsonModeList (numbersAsDecimalList (toJsonModeList items)) = toJsonModeList items ↔
      allNumberFree items = true
  | [] => iff_of_true rfl rfl
  | item :: items => by
      simp only [toJsonModeList, numbersAsDecimalList, List.cons.injEq, allNumberFree,
        Bool.and_eq_true]
      rw [toJsonMode_numbersAsDecimal_iff item, toJsonModeList_numbersAsDecimalList_iff items]

theorem toJsonModeEntries_numbersAsDecimalEntries_iff : ∀ entries : List (String × Value),
    toJsonModeEntries (numbersAsDecimalEntries (toJsonModeEntries entries)) =
      toJsonModeEntries entries ↔ allEntriesNumberFree entries = true
  | [] => iff_of_true rfl rfl
  | entry :: entries => by
      simp only [toJsonModeEntries, numbersAsDecimalEntries, List.cons.injEq, Prod.mk.injEq,
        true_and, allEntriesNumberFree, Bool.and_eq_true]
      rw [toJsonMode_numbersAsDecimal_iff entry.2,
        toJsonModeEntries_numbersAsDecimalEntries_iff entries]

end

/-- Python truthiness. -/
def truthy : Value → Bool
  | .none => false
  | .bool flag => flag
  | .int number | .decimal number => number != 0
  | .str text => text != ""
  | .date _ => true
  | .list items => !items.isEmpty
  | .dict entries => !entries.isEmpty

/-- The list of strings as a Python list. -/
def strings (texts : List String) : Value := .list (texts.map .str)

theorem allJson_map {α : Type*} (encode : α → Value) (json : ∀ item, (encode item).isJson = true)
    (items : List α) : allJson (items.map encode) = true := by
  induction items with
  | nil => rfl
  | cons item items ih => rw [List.map_cons, allJson, json item, ih, Bool.and_self]

/-- Lists of texts are different values if they are different. -/
theorem strings_injective : Function.Injective strings := by
  intro first second same
  have texts : first.map Value.str = second.map Value.str := Value.list.inj same
  exact List.map_injective_iff.mpr (fun _ _ => Value.str.inj) texts

@[simp] theorem isJson_strings (texts : List String) : (strings texts).isJson = true :=
  allJson_map .str (fun _ => rfl) texts

end Value

/-- The exceptions that the modelled code raises. `upstream` is any exception of
a service outside the program: the language model, the retriever, the store. -/
inductive Exn where
  | notFound (message : String)
  | conflict (message : String)
  | workspaceError (message : String)
  | valueError (message : String)
  | validationError
  | typeError (message : String)
  | attributeError (message : String)
  | runtimeError (message : String)
  | recursionError
  | integrityError
  | httpException (statusCode : Nat) (detail : String)
  | upstream (message : String)
  deriving DecidableEq, Repr

namespace Exn

/-- `str(error)`. -/
def message : Exn → String
  | .notFound message | .conflict message | .workspaceError message | .valueError message
  | .typeError message | .attributeError message | .runtimeError message
  | .upstream message => message
  | .validationError => "validation error"
  | .recursionError => "maximum recursion depth exceeded"
  | .integrityError => "UNIQUE constraint failed"
  | .httpException _ detail => detail

/-- The status code of a `WorkspaceError` (`NotFound` and `Conflict` are
subclasses of it); `none` for every other exception. -/
def workspaceStatus : Exn → Option Nat
  | .notFound _ => some 404
  | .conflict _ => some 409
  | .workspaceError _ => some 400
  | _ => none

end Exn

/-- A JSON text, represented by the value it decodes to. -/
structure JsonText where
  document : Value
  json : document.isJson = true

/-- `json.dumps`. -/
def jsonDumps (value : Value) : Except Exn JsonText :=
  if json : value.isJson = true then .ok ⟨value, json⟩
  else .error (.typeError "Object is not JSON serializable")

/-- `json.loads` gives back what `json.dumps` has written. -/
theorem document_of_jsonDumps {value : Value} {text : JsonText}
    (encoded : jsonDumps value = .ok text) : text.document = value := by
  unfold jsonDumps at encoded
  split at encoded
  · cases encoded
    rfl
  · cases encoded

end ActionPlan.Models
