import Mathlib.Data.List.Forall2
import Mathlib.Data.List.Nodup
import Mathlib.Tactic.Tauto
import ActionPlan.Foundation.Lookup

/-! # Relational tables with a primary key

A table is a list of rows whose keys are distinct; the distinctness is a field,
so a table that violates its primary key cannot be built. The operations are
those of SQL: `INSERT`, which fails when the key is taken, `INSERT OR IGNORE`,
`INSERT OR REPLACE`, `INSERT .. ON CONFLICT DO UPDATE`, `DELETE .. WHERE` and
`SELECT .. WHERE`.
-/

namespace ActionPlan.Foundation

/-- A list of rows no two of which have the same primary key. -/
structure Table {Row Key : Type*} (key : Row → Key) where
  rows : List Row
  unique : (rows.map key).Nodup

namespace Table

variable {Row Key : Type*} {key : Row → Key}

instance : EmptyCollection (Table key) := ⟨⟨[], List.nodup_nil⟩⟩

@[simp] theorem rows_empty : (∅ : Table key).rows = [] := rfl

theorem ext {first second : Table key} (same : first.rows = second.rows) : first = second := by
  cases first
  cases second
  congr

/-- `SELECT * WHERE condition`. -/
def selectWhere (table : Table key) (condition : Row → Bool) : List Row :=
  table.rows.filter condition

/-- `DELETE WHERE condition`. -/
def deleteWhere (table : Table key) (condition : Row → Bool) : Table key where
  rows := table.rows.filter fun row => !condition row
  unique := table.unique.sublist (List.filter_sublist.map key)

/-- The rows that are not deleted stay. -/
theorem mem_deleteWhere (table : Table key) (condition : Row → Bool) (row : Row) :
    row ∈ (table.deleteWhere condition).rows ↔ row ∈ table.rows ∧ condition row = false := by
  simp [deleteWhere]

private theorem nodup_append_singleton {rows : List Row} {row : Row} (rest : (rows.map key).Nodup)
    (fresh : ∀ other ∈ rows, key other ≠ key row) : ((rows ++ [row]).map key).Nodup := by
  rw [List.map_append, List.nodup_append]
  refine ⟨rest, List.nodup_singleton _, ?_⟩
  rintro _ member _ rowKey rfl
  obtain ⟨other, otherRow, same⟩ := List.mem_map.mp member
  obtain ⟨added, addedRow, rfl⟩ := List.mem_map.mp rowKey
  rw [List.mem_singleton.mp addedRow] at same
  exact fresh other otherRow same

section Matching

variable {Other : Type*} {otherKey : Other → Key}

/-- The rows of two tables are related, one after the other. -/
def Matches (related : Row → Other → Prop) (table : Table key) (other : Table otherKey) : Prop :=
  List.Forall₂ related table.rows other.rows

theorem matches_empty (related : Row → Other → Prop) :
    Matches related (∅ : Table key) (∅ : Table otherKey) := .nil

end Matching

variable [DecidableEq Key]

/-- The row with a given primary key. -/
def find? (table : Table key) (wanted : Key) : Option Row :=
  table.rows.find? fun row => key row = wanted

/-- A row is found under its key and under no other. -/
theorem find?_eq_some (table : Table key) (wanted : Key) (row : Row) :
    table.find? wanted = some row ↔ row ∈ table.rows ∧ key row = wanted := by
  constructor
  · intro found
    exact ⟨List.mem_of_find?_eq_some found, by simpa using List.find?_some found⟩
  · rintro ⟨member, rfl⟩
    exact find?_key table.unique member

/-- Nothing is found under a key that no row has. -/
theorem find?_eq_none (table : Table key) (wanted : Key) :
    table.find? wanted = none ↔ ∀ row ∈ table.rows, key row ≠ wanted := by
  simp [find?, List.find?_eq_none]

@[simp] theorem find?_empty (wanted : Key) : (∅ : Table key).find? wanted = none := rfl

/-- `INSERT`; `none` is the integrity error of a taken key. -/
def insert (table : Table key) (row : Row) : Option (Table key) :=
  if fresh : ∀ other ∈ table.rows, key other ≠ key row then
    some ⟨table.rows ++ [row], nodup_append_singleton table.unique fresh⟩
  else none

/-- An insertion that succeeds appends the row. -/
theorem rows_insert {table inserted : Table key} {row : Row}
    (success : table.insert row = some inserted) : inserted.rows = table.rows ++ [row] := by
  unfold insert at success
  split at success
  · cases success
    rfl
  · cases success

/-- A row with a new key can be inserted. -/
theorem insert_isSome (table : Table key) (row : Row) (fresh : table.find? (key row) = none) :
    ∃ inserted, table.insert row = some inserted :=
  ⟨_, dif_pos ((table.find?_eq_none _).mp fresh)⟩

/-- `INSERT` of several rows, one after the other. -/
def insertMany (table : Table key) : List Row → Option (Table key)
  | [] => some table
  | row :: rows => (table.insert row).bind fun inserted => inserted.insertMany rows

/-- Insertions that all succeed append the rows in order. -/
theorem rows_insertMany {table inserted : Table key} {rows : List Row}
    (success : table.insertMany rows = some inserted) : inserted.rows = table.rows ++ rows := by
  induction rows generalizing table with
  | nil =>
      obtain rfl : table = inserted := by simpa [insertMany] using success
      simp
  | cons row rows ih =>
      obtain ⟨first, firstInsert, rest⟩ := Option.bind_eq_some_iff.mp success
      rw [ih rest, rows_insert firstInsert, List.append_assoc, List.singleton_append]

/-- Rows with distinct keys that the table does not hold can be inserted. -/
theorem insertMany_isSome (table : Table key) (rows : List Row) (distinct : (rows.map key).Nodup)
    (fresh : ∀ row ∈ rows, ∀ other ∈ table.rows, key other ≠ key row) :
    ∃ inserted, table.insertMany rows = some inserted := by
  induction rows generalizing table with
  | nil => exact ⟨table, rfl⟩
  | cons row rows ih =>
      rw [List.map_cons, List.nodup_cons] at distinct
      have rowFresh := fresh row List.mem_cons_self
      let first : Table key :=
        ⟨table.rows ++ [row], nodup_append_singleton table.unique rowFresh⟩
      have firstInsert : table.insert row = some first := dif_pos rowFresh
      have restFresh : ∀ later ∈ rows, ∀ other ∈ first.rows, key other ≠ key later := by
        intro later member other otherRow same
        rcases List.mem_append.mp otherRow with old | new
        · exact fresh later (List.mem_cons_of_mem row member) other old same
        · rw [List.mem_singleton.mp new] at same
          exact distinct.1 (same ▸ List.mem_map_of_mem member)
      obtain ⟨inserted, success⟩ := ih first distinct.2 restFresh
      exact ⟨inserted, by rw [insertMany, firstInsert, Option.bind_some, success]⟩

/-- `INSERT OR IGNORE`. -/
def insertOrIgnore (table : Table key) (row : Row) : Table key := (table.insert row).getD table

/-- After `INSERT OR IGNORE`, every row is an old one or the inserted one. -/
theorem find?_insertOrIgnore {table : Table key} {row found : Row} {wanted : Key}
    (present : (table.insertOrIgnore row).find? wanted = some found) :
    table.find? wanted = some found ∨ found = row := by
  cases inserted : table.insert row with
  | none =>
      rw [insertOrIgnore, inserted, Option.getD_none] at present
      exact .inl present
  | some next =>
      rw [insertOrIgnore, inserted, Option.getD_some] at present
      obtain ⟨member, named⟩ := (find?_eq_some _ _ _).mp present
      rw [rows_insert inserted] at member
      rcases List.mem_append.mp member with old | new
      · exact .inl ((find?_eq_some _ _ _).mpr ⟨old, named⟩)
      · exact .inr (List.mem_singleton.mp new)

/-- An insertion that ignores conflicts keeps the rows that there are. -/
theorem rows_insertOrIgnore (table : Table key) (row : Row) :
    table.rows <+: (table.insertOrIgnore row).rows := by
  cases inserted : table.insert row with
  | none =>
      have unchanged : table.insertOrIgnore row = table := by
        rw [insertOrIgnore, inserted, Option.getD_none]
      exact unchanged.symm ▸ List.prefix_rfl
  | some next =>
      rw [insertOrIgnore, inserted, Option.getD_some, rows_insert inserted]
      exact List.prefix_append _ _

theorem find?_insertOrIgnore_self (table : Table key) (row : Row)
    (absent : table.find? (key row) = none) :
    (table.insertOrIgnore row).find? (key row) = some row := by
  obtain ⟨next, inserted⟩ := table.insert_isSome row absent
  rw [insertOrIgnore, inserted, Option.getD_some, find?_eq_some, rows_insert inserted]
  exact ⟨List.mem_append_right _ (List.mem_singleton_self row), rfl⟩

/-- What is found in a table is found in one with further rows. -/
theorem find?_of_prefix {table longer : Table key} (rows : table.rows <+: longer.rows)
    {wanted : Key} {row : Row} (present : table.find? wanted = some row) :
    longer.find? wanted = some row := by
  obtain ⟨member, named⟩ := (find?_eq_some _ _ _).mp present
  exact (find?_eq_some _ _ _).mpr ⟨rows.subset member, named⟩

/-- `INSERT OR REPLACE`: the row with the same key, if any, is deleted first. -/
def insertOrReplace (table : Table key) (row : Row) : Table key where
  rows := (table.deleteWhere fun other => key other = key row).rows ++ [row]
  unique := nodup_append_singleton (table.deleteWhere _).unique fun other member =>
    of_decide_eq_false ((table.mem_deleteWhere _ other).mp member).2

/-- A replacement removes the row with the key and no other. -/
theorem mem_insertOrReplace (table : Table key) (row other : Row) :
    other ∈ (table.insertOrReplace row).rows ↔
      other = row ∨ (other ∈ table.rows ∧ key other ≠ key row) := by
  simp only [insertOrReplace, List.mem_append, mem_deleteWhere, decide_eq_false_iff_not,
    List.mem_singleton]
  tauto

theorem find?_insertOrReplace_self (table : Table key) (row : Row) :
    (table.insertOrReplace row).find? (key row) = some row :=
  (find?_eq_some _ _ _).mpr ⟨(table.mem_insertOrReplace row row).mpr (.inl rfl), rfl⟩

/-- A replacement leaves the other keys alone. -/
theorem find?_insertOrReplace_of_ne (table : Table key) (row : Row) {wanted : Key}
    (different : wanted ≠ key row) :
    (table.insertOrReplace row).find? wanted = table.find? wanted := by
  apply Option.ext
  intro other
  rw [find?_eq_some, find?_eq_some, mem_insertOrReplace]
  constructor
  · rintro ⟨rfl | ⟨member, -⟩, same⟩
    · exact absurd same.symm different
    · exact ⟨member, same⟩
  · rintro ⟨member, same⟩
    exact ⟨.inr ⟨member, same ▸ different⟩, same⟩

/-- `INSERT .. ON CONFLICT DO UPDATE`: a row with the same key is updated in
place, and the row is appended when there is none. -/
def insertOnConflict (table : Table key) (row : Row) (update : Row → Row)
    (keeps : ∀ other, key (update other) = key other) : Table key where
  rows :=
    if table.rows.any fun other => key other = key row then
      table.rows.map fun other => if key other = key row then update other else other
    else table.rows ++ [row]
  unique := by
    split
    · have keys : (table.rows.map fun other => if key other = key row then update other
          else other).map key = table.rows.map key := by
        rw [List.map_map]
        apply List.map_congr_left
        intro other _
        simp only [Function.comp_apply]
        split
        · exact keeps other
        · rfl
      rw [keys]
      exact table.unique
    · rename_i absent
      exact nodup_append_singleton table.unique fun other member same =>
        absent (List.any_eq_true.mpr ⟨other, member, decide_eq_true same⟩)

/-- Under its key there is the updated row, or else the new one. -/
theorem find?_insertOnConflict_self (table : Table key) (row : Row) (update : Row → Row)
    (keeps : ∀ other, key (update other) = key other) :
    (table.insertOnConflict row update keeps).find? (key row) =
      some (((table.find? (key row)).map update).getD row) := by
  rw [find?_eq_some]
  cases found : table.find? (key row) with
  | none =>
      have absent := (table.find?_eq_none _).mp found
      have none : (table.rows.any fun other => key other = key row) = false :=
        List.any_eq_false.mpr fun other member => by simpa using absent other member
      exact ⟨by simp [insertOnConflict, none], rfl⟩
  | some present =>
      obtain ⟨member, same⟩ := (table.find?_eq_some _ _).mp found
      have some : (table.rows.any fun other => key other = key row) = true :=
        List.any_eq_true.mpr ⟨present, member, decide_eq_true same⟩
      refine ⟨?_, (keeps present).trans same⟩
      simp only [insertOnConflict, some, ↓reduceIte, Option.map_some, Option.getD_some]
      exact List.mem_map.mpr ⟨present, member, if_pos same⟩

/-- An upsert leaves the rows with other keys alone. -/
theorem mem_insertOnConflict_of_ne (table : Table key) (row : Row) (update : Row → Row)
    (keeps : ∀ other, key (update other) = key other) {other : Row}
    (different : key other ≠ key row) :
    other ∈ (table.insertOnConflict row update keeps).rows ↔ other ∈ table.rows := by
  unfold insertOnConflict
  split
  · constructor
    · intro member
      obtain ⟨old, oldRow, equal⟩ := List.mem_map.mp member
      split at equal
      · rename_i same
        exact (different (by rw [← equal, keeps, same])).elim
      · exact equal ▸ oldRow
    · intro member
      exact List.mem_map.mpr ⟨other, member, if_neg different⟩
  · rw [List.mem_append, List.mem_singleton]
    exact ⟨fun member => member.resolve_right fun equal => different (congrArg key equal), .inl⟩

theorem find?_insertOnConflict_of_ne (table : Table key) (row : Row) (update : Row → Row)
    (keeps : ∀ other, key (update other) = key other) {wanted : Key}
    (different : wanted ≠ key row) :
    (table.insertOnConflict row update keeps).find? wanted = table.find? wanted := by
  apply Option.ext
  intro other
  rw [find?_eq_some, find?_eq_some]
  constructor <;> rintro ⟨member, rfl⟩
  · exact ⟨(table.mem_insertOnConflict_of_ne row update keeps different).mp member, rfl⟩
  · exact ⟨(table.mem_insertOnConflict_of_ne row update keeps different).mpr member, rfl⟩

section Matching

variable {Other : Type*} {otherKey : Other → Key} {related : Row → Other → Prop}
  {table : Table key} {other : Table otherKey}

/-- Related rows with the same key are found together. -/
theorem Matches.find? (matching : Matches related table other)
    (keyed : ∀ row row', related row row' → key row = otherKey row') (wanted : Key) :
    Option.Rel related (table.find? wanted) (other.find? wanted) := by
  rw [Table.find?, Table.find?]
  rw [Matches] at matching
  generalize table.rows = rows, other.rows = otherRows at matching
  induction matching with
  | nil => exact .none
  | @cons row row' rows rows' head tail ih =>
    rw [List.find?_cons, List.find?_cons, keyed row row' head]
    split
    · exact .some head
    · exact ih

/-- Replacements with related rows keep two tables related. -/
theorem Matches.insertOrReplace (matching : Matches related table other)
    (keyed : ∀ row row', related row row' → key row = otherKey row') {row : Row} {row' : Other}
    (head : related row row') :
    Matches related (table.insertOrReplace row) (other.insertOrReplace row') := by
  refine List.rel_append ?_ (.cons head .nil)
  refine List.rel_filter ?_ matching
  intro first second same
  simp only [keyed first second same, keyed row row' head]

end Matching

end Table

end ActionPlan.Foundation
