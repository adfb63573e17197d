import Mathlib.Data.List.Infix

/-! # Qualified names

A name is qualified by writing its owner and a separator before it. An owner in which the
first symbol of the separator does not occur can be read off the qualified name, whatever
the name contains.
-/

namespace ActionPlan.Foundation

variable {α : Type*} {symbol : α} {separator owner other name : List α}

/-- The name, qualified by its owner. -/
def qualified (separator owner name : List α) : List α := owner ++ separator ++ name

theorem prefix_qualified : owner ++ separator <+: qualified separator owner name :=
  ⟨name, rfl⟩

/-- A qualified name holds the separator. -/
theorem infix_qualified : separator <:+: qualified separator owner name := ⟨owner, name, rfl⟩

/-- What stands before the first occurrence of a symbol is determined. -/
theorem eq_of_append_prefix {first second tail rest : List α} (firstFree : symbol ∉ first)
    (secondFree : symbol ∉ second)
    (starts : first ++ symbol :: tail <+: second ++ symbol :: rest) : first = second := by
  induction first generalizing second with
  | nil =>
      cases second with
      | nil => rfl
      | cons head second =>
          obtain ⟨same, -⟩ := List.cons_prefix_cons.mp starts
          exact absurd (same ▸ .head _) secondFree
  | cons head first ih =>
      cases second with
      | nil =>
          obtain ⟨same, -⟩ := List.cons_prefix_cons.mp starts
          exact absurd (same ▸ .head _) firstFree
      | cons other second =>
          obtain ⟨rfl, rest⟩ := List.cons_prefix_cons.mp starts
          rw [ih (fun member => firstFree (.tail _ member))
            (fun member => secondFree (.tail _ member)) rest]

/-- **The owner of a qualified name.** A name qualified by one owner starts like the names
of another one only if they are the same. -/
theorem prefix_qualified_iff (ownerFree : symbol ∉ owner) (otherFree : symbol ∉ other) :
    other ++ symbol :: separator <+: qualified (symbol :: separator) owner name ↔
      other = owner := by
  constructor
  · intro starts
    rw [qualified, List.append_assoc, List.cons_append] at starts
    exact eq_of_append_prefix otherFree ownerFree starts
  · rintro rfl
    exact prefix_qualified

end ActionPlan.Foundation
