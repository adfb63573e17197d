import Mathlib.Data.List.Nodup

/-! # Items with distinct keys

A list whose items have distinct keys, searched for a key from the front, or from the back
as a dictionary that later items override.
-/

namespace ActionPlan.Foundation

variable {Item Key : Type*} [DecidableEq Key] {key : Item → Key} {items : List Item} {item : Item}

/-- Among distinct keys an item is found under its own. -/
theorem find?_key (distinct : (items.map key).Nodup) (member : item ∈ items) :
    items.find? (fun other => key other = key item) = some item := by
  cases found : items.find? fun other => key other = key item with
  | none =>
      have unnamed := List.find?_eq_none.mp found item member
      simp at unnamed
  | some other =>
      have present := List.mem_of_find?_eq_some found
      have named : key other = key item := by simpa using List.find?_some found
      rw [List.inj_on_of_nodup_map distinct present member named]

theorem find?_reverse_key (distinct : (items.map key).Nodup) (member : item ∈ items) :
    items.reverse.find? (fun other => key other = key item) = some item := by
  apply find?_key
  · rwa [List.map_reverse, List.nodup_reverse]
  · exact List.mem_reverse.mpr member

end ActionPlan.Foundation
