import Mathlib.Data.List.Sort
import Mathlib.Data.String.Basic

/-! # Sorting by a key, the greatest first

The stable sort by a key in descending order, which is `ORDER BY .. DESC` and `sort` with
`reverse=True`.
-/

namespace ActionPlan.Foundation

variable {Item Key : Type*} [LinearOrder Key] (key : Item → Key) (items : List Item)

/-- The items with the largest keys first; equal keys stay in order. -/
def sortDescending : List Item :=
  items.mergeSort fun first second => decide (key second ≤ key first)

theorem sortDescending_perm : (sortDescending key items).Perm items :=
  List.mergeSort_perm items _

theorem pairwise_sortDescending :
    (sortDescending key items).Pairwise fun first second => key second ≤ key first := by
  have sorted : (sortDescending key items).Pairwise fun first second =>
      decide (key second ≤ key first) = true := by
    apply List.pairwise_mergeSort
    · intro first second third less later
      exact decide_eq_true ((of_decide_eq_true later).trans (of_decide_eq_true less))
    · intro first second
      rcases le_total (key second) (key first) with less | less
      · rw [decide_eq_true less, Bool.true_or]
      · rw [decide_eq_true less, Bool.or_true]
  exact sorted.imp of_decide_eq_true

variable {key items}

/-- What comes in ascending order is turned round. -/
theorem sortDescending_of_pairwise
    (ascending : items.Pairwise fun first second => key first < key second) :
    sortDescending key items = items.reverse := by
  have turned : items.reverse.Pairwise fun first second => key second ≤ key first :=
    List.pairwise_reverse.mpr (ascending.imp le_of_lt)
  refine List.Perm.eq_of_pairwise ?_ (pairwise_sortDescending key items) turned
    ((sortDescending_perm key items).trans items.reverse_perm.symm)
  intro first second member other less later
  have present := (sortDescending_perm key items).mem_iff.mp member
  have present' := List.mem_reverse.mp other
  have injective := List.pairwise_map.mpr ascending
  exact List.inj_on_of_nodup_map (injective.imp ne_of_lt) present present' (later.antisymm less)

end ActionPlan.Foundation
