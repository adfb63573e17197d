import Mathlib.Algebra.Order.Ring.Abs
import Mathlib.Algebra.Ring.Int.Parity
import Mathlib.Tactic.Linarith

/-! # Rounding half to even

An integer that a number of an ordered field is rounded to: one at a distance of at
most one half, and the even one where two are equally near. An integer above the number is
above the result, and an even integer is reached from one half below.
-/

namespace ActionPlan.Foundation

variable {α : Type*} [Field α] [LinearOrder α] [IsStrictOrderedRing α]

/-- The number is rounded to the integer, ties to the even one. -/
structure RoundsHalfEven (value : α) (result : ℤ) : Prop where
  near : |value - result| ≤ 1 / 2
  even : |value - result| = 1 / 2 → Even result

namespace RoundsHalfEven

variable {value : α} {result bound : ℤ}

omit [IsStrictOrderedRing α] in
/-- A number that is nearer than one half is rounded to the integer. -/
theorem of_lt_half (near : |value - result| < 1 / 2) : RoundsHalfEven value result where
  near := near.le
  even tie := absurd tie near.ne

omit [IsStrictOrderedRing α] in
/-- Every number up to one half away is rounded to an even integer. -/
theorem of_even (near : |value - result| ≤ 1 / 2) (even : Even result) :
    RoundsHalfEven value result where
  near := near
  even _ := even

theorem le_of_le (rounds : RoundsHalfEven value result) (bounded : value ≤ bound) :
    result ≤ bound := by
  have lower := (abs_le.mp rounds.near).1
  have close : (result : α) < (bound + 1 : ℤ) := by
    push_cast
    linarith
  exact Int.lt_add_one_iff.mp (Int.cast_lt.mp close)

/-- An even integer is reached from one half below it on. -/
theorem even_le_iff (rounds : RoundsHalfEven value result) (even : Even bound) :
    bound ≤ result ↔ bound - 1 / 2 ≤ value := by
  constructor
  · intro reached
    have lower := (abs_le.mp rounds.near).1
    have cast : (bound : α) ≤ result := Int.cast_le.mpr reached
    linarith
  · intro half
    by_contra below
    have upper := (abs_le.mp rounds.near).2
    have cast : (result : α) ≤ bound - 1 := by
      have step : result ≤ bound - 1 := by omega
      exact_mod_cast step
    -- the number lies in the middle between the result and the bound
    have middle : value - result = 1 / 2 := by linarith
    have previous : (result : α) = (bound - 1 : ℤ) := by
      push_cast
      linarith
    have tie : Even result := rounds.even (by rw [middle]; exact abs_of_pos (by norm_num))
    rw [Int.cast_inj.mp previous] at tie
    obtain ⟨half, split⟩ := even
    obtain ⟨other, splitBefore⟩ := tie
    omega

end RoundsHalfEven

end ActionPlan.Foundation
