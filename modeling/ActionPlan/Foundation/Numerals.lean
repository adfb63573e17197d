import Mathlib.Algebra.Group.Nat.Defs
import Mathlib.Data.List.Basic

/-! # Numerals of a fixed width

Decimal numerals with leading zeros. Texts that begin with numerals of one width compare as the
numbers do, and where the numbers are the same, as the rests of the texts do.
-/

namespace ActionPlan.Foundation

/-- The last digits of a number, as many as the width. -/
def numeral : Nat → Nat → List Char
  | 0, _ => []
  | width + 1, number => numeral width (number / 10) ++ [Nat.digitChar (number % 10)]

/-- Digits are ordered as the numbers they stand for. -/
theorem digitChar_lt_iff {first second : Nat} (firstDigit : first < 10)
    (secondDigit : second < 10) :
    (Nat.digitChar first < Nat.digitChar second ↔ first < second) ∧
      (Nat.digitChar first = Nat.digitChar second ↔ first = second) := by
  have all : ∀ first < 10, ∀ second < 10,
      (Nat.digitChar first < Nat.digitChar second ↔ first < second) ∧
        (Nat.digitChar first = Nat.digitChar second ↔ first = second) := by
    decide
  exact all first firstDigit second secondDigit

/-- **Numerals compare as their numbers.** -/
theorem numeral_append_lt_iff {width first second : Nat} {firstRest secondRest : List Char}
    (firstFits : first < 10 ^ width) (secondFits : second < 10 ^ width) :
    numeral width first ++ firstRest < numeral width second ++ secondRest ↔
      first < second ∨ first = second ∧ firstRest < secondRest := by
  induction width generalizing first second firstRest secondRest with
  | zero =>
    obtain rfl : first = 0 := Nat.lt_one_iff.mp firstFits
    obtain rfl : second = 0 := Nat.lt_one_iff.mp secondFits
    simp only [numeral, List.nil_append, Nat.lt_irrefl, true_and, false_or]
  | succ width ih =>
    have fits {number : Nat} (small : number < 10 ^ (width + 1)) : number / 10 < 10 ^ width :=
      Nat.div_lt_of_lt_mul (by rwa [Nat.pow_succ, Nat.mul_comm] at small)
    obtain ⟨less, same⟩ := digitChar_lt_iff (Nat.mod_lt first (by decide : 0 < 10))
      (Nat.mod_lt second (by decide : 0 < 10))
    rw [numeral, numeral, List.append_assoc, List.append_assoc,
      ih (fits firstFits) (fits secondFits),
      List.singleton_append, List.singleton_append, List.cons_lt_cons_iff, less, same]
    have split : first < second ↔ first / 10 < second / 10 ∨
        first / 10 = second / 10 ∧ first % 10 < second % 10 := by
      omega
    have equal : first = second ↔ first / 10 = second / 10 ∧ first % 10 = second % 10 := by
      omega
    rw [split, equal]
    simp only [and_or_left, or_assoc, and_assoc]

@[simp] theorem length_numeral (width number : Nat) : (numeral width number).length = width := by
  induction width generalizing number with
  | zero => rfl
  | succ width ih => rw [numeral, List.length_append, ih, List.length_singleton]

@[simp] theorem drop_numeral {width count : Nat} (past : width ≤ count) (number : Nat) :
    (numeral width number).drop count = [] :=
  List.drop_eq_nil_of_le (by rwa [length_numeral])

@[simp] theorem take_numeral {width count : Nat} (past : width ≤ count) (number : Nat) :
    (numeral width number).take count = numeral width number :=
  List.take_of_length_le (by rwa [length_numeral])

/-- The number that a numeral stands for. -/
def numeralValue (digits : List Char) : Nat :=
  digits.foldl (fun number digit => number * 10 + (digit.toNat - '0'.toNat)) 0

/-- A number that fits is read back from its numeral. -/
theorem numeralValue_numeral {width number : Nat} (fits : number < 10 ^ width) :
    numeralValue (numeral width number) = number := by
  induction width generalizing number with
  | zero => exact (Nat.lt_one_iff.mp fits).symm
  | succ width ih =>
    have shorter : number / 10 < 10 ^ width :=
      Nat.div_lt_of_lt_mul (by rwa [Nat.pow_succ, Nat.mul_comm] at fits)
    have digits : ∀ digit < 10, (Nat.digitChar digit).toNat - '0'.toNat = digit := by decide
    have front := ih shorter
    have last := digits (number % 10) (Nat.mod_lt number (by decide))
    rw [numeralValue] at front
    rw [numeralValue, numeral, List.foldl_append, front, List.foldl_cons, last, List.foldl_nil]
    omega

/-- A numeral of at least one digit is the number, with leading zeros before it. -/
theorem numeral_eq_replicate {width number : Nat} (fits : number < 10 ^ (width + 1)) :
    numeral (width + 1) number =
      List.replicate (width + 1 - (Nat.toDigits 10 number).length) '0' ++
        Nat.toDigits 10 number := by
  induction width generalizing number with
  | zero =>
    have digit : number < 10 := fits
    rw [Nat.toDigits_of_lt_base digit, numeral, numeral, Nat.mod_eq_of_lt digit]
    rfl
  | succ width ih =>
    have shorter : number / 10 < 10 ^ (width + 1) :=
      Nat.div_lt_of_lt_mul (by rwa [Nat.pow_succ, Nat.mul_comm] at fits)
    rw [numeral, ih shorter]
    by_cases digit : number < 10
    · rw [Nat.div_eq_of_lt digit, Nat.mod_eq_of_lt digit, Nat.toDigits_zero,
        Nat.toDigits_of_lt_base digit, List.length_singleton, List.length_singleton,
        Nat.add_sub_cancel, Nat.add_sub_cancel, ← List.replicate_succ']
    · rw [Nat.toDigits_of_base_le (by decide) (Nat.le_of_not_lt digit), List.length_append,
        List.length_singleton, Nat.add_sub_add_right, List.append_assoc]

end ActionPlan.Foundation
