import ActionPlan.Foundation.Numerals
import ActionPlan.Models.Value

/-! # Timestamps

UTC datetimes as points in time, and the texts that `isoformat` makes of them. A text has no
fraction of the second when there are no microseconds, so that texts differ in length; they still
compare as the points in time do, because the sign of the offset sorts before the decimal point.
-/

namespace ActionPlan.Models

open ActionPlan.Foundation

/-- `f"{number:0{width}d}"`. -/
def zeroPadded (width number : Nat) : String :=
  let digits := toString number
  String.ofList (List.replicate (width - digits.length) '0') ++ digits

theorem toList_zeroPadded {width number : Nat} (fits : number < 10 ^ (width + 1)) :
    (zeroPadded (width + 1) number).toList = numeral (width + 1) number := by
  rw [numeral_eq_replicate fits, zeroPadded]
  simp only [Nat.toString_eq_ofList_toDigits, String.toList_append, String.toList_ofList,
    String.length_ofList]

namespace Date

/-- Number of days of a month. -/
def daysInMonth (year month : Nat) : Nat :=
  [31, 28, 31, 30, 31, 30, 31, 31, 30, 31, 30, 31].getD (month - 1) 0 +
    if month == 2 && isLeap year then 1 else 0

/-- The dates of `datetime.date`. -/
structure Valid (date : Date) : Prop where
  year : 1 ≤ date.year ∧ date.year ≤ 9999
  month : 1 ≤ date.month ∧ date.month ≤ 12
  day : 1 ≤ date.day ∧ date.day ≤ daysInMonth date.year date.month

section Calendar

/-- A month ends before a later one of its year begins. -/
theorem daysBeforeMonth_lt (year : Nat) {month later : Nat} (begun : 1 ≤ month)
    (order : month < later) (ended : later ≤ 12) :
    daysBeforeMonth year month + daysInMonth year month ≤ daysBeforeMonth year later := by
  have all : ∀ leap : Bool, ∀ later < 13, ∀ month < later, 1 ≤ month →
      [0, 31, 59, 90, 120, 151, 181, 212, 243, 273, 304, 334].getD (month - 1) 0 +
          (if month > 2 && leap then 1 else 0) +
          ([31, 28, 31, 30, 31, 30, 31, 31, 30, 31, 30, 31].getD (month - 1) 0 +
            if month == 2 && leap then 1 else 0) ≤
        [0, 31, 59, 90, 120, 151, 181, 212, 243, 273, 304, 334].getD (later - 1) 0 +
          if later > 2 && leap then 1 else 0 := by
    decide
  exact all (isLeap year) later (Nat.lt_succ_of_le ended) month order begun

/-- A month ends with its year at the latest. -/
theorem daysBeforeMonth_le (year : Nat) {month : Nat} (begun : 1 ≤ month) (ended : month ≤ 12) :
    daysBeforeMonth year month + daysInMonth year month ≤
      365 + if isLeap year then 1 else 0 := by
  have all : ∀ leap : Bool, ∀ month < 13, 1 ≤ month →
      [0, 31, 59, 90, 120, 151, 181, 212, 243, 273, 304, 334].getD (month - 1) 0 +
          (if month > 2 && leap then 1 else 0) +
          ([31, 28, 31, 30, 31, 30, 31, 31, 30, 31, 30, 31].getD (month - 1) 0 +
            if month == 2 && leap then 1 else 0) ≤ 365 + if leap then 1 else 0 := by
    decide
  exact all (isLeap year) month (Nat.lt_succ_of_le ended) begun

/-- The length of a year. -/
theorem daysBeforeYear_succ (year : Nat) :
    daysBeforeYear (year + 2) =
      daysBeforeYear (year + 1) + (365 + if isLeap (year + 1) then 1 else 0) := by
  have quotient (divisor : Nat) : (year + 1) / divisor =
      year / divisor + if (year + 1) % divisor = 0 then 1 else 0 := by
    rw [Nat.succ_div]
    simp only [Nat.dvd_iff_mod_eq_zero]
  have fewer : year / 100 ≤ year / 4 := Nat.div_le_div_left (by decide) (by decide)
  have hundred : (year + 1) % 100 = 0 → (year + 1) % 4 = 0 := by omega
  have cycle : (year + 1) % 400 = 0 → (year + 1) % 100 = 0 := by omega
  simp only [daysBeforeYear, isLeap, Nat.add_sub_cancel, Nat.add_succ_sub_one, quotient,
    Bool.and_eq_true, Bool.or_eq_true, beq_iff_eq, bne_iff_ne]
  generalize year / 4 = fourths at fewer
  generalize year / 100 = centuries at fewer
  generalize year / 400 = cycles
  by_cases fourth : (year + 1) % 4 = 0
  · by_cases century : (year + 1) % 100 = 0
    · by_cases whole : (year + 1) % 400 = 0
      · simp only [fourth, century, whole, ↓reduceIte, ne_eq, not_true_eq_false, false_or, and_self]
        omega
      · simp only [fourth, century, whole, ↓reduceIte, ne_eq, not_true_eq_false, or_self, and_false]
        omega
    · have partial_cycle : (year + 1) % 400 ≠ 0 := mt cycle century
      simp only [fourth, century, partial_cycle, ↓reduceIte, ne_eq, not_false_eq_true, true_or,
        and_self]
      omega
  · have partial_century : (year + 1) % 100 ≠ 0 := mt hundred fourth
    have partial_cycle : (year + 1) % 400 ≠ 0 := mt cycle partial_century
    simp only [fourth, partial_century, partial_cycle, ↓reduceIte, false_and]
    omega

/-- A year ends before a later one begins. -/
theorem daysBeforeYear_lt {year later : Nat} (begun : 1 ≤ year) (order : year < later) :
    daysBeforeYear year + (365 + if isLeap year then 1 else 0) ≤ daysBeforeYear later := by
  obtain ⟨year, rfl⟩ := Nat.exists_eq_add_of_le' begun
  induction later, order using Nat.le_induction with
  | base => rw [Nat.succ_eq_add_one, daysBeforeYear_succ]
  | succ later order ih =>
    obtain ⟨later, rfl⟩ := Nat.exists_eq_add_of_le' (Nat.le_trans (Nat.le_add_left 1 _) order)
    rw [daysBeforeYear_succ]
    exact Nat.le_trans ih (Nat.le_add_right _ _)

end Calendar

section Order

variable {first second : Date}

/-- The order of the fields. -/
def Before (first second : Date) : Prop :=
  first.year < second.year ∨ first.year = second.year ∧
    (first.month < second.month ∨ first.month = second.month ∧ first.day < second.day)

theorem eq_iff : first = second ↔
    first.year = second.year ∧ first.month = second.month ∧ first.day = second.day := by
  cases first
  cases second
  simp only [Date.mk.injEq]

theorem before_trichotomy (first second : Date) :
    first.Before second ∨ first = second ∨ second.Before first := by
  rw [Before, Before, eq_iff]
  omega

/-- Days are counted in the order of the calendar. -/
theorem Before.toOrdinal_lt (before : first.Before second) (valid : first.Valid)
    (valid' : second.Valid) : first.toOrdinal < second.toOrdinal := by
  have ended := daysBeforeMonth_le first.year valid.month.1 valid.month.2
  have day := valid.day.2
  have begun := valid'.day.1
  unfold toOrdinal
  rcases before with year | ⟨year, month | ⟨month, earlier⟩⟩
  · have later := daysBeforeYear_lt valid.year.1 year
    omega
  · have later := daysBeforeMonth_lt first.year valid.month.1 month valid'.month.2
    rw [← year]
    omega
  · rw [← year, ← month]
    omega

theorem toOrdinal_lt_iff (valid : first.Valid) (valid' : second.Valid) :
    first.toOrdinal < second.toOrdinal ↔ first.Before second := by
  refine ⟨fun less => ?_, fun before => before.toOrdinal_lt valid valid'⟩
  rcases before_trichotomy first second with before | rfl | after
  · exact before
  · exact absurd less (Nat.lt_irrefl _)
  · exact absurd less (Nat.lt_asymm (after.toOrdinal_lt valid' valid))

theorem toOrdinal_inj (valid : first.Valid) (valid' : second.Valid) :
    first.toOrdinal = second.toOrdinal ↔ first = second := by
  refine ⟨fun same => ?_, congrArg toOrdinal⟩
  rcases before_trichotomy first second with before | equal | after
  · exact absurd same (Nat.ne_of_lt (before.toOrdinal_lt valid valid'))
  · exact equal
  · exact absurd same (Nat.ne_of_gt (after.toOrdinal_lt valid' valid))

/-- The fields of a date have no more digits than their numerals. -/
theorem Valid.fits {date : Date} (valid : date.Valid) :
    date.year < 10 ^ 4 ∧ date.month < 10 ^ 2 ∧ date.day < 10 ^ 2 := by
  have bounded : ∀ leap : Bool, ∀ month < 13,
      ([31, 28, 31, 30, 31, 30, 31, 31, 30, 31, 30, 31].getD (month - 1) 0 +
        if month == 2 && leap then 1 else 0) < 100 := by
    decide
  have day := bounded (isLeap date.year) date.month (Nat.lt_succ_of_le valid.month.2)
  exact ⟨Nat.lt_succ_of_le valid.year.2, Nat.lt_of_le_of_lt valid.month.2 (by decide),
    Nat.lt_of_le_of_lt valid.day.2 day⟩

theorem Valid.toList_isoformat {date : Date} (valid : date.Valid) :
    date.isoformat.toList = numeral 4 date.year ++ '-' :: (numeral 2 date.month ++
      '-' :: numeral 2 date.day) := by
  obtain ⟨year, month, day⟩ := valid.fits
  have written : date.isoformat = zeroPadded 4 date.year ++ "-" ++ zeroPadded 2 date.month ++
      "-" ++ zeroPadded 2 date.day := rfl
  rw [written]
  simp only [String.toList_append, toList_zeroPadded year, toList_zeroPadded month,
    toList_zeroPadded day, List.append_assoc]
  rfl

/-- Texts that begin with dates compare as the dates do. -/
theorem isoformat_append_lt_iff (valid : first.Valid) (valid' : second.Valid)
    {firstRest secondRest : List Char} :
    first.isoformat.toList ++ firstRest < second.isoformat.toList ++ secondRest ↔
      first.toOrdinal < second.toOrdinal ∨
        first.toOrdinal = second.toOrdinal ∧ firstRest < secondRest := by
  obtain ⟨year, month, day⟩ := valid.fits
  obtain ⟨year', month', day'⟩ := valid'.fits
  rw [toOrdinal_lt_iff valid valid', toOrdinal_inj valid valid', Before, eq_iff,
    valid.toList_isoformat, valid'.toList_isoformat]
  simp only [List.append_assoc, List.cons_append, List.cons_lt_cons_self,
    numeral_append_lt_iff year year', numeral_append_lt_iff month month',
    numeral_append_lt_iff day day', and_or_left, or_assoc, and_assoc]

end Order

end Date

namespace DateTime

/-- The datetimes of `datetime.datetime`. -/
structure Valid (time : DateTime) : Prop where
  date : time.date.Valid
  hour : time.hour < 24
  minute : time.minute < 60
  second : time.second < 60
  microsecond : time.microsecond < 1000000

theorem newYear_valid : newYear.Valid where
  date := { year := by decide, month := by decide, day := by decide }
  hour := by decide
  minute := by decide
  second := by decide
  microsecond := by decide

/-- The point in time, in microseconds. -/
def instant (time : DateTime) : Nat :=
  (((time.date.toOrdinal * 24 + time.hour) * 60 + time.minute) * 60 + time.second) * 1000000 +
    time.microsecond

/-- `isoformat`: a fraction of the second is written only when there is one. -/
def isoformat (time : DateTime) : String :=
  time.date.isoformat ++ "T" ++ zeroPadded 2 time.hour ++ ":" ++ zeroPadded 2 time.minute ++ ":" ++
    zeroPadded 2 time.second ++
    (if time.microsecond = 0 then "" else "." ++ zeroPadded 6 time.microsecond) ++ "+00:00"

section Order

variable {first second : DateTime}

/-- What `isoformat` writes behind the seconds. -/
def fraction (microsecond : Nat) : List Char :=
  (if microsecond = 0 then [] else '.' :: numeral 6 microsecond) ++ "+00:00".toList

/-- The sign of the offset sorts before the decimal point. -/
theorem fraction_lt_iff {microsecond other : Nat} (fits : microsecond < 1000000)
    (otherFits : other < 1000000) :
    fraction microsecond < fraction other ↔ microsecond < other := by
  have sign : ∀ rest rest' : List Char, '+' :: rest < '.' :: rest' := fun rest rest' =>
    List.cons_lt_cons_iff.mpr (.inl (by decide))
  have point : ∀ rest rest' : List Char, ¬ ('.' :: rest < '+' :: rest') := fun rest rest' =>
    List.lt_asymm (sign rest' rest)
  by_cases whole : microsecond = 0
  · by_cases otherWhole : other = 0
    · rw [whole, otherWhole]
      exact iff_of_false (List.lt_irrefl _) (Nat.lt_irrefl _)
    · simp only [fraction, whole, otherWhole, ↓reduceIte]
      exact iff_of_true (sign _ _) (Nat.pos_of_ne_zero otherWhole)
  · by_cases otherWhole : other = 0
    · simp only [fraction, whole, otherWhole, ↓reduceIte]
      exact iff_of_false (point _ _) (Nat.not_lt_zero _)
    · simp only [fraction, whole, otherWhole, ↓reduceIte, List.cons_append,
        List.cons_lt_cons_self]
      rw [numeral_append_lt_iff fits otherFits]
      exact or_iff_left fun equal => List.lt_irrefl _ equal.2

theorem Valid.fits {time : DateTime} (valid : time.Valid) :
    time.hour < 10 ^ 2 ∧ time.minute < 10 ^ 2 ∧ time.second < 10 ^ 2 :=
  ⟨Nat.lt_trans valid.hour (by decide), Nat.lt_trans valid.minute (by decide),
    Nat.lt_trans valid.second (by decide)⟩

theorem Valid.toList_isoformat {time : DateTime} (valid : time.Valid) :
    time.isoformat.toList = time.date.isoformat.toList ++ 'T' :: (numeral 2 time.hour ++ ':' ::
      (numeral 2 time.minute ++ ':' :: (numeral 2 time.second ++ fraction time.microsecond))) := by
  obtain ⟨hour, minute, second⟩ := valid.fits
  have ended : (if time.microsecond = 0 then "" else "." ++ zeroPadded 6 time.microsecond).toList ++
      "+00:00".toList = fraction time.microsecond := by
    unfold fraction
    split
    · rfl
    · rw [String.toList_append, toList_zeroPadded valid.microsecond]
      rfl
  rw [isoformat, String.toList_append, String.toList_append]
  simp only [String.toList_append, toList_zeroPadded hour, toList_zeroPadded minute,
    toList_zeroPadded second, List.append_assoc, ended]
  rfl

/-- Points in time come in the order of the fields. -/
theorem instant_lt_iff (valid : first.Valid) (valid' : second.Valid) :
    first.instant < second.instant ↔ first.date.toOrdinal < second.date.toOrdinal ∨
      first.date.toOrdinal = second.date.toOrdinal ∧ (first.hour < second.hour ∨
        first.hour = second.hour ∧ (first.minute < second.minute ∨
          first.minute = second.minute ∧ (first.second < second.second ∨
            first.second = second.second ∧ first.microsecond < second.microsecond))) := by
  obtain ⟨-, hour, minute, sec, microsecond⟩ := valid
  obtain ⟨-, hour', minute', sec', microsecond'⟩ := valid'
  unfold instant
  omega

/-- **The texts of datetimes compare as the points in time.** -/
theorem isoformat_lt_iff (valid : first.Valid) (valid' : second.Valid) :
    first.isoformat < second.isoformat ↔ first.instant < second.instant := by
  obtain ⟨hour, minute, sec⟩ := valid.fits
  obtain ⟨hour', minute', sec'⟩ := valid'.fits
  rw [String.lt_iff, valid.toList_isoformat, valid'.toList_isoformat,
    Date.isoformat_append_lt_iff valid.date valid'.date, instant_lt_iff valid valid']
  simp only [List.cons_lt_cons_self, numeral_append_lt_iff hour hour',
    numeral_append_lt_iff minute minute', numeral_append_lt_iff sec sec',
    fraction_lt_iff valid.microsecond valid'.microsecond]

end Order

end DateTime

end ActionPlan.Models
