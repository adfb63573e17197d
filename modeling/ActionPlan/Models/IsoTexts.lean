import ActionPlan.Models.Timestamps

/-! # Texts of dates and times

A reading of the texts that `isoformat` and pydantic make of dates and times: the numbers stand at
fixed places, and a text is one if it is what they are written as.
-/

namespace ActionPlan.Models

open ActionPlan.Foundation

namespace Date

/-- The numbers at the places of a date. -/
def atPlaces (chars : List Char) : Date where
  year := numeralValue (chars.take 4)
  month := numeralValue ((chars.drop 5).take 2)
  day := numeralValue ((chars.drop 8).take 2)

theorem Valid.atPlaces {date : Date} (valid : date.Valid) (rest : List Char) :
    Date.atPlaces (date.isoformat.toList ++ rest) = date := by
  obtain ⟨year, month, day⟩ := valid.fits
  rw [valid.toList_isoformat]
  simp [Date.atPlaces, List.drop_append, numeralValue_numeral year,
    numeralValue_numeral month, numeralValue_numeral day]

/-- The date that a text denotes in the ISO format. -/
def ofIsoformat (text : String) : Option Date :=
  let date := atPlaces text.toList
  if date.isoformat = text then some date else none

/-- A valid date is read back from its text. -/
theorem Valid.ofIsoformat {date : Date} (valid : date.Valid) :
    Date.ofIsoformat date.isoformat = some date := by
  have same := valid.atPlaces []
  rw [List.append_nil] at same
  rw [Date.ofIsoformat]
  simp only [same, ↓reduceIte]

end Date

namespace DateTime

/-- The text of a time without its offset. -/
def localText (time : DateTime) : String :=
  time.date.isoformat ++ "T" ++ zeroPadded 2 time.hour ++ ":" ++ zeroPadded 2 time.minute ++ ":" ++
    zeroPadded 2 time.second ++
    (if time.microsecond = 0 then "" else "." ++ zeroPadded 6 time.microsecond)

theorem isoformat_eq (time : DateTime) : time.isoformat = time.localText ++ "+00:00" := rfl

/-- The numbers at the places of a time. -/
def atPlaces (chars : List Char) : DateTime where
  date := Date.atPlaces chars
  hour := numeralValue ((chars.drop 11).take 2)
  minute := numeralValue ((chars.drop 14).take 2)
  second := numeralValue ((chars.drop 17).take 2)
  microsecond :=
    if (chars.drop 19).head? = some '.' then numeralValue ((chars.drop 20).take 6) else 0

/-- The places of a time's text. -/
theorem Valid.toList_localText {time : DateTime} (valid : time.Valid) :
    time.localText.toList = time.date.isoformat.toList ++ 'T' :: (numeral 2 time.hour ++ ':' ::
      (numeral 2 time.minute ++ ':' :: (numeral 2 time.second ++
        if time.microsecond = 0 then [] else '.' :: numeral 6 time.microsecond))) := by
  obtain ⟨hour, minute, second⟩ := valid.fits
  have ended : (if time.microsecond = 0 then "" else "." ++ zeroPadded 6 time.microsecond).toList =
      if time.microsecond = 0 then [] else '.' :: numeral 6 time.microsecond := by
    split
    · rfl
    · rw [String.toList_append, toList_zeroPadded valid.microsecond]
      rfl
  rw [localText, String.toList_append]
  simp only [String.toList_append, toList_zeroPadded hour, toList_zeroPadded minute,
    toList_zeroPadded second, List.append_assoc, ended]
  rfl

theorem Valid.atPlaces {time : DateTime} (valid : time.Valid) {offset : List Char}
    (whole : offset.head? ≠ some '.') :
    DateTime.atPlaces (time.localText.toList ++ offset) = time := by
  obtain ⟨hour, minute, second⟩ := valid.fits
  have microsecond : time.microsecond < 10 ^ 6 := valid.microsecond
  have day : ∀ rest, Date.atPlaces (time.date.isoformat.toList ++ rest) = time.date :=
    valid.date.atPlaces
  rw [valid.toList_localText]
  by_cases none : time.microsecond = 0
  · have whole_second : { time with microsecond := 0 } = time := by rw [← none]
    refine Eq.trans ?_ whole_second
    simp only [DateTime.atPlaces, List.append_assoc, day, none, ↓reduceIte]
    simp [valid.date.toList_isoformat, List.drop_append, numeralValue_numeral hour,
      numeralValue_numeral minute, numeralValue_numeral second, whole]
  · simp only [DateTime.atPlaces, List.append_assoc, day, none, ↓reduceIte]
    simp [valid.date.toList_isoformat, List.drop_append, numeralValue_numeral hour,
      numeralValue_numeral minute, numeralValue_numeral second, numeralValue_numeral microsecond]

/-- What pydantic writes. -/
def jsonText (time : DateTime) : String := time.localText ++ "Z"

/-- The time that a text denotes, in one of the two formats that are written. -/
def ofText (text : String) : Option DateTime :=
  let time := atPlaces text.toList
  if time.isoformat = text ∨ time.jsonText = text then some time else none

/-- A valid time is read back from either of its texts. -/
theorem Valid.ofText {time : DateTime} (valid : time.Valid) {text : String}
    (written : time.isoformat = text ∨ time.jsonText = text) :
    DateTime.ofText text = some time := by
  have same : DateTime.atPlaces text.toList = time := by
    rcases written with rfl | rfl
    · rw [isoformat_eq, String.toList_append]
      exact valid.atPlaces (by decide)
    · rw [jsonText, String.toList_append]
      exact valid.atPlaces (by decide)
  rw [DateTime.ofText]
  simp only [same, written, ↓reduceIte]

end DateTime

end ActionPlan.Models
