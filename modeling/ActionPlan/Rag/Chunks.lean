import ActionPlan.Foundation.Windows
import ActionPlan.Rag.Ingestion

/-! # The chunks of a text

`chunk_text` of `rag/ingestion.py` with its loop as it runs, for any integers as its sizes: the
loop ends after at most one turn a character, and for a positive size and an overlap that is not
negative the chunks cover the stripped text.
-/

namespace ActionPlan.Rag

open ActionPlan.Foundation.Windows

section Loop

/-- Where an index of a slice lies in a sequence: a negative one counts from the end. -/
def sliceIndex (length : Nat) (index : Int) : Nat :=
  if index < 0 then (index + length).toNat else index.toNat

/-- `text[start:stop]`. -/
def slice (text : List Char) (start stop : Int) : List Char :=
  (text.take (sliceIndex text.length stop)).drop (sliceIndex text.length start)

/-- The loop of `chunk_text`, with the chunks so far. It has no result when it does not end in
the turns it is given. -/
def chunkLoop (text : List Char) (chunkSize overlap : Int) :
    Nat → Int → List String → Option (List String)
  | 0, _, _ => none
  | turns + 1, start, chunks =>
    if start < text.length then
      let stop := start + chunkSize
      let chunks := chunks ++ [String.ofList (slice text start stop)]
      if text.length ≤ stop then some chunks
      else chunkLoop text chunkSize overlap turns (max (stop - overlap) (start + 1)) chunks
    else some chunks

/-- `chunk_text`, within a number of turns of its loop. -/
def chunkTextWithin (turns : Nat) (text : String) (chunkSize overlap : Int) :
    Option (List String) :=
  let text := strip text
  if text = [] then some [] else chunkLoop text chunkSize overlap turns 0 []

variable (text : List Char) (chunkSize overlap : Int)

/-- The start moves on in each turn, so what is left of the text bounds the turns. -/
theorem chunkLoop_ends : ∀ (left : Nat) (start : Int) (chunks : List String),
    text.length ≤ start + left → ∃ result, ∀ turns, left < turns →
      chunkLoop text chunkSize overlap turns start chunks = some result := by
  intro left
  induction left with
  | zero =>
    intro start chunks near
    refine ⟨chunks, ?_⟩
    intro turns enough
    obtain ⟨turns, rfl⟩ : ∃ fewer, turns = fewer + 1 := ⟨turns - 1, by omega⟩
    have outside : ¬start < text.length := by omega
    simp only [chunkLoop, outside, ↓reduceIte]
  | succ left ih =>
    intro start chunks near
    obtain ⟨result, further⟩ := ih (max (start + chunkSize - overlap) (start + 1))
      (chunks ++ [String.ofList (slice text start (start + chunkSize))]) (by omega)
    by_cases inside : start < text.length
    · by_cases reaches : (text.length : Int) ≤ start + chunkSize
      · refine ⟨chunks ++ [String.ofList (slice text start (start + chunkSize))], ?_⟩
        intro turns enough
        obtain ⟨turns, rfl⟩ : ∃ fewer, turns = fewer + 1 := ⟨turns - 1, by omega⟩
        simp only [chunkLoop, inside, reaches, ↓reduceIte]
      · refine ⟨result, ?_⟩
        intro turns enough
        obtain ⟨turns, rfl⟩ : ∃ fewer, turns = fewer + 1 := ⟨turns - 1, by omega⟩
        simp only [chunkLoop, inside, reaches, ↓reduceIte]
        exact further turns (by omega)
    · refine ⟨chunks, ?_⟩
      intro turns enough
      obtain ⟨turns, rfl⟩ : ∃ fewer, turns = fewer + 1 := ⟨turns - 1, by omega⟩
      simp only [chunkLoop, inside, ↓reduceIte]

/-- Indices that are not negative count from the start. -/
theorem slice_natCast (start count : Nat) :
    slice text start (start + count) = (text.drop start).take count := by
  have first : sliceIndex text.length start = start := by
    rw [sliceIndex, if_neg (by omega), Int.toNat_natCast]
  have last : sliceIndex text.length (start + count) = start + count := by
    rw [sliceIndex, if_neg (by omega), ← Int.natCast_add, Int.toNat_natCast]
  rw [slice, first, last, List.drop_take, Nat.add_sub_cancel_left]

/-- With sizes that are not negative the loop gives the chunks of `chunksFrom`. -/
theorem chunkLoop_eq (chunkSize overlap : Nat) : ∀ (turns start : Nat) (chunks : List String),
    text.length - start < turns →
      chunkLoop text chunkSize overlap turns start chunks =
        some (chunks ++ chunksFrom text chunkSize overlap start) := by
  intro turns
  induction turns with
  | zero =>
    intro start chunks enough
    exact absurd enough (Nat.not_lt_zero _)
  | succ turns ih =>
    intro start chunks enough
    rw [chunksFrom]
    by_cases inside : start < text.length
    · have started : (start : Int) < text.length := by omega
      by_cases reaches : text.length ≤ start + chunkSize
      · have reached : (text.length : Int) ≤ start + chunkSize := by omega
        simp only [chunkLoop, started, inside, reached, reaches, ↓reduceIte, slice_natCast]
      · have unreached : ¬(text.length : Int) ≤ start + chunkSize := by omega
        have moved : max ((start : Int) + chunkSize - overlap) (start + 1) =
            (max (start + chunkSize - overlap) (start + 1) : Nat) := by omega
        simp only [chunkLoop, started, inside, unreached, reaches, ↓reduceIte, slice_natCast]
        rw [moved, ih _ _ (by omega), List.append_assoc, List.singleton_append]
    · have outside : ¬(start : Int) < text.length := by omega
      simp only [chunkLoop, inside, outside, ↓reduceIte, List.append_nil]

end Loop

/-- The loop ends for every size and overlap, after at most one turn a character and the last
look at its condition. -/
theorem chunkTextWithin_ends (text : String) (chunkSize overlap : Int) :
    ∃ chunks, ∀ turns, (strip text).length < turns →
      chunkTextWithin turns text chunkSize overlap = some chunks := by
  by_cases blank : strip text = []
  · refine ⟨[], ?_⟩
    intro turns _
    simp only [chunkTextWithin, blank, ↓reduceIte]
  · obtain ⟨chunks, ended⟩ :=
      chunkLoop_ends (strip text) chunkSize overlap (strip text).length 0 [] (by omega)
    refine ⟨chunks, ?_⟩
    intro turns enough
    simp only [chunkTextWithin, blank, ↓reduceIte]
    exact ended turns enough

/-- What the loop gives is the `chunkText` that ingestion uses. -/
theorem chunkTextWithin_eq (text : String) (chunkSize overlap turns : Nat)
    (enough : (strip text).length < turns) :
    chunkTextWithin turns text chunkSize overlap = some (chunkText text chunkSize overlap) := by
  by_cases blank : strip text = []
  · have none : chunkText text chunkSize overlap = [] := by
      rw [chunkText, blank, chunksFrom]
      exact if_neg (Nat.lt_irrefl 0)
    simp only [chunkTextWithin, blank, ↓reduceIte, none]
  · simp only [chunkTextWithin, blank, ↓reduceIte]
    exact chunkLoop_eq (strip text) chunkSize overlap turns 0 [] (by omega)

section Cover

variable {text : List Char} {chunkSize : Nat}

/-- Each chunk but the last is followed by one that repeats as much of it as its size allows. -/
theorem exists_tiling (positive : 0 < chunkSize) (overlap : Nat) : ∀ start < text.length,
    ∃ spans, Tiling chunkSize (min overlap (chunkSize - 1)) text.length start spans ∧
      (chunksFrom text chunkSize overlap start).map String.toList =
        spans.map (Span.read text) := by
  intro start
  fun_induction chunksFrom text chunkSize overlap start with
  | case1 start inside stop ih =>
    intro _
    have read : (text.drop start).take chunkSize = Span.read text ⟨start, stop⟩ := by
      rw [Span.read, List.drop_take, Nat.add_sub_cancel_left]
    by_cases reaches : text.length ≤ stop
    · refine ⟨[⟨start, text.length⟩], Tiling.final inside reaches, ?_⟩
      have whole : Span.read text ⟨start, stop⟩ = Span.read text ⟨start, text.length⟩ := by
        simp only [Span.read, List.take_of_length_le reaches, List.take_length]
      simp only [reaches, ↓reduceIte, List.map_cons, List.map_nil, String.toList_ofList, read,
        whole]
    · have moved : max (stop - overlap) (start + 1) =
          start + chunkSize - min overlap (chunkSize - 1) := by omega
      obtain ⟨spans, tiling, chunks⟩ := ih (by omega)
      rw [moved] at tiling
      refine ⟨⟨start, stop⟩ :: spans, Tiling.next (Nat.lt_of_not_le reaches) tiling, ?_⟩
      simp only [reaches, ↓reduceIte, List.map_cons, String.toList_ofList, read, chunks]
  | case2 start outside =>
    intro inside
    exact absurd inside outside

/-- The chunks for a positive size cover the stripped text. -/
theorem chunkText_cover (text : String) (positive : 0 < chunkSize) (overlap : Nat) :
    ∃ spans, Cover (strip text) chunkSize (min overlap (chunkSize - 1)) spans
      ((chunkText text chunkSize overlap).map String.toList) := by
  by_cases blank : (strip text).length = 0
  · refine ⟨[], ?_⟩
    rw [List.length_eq_zero_iff] at blank
    rw [chunkText, blank, chunksFrom]
    exact Cover.nil chunkSize _
  · obtain ⟨spans, tiling, chunks⟩ :=
      exists_tiling positive overlap 0 (Nat.pos_of_ne_zero blank)
    refine ⟨spans, ?_⟩
    rw [chunkText, chunks]
    exact tiling.cover (by omega)

end Cover

/-- Whatever its sizes are, the loop of `chunk_text` ends; and for a chunk size from 1 and an
overlap from 0 its chunks cover the stripped text, each next one repeating
`min(overlap, chunk_size - 1)` characters of the last one. -/
theorem chunk_text_ends_and_covers (text : String) :
    (∀ chunkSize overlap : Int, ∃ chunks, ∀ turns, (strip text).length < turns →
      chunkTextWithin turns text chunkSize overlap = some chunks) ∧
    ∀ chunkSize overlap : Int, 1 ≤ chunkSize → 0 ≤ overlap →
      ∃ chunks spans,
        (∀ turns, (strip text).length < turns →
          chunkTextWithin turns text chunkSize overlap = some chunks) ∧
        Cover (strip text) chunkSize.toNat (min overlap (chunkSize - 1)).toNat spans
          (chunks.map String.toList) := by
  refine ⟨fun chunkSize overlap => chunkTextWithin_ends text chunkSize overlap, ?_⟩
  intro chunkSize overlap positive nonnegative
  obtain ⟨size, rfl⟩ := Int.eq_ofNat_of_zero_le (Int.le_trans (by decide) positive)
  obtain ⟨shared, rfl⟩ := Int.eq_ofNat_of_zero_le nonnegative
  have counted : 0 < size := by omega
  obtain ⟨spans, cover⟩ := chunkText_cover text counted shared
  have repeated : (min (shared : Int) (size - 1)).toNat = min shared (size - 1) := by omega
  refine ⟨chunkText text size shared, spans, ?_, ?_⟩
  · intro turns enough
    exact chunkTextWithin_eq text size shared turns enough
  · rw [repeated, Int.toNat_natCast]
    exact cover

theorem abcdef_covered : ∃ chunks spans,
    chunkTextWithin 7 "abcdef" 4 1 = some chunks ∧
      Cover (strip "abcdef") 4 1 spans (chunks.map String.toList) := by
  obtain ⟨chunks, spans, ended, cover⟩ :=
    (chunk_text_ends_and_covers "abcdef").2 4 1 (by decide) (by decide)
  exact ⟨chunks, spans, ended 7 (by decide +kernel), cover⟩

example : chunkTextWithin 7 " abcdef " 4 1 = some ["abcd", "def"] := by decide +kernel

-- A negative size reads up to an index from the end.
example : chunkTextWithin 4 "abc" (-1) 0 = some ["ab", "", ""] := by decide +kernel

end ActionPlan.Rag
