import Mathlib.Data.List.Chain
import Mathlib.Data.List.DropRight
import Mathlib.Data.List.Infix

/-! # Overlapping windows of a list

A list is read through windows of one width, each of which repeats the end of the one before.
A `Tiling` gives the spans of the windows, and `Tiling.cover` says what the windows are as lists.
-/

namespace ActionPlan.Foundation.Windows

/-- The positions from `start` up to `stop`. -/
structure Span where
  start : Nat
  stop : Nat
  deriving DecidableEq, Repr

/-- What a list holds at the positions of a span. -/
def Span.read {Item : Type} (items : List Item) (span : Span) : List Item :=
  (items.take span.stop).drop span.start

namespace Span

variable {Item : Type} (items : List Item) {start stop : Nat}

/-- A span has as many items as it is long. -/
theorem length_read (inside : stop ≤ items.length) :
    (Span.read items ⟨start, stop⟩).length = stop - start := by
  simp only [Span.read, List.length_drop, List.length_take]
  omega

theorem read_drop (count : Nat) :
    (Span.read items ⟨start, stop⟩).drop count = Span.read items ⟨start + count, stop⟩ := by
  simp only [Span.read, List.drop_drop]

/-- The first items of a span are a span. -/
theorem read_take {count : Nat} (inside : start + count ≤ stop) :
    (Span.read items ⟨start, stop⟩).take count = Span.read items ⟨start, start + count⟩ := by
  simp only [Span.read]
  rw [List.take_drop, List.take_take, Nat.min_eq_left inside]

/-- The last items of a span are a span. -/
theorem read_rtake {count : Nat} (enough : start + count ≤ stop) (inside : stop ≤ items.length) :
    (Span.read items ⟨start, stop⟩).rtake count = Span.read items ⟨stop - count, stop⟩ := by
  have offset : start + (stop - start - count) = stop - count := by omega
  rw [List.rtake_eq_reverse_take_reverse, List.take_reverse, List.reverse_reverse,
    length_read items inside, read_drop, offset]

/-- A span and what follows it. -/
theorem read_append (ordered : start ≤ stop) :
    Span.read items ⟨start, stop⟩ ++ items.drop stop = items.drop start := by
  have reached : start + (stop - start) = stop := by omega
  have split := List.take_append_drop (stop - start) (items.drop start)
  rw [List.drop_drop, reached] at split
  simp only [Span.read, List.drop_take]
  exact split

end Span

/-- The spans of windows of width `width` from `start` to the end of `length` positions. Each next
span starts `shared` positions before the end of the last one. -/
inductive Tiling (width shared length : Nat) : Nat → List Span → Prop
  | final {start : Nat} : start < length → length ≤ start + width →
      Tiling width shared length start [⟨start, length⟩]
  | next {start : Nat} {spans : List Span} : start + width < length →
      Tiling width shared length (start + width - shared) spans →
      Tiling width shared length start (⟨start, start + width⟩ :: spans)

/-- What the windows of a list are: pieces of the list that are neither empty nor wider than
`width`, from its beginning to its end, of which each next one starts later and first repeats
the last `shared` items of the one before, and adds what follows them. -/
structure Cover {Item : Type} (items : List Item) (width shared : Nat) (spans : List Span)
    (windows : List (List Item)) : Prop where
  read : windows = spans.map (Span.read items)
  within : ∀ span ∈ spans, span.start < span.stop ∧ span.stop ≤ items.length
  nonempty : ∀ window ∈ windows, window ≠ []
  bounded : ∀ window ∈ windows, window.length ≤ width
  first : ∀ span ∈ spans.head?, span.start = 0
  last : ∀ span ∈ spans.getLast?, span.stop = items.length
  later : spans.IsChain fun earlier next =>
    earlier.start < next.start ∧ next.start + shared = earlier.stop
  repeated : windows.IsChain fun earlier next =>
    shared < next.length ∧ earlier.rtake shared = next.take shared
  joined : windows.head?.getD [] ++ (windows.tail.map (List.drop shared)).flatten = items

namespace Tiling

variable {Item : Type} {items : List Item} {width shared start : Nat} {spans : List Span}

/-- A tiling begins with a span from its start, longer than what is shared when enough is left. -/
theorem head (tiling : Tiling width shared items.length start spans)
    (overlapping : shared < width) :
    ∃ stop rest, spans = ⟨start, stop⟩ :: rest ∧
      (start + shared < items.length → start + shared < stop) := by
  cases tiling with
  | final inside reaches => exact ⟨items.length, [], rfl, id⟩
  | @next _ rest inside tail => exact ⟨start + width, rest, rfl, fun _ => by omega⟩

/-- No span is empty, too long or beyond the items. -/
theorem within (tiling : Tiling width shared items.length start spans)
    (overlapping : shared < width) :
    ∀ span ∈ spans, span.start < span.stop ∧ span.stop ≤ span.start + width ∧
      span.stop ≤ items.length := by
  induction tiling with
  | final inside reaches =>
    intro span member
    rw [List.mem_singleton] at member
    subst member
    exact ⟨inside, reaches, Nat.le_refl _⟩
  | @next start spans inside _ ih =>
    intro span member
    rcases List.mem_cons.mp member with rfl | member
    · exact ⟨by dsimp only; omega, Nat.le_refl _, Nat.le_of_lt inside⟩
    · exact ih span member

/-- The last span ends with the items. -/
theorem last (tiling : Tiling width shared items.length start spans) :
    ∀ span ∈ spans.getLast?, span.stop = items.length := by
  induction tiling with
  | final _ _ =>
    intro span member
    simp only [List.getLast?_singleton, Option.mem_def, Option.some.injEq] at member
    rw [← member]
  | @next start spans _ tail ih =>
    intro span member
    cases tail with
    | final _ _ => exact ih span member
    | next _ _ => exact ih span member

/-- Each span begins where the shared part of its predecessor does. -/
theorem later (tiling : Tiling width shared items.length start spans)
    (overlapping : shared < width) :
    spans.IsChain fun earlier next =>
      earlier.start < next.start ∧ next.start + shared = earlier.stop := by
  induction tiling with
  | final _ _ => exact List.IsChain.singleton _
  | @next start spans _ tail ih =>
    obtain ⟨stop, rest, rfl, -⟩ := tail.head overlapping
    refine List.IsChain.cons_cons ⟨?_, ?_⟩ ih
    · change start < start + width - shared
      omega
    · change start + width - shared + shared = start + width
      omega

/-- A window before the end of the list goes beyond what it shares. -/
theorem next_window (tiling : Tiling width shared items.length start spans)
    (overlapping : shared < width) (inside : start + shared < items.length) :
    ∃ stop rest, spans = ⟨start, stop⟩ :: rest ∧ start + shared < stop ∧ stop ≤ items.length := by
  obtain ⟨stop, rest, rfl, further⟩ := tiling.head overlapping
  exact ⟨stop, rest, rfl, further inside,
    (tiling.within overlapping _ List.mem_cons_self).2.2⟩

/-- The shared items are the last of one span and the first of the next. -/
theorem repeated (tiling : Tiling width shared items.length start spans)
    (overlapping : shared < width) :
    (spans.map (Span.read items)).IsChain fun earlier next =>
      shared < next.length ∧ earlier.rtake shared = next.take shared := by
  induction tiling with
  | final _ _ => exact List.IsChain.singleton _
  | @next start spans inside tail ih =>
    obtain ⟨stop, rest, rfl, longer, bounded⟩ := tail.next_window overlapping (by omega)
    have joint : start + width - shared + shared = start + width := by omega
    refine List.IsChain.cons_cons ⟨?_, ?_⟩ ih
    · rw [Span.length_read items bounded]
      omega
    · rw [Span.read_rtake items (by omega) (Nat.le_of_lt inside),
        Span.read_take items (Nat.le_of_lt longer), joint]

/-- Without what is repeated, the windows are the items from the start of the tiling on. -/
theorem joined (tiling : Tiling width shared items.length start spans)
    (overlapping : shared < width) :
    ((spans.map (Span.read items)).head?.getD []) ++
        ((spans.map (Span.read items)).tail.map (List.drop shared)).flatten =
      items.drop start := by
  induction tiling with
  | @final start inside reaches =>
    have all := Span.read_append items (Nat.le_of_lt inside)
    rw [List.drop_length, List.append_nil] at all
    simpa using all
  | @next start spans inside tail ih =>
    obtain ⟨stop, rest, rfl, longer, bounded⟩ := tail.next_window overlapping (by omega)
    have enough : shared ≤ (Span.read items ⟨start + width - shared, stop⟩).length := by
      rw [Span.length_read items bounded]
      omega
    have rest_joined := congrArg (List.drop shared) ih
    simp only [List.map_cons, List.head?_cons, Option.getD_some, List.tail_cons, List.drop_drop,
      List.drop_append_of_le_length enough] at rest_joined
    have joint : start + width - shared + shared = start + width := by omega
    rw [joint] at rest_joined
    simp only [List.map_cons, List.head?_cons, Option.getD_some, List.tail_cons, List.flatten_cons]
    rw [rest_joined]
    exact Span.read_append items (Nat.le_add_right start width)

/-- The windows of a tiling from the beginning cover the list. -/
theorem cover (tiling : Tiling width shared items.length 0 spans) (overlapping : shared < width) :
    Cover items width shared spans (spans.map (Span.read items)) where
  read := rfl
  within := fun span member =>
    have inside := tiling.within overlapping span member
    ⟨inside.1, inside.2.2⟩
  nonempty := by
    intro window read
    obtain ⟨⟨lower, upper⟩, member, rfl⟩ := List.mem_map.mp read
    have inside := tiling.within overlapping _ member
    have length : _ = upper - lower := Span.length_read items inside.2.2
    intro empty
    rw [empty, List.length_nil] at length
    simp only at inside
    omega
  bounded := by
    intro window read
    obtain ⟨⟨lower, upper⟩, member, rfl⟩ := List.mem_map.mp read
    have inside := tiling.within overlapping _ member
    have length : _ = upper - lower := Span.length_read items inside.2.2
    simp only at inside
    omega
  first := by
    obtain ⟨stop, rest, rfl, -⟩ := tiling.head overlapping
    intro span first
    simp only [List.head?_cons, Option.mem_def, Option.some.injEq] at first
    rw [← first]
  last := tiling.last
  later := tiling.later overlapping
  repeated := tiling.repeated overlapping
  joined := by
    rw [tiling.joined overlapping, List.drop_zero]

end Tiling

/-- The empty list is covered by no windows. -/
theorem Cover.nil {Item : Type} (width shared : Nat) :
    Cover ([] : List Item) width shared [] [] where
  read := rfl
  within := by simp
  nonempty := by simp
  bounded := by simp
  first := by simp
  last := by simp
  later := List.IsChain.nil
  repeated := List.IsChain.nil
  joined := rfl

end ActionPlan.Foundation.Windows
