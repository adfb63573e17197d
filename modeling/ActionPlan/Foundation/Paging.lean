import Mathlib.Data.List.Pairwise
import Mathlib.Order.Lattice

/-! # Reading a collection page by page

A collection whose items have distinct positions is read in pages, each behind the position where
the page before it ended. Between two requests the collection may change, so that the pages are
those of a sequence of snapshots. What is there all the time is read once all the same.
-/

namespace ActionPlan.Foundation.Paging

variable {Item Position : Type*}

/-- The answer to a request: items, and where to go on if there may be more. -/
structure Page (Item Position : Type*) where
  items : List Item
  next : Option Position := none

variable [LinearOrder Position] (position : Item → Position)

/-- Whether a position is behind the cursor. -/
def beyond (cursor : Option Position) (place : Position) : Bool :=
  cursor.all fun reached => reached < place

/-- A page has the first items behind the cursor, up to where the reading goes on; the last one
has all of them. -/
structure IsPage (snapshot : List Item) (cursor : Option Position) (page : Page Item Position) :
    Prop where
  front : page.items <+: snapshot.filter fun item => beyond cursor (position item)
  whole : page.next = none →
    page.items = snapshot.filter fun item => beyond cursor (position item)
  ended : ∀ reached, page.next = some reached → ∃ before last,
    page.items = before ++ [last] ∧ position last = reached

/-- The items read from a request on, until there is no more. -/
inductive Read (snapshots : Nat → List Item) : Nat → Option Position → List Item → Prop
  | last {number : Nat} {cursor : Option Position} {page : Page Item Position}
      (isPage : IsPage position (snapshots number) cursor page) (ended : page.next = none) :
      Read snapshots number cursor page.items
  | more {number : Nat} {cursor : Option Position} {page : Page Item Position}
      {reached : Position} {rest : List Item}
      (isPage : IsPage position (snapshots number) cursor page)
      (continued : page.next = some reached)
      (later : Read snapshots (number + 1) (some reached) rest) :
      Read snapshots number cursor (page.items ++ rest)

/-- The positions are distinct, and the items in their order. -/
def Ordered (snapshot : List Item) : Prop :=
  snapshot.Pairwise fun first second => position first < position second

variable {position} {snapshot : List Item} {cursor : Option Position}
  {page : Page Item Position} {reached : Position}

theorem beyond_some {place : Position} : beyond (some reached) place = true ↔ reached < place :=
  decide_eq_true_iff

theorem IsPage.mem (isPage : IsPage position snapshot cursor page) {item : Item}
    (member : item ∈ page.items) : item ∈ snapshot ∧ beyond cursor (position item) = true :=
  List.mem_filter.mp (isPage.front.subset member)

/-- The reading goes on at an item of the page. -/
theorem IsPage.reached_mem (isPage : IsPage position snapshot cursor page)
    (continued : page.next = some reached) :
    ∃ item ∈ snapshot, position item = reached ∧ beyond cursor reached = true := by
  obtain ⟨before, last, items, rfl⟩ := isPage.ended reached continued
  obtain ⟨stored, behind⟩ := isPage.mem (items ▸ List.mem_concat_self)
  exact ⟨last, stored, rfl, behind⟩

theorem IsPage.ordered (isPage : IsPage position snapshot cursor page)
    (ordered : Ordered position snapshot) : Ordered position page.items :=
  (ordered.sublist List.filter_sublist).sublist isPage.front.sublist

/-- Up to where the reading goes on, a page has every item behind the cursor, and no other. -/
theorem IsPage.mem_iff (isPage : IsPage position snapshot cursor page)
    (ordered : Ordered position snapshot) (continued : page.next = some reached) {item : Item}
    (stored : item ∈ snapshot) :
    item ∈ page.items ↔ beyond cursor (position item) = true ∧ position item ≤ reached := by
  obtain ⟨before, last, items, rfl⟩ := isPage.ended reached continued
  obtain ⟨rest, split⟩ := isPage.front
  have sorted : Ordered position (before ++ [last] ++ rest) := by
    rw [← items, split]
    exact ordered.sublist List.filter_sublist
  obtain ⟨front, -, apart⟩ := List.pairwise_append.mp sorted
  obtain ⟨-, -, below⟩ := List.pairwise_append.mp front
  constructor
  · intro member
    refine ⟨(isPage.mem member).2, ?_⟩
    rw [items] at member
    rcases List.mem_append.mp member with earlier | same
    · exact (below item earlier last (List.mem_singleton_self _)).le
    · rw [List.mem_singleton.mp same]
  · rintro ⟨behind, upto⟩
    have listed : item ∈ page.items ++ rest := by
      rw [split]
      exact List.mem_filter.mpr ⟨stored, behind⟩
    rcases List.mem_append.mp listed with member | later
    · exact member
    · exact absurd (apart last List.mem_concat_self item later) (not_lt_of_ge upto)

/-- What is behind a position that the cursor is before is behind the cursor. -/
theorem beyond_of_lt {place : Position} (start : beyond cursor reached = true)
    (less : reached < place) : beyond cursor place = true := by
  cases cursor with
  | none => rfl
  | some before => exact beyond_some.mpr ((beyond_some.mp start).trans less)

namespace Read

variable {snapshots : Nat → List Item} {number : Nat} {items : List Item}

/-- What is read is behind the cursor. -/
theorem behind (read : Read position snapshots number cursor items) :
    ∀ item ∈ items, beyond cursor (position item) = true := by
  induction read with
  | last isPage ended => exact fun item member => (isPage.mem member).2
  | more isPage continued later ih =>
    intro item member
    rcases List.mem_append.mp member with here | after
    · exact (isPage.mem here).2
    · obtain ⟨-, -, -, start⟩ := isPage.reached_mem continued
      exact beyond_of_lt start (beyond_some.mp (ih item after))

/-- What is read was there when it was read. -/
theorem stored (read : Read position snapshots number cursor items) :
    ∀ item ∈ items, ∃ time, item ∈ snapshots time := by
  induction read with
  | last isPage ended => exact fun item member => ⟨_, (isPage.mem member).1⟩
  | more isPage continued later ih =>
    intro item member
    rcases List.mem_append.mp member with here | after
    · exact ⟨_, (isPage.mem here).1⟩
    · exact ih item after

/-- **No position is read twice**, and the positions are read in their order. -/
theorem ordered (read : Read position snapshots number cursor items)
    (each : ∀ time, Ordered position (snapshots time)) : Ordered position items := by
  induction read with
  | last isPage ended => exact isPage.ordered (each _)
  | more isPage continued later ih =>
    refine List.pairwise_append.mpr ⟨isPage.ordered (each _), ih, ?_⟩
    intro item member other after
    have upto := ((isPage.mem_iff (each _) continued (isPage.mem member).1).mp member).2
    exact upto.trans_lt (beyond_some.mp (later.behind other after))

/-- **What is there all the time is read**, as it is there. -/
theorem complete (read : Read position snapshots number cursor items)
    (each : ∀ time, Ordered position (snapshots time)) {place : Position} {wanted : Item → Prop}
    (ahead : beyond cursor place = true)
    (present : ∀ time, ∃ item ∈ snapshots time, position item = place ∧ wanted item) :
    ∃ item ∈ items, position item = place ∧ wanted item := by
  induction read with
  | @last number cursor page isPage ended =>
    obtain ⟨item, stored, rfl, asWanted⟩ := present number
    refine ⟨item, ?_, rfl, asWanted⟩
    rw [isPage.whole ended]
    exact List.mem_filter.mpr ⟨stored, ahead⟩
  | @more number cursor page reached rest isPage continued later ih =>
    by_cases upto : place ≤ reached
    · obtain ⟨item, stored, rfl, asWanted⟩ := present number
      have member := (isPage.mem_iff (each number) continued stored).mpr ⟨ahead, upto⟩
      exact ⟨item, List.mem_append_left rest member, rfl, asWanted⟩
    · obtain ⟨item, member, found⟩ := ih (beyond_some.mpr (lt_of_not_ge upto))
      exact ⟨item, List.mem_append_right page.items member, found⟩

/-- What does not change is read as it is. -/
theorem perm_of_quiet (read : Read position (fun _ => snapshot) number none items)
    (ordered : Ordered position snapshot) : items.Perm snapshot := by
  have distinct : ∀ {listed : List Item}, Ordered position listed → listed.Nodup := fun apart =>
    apart.imp fun less same => less.ne (congrArg position same)
  refine (List.perm_ext_iff_of_nodup (distinct (read.ordered fun _ => ordered))
    (distinct ordered)).mpr fun item => ⟨?_, ?_⟩
  · intro member
    obtain ⟨-, stored⟩ := read.stored item member
    exact stored
  · intro stored
    have present : ∀ _ : Nat, ∃ other ∈ snapshot, position other = position item ∧ other = item :=
      fun _ => ⟨item, stored, rfl, rfl⟩
    obtain ⟨other, member, -, rfl⟩ := read.complete (fun _ => ordered) rfl present
    exact member

end Read

section Progress

variable {places : List Position}

/-- The places behind the cursor. -/
def ahead (places : List Position) (cursor : Option Position) : List Position :=
  places.filter (beyond cursor)

/-- Every page but the last one leaves fewer places, where those of the items are among them. -/
theorem IsPage.ahead_lt (isPage : IsPage position snapshot cursor page)
    (continued : page.next = some reached) (placed : ∀ item ∈ snapshot, position item ∈ places) :
    (ahead places (some reached)).length < (ahead places cursor).length := by
  obtain ⟨item, stored, rfl, start⟩ := isPage.reached_mem continued
  have narrower : ahead places (some (position item)) =
      (ahead places cursor).filter (beyond (some (position item))) := by
    rw [ahead, ahead, List.filter_filter]
    refine List.filter_congr fun place _ => ?_
    cases after : beyond (some (position item)) place with
    | false => rw [Bool.false_and]
    | true => rw [beyond_of_lt start (beyond_some.mp after), Bool.true_and]
  rw [narrower, List.length_filter_lt_length_iff_exists]
  refine ⟨position item, List.mem_filter.mpr ⟨placed item stored, start⟩, ?_⟩
  exact fun itself => lt_irrefl _ (beyond_some.mp itself)

end Progress

section Limited

/-- The page of at most `size` items. -/
def firstPage (position : Item → Position) (size : Nat) (snapshot : List Item)
    (cursor : Option Position) : Page Item Position :=
  let rest := snapshot.filter fun item => beyond cursor (position item)
  { items := rest.take size
    next := if rest.length ≤ size then none else (rest.take size).getLast?.map position }

theorem isPage_firstPage {size : Nat} (some_room : 0 < size) (snapshot : List Item)
    (cursor : Option Position) :
    IsPage position snapshot cursor (firstPage position size snapshot cursor) where
  front := List.take_prefix _ _
  whole := by
    intro ended
    simp only [firstPage] at ended ⊢
    split at ended
    · rename_i short
      exact List.take_of_length_le short
    · rename_i long
      have none_taken := List.getLast?_eq_none_iff.mp (Option.map_eq_none_iff.mp ended)
      have taken := congrArg List.length none_taken
      rw [List.length_take, List.length_nil] at taken
      omega
  ended := by
    intro reached continued
    simp only [firstPage] at continued ⊢
    split at continued
    · cases continued
    · obtain ⟨last, final, rfl⟩ := Option.map_eq_some_iff.mp continued
      obtain ⟨before, items⟩ := List.getLast?_eq_some_iff.mp final
      exact ⟨before, last, items, rfl⟩

end Limited

end ActionPlan.Foundation.Paging
