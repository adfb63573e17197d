import ActionPlan.Foundation.DepthFirst

/-! # Placing items in layers

Some items have to wait for others, their blockers. In each round all unplaced items are
placed whose blockers have been placed before, until a round places nothing. The rounds
end for any blockers, and for acyclic ones they have then placed every item.
-/

namespace ActionPlan.Foundation.Layering

open DepthFirst

variable {Item : Type*} [DecidableEq Item]

/-- The items that a round places. -/
def ready (items : List Item) (blockers : Item → List Item) (placed : List Item) : List Item :=
  items.filter fun item => item ∉ placed ∧ (blockers item).all (· ∈ placed)

/-- The layers of at most so many rounds. -/
def layers (items : List Item) (blockers : Item → List Item) : Nat → List Item → List (List Item)
  | 0, _ => []
  | rounds + 1, placed =>
    let layer := ready items blockers placed
    if layer = [] then [] else layer :: layers items blockers rounds (placed ++ layer)

/-- The rounds, begun with the placed items, end after these layers. -/
inductive Ends (items : List Item) (blockers : Item → List Item) :
    List Item → List (List Item) → Prop
  | done {placed : List Item} (idle : ready items blockers placed = []) :
      Ends items blockers placed []
  | round {placed : List Item} {later : List (List Item)}
      (busy : ready items blockers placed ≠ [])
      (rest : Ends items blockers (placed ++ ready items blockers placed) later) :
      Ends items blockers placed (ready items blockers placed :: later)

section Rounds

variable {items : List Item} {blockers : Item → List Item} {placed : List Item}

theorem mem_ready {item : Item} : item ∈ ready items blockers placed ↔
    item ∈ items ∧ item ∉ placed ∧ blockers item ⊆ placed := by
  simp [ready, List.subset_def]

/-- A round that places an item leaves fewer items unplaced. -/
theorem unplaced_lt (busy : ready items blockers placed ≠ []) :
    (items.filter (· ∉ placed ++ ready items blockers placed)).length <
      (items.filter (· ∉ placed)).length := by
  obtain ⟨item, member⟩ := List.exists_mem_of_ne_nil _ busy
  have unplaced := (mem_ready.mp member).2.1
  have fewer : items.filter (· ∉ placed ++ ready items blockers placed) =
      (items.filter (· ∉ placed)).filter (· ∉ ready items blockers placed) := by
    rw [List.filter_filter]
    apply List.filter_congr
    intro other _
    simp [Bool.and_comm]
  rw [fewer]
  apply List.length_filter_lt_length_iff_exists.mpr
  exact ⟨item, List.mem_filter.mpr ⟨(mem_ready.mp member).1, decide_eq_true unplaced⟩,
    by simpa using member⟩

/-- **The rounds end**: as many as there are items, and one more, are enough. -/
theorem ends_layers {rounds : Nat} (enough : (items.filter (· ∉ placed)).length < rounds) :
    Ends items blockers placed (layers items blockers rounds placed) := by
  induction rounds generalizing placed with
  | zero => omega
  | succ rounds ih =>
      rw [layers]
      by_cases idle : ready items blockers placed = []
      · simp only [idle, ↓reduceIte]
        exact .done idle
      · simp only [idle, ↓reduceIte]
        have fewer := unplaced_lt idle
        exact .round idle (ih (by omega))

end Rounds

section Layers

variable {items : List Item} {blockers : Item → List Item} {placed : List Item}
  {layers : List (List Item)}

/-- Only unplaced items are placed. -/
theorem Ends.mem_flatten (ends : Ends items blockers placed layers) {item : Item}
    (member : item ∈ layers.flatten) : item ∈ items ∧ item ∉ placed := by
  induction ends with
  | done idle => cases member
  | round busy rest ih =>
      rcases List.mem_append.mp member with now | later
      · exact ⟨(mem_ready.mp now).1, (mem_ready.mp now).2.1⟩
      · obtain ⟨present, unplaced⟩ := ih later
        exact ⟨present, fun before => unplaced (List.mem_append_left _ before)⟩

/-- No item is placed twice. -/
theorem Ends.nodup (ends : Ends items blockers placed layers) (distinct : items.Nodup) :
    layers.flatten.Nodup := by
  induction ends with
  | done idle => exact List.nodup_nil
  | round busy rest ih =>
      rw [List.flatten_cons, List.nodup_append']
      refine ⟨distinct.filter _, ih, ?_⟩
      intro item now later
      exact (rest.mem_flatten later).2 (List.mem_append_right _ now)

/-- **The blockers of an item are placed in earlier layers.** -/
theorem Ends.blockers_subset (ends : Ends items blockers placed layers)
    {earlier later : List (List Item)} {layer : List Item}
    (split : layers = earlier ++ layer :: later) {item : Item} (member : item ∈ layer) :
    blockers item ⊆ placed ++ earlier.flatten := by
  induction ends generalizing earlier with
  | done idle => simp at split
  | @round placed others busy rest ih =>
      cases earlier with
      | nil =>
          obtain ⟨rfl, -⟩ := List.cons.inj split
          simpa using (mem_ready.mp member).2.2
      | cons first earlier =>
          obtain ⟨rfl, same⟩ := List.cons.inj split
          simpa [List.append_assoc] using ih same

/-- An item that stays unplaced has an unplaced blocker. -/
theorem Ends.exists_blocker (ends : Ends items blockers placed layers) {item : Item}
    (member : item ∈ items) (unplaced : item ∉ placed ++ layers.flatten) :
    ∃ blocker ∈ blockers item, blocker ∉ placed ++ layers.flatten := by
  induction ends with
  | @done placed idle =>
      by_contra none
      have blocked : item ∈ ready items blockers placed := by
        refine mem_ready.mpr ⟨member, by simpa using unplaced, fun blocker listed => ?_⟩
        by_contra waiting
        exact none ⟨blocker, listed, by simpa using waiting⟩
      rw [idle] at blocked
      cases blocked
  | round busy rest ih =>
      rw [List.flatten_cons, ← List.append_assoc] at unplaced ⊢
      exact ih unplaced

/-- **Every item is placed** when the blockers are items and acyclic. -/
theorem Ends.complete (ends : Ends items blockers placed layers)
    (acyclic : Acyclic (Edge blockers))
    (closed : ∀ item ∈ items, blockers item ⊆ items) {item : Item} (member : item ∈ items) :
    item ∈ placed ++ layers.flatten := by
  by_contra unplaced
  have present : item ∈ items.filter (· ∉ placed ++ layers.flatten) :=
    List.mem_filter.mpr ⟨member, decide_eq_true unplaced⟩
  obtain ⟨stuck, stuckMember, alone⟩ := acyclic.exists_terminal present
  obtain ⟨stuckItem, stuckUnplaced⟩ := List.mem_filter.mp stuckMember
  obtain ⟨blocker, listed, waiting⟩ :=
    ends.exists_blocker stuckItem (of_decide_eq_true stuckUnplaced)
  exact alone blocker
    (List.mem_filter.mpr ⟨closed stuck stuckItem listed, decide_eq_true waiting⟩) listed

end Layers

end ActionPlan.Foundation.Layering
