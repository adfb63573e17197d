import Mathlib.Algebra.GroupWithZero.Nat
import Mathlib.Data.List.Chain
import Mathlib.Data.List.MinMax
import ActionPlan.Foundation.DepthFirst

/-! # Heaviest chains of an acyclic graph

A chain lists nodes each of which is a successor of the next one, and weighs what its
nodes weigh together. `heaviest` is the recursion for a heaviest chain that ends at a
node; of several it takes the one that goes through the first successor that allows it.
-/

namespace ActionPlan.Foundation.HeaviestChain

open DepthFirst

variable {Node : Type*}

section Chains

variable (successors : Node → List Node) (weight : Node → Nat)

/-- Each node is a successor of the next one. -/
def Chain (nodes : List Node) : Prop :=
  nodes.IsChain fun earlier later => Edge successors later earlier

/-- The chain ends at the node. -/
structure EndsAt (node : Node) (nodes : List Node) : Prop where
  chain : Chain successors nodes
  last : nodes.getLast? = some node

/-- What the nodes weigh together. -/
def total (nodes : List Node) : Nat := (nodes.map weight).sum

@[simp] theorem total_nil : total weight [] = 0 := rfl

@[simp] theorem total_concat (nodes : List Node) (node : Node) :
    total weight (nodes ++ [node]) = total weight nodes + weight node := by
  simp [total]

end Chains

section Extend

variable {successors : Node → List Node} {node next : Node} {nodes : List Node}

theorem endsAt_singleton (node : Node) : EndsAt successors node [node] :=
  ⟨List.isChain_singleton node, rfl⟩

/-- A chain is extended by a node that has its last node as a successor. -/
theorem EndsAt.concat (ends : EndsAt successors next nodes) (edge : Edge successors node next) :
    EndsAt successors node (nodes ++ [node]) := by
  refine ⟨?_, List.getLast?_concat⟩
  rw [Chain, List.isChain_append]
  refine ⟨ends.chain, List.isChain_singleton node, ?_⟩
  intro last isLast first isFirst
  rw [ends.last] at isLast
  cases isLast
  cases isFirst
  exact edge

/-- A chain that ends at a node is that node alone, or extends a chain to a successor. -/
theorem EndsAt.cases_concat (ends : EndsAt successors node nodes) :
    nodes = [node] ∨ ∃ next earlier, Edge successors node next ∧
      EndsAt successors next earlier ∧ nodes = earlier ++ [node] := by
  obtain ⟨earlier, rfl⟩ := List.getLast?_eq_some_iff.mp ends.last
  have chain := ends.chain
  rw [Chain, List.isChain_append] at chain
  cases last : earlier.getLast? with
  | none =>
      rw [List.getLast?_eq_none_iff.mp last]
      exact .inl rfl
  | some next => exact .inr ⟨next, earlier, chain.2.2 next last node rfl, ⟨chain.1, last⟩, rfl⟩

/-- In an acyclic graph a chain repeats no node. -/
theorem Chain.nodup (acyclic : Acyclic (Edge successors)) (chain : Chain successors nodes) :
    nodes.Nodup := by
  have walks : nodes.IsChain fun earlier later =>
      Relation.TransGen (Edge successors) later earlier :=
    chain.imp fun _ _ edge => .single edge
  have trans : IsTrans Node fun earlier later =>
      Relation.TransGen (Edge successors) later earlier :=
    ⟨fun _ _ _ first second => second.trans first⟩
  refine (List.isChain_iff_pairwise.mp walks).imp ?_
  rintro earlier later walk rfl
  exact acyclic earlier walk

end Extend

section Recursion

variable (successors : Node → List Node) (weight : Node → Nat)

/-- The first of the weighed chains that weighs most. -/
def pick (chains : List (Nat × List Node)) : Nat × List Node :=
  (chains.argmax Prod.fst).getD (0, [])

/-- The weight of a heaviest chain that ends at the node, and the chain. -/
def heaviest : Nat → Node → Nat × List Node
  | 0, _ => (0, [])
  | fuel + 1, node =>
    let below := pick ((successors node).map (heaviest fuel))
    (below.1 + weight node, below.2 ++ [node])

variable {successors weight}

theorem le_pick {chains : List (Nat × List Node)} {chain : Nat × List Node}
    (member : chain ∈ chains) : chain.1 ≤ (pick chains).1 := by
  unfold pick
  cases found : chains.argmax Prod.fst with
  | none =>
      rw [List.argmax_eq_none.mp found] at member
      cases member
  | some best => exact List.le_of_mem_argmax member found

theorem pick_cases (chains : List (Nat × List Node)) :
    pick chains = (0, []) ∨ pick chains ∈ chains := by
  unfold pick
  cases found : chains.argmax Prod.fst with
  | none => exact .inl rfl
  | some best => exact .inr (List.argmax_mem found)

/-- The recursion yields a chain that ends at the node, with its weight. -/
theorem heaviest_sound (fuel : Nat) (node : Node) :
    EndsAt successors node (heaviest successors weight (fuel + 1) node).2 ∧
      total weight (heaviest successors weight (fuel + 1) node).2 =
        (heaviest successors weight (fuel + 1) node).1 := by
  induction fuel generalizing node with
  | zero =>
      have nothing : pick ((successors node).map (heaviest successors weight 0)) = (0, []) := by
        rcases pick_cases ((successors node).map (heaviest successors weight 0)) with same | member
        · exact same
        · obtain ⟨next, -, same⟩ := List.mem_map.mp member
          exact same.symm
      rw [heaviest, nothing]
      exact ⟨endsAt_singleton node, by simp [total]⟩
  | succ fuel ih =>
      rw [heaviest]
      simp only [total_concat]
      rcases pick_cases ((successors node).map (heaviest successors weight (fuel + 1))) with
        none | member
      · rw [none]
        exact ⟨endsAt_singleton node, rfl⟩
      · obtain ⟨next, edge, same⟩ := List.mem_map.mp member
        obtain ⟨ends, weighs⟩ := ih next
        rw [← same]
        exact ⟨ends.concat edge, congrArg (· + weight node) weighs⟩

variable {nodes path : List Node} (weight)

/-- In an acyclic graph more fuel than there are nodes changes nothing. -/
theorem heaviest_stable (supported : Supported successors nodes)
    (acyclic : Acyclic (Edge successors)) {fuel : Nat} {node : Node}
    (adequate : Adequate nodes path fuel)
    (leads : ∀ earlier ∈ path, Relation.TransGen (Edge successors) earlier node) :
    heaviest successors weight (fuel + 1) node = heaviest successors weight fuel node := by
  induction fuel generalizing path node with
  | zero => exact absurd rfl adequate.pos
  | succ fuel ih =>
      have offPath : node ∉ path := fun onPath => acyclic node (leads node onPath)
      have below : (successors node).map (heaviest successors weight (fuel + 1)) =
          (successors node).map (heaviest successors weight fuel) := by
        apply List.map_congr_left
        intro next edge
        apply ih (adequate.cons offPath (supported node next edge))
        exact leads_cons leads edge
      rw [heaviest, below]
      rfl

end Recursion

section Optimal

variable {successors : Node → List Node} {weight : Node → Nat} {nodes : List Node} {limit : Nat}

/-- The graph and the fuel of a recursion that yields what it is for. -/
structure Sufficient (successors : Node → List Node) (nodes : List Node) (limit : Nat) : Prop where
  supported : Supported successors nodes
  acyclic : Acyclic (Edge successors)
  enough : nodes.length < limit

/-- **The equation of the recursion** in an acyclic graph. -/
theorem Sufficient.heaviest_eq (sufficient : Sufficient successors nodes limit) (node : Node) :
    heaviest successors weight limit node =
      ((pick ((successors node).map (heaviest successors weight limit))).1 + weight node,
        (pick ((successors node).map (heaviest successors weight limit))).2 ++ [node]) := by
  have stable : heaviest successors weight (limit + 1) node =
      heaviest successors weight limit node :=
    heaviest_stable weight sufficient.supported sufficient.acyclic
      (adequate_nil sufficient.enough) fun _ absent => by cases absent
  exact stable.symm

theorem Sufficient.endsAt (sufficient : Sufficient successors nodes limit) (weight : Node → Nat)
    (node : Node) :
    EndsAt successors node (heaviest successors weight limit node).2 ∧
      total weight (heaviest successors weight limit node).2 =
        (heaviest successors weight limit node).1 := by
  obtain ⟨fuel, rfl⟩ := Nat.exists_eq_add_one_of_ne_zero (adequate_nil sufficient.enough).pos
  exact heaviest_sound fuel node

/-- The first heaviest of the chains weighs what it says. -/
theorem Sufficient.total_pick (sufficient : Sufficient successors nodes limit)
    (weight : Node → Nat) (starts : List Node) :
    total weight (pick (starts.map (heaviest successors weight limit))).2 =
      (pick (starts.map (heaviest successors weight limit))).1 := by
  rcases pick_cases (starts.map (heaviest successors weight limit)) with none | member
  · rw [none, total_nil]
  · obtain ⟨node, -, same⟩ := List.mem_map.mp member
    rw [← same]
    exact (sufficient.endsAt weight node).2

/-- **No chain that ends at the node is heavier.** -/
theorem Sufficient.total_le (sufficient : Sufficient successors nodes limit) {node : Node}
    {chain : List Node} (ends : EndsAt successors node chain) :
    total weight chain ≤ (heaviest successors weight limit node).1 := by
  induction chain using List.reverseRecOn generalizing node with
  | nil => cases ends.last
  | append_singleton earlier last ih =>
      obtain rfl : last = node := by simpa using ends.last
      rw [sufficient.heaviest_eq, total_concat]
      apply Nat.add_le_add_right
      rcases ends.cases_concat with alone | ⟨next, rest, edge, before, same⟩
      · obtain rfl : earlier = [] := by simpa using alone
        exact Nat.zero_le _
      · obtain rfl := (List.append_inj_left' same rfl).symm
        exact (ih before).trans (le_pick (List.mem_map_of_mem edge))

end Optimal

section First

variable (successors : Node → List Node) (weight : Node → Nat)

/-- A chain that ends at the node is heavier than all chains that end at the other one. -/
def EndsHeavier (node other : Node) : Prop :=
  ∃ chain, EndsAt successors node chain ∧
    ∀ rival, EndsAt successors other rival → total weight rival < total weight chain

/-- The node is the first of the candidates at which the heaviest of their chains end. -/
def FirstAmong (candidates : List Node) (node : Node) : Prop :=
  ∃ earlier later, candidates = earlier ++ node :: later ∧
    (∀ other ∈ earlier, EndsHeavier successors weight node other) ∧
    ∀ other ∈ later, ¬ EndsHeavier successors weight other node

/-- The node is on the first heaviest chain that ends at a candidate, read backwards: each
node before another one is the first of its successors that leads to a heaviest chain. -/
inductive OnFirst (candidates : List Node) : Node → Prop
  | last {node : Node} (first : FirstAmong successors weight candidates node) :
      OnFirst candidates node
  | before {node next : Node} (on : OnFirst candidates node)
      (first : FirstAmong successors weight (successors node) next) : OnFirst candidates next

variable {successors weight}

/-- What Mathlib's `argmax` picks comes before all that is as large. -/
theorem argmax_eq_some_iff_split {α : Type*} {size : α → Nat} {items : List α} {item : α} :
    items.argmax size = some item ↔ ∃ earlier later, items = earlier ++ item :: later ∧
      (∀ other ∈ earlier, size other < size item) ∧ ∀ other ∈ later, size other ≤ size item := by
  classical
  rw [List.argmax_eq_some_iff]
  constructor
  · rintro ⟨member, largest, least⟩
    obtain ⟨earlier, later, rfl, new⟩ := List.eq_append_cons_of_mem member
    refine ⟨earlier, later, rfl, ?_, fun other after => largest other (by simp [after])⟩
    intro other before
    by_contra notLess
    have position := least other (by simp [before]) (Nat.not_lt.mp notLess)
    rw [List.idxOf_append_of_notMem new, List.idxOf_append_of_mem before,
      List.idxOf_cons_self] at position
    have inside := List.idxOf_lt_length_of_mem before
    omega
  · rintro ⟨earlier, later, rfl, less, atMost⟩
    refine ⟨by simp, ?_, ?_⟩
    · intro other member
      rcases List.mem_append.mp member with before | after
      · exact (less other before).le
      · rcases List.mem_cons.mp after with rfl | after
        · exact Nat.le_refl _
        · exact atMost other after
    · intro other _ large
      have new : item ∉ earlier := fun before => Nat.lt_irrefl _ (less item before)
      have otherNew : other ∉ earlier := fun before =>
        Nat.not_lt.mpr large (less other before)
      rw [List.idxOf_append_of_notMem new, List.idxOf_append_of_notMem otherNew,
        List.idxOf_cons_self]
      omega

theorem argmax_map {α β : Type*} {size : β → Nat} (image : α → β) (items : List α) :
    (items.map image).argmax size = (items.argmax (size ∘ image)).map image := by
  induction items using List.reverseRecOn with
  | nil => rfl
  | append_singleton items item ih =>
      rw [List.map_append, List.map_singleton, List.argmax_concat, List.argmax_concat, ih]
      cases items.argmax (size ∘ image) with
      | none => rfl
      | some best =>
          simp only [Option.map_some, Function.comp_apply]
          split <;> rfl

variable {nodes candidates : List Node} {limit : Nat}

theorem Sufficient.endsHeavier_iff (sufficient : Sufficient successors nodes limit)
    {node other : Node} : EndsHeavier successors weight node other ↔
      (heaviest successors weight limit other).1 < (heaviest successors weight limit node).1 := by
  obtain ⟨ends, weighs⟩ := sufficient.endsAt weight node
  obtain ⟨otherEnds, otherWeighs⟩ := sufficient.endsAt weight other
  constructor
  · rintro ⟨chain, chainEnds, heavier⟩
    have less := heavier _ otherEnds
    rw [otherWeighs] at less
    exact less.trans_le (sufficient.total_le chainEnds)
  · intro less
    refine ⟨_, ends, fun rival rivalEnds => ?_⟩
    rw [weighs]
    exact (sufficient.total_le rivalEnds).trans_lt less

theorem Sufficient.firstAmong_iff (sufficient : Sufficient successors nodes limit) {node : Node} :
    FirstAmong successors weight candidates node ↔
      candidates.argmax (Prod.fst ∘ heaviest successors weight limit) = some node := by
  simp only [argmax_eq_some_iff_split, FirstAmong, sufficient.endsHeavier_iff, Nat.not_lt,
    Function.comp_apply]

/-- What is picked among the chains of the candidates is the chain of the first one. -/
theorem Sufficient.pick_of_first (sufficient : Sufficient successors nodes limit) {node : Node}
    (first : FirstAmong successors weight candidates node) :
    pick (candidates.map (heaviest successors weight limit)) =
      heaviest successors weight limit node := by
  rw [pick, argmax_map, sufficient.firstAmong_iff.mp first]
  rfl

theorem Sufficient.mem_pick_iff (sufficient : Sufficient successors nodes limit) {node : Node} :
    node ∈ (pick (candidates.map (heaviest successors weight limit))).2 ↔
      ∃ first, FirstAmong successors weight candidates first ∧
        node ∈ (heaviest successors weight limit first).2 := by
  cases found : candidates.argmax (Prod.fst ∘ heaviest successors weight limit) with
  | none =>
      simp [sufficient.firstAmong_iff, List.argmax_eq_none.mp found, pick]
  | some first =>
      have chosen := sufficient.firstAmong_iff.mpr found
      rw [sufficient.pick_of_first chosen]
      constructor
      · intro member
        exact ⟨first, chosen, member⟩
      · rintro ⟨other, otherFirst, member⟩
        rw [sufficient.firstAmong_iff, found] at otherFirst
        cases otherFirst
        exact member

/-- The chain of a node consists of the node and the chain of the first successor. -/
theorem Sufficient.mem_heaviest_iff (sufficient : Sufficient successors nodes limit)
    {node other : Node} : other ∈ (heaviest successors weight limit node).2 ↔
      other = node ∨ ∃ first, FirstAmong successors weight (successors node) first ∧
        other ∈ (heaviest successors weight limit first).2 := by
  rw [sufficient.heaviest_eq, ← sufficient.mem_pick_iff, List.mem_append, List.mem_singleton,
    or_comm]

/-- Induction along the chains that the recursion picks. -/
theorem Sufficient.chain_induction (sufficient : Sufficient successors nodes limit)
    (weight : Node → Nat) {motive : Node → Prop}
    (step : ∀ node, (∀ next, FirstAmong successors weight (successors node) next → motive next) →
      motive node) (node : Node) : motive node := by
  induction length : (heaviest successors weight limit node).2.length using Nat.strongRecOn
    generalizing node with
  | _ length ih =>
      apply step
      intro next first
      refine ih _ ?_ next rfl
      rw [← length, sufficient.heaviest_eq node, sufficient.pick_of_first first]
      simp

/-- **The chain that is picked** among the chains of the candidates. -/
theorem Sufficient.mem_pick_iff_onFirst (sufficient : Sufficient successors nodes limit)
    {node : Node} :
    node ∈ (pick (candidates.map (heaviest successors weight limit))).2 ↔
      OnFirst successors weight candidates node := by
  rw [sufficient.mem_pick_iff]
  constructor
  · rintro ⟨first, chosen, member⟩
    have below : ∀ root, node ∈ (heaviest successors weight limit root).2 →
        OnFirst successors weight candidates root → OnFirst successors weight candidates node := by
      intro root
      induction root using sufficient.chain_induction weight with
      | step root ih =>
          intro member on
          rcases sufficient.mem_heaviest_iff.mp member with rfl | ⟨next, first, member⟩
          · exact on
          · exact ih next first member (.before on first)
    exact below first member (.last chosen)
  · intro on
    induction on with
    | last first => exact ⟨_, first, sufficient.mem_heaviest_iff.mpr (.inl rfl)⟩
    | @before node next _ first ih =>
        obtain ⟨root, chosen, member⟩ := ih
        refine ⟨root, chosen, ?_⟩
        clear chosen
        induction root using sufficient.chain_induction weight with
        | step root ih =>
            apply sufficient.mem_heaviest_iff.mpr
            rcases sufficient.mem_heaviest_iff.mp member with rfl | ⟨other, otherFirst, member⟩
            · exact .inr ⟨next, first, sufficient.mem_heaviest_iff.mpr (.inl rfl)⟩
            · exact .inr ⟨other, otherFirst, ih other otherFirst member⟩

end First

end ActionPlan.Foundation.HeaviestChain
