import Mathlib.Data.List.Chain
import Mathlib.Data.List.Nodup
import Mathlib.Logic.Relation

/-! # Depth-first search for cycles

A directed graph is given by the successors of each node. `descend` stops at the
first cycle it meets, `explore` records every cycle it meets and goes on. Both
decide whether the graph is acyclic, because the nodes that a search finishes
without meeting a cycle are in topological order. A recorded cycle is a closed
walk, because the stack of a search is a walk to its node.
-/

namespace ActionPlan.Foundation.DepthFirst

variable {Node : Type*}

/-- No node leads back to itself. -/
def Acyclic (relation : Node → Node → Prop) : Prop :=
  ∀ node, ¬ Relation.TransGen relation node node

/-- Relations that hold of the same pairs have the same cycles. -/
theorem acyclic_congr {first second : Node → Node → Prop}
    (same : ∀ source target, first source target ↔ second source target) :
    Acyclic first ↔ Acyclic second := by
  have equal : first = second := by
    funext source target
    exact propext (same source target)
  rw [equal]

/-- A relation that holds of fewer pairs has no new cycles. -/
theorem Acyclic.mono {fewer relation : Node → Node → Prop} (acyclic : Acyclic relation)
    (implies : ∀ source target, fewer source target → relation source target) :
    Acyclic fewer := fun node walk =>
  acyclic node (walk.lift id fun source target edge => implies source target edge)

/-- The edges of the graph. -/
def Edge (successors : Node → List Node) (source target : Node) : Prop :=
  target ∈ successors source

/-- Nodes in the order in which a search finishes them, the last one first:
each comes after all of its successors. -/
inductive Finished (successors : Node → List Node) : List Node → Prop
  | nil : Finished successors []
  | cons {node : Node} {earlier : List Node} (rest : Finished successors earlier)
      (new : node ∉ earlier) (closed : successors node ⊆ earlier) :
      Finished successors (node :: earlier)

section Order

variable {successors : Node → List Node} {visited : List Node}

theorem Finished.edge (finished : Finished successors visited) {node next : Node}
    (member : node ∈ visited) (edge : Edge successors node next) : next ∈ visited := by
  induction finished with
  | nil => cases member
  | cons rest new closed ih =>
      apply List.mem_cons_of_mem
      rcases List.mem_cons.mp member with rfl | older
      · exact closed edge
      · exact ih older

/-- What a finished node leads to is finished. -/
theorem Finished.leads (finished : Finished successors visited) {node target : Node}
    (member : node ∈ visited) (walk : Relation.TransGen (Edge successors) node target) :
    target ∈ visited := by
  induction walk with
  | single edge => exact finished.edge member edge
  | tail _ edge ih => exact finished.edge ih edge

/-- **Finished nodes lie on no cycle.** What leads back to the node finished last
would have finished before it. -/
theorem Finished.not_cyclic (finished : Finished successors visited) {node : Node}
    (member : node ∈ visited) : ¬ Relation.TransGen (Edge successors) node node := by
  induction finished with
  | nil => cases member
  | cons rest new closed ih =>
      rcases List.mem_cons.mp member with rfl | older
      · intro walk
        obtain ⟨next, edge, back⟩ := Relation.TransGen.head'_iff.mp walk
        rcases Relation.reflTransGen_iff_eq_or_transGen.mp back with rfl | further
        · exact new (closed edge)
        · exact new (rest.leads (closed edge) further)
      · exact ih older

end Order

section Extends

variable {successors : Node → List Node} {path visited next : List Node}

/-- What a search that meets no cycle does to the finished nodes. -/
structure Extends (successors : Node → List Node) (path visited next : List Node) : Prop where
  finished : Finished successors next
  kept : visited ⊆ next
  apart : ∀ node ∈ path, node ∈ next → node ∈ visited

theorem Extends.trans {middle : List Node} (first : Extends successors path visited middle)
    (second : Extends successors path middle next) : Extends successors path visited next where
  finished := second.finished
  kept := List.Subset.trans first.kept second.kept
  apart node onPath member := first.apart node onPath (second.apart node onPath member)

/-- A fold of searches finishes all the nodes it is over. -/
theorem extends_foldlM {step : List Node → Node → Option (List Node)}
    (extend : ∀ {visited next node}, Finished successors visited → step visited node = some next →
      Extends successors path visited next ∧ node ∈ next)
    {nodes : List Node} (finished : Finished successors visited)
    (searched : nodes.foldlM step visited = some next) :
    Extends successors path visited next ∧ nodes ⊆ next := by
  induction nodes generalizing visited with
  | nil =>
      obtain rfl : visited = next := Option.some.inj searched
      exact ⟨⟨finished, List.Subset.refl _, fun _ _ member => member⟩, List.nil_subset _⟩
  | cons node nodes ih =>
      rw [List.foldlM_cons] at searched
      obtain ⟨middle, stepped, rest⟩ := Option.bind_eq_some_iff.mp searched
      obtain ⟨first, present⟩ := extend finished stepped
      obtain ⟨second, covered⟩ := ih first.finished rest
      exact ⟨first.trans second, List.cons_subset.mpr ⟨second.kept present, covered⟩⟩

end Extends

section Fuel

variable {successors : Node → List Node}

/-- The fuel lasts: a path repeats no node and holds only nodes of the graph. -/
structure Adequate (nodes path : List Node) (fuel : Nat) : Prop where
  distinct : path.Nodup
  known : path ⊆ nodes
  enough : nodes.length < fuel + path.length

theorem Adequate.pos {nodes path : List Node} {fuel : Nat} (adequate : Adequate nodes path fuel) :
    fuel ≠ 0 := by
  rintro rfl
  have bounded := adequate.distinct.length_le_of_subset adequate.known
  have enough := adequate.enough
  omega

theorem Adequate.cons {nodes path : List Node} {fuel : Nat} {node : Node}
    (adequate : Adequate nodes path (fuel + 1)) (new : node ∉ path) (known : node ∈ nodes) :
    Adequate nodes (node :: path) fuel where
  distinct := List.nodup_cons.mpr ⟨new, adequate.distinct⟩
  known := List.cons_subset.mpr ⟨known, adequate.known⟩
  enough := by
    have enough := adequate.enough
    rw [List.length_cons]
    omega

theorem adequate_nil {nodes : List Node} {fuel : Nat} (enough : nodes.length < fuel) :
    Adequate nodes [] fuel :=
  ⟨List.nodup_nil, List.nil_subset _, by simpa using enough⟩

/-- What leads to a node leads to its successors, as the node itself does. -/
theorem leads_cons {relation : Node → Node → Prop} {path : List Node} {node next : Node}
    (leads : ∀ earlier ∈ path, Relation.TransGen relation earlier node)
    (edge : relation node next) :
    ∀ earlier ∈ node :: path, Relation.TransGen relation earlier next := by
  intro earlier onPath
  rcases List.mem_cons.mp onPath with rfl | older
  · exact .single edge
  · exact (leads earlier older).tail edge

/-- Among nodes of an acyclic graph one has none of them as a successor. -/
theorem Acyclic.exists_terminal {relation : Node → Node → Prop} (acyclic : Acyclic relation)
    {nodes : List Node} {node : Node} (member : node ∈ nodes) :
    ∃ terminal ∈ nodes, ∀ next ∈ nodes, ¬ relation terminal next := by
  have follow : ∀ (fuel : Nat) (path : List Node) (node : Node), Adequate nodes path fuel →
      node ∈ nodes → (∀ earlier ∈ path, Relation.TransGen relation earlier node) →
      ∃ terminal ∈ nodes, ∀ next ∈ nodes, ¬ relation terminal next := by
    intro fuel
    induction fuel with
    | zero => exact fun path node adequate => absurd rfl adequate.pos
    | succ fuel ih =>
        intro path node adequate member leads
        by_cases further : ∃ next ∈ nodes, relation node next
        · obtain ⟨next, nextMember, edge⟩ := further
          have offPath : node ∉ path := fun onPath => acyclic node (leads node onPath)
          apply ih (node :: path) next (adequate.cons offPath member) nextMember
          exact leads_cons leads edge
        · exact ⟨node, member, fun next nextMember edge => further ⟨next, nextMember, edge⟩⟩
  exact follow (nodes.length + 1) [] node (adequate_nil (Nat.lt_succ_self _)) member
    fun _ absent => (List.not_mem_nil absent).elim

/-- A node with a successor is a node of the graph. -/
def Supported (successors : Node → List Node) (nodes : List Node) : Prop :=
  ∀ source target, target ∈ successors source → source ∈ nodes

variable {nodes : List Node}

/-- A fold of partial steps that all succeed succeeds. -/
theorem exists_foldlM {State Item : Type*} {step : State → Item → Option State} {items : List Item}
    (succeeds : ∀ item ∈ items, ∀ state, ∃ next, step state item = some next) (state : State) :
    ∃ result, items.foldlM step state = some result := by
  induction items generalizing state with
  | nil => exact ⟨state, rfl⟩
  | cons item items ih =>
      obtain ⟨next, stepped⟩ := succeeds item List.mem_cons_self state
      rw [List.foldlM_cons, stepped]
      exact ih (fun other member => succeeds other (List.mem_cons_of_mem item member)) next

end Fuel

section Record

/-- A fold of a step that records cycles does not forget any. -/
theorem foldl_monotone {step : List Node × List (List Node) → Node → List Node × List (List Node)}
    (monotone : ∀ search node, search.2.length ≤ (step search node).2.length) (items : List Node)
    (search : List Node × List (List Node)) :
    search.2.length ≤ (items.foldl step search).2.length := by
  induction items generalizing search with
  | nil => exact Nat.le_refl _
  | cons node items ih => exact Nat.le_trans (monotone search node) (ih (step search node))

/-- A recording step that agrees with a partial step wherever that one goes on. -/
theorem foldl_of_foldlM {step : List Node × List (List Node) → Node → List Node × List (List Node)}
    {partialStep : List Node → Node → Option (List Node)} {found : List (List Node)}
    (agree : ∀ visited node next, partialStep visited node = some next →
      step (visited, found) node = (next, found))
    {items visited next : List Node} (searched : items.foldlM partialStep visited = some next) :
    items.foldl step (visited, found) = (next, found) := by
  induction items generalizing visited with
  | nil =>
      obtain rfl : visited = next := Option.some.inj searched
      rfl
  | cons node items ih =>
      rw [List.foldlM_cons] at searched
      obtain ⟨middle, stepped, rest⟩ := Option.bind_eq_some_iff.mp searched
      rw [List.foldl_cons, agree visited node middle stepped, ih rest]

/-- Where the partial step stops, the recording step has recorded a cycle. -/
theorem foldl_of_foldlM_none
    {step : List Node × List (List Node) → Node → List Node × List (List Node)}
    {partialStep : List Node → Node → Option (List Node)} {found : List (List Node)}
    (monotone : ∀ search node, search.2.length ≤ (step search node).2.length)
    {items : List Node}
    (agree : ∀ visited node next, partialStep visited node = some next →
      step (visited, found) node = (next, found))
    (records : ∀ node ∈ items, ∀ visited, partialStep visited node = none →
      found.length < (step (visited, found) node).2.length)
    {visited : List Node} (stopped : items.foldlM partialStep visited = none) :
    found.length < (items.foldl step (visited, found)).2.length := by
  induction items generalizing visited with
  | nil => cases stopped
  | cons node items ih =>
      rw [List.foldlM_cons] at stopped
      rw [List.foldl_cons]
      cases stepped : partialStep visited node with
      | none =>
          have recorded := records node List.mem_cons_self visited stepped
          exact Nat.lt_of_lt_of_le recorded (foldl_monotone monotone items _)
      | some middle =>
          rw [stepped] at stopped
          rw [agree visited node middle stepped]
          exact ih (fun other member => records other (List.mem_cons_of_mem node member)) stopped

end Record

section Walks

/-- A walk along edges that comes back to its first node. -/
structure ClosedWalk (successors : Node → List Node) (walk : List Node) : Prop where
  edges : walk.IsChain (Edge successors)
  long : 2 ≤ walk.length
  closed : walk.getLast? = walk.head?

variable {successors : Node → List Node} {stack : List Node} {node : Node}

/-- The stack of a nested search is a walk, as the stack around it is. -/
theorem isChain_concat_edge {next : Node} (edges : (stack ++ [node]).IsChain (Edge successors))
    (edge : Edge successors node next) :
    ((stack ++ [node]) ++ [next]).IsChain (Edge successors) := by
  refine edges.append (List.isChain_singleton next) ?_
  intro last lastMember first firstMember
  rw [List.getLast?_concat, Option.mem_some_iff] at lastMember
  rw [List.head?_cons, Option.mem_some_iff] at firstMember
  exact lastMember ▸ firstMember ▸ edge

end Walks

variable [DecidableEq Node]

/-- The search that stops at the first cycle. `path` leads from the root of the
search to the node, the last node first; the result is the nodes finished. -/
def descend (successors : Node → List Node) :
    Nat → List Node → List Node → Node → Option (List Node)
  | 0, _, _, _ => none
  | fuel + 1, path, visited, node =>
    if node ∈ path then none
    else if node ∈ visited then some visited
    else
      ((successors node).foldlM
        (fun visited next => descend successors fuel (node :: path) visited next) visited).map
          (node :: ·)

/-- The search that records the cycles it meets. `stack` leads from the root of
the search to the node; the result is the nodes finished and the cycles. -/
def explore (successors : Node → List Node) :
    Nat → List Node → List Node × List (List Node) → Node → List Node × List (List Node)
  | 0, _, search, _ => search
  | fuel + 1, stack, (visited, found), node =>
    if node ∈ stack then (visited, found ++ [stack.drop (stack.idxOf node) ++ [node]])
    else if node ∈ visited then (visited, found)
    else
      let search := (successors node).foldl
        (fun search next => explore successors fuel (stack ++ [node]) search next)
        (visited, found)
      (node :: search.1, search.2)

section Descend

variable {successors : Node → List Node} {nodes path visited next : List Node}

/-- A search that meets no cycle finishes its node after all the nodes it leads to. -/
theorem extends_descend {fuel : Nat} {node : Node} (finished : Finished successors visited)
    (searched : descend successors fuel path visited node = some next) :
    Extends successors path visited next ∧ node ∈ next := by
  induction fuel generalizing path visited next node with
  | zero => cases searched
  | succ fuel ih =>
      rw [descend] at searched
      split at searched
      · cases searched
      · rename_i offPath
        split at searched
        · rename_i member
          obtain rfl : visited = next := Option.some.inj searched
          exact ⟨⟨finished, List.Subset.refl _, fun _ _ present => present⟩, member⟩
        · rename_i new
          obtain ⟨reached, descended, rfl⟩ := Option.map_eq_some_iff.mp searched
          obtain ⟨below, covered⟩ := extends_foldlM (fun done stepped => ih done stepped)
            finished descended
          have unfinished : node ∉ reached := fun member => new (below.apart node (.head _) member)
          refine ⟨⟨below.finished.cons unfinished covered, ?_, ?_⟩, List.mem_cons_self⟩
          · exact fun other member => List.mem_cons_of_mem _ (below.kept member)
          · intro other onPath member
            rcases List.mem_cons.mp member with rfl | older
            · exact absurd onPath offPath
            · exact below.apart other (List.mem_cons_of_mem _ onPath) older

/-- In an acyclic graph a search with enough fuel ends. -/
theorem exists_descend (supported : Supported successors nodes)
    (acyclic : Acyclic (Edge successors)) {fuel : Nat} {node : Node}
    (adequate : Adequate nodes path fuel)
    (leads : ∀ earlier ∈ path, Relation.TransGen (Edge successors) earlier node)
    (visited : List Node) : ∃ next, descend successors fuel path visited node = some next := by
  induction fuel generalizing path visited node with
  | zero => exact absurd rfl adequate.pos
  | succ fuel ih =>
      have offPath : node ∉ path := fun onPath => acyclic node (leads node onPath)
      rw [descend, if_neg offPath]
      split
      · exact ⟨visited, rfl⟩
      · have below : ∀ next ∈ successors node, ∀ visited, ∃ reached,
            descend successors fuel (node :: path) visited next = some reached := by
          intro next edge visited
          apply ih (adequate.cons offPath (supported node next edge))
          exact leads_cons leads edge
        obtain ⟨reached, searched⟩ := exists_foldlM below visited
        exact ⟨node :: reached, by rw [searched]; rfl⟩

end Descend

section Explore

variable {successors : Node → List Node} {nodes : List Node}

theorem explore_monotone (fuel : Nat) (stack : List Node)
    (search : List Node × List (List Node)) (node : Node) :
    search.2.length ≤ (explore successors fuel stack search node).2.length := by
  induction fuel generalizing stack search node with
  | zero => exact Nat.le_refl _
  | succ fuel ih =>
      obtain ⟨visited, found⟩ := search
      rw [explore]
      split
      · simp
      · split
        · exact Nat.le_refl _
        · exact foldl_monotone (ih (stack ++ [node])) _ (visited, found)

/-- Where the search for one cycle meets none, the search for all records none. -/
theorem explore_of_descend {fuel : Nat} {stack path visited next : List Node}
    (same : ∀ node, node ∈ stack ↔ node ∈ path) {node : Node} {found : List (List Node)}
    (searched : descend successors fuel path visited node = some next) :
    explore successors fuel stack (visited, found) node = (next, found) := by
  induction fuel generalizing stack path visited next node with
  | zero => cases searched
  | succ fuel ih =>
      rw [descend] at searched
      rw [explore]
      split at searched
      · cases searched
      · rename_i offPath
        rw [if_neg fun onStack => offPath ((same node).mp onStack)]
        split at searched
        · rename_i member
          obtain rfl : visited = next := Option.some.inj searched
          rw [if_pos member]
        · rename_i new
          obtain ⟨reached, descended, rfl⟩ := Option.map_eq_some_iff.mp searched
          have below : ∀ other, other ∈ stack ++ [node] ↔ other ∈ node :: path := fun other => by
            simp [same, or_comm]
          rw [if_neg new]
          simp only [foldl_of_foldlM (fun _ _ _ stepped => ih below stepped) descended]

/-- Where the search for one cycle stops on a cycle, the search for all records one. -/
theorem explore_of_none (supported : Supported successors nodes) {fuel : Nat}
    {stack path visited : List Node} (same : ∀ node, node ∈ stack ↔ node ∈ path)
    (adequate : Adequate nodes path fuel) {node : Node} (found : List (List Node))
    (stopped : descend successors fuel path visited node = none) :
    found.length < (explore successors fuel stack (visited, found) node).2.length := by
  induction fuel generalizing stack path visited node with
  | zero => exact absurd rfl adequate.pos
  | succ fuel ih =>
      rw [descend] at stopped
      rw [explore]
      split at stopped
      · rename_i onPath
        rw [if_pos ((same node).mpr onPath)]
        simp
      · rename_i offPath
        rw [if_neg fun onStack => offPath ((same node).mp onStack)]
        split at stopped
        · cases stopped
        · rename_i new
          rw [if_neg new]
          have below : ∀ other, other ∈ stack ++ [node] ↔ other ∈ node :: path := fun other => by
            simp [same, or_comm]
          apply foldl_of_foldlM_none (explore_monotone fuel (stack ++ [node]))
            (fun _ _ _ stepped => explore_of_descend below stepped) ?_
            (Option.map_eq_none_iff.mp stopped)
          intro next edge visited stuck
          exact ih below (adequate.cons offPath (supported node next edge)) stuck

end Explore

section Recorded

variable {successors : Node → List Node} {stack : List Node} {node : Node}

/-- A walk is closed from where it first meets its last node. -/
theorem closedWalk_drop (edges : (stack ++ [node]).IsChain (Edge successors))
    (onStack : node ∈ stack) :
    ClosedWalk successors (stack.drop (stack.idxOf node) ++ [node]) := by
  have below : stack.idxOf node < stack.length := List.idxOf_lt_length_of_mem onStack
  have begins : stack.drop (stack.idxOf node) =
      node :: stack.drop (stack.idxOf node + 1) := by
    rw [List.drop_eq_getElem_cons below, List.getElem_idxOf]
  refine ⟨?_, ?_, ?_⟩
  · rw [← List.drop_append_of_le_length below.le]
    exact edges.drop _
  · rw [begins, List.length_append, List.length_cons, List.length_singleton]
    omega
  · rw [List.getLast?_concat, begins, List.cons_append, List.head?_cons]

/-- A search records closed walks only. -/
theorem explore_closedWalk {fuel : Nat} {search : List Node × List (List Node)}
    (edges : (stack ++ [node]).IsChain (Edge successors))
    (recorded : ∀ walk ∈ search.2, ClosedWalk successors walk) :
    ∀ walk ∈ (explore successors fuel stack search node).2, ClosedWalk successors walk := by
  induction fuel generalizing stack search node with
  | zero => exact recorded
  | succ fuel ih =>
      obtain ⟨visited, found⟩ := search
      rw [explore]
      split
      · rename_i onStack
        intro walk member
        rcases List.mem_append.mp member with old | new
        · exact recorded walk old
        · rw [List.mem_singleton.mp new]
          exact closedWalk_drop edges onStack
      · split
        · exact recorded
        · refine List.foldlRecOn (motive := fun search : List Node × List (List Node) =>
            ∀ walk ∈ search.2, ClosedWalk successors walk) (successors node) _ recorded ?_
          intro search recorded next edge
          exact ih (isChain_concat_edge edges edge) recorded

/-- A bound on the depth that suffices can be enlarged. -/
theorem explore_of_le {nodes : List Node} (supported : Supported successors nodes)
    {fuel more : Nat} (adequate : Adequate nodes stack.reverse fuel) (enlarged : fuel ≤ more)
    (search : List Node × List (List Node)) :
    explore successors more stack search node = explore successors fuel stack search node := by
  induction fuel generalizing more stack search node with
  | zero => exact absurd rfl adequate.pos
  | succ fuel ih =>
      obtain ⟨more, rfl⟩ := Nat.exists_eq_add_one_of_ne_zero (Nat.ne_zero_of_lt enlarged)
      obtain ⟨visited, found⟩ := search
      rw [explore, explore]
      by_cases onStack : node ∈ stack
      · rw [if_pos onStack, if_pos onStack]
      · have below : (successors node).foldl
              (fun search next => explore successors more (stack ++ [node]) search next)
              (visited, found) =
            (successors node).foldl
              (fun search next => explore successors fuel (stack ++ [node]) search next)
              (visited, found) := by
          apply List.foldl_ext
          intro search next edge
          apply ih _ (Nat.le_of_succ_le_succ enlarged)
          rw [List.reverse_concat]
          exact adequate.cons (mt List.mem_reverse.mp onStack) (supported node next edge)
        rw [if_neg onStack, if_neg onStack, below]

end Recorded

section Roots

variable {successors : Node → List Node} {nodes roots : List Node} {limit : Nat}

/-- **The search for one cycle decides acyclicity**, begun at every node in turn. -/
theorem descend_roots (supported : Supported successors nodes) (covered : nodes ⊆ roots)
    (enough : nodes.length < limit) :
    (∃ visited, roots.foldlM (fun visited node => descend successors limit [] visited node) [] =
      some visited) ↔ Acyclic (Edge successors) := by
  constructor
  · rintro ⟨visited, searched⟩ node walk
    obtain ⟨extension, complete⟩ := extends_foldlM
      (fun finished stepped => extends_descend finished stepped) Finished.nil searched
    obtain ⟨next, edge, -⟩ := Relation.TransGen.head'_iff.mp walk
    exact extension.finished.not_cyclic (complete (covered (supported node next edge))) walk
  · intro acyclic
    apply exists_foldlM
    intro node _ visited
    exact exists_descend supported acyclic (adequate_nil enough) (fun _ absent => by cases absent)
      visited

/-- **The search for all cycles decides acyclicity**: it records none exactly
when there is none. -/
theorem explore_roots (supported : Supported successors nodes) (covered : nodes ⊆ roots)
    (enough : nodes.length < limit) :
    (roots.foldl (fun search node => explore successors limit [] search node) ([], [])).2 = [] ↔
      Acyclic (Edge successors) := by
  rw [← descend_roots supported covered enough]
  have agree : ∀ (visited : List Node) (node : Node) (next : List Node),
      descend successors limit [] visited node = some next →
      explore successors limit [] (visited, []) node = (next, []) :=
    fun _ _ _ stepped => explore_of_descend (fun _ => Iff.rfl) stepped
  constructor
  · intro clean
    cases searched :
        roots.foldlM (fun visited node => descend successors limit [] visited node) [] with
    | some visited => exact ⟨visited, rfl⟩
    | none =>
        have recorded := foldl_of_foldlM_none (explore_monotone limit []) agree
          (fun node _ visited stuck => explore_of_none supported (fun _ => Iff.rfl)
            (adequate_nil enough) [] stuck) searched
        rw [clean] at recorded
        exact absurd recorded (Nat.lt_irrefl _)
  · rintro ⟨visited, searched⟩
    rw [foldl_of_foldlM agree searched]

end Roots

end ActionPlan.Foundation.DepthFirst
