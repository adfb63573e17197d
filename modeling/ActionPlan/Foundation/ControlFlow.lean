import Mathlib.Algebra.GroupWithZero.Nat
import Mathlib.Tactic.Common

/-! # Control-flow graphs of fallible nodes

A graph runs its current node, which transforms the state or raises an error,
and then moves to the node that the new state selects, until it is at an exit.
`Annotated` is Floyd's method for such graphs: an assertion at every node that
each node carries over to the next one.
-/

namespace ActionPlan.Foundation

universe u

/-- The value of a successful bind comes from two successful computations. -/
theorem ok_of_bind {ε : Type*} {α β : Type u} {first : Except ε α} {rest : α → Except ε β}
    {result : β}
    (success : (first >>= rest) = .ok result) :
    ∃ value, first = .ok value ∧ rest value = .ok result := by
  cases first with
  | error failure => cases success
  | ok value => exact ⟨value, rfl, success⟩

/-- A bind of a successful computation is its continuation. -/
theorem bind_of_ok {ε : Type*} {α β : Type u} {first : Except ε α} {rest : α → Except ε β}
    {value : α} {result : Except ε β} (success : first = .ok value)
    (continued : rest value = result) : (first >>= rest) = result := by
  rw [success]
  exact continued

/-- The value of a successful map is the image of a successful computation. -/
theorem ok_of_map {ε α β : Type*} {first : Except ε α} {image : α → β} {result : β}
    (success : first.map image = .ok result) :
    ∃ value, first = .ok value ∧ image value = result := by
  cases first with
  | error failure => cases success
  | ok value => exact ⟨value, rfl, Except.ok.inj success⟩

/-- A map fails as its computation does. -/
theorem error_of_map {ε α β : Type*} {first : Except ε α} {image : α → β} {failure : ε}
    (failed : first.map image = .error failure) : first = .error failure := by
  cases first with
  | error raised => exact congrArg Except.error (Except.error.inj failed)
  | ok value => cases failed

/-- A result that counts as a success is one. -/
theorem ok_of_isOk {ε α : Type*} {result : Except ε α} (success : result.isOk = true) :
    ∃ value, result = .ok value := by
  cases result with
  | error failure => cases success
  | ok value => exact ⟨value, rfl⟩

/-- A result that has a value is that value. -/
theorem ok_of_toOption {ε α : Type*} {result : Except ε α} {value : α}
    (present : result.toOption = some value) : result = .ok value := by
  cases result with
  | error failure => cases present
  | ok found => exact congrArg Except.ok (Option.some.inj present)

/-- A fold fails as one of its steps. -/
theorem foldlM_error {ε α : Type*} {β : Type u} {step : β → α → Except ε β} {items : List α}
    {failure : ε} (reasons : ε → Prop)
    (fails : ∀ item ∈ items, ∀ value failure, step value item = .error failure → reasons failure)
    {value : β} (failed : items.foldlM step value = .error failure) : reasons failure := by
  induction items generalizing value with
  | nil => cases failed
  | cons item items ih =>
      rw [List.foldlM_cons] at failed
      cases stepped : step value item with
      | error raised =>
          rw [stepped] at failed
          cases failed
          exact fails item (.head _) value _ stepped
      | ok next =>
          rw [stepped] at failed
          exact ih (fun other member => fails other (.tail _ member)) failed

/-- A fold whose steps all succeed succeeds. -/
theorem foldlM_total {ε α : Type*} {β : Type u} {step : β → α → Except ε β} {items : List α}
    (succeeds : ∀ item ∈ items, ∀ value, ∃ next, step value item = .ok next) (value : β) :
    ∃ result, items.foldlM step value = .ok result := by
  induction items generalizing value with
  | nil => exact ⟨value, rfl⟩
  | cons item items ih =>
      obtain ⟨next, stepped⟩ := succeeds item List.mem_cons_self value
      rw [List.foldlM_cons, stepped]
      exact ih (fun other member => succeeds other (List.mem_cons_of_mem item member)) next

/-- A fold of steps that all do in one representation what total steps do in another. -/
theorem foldlM_of_foldl {ε α γ : Type*} {β : Type u} {step : β → α → Except ε β}
    {total : γ → α → γ} {items : List α} (encode : γ → β)
    (agree : ∀ item ∈ items, ∀ value, step (encode value) item = .ok (encode (total value item)))
    (value : γ) : items.foldlM step (encode value) = .ok (encode (items.foldl total value)) := by
  induction items generalizing value with
  | nil => rfl
  | cons item items ih =>
      rw [List.foldlM_cons, agree item List.mem_cons_self]
      exact ih (fun other member => agree other (List.mem_cons_of_mem item member)) _

/-- A step that gives every item what a partial function assigns to it does so along a list. -/
theorem mapM_of_filterMap {ε α : Type*} {β : Type u} {step : α → Except ε β}
    {assigned : α → Option β} {items : List α}
    (agree : ∀ item ∈ items, ∃ value, step item = .ok value ∧ assigned item = some value) :
    items.mapM step = .ok (items.filterMap assigned) := by
  induction items with
  | nil => rfl
  | cons item items ih =>
      obtain ⟨value, stepped, same⟩ := agree item List.mem_cons_self
      rw [List.mapM_cons, stepped, List.filterMap_cons_some same,
        ih fun other member => agree other (List.mem_cons_of_mem item member)]
      rfl

/-- A fold of steps that may fail, the reasons of their failures forgotten. -/
theorem toOption_foldlM {ε α : Type*} {β : Type u} {step : β → α → Except ε β}
    {partialStep : β → α → Option β}
    (same : ∀ value item, (step value item).toOption = partialStep value item) (items : List α)
    (value : β) : (items.foldlM step value).toOption = items.foldlM partialStep value := by
  induction items generalizing value with
  | nil => rfl
  | cons item items ih =>
      rw [List.foldlM_cons, List.foldlM_cons, ← same]
      cases step value item with
      | error failure => rfl
      | ok next => exact ih next

/-- A graph whose nodes transform a state or raise an error. -/
structure ControlFlow (Node State Error : Type*) where
  exec : Node → State → Except Error State
  next : Node → State → Node
  exit : Node → Bool

namespace ControlFlow

variable {Node State Error : Type*} (graph : ControlFlow Node State Error)

/-- Run from a node until an exit is entered; `exhausted` is raised when the
number of visited nodes exceeds the limit. -/
def run (exhausted : Error) : Nat → Node → State → Except Error State
  | 0, _, _ => .error exhausted
  | limit + 1, node, state =>
    if graph.exit node then .ok state
    else graph.exec node state >>= fun reached =>
      run exhausted limit (graph.next node reached) reached

variable {graph} in
/-- A run that ends is not changed by a higher limit. -/
theorem run_mono {exhausted : Error} {limit higher : Nat} (bound : limit ≤ higher) {node : Node}
    {state reached : State} (ended : graph.run exhausted limit node state = .ok reached) :
    graph.run exhausted higher node state = .ok reached := by
  induction limit generalizing higher node state with
  | zero => cases ended
  | succ limit ih =>
      obtain ⟨more, rfl⟩ : ∃ more, higher = more + 1 := ⟨higher - 1, by omega⟩
      rw [run] at ended ⊢
      split at ended
      · rename_i exit
        rw [if_pos exit, ended]
      · rename_i inner
        rw [if_neg inner]
        obtain ⟨middle, executed, rest⟩ := ok_of_bind ended
        exact bind_of_ok executed (ih (by omega) rest)

variable {graph} in
/-- Two runs that end do so in the same state, whatever their limits. -/
theorem run_unique {exhausted : Error} {limit other : Nat} {node : Node}
    {state reached final : State} (ended : graph.run exhausted limit node state = .ok reached)
    (again : graph.run exhausted other node state = .ok final) : reached = final := by
  have first := run_mono (Nat.le_max_left limit other) ended
  have second := run_mono (Nat.le_max_right limit other) again
  exact Except.ok.inj (first.symm.trans second)

/-- An assertion at every node that each node carries over to its successor. -/
def Annotated (assertion : Node → State → Prop) : Prop :=
  ∀ node state reached, graph.exit node = false → assertion node state →
    graph.exec node state = .ok reached → assertion (graph.next node reached) reached

/-- A second assertion needs to be carried over only where the first one holds. -/
theorem Annotated.and {graph : ControlFlow Node State Error} {first second : Node → State → Prop}
    (annotated : graph.Annotated first)
    (carried : ∀ node state reached, graph.exit node = false → first node state →
      second node state → graph.exec node state = .ok reached →
        second (graph.next node reached) reached) :
    graph.Annotated fun node state => first node state ∧ second node state := by
  intro node state reached inner holds executed
  exact ⟨annotated node state reached inner holds.1 executed,
    carried node state reached inner holds.1 holds.2 executed⟩

/-- **Floyd's rule.** A run that ends does so at an exit whose assertion holds. -/
theorem Annotated.run {graph : ControlFlow Node State Error} {assertion : Node → State → Prop}
    (annotated : graph.Annotated assertion) {exhausted : Error} {limit : Nat} {node : Node}
    {state reached : State} (start : assertion node state)
    (ended : graph.run exhausted limit node state = .ok reached) :
    ∃ exit, graph.exit exit = true ∧ assertion exit reached := by
  induction limit generalizing node state with
  | zero => cases ended
  | succ limit ih =>
      rw [ControlFlow.run] at ended
      split at ended
      · rename_i exit
        cases ended
        exact ⟨node, exit, start⟩
      · rename_i inner
        obtain ⟨middle, executed, rest⟩ := ok_of_bind ended
        exact ih (annotated node state middle (by simpa using inner) start executed) rest

/-- **Total correctness.** When each node succeeds under its assertion and
the rank falls along the edges, a run succeeds whose limit exceeds the rank it starts from. -/
theorem Annotated.total {graph : ControlFlow Node State Error} {assertion : Node → State → Prop}
    (annotated : graph.Annotated assertion) (rank : Node → Nat)
    (succeeds : ∀ node state, graph.exit node = false → assertion node state →
      ∃ reached, graph.exec node state = .ok reached)
    (descends : ∀ node state reached, graph.exit node = false → assertion node state →
      assertion (graph.next node reached) reached → rank (graph.next node reached) < rank node)
    {exhausted : Error} {limit : Nat} {node : Node} {state : State} (start : assertion node state)
    (enough : rank node < limit) :
    ∃ reached, graph.run exhausted limit node state = .ok reached := by
  induction limit generalizing node state with
  | zero => omega
  | succ limit ih =>
      rw [ControlFlow.run]
      split
      · exact ⟨state, rfl⟩
      · rename_i inner
        have proceeds : graph.exit node = false := by simpa using inner
        obtain ⟨reached, executed⟩ := succeeds node state proceeds start
        have carried := annotated node state reached proceeds start executed
        have lower := descends node state reached proceeds start carried
        rw [executed]
        apply ih carried
        omega

/-- Graphs with the same edges, whose nodes do the same under a fact that they keep, run alike. -/
theorem run_congr (first second : ControlFlow Node State Error) (fact : State → Prop)
    (next : first.next = second.next) (exit : first.exit = second.exit)
    (agree : ∀ node state, fact state → first.exec node state = second.exec node state)
    (kept : ∀ node state reached, fact state → second.exec node state = .ok reached →
      fact reached)
    {exhausted : Error} (limit : Nat) (node : Node) {state : State} (start : fact state) :
    first.run exhausted limit node state = second.run exhausted limit node state := by
  induction limit generalizing node state with
  | zero => rfl
  | succ limit ih =>
      rw [run, run, exit, next, agree node state start]
      split
      · rfl
      · cases executed : second.exec node state with
        | error failure => rfl
        | ok reached => exact ih _ (kept node state reached start executed)

/-- The nodes that a run enters, each with the state it is entered in. -/
def entries : Nat → Node → State → List (Node × State)
  | 0, _, _ => []
  | limit + 1, node, state =>
    (node, state) ::
      if graph.exit node then []
      else
        match graph.exec node state with
        | .error _ => []
        | .ok reached => entries limit (graph.next node reached) reached

section Entries

variable {graph : ControlFlow Node State Error} {assertion : Node → State → Prop}

/-- What a run enters from a node is that node alone, or also what the run
enters from its successor. -/
theorem entries_succ (limit : Nat) (node : Node) (state : State) :
    graph.entries (limit + 1) node state = [(node, state)] ∨
      ∃ reached, graph.exit node = false ∧ graph.exec node state = .ok reached ∧
        graph.entries (limit + 1) node state =
          (node, state) :: graph.entries limit (graph.next node reached) reached := by
  rw [entries]
  split
  · exact .inl rfl
  · rename_i inner
    split
    · exact .inl rfl
    · rename_i reached executed
      exact .inr ⟨reached, by simpa using inner, executed, rfl⟩

/-- A run enters each node under its assertion. -/
theorem Annotated.entries (annotated : graph.Annotated assertion) {limit : Nat} {node : Node}
    {state : State} (start : assertion node state) {entry : Node × State}
    (entered : entry ∈ graph.entries limit node state) : assertion entry.1 entry.2 := by
  induction limit generalizing node state with
  | zero => cases entered
  | succ limit ih =>
      rcases graph.entries_succ limit node state with alone | ⟨reached, inner, executed, more⟩
      · rw [alone, List.mem_singleton] at entered
        exact entered ▸ start
      · rw [more, List.mem_cons] at entered
        rcases entered with rfl | later
        · exact start
        · exact ih (annotated node state reached inner start executed) later

/-- What a run enters after an entry is what the run from that entry enters. -/
theorem entries_split {limit : Nat} {node : Node} {state : State} {earlier later : List _}
    {entry : Node × State} (visited : graph.entries limit node state = earlier ++ entry :: later) :
    ∃ rest, limit = earlier.length + rest ∧ graph.entries rest entry.1 entry.2 = entry :: later ∧
      ∀ exhausted : Error,
        graph.run exhausted limit node state = graph.run exhausted rest entry.1 entry.2 := by
  induction limit generalizing node state earlier with
  | zero => simp [ControlFlow.entries] at visited
  | succ limit ih =>
      cases earlier with
      | nil =>
          have same : (node, state) = entry := by
            rw [ControlFlow.entries] at visited
            exact (List.cons.inj visited).1
          subst same
          exact ⟨limit + 1, by simp, visited, fun _ => rfl⟩
      | cons first earlier =>
          rcases graph.entries_succ limit node state with alone | ⟨reached, inner, executed, more⟩
          · simp [alone] at visited
          · rw [more] at visited
            obtain ⟨rest, used, same, ended⟩ := ih (List.cons.inj visited).2
            refine ⟨rest, by simp only [used, List.length_cons]; omega, same, fun exhausted => ?_⟩
            rw [run, if_neg (by simpa using inner), executed]
            exact ended exhausted

/-- Within the limit, a node that succeeds is followed by its successor. -/
theorem entries_continue {limit : Nat} {node target : Node} {state source reached : State}
    {earlier later : List _}
    (visited : graph.entries limit node state = earlier ++ (target, source) :: later)
    (within : (graph.entries limit node state).length < limit)
    (inner : graph.exit target = false) (executed : graph.exec target source = .ok reached) :
    ∃ others, later = (graph.next target reached, reached) :: others := by
  obtain ⟨rest, used, same, -⟩ := entries_split visited
  rw [visited, List.length_append, List.length_cons] at within
  match rest with
  | 0 | 1 => omega
  | rest + 2 =>
      rw [entries, if_neg (by simpa using inner), executed] at same
      exact ⟨_, (List.cons.inj same).2.symm⟩

/-- Nothing is entered after an exit. -/
theorem entries_exit {limit : Nat} {node target : Node} {state source : State}
    {earlier later : List _}
    (visited : graph.entries limit node state = earlier ++ (target, source) :: later)
    (exit : graph.exit target = true) : later = [] := by
  obtain ⟨rest, -, same, -⟩ := entries_split visited
  cases rest with
  | zero => simp [ControlFlow.entries] at same
  | succ rest =>
      rw [ControlFlow.entries, if_pos exit] at same
      exact (List.cons.inj same).2.symm

/-- A run that ends has left a region without exits through one of its gates. -/
theorem exists_gate_entries {region : Node → Prop} (gate : Node → Prop)
    (inner : ∀ node, region node → graph.exit node = false)
    (leaves : ∀ node state reached, region node → graph.exec node state = .ok reached →
      region (graph.next node reached) ∨ gate (graph.next node reached))
    {exhausted : Error} {limit : Nat} {node : Node} {state reached : State}
    (inside : region node) (ended : graph.run exhausted limit node state = .ok reached) :
    ∃ entry ∈ graph.entries limit node state, gate entry.1 := by
  induction limit generalizing node state with
  | zero => cases ended
  | succ limit ih =>
      rw [run, inner node inside] at ended
      obtain ⟨middle, executed, rest⟩ := ok_of_bind ended
      have more : graph.entries (limit + 1) node state =
          (node, state) :: graph.entries limit (graph.next node middle) middle := by
        simp [ControlFlow.entries, inner node inside, executed]
      rw [more]
      rcases leaves node state middle inside executed with stays | gated
      · obtain ⟨entry, member, through⟩ := ih stays rest
        exact ⟨entry, List.mem_cons_of_mem _ member, through⟩
      · refine ⟨(graph.next node middle, middle), List.mem_cons_of_mem _ ?_, gated⟩
        cases limit with
        | zero => cases rest
        | succ limit => simp [ControlFlow.entries]

/-- **Amortization.** When each node pays its weight out of a potential, the
nodes that a run enters weigh no more than the potential it starts with. -/
theorem Annotated.weight_entries_le (annotated : graph.Annotated assertion) (weight : Node → Nat)
    (potential : Node → State → Nat)
    (covers : ∀ node state, assertion node state → weight node ≤ potential node state)
    (pays : ∀ node state reached, graph.exit node = false → assertion node state →
      graph.exec node state = .ok reached →
        weight node + potential (graph.next node reached) reached ≤ potential node state)
    {limit : Nat} {node : Node} {state : State} (start : assertion node state) :
    ((graph.entries limit node state).map fun entry => weight entry.1).sum ≤
      potential node state := by
  induction limit generalizing node state with
  | zero => simp [ControlFlow.entries]
  | succ limit ih =>
      rcases graph.entries_succ limit node state with alone | ⟨reached, inner, executed, more⟩
      · simpa [alone] using covers node state start
      · have paid := pays node state reached inner start executed
        have remaining := ih (annotated node state reached inner start executed)
        rw [more, List.map_cons, List.sum_cons]
        dsimp only
        omega

private theorem count_eq_sum [DecidableEq Node] (target : Node) (entries : List (Node × State)) :
    (entries.map Prod.fst).count target =
      (entries.map fun entry => if entry.1 = target then 1 else 0).sum := by
  induction entries with
  | nil => rfl
  | cons entry entries ih => simp [List.count_cons, ih, Nat.add_comm]

/-- The visits of a node are bounded by a potential that each of them lowers. -/
theorem Annotated.count_entries_le [DecidableEq Node] (annotated : graph.Annotated assertion)
    (target : Node) (potential : Node → State → Nat)
    (covers : ∀ state, assertion target state → 0 < potential target state)
    (pays : ∀ node state reached, graph.exit node = false → assertion node state →
      graph.exec node state = .ok reached →
        (if node = target then 1 else 0) + potential (graph.next node reached) reached ≤
          potential node state)
    {limit : Nat} {node : Node} {state : State} (start : assertion node state) :
    ((graph.entries limit node state).map Prod.fst).count target ≤ potential node state := by
  rw [count_eq_sum]
  refine annotated.weight_entries_le (fun node => if node = target then 1 else 0) potential
    (fun node state holds => ?_) pays start
  by_cases same : node = target
  · subst same
    have positive := covers state holds
    simp only [↓reduceIte]
    omega
  · simp [same]

/-- A set of nodes that no edge leaves. -/
def Closed (graph : ControlFlow Node State Error) (region : Node → Prop) : Prop :=
  ∀ node state reached, region node → graph.exec node state = .ok reached →
    region (graph.next node reached)

/-- From a closed set of nodes a run enters only its nodes. -/
theorem Closed.entries {region : Node → Prop} (closed : graph.Closed region) {limit : Nat}
    {node : Node} {state : State} (inside : region node) {entry : Node × State}
    (entered : entry ∈ graph.entries limit node state) : region entry.1 := by
  have annotated : graph.Annotated fun node _ => region node :=
    fun node state reached _ inside executed => closed node state reached inside executed
  exact annotated.entries inside entered

/-- A run does not enter two nodes neither of which leads to the other one. -/
theorem Closed.exclusive {left right : Node → Prop} (leftClosed : graph.Closed left)
    (rightClosed : graph.Closed right) {first second : Node × State} (inLeft : left first.1)
    (inRight : right second.1) (notRight : ¬ right first.1) (notLeft : ¬ left second.1)
    {limit : Nat} {node : Node} {state : State}
    (entered : first ∈ graph.entries limit node state) :
    second ∉ graph.entries limit node state := by
  intro reentered
  obtain ⟨earlier, later, visited⟩ := List.append_of_mem entered
  obtain ⟨rest, -, fromFirst, -⟩ := entries_split visited
  rw [visited, List.mem_append] at reentered
  rcases reentered with before | after
  · obtain ⟨others, between, rfl⟩ := List.append_of_mem before
    rw [List.append_assoc, List.cons_append] at visited
    obtain ⟨rest, -, fromSecond, -⟩ := entries_split visited
    have member : first ∈ graph.entries rest second.1 second.2 := by
      rw [fromSecond]
      simp
    exact notRight (rightClosed.entries inRight member)
  · rw [← fromFirst] at after
    exact notLeft (leftClosed.entries inLeft after)

end Entries

/-- Two fallible results agree when both raise the same error or both succeed
with related values. -/
def Agree (related : State → State → Prop) : Except Error State → Except Error State → Prop
  | .ok first, .ok second => related first second
  | .error first, .error second => first = second
  | _, _ => False

/-- Results agree that come from one computation by agreeing continuations. -/
theorem Agree.bind {α : Type u} {State : Type u} {related : State → State → Prop}
    {computed : Except Error α} {first second : α → Except Error State}
    (agree : ∀ value, Agree related (first value) (second value)) :
    Agree related (computed >>= first) (computed >>= second) := by
  cases computed with
  | error failure => rfl
  | ok value => exact agree value

/-- **Simulation rule.** When the nodes of two graphs over the same control flow
take related states to related states, so do their runs. -/
theorem run_agree (first second : ControlFlow Node State Error) {related : State → State → Prop}
    (exits : first.exit = second.exit)
    (nodes : ∀ node left right, related left right →
      Agree related (first.exec node left) (second.exec node right))
    (successors : ∀ node left right, related left right →
      first.next node left = second.next node right)
    {exhausted : Error} {limit : Nat} {node : Node} {left right : State}
    (start : related left right) :
    Agree related (first.run exhausted limit node left)
      (second.run exhausted limit node right) := by
  induction limit generalizing node left right with
  | zero => rfl
  | succ limit ih =>
      rw [ControlFlow.run, ControlFlow.run, ← exits]
      split
      · exact start
      · have executed := nodes node left right start
        cases leftResult : first.exec node left with
        | error failure =>
            cases rightResult : second.exec node right with
            | error other =>
                rw [leftResult, rightResult] at executed
                exact executed
            | ok reached =>
                rw [leftResult, rightResult] at executed
                exact executed.elim
        | ok reached =>
            cases rightResult : second.exec node right with
            | error other =>
                rw [leftResult, rightResult] at executed
                exact executed.elim
            | ok other =>
                rw [leftResult, rightResult] at executed
                have same := successors node reached other executed
                change Agree related (first.run exhausted limit (first.next node reached) reached)
                  (second.run exhausted limit (second.next node other) other)
                rw [← same]
                exact ih executed

end ControlFlow

end ActionPlan.Foundation
