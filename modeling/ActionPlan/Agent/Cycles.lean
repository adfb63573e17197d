import ActionPlan.Agent.Validation
import ActionPlan.Foundation.ControlFlow
import Mathlib.Data.Finset.Basic
import Mathlib.Data.Finset.Dedup

/-! # The search for dependency cycles

`_cycle_ids` with its two sets and its stack as the source keeps them, and with the number of
nested calls that the interpreter allows. That `stack.index` finds a node of the set `visiting`
is an invariant of the search, and so is that the stack is a walk along the dependencies.
-/

namespace ActionPlan.Agent

open ActionPlan.Foundation ActionPlan.Foundation.DepthFirst ActionPlan.Models

namespace CycleSearch

/-- The variables of `_cycle_ids` that the calls of `visit` share. -/
structure Progress where
  visiting : Finset String := ∅
  visited : Finset String := ∅
  found : List String := []
  deriving DecidableEq

/-- `visit`, with the number of nested calls that are still allowed. -/
def visitWithin (tasks : List CandidateTask) :
    Nat → List String → Progress → String → Except Exn Progress
  | 0, _, _, _ => .error .recursionError
  | limit + 1, stack, progress, node =>
    if node ∈ progress.visiting then
      if node ∈ stack then
        .ok { progress with
          found := progress.found ++
            [" -> ".intercalate (stack.drop (stack.idxOf node) ++ [node])] }
      else .error (.valueError (reprString node ++ " is not in list"))
    else if node ∈ progress.visited then .ok progress
    else do
      let progress ← (dependenciesById tasks node).foldlM
        (fun progress dependency => visitWithin tasks limit (stack ++ [node]) progress dependency)
        { progress with visiting := insert node progress.visiting }
      return { progress with
        visiting := progress.visiting.erase node
        visited := insert node progress.visited }

/-- The variables during a search: the nodes of the stack are being visited. -/
def progressOf (stack : List String) (search : List String × List (List String)) : Progress where
  visiting := stack.toFinset
  visited := search.1.toFinset
  found := (written search).2

@[simp] theorem mem_visiting {stack : List String} {search : List String × List (List String)}
    {node : String} : node ∈ (progressOf stack search).visiting ↔ node ∈ stack :=
  List.mem_toFinset

@[simp] theorem mem_visited {stack : List String} {search : List String × List (List String)}
    {node : String} : node ∈ (progressOf stack search).visited ↔ node ∈ search.1 :=
  List.mem_toFinset

/-- `visiting.add(node)`, as the node goes onto the stack. -/
theorem visiting_add (stack : List String) (node : String) :
    insert node stack.toFinset = (stack ++ [node]).toFinset := by
  ext other
  rw [Finset.mem_insert, List.mem_toFinset, List.mem_toFinset, List.mem_append,
    List.mem_singleton, or_comm]

/-- `visiting.remove(node)` and `visited.add(node)`. -/
theorem progressOf_finish {stack : List String} {node : String} (offStack : node ∉ stack)
    (search : List String × List (List String)) :
    { progressOf (stack ++ [node]) search with
      visiting := (progressOf (stack ++ [node]) search).visiting.erase node
      visited := insert node (progressOf (stack ++ [node]) search).visited } =
      progressOf stack (node :: search.1, search.2) := by
  have removed : (stack ++ [node]).toFinset.erase node = stack.toFinset := by
    rw [← visiting_add, Finset.erase_insert (mt List.mem_toFinset.mp offStack)]
  simp only [progressOf, written, removed, List.toFinset_cons]

variable {tasks : List CandidateTask}

/-- **The set `visiting` holds the stack.** A call that finds it so leaves it so, and it records
the cycles that `explore` does. -/
theorem visitWithin_eq {limit : Nat} {stack : List String}
    (adequate : Adequate (tasks.map CandidateTask.taskId) stack.reverse limit)
    (search : List String × List (List String)) (node : String) :
    visitWithin tasks limit stack (progressOf stack search) node =
      .ok (progressOf stack (explore (dependenciesById tasks) limit stack search node)) := by
  induction limit generalizing stack search node with
  | zero => exact absurd rfl adequate.pos
  | succ limit ih =>
      obtain ⟨visited, found⟩ := search
      rw [visitWithin, explore]
      by_cases onStack : node ∈ stack
      · rw [if_pos (mem_visiting.mpr onStack), if_pos onStack, if_pos onStack]
        simp only [progressOf, written, List.map_append, List.map_cons, List.map_nil]
      · rw [if_neg (mt mem_visiting.mp onStack), if_neg onStack]
        by_cases done : node ∈ visited
        · rw [if_pos (mem_visited.mpr done), if_pos done]
        · have nested : ∀ dependency ∈ dependenciesById tasks node, ∀ search,
              visitWithin tasks limit (stack ++ [node]) (progressOf (stack ++ [node]) search)
                  dependency =
                .ok (progressOf (stack ++ [node])
                  (explore (dependenciesById tasks) limit (stack ++ [node]) search
                    dependency)) := by
            intro dependency listed search
            apply ih
            rw [List.reverse_concat]
            exact adequate.cons (mt List.mem_reverse.mp onStack)
              (supported_dependenciesById tasks node dependency listed)
          have below := foldlM_of_foldl (progressOf (stack ++ [node])) nested (visited, found)
          rw [if_neg (mt mem_visited.mp done), if_neg done]
          simp only [progressOf, visiting_add] at below ⊢
          rw [below]
          exact congrArg Except.ok (progressOf_finish onStack _)

end CycleSearch

/-- `_cycle_ids`, with a bound on the nested calls. -/
def cycleIdsWithin (limit : Nat) (tasks : List CandidateTask) : Except Exn (List String) :=
  ((firstSeen (tasks.map CandidateTask.taskId)).foldlM
    (fun progress node => CycleSearch.visitWithin tasks limit [] progress node)
    ({} : CycleSearch.Progress)).map CycleSearch.Progress.found

section Search

variable {tasks : List CandidateTask} {limit : Nat}

/-- The searches from all ids, for any bound that suffices. -/
theorem cycleIds_eq_explore (enough : tasks.length < limit) :
    cycleIds tasks = ((firstSeen (tasks.map CandidateTask.taskId)).foldl
      (fun search node => explore (dependenciesById tasks) limit [] search node)
      ([], [])).2.map (" -> ".intercalate ·) := by
  have adequate : Adequate (tasks.map CandidateTask.taskId) [].reverse (tasks.length + 1) :=
    adequate_nil (by rw [List.length_map]; exact Nat.lt_succ_self _)
  have searched : (firstSeen (tasks.map CandidateTask.taskId)).foldl
        (fun search node => explore (dependenciesById tasks) limit [] search node) ([], []) =
      (firstSeen (tasks.map CandidateTask.taskId)).foldl
        (fun search node => explore (dependenciesById tasks) (tasks.length + 2) [] search node)
        ([], []) := by
    apply List.foldl_ext
    intro search node _
    rw [explore_of_le (supported_dependenciesById tasks) adequate enough,
      explore_of_le (supported_dependenciesById tasks) adequate (Nat.le_succ _)]
  rw [cycleIds_written, searched]

/-- With a level more than there are tasks the search ends, and `cycleIds` is its result. -/
theorem cycleIdsWithin_eq (enough : tasks.length < limit) :
    cycleIdsWithin limit tasks = .ok (cycleIds tasks) := by
  have adequate : Adequate (tasks.map CandidateTask.taskId) [].reverse limit :=
    adequate_nil (by rwa [List.length_map])
  have searched := foldlM_of_foldl (CycleSearch.progressOf [])
    (fun node (_ : node ∈ firstSeen (tasks.map CandidateTask.taskId)) search =>
      CycleSearch.visitWithin_eq adequate search node) ([], [])
  rw [cycleIdsWithin, cycleIds_eq_explore enough]
  exact congrArg (Except.map CycleSearch.Progress.found) searched

/-- Each text is a closed walk along the dependencies, written out. -/
theorem closedWalk_of_mem_cycleIds {text : String} (reported : text ∈ cycleIds tasks) :
    ∃ cycle, text = " -> ".intercalate cycle ∧ ClosedWalk (dependenciesById tasks) cycle := by
  rw [cycleIds_eq_explore (Nat.lt_succ_self _)] at reported
  obtain ⟨cycle, recorded, rfl⟩ := List.mem_map.mp reported
  refine ⟨cycle, rfl, ?_⟩
  refine List.foldlRecOn (motive := fun search : List String × List (List String) =>
    ∀ walk ∈ search.2, ClosedWalk (dependenciesById tasks) walk) _ _ ?_ ?_ cycle recorded
  · intro walk absent
    cases absent
  · intro search sound node _
    exact explore_closedWalk (List.isChain_singleton node) sound

end Search

/-- **`_cycle_ids` ends, and it decides whether there is a cycle.** It nests at most one level
more than there are tasks. It reports nothing exactly when no id leads back to itself along the
dependencies of the last task with each id, and whatever it reports is a closed walk along them. -/
theorem cycle_ids_reports_cycles (tasks : List CandidateTask) :
    (∀ limit, tasks.length < limit → cycleIdsWithin limit tasks = .ok (cycleIds tasks)) ∧
    (cycleIds tasks = [] ↔ Acyclic (Edge (dependenciesById tasks))) ∧
    ∀ text ∈ cycleIds tasks, ∃ cycle, text = " -> ".intercalate cycle ∧
      ClosedWalk (dependenciesById tasks) cycle :=
  ⟨fun _ enough => cycleIdsWithin_eq enough, cycleIds_eq_nil_iff,
    fun _ reported => closedWalk_of_mem_cycleIds reported⟩

section Samples

/-- A plan with an id that two tasks have, an unknown dependency and two cycles. -/
def tangledTasks : List CandidateTask :=
  [{ taskId := "a", description := "first", dependencies := ["c"] },
    { taskId := "b", description := "second", dependencies := ["a", "nowhere"] },
    { taskId := "c", description := "third", dependencies := ["c"] },
    { taskId := "a", description := "again", dependencies := ["b"] }]

theorem tangled_cycles_found : cycleIdsWithin 5 tangledTasks = .ok (cycleIds tangledTasks) :=
  (cycle_ids_reports_cycles tangledTasks).1 5 (by decide)

example : cycleIds tangledTasks = ["a -> b -> a", "c -> c"] := by decide +kernel

end Samples

end ActionPlan.Agent
