import Mathlib.Data.List.Dedup
import Mathlib.Data.List.Sort
import ActionPlan.Foundation.ControlFlow
import ActionPlan.Foundation.DepthFirst
import ActionPlan.Models.Value

/-! # Tasks and the structural validation of a task list

`models/task.py` and `models/evidence.py`. The length bounds of pydantic are
fields of the structures, so a task without an id or a description cannot be
built.
-/

namespace ActionPlan.Models

open ActionPlan.Foundation ActionPlan.Foundation.DepthFirst

/-- `models/evidence.py`. -/
structure Evidence where
  content : String
  source : Option String := none
  page : Option Int := none
  documentType : Option String := none
  deriving DecidableEq, Repr

/-- The statuses of a `Task`. -/
inductive TaskStatus where
  | pending
  | ready
  | inProgress
  | completed
  | blocked
  | cancelled
  deriving DecidableEq, Repr

/-- The text of a status in requests, records and messages. -/
def TaskStatus.value : TaskStatus → String
  | pending => "pending"
  | ready => "ready"
  | inProgress => "in_progress"
  | completed => "completed"
  | blocked => "blocked"
  | cancelled => "cancelled"

/-- The efforts of a task. -/
inductive Effort where
  | small
  | medium
  | large
  | high
  deriving DecidableEq, Repr

/-- The readiness of a task, which the dependencies decide together with its status. -/
inductive Readiness where
  | waiting
  | ready
  | complete
  | blocked
  | cancelled
  deriving DecidableEq, Repr

/-- A task of a plan. -/
structure Task where
  id : String
  description : String
  dependencies : List String := []
  status : TaskStatus := .pending
  effort : Effort := .small
  role : Option String := none
  owner : Option String := none
  mandatory : Bool := true
  requiredInformation : List String := []
  requiredApprovals : List String := []
  requirementIds : List String := []
  procedureSources : List String := []
  evidence : List Evidence := []
  acceptanceCriteria : List String := []
  readiness : Readiness := .waiting
  id_nonempty : id ≠ "" := by decide
  description_nonempty : description ≠ "" := by decide
  deriving DecidableEq, Repr

/-- `sorted(set(texts))`. -/
def sortedSet (texts : List String) : List String := texts.dedup.insertionSort (· ≤ ·)

theorem mem_sortedSet {texts : List String} {text : String} :
    text ∈ sortedSet texts ↔ text ∈ texts := by
  rw [sortedSet, List.mem_insertionSort, List.mem_dedup]

theorem nodup_sortedSet (texts : List String) : (sortedSet texts).Nodup :=
  (List.perm_insertionSort (· ≤ ·) texts.dedup).nodup_iff.mpr texts.nodup_dedup

/-- A sorted set depends on the elements only. -/
theorem sortedSet_congr {first second : List String}
    (same : ∀ text, text ∈ first ↔ text ∈ second) : sortedSet first = sortedSet second := by
  have permuted : first.dedup.Perm second.dedup :=
    (List.perm_ext_iff_of_nodup first.nodup_dedup second.nodup_dedup).mpr fun text => by
      rw [List.mem_dedup, List.mem_dedup, same]
  have sorted := (List.perm_insertionSort (· ≤ ·) first.dedup).trans
    (permuted.trans (List.perm_insertionSort (· ≤ ·) second.dedup).symm)
  exact sorted.eq_of_pairwise' (List.pairwise_insertionSort _ _) (List.pairwise_insertionSort _ _)

/-- A list is as long as its set exactly when it repeats nothing. -/
theorem length_dedup_eq_iff {texts : List String} :
    texts.length = texts.dedup.length ↔ texts.Nodup := by
  constructor
  · intro same
    rw [← (List.dedup_sublist texts).eq_of_length same.symm]
    exact List.nodup_dedup texts
  · intro distinct
    rw [distinct.dedup]

/-- `not char.isprintable()` in Latin-1. All other characters count as printable here, though
Unicode has some that are not. -/
def isUnprintable (char : Char) : Bool :=
  let code := char.toNat
  code < 0x20 || (0x7F ≤ code && code ≤ 0xA0) || code = 0xAD

/-- A character in the `repr` of a string that is delimited by the quote. -/
private def reprChar (quote char : Char) : String :=
  if char = quote ∨ char = '\\' then String.ofList ['\\', char]
  else if char = '\n' then "\\n"
  else if char = '\r' then "\\r"
  else if char = '\t' then "\\t"
  else if isUnprintable char then
    String.ofList ['\\', 'x', Nat.digitChar (char.toNat / 16), Nat.digitChar (char.toNat % 16)]
  else String.singleton char

/-- `repr` of a string. -/
def reprString (text : String) : String :=
  let quote := if '\'' ∈ text.toList ∧ '"' ∉ text.toList then '"' else '\''
  String.singleton quote ++ String.join (text.toList.map (reprChar quote)) ++ String.singleton quote

/-- `str` of a list of strings. -/
def reprStrings (texts : List String) : String :=
  "[" ++ ", ".intercalate (texts.map reprString) ++ "]"

namespace TaskPlan

/-- The nodes of the dependency graph with their dependencies; a dictionary in
the source, whose keys are distinct once the first check has passed. -/
abbrev Graph := List (String × List String)

/-- `graph[task_id]`. -/
def Graph.dependencies (graph : Graph) (taskId : String) : List String :=
  (graph.lookup taskId).getD []

/-- The nested function `visit` of `validate_tasks`. `visiting` is the path from
the root of the search; the result is the set of visited nodes. -/
def visit (graph : Graph) : Nat → List String → List String → String → Except Exn (List String)
  | 0, _, _, _ => .error .recursionError
  | fuel + 1, visiting, visited, taskId =>
    if taskId ∈ visiting then .error (.valueError "task dependencies contain a cycle")
    else if taskId ∈ visited then .ok visited
    else do
      let visited ← (graph.dependencies taskId).foldlM
        (fun visited dependency => visit graph fuel (taskId :: visiting) visited dependency) visited
      return taskId :: visited

/-- The checks of `validate_tasks`, which read only ids and dependencies. A
search path repeats no node, so one more level than there are nodes is enough. The
interpreter's own limit on nested calls is not modelled: it is taken to be larger. -/
def validateGraph (graph : Graph) : Except Exn Unit :=
  let ids := graph.map Prod.fst
  if ids.length ≠ ids.dedup.length then .error (.valueError "task IDs must be unique")
  else
    match graph.find? fun node => node.2.any (· ∉ ids) with
    | some node =>
      .error (.valueError ("task " ++ node.1 ++ " has unknown dependencies: " ++
        reprStrings (sortedSet (node.2.filter (· ∉ ids)))))
    | none =>
      (ids.foldlM (fun visited taskId => visit graph (graph.length + 1) [] visited taskId) []).map
        fun _ => ()

/-- `TaskPlan.validate_tasks`. -/
def validateTasks (tasks : List Task) : Except Exn Unit :=
  validateGraph (tasks.map fun task => (task.id, task.dependencies))

/-- Two task lists with the same ids and dependencies are both valid or both not. -/
theorem validateTasks_congr {first second : List Task}
    (same : first.map (fun task => (task.id, task.dependencies)) =
      second.map fun task => (task.id, task.dependencies)) :
    validateTasks first = validateTasks second := by
  rw [validateTasks, validateTasks, same]

/-- The failures of `validate_tasks`: none is a `WorkspaceError`. -/
def Invalidates (failure : Exn) : Prop :=
  failure = .recursionError ∨ ∃ message, failure = .valueError message

theorem visit_error {graph : Graph} {fuel : Nat} {visiting visited : List String}
    {taskId : String} {failure : Exn}
    (failed : visit graph fuel visiting visited taskId = .error failure) :
    Invalidates failure := by
  induction fuel generalizing visiting visited taskId failure with
  | zero =>
      cases failed
      exact .inl rfl
  | succ fuel ih =>
      rw [visit] at failed
      split at failed
      · cases failed
        exact .inr ⟨_, rfl⟩
      · split at failed
        · cases failed
        · cases searched : (graph.dependencies taskId).foldlM
            (fun visited dependency => visit graph fuel (taskId :: visiting) visited dependency)
            visited with
          | error raised =>
              rw [searched] at failed
              cases failed
              exact foldlM_error Invalidates (fun _ _ _ _ raised => ih raised) searched
          | ok visited =>
              rw [searched] at failed
              cases failed

theorem validateTasks_error {tasks : List Task} {failure : Exn}
    (failed : validateTasks tasks = .error failure) : Invalidates failure := by
  unfold validateTasks validateGraph at failed
  dsimp only at failed
  split at failed
  · cases failed
    exact .inr ⟨_, rfl⟩
  · split at failed
    · cases failed
      exact .inr ⟨_, rfl⟩
    · exact foldlM_error Invalidates (fun _ _ _ _ raised => visit_error raised)
        (error_of_map failed)

/-- The ids of the graph and of their dependencies. -/
def Graph.DependsOn (graph : Graph) (taskId dependency : String) : Prop :=
  ∃ node ∈ graph, node.1 = taskId ∧ dependency ∈ node.2

/-- With distinct ids the dictionary holds each node with its own dependencies. -/
theorem Graph.edge_iff {graph : Graph} (distinct : (graph.map Prod.fst).Nodup)
    {taskId dependency : String} :
    Edge graph.dependencies taskId dependency ↔ graph.DependsOn taskId dependency := by
  unfold Edge Graph.dependencies Graph.DependsOn
  induction graph with
  | nil => simp
  | cons node graph ih =>
      obtain ⟨name, dependencies⟩ := node
      rw [List.map_cons, List.nodup_cons] at distinct
      by_cases named : taskId = name
      · subst named
        have other : ∀ node ∈ graph, node.1 ≠ taskId := fun node member same =>
          distinct.1 (List.mem_map.mpr ⟨node, member, same⟩)
        simp only [List.lookup_cons_self, Option.getD_some, List.mem_cons, exists_eq_or_imp,
          true_and]
        constructor
        · exact .inl
        · rintro (listed | ⟨node, member, same, -⟩)
          · exact listed
          · exact absurd same (other node member)
      · have unnamed : (taskId == name) = false := beq_false_of_ne named
        rw [List.lookup_cons, unnamed]
        simp only [List.mem_cons, exists_eq_or_imp, Ne.symm named, false_and, false_or]
        exact ih distinct.2

/-- Only the nodes of the graph have dependencies. -/
theorem Graph.supported (graph : Graph) :
    Supported graph.dependencies (graph.map Prod.fst) := by
  intro taskId dependency listed
  unfold Graph.dependencies at listed
  cases found : graph.lookup taskId with
  | none => simp [found] at listed
  | some dependencies =>
      obtain ⟨before, after, split, -⟩ := List.lookup_eq_some_iff.mp found
      rw [split]
      simp

/-- The search that raises is the search that stops at the first cycle. -/
theorem toOption_visit (graph : Graph) (fuel : Nat) (visiting visited : List String)
    (taskId : String) : (visit graph fuel visiting visited taskId).toOption =
      descend graph.dependencies fuel visiting visited taskId := by
  induction fuel generalizing visiting visited taskId with
  | zero => rfl
  | succ fuel ih =>
      rw [visit, descend]
      split
      · rfl
      · split
        · rfl
        · rw [← toOption_foldlM fun visited dependency =>
            ih (taskId :: visiting) visited dependency]
          cases (graph.dependencies taskId).foldlM
            (fun visited dependency => visit graph fuel (taskId :: visiting) visited dependency)
            visited <;> rfl

/-- **What `validate_tasks` accepts**: distinct ids, known dependencies and no
dependency cycle. -/
theorem validateGraph_ok_iff {graph : Graph} : validateGraph graph = .ok () ↔
    (graph.map Prod.fst).Nodup ∧
      (∀ node ∈ graph, ∀ dependency ∈ node.2, dependency ∈ graph.map Prod.fst) ∧
      Acyclic graph.DependsOn := by
  unfold validateGraph
  dsimp only
  by_cases distinct : (graph.map Prod.fst).Nodup
  · rw [if_neg (not_not_intro (length_dedup_eq_iff.mpr distinct))]
    split
    · rename_i node found
      have unknown := List.find?_some found
      obtain ⟨dependency, listed, absent⟩ := List.any_eq_true.mp unknown
      constructor
      · intro valid
        cases valid
      · rintro ⟨-, known, -⟩
        exact absurd (known node (List.mem_of_find?_eq_some found) dependency listed)
          (of_decide_eq_true absent)
    · rename_i found
      have known : ∀ node ∈ graph, ∀ dependency ∈ node.2, dependency ∈ graph.map Prod.fst := by
        intro node member dependency listed
        by_contra absent
        exact List.find?_eq_none.mp found node member
          (List.any_eq_true.mpr ⟨dependency, listed, decide_eq_true absent⟩)
      have decides := descend_roots graph.supported (List.Subset.refl _)
        (show (graph.map Prod.fst).length < graph.length + 1 by simp)
      rw [acyclic_congr fun _ _ => Graph.edge_iff distinct,
        ← toOption_foldlM fun visited taskId =>
          toOption_visit graph (graph.length + 1) [] visited taskId] at decides
      constructor
      · intro valid
        obtain ⟨visited, searched, -⟩ := ok_of_map valid
        exact ⟨distinct, known, decides.mp ⟨visited, by rw [searched]; rfl⟩⟩
      · rintro ⟨-, -, acyclic⟩
        obtain ⟨visited, searched⟩ := decides.mpr acyclic
        cases completed : (graph.map Prod.fst).foldlM
            (fun visited taskId => visit graph (graph.length + 1) [] visited taskId) [] with
        | error failure =>
            rw [completed] at searched
            cases searched
        | ok visited => rfl
  · rw [if_pos fun same => distinct (length_dedup_eq_iff.mp same)]
    constructor
    · intro valid
      cases valid
    · rintro ⟨unique, -⟩
      exact absurd unique distinct

/-- The dependency graph has the ids of the tasks. -/
theorem map_fst_graph (tasks : List Task) :
    (tasks.map fun task => (task.id, task.dependencies)).map Prod.fst = tasks.map Task.id := by
  rw [List.map_map]
  rfl

/-- The ids of a valid task list are distinct. -/
theorem nodup_of_validateTasks {tasks : List Task} (valid : validateTasks tasks = .ok ()) :
    (tasks.map Task.id).Nodup := by
  rw [← map_fst_graph]
  exact (validateGraph_ok_iff.mp valid).1

/-- Tasks that can be worked off: the ids are distinct, what a task depends on is there, and no
task waits for itself. -/
structure Sequential (tasks : List Task) : Prop where
  distinct : (tasks.map Task.id).Nodup
  known : ∀ task ∈ tasks, ∀ dependency ∈ task.dependencies, dependency ∈ tasks.map Task.id
  acyclic : Acyclic fun taskId dependency =>
    ∃ task ∈ tasks, task.id = taskId ∧ dependency ∈ task.dependencies

/-- What `validate_tasks` accepts, of the tasks themselves. -/
theorem validateTasks_ok_iff {tasks : List Task} :
    validateTasks tasks = .ok () ↔ Sequential tasks := by
  have depends (taskId dependency : String) :
      Graph.DependsOn (tasks.map fun task => (task.id, task.dependencies)) taskId dependency ↔
        ∃ task ∈ tasks, task.id = taskId ∧ dependency ∈ task.dependencies := by
    simp only [Graph.DependsOn, List.mem_map, exists_exists_and_eq_and]
  rw [validateTasks, validateGraph_ok_iff, map_fst_graph, acyclic_congr depends,
    List.forall_mem_map]
  exact ⟨fun ⟨distinct, known, acyclic⟩ => ⟨distinct, known, acyclic⟩,
    fun sequential => ⟨sequential.distinct, sequential.known, sequential.acyclic⟩⟩

/-- Distinct tasks without dependencies are valid. -/
theorem validateTasks_of_independent {tasks : List Task} (distinct : (tasks.map Task.id).Nodup)
    (independent : ∀ task ∈ tasks, task.dependencies = []) : validateTasks tasks = .ok () := by
  have nodes : ∀ node ∈ tasks.map fun task => (task.id, task.dependencies), node.2 = [] := by
    intro node member
    obtain ⟨task, present, rfl⟩ := List.mem_map.mp member
    exact independent task present
  apply validateGraph_ok_iff.mpr
  refine ⟨by rwa [map_fst_graph], ?_, ?_⟩
  · intro node member dependency listed
    rw [nodes node member] at listed
    cases listed
  · intro taskId walk
    obtain ⟨_, ⟨node, member, -, listed⟩, -⟩ := Relation.TransGen.head'_iff.mp walk
    rw [nodes node member] at listed
    cases listed

end TaskPlan

end ActionPlan.Models
