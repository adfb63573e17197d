import ActionPlan.Agent.Optimization
import ActionPlan.Agent.WellFormed
import ActionPlan.Foundation.HeaviestChain

/-! # The critical path of a consistent plan

`_critical_path` is a search with a memo. In a consistent plan each answer of the memo is
what the plain recursion for heaviest chains yields, so the path is a heaviest chain of
dependencies.
-/

namespace ActionPlan.Agent

open ActionPlan.Foundation ActionPlan.Foundation.DepthFirst
  ActionPlan.Foundation.HeaviestChain ActionPlan.Models

/-- Tasks of the plan, each of them a dependency of the next one. -/
structure DependencyChain (tasks chain : List CandidateTask) : Prop where
  planned : ∀ task ∈ chain, task ∈ tasks
  linked : chain.IsChain fun earlier later => earlier.taskId ∈ later.dependencies

/-- The summed effort units of the tasks. -/
def chainEffort (chain : List CandidateTask) : Nat :=
  (chain.map fun task => effortUnits task.effort).sum

/-- The effort units of the task with the id. -/
def effortById (tasks : List CandidateTask) (taskId : String) : Nat :=
  ((taskById tasks taskId).map fun task => effortUnits task.effort).getD 0

/-- What the search answers for an id. -/
abbrev heaviestChain (tasks : List CandidateTask) : String → Nat × List String :=
  heaviest (dependenciesById tasks) (effortById tasks) (tasks.length + 1)

section Search

variable {tasks : List CandidateTask}

/-- The search takes the first of the longest chains. -/
theorem longest_eq_pick (chains : List CriticalPath.Chain) :
    CriticalPath.longest chains = pick chains := by
  cases chains with
  | nil => rfl
  | cons chain chains =>
      have folded : ∀ best : CriticalPath.Chain,
          chains.foldl (List.argAux fun first second => second.1 < first.1) (some best) =
            some (chains.foldl (fun best other => if best.1 < other.1 then other else best)
              best) := by
        induction chains with
        | nil => exact fun _ => rfl
        | cons other chains ih =>
            intro best
            rw [List.foldl_cons, List.foldl_cons, ← ih, List.argAux]
            dsimp only
            split <;> rfl
      rw [pick, List.argmax, List.foldl_cons]
      exact congrArg (fun best => Option.getD best (0, [])) (folded chain).symm

theorem sufficient_of_consistent (consistent : Consistent tasks) :
    Sufficient (dependenciesById tasks) (tasks.map CandidateTask.taskId) (tasks.length + 1) where
  supported := supported_dependenciesById tasks
  acyclic := (acyclic_congr (edge_dependenciesById consistent.unique)).mpr consistent.acyclic
  enough := by simp

/-- Every answer in the memo is that of the recursion. -/
def Sound (tasks : List CandidateTask) (best : List (String × CriticalPath.Chain)) : Prop :=
  ∀ entry ∈ best, entry.2 = heaviestChain tasks entry.1

theorem Sound.lookup {best : List (String × CriticalPath.Chain)} (sound : Sound tasks best)
    {taskId : String} {chain : CriticalPath.Chain} (found : best.lookup taskId = some chain) :
    chain = heaviestChain tasks taskId := by
  obtain ⟨before, after, split, -⟩ := List.lookup_eq_some_iff.mp found
  exact sound (taskId, chain) (by simp [split])

/-- A search for each of several ids in turn. -/
theorem foldlM_solve {step : List (String × CriticalPath.Chain) → String →
      Except Exn (List (String × CriticalPath.Chain) × CriticalPath.Chain)}
    {taskIds : List String}
    (solves : ∀ taskId ∈ taskIds, ∀ best, Sound tasks best → ∃ next,
      step best taskId = .ok (next, heaviestChain tasks taskId) ∧ Sound tasks next)
    {best : List (String × CriticalPath.Chain)} (sound : Sound tasks best)
    (chains : List CriticalPath.Chain) :
    ∃ next, taskIds.foldlM
        (fun (best, chains) taskId => do
          let (best, chain) ← step best taskId
          return (best, chains ++ [chain])) (best, chains) =
        (.ok (next, chains ++ taskIds.map (heaviestChain tasks)) : Except Exn _) ∧
      Sound tasks next := by
  induction taskIds generalizing best chains with
  | nil => exact ⟨best, by simp [pure, Except.pure], sound⟩
  | cons taskId taskIds ih =>
      obtain ⟨middle, stepped, middleSound⟩ := solves taskId List.mem_cons_self best sound
      obtain ⟨next, folded, nextSound⟩ :=
        ih (fun other member => solves other (List.mem_cons_of_mem _ member)) middleSound
          (chains ++ [heaviestChain tasks taskId])
      refine ⟨next, ?_, nextSound⟩
      rw [List.foldlM_cons, List.map_cons, ← List.singleton_append, ← List.append_assoc, ← folded]
      simp only [stepped, bind, Except.bind, pure, Except.pure]

theorem Sound.cons {best : List (String × CriticalPath.Chain)} (sound : Sound tasks best)
    (taskId : String) : Sound tasks ((taskId, heaviestChain tasks taskId) :: best) := by
  intro entry member
  rcases List.mem_cons.mp member with rfl | older
  · rfl
  · exact sound entry older

theorem dependenciesById_of_found {taskId : String} {task : CandidateTask}
    (found : taskById tasks taskId = some task) :
    dependenciesById tasks taskId = task.dependencies := by
  rw [dependenciesById, found]
  rfl

/-- The search leaves no dependency of a consistent plan out. -/
theorem known_dependencies (consistent : Consistent tasks) {task : CandidateTask}
    (member : task ∈ tasks) :
    (task.dependencies.filter fun dependency => (taskById tasks dependency).isSome) =
      task.dependencies := by
  apply List.filter_eq_self.mpr
  intro dependency listed
  obtain ⟨other, present, rfl⟩ := consistent.known task member dependency listed
  rw [taskById_of_mem consistent.unique present]
  rfl

/-- The recursion in terms of the search. -/
theorem heaviestChain_eq (consistent : Consistent tasks) {taskId : String} {task : CandidateTask}
    (found : taskById tasks taskId = some task) :
    heaviestChain tasks taskId =
      ((CriticalPath.longest (task.dependencies.map (heaviestChain tasks))).1 +
        effortUnits task.effort,
        (CriticalPath.longest (task.dependencies.map (heaviestChain tasks))).2 ++ [taskId]) := by
  rw [longest_eq_pick, heaviestChain, (sufficient_of_consistent consistent).heaviest_eq,
    dependenciesById_of_found found, effortById, found]
  rfl

/-- **The search answers as the recursion does**, and keeps its memo sound. -/
theorem solve_sound (consistent : Consistent tasks) {path : List String} {fuel : Nat}
    (adequate : Adequate (tasks.map CandidateTask.taskId) path fuel) {taskId : String}
    (known : taskId ∈ tasks.map CandidateTask.taskId)
    (leads : ∀ earlier ∈ path, Relation.TransGen (Edge (dependenciesById tasks)) earlier taskId)
    {best : List (String × CriticalPath.Chain)} (sound : Sound tasks best) :
    ∃ next, CriticalPath.solve tasks fuel best taskId =
      .ok (next, heaviestChain tasks taskId) ∧ Sound tasks next := by
  induction fuel generalizing path taskId best with
  | zero => exact absurd rfl adequate.pos
  | succ fuel ih =>
      obtain ⟨task, present⟩ := exists_taskById known
      obtain ⟨member, named⟩ := mem_of_taskById present
      have offPath : taskId ∉ path := fun onPath =>
        (sufficient_of_consistent consistent).acyclic taskId (leads taskId onPath)
      cases found : best.lookup taskId with
      | some chain =>
          refine ⟨best, ?_, sound⟩
          simp only [CriticalPath.solve, found, sound.lookup found]
      | none =>
          have solves : ∀ dependency ∈ task.dependencies, ∀ best, Sound tasks best →
              ∃ next, CriticalPath.solve tasks fuel best dependency =
                .ok (next, heaviestChain tasks dependency) ∧ Sound tasks next := by
            intro dependency listed best sound
            have edge : dependency ∈ dependenciesById tasks taskId :=
              (dependenciesById_of_found present).symm ▸ listed
            obtain ⟨other, otherMember, otherNamed⟩ :=
              consistent.known task member dependency listed
            exact ih (adequate.cons offPath known)
              (otherNamed ▸ List.mem_map_of_mem otherMember) (leads_cons leads edge) sound
          obtain ⟨next, folded, nextSound⟩ := foldlM_solve solves sound []
          refine ⟨_, ?_, nextSound.cons taskId⟩
          rw [CriticalPath.solve, found, present]
          dsimp only
          rw [known_dependencies consistent member, folded, List.nil_append,
            heaviestChain_eq consistent present]
          rfl

/-- What `_critical_path` returns for a consistent plan. -/
theorem criticalPath_eq (consistent : Consistent tasks) : criticalPath tasks =
    .ok ((pick ((tasks.map CandidateTask.taskId).map (heaviestChain tasks))).2,
      total (effortById tasks)
        (pick ((tasks.map CandidateTask.taskId).map (heaviestChain tasks))).2) := by
  have solves : ∀ taskId ∈ tasks.map CandidateTask.taskId, ∀ best, Sound tasks best →
      ∃ next, CriticalPath.solve tasks (tasks.length + 1) best taskId =
        .ok (next, heaviestChain tasks taskId) ∧ Sound tasks next := by
    intro taskId known best sound
    exact solve_sound consistent (adequate_nil (by simp)) known (fun _ absent => by cases absent)
      sound
  have empty : Sound tasks [] := by
    intro entry absent
    cases absent
  obtain ⟨_, folded, -⟩ := foldlM_solve solves empty []
  rw [criticalPath, folded, List.nil_append, ← longest_eq_pick]
  rfl

end Search

section Chains

variable {tasks : List CandidateTask}

theorem dependenciesById_of_mem (unique : (tasks.map CandidateTask.taskId).Nodup)
    {task : CandidateTask} (member : task ∈ tasks) :
    dependenciesById tasks task.taskId = task.dependencies :=
  dependenciesById_of_found (taskById_of_mem unique member)

/-- A chain of ids that ends at the id of a task is one of tasks. -/
theorem exists_dependencyChain (consistent : Consistent tasks) {task : CandidateTask}
    (member : task ∈ tasks) {taskIds : List String}
    (ends : EndsAt (dependenciesById tasks) task.taskId taskIds) :
    ∃ chain, DependencyChain tasks chain ∧ chain.map CandidateTask.taskId = taskIds := by
  induction taskIds using List.reverseRecOn generalizing task with
  | nil => cases ends.last
  | append_singleton taskIds last ih =>
      rcases ends.cases_concat with alone | ⟨next, earlier, edge, before, same⟩
      · rw [alone]
        refine ⟨[task], ⟨?_, List.isChain_singleton task⟩, rfl⟩
        simpa using member
      · obtain ⟨rfl, final⟩ := List.append_inj' same rfl
        obtain rfl := (List.cons.inj final).1
        have listed : next ∈ task.dependencies :=
          dependenciesById_of_mem consistent.unique member ▸ edge
        obtain ⟨other, otherMember, rfl⟩ := consistent.known task member next listed
        obtain ⟨chain, chained, named⟩ := ih otherMember before
        refine ⟨chain ++ [task], ⟨?_, ?_⟩, by rw [List.map_append, named]; rfl⟩
        · intro link present
          rcases List.mem_append.mp present with older | newest
          · exact chained.planned link older
          · exact List.mem_singleton.mp newest ▸ member
        · rw [List.isChain_append]
          refine ⟨chained.linked, List.isChain_singleton task, ?_⟩
          intro link isLast first isFirst
          cases isFirst
          have lastNamed : (chain.map CandidateTask.taskId).getLast? = some other.taskId :=
            named ▸ before.last
          rw [List.getLast?_map, isLast] at lastNamed
          have same : link.taskId = other.taskId := Option.some.inj lastNamed
          exact same ▸ listed

/-- The ids of a chain of tasks form a chain, which weighs what the tasks do. -/
theorem DependencyChain.toChain (unique : (tasks.map CandidateTask.taskId).Nodup)
    {chain : List CandidateTask} (chained : DependencyChain tasks chain) :
    Chain (dependenciesById tasks) (chain.map CandidateTask.taskId) ∧
      total (effortById tasks) (chain.map CandidateTask.taskId) = chainEffort chain := by
  constructor
  · rw [Chain, List.isChain_map]
    refine chained.linked.imp_of_mem_imp fun earlier later _ member listed => ?_
    exact (edge_dependenciesById unique _ _).mpr ⟨later, chained.planned later member, rfl, listed⟩
  · rw [total, chainEffort, List.map_map]
    congr 1
    apply List.map_congr_left
    intro task member
    rw [Function.comp_apply, effortById, taskById_of_mem unique (chained.planned task member)]
    rfl

/-- The ids of the path are those of a chain of tasks. -/
theorem exists_pathChain (consistent : Consistent tasks) :
    ∃ chain, DependencyChain tasks chain ∧ chain.map CandidateTask.taskId =
      (pick ((tasks.map CandidateTask.taskId).map (heaviestChain tasks))).2 := by
  rcases pick_cases ((tasks.map CandidateTask.taskId).map (heaviestChain tasks)) with none | member
  · rw [none]
    exact ⟨[], ⟨fun _ absent => (List.not_mem_nil absent).elim, List.isChain_nil⟩, rfl⟩
  · obtain ⟨taskId, known, same⟩ := List.mem_map.mp member
    obtain ⟨task, present, rfl⟩ := List.mem_map.mp known
    rw [← same]
    exact exists_dependencyChain consistent present
      ((sufficient_of_consistent consistent).endsAt (effortById tasks) task.taskId).1

/-- No chain of tasks outweighs the path. -/
theorem chainEffort_le_pick (consistent : Consistent tasks) {chain : List CandidateTask}
    (chained : DependencyChain tasks chain) : chainEffort chain ≤
      (pick ((tasks.map CandidateTask.taskId).map (heaviestChain tasks))).1 := by
  obtain ⟨linked, weighs⟩ := chained.toChain consistent.unique
  rw [← weighs]
  cases last : chain.getLast? with
  | none =>
      rw [List.getLast?_eq_none_iff.mp last]
      exact Nat.zero_le _
  | some task =>
      have ends : EndsAt (dependenciesById tasks) task.taskId
          (chain.map CandidateTask.taskId) :=
        ⟨linked, by rw [List.getLast?_map, last]; rfl⟩
      have member := chained.planned task (List.mem_of_getLast? last)
      exact ((sufficient_of_consistent consistent).total_le ends).trans
        (le_pick (List.mem_map_of_mem (List.mem_map_of_mem member)))

/-- The ids of the path are those of a chain of tasks that no chain outweighs. -/
theorem exists_longest (consistent : Consistent tasks) : ∃ chain, DependencyChain tasks chain ∧
    chain.map CandidateTask.taskId =
      (pick ((tasks.map CandidateTask.taskId).map (heaviestChain tasks))).2 ∧
    ∀ other, DependencyChain tasks other → chainEffort other ≤ chainEffort chain := by
  obtain ⟨chain, chained, named⟩ := exists_pathChain consistent
  refine ⟨chain, chained, named, fun other otherChained => ?_⟩
  calc chainEffort other
      ≤ (pick ((tasks.map CandidateTask.taskId).map (heaviestChain tasks))).1 :=
        chainEffort_le_pick consistent otherChained
    _ = total (effortById tasks) (chain.map CandidateTask.taskId) := by
        rw [named, (sufficient_of_consistent consistent).total_pick]
    _ = chainEffort chain := (chained.toChain consistent.unique).2

end Chains

/-- **The critical path of a valid plan** is a chain of distinct tasks, each a dependency of
the next one, and no such chain has a larger summed effort. -/
theorem criticalPath_longest {plan : CandidatePlan} {requirements : List Requirement}
    {revisionCount : Int}
    (valid : (validatePlan plan requirements revisionCount).valid = true) :
    ∃ chain, criticalPath plan.tasks =
        .ok (chain.map CandidateTask.taskId, chainEffort chain) ∧
      DependencyChain plan.tasks chain ∧ (chain.map CandidateTask.taskId).Nodup ∧
      ∀ other, DependencyChain plan.tasks other → chainEffort other ≤ chainEffort chain := by
  have consistent := (valid_iff.mp valid).toConsistent
  obtain ⟨chain, chained, named, longest⟩ := exists_longest consistent
  obtain ⟨linked, weighs⟩ := chained.toChain consistent.unique
  refine ⟨chain, ?_, chained, ?_, longest⟩
  · rw [criticalPath_eq consistent, ← named, weighs]
  · exact linked.nodup (sufficient_of_consistent consistent).acyclic

/-- A plan of two tasks, the first of which depends on the second one. -/
def reversedPlan : CandidatePlan where
  rationale := "rationale"
  tasks :=
    [{ taskId := "task_1", description := "description", dependencies := ["task_2"] },
      { taskId := "task_2", description := "description", effort := .large }]

theorem criticalPath_longest_reversedPlan :
    (validatePlan reversedPlan [] 0).valid = true ∧
    ∃ chain, criticalPath reversedPlan.tasks =
        .ok (chain.map CandidateTask.taskId, chainEffort chain) ∧
      ∀ other, DependencyChain reversedPlan.tasks other →
        chainEffort other ≤ chainEffort chain := by
  have valid : (validatePlan reversedPlan [] 0).valid = true := by decide +kernel
  obtain ⟨chain, found, -, -, longest⟩ := criticalPath_longest valid
  exact ⟨valid, chain, found, longest⟩

end ActionPlan.Agent
