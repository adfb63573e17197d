import Mathlib.Data.List.Find
import ActionPlan.Agent.Continuation
import ActionPlan.Agent.DeadlinePressure
import ActionPlan.Agent.Revision

/-! # The next task of an executed plan

`execute_plan` chooses the current task, `detect_blockers` the blocked ones and `recommend`
what to do next, each from the tasks and the completed ids alone. Here they are compared with
what the plan says: which of its tasks can start, and which have to wait. A run enters
`execute_plan` with an approved plan only (`loopOutline_of_visited`).
-/

namespace ActionPlan.Agent

open ActionPlan.Foundation ActionPlan.Foundation.DepthFirst ActionPlan.Models

section Specification

variable (tasks : List CandidateTask) (completed : List String)

/-- The task is not completed, and all of its dependencies are. -/
structure Startable (task : CandidateTask) : Prop where
  uncompleted : task.taskId ∉ completed
  satisfied : ∀ dependency ∈ task.dependencies, dependency ∈ completed

/-- The task is not completed, and one of its dependencies is not either. -/
structure Waits (task : CandidateTask) : Prop where
  uncompleted : task.taskId ∉ completed
  unsatisfied : ∃ dependency ∈ task.dependencies, dependency ∉ completed

/-- The recommendation is to start a task that can start while any of the tasks is not
completed, and to do nothing just when all of them are. -/
structure NextStep (recommendation : Recommendation) : Prop where
  starts : (∃ task ∈ tasks, task.taskId ∉ completed) → recommendation.action = "start_task" ∧
    ∃ task ∈ tasks, Startable completed task ∧ recommendation.affectedTask = some task.taskId
  idle : recommendation.action = "no_action" ↔ ∀ task ∈ tasks, task.taskId ∈ completed

/-- The blocked tasks are those that wait, each listed once, and nothing is wrong with the
plan or its coverage. -/
structure BlocksWaiting (state : AgentState) : Prop where
  waiting : ∀ taskId, taskId ∈ state.blockedTasks.getD [] ↔
    ∃ task ∈ tasks, task.taskId = taskId ∧ Waits completed task
  once : (state.blockedTasks.getD []).Nodup
  passed : ∀ blocker ∈ state.detectedBlockers.getD [],
    blocker.type ≠ "plan" ∧ blocker.type ≠ "coverage"

/-- The first task that is not completed can start. -/
def FirstStartable : Prop :=
  ∀ task ∈ tasks.find? (fun task => task.taskId ∉ completed), Startable completed task

/-- What a completed task depends on is completed. -/
def CompletedInOrder : Prop :=
  ∀ task ∈ tasks, task.taskId ∈ completed →
    ∀ dependency ∈ task.dependencies, dependency ∈ completed

variable {tasks}

/-- While a task of a consistent plan is not completed, one of them can start. -/
theorem exists_startable (consistent : Consistent tasks) {task : CandidateTask}
    (member : task ∈ tasks) (uncompleted : task.taskId ∉ completed) :
    ∃ other ∈ tasks, Startable completed other := by
  have known : ∀ {other}, other ∈ tasks → other.taskId ∉ completed →
      other.taskId ∈ (remainingTasks tasks completed).map CandidateTask.taskId := by
    intro other present remains
    exact List.mem_map_of_mem (List.mem_filter.mpr ⟨present, decide_eq_true remains⟩)
  obtain ⟨_, terminal, last⟩ := consistent.acyclic.exists_terminal (known member uncompleted)
  obtain ⟨first, remaining, rfl⟩ := List.mem_map.mp terminal
  obtain ⟨present, remains⟩ := List.mem_filter.mp remaining
  refine ⟨first, present, of_decide_eq_true remains, ?_⟩
  intro dependency listed
  by_contra missing
  obtain ⟨other, otherPresent, rfl⟩ := consistent.known first present dependency listed
  exact last _ (known otherPresent missing) ⟨first, present, rfl, listed⟩

/-- In a plan that lists its tasks in an order of execution the first task that is not
completed can start, whatever is completed. -/
theorem firstStartable_of_inOrder (ordered : InOrder tasks) : FirstStartable tasks completed := by
  intro task found
  obtain ⟨uncompleted, earlier, later, split, done⟩ := List.find?_eq_some_iff_append.mp found
  refine ⟨of_decide_eq_true uncompleted, fun dependency listed => ?_⟩
  obtain ⟨other, older, rfl⟩ := ordered earlier task later split dependency listed
  simpa using done other older

end Specification

/-- What the plan and its execution have in common of a task. -/
def planned (task : CandidateTask) : String × List String × List String :=
  (task.taskId, task.dependencies, (truthyString task.requirementId).toList)

/-- The plan of the state has been executed: the tasks are those of the plan, the current one
is the first that is not completed, and the plan has passed its validation. -/
structure Executed (tasks : List CandidateTask) (state : AgentState) : Prop where
  wellFormed : WellFormed tasks state.requirementList
  copied : state.taskList.map (fun task => (task.id, task.dependencies, task.requirementIds)) =
    tasks.map planned
  current : state.currentTask =
    (state.taskList.find? fun task => task.id ∉ state.completedList).map Task.id
  validated : NotInvalid state

section Execution

variable {state : AgentState} {plan : CandidatePlan}

theorem copied_markCompleted {candidates : List CandidateTask} {tasks : List Task}
    (made : materializeTasks candidates = .ok tasks) (completed : List String) :
    (tasks.map (markCompleted completed)).map
        (fun task => (task.id, task.dependencies, task.requirementIds)) =
      candidates.map planned := by
  have unmarked : ∀ task : Task,
      ((markCompleted completed task).id, (markCompleted completed task).dependencies,
        (markCompleted completed task).requirementIds) =
          (task.id, task.dependencies, task.requirementIds) := by
    intro task
    unfold markCompleted
    split <;> rfl
  have copied := congrArg
    (List.map fun data : String × List String × TaskStatus × List String =>
      (data.1, data.2.1, data.2.2.2)) (materializeTasks_ok made)
  rw [List.map_map, List.map_map] at copied
  rw [List.map_map]
  exact (List.map_congr_left fun task _ => unmarked task).trans copied

theorem executed_of_approved (present : state.candidatePlan = some plan)
    (approved : Approved state id) : Executed plan.tasks (executePlanNode state) := by
  obtain ⟨⟨candidate, tasks, same, made, current⟩, validated, passed⟩ := approved
  obtain rfl := Option.some.inj (present.symm.trans same)
  have report := report_eq_some present
  rw [planErrors, report] at passed
  rw [report] at validated
  have listed : state.taskList = tasks := by rw [AgentState.taskList, current, List.map_id]; rfl
  refine ⟨errors_eq_nil_iff.mp passed, ?_, ?_, ?_⟩
  · rw [executePlanNode, AgentState.taskList, listed]
    exact copied_markCompleted made state.completedList
  · simp only [executePlanNode, listed]
    congr 1
    apply List.find?_congr
    intro task member
    obtain ⟨plain, plainMember, rfl⟩ := List.mem_map.mp member
    have pending := pending_of_materialized made plainMember
    apply decide_eq_decide.mpr
    rw [ne_eq, status_markCompleted pending, markCompleted_id]
    rfl
  · intro validation stored
    have same : state.planValidation = some validation := stored
    rw [validated] at same
    cases same
    exact List.isEmpty_iff.mpr passed

/-- The run of an approved plan reaches the memory node: the plan is optimized and analyzed,
its blocked tasks are detected and the next step is recommended. -/
theorem exists_reached (services : Services) (present : state.candidatePlan = some plan)
    (approved : Approved state id) : ∃ analyzed, Executed plan.tasks analyzed ∧
      analyzed.completedList = state.completedList ∧
      (buildGraph services).run .recursionError 6 .executePlan state =
        .ok (recommendationNode services.clock (detectBlockerNode analyzed)) := by
  have executed := executed_of_approved present approved
  have optimizes : ∃ optimized,
      optimizePlanNode services.clock (executePlanNode state) = .ok optimized := by
    unfold optimizePlanNode
    split
    · rename_i candidate request planned requested
      obtain rfl := Option.some.inj (present.symm.trans planned)
      obtain ⟨result, made, -⟩ := optimizePlan_ok
        (criticalPath_eq executed.wellFormed.toConsistent) request.deadline
        (executePlanNode state).completedList services.clock.today
      rw [made]
      exact ⟨_, rfl⟩
    · exact ⟨_, rfl⟩
  obtain ⟨optimized, done⟩ := optimizes
  have runs : (buildGraph services).run .recursionError 6 .executePlan state =
      optimizePlanNode services.clock (executePlanNode state) >>= fun optimized =>
        .ok (recommendationNode services.clock
          (detectBlockerNode (stateAnalysisNode optimized))) := rfl
  obtain ⟨_, _, rfl⟩ := optimizePlanNode_ok done
  refine ⟨stateAnalysisNode _, ?_, ?_, by rw [runs, done]; rfl⟩
  · exact ⟨executed.wellFormed, executed.copied, executed.current, executed.validated⟩
  · rfl

end Execution

section Blocked

variable {state : AgentState} {tasks : List CandidateTask}

/-- The blocker that is detected for a task. -/
def dependencyBlocker (completed : List String) (task : Task) : Blocker where
  taskId := task.id
  type := "dependency"
  message := "Task " ++ task.id ++ " waits on incomplete dependencies: " ++
    ", ".intercalate (incompleteDependencies completed task) ++ "."

/-- The tasks with dependencies that are not completed. -/
def blockedBy (completed : List String) (tasks : List Task) : List Task :=
  tasks.filter fun task => incompleteDependencies completed task ≠ []

theorem uncovered_of_executed (executed : Executed tasks state) :
    (state.requirementList.map Requirement.id).filter
      (· ∉ state.taskList.flatMap Task.requirementIds) = [] := by
  apply List.filter_eq_nil_iff.mpr
  rw [List.forall_mem_map]
  intro requirement member
  obtain ⟨task, present, covers⟩ := executed.wellFormed.covered requirement member
  have copied := executed.copied ▸ List.mem_map_of_mem present
  obtain ⟨made, listed, same⟩ := List.mem_map.mp copied
  have requirementIds : made.requirementIds = [requirement.id] := by
    have listedIds : made.requirementIds = (truthyString task.requirementId).toList :=
      congrArg (fun data => data.2.2) same
    rw [listedIds, covers, truthyString_some requirement.id_nonempty]
    rfl
  have covered : requirement.id ∈ state.taskList.flatMap Task.requirementIds :=
    List.mem_flatMap.mpr ⟨made, listed, by simp [requirementIds]⟩
  simpa using covered

/-- Of an executed plan only dependencies are reported, one blocker for each task that has
some which are not completed. -/
theorem detectBlockerNode_executed (executed : Executed tasks state) :
    (detectBlockerNode state).detectedBlockers =
        some ((blockedBy state.completedList state.taskList).map
          (dependencyBlocker state.completedList)) ∧
      (detectBlockerNode state).blockedTasks =
        some ((blockedBy state.completedList state.taskList).map Task.id) := by
  have named : ((blockedBy state.completedList state.taskList).map
      (dependencyBlocker state.completedList)).filter (fun blocker =>
        blocker.taskId ≠ "" ∧ blocker.type = "dependency") =
      (blockedBy state.completedList state.taskList).map
        (dependencyBlocker state.completedList) := by
    apply List.filter_eq_self.mpr
    rw [List.forall_mem_map]
    intro task _
    simp [dependencyBlocker, task.id_nonempty]
  have covered := uncovered_of_executed executed
  have blockers : (detectBlockerNode state).detectedBlockers =
      some ((blockedBy state.completedList state.taskList).map
        (dependencyBlocker state.completedList)) := by
    cases present : state.planValidation with
    | none =>
        simp only [detectBlockerNode, present, covered, ne_eq, not_true_eq_false, ↓reduceIte,
          List.append_nil]
        rfl
    | some validation =>
        simp only [detectBlockerNode, present, executed.validated validation present, covered,
          ne_eq, not_true_eq_false, ↓reduceIte, List.append_nil]
        rfl
  refine ⟨blockers, ?_⟩
  have filtered : (detectBlockerNode state).blockedTasks =
    (detectBlockerNode state).detectedBlockers.map fun blockers => (blockers.filter fun blocker =>
      blocker.taskId ≠ "" ∧ blocker.type = "dependency").map Blocker.taskId := rfl
  rw [filtered, blockers, Option.map_some, named, List.map_map]
  rfl

theorem exists_executable (executed : Executed tasks state) {task : CandidateTask}
    (member : task ∈ tasks) :
    ∃ made ∈ state.taskList, made.id = task.taskId ∧ made.dependencies = task.dependencies := by
  have copied := executed.copied ▸ List.mem_map_of_mem member
  obtain ⟨made, listed, same⟩ := List.mem_map.mp copied
  exact ⟨made, listed, congrArg Prod.fst same, congrArg (fun data => data.2.1) same⟩

theorem exists_planned (executed : Executed tasks state) {made : Task}
    (listed : made ∈ state.taskList) :
    ∃ task ∈ tasks, task.taskId = made.id ∧ task.dependencies = made.dependencies := by
  have copied : (made.id, made.dependencies, made.requirementIds) ∈ tasks.map planned :=
    executed.copied ▸ List.mem_map_of_mem listed
  obtain ⟨task, member, same⟩ := List.mem_map.mp copied
  exact ⟨task, member, congrArg Prod.fst same, congrArg (fun data => data.2.1) same⟩

theorem ids_of_executed (executed : Executed tasks state) :
    state.taskList.map Task.id = tasks.map CandidateTask.taskId := by
  have ids := congrArg (List.map Prod.fst) executed.copied
  rw [List.map_map, List.map_map] at ids
  exact ids

/-- Blocked is what has a dependency that is not completed, whether completed itself or not. -/
theorem mem_blockedBy (executed : Executed tasks state) {taskId : String} :
    taskId ∈ (blockedBy state.completedList state.taskList).map Task.id ↔
      ∃ task ∈ tasks, task.taskId = taskId ∧
        ∃ dependency ∈ task.dependencies, dependency ∉ state.completedList := by
  have blocked : ∀ made : Task, made ∈ blockedBy state.completedList state.taskList ↔
      made ∈ state.taskList ∧
        ∃ dependency ∈ made.dependencies, dependency ∉ state.completedList := by
    intro made
    rw [blockedBy, List.mem_filter, decide_eq_true_eq, incompleteDependencies, ne_eq,
      List.filter_eq_nil_iff]
    simp
  constructor
  · intro member
    obtain ⟨made, present, rfl⟩ := List.mem_map.mp member
    obtain ⟨listed, unsatisfied⟩ := (blocked made).mp present
    obtain ⟨task, planned, id, dependencies⟩ := exists_planned executed listed
    exact ⟨task, planned, id, dependencies ▸ unsatisfied⟩
  · rintro ⟨task, planned, rfl, unsatisfied⟩
    obtain ⟨made, listed, id, dependencies⟩ := exists_executable executed planned
    exact List.mem_map.mpr ⟨made, (blocked made).mpr ⟨listed, dependencies ▸ unsatisfied⟩, id⟩

/-- A task of the plan is blocked when one of its own dependencies is not completed. -/
theorem taskId_mem_blockedBy (executed : Executed tasks state) {task : CandidateTask}
    (member : task ∈ tasks) :
    task.taskId ∈ (blockedBy state.completedList state.taskList).map Task.id ↔
      ∃ dependency ∈ task.dependencies, dependency ∉ state.completedList := by
  rw [mem_blockedBy executed]
  constructor
  · rintro ⟨other, present, named, unsatisfied⟩
    obtain rfl := List.inj_on_of_nodup_map executed.wellFormed.unique present member named
    exact unsatisfied
  · intro unsatisfied
    exact ⟨task, member, rfl, unsatisfied⟩

/-- The detected blockers of an executed plan are right unless a completed task depends on
one that is not completed. -/
theorem blocksWaiting_of_executed (executed : Executed tasks state) :
    BlocksWaiting tasks state.completedList (detectBlockerNode state) ↔
      CompletedInOrder tasks state.completedList := by
  obtain ⟨blockers, blocked⟩ := detectBlockerNode_executed executed
  constructor
  · intro blocks task member completed dependency listed
    by_contra missing
    have present : task.taskId ∈ (detectBlockerNode state).blockedTasks.getD [] := by
      rw [blocked]
      exact (mem_blockedBy executed).mpr ⟨task, member, rfl, dependency, listed, missing⟩
    obtain ⟨other, -, same, waits⟩ := (blocks.waiting task.taskId).mp present
    exact waits.uncompleted (same ▸ completed)
  · intro ordered
    refine ⟨fun taskId => ?_, ?_, ?_⟩
    · rw [blocked, Option.getD_some, mem_blockedBy executed]
      constructor
      · rintro ⟨task, member, rfl, dependency, listed, missing⟩
        refine ⟨task, member, rfl, fun completed => ?_, dependency, listed, missing⟩
        exact missing (ordered task member completed dependency listed)
      · rintro ⟨task, member, same, waits⟩
        exact ⟨task, member, same, waits.unsatisfied⟩
    · rw [blocked, Option.getD_some]
      have unique := executed.wellFormed.unique
      rw [← ids_of_executed executed] at unique
      exact unique.sublist (List.filter_sublist.map _)
    · rw [blockers, Option.getD_some, List.forall_mem_map]
      intro task _
      simp [dependencyBlocker]

end Blocked

section Recommended

variable {state : AgentState}

/-- The recommendation looks at the first task that is not completed: it is to wait when this
task is blocked, to start it when it is not, and to do nothing when there is none. -/
theorem recommendationNode_first (clock : Clock)
    (current : currentCandidate state =
      state.taskList.find? fun task => task.id ∉ state.completedList) :
    ∃ recommendation, (recommendationNode clock state).recommendation = some recommendation ∧
      match state.taskList.find? (fun task => task.id ∉ state.completedList) with
      | none => recommendation.action = "no_action"
      | some task =>
        if task.id ∈ state.blockedTasks.getD [] then recommendation.action = "await_dependency"
        else recommendation.action = "start_task" ∧ recommendation.affectedTask = some task.id := by
  refine ⟨_, rfl, ?_⟩
  cases found : state.taskList.find? fun task => task.id ∉ state.completedList with
  | none =>
      have none : (state.taskList.find? fun task => task.id ∉ state.completedList ∧
          task.id ∉ state.blockedTasks.getD []) = none := by
        apply List.find?_eq_none.mpr
        intro task member
        have done := List.find?_eq_none.mp found task member
        simp only [decide_eq_true_eq, not_not] at done
        simp [done]
      rw [current, found, Option.filter_none]
      simp only [none]
  | some task =>
      obtain ⟨uncompleted, earlier, later, split, done⟩ := List.find?_eq_some_iff_append.mp found
      rw [current, found]
      by_cases blocked : task.id ∈ state.blockedTasks.getD []
      · have waits : (some task).filter (fun task => task.id ∈ state.blockedTasks.getD []) =
            some task := by simp [Option.filter, blocked]
        simp only [waits, blocked, ↓reduceIte]
      · have free : (some task).filter (fun task => task.id ∈ state.blockedTasks.getD []) =
            none := by simp [Option.filter, blocked]
        have next : (state.taskList.find? fun task => task.id ∉ state.completedList ∧
            task.id ∉ state.blockedTasks.getD []) = some task := by
          apply List.find?_eq_some_iff_append.mpr
          refine ⟨decide_eq_true ⟨of_decide_eq_true uncompleted, blocked⟩, earlier, later,
            split, fun other older => ?_⟩
          have completed : other.id ∈ state.completedList := by simpa using done other older
          simp [completed]
        simp only [free, next, blocked, ↓reduceIte, and_self]

variable {tasks : List CandidateTask}

/-- Where the plan has been executed, the current task is found under its id. -/
theorem currentCandidate_executed (executed : Executed tasks state) :
    currentCandidate state =
      state.taskList.find? fun task => task.id ∉ state.completedList := by
  have unique := executed.wellFormed.unique
  rw [← ids_of_executed executed] at unique
  rw [currentCandidate, executed.current]
  cases found : state.taskList.find? fun task => task.id ∉ state.completedList with
  | none => rfl
  | some task =>
      rw [Option.map_some, Option.bind_some]
      exact find?_reverse_key unique (List.mem_of_find?_eq_some found)

/-- The first task that is not completed is the same in the plan and in its execution. -/
theorem find?_executed (executed : Executed tasks state) :
    (state.taskList.find? fun task => task.id ∉ state.completedList).map Task.id =
      (tasks.find? fun task => task.taskId ∉ state.completedList).map CandidateTask.taskId := by
  have found := congrArg (List.find? fun taskId : String => taskId ∉ state.completedList)
    (ids_of_executed executed)
  rw [List.find?_map, List.find?_map] at found
  exact found

/-- What is recommended for the first task that is not completed. -/
def RecommendedFor (completed : List String) (recommendation : Recommendation) :
    Option CandidateTask → Prop
  | none => recommendation.action = "no_action"
  | some task =>
    Startable completed task ∧ recommendation.action = "start_task" ∧
        recommendation.affectedTask = some task.taskId ∨
      Waits completed task ∧ recommendation.action = "await_dependency"

/-- The recommendation for an executed plan is about its first task that is not completed. -/
theorem recommended_of_executed (clock : Clock) (executed : Executed tasks state) :
    ∃ recommendation, (recommendationNode clock (detectBlockerNode state)).recommendation =
        some recommendation ∧
      RecommendedFor state.completedList recommendation
        (tasks.find? fun task => task.taskId ∉ state.completedList) := by
  have detected : Executed tasks (detectBlockerNode state) :=
    ⟨executed.wellFormed, executed.copied, executed.current, executed.validated⟩
  obtain ⟨recommendation, given, chosen⟩ :=
    recommendationNode_first clock (currentCandidate_executed detected)
  refine ⟨recommendation, given, ?_⟩
  have same : ((detectBlockerNode state).taskList.find? fun task =>
      task.id ∉ (detectBlockerNode state).completedList).map Task.id =
        (tasks.find? fun task => task.taskId ∉ state.completedList).map CandidateTask.taskId :=
    find?_executed detected
  cases found : tasks.find? fun task => task.taskId ∉ state.completedList with
  | none =>
      rw [found, Option.map_none, Option.map_eq_none_iff] at same
      rw [same] at chosen
      exact chosen
  | some task =>
      rw [found, Option.map_some] at same
      obtain ⟨made, first, named⟩ := Option.map_eq_some_iff.mp same
      have member := List.mem_of_find?_eq_some found
      have uncompleted : task.taskId ∉ state.completedList := by
        simpa using List.find?_some found
      rw [first] at chosen
      dsimp only at chosen
      rw [(detectBlockerNode_executed executed).2, Option.getD_some, named] at chosen
      by_cases blocked :
          task.taskId ∈ (blockedBy state.completedList state.taskList).map Task.id
      · rw [if_pos blocked] at chosen
        exact .inr ⟨⟨uncompleted, (taskId_mem_blockedBy executed member).mp blocked⟩, chosen⟩
      · rw [if_neg blocked] at chosen
        refine .inl ⟨⟨uncompleted, fun dependency listed => ?_⟩, chosen⟩
        by_contra missing
        exact blocked ((taskId_mem_blockedBy executed member).mpr ⟨dependency, listed, missing⟩)

theorem nextStep_of_recommended {completed : List String} {recommendation : Recommendation}
    (recommended : RecommendedFor completed recommendation
      (tasks.find? fun task => task.taskId ∉ completed)) :
    NextStep tasks completed recommendation ↔ FirstStartable tasks completed := by
  cases found : tasks.find? fun task => task.taskId ∉ completed with
  | none =>
      have done : ∀ task ∈ tasks, task.taskId ∈ completed := by
        simpa using List.find?_eq_none.mp found
      rw [found] at recommended
      refine iff_of_true ⟨?_, iff_of_true recommended done⟩ ?_
      · rintro ⟨task, member, uncompleted⟩
        exact absurd (done task member) uncompleted
      · intro task present
        rw [found] at present
        cases present
  | some task =>
      have member := List.mem_of_find?_eq_some found
      have uncompleted : task.taskId ∉ completed := by simpa using List.find?_some found
      rw [found] at recommended
      rcases recommended with ⟨startable, action, affected⟩ | ⟨waits, action⟩
      · refine iff_of_true ⟨fun _ => ⟨action, task, member, startable, affected⟩, ?_⟩ ?_
        · refine iff_of_false (by simp [action]) fun done => ?_
          exact uncompleted (done task member)
        · intro first present
          rw [found] at present
          cases present
          exact startable
      · apply iff_of_false
        · intro next
          obtain ⟨starts, -⟩ := next.starts ⟨task, member, uncompleted⟩
          simp [action] at starts
        · intro first
          obtain ⟨dependency, listed, missing⟩ := waits.unsatisfied
          exact missing ((first task found).satisfied dependency listed)

end Recommended

section Run

variable {services : Services} {state reached : AgentState} {plan : CandidatePlan}

/-- The runs that execute the plan of a state hand the other one to the memory node. -/
structure EndsIn (services : Services) (state reached : AgentState) : Prop where
  resumed : (buildGraph services).run .recursionError 6 .executePlan state = .ok reached
  whole : ∀ initial final, (.executePlan, state) ∈ visited services initial →
    reachMemory services initial = .ok final → final = reached

/-- A run that enters a node ends as the run from there does. -/
theorem endsIn_of_resumed
    (resumed : (buildGraph services).run .recursionError 6 .executePlan state = .ok reached) :
    EndsIn services state reached := by
  refine ⟨resumed, fun initial final entered ended => ?_⟩
  obtain ⟨earlier, later, split⟩ := List.append_of_mem entered
  obtain ⟨rest, -, -, same⟩ := ControlFlow.entries_split split
  exact ControlFlow.run_unique ((same .recursionError).symm.trans ended) resumed

/-- **The recommended next step** is right just when the first task of the plan that is not
completed can start. -/
theorem nextStep_iff (present : state.candidatePlan = some plan) (approved : Approved state id) :
    ∃ reached recommendation, EndsIn services state reached ∧
      reached.recommendation = some recommendation ∧
      (NextStep plan.tasks state.completedList recommendation ↔
        FirstStartable plan.tasks state.completedList) := by
  obtain ⟨analyzed, executed, same, runs⟩ := exists_reached services present approved
  obtain ⟨recommendation, given, recommended⟩ := recommended_of_executed services.clock executed
  rw [same] at recommended
  exact ⟨_, recommendation, endsIn_of_resumed runs, given, nextStep_of_recommended recommended⟩

/-- **Waiting is never needed**: whenever the recommendation is to wait, a task can start. -/
theorem startable_of_await (present : state.candidatePlan = some plan)
    (approved : Approved state id) (ended : EndsIn services state reached)
    {recommendation : Recommendation} (given : reached.recommendation = some recommendation)
    (awaits : recommendation.action = "await_dependency") :
    ∃ task ∈ plan.tasks, Startable state.completedList task := by
  obtain ⟨analyzed, executed, same, runs⟩ := exists_reached services present approved
  obtain rfl := Except.ok.inj (ended.resumed.symm.trans runs)
  obtain ⟨_, found, recommended⟩ := recommended_of_executed services.clock executed
  obtain rfl := Option.some.inj (given.symm.trans found)
  rw [same] at recommended
  cases first : plan.tasks.find? fun task => task.taskId ∉ state.completedList with
  | none =>
      rw [first, RecommendedFor, awaits] at recommended
      simp at recommended
  | some task =>
      have uncompleted : task.taskId ∉ state.completedList := by simpa using List.find?_some first
      exact exists_startable _ executed.wellFormed.toConsistent
        (List.mem_of_find?_eq_some first) uncompleted

/-- **The blocked tasks** are those that wait just when no completed task depends on one that
is not completed. -/
theorem blocksWaiting_iff (present : state.candidatePlan = some plan)
    (approved : Approved state id) :
    ∃ reached, EndsIn services state reached ∧
      (BlocksWaiting plan.tasks state.completedList reached ↔
        CompletedInOrder plan.tasks state.completedList) := by
  obtain ⟨analyzed, executed, same, runs⟩ := exists_reached services present approved
  have blocks := blocksWaiting_of_executed executed
  rw [same] at blocks
  refine ⟨_, endsIn_of_resumed runs, ?_, ?_⟩
  · exact fun kept => blocks.mp ⟨kept.waiting, kept.once, kept.passed⟩
  · intro ordered
    have kept := blocks.mpr ordered
    exact ⟨kept.waiting, kept.once, kept.passed⟩

end Run

section Counterexample

/-- The plan whose first task depends on the second one, when it is about to be executed. -/
def reversedState (completed : List String) : AgentState where
  candidatePlan := some reversedPlan
  planValidation := some (validatePlan reversedPlan [] 0)
  tasks := (materializeTasks reversedPlan.tasks).toOption
  completedTasks := some completed

theorem approved_reversedState (completed : List String) :
    Approved (reversedState completed) id := by
  have nonempty : ∀ task ∈ reversedPlan.tasks, task.taskId ≠ "" ∧ task.description ≠ "" := by
    decide
  obtain ⟨tasks, made⟩ := materializeTasks_total nonempty
  refine ⟨⟨reversedPlan, tasks, rfl, made, ?_⟩, rfl, ?_⟩
  · rw [reversedState, made, List.map_id]
    rfl
  · have passed : (validatePlan reversedPlan [] 0).errors = [] := by decide +kernel
    exact passed

/-- With nothing completed, the recommendation is to wait for the second task, which can
start. -/
theorem not_nextStep_reversedPlan : ∃ reached recommendation,
    EndsIn silentServices (reversedState []) reached ∧
    reached.recommendation = some recommendation ∧
    recommendation.action = "await_dependency" ∧
    (∃ task ∈ reversedPlan.tasks, Startable [] task) ∧
    ¬ NextStep reversedPlan.tasks [] recommendation := by
  obtain ⟨analyzed, executed, same, runs⟩ :=
    exists_reached silentServices rfl (approved_reversedState [])
  obtain ⟨recommendation, given, recommended⟩ :=
    recommended_of_executed silentServices.clock executed
  rw [same] at recommended
  have waits : recommendation.action = "await_dependency" := by
    rcases recommended with ⟨startable, -⟩ | ⟨-, action⟩
    · exact absurd (startable.satisfied "task_2" (.head _)) List.not_mem_nil
    · exact action
  refine ⟨_, recommendation, endsIn_of_resumed runs, given, waits,
    ⟨_, .tail _ (.head _), List.not_mem_nil, fun _ absent => absurd absent List.not_mem_nil⟩, ?_⟩
  intro next
  obtain ⟨starts, -⟩ := next.starts ⟨_, .head _, List.not_mem_nil⟩
  simp [waits] at starts

theorem nextStep_iff_reversedPlan : Approved (reversedState ["task_2"]) id ∧
    ∃ reached recommendation, EndsIn silentServices (reversedState ["task_2"]) reached ∧
      reached.recommendation = some recommendation ∧
      (NextStep reversedPlan.tasks ["task_2"] recommendation ↔
        FirstStartable reversedPlan.tasks ["task_2"]) :=
  ⟨approved_reversedState _, nextStep_iff rfl (approved_reversedState ["task_2"])⟩

/-- With only the first task completed, it is listed as blocked by the second one. -/
theorem not_blocksWaiting_reversedPlan : ∃ reached,
    EndsIn silentServices (reversedState ["task_1"]) reached ∧
    "task_1" ∈ reached.blockedTasks.getD [] ∧
    ¬ BlocksWaiting reversedPlan.tasks ["task_1"] reached := by
  obtain ⟨analyzed, executed, same, runs⟩ :=
    exists_reached silentServices rfl (approved_reversedState ["task_1"])
  have blocked : "task_1" ∈ (detectBlockerNode analyzed).blockedTasks.getD [] := by
    rw [(detectBlockerNode_executed executed).2]
    apply (mem_blockedBy executed).mpr
    rw [same]
    exact ⟨_, .head _, rfl, "task_2", .head _, by decide⟩
  refine ⟨_, endsIn_of_resumed runs, blocked, fun blocks => ?_⟩
  obtain ⟨task, -, named, waits⟩ := (blocks.waiting "task_1").mp blocked
  exact waits.uncompleted (named ▸ .head _)

theorem blocksWaiting_iff_reversedPlan : Approved (reversedState ["task_2"]) id ∧
    ∃ reached, EndsIn silentServices (reversedState ["task_2"]) reached ∧
      (BlocksWaiting reversedPlan.tasks ["task_2"] reached ↔
        CompletedInOrder reversedPlan.tasks ["task_2"]) :=
  ⟨approved_reversedState _, blocksWaiting_iff rfl (approved_reversedState ["task_2"])⟩

end Counterexample

end ActionPlan.Agent
