import ActionPlan.Agent.Nodes

/-! # The agent graph

`agent/graph.py`: the nodes in their order, with the conditional edge after
`validate_plan`. A run is followed up to the entrance of `update_memory`, the
node that writes to the memory store.
-/

namespace ActionPlan.Agent

open ActionPlan.Foundation ActionPlan.Models

/-- The nodes of the compiled graph. -/
inductive Node where
  | initializeNode
  | analyzeGoal
  | extractProcedures
  | extractRequirements
  | collectEvidence
  | plan
  | validatePlan
  | revisePlan
  | planFailed
  | executePlan
  | optimizePlan
  | stateAnalysis
  | detectBlockers
  | recommend
  | updateMemory
  deriving DecidableEq, Repr

namespace Node

/-- The function bound to a node. -/
def exec (services : Services) : Node → AgentState → Except Exn AgentState
  | initializeNode, state => Agent.initializeNode state
  | analyzeGoal, state => analyzeGoalNode services.llm state
  | extractProcedures, state => extractProceduresNode services.llm state
  | extractRequirements, state => extractRequirementsNode services.llm state
  | collectEvidence, state => collectEvidenceNode services.retriever state
  | plan, state => createPlanNode state
  | validatePlan, state => .ok (validatePlanNode state)
  | revisePlan, state => .ok (revisePlanNode state)
  | planFailed, state => .ok (planFailedNode state)
  | executePlan, state => .ok (executePlanNode state)
  | optimizePlan, state => optimizePlanNode services.clock state
  | stateAnalysis, state => .ok (stateAnalysisNode state)
  | detectBlockers, state => .ok (detectBlockerNode state)
  | recommend, state => .ok (recommendationNode services.clock state)
  | updateMemory, state => .ok state

/-- The edges of `build_graph`. -/
def next : Node → AgentState → Node
  | initializeNode, _ => analyzeGoal
  | analyzeGoal, _ => extractProcedures
  | extractProcedures, _ => extractRequirements
  | extractRequirements, _ => collectEvidence
  | collectEvidence, _ => plan
  | plan, _ => validatePlan
  | validatePlan, state =>
    match shouldRevise state with
    | .executePlan => executePlan
    | .revisePlan => revisePlan
    | .planFailed => planFailed
  | revisePlan, _ => plan
  | planFailed, _ => updateMemory
  | executePlan, _ => optimizePlan
  | optimizePlan, _ => stateAnalysis
  | stateAnalysis, _ => detectBlockers
  | detectBlockers, _ => recommend
  | recommend, _ => updateMemory
  | updateMemory, _ => updateMemory

end Node

/-- `build_graph`. -/
def buildGraph (services : Services) : ControlFlow Node AgentState Exn where
  exec := Node.exec services
  next := Node.next
  exit node := node = .updateMemory

/-- The default limit on the nodes of one run. -/
def recursionLimit : Nat := 25

/-- `graph.invoke`, up to the entrance of `update_memory`. -/
def reachMemory (services : Services) (state : AgentState) : Except Exn AgentState :=
  (buildGraph services).run .recursionError recursionLimit .initializeNode state

/-- A fact of the initial state that every node keeps holds at the memory node. -/
theorem reachMemory_invariant {services : Services} {initial reached : AgentState}
    (fact : AgentState → Prop)
    (kept : ∀ node state result, fact state → Node.exec services node state = .ok result →
      fact result) (start : fact initial) (ended : reachMemory services initial = .ok reached) :
    fact reached := by
  have annotated : (buildGraph services).Annotated fun _ => fact :=
    fun node state result _ holds executed => kept node state result holds executed
  obtain ⟨-, -, holds⟩ := annotated.run start ended
  exact holds

section Inversion

/-! What each fallible or branching node can do to the state. -/

variable {services : Services} {state result : AgentState}

/-- What `initialize_node` sets when it succeeds. -/
theorem initializeNode_ok (executed : initializeNode state = .ok result) :
    ∃ request, initializeRequest state = .ok request ∧ result =
      { state with
        workRequest := some request
        tasks := state.tasks.map fun tasks =>
          tasks.map (markIncoming (state.incomingCompletedTaskIds.getD []))
        completedTasks := some (sortedSet (state.completedList ++
          newlyCompleted (state.incomingCompletedTaskIds.getD []) state.taskList))
        executionMetadata := some (Dict.override (state.executionMetadata.getD ∅)
          (AList.singleton "initialization" (.str "completed"))) } := by
  obtain ⟨request, made, done⟩ := ok_of_bind executed
  cases done
  exact ⟨request, made, rfl⟩

/-- What `analyze_goal_node` sets when it succeeds. -/
theorem analyzeGoalNode_ok (executed : analyzeGoalNode services.llm state = .ok result) :
    ∃ objectiveAnalysis plannerSteps executionMetadata,
      result = { state with objectiveAnalysis, plannerSteps, executionMetadata } := by
  unfold analyzeGoalNode at executed
  split at executed
  · cases executed
    exact ⟨_, _, _, rfl⟩
  · obtain ⟨request, -, rest⟩ := ok_of_bind executed
    obtain ⟨analysis, -, done⟩ := ok_of_bind rest
    cases done
    exact ⟨_, _, _, rfl⟩

/-- What `extract_procedures_node` sets when it succeeds. -/
theorem extractProceduresNode_ok
    (executed : extractProceduresNode services.llm state = .ok result) :
    ∃ procedures procedureAnalysis executionMetadata,
      result = { state with procedures, procedureAnalysis, executionMetadata } := by
  unfold extractProceduresNode at executed
  split at executed
  · cases executed
    exact ⟨_, _, _, rfl⟩
  · obtain ⟨request, -, rest⟩ := ok_of_bind executed
    obtain ⟨extraction, -, done⟩ := ok_of_bind rest
    cases done
    exact ⟨_, _, _, rfl⟩

/-- Requirements that are there are kept; others are the answer of the language model. -/
theorem extractRequirementsNode_ok
    (executed : extractRequirementsNode services.llm state = .ok result) :
    ∃ requirements executionMetadata, result = { state with requirements, executionMetadata } ∧
      (state.requirementList ≠ [] ∧ requirements = state.requirements ∨
        state.requirementList = [] ∧ ∃ request, state.request = .ok request ∧
          services.llm.extractRequirements request = .ok (requirements.getD [])) := by
  unfold extractRequirementsNode at executed
  split at executed
  · rename_i present
    cases executed
    exact ⟨_, _, rfl, .inl ⟨present, rfl⟩⟩
  · rename_i missing
    obtain ⟨request, compiled, rest⟩ := ok_of_bind executed
    obtain ⟨requirements, answered, done⟩ := ok_of_bind rest
    cases done
    exact ⟨_, _, rfl, .inr ⟨not_not.mp missing, request, compiled, answered⟩⟩

/-- What `collect_evidence_node` sets when it succeeds. -/
theorem collectEvidenceNode_ok
    (executed : collectEvidenceNode services.retriever state = .ok result) :
    ∃ targetedEvidence targetedByRequirement retrievedDocuments executionMetadata, result =
      { state with
        targetedEvidence, targetedByRequirement, retrievedDocuments, executionMetadata } := by
  unfold collectEvidenceNode at executed
  split at executed
  · cases executed
    exact ⟨_, _, _, _, rfl⟩
  · obtain ⟨targeted, -, done⟩ := ok_of_bind executed
    cases done
    exact ⟨_, _, _, _, rfl⟩

/-- What `create_plan_node` sets when it succeeds: the tasks of its candidate. -/
theorem createPlanNode_ok (executed : createPlanNode state = .ok result) :
    ∃ tasks, materializeTasks (chooseCandidate state).tasks = .ok tasks ∧ result =
      { state with
        candidatePlan := some (chooseCandidate state)
        tasks := some tasks
        executionMetadata := metadata "plan" "created" } := by
  obtain ⟨tasks, made, done⟩ := ok_of_bind executed
  cases done
  exact ⟨tasks, made, rfl⟩

/-- What `validate_plan_node` sets. -/
theorem validatePlanNode_eq (state : AgentState) :
    ∃ planValidation executionMetadata,
      validatePlanNode state = { state with planValidation, executionMetadata } := by
  unfold validatePlanNode
  split <;> exact ⟨_, _, rfl⟩

/-- What `revise_plan_node` sets. -/
theorem revisePlanNode_eq (state : AgentState) :
    ∃ candidatePlan planRevisionCount executionMetadata, revisePlanNode state =
      { state with candidatePlan, planRevisionCount, executionMetadata } := by
  unfold revisePlanNode
  split <;> exact ⟨_, _, _, rfl⟩

/-- What `optimize_plan_node` sets when it succeeds. -/
theorem optimizePlanNode_ok (executed : optimizePlanNode services.clock state = .ok result) :
    ∃ optimization executionMetadata, result = { state with optimization, executionMetadata } := by
  unfold optimizePlanNode at executed
  split at executed
  · obtain ⟨optimization, -, done⟩ := ok_of_bind executed
    cases done
    exact ⟨_, _, rfl⟩
  · cases executed
    exact ⟨_, _, rfl⟩

end Inversion

/-- The keys that name the workflow, and the function definitions. -/
def AgentState.identity (state : AgentState) :
    Option String × Option String × Option (Dict Value) :=
  (state.workflowId, state.originalGoal, state.functionDefinitions)

/-- What a node leaves as it is: the identity, the request but for the first node, and the
count of the revisions but for a revision. -/
structure Node.Framed (node : Node) (before after : AgentState) : Prop where
  identity : after.identity = before.identity
  workRequest : node ≠ .initializeNode → after.workRequest = before.workRequest
  planRevisionCount : node ≠ .revisePlan → after.planRevisionCount = before.planRevisionCount

/-- A node leaves the fields of the others alone. -/
theorem Node.framed_of_exec {services : Services} {node : Node} {state result : AgentState}
    (executed : Node.exec services node state = .ok result) : node.Framed state result := by
  cases node with
  | initializeNode =>
      obtain ⟨_, -, rfl⟩ := initializeNode_ok executed
      exact ⟨rfl, fun later => absurd rfl later, fun _ => rfl⟩
  | analyzeGoal =>
      obtain ⟨_, _, _, rfl⟩ := analyzeGoalNode_ok executed
      exact ⟨rfl, fun _ => rfl, fun _ => rfl⟩
  | extractProcedures =>
      obtain ⟨_, _, _, rfl⟩ := extractProceduresNode_ok executed
      exact ⟨rfl, fun _ => rfl, fun _ => rfl⟩
  | extractRequirements =>
      obtain ⟨_, _, rfl, -⟩ := extractRequirementsNode_ok executed
      exact ⟨rfl, fun _ => rfl, fun _ => rfl⟩
  | collectEvidence =>
      obtain ⟨_, _, _, _, rfl⟩ := collectEvidenceNode_ok executed
      exact ⟨rfl, fun _ => rfl, fun _ => rfl⟩
  | plan =>
      obtain ⟨_, -, rfl⟩ := createPlanNode_ok executed
      exact ⟨rfl, fun _ => rfl, fun _ => rfl⟩
  | validatePlan =>
      obtain ⟨_, _, same⟩ := validatePlanNode_eq state
      cases executed
      rw [same]
      exact ⟨rfl, fun _ => rfl, fun _ => rfl⟩
  | revisePlan =>
      obtain ⟨_, _, _, same⟩ := revisePlanNode_eq state
      cases executed
      rw [same]
      exact ⟨rfl, fun _ => rfl, fun other => absurd rfl other⟩
  | optimizePlan =>
      obtain ⟨_, _, rfl⟩ := optimizePlanNode_ok executed
      exact ⟨rfl, fun _ => rfl, fun _ => rfl⟩
  | planFailed | executePlan | stateAnalysis | detectBlockers | recommend | updateMemory =>
      cases executed
      exact ⟨rfl, fun _ => rfl, fun _ => rfl⟩

/-- **A run keeps the identity of its workflow.** -/
theorem reachMemory_identity {services : Services} {initial reached : AgentState}
    (ended : reachMemory services initial = .ok reached) : reached.identity = initial.identity :=
  reachMemory_invariant (fun state => state.identity = initial.identity)
    (fun _ _ _ same executed => (Node.framed_of_exec executed).identity.trans same) rfl ended

theorem workflowId_of_identity {first second : AgentState}
    (same : first.identity = second.identity) : first.workflowId = second.workflowId :=
  congrArg Prod.fst same

section Outline

variable (initial : AgentState)

/-- The completed tasks that `initializeNode` records. -/
def initialCompleted : List String :=
  sortedSet (initial.completedList ++
    newlyCompleted (initial.incomingCompletedTaskIds.getD []) initial.taskList)

/-- The candidate plan of the initial state, if any, was built from its requirements. -/
def BuiltInitially : Prop :=
  ∀ candidate ∈ initial.candidatePlan, candidate = buildCandidatePlan initial.requirementList

/-- Without a candidate nothing has been built yet. -/
theorem builtInitially_of_none {initial : AgentState} (unplanned : initial.candidatePlan = none) :
    BuiltInitially initial := by
  intro candidate present
  rw [unplanned] at present
  cases present

/-- What holds after the initialization for the rest of the run. -/
structure Initialized (state : AgentState) : Prop where
  request : ∃ request, initializeRequest initial = .ok request ∧ state.workRequest = some request
  completed : state.completedTasks = some (initialCompleted initial)

/-- Where the requirements of a run come from: the initial state, if it has any,
or else the language model. -/
def Required (services : Services) (state : AgentState) : Prop :=
  initial.requirementList ≠ [] ∧ state.requirementList = initial.requirementList ∨
    initial.requirementList = [] ∧ ∃ request, initializeRequest initial = .ok request ∧
      services.llm.extractRequirements request = .ok state.requirementList

/-- What holds once the tasks of the plan stand for the state's requirements,
each of them changed by `mark`. -/
structure Planned (mark : Task → Task) (state : AgentState) : Prop where
  candidate : state.candidatePlan = some (buildCandidatePlan state.requirementList)
  tasks : ∃ tasks, materializeTasks (buildCandidatePlan state.requirementList).tasks = .ok tasks ∧
    state.tasks = some (tasks.map mark)

/-- The recommendation of a run has neither an identity nor a decision. -/
structure Recommended (state : AgentState) : Prop where
  recommendation : ∃ recommendation, state.recommendation = some recommendation ∧
    recommendation.recommendationId = "" ∧ recommendation.status = .opened
  executionMetadata : state.executionMetadata = metadata "recommendation" "completed"

/-- The assertion at each node of a run. -/
def outline (services : Services) : Node → AgentState → Prop
  | .initializeNode, state => state = initial
  | .analyzeGoal, state | .extractProcedures, state | .extractRequirements, state =>
    Initialized initial state ∧ state.requirements = initial.requirements ∧
      state.candidatePlan = initial.candidatePlan
  | .collectEvidence, state | .plan, state =>
    Initialized initial state ∧ Required initial services state ∧
      state.candidatePlan = initial.candidatePlan
  | .validatePlan, state | .executePlan, state =>
    Initialized initial state ∧ Required initial services state ∧ Planned id state
  | .optimizePlan, state | .stateAnalysis, state | .detectBlockers, state | .recommend, state =>
    Initialized initial state ∧ Required initial services state ∧
      Planned (markCompleted (initialCompleted initial)) state
  | .updateMemory, state =>
    Initialized initial state ∧ Required initial services state ∧
      Planned (markCompleted (initialCompleted initial)) state ∧ Recommended state
  | .revisePlan, _ | .planFailed, _ => False

variable {initial}

/-- Only the request and the completed tasks matter. -/
theorem Initialized.frame {state other : AgentState} (initialized : Initialized initial state)
    (request : other.workRequest = state.workRequest)
    (completed : other.completedTasks = state.completedTasks) : Initialized initial other := by
  obtain ⟨compiled, made, present⟩ := initialized.request
  exact ⟨⟨compiled, made, request.trans present⟩, completed.trans initialized.completed⟩

/-- Each node carries the outline over to the next one: a built plan is valid,
so the run neither revises nor fails. -/
theorem outline_annotated {services : Services} (built : BuiltInitially initial) :
    (buildGraph services).Annotated (outline initial services) := by
  intro node state result inner holds executed
  change Node.exec services node state = .ok result at executed
  change outline initial services (Node.next node result) result
  cases node with
  | initializeNode =>
      obtain rfl : state = initial := holds
      obtain ⟨request, made, rfl⟩ := initializeNode_ok executed
      exact ⟨⟨⟨request, made, rfl⟩, rfl⟩, rfl, rfl⟩
  | analyzeGoal =>
      obtain ⟨_, _, _, rfl⟩ := analyzeGoalNode_ok executed
      exact ⟨holds.1.frame rfl rfl, holds.2⟩
  | extractProcedures =>
      obtain ⟨_, _, _, rfl⟩ := extractProceduresNode_ok executed
      exact ⟨holds.1.frame rfl rfl, holds.2⟩
  | extractRequirements =>
      obtain ⟨initialized, same, candidate⟩ := holds
      have sameList : state.requirementList = initial.requirementList := by
        rw [AgentState.requirementList, same, AgentState.requirementList]
      obtain ⟨requirements, _, rfl, source⟩ := extractRequirementsNode_ok executed
      refine ⟨initialized.frame rfl rfl, ?_, candidate⟩
      rcases source with ⟨present, rfl⟩ | ⟨missing, request, compiled, answered⟩
      · exact .inl ⟨sameList ▸ present, sameList⟩
      · obtain ⟨initialRequest, made, stored⟩ := initialized.request
        rw [AgentState.request, stored] at compiled
        cases compiled
        exact .inr ⟨sameList ▸ missing, request, made, answered⟩
  | collectEvidence =>
      obtain ⟨_, _, _, _, rfl⟩ := collectEvidenceNode_ok executed
      exact ⟨holds.1.frame rfl rfl, holds.2⟩
  | plan =>
      obtain ⟨tasks, made, rfl⟩ := createPlanNode_ok executed
      obtain ⟨initialized, required, candidate⟩ := holds
      have chosen : chooseCandidate state = buildCandidatePlan state.requirementList := by
        apply chooseCandidate_built
        intro other present
        rw [candidate] at present
        have stored := built other present
        rcases required with ⟨-, same⟩ | ⟨none, -⟩
        · exact .inl (by rw [stored, same])
        · exact .inr (by rw [stored, none])
      rw [chosen] at made ⊢
      exact ⟨initialized.frame rfl rfl, required, rfl, tasks, made, by rw [List.map_id]⟩
  | validatePlan =>
      obtain ⟨initialized, required, planned⟩ := holds
      cases executed
      have valid : validatePlanNode state =
          { state with
            planValidation := some (validatePlan (buildCandidatePlan state.requirementList)
              state.requirementList (state.planRevisionCount.getD 0))
            executionMetadata := metadata "validation" "completed" } := by
        unfold validatePlanNode
        rw [planned.candidate]
      have routed : shouldRevise (validatePlanNode state) = .executePlan := by
        rw [valid]
        simp only [shouldRevise, validatePlan_built, ↓reduceIte]
      simp only [Node.next, routed]
      rw [valid]
      exact ⟨initialized.frame rfl rfl, required, planned.candidate, planned.tasks⟩
  | revisePlan | planFailed => exact holds.elim
  | executePlan =>
      obtain ⟨initialized, required, planned⟩ := holds
      obtain ⟨tasks, made, current⟩ := planned.tasks
      cases executed
      refine ⟨initialized.frame rfl rfl, required, planned.candidate, tasks, made, ?_⟩
      simp only [executePlanNode, AgentState.taskList, current, List.map_id, Option.getD_some,
        AgentState.completedList, initialized.completed]
  | optimizePlan =>
      obtain ⟨_, _, rfl⟩ := optimizePlanNode_ok executed
      exact ⟨holds.1.frame rfl rfl, holds.2.1, holds.2.2.candidate, holds.2.2.tasks⟩
  | stateAnalysis | detectBlockers =>
      cases executed
      exact ⟨holds.1.frame rfl rfl, holds.2.1, holds.2.2.candidate, holds.2.2.tasks⟩
  | recommend =>
      cases executed
      refine ⟨holds.1.frame rfl rfl, holds.2.1, ⟨holds.2.2.candidate, holds.2.2.tasks⟩,
        ⟨_, rfl, ?_⟩, rfl⟩
      dsimp only
      split
      · exact ⟨rfl, rfl⟩
      · split <;> exact ⟨rfl, rfl⟩
  | updateMemory => cases inner

/-- **What a run delivers to the memory node.** -/
theorem reachMemory_outline {services : Services} {reached : AgentState}
    (built : BuiltInitially initial) (ended : reachMemory services initial = .ok reached) :
    Initialized initial reached ∧ Required initial services reached ∧
      Planned (markCompleted (initialCompleted initial)) reached ∧ Recommended reached := by
  have start : outline initial services .initializeNode initial := rfl
  obtain ⟨exit, atExit, holds⟩ := (outline_annotated built).run start ended
  obtain rfl : exit = .updateMemory := by simpa [buildGraph] using atExit
  exact holds

/-- A recommendation to start a task names a task of the plan that is not completed. -/
def NamesStartable (state : AgentState) : Prop :=
  ∀ recommendation ∈ state.recommendation, recommendation.action = "start_task" →
    ∃ task ∈ state.taskList, recommendation.affectedTask = some task.id ∧
      task.id ∉ state.completedList

theorem namesStartable_recommendationNode (clock : Clock) (state : AgentState) :
    NamesStartable (recommendationNode clock state) := by
  intro recommendation present
  obtain rfl := Option.some.inj present
  dsimp only
  cases (currentCandidate state).filter fun task => task.id ∈ state.blockedTasks.getD [] with
  | some candidate => simp
  | none =>
      dsimp only
      cases found : state.taskList.find? fun task =>
          task.id ∉ state.completedList ∧ task.id ∉ state.blockedTasks.getD [] with
      | none => simp
      | some task =>
          have startable : task.id ∉ state.completedList ∧
              task.id ∉ state.blockedTasks.getD [] := by
            simpa using List.find?_some found
          exact fun _ => ⟨task, List.mem_of_find?_eq_some found, rfl, startable.1⟩

/-- What a run recommends to start can be started. -/
theorem reachMemory_namesStartable {services : Services} {reached : AgentState}
    (built : BuiltInitially initial) (ended : reachMemory services initial = .ok reached) :
    NamesStartable reached := by
  have annotated : (buildGraph services).Annotated fun node state =>
      outline initial services node state ∧ (node = .updateMemory → NamesStartable state) := by
    apply (outline_annotated built).and
    intro node state result inner holds _ executed entered
    change Node.exec services node state = .ok result at executed
    change Node.next node result = .updateMemory at entered
    cases node with
    | recommend =>
        cases executed
        exact namesStartable_recommendationNode services.clock state
    | planFailed | revisePlan => exact holds.elim
    | validatePlan =>
        rw [Node.next] at entered
        split at entered <;> cases entered
    | updateMemory => cases inner
    | _ => cases entered
  have start : outline initial services .initializeNode initial := rfl
  obtain ⟨exit, atExit, -, named⟩ := annotated.run ⟨start, fun same => by cases same⟩ ended
  exact named (by simpa [buildGraph] using atExit)

end Outline

end ActionPlan.Agent
