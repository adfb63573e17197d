import ActionPlan.Agent.CarryOver
import ActionPlan.Agent.Continuation
import ActionPlan.Agent.History
import ActionPlan.Foundation.Rounding
import Mathlib.Tactic.FieldSimp

/-! # The analysis of the current state

A run divides the ids of its plan into completed and pending ones and reports the
progress as a percentage. The completed ids come from the record that the run is given,
so after a refresh they need not belong to the plan, and the percentage is rounded, so
it reaches one hundred when one task in two hundred is pending.
-/

namespace ActionPlan.Agent

open ActionPlan.Foundation ActionPlan.Models ActionPlan.Memory

/-- The division of a plan's ids into completed and pending ones, with the progress. -/
structure Divides (tasks : List Task) (completed pending : List String) (progress : Int) :
    Prop where
  disjoint : completed.Disjoint pending
  together : ∀ taskId, taskId ∈ completed ∨ taskId ∈ pending ↔ taskId ∈ tasks.map Task.id
  nonneg : 0 ≤ progress
  le_hundred : progress ≤ 100
  finished : progress = 100 → pending = []

/-- The current state of the record is consistent with its plan. -/
def StateConsistent (workflow : WorkflowState) : Prop :=
  ∃ completed pending progress,
    workflow.currentState.lookup "completed_task_ids" = some (.strings completed) ∧
    workflow.currentState.lookup "pending_task_ids" = some (.strings pending) ∧
    workflow.currentState.lookup "progress" = some (.int progress) ∧
    Divides workflow.tasks completed pending progress

/-- Some tasks are pending, but at most one in two hundred. -/
def NearlyDone (pending total : Nat) : Prop := 0 < pending ∧ 200 * pending ≤ total

/-- Every completed id belongs to the plan, and the plan is not nearly done. -/
structure Divisible (completed ids : List String) : Prop where
  planned : ∀ taskId ∈ completed, taskId ∈ ids
  exact : ¬ NearlyDone (ids.filter (· ∉ completed)).length ids.length

section Percentage

variable {part whole : Nat}

/-- The percentage is the quotient rounded half to even. -/
theorem roundsHalfEven_roundedPercentage (positive : 0 < whole) :
    RoundsHalfEven ((part : ℚ) / whole * 100) (roundedPercentage part whole : Int) := by
  have split : whole * (part * 100 / whole) + part * 100 % whole = part * 100 :=
    Nat.div_add_mod _ _
  have bound : part * 100 % whole < whole := Nat.mod_lt _ positive
  unfold roundedPercentage
  generalize part * 100 / whole = quotient at split ⊢
  generalize part * 100 % whole = remainder at split bound ⊢
  have size : (0 : ℚ) < whole := Nat.cast_pos.mpr positive
  have value : (part : ℚ) / whole * 100 = quotient + remainder / whole := by
    have cast : (whole : ℚ) * quotient + remainder = part * 100 := by exact_mod_cast split
    field_simp
    linarith
  have small : 2 * remainder < whole ↔ (remainder : ℚ) / whole < 1 / 2 := by
    rw [div_lt_div_iff₀ size two_pos, one_mul, mul_comm]
    exact_mod_cast Iff.rfl
  have large : whole < 2 * remainder ↔ 1 / 2 < (remainder : ℚ) / whole := by
    rw [div_lt_div_iff₀ two_pos size, one_mul, mul_comm (remainder : ℚ)]
    exact_mod_cast Iff.rfl
  have fraction : 0 ≤ (remainder : ℚ) / whole ∧ (remainder : ℚ) / whole < 1 := by
    refine ⟨div_nonneg (Nat.cast_nonneg _) size.le, (div_lt_one₀ size).mpr ?_⟩
    exact_mod_cast bound
  rw [value]
  dsimp only
  split_ifs with below above even
  · apply RoundsHalfEven.of_lt_half
    rw [small] at below
    push_cast
    exact abs_lt.mpr ⟨by linarith, by linarith⟩
  · apply RoundsHalfEven.of_lt_half
    rw [large] at above
    push_cast
    exact abs_lt.mpr ⟨by linarith, by linarith⟩
  · apply RoundsHalfEven.of_even
    · rw [large, not_lt] at above
      push_cast
      exact abs_le.mpr ⟨by linarith, by linarith⟩
    · exact_mod_cast Nat.even_iff.mpr even
  · apply RoundsHalfEven.of_even
    · rw [small, not_lt] at below
      push_cast
      exact abs_le.mpr ⟨by linarith, by linarith⟩
    · have odd : Odd quotient := Nat.not_even_iff_odd.mp (mt Nat.even_iff.mp even)
      exact_mod_cast odd.add_one

/-- The percentage of a part lies between nought and one hundred. -/
theorem roundedPercentage_le (positive : 0 < whole) (bounded : part ≤ whole) :
    roundedPercentage part whole ≤ 100 := by
  have size : (0 : ℚ) < whole := Nat.cast_pos.mpr positive
  have value : (part : ℚ) / whole * 100 ≤ (100 : ℤ) := by
    have ratio : (part : ℚ) / whole ≤ 1 := (div_le_one₀ size).mpr (Nat.cast_le.mpr bounded)
    push_cast
    linarith
  exact_mod_cast (roundsHalfEven_roundedPercentage positive).le_of_le value

/-- A percentage of one hundred is reached half a percent below the whole. -/
theorem hundred_le_roundedPercentage (positive : 0 < whole) :
    100 ≤ roundedPercentage part whole ↔ 199 * whole ≤ 200 * part := by
  have size : (0 : ℚ) < whole := Nat.cast_pos.mpr positive
  have rounds : RoundsHalfEven ((part : ℚ) / whole * 100) (roundedPercentage part whole : Int) :=
    roundsHalfEven_roundedPercentage positive
  have reached : (100 : ℤ) ≤ roundedPercentage part whole ↔
      ((100 : ℤ) : ℚ) - 1 / 2 ≤ part / whole * 100 := rounds.even_le_iff ⟨50, rfl⟩
  have half : ((100 : ℤ) : ℚ) - 1 / 2 ≤ part / whole * 100 ↔ (199 : ℚ) * whole ≤ 200 * part := by
    rw [div_mul_eq_mul_div, le_div_iff₀ size]
    constructor <;> intro bound <;> push_cast at bound ⊢ <;> linarith
  rw [half] at reached
  exact_mod_cast reached

end Percentage

/-- One of two hundred tasks is pending. -/
example : roundedPercentage 199 200 = 100 := by decide

section Division

variable {tasks : List Task} {completed ids : List String}

/-- Only the elements of the completed ids matter. -/
theorem Divisible.congr {other : List String}
    (same : ∀ taskId, taskId ∈ other ↔ taskId ∈ completed) :
    Divisible other ids ↔ Divisible completed ids := by
  have filtered : ids.filter (· ∉ other) = ids.filter (· ∉ completed) :=
    List.filter_congr fun taskId _ => by simp only [same]
  constructor
  · rintro ⟨planned, exact⟩
    exact ⟨fun taskId member => planned taskId ((same taskId).mpr member), filtered ▸ exact⟩
  · rintro ⟨planned, exact⟩
    exact ⟨fun taskId member => planned taskId ((same taskId).mp member), filtered.symm ▸ exact⟩

/-- Nothing completed is always consistent with a plan. -/
theorem divisible_nil : Divisible [] ids where
  planned _ member := by cases member
  exact := by
    simp only [NearlyDone, List.not_mem_nil, not_false_eq_true, decide_true, List.filter_true]
    omega

/-- The completed and the pending ids of a plan. -/
theorem length_filter_add (distinct : ids.Nodup) (nodup : completed.Nodup)
    (planned : ∀ taskId ∈ completed, taskId ∈ ids) :
    completed.length + (ids.filter (· ∉ completed)).length = ids.length := by
  have among : (ids.filter (· ∈ completed)).Perm completed := by
    rw [List.perm_ext_iff_of_nodup (distinct.filter _) nodup]
    intro taskId
    rw [List.mem_filter, decide_eq_true_eq]
    exact ⟨And.right, fun member => ⟨planned taskId member, member⟩⟩
  have split : ids.length = (ids.filter (· ∈ completed)).length +
      (ids.filter fun taskId => !decide (taskId ∈ completed)).length :=
    List.length_eq_length_filter_add _
  rw [among.length_eq] at split
  simpa using split.symm

/-- **The analysis of a plan** divides its ids exactly when they hold the completed ones
and the plan is not nearly done. -/
theorem divides_iff (distinct : (tasks.map Task.id).Nodup) (nodup : completed.Nodup) :
    Divides tasks completed ((tasks.map Task.id).filter (· ∉ completed))
      (if tasks = [] then 0 else roundedPercentage completed.length tasks.length : Nat) ↔
      Divisible completed (tasks.map Task.id) := by
  constructor
  · intro divides
    have planned : ∀ taskId ∈ completed, taskId ∈ tasks.map Task.id :=
      fun taskId member => (divides.together taskId).mp (.inl member)
    refine ⟨planned, ?_⟩
    rintro ⟨pending, few⟩
    have size := length_filter_add distinct nodup planned
    rw [List.length_map] at few size
    have positive : 0 < tasks.length := by omega
    have nonempty : tasks ≠ [] := List.ne_nil_of_length_pos positive
    have bounded : completed.length ≤ tasks.length := by omega
    have reached : 100 ≤ roundedPercentage completed.length tasks.length :=
      (hundred_le_roundedPercentage positive).mpr (by omega)
    have capped := roundedPercentage_le positive bounded
    have nothing := divides.finished (by rw [if_neg nonempty]; omega)
    rw [nothing] at pending
    cases pending
  · rintro ⟨planned, exact⟩
    have size := length_filter_add distinct nodup planned
    rw [List.length_map] at exact size
    refine ⟨?_, ?_, ?_, ?_, ?_⟩
    · intro taskId done pending
      simpa [done] using (List.mem_filter.mp pending).2
    · intro taskId
      rw [List.mem_filter, decide_eq_true_eq]
      by_cases done : taskId ∈ completed
      · simp only [done, true_or, true_iff]
        exact planned taskId done
      · simp only [done, not_false_eq_true, and_true, false_or]
    · exact Int.natCast_nonneg _
    · split
      · decide
      · rename_i nonempty
        have positive := List.length_pos_of_ne_nil nonempty
        exact_mod_cast roundedPercentage_le positive (by omega)
    · intro hundred
      split at hundred
      · cases hundred
      · rename_i nonempty
        have positive := List.length_pos_of_ne_nil nonempty
        have reached : 199 * tasks.length ≤ 200 * completed.length :=
          (hundred_le_roundedPercentage positive).mp (by omega)
        rw [← List.length_eq_zero_iff]
        by_contra pending
        exact exact ⟨Nat.pos_of_ne_zero pending, by omega⟩

end Division

section Records

variable {services : Services} {initial reached : AgentState} {saved : WorkflowState}

/-- What a record says of its current state, when a run has delivered it. -/
theorem stateConsistent_iff (built : BuiltInitially initial)
    (ran : reachMemory services initial = .ok reached)
    (delivered : Delivered services initial saved)
    (analysis : saved.currentState = reached.currentState.getD ∅)
    (tasks : saved.tasks = reached.taskList) :
    StateConsistent saved ↔ Divisible (initialCompleted initial) (saved.tasks.map Task.id) := by
  obtain ⟨initialized, -⟩ := reachMemory_outline built ran
  obtain ⟨-, -, -, analyzed, -⟩ := reachMemory_assessed built ran
  have carried : reached.completedList = initialCompleted initial := by
    rw [AgentState.completedList, initialized.completed, Option.getD_some]
  have current := analysis
  rw [analyzed] at current
  simp only [stateAnalysisNode, Option.getD_some, carried, ← tasks] at current
  have pendingIds : saved.currentState.lookup "pending_task_ids" = some (.strings
      ((saved.tasks.map Task.id).filter (· ∉ sortedSet (initialCompleted initial)))) := by
    rw [current, AList.lookup_insert_ne (by decide), AList.lookup_insert_ne (by decide),
      AList.lookup_insert_ne (by decide), AList.lookup_insert]
  have completedIds : saved.currentState.lookup "completed_task_ids" =
      some (.strings (sortedSet (initialCompleted initial))) := by
    rw [current, AList.lookup_insert_ne (by decide), AList.lookup_insert_ne (by decide),
      AList.lookup_insert]
  have percentage : saved.currentState.lookup "progress" = some (.int
      (if saved.tasks = [] then 0 else roundedPercentage
        (sortedSet (initialCompleted initial)).length saved.tasks.length : Nat)) := by
    rw [current, AList.lookup_insert_ne (by decide), AList.lookup_insert]
  have sorted : Divisible (sortedSet (initialCompleted initial)) (saved.tasks.map Task.id) ↔
      Divisible (initialCompleted initial) (saved.tasks.map Task.id) :=
    Divisible.congr fun _ => mem_sortedSet
  rw [← sorted, ← divides_iff delivered.produced.distinct.1 (nodup_sortedSet _)]
  constructor
  · rintro ⟨completed, pending, progress, first, second, third, divides⟩
    rw [completedIds] at first
    rw [pendingIds] at second
    rw [percentage] at third
    obtain rfl := Value.strings_injective (Option.some.inj first)
    obtain rfl := Value.strings_injective (Option.some.inj second)
    obtain rfl := Value.int.inj (Option.some.inj third)
    exact divides
  · exact fun divides => ⟨_, _, _, completedIds, pendingIds, percentage, divides⟩

end Records

/-- The ids of a plan for so many requirements. -/
def plannedIds (count : Nat) : List String := (List.range' 1 count).map positionalId

theorem ids_of_planned {requirements : List Requirement} {tasks : List Task}
    (planned : PlannedFor requirements tasks) :
    tasks.map Task.id = plannedIds requirements.length := by
  have ids := congrArg (List.map Prod.fst) (planned_ids planned)
  rw [List.map_map, List.map_map] at ids
  refine ids.trans ?_
  rw [plannedIds, ← List.zipIdx_map_snd 1 requirements, List.map_map]
  rfl

/-- The record that a run is given has its tasks planned, and completed ids of tasks only. -/
structure Settled (workflow : WorkflowState) : Prop extends Continuable workflow where
  completed : ∀ taskId ∈ workflow.completedTasks, taskId ∈ workflow.tasks.map Task.id

/-- What keeps the completed ids of a record divisible by the plan of a run: a continuation
leaves none of the plan's tasks pending or more than one in two hundred, and a refresh also
plans a task for every completed id. -/
def KeepsDivisible (services : Services) (given : WorkflowState) : Rerun → Prop
  | .continuation completedTaskIds =>
    ¬ NearlyDone ((given.tasks.map Task.id).filter fun taskId =>
      taskId ∉ given.completedTasks ∧ taskId ∉ completedTaskIds).length given.tasks.length
  | .refresh => ∀ payload requirements, rebuildPayload given = .ok payload →
    services.llm.extractRequirements (compileWorkRequest payload) = .ok requirements →
      Divisible given.completedTasks (plannedIds requirements.length)

section Runs

variable {services : Services} {given saved : WorkflowState} {store after : MemoryStore}

/-- A continuation of a settled record is divisible by its plan. -/
theorem divisible_continueInput (settled : Settled given) {completedTaskIds : List String}
    (success : continueWorkflow services given completedTaskIds store = (.ok saved, after)) :
    Divisible (initialCompleted (continueInput given completedTaskIds))
        (saved.tasks.map Task.id) ↔
      KeepsDivisible services given (.continuation completedTaskIds) := by
  have completed : ∀ taskId, taskId ∈ initialCompleted (continueInput given completedTaskIds) ↔
      taskId ∈ given.completedTasks ∨
        taskId ∈ completedTaskIds ∧ taskId ∈ given.tasks.map Task.id :=
    fun taskId => mem_initialCompleted settled.toContinuable
  by_cases missing : given.requirements = []
  · have planned := settled.planned
    rw [missing] at planned
    have empty : given.tasks = [] := plannedFor_nil planned
    have nothing : initialCompleted (continueInput given completedTaskIds) = [] := by
      rw [List.eq_nil_iff_forall_not_mem]
      intro taskId member
      have known := settled.completed taskId
      simp only [completed, empty, List.map_nil, List.not_mem_nil, and_false, or_false]
        at member known
      exact known member
    rw [nothing, KeepsDivisible, empty]
    refine iff_of_true divisible_nil ?_
    simp [NearlyDone]
  · obtain ⟨-, ids⟩ := kept_of_continueWorkflow settled.toContinuable.resumable missing success
    have pending : (given.tasks.map Task.id).filter
          (· ∉ initialCompleted (continueInput given completedTaskIds)) =
        (given.tasks.map Task.id).filter fun taskId =>
          taskId ∉ given.completedTasks ∧ taskId ∉ completedTaskIds := by
      refine List.filter_congr fun taskId member => ?_
      simp only [completed, member, and_true, not_or]
    rw [ids, KeepsDivisible, ← pending, ← List.length_map Task.id]
    refine ⟨Divisible.exact, fun exact => ⟨fun taskId member => ?_, exact⟩⟩
    exact ((completed taskId).mp member).elim (settled.completed taskId) And.right

/-- A refresh is divisible by the plan for the requirements that it is answered. -/
theorem divisible_rebuildInput {payload : WorkRequestInput}
    (compiled : rebuildPayload given = .ok payload)
    (delivered : Delivered services (rebuildInput given payload) saved) :
    Divisible (initialCompleted (rebuildInput given payload)) (saved.tasks.map Task.id) ↔
      KeepsDivisible services given .refresh := by
  rw [Divisible.congr fun _ => mem_initialCompleted_rebuildInput,
    ids_of_planned delivered.planned]
  obtain ⟨present, -⟩ | ⟨-, request, made, answered⟩ := delivered.requirements
  · exact absurd rfl present
  · cases made
    constructor
    · intro divisible other requirements again answer
      obtain rfl := Except.ok.inj (compiled.symm.trans again)
      obtain rfl := Except.ok.inj (answered.symm.trans answer)
      exact divisible
    · exact fun keeps => keeps payload _ compiled answered

/-- A delivered record whose completed ids belong to its plan is settled. -/
theorem settled_of_delivered {initial : AgentState} (delivered : Delivered services initial saved)
    (planned : ∀ taskId ∈ initialCompleted initial, taskId ∈ saved.tasks.map Task.id) :
    Settled saved where
  produced := delivered.produced
  planned := delivered.planned
  completed := delivered.completed ▸ planned

/-- **One run.** The current state that a run of a settled record reports is consistent
exactly when the run keeps the completed ids divisible. -/
theorem stateConsistent_rerun (settled : Settled given) {rerun : Rerun}
    (success : rerun.run services given store = (.ok saved, after)) :
    (StateConsistent saved ↔ KeepsDivisible services given rerun) ∧
      (StateConsistent saved → Settled saved) := by
  cases rerun with
  | continuation completedTaskIds =>
      have delivered := delivered_of_continueWorkflow settled.toContinuable success
      have divisible := divisible_continueInput settled success
      obtain ⟨reached, ran, rfl, -⟩ := exists_run_of_continueWorkflow success
      have consistent := stateConsistent_iff (settled.produced.builtInitially completedTaskIds) ran
        delivered rfl rfl
      rw [consistent]
      exact ⟨divisible, fun holds => settled_of_delivered delivered holds.planned⟩
  | refresh =>
      obtain ⟨payload, reached, compiled, ran, rfl⟩ := exists_run_of_rebuildWorkflow success
      have delivered := delivered_of_rebuild compiled success
      have consistent := stateConsistent_iff (builtInitially_of_none rfl) ran delivered
        rfl rfl
      rw [consistent]
      exact ⟨divisible_rebuildInput compiled delivered,
        fun holds => settled_of_delivered delivered holds.planned⟩

/-- The execution of a new workflow reports a consistent state. -/
theorem stateConsistent_executed {workflowId workerId : String} {claimedAt : DateTime}
    {payload : WorkRequestInput}
    (success : executeWorkflowSync services workflowId workerId claimedAt payload store =
      (.ok saved, after)) : StateConsistent saved ∧ Settled saved := by
  obtain ⟨reached, ran, rfl⟩ := exists_run_of_executeWorkflowSync success
  have delivered := delivered_executedWorkflow ran
  have divisible : Divisible (initialCompleted (executionInput workflowId workerId payload))
      ((executedWorkflow services.clock
        (updateMemoryResult services.clock reached)).tasks.map Task.id) := divisible_nil
  have consistent := stateConsistent_iff (builtInitially_of_none rfl) ran delivered rfl rfl
  exact ⟨consistent.mpr divisible, settled_of_delivered delivered divisible.planned⟩

/-- A record without a run behind it is settled, and keeps its completed ids divisible. -/
theorem settled_queuedWorkflow (creation : Creation) (payload : WorkRequestInput) :
    Settled (queuedWorkflow creation payload) where
  produced := .queued creation payload
  planned := rfl
  completed _ member := by cases member

theorem keepsDivisible_queuedWorkflow (creation : Creation) (payload : WorkRequestInput)
    (rerun : Rerun) : KeepsDivisible services (queuedWorkflow creation payload) rerun := by
  cases rerun with
  | continuation completedTaskIds => exact fun nearly => absurd nearly.1 (Nat.lt_irrefl 0)
  | refresh => exact fun _ _ _ _ => divisible_nil

end Runs

/-- The workflows that runs of the service deliver. A run is given a new record, or a
delivered one as it was returned or is read back from a store. -/
inductive Reachable (admits : Services → WorkflowState → Rerun → Prop) : WorkflowState → Prop
  | created {services : Services} {workflowId workerId : String} {claimedAt : DateTime}
      {payload : WorkRequestInput} {store after : MemoryStore} {workflow : WorkflowState}
      (success : executeWorkflowSync services workflowId workerId claimedAt payload store =
        (.ok workflow, after)) : Reachable admits workflow
  | first {services : Services} {creation : Creation} {payload : WorkRequestInput} {rerun : Rerun}
      {store after : MemoryStore} {saved : WorkflowState}
      (success : rerun.run services (queuedWorkflow creation payload) store =
        (.ok saved, after)) : Reachable admits saved
  | next {services : Services} {workflow given saved : WorkflowState} {rerun : Rerun}
      {store after : MemoryStore} (reachable : Reachable admits workflow)
      (readBack : ReadBack workflow given) (admitted : admits services given rerun)
      (success : rerun.run services given store = (.ok saved, after)) : Reachable admits saved

theorem Settled.readBack {workflow given : WorkflowState} (settled : Settled workflow)
    (readBack : ReadBack workflow given) : Settled given := by
  obtain ⟨-, tasks, completed, -⟩ := readBack.fields
  refine ⟨settled.toContinuable.readBack readBack, ?_⟩
  rw [completed, tasks]
  exact settled.completed

/-- **The current state is consistent** with the plan in every workflow that runs deliver
which keep the completed ids divisible. -/
theorem stateConsistent_run {workflow : WorkflowState}
    (reachable : Reachable KeepsDivisible workflow) : StateConsistent workflow := by
  have settled : StateConsistent workflow ∧ Settled workflow := by
    induction reachable with
    | created success => exact stateConsistent_executed success
    | first success =>
        obtain ⟨divides, settles⟩ := stateConsistent_rerun (settled_queuedWorkflow _ _) success
        have consistent := divides.mpr (keepsDivisible_queuedWorkflow _ _ _)
        exact ⟨consistent, settles consistent⟩
    | next _ readBack admitted success ih =>
        obtain ⟨divides, settles⟩ := stateConsistent_rerun (ih.2.readBack readBack) success
        exact ⟨divides.mpr admitted, settles (divides.mpr admitted)⟩
  exact settled.1

section Fewer

/-- A workflow with one task is created and continued with the task, and a refresh then
finds no requirements. -/
theorem sample_completed : ∃ workflow continued saved store continuedStore refreshedStore,
    executeWorkflowSync taskServices "workflow" "worker" .newYear { goal := "goal" } store =
      (.ok workflow, sampleCreation.2) ∧ workflow.tasks.length = 1 ∧
    (Rerun.continuation ["task_1"]).run taskServices workflow sampleCreation.2 =
      (.ok continued, continuedStore) ∧ "task_1" ∈ continued.completedTasks ∧
    Rerun.refresh.run silentServices continued sampleCreation.2 =
      (.ok saved, refreshedStore) := by
  have outcome : (sampleCreation.1 >>= fun workflow =>
      (continueWorkflow taskServices workflow ["task_1"] sampleCreation.2).1 >>= fun continued =>
      (rebuildWorkflow silentServices continued sampleCreation.2).1 >>= fun _ =>
      if workflow.tasks.length = 1 ∧ "task_1" ∈ continued.completedTasks then .ok ()
      else .error .validationError).isOk = true := by
    decide +kernel
  obtain ⟨_, all⟩ := ok_of_isOk outcome
  obtain ⟨workflow, created, rest⟩ := ok_of_bind all
  obtain ⟨continued, success, rest⟩ := ok_of_bind rest
  obtain ⟨saved, refreshed, rest⟩ := ok_of_bind rest
  split at rest
  · rename_i observed
    let store : MemoryStore := ({ backend := .localStore } : MemoryStore).saveWorkflow
      (queuedWorkflow ⟨"workflow", .newYear, .newYear⟩ { goal := "goal" })
    have executed : executeWorkflowSync taskServices "workflow" "worker" .newYear
        { goal := "goal" } store = sampleCreation := rfl
    exact ⟨workflow, continued, saved, store, _, _, executed.trans (Prod.ext created rfl),
      observed.1, Prod.ext success rfl, observed.2, Prod.ext refreshed rfl⟩
  · cases rest

/-- Completing the only task keeps the current state consistent. -/
theorem stateConsistent_continued : ∃ continued, "task_1" ∈ continued.completedTasks ∧
    Reachable KeepsDivisible continued ∧ StateConsistent continued := by
  obtain ⟨workflow, continued, _, _, after, _, created, single, success, completed, -⟩ :=
    sample_completed
  have admitted : KeepsDivisible taskServices workflow (.continuation ["task_1"]) := by
    rw [KeepsDivisible, single]
    rintro ⟨pending, few⟩
    omega
  have reachable : Reachable KeepsDivisible continued :=
    .next (.created created) (.inl rfl) admitted success
  exact ⟨continued, completed, reachable, stateConsistent_run reachable⟩

/-- A refresh that plans fewer tasks reports completed ids of no task. -/
theorem refresh_inconsistent : ¬ ∀ workflow : WorkflowState,
    Reachable (fun _ _ _ => True) workflow → StateConsistent workflow := by
  intro claim
  obtain ⟨workflow, continued, saved, _, after, left, created, -, success, completed, refreshed⟩ :=
    sample_completed
  have continuedReachable : Reachable (fun _ _ _ => True) continued :=
    .next (.created created) (.inl rfl) trivial success
  have settled : Settled continued :=
    (stateConsistent_rerun (stateConsistent_executed created).2 success).2
      (claim continued continuedReachable)
  have consistent := claim saved (.next continuedReachable (.inl rfl) trivial refreshed)
  have keeps := (stateConsistent_rerun settled refreshed).1.mp consistent
  have rebuilt : rebuildWorkflow silentServices continued sampleCreation.2 = (.ok saved, left) :=
    refreshed
  obtain ⟨payload, -, compiled, -⟩ := exists_run_of_rebuildWorkflow rebuilt
  have divisible : Divisible continued.completedTasks (plannedIds 0) :=
    keeps payload [] compiled rfl
  exact List.not_mem_nil (divisible.planned "task_1" completed)

end Fewer

end ActionPlan.Agent
