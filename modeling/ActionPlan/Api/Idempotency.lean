import ActionPlan.Api.Soundness
import ActionPlan.Foundation.Interleaving

/-! # Goals that share an idempotency key

`create_goal` looks the key up, creates a workflow, ensures it in the workspace store
and records the key, each with its own transaction. Between the lookup and the
recording, other requests with the key find it unrecorded, and a request that fails on
the way never records it.
-/

namespace ActionPlan.Api.Idempotency

open ActionPlan.Foundation ActionPlan.Models ActionPlan.Agent ActionPlan.Workspace

/-- How far a request has come. -/
inductive Request where
  | waiting
  | missed (goal : Goal)
  | created (goal : Goal) (workflow : WorkflowState)
  | ensured (goal : Goal) (result : WorkflowState)
  | responded (workflow : WorkflowState)
  | failed

/-- The steps of a creation request: the lookup of the key, the creation, the row and the key's
record. -/
inductive Action where
  | lookup (goal : Goal)
  | create
  | ensure
  | record
  | fail

/-- The server, and what has been created for the key. -/
structure Shared where
  server : Server
  /-- The ids under which the requests have saved a workflow. -/
  created : List String := []
  /-- Whether a request has missed the key and not yet created its workflow. -/
  creating : Bool := false

namespace Shared

variable (shared : Shared)

/-- The shared state after `create_workflow_sync` or `create_workflow`, which save the
queued workflow before anything else. -/
def create (goal : Goal) (server : Server) : Shared where
  server
  created := shared.created ++ [goal.creation.workflowId]

/-- The shared state after the row of the workflow has been written. -/
def ensure (db : Database) : Shared := { shared with server := { shared.server with db } }

/-- The shared state after the key has been recorded. -/
def record (goal : Goal) (workflowId : String) : Shared :=
  { shared with server := shared.server.keyed goal workflowId }

end Shared

/-- The program of a request with the key; it can fail between any two steps. -/
def requests (idempotencyKey : String) : Interleaving Shared Request Action where
  step request shared action :=
    match request, action with
    | .waiting, .lookup goal =>
      if goal.idempotencyKey = some idempotencyKey then
        match shared.server.existing goal with
        | .error _ => some (.failed, shared)
        | .ok (some workflow) => some (.responded workflow, shared)
        | .ok none => some (.missed goal, { shared with creating := true })
      else none
    | .missed goal, .create =>
      match shared.server.create goal with
      | (.error _, server) => some (.failed, shared.create goal server)
      | (.ok workflow, server) => some (.created goal workflow, shared.create goal server)
    | .created goal workflow, .ensure =>
      match shared.server.db.ensure goal.tokens workflow with
      | .error _ => some (.failed, shared)
      | .ok (result, db) => some (.ensured goal result, shared.ensure db)
    | .ensured goal result, .record =>
      some (.responded result, shared.record goal result.workflowId)
    | .missed _, .fail => some (.failed, { shared with creating := false })
    | .waiting, .fail | .created _ _, .fail | .ensured _ _, .fail => some (.failed, shared)
    | _, _ => none

section Alone

variable {idempotencyKey : String} {goal : Goal}

/-- The response of a request that has ended with one. -/
def Request.response : Request → Option WorkflowState
  | responded workflow => some workflow
  | waiting | missed _ | created _ _ | ensured _ _ | failed => none

/-- The request can end alone as the route ends. -/
def Ends (idempotencyKey : String) (start : Request × Shared) (served : Served) : Prop :=
  ∃ final, (requests idempotencyKey).solo.Run TransitionSystem.unguarded start final ∧
    final.2.server = served.2 ∧ final.1.response = served.1.toOption

theorem Ends.after {request : Request} {shared : Shared} (action : Action)
    {next : Request × Shared} {served : Served} (ends : Ends idempotencyKey next served)
    (taken : (requests idempotencyKey).step request shared action = some next) :
    Ends idempotencyKey (request, shared) served := by
  obtain ⟨final, run, server, response⟩ := ends
  exact ⟨final, .head ⟨action, trivial, taken⟩ run, server, response⟩

theorem ends_refl {request : Request} {shared : Shared} {served : Served}
    (server : shared.server = served.2) (response : request.response = served.1.toOption) :
    Ends idempotencyKey (request, shared) served :=
  ⟨(request, shared), .refl, server, response⟩

/-- A request that runs alone is `create_goal`. -/
theorem ends_createGoal (keyed : goal.idempotencyKey = some idempotencyKey) (shared : Shared) :
    Ends idempotencyKey (.waiting, shared) (shared.server.createGoal goal) := by
  rw [Server.createGoal]
  cases found : shared.server.existing goal with
  | error failure =>
      have failed : Ends idempotencyKey (.failed, shared) (.error failure, shared.server) :=
        ends_refl rfl rfl
      exact failed.after (.lookup goal) (by simp only [requests, keyed, found, if_true])
  | ok existing =>
      cases existing with
      | some workflow =>
          have responded : Ends idempotencyKey (.responded workflow, shared)
              (.ok workflow, shared.server) := ends_refl rfl rfl
          exact responded.after (.lookup goal) (by simp only [requests, keyed, found, if_true])
      | none =>
          let missed := { shared with creating := true }
          suffices goes : Ends idempotencyKey (.missed goal, missed) _ from
            goes.after (.lookup goal) (by simp only [requests, keyed, found, if_true, missed])
          dsimp only
          cases creation : shared.server.create goal with
          | mk outcome server =>
              let next := missed.create goal server
              cases outcome with
              | error failure =>
                  have failed : Ends idempotencyKey (.failed, next) (.error failure, server) :=
                    ends_refl rfl rfl
                  exact failed.after .create (by simp only [requests, creation, next, missed])
              | ok workflow =>
                  suffices goes : Ends idempotencyKey (.created goal workflow, next) _ from
                    goes.after .create (by simp only [requests, creation, next, missed])
                  have middle : next.server = server := rfl
                  dsimp only
                  rw [← middle]
                  cases ensured : next.server.db.ensure goal.tokens workflow with
                  | error failure =>
                      have failed : Ends idempotencyKey (.failed, next)
                          (.error failure, next.server) := ends_refl rfl rfl
                      exact failed.after .ensure (by simp only [requests, ensured])
                  | ok result =>
                      have responded : Ends idempotencyKey
                          (.responded result.1, (next.ensure result.2).record goal
                            result.1.workflowId)
                          (.ok result.1, { next.server with db := result.2 }.keyed goal
                            result.1.workflowId) := ends_refl rfl rfl
                      have recorded : Ends idempotencyKey
                          (.ensured goal result.1, next.ensure result.2) _ :=
                        responded.after .record rfl
                      exact recorded.after .ensure (by simp only [requests, ensured])

end Alone

/-- At most one workflow is created for the key, and all responses are for it. -/
structure Idempotent {Thread : Type*} (configuration : Configuration Thread Shared Request) :
    Prop where
  once : configuration.shared.created.length ≤ 1
  same : ∀ first second firstWorkflow secondWorkflow,
    configuration.locals first = .responded firstWorkflow →
    configuration.locals second = .responded secondWorkflow →
      firstWorkflow.workflowId = secondWorkflow.workflowId

/-- A lookup finds the key, or nothing has been or is being created for it. -/
def Exclusive : Request → Shared → Action → Prop
  | .waiting, shared, .lookup goal =>
    shared.server.existing goal = .ok none → shared.creating = false ∧ shared.created = []
  | _, _, _ => True

/-- All requests are waiting at a server that has been running for any time. What has
been created for the key is the workflow that it is recorded with, if it is. -/
structure Initial {Thread : Type*} (idempotencyKey : String)
    (configuration : Configuration Thread Shared Request) : Prop where
  reachable : ∃ started, Api.Initial started ∧
    Api.system.Run TransitionSystem.unguarded started configuration.shared.server
  created : configuration.shared.created =
    ((configuration.shared.server.db.idempotencyKeys.find? idempotencyKey).map
      IdempotencyRow.workflowId).toList
  waiting : ∀ thread, configuration.locals thread = .waiting

section Outline

variable {idempotencyKey : String}

/-- What a step can do. -/
inductive Step (idempotencyKey : String) (shared : Shared) :
    Request → Action → Request → Shared → Prop
  | failed {request : Request} {action : Action} (early : ∀ goal, request ≠ .missed goal) :
      Step idempotencyKey shared request action .failed shared
  | hit {goal : Goal} {workflow : WorkflowState}
      (keyed : goal.idempotencyKey = some idempotencyKey)
      (found : shared.server.existing goal = .ok (some workflow)) :
      Step idempotencyKey shared .waiting (.lookup goal) (.responded workflow) shared
  | missed {goal : Goal} (absent : shared.server.existing goal = .ok none) :
      Step idempotencyKey shared .waiting (.lookup goal) (.missed goal)
        { shared with creating := true }
  | cancelled {goal : Goal} :
      Step idempotencyKey shared (.missed goal) .fail .failed { shared with creating := false }
  | created {goal : Goal} {after : Request} {server : Server} (db : server.db = shared.server.db)
      (outcome : after = .failed ∨ ∃ workflow, after = .created goal workflow ∧
        workflow.workflowId = goal.creation.workflowId) :
      Step idempotencyKey shared (.missed goal) .create after (shared.create goal server)
  | ensured {goal : Goal} {workflow result : WorkflowState} {db : Database}
      (written : shared.server.db.Written goal.tokens workflow result db) :
      Step idempotencyKey shared (.created goal workflow) .ensure (.ensured goal result)
        (shared.ensure db)
  | recorded {goal : Goal} {result : WorkflowState} :
      Step idempotencyKey shared (.ensured goal result) .record (.responded result)
        (shared.record goal result.workflowId)

theorem step_cases {request after : Request} {shared next : Shared} {action : Action}
    (stepped : (requests idempotencyKey).step request shared action = some (after, next)) :
    Step idempotencyKey shared request action after next := by
  simp only [requests] at stepped
  split at stepped
  · rename_i goal
    split at stepped
    · rename_i keyed
      split at stepped
      · cases stepped
        exact .failed fun _ same => by cases same
      · rename_i found
        cases stepped
        exact .hit keyed found
      · rename_i absent
        cases stepped
        exact .missed absent
    · cases stepped
  · rename_i goal
    have creates : Creates shared.server goal (shared.server.create goal) := create_cases
    generalize shared.server.create goal = served at creates stepped
    cases creates with
    | failed failure records =>
        cases stepped
        exact .created records.db (.inl rfl)
    | made records work state =>
        cases stepped
        exact .created records.db
          (.inr ⟨_, rfl, work.workflowId.symm.trans records.owned⟩)
  · split at stepped
    · cases stepped
      exact .failed fun _ same => by cases same
    · rename_i success
      cases stepped
      exact .ensured (Database.write_ok success)
  · cases stepped
    exact .recorded
  · cases stepped
    exact .cancelled
  all_goals
    cases stepped
  all_goals exact .failed fun _ same => by cases same

/-- The rows are consistent, one workflow at most has been created, and the key is
recorded with no other one. -/
structure SharedInvariant (idempotencyKey : String) (shared : Shared) : Prop where
  rows : Ledger.RowsConsistent shared.server.db
  once : shared.created.length ≤ 1
  recorded : ∀ row, shared.server.db.idempotencyKeys.find? idempotencyKey = some row →
    row.workflowId ∈ shared.created

def RequestInvariant : Request → Shared → Prop
  | .waiting, _ | .failed, _ => True
  | .missed _, shared => shared.creating = true ∧ shared.created = []
  | .created _ workflow, shared | .ensured _ workflow, shared | .responded workflow, shared =>
    workflow.workflowId ∈ shared.created

/-- Not both of two requests have missed the key and not yet created a workflow. -/
def Apart : Request → Request → Prop
  | .missed _, .missed _ => False
  | _, _ => True

/-- The key is recorded with the workflow of a repeated response. -/
theorem recorded_of_existing {server : Server} {goal : Goal} {workflow : WorkflowState}
    (rows : Ledger.RowsConsistent server.db) (keyed : goal.idempotencyKey = some idempotencyKey)
    (found : server.existing goal = .ok (some workflow)) :
    ∃ row, server.db.idempotencyKeys.find? idempotencyKey = some row ∧
      workflow.workflowId = row.workflowId := by
  unfold Server.existing at found
  split at found
  · cases found
  · rename_i key truthy
    have same : key = idempotencyKey := by
      rw [keyed, truthyString] at truthy
      split at truthy
      · cases truthy
      · exact (Option.some.inj truthy).symm
    subst same
    unfold Database.getByIdempotencyKey at found
    split at found
    · cases found
    · rename_i row present
      obtain ⟨state, get, same⟩ := ok_of_map found
      cases same
      obtain ⟨stored, located, rfl⟩ := Option.map_eq_some_iff.mp (Database.get_eq_ok.mp get)
      have named := ((Table.find?_eq_some _ _ _).mp located).2
      exact ⟨row, present, (rows row.workflowId stored located).workflowId.trans named⟩

/-- Only a guarded creation adds a workflow, and it is the first one. -/
theorem sharedInvariant_step {request after : Request} {shared next : Shared} {action : Action}
    (invariant : SharedInvariant idempotencyKey shared) (own : RequestInvariant request shared)
    (step : Step idempotencyKey shared request action after next) :
    SharedInvariant idempotencyKey next := by
  cases step with
  | failed | hit | missed | cancelled => exact ⟨invariant.rows, invariant.once, invariant.recorded⟩
  | created db outcome =>
      refine ⟨?_, ?_, fun row found => ?_⟩
      · rw [Shared.create, db]
        exact invariant.rows
      · rw [Shared.create, own.2]
        exact le_rfl
      · rw [Shared.create, db] at found
        exact List.mem_append_left _ (invariant.recorded row found)
  | ensured written =>
      refine ⟨Ledger.rowsConsistent_written written invariant.rows, invariant.once,
        fun row found => invariant.recorded row ?_⟩
      rw [← found]
      exact congrArg (Table.find? · idempotencyKey) written.idempotencyKeys.symm
  | @recorded goal result =>
      refine ⟨?_, invariant.once, fun row found => ?_⟩
      · obtain ⟨idempotencyKeys, keyed⟩ := keyed_cases goal shared.server result.workflowId
        rw [Shared.record, keyed]
        exact invariant.rows.congr rfl rfl
      · rw [Shared.record, Server.keyed] at found
        split at found
        · exact invariant.recorded row found
        · rcases Table.find?_insertOrIgnore found with old | rfl
          · exact invariant.recorded row old
          · exact own

/-- A thread's own step establishes its next assertion. -/
theorem requestInvariant_step {request after : Request} {shared next : Shared} {action : Action}
    (invariant : SharedInvariant idempotencyKey shared) (own : RequestInvariant request shared)
    (exclusive : Exclusive request shared action)
    (step : Step idempotencyKey shared request action after next) :
    RequestInvariant after next := by
  cases step with
  | failed | cancelled => exact trivial
  | hit keyed found =>
      obtain ⟨row, present, named⟩ := recorded_of_existing invariant.rows keyed found
      rw [RequestInvariant, named]
      exact invariant.recorded row present
  | missed absent => exact ⟨rfl, (exclusive absent).2⟩
  | created db outcome =>
      rcases outcome with rfl | ⟨workflow, rfl, named⟩
      · exact trivial
      · rw [RequestInvariant, named]
        exact List.mem_append_right _ (.head _)
  | ensured written =>
      rw [RequestInvariant, written.returned]
      exact own
  | recorded => exact own

/-- A step of another thread keeps a thread's assertion. -/
theorem requestInvariant_stable {request after other : Request} {shared next : Shared}
    {action : Action} (apart : Apart request other)
    (step : Step idempotencyKey shared request action after next)
    (holds : RequestInvariant other shared) : RequestInvariant other next := by
  cases step with
  | failed | hit => exact holds
  | ensured | recorded => cases other <;> exact holds
  | missed absent =>
      cases other with
      | missed => exact ⟨rfl, holds.2⟩
      | _ => exact holds
  | cancelled =>
      cases other with
      | missed => exact apart.elim
      | _ => exact holds
  | created db outcome =>
      cases other with
      | waiting | failed => exact trivial
      | missed => exact apart.elim
      | _ => exact List.mem_append_left _ holds

/-- The proof outline of exclusive requests. -/
def outline (idempotencyKey : String) : (requests idempotencyKey).ProofOutline Exclusive where
  shared := SharedInvariant idempotencyKey
  thread := RequestInvariant
  pair first second _ := Apart first second
  shared_step _ _ _ _ _ invariant own _ stepped :=
    sharedInvariant_step invariant own (step_cases stepped)
  thread_step _ _ _ _ _ invariant own exclusive stepped :=
    requestInvariant_step invariant own exclusive (step_cases stepped)
  thread_stable _ _ _ _ _ _ _ _ holds apart _ stepped :=
    requestInvariant_stable apart (step_cases stepped) holds
  pair_symm first second _ apart := by
    cases first <;> cases second <;> first
      | exact trivial
      | exact apart.elim
  pair_step _ _ _ after _ other _ _ holds _ exclusive stepped := by
    cases step_cases stepped with
    | failed | hit | cancelled | ensured | recorded => exact trivial
    | missed absent =>
        cases other with
        | missed =>
            -- the other request is still creating, and the guard excludes it
            have creating := holds.1
            rw [(exclusive absent).1] at creating
            cases creating
        | _ => exact trivial
    | created db outcome =>
        rcases outcome with rfl | ⟨workflow, rfl, -⟩ <;> exact trivial
  pair_stable _ _ _ _ _ _ _ _ _ apart _ _ := apart

end Outline

theorem eq_of_length_le_one {α : Type*} {items : List α} (short : items.length ≤ 1)
    {first second : α} (left : first ∈ items) (right : second ∈ items) : first = second := by
  obtain ⟨index, bound, rfl⟩ := List.getElem_of_mem left
  obtain ⟨other, otherBound, rfl⟩ := List.getElem_of_mem right
  obtain rfl : index = other := by omega
  rfl

/-- **Exclusive requests are idempotent.** In every interleaving in which a lookup
misses the key only when nothing has been or is being created for it, at most one
workflow is created, and every response is for the same workflow. -/
theorem exclusive_idempotent {Thread : Type*} [DecidableEq Thread] {idempotencyKey : String}
    {source target : Configuration Thread Shared Request} (initial : Initial idempotencyKey source)
    (run : (requests idempotencyKey).system.Run (Interleaving.localGuard Exclusive) source
      target) : Idempotent target := by
  obtain ⟨started, fresh, reachable⟩ := initial.reachable
  have start : (outline idempotencyKey).Holds source := by
    refine ⟨⟨(sound_run fresh.sound reachable).rows, ?_, fun row found => ?_⟩, ?_, ?_⟩
    · rw [initial.created]
      cases source.shared.server.db.idempotencyKeys.find? idempotencyKey <;> simp
    · rw [initial.created, found]
      exact .head _
    · intro thread
      rw [initial.waiting thread]
      exact trivial
    · intro first second _
      rw [initial.waiting first]
      exact trivial
  have holds := (outline idempotencyKey).run start run
  refine ⟨holds.shared.once, fun first second firstWorkflow secondWorkflow left right => ?_⟩
  have firstCreated := holds.thread first
  have secondCreated := holds.thread second
  rw [left] at firstCreated
  rw [right] at secondCreated
  exact eq_of_length_le_one holds.shared.once firstCreated secondCreated

section TwoRequests

/-- The request of a client with the key, and of one that repeats it. -/
def keyedGoal (repeated : Bool) : Goal :=
  { taskGoal false with
    idempotencyKey := some "key"
    creation :=
      { workflowId := if repeated then "wf_goal_2" else "wf_goal_1"
        createdAt := .newYear
        updatedAt := .newYear }
    tokens := tokensOf (if repeated then "event_2" else "event_1") }

/-- Two requests that wait at a server that has nothing stored. -/
def twoWaiting : Configuration Bool Shared Request where
  shared := { server := emptyServer }
  locals _ := .waiting

theorem initial_twoWaiting : Initial "key" twoWaiting where
  reachable := ⟨emptyServer, initial_emptyServer, .refl⟩
  created := rfl
  waiting _ := rfl

/-- The configuration after the given labels. -/
def afterLabels (labels : List (Bool × Action)) : Configuration Bool Shared Request :=
  ((requests "key").system.runFrom twoWaiting labels).getD twoWaiting

/-- The second request starts when the first one has recorded the key. -/
theorem exclusive_idempotent_repeated : Idempotent
    (afterLabels [(false, .lookup (keyedGoal false)), (false, .create), (false, .ensure),
      (false, .record), (true, .lookup (keyedGoal true))]) :=
  exclusive_idempotent initial_twoWaiting (TransitionSystem.run_of_allows
    [(false, .lookup (keyedGoal false)), (false, .create), (false, .ensure),
      (false, .record), (true, .lookup (keyedGoal true))]
    (by
      exact ⟨fun _ => ⟨rfl, rfl⟩, trivial, trivial, trivial, fun absent => (by cases absent),
        trivial⟩)
    rfl)

/-- The second request looks the key up before the first one has recorded it. -/
theorem overlapping_created_twice : ¬ ∀ source target : Configuration Bool Shared Request,
    Initial "key" source →
      (requests "key").system.Run TransitionSystem.unguarded source target →
        Idempotent target := by
  intro claim
  have idempotent := claim twoWaiting _ initial_twoWaiting (TransitionSystem.run_of_runFrom
    [(false, .lookup (keyedGoal false)), (true, .lookup (keyedGoal true)), (false, .create),
      (true, .create), (false, .ensure), (true, .ensure), (false, .record), (true, .record)] rfl)
  have same := idempotent.same false true _ _ rfl rfl
  exact absurd same (by decide)

end TwoRequests

end ActionPlan.Api.Idempotency
