import ActionPlan.Foundation.Interleaving
import ActionPlan.Workspace.Ledger
import ActionPlan.Workspace.Requests

/-! # Concurrent writers of one workflow

A request loads the workflow with `get`, edits it, selects the stored version
and then runs its write transaction. The select is outside the transaction, so
another writer can commit between the two. The history lists what was
committed, with the content that its writer had loaded.
-/

namespace ActionPlan.Workspace.Concurrency

open ActionPlan.Foundation ActionPlan.Models

/-- A committed content and the content from which its writer derived it. -/
structure Commit where
  basis : Option WorkflowState
  content : WorkflowState

/-- The database and the writes that have been committed to it. -/
structure Shared where
  db : Database
  history : List Commit

/-- How far a call has come. -/
inductive Writer where
  | idle
  | loaded (request : Request) (workflow : WorkflowState)
  | checked (request : Request) (workflow draft : WorkflowState)
  | succeeded (expectedVersion : Int)
  | failed

/-- The steps of a writing request: the read of the record, the version check and the transaction.
-/
inductive Action where
  | load (request : Request)
  | select
  | write (tokens : Tokens)
  | fail

/-- The database after a commit, with the commit in the history. -/
def Shared.commit (shared : Shared) (workflowId : String) (basis : WorkflowState)
    (next : Database) : Shared where
  db := next
  history :=
    match next.get workflowId with
    | .ok content => shared.history ++ [{ basis := some basis, content }]
    | .error _ => shared.history

/-- The program of a call for one workflow. -/
def calls (workflowId : String) : Interleaving Shared Writer Action where
  step writer shared action :=
    match writer, action with
    | .idle, .load request =>
      match shared.db.get workflowId with
      | .error _ => some (.failed, shared)
      | .ok workflow => some (.loaded request workflow, shared)
    | .loaded request workflow, .select =>
      match request.change.prepare workflow with
      | .error _ => some (.failed, shared)
      | .ok draft =>
        match shared.db.checkVersion draft.workflowId request.expectedVersion with
        | .error _ => some (.failed, shared)
        | .ok () => some (.checked request workflow draft, shared)
    | .checked request workflow draft, .write tokens =>
      match request.commit shared.db tokens draft with
      | .error _ => some (.failed, shared)
      | .ok (_, next) =>
        some (.succeeded request.expectedVersion, shared.commit workflowId workflow next)
    | .idle, .fail | .loaded _ _, .fail | .checked _ _ _, .fail => some (.failed, shared)
    | _, _ => none

/-- The history of a workflow without lost updates: no version is committed
twice, and every commit was derived from the content of the version before it. -/
structure Serial (history : List Commit) : Prop where
  distinct : (history.map fun commit => commit.content.version).Nodup
  derived : ∀ commit ∈ history, ∀ basis ∈ commit.basis,
    (∃ earlier ∈ history, earlier.content = basis) ∧
      commit.content.version = basis.version + 1

/-- At most one call succeeds for an expected version, and no update is lost. -/
structure Serialised {Thread : Type*} (configuration : Configuration Thread Shared Writer) :
    Prop where
  once : ∀ first second expectedVersion,
    configuration.locals first = .succeeded expectedVersion →
    configuration.locals second = .succeeded expectedVersion → first = second
  history : Serial configuration.shared.history

/-- A write transaction finds the version that was selected, and its writer had
loaded the content of that version. -/
def Undisturbed (workflowId : String) : Writer → Shared → Action → Prop
  | .checked request workflow _, shared, .write _ =>
    shared.db.selectVersion workflowId = some request.expectedVersion ∧
      workflow.version = request.expectedVersion
  | _, _, _ => True

/-- Loading, no request in progress, and one committed content: the stored one. -/
structure Initial {Thread : Type*} (workflowId : String)
    (configuration : Configuration Thread Shared Writer) : Prop where
  reachable : ∃ ledger, Ledger.system.Run TransitionSystem.unguarded {} ledger ∧
    ledger.db = configuration.shared.db
  stored : ∃ content, configuration.shared.db.get workflowId = .ok content ∧
    configuration.shared.history = [{ basis := none, content }]
  idle : ∀ thread, configuration.locals thread = .idle

section Outline

variable {workflowId : String}

/-- The stored content is committed, and no committed version is larger. -/
structure Current (workflowId : String) (shared : Shared) (content : WorkflowState) : Prop where
  stored : shared.db.get workflowId = .ok content
  selected : shared.db.selectVersion workflowId = some content.version
  identity : content.workflowId = workflowId
  committed : ∃ commit ∈ shared.history, commit.content = content
  newest : ∀ commit ∈ shared.history, commit.content.version ≤ content.version

/-- The stored content is the last of a serial history. -/
def SharedInvariant (workflowId : String) (shared : Shared) : Prop :=
  (∃ content, Current workflowId shared content) ∧ Serial shared.history

/-- The workflow of a call was committed. -/
structure Known (workflowId : String) (workflow : WorkflowState) (shared : Shared) : Prop where
  identity : workflow.workflowId = workflowId
  committed : ∃ commit ∈ shared.history, commit.content = workflow

/-- What a writer has loaded is content that the history knows. -/
def WriterInvariant (workflowId : String) : Writer → Shared → Prop
  | .idle, _ | .failed, _ => True
  | .loaded _ workflow, shared => Known workflowId workflow shared
  | .checked _ workflow draft, shared =>
    Known workflowId workflow shared ∧ draft.workflowId = workflowId
  | .succeeded expectedVersion, shared =>
    ∀ version, shared.db.selectVersion workflowId = some version → expectedVersion < version

/-- Two writers that succeeded did so on different versions. -/
def Different : Writer → Writer → Prop
  | .succeeded first, .succeeded second => first ≠ second
  | _, _ => True

/-- What a step can do: it leaves the shared state alone and does not succeed,
or it commits. -/
inductive Step (workflowId : String) (shared : Shared) : Writer → Action → Writer → Shared → Prop
  | failed {writer : Writer} {action : Action} : Step workflowId shared writer action .failed shared
  | loaded {request : Request} {workflow : WorkflowState}
      (stored : shared.db.get workflowId = .ok workflow) :
      Step workflowId shared .idle (.load request) (.loaded request workflow) shared
  | checked {request : Request} {workflow draft : WorkflowState}
      (prepared : request.change.prepare workflow = .ok draft) :
      Step workflowId shared (.loaded request workflow) .select (.checked request workflow draft)
        shared
  | succeeded {request : Request} {workflow draft : WorkflowState} {tokens : Tokens}
      {returned : WorkflowState} {next : Database}
      (committed : request.commit shared.db tokens draft = .ok (returned, next)) :
      Step workflowId shared (.checked request workflow draft) (.write tokens)
        (.succeeded request.expectedVersion) (shared.commit workflowId workflow next)

theorem step_cases {writer after : Writer} {shared next : Shared} {action : Action}
    (stepped : (calls workflowId).step writer shared action = some (after, next)) :
    Step workflowId shared writer action after next := by
  simp only [calls] at stepped
  split at stepped
  · split at stepped
    · cases stepped
      exact .failed
    · rename_i stored
      cases stepped
      exact .loaded stored
  · split at stepped
    · cases stepped
      exact .failed
    · rename_i prepared
      split at stepped
      · cases stepped
        exact .failed
      · cases stepped
        exact .checked prepared
  · split at stepped
    · cases stepped
      exact .failed
    · rename_i committed
      cases stepped
      exact .succeeded committed
  all_goals
    cases stepped
  all_goals exact .failed

/-- A call that is not interrupted is the submission of its request. -/
theorem run_submit {request : Request} {shared : Shared} {tokens : Tokens}
    {workflow returned : WorkflowState} {next : Database}
    (stored : shared.db.get workflowId = .ok workflow)
    (success : request.submit shared.db tokens workflow = .ok (returned, next)) :
    (calls workflowId).solo.Run TransitionSystem.unguarded (.idle, shared)
      (.succeeded request.expectedVersion, shared.commit workflowId workflow next) := by
  obtain ⟨draft, prepared, rest⟩ := ok_of_bind success
  obtain ⟨_, checked, committed⟩ := ok_of_bind rest
  refine TransitionSystem.run_of_runFrom [.load request, .select, .write tokens] ?_
  simp [TransitionSystem.runFrom, Interleaving.solo, calls, stored, prepared, checked, committed]

/-- The state after a commit. -/
theorem commit_current {request : Request} {shared : Shared} {next : Database} {tokens : Tokens}
    (workflow : WorkflowState) {draft returned : WorkflowState}
    (same : draft.workflowId = workflowId)
    (committed : request.commit shared.db tokens draft = .ok (returned, next)) :
    ∃ content : WorkflowState, content.version = request.expectedVersion + 1 ∧
      content.workflowId = workflowId ∧ next.get workflowId = .ok content ∧
      next.selectVersion workflowId = some content.version ∧
      (shared.commit workflowId workflow next).history =
        shared.history ++ [{ basis := some workflow, content }] := by
  have write := commit_ok committed
  generalize written_eq : Database.advance tokens (request.change.applied draft)
    request.expectedVersion = written at write
  have version : written.version = request.expectedVersion + 1 := by
    rw [← written_eq, advance_version]
  have target : written.workflowId = workflowId := by
    rw [← written_eq, advance_workflowId, applied_workflowId, same]
  have stored : next.get workflowId = .ok (recomputed written).jsonCopy :=
    target ▸ write.get_self
  refine ⟨(recomputed written).jsonCopy, version, target, stored, ?_, ?_⟩
  · exact target ▸ write.selectVersion_self
  · simp only [Shared.commit, stored]

theorem serial_append {history : List Commit} {workflow content : WorkflowState}
    (serial : Serial history) (known : ∃ commit ∈ history, commit.content = workflow)
    (older : ∀ commit ∈ history, commit.content.version ≤ workflow.version)
    (version : content.version = workflow.version + 1) :
    Serial (history ++ [{ basis := some workflow, content }]) := by
  constructor
  · rw [List.map_append, List.nodup_append]
    refine ⟨serial.distinct, List.nodup_singleton _, ?_⟩
    rintro _ member _ last rfl
    obtain ⟨commit, present, same⟩ := List.mem_map.mp member
    obtain rfl := List.mem_singleton.mp last
    have bound := older commit present
    dsimp only at same
    omega
  · intro commit member basis derived
    rcases List.mem_append.mp member with old | new
    · obtain ⟨⟨earlier, present, same⟩, next⟩ := serial.derived commit old basis derived
      exact ⟨⟨earlier, List.mem_append_left _ present, same⟩, next⟩
    · obtain rfl := List.mem_singleton.mp new
      cases derived
      obtain ⟨earlier, present, same⟩ := known
      exact ⟨⟨earlier, List.mem_append_left _ present, same⟩, version⟩

/-- A guarded step keeps the shared invariant. -/
theorem sharedInvariant_step {writer after : Writer} {shared next : Shared} {action : Action}
    (invariant : SharedInvariant workflowId shared)
    (own : WriterInvariant workflowId writer shared)
    (undisturbed : Undisturbed workflowId writer shared action)
    (step : Step workflowId shared writer action after next) :
    SharedInvariant workflowId next := by
  cases step with
  | failed | loaded | checked => exact invariant
  | succeeded committed =>
      obtain ⟨⟨stored, current⟩, serial⟩ := invariant
      obtain ⟨known, same⟩ := own
      obtain ⟨selected, loaded⟩ := undisturbed
      obtain ⟨content, version, id, get, select, history⟩ := commit_current _ same committed
      have expected : stored.version = _ := Option.some.inj (current.selected.symm.trans selected)
      have older : ∀ commit ∈ shared.history, commit.content.version ≤ _ := fun commit member =>
        (current.newest commit member).trans (expected.trans loaded.symm).le
      refine ⟨⟨content, get, select, id, ?_, ?_⟩, ?_⟩
      · rw [history]
        exact ⟨_, List.mem_append_right _ (.head _), rfl⟩
      · rw [history]
        intro commit member
        rcases List.mem_append.mp member with old | new
        · have bound := older commit old
          omega
        · obtain rfl := List.mem_singleton.mp new
          exact le_rfl
      · rw [history]
        exact serial_append serial known.committed older (version.trans (by rw [loaded]))

/-- A thread's own step establishes its next assertion. -/
theorem writerInvariant_step {writer after : Writer} {shared next : Shared} {action : Action}
    (invariant : SharedInvariant workflowId shared)
    (own : WriterInvariant workflowId writer shared)
    (step : Step workflowId shared writer action after next) :
    WriterInvariant workflowId after next := by
  cases step with
  | failed => exact trivial
  | loaded stored =>
      obtain ⟨⟨content, current⟩, -⟩ := invariant
      have same := Except.ok.inj (current.stored.symm.trans stored)
      exact ⟨same ▸ current.identity, same ▸ current.committed⟩
  | checked prepared => exact ⟨own, (prepare_workflowId prepared).trans own.identity⟩
  | @succeeded request workflow draft tokens returned database committed =>
      obtain ⟨content, version, -, -, select, -⟩ := commit_current workflow own.2 committed
      intro stored selected
      have same := Option.some.inj (select.symm.trans selected)
      omega

/-- A step of another thread keeps a thread's assertion. -/
theorem writerInvariant_stable {writer after other : Writer} {shared next : Shared}
    {action : Action} (own : WriterInvariant workflowId writer shared)
    (undisturbed : Undisturbed workflowId writer shared action)
    (step : Step workflowId shared writer action after next)
    (holds : WriterInvariant workflowId other shared) : WriterInvariant workflowId other next := by
  cases step with
  | failed | loaded | checked => exact holds
  | succeeded committed =>
      obtain ⟨selected, -⟩ := undisturbed
      obtain ⟨content, version, -, -, select, history⟩ := commit_current _ own.2 committed
      have kept : ∀ known, Known workflowId known shared → Known workflowId known _ :=
        fun known present => ⟨present.identity, by
          obtain ⟨commit, member, same⟩ := present.committed
          exact ⟨commit, history ▸ List.mem_append_left _ member, same⟩⟩
      cases other with
      | idle | failed => exact trivial
      | loaded request workflow => exact kept workflow holds
      | checked request workflow draft => exact ⟨kept workflow holds.1, holds.2⟩
      | succeeded expectedVersion =>
          intro stored storedVersion
          have earlier := holds _ selected
          have same := Option.some.inj (select.symm.trans storedVersion)
          omega

/-- The proof outline of undisturbed calls. -/
def outline (workflowId : String) : (calls workflowId).ProofOutline (Undisturbed workflowId) where
  shared := SharedInvariant workflowId
  thread := WriterInvariant workflowId
  pair first second _ := Different first second
  shared_step _ _ _ _ _ invariant own undisturbed stepped :=
    sharedInvariant_step invariant own undisturbed (step_cases stepped)
  thread_step _ _ _ _ _ invariant own _ stepped :=
    writerInvariant_step invariant own (step_cases stepped)
  thread_stable _ _ _ _ _ _ _ own holds _ undisturbed stepped :=
    writerInvariant_stable own undisturbed (step_cases stepped) holds
  pair_symm first second _ different := by
    cases first <;> cases second <;> first
      | exact trivial
      | exact Ne.symm different
  pair_step _ _ _ _ _ other _ _ holds _ undisturbed stepped := by
    cases step_cases stepped with
    | failed | loaded | checked => exact trivial
    | succeeded committed =>
        cases other with
        | idle | loaded | checked | failed => exact trivial
        | succeeded expectedVersion =>
            have earlier := holds _ undisturbed.1
            exact ne_of_gt earlier
  pair_stable _ _ _ _ _ _ _ _ _ different _ _ := different

end Outline

/-- The rows of a reachable database make its stored content current. -/
theorem current_of_reachable {ledger : Ledger} {workflowId : String} {content : WorkflowState}
    (run : Ledger.system.Run TransitionSystem.unguarded {} ledger)
    (stored : ledger.db.get workflowId = .ok content) :
    Current workflowId ⟨ledger.db, [{ basis := none, content }]⟩ content := by
  unfold Database.get at stored
  split at stored
  · cases stored
  · rename_i row found
    obtain rfl : row.stateJson = content := Except.ok.inj stored
    have consistent := Ledger.rowsConsistent_run run workflowId row found
    have key := ((Table.find?_eq_some _ _ _).mp found).2
    refine ⟨?_, ?_, consistent.workflowId.trans key, ⟨_, .head _, rfl⟩, ?_⟩
    · rw [Database.get, found]
    · rw [Database.selectVersion, found, Option.map_some, consistent.version]
    · intro commit member
      obtain rfl := List.mem_singleton.mp member
      exact le_rfl

/-- **Undisturbed writers are serialised.** In every interleaving in which each
write transaction finds the version that its writer selected and had loaded, at
most one call succeeds for an expected version, and every committed content was
derived from the content committed as the version before it. -/
theorem undisturbed_serialised {Thread : Type*} [DecidableEq Thread] {workflowId : String}
    {source target : Configuration Thread Shared Writer} (initial : Initial workflowId source)
    (run : (calls workflowId).system.Run
      (Interleaving.localGuard (Undisturbed workflowId)) source target) : Serialised target := by
  obtain ⟨ledger, reachable, database⟩ := initial.reachable
  obtain ⟨content, stored, history⟩ := initial.stored
  have start : (outline workflowId).Holds source := by
    refine ⟨⟨⟨content, ?_⟩, ?_⟩, ?_, ?_⟩
    · have current := current_of_reachable reachable (database ▸ stored)
      rw [database, ← history] at current
      exact current
    · rw [history]
      refine ⟨List.nodup_singleton _, ?_⟩
      intro commit member basis derived
      obtain rfl := List.mem_singleton.mp member
      cases derived
    · intro thread
      rw [initial.idle thread]
      exact trivial
    · intro first second _
      rw [initial.idle first]
      exact trivial
  have holds := (outline workflowId).run start run
  refine ⟨?_, holds.shared.2⟩
  intro first second expectedVersion firstSucceeded secondSucceeded
  by_contra different
  have distinct := holds.pair first second different
  rw [firstSucceeded, secondSucceeded] at distinct
  exact distinct rfl

section TwoUpdates

theorem updateText_accepted : "text" ≠ "" ∧ "text".length ≤ 5000 := by decide

theorem updateVersion_accepted : (1 : Int) ≤ 1 := le_rfl

/-- The request of the `updates` route with the version that the client knows. -/
def updateRequest : Request :=
  (Submission.update
    { text := ⟨"text", updateText_accepted⟩, version := ⟨1, updateVersion_accepted⟩ }).request

/-- Two idle writers over a database with one workflow of version one. -/
def twoIdle : Configuration Bool Shared Writer where
  shared :=
    { db := (Ledger.firstLedger "rec").db
      history :=
        [{ basis := none, content := (recomputed (Ledger.recommending "rec")).jsonCopy }] }
  locals _ := .idle

theorem initial_twoIdle : Initial "wf" twoIdle where
  reachable := ⟨_, .single ⟨_, trivial, Ledger.firstWrite_step "rec"⟩, rfl⟩
  stored := ⟨_, rfl, rfl⟩
  idle _ := rfl

/-- The configuration after the given labels. -/
def afterLabels (labels : List (Bool × Action)) : Configuration Bool Shared Writer :=
  ((calls "wf").system.runFrom twoIdle labels).getD twoIdle

def writeTokens (thread : Bool) : Tokens :=
  Ledger.tokensOf (if thread then ⟨"first", Ledger.firstTask.id_nonempty⟩
    else ⟨"second", Ledger.secondTask.id_nonempty⟩)

/-- One update after the other writer has loaded is undisturbed. -/
theorem undisturbed_serialised_one : Serialised
    (afterLabels [(false, .load updateRequest), (true, .load updateRequest), (true, .select),
      (true, .write (writeTokens true))]) :=
  undisturbed_serialised initial_twoIdle (TransitionSystem.run_of_allows
    [(false, .load updateRequest), (true, .load updateRequest), (true, .select),
      (true, .write (writeTokens true))]
    (by exact ⟨trivial, trivial, trivial, ⟨rfl, rfl⟩, trivial⟩) rfl)

/-- Both writers select version one before either of them writes, and both succeed. -/
theorem concurrent_updates_lost : ¬ ∀ source target : Configuration Bool Shared Writer,
    Initial "wf" source → (calls "wf").system.Run TransitionSystem.unguarded source target →
      Serialised target := by
  intro claim
  have serialised := claim twoIdle _ initial_twoIdle (TransitionSystem.run_of_runFrom
    [(false, .load updateRequest), (true, .load updateRequest), (false, .select),
      (true, .select), (false, .write (writeTokens false)), (true, .write (writeTokens true))] rfl)
  exact absurd (serialised.once false true 1 rfl rfl) (by decide)

end TwoUpdates

end ActionPlan.Workspace.Concurrency
