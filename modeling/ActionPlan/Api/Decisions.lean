import ActionPlan.Api.Soundness

/-! # Is a decision on the returned recommendation accepted?

`_write` names the recommendation of the workflow that it returns, after it has
serialised the state. The row therefore has the name only if it was written from
a workflow that carried it already. An observer notes the last answer with the
workflow, and whether its row was brought in by an edit.
-/

namespace ActionPlan.Api

open ActionPlan.Foundation ActionPlan.Models ActionPlan.Memory ActionPlan.Agent
  ActionPlan.Workspace

variable (workflowId : String)

/-- What is noted of a run: the last answer of a successful write, and whether the
workflow entered the workspace store with an edit and was not refreshed since. -/
structure Notes where
  last : Option WorkflowState := none
  edited : Bool := false

/-- The last answer with the workflow after a command. -/
def lastAnswer (command : Command) (response : Option (Except Exn WorkflowState))
    (last : Option WorkflowState) : Option WorkflowState :=
  match command, response with
  | .createGoal _, some (.ok returned)
  | .refresh _ _ _ _, some (.ok returned)
  | .submit _ _ _ _, some (.ok returned) =>
    if returned.workflowId = workflowId then some returned else last
  | _, _ => last

/-- Whether the row of the workflow goes back to an edit. -/
def editedFirst (source : Server) (command : Command)
    (response : Option (Except Exn WorkflowState)) (edited : Bool) : Bool :=
  match command, response with
  | .submit owner _ _ _, some (.ok _) =>
    if owner = workflowId then edited || (source.stored workflowId).isNone else edited
  | .refresh owner _ _ _, some (.ok _) => if owner = workflowId then false else edited
  | _, _ => edited

def note (source : Server) (command : Command) (response : Option (Except Exn WorkflowState))
    (_ : Server) (notes : Notes) : Notes where
  last := lastAnswer workflowId command response notes.last
  edited := editedFirst workflowId source command response notes.edited

/-- An answer that differs from the stored state in the name of its recommendation at most. -/
structure Matches (state returned : WorkflowState) : Prop where
  version : returned.version = state.version
  recommendation : returned.recommendation = state.recommendation ∨
    ∃ tokens, returned.recommendation = state.recommendation.map (identify tokens workflowId)

/-- What the notes say about the row of the workflow. -/
structure Known (seen : Server × Notes) : Prop where
  last : ∀ returned, seen.2.last = some returned →
    ∃ state, seen.1.stored workflowId = some state ∧ Matches workflowId state returned
  absent : seen.1.stored workflowId = none → seen.2.edited = false
  named : ∀ state recommendation, seen.1.stored workflowId = some state →
    state.recommendation = some recommendation →
      (recommendation.recommendationId ≠ "" ↔ seen.2.edited = true)

/-- The decision is stored with the next version. -/
def Accepted (payload : RecommendationDecision) (response : Option (Except Exn WorkflowState))
    (target : Server) : Prop :=
  (∃ answer, response = some (.ok answer)) ∧
    ∃ state recommendation, target.stored workflowId = some state ∧
      state.version = payload.version.val + 1 ∧
      state.recommendation = some recommendation ∧
      recommendation.status = payload.decision.status

section Steps

variable {workflowId} {source target : Server} {command : Command} {notes : Notes}
  {response : Option (Except Exn WorkflowState)}

/-- A step that leaves the row and the notes alone. -/
theorem Known.congr (known : Known workflowId (source, notes))
    (stored : target.stored workflowId = source.stored workflowId) :
    Known workflowId (target, notes) := by
  refine ⟨?_, ?_, ?_⟩
  · intro returned last
    obtain ⟨state, found, same⟩ := known.last returned last
    exact ⟨state, stored.trans found, same⟩
  · exact fun absent => known.absent (stored.symm.trans absent)
  · exact fun state recommendation found => known.named state recommendation
      (stored.symm.trans found)

/-- Without a row there has been no answer. -/
theorem Known.unanswered (known : Known workflowId (source, notes))
    (absent : source.stored workflowId = none) : notes = {} := by
  obtain ⟨last, edited⟩ := notes
  have unedited : edited = false := known.absent absent
  cases last with
  | none => rw [unedited]
  | some returned =>
      obtain ⟨state, found, -⟩ := known.last returned rfl
      rw [absent] at found
      cases found

/-- The notes after a command that does not write the workflow. -/
theorem note_of_not_writes {notes : Notes}
    (unwritten : ∀ returned, response = some (.ok returned) → ¬ command.writes workflowId) :
    (note workflowId source command response target notes).edited = notes.edited := by
  change editedFirst workflowId source command response notes.edited = notes.edited
  unfold editedFirst
  split
  · exact if_neg (unwritten _ rfl)
  · exact if_neg (unwritten _ rfl)
  · rfl

/-- The last answer is the old one, or one with the workflow. -/
theorem last_cases (target : Server) {returned : WorkflowState}
    (answer : (note workflowId source command response target notes).last = some returned) :
    notes.last = some returned ∨
      response = some (.ok returned) ∧ returned.workflowId = workflowId := by
  change lastAnswer workflowId command response notes.last = some returned at answer
  unfold lastAnswer at answer
  split at answer
  case h_4 => exact .inl answer
  all_goals
    split at answer
    · rename_i named
      cases answer
      exact .inr ⟨rfl, named⟩
    · exact .inl answer

/-- A command that does not write the workflow, and answers with its row at most. -/
theorem Known.of_unwritten (known : Known workflowId (source, notes))
    (stored : target.stored workflowId = source.stored workflowId)
    (answer : ∀ returned, response = some (.ok returned) → ¬ command.writes workflowId ∧
      (returned.workflowId = workflowId → source.stored workflowId = some returned)) :
    Known workflowId (target, note workflowId source command response target notes) := by
  have edited : (note workflowId source command response target notes).edited = notes.edited :=
    note_of_not_writes fun returned ok => (answer returned ok).1
  have moved := known.congr stored
  refine ⟨?_, ?_, ?_⟩
  · intro returned last
    rcases last_cases target last with before | ⟨ok, named⟩
    · exact moved.last returned before
    · exact ⟨returned, stored.trans ((answer returned ok).2 named), rfl, .inl rfl⟩
  · exact fun absent => edited.trans (moved.absent absent)
  · intro state recommendation found present
    rw [edited]
    exact moved.named state recommendation found present

/-- A new row whose recommendation is as the memory store has it. -/
theorem known_of_unnamed {notes : Notes} {state : WorkflowState}
    (stored : target.stored workflowId = some state)
    (unnamed : ∀ recommendation ∈ state.recommendation, recommendation.recommendationId = "")
    (unedited : notes.edited = false)
    (last : ∀ returned, notes.last = some returned → Matches workflowId state returned) :
    Known workflowId (target, notes) := by
  refine ⟨fun returned answer => ⟨state, stored, last returned answer⟩, fun _ => unedited, ?_⟩
  intro other recommendation found present
  cases stored.symm.trans found
  have empty := unnamed recommendation present
  simp [empty, unedited]

theorem Loaded.owned (sound : Sound source) {tokens : Tokens} {base : WorkflowState}
    (loaded : Loaded source workflowId tokens base) : base.workflowId = workflowId := by
  cases loaded with
  | present stored => exact sound.stored_workflowId stored
  | synced _ recorded => exact (sound.records _ _ recorded).1

/-- A loaded recommendation has a name exactly when the row goes back to an edit, or
was not there. -/
theorem Loaded.named (known : Known workflowId (source, notes)) {tokens : Tokens}
    {base : WorkflowState} (loaded : Loaded source workflowId tokens base)
    {recommendation : Recommendation} (present : base.recommendation = some recommendation) :
    recommendation.recommendationId ≠ "" ↔
      (notes.edited || (source.stored workflowId).isNone) = true := by
  cases loaded with
  | present stored =>
      rw [stored, Option.isNone_some, Bool.or_false]
      exact known.named _ _ stored present
  | @synced record absent recorded =>
      obtain ⟨unnamed, -, rfl⟩ := Option.map_eq_some_iff.mp present
      have named := identify_nonempty tokens record.workflowId unnamed
      simp [absent, named]

theorem matches_identified {tokens : Tokens} {workflow : WorkflowState}
    (owned : workflow.workflowId = workflowId) :
    Matches workflowId (recomputed workflow).jsonCopy (identified tokens workflow) :=
  ⟨rfl, .inr ⟨tokens, by rw [← owned]; rfl⟩⟩

/-- A written submission answers with what it has written, under the name that is known. -/
theorem known_submitted {submission : Submission} {readTokens writeTokens : Tokens}
    {base draft : WorkflowState} (sound : Sound source) (known : Known workflowId (source, notes))
    (loaded : Loaded source workflowId readTokens base)
    (prepared : submission.request.change.prepare base = .ok draft)
    (stored : target.stored workflowId =
      some (recomputed (submitted submission writeTokens draft)).jsonCopy) :
    Known workflowId (target, note workflowId source
      (.submit workflowId submission readTokens writeTokens)
      (some (.ok (identified writeTokens (submitted submission writeTokens draft)))) target
      notes) := by
  have owned : (submitted submission writeTokens draft).workflowId = workflowId :=
    (applied_workflowId submission.request.change).trans
      ((prepare_workflowId prepared).trans (loaded.owned sound))
  have ids := (Submission.prepare_ok prepared).recommendation
  refine ⟨?_, ?_, ?_⟩
  · intro returned last
    have answer : some (identified writeTokens (submitted submission writeTokens draft)) =
        some returned := (if_pos owned).symm.trans last
    cases answer
    exact ⟨_, stored, matches_identified owned⟩
  · intro absent
    rw [stored] at absent
    cases absent
  · intro state recommendation found present
    cases stored.symm.trans found
    change _ ↔ (if workflowId = workflowId then _ else _) = true
    rw [if_pos rfl]
    have drafted : draft.recommendation = some recommendation :=
      (applied_recommendation submission.request.change).symm.trans present
    rw [drafted, Option.map_some] at ids
    obtain ⟨before, loadedPresent, sameId⟩ := Option.map_eq_some_iff.mp ids.symm
    rw [← sameId]
    exact loaded.named known loadedPresent

/-- A new workflow is answered as it is stored, without a name. -/
theorem known_created {goal : Goal} {record : WorkflowState}
    (known : Known workflowId (source, notes)) (unstored : source.stored workflowId = none)
    (created : Created workflowId goal record (target.stored workflowId) response) :
    Known workflowId (target, note workflowId source (.createGoal goal) response target notes) := by
  obtain rfl := known.unanswered unstored
  generalize found : target.stored workflowId = row at created
  cases created with
  | recorded failed =>
      refine ⟨?_, fun _ => rfl, ?_⟩
      · intro returned last
        rcases last_cases target last with before | ⟨ok, -⟩
        · cases before
        · exact absurd ok (failed returned)
      · intro state recommendation present
        rw [found] at present
        cases present
  | @stored workflow tasks state produced =>
      refine known_of_unnamed found produced.recommendation rfl ?_
      intro returned last
      rcases last_cases target last with before | ⟨ok, owned⟩
      · cases before
      · cases ok
        exact matches_identified owned

/-- **The notes stay right.** -/
theorem known_step (sound : Sound source) (known : Known workflowId (source, notes))
    (handled : source.handle command = some (response, target)) :
    Known workflowId (target, note workflowId source command response target notes) := by
  cases effect_handle sound handled workflowId with
  | kept record stored answer => exact known.of_unwritten stored answer
  | @synced _ _ _ record absent recorded same stored answer =>
      obtain rfl := known.unanswered absent
      have edited : (note workflowId source command response target {}).edited = false :=
        note_of_not_writes (not_writes_of_read answer)
      refine known_of_unnamed stored (sound.records _ _ recorded).2.recommendation edited ?_
      intro returned last
      rcases last_cases target last with before | ⟨ok, -⟩
      · cases before
      · obtain ⟨tokens, rfl, -⟩ := answer returned ok
        cases last
  | submitted loaded prepared version valid same stored =>
      exact known_submitted sound known loaded prepared stored
  | created named unrecorded unstored recorded owned produced created =>
      exact known_created known unstored created
  | progressed present recorded work stored progress =>
      exact known.of_unwritten stored fun returned ok => by cases ok
  | copied _ _ _ _ _ _ _ stored => exact known.congr stored
  | finished _ _ _ _ _ _ _ _ _ stored => exact known.congr stored
  | continued _ _ _ _ _ _ stored => exact known.congr stored
  | @refreshed _ _ saveTokens _ before rebuilt _ _ present delivered state recorded work afterState
      stored =>
      have owned : (Database.advance saveTokens rebuilt before.version).workflowId = workflowId :=
        delivered.workflowId.trans (sound.records _ _ present).1
      refine known_of_unnamed stored delivered.produced.recommendation (if_pos rfl) ?_
      intro returned last
      have answer : some (identified saveTokens
          (Database.advance saveTokens rebuilt before.version)) = some returned :=
        (if_pos owned).symm.trans last
      cases answer
      exact matches_identified owned

end Steps

section Decision

variable {workflowId} {source target : Server} {state : WorkflowState}
  {recommendation : Recommendation} {recommendationId : String}
  {payload : RecommendationDecision} {readTokens writeTokens : Tokens}
  {response : Option (Except Exn WorkflowState)}

/-- A decision with the name that the state has is made. -/
theorem decideRecommendation_total (present : state.recommendation = some recommendation)
    (named : recommendation.recommendationId = recommendationId)
    (current : recommendation.status ≠ .stale) (version : state.version = payload.version.val) :
    ∃ decided, decided.status = payload.decision.status ∧
      decideRecommendation recommendationId payload state =
        .ok { state with recommendation := some decided } := by
  refine ⟨{ recommendation with
    status := payload.decision.status
    decisionReason := payload.reason.map Subtype.val
    decidedAt := some state.updatedAt }, rfl, ?_⟩
  rw [decideRecommendation, present]
  dsimp only
  rw [if_neg (not_not.mpr named), if_neg (by simp [current, version])]

/-- A decision with another name is refused. -/
theorem decideRecommendation_error (present : state.recommendation = some recommendation)
    (different : recommendation.recommendationId ≠ recommendationId) :
    decideRecommendation recommendationId payload state =
      .error (.httpException 404 "Recommendation not found.") := by
  rw [decideRecommendation, present]
  exact if_pos different

/-- A submission of a workflow that has a row. -/
theorem submit_of_ok (stored : source.stored workflowId = some state) {submission : Submission}
    {returned : WorkflowState} {db : Database}
    (done : submission.request.submit source.db writeTokens state = .ok (returned, db)) :
    source.submit workflowId submission readTokens writeTokens =
      (.ok returned, { source with db }) := by
  rw [Server.submit, Server.workspaceWorkflow, Database.get_eq_ok.mpr stored]
  dsimp only
  rw [done]

theorem submit_of_error (stored : source.stored workflowId = some state)
    {submission : Submission} {failure : Exn}
    (refused : submission.request.submit source.db writeTokens state = .error failure) :
    source.submit workflowId submission readTokens writeTokens =
      (.error (raised failure), source) := by
  rw [Server.submit, Server.workspaceWorkflow, Database.get_eq_ok.mpr stored]
  dsimp only
  rw [refused]

/-- A decision on a named recommendation is accepted. -/
theorem accepted_of_named (sound : Sound source) (stored : source.stored workflowId = some state)
    (present : state.recommendation = some recommendation)
    (current : recommendation.status ≠ .stale) (version : state.version = payload.version.val)
    (named : recommendation.recommendationId ≠ "")
    (handled : source.handle (.submit workflowId
      (.decide recommendation.recommendationId payload) readTokens writeTokens) =
        some (response, target)) : Accepted workflowId payload response target := by
  obtain ⟨decided, status, prepared⟩ := decideRecommendation_total present rfl current version
  obtain ⟨unused, ⟨unrouted, -⟩ | ⟨-, served⟩⟩ := handle_cases handled
  · simp [Command.routed, named] at unrouted
  · have fresh := fresh_of_unused unused (.tail _ (.head _))
    have owned := sound.stored_workflowId stored
    have selected : source.db.selectVersion state.workflowId = some payload.version.val := by
      rw [owned, sound.rows.selectVersion, ← version]
      exact congrArg _ stored
    have total : ∃ result, (Submission.decide recommendation.recommendationId
        payload).request.submit source.db writeTokens state = .ok result :=
      submit_total prepared selected (sound.states _ _ stored).valid fresh rfl
    obtain ⟨⟨returned, db⟩, submitted⟩ := total
    obtain ⟨draft, drafted, same, -, written⟩ := submit_ok submitted
    cases prepared.symm.trans drafted
    have both := Option.some.inj served
    rw [submit_of_ok stored submitted] at both
    obtain ⟨rfl, rfl⟩ := Prod.mk.inj both
    refine ⟨⟨returned, rfl⟩, _, decided, owned ▸ written.stored_self, rfl, rfl, status⟩

/-- A decision on a recommendation whose name is not stored is refused. -/
theorem refused_of_unnamed (stored : source.stored workflowId = some state)
    (present : state.recommendation = some recommendation)
    (unnamed : recommendation.recommendationId = "")
    (handled : source.handle (.submit workflowId (.decide recommendationId payload) readTokens
      writeTokens) = some (response, target)) : ¬ Accepted workflowId payload response target := by
  rintro ⟨⟨answer, rfl⟩, -⟩
  obtain ⟨unused, ⟨unrouted, -, error⟩ | ⟨routed, served⟩⟩ := handle_cases handled
  · cases error
  · have different : recommendation.recommendationId ≠ recommendationId := by
      intro same
      simp [Command.routed, ← same, unnamed] at routed
    have answered : (source.submit workflowId (.decide recommendationId payload) readTokens
        writeTokens).1 = .ok answer := Option.some.inj (congrArg Prod.fst (Option.some.inj served))
    have refused : (Submission.decide recommendationId payload).request.submit source.db
        writeTokens state = .error (.httpException 404 "Recommendation not found.") :=
      congrArg (fun outcome => outcome >>= _) (decideRecommendation_error present different)
    rw [submit_of_error stored refused] at answered
    cases answered

/-- The stored recommendation of an answer: a name that it has is that of the answer. -/
theorem Matches.recommendation_of_answer {returned : WorkflowState}
    (same : Matches workflowId state returned)
    (present : returned.recommendation = some recommendation) :
    ∃ written, state.recommendation = some written ∧ written.status = recommendation.status ∧
      (written.recommendationId ≠ "" →
        recommendation.recommendationId = written.recommendationId) := by
  rcases same.recommendation with equal | ⟨tokens, renamed⟩
  · exact ⟨recommendation, equal.symm.trans present, rfl, fun _ => rfl⟩
  · obtain ⟨written, found, rfl⟩ := Option.map_eq_some_iff.mp (renamed.symm.trans present)
    exact ⟨written, found, rfl, fun named => if_neg named⟩

theorem Initial.known {server : Server} (initial : Initial server) :
    Known workflowId (server, {}) := by
  have absent : server.stored workflowId = none := by
    rw [Server.stored, initial.db]
    rfl
  refine ⟨?_, fun _ => rfl, ?_⟩
  · intro returned last
    cases last
  · intro state recommendation stored
    rw [absent] at stored
    cases stored

end Decision

section Runs

variable {workflowId} {start target : Server} {seen : Server × Notes}
  {returned : WorkflowState} {recommendation : Recommendation}
  {payload : RecommendationDecision} {readTokens writeTokens : Tokens}
  {response : Option (Except Exn WorkflowState)}

/-- **A decision on the last answer is accepted exactly after an edit.** The
recommendation of the last answer can be decided if the workflow entered the
workspace store with an edit and was not refreshed since, and not otherwise. -/
theorem accepted_iff (initial : Initial start)
    (run : (TransitionSystem.observed Server.handle (note workflowId)).Run
      TransitionSystem.unguarded (start, {}) seen)
    (last : seen.2.last = some returned)
    (present : returned.recommendation = some recommendation)
    (opened : recommendation.status = .opened) (version : payload.version.val = returned.version)
    (handled : seen.1.handle (.submit workflowId
      (.decide recommendation.recommendationId payload) readTokens writeTokens) =
        some (response, target)) :
    Accepted workflowId payload response target ↔ seen.2.edited = true := by
  obtain ⟨sound, known⟩ := observed_invariant (Known workflowId)
    (fun source command response target notes sound known _ handled =>
      known_step sound known handled) initial initial.known run
  obtain ⟨state, stored, same⟩ := known.last returned last
  obtain ⟨written, found, status, named⟩ := same.recommendation_of_answer present
  rw [← known.named state written stored found]
  constructor
  · intro accepted unnamed
    exact refused_of_unnamed stored found unnamed handled accepted
  · intro nonempty
    rw [named nonempty] at handled
    have current : written.status ≠ .stale := by
      rw [status, opened]
      decide
    exact accepted_of_named sound stored found current (same.version.symm.trans version.symm)
      nonempty handled

/-- What has been noted after a run. -/
def notesOf (server : Server) (commands : List Command) : Server × Notes :=
  ((TransitionSystem.observed Server.handle (note "wf")).runFrom (server, {})
    commands).getD (server, {})

/-- The first edit of a workflow that has no row. -/
def suppliedRun : List Command :=
  [.submit "wf" (.update { text := ⟨"text", by decide⟩, version := firstVersion })
    (tokensOf "read") (tokensOf "supplied")]

/-- The decision that answers an update of a workflow or its creation. -/
def acceptance (version : PositiveVersion) : Command :=
  .submit "wf" (.decide "recommendation_1" { decision := .accepted, version })
    (tokensOf "reread") (tokensOf "decided")

/-- The name, the status and the version that the last answer gives to a decision. -/
def offered (notes : Notes) : Option (String × RecommendationStatus × Int) :=
  notes.last.bind fun returned => returned.recommendation.map fun recommendation =>
    (recommendation.recommendationId, recommendation.status, returned.version)

theorem answer_of_offered {notes : Notes} {name : String} {status : RecommendationStatus}
    {version : Int} (offer : offered notes = some (name, status, version)) :
    ∃ returned recommendation, notes.last = some returned ∧
      returned.recommendation = some recommendation ∧ recommendation.recommendationId = name ∧
      recommendation.status = status ∧ returned.version = version := by
  obtain ⟨returned, last, rest⟩ := Option.bind_eq_some_iff.mp offer
  obtain ⟨recommendation, present, same⟩ := Option.map_eq_some_iff.mp rest
  cases same
  exact ⟨returned, recommendation, last, present, rfl, rfl, rfl⟩

theorem accepted_supplied : ∃ response target,
    (notesOf restartedServer suppliedRun).1.handle (acceptance secondVersion) =
      some (response, target) ∧
    Accepted "wf" { decision := .accepted, version := secondVersion } response target := by
  obtain ⟨returned, recommendation, last, present, named, opened, version⟩ :=
    answer_of_offered (show offered (notesOf restartedServer suppliedRun).2 =
      some ("recommendation_1", .opened, 2) by decide)
  have enabled : ((notesOf restartedServer suppliedRun).1.handle
      (acceptance secondVersion)).isSome := by decide
  obtain ⟨⟨response, target⟩, handled⟩ := Option.isSome_iff_exists.mp enabled
  refine ⟨response, target, handled, ?_⟩
  rw [acceptance, ← named] at handled
  exact (accepted_iff initial_restartedServer (TransitionSystem.run_of_runFrom suppliedRun rfl)
    last present opened version.symm handled).mpr rfl

/-- The decision on the answer of the creation is refused. -/
theorem decision_refused : ¬ ∀ (workflowId : String) (start : Server) (seen : Server × Notes)
    (returned : WorkflowState) (recommendation : Recommendation)
    (payload : RecommendationDecision) (readTokens writeTokens : Tokens)
    (response : Option (Except Exn WorkflowState)) (target : Server), Initial start →
      (TransitionSystem.observed Server.handle (note workflowId)).Run
        TransitionSystem.unguarded (start, {}) seen →
      seen.2.last = some returned → returned.recommendation = some recommendation →
      recommendation.status = .opened → payload.version.val = returned.version →
      seen.1.handle (.submit workflowId (.decide recommendation.recommendationId payload)
        readTokens writeTokens) = some (response, target) →
      Accepted workflowId payload response target := by
  intro claim
  have run : (TransitionSystem.observed Server.handle (note "wf")).Run
      TransitionSystem.unguarded (emptyServer, {})
      (notesOf emptyServer [.createGoal (taskGoal true)]) :=
    TransitionSystem.run_of_runFrom [.createGoal (taskGoal true)] rfl
  obtain ⟨returned, recommendation, last, present, named, opened, version⟩ :=
    answer_of_offered (show offered (notesOf emptyServer [.createGoal (taskGoal true)]).2 =
      some ("recommendation_1", .opened, 1) by decide)
  have refused : ((notesOf emptyServer [.createGoal (taskGoal true)]).1.handle
      (acceptance firstVersion)).map (fun result => result.1.map Except.isOk) =
        some (some false) := by decide
  obtain ⟨⟨response, target⟩, handled, failed⟩ := Option.map_eq_some_iff.mp refused
  rw [acceptance, ← named] at handled
  obtain ⟨⟨answer, rfl⟩, -⟩ := claim "wf" emptyServer _ returned recommendation _ _ _ response
    target initial_emptyServer run last present opened version.symm handled
  cases failed

end Runs

end ActionPlan.Api
