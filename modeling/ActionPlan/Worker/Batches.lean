import ActionPlan.Worker.Handler

/-! # Batches of records

The records of an event are processed one after the other. Each leaves one entry
in the results, and the entry should depend on no other record of the batch,
except through what an execution stores.
-/

namespace ActionPlan.Worker

open ActionPlan.Foundation ActionPlan.Models ActionPlan.Memory ActionPlan.Agent

/-- The entry `"workflow_id"` of a dictionary. -/
def idOf : Value → Value
  | .dict entries => (entries.lookup "workflow_id").getD .none
  | _ => .none

/-- The workflow that the body of the record names. -/
def Delivery.workflowId (delivery : Delivery) : Value :=
  match delivery.body with
  | .error _ => .none
  | .ok text => if (idOf text.document).truthy then idOf text.document else .none

/-- Whether the body of the record names a workflow. -/
def Delivery.named (delivery : Delivery) : Bool := delivery.workflowId.truthy

/-- The variable `body` after some records of the loop. -/
def bodyAfter (deliveries : List Delivery) (body : Option Value) : Option Value :=
  deliveries.foldl
    (fun body delivery =>
      match delivery.body with
      | .error _ => body
      | .ok text => some text.document) body

/-- The id in a body; none when nothing was read yet. -/
def readId (body : Option Value) : Value := (body.map idOf).getD .none

/-- What was read last is the dictionary of a JSON text. -/
def Readable (body : Option Value) : Prop :=
  ∀ value ∈ body, value.isJson = true ∧ ∃ entries, value = .dict entries

/-- The entry of a record that is not JSON. -/
def unreadEntry (body : Option Value) (failure : Exn) : Value :=
  .dict [("workflow_id", readId body), ("status", .str "error"), ("error", .str failure.message)]

section Pass

variable {delivery : Delivery} {store : MemoryStore}

theorem bodyWorkflowId_of_object {value : Value} (object : ∃ entries, value = .dict entries) :
    bodyWorkflowId value = .ok (idOf value) := by
  obtain ⟨entries, rfl⟩ := object
  rfl

theorem recordedId_of_readable {loop : Loop} (readable : Readable loop.body) :
    loop.recordedId = .ok (readId loop.body) := by
  unfold Loop.recordedId readId
  cases read : loop.body with
  | none => rfl
  | some value => exact bodyWorkflowId_of_object (readable value read).2

/-- The id in a JSON document is JSON. -/
theorem isJson_idOf {value : Value} (json : value.isJson = true) : (idOf value).isJson = true := by
  have listed : ∀ entries : List (String × Value), Value.allEntriesJson entries = true →
      ((entries.lookup "workflow_id").getD .none).isJson = true := by
    intro entries
    induction entries with
    | nil => exact fun _ => rfl
    | cons entry entries ih =>
        intro all
        rw [Value.allEntriesJson, Bool.and_eq_true] at all
        obtain ⟨key, content⟩ := entry
        rw [List.lookup_cons]
        split
        · exact all.1
        · exact ih all.2
  cases value with
  | dict entries => exact listed entries json
  | _ => rfl

/-- An execution leaves one entry, which carries the id. -/
theorem execute_entry (workerId workflowId : String) (delivery : Delivery) (store : MemoryStore) :
    ∃ entry next, idOf entry = .str workflowId ∧ entry.isJson = true ∧
      ∀ body results, Loop.execute { store, body, results } workerId workflowId delivery =
        { store := next, body, results := results ++ [entry] } := by
  rcases ended : executeQueuedWorkflow delivery.services workflowId workerId delivery.claimedAt
    store with ⟨failure | _ | result, next⟩
  all_goals
    simp only [Loop.execute, ended]
    exact ⟨_, next, rfl, rfl, fun _ _ => rfl⟩

theorem isJson_readId {body : Option Value} (readable : Readable body) :
    (readId body).isJson = true := by
  cases body with
  | none => rfl
  | some value => exact isJson_idOf (readable value rfl).1

/-- **A record whose body is an object** is processed without regard to the
records before it: its entry carries its own id, and it leaves the store alone
when it names no workflow. -/
theorem pass_of_object {text : JsonText} (read : delivery.body = .ok text)
    (object : ∃ entries, text.document = .dict entries) (workerId : String)
    (store : MemoryStore) :
    ∃ entry next, idOf entry = delivery.workflowId ∧ entry.isJson = true ∧
      (delivery.named = false → next = store) ∧
      ∀ body results, Loop.pass { store, body, results } workerId delivery =
        .ok { store := next, body := some text.document, results := results ++ [entry] } := by
  have own : delivery.workflowId =
      if (idOf text.document).truthy then idOf text.document else .none := by
    rw [Delivery.workflowId, read]
  have json := isJson_idOf text.json
  simp only [Loop.pass, read, bodyWorkflowId_of_object object, Except.map]
  cases truthy : (idOf text.document).truthy with
  | false =>
      rw [truthy] at own
      refine ⟨_, store, ?_, ?_, fun _ => rfl, fun body results => rfl⟩
      · rw [own]
        rfl
      · rfl
  | true =>
      rw [truthy, if_pos rfl] at own
      have named : delivery.named = true := by rw [Delivery.named, own, truthy]
      simp only [named, Bool.true_eq_false, false_implies, true_and, ↓reduceIte]
      cases identity : idOf text.document with
      | str workflowId =>
          obtain ⟨entry, next, carried, encoded, executed⟩ :=
            execute_entry workerId workflowId delivery store
          exact ⟨entry, next, by rw [carried, own, identity], encoded,
            fun body results => congrArg Except.ok (executed (some text.document) results)⟩
      | _ =>
          refine ⟨_, store, ?_, ?_, fun body results => rfl⟩
          · rw [own, identity]
            rfl
          · rw [← identity]
            simpa [Value.isJson, Value.allEntriesJson] using json

/-- A record that is not JSON gets the id that was read last. -/
theorem pass_of_error {failure : Exn} (unread : delivery.body = .error failure)
    {body : Option Value} (readable : Readable body) (workerId : String) (store : MemoryStore)
    (results : List Value) :
    Loop.pass { store, body, results } workerId delivery =
      .ok { store, body, results := results ++ [unreadEntry body failure] } := by
  have recorded : Loop.recordedId { store, body, results } = .ok (readId body) :=
    recordedId_of_readable readable
  rw [Loop.pass, unread]
  dsimp only
  rw [recorded]
  rfl

/-- A record whose body is not an object stops the loop. -/
theorem pass_of_other {text : JsonText} (read : delivery.body = .ok text)
    (other : ¬ ∃ entries, text.document = .dict entries) (loop : Loop) (workerId : String) :
    ∃ failure, loop.pass workerId delivery = .error failure := by
  have refused : ∃ failure, bodyWorkflowId text.document = .error failure := by
    cases document : text.document with
    | dict entries => exact absurd ⟨entries, document⟩ other
    | _ => exact ⟨_, rfl⟩
  obtain ⟨failure, refused⟩ := refused
  rw [Loop.pass, read]
  exact ⟨failure, by simp only [refused, Except.map]⟩

end Pass

section Run

/-- Every body that is JSON is an object. -/
def Objects (deliveries : List Delivery) : Prop :=
  ∀ delivery ∈ deliveries, ∀ text, delivery.body = .ok text →
    ∃ entries, text.document = .dict entries

/-- The ids that the entries carry: a record that is not JSON gets the id read last. -/
def carriedIds : Option Value → List Delivery → List Value
  | _, [] => []
  | body, delivery :: deliveries =>
    (match delivery.body with
      | .error _ => readId body
      | .ok _ => delivery.workflowId) :: carriedIds (bodyAfter [delivery] body) deliveries

/-- The entries of the records that name a workflow. -/
def namedEntries (deliveries : List Delivery) (entries : List Value) : List Value :=
  ((deliveries.zip entries).filter fun pair => pair.1.named).map Prod.snd

theorem namedEntries_cons (delivery : Delivery) (deliveries : List Delivery) (entry : Value)
    (entries : List Value) : namedEntries (delivery :: deliveries) (entry :: entries) =
      (if delivery.named then [entry] else []) ++ namedEntries deliveries entries := by
  unfold namedEntries
  rw [List.zip_cons_cons, List.filter_cons]
  split <;> rfl

/-- **The loop over records whose bodies are objects** answers every record, and
without the records that name no workflow it answers the others alike. -/
theorem overRecords_of_objects (workerId : String) {deliveries : List Delivery}
    (objects : Objects deliveries) (store : MemoryStore) {body : Option Value}
    (readable : Readable body) (results : List Value) :
    ∃ entries next, (∀ entry ∈ entries, entry.isJson = true) ∧
      Loop.overRecords workerId deliveries { store, body, results } =
        (.ok (results ++ entries), next) ∧
      entries.map idOf = carriedIds body deliveries ∧
      ∀ body results, Readable body →
        Loop.overRecords workerId (deliveries.filter Delivery.named) { store, body, results } =
          (.ok (results ++ namedEntries deliveries entries), next) := by
  induction deliveries generalizing store body results with
  | nil =>
      refine ⟨[], store, by simp, ?_, rfl, fun body results _ => ?_⟩
      · rw [Loop.overRecords, List.append_nil]
      · rw [List.filter_nil, Loop.overRecords, namedEntries, List.zip_nil_left, List.filter_nil,
          List.map_nil, List.append_nil]
  | cons delivery deliveries ih =>
      have later : Objects deliveries := fun other member => objects other (.tail _ member)
      cases read : delivery.body with
      | error failure =>
          have unnamed : delivery.named = false := by
            rw [Delivery.named, Delivery.workflowId, read]
            rfl
          have passed := pass_of_error read readable workerId store results
          obtain ⟨entries, next, json, ran, ids, others⟩ :=
            ih later store readable (results ++ [unreadEntry body failure])
          refine ⟨unreadEntry body failure :: entries, next, ?_, ?_, ?_, ?_⟩
          · refine List.forall_mem_cons.mpr ⟨?_, json⟩
            simp [unreadEntry, Value.isJson, Value.allEntriesJson, isJson_readId readable]
          · rw [Loop.overRecords, passed]
            dsimp only
            rw [ran, List.append_assoc, List.singleton_append]
          · rw [List.map_cons, ids, carriedIds, bodyAfter, List.foldl_cons, read]
            rfl
          · rw [List.filter_cons_of_neg (by simp [unnamed])]
            simpa [namedEntries_cons, unnamed] using others
      | ok text =>
          have object := objects delivery (.head _) text read
          obtain ⟨entry, middle, carried, encoded, untouched, passed⟩ :=
            pass_of_object read object workerId store
          have bodyReadable : Readable (some text.document) := by
            rintro _ ⟨⟩
            exact ⟨text.json, object⟩
          obtain ⟨entries, next, json, ran, ids, others⟩ :=
            ih later middle bodyReadable (results ++ [entry])
          refine ⟨entry :: entries, next, ?_, ?_, ?_, ?_⟩
          · exact List.forall_mem_cons.mpr ⟨encoded, json⟩
          · rw [Loop.overRecords, passed]
            dsimp only
            rw [ran, List.append_assoc, List.singleton_append]
          · rw [List.map_cons, ids, carried, carriedIds, bodyAfter, List.foldl_cons, read]
            rfl
          · intro otherBody otherResults otherReadable
            rw [namedEntries_cons]
            cases named : delivery.named with
            | false =>
                rw [List.filter_cons_of_neg (by simp [named])]
                have same := others otherBody otherResults otherReadable
                rw [untouched named] at same
                simpa using same
            | true =>
                rw [List.filter_cons_of_pos named, Loop.overRecords, passed]
                dsimp only
                rw [others _ _ bodyReadable, if_pos rfl, List.append_assoc]

/-- A body that is JSON but no object makes the handler raise. -/
theorem overRecords_of_not_objects (workerId : String) {deliveries : List Delivery}
    (other : ¬ Objects deliveries) (store : MemoryStore) {body : Option Value}
    (readable : Readable body) (results : List Value) :
    ∃ failure next, Loop.overRecords workerId deliveries { store, body, results } =
      (.error failure, next) := by
  induction deliveries generalizing store body results with
  | nil => exact absurd (fun _ absent => by cases absent) other
  | cons delivery deliveries ih =>
      rw [Loop.overRecords]
      cases read : delivery.body with
      | error failure =>
          have later : ¬ Objects deliveries := fun objects => other fun record member => by
            rcases List.mem_cons.mp member with rfl | old
            · intro text same
              rw [read] at same
              cases same
            · exact objects record old
          rw [pass_of_error read readable]
          exact ih later store readable _
      | ok text =>
          by_cases object : ∃ entries, text.document = .dict entries
          · have later : ¬ Objects deliveries := fun objects => other fun record member => by
              rcases List.mem_cons.mp member with rfl | old
              · intro text' same
                rw [read] at same
                cases same
                exact object
              · exact objects record old
            have bodyReadable : Readable (some text.document) := by
              rintro _ ⟨⟩
              exact ⟨text.json, object⟩
            obtain ⟨entry, middle, -, -, -, passed⟩ := pass_of_object read object workerId store
            rw [passed]
            exact ih later middle bodyReadable _
          · obtain ⟨failure, raised⟩ := pass_of_other read object { store, body, results } workerId
            rw [raised]
            exact ⟨failure, store, rfl⟩

/-- The ids in the entries are the records' own exactly when a record that is
not JSON comes where no id was read last. -/
theorem carriedIds_eq_iff {deliveries : List Delivery} {body : Option Value} :
    carriedIds body deliveries = deliveries.map Delivery.workflowId ↔
      ∀ earlier delivery later failure, deliveries = earlier ++ delivery :: later →
        delivery.body = .error failure → readId (bodyAfter earlier body) = .none := by
  induction deliveries generalizing body with
  | nil => simp [carriedIds]
  | cons delivery deliveries ih =>
      rw [carriedIds, List.map_cons, List.cons.injEq, ih]
      constructor
      · rintro ⟨own, others⟩ earlier record later failure split unread
        cases earlier with
        | nil =>
            obtain ⟨rfl, rfl⟩ := List.cons.inj split
            simpa [unread, Delivery.workflowId, bodyAfter] using own
        | cons first earlier =>
            obtain ⟨rfl, rfl⟩ := List.cons.inj split
            exact others earlier record later failure rfl unread
      · intro all
        refine ⟨?_, ?_⟩
        · cases read : delivery.body with
          | error failure =>
              have none := all [] delivery deliveries failure rfl read
              simpa [Delivery.workflowId, read, bodyAfter] using none
          | ok text => rfl
        · rintro earlier record later failure rfl unread
          exact all (delivery :: earlier) record later failure rfl unread

end Run

section Handler

variable (workerId : String) (deliveries : List Delivery) (store : MemoryStore)

/-- The handler returns these results. -/
def Returns (results : List Value) : Prop :=
  ∃ body, (handler workerId deliveries store).1 = .ok { statusCode := 200, body } ∧
    body.document = .dict [("results", .list results)]

/-- One entry for each record, in order, with the record's own id; the records
that name a workflow get the entries that they get without the others. -/
structure Isolated (results : List Value) : Prop where
  returned : Returns workerId deliveries store results
  ids : results.map idOf = deliveries.map Delivery.workflowId
  others : Returns workerId (deliveries.filter Delivery.named) store
    (namedEntries deliveries results)

/-- Every body that is JSON is an object, and the last body that was read before
a record that is not JSON has no workflow id. -/
structure Separable : Prop where
  objects : Objects deliveries
  unread : ∀ earlier delivery later failure, deliveries = earlier ++ delivery :: later →
    delivery.body = .error failure → readId (bodyAfter earlier none) = .none

variable {workerId deliveries store}

theorem allJson_of_forall {values : List Value} (json : ∀ value ∈ values, value.isJson = true) :
    Value.allJson values = true := by
  induction values with
  | nil => rfl
  | cons value values ih =>
      rw [Value.allJson, json value (.head _), ih fun other member => json other (.tail _ member)]
      rfl

theorem returns_of_overRecords {results : List Value} {next : MemoryStore}
    (ran : Loop.overRecords workerId deliveries { store } = (.ok results, next))
    (json : ∀ value ∈ results, value.isJson = true) :
    Returns workerId deliveries store results := by
  have encoded : (Value.dict [("results", .list results)]).isJson = true := by
    simp [Value.isJson, Value.allEntriesJson, allJson_of_forall json]
  refine ⟨⟨_, encoded⟩, ?_, rfl⟩
  simp only [handler, ran, jsonDumps, dif_pos encoded]
  rfl

/-- The results of the handler are those of its loop. -/
theorem results_of_returns {results entries : List Value} {next : MemoryStore}
    (returned : Returns workerId deliveries store results)
    (ran : Loop.overRecords workerId deliveries { store } = (.ok entries, next)) :
    results = entries := by
  obtain ⟨body, response, document⟩ := returned
  simp only [handler, ran] at response
  obtain ⟨text, encoded, same⟩ := ok_of_map response
  unfold jsonDumps at encoded
  split at encoded
  · cases encoded
    cases same
    simpa using document.symm
  · cases encoded

/-- A record whose body decodes to a value, or to nothing. -/
def record (body : Except Exn JsonText) : Delivery where
  body
  services := silentServices
  claimedAt := .newYear

/-- The record of a workflow, and after it one that is not JSON. -/
def mixedBatch : List Delivery :=
  [record (.ok ⟨.dict [("workflow_id", .str "first")], rfl⟩),
    record (.error (.valueError "Expecting value: line 1 column 1 (char 0)"))]

/-- A record whose body is an empty JSON list. -/
def listBatch : List Delivery := [record (.ok ⟨.list [], rfl⟩)]

/-- The entry of a record that is not JSON names the workflow of the record
before it, and a body that is a list makes the handler raise. -/
theorem records_affect_others :
    (¬ ∃ results, Isolated "worker" mixedBatch { backend := .localStore } results) ∧
      ¬ ∃ results, Isolated "worker" listBatch { backend := .localStore } results := by
  constructor
  · rintro ⟨results, isolated⟩
    have ids := isolated.ids
    have answered : results.map idOf = [.str "first", .str "first"] := by
      rw [results_of_returns isolated.returned rfl]
      rfl
    rw [answered] at ids
    simp [mixedBatch, record, Delivery.workflowId] at ids
  · rintro ⟨results, ⟨body, response, -⟩, -, -⟩
    cases response

/-- **When records are answered each for itself.** The handler returns one entry
for each record with the record's own id, unaffected by records that name no
workflow, exactly for the batches in which every JSON body is an object and no
workflow id was read last before a record that is not JSON. -/
theorem isolated_iff (workerId : String) (deliveries : List Delivery) (store : MemoryStore) :
    (∃ results, Isolated workerId deliveries store results) ↔ Separable deliveries := by
  have nothing : Readable none := fun _ absent => by cases absent
  constructor
  · rintro ⟨results, isolated⟩
    have objects : Objects deliveries := by
      by_contra other
      obtain ⟨failure, next, raised⟩ :=
        overRecords_of_not_objects workerId other store nothing []
      obtain ⟨body, response, -⟩ := isolated.returned
      simp only [handler, raised] at response
      cases response
    refine ⟨objects, carriedIds_eq_iff.mp ?_⟩
    obtain ⟨entries, next, -, ran, ids, -⟩ :=
      overRecords_of_objects workerId objects store nothing []
    rw [← ids, ← isolated.ids, results_of_returns isolated.returned ran, List.nil_append]
  · intro separable
    obtain ⟨entries, next, json, ran, ids, others⟩ :=
      overRecords_of_objects workerId separable.objects store nothing []
    refine ⟨entries, returns_of_overRecords ran json, ?_, ?_⟩
    · rw [ids, carriedIds_eq_iff.mpr separable.unread]
    · apply returns_of_overRecords (others none [] nothing)
      intro entry member
      obtain ⟨pair, kept, rfl⟩ := List.mem_map.mp member
      exact json _ (List.of_mem_zip (List.mem_filter.mp kept).1).2

end Handler

end ActionPlan.Worker
