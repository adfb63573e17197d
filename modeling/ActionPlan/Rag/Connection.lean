import ActionPlan.Foundation.Procedures
import ActionPlan.Models.Value
import Mathlib.Data.List.Basic

/-! # Connecting to the cluster

`_connect` of `rag/zilliz.py` with what it ensures, and the insertions of `add`. Every start of a
process connects again, any of its calls can fail, and a change that fails may have been made all
the same. Every start that succeeds uses the same collection, and its rows are those that were
there and those that were inserted.
-/

namespace ActionPlan.Rag

open ActionPlan.Foundation ActionPlan.Foundation.Procedure ActionPlan.Models

section Cluster

/-- A collection of the cluster; only a loaded one with an index can be searched. -/
structure Collection (Row : Type) where
  dimension : Nat
  rows : List Row := []
  indexed : Bool := false
  loaded : Bool := false

/-- The databases as they are listed, and their collections by name. -/
structure Cluster (Row : Type) where
  databases : List String
  collection : String → String → Option (Collection Row)

namespace Cluster

variable {Row : Type} (cluster : Cluster Row) (database name : String)

def hasCollection : Bool := (cluster.collection database name).isSome

/-- A collection is put in its place. -/
def set (stored : Collection Row) : Cluster Row :=
  { cluster with
    collection := fun other key =>
      if other = database ∧ key = name then some stored else cluster.collection other key }

/-- A collection is changed, if it is there. -/
def alter (change : Collection Row → Collection Row) : Cluster Row :=
  match cluster.collection database name with
  | none => cluster
  | some stored => cluster.set database name (change stored)

end Cluster

end Cluster

section Connect

variable {Row : Type}

/-- A call that fails, and whether its change was made. -/
structure CallFault where
  failure : Exn
  applied : Bool

/-- The cluster, and the number of calls so far. -/
structure Connecting (Row : Type) where
  cluster : Cluster Row
  calls : Nat := 0

/-- What a store is configured with. -/
structure ZillizSettings where
  collectionName : String
  dimension : Nat := 2048
  databaseName : String := "default"

variable (faults : Nat → Option CallFault)

/-- A call that asks. -/
def query {α : Type} (answer : Cluster Row → Except Exn α) : Procedure (Connecting Row) Exn α :=
  fun state =>
    match faults state.calls with
    | none => (answer state.cluster, { state with calls := state.calls + 1 })
    | some fault => (.error fault.failure, { state with calls := state.calls + 1 })

/-- A call that changes the cluster. -/
def command (change : Cluster Row → Cluster Row) : Procedure (Connecting Row) Exn PUnit :=
  fun state =>
    match faults state.calls with
    | none => (.ok ⟨⟩, { cluster := change state.cluster, calls := state.calls + 1 })
    | some fault =>
      (.error fault.failure,
        { cluster := if fault.applied then change state.cluster else state.cluster
          calls := state.calls + 1 })

/-- `MilvusClient(..)`. -/
def openClient (database : String) : Procedure (Connecting Row) Exn PUnit :=
  query faults fun cluster =>
    if database ∈ cluster.databases then .ok ⟨⟩
    else .error (.upstream ("database not found: " ++ database))

def hasCollection (database name : String) : Procedure (Connecting Row) Exn Bool :=
  query faults fun cluster => .ok (cluster.hasCollection database name)

/-- The search through the named databases; `default` when none has the collection. -/
def findDatabase (name : String) : List String → Procedure (Connecting Row) Exn String
  | [] => pure "default"
  | database :: databases =>
    if database = "default" then findDatabase name databases
    else do
      openClient faults database
      let found ← hasCollection faults database name
      if found then pure database else findDatabase name databases

/-- A property of the collection is asked for, and established if it does not have it. -/
def ensure (flag : Collection Row → Bool) (change : Collection Row → Collection Row)
    (database name : String) : Procedure (Connecting Row) Exn PUnit := do
  let done ← query faults fun cluster => .ok ((cluster.collection database name).any flag)
  if done then pure ⟨⟩ else command faults fun cluster => cluster.alter database name change

/-- `_ensure_index`. -/
def ensureIndex (database name : String) : Procedure (Connecting Row) Exn PUnit :=
  ensure faults Collection.indexed (fun stored => { stored with indexed := true }) database name

/-- `_ensure_loaded`. -/
def ensureLoaded (database name : String) : Procedure (Connecting Row) Exn PUnit :=
  ensure faults Collection.loaded (fun stored => { stored with loaded := true }) database name

/-- `_ensure_collection`. -/
def ensureCollection (database name : String) (dimension : Nat) :
    Procedure (Connecting Row) Exn PUnit := do
  let found ← hasCollection faults database name
  if found then pure ⟨⟩
  else command faults fun cluster => cluster.set database name { dimension }
  ensureIndex faults database name
  ensureLoaded faults database name

/-- The database to be used. -/
def chooseDatabase (settings : ZillizSettings) : Procedure (Connecting Row) Exn String :=
  if settings.databaseName = "default" then do
    let found ← hasCollection faults "default" settings.collectionName
    if found then pure "default"
    else do
      let databases ← query faults fun cluster => .ok cluster.databases
      findDatabase faults settings.collectionName databases
  else pure settings.databaseName

/-- `_connect`: the database that is used from then on. -/
def connect (settings : ZillizSettings) : Procedure (Connecting Row) Exn String := do
  openClient faults settings.databaseName
  let database ← chooseDatabase faults settings
  ensureCollection faults database settings.collectionName settings.dimension
  pure database

end Connect

section Home

variable {Row : Type}

/-- A named database has the collection. -/
def Cluster.isNamedHome (cluster : Cluster Row) (name database : String) : Bool :=
  database ≠ "default" && cluster.hasCollection database name

/-- The default database, or the first other one that has the collection if it does not. -/
def Cluster.located (cluster : Cluster Row) (name : String) : String :=
  if cluster.hasCollection "default" name then "default"
  else (cluster.databases.find? (cluster.isNamedHome name)).getD "default"

/-- The database with the collection of these settings: a configured one, if it is not the
default. -/
def Cluster.home (cluster : Cluster Row) (settings : ZillizSettings) : String :=
  if settings.databaseName = "default" then cluster.located settings.collectionName
  else settings.databaseName

/-- What can happen to a cluster: the collection in one database, which is made without rows if it
is not there, gets rows, and nothing is undone. -/
structure Grown (home : String) (settings : ZillizSettings) (added : List Row)
    (before after : Cluster Row) : Prop where
  databases : after.databases = before.databases
  others : ∀ database name, ¬(database = home ∧ name = settings.collectionName) →
    after.collection database name = before.collection database name
  kept : ∀ stored, before.collection home settings.collectionName = some stored →
    ∃ later, after.collection home settings.collectionName = some later ∧
      later.dimension = stored.dimension ∧ later.rows = stored.rows ++ added ∧
      (stored.indexed = true → later.indexed = true) ∧
      (stored.loaded = true → later.loaded = true)
  fresh : before.collection home settings.collectionName = none →
    after.collection home settings.collectionName = none ∧ added = [] ∨
      ∃ later, after.collection home settings.collectionName = some later ∧
        later.dimension = settings.dimension ∧ later.rows = added

variable {home : String} {settings : ZillizSettings} {added : List Row}
  {before after : Cluster Row}

theorem Grown.refl (cluster : Cluster Row) : Grown home settings [] cluster cluster where
  databases := rfl
  others _ _ _ := rfl
  kept stored present := ⟨stored, present, rfl, (List.append_nil stored.rows).symm, id, id⟩
  fresh absent := .inl ⟨absent, rfl⟩

theorem Grown.trans {last : Cluster Row} {further : List Row}
    (first : Grown home settings added before after)
    (second : Grown home settings further after last) :
    Grown home settings (added ++ further) before last where
  databases := second.databases.trans first.databases
  others database name other :=
    (second.others database name other).trans (first.others database name other)
  kept stored present := by
    obtain ⟨later, found, dimension, rows, indexed, loaded⟩ := first.kept stored present
    obtain ⟨latest, found', dimension', rows', indexed', loaded'⟩ := second.kept later found
    refine ⟨latest, found', dimension'.trans dimension, ?_, fun was => indexed' (indexed was),
      fun was => loaded' (loaded was)⟩
    rw [rows', rows, List.append_assoc]
  fresh absent := by
    rcases first.fresh absent with ⟨still, rfl⟩ | ⟨later, made, dimension, rows⟩
    · exact second.fresh still
    · obtain ⟨latest, found, dimension', rows', -⟩ := second.kept later made
      exact .inr ⟨latest, found, dimension'.trans dimension, rows ▸ rows'⟩

/-- A change that adds these rows to what a collection holds, and does not undo what was
ensured. -/
def Adds (added : List Row) (change : Collection Row → Collection Row) : Prop :=
  ∀ stored, (change stored).dimension = stored.dimension ∧
    (change stored).rows = stored.rows ++ added ∧
    (stored.indexed = true → (change stored).indexed = true) ∧
    (stored.loaded = true → (change stored).loaded = true)

theorem Cluster.alter_of_present {cluster : Cluster Row} {name : String} {stored : Collection Row}
    (present : cluster.collection home name = some stored)
    (change : Collection Row → Collection Row) :
    (cluster.alter home name change).collection home name = some (change stored) := by
  simp only [Cluster.alter, present, Cluster.set, and_self, if_true]

/-- A collection that is there is changed. -/
theorem grown_alter {cluster : Cluster Row} {change : Collection Row → Collection Row}
    (adds : Adds added change) {stored : Collection Row}
    (present : cluster.collection home settings.collectionName = some stored) :
    Grown home settings added cluster (cluster.alter home settings.collectionName change) where
  databases := by simp only [Cluster.alter, present, Cluster.set]
  others database name other := by simp only [Cluster.alter, present, Cluster.set, if_neg other]
  kept _ same := by
    cases Option.some.inj (present.symm.trans same)
    exact ⟨change stored, Cluster.alter_of_present present change, adds stored⟩
  fresh absent := by
    rw [present] at absent
    cases absent

variable (settings) in
/-- A collection that is made where there is none. -/
theorem grown_set (cluster : Cluster Row)
    (absent : cluster.hasCollection home settings.collectionName = false) :
    Grown home settings [] cluster
      (cluster.set home settings.collectionName { dimension := settings.dimension }) where
  databases := rfl
  others _ _ other := if_neg other
  kept stored present := by
    rw [Cluster.hasCollection, present] at absent
    cases absent
  fresh _ := .inr ⟨{ dimension := settings.dimension }, if_pos ⟨rfl, rfl⟩, rfl, rfl⟩

/-- A database other than the one that is used has the collection exactly if it had it before. -/
theorem Grown.hasCollection_ne (grown : Grown home settings added before after)
    {database : String} (other : database ≠ home) :
    after.hasCollection database settings.collectionName =
      before.hasCollection database settings.collectionName := by
  rw [Cluster.hasCollection, Cluster.hasCollection,
    grown.others database settings.collectionName fun same => other same.1]

/-- A collection stays where it is. -/
theorem Grown.hasCollection_home (grown : Grown home settings added before after)
    (present : before.hasCollection home settings.collectionName = true) :
    after.hasCollection home settings.collectionName = true := by
  obtain ⟨stored, found⟩ := Option.isSome_iff_exists.mp present
  obtain ⟨later, found', -⟩ := grown.kept stored found
  rw [Cluster.hasCollection, found', Option.isSome_some]

/-- Without the collection where it is looked for, it is nowhere, and this is the default
database. -/
theorem located_of_absent {cluster : Cluster Row} {name : String}
    (absent : cluster.hasCollection (cluster.located name) name = false) :
    cluster.located name = "default" ∧
      cluster.databases.find? (cluster.isNamedHome name) = none := by
  unfold Cluster.located at absent ⊢
  split at absent
  · rename_i present
    rw [present] at absent
    cases absent
  · rename_i notDefault
    rw [if_neg notDefault]
    cases found : cluster.databases.find? (cluster.isNamedHome name) with
    | none => exact ⟨rfl, rfl⟩
    | some database =>
      rw [found, Option.getD_some] at absent
      have held := List.find?_some found
      rw [Cluster.isNamedHome, absent, Bool.and_false] at held
      cases held

/-- The collection is looked for where it was. -/
theorem Grown.located_eq
    (grown : Grown (before.located settings.collectionName) settings added before after) :
    after.located settings.collectionName = before.located settings.collectionName := by
  cases present : before.hasCollection (before.located settings.collectionName)
      settings.collectionName with
  | true =>
    -- every database has the collection exactly if it had it
    have same : ∀ database, after.hasCollection database settings.collectionName =
        before.hasCollection database settings.collectionName := by
      intro database
      by_cases used : database = before.located settings.collectionName
      · rw [used, present, grown.hasCollection_home present]
      · exact grown.hasCollection_ne used
    have named : after.isNamedHome settings.collectionName =
        before.isNamedHome settings.collectionName := by
      funext database
      rw [Cluster.isNamedHome, Cluster.isNamedHome, same]
    rw [Cluster.located, Cluster.located, grown.databases, same, named]
  | false =>
    obtain ⟨default, nowhere⟩ := located_of_absent present
    rw [default] at grown ⊢
    have other : after.databases.find? (after.isNamedHome settings.collectionName) = none := by
      rw [grown.databases, List.find?_eq_none]
      intro database member held
      obtain ⟨different, has⟩ := Bool.and_eq_true_iff.mp held
      rw [grown.hasCollection_ne (of_decide_eq_true different)] at has
      exact List.find?_eq_none.mp nowhere database member
        (Bool.and_eq_true_iff.mpr ⟨different, has⟩)
    rw [Cluster.located, other, Option.getD_none, ite_self]

/-- **The same database.** What can happen to the cluster does not change where the collection is
used. -/
theorem Grown.home_eq (grown : Grown (before.home settings) settings added before after) :
    after.home settings = before.home settings := by
  unfold Cluster.home at grown ⊢
  split
  · rename_i default
    rw [if_pos default] at grown
    exact grown.located_eq
  · rfl

end Home

section Calls

variable {Row : Type} {faults : Nat → Option CallFault} {state : Connecting Row}
  {settings : ZillizSettings} {name : String}

theorem ends_query {α : Type} {answer : Cluster Row → Except Exn α}
    {returned : α → Connecting Row → Prop} {raised : Exn → Connecting Row → Prop}
    (replied : ∀ value, answer state.cluster = .ok value →
      returned value { state with calls := state.calls + 1 })
    (failed : ∀ failure, raised failure { state with calls := state.calls + 1 }) :
    (query faults answer).Ends state returned raised := by
  unfold Ends query
  cases faults state.calls with
  | some fault => exact failed fault.failure
  | none =>
    dsimp only
    cases outcome : answer state.cluster with
    | ok value => exact replied value outcome
    | error failure => exact failed failure

theorem ends_command {change : Cluster Row → Cluster Row}
    {returned : PUnit → Connecting Row → Prop} {raised : Exn → Connecting Row → Prop}
    (made : returned ⟨⟩ { cluster := change state.cluster, calls := state.calls + 1 })
    (failed : ∀ failure, raised failure { state with calls := state.calls + 1 })
    (madeAndFailed : ∀ failure,
      raised failure { cluster := change state.cluster, calls := state.calls + 1 }) :
    (command faults change).Ends state returned raised := by
  unfold Ends command
  cases faults state.calls with
  | none => exact made
  | some fault =>
    cases applied : fault.applied with
    | true =>
      simp only [applied, if_true]
      exact madeAndFailed fault.failure
    | false =>
      simp only [applied, Bool.false_eq_true, if_false]
      exact failed fault.failure

/-- The search asks only. -/
theorem ends_findDatabase (databases : List String) :
    (findDatabase faults name databases).Ends state
      (fun found next => next.cluster = state.cluster ∧
        found = (databases.find? (state.cluster.isNamedHome name)).getD "default")
      fun _ next => next.cluster = state.cluster := by
  induction databases generalizing state with
  | nil => exact ⟨rfl, rfl⟩
  | cons database databases ih =>
    rw [findDatabase]
    by_cases isDefault : database = "default"
    · have skipped : ¬state.cluster.isNamedHome name database = true := by
        rw [Cluster.isNamedHome, decide_eq_false (not_not.mpr isDefault), Bool.false_and]
        exact Bool.false_ne_true
      rw [if_pos isDefault, List.find?_cons_of_neg skipped]
      exact ih
    · rw [if_neg isDefault, ends_bind]
      refine ends_query (fun _ _ => ?_) fun _ => rfl
      rw [ends_bind]
      refine ends_query (fun found answer => ?_) fun _ => rfl
      cases answer
      have held : state.cluster.isNamedHome name database =
          state.cluster.hasCollection database name := by
        rw [Cluster.isNamedHome, decide_eq_true isDefault, Bool.true_and]
      cases found : state.cluster.hasCollection database name with
      | true =>
        rw [if_pos rfl, ends_pure, List.find?_cons_of_pos (held.trans found)]
        exact ⟨rfl, rfl⟩
      | false =>
        rw [if_neg Bool.false_ne_true,
          List.find?_cons_of_neg (Bool.eq_false_iff.mp (held.trans found))]
        exact ih

/-- The database that is chosen is where the collection is. -/
theorem ends_chooseDatabase :
    (chooseDatabase faults settings).Ends state
      (fun found next => next.cluster = state.cluster ∧ found = state.cluster.home settings)
      fun _ next => next.cluster = state.cluster := by
  unfold chooseDatabase Cluster.home
  split
  · rw [ends_bind]
    refine ends_query (fun found answer => ?_) fun _ => rfl
    cases answer
    cases held : state.cluster.hasCollection "default" settings.collectionName with
    | true =>
      rw [if_pos rfl, ends_pure, Cluster.located, if_pos held]
      exact ⟨rfl, rfl⟩
    | false =>
      rw [if_neg Bool.false_ne_true, ends_bind]
      refine ends_query (fun databases answer => ?_) fun _ => rfl
      cases answer
      rw [Cluster.located, held, if_neg Bool.false_ne_true]
      exact ends_findDatabase state.cluster.databases
  · exact ⟨rfl, rfl⟩

variable {home : String}

/-- A property that is ensured of a collection that is there. -/
theorem ends_ensure {flag : Collection Row → Bool} {change : Collection Row → Collection Row}
    (adds : Adds [] change) (sets : ∀ stored, flag (change stored) = true)
    {stored : Collection Row}
    (present : state.cluster.collection home settings.collectionName = some stored) :
    (ensure faults flag change home settings.collectionName).Ends state
      (fun _ next => Grown home settings [] state.cluster next.cluster ∧ ∃ later,
        next.cluster.collection home settings.collectionName = some later ∧ flag later = true ∧
          (stored.indexed = true → later.indexed = true))
      fun _ next => Grown home settings [] state.cluster next.cluster := by
  have unchanged : Grown home settings [] state.cluster state.cluster := .refl state.cluster
  have altered := grown_alter adds present
  rw [ensure, ends_bind]
  refine ends_query (fun done answer => ?_) fun _ => unchanged
  cases answer
  rw [present, Option.any_some]
  cases flagged : flag stored with
  | true =>
    rw [if_pos rfl, ends_pure]
    exact ⟨unchanged, stored, present, flagged, id⟩
  | false =>
    rw [if_neg Bool.false_ne_true]
    exact ends_command
      ⟨altered, change stored, Cluster.alter_of_present present change, sets stored,
        (adds stored).2.2.1⟩
      (fun _ => unchanged) fun _ => altered

theorem adds_indexed : Adds [] fun stored : Collection Row => { stored with indexed := true } :=
  fun stored => ⟨rfl, (List.append_nil stored.rows).symm, fun _ => rfl, id⟩

theorem adds_loaded : Adds [] fun stored : Collection Row => { stored with loaded := true } :=
  fun stored => ⟨rfl, (List.append_nil stored.rows).symm, id, fun _ => rfl⟩

/-- The collection is there, indexed and loaded. -/
def Ready (cluster : Cluster Row) (home name : String) : Prop :=
  ∃ stored, cluster.collection home name = some stored ∧ stored.indexed = true ∧
    stored.loaded = true

/-- A collection that is there is made ready. -/
theorem ends_ensureReady {stored : Collection Row}
    (present : state.cluster.collection home settings.collectionName = some stored) :
    Ends (ensureIndex faults home settings.collectionName >>= fun _ =>
        ensureLoaded faults home settings.collectionName) state
      (fun _ next => Grown home settings [] state.cluster next.cluster ∧
        Ready next.cluster home settings.collectionName)
      fun _ next => Grown home settings [] state.cluster next.cluster := by
  rw [ends_bind]
  refine (ends_ensure adds_indexed (fun _ => rfl) present).mono ?_ fun _ _ => id
  rintro _ next ⟨grown, later, found, indexed, -⟩
  refine (ends_ensure adds_loaded (fun _ => rfl) found).mono ?_
    fun _ _ failed => grown.trans failed
  rintro _ last ⟨further, latest, found', loaded, kept⟩
  exact ⟨grown.trans further, latest, found', kept indexed, loaded⟩

theorem ends_ensureCollection :
    (ensureCollection faults home settings.collectionName settings.dimension).Ends state
      (fun _ next => Grown home settings [] state.cluster next.cluster ∧
        Ready next.cluster home settings.collectionName)
      fun _ next => Grown home settings [] state.cluster next.cluster := by
  have unchanged : Grown home settings [] state.cluster state.cluster := .refl state.cluster
  rw [ensureCollection, ends_bind]
  refine ends_query (fun found answer => ?_) fun _ => unchanged
  cases answer
  cases held : state.cluster.hasCollection home settings.collectionName with
  | true =>
    obtain ⟨stored, present⟩ := Option.isSome_iff_exists.mp held
    rw [if_pos rfl]
    exact ends_ensureReady present
  | false =>
    have made := grown_set settings state.cluster held
    rw [if_neg Bool.false_ne_true, ends_bind]
    refine ends_command ?_ (fun _ => unchanged) fun _ => made
    refine (ends_ensureReady (if_pos ⟨rfl, rfl⟩)).mono ?_ fun _ _ failed => made.trans failed
    rintro _ next ⟨grown, ready⟩
    exact ⟨made.trans grown, ready⟩

variable (faults settings) in
/-- Connecting makes the collection ready where it is, and changes nothing else. -/
theorem ends_connect (state : Connecting Row) :
    (connect faults settings).Ends state
      (fun found next => found = state.cluster.home settings ∧
        Grown (state.cluster.home settings) settings [] state.cluster next.cluster ∧
        Ready next.cluster found settings.collectionName)
      fun _ next => Grown (state.cluster.home settings) settings [] state.cluster next.cluster := by
  rw [connect, ends_bind]
  refine ends_query (fun _ _ => ?_) fun _ => .refl _
  rw [ends_bind]
  refine ends_chooseDatabase.mono ?_ fun _ next same => ?_
  · rintro found next ⟨same, rfl⟩
    rw [ends_bind]
    refine ends_ensureCollection.mono ?_ fun _ later failed => ?_
    · rintro _ later ⟨grown, ready⟩
      rw [ends_pure]
      exact ⟨rfl, same ▸ grown, ready⟩
    · exact same ▸ failed
  · exact same ▸ .refl _

end Calls

section Restarts

variable {Row : Type}

/-- A process is started, with what happens to its calls; or it inserts a row. -/
inductive ProcessEvent (Row : Type) where
  | start (faults : Nat → Option CallFault)
  | insert (row : Row) (fault : Option CallFault)

/-- A cluster, and the database that the process uses if it runs. -/
structure Deployment (Row : Type) where
  cluster : Cluster Row
  connected : Option String := none

variable (settings : ZillizSettings)

/-- The row is written: there is a process to write it, and the call takes effect. -/
def Deployment.writes (deployment : Deployment Row) (fault : Option CallFault) : Bool :=
  deployment.connected.isSome && fault.all CallFault.applied

/-- The rows that the event writes. -/
def Deployment.wrote (deployment : Deployment Row) : ProcessEvent Row → List Row
  | .start _ => []
  | .insert row fault => if deployment.writes fault then [row] else []

/-- A process that cannot connect does not run. -/
def Deployment.start (deployment : Deployment Row) (faults : Nat → Option CallFault) :
    Deployment Row :=
  let outcome := connect faults settings { cluster := deployment.cluster }
  { cluster := outcome.2.cluster, connected := outcome.1.toOption }

/-- The insertion of `add`, in the database that was chosen. -/
def Deployment.insert (deployment : Deployment Row) (row : Row) (fault : Option CallFault) :
    Deployment Row :=
  match deployment.connected with
  | none => deployment
  | some database =>
    if deployment.writes fault then
      { deployment with
        cluster := deployment.cluster.alter database settings.collectionName fun stored =>
          { stored with rows := stored.rows ++ [row] } }
    else deployment

/-- The cluster after an event of the process. -/
def Deployment.step (deployment : Deployment Row) : ProcessEvent Row → Deployment Row
  | .start faults => deployment.start settings faults
  | .insert row fault => deployment.insert settings row fault

/-- The deployment after the events. -/
def Deployment.run (deployment : Deployment Row) (events : List (ProcessEvent Row)) :
    Deployment Row :=
  events.foldl (Deployment.step settings) deployment

/-- The rows that are written, in their order. -/
def Deployment.written (deployment : Deployment Row) : List (ProcessEvent Row) → List Row
  | [] => []
  | event :: events =>
    deployment.wrote event ++ (deployment.step settings event).written events

/-- The process that runs uses the collection where it is, and this is ready. -/
def Deployment.Placed (deployment : Deployment Row) : Prop :=
  ∀ database, deployment.connected = some database →
    database = deployment.cluster.home settings ∧
      Ready deployment.cluster database settings.collectionName

variable {settings}

theorem adds_row (row : Row) :
    Adds [row] fun stored : Collection Row => { stored with rows := stored.rows ++ [row] } :=
  fun _ => ⟨rfl, rfl, id, id⟩

theorem Ready.alter_row {cluster : Cluster Row} {home name : String}
    (ready : Ready cluster home name) (row : Row) :
    Ready (cluster.alter home name fun stored => { stored with rows := stored.rows ++ [row] })
      home name := by
  obtain ⟨stored, present, indexed, loaded⟩ := ready
  exact ⟨_, Cluster.alter_of_present present _, indexed, loaded⟩

/-- A start prepares the collection, and the process that runs then uses it. -/
theorem step_start (deployment : Deployment Row) (faults : Nat → Option CallFault) :
    Grown (deployment.cluster.home settings) settings [] deployment.cluster
        (deployment.start settings faults).cluster ∧
      (deployment.start settings faults).Placed settings := by
  have ends := ends_connect faults settings { cluster := deployment.cluster }
  unfold Ends at ends
  unfold Deployment.Placed Deployment.start
  cases outcome : connect faults settings { cluster := deployment.cluster } with
  | mk answer next =>
    rw [outcome] at ends
    cases answer with
    | ok database =>
      obtain ⟨same, grown, ready⟩ := ends
      refine ⟨grown, ?_⟩
      rintro _ ⟨⟩
      exact ⟨same.trans grown.home_eq.symm, ready⟩
    | error failure =>
      refine ⟨ends, ?_⟩
      rintro _ ⟨⟩

/-- An insertion adds the row to the collection if it writes one. -/
theorem step_insert {deployment : Deployment Row} (placed : deployment.Placed settings)
    (row : Row) (fault : Option CallFault) :
    Grown (deployment.cluster.home settings) settings (deployment.wrote (.insert row fault))
        deployment.cluster (deployment.insert settings row fault).cluster ∧
      (deployment.insert settings row fault).Placed settings := by
  unfold Deployment.insert
  dsimp only [Deployment.wrote]
  cases connected : deployment.connected with
  | none =>
    have unwritten : deployment.writes fault = false := by
      rw [Deployment.writes, connected, Option.isSome_none, Bool.false_and]
    rw [unwritten]
    exact ⟨.refl deployment.cluster, placed⟩
  | some database =>
    obtain ⟨rfl, ready⟩ := placed database connected
    cases deployment.writes fault with
    | false => exact ⟨.refl deployment.cluster, placed⟩
    | true =>
      have still := ready.alter_row row
      obtain ⟨stored, present, -⟩ := ready
      have grown := grown_alter (adds_row row) present
      refine ⟨grown, ?_⟩
      rintro _ ⟨⟩
      exact ⟨grown.home_eq.symm, still⟩

theorem step_placed {deployment : Deployment Row} (placed : deployment.Placed settings)
    (event : ProcessEvent Row) :
    Grown (deployment.cluster.home settings) settings (deployment.wrote event)
        deployment.cluster (deployment.step settings event).cluster ∧
      (deployment.step settings event).Placed settings := by
  cases event with
  | start faults => exact step_start deployment faults
  | insert row fault => exact step_insert placed row fault

theorem run_placed (events : List (ProcessEvent Row)) {deployment : Deployment Row}
    (placed : deployment.Placed settings) :
    Grown (deployment.cluster.home settings) settings (deployment.written settings events)
        deployment.cluster (deployment.run settings events).cluster ∧
      (deployment.run settings events).Placed settings := by
  induction events generalizing deployment with
  | nil => exact ⟨.refl deployment.cluster, placed⟩
  | cons event events ih =>
    obtain ⟨first, next⟩ := step_placed placed event
    obtain ⟨rest, last⟩ := ih next
    rw [first.home_eq] at rest
    exact ⟨first.trans rest, last⟩

variable (settings) in
/-- **One collection.** Over any starts and insertions, with any failures, the processes that run
use the one collection that was there in the beginning, or was made by the first that needed it;
it has its rows and the ones that were written since, and nothing else has changed. -/
theorem restarts_share_collection (cluster : Cluster Row) (events : List (ProcessEvent Row)) :
    Grown (cluster.home settings) settings (Deployment.written settings { cluster } events)
        cluster (Deployment.run settings { cluster } events).cluster ∧
      ∀ database, (Deployment.run settings { cluster } events).connected = some database →
        database = cluster.home settings ∧
          Ready (Deployment.run settings { cluster } events).cluster database
            settings.collectionName := by
  have stopped : Deployment.Placed settings { cluster : Deployment Row } := by
    rintro _ ⟨⟩
  obtain ⟨grown, placed⟩ := run_placed events stopped
  refine ⟨grown, fun database running => ?_⟩
  rw [← grown.home_eq]
  exact placed database running

end Restarts

end ActionPlan.Rag
