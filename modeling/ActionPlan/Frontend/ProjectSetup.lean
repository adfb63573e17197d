import ActionPlan.Foundation.Procedures
import ActionPlan.Foundation.TransitionSystem
import ActionPlan.Frontend.Routes
import ActionPlan.Models.Workflow

/-! # Setting up a project

The form of the home page (`HomePage` of `App.tsx`) with what its submission requests of the
server: the project is created, its plan awaited, the documents are uploaded, and the plan is
refreshed. Any request can fail, and the form can then be submitted again. The controls are
disabled while a submission runs, so that it is one step of the page.
-/

namespace ActionPlan.Frontend

open ActionPlan.Foundation ActionPlan.Foundation.Procedure ActionPlan.Models

/-- A chosen file. -/
structure File where
  name : String
  content : String
  deriving DecidableEq

/-- The requests of a submission. -/
inductive Request where
  | createGoal (goal : List Char)
  | status (workflowId : String)
  | getWorkflow (workflowId : String)
  | ingest (file : File) (workflowId : String)
  | refresh (workflowId : String)
  deriving DecidableEq

/-- What the page reads of a workflow. -/
structure PlannedWorkflow where
  workflowId : String
  executionState : ExecutionState
  executionError : Option String := none

namespace Request

/-- What the page reads of the response. -/
def Reply : Request → Type
  | .createGoal _ => String
  | .status _ => ExecutionState
  | .getWorkflow _ => PlannedWorkflow
  | .ingest .. | .refresh _ => PUnit

/-- The project of a request. -/
def workflowId : Request → Option String
  | .createGoal _ => none
  | .status workflowId | .getWorkflow workflowId | .ingest _ workflowId | .refresh workflowId =>
    some workflowId

end Request

/-- A request and how it ended. -/
structure Answered where
  request : Request
  answer : Except String request.Reply

/-- A server, whose answers depend on everything that was requested before. The id of a project
is not empty, and a workflow is found under its own id. -/
structure Server where
  answer : List Answered → (request : Request) → Except String request.Reply
  created_ne_empty : ∀ requests goal workflowId,
    answer requests (.createGoal goal) = .ok workflowId → workflowId ≠ ""
  found_under_id : ∀ requests workflowId (workflow : PlannedWorkflow),
    answer requests (.getWorkflow workflowId) = .ok workflow → workflow.workflowId = workflowId

/-- The state of the page, the workflow whose route it has opened, and the requests so far. -/
structure HomePage where
  goal : List Char := []
  files : List File := []
  uploadedFiles : List String := []
  createdWorkflowId : Option String := none
  error : Option String := none
  opened : Option String := none
  requests : List Answered := []

namespace HomePage

variable (server : Server)

/-- A request and its answer, which the page remembers. -/
def send (request : Request) : Procedure HomePage String request.Reply := fun home =>
  (server.answer home.requests request,
    { home with requests := home.requests ++ [⟨request, server.answer home.requests request⟩] })

def createGoalRequest (goal : List Char) : Procedure HomePage String String :=
  send server (.createGoal goal)

def getWorkflowStatusRequest (workflowId : String) : Procedure HomePage String ExecutionState :=
  send server (.status workflowId)

def getWorkflowRequest (workflowId : String) : Procedure HomePage String PlannedWorkflow :=
  send server (.getWorkflow workflowId)

def ingestDocumentRequest (file : File) (workflowId : String) : Procedure HomePage String PUnit :=
  send server (.ingest file workflowId)

def refreshWorkflowRequest (workflowId : String) : Procedure HomePage String PUnit :=
  send server (.refresh workflowId)

/-- The loop of `pollWorkflowUntilComplete`. -/
def pollWorkflow (workflowId : String) : Nat → Procedure HomePage String PlannedWorkflow
  | 0 => getWorkflowRequest server workflowId
  | attempts + 1 => do
    let state ← getWorkflowStatusRequest server workflowId
    if state = .completed ∨ state = .failed then getWorkflowRequest server workflowId
    else pollWorkflow workflowId attempts

/-- `pollWorkflowUntilComplete`. -/
def pollWorkflowUntilComplete (workflowId : String) : Procedure HomePage String PlannedWorkflow :=
  pollWorkflow server workflowId 60

/-- The first part of a submission: a project, if there is none. -/
def createProject (home : HomePage) : Procedure HomePage String String :=
  match home.createdWorkflowId.filter (· ≠ "") with
  | some workflowId => pure workflowId
  | none => do
    let workflowId ← createGoalRequest server (trim home.goal)
    update fun home => { home with createdWorkflowId := some workflowId }
    pure workflowId

/-- The second part: its plan. -/
def awaitPlan (workflowId : String) : Procedure HomePage String String :=
  if workflowId = "" then pure workflowId
  else do
    let workflow ← pollWorkflowUntilComplete server workflowId
    if workflow.executionState = .failed then
      throw ((workflow.executionError.filter (· ≠ "")).getD "Workflow execution failed")
    else do
      update fun home => { home with createdWorkflowId := some workflow.workflowId }
      pure workflow.workflowId

/-- The files that have not been uploaded. -/
def remainingFiles (home : HomePage) : List File :=
  home.files.filter fun file => file.name ∉ home.uploadedFiles

/-- The upload of a file. -/
def upload (workflowId : String) (file : File) : Procedure HomePage String PUnit := do
  ingestDocumentRequest server file workflowId
  update fun home => { home with uploadedFiles := home.uploadedFiles ++ [file.name] }

/-- The plan is refreshed if there was a file to upload. -/
def refreshPlan (workflowId : String) (uploaded : List File) : Procedure HomePage String PUnit :=
  if uploaded = [] then pure ⟨⟩ else refreshWorkflowRequest server workflowId

/-- What is tried, on the state in which the form was rendered. -/
def setUp (home : HomePage) : Procedure HomePage String PUnit := do
  let created ← createProject server home
  let workflowId ← awaitPlan server created
  home.remainingFiles.forM (upload server workflowId)
  refreshPlan server workflowId home.remainingFiles
  update fun home => { home with opened := some workflowId }

/-- `handleSubmit`. -/
def handleSubmit (home : HomePage) : Procedure HomePage String PUnit :=
  if trim home.goal = [] then pure ⟨⟩
  else do
    update fun home => { home with error := none }
    tryCatch (setUp server home) fun reason => update fun home => { home with error := some reason }

/-- What the user can do. -/
inductive Action where
  | changeGoal (goal : List Char)
  | chooseFiles (additions : List File)
  | removeFile (name : String)
  | submit
  | openAnyway

/-- The project that the button "Open project anyway" opens. It is shown next to an error. -/
def offered (home : HomePage) : Option String :=
  if home.error.any (· ≠ "") then home.createdWorkflowId.filter (· ≠ "") else none

/-- The page until it is left. Once there is a project, its goal and its files stay as they are. -/
def system : TransitionSystem HomePage Action where
  step home action :=
    if home.opened ≠ none then none
    else match action with
      | .submit => some (handleSubmit server home home).2
      | .openAnyway =>
        home.offered.map fun workflowId => { home with opened := some workflowId }
      | .changeGoal goal =>
        if home.createdWorkflowId.any (· ≠ "") then none else some { home with goal }
      | .chooseFiles additions =>
        if home.createdWorkflowId.any (· ≠ "") then none
        else some { home with
          files := home.files ++ additions.filter fun file =>
            !home.files.any fun existing => existing.name = file.name }
      | .removeFile name =>
        if home.createdWorkflowId.any (· ≠ "") then none
        else some { home with files := home.files.filter fun file => file.name ≠ name }

end HomePage

section Log

/-- The project that a request has created. -/
def Answered.created : Answered → Option String
  | ⟨.createGoal _, .ok workflowId⟩ => some workflowId
  | _ => none

/-- The file that a request has uploaded. -/
def Answered.uploaded : Answered → Option File
  | ⟨.ingest file _, .ok _⟩ => some file
  | _ => none

/-- Whether a request has refreshed the plan. -/
def Answered.refreshed : Answered → Bool
  | ⟨.refresh _, .ok _⟩ => true
  | _ => false

/-- The projects that were created. -/
def creations (requests : List Answered) : List String := requests.filterMap Answered.created

/-- The files that were uploaded. -/
def uploads (requests : List Answered) : List File := requests.filterMap Answered.uploaded

/-- The plan has been refreshed since the last upload. -/
def upToDate (requests : List Answered) : Bool :=
  requests.foldl (fun current answered =>
    answered.refreshed || (current && answered.uploaded.isNone)) true

private theorem filterMap_concat {Item Image : Type*} (image : Item → Option Image)
    (items : List Item) (item : Item) :
    (items ++ [item]).filterMap image = items.filterMap image ++ (image item).toList := by
  rw [List.filterMap_append]
  cases found : image item with
  | none => rw [List.filterMap_cons_none found, List.filterMap_nil, Option.toList_none]
  | some value => rw [List.filterMap_cons_some found, List.filterMap_nil, Option.toList_some]

theorem creations_concat (requests : List Answered) (answered : Answered) :
    creations (requests ++ [answered]) = creations requests ++ answered.created.toList :=
  filterMap_concat _ _ _

theorem uploads_concat (requests : List Answered) (answered : Answered) :
    uploads (requests ++ [answered]) = uploads requests ++ answered.uploaded.toList :=
  filterMap_concat _ _ _

theorem upToDate_concat (requests : List Answered) (answered : Answered) :
    upToDate (requests ++ [answered]) =
      (answered.refreshed || (upToDate requests && answered.uploaded.isNone)) :=
  List.foldl_concat _ _ _ _

/-- Without a refresh the plan is up to date as long as nothing is uploaded. -/
theorem upToDate_of_unrefreshed {requests : List Answered}
    (unrefreshed : ∀ answered ∈ requests, answered.refreshed = false) :
    upToDate requests = (uploads requests).isEmpty := by
  induction requests using List.reverseRecOn with
  | nil => rfl
  | append_singleton requests answered ih =>
    have earlier := ih fun other member =>
      unrefreshed other (List.mem_append_left _ member)
    rw [upToDate_concat, uploads_concat, unrefreshed answered List.mem_concat_self, earlier]
    cases answered.uploaded with
    | none => simp
    | some file => simp

end Log

namespace HomePage

variable {server : Server} {home start : HomePage} {workflowId : String}

/-- The page after a request. -/
def log (home : HomePage) (answered : Answered) : HomePage :=
  { home with requests := home.requests ++ [answered] }

/-- A request is answered or fails. -/
theorem ends_send {request : Request} {returned : request.Reply → HomePage → Prop}
    {raised : String → HomePage → Prop}
    (replied : ∀ reply, server.answer home.requests request = .ok reply →
      returned reply (home.log ⟨request, .ok reply⟩))
    (failed : ∀ reason, raised reason (home.log ⟨request, .error reason⟩)) :
    Ends (send server request) home returned raised := by
  unfold Ends send
  cases answer : server.answer home.requests request with
  | ok reply => exact replied reply answer
  | error reason => exact failed reason

/-- What the page keeps is what was requested: there is one project at most, every request is
about it, and the names of the uploaded files are those of the uploads. -/
structure Accounted (home : HomePage) : Prop where
  created : creations home.requests = home.createdWorkflowId.toList
  named : ∀ workflowId, home.createdWorkflowId = some workflowId → workflowId ≠ ""
  concerned : ∀ answered ∈ home.requests, ∀ workflowId,
    answered.request.workflowId = some workflowId → home.createdWorkflowId = some workflowId
  uploaded : (uploads home.requests).map File.name = home.uploadedFiles
  chosen : ∀ file ∈ uploads home.requests, file ∈ home.files
  counted : ∀ name, home.uploadedFiles.count name ≤ (home.files.map File.name).count name

/-- No request has refreshed the plan. -/
def Unrefreshed (home : HomePage) : Prop :=
  ∀ answered ∈ home.requests, answered.refreshed = false

theorem Accounted.withError (accounted : home.Accounted) (error : Option String) :
    Accounted { home with error } :=
  ⟨accounted.created, accounted.named, accounted.concerned, accounted.uploaded, accounted.chosen,
    accounted.counted⟩

theorem Accounted.open (accounted : home.Accounted) (workflowId : String) :
    Accounted { home with opened := some workflowId } :=
  ⟨accounted.created, accounted.named, accounted.concerned, accounted.uploaded, accounted.chosen,
    accounted.counted⟩

/-- A request that creates and uploads nothing. -/
theorem Accounted.log (accounted : home.Accounted) {answered : Answered}
    (plain : answered.created = none ∧ answered.uploaded = none)
    (about : ∀ workflowId, answered.request.workflowId = some workflowId →
      home.createdWorkflowId = some workflowId) : (home.log answered).Accounted where
  created := by
    rw [HomePage.log, creations_concat, plain.1, Option.toList_none, List.append_nil]
    exact accounted.created
  named := accounted.named
  concerned other member := by
    rcases List.mem_append.mp member with earlier | same
    · exact accounted.concerned other earlier
    · rw [List.mem_singleton.mp same]
      exact about
  uploaded := by
    rw [HomePage.log, uploads_concat, plain.2, Option.toList_none, List.append_nil]
    exact accounted.uploaded
  chosen file member := by
    rw [HomePage.log, uploads_concat, plain.2, Option.toList_none, List.append_nil] at member
    exact accounted.chosen file member
  counted := accounted.counted

theorem Unrefreshed.log (unrefreshed : home.Unrefreshed) {answered : Answered}
    (other : answered.refreshed = false) : (home.log answered).Unrefreshed := by
  intro earlier member
  rcases List.mem_append.mp member with before | same
  · exact unrefreshed earlier before
  · rw [List.mem_singleton.mp same]
    exact other

/-- A submission that has begun in a state and has not opened the project: the files that it has
uploaded are the first of those that remained. -/
structure Underway (start : HomePage) (done : List File) (home : HomePage) : Prop where
  accounted : home.Accounted
  unrefreshed : home.Unrefreshed
  unopened : home.opened = none
  files : home.files = start.files
  uploadedFiles : home.uploadedFiles = start.uploadedFiles ++ done.map File.name

/-- A request that creates, uploads and refreshes nothing leaves the submission underway. -/
theorem Underway.log {done : List File} (underway : Underway start done home) {answered : Answered}
    (plain : answered.created = none ∧ answered.uploaded = none)
    (other : answered.refreshed = false)
    (about : ∀ workflowId, answered.request.workflowId = some workflowId →
      home.createdWorkflowId = some workflowId) : Underway start done (home.log answered) where
  accounted := underway.accounted.log plain about
  unrefreshed := underway.unrefreshed.log other
  unopened := underway.unopened
  files := underway.files
  uploadedFiles := underway.uploadedFiles

/-- A request that fails does nothing. -/
theorem Underway.failed {done : List File} (underway : Underway start done home)
    {request : Request} (reason : String)
    (about : ∀ workflowId, request.workflowId = some workflowId →
      home.createdWorkflowId = some workflowId) :
    Underway start done (home.log ⟨request, .error reason⟩) := by
  refine underway.log ?_ ?_ about
  · cases request <;> exact ⟨rfl, rfl⟩
  · cases request <;> rfl

/-- The first request that creates a project. -/
theorem Underway.created (underway : Underway start [] home)
    (absent : home.createdWorkflowId = none) {goal : List Char} (nonempty : workflowId ≠ "") :
    Underway start [] { home.log ⟨.createGoal goal, .ok workflowId⟩ with
      createdWorkflowId := some workflowId } where
  accounted := by
    refine ⟨?_, ?_, ?_, ?_, ?_, underway.accounted.counted⟩
    · rw [HomePage.log, creations_concat, underway.accounted.created, absent]
      rfl
    · rintro _ ⟨rfl⟩
      exact nonempty
    · intro answered member other about
      rcases List.mem_append.mp member with earlier | same
      · have known := underway.accounted.concerned answered earlier other about
        rw [absent] at known
        cases known
      · rw [List.mem_singleton.mp same] at about
        cases about
    · rw [HomePage.log, uploads_concat]
      exact (congrArg _ (List.append_nil _)).trans underway.accounted.uploaded
    · intro file member
      rw [HomePage.log, uploads_concat] at member
      exact underway.accounted.chosen file (List.append_nil (uploads home.requests) ▸ member)
  unrefreshed := underway.unrefreshed.log rfl
  unopened := underway.unopened
  files := underway.files
  uploadedFiles := underway.uploadedFiles

/-- After the first part there is a project. -/
theorem ends_createProject (underway : Underway start [] home)
    (same : home.createdWorkflowId = start.createdWorkflowId) :
    (createProject server start).Ends home
      (fun workflowId next =>
        Underway start [] next ∧ next.createdWorkflowId = some workflowId)
      fun _ next => Underway start [] next := by
  rw [createProject]
  cases created : start.createdWorkflowId with
  | some workflowId =>
    have nonempty := underway.accounted.named workflowId (same.trans created)
    have kept : (some workflowId).filter (· ≠ "") = some workflowId :=
      Option.filter_some_pos (decide_eq_true nonempty)
    rw [kept, ends_pure]
    exact ⟨underway, same.trans created⟩
  | none =>
    rw [Option.filter_none]
    have absent := same.trans created
    simp only [ends_bind, ends_update, ends_pure, and_true]
    refine ends_send (fun workflowId answer => ?_) fun reason => ?_
    · exact underway.created absent (server.created_ne_empty _ _ _ answer)
    · exact underway.failed reason fun _ absurd => by cases absurd

/-- The submission is about a project. -/
structure About (start : HomePage) (workflowId : String) (done : List File) (home : HomePage) :
    Prop extends Underway start done home where
  project : home.createdWorkflowId = some workflowId

/-- A request about the project that creates, uploads and refreshes nothing. -/
theorem About.log {done : List File} (about : About start workflowId done home) {request : Request}
    {answer : Except String request.Reply} (named : request.workflowId = some workflowId)
    (plain : Answered.created ⟨request, answer⟩ = none ∧ Answered.uploaded ⟨request, answer⟩ = none)
    (other : Answered.refreshed ⟨request, answer⟩ = false) :
    About start workflowId done (home.log ⟨request, answer⟩) where
  toUnderway := about.toUnderway.log plain other fun _ same =>
    about.project.trans (named.symm.trans same)
  project := about.project

/-- What the page reads of the project changes nothing. -/
theorem ends_getWorkflowRequest (about : About start workflowId [] home) :
    (getWorkflowRequest server workflowId).Ends home
      (fun workflow next => About start workflowId [] next ∧ workflow.workflowId = workflowId)
      fun _ next => About start workflowId [] next := by
  refine ends_send (fun workflow answer => ⟨?_, ?_⟩) fun reason => ?_
  · exact about.log rfl ⟨rfl, rfl⟩ rfl
  · exact server.found_under_id _ _ _ answer
  · exact about.log rfl ⟨rfl, rfl⟩ rfl

theorem ends_pollWorkflow (attempts : Nat) (about : About start workflowId [] home) :
    (pollWorkflow server workflowId attempts).Ends home
      (fun workflow next => About start workflowId [] next ∧ workflow.workflowId = workflowId)
      fun _ next => About start workflowId [] next := by
  induction attempts generalizing home with
  | zero => exact ends_getWorkflowRequest about
  | succ attempts ih =>
    rw [pollWorkflow, ends_bind]
    refine ends_send (fun (state : ExecutionState) answer => ?_) fun reason => ?_
    · have later : About start workflowId [] (home.log ⟨.status workflowId, .ok state⟩) :=
        about.log rfl ⟨rfl, rfl⟩ rfl
      split
      · exact ends_getWorkflowRequest later
      · exact ih later
    · exact about.log rfl ⟨rfl, rfl⟩ rfl

/-- After the second part the project is the same. -/
theorem ends_awaitPlan (about : About start workflowId [] home) :
    (awaitPlan server workflowId).Ends home
      (fun named next => named = workflowId ∧ About start workflowId [] next)
      fun _ next => About start workflowId [] next := by
  rw [awaitPlan, if_neg (about.accounted.named workflowId about.project), ends_bind]
  refine (ends_pollWorkflow 60 about).mono ?_ fun _ _ => id
  rintro workflow next ⟨later, same⟩
  split
  · rw [ends_throw]
    exact later
  · have unchanged : { next with createdWorkflowId := some workflowId } = next := by
      rw [← later.project]
    simp only [ends_bind, ends_update, ends_pure, same, true_and, unchanged]
    exact later

/-- A name is uploaded at most as often as it was chosen. -/
theorem counted_uploads (accounted : start.Accounted) {done : List File}
    (front : done <+: start.remainingFiles) (name : String) :
    (start.uploadedFiles ++ done.map File.name).count name ≤
      (start.files.map File.name).count name := by
  rw [List.count_append]
  by_cases earlier : name ∈ start.uploadedFiles
  · have fresh : name ∉ done.map File.name := by
      intro again
      obtain ⟨file, member, rfl⟩ := List.mem_map.mp again
      exact of_decide_eq_true (List.mem_filter.mp (front.subset member)).2 earlier
    rw [List.count_eq_zero.mpr fresh, Nat.add_zero]
    exact accounted.counted name
  · rw [List.count_eq_zero.mpr earlier, Nat.zero_add]
    exact ((front.sublist.trans List.filter_sublist).map File.name).count_le name

/-- The upload of the next file. -/
theorem ends_upload (begun : start.Accounted) {done : List File} {file : File}
    (front : done ++ [file] <+: start.remainingFiles) (about : About start workflowId done home) :
    (upload server workflowId file).Ends home
      (fun _ next => About start workflowId (done ++ [file]) next)
      fun _ next => About start workflowId done next := by
  have stored : file ∈ home.files := by
    rw [about.files]
    exact (List.mem_filter.mp (front.subset List.mem_concat_self)).1
  rw [upload, ends_bind]
  refine ends_send (fun reply _ => ?_) fun reason => about.log rfl ⟨rfl, rfl⟩ rfl
  rw [ends_update]
  have names : home.uploadedFiles ++ [file.name] =
      start.uploadedFiles ++ (done ++ [file]).map File.name := by
    rw [about.uploadedFiles, List.map_append, List.append_assoc]
    rfl
  refine ⟨⟨⟨?_, about.accounted.named, ?_, ?_, ?_, ?_⟩, ?_, about.unopened, about.files, names⟩,
    about.project⟩
  · rw [HomePage.log, creations_concat]
    exact (List.append_nil _).trans about.accounted.created
  · intro answered member other named
    rcases List.mem_append.mp member with earlier | same
    · exact about.accounted.concerned answered earlier other named
    · rw [List.mem_singleton.mp same] at named
      exact about.project.trans named
  · rw [HomePage.log, uploads_concat, List.map_append, about.accounted.uploaded]
    rfl
  · intro other member
    rw [HomePage.log, uploads_concat] at member
    rcases List.mem_append.mp member with earlier | same
    · exact about.accounted.chosen other earlier
    · rw [List.mem_singleton.mp same]
      exact stored
  · intro name
    dsimp only [HomePage.log]
    rw [names, about.files]
    exact counted_uploads begun front name
  · exact about.unrefreshed.log rfl

/-- The uploads stop at the first that fails. -/
theorem ends_uploads (begun : start.Accounted) (about : About start workflowId [] home) :
    Ends (start.remainingFiles.forM (upload server workflowId)) home
      (fun _ next => About start workflowId start.remainingFiles next)
      fun _ next => ∃ done, done <+: start.remainingFiles ∧ About start workflowId done next := by
  refine ends_forM (fun done next => About start workflowId done next) ?_ about
  intro done file rest split state reached
  have front : done ++ [file] <+: start.remainingFiles :=
    ⟨rest, by rw [split, List.append_assoc, List.singleton_append]⟩
  refine (ends_upload begun front reached).mono (fun _ _ => id) fun _ next failed => ?_
  exact ⟨done, (List.prefix_append done [file]).trans front, failed⟩

/-- A submission that has opened the project. -/
structure Opened (start home : HomePage) : Prop where
  accounted : home.Accounted
  project : ∃ workflowId, home.opened = some workflowId ∧ home.createdWorkflowId = some workflowId
  all : ∀ file ∈ home.files, file.name ∈ home.uploadedFiles
  current : upToDate home.requests = true ↔ start.files = [] ∨ start.remainingFiles ≠ []

/-- When the uploads are done, each file is uploaded under its name. -/
theorem About.all (about : About start workflowId start.remainingFiles home) :
    ∀ file ∈ home.files, file.name ∈ home.uploadedFiles := by
  intro file member
  rw [about.files] at member
  rw [about.uploadedFiles, List.mem_append]
  by_cases earlier : file.name ∈ start.uploadedFiles
  · exact .inl earlier
  · have remained : file ∈ start.remainingFiles :=
      List.mem_filter.mpr ⟨member, decide_eq_true earlier⟩
    exact .inr (List.mem_map_of_mem remained)

/-- Where no file remained and nothing was refreshed, the plan is up to date only without files. -/
theorem About.current (about : About start workflowId [] home)
    (nothing : start.remainingFiles = []) : upToDate home.requests = true ↔ start.files = [] := by
  rw [upToDate_of_unrefreshed about.unrefreshed, List.isEmpty_iff]
  constructor
  · intro none_uploaded
    have names := about.accounted.uploaded
    rw [none_uploaded, about.uploadedFiles, List.map_nil, List.append_nil] at names
    rw [remainingFiles, ← names, List.filter_eq_nil_iff] at nothing
    exact List.eq_nil_iff_forall_not_mem.mpr fun file member => nothing file member (by simp)
  · intro no_files
    refine List.eq_nil_iff_forall_not_mem.mpr fun file member => ?_
    have chosen := about.accounted.chosen file member
    rw [about.files, no_files] at chosen
    cases chosen

theorem About.open {done : List File} (about : About start workflowId done home)
    (all : ∀ file ∈ home.files, file.name ∈ home.uploadedFiles)
    (current : upToDate home.requests = true ↔ start.files = [] ∨ start.remainingFiles ≠ []) :
    Opened start { home with opened := some workflowId } :=
  ⟨about.accounted.open workflowId, ⟨workflowId, rfl, about.project⟩, all, current⟩

/-- The plan is refreshed, and the project opened. -/
theorem ends_refreshPlan (about : About start workflowId start.remainingFiles home) :
    (refreshPlan server workflowId start.remainingFiles).Ends home
      (fun _ next => Opened start { next with opened := some workflowId })
      fun _ next => About start workflowId start.remainingFiles next := by
  rw [refreshPlan]
  by_cases nothing : start.remainingFiles = []
  · rw [if_pos nothing, ends_pure]
    refine about.open about.all ?_
    rw [nothing] at about
    rw [about.current nothing]
    exact ⟨.inl, fun either => either.resolve_right fun some_file => some_file nothing⟩
  · rw [if_neg nothing]
    refine ends_send (fun reply _ => ?_) fun reason => about.log rfl ⟨rfl, rfl⟩ rfl
    have accounted : (home.log ⟨.refresh workflowId, .ok reply⟩).Accounted :=
      about.accounted.log ⟨rfl, rfl⟩ fun _ same => about.project.trans same
    refine ⟨accounted.open workflowId, ⟨workflowId, rfl, about.project⟩, about.all, ?_⟩
    rw [HomePage.log, upToDate_concat]
    exact ⟨fun _ => .inr nothing, fun _ => rfl⟩

/-- What is tried opens the project, or it raises and leaves it underway. -/
theorem ends_setUp (begun : start.Accounted) (underway : Underway start [] home)
    (same : home.createdWorkflowId = start.createdWorkflowId) :
    (setUp server start).Ends home (fun _ next => Opened start next)
      fun _ next => ∃ done, Underway start done next := by
  simp only [setUp, ends_bind, ends_update]
  refine (ends_createProject underway same).mono ?_ fun _ _ failed => ⟨[], failed⟩
  rintro created state ⟨known, project⟩
  refine (ends_awaitPlan ⟨known, project⟩).mono ?_ fun _ _ failed => ⟨[], failed.toUnderway⟩
  rintro workflowId next ⟨rfl, planned⟩
  refine (ends_uploads begun planned).mono ?_ ?_
  · intro _ later uploaded
    exact (ends_refreshPlan uploaded).mono (fun _ _ => id)
      fun _ _ failed => ⟨_, failed.toUnderway⟩
  · rintro _ _ ⟨done, _, failed⟩
    exact ⟨done, failed.toUnderway⟩

/-- The states that the page can be in. -/
structure Valid (home : HomePage) : Prop where
  accounted : home.Accounted
  unrefreshed : home.opened = none → home.Unrefreshed
  opened : ∀ workflowId, home.opened = some workflowId → home.createdWorkflowId = some workflowId

variable (server) in
/-- A submission returns. It has opened the project or left it underway. -/
theorem ends_handleSubmit (valid : home.Valid) (unopened : home.opened = none) :
    (handleSubmit server home).Ends home
      (fun _ next => Opened home next ∨ ∃ done, Underway home done next) fun _ _ => False := by
  have begun : Underway home [] home :=
    ⟨valid.accounted, valid.unrefreshed unopened, unopened, rfl, (List.append_nil _).symm⟩
  have cleared : Underway home [] { home with error := none } :=
    ⟨begun.accounted.withError none, begun.unrefreshed, unopened, rfl, begun.uploadedFiles⟩
  rw [handleSubmit]
  split
  · exact .inr ⟨[], begun⟩
  · simp only [ends_bind, ends_update, ends_tryCatch]
    refine (ends_setUp valid.accounted cleared rfl).mono (fun _ _ => .inl) ?_
    rintro reason next ⟨done, failed⟩
    exact .inr ⟨done, failed.accounted.withError (some reason), failed.unrefreshed,
      failed.unopened, failed.files, failed.uploadedFiles⟩

theorem valid_empty : ({} : HomePage).Valid where
  accounted := by
    refine ⟨rfl, ?_, ?_, rfl, ?_, fun _ => Nat.le_refl _⟩
    · intro workflowId absent
      cases absent
    · intro answered absent
      cases absent
    · intro file absent
      cases absent
  unrefreshed _ answered absent := by cases absent
  opened workflowId absent := by cases absent

theorem Opened.valid (opened : Opened start home) : home.Valid where
  accounted := opened.accounted
  unrefreshed absent := by
    obtain ⟨workflowId, present, -⟩ := opened.project
    rw [absent] at present
    cases present
  opened workflowId present := by
    obtain ⟨named, route, project⟩ := opened.project
    exact project.trans (route.symm.trans present)

theorem Underway.valid {done : List File} (underway : Underway start done home) : home.Valid where
  accounted := underway.accounted
  unrefreshed _ := underway.unrefreshed
  opened workflowId present := by
    rw [underway.unopened] at present
    cases present

/-- Before there is a project the goal and the files can be anything. -/
theorem Valid.edit (valid : home.Valid) (unopened : home.opened = none)
    (free : home.createdWorkflowId.any (· ≠ "") = false) (goal : List Char) (files : List File) :
    Valid { home with goal, files } := by
  have absent : home.createdWorkflowId = none := by
    cases created : home.createdWorkflowId with
    | none => rfl
    | some workflowId =>
      rw [created, Option.any_some, decide_eq_false_iff_not] at free
      exact absurd (valid.accounted.named workflowId created) free
  have nothing : uploads home.requests = [] := by
    rw [uploads, List.filterMap_eq_nil_iff]
    intro answered member
    have unnamed : answered.request.workflowId = none := by
      cases named : answered.request.workflowId with
      | none => rfl
      | some workflowId =>
        have known := valid.accounted.concerned answered member workflowId named
        rw [absent] at known
        cases known
    obtain ⟨request, answer⟩ := answered
    cases request with
    | ingest file workflowId => cases unnamed
    | createGoal | status | getWorkflow | refresh => cases answer <;> rfl
  have unnamed : home.uploadedFiles = [] := by
    rw [← valid.accounted.uploaded, nothing, List.map_nil]
  refine ⟨⟨valid.accounted.created, valid.accounted.named, valid.accounted.concerned,
    valid.accounted.uploaded, ?_, ?_⟩, valid.unrefreshed, ?_⟩
  · intro file member
    rw [nothing] at member
    cases member
  · intro name
    dsimp only
    rw [unnamed, List.count_nil]
    exact Nat.zero_le _
  · intro workflowId present
    rw [unopened] at present
    cases present

/-- What the button opens is the project. -/
theorem Valid.openAnyway (valid : home.Valid) (shown : home.offered = some workflowId) :
    Valid { home with opened := some workflowId } := by
  have created : home.createdWorkflowId = some workflowId := by
    unfold offered at shown
    split at shown
    · exact (Option.filter_eq_some_iff.mp shown).1
    · cases shown
  refine ⟨valid.accounted.open workflowId, ?_, ?_⟩
  · intro absent
    cases absent
  · intro other present
    exact created.trans present

/-- A submission that has opened the project, or has not. -/
theorem Valid.submit (valid : home.Valid) {next : HomePage}
    (submitted : (system server).step home .submit = some next) :
    Opened home next ∨ ∃ done, Underway home done next := by
  unfold system at submitted
  dsimp only at submitted
  split at submitted
  · cases submitted
  · rename_i unopened
    cases submitted
    have ends := ends_handleSubmit server valid (not_not.mp unopened)
    exact ends.next (fun _ _ => id) fun _ _ impossible => impossible.elim

/-- What the user does leaves the page in one of its states. -/
theorem Valid.step (valid : home.Valid) {action : Action} {next : HomePage}
    (stepped : (system server).step home action = some next) : next.Valid := by
  have edited (goal : List Char) (files : List File)
      (edit : (if home.opened ≠ none then none
        else if home.createdWorkflowId.any (· ≠ "") then none
        else some { home with goal, files }) = some next) : next.Valid := by
    split at edit
    · cases edit
    rename_i unopened
    split at edit
    · cases edit
    rename_i free
    cases edit
    exact valid.edit (not_not.mp unopened) (Bool.eq_false_iff.mpr free) goal files
  cases action with
  | submit =>
    rcases valid.submit stepped with opened | ⟨done, underway⟩
    · exact opened.valid
    · exact underway.valid
  | openAnyway =>
    unfold system at stepped
    dsimp only at stepped
    split at stepped
    · cases stepped
    obtain ⟨workflowId, shown, rfl⟩ := Option.map_eq_some_iff.mp stepped
    exact valid.openAnyway shown
  | changeGoal goal => exact edited goal home.files stepped
  | chooseFiles additions => exact edited home.goal _ stepped
  | removeFile name => exact edited home.goal _ stepped

theorem valid_of_run (run : (system server).Run TransitionSystem.unguarded {} home) : home.Valid :=
  TransitionSystem.Run.invariant Valid
    (fun _ _ _ valid _ stepped => valid.step stepped) valid_empty run

/-- Each file's name has been uploaded when a submission opens the project. -/
theorem Opened.named (opened : Opened start home) :
    ∀ file ∈ home.files, ∃ other ∈ uploads home.requests, other.name = file.name := by
  intro file member
  have named := opened.all file member
  rw [← opened.accounted.uploaded] at named
  exact List.mem_map.mp named

/-- Distinct names are uploaded once each, and these are those of the files. -/
theorem Opened.perm (opened : Opened start home) (distinct : (home.files.map File.name).Nodup) :
    (uploads home.requests).Perm home.files := by
  have accounted := opened.accounted
  have once : ((uploads home.requests).map File.name).Nodup := by
    rw [accounted.uploaded, List.nodup_iff_count_le_one]
    exact fun name => (accounted.counted name).trans (List.nodup_iff_count_le_one.mp distinct name)
  refine (List.perm_ext_iff_of_nodup once.of_map distinct.of_map).mpr fun file => ⟨?_, ?_⟩
  · exact accounted.chosen file
  · intro member
    obtain ⟨other, uploaded, same⟩ := opened.named file member
    rwa [← List.inj_on_of_nodup_map distinct (accounted.chosen other uploaded) member same]

/-- **A form that can be submitted again.** Whatever fails and however often it is submitted, the
server answers at most one creation, every other request is about that project, no name is
uploaded more often than it was chosen, and the project is the one that is opened. When a
submission opens it, each file's name has been uploaded to it, and where the names are distinct the
uploads are the files, each once. -/
theorem setup_once (run : (system server).Run TransitionSystem.unguarded {} home) :
    (creations home.requests).length ≤ 1 ∧
    (∀ answered ∈ home.requests, ∀ workflowId, answered.request.workflowId = some workflowId →
      creations home.requests = [workflowId]) ∧
    (∀ name, ((uploads home.requests).map File.name).count name ≤
      (home.files.map File.name).count name) ∧
    (∀ workflowId, home.opened = some workflowId → creations home.requests = [workflowId]) ∧
    ∀ next, (system server).step home .submit = some next → next.opened ≠ none →
      (∀ file ∈ next.files, ∃ other ∈ uploads next.requests, other.name = file.name) ∧
      ((next.files.map File.name).Nodup → (uploads next.requests).Perm next.files) := by
  have valid := valid_of_run run
  have accounted := valid.accounted
  have project : ∀ workflowId, home.createdWorkflowId = some workflowId →
      creations home.requests = [workflowId] := by
    intro workflowId created
    rw [accounted.created, created, Option.toList_some]
  refine ⟨?_, ?_, ?_, ?_, ?_⟩
  · rw [accounted.created]
    exact Option.length_toList_le
  · exact fun answered member workflowId about =>
      project workflowId (accounted.concerned answered member workflowId about)
  · rw [accounted.uploaded]
    exact accounted.counted
  · exact fun workflowId opened => project workflowId (valid.opened workflowId opened)
  · intro next submitted route
    rcases valid.submit submitted with opened | ⟨done, underway⟩
    · exact ⟨opened.named, opened.perm⟩
    · exact absurd underway.unopened route

/-- **When the opened plan knows its documents.** A submission that opens the project has had its
plan refreshed since the last upload exactly if there are no files, or one of them was still to be
uploaded when it began: after uploads whose refresh failed, the next submission has nothing to
upload and leaves out the refresh. -/
theorem opened_current_iff (run : (system server).Run TransitionSystem.unguarded {} home)
    {next : HomePage} (submitted : (system server).step home .submit = some next)
    (opened : next.opened ≠ none) :
    upToDate next.requests = true ↔
      home.files = [] ∨ ∃ file ∈ home.files, file.name ∉ home.uploadedFiles := by
  rcases (valid_of_run run).submit submitted with current | ⟨done, underway⟩
  · rw [current.current]
    refine or_congr_right ?_
    rw [remainingFiles, ne_eq, List.filter_eq_nil_iff]
    simp only [decide_eq_true_eq, not_forall, not_not, exists_prop]
  · exact absurd underway.unopened opened

section Samples

/-- A server whose first refresh fails. -/
def flaky : Server where
  answer
    | _, .createGoal _ => .ok "wf_ship"
    | _, .status _ => .ok ExecutionState.completed
    | _, .getWorkflow workflowId =>
      .ok ({ workflowId, executionState := .completed } : PlannedWorkflow)
    | _, .ingest .. => .ok ⟨⟩
    | requests, .refresh _ =>
      if requests.any fun answered => answered.request = .refresh "wf_ship" then .ok ⟨⟩
      else .error "Request failed"
  created_ne_empty _ _ _ answer := by
    obtain rfl := Except.ok.inj answer
    exact (by decide : ("wf_ship" : String) ≠ "")
  found_under_id _ _ _ answer := by
    cases answer
    rfl

/-- A goal and a file, and the first submission. -/
def firstTry : List Action :=
  [.changeGoal "Ship".toList,
    .chooseFiles [{ name := "guide.md", content := "Test first." }], .submit]

theorem setup_once_second_try : ∃ home next,
    (system flaky).runFrom {} firstTry = some home ∧
      (system flaky).step home .submit = some next ∧
      creations next.requests = ["wf_ship"] ∧ (uploads next.requests).Perm next.files := by
  have executed : (system flaky).runFrom {} firstTry = some _ := rfl
  have again : (system flaky).runFrom {} (firstTry ++ [.submit]) = some _ := rfl
  refine ⟨_, _, executed, rfl, ?_⟩
  obtain ⟨-, -, -, opened, -⟩ := setup_once (TransitionSystem.run_of_runFrom _ again)
  obtain ⟨-, -, -, -, uploaded⟩ := setup_once (TransitionSystem.run_of_runFrom _ executed)
  exact ⟨opened "wf_ship" rfl, (uploaded _ rfl (by decide)).2 (by decide)⟩

/-- After the refresh has failed, the project can be opened as it is. -/
example : ((system flaky).runFrom {} (firstTry ++ [.openAnyway])).bind HomePage.opened =
    some "wf_ship" := rfl

/-- The project is opened with a document that its plan does not know. -/
theorem opened_outdated_second_try : ∃ home next,
    (system flaky).runFrom {} firstTry = some home ∧
      (system flaky).step home .submit = some next ∧
      next.opened = some "wf_ship" ∧ upToDate next.requests = false := by
  have executed : (system flaky).runFrom {} firstTry = some _ := rfl
  refine ⟨_, _, executed, rfl, rfl, ?_⟩
  rw [Bool.eq_false_iff, Ne,
    opened_current_iff (TransitionSystem.run_of_runFrom _ executed) rfl (by decide)]
  decide

end Samples

end HomePage

end ActionPlan.Frontend
