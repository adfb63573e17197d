import ActionPlan.Foundation.Records
import ActionPlan.Models.IsoTexts
import ActionPlan.Models.Workflow

/-! # The documents of the workflow record

What `model_dump` makes of the models, in JSON mode, and `model_validate` of a document: each model
is the list of its fields, with their keys and defaults.
-/

namespace ActionPlan.Models

open ActionPlan.Foundation

namespace Value

/-- The value is `None`. -/
def isNone : Value → Bool
  | none => true
  | _ => false

def items? : Value → Option (List Value)
  | list items => some items
  | _ => Option.none

def entries? : Value → Option (List (String × Value))
  | dict entries => some entries
  | _ => Option.none

/-- A text; pydantic makes none of another value. -/
def text? : Value → Option String
  | str text => some text
  | _ => Option.none

instance : Document Value where
  null := none
  ofItems := list
  ofEntries := dict
  isNull := isNone
  items? := items?
  entries? := entries?
  isNull_null := rfl
  isNull_ofItems _ := rfl
  isNull_ofEntries _ := rfl
  items?_ofItems _ := rfl
  entries?_ofEntries _ := rfl

end Value

/-- What pydantic reads of values that are not of a field's own type, and how it writes a point in
time. It reads what it writes, and what `isoformat` writes. -/
structure Conversions where
  readInteger : Value → Option Int
  readBoolean : Value → Option Bool
  readDate : Value → Option Date
  readDateTime : Value → Option DateTime
  writeDateTime : DateTime → String
  readInteger_int : ∀ number, readInteger (.int number) = some number
  readInteger_decimal : ∀ number, readInteger (.decimal number) = some number
  readBoolean_bool : ∀ flag, readBoolean (.bool flag) = some flag
  readDate_isoformat : ∀ date : Date, date.Valid → readDate (.str date.isoformat) = some date
  readDateTime_write : ∀ time : DateTime, time.Valid →
    readDateTime (.str (writeDateTime time)) = some time
  readDateTime_isoformat : ∀ time : DateTime, time.Valid →
    readDateTime (.str time.isoformat) = some time

/-- A number. -/
def Value.integer? : Value → Option Int
  | .int number | .decimal number => some number
  | _ => Option.none

/-- The truth value that a document is. -/
def Value.boolean? : Value → Option Bool
  | .bool flag => some flag
  | _ => Option.none

/-- Conversions of the values and texts that are written, and of no others. -/
def Conversions.strict : Conversions where
  readInteger := Value.integer?
  readBoolean := Value.boolean?
  readDate value := value.text?.bind Date.ofIsoformat
  readDateTime value := value.text?.bind DateTime.ofText
  writeDateTime := DateTime.jsonText
  readInteger_int _ := rfl
  readInteger_decimal _ := rfl
  readBoolean_bool _ := rfl
  readDate_isoformat _ valid := by
    rw [Value.text?, Option.bind_some, valid.ofIsoformat]
  readDateTime_write _ valid := by
    rw [Value.text?, Option.bind_some, valid.ofText (.inr rfl)]
  readDateTime_isoformat _ valid := by
    rw [Value.text?, Option.bind_some, valid.ofText (.inl rfl)]

/-- A way of a document on which texts and flags stay as they are, and a number stays one. -/
structure Route extends Transport Value where
  carry_str : ∀ text, carry (.str text) = .str text
  carry_bool : ∀ flag, carry (.bool flag) = .bool flag
  carry_int : ∀ number, carry (.int number) = .int number ∨ carry (.int number) = .decimal number

namespace Route

/-- A file or a column. -/
def direct : Route where
  carry := id
  isNull_carry _ := rfl
  carry_ofItems items := congrArg Value.list (List.map_id items).symm
  carry_ofEntries entries := congrArg Value.dict (List.map_id entries).symm
  carry_str _ := rfl
  carry_bool _ := rfl
  carry_int _ := .inl rfl

theorem numbersAsDecimalList_eq_map (items : List Value) :
    Value.numbersAsDecimalList items = items.map Value.numbersAsDecimal := by
  induction items with
  | nil => rfl
  | cons item items ih => rw [Value.numbersAsDecimalList, ih, List.map_cons]

theorem numbersAsDecimalEntries_eq_map (entries : List (String × Value)) :
    Value.numbersAsDecimalEntries entries =
      entries.map fun entry => (entry.1, entry.2.numbersAsDecimal) := by
  induction entries with
  | nil => rfl
  | cons entry entries ih => rw [Value.numbersAsDecimalEntries, ih, List.map_cons]

/-- The conversion of numbers neither makes nor removes `None`. -/
theorem isNone_numbersAsDecimal (value : Value) :
    value.numbersAsDecimal.isNone = value.isNone := by
  cases value <;> rfl

/-- The DynamoDB client. -/
def client : Route where
  carry := Value.numbersAsDecimal
  isNull_carry := isNone_numbersAsDecimal
  carry_ofItems items := congrArg Value.list (numbersAsDecimalList_eq_map items)
  carry_ofEntries entries := congrArg Value.dict (numbersAsDecimalEntries_eq_map entries)
  carry_str _ := rfl
  carry_bool _ := rfl
  carry_int _ := .inr rfl

end Route

section Values

/-- The text of an effort in documents. -/
def Effort.value : Effort → String
  | small => "small"
  | medium => "medium"
  | large => "large"
  | high => "high"

/-- The text of a readiness in documents. -/
def Readiness.value : Readiness → String
  | waiting => "waiting"
  | ready => "ready"
  | complete => "complete"
  | blocked => "blocked"
  | cancelled => "cancelled"

/-- The text of a category in documents. -/
def RequirementCategory.value : RequirementCategory → String
  | policy => "policy"
  | process => "process"
  | approval => "approval"
  | evidence => "evidence"
  | definition => "definition"

/-- The text of a recommendation's status in documents. -/
def RecommendationStatus.value : RecommendationStatus → String
  | opened => "open"
  | accepted => "accepted"
  | rejected => "rejected"
  | revisionRequested => "revision_requested"
  | stale => "stale"

end Values

section Formats

variable (conversions : Conversions)

/-- Texts are written as they are. -/
def string : Format Value String where
  write := .str
  read := Value.text?

/-- Integers are written as they are and may come back as another number. -/
def integer : Format Value Int where
  write := .int
  read := conversions.readInteger

/-- Truth values are written as they are. -/
def boolean : Format Value Bool where
  write := .bool
  read := conversions.readBoolean

/-- Dates are written in the ISO format. -/
def date : Format Value Date where
  write day := .str day.isoformat
  read := conversions.readDate

/-- Times are written as the conversion to documents has it. -/
def dateTime : Format Value DateTime where
  write time := .str (conversions.writeDateTime time)
  read := conversions.readDateTime

/-- `Any`. -/
def anything : Format Value Value where
  write := Value.toJsonMode
  read := some

/-- `Field(min_length=1)`. -/
def nonempty : Format Value { text : String // text ≠ "" } := string.restrict (· ≠ "")

theorem nonempty_property (text : { text : String // text ≠ "" }) : text.val ≠ "" := text.property

/-- `Field(ge=1)`. -/
def positive : Format Value { number : Int // 1 ≤ number } :=
  (integer conversions).restrict (1 ≤ ·)

/-- An effort, as its text. -/
def effort : Format Value Effort := string.oneOf [.small, .medium, .large, .high] Effort.value

/-- A status, as its text. -/
def taskStatus : Format Value TaskStatus :=
  string.oneOf [.pending, .ready, .inProgress, .completed, .blocked, .cancelled] TaskStatus.value

/-- A readiness, as its text. -/
def readiness : Format Value Readiness :=
  string.oneOf [.waiting, .ready, .complete, .blocked, .cancelled] Readiness.value

/-- A category, as its text. -/
def requirementCategory : Format Value RequirementCategory :=
  string.oneOf [.policy, .process, .approval, .evidence, .definition] RequirementCategory.value

/-- A priority, as its text. -/
def priority : Format Value Priority := string.oneOf [.low, .medium, .high] Priority.value

/-- A recommendation's status, as its text. -/
def recommendationStatus : Format Value RecommendationStatus :=
  string.oneOf [.opened, .accepted, .rejected, .revisionRequested, .stale]
    RecommendationStatus.value

/-- An execution state, as its text. -/
def executionState : Format Value ExecutionState :=
  string.oneOf [.queued, .running, .needsReview, .completed, .failed] ExecutionState.value

end Formats

section Schemas

/-! The models with their fields. The default of a time is that of the reading. -/

variable (conversions : Conversions) (now : DateTime)

/-- The fields of `Evidence`. A document may spell the type by its alias. -/
def Evidence.schema : Schema Value Evidence where
  toFields := Fields.of Evidence.mk
    |>.required "content" Evidence.content string
    |>.defaulted "source" Evidence.source string.optional none
    |>.defaulted "page" Evidence.page (integer conversions).optional none
    |>.field "document_type" ["doc_type"] Evidence.documentType string.optional (some none)
  whole _ := rfl
  distinct := by simp

/-- The fields of `Task`; its id and its description are not empty. -/
def Task.schema : Schema Value Task where
  toFields := Fields.of (fun id description dependencies status effort role owner mandatory
      requiredInformation requiredApprovals requirementIds procedureSources evidence
      acceptanceCriteria readiness =>
        Task.mk id.1 description.1 dependencies status effort role owner mandatory
          requiredInformation requiredApprovals requirementIds procedureSources evidence
          acceptanceCriteria readiness (nonempty_property id) (nonempty_property description))
    |>.required "id" (fun task => ⟨task.id, task.id_nonempty⟩) nonempty
    |>.required "description" (fun task => ⟨task.description, task.description_nonempty⟩) nonempty
    |>.defaulted "dependencies" Task.dependencies string.list []
    |>.defaulted "status" Task.status taskStatus .pending
    |>.defaulted "effort" Task.effort Models.effort .small
    |>.defaulted "role" Task.role string.optional none
    |>.defaulted "owner" Task.owner string.optional none
    |>.defaulted "mandatory" Task.mandatory (boolean conversions) true
    |>.defaulted "required_information" Task.requiredInformation string.list []
    |>.defaulted "required_approvals" Task.requiredApprovals string.list []
    |>.defaulted "requirement_ids" Task.requirementIds string.list []
    |>.defaulted "procedure_sources" Task.procedureSources string.list []
    |>.defaulted "evidence" Task.evidence (Evidence.schema conversions).format.list []
    |>.defaulted "acceptance_criteria" Task.acceptanceCriteria string.list []
    |>.defaulted "readiness" Task.readiness Models.readiness .waiting
  whole _ := rfl
  distinct := by simp

/-- The fields of `Requirement`; its id and its text are not empty. -/
def Requirement.schema : Schema Value Requirement where
  toFields := Fields.of (fun id category text rationale relevantTasks evidence covered =>
        Requirement.mk id.1 category text.1 rationale relevantTasks evidence covered
          (nonempty_property id) (nonempty_property text))
    |>.required "id" (fun requirement => ⟨requirement.id, requirement.id_nonempty⟩) nonempty
    |>.defaulted "category" Requirement.category requirementCategory .definition
    |>.required "text" (fun requirement => ⟨requirement.text, requirement.text_nonempty⟩) nonempty
    |>.defaulted "rationale" Requirement.rationale string.optional none
    |>.defaulted "relevant_tasks" Requirement.relevantTasks string.list []
    |>.defaulted "evidence" Requirement.evidence (Evidence.schema conversions).format.list []
    |>.defaulted "covered" Requirement.covered (boolean conversions) false
  whole _ := rfl
  distinct := by simp

/-- The fields of `ProcedureOption`. -/
def ProcedureOption.schema : Schema Value ProcedureOption where
  toFields := Fields.of ProcedureOption.mk
    |>.required "command" ProcedureOption.command string
    |>.required "description" ProcedureOption.description string
    |>.defaulted "flags" ProcedureOption.flags string.list []
  whole _ := rfl
  distinct := by simp

/-- The fields of `ProcedureStep`; its order is positive. -/
def ProcedureStep.schema : Schema Value ProcedureStep where
  toFields := Fields.of (fun order action requiredInformation optional options =>
        ProcedureStep.mk order.1 action requiredInformation optional options order.2)
    |>.required "order" (fun step => ⟨step.order, step.order_pos⟩) (positive conversions)
    |>.required "action" ProcedureStep.action string
    |>.defaulted "required_information" ProcedureStep.requiredInformation string.list []
    |>.defaulted "optional" ProcedureStep.optional (boolean conversions) false
    |>.defaulted "options" ProcedureStep.options ProcedureOption.schema.format.list []
  whole _ := rfl
  distinct := by simp

/-- The fields of `Procedure`. -/
def Procedure.schema : Schema Value Procedure where
  toFields := Fields.of Procedure.mk
    |>.required "id" Procedure.id string
    |>.required "name" Procedure.name string
    |>.defaulted "source" Procedure.source string.optional none
    |>.defaulted "summary" Procedure.summary string.optional none
    |>.defaulted "steps" Procedure.steps (ProcedureStep.schema conversions).format.list []
  whole _ := rfl
  distinct := by simp

/-- The fields of `CandidateTask`. -/
def CandidateTask.schema : Schema Value CandidateTask where
  toFields := Fields.of CandidateTask.mk
    |>.required "task_id" CandidateTask.taskId string
    |>.required "description" CandidateTask.description string
    |>.defaulted "requirement_id" CandidateTask.requirementId string.optional none
    |>.defaulted "procedure_id" CandidateTask.procedureId string.optional none
    |>.defaulted "effort" CandidateTask.effort Models.effort .small
    |>.defaulted "dependencies" CandidateTask.dependencies string.list []
    |>.defaulted "required_approvals" CandidateTask.requiredApprovals string.list []
  whole _ := rfl
  distinct := by simp

/-- The fields of `CandidatePlan`. -/
def CandidatePlan.schema : Schema Value CandidatePlan where
  toFields := Fields.of CandidatePlan.mk
    |>.required "rationale" CandidatePlan.rationale string
    |>.defaulted "assumptions" CandidatePlan.assumptions string.list []
    |>.defaulted "tasks" CandidatePlan.tasks CandidateTask.schema.format.list []
  whole _ := rfl
  distinct := by simp

/-- The fields of `ValidationIssue`. -/
def ValidationIssue.schema : Schema Value ValidationIssue where
  toFields := Fields.of ValidationIssue.mk
    |>.required "code" ValidationIssue.code string
    |>.required "message" ValidationIssue.message string
    |>.defaulted "task_id" ValidationIssue.taskId string.optional none
  whole _ := rfl
  distinct := by simp

/-- The fields of `PlanValidationResult`, each with a default. -/
def PlanValidationResult.schema : Schema Value PlanValidationResult where
  toFields := Fields.of PlanValidationResult.mk
    |>.defaulted "valid" PlanValidationResult.valid (boolean conversions) true
    |>.defaulted "summary" PlanValidationResult.summary string "plan is consistent"
    |>.defaulted "errors" PlanValidationResult.errors ValidationIssue.schema.format.list []
    |>.defaulted "warnings" PlanValidationResult.warnings ValidationIssue.schema.format.list []
    |>.defaulted "invalid_dependencies" PlanValidationResult.invalidDependencies string.list []
    |>.defaulted "missing_approvals" PlanValidationResult.missingApprovals string.list []
    |>.defaulted "sequencing_violations" PlanValidationResult.sequencingViolations string.list []
    |>.defaulted "uncovered_requirements" PlanValidationResult.uncoveredRequirements string.list []
    |>.defaulted "revision_count" PlanValidationResult.revisionCount (integer conversions) 0
  whole _ := rfl
  distinct := by simp

/-- The fields of `OptimizationResult`. -/
def OptimizationResult.schema : Schema Value OptimizationResult where
  toFields := Fields.of OptimizationResult.mk
    |>.required "summary" OptimizationResult.summary string
    |>.defaulted "critical_path" OptimizationResult.criticalPath string.list []
    |>.defaulted "critical_path_effort" OptimizationResult.criticalPathEffort
      (integer conversions) 0
    |>.defaulted "parallel_chains" OptimizationResult.parallelChains string.list.list []
    |>.defaulted "days_until_deadline" OptimizationResult.daysUntilDeadline
      (integer conversions).optional none
    |>.defaulted "deadline_feasible" OptimizationResult.deadlineFeasible
      (boolean conversions).optional none
    |>.defaulted "deadline_notes" OptimizationResult.deadlineNotes string.optional none
    |>.defaulted "notes" OptimizationResult.notes string.list []
  whole _ := rfl
  distinct := by simp

/-- The fields of `TargetedEvidence`. -/
def TargetedEvidence.schema : Schema Value TargetedEvidence where
  toFields := Fields.of TargetedEvidence.mk
    |>.required "requirement_id" TargetedEvidence.requirementId string
    |>.defaulted "query" TargetedEvidence.query string.optional none
    |>.defaulted "evidence" TargetedEvidence.evidence (Evidence.schema conversions).format.list []
  whole _ := rfl
  distinct := by simp

/-- The fields of `Person`. -/
def Person.schema : Schema Value Person where
  toFields := Fields.of Person.mk
    |>.required "name" Person.name string
    |>.defaulted "role" Person.role string "contributor"
  whole _ := rfl
  distinct := by simp

/-- The fields of `WorkRequest`. -/
def WorkRequest.schema : Schema Value WorkRequest where
  toFields := Fields.of WorkRequest.mk
    |>.required "goal" WorkRequest.goal string
    |>.defaulted "people" WorkRequest.people Person.schema.format.list []
    |>.defaulted "roles" WorkRequest.roles string.list []
    |>.defaulted "deadline" WorkRequest.deadline (date conversions).optional none
    |>.defaulted "priority" WorkRequest.priority Models.priority .medium
    |>.defaulted "current_status" WorkRequest.currentStatus string.optional none
    |>.defaulted "constraints" WorkRequest.constraints string.list []
    |>.defaulted "resources" WorkRequest.resources string.list []
    |>.defaulted "success_criteria" WorkRequest.successCriteria string.list []
  whole _ := rfl
  distinct := by simp

/-- The fields of `Blocker`, each with a default. -/
def Blocker.schema : Schema Value Blocker where
  toFields := Fields.of Blocker.mk
    |>.defaulted "task_id" Blocker.taskId string ""
    |>.defaulted "type" Blocker.type string "dependency"
    |>.defaulted "message" Blocker.message string ""
  whole _ := rfl
  distinct := by simp

/-- The fields of `Recommendation`; only its action and its reason are required. -/
def Recommendation.schema : Schema Value Recommendation where
  toFields := Fields.of Recommendation.mk
    |>.defaulted "recommendation_id" Recommendation.recommendationId string ""
    |>.defaulted "workflow_id" Recommendation.workflowId string ""
    |>.required "action" Recommendation.action string
    |>.required "reason" Recommendation.reason string
    |>.defaulted "priority" Recommendation.priority string "medium"
    |>.defaulted "affected_task" Recommendation.affectedTask string.optional none
    |>.defaulted "requirement_id" Recommendation.requirementId string.optional none
    |>.defaulted "role" Recommendation.role string.optional none
    |>.defaulted "blocked_by" Recommendation.blockedBy string.optional none
    |>.defaulted "evidence" Recommendation.evidence string.list []
    |>.defaulted "critical_path" Recommendation.criticalPath string.list []
    |>.defaulted "deadline_pressure" Recommendation.deadlinePressure string "none"
    |>.defaulted "affected_task_ids" Recommendation.affectedTaskIds string.list []
    |>.defaulted "supporting_evidence" Recommendation.supportingEvidence
      (Evidence.schema conversions).format.list []
    |>.defaulted "assumptions" Recommendation.assumptions string.list []
    |>.defaulted "status" Recommendation.status recommendationStatus .opened
    |>.defaulted "created_at" Recommendation.createdAt (dateTime conversions) now
    |>.defaulted "decided_at" Recommendation.decidedAt (dateTime conversions).optional none
    |>.defaulted "decision_reason" Recommendation.decisionReason string.optional none
  whole _ := rfl
  distinct := by simp

/-- The fields of `WorkflowState`, in the order of the class. -/
def WorkflowState.schema : Schema Value WorkflowState where
  toFields := Fields.of WorkflowState.mk
    |>.required "workflow_id" WorkflowState.workflowId string
    |>.required "original_goal" WorkflowState.originalGoal string
    |>.defaulted "work_request" WorkflowState.workRequest
      (WorkRequest.schema conversions).format.optional none
    |>.defaulted "objective_analysis" WorkflowState.objectiveAnalysis
      anything.dictionary.optional none
    |>.defaulted "goal_analysis" WorkflowState.goalAnalysis anything.dictionary.optional none
    |>.defaulted "planner_steps" WorkflowState.plannerSteps string.list []
    |>.defaulted "procedure_analysis" WorkflowState.procedureAnalysis
      anything.dictionary.optional none
    |>.defaulted "procedures" WorkflowState.procedures (Procedure.schema conversions).format.list []
    |>.defaulted "requirements" WorkflowState.requirements
      (Requirement.schema conversions).format.list []
    |>.defaulted "candidate_plan" WorkflowState.candidatePlan CandidatePlan.schema.format.optional
      none
    |>.defaulted "plan_validation" WorkflowState.planValidation
      (PlanValidationResult.schema conversions).format.optional none
    |>.defaulted "plan_revision_count" WorkflowState.planRevisionCount (integer conversions) 0
    |>.defaulted "optimization" WorkflowState.optimization
      (OptimizationResult.schema conversions).format.optional none
    |>.defaulted "tasks" WorkflowState.tasks (Task.schema conversions).format.list []
    |>.defaulted "completed_tasks" WorkflowState.completedTasks string.list []
    |>.defaulted "blocked_tasks" WorkflowState.blockedTasks string.list []
    |>.defaulted "current_task" WorkflowState.currentTask string.optional none
    |>.defaulted "current_state" WorkflowState.currentState anything.dictionary ∅
    |>.defaulted "function_definitions" WorkflowState.functionDefinitions anything.dictionary ∅
    |>.defaulted "retrieved_documents" WorkflowState.retrievedDocuments
      (Evidence.schema conversions).format.list []
    |>.defaulted "targeted_evidence" WorkflowState.targetedEvidence
      (TargetedEvidence.schema conversions).format.list []
    |>.defaulted "targeted_by_requirement" WorkflowState.targetedByRequirement
      string.list.dictionary ∅
    |>.defaulted "detected_blockers" WorkflowState.detectedBlockers Blocker.schema.format.list []
    |>.defaulted "recommendation" WorkflowState.recommendation
      (Recommendation.schema conversions now).format.optional none
    |>.defaulted "memory_context" WorkflowState.memoryContext string.list []
    |>.defaulted "execution_metadata" WorkflowState.executionMetadata anything.dictionary ∅
    |>.defaulted "version" WorkflowState.version (integer conversions) 1
    |>.defaulted "created_at" WorkflowState.createdAt (dateTime conversions) now
    |>.defaulted "last_assessed_at" WorkflowState.lastAssessedAt (dateTime conversions).optional
      none
    |>.defaulted "updated_at" WorkflowState.updatedAt (dateTime conversions) now
    |>.defaulted "execution_state" WorkflowState.executionState Models.executionState .queued
    |>.defaulted "execution_error" WorkflowState.executionError string.optional none
  whole _ := rfl
  distinct := by simp

end Schemas

section Laws

variable (conversions : Conversions) (route : Route)

@[simp] theorem lossless_string : string.Lossless route.toTransport := fun text =>
  congrArg Value.text? (route.carry_str text)

@[simp] theorem lossless_integer : (integer conversions).Lossless route.toTransport := by
  intro number
  rcases route.carry_int number with same | decimal
  · exact (congrArg conversions.readInteger same).trans (conversions.readInteger_int number)
  · exact (congrArg conversions.readInteger decimal).trans (conversions.readInteger_decimal number)

@[simp] theorem lossless_boolean : (boolean conversions).Lossless route.toTransport := fun flag =>
  (congrArg conversions.readBoolean (route.carry_bool flag)).trans
    (conversions.readBoolean_bool flag)

/-- A valid date comes back. -/
theorem restores_date {day : Date} (valid : day.Valid) :
    (date conversions).Restores route.toTransport day day :=
  (congrArg conversions.readDate (route.carry_str day.isoformat)).trans
    (conversions.readDate_isoformat day valid)

/-- A valid time comes back. -/
theorem restores_dateTime {time : DateTime} (valid : time.Valid) :
    (dateTime conversions).Restores route.toTransport time time :=
  (congrArg conversions.readDateTime (route.carry_str (conversions.writeDateTime time))).trans
    (conversions.readDateTime_write time valid)

/-- An untyped dictionary is read in its JSON form, as it comes. -/
theorem restores_anything (dict : Dict Value) : anything.dictionary.Restores route.toTransport dict
    ((dict.mapValues Value.toJsonMode).mapValues route.carry) := by
  rw [Dict.mapValues_mapValues]
  exact Format.restores_dictionary fun _ _ => rfl

@[simp] theorem solid_string : string.Solid := fun _ => rfl

@[simp] theorem solid_integer : (integer conversions).Solid := fun _ => rfl

@[simp] theorem solid_boolean : (boolean conversions).Solid := fun _ => rfl

theorem solid_date : (date conversions).Solid := fun _ => rfl

theorem solid_dateTime : (dateTime conversions).Solid := fun _ => rfl

@[simp] theorem lossless_nonempty : nonempty.Lossless route.toTransport :=
  (lossless_string route).restrict _

@[simp] theorem lossless_positive : (positive conversions).Lossless route.toTransport :=
  (lossless_integer conversions route).restrict _

@[simp] theorem lossless_effort : effort.Lossless route.toTransport :=
  (lossless_string route).oneOf (by simp [Effort.value]) fun value => by cases value <;> simp

@[simp] theorem lossless_taskStatus : taskStatus.Lossless route.toTransport :=
  (lossless_string route).oneOf (by simp [TaskStatus.value]) fun value => by cases value <;> simp

@[simp] theorem lossless_readiness : readiness.Lossless route.toTransport :=
  (lossless_string route).oneOf (by simp [Readiness.value]) fun value => by cases value <;> simp

@[simp] theorem lossless_requirementCategory :
    requirementCategory.Lossless route.toTransport :=
  (lossless_string route).oneOf (by simp [RequirementCategory.value]) fun value => by
    cases value <;> simp

@[simp] theorem lossless_priority : priority.Lossless route.toTransport :=
  (lossless_string route).oneOf (by simp [Priority.value]) fun value => by cases value <;> simp

@[simp] theorem lossless_recommendationStatus :
    recommendationStatus.Lossless route.toTransport :=
  (lossless_string route).oneOf (by simp [RecommendationStatus.value]) fun value => by
    cases value <;> simp

@[simp] theorem lossless_executionState : executionState.Lossless route.toTransport :=
  (lossless_string route).oneOf (by simp [ExecutionState.value]) fun value => by
    cases value <;> simp

/-- The models without dates and untyped values come back as they were written. -/
@[simp] theorem lossless_evidence :
    (Evidence.schema conversions).format.Lossless route.toTransport :=
  Schema.lossless_format (by simp [Evidence.schema])

@[simp] theorem lossless_task : (Task.schema conversions).format.Lossless route.toTransport :=
  Schema.lossless_format (by simp [Task.schema])

@[simp] theorem lossless_requirement :
    (Requirement.schema conversions).format.Lossless route.toTransport :=
  Schema.lossless_format (by simp [Requirement.schema])

@[simp] theorem lossless_procedureOption :
    ProcedureOption.schema.format.Lossless route.toTransport :=
  Schema.lossless_format (by simp [ProcedureOption.schema])

@[simp] theorem lossless_procedureStep :
    (ProcedureStep.schema conversions).format.Lossless route.toTransport :=
  Schema.lossless_format (by simp [ProcedureStep.schema])

@[simp] theorem lossless_procedure :
    (Procedure.schema conversions).format.Lossless route.toTransport :=
  Schema.lossless_format (by simp [Procedure.schema])

@[simp] theorem lossless_candidateTask : CandidateTask.schema.format.Lossless route.toTransport :=
  Schema.lossless_format (by simp [CandidateTask.schema])

@[simp] theorem lossless_candidatePlan : CandidatePlan.schema.format.Lossless route.toTransport :=
  Schema.lossless_format (by simp [CandidatePlan.schema])

@[simp] theorem lossless_validationIssue :
    ValidationIssue.schema.format.Lossless route.toTransport :=
  Schema.lossless_format (by simp [ValidationIssue.schema])

@[simp] theorem lossless_planValidationResult :
    (PlanValidationResult.schema conversions).format.Lossless route.toTransport :=
  Schema.lossless_format (by simp [PlanValidationResult.schema])

@[simp] theorem lossless_optimizationResult :
    (OptimizationResult.schema conversions).format.Lossless route.toTransport :=
  Schema.lossless_format (by simp [OptimizationResult.schema])

@[simp] theorem lossless_targetedEvidence :
    (TargetedEvidence.schema conversions).format.Lossless route.toTransport :=
  Schema.lossless_format (by simp [TargetedEvidence.schema])

@[simp] theorem lossless_person : Person.schema.format.Lossless route.toTransport :=
  Schema.lossless_format (by simp [Person.schema])

@[simp] theorem lossless_blocker : Blocker.schema.format.Lossless route.toTransport :=
  Schema.lossless_format (by simp [Blocker.schema])

end Laws

section Restoration

variable {conversions : Conversions} {now : DateTime} {route : Route}

theorem restores_optional_date {day : Option Date} (valid : ∀ given ∈ day, given.Valid) :
    (date conversions).optional.Restores route.toTransport day day := by
  cases day with
  | none => exact Format.restores_none
  | some given =>
    exact (restores_date conversions route (valid given rfl)).optional (solid_date conversions)

theorem restores_optional_dateTime {time : Option DateTime} (valid : ∀ given ∈ time, given.Valid) :
    (dateTime conversions).optional.Restores route.toTransport time time := by
  cases time with
  | none => exact Format.restores_none
  | some given =>
    exact (restores_dateTime conversions route (valid given rfl)).optional
      (solid_dateTime conversions)

/-- A dictionary of untyped values comes back as the route carries its JSON copy. -/
theorem restores_optional_anything (dict : Option (Dict Value)) :
    anything.dictionary.optional.Restores route.toTransport dict
      (dict.map (Dict.mapValues route.carry ∘ Dict.mapValues Value.toJsonMode)) := by
  cases dict with
  | none => exact Format.restores_none
  | some dict => exact (restores_anything route dict).optional Format.solid_dictionary

/-- The deadline exists. -/
def WorkRequest.Timely (request : WorkRequest) : Prop := ∀ day ∈ request.deadline, day.Valid

/-- The dates and times of the recommendation exist. -/
structure Recommendation.Timely (recommendation : Recommendation) : Prop where
  createdAt : recommendation.createdAt.Valid
  decidedAt : ∀ time ∈ recommendation.decidedAt, time.Valid

/-- The dates and times of the record exist. -/
structure WorkflowState.Timely (workflow : WorkflowState) : Prop where
  workRequest : ∀ request ∈ workflow.workRequest, request.Timely
  recommendation : ∀ recommendation ∈ workflow.recommendation, recommendation.Timely
  createdAt : workflow.createdAt.Valid
  lastAssessedAt : ∀ time ∈ workflow.lastAssessedAt, time.Valid
  updatedAt : workflow.updatedAt.Valid

/-- A request with a valid deadline comes back. -/
theorem WorkRequest.restores {request : WorkRequest} (timely : request.Timely) :
    (WorkRequest.schema conversions).format.Restores route.toTransport request request := by
  apply Schema.Restores.format
  simp [Schema.Restores, WorkRequest.schema, restores_optional_date timely]

/-- A recommendation with valid times comes back. -/
theorem Recommendation.restores {recommendation : Recommendation}
    (timely : recommendation.Timely) :
    (Recommendation.schema conversions now).format.Restores route.toTransport recommendation
      recommendation := by
  apply Schema.Restores.format
  simp [Schema.Restores, Recommendation.schema,
    restores_dateTime conversions route timely.createdAt,
    restores_optional_dateTime timely.decidedAt]

/-- A workflow comes back up to its untyped values, which are those that the route carries. -/
theorem WorkflowState.restores {workflow : WorkflowState} (timely : workflow.Timely) :
    (WorkflowState.schema conversions now).Restores workflow route.toTransport
      (workflow.jsonCopy.mapUntyped route.carry) := by
  have request : (WorkRequest.schema conversions).format.optional.Restores route.toTransport
      workflow.workRequest workflow.workRequest := by
    cases given : workflow.workRequest with
    | none => exact Format.restores_none
    | some request =>
      exact (WorkRequest.restores (timely.workRequest request given)).optional
        (Schema.solid_format _)
  have recommendation : (Recommendation.schema conversions now).format.optional.Restores
      route.toTransport workflow.recommendation workflow.recommendation := by
    cases given : workflow.recommendation with
    | none => exact Format.restores_none
    | some recommendation =>
      exact (Recommendation.restores (timely.recommendation recommendation given)).optional
        (Schema.solid_format _)
  have targeted : string.list.dictionary.Restores route.toTransport
      workflow.targetedByRequirement workflow.targetedByRequirement :=
    (lossless_string route).list.dictionary.restores workflow.targetedByRequirement
  simp [Schema.Restores, WorkflowState.schema, mapUntyped, request, targeted, recommendation,
    restores_anything, restores_optional_anything,
    restores_dateTime conversions route timely.createdAt,
    restores_optional_dateTime timely.lastAssessedAt,
    restores_dateTime conversions route timely.updatedAt]

end Restoration

section Storage

variable (conversions : Conversions) (now : DateTime)

/-- `model_dump(mode="json")`. -/
def WorkflowState.modelDump (workflow : WorkflowState) : Value :=
  (WorkflowState.schema conversions now).format.write workflow

/-- pydantic raises where a record cannot be read. -/
def orValidationError {α : Type} : Option α → Except Exn α
  | some record => .ok record
  | none => .error .validationError

/-- `model_validate`. -/
def WorkflowState.modelValidate (document : Value) : Except Exn WorkflowState :=
  orValidationError ((WorkflowState.schema conversions now).format.read document)

variable {conversions now}

/-- What the schema reads is what the validation accepts. -/
theorem WorkflowState.modelValidate_of_read {document : Value} {workflow : WorkflowState}
    (read : (WorkflowState.schema conversions now).format.read document = some workflow) :
    modelValidate conversions now document = .ok workflow := by
  rw [modelValidate, read, orValidationError]

/-- **What has been stored is read.** A record whose dates and times exist is read from what was
written of it, with its untyped values in their JSON form and as they come; and so it is from every
document with the same entries, in any order and among any others, that may lack those for which
the record that is read has the default. -/
theorem WorkflowState.stored_is_read (route : Route) {workflow : WorkflowState}
    (timely : workflow.Timely) :
    modelValidate conversions now (route.carry (workflow.modelDump conversions now)) =
        .ok (workflow.jsonCopy.mapUntyped route.carry) ∧
      ∀ entries : List (String × Value),
        (WorkflowState.schema conversions now).Holds workflow route.toTransport
          (workflow.jsonCopy.mapUntyped route.carry) (fun key => entries.lookup key) →
        modelValidate conversions now (.dict entries) =
          .ok (workflow.jsonCopy.mapUntyped route.carry) := by
  have restores : (schema conversions now).Restores workflow route.toTransport
      (workflow.jsonCopy.mapUntyped route.carry) := restores timely
  refine ⟨modelValidate_of_read restores.format, fun entries holds => ?_⟩
  exact modelValidate_of_read (Schema.read_eq_some (holds.describes restores))

/-- A plan that has been revised. -/
def revisedWorkflow : WorkflowState where
  workflowId := "wf_ship"
  originalGoal := "Ship"
  planRevisionCount := 2
  executionMetadata := AList.singleton "chunks" (.int 3)
  createdAt := .newYear
  updatedAt := .newYear

theorem revisedWorkflow_timely : revisedWorkflow.Timely where
  workRequest _ absent := by cases absent
  recommendation _ absent := by cases absent
  createdAt := DateTime.newYear_valid
  lastAssessedAt _ absent := by cases absent
  updatedAt := DateTime.newYear_valid

/-- An item for it, older than most fields and with one that there is no more. -/
def olderEntries : List (String × Value) :=
  [("planner", .str "v1"),
    ("updated_at", .str DateTime.newYear.jsonText),
    ("created_at", .str DateTime.newYear.jsonText),
    ("execution_metadata", .dict [("chunks", .decimal 3)]),
    ("plan_revision_count", .decimal 2),
    ("original_goal", .str "Ship"),
    ("workflow_id", .str "wf_ship")]

theorem olderEntries_read :
    WorkflowState.modelValidate .strict .newYear (.dict olderEntries) =
      .ok (revisedWorkflow.jsonCopy.mapUntyped Route.client.carry) := by
  have holds : (WorkflowState.schema .strict .newYear).Holds revisedWorkflow
      Route.client.toTransport (revisedWorkflow.jsonCopy.mapUntyped Route.client.carry)
      fun key => olderEntries.lookup key := by
    constructor
    · simp [WorkflowState.schema]
    · simp only [WorkflowState.schema, Fields.each_field, Fields.each_of, true_and]
      and_intros <;> first | exact .inl rfl | exact .inr ⟨rfl, rfl⟩
  exact (WorkflowState.stored_is_read Route.client revisedWorkflow_timely).2 olderEntries holds

end Storage

end ActionPlan.Models
