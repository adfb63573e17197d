import ActionPlan.Models.Task

/-! # Requirements, procedures, candidate plans and their assessment

`models/requirement.py`, `models/procedure.py`, `models/plan.py` and
`models/optimization.py`.
-/

namespace ActionPlan.Models

/-- The categories of a `Requirement`. -/
inductive RequirementCategory where
  | policy
  | process
  | approval
  | evidence
  | definition
  deriving DecidableEq, Repr

/-- A rule that the plan has to respect, with the tasks that cover it. -/
structure Requirement where
  id : String
  category : RequirementCategory := .definition
  text : String
  rationale : Option String := none
  relevantTasks : List String := []
  evidence : List Evidence := []
  covered : Bool := false
  id_nonempty : id ≠ "" := by decide
  text_nonempty : text ≠ "" := by decide
  deriving Repr

/-- A command with which a step can be done. -/
structure ProcedureOption where
  command : String
  description : String
  flags : List String := []
  deriving DecidableEq, Repr

/-- One ordered step of a procedure; steps are numbered from one. -/
structure ProcedureStep where
  order : Int
  action : String
  requiredInformation : List String := []
  optional : Bool := false
  options : List ProcedureOption := []
  order_pos : 1 ≤ order := by decide
  deriving DecidableEq, Repr

/-- A procedure found in the documents. -/
structure Procedure where
  id : String
  name : String
  source : Option String := none
  summary : Option String := none
  steps : List ProcedureStep := []
  deriving DecidableEq, Repr

/-- A task as the model proposes it, before it has an id of the plan. -/
structure CandidateTask where
  taskId : String
  description : String
  requirementId : Option String := none
  procedureId : Option String := none
  effort : Effort := .small
  dependencies : List String := []
  requiredApprovals : List String := []
  deriving DecidableEq, Repr

/-- A plan as the model proposes it. -/
structure CandidatePlan where
  rationale : String
  assumptions : List String := []
  tasks : List CandidateTask := []
  deriving DecidableEq, Repr

/-- One finding of the plan validation. -/
structure ValidationIssue where
  code : String
  message : String
  taskId : Option String := none
  deriving DecidableEq, Repr

/-- The findings of the plan validation; without any the plan is consistent. -/
structure PlanValidationResult where
  valid : Bool := true
  summary : String := "plan is consistent"
  errors : List ValidationIssue := []
  warnings : List ValidationIssue := []
  invalidDependencies : List String := []
  missingApprovals : List String := []
  sequencingViolations : List String := []
  uncoveredRequirements : List String := []
  revisionCount : Int := 0
  deriving DecidableEq, Repr

/-- What the optimizer reports about a plan. -/
structure OptimizationResult where
  summary : String
  criticalPath : List String := []
  criticalPathEffort : Int := 0
  parallelChains : List (List String) := []
  daysUntilDeadline : Option Int := none
  deadlineFeasible : Option Bool := none
  deadlineNotes : Option String := none
  notes : List String := []
  deriving DecidableEq, Repr

/-- The evidence retrieved for one requirement. -/
structure TargetedEvidence where
  requirementId : String
  query : Option String := none
  evidence : List Evidence := []
  deriving DecidableEq, Repr

/-- The truthy part of an optional string: `""` counts as absent. -/
def truthyString : Option String → Option String
  | some text => if text = "" then none else some text
  | none => none

theorem truthyString_some {text : String} (nonempty : text ≠ "") :
    truthyString (some text) = some text := if_neg nonempty

/-- A truthy text is the text that was given. -/
theorem eq_some_of_truthyString {given : Option String} {text : String}
    (truthy : truthyString given = some text) : given = some text := by
  cases given with
  | none => cases truthy
  | some found =>
    by_cases empty : found = ""
    · rw [truthyString, if_pos empty] at truthy
      cases truthy
    · rwa [truthyString_some empty] at truthy

end ActionPlan.Models
