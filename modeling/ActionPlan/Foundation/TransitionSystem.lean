import Mathlib.Logic.Relation

/-! # Guarded runs of labelled transition systems

A label carries every choice of a step (the thread that moves, the answer of an
outside service, a clock reading), so that a step is a partial function and a
run on concrete labels can be evaluated. A *guarded run* is a run each of whose
steps meets a condition on the state it starts from.
-/

namespace ActionPlan.Foundation

/-- A labelled transition system; `none` means that the label is not enabled. -/
structure TransitionSystem (State Label : Type*) where
  step : State → Label → Option State

namespace TransitionSystem

variable {State Label : Type*} (system : TransitionSystem State Label)

/-- One enabled step whose source and label meet the guard. -/
def GuardedStep (guard : State → Label → Prop) (source target : State) : Prop :=
  ∃ label, guard source label ∧ system.step source label = some target

/-- Runs all of whose steps meet the guard. -/
abbrev Run (guard : State → Label → Prop) : State → State → Prop :=
  Relation.ReflTransGen (system.GuardedStep guard)

/-- Every step is allowed. -/
def unguarded : State → Label → Prop := fun _ _ => True

/-- The state after executing a list of labels. -/
def runFrom : State → List Label → Option State
  | state, [] => some state
  | state, label :: labels => (system.step state label).bind fun next => runFrom next labels

variable {system} {guard : State → Label → Prop}

/-- A run that meets a guard meets every weaker one. -/
theorem Run.mono {weaker : State → Label → Prop}
    (weakens : ∀ state label, guard state label → weaker state label) {source target : State}
    (run : system.Run guard source target) : system.Run weaker source target := by
  refine Relation.ReflTransGen.mono ?_ _ _ run
  rintro state next ⟨label, allowed, stepped⟩
  exact ⟨label, weakens state label allowed, stepped⟩

/-- **Invariant rule.** A predicate that every guarded step preserves holds in
every state of a guarded run that starts in it. -/
theorem Run.invariant (predicate : State → Prop)
    (preserved : ∀ source label target, predicate source → guard source label →
      system.step source label = some target → predicate target)
    {source target : State} (start : predicate source) (run : system.Run guard source target) :
    predicate target := by
  induction run with
  | refl => exact start
  | tail _ step ih =>
      obtain ⟨label, allowed, stepped⟩ := step
      exact preserved _ label _ ih allowed stepped

/-- **Relational rule.** A preorder that relates the two ends of every guarded
step from an invariant state relates the two ends of every guarded run. -/
theorem Run.relation (predicate : State → Prop) (related : State → State → Prop)
    (reflexive : ∀ state, related state state)
    (transitive : ∀ first second third, related first second → related second third →
      related first third)
    (preserved : ∀ source label target, predicate source → guard source label →
      system.step source label = some target → predicate target)
    (steps : ∀ source label target, predicate source → guard source label →
      system.step source label = some target → related source target)
    {source target : State} (start : predicate source) (run : system.Run guard source target) :
    related source target := by
  induction run with
  | refl => exact reflexive _
  | tail previous step ih =>
      obtain ⟨label, allowed, stepped⟩ := step
      have valid := Run.invariant predicate preserved start previous
      exact transitive _ _ _ ih (steps _ label _ valid allowed stepped)

/-- The guard allows each of the labels in the state in which it is executed. -/
def Allows (system : TransitionSystem State Label) (guard : State → Label → Prop) :
    State → List Label → Prop
  | _, [] => True
  | state, label :: labels =>
    guard state label ∧
      (system.step state label).elim True fun next => Allows system guard next labels

/-- A step that is allowed and taken, before labels that are allowed after it. -/
theorem Allows.cons {labels : List Label} {state next : State} {label : Label}
    (allowed : guard state label) (stepped : system.step state label = some next)
    (rest : system.Allows guard next labels) : system.Allows guard state (label :: labels) := by
  refine ⟨allowed, ?_⟩
  rw [stepped]
  exact rest

/-- An executed list of allowed labels is a guarded run. -/
theorem run_of_allows (labels : List Label) {source target : State}
    (allowed : system.Allows guard source labels)
    (executed : system.runFrom source labels = some target) : system.Run guard source target := by
  induction labels generalizing source with
  | nil =>
      obtain rfl : source = target := by simpa [runFrom] using executed
      exact .refl
  | cons label labels ih =>
      obtain ⟨next, stepped, rest⟩ := Option.bind_eq_some_iff.mp executed
      have later := allowed.2
      rw [stepped] at later
      exact .head ⟨label, allowed.1, stepped⟩ (ih later rest)

/-- An executed list of labels is an unguarded run. -/
theorem run_of_runFrom (labels : List Label) {source target : State}
    (executed : system.runFrom source labels = some target) :
    system.Run unguarded source target := by
  refine run_of_allows labels ?_ executed
  clear executed
  induction labels generalizing source with
  | nil => trivial
  | cons label labels ih =>
      refine ⟨trivial, ?_⟩
      cases system.step source label with
      | none => trivial
      | some next => exact ih

theorem runFrom_append (earlier later : List Label) (source : State) :
    system.runFrom source (earlier ++ later) =
      (system.runFrom source earlier).bind fun middle => system.runFrom middle later := by
  induction earlier generalizing source with
  | nil => rfl
  | cons label labels ih =>
      rw [List.cons_append, runFrom, runFrom, Option.bind_assoc]
      exact congrArg _ (funext ih)

/-- **Origin rule.** What holds after some labels and not before is brought about by one of
them. -/
theorem exists_origin (holds : State → Prop) (labels : List Label) {source target : State}
    (executed : system.runFrom source labels = some target) (before : ¬ holds source)
    (after : holds target) :
    ∃ earlier label rest middle next, labels = earlier ++ label :: rest ∧
      system.runFrom source earlier = some middle ∧ system.step middle label = some next ∧
      system.runFrom next rest = some target ∧ ¬ holds middle ∧ holds next := by
  induction labels generalizing source with
  | nil =>
      obtain rfl : source = target := by simpa [runFrom] using executed
      exact absurd after before
  | cons label labels ih =>
      obtain ⟨next, stepped, rest⟩ := Option.bind_eq_some_iff.mp executed
      by_cases now : holds next
      · exact ⟨[], label, labels, source, next, rfl, rfl, stepped, rest, before, now⟩
      · obtain ⟨earlier, origin, later, middle, last, rfl, reached, moved⟩ := ih rest now
        refine ⟨label :: earlier, origin, later, middle, last, rfl, ?_, moved⟩
        rw [runFrom, stepped]
        exact reached

section Observation

variable {Output Note : Type*} (handle : State → Label → Option (Output × State))
  (note : State → Label → Output → State → Note → Note)

/-- The system of a step function with outputs. -/
def ofOutputs : TransitionSystem State Label where
  step state label := (handle state label).map Prod.snd

/-- The same system with what an observer notes of the outputs along a run. -/
def observed : TransitionSystem (State × Note) Label where
  step seen label := (handle seen.1 label).map fun result =>
    (result.2, note seen.1 label result.1 result.2 seen.2)

variable {handle note}

theorem step_ofOutputs {state next : State} {label : Label} :
    (ofOutputs handle).step state label = some next ↔
      ∃ output, handle state label = some (output, next) := by
  rw [ofOutputs, Option.map_eq_some_iff]
  constructor
  · rintro ⟨⟨output, target⟩, handled, rfl⟩
    exact ⟨output, handled⟩
  · rintro ⟨output, handled⟩
    exact ⟨(output, next), handled, rfl⟩

theorem observed_step {seen next : State × Note} {label : Label} :
    (observed handle note).step seen label = some next ↔
      ∃ output, handle seen.1 label = some (output, next.1) ∧
        next.2 = note seen.1 label output next.1 seen.2 := by
  rw [observed, Option.map_eq_some_iff]
  constructor
  · rintro ⟨⟨output, target⟩, handled, rfl⟩
    exact ⟨output, handled, rfl⟩
  · rintro ⟨output, handled, noted⟩
    exact ⟨(output, next.1), handled, Prod.ext rfl noted.symm⟩

end Observation

end TransitionSystem

end ActionPlan.Foundation
