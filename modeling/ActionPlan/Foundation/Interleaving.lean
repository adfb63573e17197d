import Mathlib.Logic.Function.Basic
import ActionPlan.Foundation.TransitionSystem

/-! # Interleaved threads over a shared state

Any number of threads, each with its own local state, take turns in any order.
A thread's step reads and writes the shared state and its own local state only.
`ProofOutline` is a proof outline for such a system: an invariant of the shared
state, an assertion of each thread that is stable under the steps of the
others, and an assertion of each pair of threads. `ProofOutline.run` turns the
outline into an invariant of every interleaving.
-/

namespace ActionPlan.Foundation

/-- The program of a thread: from a local and a shared state, an action leads
to new ones, or is not enabled. -/
structure Interleaving (Shared Local Action : Type*) where
  step : Local → Shared → Action → Option (Local × Shared)

/-- The shared state together with the local state of every thread. -/
structure Configuration (Thread Shared Local : Type*) where
  shared : Shared
  locals : Thread → Local

namespace Interleaving

variable {Thread Shared Local Action : Type*} [DecidableEq Thread]
  (program : Interleaving Shared Local Action)

/-- The interleaving semantics: a label names the thread that moves. -/
def system : TransitionSystem (Configuration Thread Shared Local) (Thread × Action) where
  step configuration label :=
    (program.step (configuration.locals label.1) configuration.shared label.2).map fun result =>
      { shared := result.2
        locals := Function.update configuration.locals label.1 result.1 }

/-- The program of a thread that runs alone. -/
def solo : TransitionSystem (Local × Shared) Action where
  step state action := program.step state.1 state.2 action

/-- A guard that looks only at the moving thread's local state and the shared one. -/
def localGuard (guard : Local → Shared → Action → Prop) :
    Configuration Thread Shared Local → Thread × Action → Prop := fun configuration label =>
  guard (configuration.locals label.1) configuration.shared label.2

/-- A step of the interleaving is a step of its thread's program. -/
theorem system_step {source target : Configuration Thread Shared Local} {thread : Thread}
    {action : Action} (stepped : program.system.step source (thread, action) = some target) :
    ∃ moved, program.step (source.locals thread) source.shared action =
        some (moved, target.shared) ∧
      target.locals = Function.update source.locals thread moved := by
  simp only [system, Option.map_eq_some_iff] at stepped
  obtain ⟨⟨moved, shared⟩, taken, rfl⟩ := stepped
  exact ⟨moved, taken, rfl⟩

variable {program} in
/-- What a thread can do alone it can do while the others stand still. -/
theorem run_of_solo {source : Configuration Thread Shared Local} {thread : Thread}
    {final : Local × Shared}
    (run : program.solo.Run TransitionSystem.unguarded
      (source.locals thread, source.shared) final) :
    program.system.Run TransitionSystem.unguarded source
      { shared := final.2, locals := Function.update source.locals thread final.1 } := by
  induction run with
  | refl => rw [Function.update_eq_self]
  | @tail middle last _ step ih =>
      obtain ⟨action, -, stepped⟩ := step
      refine ih.tail ⟨(thread, action), trivial, ?_⟩
      have taken : program.step middle.1 middle.2 action = some last := stepped
      simp [system, taken]

/-- A proof outline of an interleaving under a guard. The moving thread goes
from `before` to `after`; `other` and `third` stand still. -/
structure ProofOutline (guard : Local → Shared → Action → Prop) where
  shared : Shared → Prop
  thread : Local → Shared → Prop
  pair : Local → Local → Shared → Prop
  shared_step : ∀ before state action after next, shared state → thread before state →
    guard before state action → program.step before state action = some (after, next) →
    shared next
  thread_step : ∀ before state action after next, shared state → thread before state →
    guard before state action → program.step before state action = some (after, next) →
    thread after next
  thread_stable : ∀ before state action after next other, shared state → thread before state →
    thread other state → pair before other state → guard before state action →
    program.step before state action = some (after, next) → thread other next
  pair_symm : ∀ first second state, pair first second state → pair second first state
  pair_step : ∀ before state action after next other, shared state → thread before state →
    thread other state → pair before other state → guard before state action →
    program.step before state action = some (after, next) → pair after other next
  pair_stable : ∀ before state action after next other third, shared state →
    thread before state → pair other third state → guard before state action →
    program.step before state action = some (after, next) → pair other third next

namespace ProofOutline

variable {program} {guard : Local → Shared → Action → Prop}
  (outline : program.ProofOutline guard)

/-- The outline's assertions at a configuration. -/
structure Holds (configuration : Configuration Thread Shared Local) : Prop where
  shared : outline.shared configuration.shared
  thread : ∀ thread, outline.thread (configuration.locals thread) configuration.shared
  pair : ∀ first second, first ≠ second →
    outline.pair (configuration.locals first) (configuration.locals second) configuration.shared

/-- One guarded step keeps every assertion of the outline. -/
theorem step {source target : Configuration Thread Shared Local} {label : Thread × Action}
    (holds : outline.Holds source) (allowed : localGuard guard source label)
    (stepped : program.system.step source label = some target) : outline.Holds target := by
  obtain ⟨mover, action⟩ := label
  obtain ⟨moved, taken, locals⟩ := program.system_step stepped
  have own := holds.thread mover
  refine ⟨outline.shared_step _ _ _ _ _ holds.shared own allowed taken, ?_, ?_⟩
  · intro thread
    rw [locals]
    by_cases same : thread = mover
    · subst same
      rw [Function.update_self]
      exact outline.thread_step _ _ _ _ _ holds.shared own allowed taken
    · rw [Function.update_of_ne same]
      exact outline.thread_stable _ _ _ _ _ _ holds.shared own (holds.thread thread)
        (holds.pair mover thread (Ne.symm same)) allowed taken
  · intro first second different
    rw [locals]
    by_cases firstMoves : first = mover
    · subst firstMoves
      rw [Function.update_self, Function.update_of_ne different.symm]
      exact outline.pair_step _ _ _ _ _ _ holds.shared own (holds.thread second)
        (holds.pair first second different) allowed taken
    · rw [Function.update_of_ne firstMoves]
      by_cases secondMoves : second = mover
      · subst secondMoves
        rw [Function.update_self]
        exact outline.pair_symm _ _ _ (outline.pair_step _ _ _ _ _ _ holds.shared own
          (holds.thread first) (holds.pair second first different.symm) allowed taken)
      · rw [Function.update_of_ne secondMoves]
        exact outline.pair_stable _ _ _ _ _ _ _ holds.shared own (holds.pair first second different)
          allowed taken

/-- **Interleaving rule.** The outline's assertions hold in every state of
every guarded interleaving that starts in them. -/
theorem run {source target : Configuration Thread Shared Local} (start : outline.Holds source)
    (run : program.system.Run (localGuard guard) source target) : outline.Holds target :=
  TransitionSystem.Run.invariant outline.Holds
    (fun _ _ _ holds allowed stepped => outline.step holds allowed stepped) start run

/-- **Holder rule.** When every step into a pending state either makes its
thread a holder or starts from a pending state of which the thread is no holder,
a pending state always has a holder. -/
theorem exists_holder (pending : Shared → Prop) (holder : Local → Prop)
    (handover : ∀ before state action after next, outline.shared state →
      outline.thread before state → guard before state action →
      program.step before state action = some (after, next) → pending next →
      holder after ∨ pending state ∧ ¬ holder before)
    {source target : Configuration Thread Shared Local} (start : outline.Holds source)
    (held : pending source.shared → ∃ thread, holder (source.locals thread))
    (run : program.system.Run (localGuard guard) source target) :
    pending target.shared → ∃ thread, holder (target.locals thread) := by
  refine (TransitionSystem.Run.invariant (fun configuration => outline.Holds configuration ∧
    (pending configuration.shared → ∃ thread, holder (configuration.locals thread)))
    ?_ ⟨start, held⟩ run).2
  rintro before ⟨mover, action⟩ after ⟨holds, some⟩ allowed stepped
  refine ⟨outline.step holds allowed stepped, fun pendingAfter => ?_⟩
  obtain ⟨moved, taken, locals⟩ := program.system_step stepped
  rcases handover _ _ _ _ _ holds.shared (holds.thread mover) allowed taken pendingAfter with
    now | ⟨pendingBefore, notMover⟩
  · exact ⟨mover, by rw [locals, Function.update_self]; exact now⟩
  · obtain ⟨thread, holding⟩ := some pendingBefore
    have different : thread ≠ mover := fun same => notMover (same ▸ holding)
    exact ⟨thread, by rw [locals, Function.update_of_ne different]; exact holding⟩

end ProofOutline

end Interleaving

end ActionPlan.Foundation
