import ActionPlan.Foundation.TransitionSystem
import Mathlib.Logic.Basic

/-! # Work that comes to an end

Some labels of a transition system are its work. Where every step of work lowers a rank, the work
that is left is bounded in every state, in whatever order it is done, and it can be done until
there is none.
-/

namespace ActionPlan.Foundation.TransitionSystem

variable {State Label : Type*} (system : TransitionSystem State Label) (work : Label → Prop)
  (rank : State → Nat)

/-- There is no work to be done. -/
def Exhausted (state : State) : Prop := ∀ label, work label → system.step state label = none

/-- Every step of work lowers the rank. -/
def Ranked : Prop :=
  ∀ source label target, work label → system.step source label = some target →
    rank target < rank source

/-- Labels that are allowed in every state. -/
theorem run_of_labels {system : TransitionSystem State Label} {guard : State → Label → Prop}
    (labels : List Label) {source target : State}
    (allowed : ∀ label ∈ labels, ∀ state, guard state label)
    (executed : system.runFrom source labels = some target) : system.Run guard source target := by
  induction labels generalizing source with
  | nil =>
    cases executed
    exact .refl
  | cons label labels ih =>
    obtain ⟨next, stepped, rest⟩ := Option.bind_eq_some_iff.mp executed
    have later := ih (fun other member => allowed other (List.mem_cons_of_mem label member)) rest
    exact .head ⟨label, allowed label List.mem_cons_self source, stepped⟩ later

variable {system work rank} (ranked : system.Ranked work rank)

include ranked

/-- As much work is done at most as the rank has been lowered. -/
theorem Ranked.length_add_le (labels : List Label) {source target : State}
    (only : ∀ label ∈ labels, work label) (done : system.runFrom source labels = some target) :
    labels.length + rank target ≤ rank source := by
  induction labels generalizing source with
  | nil =>
    cases done
    exact Nat.le_of_eq (Nat.zero_add _)
  | cons label labels ih =>
    obtain ⟨next, stepped, rest⟩ := Option.bind_eq_some_iff.mp done
    have lower := ranked source label next (only label List.mem_cons_self) stepped
    have later := ih (fun other member => only other (List.mem_cons_of_mem label member)) rest
    rw [List.length_cons]
    omega

/-- The work can be done. -/
theorem Ranked.exists_exhausted (source : State) : ∃ labels target,
    (∀ label ∈ labels, work label) ∧ system.runFrom source labels = some target ∧
      system.Exhausted work target := by
  induction bound : rank source using Nat.strongRecOn generalizing source with
  | ind bound ih =>
    subst bound
    by_cases exhausted : system.Exhausted work source
    · exact ⟨[], source, fun _ absent => (List.not_mem_nil absent).elim, rfl, exhausted⟩
    · obtain ⟨label, works, enabled⟩ : ∃ label, work label ∧ system.step source label ≠ none := by
        simpa only [Exhausted, not_forall, exists_prop] using exhausted
      obtain ⟨next, stepped⟩ := Option.ne_none_iff_exists'.mp enabled
      obtain ⟨labels, target, only, done, last⟩ :=
        ih _ (ranked source label next works stepped) next rfl
      refine ⟨label :: labels, target, ?_, ?_, last⟩
      · exact List.forall_mem_cons.mpr ⟨works, only⟩
      · rw [runFrom, stepped]
        exact done

end ActionPlan.Foundation.TransitionSystem
