import Mathlib.Logic.Basic

/-! # Noninterference

A system answers requests one after the other. An observer sees the answers to some of the
requests. Unwinding conditions on single requests give that the answers it sees are those of a run
in which the other requests never happened. A state that consists of entries under keys meets
them by operations that are confined to one key, which compose.
-/

namespace ActionPlan.Foundation

section Runs

variable {State Event : Type*}

/-- **Purging rule.** A relation that both states keep at a relevant event, and that the first one
keeps at any other, relates a run to the run of its relevant events. -/
theorem related_foldl_filter (related : State → State → Prop) {step : State → Event → State}
    {relevant : Event → Bool}
    (both : ∀ first second event, relevant event = true → related first second →
      related (step first event) (step second event))
    (alone : ∀ first second event, relevant event = false → related first second →
      related (step first event) second)
    (events : List Event) {first second : State} (start : related first second) :
    related (events.foldl step first) ((events.filter relevant).foldl step second) := by
  induction events generalizing first second with
  | nil => exact start
  | cons event events ih =>
    cases kind : relevant event with
    | true =>
      rw [List.filter_cons_of_pos kind]
      exact ih (both first second event kind start)
    | false =>
      rw [List.filter_cons_of_neg (Bool.eq_false_iff.mp kind)]
      exact ih (alone first second event kind start)

end Runs

section Unwinding

variable {State Request Answer : Type*} (handle : State → Request → Answer × State)
  (visible : Request → Bool)

/-- The answers that an observer sees along a run. -/
def visibleAnswers : State → List Request → List Answer
  | _, [] => []
  | state, request :: requests =>
    let rest := visibleAnswers (handle state request).2 requests
    if visible request then (handle state request).1 :: rest else rest

/-- The unwinding conditions: states that an observer cannot tell apart answer its requests alike
and stay so, and the other requests change nothing that it could tell. -/
structure Unwinding (invariant : State → Prop) (alike : State → State → Prop) : Prop where
  kept : ∀ state request, invariant state → invariant (handle state request).2
  both : ∀ first second request, visible request = true → invariant first → invariant second →
    alike first second → (handle first request).1 = (handle second request).1 ∧
      alike (handle first request).2 (handle second request).2
  alone : ∀ first second request, visible request = false → invariant first →
    alike first second → alike (handle first request).2 second

variable {handle visible}

/-- **Noninterference.** -/
theorem Unwinding.visibleAnswers_filter {invariant : State → Prop} {alike : State → State → Prop}
    (unwinding : Unwinding handle visible invariant alike) (requests : List Request)
    {first second : State} (held : invariant first) (held' : invariant second)
    (same : alike first second) :
    visibleAnswers handle visible first requests =
      visibleAnswers handle visible second (requests.filter visible) := by
  induction requests generalizing first second with
  | nil => rfl
  | cons request requests ih =>
    have next := unwinding.kept first request held
    cases seen : visible request with
    | true =>
      obtain ⟨answer, after⟩ := unwinding.both first second request seen held held' same
      rw [List.filter_cons_of_pos seen, visibleAnswers, visibleAnswers, if_pos seen, if_pos seen,
        answer, ih next (unwinding.kept second request held') after]
    | false =>
      have unseen := Bool.eq_false_iff.mp seen
      rw [List.filter_cons_of_neg unseen, visibleAnswers, if_neg unseen]
      exact ih next held' (unwinding.alone first second request seen held same)

end Unwinding

section Confinement

variable {State Key View Answer Next : Type*} {invariant : State → Prop}
  {view : Key → State → View} {key : Key} {operation other : State → Answer × State}

/-- An operation that depends on what is under one key, and changes nothing else. -/
structure Confined (invariant : State → Prop) (view : Key → State → View) (key : Key)
    (operation : State → Answer × State) : Prop where
  kept : ∀ state, invariant state → invariant (operation state).2
  others : ∀ state, invariant state → ∀ other, other ≠ key →
    view other (operation state).2 = view other state
  same : ∀ first second, invariant first → invariant second → view key first = view key second →
    (operation first).1 = (operation second).1 ∧
      view key (operation first).2 = view key (operation second).2

/-- A value that the operation can answer. -/
def Answers (invariant : State → Prop) (operation : State → Answer × State) (answer : Answer) :
    Prop :=
  ∃ state, invariant state ∧ (operation state).1 = answer

theorem Confined.congr (confined : Confined invariant view key operation)
    (equal : ∀ state, other state = operation state) : Confined invariant view key other := by
  rwa [show other = operation from funext equal]

theorem confined_answer (answer : Answer) :
    Confined invariant view key fun state => (answer, state) where
  kept _ held := held
  others _ _ _ _ := rfl
  same _ _ _ _ alike := ⟨rfl, alike⟩

/-- **Sequential composition**, where the second operation need be confined for the values only
that the first one can answer. -/
theorem Confined.bind (confined : Confined invariant view key operation)
    (rest : Answer → State → Next × State)
    (continued : ∀ answer, Answers invariant operation answer →
      Confined invariant view key (rest answer)) :
    Confined invariant view key fun state => rest (operation state).1 (operation state).2 where
  kept state held := (continued _ ⟨state, held, rfl⟩).kept _ (confined.kept state held)
  others state held other different :=
    ((continued _ ⟨state, held, rfl⟩).others _ (confined.kept state held) other different).trans
      (confined.others state held other different)
  same first second held held' alike := by
    obtain ⟨answer, after⟩ := confined.same first second held held' alike
    rw [answer]
    exact (continued _ ⟨second, held', rfl⟩).same _ _ (confined.kept first held)
      (confined.kept second held') after

end Confinement

end ActionPlan.Foundation
