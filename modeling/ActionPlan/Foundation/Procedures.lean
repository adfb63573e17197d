import Mathlib.Logic.Basic

/-! # Procedures that can raise

A procedure reads and changes a state; it returns a value or raises, and what it has changed stays.
Its runs are described by what holds when it returns and what holds when it raises.
-/

namespace ActionPlan.Foundation

universe u

variable {State Error : Type*} {α β : Type u}

/-- From a state, what is returned or raised and the state then. -/
def Procedure (State Error : Type*) (α : Type u) := State → Except Error α × State

namespace Procedure

instance : Monad (Procedure State Error) where
  pure value := fun state => (.ok value, state)
  bind procedure rest := fun state =>
    match procedure state with
    | (.ok value, next) => rest value next
    | (.error failure, next) => (.error failure, next)

instance : MonadExceptOf Error (Procedure State Error) where
  throw failure := fun state => (.error failure, state)
  tryCatch procedure handler := fun state =>
    match procedure state with
    | (.ok value, next) => (.ok value, next)
    | (.error failure, next) => handler failure next

/-- The state as it is. -/
def read : Procedure State Error State := fun state => (.ok state, state)

/-- Change the state. -/
def update (change : State → State) : Procedure State Error PUnit :=
  fun state => (.ok ⟨⟩, change state)

/-- From this state the procedure returns or raises as described. -/
def Ends (procedure : Procedure State Error α) (state : State) (returned : α → State → Prop)
    (raised : Error → State → Prop) : Prop :=
  match procedure state with
  | (.ok value, next) => returned value next
  | (.error failure, next) => raised failure next

variable {procedure : Procedure State Error α} {state : State} {returned : α → State → Prop}
  {raised : Error → State → Prop}

/-- The rules for the parts of a procedure. -/
@[simp] theorem ends_pure {value : α} :
    Ends (pure value : Procedure State Error α) state returned raised ↔ returned value state :=
  Iff.rfl

@[simp] theorem ends_throw {failure : Error} :
    Ends (throw failure : Procedure State Error α) state returned raised ↔ raised failure state :=
  Iff.rfl

@[simp] theorem ends_read {returned : State → State → Prop} :
    Ends (read : Procedure State Error State) state returned raised ↔ returned state state :=
  Iff.rfl

@[simp] theorem ends_update {change : State → State} {returned : PUnit → State → Prop} :
    Ends (update change : Procedure State Error PUnit) state returned raised ↔
      returned ⟨⟩ (change state) :=
  Iff.rfl

/-- **Sequential composition.** -/
@[simp] theorem ends_bind {rest : α → Procedure State Error β} {returned : β → State → Prop} :
    Ends (procedure >>= rest) state returned raised ↔
      Ends procedure state (fun value next => Ends (rest value) next returned raised) raised := by
  unfold Ends
  simp only [bind]
  cases procedure state with
  | mk answer next =>
    cases answer with
    | ok value => exact Iff.rfl
    | error failure => exact Iff.rfl

/-- **Handling.** -/
@[simp] theorem ends_tryCatch {handler : Error → Procedure State Error α} :
    Ends (tryCatch procedure handler) state returned raised ↔
      Ends procedure state returned fun failure next =>
        Ends (handler failure) next returned raised := by
  unfold Ends
  simp only [tryCatch, tryCatchThe, MonadExceptOf.tryCatch]
  cases procedure state with
  | mk answer next =>
    cases answer with
    | ok value => exact Iff.rfl
    | error failure => exact Iff.rfl

/-- **Consequence.** -/
theorem Ends.mono {returned' : α → State → Prop} {raised' : Error → State → Prop}
    (ends : procedure.Ends state returned raised)
    (returns : ∀ value next, returned value next → returned' value next)
    (raises : ∀ failure next, raised failure next → raised' failure next) :
    procedure.Ends state returned' raised' := by
  revert ends
  unfold Ends
  cases procedure state with
  | mk answer next =>
    cases answer with
    | ok value => exact returns value next
    | error failure => exact raises failure next

/-- What holds of the state in either case holds of it. -/
theorem Ends.next {kept : State → Prop} (ends : procedure.Ends state returned raised)
    (returns : ∀ value next, returned value next → kept next)
    (raises : ∀ failure next, raised failure next → kept next) : kept (procedure state).2 := by
  revert ends
  unfold Ends
  cases procedure state with
  | mk answer next =>
    cases answer with
    | ok value => exact returns value next
    | error failure => exact raises failure next

/-- **Iteration.** What holds of the items that are done, and of the state, when the next one
begins, holds of all of them in the end. -/
theorem ends_forM {Item : Type*} {body : Item → Procedure State Error PUnit} {items : List Item}
    (invariant : List Item → State → Prop)
    (step : ∀ done item rest, items = done ++ item :: rest → ∀ state, invariant done state →
      (body item).Ends state (fun _ next => invariant (done ++ [item]) next) raised)
    (start : invariant [] state) :
    Ends (items.forM body) state (fun _ next => invariant items next) raised := by
  have from_here : ∀ rest done state, items = done ++ rest → invariant done state →
      Ends (rest.forM body) state (fun _ next => invariant items next) raised := by
    intro rest
    induction rest with
    | nil =>
      intro done state split held
      rw [List.append_nil] at split
      exact split ▸ held
    | cons item rest ih =>
      intro done state split held
      change Ends (body item >>= fun _ => rest.forM body) state _ raised
      rw [ends_bind]
      refine (step done item rest split state held).mono (fun _ next kept => ?_) fun _ _ => id
      exact ih (done ++ [item]) next (by rw [split, List.append_assoc, List.singleton_append]) kept
  exact from_here items [] state rfl start

end Procedure

end ActionPlan.Foundation
