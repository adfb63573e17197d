import ActionPlan.Foundation.ControlFlow

/-! # Transactions

A connection takes steps on its working copy of a database, each of which may fail,
for a reason of its own or because a fault strikes. A script that ends without an
error is committed; otherwise, or when the commit fails, it is rolled back.
`Implements` relates a script to the effect that it computes when no step fails, and
`transact_error` and `transact_ok` say that a transaction has this effect or none.
-/

namespace ActionPlan.Foundation

universe u

/-- A database as a connection sees it: what is durable, what the open transaction has
made of it, and the number of steps taken. -/
structure Session (State : Type u) where
  durable : State
  working : State
  steps : Nat := 0

namespace Session

variable {State : Type u} (session : Session State)

/-- The database after one more statement. -/
def advance (working : State) : Session State :=
  { session with working, steps := session.steps + 1 }

/-- What is working becomes durable. -/
def commit : Session State := { session with durable := session.working }

/-- What is durable is working again. -/
def rollback : Session State := { session with working := session.durable }

end Session

/-- The errors that strike a connection, by the number of the step. -/
abbrev Faults (Error : Type u) := Nat → Option Error

/-- Steps on a session that end with a value or an error and keep what they have done. -/
def Script (State Error α : Type u) := Session State → Except Error α × Session State

namespace Script

variable {State Error α β : Type u} (faults : Faults Error)

/-- The second script runs where the first has ended without an error. -/
def bind (first : Script State Error α) (rest : α → Script State Error β) :
    Script State Error β := fun session =>
  match first session with
  | (.error failure, reached) => (.error failure, reached)
  | (.ok value, reached) => rest value reached

instance : Monad (Script State Error) where
  pure value := fun session => (.ok value, session)
  bind := bind

/-- One step: the database may change, unless the step fails or a fault strikes. -/
def step (effect : State → Except Error (α × State)) : Script State Error α := fun session =>
  match faults session.steps with
  | some failure => (.error failure, session.advance session.working)
  | none =>
    match effect session.working with
    | .error failure => (.error failure, session.advance session.working)
    | .ok (value, working) => (.ok value, session.advance working)

/-- A computation without the database. -/
def compute (result : Except Error α) : Script State Error α :=
  step faults fun state => result.map fun value => (value, state)

/-- One script for each item. -/
def forEach (items : List β) (script : β → Script State Error PUnit) :
    Script State Error PUnit :=
  match items with
  | [] => pure ⟨⟩
  | item :: items => do
    script item
    forEach items script

/-- The script changes the working copy only. When it ends without an error it has had
the effect, and when no fault strikes it fails only as the effect does. -/
structure Implements (script : Script State Error α)
    (effect : State → Except Error (α × State)) : Prop where
  confined : ∀ session, (script session).2.durable = session.durable
  sound : ∀ session value reached, script session = (.ok value, reached) →
    effect session.working = .ok (value, reached.working)
  complete : (∀ number, faults number = none) → ∀ session failure reached,
    script session = (.error failure, reached) → effect session.working = .error failure

variable {faults}

/-- A value without a step. -/
theorem implements_pure (value : α) :
    Implements faults (pure value : Script State Error α) fun state => .ok (value, state) where
  confined _ := rfl
  sound session _ _ same := by
    cases same
    rfl
  complete _ _ _ _ same := by cases same

/-- One step implements its effect. -/
theorem implements_step (effect : State → Except Error (α × State)) :
    Implements faults (step faults effect) effect where
  confined session := by
    unfold step
    split
    · rfl
    · split <;> rfl
  sound session value reached same := by
    unfold step at same
    split at same
    · cases same
    · split at same
      · cases same
      · rename_i present
        cases same
        exact present
  complete silent session failure reached same := by
    unfold step at same
    split at same
    · rename_i strikes
      rw [silent] at strikes
      cases strikes
    · split at same
      · rename_i failed
        cases same
        exact failed
      · cases same

theorem implements_compute (result : Except Error α) :
    Implements faults (compute faults result : Script State Error α)
      fun state => result.map fun value => (value, state) :=
  implements_step _

/-- Scripts in sequence have their effects in sequence. -/
theorem Implements.bind {first : Script State Error α} {rest : α → Script State Error β}
    {effect : State → Except Error (α × State)} {effects : α → State → Except Error (β × State)}
    (implemented : Implements faults first effect)
    (continued : ∀ value, Implements faults (rest value) (effects value)) :
    Implements faults (first >>= rest) fun state =>
      effect state >>= fun result => effects result.1 result.2 where
  confined session := by
    have before := implemented.confined session
    change (Script.bind first rest session).2.durable = _
    unfold Script.bind
    split
    · rename_i result
      rw [result] at before
      exact before
    · rename_i value reached result
      rw [result] at before
      exact ((continued value).confined reached).trans before
  sound session value reached same := by
    change Script.bind first rest session = _ at same
    unfold Script.bind at same
    split at same
    · cases same
    · rename_i middle between result
      have done := implemented.sound session middle between result
      exact bind_of_ok done ((continued middle).sound between value reached same)
  complete silent session failure reached same := by
    change Script.bind first rest session = _ at same
    unfold Script.bind at same
    split at same
    · rename_i failed between result
      cases same
      have refused := implemented.complete silent session failure _ result
      simp only [refused]
      rfl
    · rename_i middle between result
      have done := implemented.sound session middle between result
      exact bind_of_ok done ((continued middle).complete silent between failure reached same)

/-- Effects that agree are implemented alike. -/
theorem Implements.congr {script : Script State Error α}
    {effect other : State → Except Error (α × State)}
    (implemented : Implements faults script effect)
    (same : ∀ state, effect state = other state) : Implements faults script other := by
  obtain rfl : effect = other := funext same
  exact implemented

/-- A loop has the effects of its rounds. -/
theorem implements_forEach {items : List β} {script : β → Script State Error PUnit}
    {effect : β → State → Except Error State}
    (rounds : ∀ item, Implements faults (script item) fun state =>
      (effect item state).map fun state => (⟨⟩, state)) :
    Implements faults (forEach items script) fun state =>
      (items.foldlM (fun state item => effect item state) state).map fun state => (⟨⟩, state) := by
  induction items with
  | nil => exact implements_pure _
  | cons item items ih =>
      refine ((rounds item).bind fun _ => ih).congr fun state => ?_
      rw [List.foldlM_cons]
      cases effect item state <;> rfl

end Script

section Transact

variable {State Error α : Type u} (faults : Faults Error) (script : Script State Error α)

/-- A script in a transaction of its own, with the commit as its last step. -/
def transact (state : State) : Except Error α × State :=
  match script { durable := state, working := state } with
  | (.error failure, session) => (.error failure, session.rollback.durable)
  | (.ok value, session) =>
    match faults session.steps with
    | some failure => (.error failure, session.rollback.durable)
    | none => (.ok value, session.commit.durable)

variable {faults script} {effect : State → Except Error (α × State)} {state after : State}

/-- **A transaction that raises has no effect.** -/
theorem transact_error (implemented : script.Implements faults effect) {failure : Error}
    (raised : transact faults script state = (.error failure, after)) : after = state := by
  have confined := implemented.confined { durable := state, working := state }
  unfold transact at raised
  split at raised
  · rename_i result
    rw [result] at confined
    cases raised
    exact confined
  · rename_i result
    rw [result] at confined
    split at raised
    · cases raised
      exact confined
    · cases raised

/-- **A transaction that returns has the whole effect** of its script. -/
theorem transact_ok (implemented : script.Implements faults effect) {value : α}
    (returned : transact faults script state = (.ok value, after)) :
    effect state = .ok (value, after) := by
  unfold transact at returned
  split at returned
  · cases returned
  · rename_i result
    split at returned
    · cases returned
    · cases returned
      exact implemented.sound _ _ _ result

/-- The answer and the database after a call that has its effect or none. -/
def settle (state : State) : Except Error (α × State) → Except Error α × State
  | .error failure => (.error failure, state)
  | .ok (value, next) => (.ok value, next)

/-- Without faults a transaction is its effect. -/
theorem transact_faultless (implemented : script.Implements faults effect)
    (silent : ∀ number, faults number = none) (state : State) :
    transact faults script state = settle state (effect state) := by
  cases outcome : transact faults script state with
  | mk result after =>
      cases result with
      | ok value =>
          rw [transact_ok implemented outcome]
          rfl
      | error failure =>
          obtain rfl := transact_error implemented outcome
          have refused : effect after = .error failure := by
            unfold transact at outcome
            split at outcome
            · rename_i result
              cases outcome
              exact implemented.complete silent _ _ _ result
            · rw [silent] at outcome
              cases outcome
          rw [refused]
          rfl

end Transact

end ActionPlan.Foundation
