import ActionPlan.Api.Soundness

/-! # Executions of the server that are not interrupted

The stages of an execution, with no command in between, leave the memory store
that the function of the service leaves, and the workspace store alone.
-/

namespace ActionPlan.Api

open ActionPlan.Foundation ActionPlan.Models ActionPlan.Memory ActionPlan.Agent
  ActionPlan.Workspace

variable {server : Server} {index : Nat} {execution : Execution}

/-- An execution that claims can take its step. -/
theorem claim_step (active : server.executions[index]? = some execution)
    (claiming : execution.stage = .claiming) (claimedAt : DateTime) :
    system.step server (.claim index claimedAt) =
      some (server.claim index execution claimedAt) := by
  simp [system, TransitionSystem.ofOutputs, Server.handle, Server.unused, Server.unused.drawn,
    Command.draws, Command.routed, Server.serve, Server.step, active, claiming]

/-- An execution that has claimed can run. -/
theorem execute_step (active : server.executions[index]? = some execution)
    (claimed : execution.stage = .claimed) (services : Services) :
    system.step server (.execute index services) =
      some (server.execute index execution services) := by
  simp [system, TransitionSystem.ofOutputs, Server.handle, Server.unused, Server.unused.drawn,
    Command.draws, Command.routed, Server.serve, Server.step, active, claimed]

/-- An execution that has saved can end. -/
theorem finish_step (active : server.executions[index]? = some execution) {clock : Clock}
    {result : AgentState} (saved : execution.stage = .saved clock result) :
    system.step server (.finish index) = some (server.finish index clock result) := by
  simp [system, TransitionSystem.ofOutputs, Server.handle, Server.unused, Server.unused.drawn,
    Command.draws, Command.routed, Server.serve, Server.step, active, saved]

/-- The server once an execution has ended with the given memory store. -/
def ended (server : Server) (index : Nat) (memory : MemoryStore) : Server :=
  { server with memory, executions := server.executions.eraseIdx index }

theorem ended_advance (memory other : MemoryStore) (stage : Stage) :
    ended ({ server with memory := other }.advance index execution stage) index memory =
      ended server index memory := by
  rw [ended, ended, Server.advance, List.eraseIdx_set_eq]

/-- The execution that advances stays in its place. -/
theorem active_advance (active : server.executions[index]? = some execution)
    (memory : MemoryStore) (stage : Stage) :
    ({ server with memory }.advance index execution stage).executions[index]? =
      some { execution with stage } := by
  obtain ⟨bound, -⟩ := List.getElem?_eq_some_iff.mp active
  exact List.getElem?_set_self bound

/-- A claimed execution ends as `_execute_workflow_sync` does after the claim. -/
theorem run_claimed (active : server.executions[index]? = some execution)
    (claimed : execution.stage = .claimed) (services : Services) :
    system.Run TransitionSystem.unguarded server (ended server index
      (concluded execution.workflowId execution.background
        (runExecution services execution.workflowId execution.workerId execution.payload
          server.memory))) := by
  have first := execute_step active claimed services
  rw [Server.execute] at first
  rw [runExecution]
  rcases invoke_cases services server.memory (executionInput execution.workflowId
    execution.workerId execution.payload) with ⟨failure, -, failed⟩ | ⟨reached, ran, invoked⟩
  · rw [failed] at first ⊢
    dsimp only at first ⊢
    rw [abandon_eq] at first
    exact .single ⟨_, trivial, first⟩
  · rw [invoked] at first ⊢
    dsimp only at first ⊢
    let result := updateMemoryResult services.clock reached
    let copied : Server :=
      { server with
        memory := server.memory.saveWorkflow (stateToWorkflow services.clock reached) }.advance
        index execution (.saved services.clock result)
    have last : system.step copied (.finish index) =
        some (copied.finish index services.clock result) :=
      finish_step (active_advance active _ _) rfl
    rw [show copied.finish index services.clock result = ended copied index
      (copied.memory.saveWorkflow (executedWorkflow services.clock result)) from rfl,
      ended_advance] at last
    exact .head ⟨_, trivial, first⟩ (.single ⟨_, trivial, last⟩)

/-- **An execution that is not interrupted runs its function**, in the background
with the handling of its errors. -/
theorem run_execution (active : server.executions[index]? = some execution)
    (claiming : execution.stage = .claiming) (services : Services) (claimedAt : DateTime) :
    system.Run TransitionSystem.unguarded server (ended server index
      (concluded execution.workflowId execution.background
        (executeWorkflowSync services execution.workflowId execution.workerId claimedAt
          execution.payload server.memory))) := by
  have first := claim_step active claiming claimedAt
  rw [Server.claim] at first
  rw [executeWorkflowSync]
  generalize server.memory.claimWorkflowForExecution execution.workflowId execution.workerId
    claimedAt = outcome at first ⊢
  obtain ⟨_ | found, memory⟩ := outcome
  · dsimp only at first ⊢
    rw [abandon_eq] at first
    exact .single ⟨_, trivial, first⟩
  · dsimp only at first ⊢
    have later := run_claimed (active_advance active memory .claimed) rfl services
    rw [ended_advance] at later
    exact .head ⟨_, trivial, first⟩ later

end ActionPlan.Api
