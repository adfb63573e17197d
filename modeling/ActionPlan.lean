import ActionPlan.Agent.ExecuteOnce
import ActionPlan.Agent.LostUpdates
import ActionPlan.Agent.NoRegression
import ActionPlan.Agent.Uninterrupted
import ActionPlan.Agent.PlanFailure
import ActionPlan.Agent.CarryOver
import ActionPlan.Agent.Continuation
import ActionPlan.Agent.CurrentState
import ActionPlan.Agent.RoundTrips
import ActionPlan.Agent.History
import ActionPlan.Agent.Repair
import ActionPlan.Agent.Handover
import ActionPlan.Agent.NextTask
import ActionPlan.Agent.Cycles
import ActionPlan.Workspace.Readiness
import ActionPlan.Workspace.Concurrency
import ActionPlan.Workspace.Atomicity
import ActionPlan.Workspace.Acceptance
import ActionPlan.Workspace.Events
import ActionPlan.Rag.Visibility
import ActionPlan.Rag.Chunks
import ActionPlan.Rag.Retrieval
import ActionPlan.Rag.Connection
import ActionPlan.Memory.RemoteClaim
import ActionPlan.Memory.LocalFiles
import ActionPlan.Memory.LocalStore
import ActionPlan.Memory.RemoteItems
import ActionPlan.Llm.Replies
import ActionPlan.Llm.Schema
import ActionPlan.Llm.Dialogue
import ActionPlan.Frontend.Routes
import ActionPlan.Frontend.ProjectSetup
import ActionPlan.Worker.Equivalence
import ActionPlan.Worker.Publication
import ActionPlan.Worker.Failures
import ActionPlan.Worker.Batches
import ActionPlan.Worker.Unclaimed
import ActionPlan.Api.Freshness
import ActionPlan.Api.Versions
import ActionPlan.Api.Completions
import ActionPlan.Api.Decisions
import ActionPlan.Api.Uninterrupted
import ActionPlan.Api.Idempotency
import ActionPlan.Api.Ordering
import ActionPlan.Api.Refusals
import ActionPlan.Api.CompletedTasks
import ActionPlan.Api.StaleRecommendations
import ActionPlan.Api.Isolation
import ActionPlan.Api.AuditTrail
import ActionPlan.Api.Progress
