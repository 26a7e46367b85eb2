import CreditExtraction.Pipeline.Orchestrator

/-!
# The worker pool

A worker claims the next due task, leasing it, and hands its job to the orchestrator. A
handled job completes its task; a failure — or a crash, which the worker recovers as
`handler panic: <message>` — fails it, and the task is delivered again later or, out of
attempts, ends its job. A worker stops when no task is due or a claim fails.

The lease must outlast the time a worker gives one job: a lease not longer than that time is
raised to one minute more.

`drain` records what a worker does as events, in order, and logs it under the worker's
number: a job handled and marked done is `processed job successfully`, a failed one
`processing failed`, a claim that fails `task claim failed`.
-/

namespace CreditExtraction.Pipeline

open Store

/-- The time settings of a worker pool. -/
structure PoolSettings where
  /-- How long a worker gives one job. -/
  timeout : Time.Duration
  /-- How long a claimed task stays leased. -/
  lease : Time.Duration

/-- The lease a pool uses: the lease asked for, raised past the timeout when it is not longer. -/
def PoolSettings.effectiveLease (p : PoolSettings) : Time.Duration :=
  if p.lease ≤ p.timeout then p.timeout + Time.seconds 60 else p.lease

/-- What a worker did. -/
inductive PoolEvent where
  /-- A task was claimed. -/
  | claimed (task : Task)
  /-- A task was marked done; the failure of marking it, if any. -/
  | completed (task : Uuid) (err : Option Failure)
  /-- A task was marked failed for a reason; the failure of marking it, if any. -/
  | failed (task : Uuid) (reason : String) (err : Option Failure)
  /-- A claim failed. -/
  | claimFailed (err : Failure)

namespace Orchestrator

variable {m : Type → Type} [Monad m] (o : Orchestrator m)

/-- Handles a job delivered by a task, a crash recovered as a failure. -/
def handleRecovered (id : Uuid) (task : Uuid) : m (Option Failure) := do
  match ← (o.handle id (some task)).run with
  | .ok err => pure err
  | .error msg => pure (some (.plain ("handler panic: " ++ msg)))

/-- The worker `worker` claiming and handling tasks until none is due, a claim fails, or
`claims` claims have been made; the events, in order. -/
def drain (worker : Nat) (lease : Time.Duration) : Nat → m (List PoolEvent)
  | 0 => pure []
  | claims + 1 => do
    let workerId := Log.int "worker_id" worker
    match ← o.services.metadata (Tasks.claimNext lease) with
    | .error e =>
      o.log .error "task claim failed" [workerId, Log.text "error" e.message]
      pure [.claimFailed e]
    | .ok none => pure []
    | .ok (some task) =>
      let start ← o.now
      let outcome ← match ← o.handleRecovered task.job task.id with
        | some e => do
          o.log .error "processing failed" [workerId, Log.text "task_id" task.id.toText,
            Log.text "job_id" task.job.toText, Log.int "attempt" task.attempts, Log.text "error" e.message]
          let r ← o.services.metadata (Tasks.fail task.id e.message)
          if let .error f := r then
            o.log .error "task fail not recorded" [Log.text "task_id" task.id.toText, Log.text "error" f.message]
          pure (PoolEvent.failed task.id e.message (match r with
            | .ok _ => none
            | .error f => some f))
        | none => do
          let r ← o.services.metadata (Tasks.complete task.id)
          match r with
          | .error f =>
            o.log .error "task completion not recorded" [Log.text "task_id" task.id.toText, Log.text "error" f.message]
          | .ok _ =>
            let elapsed := ((← o.now).sub start) / 1000000
            o.log .info "processed job successfully" [workerId, Log.text "job_id" task.job.toText,
              Log.int "elapsed_ms" elapsed]
          pure (PoolEvent.completed task.id (match r with
            | .ok _ => none
            | .error f => some f))
      let rest ← drain worker lease claims
      pure (.claimed task :: outcome :: rest)

end Orchestrator

end CreditExtraction.Pipeline
