import CreditExtraction.Pipeline.Run

/-!
# The orchestrator's operations

What callers ask of the orchestrator:

* `createJob` claims a document for a new job; a document that already has one is a
  `ConcurrentJobConflict`;
* `submit` creates a job and queues it for the workers, telling them, and logs both steps
  (`pipeline.job.created`, `pipeline.job.submitted`); `runNow` creates a job
  and runs it at once, behind a task leased to the caller, so that a worker resumes the job
  if the caller stops before it ends. A job whose task cannot be stored is ended at once and
  its document handed back `READY`;
* `handle` runs a delivered job and fails only when the outcome could not be recorded, so
  that the delivery is tried again;
* `cancel` asks a job to stop: a job that has not started stops at once, a running one before
  its next stage;
* `status` and `result` read a job and the result of a finished one.
-/

namespace CreditExtraction.Pipeline

open Store

namespace Orchestrator

variable {m : Type → Type} [Monad m] (o : Orchestrator m)

/-- Claims a document for a new job. -/
def createJob (document : Uuid) : Step m Job := do
  match ← observe (o.retried (Jobs.create document) : Step m Job) with
  | .error e =>
    o.log .warn "pipeline.job.create_failed" [Log.text "document_id" document.toText, Log.text "code" e.code,
      Log.text "err" e.message]
    throw e
  | .ok job =>
    o.log .info "pipeline.job.created" [Log.text "job_id" job.id.toText, Log.text "document_id" document.toText]
    pure job

/-- Ends a job that no task will run and hands its document back; the failure to report. -/
def releaseUnqueued (job : Job) (cause : Failure) : Step m Failure := do
  match ← observe (o.store (Jobs.fail job.id cause.code ("enqueue failed: " ++ cause.message) .ready) : Step m Unit) with
  | .error e => o.log .error "pipeline.job.release_failed" [Log.text "job_id" job.id.toText, Log.text "err" e.message]
  | .ok _ => pure ()
  pure (Failure.context ("enqueue job " ++ job.id.toText) cause)

/-- Creates a job and queues it for the workers. -/
def submit (document : Uuid) : Step m Job := do
  let job ← o.createJob document
  match ← observe (o.store (Tasks.enqueue job.id o.settings.taskMaxAttempts) : Step m Task) with
  | .error e => throw (← o.releaseUnqueued job e)
  | .ok _ =>
    liftM o.services.notify
    o.log .info "pipeline.job.submitted" [Log.text "job_id" job.id.toText, Log.text "document_id" document.toText]
    pure job

/-- Creates a job and runs it at once: the job, when there is one, and the failure. -/
def runNow (document : Uuid) : ExceptT String m (Option Job × Option Failure) := do
  match ← (o.createJob document).run with
  | .error e => pure (none, some e)
  | .ok job =>
    match ← (o.store (Tasks.enqueueLeased job.id o.settings.taskMaxAttempts o.settings.taskLease) : Step m Task).run with
    | .error e =>
      match ← (o.releaseUnqueued job e).run with
      | .ok f => pure (none, some f)
      | .error f => pure (none, some f)
    | .ok task =>
      let (ran, err) ← o.run job.id none
      let taskAttrs := [Log.text "task_id" task.id.toText, Log.text "job_id" job.id.toText]
      match err with
      | some e =>
        match ← (o.store (Tasks.fail task.id e.message) : Step m Unit).run with
        | .error f => o.log .error "pipeline.task.fail_not_recorded" (taskAttrs ++ [Log.text "err" f.message])
        | .ok _ => pure ()
        pure (some (ran.getD job), some e)
      | none =>
        match ← (o.store (Tasks.complete task.id) : Step m Unit).run with
        | .error f => o.log .error "pipeline.task.complete_not_recorded" (taskAttrs ++ [Log.text "err" f.message])
        | .ok _ => pure ()
        pure (ran, none)

/-- Runs a job delivered by a task; the failure when its outcome could not be recorded. -/
def handle (id : Uuid) (task : Option Uuid) : ExceptT String m (Option Failure) := do
  let (_, err) ← o.run id task
  pure err

/-- Asks a job to stop (see the module comment); the job as it now stands. -/
def cancelJob (id : Uuid) : Step m Job := do
  let job ← o.store (Jobs.requestCancel id)
  if job.stage.terminal then return job
  if job.stage != .created then return job
  let (r, st) ← (liftM ((o.cancel.run).run (RunState.start job [])) : Step m _)
  match r with
  | .ok none => pure st.job
  | .ok (some e) => throw e
  | .error e => throw e

/-- A job as stored. -/
def status (id : Uuid) : Step m Job := o.store (Jobs.get id)

/-- The stored result of a finished job. -/
def result (id : Uuid) : Step m PipelineResult := do
  let job ← o.store (Jobs.get id)
  if job.stage != .finished then
    throw (Failure.tagged .invalidInput ("job " ++ id.toText ++ " is " ++ job.stage.name))
  match PipelineResult.ofText (job.resultJson.getD "") with
  | .ok r => pure r
  | .error e => throw (.plain ("decode result of job " ++ id.toText ++ ": " ++ e))

end Orchestrator

end CreditExtraction.Pipeline
