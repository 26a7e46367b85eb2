import CreditExtraction.Store.Jobs
import CreditExtraction.Text.CharClass
import CreditExtraction.Time.Duration

/-!
# The task queue

Tasks deliver jobs to workers at least once. A task waits `pending` until its `run_after`
time; a claim leases it (`running`, one more attempt, `lease_until` set) and a lease that runs
out lets another worker claim it again. A claim takes the due task with the earliest
`run_after` (then the earliest creation), and changes it only if it still has the status and
attempt count it was read with.

A failed delivery is tried again after `2^attempts` seconds, until the attempts reach the
task's maximum; then the task is `failed`, and so is its job (code `TaskFailed`), whose
document goes to `ERROR`. A lease that runs out after the last attempt ends the same way.
-/

namespace CreditExtraction.Store.Tasks

open Sql

/-- The code a job ends with when its task runs out of deliveries. -/
def taskFailedCode : String := "TaskFailed"

/-- Stores a new task for a job: pending, or already leased to the caller when `lease` is
positive. At least one attempt is always allowed. -/
def insert (job : Uuid) (maxAttempts : Int) (lease : Time.Duration) : StoreM Task := do
  let maxAttempts := if maxAttempts < 1 then 1 else maxAttempts
  let t ← now
  let id ← freshId
  let leased := lease > 0
  let leaseUntil := if leased then some (t.add lease) else none
  let status : TaskStatus := if leased then .running else .pending
  let attempts : Int := if leased then 1 else 0
  let cells : List (String × Value) :=
    [("id", .text id.toText), ("job_id", .text job.toText), ("status", .text status.name),
     ("attempts", .int attempts), ("max_attempts", .int maxAttempts), ("run_after", .text t.stored),
     ("created_at", .text t.stored), ("updated_at", .text t.stored)] ++
    (match leaseUntil with
      | some u => [("lease_until", .text u.stored)]
      | none => [])
  runDb "enqueue task" fun db => do pure (← db.insert "tasks" cells, ())
  note .info "task enqueued" [Log.text "task_id" id.toText, Log.text "job_id" job.toText,
    Log.text "status" status.name]
  pure ⟨id, job, status, attempts, maxAttempts, t, leaseUntil, "", t⟩

/-- Queues a job for the workers. -/
def enqueue (job : Uuid) (maxAttempts : Int) : StoreM Task := insert job maxAttempts 0

/-- Queues a job already leased to the caller for `lease`. -/
def enqueueLeased (job : Uuid) (maxAttempts : Int) (lease : Time.Duration) : StoreM Task := do
  if lease ≤ 0 then throw (Failure.tagged .invalidInput "lease must be positive")
  insert job maxAttempts lease

/-- The first task that satisfies a condition, or `notFound` under `what`. -/
def getWhere (op : String) (what : String) (cond : Expr) (newestFirst : Bool) : StoreM Task := do
  let (t, rows) ← readDb op (·.select "tasks" taskColumns cond (if newestFirst then ["created_at"] else []))
  let rows := if newestFirst then sortRows t "created_at" true rows else rows
  match rows with
  | r :: _ => readRecord "scan task" (Task.read t r)
  | [] => throw (Failure.context what (.cause .notFound))

/-- The task of an identifier. -/
def get (id : Uuid) : StoreM Task :=
  getWhere "get task" ("task " ++ id.toText) (Expr.colEq "id" (.text id.toText)) false

/-- The newest task of a job. -/
def getByJob (job : Uuid) : StoreM Task :=
  getWhere "get task by job" ("task for job " ++ job.toText) (Expr.colEq "job_id" (.text job.toText)) true

/-- Ends the job of a task that will not be delivered again, unless it has already ended or
is gone. -/
def abandonJob (task : Task) (reason : String) (at_ : Time.Instant) : StoreM Unit := do
  let job ← try (some <$> Jobs.get task.job) catch e =>
    if e.has .notFound then pure none else throw e
  match job with
  | none => pure ()
  | some job =>
    if job.stage.terminal then return
    let msg := "task gave up after " ++ toString task.attempts ++ " attempts: " ++
      " ".intercalate (Text.CharClass.fields reason)
    let entry := at_.rfc3339 ++ " " ++ job.stage.name ++ " " ++ taskFailedCode ++ ": " ++ msg
    if ← Jobs.failJob job taskFailedCode msg entry .error at_.stored then
      note .warn "extraction_job finished (ERROR)" [Log.text "job_id" job.id.toText,
        Log.text "task_id" task.id.toText, Log.text "code" taskFailedCode, Log.text "stage" job.stage.name]

/-- The condition that a row is still the task as it was read. -/
def sameTask (task : Task) : Expr :=
  Expr.all [Expr.colEq "id" (.text task.id.toText), Expr.colEq "status" (.text task.status.name),
            Expr.colEq "attempts" (.int task.attempts)]

/-- The message of a task retired after its last lease ran out. -/
def expiredMessage : String := "lease expired after final attempt"

/-- One try at claiming: the claimed task, and whether another try may find one. -/
def claimOnce (lease : Time.Duration) : StoreM (Option Task × Bool) := do
  let t ← now
  let ts := t.stored
  inTx do
    let due := Expr.bin .or
      (Expr.all [Expr.colEq "status" (.text "pending"), .bin .le (.col .current "run_after") (.lit (.text ts))])
      (Expr.all [Expr.colEq "status" (.text "running"), .bin .lt (.col .current "lease_until") (.lit (.text ts))])
    let (tbl, rows) ← readDb "select task" (·.select "tasks" taskColumns due ["run_after", "created_at"])
    let rows := sortRows tbl "run_after" false (sortRows tbl "created_at" false rows)
    match rows with
    | [] => pure (none, false)
    | r :: _ =>
      let task ← readRecord "scan task" (Task.read tbl r)
      if task.status == .running && task.attempts ≥ task.maxAttempts then
        let n ← runDb "retire task" fun db =>
          db.update "tasks"
            [("status", .lit (.text "failed")), ("last_error", .lit (.text expiredMessage)),
             ("lease_until", .lit .null), ("updated_at", .lit (.text ts))]
            (sameTask task)
        if n != 1 then return (none, true)
        note .warn "task lease expired, giving up" [Log.text "task_id" task.id.toText,
          Log.text "job_id" task.job.toText, Log.int "attempts" task.attempts]
        abandonJob task expiredMessage t
        pure (none, true)
      else
        let leaseEnd := t.add lease
        let n ← runDb "claim task" fun db =>
          db.update "tasks"
            [("status", .lit (.text "running")),
             ("attempts", .bin .add (.call "COALESCE" [.col .current "attempts", .lit (.int 0)]) (.lit (.int 1))),
             ("lease_until", .lit (.text leaseEnd.stored)), ("updated_at", .lit (.text ts))]
            (sameTask task)
        if n != 1 then return (none, true)
        if task.status == .running then
          note .warn "task lease expired, reclaiming" [Log.text "task_id" task.id.toText,
            Log.text "job_id" task.job.toText]
        pure (some { task with status := .running, attempts := task.attempts + 1, leaseUntil := some leaseEnd }, false)

/-- Leases the next due task, or none when no task is due; at most eight tries. -/
def claimNext (lease : Time.Duration) : StoreM (Option Task) :=
  go 8
where
  /-- The remaining tries. -/
  go : Nat → StoreM (Option Task)
    | 0 => pure none
    | n + 1 => do
      let (task, again) ← claimOnce lease
      if again then go n else pure task

/-- Marks a task done. -/
def complete (id : Uuid) : StoreM Unit := do
  let ts ← nowText
  let n ← runDb "complete task" fun db =>
    db.update "tasks"
      [("status", .lit (.text "completed")), ("lease_until", .lit .null), ("updated_at", .lit (.text ts))]
      (Expr.colEq "id" (.text id.toText))
  if n == 0 then throw (Failure.context ("task " ++ id.toText) (.cause .notFound))

/-- The wait before the next delivery after `attempts` attempts: `2^attempts` seconds, none
for a negative count. The seconds are counted as a 64-bit number of nanoseconds, which wraps
from 34 attempts on; a count of 63 or more is out of the range of the power and is taken as
the least 64-bit number, whose seconds wrap to zero, as those of `2^62` do. -/
def backoff (attempts : Int) : Time.Duration :=
  if attempts < 0 then 0 else Time.wrapNanos (Time.seconds (Int.pow 2 (min attempts.toNat 62)))

/-- Records a failed delivery: the task is tried again later, or, out of attempts, fails
with its job. -/
def fail (id : Uuid) (reason : String) : StoreM Unit :=
  inTx do
    let task ← get id
    let t ← now
    let exhausted := task.attempts ≥ task.maxAttempts
    let sets : List (String × Expr) :=
      [("last_error", .lit (.text reason)), ("lease_until", .lit .null),
       ("updated_at", .lit (.text t.stored))] ++
      (if exhausted then [("status", .lit (.text "failed"))]
       else [("status", .lit (.text "pending")),
             ("run_after", .lit (.text (t.add (backoff task.attempts)).stored))])
    if exhausted then
      note .warn "task failed permanently" [Log.text "task_id" id.toText, Log.text "job_id" task.job.toText,
        Log.int "attempts" task.attempts, Log.text "error" reason]
    else
      note .info "task rescheduled" [Log.text "task_id" id.toText, Log.text "job_id" task.job.toText,
        Log.int "attempts" task.attempts, Log.text "backoff" (Time.durationText (backoff task.attempts))]
    let _ ← runDb "fail task" fun db => db.update "tasks" sets (Expr.colEq "id" (.text id.toText))
    if exhausted then abandonJob task reason t

/-- Is the queue at rest: no task leased, and every job ended? -/
def idle : StoreM Bool := do
  let (_, running) ← readDb "select task" (·.select "tasks" [] (Expr.colEq "status" (.text "running")) [])
  let (_, unfinished) ← readDb "select job" (·.select "extraction_jobs" [] Jobs.notEnded [])
  pure (running.isEmpty && unfinished.isEmpty)

end CreditExtraction.Store.Tasks
