import CreditExtraction.Store.Documents
import CreditExtraction.Store.Fields

/-!
# Jobs in the metadata store

A job is created together with the claim on its document: in one transaction the document,
unless a job already holds it, becomes `IN_PROGRESS` with the new job as its active job. The job
then moves from stage to stage (`advance`) only from the stage it is known to be at and only
while no cancel was asked for, so a worker that lost a race finds out (`staleTransition`).

It ends in one of two ways. `finish` stores the result and the fields and releases the
document as `DONE`; `fail` records a code and a message and releases the document with the
status the caller chooses. Releasing clears the document's active job only while it is still
this job. A job that has already ended is never changed again.
-/

namespace CreditExtraction.Store.Jobs

open Sql

/-- The first job that satisfies a condition, or `notFound` under the job's name. -/
def getWhere (id : Uuid) : StoreM Job := do
  let (t, rows) ← readDb "get job" (·.select "extraction_jobs" jobColumns (Expr.colEq "id" (.text id.toText)) [])
  match rows with
  | r :: _ => readRecord "scan job" (Job.read t r)
  | [] => throw (Failure.context ("job " ++ id.toText) (.cause .notFound))

/-- The job of an identifier. -/
def get (id : Uuid) : StoreM Job := getWhere id

/-- Claims a document for a new job and stores the job, in one transaction. -/
def create (document : Uuid) : StoreM Job := do
  let t ← now
  let id ← freshId
  let ts := t.stored
  try
    inTx do
      let previous ← Documents.get document
      let n ← runDb "claim document" fun db =>
        db.update "documents"
          [("status", .lit (.text "IN_PROGRESS")), ("active_job_id", .lit (.text id.toText)),
           ("updated_at", .lit (.text ts))]
          (Expr.all [Expr.colEq "id" (.text document.toText), Expr.colNe "status" (.text "IN_PROGRESS")])
      if n == 0 then
        throw (Failure.tagged .concurrentJobConflict
          ("document " ++ document.toText ++ " already has an active job"))
      if previous.status.name == DocumentStatus.notReady.name then
        note .info "document promoted" [Log.text "document_id" document.toText,
          Log.text "from" previous.status.name, Log.text "to" DocumentStatus.ready.name]
      runDb "insert job" fun db => do
        let db' ← db.insert "extraction_jobs"
          [("id", .text id.toText), ("document_id", .text document.toText), ("state", .text "CREATED"),
           ("stage", .text "CREATED"), ("attempts", .int 0), ("cancel_requested", .int 0),
           ("worker_log", .text ""), ("created_at", .text ts), ("updated_at", .text ts)]
        pure (db', ())
  catch e =>
    note .warn "extraction_job create failed" [Log.text "document_id" document.toText, Log.text "err" e.message]
    throw e
  note .info "extraction_job created" [Log.text "job_id" id.toText, Log.text "document_id" document.toText]
  pure { id, document, state := .created, stage := .created, attempts := 0,
         cancelRequested := false, workerLog := "", errorCode := none, errorMessage := none,
         resultJson := none, createdAt := t, startedAt := none, finishedAt := none }

/-- The jobs of a document, newest first (of two made at once, the later first). -/
def listByDocument (document : Uuid) : StoreM (List Job) := do
  let (t, rows) ← readDb "list jobs"
    (·.select "extraction_jobs" jobColumns (Expr.colEq "document_id" (.text document.toText)) ["created_at"])
  let rows := sortRows t "created_at" true rows.reverse
  rows.mapM fun r => readRecord "scan job" (Job.read t r)

/-- Moves a job from one stage to the next, unless it is elsewhere or a cancel was asked
for. Leaving `CREATED` records the start. -/
def advance (id : Uuid) (source target : Stage) : StoreM Unit := do
  let ts ← nowText
  let sets : List (String × Expr) :=
    [("stage", .lit (.text target.name)), ("state", .lit (.text target.jobState.name)),
     ("updated_at", .lit (.text ts))] ++
    (if source == .created then [("started_at", .lit (.text ts))] else [])
  let n ← runDb "advance job" fun db =>
    db.update "extraction_jobs" sets
      (Expr.all [Expr.colEq "id" (.text id.toText), Expr.colEq "stage" (.text source.name),
                 Expr.colEq "cancel_requested" (.int 0)])
  if n == 0 then
    throw (Failure.tagged .staleTransition ("job " ++ id.toText ++ " not at " ++ source.name))
  note .debug "extraction_job advanced" [Log.text "job_id" id.toText, Log.text "from" source.name,
    Log.text "to" target.name]

/-- Counts one more attempt at the job's current stage. -/
def incrementAttempts (id : Uuid) : StoreM Unit := do
  let ts ← nowText
  let _ ← runDb "increment attempts" fun db =>
    db.update "extraction_jobs"
      [("attempts", .bin .add (.call "COALESCE" [.col .current "attempts", .lit (.int 0)]) (.lit (.int 1))),
       ("updated_at", .lit (.text ts))]
      (Expr.colEq "id" (.text id.toText))

/-- The assignment that appends a line to the worker log. -/
def appendLogExpr (entry : String) : Expr :=
  .bin .concat (.call "COALESCE" [.col .current "worker_log", .lit (.text "")]) (.lit (.text (entry ++ "\n")))

/-- Appends one line to a job's worker log; the log is never rewritten. -/
def appendLog (id : Uuid) (entry : String) : StoreM Unit := do
  let ts ← nowText
  let n ← runDb "append worker_log" fun db =>
    db.update "extraction_jobs" [("worker_log", appendLogExpr entry), ("updated_at", .lit (.text ts))]
      (Expr.colEq "id" (.text id.toText))
  if n == 0 then throw (Failure.context ("job " ++ id.toText) (.cause .notFound))

/-- The condition of a job that has not ended. -/
def notEnded : Expr := .inList (.col .current "stage") [.lit (.text "FINISHED"), .lit (.text "ERROR")] true

/-- Asks an unfinished job to stop; the job as it now stands. -/
def requestCancel (id : Uuid) : StoreM Job := do
  let ts ← nowText
  let n ← runDb "request cancel" fun db =>
    db.update "extraction_jobs" [("cancel_requested", .lit (.int 1)), ("updated_at", .lit (.text ts))]
      (Expr.all [Expr.colEq "id" (.text id.toText), notEnded])
  let job ← get id
  if n > 0 then
    note .info "extraction_job cancel requested" [Log.text "job_id" id.toText, Log.text "stage" job.stage.name]
  pure job

/-- Clears a document's active job, if it is still this job, with a new status. -/
def releaseDocument (document job : Uuid) (status : DocumentStatus) (ts : String) : StoreM Unit := do
  let _ ← runDb "release document" fun db =>
    db.update "documents"
      [("status", .lit (.text status.name)), ("active_job_id", .lit .null), ("updated_at", .lit (.text ts))]
      (Expr.all [Expr.colEq "id" (.text document.toText), Expr.colEq "active_job_id" (.text job.toText)])

/-- Ends an unfinished job in `ERROR` with a code and a message, appending `entry` to its log
when not empty, and releases its document; whether the job changed. -/
def failJob (job : Job) (code message entry : String) (docStatus : DocumentStatus) (ts : String) :
    StoreM Bool := do
  let sets : List (String × Expr) :=
    [("stage", .lit (.text "ERROR")), ("state", .lit (.text "ERROR")),
     ("error_code", .lit (.text code)), ("error_message", .lit (.text message)),
     ("finished_at", .lit (.text ts)), ("updated_at", .lit (.text ts))] ++
    (if entry != "" then [("worker_log", appendLogExpr entry)] else [])
  let n ← runDb "fail job" fun db =>
    db.update "extraction_jobs" sets (Expr.all [Expr.colEq "id" (.text job.id.toText), notEnded])
  if n == 0 then return false
  releaseDocument job.document job.id docStatus ts
  return true

/-- Ends a job in `ERROR` and releases its document with `docStatus`, in one transaction; a
job that has already ended is a stale transition. -/
def fail (id : Uuid) (code message : String) (docStatus : DocumentStatus) : StoreM Unit := do
  let ts ← nowText
  try
    inTx do
      let job ← get id
      let ok ← failJob job code message "" docStatus ts
      if !ok then
        throw (Failure.tagged .staleTransition ("job " ++ id.toText ++ " is already " ++ job.stage.name))
  catch e =>
    note .error "extraction_job finish(ERROR) failed" [Log.text "job_id" id.toText, Log.text "err" e.message]
    throw e
  note .warn "extraction_job finished (ERROR)" [Log.text "job_id" id.toText, Log.text "code" code,
    Log.text "error" message]

/-- Stores a job's result and fields, ends the job `FINISHED` and releases its document as
`DONE`, in one transaction. Only a job at `PERSISTING` with no cancel asked for finishes. -/
def finish (id : Uuid) (result : PipelineResult) : StoreM Unit := do
  let payload := Json.render result.toJson
  let ts ← nowText
  try
    inTx do
      let job ← get id
      let n ← runDb "finish job" fun db =>
        db.update "extraction_jobs"
          [("stage", .lit (.text "FINISHED")), ("state", .lit (.text "FINISHED")),
           ("result_json", .lit (.text payload)), ("finished_at", .lit (.text ts)),
           ("updated_at", .lit (.text ts))]
          (Expr.all [Expr.colEq "id" (.text id.toText), Expr.colEq "stage" (.text "PERSISTING"),
                     Expr.colEq "cancel_requested" (.int 0)])
      if n == 0 then
        throw (Failure.tagged .staleTransition ("job " ++ id.toText ++ " not at PERSISTING"))
      Fields.replace id job.document result.fields
      releaseDocument job.document id .done ts
  catch e =>
    note .error "extraction_job finish(OK) failed" [Log.text "job_id" id.toText, Log.text "err" e.message]
    throw e
  note .info "extraction_job finished (OK)" [Log.text "job_id" id.toText,
    Log.int "fields" result.fields.length, Log.int "missing" result.missing.length]

/-- The result of a document's most recently finished job. -/
def latestResultForDocument (document : Uuid) : StoreM PipelineResult := do
  let (t, rows) ← readDb "latest result" (·.select "extraction_jobs" ["result_json"]
    (Expr.all [Expr.colEq "document_id" (.text document.toText), Expr.colEq "stage" (.text "FINISHED")])
    ["finished_at"])
  let rows := sortRows t "finished_at" true rows
  match rows with
  | [] => throw (.cause .notFound)
  | r :: _ =>
    let payload := cellAsText (t.get r "result_json")
    match PipelineResult.ofText (payload.getD "") with
    | .ok res => pure res
    | .error e => throw (.plain ("decode result: " ++ e))

end CreditExtraction.Store.Jobs
