import CreditExtraction.Simulation.World

/-!
# Views of a scripted world

The JSON shown for documents, jobs and tasks, and the state of the world read back from its
database after every step: each named document with its status and active job, each named
job with its stage, attempts, cancel flag and error code, and the newest task of each named
job that could be read. A row that cannot be read shows its failure instead; a job without a
task shows none.

Showing a row names it (`Names.see`): a document names its active job, a job its document, a
task its job.
-/

namespace CreditExtraction.Simulation

open Store

/-- A time as shown: RFC 3339 in UTC. -/
def timeJson (t : Time.Instant) : Json := .str t.rfc3339Nano

/-- A time that may be missing. -/
def optTimeJson : Option Time.Instant → Json
  | some t => timeJson t
  | none => .null

/-- A text that may be missing. -/
def optTextJson : Option String → Json
  | some s => .str s
  | none => .null

/-- An identifier that may be missing. -/
def optIdJson : Option Uuid → Json
  | some u => .str u.toText
  | none => .null

/-- A failure as shown: its code and message. -/
def failureJson (e : Failure) : Json := .obj [("error", .str e.code), ("message", .str e.message)]

/-- The view of a job. -/
def jobView (j : Job) : Json :=
  .obj [("id", .str j.id.toText), ("document", .str j.document.toText), ("state", .str j.state.name),
    ("stage", .str j.stage.name), ("attempts", Json.ofInt j.attempts),
    ("cancel_requested", .bool j.cancelRequested), ("worker_log", .str j.workerLog),
    ("error_code", optTextJson j.errorCode), ("error_message", optTextJson j.errorMessage),
    ("has_result", .bool j.resultJson.isSome), ("created_at", timeJson j.createdAt),
    ("started_at", optTimeJson j.startedAt), ("finished_at", optTimeJson j.finishedAt),
    ("active", .bool j.active)]

/-- The view of a document. -/
def documentView (d : Document) : Json :=
  .obj [("id", .str d.id.toText), ("document_type", .str d.documentType),
    ("credit_request_id", .str d.creditRequestId), ("source_path", .str d.sourcePath),
    ("raw_locator", .str d.rawLocator), ("content_kind", .str d.contentKind),
    ("mime_type", .str d.mimeType), ("content_hash", .str d.contentHash),
    ("size_bytes", Json.ofInt d.sizeBytes), ("page_count", Json.ofInt d.pageCount),
    ("status", .str d.status.name), ("active_job", optIdJson d.activeJob),
    ("created_at", timeJson d.createdAt), ("updated_at", timeJson d.updatedAt)]

/-- The view of a task. -/
def taskView (t : Task) : Json :=
  .obj [("id", .str t.id.toText), ("job", .str t.job.toText), ("status", .str t.status.name),
    ("attempts", Json.ofInt t.attempts), ("max_attempts", Json.ofInt t.maxAttempts),
    ("run_after", timeJson t.runAfter), ("lease_until", optTimeJson t.leaseUntil),
    ("last_error", .str t.lastError), ("created_at", timeJson t.createdAt)]

namespace World

/-- Names an identifier. -/
def see (kind : NameKind) (id : Uuid) : SimM Unit :=
  modify fun w => { w with names := w.names.see kind id }

/-- Names what a job view shows. -/
def seeJob (j : Job) : SimM Unit := do
  see .job j.id
  see .doc j.document

/-- Names what a document view shows. -/
def seeDocument (d : Document) : SimM Unit := do
  see .doc d.id
  if let some j := d.activeJob then see .job j

/-- Names what a task view shows. -/
def seeTask (t : Task) : SimM Unit := do
  see .task t.id
  see .job t.job

/-- A job shown. -/
def showJob (j : Job) : SimM Json := do
  seeJob j
  pure (jobView j)

/-- A document shown. -/
def showDocument (d : Document) : SimM Json := do
  seeDocument d
  pure (documentView d)

/-- A task shown. -/
def showTask (t : Task) : SimM Json := do
  seeTask t
  pure (taskView t)

/-- The state of the world, read back from its database (see the module comment). -/
def state : SimM Json := do
  let clock ← clock
  let docs ← ((← get).names.ofKind .doc).mapM fun (name, id) => do
    match ← onStore (Documents.get id) with
    | .ok d =>
      if let some j := d.activeJob then see .job j
      pure (name, Json.obj [("status", .str d.status.name), ("active_job", optIdJson d.activeJob)])
    | .error e => pure (name, failureJson e)
  let jobs ← ((← get).names.ofKind .job).mapM fun (name, id) => do
    match ← onStore (Jobs.get id) with
    | .ok j =>
      pure ((name, Json.obj [("stage", .str j.stage.name), ("attempts", Json.ofInt j.attempts),
        ("cancel_requested", .bool j.cancelRequested), ("error_code", optTextJson j.errorCode)]), some id)
    | .error e => pure ((name, failureJson e), none)
  let tasks ← (jobs.filterMap (·.2)).filterMapM fun id => do
    match ← onStore (Tasks.getByJob id) with
    | .ok t =>
      see .task t.id
      let name := ((← get).names.nameOf? t.id).getD t.id.toText
      pure (some (name, Json.obj [("job", .str t.job.toText), ("status", .str t.status.name),
        ("attempts", Json.ofInt t.attempts), ("run_after", timeJson t.runAfter),
        ("lease_until", optTimeJson t.leaseUntil)]))
    | .error _ => pure none
  pure (.obj [("clock", timeJson clock), ("docs", .obj docs), ("jobs", .obj (jobs.map (·.1))), ("tasks", .obj tasks)])

/-- Every named document and job in full; a row that cannot be read shows its failure. -/
def snapshot : SimM Json := do
  let docs ← ((← get).names.ofKind .doc).mapM fun (_, id) => do
    match ← onStore (Documents.get id) with
    | .ok d => showDocument d
    | .error e => pure (failureJson e)
  let jobs ← ((← get).names.ofKind .job).mapM fun (_, id) => do
    match ← onStore (Jobs.get id) with
    | .ok j => showJob j
    | .error e => pure (failureJson e)
  pure (.obj [("documents", .arr docs), ("jobs", .arr jobs)])

end World

end CreditExtraction.Simulation
