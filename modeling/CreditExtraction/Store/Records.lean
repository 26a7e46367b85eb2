import CreditExtraction.Store.Schema
import CreditExtraction.Lifecycle

/-!
# Records of the metadata store

The three records the store hands out — a document, a job and a task — and how each is read
from a stored row. Reading first converts every selected cell in column order, then reads the
identifiers and times; the first failure is the answer.
-/

namespace CreditExtraction.Store

open Sql

/-- An uploaded document. -/
structure Document where
  id : Uuid
  documentType : String
  creditRequestId : String
  sourcePath : String
  rawLocator : String
  contentKind : String
  mimeType : String
  contentHash : String
  sizeBytes : Int
  pageCount : Int
  status : DocumentStatus
  activeJob : Option Uuid
  createdAt : Time.Instant
  updatedAt : Time.Instant
deriving Inhabited

/-- One run of the pipeline over a document. -/
structure Job where
  id : Uuid
  document : Uuid
  state : JobState
  stage : Stage
  attempts : Int
  cancelRequested : Bool
  workerLog : String
  errorCode : Option String
  errorMessage : Option String
  /-- The stored result, when there is one (not empty). -/
  resultJson : Option String
  createdAt : Time.Instant
  startedAt : Option Time.Instant
  finishedAt : Option Time.Instant
deriving Inhabited

/-- Does the job still hold its document? -/
def Job.active (j : Job) : Bool := j.stage.active

/-- One delivery of a job to a worker. -/
structure Task where
  id : Uuid
  job : Uuid
  status : TaskStatus
  attempts : Int
  maxAttempts : Int
  runAfter : Time.Instant
  leaseUntil : Option Time.Instant
  lastError : String
  createdAt : Time.Instant
deriving Inhabited

/-- The columns a document is read from, in order. -/
def documentColumns : List String :=
  ["id", "document_type", "credit_request_id", "source_path", "raw_locator", "content_kind",
   "mime_type", "content_hash", "size_bytes", "page_count", "status", "active_job_id",
   "created_at", "updated_at"]

/-- The columns a job is read from, in order. -/
def jobColumns : List String :=
  ["id", "document_id", "state", "stage", "attempts", "cancel_requested", "worker_log",
   "error_code", "error_message", "result_json", "created_at", "started_at", "finished_at"]

/-- The columns a task is read from, in order. -/
def taskColumns : List String :=
  ["id", "job_id", "status", "attempts", "max_attempts", "run_after", "lease_until",
   "last_error", "created_at"]

/-- Reads a document from a row. -/
def Document.read (t : Table) (r : Row) : Except String Document := do
  let v : RowView := ⟨t, r, documentColumns⟩
  let id ← v.text "id"
  let documentType ← v.text "document_type"
  let creditRequestId ← v.text "credit_request_id"
  let sourcePath ← v.text "source_path"
  let rawLocator ← v.text "raw_locator"
  let contentKind ← v.text "content_kind"
  let mimeType ← v.text "mime_type"
  let contentHash ← v.text "content_hash"
  let sizeBytes ← v.int "int64" "size_bytes"
  let pageCount ← v.int "int" "page_count"
  let status ← v.text "status"
  let active ← v.nullText "active_job_id"
  let createdAt ← v.text "created_at"
  let updatedAt ← v.text "updated_at"
  let id ← Uuid.parse id
  let activeJob ← parseNullId active
  let createdAt ← parseTime createdAt
  let updatedAt ← parseTime updatedAt
  pure { id, documentType, creditRequestId, sourcePath, rawLocator, contentKind, mimeType,
         contentHash, sizeBytes, pageCount, status := DocumentStatus.ofName status, activeJob,
         createdAt, updatedAt }

/-- Reads a job from a row. -/
def Job.read (t : Table) (r : Row) : Except String Job := do
  let v : RowView := ⟨t, r, jobColumns⟩
  let id ← v.text "id"
  let docId ← v.text "document_id"
  let state ← v.text "state"
  let stage ← v.text "stage"
  let attempts ← v.int "int" "attempts"
  let cancel ← v.int "int64" "cancel_requested"
  let workerLog ← v.text "worker_log"
  let errorCode ← v.nullText "error_code"
  let errorMessage ← v.nullText "error_message"
  let result ← v.nullText "result_json"
  let createdAt ← v.text "created_at"
  let startedAt ← v.nullText "started_at"
  let finishedAt ← v.nullText "finished_at"
  let id ← Uuid.parse id
  let document ← Uuid.parse docId
  let createdAt ← parseTime createdAt
  let startedAt ← parseNullTime startedAt
  let finishedAt ← parseNullTime finishedAt
  pure { id, document, state := JobState.ofName state, stage := Stage.ofName stage, attempts,
         cancelRequested := cancel != 0, workerLog, errorCode, errorMessage,
         resultJson := result.filter (· != ""), createdAt, startedAt, finishedAt }

/-- Reads a task from a row. -/
def Task.read (t : Table) (r : Row) : Except String Task := do
  let v : RowView := ⟨t, r, taskColumns⟩
  let id ← v.text "id"
  let jobId ← v.text "job_id"
  let status ← v.text "status"
  let attempts ← v.int "int" "attempts"
  let maxAttempts ← v.int "int" "max_attempts"
  let runAfter ← v.text "run_after"
  let leaseUntil ← v.nullText "lease_until"
  let lastError ← v.nullText "last_error"
  let createdAt ← v.text "created_at"
  let id ← Uuid.parse id
  let job ← Uuid.parse jobId
  let runAfter ← parseTime runAfter
  let leaseUntil ← parseNullTime leaseUntil
  let createdAt ← parseTime createdAt
  if status == "" then throw "task row without status"
  pure { id, job, status := TaskStatus.ofName status, attempts, maxAttempts, runAfter,
         leaseUntil, lastError := lastError.getD "", createdAt }

/-- Reads a record from a row, a failure reported as an unavailable store under `op`. -/
def readRecord {α : Type} (op : String) (r : Except String α) : StoreM α :=
  match r with
  | .ok a => pure a
  | .error e => throw (unavailable op e)

end CreditExtraction.Store
