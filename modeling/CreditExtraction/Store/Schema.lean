import CreditExtraction.Store.Basic

/-!
# The schema of the metadata store

Five tables:

* `documents` — one row per upload, unique by content hash;
* `extraction_jobs` — the runs over a document, each referring to it;
* `extracted_fields` — the fields of a finished job, unique by job and field name;
* `tasks` — the deliveries of jobs to workers;
* `schema_version` — the numbers of the migrations applied.

The schema is built by two numbered migrations: the first creates the tables and indexes, the
second adds the credit request a document belongs to. A fresh store applies both and records
each with the time it was applied.
-/

namespace CreditExtraction.Store

open Sql

/-- A text column. -/
def textCol (name : String) (notNull : Bool) : Column :=
  ⟨name, "TEXT", notNull, .null, false, none, false⟩

/-- A text column that is never null, with a default. -/
def textColD (name : String) (d : String) : Column :=
  ⟨name, "TEXT", true, .text d, false, none, false⟩

/-- A column of a numeric type that is never null, with an optional default. -/
def numCol (name declared : String) (d : Value) : Column :=
  ⟨name, declared, true, d, false, none, false⟩

/-- A text column that refers to the `id` of a parent table. -/
def refCol (name parent : String) : Column :=
  ⟨name, "TEXT", true, .null, false, some ⟨parent, some "id"⟩, false⟩

/-- The text primary key `id`. -/
def idCol : Column := ⟨"id", "TEXT", false, .null, true, none, false⟩

/-- The index of a table's primary key. -/
def primaryIndex (table col : String) : Index := .ofColumns ("sqlite_autoindex_" ++ table ++ "_1") [col] true true

/-- A table without rows. -/
def emptyTable (name : String) (cols : List Column) (indexes : List Index) : Table :=
  ⟨name, cols, indexes, [], 1, [], true, false, []⟩

/-- The documents table after both migrations. -/
def documentsTable : Table :=
  emptyTable "documents"
    [idCol, textCol "document_type" true, textColD "source_path" "", textColD "raw_locator" "",
     textCol "content_kind" true, textCol "mime_type" true, textCol "content_hash" true,
     numCol "size_bytes" "BIGINT" (.int 0), numCol "page_count" "INTEGER" (.int 0),
     textCol "status" true, textCol "active_job_id" false, textCol "created_at" true,
     textCol "updated_at" true, textColD "credit_request_id" ""]
    [.ofColumns "documents_credit_request_idx" ["credit_request_id", "created_at"] false false,
     .ofColumns "documents_status_idx" ["status"] false false,
     .ofColumns "documents_content_hash_idx" ["content_hash"] true false,
     primaryIndex "documents" "id"]

/-- The jobs table. -/
def jobsTable : Table :=
  emptyTable "extraction_jobs"
    [idCol, refCol "document_id" "documents", textCol "state" true, textCol "stage" true,
     numCol "attempts" "INTEGER" (.int 0), numCol "cancel_requested" "INTEGER" (.int 0),
     textColD "worker_log" "", textCol "error_code" false, textCol "error_message" false,
     textCol "result_json" false, textCol "created_at" true, textCol "started_at" false,
     textCol "finished_at" false, textCol "updated_at" true]
    [.ofColumns "extraction_jobs_document_idx" ["document_id", "created_at"] false false,
     primaryIndex "extraction_jobs" "id"]

/-- The fields table. -/
def fieldsTable : Table :=
  emptyTable "extracted_fields"
    [idCol, refCol "job_id" "extraction_jobs", refCol "document_id" "documents",
     textCol "field_name" true, numCol "position" "INTEGER" .null, textColD "raw_value" "",
     textCol "value_type" false, numCol "confidence" "DOUBLE PRECISION" .null,
     ⟨"page", "INTEGER", false, .null, false, none, false⟩, textColD "source_label" "",
     numCol "valid" "INTEGER" (.int 1), textColD "flags" "", textCol "payload" true]
    [.ofColumns "extracted_fields_job_field_idx" ["job_id", "field_name"] true false,
     primaryIndex "extracted_fields" "id"]

/-- The tasks table. -/
def tasksTable : Table :=
  emptyTable "tasks"
    [idCol, refCol "job_id" "extraction_jobs", textCol "status" true,
     numCol "attempts" "INTEGER" (.int 0), numCol "max_attempts" "INTEGER" .null,
     textCol "run_after" true, textCol "lease_until" false, textCol "last_error" false,
     textCol "created_at" true, textCol "updated_at" true]
    [.ofColumns "tasks_status_run_after_idx" ["status", "run_after"] false false,
     primaryIndex "tasks" "id"]

/-- The table of applied migrations. -/
def versionsTable : Table :=
  emptyTable "schema_version"
    [⟨"version", "INTEGER", false, .null, true, none, false⟩, textCol "applied_at" true] []

/-- The numbers of the migrations, in order. -/
def migrationVersions : List Nat := [1, 2]

/-- A fresh store with both migrations applied at the given time. -/
def migrated (at_ : Time.Instant) : Database :=
  let db : Database :=
    ⟨[versionsTable, documentsTable, jobsTable, fieldsTable, tasksTable], [], [], true⟩
  migrationVersions.foldl (fun db (v : Nat) =>
    match db.insert "schema_version" [("version", .int (v : Int)), ("applied_at", .text at_.stored)] with
    | .ok db' => db'
    | .error _ => db) db

end CreditExtraction.Store
