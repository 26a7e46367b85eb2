import CreditExtraction.Store.Records
import CreditExtraction.Store.Schema

/-!
# Migrations

The schema is built by numbered migrations, each a text of statements separated by `;`. A
statement's lines that start, after blanks, with `--` are left out, and so are statements left
empty.

Migrating a database first makes the table of applied migrations when it is missing (a failure
is `creating schema_version table: <why>`). Then, for each migration in order, it asks whether
the migration is recorded (`checking migration <n>: <why>`, also when the table has no
`version` column); one that is not runs its statements (`applying migration <n>: <why>`) and
is then recorded with the time (`recording migration <n>: <why>`), all in one transaction. The
first failure stops the migrating; the migrations applied before it stay.

The store records the number of every migration applied to its database; they are listed in
increasing order.
-/

namespace CreditExtraction.Store

open Sql

/-- A migration: its number, the file it is kept in and its text. -/
structure Migration where
  version : Nat
  file : String
  text : String

/-- The text of the first migration, which creates the tables and their indexes. -/
def initText : String :=
  "\n".intercalate
    ["CREATE TABLE IF NOT EXISTS documents (",
     "    id            TEXT PRIMARY KEY,",
     "    document_type TEXT NOT NULL,",
     "    source_path   TEXT NOT NULL DEFAULT '',",
     "    raw_locator   TEXT NOT NULL DEFAULT '',",
     "    content_kind  TEXT NOT NULL,",
     "    mime_type     TEXT NOT NULL,",
     "    content_hash  TEXT NOT NULL,",
     "    size_bytes    BIGINT NOT NULL DEFAULT 0,",
     "    page_count    INTEGER NOT NULL DEFAULT 0,",
     "    status        TEXT NOT NULL,",
     "    active_job_id TEXT,",
     "    created_at    TEXT NOT NULL,",
     "    updated_at    TEXT NOT NULL",
     ");",
     "",
     "CREATE UNIQUE INDEX IF NOT EXISTS documents_content_hash_idx ON documents (content_hash);",
     "CREATE INDEX IF NOT EXISTS documents_status_idx ON documents (status);",
     "",
     "CREATE TABLE IF NOT EXISTS extraction_jobs (",
     "    id               TEXT PRIMARY KEY,",
     "    document_id      TEXT NOT NULL REFERENCES documents (id),",
     "    state            TEXT NOT NULL,",
     "    stage            TEXT NOT NULL,",
     "    attempts         INTEGER NOT NULL DEFAULT 0,",
     "    cancel_requested INTEGER NOT NULL DEFAULT 0,",
     "    worker_log       TEXT NOT NULL DEFAULT '',",
     "    error_code       TEXT,",
     "    error_message    TEXT,",
     "    result_json      TEXT,",
     "    created_at       TEXT NOT NULL,",
     "    started_at       TEXT,",
     "    finished_at      TEXT,",
     "    updated_at       TEXT NOT NULL",
     ");",
     "",
     "CREATE INDEX IF NOT EXISTS extraction_jobs_document_idx ON extraction_jobs (document_id, created_at);",
     "",
     "CREATE TABLE IF NOT EXISTS extracted_fields (",
     "    id           TEXT PRIMARY KEY,",
     "    job_id       TEXT NOT NULL REFERENCES extraction_jobs (id),",
     "    document_id  TEXT NOT NULL REFERENCES documents (id),",
     "    field_name   TEXT NOT NULL,",
     "    position     INTEGER NOT NULL,",
     "    raw_value    TEXT NOT NULL DEFAULT '',",
     "    value_type   TEXT,",
     "    confidence   DOUBLE PRECISION NOT NULL,",
     "    page         INTEGER,",
     "    source_label TEXT NOT NULL DEFAULT '',",
     "    valid        INTEGER NOT NULL DEFAULT 1,",
     "    flags        TEXT NOT NULL DEFAULT '',",
     "    payload      TEXT NOT NULL",
     ");",
     "",
     "CREATE UNIQUE INDEX IF NOT EXISTS extracted_fields_job_field_idx ON extracted_fields (job_id, field_name);",
     "",
     "CREATE TABLE IF NOT EXISTS tasks (",
     "    id           TEXT PRIMARY KEY,",
     "    job_id       TEXT NOT NULL REFERENCES extraction_jobs (id),",
     "    status       TEXT NOT NULL,",
     "    attempts     INTEGER NOT NULL DEFAULT 0,",
     "    max_attempts INTEGER NOT NULL,",
     "    run_after    TEXT NOT NULL,",
     "    lease_until  TEXT,",
     "    last_error   TEXT,",
     "    created_at   TEXT NOT NULL,",
     "    updated_at   TEXT NOT NULL",
     ");",
     "",
     "CREATE INDEX IF NOT EXISTS tasks_status_run_after_idx ON tasks (status, run_after);",
     ""]

/-- The text of the second migration, which adds the credit request of a document. -/
def creditRequestText : String :=
  "\n".intercalate
    ["ALTER TABLE documents ADD COLUMN credit_request_id TEXT NOT NULL DEFAULT '';",
     "",
     "CREATE INDEX IF NOT EXISTS documents_credit_request_idx ON documents (credit_request_id, created_at);",
     ""]

/-- The migrations, in order. -/
def migrations : List Migration :=
  [⟨1, "0001_init.sql", initText⟩, ⟨2, "0002_credit_request.sql", creditRequestText⟩]

/-- The statements of a migration's text (see the module comment). -/
def splitStatements (text : String) : List String :=
  (text.splitOn ";").filterMap fun part =>
    let lines := (part.splitOn "\n").filter fun line => !((Text.CharClass.trimSpace line).startsWith "--")
    let stmt := Text.CharClass.trimSpace ("\n".intercalate lines)
    if stmt.isEmpty then none else some stmt

/-- The statement that makes the table of applied migrations when it is missing. -/
def versionsDefinition : String :=
  "CREATE TABLE IF NOT EXISTS schema_version (\n\t\tversion INTEGER PRIMARY KEY,\n\t\tapplied_at TEXT NOT NULL\n\t)"

/-- Is a migration recorded in a database? -/
def recorded (db : Database) (version : Nat) : Except SqlError Bool := do
  let (_, rows) ← db.select "schema_version" [] (.bin .eq (.col .current "version") (.lit (.int version))) []
  pure !rows.isEmpty

/-- Applies one migration: its statements, then its record at the given time. A failure undoes
the whole migration. -/
def applyMigration (db : Database) (at_ : Time.Instant) (m : Migration) : Except String Database := do
  let db ← (splitStatements m.text).foldlM (fun db stmt =>
    match db.execute stmt with
    | .ok (db', _) => .ok db'
    | .error e => .error ("applying migration " ++ toString m.version ++ ": " ++ e.message)) db
  match db.insert "schema_version" [("version", .int m.version), ("applied_at", .text at_.stored)] with
  | .ok db' => .ok db'
  | .error e => .error ("recording migration " ++ toString m.version ++ ": " ++ e.message)

/-- What migrating a database did: the database as it is left, the migrations applied, in
order, and the failure that stopped the migrating, if any. -/
structure Migrated where
  db : Database
  applied : List Migration
  failure : Option String

/-- Applies the migrations not yet recorded to a database at the given time (see the module
comment). -/
def migrate (db : Database) (at_ : Time.Instant) : Migrated :=
  match db.execute versionsDefinition with
  | .error e => ⟨db, [], some ("creating schema_version table: " ++ e.message)⟩
  | .ok (db, _) => go db migrations []
where
  /-- Applies the migrations left, after those applied (the last first). -/
  go (db : Database) : List Migration → List Migration → Migrated
    | [], applied => ⟨db, applied.reverse, none⟩
    | m :: rest, applied =>
      match recorded db m.version with
      | .error e => ⟨db, applied.reverse, some ("checking migration " ++ toString m.version ++ ": " ++ e.message)⟩
      | .ok true => go db rest applied
      | .ok false =>
        match applyMigration db at_ m with
        | .error e => ⟨db, applied.reverse, some e⟩
        | .ok db' => go db' rest (m :: applied)

/-- A database with nothing in it. -/
def emptyDatabase : Database := ⟨[], [], [], true⟩

/-- The numbers of the migrations applied, in increasing order. -/
def appliedMigrations : StoreM (List Int) := do
  let (t, rows) ← readDb "list migrations" (·.select "schema_version" ["version"] (Expr.lit (.int 1)) ["version"])
  let rows := sortRows t "version" false rows
  rows.mapM fun r => readRecord "scan migration" (cellInt "int" 64 ⟨0, "version"⟩ (t.get r "version"))

end CreditExtraction.Store
