import CreditExtraction.Store.Tasks
import CreditExtraction.Proofs.Sql.Conditions

/-! # The ledger of the metadata store

The store's database has five tables, and its operations change four of them. The ledger is
what those four hold, read as typed rows: a row of `documents`, `extraction_jobs`,
`extracted_fields` or `tasks` is a record with one field per column, in column order, and
keeps the number its table gave it. `Ledger.database` puts the records back into the tables
of the schema.

A record keeps what the store writes: identifiers and times as the values they are written
from (`Uuid`, `Time.Instant`, stored as their texts), statuses and stages as the stored names,
and the two counters of attempts as the database's own values, since a count that left 64
bits would turn into a real.

The statements of the store act on such a database as on the ledger (`update_rows`,
`insert_rows`, `delete_rows`, `select_rows'`): an update rewrites the records its condition
holds of, an insert appends a record under the next number, a delete keeps the records its
condition does not hold of, and a query reads the records its condition holds of. -/

namespace CreditExtraction.Store

open Sql

/-! ## Numbered rows -/

/-- The rows of a table as records with their row numbers: the numbers are distinct and below
the next number the table gives. -/
structure Rows (α : Type) where
  entries : List (Nat × α)
  next : Nat
  numbers_nodup : (entries.map (·.1)).Nodup
  numbers_lt : ∀ e ∈ entries, e.1 < next

namespace Rows

variable {α : Type}

/-- The records, in row order. -/
def records (rs : Rows α) : List α := rs.entries.map (·.2)

/-- No rows, numbering from one. -/
def empty : Rows α := ⟨[], 1, List.nodup_nil, fun _ h => absurd h List.not_mem_nil⟩

/-- The records rewritten by `f` where `p` holds of them. -/
def update (rs : Rows α) (p : α → Bool) (f : α → α) : Rows α where
  entries := rs.entries.map fun e => (e.1, if p e.2 then f e.2 else e.2)
  next := rs.next
  numbers_nodup := by simpa [Function.comp_def] using rs.numbers_nodup
  numbers_lt := by
    intro e he
    simp only [List.mem_map] at he
    obtain ⟨e', he', rfl⟩ := he
    exact rs.numbers_lt e' he'

/-- A record appended under the next number. -/
def push (rs : Rows α) (a : α) : Rows α where
  entries := rs.entries ++ [(rs.next, a)]
  next := rs.next + 1
  numbers_nodup := by
    rw [List.map_append, List.nodup_append]
    refine ⟨rs.numbers_nodup, by simp, ?_⟩
    intro x hx y hy hxy
    simp only [List.map_cons, List.map_nil, List.mem_singleton] at hy
    obtain ⟨e, he, rfl⟩ := List.mem_map.mp hx
    have := rs.numbers_lt e he
    omega
  numbers_lt := by
    intro e he
    rcases List.mem_append.mp he with he | he
    · have := rs.numbers_lt e he
      omega
    · simp only [List.mem_singleton] at he
      subst he
      exact Nat.lt_succ_self _

/-- The records `p` holds of. -/
def filter (rs : Rows α) (p : α → Bool) : Rows α where
  entries := rs.entries.filter (p ·.2)
  next := rs.next
  numbers_nodup := (List.filter_sublist.map _).nodup rs.numbers_nodup
  numbers_lt := fun e he => rs.numbers_lt e (List.mem_of_mem_filter he)

@[simp] theorem records_update (rs : Rows α) (p : α → Bool) (f : α → α) :
    (rs.update p f).records = rs.records.map fun a => if p a then f a else a := by
  simp [records, update, Function.comp_def]

/-- A rewrite that keeps what a view shows of the records it rewrites keeps the view. -/
theorem map_update {β : Type} (rs : Rows α) (p : α → Bool) (f : α → α) (g : α → β)
    (h : ∀ a, p a = true → g (f a) = g a) :
    (rs.update p f).records.map g = rs.records.map g := by
  rw [records_update, List.map_map]
  refine List.map_congr_left fun a _ => ?_
  by_cases hp : p a <;> simp [hp, h]

/-- A rewritten row is a row rewritten where the condition held of it. -/
theorem mem_entries_update {rs : Rows α} {p : α → Bool} {f : α → α} {e : Nat × α}
    (h : e ∈ (rs.update p f).entries) :
    ∃ e₀ ∈ rs.entries, e = (e₀.1, if p e₀.2 then f e₀.2 else e₀.2) := by
  obtain ⟨e₀, he₀, rfl⟩ := List.mem_map.mp h
  exact ⟨e₀, he₀, rfl⟩

@[simp] theorem records_push (rs : Rows α) (a : α) : (rs.push a).records = rs.records ++ [a] := by
  simp [records, push]

@[simp] theorem records_filter (rs : Rows α) (p : α → Bool) :
    (rs.filter p).records = rs.records.filter p := by
  simp [records, filter, List.filter_map, Function.comp_def]

@[simp] theorem records_empty : (empty : Rows α).records = [] := rfl

/-- The table of a schema holding the rows, each record written as its cells. -/
def table (rs : Rows α) (base : Table) (cells : α → List Value) : Table :=
  { base with rows := rs.entries.map fun e => ⟨e.1, cells e.2⟩, nextNumber := rs.next }

theorem table_numbers_nodup (rs : Rows α) (base : Table) (cells : α → List Value) :
    ((rs.table base cells).rows.map Row.number).Nodup := by
  simpa [table, Function.comp_def] using rs.numbers_nodup

end Rows

/-! ## Records of the four tables -/

/-- What the store writes for a time that may be missing. -/
def timeCell : Option Time.Instant → Value
  | some t => .text t.stored
  | none => .null

/-- What the store writes for a text that may be missing. -/
def textCell : Option String → Value
  | some s => .text s
  | none => .null

/-- What the store writes for an identifier that may be missing. -/
def idCell : Option Uuid → Value
  | some u => .text u.toText
  | none => .null

/-- A row of `documents`. -/
structure DocumentRow where
  id : Uuid
  documentType : String
  sourcePath : String
  rawLocator : String
  contentKind : String
  mimeType : String
  contentHash : String
  sizeBytes : Int
  pageCount : Int
  status : String
  activeJob : Option Uuid
  createdAt : Time.Instant
  updatedAt : Time.Instant
  creditRequestId : String

/-- The cells of a row of `documents`, in column order. -/
def DocumentRow.cells (d : DocumentRow) : List Value :=
  [.text d.id.toText, .text d.documentType, .text d.sourcePath, .text d.rawLocator,
   .text d.contentKind, .text d.mimeType, .text d.contentHash, .int d.sizeBytes, .int d.pageCount,
   .text d.status, idCell d.activeJob, .text d.createdAt.stored, .text d.updatedAt.stored,
   .text d.creditRequestId]

/-- The row the store writes for a document. -/
def DocumentRow.ofDocument (d : Document) : DocumentRow :=
  ⟨d.id, d.documentType, d.sourcePath, d.rawLocator, d.contentKind, d.mimeType, d.contentHash,
   d.sizeBytes, d.pageCount, d.status.name, d.activeJob, d.createdAt, d.updatedAt,
   d.creditRequestId⟩

/-- A row of `extraction_jobs`. -/
structure JobRow where
  id : Uuid
  document : Uuid
  state : String
  stage : String
  attempts : Value
  cancelRequested : Bool
  workerLog : String
  errorCode : Option String
  errorMessage : Option String
  result : Option String
  createdAt : Time.Instant
  startedAt : Option Time.Instant
  finishedAt : Option Time.Instant
  updatedAt : Time.Instant

/-- The cells of a row of `extraction_jobs`, in column order. -/
def JobRow.cells (j : JobRow) : List Value :=
  [.text j.id.toText, .text j.document.toText, .text j.state, .text j.stage, j.attempts,
   Value.ofBool j.cancelRequested, .text j.workerLog, textCell j.errorCode,
   textCell j.errorMessage, textCell j.result, .text j.createdAt.stored, timeCell j.startedAt,
   timeCell j.finishedAt, .text j.updatedAt.stored]

/-- A row of `extracted_fields`: a field of a job's result at its position. -/
structure FieldRow where
  id : Uuid
  job : Uuid
  document : Uuid
  position : Nat
  field : ExtractedField

/-- The cells of a row of `extracted_fields`, in column order. -/
def FieldRow.cells (r : FieldRow) : List Value :=
  (Fields.cells r.id r.job r.document r.position r.field).map (·.2)

/-- A row of `tasks`. -/
structure TaskRow where
  id : Uuid
  job : Uuid
  status : String
  attempts : Value
  maxAttempts : Int
  runAfter : Time.Instant
  leaseUntil : Option Time.Instant
  lastError : Option String
  createdAt : Time.Instant
  updatedAt : Time.Instant

/-- The cells of a row of `tasks`, in column order. -/
def TaskRow.cells (t : TaskRow) : List Value :=
  [.text t.id.toText, .text t.job.toText, .text t.status, t.attempts, .int t.maxAttempts,
   .text t.runAfter.stored, timeCell t.leaseUntil, textCell t.lastError, .text t.createdAt.stored,
   .text t.updatedAt.stored]

/-! ## The ledger -/

/-- The rows of the four tables the store changes, and those of `schema_version` as they are. -/
structure Ledger where
  versionRows : List Row
  versionNext : Nat
  documents : Rows DocumentRow
  jobs : Rows JobRow
  fields : Rows FieldRow
  tasks : Rows TaskRow

namespace Ledger

/-- The `documents` table of the ledger. -/
def documentsTable (L : Ledger) : Table := L.documents.table Store.documentsTable DocumentRow.cells

/-- The `extraction_jobs` table of the ledger. -/
def jobsTable (L : Ledger) : Table := L.jobs.table Store.jobsTable JobRow.cells

/-- The `extracted_fields` table of the ledger. -/
def fieldsTable (L : Ledger) : Table := L.fields.table Store.fieldsTable FieldRow.cells

/-- The `tasks` table of the ledger. -/
def tasksTable (L : Ledger) : Table := L.tasks.table Store.tasksTable TaskRow.cells

/-- The `schema_version` table of the ledger. -/
def versionsTable (L : Ledger) : Table :=
  { Store.versionsTable with rows := L.versionRows, nextNumber := L.versionNext }

/-- The database that holds the ledger: open, with no trigger and no view. -/
def database (L : Ledger) : Database :=
  ⟨[L.versionsTable, L.documentsTable, L.jobsTable, L.fieldsTable, L.tasksTable], [], [], true⟩

@[simp] theorem database_triggers (L : Ledger) : L.database.triggers = [] := rfl

@[simp] theorem database_isOpen (L : Ledger) : L.database.isOpen = true := rfl

/-! ## Finding and replacing the tables -/

/-- The store's tables are no tables of the schema itself, and the ledger has no views: a
statement changes a table of the ledger by its name. -/
theorem tableToChange_eq (L : Ledger) {name : String} (h : Database.schemaTableName? name = none) :
    L.database.tableToChange name = L.database.tableOrFail name := by
  simp [Database.tableToChange, h, database]

section Tables

attribute [local simp] Database.tableOrFail Database.table? Database.setTable database sameName_eq
  versionsTable documentsTable jobsTable fieldsTable tasksTable Rows.table Store.versionsTable
  Store.documentsTable Store.jobsTable Store.fieldsTable Store.tasksTable emptyTable

theorem tableOrFail_documents (L : Ledger) :
    L.database.tableOrFail "documents" = .ok L.documentsTable := by simp

theorem tableOrFail_jobs (L : Ledger) :
    L.database.tableOrFail "extraction_jobs" = .ok L.jobsTable := by simp

theorem tableOrFail_fields (L : Ledger) :
    L.database.tableOrFail "extracted_fields" = .ok L.fieldsTable := by simp

theorem tableOrFail_tasks (L : Ledger) :
    L.database.tableOrFail "tasks" = .ok L.tasksTable := by simp

theorem tableOrFail_versions (L : Ledger) :
    L.database.tableOrFail "schema_version" = .ok L.versionsTable := by simp

theorem schemaTableName_none {name : String}
    (h : name ∈ ["documents", "extraction_jobs", "extracted_fields", "tasks", "schema_version"]) :
    Database.schemaTableName? name = none := by
  simp only [List.mem_cons, List.mem_nil_iff, or_false] at h
  rcases h with rfl | rfl | rfl | rfl | rfl <;> simp [Database.schemaTableName?, sameName_eq]

theorem setTable_documents (L : Ledger) (rs : Rows DocumentRow) :
    L.database.setTable (rs.table Store.documentsTable DocumentRow.cells) =
      { L with documents := rs }.database := by simp

theorem setTable_jobs (L : Ledger) (rs : Rows JobRow) :
    L.database.setTable (rs.table Store.jobsTable JobRow.cells) = { L with jobs := rs }.database := by simp

theorem setTable_fields (L : Ledger) (rs : Rows FieldRow) :
    L.database.setTable (rs.table Store.fieldsTable FieldRow.cells) =
      { L with fields := rs }.database := by simp

theorem setTable_tasks (L : Ledger) (rs : Rows TaskRow) :
    L.database.setTable (rs.table Store.tasksTable TaskRow.cells) = { L with tasks := rs }.database := by simp

theorem setTable_versions (L : Ledger) (rows : List Row) (next : Nat) :
    L.database.setTable { Store.versionsTable with rows := rows, nextNumber := next } =
      { L with versionRows := rows, versionNext := next }.database := by simp

end Tables

end Ledger

/-! ## Statements on the rows of a table -/

/-- A row rewritten where a condition holds, and left as it is elsewhere. -/
theorem Table.rewritten_of_held {t : Table} {sets : List (String × Expr)} {cond : Expr} {r : Row}
    {vs : List Value} (hheld : t.held cond r = true) (hvs : Database.assigned t r sets = .ok vs) :
    t.rewritten sets cond r = ⟨r.number, vs⟩ := by
  unfold Table.held at hheld
  unfold Table.rewritten
  split at hheld
  · rename_i b hb
    subst hheld
    rw [hb, hvs]
  · contradiction

theorem Table.rewritten_of_not_held {t : Table} {sets : List (String × Expr)} {cond : Expr}
    {r : Row} (hheld : t.held cond r = false) : t.rewritten sets cond r = r := by
  unfold Table.held at hheld
  unfold Table.rewritten
  split at hheld
  · rename_i b hb
    subst hheld
    rw [hb]
  · rename_i e he
    rw [he]

section Statements

variable {α : Type} {db : Database} {name : String} {rs : Rows α} {base : Table}
  {cells : α → List Value}

/-- A row of a table of records, under an update whose condition and assignments act on the
records as `p` and `f` do. -/
theorem Rows.table_rewritten {sets : List (String × Expr)} {cond : Expr} {p : α → Bool}
    {f : α → α} (hheld : ∀ n a, base.held cond ⟨n, cells a⟩ = p a)
    (hset : ∀ n a, p a = true → Database.assigned base ⟨n, cells a⟩ sets = .ok (cells (f a)))
    (e : Nat × α) :
    (rs.table base cells).rewritten sets cond ⟨e.1, cells e.2⟩ =
      ⟨e.1, cells (if p e.2 then f e.2 else e.2)⟩ := by
  cases hp : p e.2 with
  | false => exact Table.rewritten_of_not_held ((hheld e.1 e.2).trans hp)
  | true => exact Table.rewritten_of_held ((hheld e.1 e.2).trans hp) (hset e.1 e.2 hp)

/-- An update of a table of records rewrites, by `f`, the records its condition holds of
(`p`), and counts them. -/
theorem update_rows (htr : db.triggers = []) (ht : db.tableToChange name = .ok (rs.table base cells))
    {sets : List (String × Expr)} {cond : Expr} {p : α → Bool} {f : α → α}
    (hheld : ∀ n a, base.held cond ⟨n, cells a⟩ = p a)
    (hset : ∀ n a, p a = true → Database.assigned base ⟨n, cells a⟩ sets = .ok (cells (f a)))
    {db' : Database} {k : Nat} (h : db.update name sets cond = .ok (db', k)) :
    db' = db.setTable ((rs.update p f).table base cells) ∧ k = rs.records.countP p := by
  obtain ⟨hdb, hk⟩ := Database.update_eq_setTable htr ht (rs.table_numbers_nodup base cells) h
  refine ⟨?_, ?_⟩
  · rw [hdb]
    congr 1
    simp only [Table.updated, Rows.table, Rows.update, List.map_map]
    congr 1
    exact List.map_congr_left fun e _ => Rows.table_rewritten hheld hset e
  · rw [hk]
    simp only [Rows.table, Rows.records, List.countP_map]
    congr 1
    funext e
    exact hheld e.1 e.2

/-- An insert into a table of records appends the record whose cells the insert writes, under
the next number; no record there shares a unique key with it. -/
theorem insert_rows (htr : db.triggers = []) (ht : db.tableToChange name = .ok (rs.table base cells))
    (hself : db.tableOrFail base.name = .ok (rs.table base cells))
    {assigns : List (String × Value)} {a : α}
    (hnew : Database.newValues base assigns rs.next = cells a)
    {db' : Database} (h : db.insert name assigns = .ok db') :
    db' = db.setTable ((rs.push a).table base cells) ∧ (rs.table base cells).KeysFree none (cells a) := by
  obtain ⟨hdb, hfree⟩ := Database.insert_eq_setTable htr ht hself h
  have hnew' : Database.newValues (rs.table base cells) assigns (rs.table base cells).nextNumber =
      cells a := hnew
  rw [hnew'] at hdb hfree
  refine ⟨?_, hfree⟩
  rw [hdb]
  congr 1
  simp [Table.appended, Rows.table, Rows.push]

/-- A delete from a table of records keeps the records its condition does not hold of. -/
theorem delete_rows (htr : db.triggers = []) (ht : db.tableToChange name = .ok (rs.table base cells))
    {cond : Expr} {p : α → Bool} (hheld : ∀ n a, base.held cond ⟨n, cells a⟩ = p a)
    {db' : Database} {k : Nat} (h : db.delete name cond = .ok (db', k)) :
    db' = db.setTable ((rs.filter fun a => !p a).table base cells) := by
  rw [Database.delete_eq_setTable htr ht (rs.table_numbers_nodup base cells) h]
  congr 1
  simp only [Table.pruned, Rows.table, Rows.filter, List.filter_map]
  congr 2
  refine List.filter_congr fun e _ => ?_
  exact congrArg (!·) (hheld e.1 e.2)

/-- A query of a table of records reads the records its condition holds of, in row order. -/
theorem select_rows' {cols order : List String} {cond : Expr} {p : α → Bool}
    (hself : db.tableOrFail name = .ok (rs.table base cells))
    (hheld : ∀ n a, base.held cond ⟨n, cells a⟩ = p a)
    {t : Table} {rows : List Row} (h : db.select name cols cond order = .ok (t, rows)) :
    t = rs.table base cells ∧ rows = (rs.filter p).entries.map fun e => ⟨e.1, cells e.2⟩ := by
  obtain ⟨ht, hrows⟩ := Database.select_rows h
  rw [hself] at ht
  cases ht
  refine ⟨rfl, ?_⟩
  rw [hrows]
  simp only [Rows.table, Rows.filter, List.filter_map]
  congr 2
  funext e
  exact hheld e.1 e.2

/-- The key of a primary index over a text column `id`, first in its table, is unique: an
insert that keeps keys distinct writes a key no record has. -/
theorem Rows.id_fresh {rs : Rows α} {base : Table} {cells : α → List Value} {a : α}
    {key : α → String} {tableName : String}
    (hix : primaryIndex tableName "id" ∈ base.indexes) (hcol : base.columnIndex? "id" = some 0)
    (hcells : ∀ b, (cells b).head? = some (.text (key b)))
    (h : (rs.table base cells).KeysFree none (cells a)) :
    ∀ b ∈ rs.records, key b ≠ key a := by
  intro b hb heq
  obtain ⟨e, he, rfl⟩ := List.mem_map.mp hb
  have hcol' : (rs.table base cells).columnIndex? "id" = some 0 := hcol
  have hkey : ∀ c, Database.indexKey (rs.table base cells) (cells c) (primaryIndex tableName "id") =
      [.text (key c)] := by
    intro c
    have hc := hcells c
    cases hvs : cells c with
    | nil => simp [hvs] at hc
    | cons v vs =>
        simp only [hvs, List.head?_cons, Option.some.injEq] at hc
        simp [Database.indexKey, primaryIndex, Index.ofColumns, hcol', hc]
  apply h (primaryIndex tableName "id") hix rfl (by simp [hkey, Value.isNull])
    (by simp [Database.inIndex, primaryIndex, Index.ofColumns]) ⟨e.1, cells e.2⟩
    (List.mem_map_of_mem he) (by simp)
  refine ⟨by simp [Database.inIndex, primaryIndex, Index.ofColumns], ?_⟩
  rw [hkey, hkey, heq]
  simp [Value.same, Value.order]

end Statements

end CreditExtraction.Store
