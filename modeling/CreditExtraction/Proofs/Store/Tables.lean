import CreditExtraction.Proofs.Store.Moves

/-! # Statements on the tables of the ledger

The store's statements, made on the database of a ledger, act on the ledger's rows: an update
of a table rewrites the records its condition holds of and counts them (`update_jobs`, …), an
insert appends a record under an identifier no record has (`insert_jobs`, …), the fields of a
job are deleted and inserted as a list of records. An insert into `tasks` also finds the job
its task refers to (`insert_tasks`), since the database refuses a reference without its
parent. -/

namespace CreditExtraction.Store

open Sql

namespace Ledger

variable (L : Ledger)

/-! ## Finding the tables -/

theorem tableToChange_documents :
    L.database.tableToChange "documents" = .ok (L.documents.table Store.documentsTable DocumentRow.cells) := by
  rw [L.tableToChange_eq (schemaTableName_none (by simp)), L.tableOrFail_documents]
  rfl

theorem tableToChange_jobs :
    L.database.tableToChange "extraction_jobs" = .ok (L.jobs.table Store.jobsTable JobRow.cells) := by
  rw [L.tableToChange_eq (schemaTableName_none (by simp)), L.tableOrFail_jobs]
  rfl

theorem tableToChange_fields :
    L.database.tableToChange "extracted_fields" =
      .ok (L.fields.table Store.fieldsTable FieldRow.cells) := by
  rw [L.tableToChange_eq (schemaTableName_none (by simp)), L.tableOrFail_fields]
  rfl

theorem tableToChange_tasks :
    L.database.tableToChange "tasks" = .ok (L.tasks.table Store.tasksTable TaskRow.cells) := by
  rw [L.tableToChange_eq (schemaTableName_none (by simp)), L.tableOrFail_tasks]
  rfl

theorem table?_jobs : L.database.table? "extraction_jobs" = some L.jobsTable := by
  simp [Database.table?, database, sameName_eq, versionsTable, documentsTable, jobsTable,
    Rows.table, Store.versionsTable, Store.documentsTable, Store.jobsTable, emptyTable]

/-! ## Updates -/

section Updates

variable {sets : List (String × Expr)} {cond : Expr} {db' : Database} {k : Nat}

theorem update_documents {p : DocumentRow → Bool} {f : DocumentRow → DocumentRow}
    (hheld : ∀ n d, Store.documentsTable.held cond ⟨n, d.cells⟩ = p d)
    (hset : ∀ n d, p d = true →
      Database.assigned Store.documentsTable ⟨n, d.cells⟩ sets = .ok (f d).cells)
    (h : L.database.update "documents" sets cond = .ok (db', k)) :
    db' = { L with documents := L.documents.update p f }.database ∧
      k = L.documents.records.countP p := by
  obtain ⟨hdb, hk⟩ := update_rows L.database_triggers L.tableToChange_documents hheld hset h
  exact ⟨hdb.trans (L.setTable_documents _), hk⟩

theorem update_jobs {p : JobRow → Bool} {f : JobRow → JobRow}
    (hheld : ∀ n j, Store.jobsTable.held cond ⟨n, j.cells⟩ = p j)
    (hset : ∀ n j, p j = true → Database.assigned Store.jobsTable ⟨n, j.cells⟩ sets = .ok (f j).cells)
    (h : L.database.update "extraction_jobs" sets cond = .ok (db', k)) :
    db' = { L with jobs := L.jobs.update p f }.database ∧ k = L.jobs.records.countP p := by
  obtain ⟨hdb, hk⟩ := update_rows L.database_triggers L.tableToChange_jobs hheld hset h
  exact ⟨hdb.trans (L.setTable_jobs _), hk⟩

theorem update_tasks {p : TaskRow → Bool} {f : TaskRow → TaskRow}
    (hheld : ∀ n t, Store.tasksTable.held cond ⟨n, t.cells⟩ = p t)
    (hset : ∀ n t, p t = true → Database.assigned Store.tasksTable ⟨n, t.cells⟩ sets = .ok (f t).cells)
    (h : L.database.update "tasks" sets cond = .ok (db', k)) :
    db' = (L.withTasks p f).database ∧ k = L.tasks.records.countP p := by
  obtain ⟨hdb, hk⟩ := update_rows L.database_triggers L.tableToChange_tasks hheld hset h
  exact ⟨hdb.trans (L.setTable_tasks _), hk⟩

end Updates

/-! ## Inserts -/

section Inserts

variable {assigns : List (String × Value)} {db' : Database}

theorem insert_documents {d : DocumentRow}
    (hnew : Database.newValues Store.documentsTable assigns L.documents.next = d.cells)
    (h : L.database.insert "documents" assigns = .ok db') :
    db' = { L with documents := L.documents.push d }.database ∧
      ∀ e ∈ L.documents.records, e.id.toText ≠ d.id.toText := by
  obtain ⟨hdb, hfree⟩ := insert_rows L.database_triggers L.tableToChange_documents
    L.tableOrFail_documents hnew h
  refine ⟨hdb.trans (L.setTable_documents _), ?_⟩
  exact Rows.id_fresh
    (show primaryIndex "documents" "id" ∈ Store.documentsTable.indexes by
      simp [Store.documentsTable, emptyTable])
    (by simp [Table.columnIndex?, Store.documentsTable, emptyTable, idCol, sameName_eq,
      List.findIdx?_cons]) (fun _ => rfl) hfree

theorem insert_jobs {j : JobRow}
    (hnew : Database.newValues Store.jobsTable assigns L.jobs.next = j.cells)
    (h : L.database.insert "extraction_jobs" assigns = .ok db') :
    db' = { L with jobs := L.jobs.push j }.database ∧
      ∀ e ∈ L.jobs.records, e.id.toText ≠ j.id.toText := by
  obtain ⟨hdb, hfree⟩ := insert_rows L.database_triggers L.tableToChange_jobs
    L.tableOrFail_jobs hnew h
  refine ⟨hdb.trans (L.setTable_jobs _), ?_⟩
  exact Rows.id_fresh
    (show primaryIndex "extraction_jobs" "id" ∈ Store.jobsTable.indexes by
      simp [Store.jobsTable, emptyTable])
    (by simp [Table.columnIndex?, Store.jobsTable, emptyTable, idCol, sameName_eq,
      List.findIdx?_cons]) (fun _ => rfl) hfree

theorem jobsTable_keyFor :
    Store.jobsTable.keyFor? ⟨"extraction_jobs", some "id"⟩ = some idCol := by
  simp [Table.keyFor?, Store.jobsTable, emptyTable, Table.column?, sameName_eq, idCol, refCol,
    textCol, numCol, textColD, primaryIndex, Index.ofColumns, Table.isRowNumber]

theorem jobsTable_get_id (n : Nat) (j : JobRow) :
    Store.jobsTable.get ⟨n, j.cells⟩ "id" = .text j.id.toText := by
  simp [Table.get, Table.columnIndex?, Store.jobsTable, emptyTable, sameName_eq, idCol,
    List.findIdx?_cons, JobRow.cells]

/-- A job that a reference finds is a job of the ledger. -/
theorem parent_job {x : String}
    (h : Database.hasParent L.jobsTable ⟨"extraction_jobs", some "id"⟩ (.text x) = true) :
    ∃ j ∈ L.jobs.records, j.id.toText = x := by
  have hkey : L.jobsTable.keyFor? ⟨"extraction_jobs", some "id"⟩ = some idCol := jobsTable_keyFor
  simp only [Database.hasParent, hkey] at h
  obtain ⟨r, hr, hsame⟩ := List.any_eq_true.mp h
  simp only [jobsTable, Rows.table, List.mem_map] at hr
  obtain ⟨e, he, rfl⟩ := hr
  have hget : L.jobsTable.get ⟨e.1, e.2.cells⟩ "id" = .text e.2.id.toText := jobsTable_get_id e.1 e.2
  refine ⟨e.2, List.mem_map_of_mem he, ?_⟩
  simp only [idCol, hget, Column.affinity, affinity_text, Value.withAffinity] at hsame
  simpa [Value.same, Value.order, compare_eq_iff_eq] using hsame

/-- A new task refers to a job of the ledger and has an identifier no task has. -/
theorem insert_tasks {r : TaskRow}
    (hnew : Database.newValues Store.tasksTable assigns L.tasks.next = r.cells)
    (h : L.database.insert "tasks" assigns = .ok db') :
    db' = { L with tasks := L.tasks.push r }.database ∧
      (∀ e ∈ L.tasks.records, e.id.toText ≠ r.id.toText) ∧
      ∃ j ∈ L.jobs.records, j.id.toText = r.job.toText := by
  have hpar := Database.insert_parents L.database_triggers L.tableToChange_tasks
    L.tableOrFail_tasks h
  obtain ⟨hdb, hfree⟩ := insert_rows L.database_triggers L.tableToChange_tasks
    L.tableOrFail_tasks hnew h
  rw [L.setTable_tasks] at hdb
  refine ⟨hdb, ?_, ?_⟩
  · exact Rows.id_fresh
      (show primaryIndex "tasks" "id" ∈ Store.tasksTable.indexes by
        simp [Store.tasksTable, emptyTable])
      (by simp [Table.columnIndex?, Store.tasksTable, emptyTable, idCol, sameName_eq,
        List.findIdx?_cons]) (fun _ => rfl) hfree
  · have hnv : Database.newValues (L.tasks.table Store.tasksTable TaskRow.cells) assigns
        (L.tasks.table Store.tasksTable TaskRow.cells).nextNumber = r.cells := hnew
    rw [hnv, hdb] at hpar
    -- the task's one reference is its job
    have hno := Database.not_orphan hpar
      (show (refCol "job_id" "extraction_jobs", (⟨"extraction_jobs", some "id"⟩ : Reference)) ∈ _ by
        simp [Table.links, Rows.table, Store.tasksTable, emptyTable, refCol, idCol, textCol, numCol])
    simp [Database.orphan, table?_jobs, Table.get, Table.appended, Rows.table,
      Store.tasksTable, emptyTable, Table.columnIndex?, List.findIdx?_cons, sameName_eq, refCol,
      idCol, textCol, numCol, TaskRow.cells, Value.isNull] at hno
    exact parent_job _ hno

end Inserts

/-! ## The fields of a job -/

theorem delete_fields {x : String} {db' : Database} {k : Nat}
    (h : L.database.delete "extracted_fields" (Expr.colEq "job_id" (.text x)) = .ok (db', k)) :
    db' = { L with fields := L.fields.filter fun r => !(r.job.toText == x) }.database := by
  rw [delete_rows L.database_triggers L.tableToChange_fields (FieldRow.held_job · · x) h,
    L.setTable_fields]

/-- Inserting the rows of several fields, one statement each, appends them in order. -/
theorem insertAll_fields (rows : List FieldRow) {db' : Database}
    (h : Fields.insertAll L.database
      (rows.map fun r => Fields.cells r.id r.job r.document r.position r.field) = .ok db') :
    db' = { L with fields := L.fields.pushAll rows }.database := by
  induction rows generalizing L with
  | nil =>
    simp only [Fields.insertAll, List.map_nil, List.foldlM_nil, pure, Except.pure,
      Except.ok.injEq] at h
    rw [← h]
    rfl
  | cons r rows ih =>
    simp only [Fields.insertAll, List.map_cons, List.foldlM_cons, Except.bind_eq_ok] at h
    obtain ⟨db₁, h₁, h⟩ := h
    obtain ⟨hdb₁, -⟩ := insert_rows L.database_triggers L.tableToChange_fields
      L.tableOrFail_fields (FieldRow.newValues_cells r _) h₁
    rw [L.setTable_fields] at hdb₁
    subst hdb₁
    exact ih { L with fields := L.fields.push r } h

end Ledger

/-! ## Rewriting no record -/

/-- An update whose condition holds of no record changes nothing. -/
theorem Rows.update_of_none {α : Type} {rs : Rows α} {p : α → Bool} (f : α → α)
    (h : ∀ a ∈ rs.records, p a = false) : rs.update p f = rs := by
  obtain ⟨entries, next, hnd, hlt⟩ := rs
  simp only [Rows.update, Rows.mk.injEq, and_true]
  conv => rhs; rw [← List.map_id entries]
  refine List.map_congr_left fun e he => ?_
  simp [h e.2 (List.mem_map_of_mem he)]

end CreditExtraction.Store
