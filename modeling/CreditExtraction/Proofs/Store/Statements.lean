import CreditExtraction.Proofs.Store.Ledger

/-! # What the store's statements do to one record

Each statement the store makes tests a row with a fixed condition and writes fixed cells.
On the cells of a record (`DocumentRow.cells`, `JobRow.cells`, `TaskRow.cells`) the test is a
plain test of the record's fields, and the cells written are those of the record with some
fields changed. This module states both, statement by statement:

* `documents`: a document claimed for a job, released by it, and made ready;
* `extraction_jobs`: a job advanced, counted, logged to, cancelled, failed and finished;
* `tasks`: a task claimed, retired, completed and failed or rescheduled, and the due tasks;
* the rows each insert writes, and the unique keys an insert keeps distinct.

The record-level effects (`JobRow.advanced`, `TaskRow.claimed`, …) are the abstract model of
the store's writes; the operations of the store are stated in their terms. -/

namespace CreditExtraction.Store

open Sql

/-! ## Affinities of the declared types -/

theorem affinity_text : Affinity.ofDeclared "TEXT" = .text := by decide +kernel

theorem affinity_integer : Affinity.ofDeclared "INTEGER" = .integer := by decide +kernel

theorem affinity_bigint : Affinity.ofDeclared "BIGINT" = .integer := by decide +kernel

theorem affinity_double : Affinity.ofDeclared "DOUBLE PRECISION" = .real := by decide +kernel

/-- A condition that evaluates to a truth value holds of a row exactly when it is true. -/
theorem Table.held_of_eval {t : Table} {r : Row} {cond : Expr} {o : Option Bool} {a : Affinity}
    (h : eval ⟨some (t.frame r), none, none⟩ cond = .ok (truth o, a)) :
    t.held cond r = (o == some true) := by
  simp [Table.held, holds_of_eval h]

/-- A text cell that may be null, compared with a text: unknown when null. -/
theorem eval_colEq_textCell {f : Frame} {c col : String} {o : Option String} {s : String}
    (h : f.cell? c = some ⟨col, .text, textCell o⟩) :
    eval ⟨some f, none, none⟩ (Expr.colEq c (.text s)) = .ok (truth (o.map (· == s)), .none) := by
  cases o with
  | none => simpa [textCell] using eval_eq_null (s := s) h
  | some v => simpa [textCell] using eval_colEq_text (s := s) h

/-- An integer cell compared with an integer: the two compare as stored values. -/
theorem eval_colEq_count {f : Frame} {c col : String} {v : Value} {k : Int}
    (h : f.cell? c = some ⟨col, .integer, v⟩) :
    eval ⟨some f, none, none⟩ (Expr.colEq c (.int k)) =
      .ok (truth (if v.isNull then none else some (Value.same v (.int k))), .none) := by
  cases v <;> simp [Expr.colEq, eval, Scope.frame, h, comparison, comparable, Affinity.isNumeric,
    Value.withAffinity, Value.isNull, Value.same, bind, Except.bind, pure, Except.pure, truth]

/-- A text cell that may be null, compared with a text: unknown when null. -/
theorem eval_lt_textCell {f : Frame} {c col : String} {o : Option String} {s : String}
    (h : f.cell? c = some ⟨col, .text, textCell o⟩) :
    eval ⟨some f, none, none⟩ (.bin .lt (.col .current c) (.lit (.text s))) =
      .ok (truth (o.map fun v => decide (v < s)), .none) := by
  cases o with
  | none => simpa [textCell] using eval_lt_null (s := s) h
  | some v => simpa [textCell] using eval_lt_text (s := s) h

theorem timeCell_eq (o : Option Time.Instant) : timeCell o = textCell (o.map (·.stored)) := by
  cases o <;> rfl

theorem idCell_eq (o : Option Uuid) : idCell o = textCell (o.map (·.toText)) := by
  cases o <;> rfl

/-! ## Jobs -/

namespace JobRow

variable (n : Nat) (j : JobRow)

section Cells

attribute [local simp] Table.frame jobsTable emptyTable cells Frame.cell? toLower_beq
  Column.affinity idCol refCol textCol numCol textColD affinity_text affinity_integer affinity_bigint

theorem cell_id :
    (jobsTable.frame ⟨n, j.cells⟩).cell? "id" = some ⟨"id", .text, .text j.id.toText⟩ := by simp

theorem cell_stage :
    (jobsTable.frame ⟨n, j.cells⟩).cell? "stage" = some ⟨"stage", .text, .text j.stage⟩ := by simp

theorem cell_cancel :
    (jobsTable.frame ⟨n, j.cells⟩).cell? "cancel_requested" =
      some ⟨"cancel_requested", .integer, .int (if j.cancelRequested then 1 else 0)⟩ := by
  simp [Value.ofBool]

theorem cell_attempts :
    (jobsTable.frame ⟨n, j.cells⟩).cell? "attempts" = some ⟨"attempts", .integer, j.attempts⟩ := by simp

theorem cell_workerLog :
    (jobsTable.frame ⟨n, j.cells⟩).cell? "worker_log" =
      some ⟨"worker_log", .text, .text j.workerLog⟩ := by simp

end Cells

/-- Has the job not ended, by its stored stage? -/
def open_ (j : JobRow) : Bool := j.stage != "FINISHED" && j.stage != "ERROR"

/-- Is the job the one named? -/
def hasId (x : String) (j : JobRow) : Bool := j.id.toText == x

/-- Is the job the one named, at a stage, with no cancel asked for? -/
def atStage (x src : String) (j : JobRow) : Bool :=
  j.id.toText == x && j.stage == src && !j.cancelRequested

/-- Is the job the one named, and not ended? -/
def openWith (x : String) (j : JobRow) : Bool := j.id.toText == x && j.open_

theorem held_id (x : String) :
    jobsTable.held (Expr.colEq "id" (.text x)) ⟨n, j.cells⟩ = j.hasId x := by
  rw [Table.held_of_eval (eval_colEq_text (cell_id n j))]
  simp [hasId]

theorem held_at (x src : String) :
    jobsTable.held (Expr.all [Expr.colEq "id" (.text x), Expr.colEq "stage" (.text src),
        Expr.colEq "cancel_requested" (.int 0)]) ⟨n, j.cells⟩ = j.atStage x src := by
  rw [all_cons_cons, all_cons_cons, all_singleton, Table.held_of_eval (eval_and (eval_colEq_text (cell_id n j))
    (eval_and (eval_colEq_text (cell_stage n j)) (eval_colEq_int (cell_cancel n j))))]
  unfold atStage
  cases j.id.toText == x <;> cases j.stage == src <;> cases j.cancelRequested <;> simp

theorem held_open (x : String) :
    jobsTable.held (Expr.all [Expr.colEq "id" (.text x), Jobs.notEnded]) ⟨n, j.cells⟩ =
      j.openWith x := by
  rw [all_cons_cons, all_singleton, Jobs.notEnded,
    Table.held_of_eval (eval_and (eval_colEq_text (cell_id n j)) (eval_notIn_text (cell_stage n j)))]
  unfold openWith
  cases j.id.toText == x <;> simp [open_]

/-- The job moved to a stage, with its start recorded when `started`. -/
def advanced (target : Stage) (started : Bool) (at_ : Time.Instant) : JobRow :=
  { j with stage := target.name, state := target.jobState.name, updatedAt := at_,
           startedAt := if started then some at_ else j.startedAt }

/-- The job with one more attempt counted. -/
def counted (at_ : Time.Instant) : JobRow :=
  { j with attempts := j.attempts.countedUp, updatedAt := at_ }

/-- The job with a text appended to its log. -/
def logged (text : String) (at_ : Time.Instant) : JobRow :=
  { j with workerLog := j.workerLog ++ text, updatedAt := at_ }

/-- The job asked to stop. -/
def cancelled (at_ : Time.Instant) : JobRow :=
  { j with cancelRequested := true, updatedAt := at_ }

/-- The job ended in `ERROR` with a code and a message, and with a line in its log unless the
entry is empty. -/
def failed (code message entry : String) (at_ : Time.Instant) : JobRow :=
  { j with stage := "ERROR", state := "ERROR", errorCode := some code,
           errorMessage := some message, finishedAt := some at_, updatedAt := at_,
           workerLog := if entry != "" then j.workerLog ++ (entry ++ "\n") else j.workerLog }

/-- The job ended `FINISHED` with its result. -/
def finished (payload : String) (at_ : Time.Instant) : JobRow :=
  { j with stage := "FINISHED", state := "FINISHED", result := some payload,
           finishedAt := some at_, updatedAt := at_ }

section Assigned

-- the steps of an assignment and the columns it writes, unfolded by every lemma below
attribute [local simp] Database.assigned jobsTable emptyTable cells idCol refCol textCol numCol
  textColD sameName_eq Column.affinity affinity_text affinity_integer Value.withAffinity
  List.mapM_cons Except.pure Except.bind eval evalList Scope.frame Table.frame Frame.cell?
  toLower_beq callFunction coalesce_toLower Value.isNull Value.render Jobs.appendLogExpr textCell
  timeCell

theorem assigned_advanced (target source : Stage) (at_ : Time.Instant) :
    Database.assigned jobsTable ⟨n, j.cells⟩
      ([("stage", .lit (.text target.name)), ("state", .lit (.text target.jobState.name)),
        ("updated_at", .lit (.text at_.stored))] ++
       (if source == .created then [("started_at", .lit (.text at_.stored))] else [])) =
      .ok (j.advanced target (source == .created) at_).cells := by
  cases source == .created <;> simp [advanced, pure, bind]

theorem assigned_counted (at_ : Time.Instant) :
    Database.assigned jobsTable ⟨n, j.cells⟩
      [("attempts", .bin .add (.call "COALESCE" [.col .current "attempts", .lit (.int 0)])
          (.lit (.int 1))), ("updated_at", .lit (.text at_.stored))] =
      .ok (j.counted at_).cells := by
  cases h : j.attempts <;> simp [counted, h, pure, bind, Value.countedUp]

theorem assigned_logged (entry : String) (at_ : Time.Instant) :
    Database.assigned jobsTable ⟨n, j.cells⟩
      [("worker_log", Jobs.appendLogExpr entry), ("updated_at", .lit (.text at_.stored))] =
      .ok (j.logged (entry ++ "\n") at_).cells := by
  simp [logged, pure, bind]

theorem assigned_cancelled (at_ : Time.Instant) :
    Database.assigned jobsTable ⟨n, j.cells⟩
      [("cancel_requested", .lit (.int 1)), ("updated_at", .lit (.text at_.stored))] =
      .ok (j.cancelled at_).cells := by
  simp [cancelled, Value.ofBool, pure, bind]

theorem assigned_failed (code message entry : String) (at_ : Time.Instant) :
    Database.assigned jobsTable ⟨n, j.cells⟩
      ([("stage", .lit (.text "ERROR")), ("state", .lit (.text "ERROR")),
        ("error_code", .lit (.text code)), ("error_message", .lit (.text message)),
        ("finished_at", .lit (.text at_.stored)), ("updated_at", .lit (.text at_.stored))] ++
       (if entry != "" then [("worker_log", Jobs.appendLogExpr entry)] else [])) =
      .ok (j.failed code message entry at_).cells := by
  cases h : entry != "" <;> simp [h, failed, pure, bind]

theorem assigned_finished (payload : String) (at_ : Time.Instant) :
    Database.assigned jobsTable ⟨n, j.cells⟩
      [("stage", .lit (.text "FINISHED")), ("state", .lit (.text "FINISHED")),
       ("result_json", .lit (.text payload)), ("finished_at", .lit (.text at_.stored)),
       ("updated_at", .lit (.text at_.stored))] =
      .ok (j.finished payload at_).cells := by
  simp [finished, pure, bind]

end Assigned

end JobRow

/-- A new job: created, at no stage yet, with no attempt, no cancel and an empty log. -/
def JobRow.created (id document : Uuid) (at_ : Time.Instant) : JobRow :=
  ⟨id, document, "CREATED", "CREATED", .int 0, false, "", none, none, none, at_, none, none, at_⟩

theorem JobRow.newValues_created (id document : Uuid) (at_ : Time.Instant) (n : Nat) :
    Database.newValues jobsTable
      [("id", .text id.toText), ("document_id", .text document.toText), ("state", .text "CREATED"),
       ("stage", .text "CREATED"), ("attempts", .int 0), ("cancel_requested", .int 0),
       ("worker_log", .text ""), ("created_at", .text at_.stored), ("updated_at", .text at_.stored)] n =
      (JobRow.created id document at_).cells := by
  simp [Database.newValues, jobsTable, emptyTable, JobRow.cells, JobRow.created, idCol, refCol,
    textCol, numCol, textColD, sameName_eq, Column.affinity, affinity_text, affinity_integer,
    Value.withAffinity, Table.isRowNumber, Column.isRowNumber, Value.isNull, Value.ofBool, textCell,
    timeCell]

/-! ## Documents -/

namespace DocumentRow

variable (n : Nat) (d : DocumentRow)

section Cells

attribute [local simp] Table.frame documentsTable emptyTable cells Frame.cell? toLower_beq
  Column.affinity idCol refCol textCol numCol textColD affinity_text affinity_integer affinity_bigint

theorem cell_id :
    (documentsTable.frame ⟨n, d.cells⟩).cell? "id" = some ⟨"id", .text, .text d.id.toText⟩ := by simp

theorem cell_status :
    (documentsTable.frame ⟨n, d.cells⟩).cell? "status" = some ⟨"status", .text, .text d.status⟩ := by simp

theorem cell_activeJob :
    (documentsTable.frame ⟨n, d.cells⟩).cell? "active_job_id" =
      some ⟨"active_job_id", .text, textCell (d.activeJob.map (·.toText))⟩ := by
  simp [idCell_eq]

end Cells

theorem held_id (x : String) :
    documentsTable.held (Expr.colEq "id" (.text x)) ⟨n, d.cells⟩ = (d.id.toText == x) := by
  rw [Table.held_of_eval (eval_colEq_text (cell_id n d))]
  simp

/-- Is the document the one named, not ready yet? -/
def readyable (x : String) (d : DocumentRow) : Bool := d.id.toText == x && d.status == "NOT_READY"

/-- Is the document the one named, and held by no job? -/
def claimable (x : String) (d : DocumentRow) : Bool := d.id.toText == x && d.status != "IN_PROGRESS"

/-- Is the document the one named, held by the named job? -/
def heldBy (x job : String) (d : DocumentRow) : Bool :=
  d.id.toText == x && d.activeJob.map (·.toText) == some job

theorem held_notReady (x : String) :
    documentsTable.held (Expr.all [Expr.colEq "id" (.text x), Expr.colEq "status" (.text "NOT_READY")])
      ⟨n, d.cells⟩ = d.readyable x := by
  rw [all_cons_cons, all_singleton, Table.held_of_eval (eval_and (eval_colEq_text (cell_id n d))
    (eval_colEq_text (cell_status n d)))]
  unfold readyable
  cases d.id.toText == x <;> simp

theorem held_claimable (x : String) :
    documentsTable.held (Expr.all [Expr.colEq "id" (.text x), Expr.colNe "status" (.text "IN_PROGRESS")])
      ⟨n, d.cells⟩ = d.claimable x := by
  rw [all_cons_cons, all_singleton, Table.held_of_eval (eval_and (eval_colEq_text (cell_id n d))
    (eval_colNe_text (cell_status n d)))]
  unfold claimable
  cases d.id.toText == x <;> simp

theorem held_heldBy (x job : String) :
    documentsTable.held (Expr.all [Expr.colEq "id" (.text x), Expr.colEq "active_job_id" (.text job)])
      ⟨n, d.cells⟩ = d.heldBy x job := by
  rw [all_cons_cons, all_singleton, Table.held_of_eval (eval_and (eval_colEq_text (cell_id n d))
    (eval_colEq_textCell (cell_activeJob n d)))]
  unfold heldBy
  cases d.id.toText == x <;> cases d.activeJob <;> simp

/-- The document made ready, its upload at a locator. -/
def readied (locator : String) (at_ : Time.Instant) : DocumentRow :=
  { d with rawLocator := locator, status := "READY", updatedAt := at_ }

/-- The document claimed by a job. -/
def claimed (job : Uuid) (at_ : Time.Instant) : DocumentRow :=
  { d with status := "IN_PROGRESS", activeJob := some job, updatedAt := at_ }

/-- The document handed back by its job with a status. -/
def released (status : DocumentStatus) (at_ : Time.Instant) : DocumentRow :=
  { d with status := status.name, activeJob := none, updatedAt := at_ }

section Assigned

attribute [local simp] Database.assigned documentsTable emptyTable cells idCol textCol numCol
  textColD sameName_eq Column.affinity affinity_text Value.withAffinity List.mapM_cons Except.pure
  Except.bind idCell

theorem assigned_readied (locator : String) (at_ : Time.Instant) :
    Database.assigned documentsTable ⟨n, d.cells⟩
      [("raw_locator", .lit (.text locator)), ("status", .lit (.text "READY")),
       ("updated_at", .lit (.text at_.stored))] =
      .ok (d.readied locator at_).cells := by
  simp [readied, pure, bind]

theorem assigned_claimed (job : Uuid) (at_ : Time.Instant) :
    Database.assigned documentsTable ⟨n, d.cells⟩
      [("status", .lit (.text "IN_PROGRESS")), ("active_job_id", .lit (.text job.toText)),
       ("updated_at", .lit (.text at_.stored))] =
      .ok (d.claimed job at_).cells := by
  simp [claimed, pure, bind]

theorem assigned_released (status : DocumentStatus) (at_ : Time.Instant) :
    Database.assigned documentsTable ⟨n, d.cells⟩
      [("status", .lit (.text status.name)), ("active_job_id", .lit .null),
       ("updated_at", .lit (.text at_.stored))] =
      .ok (d.released status at_).cells := by
  simp [released, pure, bind]

end Assigned

end DocumentRow

theorem DocumentRow.newValues_ofDocument (d : Document) (n : Nat) :
    Database.newValues documentsTable (Documents.cells d) n = (DocumentRow.ofDocument d).cells := by
  cases h : d.activeJob <;>
    simp [Database.newValues, documentsTable, emptyTable, DocumentRow.cells,
      DocumentRow.ofDocument, Documents.cells, h, idCol, textCol, numCol, textColD, sameName_eq,
      Column.affinity, affinity_text, affinity_integer, affinity_bigint, Value.withAffinity,
      Table.isRowNumber, Column.isRowNumber, Value.isNull, idCell]

/-! ## Tasks -/

namespace TaskRow

variable (n : Nat) (t : TaskRow)

section Cells

attribute [local simp] Table.frame tasksTable emptyTable cells Frame.cell? toLower_beq
  Column.affinity idCol refCol textCol numCol textColD affinity_text affinity_integer affinity_bigint

theorem cell_id :
    (tasksTable.frame ⟨n, t.cells⟩).cell? "id" = some ⟨"id", .text, .text t.id.toText⟩ := by simp

theorem cell_status :
    (tasksTable.frame ⟨n, t.cells⟩).cell? "status" = some ⟨"status", .text, .text t.status⟩ := by simp

theorem cell_attempts :
    (tasksTable.frame ⟨n, t.cells⟩).cell? "attempts" = some ⟨"attempts", .integer, t.attempts⟩ := by simp

theorem cell_runAfter :
    (tasksTable.frame ⟨n, t.cells⟩).cell? "run_after" =
      some ⟨"run_after", .text, .text t.runAfter.stored⟩ := by simp

theorem cell_leaseUntil :
    (tasksTable.frame ⟨n, t.cells⟩).cell? "lease_until" =
      some ⟨"lease_until", .text, textCell (t.leaseUntil.map (·.stored))⟩ := by
  simp [timeCell_eq]

end Cells

/-- Is the task the one named? -/
def hasId (x : String) (t : TaskRow) : Bool := t.id.toText == x

/-- Is the task the one named, with the status and attempts it was read with? -/
def isSame (x status : String) (attempts : Int) (t : TaskRow) : Bool :=
  t.id.toText == x && t.status == status && Value.same t.attempts (.int attempts)

theorem held_id (x : String) :
    tasksTable.held (Expr.colEq "id" (.text x)) ⟨n, t.cells⟩ = t.hasId x := by
  rw [Table.held_of_eval (eval_colEq_text (cell_id n t))]
  simp [hasId]

/-- Is the task still as it was read: the same identifier, status and attempts? -/
theorem held_same (x status : String) (attempts : Int) :
    tasksTable.held (Expr.all [Expr.colEq "id" (.text x), Expr.colEq "status" (.text status),
        Expr.colEq "attempts" (.int attempts)]) ⟨n, t.cells⟩ = t.isSame x status attempts := by
  rw [all_cons_cons, all_cons_cons, all_singleton, Table.held_of_eval
    (eval_and (eval_colEq_text (cell_id n t))
      (eval_and (eval_colEq_text (cell_status n t)) (eval_colEq_count (cell_attempts n t))))]
  unfold isSame
  cases t.id.toText == x <;> cases t.status == status <;> cases h : t.attempts <;>
    simp [Value.isNull, Value.same]

/-- Is a task due at a stored time: pending and due to run, or running on a lease that ran
out before it? -/
def dueAt (ts : String) : Bool :=
  (t.status == "pending" && decide (t.runAfter.stored ≤ ts)) ||
    (t.status == "running" && (t.leaseUntil.map fun u => decide (u.stored < ts)) == some true)

theorem held_due (ts : String) :
    tasksTable.held (Expr.bin .or
        (Expr.all [Expr.colEq "status" (.text "pending"), .bin .le (.col .current "run_after") (.lit (.text ts))])
        (Expr.all [Expr.colEq "status" (.text "running"), .bin .lt (.col .current "lease_until") (.lit (.text ts))]))
      ⟨n, t.cells⟩ = t.dueAt ts := by
  rw [all_cons_cons, all_singleton, all_cons_cons, all_singleton, Table.held_of_eval
    (eval_or (eval_and_known (eval_colEq_text (cell_status n t)) (eval_le_text (cell_runAfter n t)))
      (eval_and (eval_colEq_text (cell_status n t)) (eval_lt_textCell (cell_leaseUntil n t))))]
  unfold dueAt
  cases t.status == "pending" <;> cases t.status == "running" <;>
    cases decide (t.runAfter.stored ≤ ts) <;> cases t.leaseUntil <;> simp

/-- The task retired after its last lease ran out. -/
def retired (at_ : Time.Instant) : TaskRow :=
  { t with status := "failed", lastError := some Tasks.expiredMessage, leaseUntil := none,
           updatedAt := at_ }

/-- The task leased to a worker until `leaseEnd`, with one more attempt. -/
def claimed (leaseEnd at_ : Time.Instant) : TaskRow :=
  { t with status := "running", attempts := t.attempts.countedUp, leaseUntil := some leaseEnd,
           updatedAt := at_ }

/-- The task done. -/
def completed (at_ : Time.Instant) : TaskRow :=
  { t with status := "completed", leaseUntil := none, updatedAt := at_ }

/-- The task after a failed delivery: failed for good when `exhausted`, else pending again
until `runAfter`. -/
def failedWith (reason : String) (exhausted : Bool) (runAfter at_ : Time.Instant) : TaskRow :=
  { t with lastError := some reason, leaseUntil := none, updatedAt := at_,
           status := if exhausted then "failed" else "pending",
           runAfter := if exhausted then t.runAfter else runAfter }

section Assigned

attribute [local simp] Database.assigned tasksTable emptyTable cells idCol refCol textCol numCol
  sameName_eq Column.affinity affinity_text affinity_integer Value.withAffinity List.mapM_cons
  Except.pure Except.bind eval evalList Scope.frame Table.frame Frame.cell? toLower_beq
  callFunction coalesce_toLower Value.isNull textCell timeCell

theorem assigned_retired (at_ : Time.Instant) :
    Database.assigned tasksTable ⟨n, t.cells⟩
      [("status", .lit (.text "failed")), ("last_error", .lit (.text Tasks.expiredMessage)),
       ("lease_until", .lit .null), ("updated_at", .lit (.text at_.stored))] =
      .ok (t.retired at_).cells := by
  simp [retired, pure, bind]

theorem assigned_claimed (leaseEnd at_ : Time.Instant) :
    Database.assigned tasksTable ⟨n, t.cells⟩
      [("status", .lit (.text "running")),
       ("attempts", .bin .add (.call "COALESCE" [.col .current "attempts", .lit (.int 0)])
          (.lit (.int 1))),
       ("lease_until", .lit (.text leaseEnd.stored)), ("updated_at", .lit (.text at_.stored))] =
      .ok (t.claimed leaseEnd at_).cells := by
  cases h : t.attempts <;> simp [claimed, h, pure, bind, Value.countedUp]

theorem assigned_completed (at_ : Time.Instant) :
    Database.assigned tasksTable ⟨n, t.cells⟩
      [("status", .lit (.text "completed")), ("lease_until", .lit .null),
       ("updated_at", .lit (.text at_.stored))] =
      .ok (t.completed at_).cells := by
  simp [completed, pure, bind]

theorem assigned_failedWith (reason : String) (exhausted : Bool) (runAfter at_ : Time.Instant) :
    Database.assigned tasksTable ⟨n, t.cells⟩
      ([("last_error", .lit (.text reason)), ("lease_until", .lit .null),
        ("updated_at", .lit (.text at_.stored))] ++
       (if exhausted then [("status", .lit (.text "failed"))]
        else [("status", .lit (.text "pending")), ("run_after", .lit (.text runAfter.stored))])) =
      .ok (t.failedWith reason exhausted runAfter at_).cells := by
  cases exhausted <;> simp [failedWith, pure, bind]

end Assigned

end TaskRow

/-- A new task of a job: pending, or running on a lease until `leaseUntil`. -/
def TaskRow.new (id job : Uuid) (status : TaskStatus) (attempts maxAttempts : Int)
    (at_ : Time.Instant) (leaseUntil : Option Time.Instant) : TaskRow :=
  ⟨id, job, status.name, .int attempts, maxAttempts, at_, leaseUntil, none, at_, at_⟩

theorem TaskRow.newValues_new (id job : Uuid) (status : TaskStatus) (attempts maxAttempts : Int)
    (at_ : Time.Instant) (leaseUntil : Option Time.Instant) (n : Nat) :
    Database.newValues tasksTable
      ([("id", .text id.toText), ("job_id", .text job.toText), ("status", .text status.name),
        ("attempts", .int attempts), ("max_attempts", .int maxAttempts),
        ("run_after", .text at_.stored), ("created_at", .text at_.stored),
        ("updated_at", .text at_.stored)] ++
       (match leaseUntil with
         | some u => [("lease_until", .text u.stored)]
         | none => [])) n =
      (TaskRow.new id job status attempts maxAttempts at_ leaseUntil).cells := by
  cases leaseUntil <;>
    simp [Database.newValues, tasksTable, emptyTable, TaskRow.cells, TaskRow.new, idCol, refCol,
      textCol, numCol, sameName_eq, Column.affinity, affinity_text, affinity_integer,
      Value.withAffinity, Table.isRowNumber, Column.isRowNumber, Value.isNull, textCell, timeCell]

/-! ## Fields -/

theorem FieldRow.held_job (n : Nat) (r : FieldRow) (x : String) :
    fieldsTable.held (Expr.colEq "job_id" (.text x)) ⟨n, r.cells⟩ = (r.job.toText == x) := by
  have hcell : (fieldsTable.frame ⟨n, r.cells⟩).cell? "job_id" =
      some ⟨"job_id", .text, .text r.job.toText⟩ := by
    simp [Table.frame, fieldsTable, emptyTable, FieldRow.cells, Fields.cells, Frame.cell?,
      toLower_beq, Column.affinity, idCol, refCol, textCol, numCol, textColD, affinity_text]
  rw [Table.held_of_eval (eval_colEq_text hcell)]
  simp

theorem FieldRow.newValues_cells (r : FieldRow) (n : Nat) :
    Database.newValues fieldsTable (Fields.cells r.id r.job r.document r.position r.field) n =
      r.cells := by
  cases hv : r.field.value <;> cases hp : r.field.page <;>
    simp [Database.newValues, fieldsTable, emptyTable, FieldRow.cells, Fields.cells, hv, hp,
      idCol, refCol, textCol, numCol, textColD, sameName_eq, Column.affinity, affinity_text,
      affinity_integer, affinity_double, Value.withAffinity, Value.ofBool, Table.isRowNumber,
      Column.isRowNumber, Value.isNull]

end CreditExtraction.Store
