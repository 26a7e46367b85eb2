import CreditExtraction.Proofs.Store.Statements

/-! # What one transaction does to the ledger

Each operation of the store runs as one transaction (the claim of a task as one per try), and
a transaction either fails and leaves the ledger as it was, or changes it in one of the ways
listed by `Move`. A move names the records it rewrites by the condition its statements test
(`JobRow.atStage`, `DocumentRow.claimable`, …), writes them as the record-level effects of
`Statements` describe, and records what the transaction made sure of before it wrote: the
record it read, the key the database found unused, the parent row a reference needs.

Moves follow the rules under which the store is called: a document starts `NOT_READY` or
`READY` and without a job, a job moves only to the stage after its own (and past `PERSISTING`
only by finishing), a failure hands the document back `READY` or `ERROR`. A move also lists
the leases it grants: the task it hands to a worker, if any. -/

namespace CreditExtraction.Store

open Sql

/-! ## New tasks -/

namespace TaskRow

/-- The task a new delivery stores: pending, or leased to the caller when the lease is
positive; at least one attempt is allowed. -/
def enqueued (id job : Uuid) (maxAttempts : Int) (lease : Time.Duration) (at_ : Time.Instant) :
    TaskRow :=
  TaskRow.new id job (if lease > 0 then .running else .pending) (if lease > 0 then 1 else 0)
    (if maxAttempts < 1 then 1 else maxAttempts) at_ (if lease > 0 then some (at_.add lease) else none)

end TaskRow

/-! ## Several records appended -/

/-- Records appended in order. -/
def Rows.pushAll {α : Type} (rs : Rows α) (as : List α) : Rows α := as.foldl Rows.push rs

@[simp] theorem Rows.records_pushAll {α : Type} (rs : Rows α) (as : List α) :
    (rs.pushAll as).records = rs.records ++ as := by
  induction as generalizing rs with
  | nil => simp [Rows.pushAll]
  | cons a as ih =>
    simp only [Rows.pushAll, List.foldl_cons] at ih ⊢
    rw [ih]
    simp

/-! ## Ending a job -/

namespace Ledger

/-- A job ended in `ERROR`, and its document handed back with a status if the job still holds
it. -/
def failed (L : Ledger) (x doc code message entry : String) (status : DocumentStatus)
    (at_ : Time.Instant) : Ledger :=
  { L with
    jobs := L.jobs.update (JobRow.openWith x) (·.failed code message entry at_)
    documents := L.documents.update (DocumentRow.heldBy doc x) (·.released status at_) }

/-- A job at `PERSISTING` finished with its result and its fields, and its document handed
back as `DONE`. -/
def finished (L : Ledger) (x doc payload : String) (rows : List FieldRow) (at_ : Time.Instant) :
    Ledger :=
  { L with
    jobs := L.jobs.update (JobRow.atStage x "PERSISTING") (·.finished payload at_)
    fields := (L.fields.filter fun r => !(r.job.toText == x)).pushAll rows
    documents := L.documents.update (DocumentRow.heldBy doc x) (·.released .done at_) }

/-- What giving up on a task does to its job: nothing, when no job of that identifier is still
going, or the job fails with the task's code and a line in its log, and its document goes to
`ERROR`. -/
def Abandons (L : Ledger) (x : String) (at_ : Time.Instant) (L' : Ledger) : Prop :=
  (L' = L ∧ ((∀ j ∈ L.jobs.records, j.id.toText ≠ x) ∨
    ∃ j ∈ L.jobs.records, j.id.toText = x ∧ j.open_ = false)) ∨
    ∃ doc message entry, (∃ j ∈ L.jobs.records, j.id.toText = x ∧ j.document.toText = doc) ∧
      entry ≠ "" ∧ L' = L.failed x doc Tasks.taskFailedCode message entry .error at_

/-- The tasks with a task rewritten. -/
def withTasks (L : Ledger) (p : TaskRow → Bool) (f : TaskRow → TaskRow) : Ledger :=
  { L with tasks := L.tasks.update p f }

end Ledger

/-! ## Moves -/

/-- How one transaction may change the ledger, under the rules the store is called by, with
the leases it grants. -/
inductive Move : Ledger → List String → Ledger → Prop
  /-- A new document, not ready or ready, held by no job, under an unused identifier. -/
  | addDocument {L : Ledger} (d : DocumentRow)
      (hfresh : ∀ e ∈ L.documents.records, e.id.toText ≠ d.id.toText)
      (hstatus : d.status = "NOT_READY" ∨ d.status = "READY") (hactive : d.activeJob = none) :
      Move L [] { L with documents := L.documents.push d }
  /-- A document's upload recorded, and the document made ready. -/
  | markReady {L : Ledger} (x locator : String) (at_ : Time.Instant) :
      Move L [] { L with
        documents := L.documents.update (DocumentRow.readyable x) (·.readied locator at_) }
  /-- A document that no job holds claimed by a new job under an unused identifier. -/
  | createJob {L : Ledger} (doc job : Uuid) (at_ : Time.Instant)
      (hclaim : ∃ d ∈ L.documents.records, DocumentRow.claimable doc.toText d = true)
      (hfresh : ∀ j ∈ L.jobs.records, j.id.toText ≠ job.toText) :
      Move L [] { L with
        documents := L.documents.update (DocumentRow.claimable doc.toText) (·.claimed job at_)
        jobs := L.jobs.push (JobRow.created job doc at_) }
  /-- A job moved from a stage before `PERSISTING` to the next. -/
  | advance {L : Ledger} (x : String) (src tgt : Stage) (at_ : Time.Instant)
      (hnext : src.next = some tgt) (hsrc : src ≠ .persisting) :
      Move L [] { L with
        jobs := L.jobs.update (JobRow.atStage x src.name) (·.advanced tgt (src == .created) at_) }
  /-- One more attempt counted on a job. -/
  | count {L : Ledger} (x : String) (at_ : Time.Instant) :
      Move L [] { L with jobs := L.jobs.update (JobRow.hasId x) (·.counted at_) }
  /-- A line appended to a job's log. -/
  | log {L : Ledger} (x entry : String) (at_ : Time.Instant) :
      Move L [] { L with jobs := L.jobs.update (JobRow.hasId x) (·.logged (entry ++ "\n") at_) }
  /-- A cancel asked of a job that has not ended. -/
  | cancel {L : Ledger} (x : String) (at_ : Time.Instant) :
      Move L [] { L with jobs := L.jobs.update (JobRow.openWith x) (·.cancelled at_) }
  /-- A job failed, its document handed back ready or in error. -/
  | fail {L : Ledger} (x doc code message : String) (status : DocumentStatus) (at_ : Time.Instant)
      (hjob : ∃ j ∈ L.jobs.records, j.id.toText = x ∧ j.document.toText = doc)
      (hstatus : status = .ready ∨ status = .error) :
      Move L [] (L.failed x doc code message "" status at_)
  /-- A job at `PERSISTING` finished: the result stored, the fields of the result stored at
  their positions, and the document handed back as done. -/
  | finish {L : Ledger} (job document : Uuid) (result : PipelineResult) (rows : List FieldRow)
      (at_ : Time.Instant)
      (hjob : ∃ j ∈ L.jobs.records, j.id.toText = job.toText ∧ j.document.toText = document.toText)
      (hat : ∃ j ∈ L.jobs.records, j.atStage job.toText "PERSISTING" = true)
      (hrows : rows.map (fun r => (r.field, r.position)) = result.fields.zipIdx)
      (hof : ∀ r ∈ rows, r.job = job ∧ r.document = document) :
      Move L [] (L.finished job.toText document.toText (Json.render result.toJson) rows at_)
  /-- A task stored for a job that exists, under an unused identifier, allowing a number of
  attempts that is a 64-bit integer; leased to the caller when the lease is positive. -/
  | enqueue {L : Ledger} (id job : Uuid) (maxAttempts : Int) (lease : Time.Duration)
      (at_ : Time.Instant) (hfits : fitsInt maxAttempts = true)
      (hfresh : ∀ e ∈ L.tasks.records, e.id.toText ≠ id.toText)
      (hjob : ∃ j ∈ L.jobs.records, j.id.toText = job.toText) :
      Move L (if lease > 0 then [id.toText] else [])
        { L with tasks := L.tasks.push (TaskRow.enqueued id job maxAttempts lease at_) }
  /-- A due task, read from its row, leased to a worker until `leaseEnd` with one more attempt,
  unless it ran out of attempts on its last lease. -/
  | claim {L : Ledger} (e : Nat × TaskRow) (he : e ∈ L.tasks.entries) (at_ leaseEnd : Time.Instant)
      (task : Task) (hdue : e.2.dueAt at_.stored = true)
      (hread : Task.read L.tasksTable ⟨e.1, e.2.cells⟩ = .ok task)
      (hlive : ¬(task.status = .running ∧ task.attempts ≥ task.maxAttempts)) :
      Move L
        (if L.tasks.records.countP (TaskRow.isSame task.id.toText task.status.name task.attempts) = 1
          then [task.id.toText] else [])
        (L.withTasks (TaskRow.isSame task.id.toText task.status.name task.attempts)
          (·.claimed leaseEnd at_))
  /-- A due task whose last lease ran out, retired as failed, and its job given up on when the
  task was the one row retired. -/
  | retire {L L' : Ledger} (e : Nat × TaskRow) (he : e ∈ L.tasks.entries) (at_ : Time.Instant)
      (task : Task) (hdue : e.2.dueAt at_.stored = true)
      (hread : Task.read L.tasksTable ⟨e.1, e.2.cells⟩ = .ok task)
      (hspent : task.status = .running ∧ task.attempts ≥ task.maxAttempts)
      (hab : if L.tasks.records.countP (TaskRow.isSame task.id.toText task.status.name
          task.attempts) = 1
        then Ledger.Abandons (L.withTasks (TaskRow.isSame task.id.toText task.status.name
          task.attempts) (·.retired at_)) task.job.toText at_ L'
        else L' = L.withTasks (TaskRow.isSame task.id.toText task.status.name task.attempts)
          (·.retired at_)) :
      Move L [] L'
  /-- A task marked done. -/
  | complete {L : Ledger} (x : String) (at_ : Time.Instant) :
      Move L [] (L.withTasks (TaskRow.hasId x) (·.completed at_))
  /-- A failed delivery of a task, read from its row: the task is tried again after a wait, or,
  out of attempts, fails and its job is given up on. -/
  | failTask {L L' : Ledger} (x reason : String) (task : Task) (at_ : Time.Instant)
      (e : Nat × TaskRow) (he : e ∈ L.tasks.entries) (hid : e.2.id.toText = x)
      (hread : Task.read L.tasksTable ⟨e.1, e.2.cells⟩ = .ok task)
      (hab : if task.attempts ≥ task.maxAttempts then
          Ledger.Abandons (L.withTasks (TaskRow.hasId x) (·.failedWith reason true
            (at_.add (Tasks.backoff task.attempts)) at_)) task.job.toText at_ L'
        else L' = L.withTasks (TaskRow.hasId x) (·.failedWith reason false
            (at_.add (Tasks.backoff task.attempts)) at_)) :
      Move L [] L'

/-- Transactions one after another, with the leases they grant in order. -/
inductive Moves : Ledger → List String → Ledger → Prop
  | refl (L : Ledger) : Moves L [] L
  | tail {L L' L'' : Ledger} {ls ms : List String} :
      Moves L ls L' → Move L' ms L'' → Moves L (ls ++ ms) L''

namespace Moves

variable {L L' L'' : Ledger} {ls ms : List String}

theorem single (h : Move L ls L') : Moves L ls L' := by
  simpa using Moves.tail (.refl L) h

theorem trans (h : Moves L ls L') (h' : Moves L' ms L'') : Moves L (ls ++ ms) L'' := by
  induction h' with
  | refl => simpa using h
  | tail _ hm ih => simpa [List.append_assoc] using Moves.tail ih hm

end Moves

/-- A transaction: it leaves the ledger as it was and grants nothing, or makes one move. -/
inductive Moved : Ledger → List String → Ledger → Prop
  | stay (L : Ledger) : Moved L [] L
  | move {L L' : Ledger} {ls : List String} : Move L ls L' → Moved L ls L'

theorem Moved.moves {L L' : Ledger} {ls : List String} (h : Moved L ls L') : Moves L ls L' := by
  cases h with
  | stay => exact .refl _
  | move hm => exact .single hm

end CreditExtraction.Store
