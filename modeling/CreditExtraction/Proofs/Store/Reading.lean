import CreditExtraction.Proofs.Store.Statements
import CreditExtraction.Proofs.Store.Outcome
import CreditExtraction.Proofs.Text.UuidText

/-! # Records read back from the ledger

The store reads a job or a task from a row by converting its cells (`Job.read`,
`Task.read`). On the cells of a ledger record the conversion gives back what the store relies
on afterwards: the identifiers with the texts they were written with, the stage and the
status by their stored names, and the counters as stored. A lookup by identifier
(`Jobs.get`, `Tasks.get`) therefore returns a record read from a row of the ledger that has
that identifier. -/

namespace CreditExtraction.Store

open Sql

/-! ## Cells -/

@[simp] theorem cellAsText_text (v : String) : cellAsText (.text v) = some v := rfl

@[simp] theorem cellAsText_textCell (o : Option String) : cellAsText (textCell o) = o := by
  cases o <;> rfl

theorem Time.Instant.stored_ne_empty (u : Time.Instant) : u.stored ≠ "" := by
  simp [Time.Instant.stored]

theorem parseNullTime_stored (u : Time.Instant) :
    parseNullTime (some u.stored) = some <$> parseTime u.stored := by
  simp [parseNullTime, Time.Instant.stored_ne_empty]

/-! ## Stages by their stored names -/

theorem Stage.terminal_ofName (x : String) :
    (Stage.ofName x).terminal = (x == "FINISHED" || x == "ERROR") := by
  unfold Stage.ofName
  split <;> simp_all [Stage.terminal]

/-- A job has not ended exactly when its stored stage reads as a stage that is not terminal. -/
theorem JobRow.open_eq (j : JobRow) : j.open_ = !(Stage.ofName j.stage).terminal := by
  rw [Stage.terminal_ofName, JobRow.open_, Bool.not_or]
  rfl

/-! ## Records -/

/-- A job read from the cells of a ledger record has the record's identifiers and stage. -/
theorem JobRow.read_ok {t : Table} (ht : t.columns = jobsTable.columns) {n : Nat} {j : JobRow}
    {job : Job} (h : Job.read t ⟨n, j.cells⟩ = .ok job) :
    job.id.toText = j.id.toText ∧ job.document.toText = j.document.toText ∧
      job.stage = Stage.ofName j.stage := by
  simp only [Job.read, RowView.text, RowView.nullText, RowView.int, RowView.cell, Table.get,
    Table.columnIndex?, ht, jobsTable, emptyTable, idCol, refCol, textCol, numCol, textColD,
    sameName_eq, JobRow.cells, List.findIdx?_cons] at h
  simp [Except.bind_eq_ok, cellText, Uuid.parse_toText, pure, Except.pure] at h
  obtain ⟨_, -, _, -, _, -, _, -, _, -, _, -, _, -, _, -, _, -, _, -, rfl⟩ := h
  exact ⟨Uuid.toText_mod _, Uuid.toText_mod _, rfl⟩

/-- A task read from the cells of a ledger record has the record's identifiers, status,
counters and lease; a record without a status does not read. -/
theorem TaskRow.read_ok {t : Table} (ht : t.columns = tasksTable.columns) {n : Nat} {r : TaskRow}
    {task : Task} (h : Task.read t ⟨n, r.cells⟩ = .ok task) :
    task.id.toText = r.id.toText ∧ task.job.toText = r.job.toText ∧
      task.status = TaskStatus.ofName r.status ∧ r.status ≠ "" ∧
      task.maxAttempts = r.maxAttempts ∧ (∀ a, r.attempts = .int a → task.attempts = a) ∧
      ∀ u, r.leaseUntil = some u → ∃ v, parseTime u.stored = .ok v ∧ task.leaseUntil = some v := by
  simp only [Task.read, RowView.text, RowView.nullText, RowView.int, RowView.cell, Table.get,
    Table.columnIndex?, ht, tasksTable, emptyTable, idCol, refCol, textCol, numCol,
    sameName_eq, TaskRow.cells, List.findIdx?_cons] at h
  simp [Except.bind_eq_ok, cellText, cellNullText, cellInt, timeCell_eq,
    Uuid.parse_toText, pure, Except.pure] at h
  obtain ⟨a, ha, _, -, v, hv, _, -, hstatus⟩ := h
  split at hstatus
  · simp [bind, Except.bind, throw, throwThe, MonadExceptOf.throw] at hstatus
  · rename_i hne
    simp only [Except.ok.injEq] at hstatus
    subst hstatus
    refine ⟨Uuid.toText_mod _, Uuid.toText_mod _, rfl, hne, rfl, ?_, ?_⟩
    · intro b hb
      simpa [hb] using ha.symm
    · intro u hu
      simp only [hu, Option.map_some, parseNullTime_stored] at hv
      cases hp : parseTime u.stored with
      | error e => simp [hp, Functor.map, Except.map] at hv
      | ok w => simp_all [Functor.map, Except.map]

/-! ## Lookups by identifier -/

section Lookups

variable {s s' : MetaStore} {L : Ledger}

/-- A row a query of the ledger returned is the row of a record its condition holds of. -/
theorem Rows.mem_selected {α : Type} {rs : Rows α} {p : α → Bool} {cells : α → List Value}
    {r : Row} (h : r ∈ (rs.filter p).entries.map fun e => (⟨e.1, cells e.2⟩ : Row)) :
    ∃ e ∈ rs.entries, p e.2 = true ∧ r = ⟨e.1, cells e.2⟩ := by
  obtain ⟨e, he, rfl⟩ := List.mem_map.mp h
  exact ⟨e, (List.mem_filter.mp he).1, (List.mem_filter.mp he).2, rfl⟩

/-- A job looked up by identifier was read from a row of the ledger with that identifier. -/
theorem Jobs.get_ok (hdb : s.db = L.database) {id : Uuid} {job : Job}
    (h : outcome (Jobs.get id) s = (.ok job, s')) :
    s' = s ∧ ∃ j ∈ L.jobs.records, j.id.toText = id.toText ∧ job.id.toText = j.id.toText ∧
      job.document.toText = j.document.toText ∧ job.stage = Stage.ofName j.stage := by
  simp only [Jobs.get, Jobs.getWhere, outcome_readDb_bind] at h
  split at h
  · rename_i res hsel
    obtain ⟨t, rows⟩ := res
    rw [hdb] at hsel
    obtain ⟨rfl, rfl⟩ := select_rows' (L.tableOrFail_jobs) (JobRow.held_id · · _) hsel
    split at h
    · rename_i r _ hrows
      obtain ⟨e, he, hid, rfl⟩ := Rows.mem_selected (hrows ▸ List.mem_cons_self)
      simp only [outcome_readRecord] at h
      split at h
      · rename_i job' hread
        simp only [Prod.mk.injEq, Except.ok.injEq] at h
        obtain ⟨rfl, rfl⟩ := h
        obtain ⟨hid', hdoc, hstage⟩ := JobRow.read_ok rfl hread
        refine ⟨rfl, e.2, List.mem_map_of_mem he, by simpa [JobRow.hasId] using hid, ?_, hdoc, hstage⟩
        rw [hid']
      · simp at h
    · simp at h
  · simp at h

/-- A task looked up by identifier was read from a row of the ledger with that identifier. -/
theorem Tasks.get_ok (hdb : s.db = L.database) {id : Uuid} {task : Task}
    (h : outcome (Tasks.get id) s = (.ok task, s')) :
    s' = s ∧ ∃ e ∈ L.tasks.entries, e.2.id.toText = id.toText ∧
      Task.read L.tasksTable ⟨e.1, e.2.cells⟩ = .ok task := by
  simp only [Tasks.get, Tasks.getWhere, outcome_readDb_bind] at h
  split at h
  · rename_i res hsel
    obtain ⟨t, rows⟩ := res
    rw [hdb] at hsel
    obtain ⟨rfl, rfl⟩ := select_rows' (L.tableOrFail_tasks) (TaskRow.held_id · · _) hsel
    split at h
    · rename_i r _ hrows
      obtain ⟨e, he, hid, rfl⟩ := Rows.mem_selected (hrows ▸ List.mem_cons_self)
      simp only [outcome_readRecord] at h
      split at h
      · rename_i task' hread
        simp only [Prod.mk.injEq, Except.ok.injEq] at h
        obtain ⟨rfl, rfl⟩ := h
        exact ⟨rfl, e, he, by simpa [TaskRow.hasId] using hid, hread⟩
      · simp at h
    · simp at h
  · simp at h

/-- A job is not found exactly when no job of the ledger has its identifier. -/
theorem Jobs.get_notFound (hdb : s.db = L.database) {id : Uuid} {e : Failure}
    (h : outcome (Jobs.get id) s = (.error e, s')) (hnf : e.has .notFound = true) :
    ∀ j ∈ L.jobs.records, j.id.toText ≠ id.toText := by
  simp only [Jobs.get, Jobs.getWhere, outcome_readDb_bind] at h
  split at h
  · rename_i res hsel
    obtain ⟨t, rows⟩ := res
    rw [hdb] at hsel
    obtain ⟨rfl, hrows⟩ := select_rows' (L.tableOrFail_jobs) (JobRow.held_id · · _) hsel
    split at h
    · -- a row was found: only its reading can fail, and that is no missing job
      rw [outcome_readRecord] at h
      split at h
      · cases h
      · simp only [Prod.mk.injEq, Except.error.injEq] at h
        rw [← h.1] at hnf
        simp [unavailable, Failure.has, Failure.hasAny] at hnf
    · rename_i hnil
      intro j hj hid
      obtain ⟨e', he', rfl⟩ := List.mem_map.mp hj
      have hsel' : e' ∈ (L.jobs.filter (JobRow.hasId id.toText)).entries := by
        simp only [Rows.filter]
        exact List.mem_filter.mpr ⟨he', by simpa [JobRow.hasId] using hid⟩
      simp only at hnil
      rw [hnil] at hrows
      simp [List.map_eq_nil_iff] at hrows
      simp [hrows] at hsel'
  · simp only [Prod.mk.injEq, Except.error.injEq] at h
    rw [← h.1] at hnf
    simp [unavailable, Failure.has, Failure.hasAny] at hnf

end Lookups

end CreditExtraction.Store
