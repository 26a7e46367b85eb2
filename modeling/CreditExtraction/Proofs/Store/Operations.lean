import CreditExtraction.Proofs.Store.Tables
import CreditExtraction.Proofs.Store.Reading

/-! # The operations on documents and jobs, as moves of the ledger

Run from a state that holds a ledger, each operation of the store leaves a state that holds a
ledger the first one moves to by at most one move (`Ledger.Leads`): nothing changes when it
fails, and when it succeeds its transaction is one of the `Move`s. An operation made of one statement follows
from what the statement does to its table (`Ledger.leads_runDb`); one made of a transaction
is read along its successful run only, since a failed transaction puts the database back
(`Ledger.leads_inTx`).

The operations are taken under the rules the store is called by: a new document is not ready
or ready and held by no job, a job is moved to the stage after its own from a working stage
before `PERSISTING`, and a failed job hands its document back ready or in error. -/

namespace CreditExtraction.Store

open Sql

/-! ## Operations that lead from one ledger to another -/

/-- From any state that holds the ledger `L`, the operation leaves a state that holds a ledger
`L'` with `R L ls L'`, where `ls` are the leases that `leases` reads off its result: for an
operation of one transaction, `R` is `Moved`. -/
def Ledger.Leads {α : Type} (R : Ledger → List String → Ledger → Prop) (L : Ledger)
    (x : StoreM α) (leases : Except Failure α → List String) : Prop :=
  ∀ s : MetaStore, s.db = L.database →
    ∃ L', (outcome x s).2.db = L'.database ∧ R L (leases (outcome x s).1) L'

/-- The steps of a transaction, when they all succeed, leave a state that holds a ledger `L`
moves to, or `L` itself. -/
def Ledger.LeadsOk {α : Type} (L : Ledger) (x : StoreM α) (leases : α → List String) : Prop :=
  ∀ s a s', s.db = L.database → outcome x s = (.ok a, s') →
    ∃ L', s'.db = L'.database ∧ Moved L (leases a) L'

namespace Ledger

variable {α β : Type} {L : Ledger}

/-- An operation of one statement, followed by steps that only read, moves the ledger as its
statement does. -/
theorem leads_runDb {op : String} {f : Database → Except SqlError (Database × α)}
    {k : α → StoreM β} (hk : ∀ a, DbKept (k a))
    (hf : ∀ db' a, f L.database = .ok (db', a) → ∃ L', db' = L'.database ∧ Move L [] L') :
    L.Leads Moved (runDb op f >>= k) (fun _ => []) := by
  intro s hdb
  rcases runDb_db hk s with h | ⟨db', a, hres, h⟩
  · exact ⟨L, h.trans hdb, .stay L⟩
  · rw [hdb] at hres
    obtain ⟨L', rfl, hm⟩ := hf db' a hres
    exact ⟨L', h, .move hm⟩

/-- A transaction moves the ledger as its steps do when they succeed, and not at all when one
fails. -/
theorem leads_inTx {x : StoreM α} {leases : Except Failure α → List String}
    (herr : ∀ e, leases (.error e) = []) (h : L.LeadsOk x fun a => leases (.ok a)) :
    L.Leads Moved (inTx x) leases := by
  intro s hdb
  rw [outcome_inTx]
  by_cases hopen : s.db.isOpen
  · simp only [hopen, Bool.not_true, Bool.false_eq_true, ↓reduceIte]
    rcases hx : outcome x s with ⟨_ | a, s'⟩
    · exact ⟨L, hdb, by rw [herr]; exact .stay L⟩
    · exact h s a s' hdb hx
  · simp only [hopen, Bool.not_false, ↓reduceIte]
    exact ⟨L, hdb, by rw [herr]; exact .stay L⟩

theorem Leads.bind_kept {x : StoreM α} {k : α → StoreM β} (h : L.Leads Moved x (fun _ => []))
    (hk : ∀ a, DbKept (k a)) : L.Leads Moved (x >>= k) (fun _ => []) := by
  intro s hdb
  obtain ⟨L', hx, hm⟩ := h s hdb
  refine ⟨L', ?_, hm⟩
  rw [outcome_bind]
  rcases hr : outcome x s with ⟨_ | a, s₁⟩ <;> rw [hr] at hx
  · exact hx
  · exact (hk a s₁).trans hx

theorem Leads.tryCatch_kept {x : StoreM α} {handler : Failure → StoreM α}
    (h : L.Leads Moved x (fun _ => [])) (hh : ∀ e, DbKept (handler e)) :
    L.Leads Moved (tryCatch x handler) (fun _ => []) := by
  intro s hdb
  obtain ⟨L', hx, hm⟩ := h s hdb
  refine ⟨L', ?_, hm⟩
  rw [outcome_tryCatch]
  rcases hr : outcome x s with ⟨_ | a, s₁⟩ <;> rw [hr] at hx
  · exact (hh _ s₁).trans hx
  · exact hx

end Ledger

/-! ## Documents -/

section Documents

variable (L : Ledger)

/-- A document enters the ledger not ready or ready, held by no job, under an identifier no
document has. -/
theorem Documents.create_leads {d : Document}
    (hstatus : d.status = .notReady ∨ d.status = .ready) (hactive : d.activeJob = none) :
    L.Leads Moved (Documents.create d) (fun _ => []) := by
  intro s hdb
  rw [Documents.create]
  simp only []
  split <;> [rw [outcome_freshId_bind]; rw [pure_bind]] <;>
  · rw [outcome_now_bind]
    simp only [outcome_get_bind]
    split
    · rename_i db hins
      rw [outcome_set_bind, outcome_note_bind, outcome_pure]
      obtain ⟨rfl, hfresh⟩ := L.insert_documents (DocumentRow.newValues_ofDocument _ _) (hdb ▸ hins)
      refine ⟨_, rfl, .move (.addDocument _ hfresh ?_ hactive)⟩
      rcases hstatus with h | h <;> simp [DocumentRow.ofDocument, h, DocumentStatus.name]
    · rw [outcome_note_bind, outcome_throw]
      exact ⟨L, hdb, .stay L⟩

theorem Documents.markReady_leads (id : Uuid) (locator : String) :
    L.Leads Moved (Documents.markReady id locator) (fun _ => []) := by
  intro s hdb
  rw [Documents.markReady, outcome_nowText_bind]
  refine Ledger.leads_runDb (fun _ => ?_) (fun db' n h => ?_) s hdb
  · simp only []
    exact dbKept_ite ((Documents.get_kept id).bind fun _ =>
      dbKept_ite ((dbKept_throw _).bind fun _ => dbKept_note _ _ _) (dbKept_note _ _ _))
      (dbKept_note _ _ _)
  · obtain ⟨rfl, -⟩ := L.update_documents (DocumentRow.held_notReady · · _)
      (fun n d _ => DocumentRow.assigned_readied n d _ _) h
    exact ⟨_, rfl, .markReady _ _ _⟩

end Documents

/-! ## Jobs -/

section Jobs

variable (L : Ledger)

/-- A job is created together with the claim on its document, which no job held, under an
identifier no job has. -/
theorem Jobs.create_leads (document : Uuid) : L.Leads Moved (Jobs.create document) (fun _ => []) := by
  intro s hdb
  rw [Jobs.create, outcome_now_bind, outcome_freshId_bind]
  simp only []
  refine Ledger.Leads.bind_kept (Ledger.Leads.tryCatch_kept (Ledger.leads_inTx (fun _ => rfl) ?_)
    fun _ => (dbKept_note _ _ _).bind fun _ => dbKept_throw _)
    (fun _ => (dbKept_note _ _ _).bind fun _ => dbKept_pure _) _ hdb
  intro s₁ a s' hdb₁ h
  obtain ⟨prev, s₂, hget, h⟩ := outcome_bind_ok h
  obtain ⟨n, s₃, hclaim, h⟩ := outcome_bind_ok h
  obtain ⟨hupd, hs₃⟩ := outcome_runDb_ok hclaim
  rw [(Documents.get_kept document).db_eq hget, hdb₁] at hupd
  obtain ⟨hdocs, hcount⟩ := L.update_documents (DocumentRow.held_claimable · · _)
    (fun n d _ => DocumentRow.assigned_claimed n d _ _) hupd
  -- no row claimed: the transaction gives up
  by_cases hn : n = 0
  · subst hn
    simp only [beq_self_eq_true, ↓reduceIte] at h
    exact (outcome_throw_bind_ok h).elim
  rw [if_neg (by simpa using hn)] at h
  obtain ⟨s₄, hs₄, h⟩ := outcome_ite_kept_ok (dbKept_note _ _ _) h
  obtain ⟨hins, -⟩ := outcome_runDb_ok h
  rw [hs₄, hs₃, hdocs] at hins
  obtain ⟨db', hins, hpure⟩ := Except.bind_eq_ok.mp hins
  simp only [pure, Except.pure, Except.ok.injEq, Prod.mk.injEq, and_true] at hpure
  subst hpure
  obtain ⟨hdb', hfresh⟩ := Ledger.insert_jobs _ (JobRow.newValues_created _ _ _ _) hins
  refine ⟨_, hdb', .move (.createJob document _ s.now ?_ hfresh)⟩
  have hpos : 0 < L.documents.records.countP (DocumentRow.claimable document.toText) := by
    rw [← hcount]
    omega
  exact List.countP_pos_iff.mp hpos

theorem Jobs.advance_leads (id : Uuid) {source target : Stage} (hnext : source.next = some target)
    (hsrc : source ≠ .persisting) : L.Leads Moved (Jobs.advance id source target) (fun _ => []) := by
  intro s hdb
  rw [Jobs.advance, outcome_nowText_bind]
  simp only []
  refine Ledger.leads_runDb (fun _ => ?_) (fun db' n h => ?_) s hdb
  · exact dbKept_ite ((dbKept_throw _).bind fun _ => dbKept_note _ _ _) (dbKept_note _ _ _)
  · obtain ⟨rfl, -⟩ := L.update_jobs (JobRow.held_at · · _ _)
      (fun n j _ => JobRow.assigned_advanced n j _ _ _) h
    exact ⟨_, rfl, .advance _ _ _ _ hnext hsrc⟩

theorem Jobs.incrementAttempts_leads (id : Uuid) :
    L.Leads Moved (Jobs.incrementAttempts id) (fun _ => []) := by
  intro s hdb
  rw [Jobs.incrementAttempts, outcome_nowText_bind]
  refine Ledger.leads_runDb (fun _ => dbKept_pure _) (fun db' n h => ?_) s hdb
  obtain ⟨rfl, -⟩ := L.update_jobs (JobRow.held_id · · _)
    (fun n j _ => JobRow.assigned_counted n j _) h
  exact ⟨_, rfl, .count _ _⟩

theorem Jobs.appendLog_leads (id : Uuid) (entry : String) :
    L.Leads Moved (Jobs.appendLog id entry) (fun _ => []) := by
  intro s hdb
  rw [Jobs.appendLog, outcome_nowText_bind]
  refine Ledger.leads_runDb (fun _ => dbKept_ite (dbKept_throw _) (dbKept_pure _))
    (fun db' n h => ?_) s hdb
  obtain ⟨rfl, -⟩ := L.update_jobs (JobRow.held_id · · _)
    (fun n j _ => JobRow.assigned_logged n j _ _) h
  exact ⟨_, rfl, .log _ _ _⟩

theorem Jobs.requestCancel_leads (id : Uuid) :
    L.Leads Moved (Jobs.requestCancel id) (fun _ => []) := by
  intro s hdb
  rw [Jobs.requestCancel, outcome_nowText_bind]
  refine Ledger.leads_runDb (fun _ => ?_) (fun db' n h => ?_) s hdb
  · simp only []
    exact (Jobs.get_kept id).bind fun _ =>
      dbKept_ite ((dbKept_note _ _ _).bind fun _ => dbKept_pure _) (dbKept_pure _)
  · obtain ⟨rfl, -⟩ := L.update_jobs (JobRow.held_open · · _)
      (fun n j _ => JobRow.assigned_cancelled n j _) h
    exact ⟨_, rfl, .cancel _ _⟩

variable {L} {s s' : MetaStore}

/-- Handing a document back clears it of its job, if the job still holds it. -/
theorem Jobs.releaseDocument_ok (hdb : s.db = L.database) {document job : Uuid}
    {status : DocumentStatus} {at_ : Time.Instant}
    (h : outcome (Jobs.releaseDocument document job status at_.stored) s = (.ok (), s')) :
    s'.now = s.now ∧ s'.db = { L with
      documents := L.documents.update (DocumentRow.heldBy document.toText job.toText)
        (·.released status at_) }.database := by
  rw [Jobs.releaseDocument] at h
  obtain ⟨n, s₁, hupd, h⟩ := outcome_bind_ok h
  obtain ⟨hupd, hs₁⟩ := outcome_runDb_ok hupd
  rw [outcome_pure, Prod.mk.injEq] at h
  rw [← h.2, hs₁]
  rw [hdb] at hupd
  exact ⟨rfl, (L.update_documents (DocumentRow.held_heldBy · · _ _)
    (fun n d _ => DocumentRow.assigned_released n d _ _) hupd).1⟩

/-- Failing a job ends it in `ERROR` and hands its document back; when no job of its identifier
is still going, nothing changes and the answer is `false`. -/
theorem Jobs.failJob_ok (hdb : s.db = L.database) {job : Job} {code message entry : String}
    {status : DocumentStatus} {at_ : Time.Instant} {b : Bool}
    (h : outcome (Jobs.failJob job code message entry status at_.stored) s = (.ok b, s')) :
    s'.now = s.now ∧
      ((b = false ∧ s'.db = L.database ∧ ∀ j ∈ L.jobs.records, j.openWith job.id.toText = false) ∨
        (b = true ∧ s'.db =
          (L.failed job.id.toText job.document.toText code message entry status at_).database)) := by
  rw [Jobs.failJob] at h
  obtain ⟨n, s₁, hupd, h⟩ := outcome_bind_ok h
  obtain ⟨hupd, hs₁⟩ := outcome_runDb_ok hupd
  rw [hdb] at hupd
  obtain ⟨hjobs, hcount⟩ := L.update_jobs (JobRow.held_open · · _)
    (fun n j _ => JobRow.assigned_failed n j _ _ _ _) hupd
  by_cases hn : n = 0
  · -- no job of that identifier was still going: the update changed nothing
    subst hn
    simp only [beq_self_eq_true, ↓reduceIte, outcome_pure, Prod.mk.injEq, Except.ok.injEq] at h
    obtain ⟨rfl, rfl⟩ := h
    have hnone : ∀ j ∈ L.jobs.records, j.openWith job.id.toText = false := by
      intro j hj
      exact Bool.eq_false_iff.mpr fun hp =>
        absurd hcount.symm (List.countP_pos_iff.mpr ⟨j, hj, hp⟩).ne'
    refine ⟨by rw [hs₁], .inl ⟨rfl, ?_, hnone⟩⟩
    rw [hjobs, Rows.update_of_none _ hnone]
  · rw [if_neg (by simpa using hn)] at h
    obtain ⟨u, s₂, hrel, h⟩ := outcome_bind_ok h
    rw [outcome_pure, Prod.mk.injEq, Except.ok.injEq] at h
    obtain ⟨rfl, rfl⟩ := h
    rw [hjobs] at hs₁
    obtain ⟨hnow, hdb₂⟩ := Jobs.releaseDocument_ok (by rw [hs₁]) hrel
    refine ⟨by rw [hnow, hs₁], .inr ⟨rfl, ?_⟩⟩
    rw [hdb₂]
    rfl

/-- A job fails with a code and a message, and its document is handed back. -/
theorem Jobs.fail_leads (L : Ledger) (id : Uuid) (code message : String) {status : DocumentStatus}
    (hstatus : status = .ready ∨ status = .error) :
    L.Leads Moved (Jobs.fail id code message status) (fun _ => []) := by
  intro s hdb
  rw [Jobs.fail, outcome_nowText_bind]
  refine Ledger.Leads.bind_kept (Ledger.Leads.tryCatch_kept (Ledger.leads_inTx (fun _ => rfl) ?_)
    fun _ => (dbKept_note _ _ _).bind fun _ => dbKept_throw _)
    (fun _ => dbKept_note _ _ _) s hdb
  intro s₁ a s' hdb₁ h
  obtain ⟨job, s₂, hget, h₂⟩ := outcome_bind_ok h
  obtain ⟨hs₂, j, hj, hid, hjid, hdoc, -⟩ := Jobs.get_ok hdb₁ hget
  obtain ⟨ok, s₃, hfail, h₃⟩ := outcome_bind_ok h₂
  rcases (Jobs.failJob_ok (hs₂ ▸ hdb₁) hfail).2 with ⟨rfl, -⟩ | ⟨rfl, hdb₃⟩
  · simp only [Bool.not_false, ↓reduceIte, outcome_throw] at h₃
    cases h₃
  · simp only [Bool.not_true, Bool.false_eq_true, ↓reduceIte, outcome_pure, Prod.mk.injEq] at h₃
    rw [← h₃.2]
    exact ⟨_, hdb₃, .move (.fail _ _ _ _ _ _ ⟨j, hj, hjid.symm, hdoc.symm⟩ hstatus)⟩

end Jobs

/-! ## Finishing a job -/

section Finish

variable {L : Ledger} {s s' : MetaStore}

/-- Drawing a fresh identifier for each field of a list gives the rows of those fields at their
positions, and leaves the database alone. -/
theorem Fields.rows_ok {job document : Uuid} {ps : List (ExtractedField × Nat)}
    {out : List (List (String × Value))}
    (h : outcome (ps.mapM fun x => match x with
      | (f, i) => do
        let id ← freshId
        pure (Fields.cells id job document i f)) s = (.ok out, s')) :
    s'.db = s.db ∧ ∃ rows : List FieldRow,
      out = rows.map (fun r => Fields.cells r.id r.job r.document r.position r.field) ∧
      rows.map (fun r => (r.field, r.position)) = ps ∧ ∀ r ∈ rows, r.job = job ∧ r.document = document := by
  induction ps generalizing s out with
  | nil =>
    simp only [List.mapM_nil, outcome_pure, Prod.mk.injEq, Except.ok.injEq] at h
    obtain ⟨rfl, rfl⟩ := h
    exact ⟨rfl, [], rfl, rfl, by simp⟩
  | cons p ps ih =>
    obtain ⟨f, i⟩ := p
    rw [List.mapM_cons] at h
    obtain ⟨c, s₁, hc, h₁⟩ := outcome_bind_ok h
    rw [outcome_freshId_bind, outcome_pure, Prod.mk.injEq, Except.ok.injEq] at hc
    obtain ⟨rfl, rfl⟩ := hc
    obtain ⟨cs, s₂, hcs, h₂⟩ := outcome_bind_ok h₁
    rw [outcome_pure, Prod.mk.injEq, Except.ok.injEq] at h₂
    obtain ⟨rfl, rfl⟩ := h₂
    obtain ⟨hdb₂, rows, rfl, hpos, hof⟩ := ih hcs
    refine ⟨hdb₂, ⟨Uuid.ofSeed s.nextSeed, job, document, i, f⟩ :: rows, rfl, by simp [hpos], ?_⟩
    simpa using hof

/-- Replacing the fields of a job removes its rows and appends one row per field, at the
field's position. -/
theorem Fields.replace_ok (hdb : s.db = L.database) {job document : Uuid}
    {fields : List ExtractedField} (h : outcome (Fields.replace job document fields) s = (.ok (), s')) :
    ∃ rows : List FieldRow, s'.db = { L with
        fields := (L.fields.filter fun r => !(r.job.toText == job.toText)).pushAll rows }.database ∧
      rows.map (fun r => (r.field, r.position)) = fields.zipIdx ∧
      ∀ r ∈ rows, r.job = job ∧ r.document = document := by
  rw [Fields.replace] at h
  obtain ⟨k, s₁, hdel, h₁⟩ := outcome_bind_ok h
  obtain ⟨hdel, hs₁⟩ := outcome_runDb_ok hdel
  rw [hdb] at hdel
  have hL₁ := L.delete_fields hdel
  split at h₁
  · -- no field: the rows are gone and none is added
    rename_i hempty
    rw [outcome_pure, Prod.mk.injEq] at h₁
    refine ⟨[], by rw [← h₁.2, hL₁]; rfl, ?_, by simp⟩
    simp [List.isEmpty_iff.mp hempty]
  · obtain ⟨out, s₂, hrows, h₂⟩ := outcome_bind_ok h₁
    obtain ⟨hdb₂, rows, rfl, hpos, hof⟩ := Fields.rows_ok hrows
    obtain ⟨hins, -⟩ := outcome_runDb_ok h₂
    rw [hdb₂, hL₁] at hins
    obtain ⟨db', hins, hpure⟩ := Except.bind_eq_ok.mp hins
    simp only [pure, Except.pure, Except.ok.injEq, Prod.mk.injEq, and_true] at hpure
    rw [← hpure]
    exact ⟨rows, Ledger.insertAll_fields _ rows hins, hpos, hof⟩

/-- A job at `PERSISTING` finishes with its result and the rows of its fields, and hands its
document back as done. -/
theorem Jobs.finish_leads (L : Ledger) (id : Uuid) (result : PipelineResult) :
    L.Leads Moved (Jobs.finish id result) (fun _ => []) := by
  intro s hdb
  rw [Jobs.finish]
  simp only [outcome_nowText_bind]
  refine Ledger.Leads.bind_kept (Ledger.Leads.tryCatch_kept (Ledger.leads_inTx (fun _ => rfl) ?_)
    fun _ => (dbKept_note _ _ _).bind fun _ => dbKept_throw _)
    (fun _ => dbKept_note _ _ _) s hdb
  intro s₁ a s' hdb₁ h
  obtain ⟨job, s₂, hget, h₂⟩ := outcome_bind_ok h
  obtain ⟨hs₂, j, hj, hid, -, hdoc, -⟩ := Jobs.get_ok hdb₁ hget
  obtain ⟨n, s₃, hupd, h₃⟩ := outcome_bind_ok h₂
  obtain ⟨hupd, hs₃⟩ := outcome_runDb_ok hupd
  rw [hs₂, hdb₁] at hupd
  obtain ⟨hjobs, hcount⟩ := L.update_jobs (JobRow.held_at · · _ _)
    (fun n j _ => JobRow.assigned_finished n j _ _) hupd
  -- a job not at PERSISTING, or asked to stop, does not finish
  by_cases hn : n = 0
  · subst hn
    simp only [beq_self_eq_true, ↓reduceIte] at h₃
    exact (outcome_throw_bind_ok h₃).elim
  rw [if_neg (by simpa using hn)] at h₃
  have hat : 0 < L.jobs.records.countP (JobRow.atStage id.toText "PERSISTING") := by
    omega
  obtain ⟨u, s₄, hrep, h₄⟩ := outcome_bind_ok h₃
  obtain ⟨rows, hdb₄, hrows, hof⟩ := Fields.replace_ok hjobs hrep
  refine ⟨_, (Jobs.releaseDocument_ok hdb₄ h₄).2, .move ?_⟩
  exact .finish id job.document result rows s.now ⟨j, hj, hid, hdoc.symm⟩
    (List.countP_pos_iff.mp hat) hrows hof

end Finish

end CreditExtraction.Store
