import Mathlib.Data.List.Nodup
import CreditExtraction.Proofs.Sql.Updates
import CreditExtraction.Proofs.Store.StageMachine

/-! # The bookkeeping of a job goes through

Counting an attempt (`Jobs.incrementAttempts`) and appending a line to the worker log
(`Jobs.appendLog`) rewrite one job, found by its identifier, and write no column that a key or
a reference reads. On a ledger whose jobs have distinct identifiers they go through: the update
rewrites the job's row alone and keeps the primary key distinct (`Ledger.update_jobs_isOk`), so
the failures the operations could report never happen, and what they do to the ledger is what
`update_jobs` says (`Jobs.incrementAttempts_ok`, `Jobs.appendLog_ok`). -/

namespace CreditExtraction.Sql

/-- Adding one to a value that is not null gives an integer, or a real when the integer sum
leaves 64 bits. -/
theorem arith_add_one (a : Value) (ha : a.isNull = false) :
    (∃ n, arith .add a (.int 1) = .int n) ∨ ∃ x, arith .add a (.int 1) = .real x := by
  have hb : (Value.int 1).isNull = false := rfl
  have hone : (Value.int 1).toNumber = .int 1 := rfl
  cases hn : a.toNumber with
  | int m =>
    by_cases hfit : fitsInt (m + 1) = true
    · exact .inl ⟨m + 1, by simp [arith, ha, hn, hb, hone, intArith, hfit]⟩
    · exact .inr ⟨Float.ofInt m + Float.ofInt 1,
        by simp [arith, ha, hn, hb, hone, intArith, hfit]⟩
  | null | real _ | text _ =>
    exact .inr ⟨asFloat a.toNumber + asFloat (.int 1), by simp only [arith, ha, hb, hn, hone,
      Bool.or_false, Bool.false_eq_true, ↓reduceIte, realArith]⟩

/-- Counting up never leaves a count null. -/
theorem Value.countedUp_isNull (v : Value) : v.countedUp.isNull = false := by
  have hcount : (if v.isNull then Value.int 0 else v).isNull = false := by
    cases h : v.isNull
    · simp [h]
    · rfl
  -- stored as an integer, an integer stays one and a real becomes one or stays a real
  rcases arith_add_one _ hcount with ⟨n, hn⟩ | ⟨x, hx⟩
  · rw [Value.countedUp, hn]
    rfl
  · rw [Value.countedUp, hx, Value.withAffinity]
    split <;> rfl

end CreditExtraction.Sql

namespace CreditExtraction.Store

open Sql

/-! ## Keys kept distinct -/

/-- A table whose unique indexes are all over its first column `id` takes the values `vs`
without a clash when every other row holds another text there. -/
theorem Table.keysFree_of_ids {t : Table} {self : Option Nat} {vs : List Value} {x : String}
    (hix : ∀ ix ∈ t.indexes, ix.unique = true →
      ix.expressions = none ∧ ix.columns = ["id"])
    (hcol : t.columnIndex? "id" = some 0) (hvs : vs.head? = some (.text x))
    (hrows : ∀ r ∈ t.rows, some r.number ≠ self → ∃ y, r.values.head? = some (.text y) ∧ y ≠ x) :
    t.KeysFree self vs := by
  intro ix hixm huniq _ _ r hr hself ⟨_, hsame⟩
  obtain ⟨hexpr, hcols⟩ := hix ix hixm huniq
  obtain ⟨y, hy, hne⟩ := hrows r hr hself
  -- the key of a row is the text in its first column
  have hkey : ∀ (ws : List Value) (z : String), ws.head? = some (.text z) →
      Database.indexKey t ws ix = [.text z] := by
    intro ws z hz
    cases ws with
    | nil => simp at hz
    | cons w ws =>
      simp only [List.head?_cons, Option.some.injEq] at hz
      simp [Database.indexKey, hexpr, hcols, hcol, hz]
  rw [hkey _ _ hy, hkey _ _ hvs] at hsame
  simp [Value.same, Value.order, hne] at hsame

/-! ## Rewrites of records -/

namespace Rows

variable {α : Type} {rs : Rows α} {p : α → Bool}

/-- A rewrite is what it does to the records it rewrites. -/
theorem update_congr {f g : α → α} (h : ∀ a ∈ rs.records, p a = true → f a = g a) :
    rs.update p f = rs.update p g := by
  obtain ⟨entries, next, hnd, hlt⟩ := rs
  simp only [update, mk.injEq, and_true]
  refine List.map_congr_left fun e he => ?_
  by_cases hp : p e.2
  · simp [hp, h e.2 (List.mem_map_of_mem he) hp]
  · simp [hp]

/-- Two rewrites of the records a condition holds of, the first keeping it, are one. -/
theorem update_update {f g : α → α} (h : ∀ a, p a = true → p (f a) = true) :
    (rs.update p f).update p g = rs.update p (g ∘ f) := by
  obtain ⟨entries, next, hnd, hlt⟩ := rs
  simp only [update, mk.injEq, and_true, List.map_map]
  refine List.map_congr_left fun e _ => ?_
  by_cases hp : p e.2 <;> simp [hp, h]

end Rows

/-! ## The jobs table -/

namespace JobRow

theorem holds_id (n : Nat) (j : JobRow) (x : String) :
    holds ⟨some (jobsTable.frame ⟨n, j.cells⟩), none, none⟩ (Expr.colEq "id" (.text x)) =
      .ok (j.hasId x) := by
  rw [holds_of_eval (eval_colEq_text (cell_id n j))]
  simp [hasId]

@[simp] theorem cells_head (j : JobRow) : j.cells.head? = some (.text j.id.toText) := rfl

/-- The cells of a job fill the columns that may not be null, when its count of attempts is
not null. -/
theorem fillsNotNull {j : JobRow} (h : j.attempts.isNull = false) :
    FillsNotNull jobsTable.columns j.cells := by
  intro p hp hnn
  simp only [jobsTable, emptyTable, cells, idCol, refCol, textCol, numCol, textColD,
    List.zip_cons_cons, List.zip_nil_right, List.mem_cons, List.not_mem_nil, or_false] at hp
  rcases hp with rfl | rfl | rfl | rfl | rfl | rfl | rfl | rfl | rfl | rfl | rfl | rfl | rfl | rfl <;>
    first
    | exact h
    | simp [Value.isNull, Value.ofBool] at hnn ⊢

theorem fillsNotNull_counted (j : JobRow) (at_ : Time.Instant) :
    FillsNotNull jobsTable.columns (j.counted at_).cells :=
  fillsNotNull (Value.countedUp_isNull j.attempts)

end JobRow

theorem jobsTable_isRowNumber : ∀ c ∈ jobsTable.columns, jobsTable.isRowNumber c = false := by
  decide +kernel

namespace Ledger

variable (L : Ledger)

theorem jobsTable_links :
    L.jobsTable.links = [(refCol "document_id" "documents", ⟨"documents", some "id"⟩)] := by
  simp [jobsTable, Rows.table, Table.links, Store.jobsTable, emptyTable, idCol, refCol, textCol,
    numCol, textColD]

theorem childLinks_jobs :
    L.database.childLinks L.jobsTable =
      [("extracted_fields", refCol "job_id" "extraction_jobs", ⟨"extraction_jobs", some "id"⟩),
       ("tasks", refCol "job_id" "extraction_jobs", ⟨"extraction_jobs", some "id"⟩)] := by
  simp [Database.childLinks, database, versionsTable, documentsTable, jobsTable, fieldsTable,
    tasksTable, Rows.table, Table.links, Store.versionsTable, Store.documentsTable,
    Store.jobsTable, Store.fieldsTable, Store.tasksTable, emptyTable, idCol, refCol, textCol,
    numCol, textColD, sameName_eq]

variable {L}

/-- Jobs at different row numbers have different identifiers. -/
theorem id_ne_of_number_ne (hids : (L.jobs.records.map (·.id.toText)).Nodup)
    {e e' : Nat × JobRow} (he : e ∈ L.jobs.entries) (he' : e' ∈ L.jobs.entries)
    (hne : e'.1 ≠ e.1) : e'.2.id.toText ≠ e.2.id.toText := by
  intro heq
  have hnd : (L.jobs.entries.map fun e => e.2.id.toText).Nodup := by
    simpa [Rows.records, Function.comp_def] using hids
  exact hne (congrArg Prod.fst (List.inj_on_of_nodup_map hnd he' he heq))

/-- A job of the ledger is the only one of its identifier. -/
theorem eq_of_hasId (hids : (L.jobs.records.map (·.id.toText)).Nodup) {j a : JobRow}
    (hj : j ∈ L.jobs.records) (ha : a ∈ L.jobs.records) (hx : a.hasId j.id.toText = true) :
    a = j :=
  List.inj_on_of_nodup_map hids ha hj (by simpa [JobRow.hasId] using hx)

/-- A rewrite of the job of an identifier is what it does to the job itself. -/
theorem update_job_congr (hids : (L.jobs.records.map (·.id.toText)).Nodup) {j : JobRow}
    (hj : j ∈ L.jobs.records) {x : String} (hx : j.id.toText = x) {f g : JobRow → JobRow}
    (h : f j = g j) : L.jobs.update (JobRow.hasId x) f = L.jobs.update (JobRow.hasId x) g := by
  subst hx
  exact Rows.update_congr fun a ha hx => by rw [eq_of_hasId hids hj ha hx]; exact h

/-- An update of the job with identifier `x` that writes columns no key or reference reads, and
leaves the job's row filled, goes through. -/
theorem update_jobs_isOk {sets : List (String × Expr)} {f : JobRow → JobRow} {x : String}
    (hids : (L.jobs.records.map (·.id.toText)).Nodup)
    (hsets : ∀ p ∈ sets,
      Store.jobsTable.resolve p.2.columns = .ok () ∧ (Store.jobsTable.column? p.1).isSome = true)
    (hnames : ∀ p ∈ sets, sameName p.1 "id" = false ∧ sameName p.1 "document_id" = false)
    (hset : ∀ n j, j.hasId x = true →
      Database.assigned Store.jobsTable ⟨n, j.cells⟩ sets = .ok (f j).cells)
    (hfill : ∀ j ∈ L.jobs.records, j.hasId x = true → FillsNotNull Store.jobsTable.columns (f j).cells)
    (hid : ∀ j, (f j).id = j.id) :
    ∃ res, L.database.update "extraction_jobs" sets (Expr.colEq "id" (.text x)) = .ok res := by
  have hheld : ∀ (n : Nat) (j : JobRow),
      Store.jobsTable.held (Expr.colEq "id" (.text x)) ⟨n, j.cells⟩ = j.hasId x :=
    fun n j => JobRow.held_id n j x
  -- each row of the table is a job's, and rewritten it keeps the job's identifier first
  have hrow : ∀ r ∈ L.jobsTable.rows, ∃ e ∈ L.jobs.entries, r = ⟨e.1, e.2.cells⟩ := by
    intro r hr
    obtain ⟨e, he, rfl⟩ := List.mem_map.mp hr
    exact ⟨e, he, rfl⟩
  have hrewritten : ∀ r ∈ L.jobsTable.rows, ∃ e ∈ L.jobs.entries,
      (L.jobsTable.rewritten sets (Expr.colEq "id" (.text x)) r).number = e.1 ∧
      (L.jobsTable.rewritten sets (Expr.colEq "id" (.text x)) r).values.head? =
        some (.text e.2.id.toText) := by
    intro r hr
    obtain ⟨e, he, rfl⟩ := hrow r hr
    refine ⟨e, he, ?_⟩
    rw [jobsTable, Rows.table_rewritten hheld hset e]
    by_cases hp : e.2.hasId x <;> simp [hp, hid]
  refine Database.update_isOk L.database_isOpen L.database_triggers L.tableToChange_jobs hsets
    ?cond ?links ?keys rfl rfl jobsTable_isRowNumber (Rows.table_numbers_nodup _ _ _) ?rows
  case cond =>
    show Store.jobsTable.resolve ["id"] = .ok ()
    simp [Table.resolve, Table.column?, Store.jobsTable, emptyTable, idCol, sameName_eq]
  case links =>
    rw [show (L.jobs.table Store.jobsTable JobRow.cells).links = _ from L.jobsTable_links]
    simp only [refCol, List.filter_cons, List.filter_nil, List.any_map]
    simp
    exact fun c e h => (hnames (c, e) h).2
  case keys =>
    rw [show L.database.childLinks (L.jobs.table Store.jobsTable JobRow.cells) = _ from
      L.childLinks_jobs]
    simp [Database.keyNames]
    exact fun c e h => (hnames (c, e) h).1
  case rows =>
    intro pre r rest hsplit
    have hr : r ∈ L.jobsTable.rows := hsplit ▸ List.mem_append_right _ List.mem_cons_self
    obtain ⟨e, he, rfl⟩ := hrow r hr
    refine ⟨e.2.hasId x, JobRow.holds_id e.1 e.2 x, fun hx =>
      ⟨(f e.2).cells, hset e.1 e.2 hx, hfill e.2 (List.mem_map_of_mem he) hx, ?_⟩⟩
    have hxid : e.2.id.toText = x := by simpa [JobRow.hasId] using hx
    refine Table.keysFree_of_ids (x := x) ?ix ?col (by simp [hid, hxid]) ?others
    case ix =>
      intro ix hix hu
      simp only [Rows.table, Store.jobsTable, emptyTable, List.mem_cons, List.not_mem_nil,
        or_false] at hix
      rcases hix with rfl | rfl
      · simp [Index.ofColumns] at hu
      · simp [primaryIndex, Index.ofColumns]
    case col =>
      simp [Table.columnIndex?, Rows.table, Store.jobsTable, emptyTable, idCol, sameName_eq,
        List.findIdx?_cons]
    case others =>
      intro r' hr' hne
      -- a row before the job's is rewritten, one after it is as it was
      have hjob : ∃ e' ∈ L.jobs.entries, r'.number = e'.1 ∧
          r'.values.head? = some (.text e'.2.id.toText) := by
        rcases List.mem_append.mp hr' with hpre | hrest
        · obtain ⟨r₀, hr₀, rfl⟩ := List.mem_map.mp hpre
          exact hrewritten r₀ (hsplit ▸ List.mem_append_left _ hr₀)
        · rcases List.mem_cons.mp hrest with rfl | hrest
          · exact absurd rfl hne
          · obtain ⟨e', he', rfl⟩ :=
              hrow r' (hsplit ▸ List.mem_append_right _ (List.mem_cons_of_mem _ hrest))
            exact ⟨e', he', rfl, by simp⟩
      obtain ⟨e', he', hnum, hhead⟩ := hjob
      refine ⟨_, hhead, ?_⟩
      rw [← hxid]
      exact id_ne_of_number_ne hids he he' fun h => hne (by simp [hnum, h])

/-- Counting an attempt on the job of an identifier sets its count one higher. -/
theorem counted_job_eq (hids : (L.jobs.records.map (·.id.toText)).Nodup) {j : JobRow}
    (hj : j ∈ L.jobs.records) {x : String} (hx : j.id.toText = x) {a : Int}
    (hatt : j.attempts = .int a) (hfit : fitsInt (a + 1) = true) (at_ : Time.Instant) :
    L.jobs.update (JobRow.hasId x) (·.counted at_) =
      L.jobs.update (JobRow.hasId x) fun _ => { j with attempts := .int (a + 1), updatedAt := at_ } := by
  exact update_job_congr hids hj hx (by simp [JobRow.counted, hatt, Value.countedUp_int hfit])

/-- A rewrite of the job of an identifier that keeps the identifier leaves identifiers distinct,
and the job rewritten in the ledger. -/
theorem rewrite_job (hids : (L.jobs.records.map (·.id.toText)).Nodup) {j : JobRow}
    (hj : j ∈ L.jobs.records) {x : String} (hx : j.id.toText = x) {g : JobRow → JobRow}
    (hg : ∀ i, i.id.toText = x → (g i).id.toText = x) :
    ((L.jobs.update (JobRow.hasId x) g).records.map (·.id.toText)).Nodup ∧
      g j ∈ (L.jobs.update (JobRow.hasId x) g).records := by
  have hsame : (L.jobs.update (JobRow.hasId x) g).records.map (·.id.toText) =
      L.jobs.records.map (·.id.toText) :=
    Rows.map_update _ _ _ _ fun i hi => by
      have hix : i.id.toText = x := by simpa [JobRow.hasId] using hi
      rw [hg i hix, hix]
  refine ⟨hsame ▸ hids, ?_⟩
  simpa [JobRow.hasId, hx] using Rows.mem_update_of_mem g (p := JobRow.hasId x) hj

/-- Two rewrites of the job of an identifier, the first keeping identifiers, are one. -/
theorem update_job_update {x : String} {g h : JobRow → JobRow} (hg : ∀ i, (g i).id = i.id) :
    (L.jobs.update (JobRow.hasId x) g).update (JobRow.hasId x) h =
      L.jobs.update (JobRow.hasId x) (h ∘ g) :=
  Rows.update_update fun i hi => by simpa [JobRow.hasId, hg] using hi

end Ledger

/-! ## Counting attempts and logging -/

section Operations

variable {L : Ledger} {s : MetaStore}

theorem sets_counted_resolve (at_ : Time.Instant) :
    ∀ p ∈ [("attempts", Expr.bin .add (.call "COALESCE" [.col .current "attempts", .lit (.int 0)])
          (.lit (.int 1))), ("updated_at", Expr.lit (.text at_.stored))],
      (jobsTable.resolve p.2.columns = .ok () ∧ (jobsTable.column? p.1).isSome = true) ∧
      (sameName p.1 "id" = false ∧ sameName p.1 "document_id" = false) := by
  simp [Expr.columns, Expr.listColumns, Table.resolve, Table.column?, jobsTable, emptyTable,
    idCol, refCol, textCol, numCol, textColD, sameName_eq, pure, Except.pure, Except.ok_bind]

theorem sets_logged_resolve (entry : String) (at_ : Time.Instant) :
    ∀ p ∈ [("worker_log", Jobs.appendLogExpr entry), ("updated_at", Expr.lit (.text at_.stored))],
      (jobsTable.resolve p.2.columns = .ok () ∧ (jobsTable.column? p.1).isSome = true) ∧
      (sameName p.1 "id" = false ∧ sameName p.1 "document_id" = false) := by
  simp [Jobs.appendLogExpr, Expr.columns, Expr.listColumns, Table.resolve, Table.column?,
    jobsTable, emptyTable, idCol, refCol, textCol, numCol, textColD, sameName_eq, pure,
    Except.pure, Except.ok_bind]

/-- Counting an attempt goes through on a ledger whose jobs have distinct identifiers: the job
of the identifier has one more attempt, stamped with the store's clock. -/
theorem Jobs.incrementAttempts_ok (hdb : s.db = L.database)
    (hids : (L.jobs.records.map (·.id.toText)).Nodup) (id : Uuid) :
    outcome (Jobs.incrementAttempts id) s =
      (.ok (), { s with db := { L with
        jobs := L.jobs.update (JobRow.hasId id.toText) (·.counted s.now) }.database }) := by
  obtain ⟨⟨db', n⟩, hupd⟩ := L.update_jobs_isOk hids
    (fun p hp => (sets_counted_resolve s.now p hp).1) (fun p hp => (sets_counted_resolve s.now p hp).2)
    (fun n j _ => JobRow.assigned_counted n j s.now)
    (fun j _ _ => JobRow.fillsNotNull_counted j s.now) (fun _ => rfl)
  obtain ⟨rfl, -⟩ := L.update_jobs (JobRow.held_id · · _)
    (fun n j _ => JobRow.assigned_counted n j _) hupd
  rw [Jobs.incrementAttempts, outcome_nowText_bind, outcome_runDb_bind, hdb, hupd]
  rfl

/-- Appending a line to the log of a job of the ledger goes through on a ledger whose jobs have
distinct identifiers, when the job's count of attempts is not null: the line ends the job's log,
which is stamped with the store's clock. -/
theorem Jobs.appendLog_ok (hdb : s.db = L.database)
    (hids : (L.jobs.records.map (·.id.toText)).Nodup) {j : JobRow} (hj : j ∈ L.jobs.records)
    (hatt : j.attempts.isNull = false) (entry : String) :
    outcome (Jobs.appendLog j.id entry) s =
      (.ok (), { s with db := { L with
        jobs := L.jobs.update (JobRow.hasId j.id.toText) (·.logged (entry ++ "\n") s.now) }.database }) := by
  obtain ⟨⟨db', n⟩, hupd⟩ := L.update_jobs_isOk hids
    (fun p hp => (sets_logged_resolve entry s.now p hp).1)
    (fun p hp => (sets_logged_resolve entry s.now p hp).2)
    (fun n j _ => JobRow.assigned_logged n j entry s.now)
    (fun j' hj' hx => by rw [Ledger.eq_of_hasId hids hj hj' hx]; exact JobRow.fillsNotNull hatt)
    (fun _ => rfl)
  obtain ⟨rfl, rfl⟩ := L.update_jobs (JobRow.held_id · · _)
    (fun n j _ => JobRow.assigned_logged n j _ _) hupd
  have hpos : L.jobs.records.countP (JobRow.hasId j.id.toText) ≠ 0 :=
    Nat.pos_iff_ne_zero.mp (List.countP_pos_iff.mpr ⟨j, hj, by simp [JobRow.hasId]⟩)
  rw [Jobs.appendLog, outcome_nowText_bind, outcome_runDb_bind, hdb, hupd]
  simp [hpos]

end Operations

end CreditExtraction.Store
