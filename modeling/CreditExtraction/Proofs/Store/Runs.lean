import CreditExtraction.Proofs.Store.Queue

/-! # Runs of the store

The store is driven by calls of its operations on documents, jobs and tasks, each one
transaction or, for a claim, a few (`Call`). Its callers keep to a few rules (`Call.Allowed`):
a document enters not ready or ready and held by no job, a job is moved on only to the stage
after its own from a working stage before `PERSISTING`, a failed job hands its document back
ready or in error, and a task allows a number of attempts that is a 64-bit integer.

A run (`Run`) starts from a fresh store and makes allowed calls one after another, each at any
clock; it records the tasks its calls leased, in order. Every call leads from the ledger of
its state by at most one move, or, for a claim, by one try after another (`Call.leads`), so that
a run is a chain of moves from the empty ledger (`Run.moves`). -/

namespace CreditExtraction.Store

open Sql

/-! ## Calls -/

/-- A call of one of the store's operations, with its arguments. -/
inductive Call where
  | createDocument (d : Document)
  | markReady (id : Uuid) (locator : String)
  | createJob (document : Uuid)
  | advance (id : Uuid) (source target : Stage)
  | incrementAttempts (id : Uuid)
  | appendLog (id : Uuid) (entry : String)
  | requestCancel (id : Uuid)
  | failJob (id : Uuid) (code message : String) (status : DocumentStatus)
  | finish (id : Uuid) (result : PipelineResult)
  | enqueue (job : Uuid) (maxAttempts : Int)
  | enqueueLeased (job : Uuid) (maxAttempts : Int) (lease : Time.Duration)
  | claimNext (lease : Time.Duration)
  | complete (id : Uuid)
  | failTask (id : Uuid) (reason : String)

namespace Call

/-- The rules the store is called by. -/
def Allowed : Call → Prop
  | .createDocument d => (d.status = .notReady ∨ d.status = .ready) ∧ d.activeJob = none
  | .advance _ source target => source.next = some target ∧ source ≠ .persisting
  | .failJob _ _ _ status => status = .ready ∨ status = .error
  | .enqueue _ maxAttempts => fitsInt maxAttempts = true
  | .enqueueLeased _ maxAttempts _ => fitsInt maxAttempts = true
  | _ => True

/-- Runs a call; it answers with the tasks it leased to its caller. -/
def run : Call → StoreM (List String)
  | .createDocument d => do let _ ← Documents.create d; pure []
  | .markReady id locator => do Documents.markReady id locator; pure []
  | .createJob document => do let _ ← Jobs.create document; pure []
  | .advance id source target => do Jobs.advance id source target; pure []
  | .incrementAttempts id => do Jobs.incrementAttempts id; pure []
  | .appendLog id entry => do Jobs.appendLog id entry; pure []
  | .requestCancel id => do let _ ← Jobs.requestCancel id; pure []
  | .failJob id code message status => do Jobs.fail id code message status; pure []
  | .finish id result => do Jobs.finish id result; pure []
  | .enqueue job maxAttempts => do let _ ← Tasks.enqueue job maxAttempts; pure []
  | .enqueueLeased job maxAttempts lease => do
    let t ← Tasks.enqueueLeased job maxAttempts lease
    pure [t.id.toText]
  | .claimNext lease => do
    let t ← Tasks.claimNext lease
    pure (handed t)
  | .complete id => do Tasks.complete id; pure []
  | .failTask id reason => do Tasks.fail id reason; pure []

end Call

/-- The tasks a call leased, read off its answer. -/
def granted : Except Failure (List String) → List String
  | .ok ls => ls
  | .error _ => []

/-! ## Calls as moves -/

/-- An operation followed by its answer leases what the operation did. -/
theorem Ledger.Leads.then_pure {α : Type} {R : Ledger → List String → Ledger → Prop} {L : Ledger}
    {x : StoreM α} {f : Except Failure α → List String} (h : L.Leads R x f)
    (g : α → List String) (hg : ∀ a, g a = f (.ok a)) (herr : ∀ e, f (.error e) = []) :
    L.Leads R (x >>= fun a => pure (g a)) granted := by
  intro s hdb
  obtain ⟨L', hdb', hm⟩ := h s hdb
  rw [outcome_bind]
  rcases hx : outcome x s with ⟨e | a, s'⟩ <;> rw [hx] at hdb' hm
  · exact ⟨L', hdb', by rw [herr] at hm; exact hm⟩
  · exact ⟨L', hdb', by rw [← hg] at hm; exact hm⟩

/-- What a call does to the ledger: a claim makes tries one after another, and every other call
is one transaction. -/
def Call.Effect : Call → Ledger → List String → Ledger → Prop
  | .claimNext lease => ClaimTries lease
  | _ => Moved

theorem Call.Effect.moves {c : Call} {L L' : Ledger} {ls : List String} (h : c.Effect L ls L') :
    Moves L ls L' := by
  cases c with
  | claimNext lease => exact ClaimTries.moves lease h
  | _ => exact Moved.moves h

/-- An allowed call leads from the ledger of its state as its effect says, with the leases it
answers with. -/
theorem Call.leads (L : Ledger) : ∀ c : Call, c.Allowed → L.Leads c.Effect c.run granted
  | .createDocument _, ⟨hstatus, hactive⟩ =>
    (Documents.create_leads L hstatus hactive).then_pure _ (fun _ => rfl) (fun _ => rfl)
  | .markReady _ _, _ =>
    (Documents.markReady_leads L _ _).then_pure _ (fun _ => rfl) (fun _ => rfl)
  | .createJob _, _ => (Jobs.create_leads L _).then_pure _ (fun _ => rfl) (fun _ => rfl)
  | .advance _ _ _, ⟨hnext, hsrc⟩ =>
    (Jobs.advance_leads L _ hnext hsrc).then_pure _ (fun _ => rfl) (fun _ => rfl)
  | .incrementAttempts _, _ =>
    (Jobs.incrementAttempts_leads L _).then_pure _ (fun _ => rfl) (fun _ => rfl)
  | .appendLog _ _, _ => (Jobs.appendLog_leads L _ _).then_pure _ (fun _ => rfl) (fun _ => rfl)
  | .requestCancel _, _ =>
    (Jobs.requestCancel_leads L _).then_pure _ (fun _ => rfl) (fun _ => rfl)
  | .failJob _ _ _ _, hstatus =>
    (Jobs.fail_leads L _ _ _ hstatus).then_pure _ (fun _ => rfl) (fun _ => rfl)
  | .finish _ _, _ => (Jobs.finish_leads L _ _).then_pure _ (fun _ => rfl) (fun _ => rfl)
  | .enqueue _ _, hfits =>
    (Tasks.enqueue_leads L _ hfits).then_pure _ (fun _ => rfl) (fun _ => rfl)
  | .enqueueLeased _ _ _, hfits =>
    (Tasks.enqueueLeased_leads L _ _ hfits).then_pure _ (fun _ => rfl) (fun _ => rfl)
  | .claimNext _, _ => (Tasks.claimNext_leads _ L).then_pure _ (fun _ => rfl) (fun _ => rfl)
  | .complete _, _ => (Tasks.complete_leads L _).then_pure _ (fun _ => rfl) (fun _ => rfl)
  | .failTask _ _, _ => (Tasks.fail_leads L _ _).then_pure _ (fun _ => rfl) (fun _ => rfl)

/-! ## A fresh store -/

/-- The ledger with no document, job, field or task, beside migration records. -/
def Ledger.fresh (rows : List Row) (next : Nat) : Ledger :=
  ⟨rows, next, .empty, .empty, .empty, .empty⟩

/-- Recording a migration changes only the migration records. -/
theorem Ledger.insert_versions (L : Ledger) {assigns : List (String × Value)} {db' : Database}
    (h : L.database.insert "schema_version" assigns = .ok db') :
    ∃ rows next, db' = { L with versionRows := rows, versionNext := next }.database := by
  have ht : L.database.tableToChange "schema_version" = .ok L.versionsTable := by
    rw [L.tableToChange_eq (schemaTableName_none (by simp)), L.tableOrFail_versions]
  obtain ⟨rfl, -⟩ := Database.insert_eq_setTable L.database_triggers ht L.tableOrFail_versions h
  exact ⟨_, _, L.setTable_versions _ _⟩

/-- A fresh store holds a ledger with no document, job, field or task. -/
theorem migrated_fresh (at_ : Time.Instant) :
    ∃ rows next, migrated at_ = (Ledger.fresh rows next).database := by
  -- the migration records are inserted, or not, one after another into a store that holds a
  -- fresh ledger
  have hfold : ∀ f : Database → Nat → Database, (∀ db v rows next,
      db = (Ledger.fresh rows next).database →
        ∃ rows' next', f db v = (Ledger.fresh rows' next').database) →
      ∀ (vs : List Nat) rows next,
        ∃ rows' next', vs.foldl f (Ledger.fresh rows next).database = (Ledger.fresh rows' next').database := by
    intro f hf vs
    induction vs with
    | nil => exact fun rows next => ⟨rows, next, rfl⟩
    | cons v vs ih =>
      intro rows next
      obtain ⟨rows', next', h⟩ := hf _ v rows next rfl
      rw [List.foldl_cons, h]
      exact ih rows' next'
  have hstart : (⟨[versionsTable, documentsTable, jobsTable, fieldsTable, tasksTable], [], [], true⟩ :
      Database) = (Ledger.fresh [] 1).database := by
    simp [Ledger.fresh, Ledger.database, Ledger.versionsTable, Ledger.documentsTable,
      Ledger.jobsTable, Ledger.fieldsTable, Ledger.tasksTable, Rows.table, Rows.empty,
      versionsTable, documentsTable, jobsTable, fieldsTable, tasksTable, emptyTable]
  unfold migrated
  simp only []
  rw [hstart]
  refine hfold _ (fun db v rows next hdb => ?_) _ _ _
  subst hdb
  split
  · exact Ledger.insert_versions _ (by assumption)
  · exact ⟨rows, next, rfl⟩

/-! ## Runs -/

/-- The runs of the store from a fresh one, with the tasks they leased: each step makes an
allowed call at any clock. -/
inductive Run : List String → MetaStore → Prop
  | start (at_ : Time.Instant) (seed : Nat) : Run [] ⟨migrated at_, at_, seed, []⟩
  | step {ls : List String} {s : MetaStore} (c : Call) (at_ : Time.Instant) :
      Run ls s → c.Allowed →
      Run (ls ++ granted (outcome c.run { s with now := at_ }).1)
        (outcome c.run { s with now := at_ }).2

/-- A run is a chain of moves from a fresh ledger, leasing the tasks it recorded. -/
theorem Run.moves {ls : List String} {s : MetaStore} (h : Run ls s) :
    ∃ rows next L, s.db = L.database ∧ Moves (Ledger.fresh rows next) ls L := by
  induction h with
  | start at_ seed =>
    obtain ⟨rows, next, h⟩ := migrated_fresh at_
    exact ⟨rows, next, _, h, .refl _⟩
  | @step ls s c at_ _ hc ih =>
    obtain ⟨rows, next, L, hdb, hm⟩ := ih
    obtain ⟨L', hdb', hm'⟩ := Call.leads L c hc { s with now := at_ } hdb
    exact ⟨rows, next, L', hdb', hm.trans hm'.moves⟩

/-! ## Runs of a list of calls -/

/-- Makes calls one after another, each at its clock, after the tasks leased so far and from a
store: the tasks leased and the store after them. -/
def runCalls : List String × MetaStore → List (Call × Time.Instant) → List String × MetaStore
  | r, [] => r
  | (ls, s), (c, at_) :: cs =>
    runCalls (ls ++ granted (outcome c.run { s with now := at_ }).1,
      (outcome c.run { s with now := at_ }).2) cs

/-- Allowed calls made one after another continue a run. -/
theorem Run.calls {ls : List String} {s : MetaStore} (h : Run ls s) (cs : List (Call × Time.Instant))
    (hc : ∀ c ∈ cs, c.1.Allowed) : Run (runCalls (ls, s) cs).1 (runCalls (ls, s) cs).2 := by
  induction cs generalizing ls s with
  | nil => exact h
  | cons c cs ih =>
    exact ih (h.step c.1 c.2 (hc c List.mem_cons_self)) fun c' h' => hc c' (List.mem_cons_of_mem _ h')

/-- A ready document of type `credit_request`, whose identifier and times the store chooses. -/
def readyDocument : Document :=
  { (default : Document) with documentType := "credit_request", status := .ready }

/-- A run from a fresh store, a second apart: a ready document is taken in, a job is opened on
it, the job is queued, and a worker leases its task. The store names the document, the job and
the task by the seeds `0`, `1` and `2`. -/
def submitCalls : List (Call × Time.Instant) :=
  [(.createDocument readyDocument, ⟨1000000000⟩), (.createJob (Uuid.ofSeed 0), ⟨2000000000⟩),
   (.enqueue (Uuid.ofSeed 1) 5, ⟨3000000000⟩), (.claimNext (Time.seconds 60), ⟨4000000000⟩)]

/-- The tasks leased and the store after `submitCalls`. -/
def submitted : List String × MetaStore := runCalls ([], ⟨migrated ⟨0⟩, ⟨0⟩, 0, []⟩) submitCalls

theorem submitted_run : Run submitted.1 submitted.2 :=
  (Run.start ⟨0⟩ 0).calls submitCalls (by simp [submitCalls, Call.Allowed, readyDocument]; decide)

end CreditExtraction.Store
