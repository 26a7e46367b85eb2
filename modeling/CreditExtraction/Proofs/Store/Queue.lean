import Mathlib.Data.List.Nodup
import CreditExtraction.Proofs.Store.Operations

/-! # The task queue, as moves of the ledger

The operations on tasks are moves of the ledger like those on jobs, with one more thing to
follow: the leases they grant. A task stored with a positive lease is leased to its caller at
once, and a claim leases the task it changed, when it changed exactly one row.

A claim (`Tasks.claimNext`) is up to eight tries, each its own transaction. What one try does
is `ClaimTry`: nothing when no task is due, a lease on the first due task, or the retirement of
a task whose last lease ran out, after which the next try goes on. A retirement and a failed
delivery out of attempts give up on the task's job (`Tasks.abandonJob`). -/

namespace CreditExtraction.Store

open Sql

/-! ## Storing and finishing tasks -/

section Store

variable (L : Ledger)

/-- A task is stored for a job that exists, under an identifier no task has, and leased to the
caller when the lease is positive. -/
theorem Tasks.insert_leads (job : Uuid) {maxAttempts : Int} (lease : Time.Duration)
    (hfits : fitsInt maxAttempts = true) :
    L.Leads Moved (Tasks.insert job maxAttempts lease) (fun r => match r with
      | .ok t => if lease > 0 then [t.id.toText] else []
      | .error _ => []) := by
  intro s hdb
  rw [Tasks.insert, outcome_now_bind, outcome_freshId_bind]
  simp only [outcome_runDb_bind]
  split
  · rename_i db' u hins
    rw [outcome_note_bind, outcome_pure]
    obtain ⟨db'', hins, hpure⟩ := Except.bind_eq_ok.mp hins
    simp only [pure, Except.pure, Except.ok.injEq, Prod.mk.injEq] at hpure
    rw [← hpure.1]
    rw [hdb] at hins
    obtain ⟨hdb', hfresh, hjob⟩ := L.insert_tasks (TaskRow.newValues_new _ _ _ _ _ _ _ _) hins
    exact ⟨_, hdb', .move (.enqueue _ job maxAttempts lease s.now hfits hfresh hjob)⟩
  · exact ⟨L, hdb, .stay L⟩

theorem Tasks.enqueue_leads (job : Uuid) {maxAttempts : Int} (hfits : fitsInt maxAttempts = true) :
    L.Leads Moved (Tasks.enqueue job maxAttempts) (fun _ => []) := by
  intro s hdb
  obtain ⟨L', hdb', hm⟩ := Tasks.insert_leads L job 0 hfits s hdb
  refine ⟨L', hdb', ?_⟩
  rcases hr : (outcome (Tasks.insert job maxAttempts 0) s).1 with _ | _ <;>
    simpa [hr] using hm

/-- A task stored already leased is leased to its caller. -/
theorem Tasks.enqueueLeased_leads (job : Uuid) {maxAttempts : Int} (lease : Time.Duration)
    (hfits : fitsInt maxAttempts = true) :
    L.Leads Moved (Tasks.enqueueLeased job maxAttempts lease) (fun r => match r with
      | .ok t => [t.id.toText]
      | .error _ => []) := by
  intro s hdb
  rw [Tasks.enqueueLeased]
  simp only []
  by_cases hl : lease ≤ 0
  · rw [if_pos hl, outcome_bind, outcome_throw]
    exact ⟨L, hdb, .stay L⟩
  · rw [if_neg hl]
    obtain ⟨L', hdb', hm⟩ := Tasks.insert_leads L job lease hfits s hdb
    refine ⟨L', hdb', ?_⟩
    rcases hr : (outcome (Tasks.insert job maxAttempts lease) s).1 with _ | _ <;>
      simp only [hr] at hm ⊢
    · exact hm
    · simpa [not_le.mp hl] using hm

theorem Tasks.complete_leads (id : Uuid) : L.Leads Moved (Tasks.complete id) (fun _ => []) := by
  intro s hdb
  rw [Tasks.complete, outcome_nowText_bind]
  refine Ledger.leads_runDb (fun _ => dbKept_ite (dbKept_throw _) (dbKept_pure _))
    (fun db' n h => ?_) s hdb
  obtain ⟨rfl, -⟩ := L.update_tasks (TaskRow.held_id · · _)
    (fun n t _ => TaskRow.assigned_completed n t _) h
  exact ⟨_, rfl, .complete _ _⟩

end Store

/-! ## Giving up on a job -/

section Abandon

variable {L : Ledger} {s s' : MetaStore}

/-- Giving up on a task's job fails the job, if it is still going, with a line in its log. -/
theorem Tasks.abandonJob_ok (hdb : s.db = L.database) {task : Task} {reason : String}
    {at_ : Time.Instant} (h : outcome (Tasks.abandonJob task reason at_) s = (.ok (), s')) :
    s'.now = s.now ∧ ∃ L', s'.db = L'.database ∧ L.Abandons task.job.toText at_ L' := by
  rw [Tasks.abandonJob] at h
  obtain ⟨found, s₁, hget, h₁⟩ := outcome_bind_ok h
  rw [outcome_tryCatch, outcome_map] at hget
  have hsame := Jobs.get_same task.job s
  rcases hj : outcome (Jobs.get task.job) s with ⟨e | job, s₀⟩ <;>
    rw [hj] at hget hsame <;> simp only at hget hsame <;> subst hsame
  · -- the lookup failed: only a missing job is let through
    split at hget
    · rename_i hnf
      rw [outcome_pure, Prod.mk.injEq, Except.ok.injEq] at hget
      obtain ⟨rfl, rfl⟩ := hget
      rw [outcome_pure, Prod.mk.injEq] at h₁
      rw [← h₁.2]
      exact ⟨rfl, L, hdb, .inl ⟨rfl, .inl (Jobs.get_notFound hdb hj hnf)⟩⟩
    · rw [outcome_throw] at hget
      cases hget
  · simp only [Prod.mk.injEq, Except.ok.injEq] at hget
    obtain ⟨rfl, rfl⟩ := hget
    obtain ⟨-, j, hj', hid, hjid, hdoc, hstage⟩ := Jobs.get_ok hdb hj
    have hopen : j.open_ = !job.stage.terminal := by rw [hstage, JobRow.open_eq]
    simp only at h₁
    split at h₁
    · -- the job has ended: nothing to do
      rename_i hterm
      rw [outcome_pure, Prod.mk.injEq] at h₁
      rw [← h₁.2]
      exact ⟨rfl, L, hdb, .inl ⟨rfl, .inr ⟨j, hj', hid, by simp [hopen, hterm]⟩⟩⟩
    · obtain ⟨b, s₂, hfail, h₂⟩ := outcome_bind_ok h₁
      have hnote : s'.db = s₂.db ∧ s'.now = s₂.now := by
        split at h₂
        · rw [outcome_note, Prod.mk.injEq] at h₂
          rw [← h₂.2]
          exact ⟨rfl, rfl⟩
        · rw [outcome_pure, Prod.mk.injEq] at h₂
          rw [← h₂.2]
          exact ⟨rfl, rfl⟩
      obtain ⟨hnow, hcases⟩ := Jobs.failJob_ok hdb hfail
      refine ⟨hnote.2.trans hnow, ?_⟩
      rcases hcases with ⟨-, hdb₂, hnone⟩ | ⟨-, hdb₂⟩
      · -- the job ended meanwhile
        refine ⟨L, hnote.1.trans hdb₂, .inl ⟨rfl, .inr ⟨j, hj', hid, ?_⟩⟩⟩
        have := hnone j hj'
        simpa [JobRow.openWith, hjid] using this
      · rw [hjid, hid] at hdb₂
        refine ⟨_, hnote.1.trans hdb₂, .inr ⟨_, _, _, ⟨j, hj', hid, hdoc.symm⟩, ?_, rfl⟩⟩
        simp

end Abandon

/-! ## Failed deliveries -/

/-- A failed delivery reschedules the task after a wait, or, out of attempts, fails it and
gives up on its job. -/
theorem Tasks.fail_leads (L : Ledger) (id : Uuid) (reason : String) :
    L.Leads Moved (Tasks.fail id reason) (fun _ => []) := by
  rw [Tasks.fail]
  refine Ledger.leads_inTx (fun _ => rfl) ?_
  intro s a s' hdb h
  obtain ⟨task, s₁, hget, h₁⟩ := outcome_bind_ok h
  have hs₁ : s₁ = s := by simpa [hget] using Tasks.get_same id s
  subst hs₁
  obtain ⟨-, e, he, hid, hread⟩ := Tasks.get_ok hdb hget
  rw [outcome_now_bind] at h₁
  obtain ⟨s₂, hs₂, h₂⟩ := outcome_ite_bind_kept_ok (dbKept_note _ _ _) (dbKept_note _ _ _) h₁
  obtain ⟨n, s₃, hupd, h₃⟩ := outcome_bind_ok h₂
  obtain ⟨hupd, hs₃⟩ := outcome_runDb_ok hupd
  rw [hs₂, hdb] at hupd
  have hset := fun n r => TaskRow.assigned_failedWith n r reason
    (decide (task.attempts ≥ task.maxAttempts)) (s₁.now.add (Tasks.backoff task.attempts)) s₁.now
  simp only [decide_eq_true_eq] at hset
  obtain ⟨hL₁, -⟩ := L.update_tasks (TaskRow.held_id · · _) (fun n r _ => hset n r) hupd
  rw [hL₁] at hs₃
  by_cases hex : task.attempts ≥ task.maxAttempts
  · -- out of attempts: the task fails and its job is given up on
    rw [if_pos hex] at h₃
    obtain ⟨-, L', hdb', hab⟩ := Tasks.abandonJob_ok (by rw [hs₃]) h₃
    refine ⟨L', hdb', .move (.failTask _ reason task s₁.now e he hid hread ?_)⟩
    simpa [hex] using hab
  · rw [if_neg hex, outcome_pure, Prod.mk.injEq] at h₃
    rw [← h₃.2, hs₃]
    refine ⟨_, rfl, .move (.failTask _ reason task s₁.now e he hid hread ?_)⟩
    simp [hex]

/-! ## Claims -/

/-- The tasks a claim hands out: the one it answers with, if any. -/
def handed (o : Option Task) : List String := (o.map (·.id.toText)).toList

@[simp] theorem handed_none : handed none = [] := rfl

@[simp] theorem handed_some (t : Task) : handed (some t) = [t.id.toText] := rfl

/-- What one try at a claim does at a clock and with a lease, and what it answers: whether it
leased a task, and whether another try may find one. -/
inductive ClaimTry (at_ : Time.Instant) (lease : Time.Duration) :
    Ledger → Option Task × Bool → Ledger → Prop
  /-- No task is due. -/
  | idle {L : Ledger} : ClaimTry at_ lease L (none, false) L
  /-- The first due task, still as it was read, is leased with one more attempt. -/
  | claim {L : Ledger} (e : Nat × TaskRow) (he : e ∈ L.tasks.entries) (task : Task)
      (hdue : e.2.dueAt at_.stored = true)
      (hread : Task.read L.tasksTable ⟨e.1, e.2.cells⟩ = .ok task)
      (hlive : ¬(task.status = .running ∧ task.attempts ≥ task.maxAttempts))
      (hone : L.tasks.records.countP
        (TaskRow.isSame task.id.toText task.status.name task.attempts) = 1) :
      ClaimTry at_ lease L
        (some { task with status := .running, attempts := task.attempts + 1,
                          leaseUntil := some (at_.add lease) }, false)
        (L.withTasks (TaskRow.isSame task.id.toText task.status.name task.attempts)
          (·.claimed (at_.add lease) at_))
  /-- The first due task was not found as it was read: nothing is leased, and the next try goes
  on. -/
  | missed {L : Ledger} (e : Nat × TaskRow) (he : e ∈ L.tasks.entries) (task : Task)
      (hdue : e.2.dueAt at_.stored = true)
      (hread : Task.read L.tasksTable ⟨e.1, e.2.cells⟩ = .ok task)
      (hlive : ¬(task.status = .running ∧ task.attempts ≥ task.maxAttempts))
      (hone : L.tasks.records.countP
        (TaskRow.isSame task.id.toText task.status.name task.attempts) ≠ 1) :
      ClaimTry at_ lease L (none, true)
        (L.withTasks (TaskRow.isSame task.id.toText task.status.name task.attempts)
          (·.claimed (at_.add lease) at_))
  /-- The first due task ran out of attempts on its last lease: it is retired, its job given up
  on, and the next try goes on. -/
  | retire {L L' : Ledger} (e : Nat × TaskRow) (he : e ∈ L.tasks.entries) (task : Task)
      (hdue : e.2.dueAt at_.stored = true)
      (hread : Task.read L.tasksTable ⟨e.1, e.2.cells⟩ = .ok task)
      (hspent : task.status = .running ∧ task.attempts ≥ task.maxAttempts)
      (hab : if L.tasks.records.countP (TaskRow.isSame task.id.toText task.status.name
          task.attempts) = 1
        then Ledger.Abandons (L.withTasks (TaskRow.isSame task.id.toText task.status.name
          task.attempts) (·.retired at_)) task.job.toText at_ L'
        else L' = L.withTasks (TaskRow.isSame task.id.toText task.status.name task.attempts)
          (·.retired at_)) :
      ClaimTry at_ lease L (none, true) L'

/-- A try at a claim is a move of the ledger that grants the lease it answers with. -/
theorem ClaimTry.moved {at_ : Time.Instant} {lease : Time.Duration} {L L' : Ledger}
    {r : Option Task × Bool} (h : ClaimTry at_ lease L r L') : Moved L (handed r.1) L' := by
  cases h with
  | idle => exact .stay _
  | claim e he task hdue hread hlive hone =>
    have hm := Move.claim e he at_ (at_.add lease) task hdue hread hlive
    rw [if_pos hone] at hm
    exact .move hm
  | missed e he task hdue hread hlive hone =>
    have hm := Move.claim e he at_ (at_.add lease) task hdue hread hlive
    rw [if_neg hone] at hm
    exact .move hm
  | retire e he task hdue hread hspent hab => exact .move (.retire e he at_ task hdue hread hspent hab)

/-- A try that answers `again` leased nothing. -/
theorem ClaimTry.again_none {at_ : Time.Instant} {lease : Time.Duration} {L L' : Ledger}
    {o : Option Task} (h : ClaimTry at_ lease L (o, true) L') : o = none := by
  cases h <;> rfl

/-- One try at a claim, when it succeeds, does what `ClaimTry` says at the store's clock, and
leaves the clock alone. -/
theorem Tasks.claimOnce_ok {L : Ledger} {s s' : MetaStore} (hdb : s.db = L.database)
    {lease : Time.Duration} {r : Option Task × Bool}
    (h : outcome (Tasks.claimOnce lease) s = (.ok r, s')) :
    s'.now = s.now ∧ ∃ L', s'.db = L'.database ∧ ClaimTry s.now lease L r L' := by
  rw [Tasks.claimOnce, outcome_now_bind, outcome_inTx, hdb] at h
  simp only [Ledger.database_isOpen, Bool.not_true, Bool.false_eq_true, ↓reduceIte] at h
  -- the transaction succeeded, so its steps did
  split at h
  swap
  · cases h
  rename_i a s₀ hb
  simp only [Prod.mk.injEq, Except.ok.injEq] at h
  obtain ⟨rfl, rfl⟩ := h
  rw [outcome_readDb_bind, hdb] at hb
  split at hb
  swap
  · cases hb
  rename_i res hsel
  obtain ⟨tbl, rows⟩ := res
  obtain ⟨rfl, rfl⟩ := select_rows' L.tableOrFail_tasks (TaskRow.held_due · · _) hsel
  simp only at hb
  split at hb
  · -- no task is due
    rw [outcome_pure, Prod.mk.injEq, Except.ok.injEq] at hb
    obtain ⟨rfl, rfl⟩ := hb
    exact ⟨rfl, L, hdb, .idle⟩
  rename_i row tail hrows
  -- the first row in claim order is a due record of the ledger
  have hmem : row ∈ (L.tasks.filter (·.dueAt s.now.stored)).entries.map
      fun e => (⟨e.1, e.2.cells⟩ : Row) := by
    have := List.mem_cons_self (a := row) (l := tail)
    rw [← hrows] at this
    simpa [sortRows, List.mem_mergeSort] using this
  obtain ⟨e, he, hdue, rfl⟩ := Rows.mem_selected hmem
  obtain ⟨read, s₁, hread, hb₁⟩ := outcome_bind_ok hb
  rw [outcome_readRecord] at hread
  split at hread
  swap
  · cases hread
  rename_i task hread'
  simp only [Prod.mk.injEq, Except.ok.injEq] at hread
  obtain ⟨rfl, rfl⟩ := hread
  split at hb₁
  · -- the task ran out of attempts on its last lease: it is retired
    rename_i hspent
    have hspent' : task.status = .running ∧ task.attempts ≥ task.maxAttempts := by
      simpa using hspent
    obtain ⟨n, s₂, hupd, hb₂⟩ := outcome_bind_ok hb₁
    obtain ⟨hupd, hs₂⟩ := outcome_runDb_ok hupd
    rw [hdb] at hupd
    obtain ⟨hL₁, hcount⟩ := L.update_tasks (fun n t => TaskRow.held_same n t _ _ _)
      (fun n t _ => TaskRow.assigned_retired n t _) hupd
    by_cases hn : n = 1
    · subst hn
      simp only [bne_self_eq_false, Bool.false_eq_true, ↓reduceIte, outcome_note_bind] at hb₂
      obtain ⟨u, s₃, hab, hb₃⟩ := outcome_bind_ok hb₂
      rw [outcome_pure, Prod.mk.injEq, Except.ok.injEq] at hb₃
      obtain ⟨rfl, rfl⟩ := hb₃
      obtain ⟨hnow, L', hdb', hab⟩ := Tasks.abandonJob_ok (by rw [hs₂]; exact hL₁) hab
      refine ⟨by rw [hnow, hs₂], L', hdb', .retire e he task hdue hread' hspent' ?_⟩
      rw [if_pos hcount.symm]
      exact hab
    · rw [if_pos (by simpa using hn), outcome_pure, Prod.mk.injEq, Except.ok.injEq] at hb₂
      obtain ⟨rfl, rfl⟩ := hb₂
      refine ⟨by rw [hs₂], _, hL₁, .retire e he task hdue hread' hspent' ?_⟩
      rw [if_neg (hcount ▸ hn)]
  · -- the task is leased, if it is still as it was read
    rename_i hlive
    have hlive' : ¬(task.status = .running ∧ task.attempts ≥ task.maxAttempts) := by
      simpa using hlive
    obtain ⟨n, s₂, hupd, hb₂⟩ := outcome_bind_ok hb₁
    obtain ⟨hupd, hs₂⟩ := outcome_runDb_ok hupd
    rw [hdb] at hupd
    obtain ⟨hL₁, hcount⟩ := L.update_tasks (fun n t => TaskRow.held_same n t _ _ _)
      (fun n t _ => TaskRow.assigned_claimed n t _ _) hupd
    by_cases hn : n = 1
    · subst hn
      simp only [bne_self_eq_false, Bool.false_eq_true, ↓reduceIte] at hb₂
      -- a reclaimed lease is only logged
      split at hb₂ <;>
        simp only [outcome_note_bind, outcome_pure, Prod.mk.injEq, Except.ok.injEq] at hb₂ <;>
        obtain ⟨rfl, rfl⟩ := hb₂ <;>
        exact ⟨by rw [hs₂], _, hL₁, .claim e he task hdue hread' hlive' hcount.symm⟩
    · rw [if_pos (by simpa using hn), outcome_pure, Prod.mk.injEq, Except.ok.injEq] at hb₂
      obtain ⟨rfl, rfl⟩ := hb₂
      exact ⟨by rw [hs₂], _, hL₁, .missed e he task hdue hread' hlive' (hcount ▸ hn)⟩

section ClaimNext

variable (lease : Time.Duration)

/-- Tries at a claim one after another, with the leases they grant. -/
inductive ClaimTries (lease : Time.Duration) : Ledger → List String → Ledger → Prop
  | stop (L : Ledger) : ClaimTries lease L [] L
  | next {at_ : Time.Instant} {L L' L'' : Ledger} {r : Option Task × Bool} {ls : List String} :
      ClaimTry at_ lease L r L' → ClaimTries lease L' ls L'' →
        ClaimTries lease L (handed r.1 ++ ls) L''

theorem ClaimTries.moves {L L' : Ledger} {ls : List String} (h : ClaimTries lease L ls L') :
    Moves L ls L' := by
  induction h with
  | stop => exact .refl _
  | next htry _ ih => exact htry.moved.moves.trans ih

/-- A claim of up to `n` tries makes them one after another, and grants the lease it answers
with. -/
theorem Tasks.claimNext_go_leads (n : Nat) (L : Ledger) :
    L.Leads (ClaimTries lease) (Tasks.claimNext.go lease n) (fun r => match r with
      | .ok o => handed o
      | .error _ => []) := by
  induction n generalizing L with
  | zero => exact fun s hdb => ⟨L, hdb, .stop L⟩
  | succ n ih =>
    intro s hdb
    rw [Tasks.claimNext.go, outcome_bind]
    rcases h : outcome (Tasks.claimOnce lease) s with ⟨_ | ⟨o, again⟩, s₁⟩
    · -- a failed try leaves the ledger as it was
      refine ⟨L, ?_, .stop L⟩
      rw [Tasks.claimOnce, outcome_now_bind] at h
      exact (inTx_error_db h).trans hdb
    · obtain ⟨-, L₁, hdb₁, htry⟩ := Tasks.claimOnce_ok hdb h
      cases again
      · -- the try answered: its lease is the claim's
        exact ⟨L₁, hdb₁, by simpa using ClaimTries.next htry (.stop L₁)⟩
      · -- the try leased nothing, and the next one goes on from where it left off
        have hnone := htry.again_none
        subst hnone
        obtain ⟨L₂, hdb₂, htries⟩ := ih L₁ s₁ hdb₁
        exact ⟨L₂, hdb₂, by simpa using ClaimTries.next htry htries⟩

theorem Tasks.claimNext_leads (L : Ledger) :
    L.Leads (ClaimTries lease) (Tasks.claimNext lease) (fun r => match r with
      | .ok o => handed o
      | .error _ => []) :=
  Tasks.claimNext_go_leads lease 8 L

end ClaimNext

/-! ## What a claim hands out -/

section Handout

variable {lease : Time.Duration} {at_ : Time.Instant} {L L' : Ledger}

/-- Giving up on a job leaves the tasks alone. -/
theorem Ledger.Abandons.tasks_eq {x : String} (h : L.Abandons x at_ L') : L'.tasks = L.tasks := by
  rcases h with ⟨rfl, -⟩ | ⟨doc, message, entry, -, -, rfl⟩ <;> rfl

theorem TaskRow.dueAt_retired (t : TaskRow) (ts : String) : (t.retired at_).dueAt ts = false := by
  simp [TaskRow.dueAt, TaskRow.retired]

/-- Where task identifiers are unique, at most one task is still as a task was read. -/
theorem countP_isSame_le_one (hnodup : (L.tasks.records.map (·.id.toText)).Nodup)
    (x status : String) (attempts : Int) :
    L.tasks.records.countP (TaskRow.isSame x status attempts) ≤ 1 := by
  calc L.tasks.records.countP (TaskRow.isSame x status attempts)
      ≤ L.tasks.records.countP (fun t => t.id.toText == x) :=
        List.countP_mono_left fun t _ h => by simp_all [TaskRow.isSame]
    _ = (L.tasks.records.map (·.id.toText)).count x := by
        rw [List.count, List.countP_map]
        rfl
    _ ≤ 1 := List.nodup_iff_count_le_one.mp hnodup x

/-- A try at a claim keeps the identifiers of the tasks. -/
theorem ClaimTry.ids_eq {r : Option Task × Bool} (h : ClaimTry at_ lease L r L') :
    L'.tasks.records.map (·.id.toText) = L.tasks.records.map (·.id.toText) := by
  have hupd : ∀ (p : TaskRow → Bool) (f : TaskRow → TaskRow), (∀ t, (f t).id = t.id) →
      (L.tasks.update p f).records.map (·.id.toText) = L.tasks.records.map (·.id.toText) := by
    intro p f hf
    simp only [Rows.records_update, List.map_map]
    refine List.map_congr_left fun t _ => ?_
    by_cases hp : p t <;> simp [hp, hf]
  cases h with
  | idle => rfl
  | claim => exact hupd _ _ fun _ => rfl
  | missed => exact hupd _ _ fun _ => rfl
  | retire e he task hdue hread hspent hab =>
    split at hab
    · rw [hab.tasks_eq]
      exact hupd _ _ fun _ => rfl
    · rw [hab]
      exact hupd _ _ fun _ => rfl

/-- A try at a claim that goes on, with task identifiers unique, only retired a task: every due
task after it was there, as it was, before it. -/
theorem ClaimTry.due_of_again (h : ClaimTry at_ lease L (none, true) L')
    (hnodup : (L.tasks.records.map (·.id.toText)).Nodup) {e : Nat × TaskRow}
    (he : e ∈ L'.tasks.entries) (hdue : e.2.dueAt at_.stored = true) : e ∈ L.tasks.entries := by
  cases h with
  | missed e₁ he₁ task hdue₁ hread hlive hone =>
    -- the task read was still there, so only a second row of its identifier could miss it
    have hzero : L.tasks.records.countP
        (TaskRow.isSame task.id.toText task.status.name task.attempts) = 0 := by
      have := countP_isSame_le_one hnodup task.id.toText task.status.name task.attempts
      omega
    have hnone : ∀ t ∈ L.tasks.records,
        TaskRow.isSame task.id.toText task.status.name task.attempts t = false := by
      intro t ht
      exact Bool.eq_false_iff.mpr fun hp =>
        absurd hzero (List.countP_pos_iff.mpr ⟨t, ht, hp⟩).ne'
    simpa [Ledger.withTasks, Rows.update_of_none _ hnone] using he
  | retire e₁ he₁ task hdue₁ hread hspent hab =>
    have htasks : L'.tasks = L.tasks.update
        (TaskRow.isSame task.id.toText task.status.name task.attempts) (·.retired at_) := by
      split at hab
      · exact hab.tasks_eq
      · rw [hab]
        rfl
    rw [htasks] at he
    obtain ⟨e₀, he₀, rfl⟩ := Rows.mem_entries_update he
    by_cases hp : TaskRow.isSame task.id.toText task.status.name task.attempts e₀.2
    · simp [hp, TaskRow.dueAt_retired] at hdue
    · simpa [hp] using he₀

/-- The task a claim hands out was, in the ledger the claim started from, a due task whose
lease, if any, reads as a time. -/
theorem Tasks.claimNext_go_due (n : Nat) {s s' : MetaStore} (hdb : s.db = L.database)
    (hnodup : (L.tasks.records.map (·.id.toText)).Nodup) {t : Task}
    (h : outcome (Tasks.claimNext.go lease n) s = (.ok (some t), s')) :
    ∃ e ∈ L.tasks.entries, e.2.id.toText = t.id.toText ∧ e.2.dueAt s.now.stored = true ∧
      ∀ u, e.2.leaseUntil = some u → ∃ v, parseTime u.stored = .ok v := by
  induction n generalizing L s with
  | zero =>
    rw [Tasks.claimNext.go, outcome_pure] at h
    cases h
  | succ n ih =>
    rw [Tasks.claimNext.go] at h
    obtain ⟨⟨o, again⟩, s₁, h₁, h₂⟩ := outcome_bind_ok h
    obtain ⟨hnow, L₁, hdb₁, htry⟩ := Tasks.claimOnce_ok hdb h₁
    cases again
    · -- the try answered with the task: it leased the first due one
      simp only [Bool.false_eq_true, ↓reduceIte, outcome_pure, Prod.mk.injEq,
        Except.ok.injEq] at h₂
      obtain ⟨rfl, -⟩ := h₂
      cases htry with
      | claim e he task hdue hread hlive hone =>
        obtain ⟨hid, -, -, -, -, -, hlease⟩ := TaskRow.read_ok rfl hread
        exact ⟨e, he, hid.symm, hdue, fun u hu => (hlease u hu).imp fun v hv => hv.1⟩
    · -- the try went on: the task was found by a later one, among the same rows
      simp only [↓reduceIte] at h₂
      have hnone := htry.again_none
      subst hnone
      obtain ⟨e, he, hid, hdue, hlease⟩ :=
        ih hdb₁ (by rw [htry.ids_eq]; exact hnodup) h₂
      rw [hnow] at hdue
      exact ⟨e, htry.due_of_again hnodup he hdue, hid, hdue, hlease⟩

theorem Tasks.claimNext_due {s s' : MetaStore} (hdb : s.db = L.database)
    (hnodup : (L.tasks.records.map (·.id.toText)).Nodup) {t : Task}
    (h : outcome (Tasks.claimNext lease) s = (.ok (some t), s')) :
    ∃ e ∈ L.tasks.entries, e.2.id.toText = t.id.toText ∧ e.2.dueAt s.now.stored = true ∧
      ∀ u, e.2.leaseUntil = some u → ∃ v, parseTime u.stored = .ok v :=
  Tasks.claimNext_go_due 8 hdb hnodup h

end Handout

end CreditExtraction.Store
