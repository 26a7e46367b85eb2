import CreditExtraction.Proofs.Store.Runs

/-! # Sound task queues and bounded delivery

A task row keeps the queue's rules (`TaskRow.Sound`): it allows at least one attempt, and a
number of them that is a 64-bit integer; it has made between none and that many attempts; it is
pending only with attempts left and no lease, and running only on a lease after at least one
attempt. A ledger keeps them (`Ledger.QueueSound`) when all its tasks do, task and job
identifiers are distinct, every task belongs to a job of the ledger and a failed one to a job
that has ended, and the leases granted so far are counted, task by task, by the attempts.

Every move keeps these rules (`Move.queueSound`, from one lemma per kind of move), so every run
of the store does (`Moves.queueSound`). With what a claim hands out (`Tasks.claimNext_due`):
in every reachable state a task has been handed out at most `max_attempts` times, and a claim
hands out only a task that is pending, or running on a lease that ended before the claim
(`task_queue_bounded_delivery`). -/

namespace CreditExtraction.Store

open Sql

/-! ## The rules of one task -/

/-- A stored value is a 64-bit integer exactly when it lies in the 64-bit range. -/
theorem fitsInt_iff (n : Int) :
    fitsInt n = true ↔ -9223372036854775808 ≤ n ∧ n ≤ 9223372036854775807 := by
  have h : Int.pow 2 63 = 9223372036854775808 := by decide
  rw [fitsInt, Bool.and_eq_true, decide_eq_true_iff, decide_eq_true_iff, minInt, maxInt, h]
  omega

namespace TaskRow

/-- The attempts a task has made, as the whole number the row stores. -/
def tries (t : TaskRow) : Int :=
  match t.attempts with
  | .int n => n
  | _ => 0

/-- A task that keeps the queue's rules. -/
structure Sound (t : TaskRow) : Prop where
  max_pos : 1 ≤ t.maxAttempts
  max_fits : fitsInt t.maxAttempts = true
  attempts_eq : t.attempts = .int t.tries
  tries_nonneg : 0 ≤ t.tries
  tries_le : t.tries ≤ t.maxAttempts
  pending : t.status = "pending" → t.tries < t.maxAttempts ∧ t.leaseUntil = none
  running : t.status = "running" → t.leaseUntil.isSome ∧ 1 ≤ t.tries

@[simp] theorem tries_int (t : TaskRow) {n : Int} (h : t.attempts = .int n) : t.tries = n := by
  simp [tries, h]

/-- A task still as it was read has the identifier it was read with. -/
theorem id_of_isSame {t : TaskRow} {x status : String} {a : Int} (h : t.isSame x status a = true) :
    t.id.toText = x := by
  simp only [isSame, Bool.and_eq_true, beq_iff_eq] at h
  exact h.1.1

/-- A lease counts one more attempt, when one is left. -/
theorem attempts_claimed {t : TaskRow} (hs : t.Sound) (hleft : t.tries < t.maxAttempts)
    (leaseEnd at_ : Time.Instant) : (t.claimed leaseEnd at_).attempts = .int (t.tries + 1) := by
  -- one more attempt than the allowance is still a 64-bit integer
  have hfits : fitsInt (t.tries + 1) = true := by
    have := hs.max_fits
    rw [fitsInt_iff] at this ⊢
    have := hs.tries_nonneg
    omega
  simp only [TaskRow.claimed]
  rw [hs.attempts_eq, Value.countedUp_int hfits]

theorem tries_claimed {t : TaskRow} (hs : t.Sound) (hleft : t.tries < t.maxAttempts)
    (leaseEnd at_ : Time.Instant) : (t.claimed leaseEnd at_).tries = t.tries + 1 :=
  tries_int _ (attempts_claimed hs hleft leaseEnd at_)

/-- A task leased with one more attempt, when it had one left, keeps the rules. -/
theorem Sound.claimed {t : TaskRow} (hs : t.Sound) (hleft : t.tries < t.maxAttempts)
    (leaseEnd at_ : Time.Instant) : (t.claimed leaseEnd at_).Sound := by
  have hatt := attempts_claimed hs hleft leaseEnd at_
  have htries := tries_claimed hs hleft leaseEnd at_
  have hmax : (t.claimed leaseEnd at_).maxAttempts = t.maxAttempts := rfl
  have hnonneg := hs.tries_nonneg
  refine ⟨hmax ▸ hs.max_pos, hmax ▸ hs.max_fits, by rw [htries]; exact hatt, by omega, by omega,
    by simp [TaskRow.claimed], fun _ => ⟨by simp [TaskRow.claimed], by omega⟩⟩

/-- A rewrite that keeps the attempts and leaves a task neither pending nor running keeps the
rules. -/
theorem Sound.settled {t t' : TaskRow} (hs : t.Sound) (hmax : t'.maxAttempts = t.maxAttempts)
    (hatt : t'.attempts = t.attempts) (hpending : t'.status ≠ "pending")
    (hrunning : t'.status ≠ "running") : t'.Sound := by
  have htries : t'.tries = t.tries := by simp [tries, hatt]
  refine ⟨hmax ▸ hs.max_pos, hmax ▸ hs.max_fits, by rw [hatt, htries]; exact hs.attempts_eq,
    htries ▸ hs.tries_nonneg, by rw [htries, hmax]; exact hs.tries_le, ?_, ?_⟩
  · exact fun h => absurd h hpending
  · exact fun h => absurd h hrunning

theorem Sound.retired {t : TaskRow} (hs : t.Sound) (at_ : Time.Instant) : (t.retired at_).Sound :=
  hs.settled rfl rfl (by simp [TaskRow.retired]) (by simp [TaskRow.retired])

theorem Sound.completed {t : TaskRow} (hs : t.Sound) (at_ : Time.Instant) :
    (t.completed at_).Sound :=
  hs.settled rfl rfl (by simp [TaskRow.completed]) (by simp [TaskRow.completed])

/-- A failed delivery keeps the rules: the task fails for good, or waits again with an attempt
left. -/
theorem Sound.failedWith {t : TaskRow} (hs : t.Sound) (reason : String) {exhausted : Bool}
    (hleft : exhausted = false → t.tries < t.maxAttempts) (runAfter at_ : Time.Instant) :
    (t.failedWith reason exhausted runAfter at_).Sound := by
  cases exhausted with
  | true => exact hs.settled rfl rfl (by simp [TaskRow.failedWith]) (by simp [TaskRow.failedWith])
  | false =>
    have htries : (t.failedWith reason false runAfter at_).tries = t.tries := rfl
    refine ⟨hs.max_pos, hs.max_fits, hs.attempts_eq, hs.tries_nonneg, hs.tries_le,
      fun _ => ⟨?_, rfl⟩, fun h => by simp [TaskRow.failedWith] at h⟩
    rw [htries]
    exact hleft rfl

/-- A new task keeps the rules: pending with no attempt, or leased to its caller with one. -/
theorem sound_enqueued (id job : Uuid) {maxAttempts : Int} (hfits : fitsInt maxAttempts = true)
    (lease : Time.Duration) (at_ : Time.Instant) :
    (TaskRow.enqueued id job maxAttempts lease at_).Sound := by
  set allowed := if maxAttempts < 1 then 1 else maxAttempts with hallowed
  have hpos : 1 ≤ allowed := by rw [hallowed]; split <;> omega
  have hmax : fitsInt allowed = true := by
    rw [hallowed]
    split
    · decide
    · exact hfits
  -- a task leased to its caller starts running with one attempt, any other pending with none
  by_cases hl : lease > 0
  · rw [TaskRow.enqueued, if_pos hl, if_pos hl, if_pos hl]
    have htries : (TaskRow.new id job .running 1 allowed at_ (some (at_.add lease))).tries = 1 :=
      rfl
    refine ⟨hpos, hmax, rfl, by rw [htries]; decide, by rw [htries]; exact hpos,
      fun h => by simp [TaskRow.new, TaskStatus.name] at h, fun _ => ⟨rfl, by rw [htries]⟩⟩
  · rw [TaskRow.enqueued, if_neg hl, if_neg hl, if_neg hl]
    have htries : (TaskRow.new id job .pending 0 allowed at_ none).tries = 0 := rfl
    have hnonneg : 0 ≤ allowed := by omega
    refine ⟨hpos, hmax, rfl, by rw [htries], by rw [htries]; exact hnonneg,
      fun _ => ⟨by rw [htries]; exact hpos, rfl⟩,
      fun h => by simp [TaskRow.new, TaskStatus.name] at h⟩

/-- A task due at a time is pending, or running on a lease that ended before it. -/
theorem due_cases {t : TaskRow} {ts : String} (h : t.dueAt ts = true) :
    t.status = "pending" ∨ t.status = "running" ∧ ∃ u, t.leaseUntil = some u ∧ u.stored < ts := by
  simp only [dueAt, Bool.or_eq_true, Bool.and_eq_true, beq_iff_eq] at h
  rcases h with ⟨hpending, -⟩ | ⟨hrunning, hlease⟩
  · exact Or.inl hpending
  · refine Or.inr ⟨hrunning, ?_⟩
    cases hl : t.leaseUntil with
    | none => simp [hl] at hlease
    | some u => exact ⟨u, rfl, by simpa [hl] using hlease⟩

end TaskRow

/-! ## The rules of the queue -/

/-- Jobs rewritten so that each keeps its identifier, and one that is open now was open before
under the same identifier. -/
def JobsKept (J J' : Rows JobRow) : Prop :=
  J'.records.map (·.id.toText) = J.records.map (·.id.toText) ∧
    ∀ j' ∈ J'.records, j'.open_ = true → ∃ j ∈ J.records, j.id.toText = j'.id.toText ∧ j.open_ = true

theorem JobsKept.refl (J : Rows JobRow) : JobsKept J J :=
  ⟨rfl, fun j hj hopen => ⟨j, hj, rfl, hopen⟩⟩

/-- A rewrite of jobs that keeps identifiers and reopens none keeps the jobs. -/
theorem JobsKept.update (J : Rows JobRow) {p : JobRow → Bool} {f : JobRow → JobRow}
    (hid : ∀ j, (f j).id = j.id) (hopen : ∀ j, p j = true → (f j).open_ = true → j.open_ = true) :
    JobsKept J (J.update p f) := by
  refine ⟨?_, ?_⟩
  · rw [Rows.records_update, List.map_map]
    refine List.map_congr_left fun j _ => ?_
    by_cases hp : p j <;> simp [hp, hid]
  · intro j' hj' hopen'
    rw [Rows.records_update, List.mem_map] at hj'
    obtain ⟨j, hj, rfl⟩ := hj'
    by_cases hp : p j
    · simp only [hp, ↓reduceIte] at hopen' ⊢
      exact ⟨j, hj, by rw [hid], hopen j hp hopen'⟩
    · simp only [hp, Bool.false_eq_true, ↓reduceIte] at hopen' ⊢
      exact ⟨j, hj, rfl, hopen'⟩

/-- A working stage is stored under a name that is not an ended one. -/
theorem Stage.open_of_next {s t : Stage} (h : s.next = some t) :
    s.name ≠ "FINISHED" ∧ s.name ≠ "ERROR" := by
  cases s <;> simp_all [Stage.next, Stage.name]

/-- Every move of one job keeps the jobs: advancing one at a working stage, counting, logging or
cancelling, failing or finishing one. -/
theorem JobsKept.advanced (J : Rows JobRow) (x : String) {src tgt : Stage} (hnext : src.next = some tgt)
    (started : Bool) (at_ : Time.Instant) :
    JobsKept J (J.update (JobRow.atStage x src.name) (·.advanced tgt started at_)) := by
  refine JobsKept.update J (fun _ => rfl) fun j hp _ => ?_
  simp only [JobRow.atStage, Bool.and_eq_true, beq_iff_eq] at hp
  obtain ⟨hf, he⟩ := Stage.open_of_next hnext
  simp [JobRow.open_, hp.1.2, hf, he]

theorem JobsKept.sameStage (J : Rows JobRow) (p : JobRow → Bool) {f : JobRow → JobRow}
    (hid : ∀ j, (f j).id = j.id) (hstage : ∀ j, (f j).stage = j.stage) : JobsKept J (J.update p f) :=
  JobsKept.update J hid fun j _ h => by simpa [JobRow.open_, hstage] using h

theorem JobsKept.ended (J : Rows JobRow) (p : JobRow → Bool) {f : JobRow → JobRow}
    (hid : ∀ j, (f j).id = j.id) (hended : ∀ j, (f j).open_ = false) : JobsKept J (J.update p f) :=
  JobsKept.update J hid fun j _ h => by simp [hended] at h

/-- Failing a job keeps the jobs. -/
theorem Ledger.jobsKept_failed (L : Ledger) (x doc code message entry : String)
    (status : DocumentStatus) (at_ : Time.Instant) :
    JobsKept L.jobs (L.failed x doc code message entry status at_).jobs :=
  JobsKept.ended L.jobs _ (fun _ => rfl) fun _ => by simp [JobRow.open_, JobRow.failed]

/-- Giving up on a job keeps the jobs and the tasks, and leaves every job of its identifier
ended, where job identifiers are distinct. -/
theorem Ledger.Abandons.kept {L L' : Ledger} {x : String} {at_ : Time.Instant}
    (h : L.Abandons x at_ L') (hnodup : (L.jobs.records.map (·.id.toText)).Nodup) :
    L'.tasks = L.tasks ∧ JobsKept L.jobs L'.jobs ∧
      ∀ j ∈ L'.jobs.records, j.id.toText = x → j.open_ = false := by
  rcases h with ⟨rfl, hnone | ⟨j₀, hj₀, hid₀, hended⟩⟩ | ⟨doc, message, entry, -, -, rfl⟩
  · exact ⟨rfl, JobsKept.refl _, fun j hj hid => absurd hid (hnone j hj)⟩
  · refine ⟨rfl, JobsKept.refl _, fun j hj hid => ?_⟩
    -- the job found ended is the only one of its identifier
    have := List.inj_on_of_nodup_map hnodup hj hj₀ (hid.trans hid₀.symm)
    rw [this]
    exact hended
  · refine ⟨rfl, L.jobsKept_failed _ _ _ _ _ _ _, fun j hj hid => ?_⟩
    simp only [Ledger.failed, Rows.records_update, List.mem_map] at hj
    obtain ⟨j₀, -, rfl⟩ := hj
    by_cases hp : JobRow.openWith x j₀
    · simp [hp, JobRow.open_, JobRow.failed]
    · simp only [hp, Bool.false_eq_true, ↓reduceIte] at hid ⊢
      simpa [JobRow.openWith, hid] using hp

/-- A ledger whose queue keeps its rules, given the leases granted so far. -/
structure Ledger.QueueSound (L : Ledger) (leases : List String) : Prop where
  rows : ∀ t ∈ L.tasks.records, t.Sound
  ids_nodup : (L.tasks.records.map (·.id.toText)).Nodup
  jobs_nodup : (L.jobs.records.map (·.id.toText)).Nodup
  job_exists : ∀ t ∈ L.tasks.records, ∃ j ∈ L.jobs.records, j.id.toText = t.job.toText
  failed_ended : ∀ t ∈ L.tasks.records, t.status = "failed" →
    ∀ j ∈ L.jobs.records, j.id.toText = t.job.toText → j.open_ = false
  counted : ∀ t ∈ L.tasks.records, (leases.count t.id.toText : Int) = t.tries
  leased_known : ∀ x ∈ leases, ∃ t ∈ L.tasks.records, t.id.toText = x

namespace Ledger.QueueSound

variable {L L' : Ledger} {ls ms : List String}

/-- A fresh ledger has no task. -/
theorem fresh (rows : List Row) (next : Nat) : (Ledger.fresh rows next).QueueSound [] where
  rows := by simp [Ledger.fresh]
  ids_nodup := by simp [Ledger.fresh]
  jobs_nodup := by simp [Ledger.fresh]
  job_exists := by simp [Ledger.fresh]
  failed_ended := by simp [Ledger.fresh]
  counted := by simp [Ledger.fresh]
  leased_known := by simp

/-- Two tasks of the ledger with one identifier are one task. -/
theorem eq_of_id (hs : L.QueueSound ls) {t t' : TaskRow} (ht : t ∈ L.tasks.records)
    (ht' : t' ∈ L.tasks.records) (h : t.id.toText = t'.id.toText) : t = t' :=
  List.inj_on_of_nodup_map hs.ids_nodup ht ht' h

/-- A move that keeps the tasks and the jobs, and grants nothing, keeps the rules. -/
theorem of_jobsKept (hs : L.QueueSound ls) (htasks : L'.tasks = L.tasks)
    (hjobs : JobsKept L.jobs L'.jobs) : L'.QueueSound ls where
  rows := htasks ▸ hs.rows
  ids_nodup := htasks ▸ hs.ids_nodup
  jobs_nodup := hjobs.1 ▸ hs.jobs_nodup
  job_exists := by
    intro t ht
    obtain ⟨j, hj, hid⟩ := hs.job_exists t (htasks ▸ ht)
    have hmem : j.id.toText ∈ L'.jobs.records.map (·.id.toText) := by
      rw [hjobs.1]
      exact List.mem_map_of_mem hj
    obtain ⟨j', hj', hid'⟩ := List.mem_map.mp hmem
    exact ⟨j', hj', hid'.trans hid⟩
  failed_ended := by
    intro t ht hfailed j' hj' hid'
    by_contra hopen
    obtain ⟨j, hj, hid, hopen₀⟩ := hjobs.2 j' hj' (by simpa using hopen)
    have := hs.failed_ended t (htasks ▸ ht) hfailed j hj (hid.trans hid')
    simp [hopen₀] at this
  counted := htasks ▸ hs.counted
  leased_known := htasks ▸ hs.leased_known

/-- A new job under an unused identifier keeps the rules: no task belongs to it yet. -/
theorem createJob (hs : L.QueueSound ls) {job : Uuid} (j : JobRow) (hj : j.id = job)
    (hfresh : ∀ j ∈ L.jobs.records, j.id.toText ≠ job.toText) (docs : Rows DocumentRow) :
    { L with documents := docs, jobs := L.jobs.push j }.QueueSound ls where
  rows := hs.rows
  ids_nodup := hs.ids_nodup
  jobs_nodup := by
    simp only [Rows.records_push, List.map_append, List.map_cons, List.map_nil]
    refine List.nodup_append.mpr ⟨hs.jobs_nodup, List.nodup_singleton _, ?_⟩
    intro a ha b hb
    simp only [List.mem_singleton] at hb
    obtain ⟨j₀, hj₀, rfl⟩ := List.mem_map.mp ha
    rw [hb, hj]
    exact hfresh j₀ hj₀
  job_exists := fun t ht => by
    obtain ⟨j₀, hj₀, hid⟩ := hs.job_exists t ht
    exact ⟨j₀, by simp [hj₀], hid⟩
  failed_ended := by
    intro t ht hfailed j₀ hj₀ hid
    simp only [Rows.records_push, List.mem_append, List.mem_singleton] at hj₀
    rcases hj₀ with hj₀ | rfl
    · exact hs.failed_ended t ht hfailed j₀ hj₀ hid
    · -- the task's job is a job of the ledger, and the new one's identifier is unused
      obtain ⟨j₁, hj₁, hid₁⟩ := hs.job_exists t ht
      exact absurd (hid₁.trans (hid.symm.trans (by rw [hj]))) (hfresh j₁ hj₁)
  counted := hs.counted
  leased_known := hs.leased_known

/-- A new task under an unused identifier, of a job of the ledger, keeps the rules, with the
lease it grants when it is leased to its caller. -/
theorem enqueue (hs : L.QueueSound ls) (id job : Uuid) {maxAttempts : Int}
    (hfits : fitsInt maxAttempts = true) (lease : Time.Duration) (at_ : Time.Instant)
    (hfresh : ∀ e ∈ L.tasks.records, e.id.toText ≠ id.toText)
    (hjob : ∃ j ∈ L.jobs.records, j.id.toText = job.toText) :
    { L with tasks := L.tasks.push (TaskRow.enqueued id job maxAttempts lease at_) }.QueueSound
      (ls ++ if lease > 0 then [id.toText] else []) := by
  -- no lease was granted yet under the new identifier
  have hnone : ls.count id.toText = 0 := by
    refine List.count_eq_zero.mpr fun hmem => ?_
    obtain ⟨t, ht, hid⟩ := hs.leased_known _ hmem
    exact hfresh t ht hid
  have hnew : TaskRow.enqueued id job maxAttempts lease at_ =
      TaskRow.new id job (if lease > 0 then .running else .pending) (if lease > 0 then 1 else 0)
        (if maxAttempts < 1 then 1 else maxAttempts) at_
        (if lease > 0 then some (at_.add lease) else none) := rfl
  refine ⟨?_, ?_, hs.jobs_nodup, ?_, ?_, ?_, ?_⟩
  · intro t ht
    simp only [Rows.records_push, List.mem_append, List.mem_singleton] at ht
    rcases ht with ht | rfl
    · exact hs.rows t ht
    · exact TaskRow.sound_enqueued id job hfits lease at_
  · simp only [Rows.records_push, List.map_append, List.map_cons, List.map_nil]
    refine List.nodup_append.mpr ⟨hs.ids_nodup, List.nodup_singleton _, ?_⟩
    intro a ha b hb
    simp only [List.mem_singleton] at hb
    obtain ⟨t, ht, rfl⟩ := List.mem_map.mp ha
    rw [hb]
    exact hfresh t ht
  · intro t ht
    simp only [Rows.records_push, List.mem_append, List.mem_singleton] at ht
    rcases ht with ht | rfl
    · exact hs.job_exists t ht
    · exact hjob
  · intro t ht hfailed
    simp only [Rows.records_push, List.mem_append, List.mem_singleton] at ht
    rcases ht with ht | rfl
    · exact hs.failed_ended t ht hfailed
    · by_cases hl : lease > 0 <;> simp [hnew, TaskRow.new, hl, TaskStatus.name] at hfailed
  · intro t ht
    simp only [Rows.records_push, List.mem_append, List.mem_singleton] at ht
    rcases ht with ht | rfl
    · have hne : t.id.toText ≠ id.toText := hfresh t ht
      have hcount : (if lease > 0 then [id.toText] else []).count t.id.toText = 0 := by
        split
        · rw [List.count_singleton]
          simp [Ne.symm hne]
        · rfl
      rw [List.count_append, hcount, Nat.add_zero]
      exact hs.counted t ht
    · by_cases hl : lease > 0 <;> simp [hnew, TaskRow.new, hl, hnone, TaskRow.tries]
  · intro x hx
    rcases List.mem_append.mp hx with hx | hx
    · obtain ⟨t, ht, hid⟩ := hs.leased_known x hx
      exact ⟨t, by simp [ht], hid⟩
    · have hx : x = id.toText := by split at hx <;> simp_all
      exact ⟨TaskRow.enqueued id job maxAttempts lease at_, by simp, by rw [hx]; rfl⟩

/-- A rewrite of tasks, with the jobs kept and the leases it grants, keeps the rules when every
rewritten task keeps them, belongs to its job still, has ended jobs behind it when it fails, and
is counted with the new leases; the new leases name tasks of the ledger. -/
theorem rewrite (hs : L.QueueSound ls) {p : TaskRow → Bool} {f : TaskRow → TaskRow}
    (htasks : L'.tasks = L.tasks.update p f) (hjobs : JobsKept L.jobs L'.jobs)
    (hid : ∀ t, (f t).id = t.id) (hjob : ∀ t, (f t).job = t.job)
    (hsound : ∀ t ∈ L.tasks.records, p t = true → (f t).Sound)
    (hfailed : ∀ t ∈ L.tasks.records, p t = true → (f t).status = "failed" →
      ∀ j ∈ L'.jobs.records, j.id.toText = t.job.toText → j.open_ = false)
    (hcount : ∀ t ∈ L.tasks.records,
      ((ls ++ ms).count t.id.toText : Int) = (if p t then f t else t).tries)
    (hms : ∀ x ∈ ms, ∃ t ∈ L.tasks.records, t.id.toText = x) : L'.QueueSound (ls ++ ms) := by
  -- the rewritten tasks keep their identifiers and jobs
  have hids : L'.tasks.records.map (·.id.toText) = L.tasks.records.map (·.id.toText) := by
    rw [htasks, Rows.records_update, List.map_map]
    refine List.map_congr_left fun t _ => ?_
    by_cases hp : p t <;> simp [hp, hid]
  have hmem : ∀ t' ∈ L'.tasks.records, ∃ t ∈ L.tasks.records, t' = if p t then f t else t := by
    intro t' ht'
    rw [htasks, Rows.records_update, List.mem_map] at ht'
    obtain ⟨t, ht, rfl⟩ := ht'
    exact ⟨t, ht, rfl⟩
  have hkept : ({ L with jobs := L'.jobs } : Ledger).QueueSound ls := hs.of_jobsKept rfl hjobs
  refine ⟨?_, hids ▸ hs.ids_nodup, hkept.jobs_nodup, ?_, ?_, ?_, ?_⟩
  · intro t' ht'
    obtain ⟨t, ht, rfl⟩ := hmem t' ht'
    by_cases hp : p t
    · simpa [hp] using hsound t ht hp
    · simpa [hp] using hs.rows t ht
  · intro t' ht'
    obtain ⟨t, ht, rfl⟩ := hmem t' ht'
    obtain ⟨j, hj, hidj⟩ := hkept.job_exists t ht
    by_cases hp : p t
    · exact ⟨j, hj, by simp [hp, hjob, hidj]⟩
    · exact ⟨j, hj, by simp [hp, hidj]⟩
  · intro t' ht' hfailed'
    obtain ⟨t, ht, rfl⟩ := hmem t' ht'
    by_cases hp : p t
    · simp only [hp, ↓reduceIte] at hfailed' ⊢
      rw [hjob]
      exact hfailed t ht hp hfailed'
    · simp only [hp, Bool.false_eq_true, ↓reduceIte] at hfailed' ⊢
      exact hkept.failed_ended t ht hfailed'
  · intro t' ht'
    obtain ⟨t, ht, rfl⟩ := hmem t' ht'
    by_cases hp : p t
    · simpa [hp, hid] using hcount t ht
    · simpa [hp] using hcount t ht
  · intro x hx
    have hknown : ∃ t ∈ L.tasks.records, t.id.toText = x := by
      rcases List.mem_append.mp hx with hx | hx
      · exact hs.leased_known x hx
      · exact hms x hx
    obtain ⟨t, ht, rfl⟩ := hknown
    have : t.id.toText ∈ L'.tasks.records.map (·.id.toText) := by
      rw [hids]
      exact List.mem_map_of_mem ht
    obtain ⟨t', ht', hid'⟩ := List.mem_map.mp this
    exact ⟨t', ht', hid'⟩

/-- A rewrite that grants nothing and keeps every task's attempts is counted as before. -/
theorem counted_of_tries (hs : L.QueueSound ls) {p : TaskRow → Bool} {f : TaskRow → TaskRow}
    (htries : ∀ t, (f t).tries = t.tries) :
    ∀ t ∈ L.tasks.records, ((ls ++ []).count t.id.toText : Int) = (if p t then f t else t).tries := by
  intro t ht
  rw [List.append_nil, hs.counted t ht]
  split <;> simp [htries]

/-- A task still as a task was read is the one such task. -/
theorem countP_same_eq_one (hs : L.QueueSound ls) {x status : String} {a : Int} {t : TaskRow}
    (ht : t ∈ L.tasks.records) (hp : t.isSame x status a = true) :
    L.tasks.records.countP (TaskRow.isSame x status a) = 1 := by
  have hle := countP_isSame_le_one hs.ids_nodup x status a
  have hpos := List.countP_pos_iff.mpr ⟨t, ht, hp⟩
  omega

/-- A task read from a row of the ledger has the row's identifier, job, status, attempts and
allowance. -/
theorem read_row (hs : L.QueueSound ls) {e : Nat × TaskRow} (he : e ∈ L.tasks.entries)
    {task : Task} (hread : Task.read L.tasksTable ⟨e.1, e.2.cells⟩ = .ok task) :
    e.2 ∈ L.tasks.records ∧ task.id.toText = e.2.id.toText ∧ task.job.toText = e.2.job.toText ∧
      task.status = TaskStatus.ofName e.2.status ∧ task.attempts = e.2.tries ∧
      task.maxAttempts = e.2.maxAttempts := by
  have hmem : e.2 ∈ L.tasks.records := List.mem_map_of_mem he
  obtain ⟨hid, hjob, hstatus, -, hmax, hatt, -⟩ := TaskRow.read_ok rfl hread
  exact ⟨hmem, hid, hjob, hstatus, hatt _ (hs.rows _ hmem).attempts_eq, hmax⟩

/-- A task still as a due task was read for a claim, when that one was not spent, has an
attempt left. -/
theorem left_of_read (hs : L.QueueSound ls) {e : Nat × TaskRow} (he : e ∈ L.tasks.entries)
    {ts : String} {task : Task} (hdue : e.2.dueAt ts = true)
    (hread : Task.read L.tasksTable ⟨e.1, e.2.cells⟩ = .ok task)
    (hlive : ¬(task.status = .running ∧ task.attempts ≥ task.maxAttempts)) {t : TaskRow}
    (ht : t ∈ L.tasks.records) (hp : t.isSame task.id.toText task.status.name task.attempts = true) :
    t.tries < t.maxAttempts := by
  obtain ⟨hmem, hid, -, hstatus, hatt, hmax⟩ := hs.read_row he hread
  -- the task still as it was read is the row it was read from
  obtain rfl : t = e.2 := hs.eq_of_id ht hmem ((TaskRow.id_of_isSame hp).trans hid)
  -- a due task is pending, with an attempt left, or running, and then not spent
  rcases TaskRow.due_cases hdue with hpending | ⟨hrunning, -⟩
  · exact ((hs.rows _ ht).pending hpending).1
  · have hrun : task.status = .running := by rw [hstatus, hrunning]; rfl
    rw [← hatt, ← hmax]
    exact not_le.mp fun hge => hlive ⟨hrun, hge⟩

/-- A claim keeps the rules: the task still as it was read gets one more attempt, and the lease
is granted when there is such a task. -/
theorem claim (hs : L.QueueSound ls) {e : Nat × TaskRow} (he : e ∈ L.tasks.entries)
    {at_ leaseEnd : Time.Instant} {task : Task} (hdue : e.2.dueAt at_.stored = true)
    (hread : Task.read L.tasksTable ⟨e.1, e.2.cells⟩ = .ok task)
    (hlive : ¬(task.status = .running ∧ task.attempts ≥ task.maxAttempts)) :
    (L.withTasks (TaskRow.isSame task.id.toText task.status.name task.attempts)
      (·.claimed leaseEnd at_)).QueueSound (ls ++
        if L.tasks.records.countP (TaskRow.isSame task.id.toText task.status.name task.attempts) = 1
        then [task.id.toText] else []) := by
  set p := TaskRow.isSame task.id.toText task.status.name task.attempts
  have hleft : ∀ t ∈ L.tasks.records, p t = true → t.tries < t.maxAttempts :=
    fun t ht hp => hs.left_of_read he hdue hread hlive ht hp
  have hone : ∀ t ∈ L.tasks.records, p t = true → L.tasks.records.countP p = 1 :=
    fun t ht hp => hs.countP_same_eq_one ht hp
  refine hs.rewrite (p := p) (f := (·.claimed leaseEnd at_)) rfl (JobsKept.refl _) (fun _ => rfl) (fun _ => rfl)
    (fun t ht hp => (hs.rows t ht).claimed (hleft t ht hp) _ _)
    (fun _ _ _ h => by simp [TaskRow.claimed] at h) ?_ ?_
  · intro t ht
    by_cases hp : p t
    · simp only [if_pos (hone t ht hp), if_pos hp]
      rw [TaskRow.tries_claimed (hs.rows t ht) (hleft t ht hp), ← hs.counted t ht,
        List.count_append, List.count_singleton, TaskRow.id_of_isSame hp]
      simp
    · -- the task granted, if any, is another one
      have hnone : (if L.tasks.records.countP p = 1 then [task.id.toText] else []).count
          t.id.toText = 0 := by
        split
        · obtain ⟨t', ht', hp'⟩ := List.countP_pos_iff.mp (by omega : 0 < L.tasks.records.countP p)
          have hne : task.id.toText ≠ t.id.toText := fun h =>
            hp (hs.eq_of_id ht' ht ((TaskRow.id_of_isSame hp').trans h) ▸ hp')
          simp [hne]
        · rfl
      simp only [if_neg hp]
      rw [List.count_append, hnone, Nat.add_zero]
      exact hs.counted t ht
  · intro x hx
    split at hx
    · obtain ⟨t, ht, hp⟩ := List.countP_pos_iff.mp (by omega : 0 < L.tasks.records.countP p)
      exact ⟨t, ht, (TaskRow.id_of_isSame hp).trans (List.mem_singleton.mp hx).symm⟩
    · simp at hx

/-- Retiring a spent task keeps the rules: the task fails, and its job is given up on when the
task was the one row retired. -/
theorem retire (hs : L.QueueSound ls) {e : Nat × TaskRow} (he : e ∈ L.tasks.entries)
    {at_ : Time.Instant} {task : Task}
    (hread : Task.read L.tasksTable ⟨e.1, e.2.cells⟩ = .ok task)
    (hab : if L.tasks.records.countP
          (TaskRow.isSame task.id.toText task.status.name task.attempts) = 1
      then Ledger.Abandons (L.withTasks (TaskRow.isSame task.id.toText task.status.name
        task.attempts) (·.retired at_)) task.job.toText at_ L'
      else L' = L.withTasks (TaskRow.isSame task.id.toText task.status.name task.attempts)
        (·.retired at_)) :
    L'.QueueSound (ls ++ []) := by
  set p := TaskRow.isSame task.id.toText task.status.name task.attempts
  obtain ⟨hmem, hid, hjob, -⟩ := hs.read_row he hread
  split at hab
  · -- the task fails, and every job of its identifier has ended
    obtain ⟨htasks, hjobs, hended⟩ := hab.kept hs.jobs_nodup
    refine hs.rewrite (p := p) (f := (·.retired at_)) htasks hjobs (fun _ => rfl) (fun _ => rfl)
      (fun t ht _ => (hs.rows t ht).retired at_) (fun t ht hp _ j hj hidj => hended j hj ?_)
      (hs.counted_of_tries fun _ => rfl) (by simp)
    obtain rfl : t = e.2 := hs.eq_of_id ht hmem ((TaskRow.id_of_isSame hp).trans hid)
    rw [hidj, hjob]
  · -- no task was still as it was read, so none changed
    rename_i hcount
    have hnone : ∀ t ∈ L.tasks.records, p t = false := by
      intro t ht
      exact Bool.eq_false_iff.mpr fun hp => hcount (hs.countP_same_eq_one ht hp)
    subst hab
    rw [List.append_nil]
    have hsame : L.tasks.update p (·.retired at_) = L.tasks := Rows.update_of_none _ hnone
    exact hs.of_jobsKept hsame (JobsKept.refl _)

/-- Completing a task keeps the rules. -/
theorem complete (hs : L.QueueSound ls) (x : String) (at_ : Time.Instant) :
    (L.withTasks (TaskRow.hasId x) (·.completed at_)).QueueSound (ls ++ []) :=
  hs.rewrite (f := (·.completed at_)) rfl (JobsKept.refl _) (fun _ => rfl) (fun _ => rfl)
    (fun t ht _ => (hs.rows t ht).completed at_) (fun _ _ _ h => by simp [TaskRow.completed] at h)
    (hs.counted_of_tries fun _ => rfl) (by simp)

/-- A failed delivery keeps the rules: the task waits again with an attempt left, or fails and
its job is given up on. -/
theorem failTask (hs : L.QueueSound ls) {x reason : String} {task : Task} {at_ : Time.Instant}
    {e : Nat × TaskRow} (he : e ∈ L.tasks.entries) (hid : e.2.id.toText = x)
    (hread : Task.read L.tasksTable ⟨e.1, e.2.cells⟩ = .ok task)
    (hab : if task.attempts ≥ task.maxAttempts then
        Ledger.Abandons (L.withTasks (TaskRow.hasId x) (·.failedWith reason true
          (at_.add (Tasks.backoff task.attempts)) at_)) task.job.toText at_ L'
      else L' = L.withTasks (TaskRow.hasId x) (·.failedWith reason false
          (at_.add (Tasks.backoff task.attempts)) at_)) :
    L'.QueueSound (ls ++ []) := by
  obtain ⟨hmem, -, hjob, -, hatt, hmax⟩ := hs.read_row he hread
  -- the task named is the row read
  have hrow : ∀ t ∈ L.tasks.records, TaskRow.hasId x t = true → t = e.2 := fun t ht hp =>
    hs.eq_of_id ht hmem ((beq_iff_eq.mp hp).trans hid.symm)
  split at hab
  · obtain ⟨htasks, hjobs, hended⟩ := hab.kept hs.jobs_nodup
    refine hs.rewrite (f := (·.failedWith reason true (at_.add (Tasks.backoff task.attempts)) at_))
      htasks hjobs (fun _ => rfl) (fun _ => rfl)
      (fun t ht _ => (hs.rows t ht).failedWith reason (by simp) _ _)
      (fun t ht hp _ j hj hidj => hended j hj ?_) (hs.counted_of_tries fun _ => rfl) (by simp)
    rw [hidj, hrow t ht hp, hjob]
  · rename_i hleft
    subst hab
    refine hs.rewrite (f := (·.failedWith reason false (at_.add (Tasks.backoff task.attempts)) at_))
      rfl (JobsKept.refl _) (fun _ => rfl) (fun _ => rfl)
      (fun t ht hp => (hs.rows t ht).failedWith reason (fun _ => ?_) _ _)
      (fun _ _ _ h => by simp [TaskRow.failedWith] at h) (hs.counted_of_tries fun _ => rfl)
      (by simp)
    rw [hrow t ht hp, ← hatt, ← hmax]
    exact not_le.mp hleft

end Ledger.QueueSound

/-! ## Runs -/

/-- Every move keeps the rules, counting the leases it grants. -/
theorem Move.queueSound {L L' : Ledger} {ls ms : List String} (h : Move L ms L')
    (hs : L.QueueSound ls) : L'.QueueSound (ls ++ ms) := by
  cases h with
  | addDocument => rw [List.append_nil]; exact hs.of_jobsKept rfl (JobsKept.refl _)
  | markReady => rw [List.append_nil]; exact hs.of_jobsKept rfl (JobsKept.refl _)
  | createJob doc job at_ _ hfresh =>
    rw [List.append_nil]
    exact hs.createJob (JobRow.created job doc at_) rfl hfresh _
  | advance x src tgt at_ hnext =>
    rw [List.append_nil]
    exact hs.of_jobsKept rfl (JobsKept.advanced _ x hnext _ at_)
  | count =>
    rw [List.append_nil]
    exact hs.of_jobsKept rfl (JobsKept.sameStage _ _ (fun _ => rfl) fun _ => rfl)
  | log =>
    rw [List.append_nil]
    exact hs.of_jobsKept rfl (JobsKept.sameStage _ _ (fun _ => rfl) fun _ => rfl)
  | cancel =>
    rw [List.append_nil]
    exact hs.of_jobsKept rfl (JobsKept.sameStage _ _ (fun _ => rfl) fun _ => rfl)
  | fail x doc code message status at_ =>
    rw [List.append_nil]
    exact hs.of_jobsKept rfl (L.jobsKept_failed _ _ _ _ _ _ _)
  | finish =>
    rw [List.append_nil]
    exact hs.of_jobsKept rfl
      (JobsKept.ended _ _ (fun _ => rfl) fun _ => by simp [JobRow.open_, JobRow.finished])
  | enqueue id job maxAttempts lease at_ hfits hfresh hjob =>
    exact hs.enqueue id job hfits lease at_ hfresh hjob
  | claim e he at_ leaseEnd task hdue hread hlive => exact hs.claim he hdue hread hlive
  | retire e he at_ task hdue hread hspent hab => exact hs.retire he hread hab
  | complete x at_ => exact hs.complete x at_
  | failTask x reason task at_ e he hid hread hab => exact hs.failTask he hid hread hab

/-- Every chain of moves keeps the rules, counting the leases it grants. -/
theorem Moves.queueSound {L L' : Ledger} {ls ms : List String} (h : Moves L ms L')
    (hs : L.QueueSound ls) : L'.QueueSound (ls ++ ms) := by
  induction h with
  | refl => rwa [List.append_nil]
  | tail _ hm ih =>
    rw [← List.append_assoc]
    exact hm.queueSound ih

/-- In every reachable state the tasks keep the queue's rules, no task has been handed out more
often than it allows attempts, and a claim hands out only a task that is pending, or running on
a lease that ended before the claim. -/
theorem task_queue_bounded_delivery {ls : List String} {s : MetaStore} (h : Run ls s) :
    ∃ L : Ledger, s.db = L.database ∧ L.QueueSound ls ∧
      (∀ t ∈ L.tasks.records, (ls.count t.id.toText : Int) ≤ t.maxAttempts) ∧
      ∀ (lease : Time.Duration) (at_ : Time.Instant) (t : Task),
        (outcome (Tasks.claimNext lease) { s with now := at_ }).1 = .ok (some t) →
        ∃ r ∈ L.tasks.records, r.id.toText = t.id.toText ∧
          (r.status = "pending" ∨
            r.status = "running" ∧ ∃ u, r.leaseUntil = some u ∧ u.stored < at_.stored) := by
  obtain ⟨rows, next, L, hdb, hm⟩ := h.moves
  have hs : L.QueueSound ls := by
    simpa using hm.queueSound (Ledger.QueueSound.fresh rows next)
  refine ⟨L, hdb, hs, fun t ht => ?_, fun lease at_ t hclaim => ?_⟩
  · rw [hs.counted t ht]
    exact (hs.rows t ht).tries_le
  · rcases hrun : outcome (Tasks.claimNext lease) { s with now := at_ } with ⟨res, s'⟩
    obtain rfl : res = .ok (some t) := by simpa [hrun] using hclaim
    have hdb' : ({ s with now := at_ } : MetaStore).db = L.database := hdb
    obtain ⟨e, he, hid, hdue, -⟩ := Tasks.claimNext_due hdb' hs.ids_nodup hrun
    exact ⟨e.2, List.mem_map_of_mem he, hid, TaskRow.due_cases hdue⟩

/-- After a run that takes in a document, opens a job on it, queues the job and leases its
task, the store keeps the queue's rules. -/
theorem task_queue_bounded_after_lease :
    ∃ L : Ledger, submitted.2.db = L.database ∧ L.QueueSound submitted.1 ∧
      (∀ t ∈ L.tasks.records, (submitted.1.count t.id.toText : Int) ≤ t.maxAttempts) ∧
      ∀ (lease : Time.Duration) (at_ : Time.Instant) (t : Task),
        (outcome (Tasks.claimNext lease) { submitted.2 with now := at_ }).1 = .ok (some t) →
        ∃ r ∈ L.tasks.records, r.id.toText = t.id.toText ∧
          (r.status = "pending" ∨
            r.status = "running" ∧ ∃ u, r.leaseUntil = some u ∧ u.stored < at_.stored) :=
  task_queue_bounded_delivery submitted_run

end CreditExtraction.Store
