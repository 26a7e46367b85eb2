import CreditExtraction.Proofs.Pipeline.Bench
import CreditExtraction.Proofs.Store.Bookkeeping

/-! # Retries

A stage's call of a collaborator is tried again after a failure that may be tried again, up to
the policy's number of attempts (`Orchestrator.call`); an operation of a store is tried again
while the store is unavailable (`retryStore`). Both loops are read here on the bench, against a
collaborator whose successive answers are any sequence (`Bench.consult`).

* The try `k` is the last one (`LastTry stops limit k`) when it is the first whose outcome
  stops the loop, or the limit.
* `retryStore` makes exactly the tries up to the last one and answers as the last did, an
  unavailable store exhausted (`storeVerdict`).
* `call` does the same for its stops (`callStops`, `callVerdict`); each try is counted on the
  job in memory and in the store, and each failure but a cancelled run's is logged with the
  number of its try.
* An exhausted failure keeps the code and the causes of the last one, and may not be tried
  again. -/

namespace CreditExtraction

/-! ## Codes of failures -/

theorem Failure.codeOfCauses_ne_empty (e : Failure) : e.codeOfCauses ≠ "" := by
  -- every branch is a nonempty literal; `split` on these conditions runs out of heartbeats
  simp [Failure.codeOfCauses, ite_eq_iff]

/-- The code of a failure is never empty. -/
theorem Failure.code_ne_empty (e : Failure) : e.code ≠ "" := by
  unfold Failure.code
  split
  · split_ifs with h
    · simpa using h
    · exact e.codeOfCauses_ne_empty
  · exact e.codeOfCauses_ne_empty

/-- An application failure with a code has that code. -/
theorem Failure.code_app {code : String} (h : code ≠ "") (msg : String) (kind : Kind)
    (cause : Option Failure) : (Failure.app code msg kind cause).code = code := by
  simp [Failure.code, Failure.firstApp, h]

end CreditExtraction

namespace CreditExtraction.Pipeline

open Store

/-! ## The last try -/

/-- The try `k`, of at most `limit`, is the last: the first whose outcome stops the loop, or the
limit. -/
structure LastTry (stops : Nat → Bool) (limit k : Nat) : Prop where
  pos : 1 ≤ k
  le : k ≤ limit
  goes_on : ∀ i, 1 ≤ i → i < k → stops i = false
  ends : stops k = true ∨ k = limit

namespace LastTry

variable {stops : Nat → Bool} {limit k : Nat}

/-- There is one last try. -/
theorem unique {k' : Nat} (h : LastTry stops limit k) (h' : LastTry stops limit k') : k = k' := by
  by_contra hne
  rcases Nat.lt_or_gt_of_ne hne with hlt | hlt
  · rcases h.ends with hs | heq
    · simp [h'.goes_on k h.pos hlt] at hs
    · have := h'.le
      omega
  · rcases h'.ends with hs | heq
    · simp [h.goes_on k' h'.pos hlt] at hs
    · have := h.le
      omega

/-- A try that stops the loop, after tries that did not, is the last. -/
theorem of_stops (hk : 1 ≤ k) (hle : k ≤ limit) (hbefore : ∀ i, 1 ≤ i → i < k → stops i = false)
    (hs : stops k = true) : LastTry stops limit k :=
  ⟨hk, hle, hbefore, .inl hs⟩

/-- The try at the limit, after tries that did not stop the loop, is the last. -/
theorem at_limit (hk : 1 ≤ k) (hlim : k = limit) (hbefore : ∀ i, 1 ≤ i → i < k → stops i = false) :
    LastTry stops limit k :=
  ⟨hk, hlim.le, hbefore, .inr hlim⟩

/-- The tries before the next one did not stop the loop, when the current one did not. -/
theorem goes_on_succ (hbefore : ∀ i, 1 ≤ i → i < k → stops i = false) (hs : stops k = false) :
    ∀ i, 1 ≤ i → i < k + 1 → stops i = false := by
  intro i hi hlt
  rcases Nat.lt_succ_iff_lt_or_eq.mp hlt with hlt | rfl
  · exact hbefore i hi hlt
  · exact hs

end LastTry

/-! ## Exhausted failures -/

@[simp] theorem exhausted_code (e : Failure) (k : Nat) : (exhausted e k).code = e.code :=
  Failure.code_app e.code_ne_empty _ _ _

@[simp] theorem exhausted_kind (e : Failure) (k : Nat) : (exhausted e k).kind = .infrastructure := by
  simp [exhausted, Failure.kind, Failure.firstApp]

@[simp] theorem exhausted_retryable (e : Failure) (k : Nat) : (exhausted e k).retryable = false := by
  simp [Failure.retryable]

@[simp] theorem exhausted_has (e : Failure) (k : Nat) (c : Cause) :
    (exhausted e k).has c = e.has c := by
  simp [exhausted, Failure.has]

theorem RetryPolicy.attempts_pos (p : RetryPolicy) : 1 ≤ p.attempts := by
  unfold RetryPolicy.attempts
  split <;> omega

theorem attempts_eq_succ (cfg : Settings) : ∃ m, cfg.retry.attempts = m + 1 :=
  ⟨_, (Nat.succ_pred_eq_of_pos cfg.retry.attempts_pos).symm⟩

/-- A line of a job's log: the time, the stage, a code and a message, its white space
collapsed. -/
def logLine (at_ : Time.Instant) (stage : Stage) (code msg : String) : String :=
  at_.rfc3339 ++ " " ++ stage.name ++ " " ++ code ++ ": " ++ " ".intercalate (Text.CharClass.fields msg)

/-! ## A collaborator with any answers -/

namespace Bench

/-- A collaborator whose successive answers are `f 1`, `f 2`, …: the bench's own world counts
the calls made so far. -/
def consult {α : Type} (f : Nat → Except Failure α) : RunM (StateM (Bench Nat)) α := do
  let r ← (liftM (lift fun n => (f (n + 1), n + 1)) : RunM (StateM (Bench Nat)) (Except Failure α))
  match r with
  | .ok a => pure a
  | .error e => throw e

end Bench

section Plays

variable {ρ α : Type} (c : Services (StateM ρ)) (cfg : Settings) (st : RunState)

@[simp] theorem play_consult (f : Nat → Except Failure α) (w : Bench Nat) :
    play (Bench.consult f) st w = (.ok (f (w.rest + 1), st), { w with rest := w.rest + 1 }) := by
  simp only [Bench.consult, play_bind, play_liftM, Bench.lift, StateT.run]
  rcases f (w.rest + 1) with e | a <;> rfl

/-- A wait on the bench ends at once. -/
@[simp] theorem play_wait (w : Bench ρ) (k : Nat) (e : Failure) :
    play ((Bench.orchestrator c cfg).wait k e : RunM (StateM (Bench ρ)) Unit) st w =
      (.ok (.ok (), st), w) := rfl

@[simp] theorem play_storeRetry (w : Bench ρ) (k : Nat) (e : Failure) :
    play ((Bench.orchestrator c cfg).storeRetry k e : RunM (StateM (Bench ρ)) Unit) st w =
      (.ok (.ok (), st), { w with records := w.records ++
        [⟨.warn, "pipeline.store.retry", [Log.int "attempt" k, Log.int "max" cfg.retry.attempts,
          Log.text "err" e.message]⟩] }) := rfl

variable (w : Bench ρ)

/-- An operation of the store that goes through at once is done once. -/
theorem play_retried_ok {β : Type} {op : StoreM β} {b : β} {s' : MetaStore}
    (h : outcome op w.store = (.ok b, s')) :
    play ((Bench.orchestrator c cfg).retried op : RunM (StateM (Bench ρ)) β) st w =
      (.ok (.ok b, st), { w with store := s' }) := by
  obtain ⟨m, hm⟩ := attempts_eq_succ cfg
  rw [Orchestrator.retried, Orchestrator.persevere, retryStore,
    show (Bench.orchestrator c cfg).settings.retry.attempts = m + 1 from hm, retryStore.go,
    play_tryCatch, play_store, h]

/-- Appending to the log of a job of the ledger: the line goes to the end of the job's log in
memory and in the store. -/
theorem play_appendLog {L : Ledger} (hdb : w.store.db = L.database)
    (hids : (L.jobs.records.map (·.id.toText)).Nodup) {j : JobRow} (hj : j ∈ L.jobs.records)
    (hid : j.id = st.job.id) (hatt : j.attempts.isNull = false) (stage : Stage) (code msg : String) :
    play ((Bench.orchestrator c cfg).appendLog stage code msg) st w =
      (.ok (.ok (), { st with job := { st.job with
        workerLog := st.job.workerLog ++ logLine w.store.now stage code msg ++ "\n" } }),
       { w with store := { w.store with db := { L with
         jobs := L.jobs.update (JobRow.hasId st.job.id.toText)
           (·.logged (logLine w.store.now stage code msg ++ "\n") w.store.now) }.database } }) := by
  have happ := Jobs.appendLog_ok hdb hids hj hatt (logLine w.store.now stage code msg)
  rw [hid, logLine] at happ
  rw [Orchestrator.appendLog]
  simp only [play_bind, play_now, play_get, play_observe,
    play_retried_ok c cfg st w happ, play_setJob]
  rfl

end Plays

/-! ## Retries of a store operation -/

/-- Does the outcome of a try of a store operation end its retries: a success, or a failure
other than an unavailable store. -/
def storeStops {α : Type} : Except Failure α → Bool
  | .ok _ => true
  | .error e => !e.has .storeUnavailable

/-- What the retries of a store operation answer after their last try `k`: its outcome, an
unavailable store exhausted. -/
def storeVerdict {α : Type} (k : Nat) : Except Failure α → Except Failure α
  | .ok a => .ok a
  | .error e => .error (if e.has .storeUnavailable then exhausted e k else e)

section StoreRetries

variable {α : Type} (c : Services (StateM Nat)) (cfg : Settings) (f : Nat → Except Failure α)

/-- From its try `k`, after tries that went on, the loop of `retryStore` makes the tries up to
the last one, answers as `storeVerdict` says, and logs each retry. The induction is on the
tries left; the bench has counted the answers asked for before the try `k` since `r₀`. -/
theorem play_retryStore_go (r₀ limit : Nat) :
    ∀ left k (st : RunState) (w : Bench Nat), k + left = limit → 1 ≤ k → w.rest + 1 = r₀ + k →
      (∀ i, 1 ≤ i → i < k → storeStops (f (r₀ + i)) = false) →
      ∃ k', LastTry (fun i => storeStops (f (r₀ + i))) limit k' ∧ ∃ w',
        play (retryStore.go limit (Bench.orchestrator c cfg).storeRetry (Bench.consult f) k
          (left + 1)) st w = (.ok (storeVerdict k' (f (r₀ + k')), st), w') ∧
        w'.rest = r₀ + k' ∧ w'.store = w.store := by
  intro left
  induction left with
  | zero =>
    intro k st w hk hpos hrest hbefore
    -- the try at the limit is the last, whatever its outcome
    refine ⟨k, LastTry.at_limit hpos (by omega) hbefore, ?_⟩
    rw [retryStore.go, play_tryCatch, play_consult, hrest]
    rcases hf : f (r₀ + k) with e | a
    · cases hu : e.has .storeUnavailable <;>
        simp [hu, storeVerdict, show limit ≤ k by omega]
    · exact ⟨_, rfl, rfl, rfl⟩
  | succ left ih =>
    intro k st w hk hpos hrest hbefore
    rw [retryStore.go, play_tryCatch, play_consult, hrest]
    rcases hf : f (r₀ + k) with e | a
    · cases hu : e.has .storeUnavailable with
      | false =>
        -- a failure other than an unavailable store ends the retries
        refine ⟨k, LastTry.of_stops hpos (by omega) hbefore (by simp [storeStops, hf, hu]), ?_⟩
        simp [hf, hu, storeVerdict]
      | true =>
        -- an unavailable store before the limit: the try is logged and the next one made
        have hgo : storeStops (f (r₀ + k)) = false := by simp [storeStops, hf, hu]
        obtain ⟨k', hlast, w', hplay, hrest', hstore⟩ :=
          ih (k + 1) st { w with rest := r₀ + k, records := w.records ++
              [⟨.warn, "pipeline.store.retry", [Log.int "attempt" k,
                Log.int "max" cfg.retry.attempts, Log.text "err" e.message]⟩] }
            (by omega) (by omega) (by simp; omega) (LastTry.goes_on_succ hbefore hgo)
        refine ⟨k', hlast, w', ?_, hrest', hstore⟩
        simp only [hu, Bool.not_true, Bool.false_eq_true, ↓reduceIte,
          show ¬ limit ≤ k by omega, play_bind, play_storeRetry]
        exact hplay
    · exact ⟨k, LastTry.of_stops hpos (by omega) hbefore (by simp [storeStops, hf]),
        { w with rest := r₀ + k }, by simp [hf, storeVerdict], rfl, rfl⟩

end StoreRetries

/-! ## Retries of a stage's call -/

/-- Does the outcome of a try of a stage's call end its retries: a success, a cancelled run, or
a failure that may not be tried again. -/
def callStops {α : Type} : Except Failure α → Bool
  | .ok _ => true
  | .error e => e.has .contextCanceled || !e.retryable

/-- What a stage's call answers after its last try `k`: its outcome, a failure that may be
tried again exhausted. -/
def callVerdict {α : Type} (k : Nat) : Except Failure α → Except Failure α
  | .ok a => .ok a
  | .error e => .error (if e.has .contextCanceled || !e.retryable then e else exhausted e k)

/-- The line a stage's call logs for its try `i` of `limit` at the clock `at_`: none for a
success or a cancelled run. -/
def attemptLine {α : Type} (at_ : Time.Instant) (stage : Stage) (limit i : Nat) :
    Except Failure α → String
  | .ok _ => ""
  | .error e =>
    if e.has .contextCanceled then ""
    else logLine at_ stage e.code
      ("attempt " ++ toString i ++ "/" ++ toString limit ++ ": " ++ e.message) ++ "\n"

/-- The lines of the tries `i`, …, `i + n - 1` of a stage's call, whose outcomes `e` gives. -/
def attemptLines {α : Type} (at_ : Time.Instant) (stage : Stage) (limit : Nat)
    (e : Nat → Except Failure α) (i : Nat) : Nat → String
  | 0 => ""
  | n + 1 => attemptLine at_ stage limit i (e i) ++ attemptLines at_ stage limit e (i + 1) n

section CallRetries

variable {α : Type} (c : Services (StateM Nat)) (cfg : Settings) (stage : Stage)
  (f : Nat → Except Failure α)

/-- One try of a stage's call from a bench whose ledger holds the job: the try is counted
in memory and in the store, the collaborator is asked once, and a failure other than a cancelled
run is logged. The call then ends, answering as `callVerdict` says, when the outcome stops it or
the try was the last allowed; otherwise it goes on to the next try from there. -/
theorem play_call_try (k left : Nat) (st : RunState) (w : Bench Nat) {L : Ledger} {j : JobRow}
    {a : Int} (hdb : w.store.db = L.database)
    (hids : (L.jobs.records.map (·.id.toText)).Nodup) (hj : j ∈ L.jobs.records)
    (hid : j.id = st.job.id) (hatt : j.attempts = .int a) (hfit : Sql.fitsInt (a + 1) = true) :
    ∃ w', w'.store = { w.store with db := { L with
        jobs := L.jobs.update (JobRow.hasId st.job.id.toText) fun _ => { j with
          attempts := .int (a + 1),
          workerLog := j.workerLog ++
            attemptLine w.store.now stage cfg.retry.attempts k (f (w.rest + 1)),
          updatedAt := w.store.now } }.database } ∧
      w'.rest = w.rest + 1 ∧
      (callStops (f (w.rest + 1)) = true ∨ cfg.retry.attempts ≤ k →
        play (Orchestrator.call.go (Bench.orchestrator c cfg) stage (Bench.consult f) k (left + 1))
            st w =
          (.ok (callVerdict k (f (w.rest + 1)), { st with job := { st.job with
            attempts := st.job.attempts + 1,
            workerLog := st.job.workerLog ++
              attemptLine w.store.now stage cfg.retry.attempts k (f (w.rest + 1)) } }), w')) ∧
      (callStops (f (w.rest + 1)) = false → k < cfg.retry.attempts →
        play (Orchestrator.call.go (Bench.orchestrator c cfg) stage (Bench.consult f) k (left + 1))
            st w =
          play (Orchestrator.call.go (Bench.orchestrator c cfg) stage (Bench.consult f) (k + 1) left)
            { st with job := { st.job with
              attempts := st.job.attempts + 1,
              workerLog := st.job.workerLog ++
                attemptLine w.store.now stage cfg.retry.attempts k (f (w.rest + 1)) } } w') := by
  have hinc := Jobs.incrementAttempts_ok hdb hids st.job.id
  have hcount := Ledger.counted_job_eq hids hj (congrArg Uuid.toText hid) hatt hfit w.store.now
  have hx : j.id.toText = st.job.id.toText := congrArg Uuid.toText hid
  -- the ledger and the bench once the try is counted and the collaborator asked
  let L₁ : Ledger := { L with
    jobs := L.jobs.update (JobRow.hasId st.job.id.toText) (·.counted w.store.now) }
  let w₁ : Bench Nat := { w with store := { w.store with db := L₁.database }, rest := w.rest + 1 }
  rw [Orchestrator.call.go]
  simp only [play_bind, play_get, play_retried_ok c cfg st w hinc, play_setJob,
    play_observe, play_consult]
  rcases hf : f (w.rest + 1) with e | b
  · cases hc : e.has .contextCanceled with
    | true =>
      -- a cancelled run ends the call, with nothing logged
      refine ⟨w₁, ?_, rfl, fun _ => ?_, fun hs => by simp [callStops, hc] at hs⟩
      · simp [w₁, L₁, attemptLine, hc, hcount]
      · simp [w₁, L₁, hc, attemptLine, callVerdict]
    | false =>
      -- the failure is logged in memory and in the store
      obtain ⟨hids₁, hj₁⟩ := Ledger.rewrite_job hids hj hx (g := (·.counted w.store.now)) fun _ hi => hi
      have hlog := play_appendLog (L := L₁) c cfg
        { st with job := { st.job with attempts := st.job.attempts + 1 } } w₁
        rfl hids₁ hj₁ hid (Sql.Value.countedUp_isNull _)
      simp only [w₁, L₁] at hlog
      simp only [hc, Bool.false_eq_true, ↓reduceIte, play_bind, hlog, play_note,
        Bench.orchestrator_settings]
      refine ⟨{ w₁ with
          store := { w.store with db := { L with
            jobs := L₁.jobs.update (JobRow.hasId st.job.id.toText) (·.logged (logLine w.store.now
              stage e.code ("attempt " ++ toString k ++ "/" ++ toString cfg.retry.attempts ++ ": " ++
                e.message) ++ "\n") w.store.now) }.database },
          records := w.records ++ [⟨.warn, "pipeline.stage.attempt_failed", st.context ++
            [Log.text "stage" stage.name, Log.int "attempt" k, Log.int "max" cfg.retry.attempts,
              Log.text "code" e.code, Log.bool "retryable" e.retryable, Log.text "err" e.message]⟩] },
        ?_, rfl, fun hstop => ?_, fun hgo hlt => ?_⟩
      · -- the job in the store is counted, then logged
        simp only [L₁, Ledger.update_job_update (g := (·.counted w.store.now)) (fun _ => rfl)]
        rw [Ledger.update_job_congr hids hj hx ?_]
        simp [JobRow.counted, JobRow.logged, hatt, Sql.Value.countedUp_int hfit, attemptLine, hc]
      · -- a failure that may not be tried again, or one at the limit, ends the call
        cases hr : e.retryable with
        | false => simp [w₁, L₁, hr, callVerdict, hc, attemptLine, String.append_assoc]
        | true =>
          have hk : cfg.retry.attempts ≤ k := by simpa [callStops, hc, hr] using hstop
          simp [w₁, L₁, hr, hk, callVerdict, hc, attemptLine, String.append_assoc]
      · -- one that may be tried again before the limit goes on to the next try
        have hr : e.retryable = true := by simpa [callStops, hc] using hgo
        simp [w₁, L₁, hr, Nat.not_le.mpr hlt, attemptLine, hc, String.append_assoc, play_bind]
  · -- a success ends the call
    refine ⟨w₁, ?_, rfl, fun _ => ?_, fun hs => by simp [callStops] at hs⟩
    · simp [w₁, L₁, attemptLine, hcount]
    · simp [w₁, L₁, attemptLine, callVerdict]

/-- From its try `k`, after tries that went on, a stage's call makes the tries up to the last
one, answering as `callVerdict` says. Each try is counted on the job in memory and in the
store, and the failures that were not a cancelled run are logged, one line each. The induction
is on the tries left; the bench has counted the answers asked for before the try `k` since
`r₀`, and the job's count of attempts in the store stays a 64-bit integer. -/
theorem play_call_go (r₀ : Nat) :
    ∀ left k (st : RunState) (w : Bench Nat) (L : Ledger) (j : JobRow) (a : Int),
      k + left = cfg.retry.attempts → 1 ≤ k → w.rest + 1 = r₀ + k →
      (∀ i, 1 ≤ i → i < k → callStops (f (r₀ + i)) = false) →
      w.store.db = L.database → (L.jobs.records.map (·.id.toText)).Nodup →
      j ∈ L.jobs.records → j.id = st.job.id → j.attempts = .int a → 0 ≤ a →
      Sql.fitsInt (a + (left + 1)) = true →
      ∃ k', LastTry (fun i => callStops (f (r₀ + i))) cfg.retry.attempts k' ∧ k ≤ k' ∧ ∃ w',
        play (Orchestrator.call.go (Bench.orchestrator c cfg) stage (Bench.consult f) k (left + 1))
            st w =
          (.ok (callVerdict k' (f (r₀ + k')), { st with job := { st.job with
            attempts := st.job.attempts + (k' + 1 - k : Nat),
            workerLog := st.job.workerLog ++ attemptLines w.store.now stage cfg.retry.attempts
              (fun i => f (r₀ + i)) k (k' + 1 - k) } }), w') ∧
        w'.rest = r₀ + k' ∧
        w'.store = { w.store with db := { L with
          jobs := L.jobs.update (JobRow.hasId st.job.id.toText) fun _ => { j with
            attempts := .int (a + (k' + 1 - k : Nat)),
            workerLog := j.workerLog ++ attemptLines w.store.now stage cfg.retry.attempts
              (fun i => f (r₀ + i)) k (k' + 1 - k),
            updatedAt := w.store.now } }.database } := by
  intro left
  induction left with
  | zero =>
    intro k st w L j a hk hpos hrest hbefore hdb hids hj hid hatt ha hfit
    obtain ⟨w', hstore, hrest', hstop, -⟩ :=
      play_call_try c cfg stage f k 0 st w hdb hids hj hid hatt (by simpa using hfit)
    rw [hrest] at hstore hstop
    -- the try at the limit is the last
    refine ⟨k, LastTry.at_limit hpos (by omega) hbefore, le_refl k, w', ?_, by omega, ?_⟩
    · rw [hstop (.inr (by omega))]
      simp [attemptLines]
    · rw [hstore]
      simp [attemptLines]
  | succ left ih =>
    intro k st w L j a hk hpos hrest hbefore hdb hids hj hid hatt ha hfit
    have hfit₁ : Sql.fitsInt (a + 1) = true := by
      have := (fitsInt_iff _).mp hfit
      exact (fitsInt_iff _).mpr ⟨by omega, by omega⟩
    obtain ⟨w', hstore, hrest', hstop, hgo⟩ :=
      play_call_try c cfg stage f k (left + 1) st w hdb hids hj hid hatt hfit₁
    rw [hrest] at hstore hstop hgo
    cases hs : callStops (f (r₀ + k)) with
    | true =>
      -- the try stops the call
      refine ⟨k, LastTry.of_stops hpos (by omega) hbefore hs, le_refl k, w', ?_, by omega, ?_⟩
      · rw [hstop (.inl hs)]
        simp [attemptLines]
      · rw [hstore]
        simp [attemptLines]
    | false =>
      -- the next try starts from the job counted, and logged if the try was
      have hlt : k < cfg.retry.attempts := by omega
      have hx : j.id.toText = st.job.id.toText := congrArg Uuid.toText hid
      let j₁ : JobRow := { j with
        attempts := .int (a + 1),
        workerLog := j.workerLog ++ attemptLine w.store.now stage cfg.retry.attempts k (f (r₀ + k)),
        updatedAt := w.store.now }
      obtain ⟨hids₁, hj₁⟩ := Ledger.rewrite_job hids hj hx (g := fun _ => j₁) fun _ _ => hx
      have hfit' : Sql.fitsInt (a + 1 + (left + 1)) = true := by
        convert hfit using 2
        push_cast
        ring
      obtain ⟨k', hlast, hk', w'', hplay, hrest'', hstore''⟩ :=
        ih (k + 1) { st with job := { st.job with
            attempts := st.job.attempts + 1,
            workerLog := st.job.workerLog ++
              attemptLine w.store.now stage cfg.retry.attempts k (f (r₀ + k)) } } w' _ j₁ (a + 1)
          (by omega) (by omega) (by omega)
          (LastTry.goes_on_succ hbefore hs) (by rw [hstore]) hids₁ hj₁ hid rfl (by omega)
          hfit'
      have hnow : w'.store.now = w.store.now := by rw [hstore]
      rw [hnow] at hplay hstore''
      have hn : k' + 1 - k = (k' + 1 - (k + 1)) + 1 := by omega
      have hcount : ∀ b : Int, b + 1 + ((k' + 1 - (k + 1) : Nat) : Int) = b + ((k' + 1 - k : Nat) : Int) := by
        intro b
        omega
      refine ⟨k', hlast, by omega, w'', ?_, hrest'', ?_⟩
      · rw [hgo hs hlt, hplay]
        simp only [hcount, hn, attemptLines, String.append_assoc]
      · -- the two rewrites of the job in the store are one
        rw [hstore'', hstore]
        simp only
        rw [Rows.update_update (fun _ _ => by simp [JobRow.hasId, hx])]
        simp only [j₁, Function.comp_def, hcount, hn, attemptLines, String.append_assoc]

end CallRetries

/-! ## The retries of a stage's call, from the first try -/

section Retries

variable {α : Type} (c : Services (StateM Nat)) (cfg : Settings) (stage : Stage)
  (f : Nat → Except Failure α)

/-- What a stage's call does from the bench `w`, whose ledger `L` holds the run's job `j` with
`a` attempts: it makes the tries up to the last one `k`, asking the collaborator `k` times, and
answers as `callVerdict` says. The job has `k` more attempts in memory and in the store, and one
line more in its log for each failed try that was not a cancelled run. -/
def CallRetried (st : RunState) (w : Bench Nat) (L : Ledger) (j : JobRow) (a : Int) : Prop :=
  ∃ k, LastTry (fun i => callStops (f (w.rest + i))) cfg.retry.attempts k ∧ ∃ w',
    play ((Bench.orchestrator c cfg).call stage (Bench.consult f)) st w =
      (.ok (callVerdict k (f (w.rest + k)), { st with job := { st.job with
        attempts := st.job.attempts + k,
        workerLog := st.job.workerLog ++
          attemptLines w.store.now stage cfg.retry.attempts (fun i => f (w.rest + i)) 1 k } }), w') ∧
    w'.rest = w.rest + k ∧
    w'.store = { w.store with db := { L with
      jobs := L.jobs.update (JobRow.hasId st.job.id.toText) fun _ => { j with
        attempts := .int (a + k),
        workerLog := j.workerLog ++
          attemptLines w.store.now stage cfg.retry.attempts (fun i => f (w.rest + i)) 1 k,
        updatedAt := w.store.now } }.database }

/-- What the retries of a store operation do from the bench `w`: they make the tries up to the
last one `k`, asking the store `k` times, and answer as `storeVerdict` says, leaving the
metadata store alone. -/
def StoreRetried (st : RunState) (w : Bench Nat) : Prop :=
  ∃ k, LastTry (fun i => storeStops (f (w.rest + i))) cfg.retry.attempts k ∧ ∃ w',
    play (retryStore cfg.retry.attempts (Bench.orchestrator c cfg).storeRetry (Bench.consult f))
        st w = (.ok (storeVerdict k (f (w.rest + k)), st), w') ∧
    w'.rest = w.rest + k ∧ w'.store = w.store

theorem play_retryStore (st : RunState) (w : Bench Nat) : StoreRetried c cfg f st w := by
  obtain ⟨m, hm⟩ := attempts_eq_succ cfg
  unfold StoreRetried
  rw [retryStore, hm]
  exact play_retryStore_go c cfg f w.rest (m + 1) m 1 st w (by omega) le_rfl rfl
    fun i h h' => by omega

theorem play_call (st : RunState) (w : Bench Nat) {L : Ledger} {j : JobRow} {a : Int}
    (hdb : w.store.db = L.database)
    (hids : (L.jobs.records.map (·.id.toText)).Nodup) (hj : j ∈ L.jobs.records)
    (hid : j.id = st.job.id) (hatt : j.attempts = .int a) (ha : 0 ≤ a)
    (hfit : Sql.fitsInt (a + cfg.retry.attempts) = true) :
    CallRetried c cfg stage f st w L j a := by
  obtain ⟨m, hm⟩ := attempts_eq_succ cfg
  have hfit' : Sql.fitsInt (a + (m + 1)) = true := by
    rw [hm] at hfit
    exact_mod_cast hfit
  obtain ⟨k, hlast, -, w', hplay, hrest, hstore⟩ :=
    play_call_go c cfg stage f w.rest m 1 st w L j a (by omega) le_rfl rfl
      (fun i h h' => by omega) hdb hids hj hid hatt ha hfit'
  refine ⟨k, hlast, w', ?_, by omega, ?_⟩
  · rw [Orchestrator.call, show (Bench.orchestrator c cfg).settings.retry.attempts = m + 1 from hm,
      hplay]
    simp
  · rw [hstore]
    simp

end Retries

/-- Retries of a stage's call and of a store operation, with no other process at work on the
store. From a bench whose ledger holds the run's job, with distinct job identifiers and a count
of attempts that stays a 64-bit integer, a stage's call makes its tries up to the first whose
outcome stops it (a success, a cancelled run, a failure that may not be tried again) or the
policy's limit, and the retries of a store operation up to the first success, failure other
than an unavailable store, or the limit (`CallRetried`, `StoreRetried`). A failure that ran out
of attempts keeps the code and the causes of the last one, is of the infrastructure kind and may
not be tried again. -/
theorem call_retries_until_stop {α : Type} (c : Services (StateM Nat)) (cfg : Settings)
    (stage : Stage) (f : Nat → Except Failure α) (st : RunState) (w : Bench Nat) (L : Ledger)
    (j : JobRow) (a : Int) (hdb : w.store.db = L.database)
    (hids : (L.jobs.records.map (·.id.toText)).Nodup) (hj : j ∈ L.jobs.records)
    (hid : j.id = st.job.id) (hatt : j.attempts = .int a) (ha : 0 ≤ a)
    (hfit : Sql.fitsInt (a + cfg.retry.attempts) = true) :
    CallRetried c cfg stage f st w L j a ∧
      (∀ {β : Type} (g : Nat → Except Failure β) (st' : RunState) (w' : Bench Nat),
        StoreRetried c cfg g st' w') ∧
      ∀ (e : Failure) (n : Nat), (exhausted e n).code = e.code ∧
        (exhausted e n).kind = .infrastructure ∧ (exhausted e n).retryable = false ∧
        ∀ cause, (exhausted e n).has cause = e.has cause :=
  ⟨play_call c cfg stage f st w hdb hids hj hid hatt ha hfit,
    fun g st' w' => play_retryStore c cfg g st' w',
    fun e n => ⟨exhausted_code e n, exhausted_kind e n, exhausted_retryable e n, exhausted_has e n⟩⟩

/-- A job at `OCR_RUNNING` with no attempts yet, alone in the ledger. -/
def firstJob : JobRow :=
  ⟨⟨1⟩, ⟨2⟩, "RUNNING", "OCR_RUNNING", .int 0, false, "", none, none, none, ⟨0⟩, none, none, ⟨0⟩⟩

/-- The ledger that holds `firstJob` alone. -/
def firstJobLedger : Ledger := ⟨[], 1, Rows.empty, Rows.empty.push firstJob, Rows.empty, Rows.empty⟩

/-- A bench on the database of `firstJobLedger`. -/
def firstJobBench : Bench Nat := ⟨⟨firstJobLedger.database, ⟨0⟩, 0, []⟩, 0, []⟩

/-- A run of `firstJob` that has loaded nothing yet. -/
def firstJobRun : RunState :=
  .start ⟨⟨1⟩, ⟨2⟩, .running, .ocrRunning, 0, false, "", none, none, none, ⟨0⟩, none, none⟩ []

/-- Settings with the default retry policy, three attempts. -/
def defaultRetrySettings : Settings := ⟨RetryPolicy.default, default, default, 5, default, default⟩

/-- A collaborator that times out on its first call and answers on the second. -/
def timesOutOnce (n : Nat) : Except Failure Nat := if n = 1 then .error (.cause .timeout) else .ok n

/-- Collaborators other than the store, the clock and the log, none of which a call asks. -/
def idleServices : Services (StateM Nat) :=
  ⟨fun _ => pure (.error (.cause .storeUnavailable)), fun _ => pure (.error (.cause .storeUnavailable)),
    fun _ _ => pure (.ok []), ⟨"", fun _ => pure (.ok "")⟩, pure ⟨0⟩, pure (), fun _ => pure (),
    pure ⟨0⟩, fun _ => pure (.ok ()), none⟩

theorem call_retries_until_stop_on_first_job :
    (firstJobBench.store.db = firstJobLedger.database ∧
      (firstJobLedger.jobs.records.map (·.id.toText)).Nodup ∧
      firstJob ∈ firstJobLedger.jobs.records ∧ firstJob.id = firstJobRun.job.id ∧
      firstJob.attempts = .int 0 ∧ (0 : Int) ≤ 0 ∧
      Sql.fitsInt (0 + defaultRetrySettings.retry.attempts) = true) ∧
    CallRetried idleServices defaultRetrySettings .ocrRunning timesOutOnce firstJobRun firstJobBench
      firstJobLedger firstJob 0 := by
  have hdb : firstJobBench.store.db = firstJobLedger.database := rfl
  have hids : (firstJobLedger.jobs.records.map (·.id.toText)).Nodup := by simp [firstJobLedger]
  have hj : firstJob ∈ firstJobLedger.jobs.records := by simp [firstJobLedger]
  have hfit : Sql.fitsInt (0 + defaultRetrySettings.retry.attempts) = true := by decide
  exact ⟨⟨hdb, hids, hj, rfl, rfl, le_rfl, hfit⟩,
    (call_retries_until_stop idleServices defaultRetrySettings .ocrRunning timesOutOnce firstJobRun
      firstJobBench firstJobLedger firstJob 0 hdb hids hj rfl rfl le_rfl hfit).1⟩

end CreditExtraction.Pipeline
