import Mathlib.Logic.Relation
import CreditExtraction.Proofs.Store.Delivery

/-! # The stage machine of jobs

A job goes through its stages in one order, `CREATED`, `OCR_RUNNING`, `NORMALIZING`,
`EXTRACTING`, `VALIDATING`, `PERSISTING`, `FINISHED`, and may leave any stage before the end for
`ERROR`. One transaction changes a job only as `JobRow.Step` says:

* its stage stays, moves to the next one while no cancel was asked, or moves from a working
  stage to `ERROR`; so `FINISHED` and `ERROR` are absorbing (`JobRow.Step.stage_of_ended`) and a
  job asked to cancel moves on only to `ERROR` (`JobRow.Step.stage_of_cancelled`);
* a cancel, once asked, stays, and is asked only of a working job;
* the log grows by one line at most;
* the result, once written, stays, and is written only when the job finishes.

A ledger keeps the rules of its jobs (`Ledger.JobsSound`): each job's state is the one of its
stage, a finished job was never asked to cancel, and a job has a result and field rows only
once it has finished, the rows being the fields of its result at their positions.

Every move keeps the rules and changes the jobs by steps (`Move.jobs`), so every call of every
run of the store changes its jobs by such steps, between ledgers that keep the rules
(`job_stage_machine`). -/

namespace CreditExtraction.Store

open Sql

/-! ## Stages -/

/-- The stage after a working one reads back from its name. -/
theorem Stage.ofName_next_name {s t : Stage} (h : s.next = some t) : Stage.ofName t.name = t := by
  cases s <;> simp only [Stage.next, Option.some.injEq, reduceCtorEq] at h <;> subst h <;> rfl

/-- A working stage reads back from its name. -/
theorem Stage.ofName_name_of_next {s t : Stage} (h : s.next = some t) :
    Stage.ofName s.name = s := by
  cases s <;> simp only [Stage.next, reduceCtorEq] at h <;> rfl

/-- Only `PERSISTING` is followed by `FINISHED`. -/
theorem Stage.eq_persisting {s t : Stage} (h : s.next = some t) (ht : t.name = "FINISHED") :
    s = .persisting := by
  cases s <;> simp only [Stage.next, Option.some.injEq, reduceCtorEq] at h <;> subst h <;>
    simp_all [Stage.name]

/-! ## One job -/

namespace JobRow

theorem open_iff (j : JobRow) : j.open_ = true ↔ j.stage ≠ "FINISHED" ∧ j.stage ≠ "ERROR" := by
  simp [open_]

theorem of_atStage {j : JobRow} {x s : String} (h : j.atStage x s = true) :
    j.id.toText = x ∧ j.stage = s ∧ j.cancelRequested = false := by
  simp only [atStage, Bool.and_eq_true, beq_iff_eq, Bool.not_eq_true'] at h
  exact ⟨h.1.1, h.1.2, h.2⟩

theorem of_openWith {j : JobRow} {x : String} (h : j.openWith x = true) :
    j.id.toText = x ∧ j.open_ = true := by
  simpa [openWith] using h

/-- The rules a job keeps. -/
structure Sound (j : JobRow) : Prop where
  state : j.state = (Stage.ofName j.stage).jobState.name
  finished_uncancelled : j.stage = "FINISHED" → j.cancelRequested = false
  result_finished : j.result.isSome → j.stage = "FINISHED"

/-- How one transaction may change a job (see the module comment). -/
structure Step (j j' : JobRow) : Prop where
  id : j'.id = j.id
  document : j'.document = j.document
  stage : j'.stage = j.stage ∨
    (∃ t, (Stage.ofName j.stage).next = some t ∧ j'.stage = t.name ∧ j.cancelRequested = false) ∨
    (j.open_ = true ∧ j'.stage = "ERROR")
  cancel_kept : j.cancelRequested = true → j'.cancelRequested = true
  cancel_open : j.cancelRequested = false → j'.cancelRequested = true → j.open_ = true
  log : j'.workerLog = j.workerLog ∨ ∃ entry, j'.workerLog = j.workerLog ++ (entry ++ "\n")
  result_kept : j.result.isSome → j'.result = j.result
  result_written : j'.result ≠ j.result → j.stage = "PERSISTING" ∧ j'.stage = "FINISHED"

/-- A job that has ended stays where it is. -/
theorem Step.stage_of_ended {j j' : JobRow} (h : j.Step j') (hend : j.open_ = false) :
    j'.stage = j.stage := by
  rcases h.stage with hs | ⟨t, hnext, -, -⟩ | ⟨hopen, -⟩
  · exact hs
  · -- an ended stage reads as `FINISHED` or `ERROR`, and neither has a next one
    have hterm : (Stage.ofName j.stage).terminal = true := by simpa [open_eq] using hend
    cases hst : Stage.ofName j.stage <;> simp_all [Stage.terminal, Stage.next]
  · simp [hend] at hopen

/-- A job asked to cancel moves on only to `ERROR`. -/
theorem Step.stage_of_cancelled {j j' : JobRow} (h : j.Step j') (hc : j.cancelRequested = true) :
    j'.stage = j.stage ∨ j'.stage = "ERROR" := by
  rcases h.stage with hs | ⟨t, -, -, hno⟩ | ⟨-, he⟩
  · exact Or.inl hs
  · simp [hc] at hno
  · exact Or.inr he

variable {j : JobRow} {at_ : Time.Instant}

/-- A rewrite that keeps a job's identifiers, stage, cancel and result, and grows its log by a
line at most, is a step. -/
theorem Step.of_kept {j' : JobRow} (hid : j'.id = j.id) (hdoc : j'.document = j.document)
    (hstage : j'.stage = j.stage) (hcancel : j'.cancelRequested = j.cancelRequested)
    (hlog : j'.workerLog = j.workerLog ∨ ∃ entry, j'.workerLog = j.workerLog ++ (entry ++ "\n"))
    (hresult : j'.result = j.result) : j.Step j' where
  id := hid
  document := hdoc
  stage := Or.inl hstage
  cancel_kept := fun h => hcancel.trans h
  cancel_open := fun h h' => absurd (h.symm.trans (hcancel.symm.trans h')) Bool.false_ne_true
  log := hlog
  result_kept := fun _ => hresult
  result_written := fun h => absurd hresult h

theorem Step.refl (j : JobRow) : j.Step j :=
  Step.of_kept rfl rfl rfl rfl (Or.inl rfl) rfl

theorem Sound.of_kept {j' : JobRow} (hs : j.Sound) (hstate : j'.state = j.state)
    (hstage : j'.stage = j.stage) (hcancel : j'.cancelRequested = j.cancelRequested)
    (hresult : j'.result = j.result) : j'.Sound where
  state := by rw [hstate, hstage]; exact hs.state
  finished_uncancelled := fun h => by rw [hcancel]; exact hs.finished_uncancelled (hstage ▸ h)
  result_finished := fun h => by rw [hstage]; exact hs.result_finished (hresult ▸ h)

/-- Advancing a job at a working stage other than `PERSISTING` keeps its rules. -/
theorem Sound.advanced (hs : j.Sound) {src tgt : Stage} (hat : j.stage = src.name)
    (hnext : src.next = some tgt) (hsrc : src ≠ .persisting) (started : Bool) :
    (j.advanced tgt started at_).Sound where
  state := by simp [JobRow.advanced, Stage.ofName_next_name hnext]
  finished_uncancelled := fun h => absurd (Stage.eq_persisting hnext h) hsrc
  result_finished := fun h =>
    -- a job at a working stage has no result yet
    absurd (hat.symm.trans (hs.result_finished h)) (Stage.open_of_next hnext).1

theorem Step.advanced {src tgt : Stage} (hat : j.stage = src.name) (hnext : src.next = some tgt)
    (hc : j.cancelRequested = false) (started : Bool) : j.Step (j.advanced tgt started at_) where
  id := rfl
  document := rfl
  stage := Or.inr (Or.inl ⟨tgt, by rw [hat, Stage.ofName_name_of_next hnext, hnext], rfl, hc⟩)
  cancel_kept := fun h => h
  cancel_open := fun h h' => absurd (h.symm.trans h') Bool.false_ne_true
  log := Or.inl rfl
  result_kept := fun _ => rfl
  result_written := fun h => absurd rfl h

/-- Asking a working job to cancel keeps its rules. -/
theorem Sound.cancelled (hs : j.Sound) (hopen : j.open_ = true) : (j.cancelled at_).Sound where
  state := hs.state
  finished_uncancelled := fun h => absurd h ((open_iff j).mp hopen).1
  result_finished := hs.result_finished

theorem Step.cancelled (hopen : j.open_ = true) : j.Step (j.cancelled at_) where
  id := rfl
  document := rfl
  stage := Or.inl rfl
  cancel_kept := fun _ => rfl
  cancel_open := fun _ _ => hopen
  log := Or.inl rfl
  result_kept := fun _ => rfl
  result_written := fun h => absurd rfl h

/-- Failing a working job keeps its rules. -/
theorem Sound.failed (hs : j.Sound) (hopen : j.open_ = true) (code message entry : String) :
    (j.failed code message entry at_).Sound where
  state := by
    show "ERROR" = (Stage.ofName "ERROR").jobState.name
    decide
  finished_uncancelled := fun h => absurd h (by simp [JobRow.failed])
  result_finished := fun h => absurd (hs.result_finished h) ((open_iff j).mp hopen).1

theorem Step.failed (hopen : j.open_ = true) (code message entry : String) :
    j.Step (j.failed code message entry at_) where
  id := rfl
  document := rfl
  stage := Or.inr (Or.inr ⟨hopen, rfl⟩)
  cancel_kept := fun h => h
  cancel_open := fun _ _ => hopen
  log := by
    -- an empty entry leaves the log alone
    by_cases he : entry = ""
    · exact Or.inl (by simp [JobRow.failed, he])
    · exact Or.inr ⟨entry, by simp [JobRow.failed, he]⟩
  result_kept := fun _ => rfl
  result_written := fun h => absurd rfl h

/-- Finishing a job that was not asked to cancel keeps its rules. -/
theorem Sound.finished (hc : j.cancelRequested = false) (payload : String) :
    (j.finished payload at_).Sound where
  state := by
    show "FINISHED" = (Stage.ofName "FINISHED").jobState.name
    decide
  finished_uncancelled := fun _ => hc
  result_finished := fun _ => rfl

theorem Step.finished (hs : j.Sound) (hat : j.stage = "PERSISTING") (hc : j.cancelRequested = false)
    (payload : String) : j.Step (j.finished payload at_) where
  id := rfl
  document := rfl
  stage := Or.inr (Or.inl ⟨.finished, by rw [hat]; rfl, rfl, hc⟩)
  cancel_kept := fun h => h
  cancel_open := fun h h' => absurd (h.symm.trans h') Bool.false_ne_true
  log := Or.inl rfl
  -- a job at `PERSISTING` has no result yet
  result_kept := fun h => absurd (hat.symm.trans (hs.result_finished h)) (by decide)
  result_written := fun _ => ⟨hat, rfl⟩

/-- A new job keeps the rules. -/
theorem sound_created (id document : Uuid) : (JobRow.created id document at_).Sound where
  state := by
    show "CREATED" = (Stage.ofName "CREATED").jobState.name
    decide
  finished_uncancelled := fun _ => rfl
  result_finished := fun h => absurd h (by simp [JobRow.created])

end JobRow

/-! ## The jobs of a ledger -/

/-- The field rows of a job, in row order. -/
def Ledger.fieldsOf (L : Ledger) (x : String) : List FieldRow :=
  L.fields.records.filter (·.job.toText == x)

/-- A ledger whose jobs keep their rules. -/
structure Ledger.JobsSound (L : Ledger) : Prop where
  ids_nodup : (L.jobs.records.map (·.id.toText)).Nodup
  rows : ∀ j ∈ L.jobs.records, j.Sound
  finished_result : ∀ j ∈ L.jobs.records, j.stage = "FINISHED" →
    ∃ r : PipelineResult, j.result = some (Json.render r.toJson) ∧
      (L.fieldsOf j.id.toText).map (fun f => (f.field, f.position)) = r.fields.zipIdx
  fields_finished : ∀ f ∈ L.fields.records,
    ∃ j ∈ L.jobs.records, j.id.toText = f.job.toText ∧ j.stage = "FINISHED"

/-- How one transaction may change the jobs: none disappears, each one there before changes by
a step, a new one starts at `CREATED` with no cancel, log or result, and the field rows of a
job change only when it finishes. -/
structure Ledger.JobsStep (L L' : Ledger) : Prop where
  ids : L.jobs.records.map (·.id.toText) <+: L'.jobs.records.map (·.id.toText)
  step : ∀ j' ∈ L'.jobs.records, (∃ j ∈ L.jobs.records, j.Step j') ∨
    ((∀ j ∈ L.jobs.records, j.id.toText ≠ j'.id.toText) ∧ j'.stage = "CREATED" ∧
      j'.cancelRequested = false ∧ j'.workerLog = "" ∧ j'.result = none)
  fields : ∀ x, L'.fieldsOf x ≠ L.fieldsOf x →
    ∃ j ∈ L.jobs.records, ∃ j' ∈ L'.jobs.records, j.id.toText = x ∧ j.Step j' ∧
      j.stage = "PERSISTING" ∧ j'.stage = "FINISHED"

section Jobs

variable {L L' : Ledger}

theorem Ledger.fieldsOf_congr (hf : L'.fields = L.fields) (x : String) :
    L'.fieldsOf x = L.fieldsOf x := by
  simp only [Ledger.fieldsOf, hf]

/-- The jobs after a rewrite: each is a job before, rewritten where the condition held. -/
theorem Rows.mem_update {α : Type} {rs : Rows α} {p : α → Bool} {f : α → α} {a' : α}
    (h : a' ∈ (rs.update p f).records) : ∃ a ∈ rs.records, a' = if p a then f a else a := by
  rw [Rows.records_update, List.mem_map] at h
  obtain ⟨a, ha, rfl⟩ := h
  exact ⟨a, ha, rfl⟩

theorem Rows.mem_update_of_mem {α : Type} {rs : Rows α} {p : α → Bool} (f : α → α) {a : α}
    (h : a ∈ rs.records) : (if p a then f a else a) ∈ (rs.update p f).records := by
  rw [Rows.records_update]
  exact List.mem_map_of_mem h

/-- A rewrite of jobs that keeps their identifiers keeps the list of identifiers. -/
theorem Rows.ids_update {p : JobRow → Bool} {f : JobRow → JobRow} (J : Rows JobRow)
    (hid : ∀ j, (f j).id = j.id) :
    (J.update p f).records.map (·.id.toText) = J.records.map (·.id.toText) :=
  Rows.map_update _ _ _ _ fun j _ => by rw [hid]

theorem Ledger.JobsStep.of_eq (hj : L'.jobs = L.jobs) (hf : L'.fields = L.fields) :
    L.JobsStep L' where
  ids := hj ▸ List.prefix_refl _
  step := fun j' hj' => Or.inl ⟨j', hj ▸ hj', JobRow.Step.refl j'⟩
  fields := fun x hx => absurd (Ledger.fieldsOf_congr hf x) hx

theorem Ledger.JobsSound.of_eq (hs : L.JobsSound) (hj : L'.jobs = L.jobs)
    (hf : L'.fields = L.fields) : L'.JobsSound where
  ids_nodup := hj ▸ hs.ids_nodup
  rows := hj ▸ hs.rows
  finished_result := by
    simp only [Ledger.fieldsOf_congr hf, hj]
    exact hs.finished_result
  fields_finished := by
    rw [hf, hj]
    exact hs.fields_finished

/-- A rewrite of jobs that keeps identifiers changes each job by a step, when each rewritten
job is. -/
theorem Ledger.JobsStep.update (hs : L.JobsSound) {p : JobRow → Bool} {f : JobRow → JobRow}
    (hjobs : L'.jobs = L.jobs.update p f) (hid : ∀ j, (f j).id = j.id)
    (hstep : ∀ j, p j = true → j.Sound → j.Step (f j))
    (hfields : ∀ x, L'.fieldsOf x ≠ L.fieldsOf x →
      ∃ j ∈ L.jobs.records, ∃ j' ∈ L'.jobs.records, j.id.toText = x ∧ j.Step j' ∧
        j.stage = "PERSISTING" ∧ j'.stage = "FINISHED") : L.JobsStep L' where
  ids := by
    have hids : L'.jobs.records.map (·.id.toText) = L.jobs.records.map (·.id.toText) := by
      rw [hjobs, Rows.ids_update _ hid]
    exact hids ▸ List.prefix_refl _
  step := by
    intro j' hj'
    rw [hjobs] at hj'
    obtain ⟨j, hj, rfl⟩ := Rows.mem_update hj'
    refine Or.inl ⟨j, hj, ?_⟩
    by_cases hp : p j
    · simpa [hp] using hstep j hp (hs.rows j hj)
    · simpa [hp] using JobRow.Step.refl j
  fields := hfields

/-- A rewrite of jobs that keeps the field rows keeps the rules, when each rewritten job keeps
its identifier and rules, is finished exactly when it was, and then keeps its result. -/
theorem Ledger.JobsSound.update (hs : L.JobsSound) {p : JobRow → Bool} {f : JobRow → JobRow}
    (hjobs : L'.jobs = L.jobs.update p f) (hf : L'.fields = L.fields)
    (hid : ∀ j, (f j).id = j.id) (hrow : ∀ j, p j = true → j.Sound → (f j).Sound)
    (hfin : ∀ j, p j = true → ((f j).stage = "FINISHED" ↔ j.stage = "FINISHED"))
    (hres : ∀ j, p j = true → j.stage = "FINISHED" → (f j).result = j.result) :
    L'.JobsSound where
  ids_nodup := by
    rw [hjobs, Rows.ids_update _ hid]
    exact hs.ids_nodup
  rows := by
    intro j' hj'
    rw [hjobs] at hj'
    obtain ⟨j, hj, rfl⟩ := Rows.mem_update hj'
    by_cases hp : p j
    · simpa [hp] using hrow j hp (hs.rows j hj)
    · simpa [hp] using hs.rows j hj
  finished_result := by
    intro j' hj' hfin'
    rw [hjobs] at hj'
    obtain ⟨j, hj, rfl⟩ := Rows.mem_update hj'
    rw [Ledger.fieldsOf_congr hf]
    by_cases hp : p j
    · simp only [hp, ↓reduceIte] at hfin' ⊢
      have hfinj := (hfin j hp).mp hfin'
      rw [hres j hp hfinj, hid]
      exact hs.finished_result j hj hfinj
    · simp only [hp, Bool.false_eq_true, ↓reduceIte] at hfin' ⊢
      exact hs.finished_result j hj hfin'
  fields_finished := by
    intro r hr
    obtain ⟨j, hj, hidj, hfinj⟩ := hs.fields_finished r (hf ▸ hr)
    refine ⟨_, hjobs ▸ Rows.mem_update_of_mem f hj, ?_⟩
    by_cases hp : p j
    · simp only [hp, ↓reduceIte]
      exact ⟨by rw [hid]; exact hidj, (hfin j hp).mpr hfinj⟩
    · simp only [hp, Bool.false_eq_true, ↓reduceIte]
      exact ⟨hidj, hfinj⟩

/-- Failing a job keeps the rules and changes the job by a step. -/
theorem Ledger.failed_jobs (hs : L.JobsSound) (x doc code message entry : String)
    (status : DocumentStatus) (at_ : Time.Instant) :
    (L.failed x doc code message entry status at_).JobsSound ∧
      L.JobsStep (L.failed x doc code message entry status at_) := by
  have hopen : ∀ j, JobRow.openWith x j = true → j.open_ = true :=
    fun j h => (JobRow.of_openWith h).2
  refine ⟨hs.update (p := JobRow.openWith x) (f := (·.failed code message entry at_)) rfl rfl
    (fun _ => rfl) (fun j hp hsj => hsj.failed (hopen j hp) _ _ _)
    (fun j hp => iff_of_false (by simp [JobRow.failed]) ((JobRow.open_iff j).mp (hopen j hp)).1)
    (fun j hp hfin => absurd hfin ((JobRow.open_iff j).mp (hopen j hp)).1), ?_⟩
  exact Ledger.JobsStep.update (p := JobRow.openWith x) (f := (·.failed code message entry at_)) hs
    rfl (fun _ => rfl) (fun j hp _ => JobRow.Step.failed (hopen j hp) _ _ _)
    (fun y hy => absurd (Ledger.fieldsOf_congr rfl y) hy)

/-- A change of jobs is judged by the jobs and field rows before it only. -/
theorem Ledger.JobsStep.of_left {L₁ : Ledger} (h : L₁.JobsStep L') (hj : L₁.jobs = L.jobs)
    (hf : L₁.fields = L.fields) : L.JobsStep L' where
  ids := hj ▸ h.ids
  step := hj ▸ h.step
  fields := by
    simpa only [Ledger.fieldsOf_congr hf, hj] using h.fields

/-- Giving up on a job keeps the rules and changes the jobs by steps. -/
theorem Ledger.Abandons.jobs {x : String} {at_ : Time.Instant} (h : L.Abandons x at_ L')
    (hs : L.JobsSound) : L'.JobsSound ∧ L.JobsStep L' := by
  rcases h with ⟨rfl, -⟩ | ⟨doc, message, entry, -, -, rfl⟩
  · exact ⟨hs, Ledger.JobsStep.of_eq rfl rfl⟩
  · exact L.failed_jobs hs _ _ _ _ _ _ _

/-- A new job under an unused identifier keeps the rules, and starts as a new job. -/
theorem Ledger.created_jobs (hs : L.JobsSound) {j₀ : JobRow} (hj₀ : j₀.Sound)
    (hunfinished : j₀.stage ≠ "FINISHED")
    (hfresh : ∀ j ∈ L.jobs.records, j.id.toText ≠ j₀.id.toText)
    (hnew : j₀.stage = "CREATED" ∧ j₀.cancelRequested = false ∧ j₀.workerLog = "" ∧
      j₀.result = none)
    (hjobs : L'.jobs = L.jobs.push j₀) (hf : L'.fields = L.fields) :
    L'.JobsSound ∧ L.JobsStep L' := by
  have hmem : ∀ j ∈ L'.jobs.records, j ∈ L.jobs.records ∨ j = j₀ := by
    intro j hj
    simpa [hjobs] using hj
  refine ⟨⟨?_, ?_, ?_, ?_⟩, ⟨?_, ?_, fun y hy => absurd (Ledger.fieldsOf_congr hf y) hy⟩⟩
  · rw [hjobs, Rows.records_push, List.map_append]
    refine List.nodup_append.mpr ⟨hs.ids_nodup, List.nodup_singleton _, ?_⟩
    intro a ha b hb
    obtain ⟨j, hj, rfl⟩ := List.mem_map.mp ha
    rw [List.mem_singleton.mp hb]
    exact hfresh j hj
  · intro j hj
    rcases hmem j hj with hj | rfl
    · exact hs.rows j hj
    · exact hj₀
  · intro j hj hfin
    rcases hmem j hj with hj | rfl
    · rw [Ledger.fieldsOf_congr hf]
      exact hs.finished_result j hj hfin
    · exact absurd hfin hunfinished
  · intro r hr
    obtain ⟨j, hj, hid, hfin⟩ := hs.fields_finished r (hf ▸ hr)
    exact ⟨j, by simp [hjobs, hj], hid, hfin⟩
  · rw [hjobs, Rows.records_push, List.map_append]
    exact List.prefix_append _ _
  · intro j hj
    rcases hmem j hj with hj | rfl
    · exact Or.inl ⟨j, hj, JobRow.Step.refl j⟩
    · exact Or.inr ⟨hfresh, hnew⟩

/-! ## Finishing a job -/

section Finish

variable (L) {x doc payload : String} {rows : List FieldRow} {at_ : Time.Instant}

/-- After a job finishes, its field rows are the rows it stored. -/
theorem Ledger.fieldsOf_finished_self (hof : ∀ r ∈ rows, r.job.toText = x) :
    (L.finished x doc payload rows at_).fieldsOf x = rows := by
  simp only [Ledger.fieldsOf, Ledger.finished, Rows.records_pushAll, Rows.records_filter,
    List.filter_append]
  -- the rows kept are those of other jobs, the rows stored all the job's own
  rw [List.filter_eq_nil_iff.mpr fun r hr => by simpa using (List.mem_filter.mp hr).2,
    List.filter_eq_self.mpr fun r hr => by simp [hof r hr], List.nil_append]

/-- After a job finishes, the field rows of every other job are as they were. -/
theorem Ledger.fieldsOf_finished_other (hof : ∀ r ∈ rows, r.job.toText = x) {y : String}
    (hy : y ≠ x) : (L.finished x doc payload rows at_).fieldsOf y = L.fieldsOf y := by
  simp only [Ledger.fieldsOf, Ledger.finished, Rows.records_pushAll, Rows.records_filter,
    List.filter_append]
  have hnone : rows.filter (fun r => r.job.toText == y) = [] :=
    List.filter_eq_nil_iff.mpr fun r hr => by simp [hof r hr, Ne.symm hy]
  rw [hnone, List.append_nil, List.filter_filter]
  refine List.filter_congr fun r _ => ?_
  by_cases h : r.job.toText = y
  · simp [h, hy]
  · simp [h]

end Finish

/-- Finishing a job at `PERSISTING` keeps the rules: the job finishes with its result and its
field rows, those of every other job stay. -/
theorem Ledger.finished_jobs (hs : L.JobsSound) {job document : Uuid} {result : PipelineResult}
    {rows : List FieldRow} {at_ : Time.Instant}
    (hat : ∃ j ∈ L.jobs.records, j.atStage job.toText "PERSISTING" = true)
    (hrows : rows.map (fun r => (r.field, r.position)) = result.fields.zipIdx)
    (hof : ∀ r ∈ rows, r.job = job ∧ r.document = document) :
    (L.finished job.toText document.toText (Json.render result.toJson) rows at_).JobsSound ∧
      L.JobsStep (L.finished job.toText document.toText (Json.render result.toJson) rows at_) := by
  set x := job.toText
  set L' := L.finished x document.toText (Json.render result.toJson) rows at_
  obtain ⟨j₀, hj₀, hp₀⟩ := hat
  obtain ⟨hid₀, hstage₀, hc₀⟩ := JobRow.of_atStage hp₀
  have hofx : ∀ r ∈ rows, r.job.toText = x := fun r hr => by rw [(hof r hr).1]
  -- the job finished is the one job of its identifier
  have hother : ∀ j ∈ L.jobs.records, j.id.toText = x → j = j₀ := fun j hj hid =>
    List.inj_on_of_nodup_map hs.ids_nodup hj hj₀ (hid.trans hid₀.symm)
  have hfinished₀ : j₀.finished (Json.render result.toJson) at_ ∈ L'.jobs.records := by
    have h := Rows.mem_update_of_mem (p := JobRow.atStage x "PERSISTING")
      (·.finished (Json.render result.toJson) at_) hj₀
    rwa [if_pos hp₀] at h
  have hstep : L.JobsStep L' := Ledger.JobsStep.update (p := JobRow.atStage x "PERSISTING")
    (f := (·.finished (Json.render result.toJson) at_)) hs rfl (fun _ => rfl)
    (fun j hp hsj => JobRow.Step.finished hsj (JobRow.of_atStage hp).2.1 (JobRow.of_atStage hp).2.2 _)
    (fun y hy => by
      -- only the finished job's field rows change
      by_cases hyx : y = x
      · subst hyx
        exact ⟨j₀, hj₀, _, hfinished₀, hid₀,
          JobRow.Step.finished (hs.rows j₀ hj₀) hstage₀ hc₀ _, hstage₀, rfl⟩
      · exact absurd (L.fieldsOf_finished_other hofx hyx) hy)
  refine ⟨⟨?_, ?_, ?_, ?_⟩, hstep⟩
  · have hjobs : L'.jobs = L.jobs.update (JobRow.atStage x "PERSISTING")
        (·.finished (Json.render result.toJson) at_) := rfl
    rw [hjobs, Rows.ids_update (f := fun j : JobRow => j.finished (Json.render result.toJson) at_)
      L.jobs fun _ => rfl]
    exact hs.ids_nodup
  · intro j' hj'
    obtain ⟨j, hj, rfl⟩ := Rows.mem_update hj'
    by_cases hp : JobRow.atStage x "PERSISTING" j
    · have hsound : (j.finished (Json.render result.toJson) at_).Sound :=
        JobRow.Sound.finished (JobRow.of_atStage hp).2.2 _
      simpa [hp] using hsound
    · simpa [hp] using hs.rows j hj
  · intro j' hj' hfin'
    obtain ⟨j, hj, rfl⟩ := Rows.mem_update hj'
    by_cases hp : JobRow.atStage x "PERSISTING" j
    · -- the finished job: its result and the rows it stored
      simp only [hp, ↓reduceIte]
      have hid : j.id.toText = x := (JobRow.of_atStage hp).1
      refine ⟨result, rfl, ?_⟩
      rw [show (j.finished (Json.render result.toJson) at_).id.toText = x from hid,
        L.fieldsOf_finished_self hofx]
      exact hrows
    · -- another finished job, of another identifier
      simp only [hp, Bool.false_eq_true, ↓reduceIte] at hfin' ⊢
      have hid : j.id.toText ≠ x := fun hid => by
        rw [hother j hj hid] at hp
        exact hp hp₀
      rw [L.fieldsOf_finished_other hofx hid]
      exact hs.finished_result j hj hfin'
  · intro r hr
    simp only [L', Ledger.finished, Rows.records_pushAll, Rows.records_filter, List.mem_append,
      List.mem_filter] at hr
    rcases hr with ⟨hr, hne⟩ | hr
    · -- a row kept: its finished job is not the one at `PERSISTING`
      obtain ⟨j, hj, hid, hfin⟩ := hs.fields_finished r hr
      have hp : JobRow.atStage x "PERSISTING" j = false := by
        simp [JobRow.atStage, hfin]
      have h := Rows.mem_update_of_mem (p := JobRow.atStage x "PERSISTING")
        (·.finished (Json.render result.toJson) at_) hj
      simp only [hp, Bool.false_eq_true, ↓reduceIte] at h
      exact ⟨j, h, hid, hfin⟩
    · exact ⟨_, hfinished₀, hid₀.trans (hofx r hr).symm, rfl⟩

/-! ## Moves and runs -/

/-- Every move keeps the rules of the jobs and changes them by steps. -/
theorem Move.jobs {ms : List String} (h : Move L ms L') (hs : L.JobsSound) :
    L'.JobsSound ∧ L.JobsStep L' := by
  cases h with
  | addDocument => exact ⟨hs.of_eq rfl rfl, Ledger.JobsStep.of_eq rfl rfl⟩
  | markReady => exact ⟨hs.of_eq rfl rfl, Ledger.JobsStep.of_eq rfl rfl⟩
  | createJob doc job at_ _ hfresh =>
    exact Ledger.created_jobs hs (JobRow.sound_created job doc) (by simp [JobRow.created]) hfresh
      ⟨rfl, rfl, rfl, rfl⟩ rfl rfl
  | advance x src tgt at_ hnext hsrc =>
    refine ⟨hs.update (p := JobRow.atStage x src.name) (f := (·.advanced tgt (src == .created) at_))
        rfl rfl (fun _ => rfl) (fun j hp hsj => ?_) (fun j hp => ?_) (fun j hp hfin => ?_),
      Ledger.JobsStep.update (p := JobRow.atStage x src.name)
        (f := (·.advanced tgt (src == .created) at_)) hs rfl (fun _ => rfl) (fun j hp _ => ?_)
        (fun y hy => absurd (Ledger.fieldsOf_congr rfl y) hy)⟩
    · exact hsj.advanced (JobRow.of_atStage hp).2.1 hnext hsrc _
    · -- neither the stage left nor the one reached is `FINISHED`
      refine iff_of_false (fun h => hsrc (Stage.eq_persisting hnext h)) ?_
      rw [(JobRow.of_atStage hp).2.1]
      exact (Stage.open_of_next hnext).1
    · rw [(JobRow.of_atStage hp).2.1] at hfin
      exact absurd hfin (Stage.open_of_next hnext).1
    · exact JobRow.Step.advanced (JobRow.of_atStage hp).2.1 hnext (JobRow.of_atStage hp).2.2 _
  | count x at_ =>
    exact ⟨hs.update (p := JobRow.hasId x) (f := (·.counted at_)) rfl rfl (fun _ => rfl)
        (fun _ _ hsj => hsj.of_kept rfl rfl rfl rfl) (fun _ _ => Iff.rfl) (fun _ _ _ => rfl),
      Ledger.JobsStep.update (p := JobRow.hasId x) (f := (·.counted at_)) hs rfl (fun _ => rfl)
        (fun _ _ _ => JobRow.Step.of_kept rfl rfl rfl rfl (Or.inl rfl) rfl)
        (fun y hy => absurd (Ledger.fieldsOf_congr rfl y) hy)⟩
  | log x entry at_ =>
    exact ⟨hs.update (p := JobRow.hasId x) (f := (·.logged (entry ++ "\n") at_)) rfl rfl
        (fun _ => rfl) (fun _ _ hsj => hsj.of_kept rfl rfl rfl rfl) (fun _ _ => Iff.rfl)
        (fun _ _ _ => rfl),
      Ledger.JobsStep.update (p := JobRow.hasId x) (f := (·.logged (entry ++ "\n") at_)) hs rfl
        (fun _ => rfl) (fun _ _ _ => JobRow.Step.of_kept rfl rfl rfl rfl (Or.inr ⟨entry, rfl⟩) rfl)
        (fun y hy => absurd (Ledger.fieldsOf_congr rfl y) hy)⟩
  | cancel x at_ =>
    exact ⟨hs.update (p := JobRow.openWith x) (f := (·.cancelled at_)) rfl rfl (fun _ => rfl)
        (fun _ hp hsj => hsj.cancelled (JobRow.of_openWith hp).2) (fun _ _ => Iff.rfl)
        (fun _ _ _ => rfl),
      Ledger.JobsStep.update (p := JobRow.openWith x) (f := (·.cancelled at_)) hs rfl
        (fun _ => rfl) (fun _ hp _ => JobRow.Step.cancelled (JobRow.of_openWith hp).2)
        (fun y hy => absurd (Ledger.fieldsOf_congr rfl y) hy)⟩
  | fail x doc code message status at_ => exact L.failed_jobs hs _ _ _ _ _ _ _
  | finish job document result rows at_ _ hat hrows hof => exact L.finished_jobs hs hat hrows hof
  | enqueue => exact ⟨hs.of_eq rfl rfl, Ledger.JobsStep.of_eq rfl rfl⟩
  | claim => exact ⟨hs.of_eq rfl rfl, Ledger.JobsStep.of_eq rfl rfl⟩
  | retire e he at_ task hdue hread hspent hab =>
    split at hab
    · obtain ⟨hs', hstep⟩ := hab.jobs (hs.of_eq rfl rfl)
      exact ⟨hs', hstep.of_left rfl rfl⟩
    · subst hab
      exact ⟨hs.of_eq rfl rfl, Ledger.JobsStep.of_eq rfl rfl⟩
  | complete => exact ⟨hs.of_eq rfl rfl, Ledger.JobsStep.of_eq rfl rfl⟩
  | failTask x reason task at_ e he hid hread hab =>
    split at hab
    · obtain ⟨hs', hstep⟩ := hab.jobs (hs.of_eq rfl rfl)
      exact ⟨hs', hstep.of_left rfl rfl⟩
    · subst hab
      exact ⟨hs.of_eq rfl rfl, Ledger.JobsStep.of_eq rfl rfl⟩

/-- Every chain of moves keeps the rules of the jobs, one step after another. -/
theorem Moves.jobs {ls : List String} (h : Moves L ls L') (hs : L.JobsSound) :
    L'.JobsSound ∧
      Relation.ReflTransGen (fun L₁ L₂ : Ledger => L₁.JobsSound ∧ L₁.JobsStep L₂) L L' := by
  induction h with
  | refl => exact ⟨hs, .refl⟩
  | tail _ hm ih =>
    obtain ⟨hs', hsteps⟩ := ih
    obtain ⟨hs'', hstep⟩ := hm.jobs hs'
    exact ⟨hs'', hsteps.tail ⟨hs', hstep⟩⟩

theorem Ledger.jobsSound_fresh (rows : List Row) (next : Nat) : (Ledger.fresh rows next).JobsSound where
  ids_nodup := by simp [Ledger.fresh]
  rows := by simp [Ledger.fresh]
  finished_result := by simp [Ledger.fresh]
  fields_finished := by simp [Ledger.fresh]

end Jobs

/-- Every call of a run changes the jobs by steps of the stage machine. The ledgers before and
after the call keep the rules of the jobs, and the call leads from the one to the other by its
transactions (a claim makes several), each of which changes every job by `JobRow.Step`. -/
theorem job_stage_machine {ls : List String} {s : MetaStore} (h : Run ls s) (c : Call)
    (hc : c.Allowed) (at_ : Time.Instant) :
    ∃ L L' : Ledger, s.db = L.database ∧ (outcome c.run { s with now := at_ }).2.db = L'.database ∧
      L.JobsSound ∧ L'.JobsSound ∧
      Relation.ReflTransGen (fun L₁ L₂ : Ledger => L₁.JobsSound ∧ L₁.JobsStep L₂) L L' := by
  -- the run reaches `L` from a fresh ledger, so `L` keeps the rules
  obtain ⟨rows, next, L, hdb, hm⟩ := h.moves
  obtain ⟨hs, -⟩ := hm.jobs (Ledger.jobsSound_fresh rows next)
  obtain ⟨L', hdb', hm'⟩ := Call.leads L c hc { s with now := at_ } hdb
  obtain ⟨hs', hsteps⟩ := hm'.moves.jobs hs
  exact ⟨L, L', hdb, hdb', hs, hs', hsteps⟩

/-- Moving the job of a submitted document on from `CREATED` changes the jobs by steps of the
stage machine. -/
theorem job_stage_machine_on_advance :
    ∃ L L' : Ledger, submitted.2.db = L.database ∧
      (outcome (Call.advance (Uuid.ofSeed 1) .created .ocrRunning).run
        { submitted.2 with now := ⟨5000000000⟩ }).2.db = L'.database ∧
      L.JobsSound ∧ L'.JobsSound ∧
      Relation.ReflTransGen (fun L₁ L₂ : Ledger => L₁.JobsSound ∧ L₁.JobsStep L₂) L L' :=
  job_stage_machine submitted_run (.advance (Uuid.ofSeed 1) .created .ocrRunning) ⟨rfl, by decide⟩ _

end CreditExtraction.Store
