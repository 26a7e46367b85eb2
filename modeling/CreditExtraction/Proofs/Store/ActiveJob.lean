import CreditExtraction.Proofs.Store.StageMachine

/-! # One working job per document

A document and the jobs working on it agree (`Ledger.Consistent`):

* a document is `IN_PROGRESS` exactly when it names an active job;
* the active job of a document is a job of the ledger, of that document, that has not ended;
* a job that has not ended is the active job of its document.

So a document has at most one job that has not ended (`Ledger.Consistent.open_unique`).

Every move keeps this (`Move.consistent`): a job is created only for a document that no job
holds, and it takes the document; a job ends only together with the release of the document
it holds (`Ledger.Consistent.release`), the other moves leave documents, jobs or both as they
stand. So every run of the store keeps it (`single_active_job`). -/

namespace CreditExtraction.Store

open Sql

/-- A working stage other than `PERSISTING` is followed by a working stage. -/
theorem Stage.next_working {s t : Stage} (h : s.next = some t) (hs : s ≠ .persisting) :
    t.name ≠ "FINISHED" ∧ t.name ≠ "ERROR" := by
  cases s <;> simp only [Stage.next, Option.some.injEq, reduceCtorEq] at h <;> subst h <;>
    simp_all [Stage.name]

/-- A rewrite of documents that keeps their identifiers keeps the list of identifiers. -/
theorem Rows.documentIds_update {p : DocumentRow → Bool} {g : DocumentRow → DocumentRow}
    (D : Rows DocumentRow) (hid : ∀ d, (g d).id = d.id) :
    (D.update p g).records.map (·.id.toText) = D.records.map (·.id.toText) :=
  Rows.map_update _ _ _ _ fun d _ => by rw [hid]

/-- Documents and the jobs working on them agree (see the module comment). -/
structure Ledger.Consistent (L : Ledger) : Prop where
  documents_nodup : (L.documents.records.map (·.id.toText)).Nodup
  jobs_nodup : (L.jobs.records.map (·.id.toText)).Nodup
  in_progress : ∀ d ∈ L.documents.records, d.status = "IN_PROGRESS" ↔ d.activeJob.isSome
  active : ∀ d ∈ L.documents.records, ∀ x : Uuid, d.activeJob = some x →
    ∃ j ∈ L.jobs.records, j.id.toText = x.toText ∧ j.document.toText = d.id.toText ∧
      j.open_ = true
  held : ∀ j ∈ L.jobs.records, j.open_ = true →
    ∃ d ∈ L.documents.records, d.id.toText = j.document.toText ∧
      d.activeJob.map (·.toText) = some j.id.toText

namespace Ledger.Consistent

variable {L L' : Ledger}

/-- Two jobs of one document that have not ended are one job. -/
theorem open_unique (hs : L.Consistent) {j₁ j₂ : JobRow} (h₁ : j₁ ∈ L.jobs.records)
    (h₂ : j₂ ∈ L.jobs.records) (ho₁ : j₁.open_ = true) (ho₂ : j₂.open_ = true)
    (hdoc : j₁.document.toText = j₂.document.toText) : j₁ = j₂ := by
  obtain ⟨d₁, hd₁, hid₁, hact₁⟩ := hs.held j₁ h₁ ho₁
  obtain ⟨d₂, hd₂, hid₂, hact₂⟩ := hs.held j₂ h₂ ho₂
  -- both are the active job of the one document of their document's identifier
  have hd : d₁ = d₂ :=
    List.inj_on_of_nodup_map hs.documents_nodup hd₁ hd₂ (hid₁.trans (hdoc.trans hid₂.symm))
  subst hd
  have hids : j₁.id.toText = j₂.id.toText := Option.some_inj.mp (hact₁.symm.trans hact₂)
  exact List.inj_on_of_nodup_map hs.jobs_nodup h₁ h₂ hids

theorem fresh (rows : List Row) (next : Nat) : (Ledger.fresh rows next).Consistent where
  documents_nodup := by simp [Ledger.fresh]
  jobs_nodup := by simp [Ledger.fresh]
  in_progress := by simp [Ledger.fresh]
  active := by simp [Ledger.fresh]
  held := by simp [Ledger.fresh]

/-- A move that leaves documents and jobs as they stand keeps them agreeing. -/
theorem of_eq (hs : L.Consistent) (hd : L'.documents = L.documents) (hj : L'.jobs = L.jobs) :
    L'.Consistent where
  documents_nodup := hd ▸ hs.documents_nodup
  jobs_nodup := hj ▸ hs.jobs_nodup
  in_progress := hd ▸ hs.in_progress
  active := by
    rw [hd, hj]
    exact hs.active
  held := by
    rw [hd, hj]
    exact hs.held

/-- A rewrite of jobs that keeps their identifiers, documents and whether they have ended keeps
documents and jobs agreeing. -/
theorem updateJobs (hs : L.Consistent) {p : JobRow → Bool} {f : JobRow → JobRow}
    (hjobs : L'.jobs = L.jobs.update p f) (hd : L'.documents = L.documents)
    (hid : ∀ j, (f j).id = j.id) (hdoc : ∀ j, (f j).document = j.document)
    (hopen : ∀ j, p j = true → (f j).open_ = j.open_) : L'.Consistent where
  documents_nodup := hd ▸ hs.documents_nodup
  jobs_nodup := by
    rw [hjobs, Rows.ids_update _ hid]
    exact hs.jobs_nodup
  in_progress := hd ▸ hs.in_progress
  active := by
    intro d hd' x hx
    obtain ⟨j, hj, hidj, hdocj, hopenj⟩ := hs.active d (hd ▸ hd') x hx
    refine ⟨_, hjobs ▸ Rows.mem_update_of_mem f hj, ?_⟩
    by_cases hp : p j
    · simp only [hp, ↓reduceIte]
      exact ⟨by rw [hid]; exact hidj, by rw [hdoc]; exact hdocj, by rw [hopen j hp]; exact hopenj⟩
    · simp only [hp, Bool.false_eq_true, ↓reduceIte]
      exact ⟨hidj, hdocj, hopenj⟩
  held := by
    intro j' hj' hopen'
    rw [hjobs] at hj'
    obtain ⟨j, hj, rfl⟩ := Rows.mem_update hj'
    by_cases hp : p j
    · simp only [hp, ↓reduceIte] at hopen' ⊢
      rw [hdoc, hid, hd]
      exact hs.held j hj (by rw [← hopen j hp]; exact hopen')
    · simp only [hp, Bool.false_eq_true, ↓reduceIte] at hopen' ⊢
      rw [hd]
      exact hs.held j hj hopen'

/-- A new document under an unused identifier, not `IN_PROGRESS` and held by no job, keeps
documents and jobs agreeing. -/
theorem addDocument (hs : L.Consistent) (d : DocumentRow)
    (hfresh : ∀ e ∈ L.documents.records, e.id.toText ≠ d.id.toText)
    (hstatus : d.status = "NOT_READY" ∨ d.status = "READY") (hactive : d.activeJob = none) :
    { L with documents := L.documents.push d }.Consistent where
  documents_nodup := by
    simp only [Rows.records_push, List.map_append, List.map_cons, List.map_nil]
    refine List.nodup_append.mpr ⟨hs.documents_nodup, List.nodup_singleton _, ?_⟩
    intro a ha b hb
    obtain ⟨e, he, rfl⟩ := List.mem_map.mp ha
    rw [List.mem_singleton.mp hb]
    exact hfresh e he
  jobs_nodup := hs.jobs_nodup
  in_progress := by
    intro e he
    simp only [Rows.records_push, List.mem_append, List.mem_singleton] at he
    rcases he with he | rfl
    · exact hs.in_progress e he
    · rcases hstatus with h | h <;> simp [h, hactive]
  active := by
    intro e he x hx
    simp only [Rows.records_push, List.mem_append, List.mem_singleton] at he
    rcases he with he | rfl
    · exact hs.active e he x hx
    · simp [hactive] at hx
  held := by
    intro j hj hopen
    obtain ⟨e, he, hid, hact⟩ := hs.held j hj hopen
    exact ⟨e, by simp [he], hid, hact⟩

/-- Marking a document ready keeps documents and jobs agreeing: only a document `NOT_READY`,
which no job holds, is marked. -/
theorem markReady (hs : L.Consistent) (x locator : String) (at_ : Time.Instant) :
    { L with documents :=
        L.documents.update (DocumentRow.readyable x) (·.readied locator at_) }.Consistent where
  documents_nodup := by
    rw [Rows.documentIds_update (g := (·.readied locator at_)) _ fun _ => rfl]
    exact hs.documents_nodup
  jobs_nodup := hs.jobs_nodup
  in_progress := by
    intro d' hd'
    obtain ⟨d, hd, rfl⟩ := Rows.mem_update hd'
    by_cases hp : DocumentRow.readyable x d
    · -- a document `NOT_READY` has no active job, and stays without one
      have hnot : d.status = "NOT_READY" := by
        simp only [DocumentRow.readyable, Bool.and_eq_true, beq_iff_eq] at hp
        exact hp.2
      have hnone : d.activeJob.isSome = false := by
        simpa [hnot] using (hs.in_progress d hd).not
      simp [hp, DocumentRow.readied, hnone]
    · simpa [hp] using hs.in_progress d hd
  active := by
    intro d' hd' y hy
    obtain ⟨d, hd, rfl⟩ := Rows.mem_update hd'
    have hsame : (if DocumentRow.readyable x d then d.readied locator at_ else d).activeJob =
        d.activeJob ∧ (if DocumentRow.readyable x d then d.readied locator at_ else d).id = d.id := by
      split <;> exact ⟨rfl, rfl⟩
    rw [hsame.1] at hy
    rw [hsame.2]
    exact hs.active d hd y hy
  held := by
    intro j hj hopen
    obtain ⟨d, hd, hid, hact⟩ := hs.held j hj hopen
    refine ⟨_, Rows.mem_update_of_mem (p := DocumentRow.readyable x) (·.readied locator at_) hd, ?_⟩
    split <;> exact ⟨hid, hact⟩

/-- A new job for a document that no job holds, under an unused identifier, takes the document,
and keeps documents and jobs agreeing. -/
theorem createJob (hs : L.Consistent) (doc job : Uuid) (at_ : Time.Instant)
    (hclaim : ∃ d ∈ L.documents.records, DocumentRow.claimable doc.toText d = true)
    (hfresh : ∀ j ∈ L.jobs.records, j.id.toText ≠ job.toText) :
    { L with
      documents := L.documents.update (DocumentRow.claimable doc.toText) (·.claimed job at_)
      jobs := L.jobs.push (JobRow.created job doc at_) }.Consistent := by
  have hnew_open : (JobRow.created job doc at_).open_ = true := by
    simp [JobRow.open_, JobRow.created]
  -- a document some job holds is `IN_PROGRESS`, so it is not claimed
  have hkept : ∀ d ∈ L.documents.records, d.activeJob.isSome = true →
      DocumentRow.claimable doc.toText d = false := by
    intro d hd hsome
    have := (hs.in_progress d hd).mpr hsome
    simp [DocumentRow.claimable, this]
  refine ⟨?_, ?_, ?_, ?_, ?_⟩
  · rw [Rows.documentIds_update (g := (·.claimed job at_)) _ fun _ => rfl]
    exact hs.documents_nodup
  · simp only [Rows.records_push, List.map_append, List.map_cons, List.map_nil]
    refine List.nodup_append.mpr ⟨hs.jobs_nodup, List.nodup_singleton _, ?_⟩
    intro a ha b hb
    obtain ⟨j, hj, rfl⟩ := List.mem_map.mp ha
    rw [List.mem_singleton.mp hb]
    exact hfresh j hj
  · intro d' hd'
    obtain ⟨d, hd, rfl⟩ := Rows.mem_update hd'
    by_cases hp : DocumentRow.claimable doc.toText d
    · simp [hp, DocumentRow.claimed]
    · simpa [hp] using hs.in_progress d hd
  · intro d' hd' y hy
    obtain ⟨d, hd, rfl⟩ := Rows.mem_update hd'
    by_cases hp : DocumentRow.claimable doc.toText d
    · -- the document claimed names the new job, which is of this document
      simp only [hp, ↓reduceIte, DocumentRow.claimed, Option.some.injEq] at hy ⊢
      subst hy
      have hid : d.id.toText = doc.toText := by
        simp only [DocumentRow.claimable, Bool.and_eq_true, beq_iff_eq] at hp
        exact hp.1
      exact ⟨JobRow.created job doc at_, by simp, rfl, hid.symm, hnew_open⟩
    · simp only [hp, Bool.false_eq_true, ↓reduceIte] at hy ⊢
      obtain ⟨j, hj, hidj⟩ := hs.active d hd y hy
      exact ⟨j, by simp [hj], hidj⟩
  · intro j hj hopen
    simp only [Rows.records_push, List.mem_append, List.mem_singleton] at hj
    rcases hj with hj | rfl
    · obtain ⟨d, hd, hid, hact⟩ := hs.held j hj hopen
      have hnot := hkept d hd (by cases h : d.activeJob <;> simp_all)
      have h := Rows.mem_update_of_mem (p := DocumentRow.claimable doc.toText)
        (·.claimed job at_) hd
      simp only [hnot, Bool.false_eq_true, ↓reduceIte] at h
      exact ⟨d, h, hid, hact⟩
    · obtain ⟨d, hd, hp⟩ := hclaim
      have hid : d.id.toText = doc.toText := by
        simp only [DocumentRow.claimable, Bool.and_eq_true, beq_iff_eq] at hp
        exact hp.1
      refine ⟨d.claimed job at_, ?_, hid, rfl⟩
      have h := Rows.mem_update_of_mem (p := DocumentRow.claimable doc.toText)
        (·.claimed job at_) hd
      rwa [if_pos hp] at h

/-- Ending a job and handing back the document it holds keeps documents and jobs agreeing, when
every job of that identifier that has not ended is ended, and the document handed back is the
job's own with a status other than `IN_PROGRESS`. -/
theorem release (hs : L.Consistent) {x doc : String} {p : JobRow → Bool} {f : JobRow → JobRow}
    {g : DocumentRow → DocumentRow}
    (hjobs : L'.jobs = L.jobs.update p f)
    (hdocs : L'.documents = L.documents.update (DocumentRow.heldBy doc x) g)
    (hid : ∀ j, (f j).id = j.id) (hp : ∀ j, p j = true → j.id.toText = x)
    (hended : ∀ j, (f j).open_ = false)
    (hall : ∀ j ∈ L.jobs.records, j.id.toText = x → j.open_ = true → p j = true)
    (hjob : ∃ j ∈ L.jobs.records, j.id.toText = x ∧ j.document.toText = doc)
    (hgid : ∀ d, (g d).id = d.id) (hgstatus : ∀ d, (g d).status ≠ "IN_PROGRESS")
    (hgactive : ∀ d, (g d).activeJob = none) : L'.Consistent where
  documents_nodup := by
    rw [hdocs, Rows.documentIds_update _ hgid]
    exact hs.documents_nodup
  jobs_nodup := by
    rw [hjobs, Rows.ids_update _ hid]
    exact hs.jobs_nodup
  in_progress := by
    intro d' hd'
    rw [hdocs] at hd'
    obtain ⟨d, hd, rfl⟩ := Rows.mem_update hd'
    by_cases hh : DocumentRow.heldBy doc x d
    · simp [hh, hgstatus, hgactive]
    · simpa [hh] using hs.in_progress d hd
  active := by
    intro d' hd' y hy
    rw [hdocs] at hd'
    obtain ⟨d, hd, rfl⟩ := Rows.mem_update hd'
    by_cases hh : DocumentRow.heldBy doc x d
    · simp [hh, hgactive] at hy
    · simp only [hh, Bool.false_eq_true, ↓reduceIte] at hy ⊢
      obtain ⟨j, hj, hidj, hdocj, hopenj⟩ := hs.active d hd y hy
      -- the active job is another one than the job ended, else the document would be its
      have hne : j.id.toText ≠ x := by
        intro hx
        obtain ⟨j₁, hj₁, hid₁, hdoc₁⟩ := hjob
        have := List.inj_on_of_nodup_map hs.jobs_nodup hj hj₁ (hx.trans hid₁.symm)
        subst this
        apply hh
        simp [DocumentRow.heldBy, hy, ← hidj, hx, ← hdoc₁, hdocj]
      have hnp : p j = false := Bool.eq_false_iff.mpr fun h => hne (hp j h)
      have h := Rows.mem_update_of_mem (p := p) f hj
      simp only [hnp, Bool.false_eq_true, ↓reduceIte] at h
      exact ⟨j, hjobs ▸ h, hidj, hdocj, hopenj⟩
  held := by
    intro j' hj' hopen'
    rw [hjobs] at hj'
    obtain ⟨j, hj, rfl⟩ := Rows.mem_update hj'
    by_cases hpj : p j
    · simp [hpj, hended] at hopen'
    · simp only [hpj, Bool.false_eq_true, ↓reduceIte] at hopen' ⊢
      -- a job still going is not the one ended, so its document is not handed back
      have hne : j.id.toText ≠ x := fun hx => by simp [hall j hj hx hopen'] at hpj
      obtain ⟨d, hd, hidd, hact⟩ := hs.held j hj hopen'
      have hnh : DocumentRow.heldBy doc x d = false := by
        simp [DocumentRow.heldBy, hact, hne]
      have h := Rows.mem_update_of_mem (p := DocumentRow.heldBy doc x) g hd
      simp only [hnh, Bool.false_eq_true, ↓reduceIte] at h
      exact ⟨d, hdocs ▸ h, hidd, hact⟩

/-- Failing a job hands back its document, and keeps documents and jobs agreeing. -/
theorem failed (hs : L.Consistent) {x doc code message entry : String} {status : DocumentStatus}
    {at_ : Time.Instant} (hjob : ∃ j ∈ L.jobs.records, j.id.toText = x ∧ j.document.toText = doc)
    (hstatus : status.name ≠ "IN_PROGRESS") :
    (L.failed x doc code message entry status at_).Consistent :=
  hs.release (f := (·.failed code message entry at_)) (g := (·.released status at_)) rfl rfl
    (fun _ => rfl) (fun j h => (JobRow.of_openWith h).1)
    (fun j => by simp [JobRow.open_, JobRow.failed])
    (fun j _ hx hopen => by simp [JobRow.openWith, hx, hopen]) hjob (fun _ => rfl)
    (fun _ => hstatus) (fun _ => rfl)

/-- Finishing a job at `PERSISTING` hands back its document as `DONE`, and keeps documents and
jobs agreeing. -/
theorem finished (hs : L.Consistent) {x doc payload : String} {rows : List FieldRow}
    {at_ : Time.Instant} (hjob : ∃ j ∈ L.jobs.records, j.id.toText = x ∧ j.document.toText = doc)
    (hat : ∃ j ∈ L.jobs.records, j.atStage x "PERSISTING" = true) :
    (L.finished x doc payload rows at_).Consistent := by
  obtain ⟨j₀, hj₀, hp₀⟩ := hat
  refine hs.release (f := (·.finished payload at_)) (g := (·.released .done at_)) rfl rfl
    (fun _ => rfl) (fun j h => (JobRow.of_atStage h).1)
    (fun j => by simp [JobRow.open_, JobRow.finished]) ?_ hjob (fun _ => rfl)
    (fun _ => by simp [DocumentRow.released, DocumentStatus.name]) (fun _ => rfl)
  -- the one job of its identifier is the one at `PERSISTING`
  intro j hj hx _
  have := List.inj_on_of_nodup_map hs.jobs_nodup hj hj₀ (hx.trans (JobRow.of_atStage hp₀).1.symm)
  rw [this]
  exact hp₀

end Ledger.Consistent

/-- Giving up on a job keeps documents and jobs agreeing. -/
theorem Ledger.Abandons.consistent {L L' : Ledger} {x : String} {at_ : Time.Instant}
    (h : L.Abandons x at_ L') (hs : L.Consistent) : L'.Consistent := by
  rcases h with ⟨rfl, -⟩ | ⟨doc, message, entry, hjob, -, rfl⟩
  · exact hs
  · exact hs.failed hjob (by simp [DocumentStatus.name])

/-! ## Moves and runs -/

/-- Every move keeps documents and jobs agreeing. -/
theorem Move.consistent {L L' : Ledger} {ms : List String} (h : Move L ms L')
    (hs : L.Consistent) : L'.Consistent := by
  cases h with
  | addDocument d hfresh hstatus hactive => exact hs.addDocument d hfresh hstatus hactive
  | markReady x locator at_ => exact hs.markReady x locator at_
  | createJob doc job at_ hclaim hfresh => exact hs.createJob doc job at_ hclaim hfresh
  | advance x src tgt at_ hnext hsrc =>
    refine hs.updateJobs (f := (·.advanced tgt (src == .created) at_)) rfl rfl (fun _ => rfl)
      (fun _ => rfl) fun j hp => ?_
    -- a working stage and the one after it, short of `FINISHED`, have both not ended
    have hat := (JobRow.of_atStage hp).2.1
    obtain ⟨hf, he⟩ := Stage.open_of_next hnext
    obtain ⟨hf', he'⟩ := Stage.next_working hnext hsrc
    have h₁ : (j.advanced tgt (src == .created) at_).open_ = true :=
      (JobRow.open_iff _).mpr ⟨hf', he'⟩
    have h₂ : j.open_ = true := (JobRow.open_iff _).mpr ⟨by rw [hat]; exact hf, by rw [hat]; exact he⟩
    rw [h₁, h₂]
  | count x at_ =>
    exact hs.updateJobs (f := (·.counted at_)) rfl rfl (fun _ => rfl) (fun _ => rfl)
      fun _ _ => rfl
  | log x entry at_ =>
    exact hs.updateJobs (f := (·.logged (entry ++ "\n") at_)) rfl rfl (fun _ => rfl)
      (fun _ => rfl) fun _ _ => rfl
  | cancel x at_ =>
    exact hs.updateJobs (f := (·.cancelled at_)) rfl rfl (fun _ => rfl) (fun _ => rfl)
      fun _ _ => rfl
  | fail x doc code message status at_ hjob hstatus =>
    exact hs.failed hjob (by rcases hstatus with rfl | rfl <;> simp [DocumentStatus.name])
  | finish job document result rows at_ hjob hat => exact hs.finished hjob hat
  | enqueue => exact hs.of_eq rfl rfl
  | claim => exact hs.of_eq rfl rfl
  | retire e he at_ task hdue hread hspent hab =>
    split at hab
    · exact hab.consistent (hs.of_eq rfl rfl)
    · subst hab
      exact hs.of_eq rfl rfl
  | complete => exact hs.of_eq rfl rfl
  | failTask x reason task at_ e he hid hread hab =>
    split at hab
    · exact hab.consistent (hs.of_eq rfl rfl)
    · subst hab
      exact hs.of_eq rfl rfl

theorem Moves.consistent {L L' : Ledger} {ls : List String} (h : Moves L ls L')
    (hs : L.Consistent) : L'.Consistent := by
  induction h with
  | refl => exact hs
  | tail _ hm ih => exact hm.consistent ih

/-- In every reachable state a document is `IN_PROGRESS` exactly when it names an active job,
that job is a job of the document that has not ended, every job that has not ended is the
active job of its document, and a document has at most one job that has not ended. -/
theorem single_active_job {ls : List String} {s : MetaStore} (h : Run ls s) :
    ∃ L : Ledger, s.db = L.database ∧
      (∀ d ∈ L.documents.records, d.status = "IN_PROGRESS" ↔ d.activeJob.isSome) ∧
      (∀ d ∈ L.documents.records, ∀ x : Uuid, d.activeJob = some x →
        ∃ j ∈ L.jobs.records, j.id.toText = x.toText ∧ j.document.toText = d.id.toText ∧
          j.open_ = true) ∧
      (∀ j ∈ L.jobs.records, j.open_ = true →
        ∃ d ∈ L.documents.records, d.id.toText = j.document.toText ∧
          d.activeJob.map (·.toText) = some j.id.toText) ∧
      ∀ j₁ ∈ L.jobs.records, ∀ j₂ ∈ L.jobs.records, j₁.open_ = true → j₂.open_ = true →
        j₁.document.toText = j₂.document.toText → j₁ = j₂ := by
  obtain ⟨rows, next, L, hdb, hm⟩ := h.moves
  have hs := hm.consistent (Ledger.Consistent.fresh rows next)
  exact ⟨L, hdb, hs.in_progress, hs.active, hs.held,
    fun j₁ h₁ j₂ h₂ ho₁ ho₂ hdoc => hs.open_unique h₁ h₂ ho₁ ho₂ hdoc⟩

/-- After a run that takes in a document, opens a job on it, queues the job and leases its
task, documents and jobs agree. -/
theorem single_active_job_after_submit :
    ∃ L : Ledger, submitted.2.db = L.database ∧
      (∀ d ∈ L.documents.records, d.status = "IN_PROGRESS" ↔ d.activeJob.isSome) ∧
      (∀ d ∈ L.documents.records, ∀ x : Uuid, d.activeJob = some x →
        ∃ j ∈ L.jobs.records, j.id.toText = x.toText ∧ j.document.toText = d.id.toText ∧
          j.open_ = true) ∧
      (∀ j ∈ L.jobs.records, j.open_ = true →
        ∃ d ∈ L.documents.records, d.id.toText = j.document.toText ∧
          d.activeJob.map (·.toText) = some j.id.toText) ∧
      ∀ j₁ ∈ L.jobs.records, ∀ j₂ ∈ L.jobs.records, j₁.open_ = true → j₂.open_ = true →
        j₁.document.toText = j₂.document.toText → j₁ = j₂ :=
  single_active_job submitted_run

end CreditExtraction.Store
