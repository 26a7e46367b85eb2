import CreditExtraction.Pipeline.Run
import CreditExtraction.Proofs.Store.Runs

/-! # A bench for runs of the orchestrator

The orchestrator is written against collaborators in any monad. To say what one of its runs
does to the store and to the collaborators, it is run here on a bench (`Bench`): a world that
holds the metadata store, the log, and a world of the other collaborators.

* The metadata store is the store of `Store`, and each operation of the run is one call of it,
  with no other process at work on it.
* The clock is the store's clock, which the orchestrator and the store both read.
* The log keeps every record it is given.
* A wait between tries ends at once: nothing on the bench cancels a run.
* The other collaborators act on a world of their own (`Bench.rest`).

`play` runs a step of a run on the bench from a run state. The equations below read a step one
operation at a time, so that the proofs about a run follow its text. -/

namespace CreditExtraction.Pipeline

open Store

/-- A world for runs of the orchestrator (see the module comment). -/
structure Bench (ρ : Type) where
  store : MetaStore
  /-- The world of the collaborators other than the store, the clock and the log. -/
  rest : ρ
  /-- What was logged, in order. -/
  records : List Log.Record

namespace Bench

variable {ρ α : Type}

/-- Runs an operation of the run on the store. -/
def metadata (op : StoreM α) : StateM (Bench ρ) (Except Failure α) := fun w =>
  let r := outcome op w.store
  (r.1, { w with store := r.2 })

/-- Runs a step of the other collaborators on their own world. -/
def lift (x : StateM ρ α) : StateM (Bench ρ) α := fun w =>
  let r := x.run w.rest
  (r.1, { w with rest := r.2 })

/-- The collaborators on the bench: the store, clock and log of the bench, and the others of
`c` acting on the bench's `rest`. -/
def services (c : Services (StateM ρ)) : Services (StateM (Bench ρ)) where
  metadata := metadata
  artifacts op := lift (c.artifacts op)
  ocr data mime := lift (c.ocr data mime)
  chat := ⟨c.chat.model, fun req => lift (c.chat.chat req)⟩
  now := fun w => (w.store.now, w)
  notify := lift c.notify
  log r := fun w => ((), { w with records := w.records ++ [r] })
  freshId := lift c.freshId
  pause _ := pure (.ok ())
  renderer := c.renderer

/-- An orchestrator on the bench. -/
def orchestrator (c : Services (StateM ρ)) (cfg : Settings) : Orchestrator (StateM (Bench ρ)) :=
  ⟨services c, cfg⟩

@[simp] theorem orchestrator_settings (c : Services (StateM ρ)) (cfg : Settings) :
    (orchestrator c cfg).settings = cfg := rfl

end Bench

/-! ## Playing a step of a run -/

/-- Plays a step of a run from a run state on the bench: its value or failure with the run
state after it, or its crash, and the bench after it. -/
def play {ρ α : Type} (x : RunM (StateM (Bench ρ)) α) (st : RunState) (w : Bench ρ) :
    Except String (Except Failure α × RunState) × Bench ρ :=
  ((x.run.run st).run).run w

section Play

variable {ρ α β : Type} (st : RunState) (w : Bench ρ)

@[simp] theorem play_pure (a : α) : play (pure a : RunM (StateM (Bench ρ)) α) st w = (.ok (.ok a, st), w) :=
  rfl

@[simp] theorem play_throw (e : Failure) :
    play (throw e : RunM (StateM (Bench ρ)) α) st w = (.ok (.error e, st), w) := rfl

theorem play_bind (x : RunM (StateM (Bench ρ)) α) (f : α → RunM (StateM (Bench ρ)) β) :
    play (x >>= f) st w = match play x st w with
      | (.ok (.ok a, st'), w') => play (f a) st' w'
      | (.ok (.error e, st'), w') => (.ok (.error e, st'), w')
      | (.error msg, w') => (.error msg, w') := by
  simp only [play, ExceptT.run_bind, StateT.run_bind]
  rcases h : (((x.run).run st).run).run w with ⟨_ | ⟨_ | _, _⟩, _⟩ <;> rfl

theorem play_map (f : α → β) (x : RunM (StateM (Bench ρ)) α) :
    play (f <$> x) st w = match play x st w with
      | (.ok (.ok a, st'), w') => (.ok (.ok (f a), st'), w')
      | (.ok (.error e, st'), w') => (.ok (.error e, st'), w')
      | (.error msg, w') => (.error msg, w') := by
  rw [← bind_pure_comp, play_bind]
  rcases play x st w with ⟨_ | ⟨_ | _, _⟩, _⟩ <;> rfl

@[simp] theorem play_get : play (get : RunM (StateM (Bench ρ)) RunState) st w = (.ok (.ok st, st), w) :=
  rfl

@[simp] theorem play_liftM (y : StateM (Bench ρ) α) :
    play (liftM y : RunM (StateM (Bench ρ)) α) st w = (.ok (.ok (y.run w).1, st), (y.run w).2) := rfl

theorem play_tryCatch (x : RunM (StateM (Bench ρ)) α) (h : Failure → RunM (StateM (Bench ρ)) α) :
    play (tryCatchThe Failure x h) st w = match play x st w with
      | (.ok (.error e, st'), w') => play (h e) st' w'
      | r => r := by
  conv =>
    lhs
    unfold play
    simp only [tryCatchThe, MonadExceptOf.tryCatch, ExceptT.tryCatch, ExceptT.run_mk,
      StateT.run_bind, ExceptT.run_bind]
  rw [show StateT.run (StateT.run x st).run w = play x st w from rfl]
  rcases play x st w with ⟨_ | ⟨_ | _, _⟩, _⟩ <;> rfl

theorem play_observe (x : RunM (StateM (Bench ρ)) α) :
    play (observe x) st w = match play x st w with
      | (.ok (r, st'), w') => (.ok (.ok r, st'), w')
      | (.error msg, w') => (.error msg, w') := by
  rw [observe, play_tryCatch, play_map]
  rcases play x st w with ⟨_ | ⟨_ | _, _⟩, _⟩ <;> rfl

end Play

/-! ## The orchestrator's own steps on the bench -/

section Steps

variable {ρ α : Type} (c : Services (StateM ρ)) (cfg : Settings) (st : RunState) (w : Bench ρ)

@[simp] theorem play_now :
    play ((Bench.orchestrator c cfg).now : RunM (StateM (Bench ρ)) Time.Instant) st w =
      (.ok (.ok w.store.now, st), w) := rfl

@[simp] theorem play_note (level : Log.Level) (msg : String) (attrs : List (String × Log.Value)) :
    play ((Bench.orchestrator c cfg).note level msg attrs) st w =
      (.ok (.ok (), st), { w with records := w.records ++ [⟨level, msg, st.context ++ attrs⟩] }) := rfl

@[simp] theorem play_setJob (f : Job → Job) :
    play (Orchestrator.setJob f : RunM (StateM (Bench ρ)) Unit) st w =
      (.ok (.ok (), { st with job := f st.job }), w) := rfl

/-- An operation of the store is one call of it, and its failure is the step's. -/
theorem play_store (op : StoreM α) :
    play ((Bench.orchestrator c cfg).store op : RunM (StateM (Bench ρ)) α) st w =
      (.ok ((outcome op w.store).1, st), { w with store := (outcome op w.store).2 }) := by
  simp only [Orchestrator.store, play_bind, play_liftM, Bench.orchestrator, Bench.services,
    Bench.metadata, StateT.run]
  rcases outcome op w.store with ⟨e | a, s⟩ <;> rfl

end Steps

end CreditExtraction.Pipeline
