import CreditExtraction.Store.Tasks

/-! # Running the store's operations

An operation of the store, run from a state, ends with a result (or a failure) and a state:
its `outcome`. The equations below read an operation one step at a time, each step of the
store (`runDb`, `readDb`, the clock, fresh identifiers, the log) by what it does, so that an
operation's outcome unfolds into the statements it makes.

Most of an operation's steps only read: they leave the database as they found it
(`DbKept`). An operation that makes one statement therefore leaves either the database it
started from, when the statement is refused, or the database the statement produced
(`runDb_db`); a failed transaction leaves the database it started from (`inTx_error_db`). -/

namespace CreditExtraction.Store

open Sql

/-- The result of an operation and the state it leaves, run from a state. -/
def outcome {α : Type} (x : StoreM α) (s : MetaStore) : Except Failure α × MetaStore :=
  x.run.run s

section Outcome

variable {α β : Type} (s : MetaStore)

@[simp] theorem outcome_pure (a : α) : outcome (pure a) s = (.ok a, s) := rfl

@[simp] theorem outcome_throw (e : Failure) : outcome (throw e : StoreM α) s = (.error e, s) := rfl

theorem outcome_bind (x : StoreM α) (f : α → StoreM β) :
    outcome (x >>= f) s = match outcome x s with
      | (.ok a, s') => outcome (f a) s'
      | (.error e, s') => (.error e, s') := by
  simp only [outcome, ExceptT.run_bind, StateT.run_bind]
  rcases x.run.run s with ⟨_ | _, _⟩ <;> rfl

@[simp] theorem outcome_get_bind (f : MetaStore → StoreM β) :
    outcome (get >>= f) s = outcome (f s) s := rfl

@[simp] theorem outcome_set_bind (s' : MetaStore) (f : PUnit → StoreM β) :
    outcome (set s' >>= f) s = outcome (f ()) s' := rfl

@[simp] theorem outcome_now_bind (f : Time.Instant → StoreM β) :
    outcome (now >>= f) s = outcome (f s.now) s := by
  rw [now, bind_assoc, outcome_get_bind]
  rfl

@[simp] theorem outcome_nowText_bind (f : String → StoreM β) :
    outcome (nowText >>= f) s = outcome (f s.now.stored) s := by
  rw [nowText, bind_assoc, outcome_get_bind]
  rfl

@[simp] theorem outcome_freshId_bind (f : Uuid → StoreM β) :
    outcome (freshId >>= f) s =
      outcome (f (Uuid.ofSeed s.nextSeed)) { s with nextSeed := s.nextSeed + 1 } := by
  rw [freshId, bind_assoc, outcome_get_bind]
  rfl

@[simp] theorem outcome_note (l : Log.Level) (m : String) (attrs : List (String × Log.Value)) :
    outcome (note l m attrs) s = (.ok (), { s with logged := s.logged ++ [⟨l, m, attrs⟩] }) := rfl

@[simp] theorem outcome_note_bind (l : Log.Level) (m : String) (attrs : List (String × Log.Value))
    (f : Unit → StoreM β) :
    outcome (note l m attrs >>= f) s =
      outcome (f ()) { s with logged := s.logged ++ [⟨l, m, attrs⟩] } := by
  rw [outcome_bind, outcome_note]

theorem outcome_runDb (op : String) (f : Database → Except SqlError (Database × α)) :
    outcome (runDb op f) s = match f s.db with
      | .ok (db', a) => (.ok a, { s with db := db' })
      | .error e => (.error (unavailable op e.message), s) := by
  rw [runDb, outcome_get_bind]
  rcases f s.db with _ | ⟨_, _⟩ <;> rfl

@[simp] theorem outcome_runDb_bind (op : String) (f : Database → Except SqlError (Database × α))
    (k : α → StoreM β) :
    outcome (runDb op f >>= k) s = match f s.db with
      | .ok (db', a) => outcome (k a) { s with db := db' }
      | .error e => (.error (unavailable op e.message), s) := by
  rw [outcome_bind, outcome_runDb]
  rcases f s.db with _ | ⟨_, _⟩ <;> rfl

@[simp] theorem outcome_readDb_bind (op : String) (f : Database → Except SqlError α)
    (k : α → StoreM β) :
    outcome (readDb op f >>= k) s = match f s.db with
      | .ok a => outcome (k a) s
      | .error e => (.error (unavailable op e.message), s) := by
  rw [readDb, bind_assoc, outcome_get_bind]
  rcases f s.db with _ | _ <;> rfl

@[simp] theorem outcome_readRecord (op : String) (r : Except String α) :
    outcome (readRecord op r) s = match r with
      | .ok a => (.ok a, s)
      | .error e => (.error (unavailable op e), s) := by
  rcases r with _ | _ <;> rfl

theorem outcome_map (f : α → β) (x : StoreM α) :
    outcome (f <$> x) s = match outcome x s with
      | (.ok a, s') => (.ok (f a), s')
      | (.error e, s') => (.error e, s') := by
  rw [← bind_pure_comp, outcome_bind]
  rcases outcome x s with ⟨_ | _, _⟩ <;> rfl

/-- A failure caught by a handler goes on as the handler does, from where it left off. -/
theorem outcome_tryCatch (x : StoreM α) (handler : Failure → StoreM α) :
    outcome (tryCatch x handler) s = match outcome x s with
      | (.ok a, s') => (.ok a, s')
      | (.error e, s') => outcome (handler e) s' := by
  simp only [outcome, tryCatch, tryCatchThe, MonadExceptOf.tryCatch, ExceptT.tryCatch,
    ExceptT.mk, ExceptT.run, StateT.run_bind]
  rcases StateT.run x s with ⟨_ | _, _⟩ <;> rfl

/-- A transaction on an open database ends as its steps do, except that a failure puts the
database back. -/
theorem outcome_inTx (x : StoreM α) :
    outcome (inTx x) s =
      if !s.db.isOpen then (.error (unavailable "begin tx" SqlError.closed.message), s)
      else match outcome x s with
        | (.ok a, s') => (.ok a, s')
        | (.error e, s') => (.error e, { s' with db := s.db }) := by
  rw [inTx, outcome_get_bind]
  by_cases h : s.db.isOpen
  · simp only [h, Bool.not_true, Bool.false_eq_true, ↓reduceIte, outcome_tryCatch]
    rcases outcome x s with ⟨_ | _, _⟩ <;> rfl
  · simp only [h, Bool.not_false, ↓reduceIte]
    rfl

/-! ### Reading a successful run backwards -/

variable {s} {s' : MetaStore}

theorem outcome_bind_ok {x : StoreM α} {f : α → StoreM β} {b : β}
    (h : outcome (x >>= f) s = (.ok b, s')) :
    ∃ a s₁, outcome x s = (.ok a, s₁) ∧ outcome (f a) s₁ = (.ok b, s') := by
  rw [outcome_bind] at h
  rcases hx : outcome x s with ⟨_ | a, s₁⟩ <;> rw [hx] at h
  · cases h
  · exact ⟨a, s₁, rfl, h⟩

theorem outcome_runDb_ok {op : String} {f : Database → Except SqlError (Database × α)} {a : α}
    (h : outcome (runDb op f) s = (.ok a, s')) :
    f s.db = .ok (s'.db, a) ∧ s' = { s with db := s'.db } := by
  rw [outcome_runDb] at h
  split at h
  · simp only [Prod.mk.injEq, Except.ok.injEq] at h
    obtain ⟨rfl, rfl⟩ := h
    exact ⟨by assumption, rfl⟩
  · cases h

theorem outcome_throw_bind_ok {e : Failure} {k : α → StoreM β} {b : β}
    (h : outcome (throw e >>= k) s = (.ok b, s')) : False := by
  rw [outcome_bind, outcome_throw] at h
  cases h

end Outcome

/-! ## Steps that leave the database alone -/

/-- An operation that leaves the database as it found it, whatever it returns. -/
def DbKept {α : Type} (x : StoreM α) : Prop := ∀ s, (outcome x s).2.db = s.db

section Kept

variable {α β : Type}

theorem DbKept.bind {x : StoreM α} {f : α → StoreM β} (hx : DbKept x) (hf : ∀ a, DbKept (f a)) :
    DbKept (x >>= f) := by
  intro s
  rw [outcome_bind]
  rcases h : outcome x s with ⟨_ | a, s'⟩
  · simpa [h] using hx s
  · have hs : s'.db = s.db := by simpa [h] using hx s
    simpa [h, hs] using hf a s'

theorem dbKept_pure (a : α) : DbKept (pure a : StoreM α) := fun _ => rfl

theorem dbKept_throw (e : Failure) : DbKept (throw e : StoreM α) := fun _ => rfl

theorem dbKept_note (l : Log.Level) (m : String) (attrs : List (String × Log.Value)) :
    DbKept (note l m attrs) := fun _ => rfl

theorem dbKept_ite {c : Prop} {_ : Decidable c} {x y : StoreM α} (hx : DbKept x) (hy : DbKept y) :
    DbKept (if c then x else y) := by
  split
  · exact hx
  · exact hy

theorem dbKept_readDb (op : String) (f : Database → Except SqlError α) : DbKept (readDb op f) := by
  intro s
  rw [← bind_pure (readDb op f), outcome_readDb_bind]
  rcases f s.db with _ | _ <;> rfl

theorem dbKept_readRecord (op : String) (r : Except String α) : DbKept (readRecord op r) := by
  intro s
  rw [outcome_readRecord]
  rcases r with _ | _ <;> rfl

theorem dbKept_now : DbKept now := fun _ => rfl

theorem DbKept.db_eq {x : StoreM α} (hx : DbKept x) {s s' : MetaStore} {r : Except Failure α}
    (h : outcome x s = (r, s')) : s'.db = s.db := by
  simpa [h] using hx s

/-- One of two steps that leave the database alone, then the rest. -/
theorem outcome_ite_bind_kept_ok {c : Prop} [Decidable c] {x y : StoreM Unit}
    {k : Unit → StoreM β} (hx : DbKept x) (hy : DbKept y) {s s' : MetaStore} {b : β}
    (h : outcome (if c then x >>= k else y >>= k) s = (.ok b, s')) :
    ∃ s₁ : MetaStore, s₁.db = s.db ∧ outcome (k ()) s₁ = (.ok b, s') := by
  split at h
  · obtain ⟨u, s₁, hx₁, h⟩ := outcome_bind_ok h
    exact ⟨s₁, hx.db_eq hx₁, h⟩
  · obtain ⟨u, s₁, hy₁, h⟩ := outcome_bind_ok h
    exact ⟨s₁, hy.db_eq hy₁, h⟩

/-- A step that may or may not run, and leaves the database alone, then the rest. -/
theorem outcome_ite_kept_ok {c : Prop} [Decidable c] {x : StoreM Unit} {k : Unit → StoreM β}
    (hx : DbKept x) {s s' : MetaStore} {b : β}
    (h : outcome (if c then x >>= k else k ()) s = (.ok b, s')) :
    ∃ s₁ : MetaStore, s₁.db = s.db ∧ outcome (k ()) s₁ = (.ok b, s') := by
  split at h
  · obtain ⟨u, s₁, hx₁, h⟩ := outcome_bind_ok h
    exact ⟨s₁, hx.db_eq hx₁, h⟩
  · exact ⟨s, rfl, h⟩

theorem dbKept_freshId : DbKept freshId := fun _ => rfl

/-- The one statement of an operation decides its database: the one it started with, when the
statement is refused, or the one the statement produced. -/
theorem runDb_db {op : String} {f : Database → Except SqlError (Database × α)}
    {k : α → StoreM β} (hk : ∀ a, DbKept (k a)) (s : MetaStore) :
    (outcome (runDb op f >>= k) s).2.db = s.db ∨
      ∃ db' a, f s.db = .ok (db', a) ∧ (outcome (runDb op f >>= k) s).2.db = db' := by
  rw [outcome_runDb_bind]
  rcases h : f s.db with e | ⟨db', a⟩
  · exact .inl rfl
  · exact .inr ⟨db', a, rfl, hk a _⟩

/-- A failed transaction leaves the database it started with. -/
theorem inTx_error_db {x : StoreM α} {s s' : MetaStore} {e : Failure}
    (h : outcome (inTx x) s = (.error e, s')) : s'.db = s.db := by
  rw [outcome_inTx] at h
  split at h
  · rw [← (Prod.mk.inj h).2]
  · split at h
    · cases h
    · rw [← (Prod.mk.inj h).2]

end Kept

/-! ## Reading records -/

/-- A lookup leaves the whole state as it found it. -/
theorem Jobs.get_same (id : Uuid) (s : MetaStore) : (outcome (Jobs.get id) s).2 = s := by
  simp only [Jobs.get, Jobs.getWhere, outcome_readDb_bind]
  split
  · split
    · rw [outcome_readRecord]
      split <;> rfl
    · rfl
  · rfl

theorem Tasks.get_same (id : Uuid) (s : MetaStore) : (outcome (Tasks.get id) s).2 = s := by
  simp only [Tasks.get, Tasks.getWhere, outcome_readDb_bind]
  split
  · split
    · rw [outcome_readRecord]
      split <;> rfl
    · rfl
  · rfl

theorem Jobs.get_kept (id : Uuid) : DbKept (Jobs.get id) := fun s => by
  rw [Jobs.get_same]

theorem Tasks.get_kept (id : Uuid) : DbKept (Tasks.get id) := fun s => by
  rw [Tasks.get_same]

theorem Documents.get_kept (id : Uuid) : DbKept (Documents.get id) := by
  refine (dbKept_readDb _ _).bind fun (t, rows) => ?_
  rcases rows with _ | ⟨r, _⟩
  · exact dbKept_throw _
  · exact dbKept_readRecord _ _

end CreditExtraction.Store
