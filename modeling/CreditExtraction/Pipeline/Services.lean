import CreditExtraction.Pipeline.Retry
import CreditExtraction.Store.Tasks
import CreditExtraction.Artifact.Store
import CreditExtraction.Llm.Extractor
import CreditExtraction.Ocr.Normalize
import CreditExtraction.Field.Merge

/-!
# The collaborators of the pipeline

The orchestrator drives jobs against collaborators it does not own: the metadata store, the
artifact store, an OCR service, a chat model, a clock, a notifier for the workers, a log, a
supply of fresh identifiers and, when the field map is wanted, a renderer. They are given as a record of operations in a monad `m`,
so that one orchestrator runs against any world that supplies them, and a statement about it
holds for every behaviour of its collaborators.

Two ways of failing are kept apart. A `Failure` is reported: the orchestrator records it on
the job or hands it back. A crash (its message) is not: it stops everything above it, unless a
worker recovers it. Steps of the orchestrator therefore run in `Step m`, a failure above a
crash.

Operations of the stores that fail because a store is unavailable are tried again
(`retryStore`), up to the attempts of the retry policy; when they run out the last failure is
wrapped as exhausted. Every attempt that is tried again is logged (`pipeline.store.retry`),
and the next waits the policy's delay (`wait`).
-/

namespace CreditExtraction.Pipeline

/-- The settings of an orchestrator. -/
structure Settings where
  retry : RetryPolicy
  normalizer : Ocr.Normalizer
  extractor : Llm.ExtractorConfig
  /-- The deliveries a queued job gets. -/
  taskMaxAttempts : Int
  /-- How long a job run at once holds the task behind it. -/
  taskLease : Time.Duration
  registry : Registry

/-- The deliveries of a queued job when none are given. -/
def defaultTaskMaxAttempts : Int := 5

/-- The lease of a job run at once when none is given: fifteen minutes. -/
def defaultTaskLease : Time.Duration := Time.seconds (15 * 60)

/-- A renderer of the field map: the image of a document's lines with its fields drawn over
them. -/
abbrev Renderer := Uuid → List Ocr.Line → List ExtractedField → Except Failure ByteArray

/-- The collaborators of an orchestrator, in a monad `m`. -/
structure Services (m : Type → Type) where
  /-- Runs an operation of the metadata store. -/
  metadata : {α : Type} → Store.StoreM α → m (Except Failure α)
  /-- Runs an operation of the artifact store. -/
  artifacts : {α : Type} → Artifact.StoreOp α → m (Except Failure α)
  /-- Reads the lines of a document's bytes of a media type. -/
  ocr : ByteArray → String → m (Except Failure (List Ocr.RawLine))
  /-- The chat model behind the extractor. -/
  chat : Llm.ChatBackend m
  /-- The clock. -/
  now : m Time.Instant
  /-- Tells the workers that a job was queued. -/
  notify : m Unit
  /-- Writes a record to the log. -/
  log : Log.Record → m Unit
  /-- A fresh identifier, for the requests of the extractor. -/
  freshId : m Uuid
  /-- Waits a duration before the next try; fails when the run is cancelled first, and at once
  for a duration not above zero when it already is. -/
  pause : Time.Duration → m (Except Failure Unit)
  /-- Draws the field map, when it is wanted. -/
  renderer : Option Renderer

/-- An orchestrator: its collaborators and settings. -/
structure Orchestrator (m : Type → Type) where
  services : Services m
  settings : Settings

/-- Steps of an orchestrator: a failure, above a crash. -/
abbrev Step (m : Type → Type) := ExceptT Failure (ExceptT String m)

/-- A transient failure that ran out of attempts: its code, and the kind that stops further
retries. -/
def exhausted (e : Failure) (attempts : Nat) : Failure :=
  .app e.code ("giving up after " ++ toString attempts ++ " attempts") .infrastructure (some e)

/-- Runs an action and hands back its failure instead of passing it on. -/
def observe {n : Type → Type} [Monad n] [MonadExceptOf Failure n] {α : Type} (act : n α) :
    n (Except Failure α) :=
  tryCatchThe Failure (Except.ok <$> act) fun e => pure (.error e)

/-- Tries an operation of a store until it succeeds, fails otherwise than by an unavailable
store, or has been tried `limit` times; then the last failure of an unavailable store is
exhausted. Before each new attempt `retrying` is told the number and the failure of the last. -/
def retryStore {n : Type → Type} [Monad n] [MonadExceptOf Failure n] {α : Type} (limit : Nat)
    (retrying : Nat → Failure → n Unit) (act : n α) : n α :=
  go 1 limit
where
  /-- The attempt `k`, with `left` attempts still allowed. -/
  go (k : Nat) : Nat → n α
    | 0 => act
    | left + 1 =>
      tryCatchThe Failure act fun e =>
        if !e.has .storeUnavailable then throw e
        else if k ≥ limit then throw (exhausted e k)
        else do
          retrying k e
          go (k + 1) left

namespace Orchestrator

variable {m : Type → Type} [Monad m]

/-- The time now. -/
def now {n : Type → Type} [MonadLiftT m n] (o : Orchestrator m) : n Time.Instant := liftM o.services.now

/-- Writes a record to the log. -/
def log {n : Type → Type} [MonadLiftT m n] (o : Orchestrator m) (level : Log.Level) (msg : String)
    (attrs : List (String × Log.Value)) : n Unit :=
  liftM (o.services.log ⟨level, msg, attrs⟩)

section
variable {n : Type → Type} [Monad n] [MonadLiftT m n] [MonadExceptOf Failure n]

/-- Runs an operation of the metadata store, its failure passed on. -/
def store (o : Orchestrator m) {α : Type} (op : Store.StoreM α) : n α := do
  match ← (liftM (o.services.metadata op) : n (Except Failure α)) with
  | .ok a => pure a
  | .error e => throw e

/-- Runs an operation of the artifact store, its failure passed on. -/
def artifact (o : Orchestrator m) {α : Type} (op : Artifact.StoreOp α) : n α := do
  match ← (liftM (o.services.artifacts op) : n (Except Failure α)) with
  | .ok a => pure a
  | .error e => throw e

/-- Waits the policy's delay after the failed try `k`; a wait cut short fails with its own
failure joined to the try's. -/
def wait (o : Orchestrator m) (k : Nat) (e : Failure) : n Unit := do
  match ← (liftM (o.services.pause (o.settings.retry.delay k)) : n (Except Failure Unit)) with
  | .ok () => pure ()
  | .error serr => throw (.joined [serr, e])

/-- Logs an attempt at a store operation that is tried again, and waits before the next. -/
def storeRetry (o : Orchestrator m) (k : Nat) (e : Failure) : n Unit := do
  o.log .warn "pipeline.store.retry" [Log.int "attempt" k, Log.int "max" o.settings.retry.attempts,
    Log.text "err" e.message]
  o.wait k e

/-- Tries an operation through the retries of the policy, each retry logged. -/
def persevere (o : Orchestrator m) {α : Type} (act : n α) : n α :=
  retryStore o.settings.retry.attempts o.storeRetry act

/-- Runs an operation of the metadata store through the retries of the policy. -/
def retried (o : Orchestrator m) {α : Type} (op : Store.StoreM α) : n α :=
  o.persevere (o.store op)

end

end Orchestrator

end CreditExtraction.Pipeline
