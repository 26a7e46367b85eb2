/-!
# The lifecycle of documents, jobs and tasks

* A document is `NOT_READY` until its raw bytes are stored, then `READY`; a job owns it while
  `IN_PROGRESS`, and hands it back `DONE`, `ERROR` or `READY` (when cancelled).
* A job moves through the stages `CREATED → OCR_RUNNING → NORMALIZING → EXTRACTING →
  VALIDATING → PERSISTING → FINISHED`, or to `ERROR` from any stage that is not terminal.
  Its coarse state follows the stage: `CREATED`, `RUNNING`, `FINISHED` or `ERROR`.
* A queued task is `pending`, `running` under a lease, `completed` or `failed`.

Names read back from storage need not be known ones, so each enumeration has an `other` case
that keeps the stored name; an unknown stage has no successor and is not terminal.
-/

namespace CreditExtraction

/-- The status of a document. -/
inductive DocumentStatus where
  | notReady
  | ready
  | inProgress
  | done
  | error
  | other (name : String)
deriving Repr, DecidableEq, Inhabited

/-- The stored name of a document status. -/
def DocumentStatus.name : DocumentStatus → String
  | .notReady => "NOT_READY"
  | .ready => "READY"
  | .inProgress => "IN_PROGRESS"
  | .done => "DONE"
  | .error => "ERROR"
  | .other n => n

/-- The document status of a stored name. -/
def DocumentStatus.ofName : String → DocumentStatus
  | "NOT_READY" => .notReady
  | "READY" => .ready
  | "IN_PROGRESS" => .inProgress
  | "DONE" => .done
  | "ERROR" => .error
  | n => .other n

/-- The coarse state of a job. -/
inductive JobState where
  | created
  | running
  | finished
  | error
  | other (name : String)
deriving Repr, DecidableEq, Inhabited

/-- The stored name of a job state. -/
def JobState.name : JobState → String
  | .created => "CREATED"
  | .running => "RUNNING"
  | .finished => "FINISHED"
  | .error => "ERROR"
  | .other n => n

/-- The job state of a stored name. -/
def JobState.ofName : String → JobState
  | "CREATED" => .created
  | "RUNNING" => .running
  | "FINISHED" => .finished
  | "ERROR" => .error
  | n => .other n

/-- The stage of a job. -/
inductive Stage where
  | created
  | ocrRunning
  | normalizing
  | extracting
  | validating
  | persisting
  | finished
  | error
  | other (name : String)
deriving Repr, DecidableEq, Inhabited

namespace Stage

/-- The stored name of a stage. -/
def name : Stage → String
  | .created => "CREATED"
  | .ocrRunning => "OCR_RUNNING"
  | .normalizing => "NORMALIZING"
  | .extracting => "EXTRACTING"
  | .validating => "VALIDATING"
  | .persisting => "PERSISTING"
  | .finished => "FINISHED"
  | .error => "ERROR"
  | .other n => n

/-- The stage of a stored name. -/
def ofName : String → Stage
  | "CREATED" => .created
  | "OCR_RUNNING" => .ocrRunning
  | "NORMALIZING" => .normalizing
  | "EXTRACTING" => .extracting
  | "VALIDATING" => .validating
  | "PERSISTING" => .persisting
  | "FINISHED" => .finished
  | "ERROR" => .error
  | n => .other n

/-- The stage that follows, for the working stages. -/
def next : Stage → Option Stage
  | .created => some .ocrRunning
  | .ocrRunning => some .normalizing
  | .normalizing => some .extracting
  | .extracting => some .validating
  | .validating => some .persisting
  | .persisting => some .finished
  | _ => none

/-- Has the job ended? -/
def terminal : Stage → Bool
  | .finished | .error => true
  | _ => false

/-- Is the job still going? -/
def active (s : Stage) : Bool := !s.terminal

/-- The coarse state that goes with a stage. -/
def jobState : Stage → JobState
  | .created => .created
  | .finished => .finished
  | .error => .error
  | _ => .running

end Stage

/-- The status of a queued task. -/
inductive TaskStatus where
  | pending
  | running
  | completed
  | failed
  | other (name : String)
deriving Repr, DecidableEq, Inhabited

/-- The stored name of a task status. -/
def TaskStatus.name : TaskStatus → String
  | .pending => "pending"
  | .running => "running"
  | .completed => "completed"
  | .failed => "failed"
  | .other n => n

/-- The task status of a stored name. -/
def TaskStatus.ofName : String → TaskStatus
  | "pending" => .pending
  | "running" => .running
  | "completed" => .completed
  | "failed" => .failed
  | n => .other n

end CreditExtraction
