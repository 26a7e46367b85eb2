import CreditExtraction.Pipeline.Services
import CreditExtraction.Text.Utf8

/-!
# Running a job

A run drives a job from the stage it is stored at to `FINISHED` or `ERROR`, one stage at a
time: the work of the stage, then the move to the next stage, conditional on the job still
being at its stage with no cancel asked for. A job delivered again re-enters the stage it was
left in, and what an earlier run produced is read back from the artifact store:

| stage         | work                                                           |
|---------------|----------------------------------------------------------------|
| `CREATED`     | none                                                           |
| `OCR_RUNNING` | read the document's bytes, ask the OCR service, store `OCR_RAW` |
| `NORMALIZING` | normalize the raw lines, store `OCR_CLEAN`                     |
| `EXTRACTING`  | ask the extractor for candidates, store `LLM_EXTRACTED`        |
| `VALIDATING`  | merge the candidates into the result                           |
| `PERSISTING`  | store the result and fields; the job is `FINISHED`             |

A call to the OCR service or the extractor counts one attempt on the job and is tried again,
after the policy's delay, while it fails transiently, every failed attempt logged on the job; a
failure that the job cannot recover from is recorded on it (`ERROR`, document `ERROR`). A cancel asked for takes
effect before the next stage: the job ends in `ERROR` with code `Cancelled` and its document is
handed back `READY`. A conditional update that loses — the job was cancelled, ended or moved
on elsewhere — is reconciled with the stored job instead of being recorded as a failure. A
cancelled call of a collaborator leaves the job where it is, for the next delivery.

A run hands back the job as it last saw it and a failure only when the outcome could not be
recorded.

A run logs what it does (`pipeline.job.run`, `pipeline.stage.ok`, `pipeline.job.failed`, …)
under the job, its document and, when a worker runs it, the task that delivered it.
-/

namespace CreditExtraction.Pipeline

open Store

/-- What a run has loaded or produced so far. -/
structure RunState where
  job : Job
  doc : Option Document
  docType : Option DocumentType
  raw : Option (List Ocr.RawLine)
  lines : Option (List Ocr.Line)
  extraction : Option Extraction
  result : Option PipelineResult
  /-- The attributes of every record the run logs. -/
  context : List (String × Log.Value)

/-- A run that has loaded nothing yet, logging under `context`. -/
def RunState.start (job : Job) (context : List (String × Log.Value)) : RunState :=
  ⟨job, none, none, none, none, none, none, context⟩

/-- Steps of a run: a failure above the run's state, which it keeps, above a crash. -/
abbrev RunM (m : Type → Type) := ExceptT Failure (StateT RunState (ExceptT String m))

namespace Orchestrator

variable {m : Type → Type} [Monad m] (o : Orchestrator m)

/-- Stops everything with a crash. -/
def crash {α : Type} (msg : String) : RunM m α :=
  liftM (throw msg : ExceptT String m α)

/-- Writes a record to the log under the run's attributes. -/
def note (level : Log.Level) (msg : String) (attrs : List (String × Log.Value)) : RunM m Unit := do
  o.log level msg ((← get).context ++ attrs)

/-- Changes the job as the run sees it. -/
def setJob (f : Job → Job) : RunM m Unit :=
  modify fun s => { s with job := f s.job }

/-- The loaded document. -/
def document : RunM m Document := do
  match (← get).doc with
  | some d => pure d
  | none => throw (Failure.tagged .internal "document not loaded")

/-- The loaded document type. -/
def docType : RunM m DocumentType := do
  match (← get).docType with
  | some d => pure d
  | none => throw (Failure.tagged .internal "document type not loaded")

/-- Appends `"<time> <stage> <code>: <message>"` to the job's log, white space in the message
collapsed; a log that cannot be written is left as it is. -/
def appendLog (stage : Stage) (code msg : String) : RunM m Unit := do
  let t ← o.now
  let entry := t.rfc3339 ++ " " ++ stage.name ++ " " ++ code ++ ": " ++
    " ".intercalate (Text.CharClass.fields msg)
  match ← observe (o.retried (Jobs.appendLog (← get).job.id entry) : RunM m Unit) with
  | .ok _ => setJob fun j => { j with workerLog := j.workerLog ++ entry ++ "\n" }
  | .error e => o.note .warn "pipeline.worker_log.append_failed" [Log.text "err" e.message]

/-- Loads the job's document and its type. -/
def load : RunM m Unit := do
  let doc ← o.retried (Documents.get (← get).job.document)
  modify fun s => { s with doc := some doc }
  match o.settings.registry.get doc.documentType with
  | .ok dt => modify fun s => { s with docType := some dt }
  | .error e => throw e

/-- Stores an artifact of the document as JSON. -/
def putJson (stage : Artifact.Stage) (j : Json) : RunM m Unit := do
  let doc ← document
  o.persevere do
    let a ← (o.artifact (Artifact.Store.put ⟨doc.id, stage, "json"⟩ (Json.render j).toUTF8) : RunM m Artifact.Stored)
    o.note .debug "artifact.put" [Log.text "stage" stage.name, Log.text "locator" a.locator, Log.int "size" a.size]

/-- Reads back an artifact of the document stored as JSON. -/
def getJson {α : Type} (stage : Artifact.Stage) (decode : String → Except String α) : RunM m α := do
  let doc ← document
  let data ← tryCatchThe Failure
    (o.persevere (o.artifact (Artifact.Store.getContent ⟨doc.id, stage, "json"⟩)))
    fun e => throw (Failure.context ("load " ++ stage.name ++ " artifact") e)
  match decode (Text.Utf8.lossyOfBytes data) with
  | .ok a => pure a
  | .error msg => throw (.plain ("decode " ++ stage.name ++ " artifact: " ++ msg))

/-- Calls a collaborator under the retry policy (see the module comment): every call counts
one attempt on the job, every failed one that was not cancelled is logged. -/
def call {α : Type} (stage : Stage) (act : RunM m α) : RunM m α :=
  go 1 o.settings.retry.attempts
where
  /-- The attempt `k`, with `left` attempts still allowed. -/
  go (k : Nat) : Nat → RunM m α
    | 0 => act
    | left + 1 => do
      o.retried (Jobs.incrementAttempts (← get).job.id)
      setJob fun j => { j with attempts := j.attempts + 1 }
      match ← observe act with
      | .ok a => pure a
      | .error e =>
        if e.has .contextCanceled then throw e
        let limit := o.settings.retry.attempts
        o.appendLog stage e.code ("attempt " ++ toString k ++ "/" ++ toString limit ++ ": " ++ e.message)
        o.note .warn "pipeline.stage.attempt_failed" [Log.text "stage" stage.name, Log.int "attempt" k,
          Log.int "max" limit, Log.text "code" e.code, Log.bool "retryable" e.retryable, Log.text "err" e.message]
        if !e.retryable then throw e
        if k ≥ limit then throw (exhausted e k)
        o.wait k e
        go (k + 1) left

/-- Asks the OCR service for the lines of the document's bytes. -/
def askOcr (data : ByteArray) (mime : String) : RunM m (List Ocr.RawLine) := do
  match ← (liftM (o.services.ocr data mime) : RunM m _) with
  | .ok raw => pure raw
  | .error e => throw e

/-- Asks the extractor for the candidates of the lines; a reply that cannot be repaired
crashes. -/
def askExtractor (lines : List Ocr.Line) (dt : DocumentType) : RunM m Extraction := do
  match ← (liftM (Llm.extract o.services.chat o.settings.extractor o.services.log o.services.freshId lines dt) : RunM m _) with
  | .ok out => pure out
  | .error (.failure e) => throw e
  | .error (.crash msg) => crash msg

/-- The work of `OCR_RUNNING`. -/
def runOcr : RunM m Unit := do
  let doc ← document
  let data ← tryCatchThe Failure
    (o.persevere (o.artifact (Artifact.Store.getContent ⟨doc.id, Artifact.Stage.raw, doc.contentKind⟩)))
    fun e => throw (Failure.context "load raw document" e)
  let raw ← o.call .ocrRunning (o.askOcr data doc.mimeType)
  modify fun s => { s with raw := some raw }
  o.note .info "pipeline.ocr.ok" [Log.int "lines" raw.length]
  o.putJson Artifact.Stage.ocrRaw (Ocr.rawLinesToJson raw)

/-- The work of `NORMALIZING`. -/
def normalize : RunM m Unit := do
  let raw ← match (← get).raw with
    | some r => pure r
    | none => o.getJson Artifact.Stage.ocrRaw Ocr.RawLine.listOfText
  modify fun s => { s with raw := some raw }
  let lines := o.settings.normalizer.normalize raw
  modify fun s => { s with lines := some lines }
  o.note .info "pipeline.normalize.ok" [Log.int "raw_lines" raw.length, Log.int "lines" lines.length]
  o.putJson Artifact.Stage.ocrClean (Ocr.linesToJson lines)

/-- The clean lines, read back when this run has not made them. -/
def ensureLines : RunM m (List Ocr.Line) := do
  match (← get).lines with
  | some ls => pure ls
  | none =>
    let ls ← o.getJson Artifact.Stage.ocrClean Ocr.Line.listOfText
    modify fun s => { s with lines := some ls }
    pure ls

/-- The work of `EXTRACTING`. -/
def extract : RunM m Unit := do
  let lines ← o.ensureLines
  let dt ← docType
  let out ← o.call .extracting (o.askExtractor lines dt)
  modify fun s => { s with extraction := some out }
  o.note .info "pipeline.extract.ok" [Log.int "candidates" out.candidates.length, Log.text "model" out.model]
  o.putJson Artifact.Stage.llmExtracted out.toJson

/-- The work of `VALIDATING`: the merged result, bound to the job and document. -/
def validate : RunM m PipelineResult := do
  let lines ← o.ensureLines
  let out ← match (← get).extraction with
    | some x => pure x
    | none => o.getJson Artifact.Stage.llmExtracted Extraction.ofText
  modify fun s => { s with extraction := some out }
  let st ← get
  let doc ← document
  let res := (merge lines out (← docType)).bind st.job.id doc.id
  modify fun s => { s with result := some res }
  if !res.flagged.isEmpty then
    o.note .info "pipeline.validate.flagged" [Log.int "fields" res.flagged.length]
  pure res

/-- The work of `PERSISTING`: the result is stored and the job ends `FINISHED`. -/
def persist : RunM m Unit := do
  let res ← match (← get).result with
    | some r => pure r
    | none => o.validate
  o.retried (Jobs.finish (← get).job.id res)
  let t ← o.now
  setJob fun j => { j with stage := .finished, state := .finished, finishedAt := some t }

/-- Does the work of a stage; the stage to move to. -/
def execute (stage : Stage) : RunM m Stage := do
  match stage with
  | .created => pure ()
  | .ocrRunning => o.runOcr
  | .normalizing => o.normalize
  | .extracting => o.extract
  | .validating => discard o.validate
  | .persisting => o.persist
  | s => throw (Failure.tagged .internal ("no work defined for stage " ++ s.name))
  pure (stage.next.getD (.other ""))

/-- Moves the job to the next stage. -/
def advance (source target : Stage) : RunM m Unit := do
  o.retried (Jobs.advance (← get).job.id source target)
  setJob fun j => { j with stage := target, state := target.jobState }

/-- Reads the job back; whether a cancel is asked for and the job has not ended. -/
def cancelRequested : RunM m Bool := do
  let job ← o.retried (Jobs.get (← get).job.id)
  setJob fun _ => job
  pure (job.cancelRequested && !job.stage.terminal)

/-- Ends the job cancelled and hands its document back `READY`; a job that has ended
meanwhile is left alone. -/
def cancel : RunM m (Option Failure) := do
  let code := (Failure.cause .cancelled).code
  let stage := (← get).job.stage
  o.appendLog stage code "cancel requested"
  let id := (← get).job.id
  match ← observe (o.retried (Jobs.fail id code Cause.cancelled.message .ready) : RunM m Unit) with
  | .error e => if !e.has .staleTransition then return some e
  | .ok _ => pure ()
  match ← observe (o.store (Jobs.get id) : RunM m Job) with
  | .ok job => setJob fun _ => job
  | .error _ => pure ()
  o.log .info "pipeline.job.cancelled" [Log.text "job_id" id.toText, Log.text "stage" stage.name]
  pure none

/-- Takes in a conditional update that lost: the stored job is the outcome, and a cancel
asked for is carried out. -/
def reconcile : RunM m (Option Failure) := do
  match ← observe (o.store (Jobs.get (← get).job.id) : RunM m Job) with
  | .error e => pure (some e)
  | .ok job =>
    setJob fun _ => job
    if !job.stage.terminal && job.cancelRequested then o.cancel
    else
      o.note .info "pipeline.job.moved" [Log.text "stage" job.stage.name]
      pure none

/-- Records a failure at a stage on the job, which ends in `ERROR` with its document; a
cancelled call leaves the job as it is and passes the failure on. -/
def abort (stage : Stage) (cause : Failure) : RunM m (Option Failure) := do
  if cause.has .contextCanceled then
    o.note .warn "pipeline.job.interrupted" [Log.text "stage" stage.name, Log.text "err" cause.message]
    return some cause
  o.appendLog stage cause.code cause.message
  let id := (← get).job.id
  match ← observe (o.retried (Jobs.fail id cause.code cause.message .error) : RunM m Unit) with
  | .error e =>
    if e.has .staleTransition then o.reconcile
    else
      o.note .error "pipeline.job.fail_not_recorded" [Log.text "stage" stage.name, Log.text "err" e.message,
        Log.text "cause" cause.message]
      pure (some e)
  | .ok _ =>
    o.note .error "pipeline.job.failed" [Log.text "stage" stage.name, Log.text "code" cause.code,
      Log.text "kind" cause.kind.name, Log.text "err" cause.message]
    match ← observe (o.store (Jobs.get id) : RunM m Job) with
    | .ok job => setJob fun _ => job
    | .error _ => pure ()
    pure none

/-- Draws the field map of a finished job; a failure is only logged. -/
def visualize : RunM m Unit := do
  match o.services.renderer with
  | none => pure ()
  | some render =>
    let draw : RunM m Unit := do
      let lines ← o.ensureLines
      let doc ← document
      let fields := ((← get).result.map (·.fields)).getD []
      match render doc.id lines fields with
      | .error e => throw e
      | .ok png =>
        let a ← (o.artifact (Artifact.Store.put ⟨doc.id, Artifact.Stage.visualized, "png"⟩ png) : RunM m Artifact.Stored)
        o.note .info "pipeline.visualize.ok" [Log.text "locator" a.locator]
    match ← observe draw with
    | .ok _ => pure ()
    | .error e =>
      o.note .warn "pipeline.visualize.failed" [Log.text "err" e.message]
      o.appendLog .finished "VisualizeFailed" e.message

/-- How a failed stage ends the run: a lost update is reconciled, anything else recorded. -/
def settle (stage : Stage) (e : Failure) : RunM m (Option Failure) :=
  if e.has .staleTransition then o.reconcile else o.abort stage e

/-- The stages of a run, at most `fuel` of them. Every stage that completes moves the job one
stage on, so seven suffice. -/
def stages : Nat → RunM m (Option Failure)
  | 0 => pure none
  | fuel + 1 => do
    if (← get).job.stage.terminal then
      if (← get).job.stage == .finished then
        o.visualize
        let (fields, missing) := match (← get).result with
          | some r => (r.fields.length, r.missing.length)
          | none => (0, 0)
        o.note .info "pipeline.job.finished" [Log.int "fields" fields, Log.int "missing" missing]
      return none
    match ← observe o.cancelRequested with
    | .error e => o.abort (← get).job.stage e
    | .ok true => o.cancel
    | .ok false =>
      let source := (← get).job.stage
      if source.terminal then
        o.note .info "pipeline.job.moved" [Log.text "stage" source.name]
        return none
      let start ← o.now
      match ← observe (o.execute source) with
      | .error e => o.settle source e
      | .ok target =>
        let moved ← if source == .persisting then pure (.ok ()) else observe (o.advance source target)
        match moved with
        | .error e => o.settle source e
        | .ok _ =>
          let elapsed := ((← o.now).sub start) / 1000000
          o.note .info "pipeline.stage.ok" [Log.text "stage" source.name, Log.text "next" target.name,
            Log.int "elapsed_ms" elapsed]
          stages fuel

/-- The bound on the stages of one run. -/
def stageBound : Nat := 8

/-- Runs a job (see the module comment), delivered by `task` when a worker runs it: the job
as the run last saw it, unless it could not be read, and the failure the run hands back. -/
def run (id : Uuid) (task : Option Uuid) : ExceptT String m (Option Job × Option Failure) := do
  match ← (liftM (o.services.metadata (Jobs.get id)) : ExceptT String m _) with
  | .error e => pure (none, some e)
  | .ok job =>
    let context := [Log.text "job_id" id.toText, Log.text "document_id" job.document.toText] ++
      match task with
      | some t => [Log.text "task_id" t.toText]
      | none => []
    let here := fun (msg : String) =>
      (liftM (o.services.log ⟨.info, msg, context ++ [Log.text "stage" job.stage.name]⟩) : ExceptT String m Unit)
    if job.stage.terminal then
      liftM (o.services.log ⟨.debug, "pipeline.job.terminal", context ++ [Log.text "stage" job.stage.name]⟩)
      return (some job, none)
    here "pipeline.job.run"
    let body : RunM m (Option Failure) := do
      match ← observe o.load with
      | .error e => o.abort job.stage e
      | .ok _ => o.stages stageBound
    let (r, st) ← (body.run).run (RunState.start job context)
    pure (some st.job, match r with
      | .ok e => e
      | .error e => some e)

end Orchestrator

end CreditExtraction.Pipeline
