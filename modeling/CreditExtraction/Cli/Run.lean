import CreditExtraction.Cli.Catalog
import CreditExtraction.Cli.Machine
import CreditExtraction.Config.DotEnv
import CreditExtraction.Json.Pretty
import CreditExtraction.Export.Review

/-!
# Running `creditx`

A command line is read against the catalogue (`creditx`); the help it asks for is printed, a
line the catalogue refuses fails with the refusal, and a command runs on the machine.

A command that needs the service opens it first: the environment files are loaded (`./.env`,
or the `--env-file` files), each setting only the variables not set yet; the log takes its
format and level from the flags; the settings are read from the environment and the service
opens (`Service.openServiceLogged`). When the command ends the service closes. Commands that
only read state open the service without the backends that work on documents.

`upload` and `ingest-dir` print the outcome as indented JSON, `documents` and `jobs` one
tab-separated line a row, `submit`, `run`, `status` and `cancel` the job (then its trimmed
worker log), `result` the stored result, `export` and `batch` the workbook's path, and
`schema check` each document type with its fields. A failure's exit status is 3 for a missing
resource, 4 for a document that already has a job, 5 for a failure worth trying again or one
of the infrastructure, and 1 otherwise.
-/

namespace CreditExtraction.Cli

open Store

variable {σ : Type}

/-- A command's work on a machine; it fails with the failure the command reports. -/
abbrev CommandM (σ : Type) := ExceptT Failure (MachineM σ)

/-- The exit status of a failed command (see the module comment). -/
def exitStatus (e : Failure) : Nat :=
  if e.code == "NotFound" then 3
  else if e.code == "ConcurrentJobConflict" then 4
  else if e.kind == .transient || e.kind == .infrastructure then 5
  else 1

/-- The value of an environment variable, or a fallback when it is unset or empty. -/
def Machine.envOr (m : Machine σ) (k fallback : String) : String :=
  match m.lookupEnv k with
  | some v => if v.isEmpty then fallback else v
  | none => fallback

/-- Loads environment files into the machine: `.env` when none is named. A file sets only the
variables not set yet; one that cannot be read or parsed sets nothing. -/
def loadEnvFiles (names : List String) : MachineM σ Unit := do
  for name in (if names.isEmpty then [".env"] else names) do
    let m ← get
    match m.files.readFile (m.resolve name) with
    | .error _ => pure ()
    | .ok data =>
      match Config.parseDotEnv m.lookupEnv (Text.Utf8.lossyOfBytes data) with
      | .error _ => pure ()
      | .ok vars =>
        let fresh := vars.filter fun (k, _) => k != "" && (m.lookupEnv k).isNone
        set { m with env := fresh.reverse ++ m.env }

/-- Writes records to the log, in order. -/
def logAll (records : List Log.Record) : MachineM σ Unit :=
  records.forM fun r => logRecord r.level r.msg r.attrs

/-- A step on the machine, as a step of a command. -/
def onMachine {α : Type} (act : MachineM σ α) : CommandM σ α := ExceptT.lift act

/-- Fails a command with the failure of a computation. -/
def liftResult {α : Type} (r : Except Failure α) : CommandM σ α := ExceptT.mk (pure r)

/-- Runs an operation of the open service's metadata store. -/
def inStore {α : Type} (op : StoreM α) : CommandM σ α := ExceptT.mk (onStore op)

/-- Runs a step of the orchestrator; a crash fails the command with its message. -/
def orchestrated {α : Type} (act : Pipeline.Step (MachineM σ) α) : CommandM σ α := ExceptT.mk do
  match ← act.run.run with
  | .ok r => pure r
  | .error msg => pure (.error (.plain msg))

/-- Prints a document as indented JSON. -/
def printJson (j : Json) : MachineM σ Unit := print (Json.prettyLine j)

/-- Keeps a database in the file a connection string names, if it names one. -/
def keepDatabase (dsn : String) (db : Sql.Database) : MachineM σ Unit :=
  modify fun m =>
    if Store.Driver.ofDsn dsn != .embedded then m
    else match Store.placementOf (Store.embeddedName dsn) with
      | .memory => m
      | .file path =>
        let full := m.resolve path
        { m with databases := (full, db) :: m.databases.filter (·.1 != full),
                 files := if (m.files.node? full).isSome then m.files else m.files.put full (.file .empty) }

/-- Opens the service for a command (see the module comment). -/
def openApp (inv : Invocation) (collaborators : Bool) : CommandM σ Service.Opened := do
  onMachine (loadEnvFiles (inv.flag "env-file").asTexts)
  modify fun m => { m with logger := Log.Handler.ofNames (inv.flag "log-format").asText (inv.flag "log-level").asText }
  let m ← get
  let settings := Settings.load m.environment
  let (records, opened, left) := Service.openServiceLogged settings m.surroundings collaborators
  onMachine (logAll records)
  match opened with
  | .error e =>
    if let some db := left then onMachine (keepDatabase settings.database.dsn db)
    throw e
  | .ok svc =>
    modify fun m => { m with service := some svc }
    pure svc

/-- Closes the open service, keeping its database. -/
def closeApp : MachineM σ Unit := do
  match (← get).service with
  | none => pure ()
  | some svc =>
    logAll Store.closingRecords
    keepDatabase svc.settings.database.dsn svc.store.db
    modify fun m => { m with service := none }

/-- Runs a command's work with the service open, closing it afterwards. -/
def withApp {α : Type} (inv : Invocation) (collaborators : Bool) (body : Service.Opened → CommandM σ α) :
    CommandM σ α := do
  let svc ← openApp inv collaborators
  let r ← onMachine (body svc).run
  onMachine closeApp
  liftResult r

/-- The document type a command names, or the default one. -/
def typeOf (inv : Invocation) (svc : Service.Opened) : String :=
  let t := (inv.flag "type").asText
  if t.isEmpty then svc.settings.schema.defaultType else t

/-- A job as commands print it: without its worker log and result. -/
def jobJson (j : Job) : Json :=
  let text (k : String) : Option String → List (String × Json)
    | some v => [(k, .str v)]
    | none => []
  let time (k : String) : Option Time.Instant → List (String × Json)
    | some t => [(k, .str t.rfc3339Nano)]
    | none => []
  .obj ([("id", .str j.id.toText), ("document_id", .str j.document.toText), ("state", .str j.state.name),
    ("stage", .str j.stage.name), ("attempts", .ofInt j.attempts), ("cancel_requested", .bool j.cancelRequested)] ++
    text "error_code" j.errorCode ++ text "error_message" j.errorMessage ++
    [("created_at", .str j.createdAt.rfc3339Nano)] ++ time "started_at" j.startedAt ++ time "finished_at" j.finishedAt)

/-- Prints a job, then its worker log when it has one. -/
def printJob (j : Job) : MachineM σ Unit := do
  printJson (jobJson j)
  let log := Text.CharClass.trimSpace j.workerLog
  if !log.isEmpty then print (log ++ "\n")

/-- The line of a document in a listing. -/
def documentLine (d : Document) : String :=
  d.id.toText ++ "\t" ++ padRight d.status.name 11 ++ "\t" ++ d.documentType ++ "\t" ++
    (if d.creditRequestId.isEmpty then "-" else d.creditRequestId) ++ "\t" ++
    (match d.activeJob with
      | some j => j.toText
      | none => "-") ++ "\t" ++ d.sourcePath ++ "\n"

/-- The line of a job in a listing. -/
def jobLine (j : Job) : String :=
  j.id.toText ++ "\t" ++ padRight j.stage.name 11 ++ "\t" ++ padRight j.state.name 8 ++ "\t" ++
    toString j.attempts ++ "\t" ++ j.createdAt.spaced ++ "\t" ++ j.errorCode.getD "" ++ "\n"

/-- The statuses a document can be listed by. -/
def listedStatuses : List DocumentStatus := [.notReady, .ready, .inProgress, .done, .error]

/-- The bytes of a workbook file: its sheets as JSON text. -/
def workbookBytes (sheets : List Export.Sheet) : ByteArray := (Json.render (Export.sheetsJson sheets)).toUTF8

/-- Writes a file the command was asked to write; a failure names the path as given. -/
def writeOut (out : String) (data : ByteArray) : CommandM σ Unit := do
  let m ← get
  match m.files.writeFile (m.resolve out) data with
  | .ok t => set { m with files := t }
  | .error e => throw (.plain { e with paths := [out] }.message)

/-- The shortest job timeout that leaves time for a first store operation. -/
def shortestJobTimeout : Time.Duration := 1000000

/-- Runs a job for a document at once: the job, when one was made, and the failure. A job
timeout too short for a first store operation ends the run before a job is made. -/
def runJob (peers : Peers σ) (svc : Service.Opened) (document : Uuid) : CommandM σ (Option Job × Option Failure) := do
  if svc.settings.pipeline.jobTimeout < shortestJobTimeout then
    return (none, some (.cause .deadlineExceeded))
  let o := orchestrator peers (← get) svc
  match ← onMachine (o.runNow document).run with
  | .ok r => pure r
  | .error msg => pure (none, some (.plain msg))

/-- `upload <file>`. -/
def upload (inv : Invocation) (path : String) : CommandM σ Unit :=
  withApp inv false fun svc => do
    let m ← get
    let (res, err) ← onMachine ((ingestor svc).ingestPath m.files (m.resolve path) (typeOf inv svc)
      (inv.flag "credit-request").asText)
    match err with
    | some e => throw e
    | none => onMachine (printJson res.toJson)

/-- `ingest-dir <dir>`. -/
def ingestDir (inv : Invocation) (root : String) : CommandM σ Unit :=
  withApp inv false fun svc => do
    let m ← get
    let (results, stats, err) ← onMachine ((ingestor svc).ingestDirectory m.files m.cwd root (typeOf inv svc)
      (!(inv.flag "include-hidden").asBool) (inv.flag "credit-request").asText)
    if let some e := err then throw e
    onMachine <| printJson (.obj [("results", if results.isEmpty then .null else .arr (results.map (·.toJson))),
      ("stats", stats.toJson)])

/-- `documents`. -/
def documents (inv : Invocation) : CommandM σ Unit := do
  let status := (inv.flag "status").asText
  let creditRequest := Text.CharClass.trimSpace (inv.flag "credit-request").asText
  if creditRequest != "" && (status != "" || inv.changed "limit") then
    throw (Failure.tagged .invalidInput "--credit-request cannot be combined with --status or --limit")
  let status := Text.CharClass.upperString (Text.CharClass.trimSpace status)
  if status != "" then
    if let some e := (({} : Validator).field "status" (.str status)
        [.oneOf (listedStatuses.map DocumentStatus.name)]).failure? then throw e
  withApp inv false fun _ => do
    let docs ← if creditRequest != "" then inStore (Documents.listByCreditRequest creditRequest)
      else inStore (Documents.list status (inv.flag "limit").asInt)
    for d in docs do onMachine (print (documentLine d))

/-- `submit <document_id>`. -/
def submit (peers : Peers σ) (inv : Invocation) (arg : String) : CommandM σ Unit := do
  let id ← liftResult (parseUuidArg "document_id" arg)
  withApp inv false fun svc => do
    let job ← orchestrated ((orchestrator peers (← get) svc).submit id)
    onMachine (printJson (jobJson job))

/-- `run <document_id>`. -/
def runDocument (peers : Peers σ) (inv : Invocation) (arg : String) : CommandM σ Unit := do
  let id ← liftResult (parseUuidArg "document_id" arg)
  withApp inv true fun svc => do
    match ← runJob peers svc id with
    | (_, some e) => throw e
    | (some job, none) => onMachine (printJob job)
    | (none, none) => pure ()

/-- `status <job_id>`. -/
def status (peers : Peers σ) (inv : Invocation) (arg : String) : CommandM σ Unit := do
  let id ← liftResult (parseUuidArg "job_id" arg)
  withApp inv false fun svc => do
    let job ← orchestrated ((orchestrator peers (← get) svc).status id)
    onMachine (printJob job)

/-- `result <job_id>`. -/
def result (peers : Peers σ) (inv : Invocation) (arg : String) : CommandM σ Unit := do
  let id ← liftResult (parseUuidArg "job_id" arg)
  withApp inv false fun svc => do
    let res ← orchestrated ((orchestrator peers (← get) svc).result id)
    onMachine (printJson res.toJson)

/-- `cancel <job_id>`. -/
def cancel (peers : Peers σ) (inv : Invocation) (arg : String) : CommandM σ Unit := do
  let id ← liftResult (parseUuidArg "job_id" arg)
  withApp inv false fun svc => do
    let job ← orchestrated ((orchestrator peers (← get) svc).cancelJob id)
    onMachine (printJob job)

/-- `jobs <document_id>`. -/
def jobs (inv : Invocation) (arg : String) : CommandM σ Unit := do
  let id ← liftResult (parseUuidArg "document_id" arg)
  withApp inv false fun _ => do
    for j in ← inStore (Jobs.listByDocument id) do onMachine (print (jobLine j))

/-- `export <job_id>`. -/
def exportJob (inv : Invocation) (arg : String) : CommandM σ Unit := do
  let id ← liftResult (parseUuidArg "job_id" arg)
  let out := (inv.flag "out").asText
  let out := if out.isEmpty then "job-" ++ id.toText ++ ".xlsx" else out
  withApp inv false fun _ => do
    let sheets ← inStore (Export.jobWorkbook id)
    writeOut out (workbookBytes sheets)
    onMachine (print (out ++ "\n"))

/-- `batch <dir>`: takes the directory in, runs a job for every document that is ready, and
writes one workbook of all documents. A document whose job could not be made is passed over;
a job that fails ends the command. -/
def batch (peers : Peers σ) (inv : Invocation) (dir : String) : CommandM σ Unit := do
  let out := (inv.flag "out").asText
  let out := if out.isEmpty then Files.Path.joinClean (Files.Path.dir (Files.Path.clean dir)) "credit-requests.xlsx"
    else out
  let fieldsAsked := (inv.flag "fields").asText
  withApp inv true fun svc => do
    let docType := svc.settings.schema.defaultType
    let m ← get
    let (results, stats, err) ← onMachine ((ingestor svc).ingestDirectory m.files m.cwd dir docType true "")
    if let some e := err then throw e
    onMachine (logRecord .info "batch.ingested" [Log.int "matched" stats.matched,
      Log.int "succeeded" stats.succeeded, Log.int "failed" stats.failed])
    for r in results do
      if r.error.isEmpty then
        let doc ← inStore (Documents.get r.documentId)
        if doc.status == .ready then
          match ← runJob peers svc doc.id with
          | (none, err) =>
            onMachine (logRecord .warn "batch.create_failed" [Log.text "document_id" doc.id.toText,
              ("err", match err with
                | some e => .text e.message
                | none => .none)])
          | (some _, some e) => throw e
          | (some job, none) =>
            onMachine (logRecord .info "batch.job.done" [Log.text "document_id" doc.id.toText,
              Log.text "job_id" job.id.toText, Log.text "stage" job.stage.name])
    let fields ← if fieldsAsked != "" then
        pure (((fieldsAsked.splitOn ",").map Text.CharClass.trimSpace).filter (· != ""))
      else do
        let dt ← liftResult (svc.registry.get docType)
        pure dt.fieldNames
    let sheets ← inStore (Export.documentsWorkbook "" fields)
    writeOut out (workbookBytes sheets)
    onMachine (print (out ++ "\n"))

/-- Lets the workers take the queue until it is at rest: after each pass over the due tasks
the clock moves on a second, for at most `rounds` passes. The first worker takes every task. -/
def drainUntilIdle (peers : Peers σ) (svc : Service.Opened) : Nat → CommandM σ Unit
  | 0 => pure ()
  | rounds + 1 => do
    let o := orchestrator peers (← get) svc
    let p := svc.settings.pipeline
    let lease := Pipeline.PoolSettings.effectiveLease ⟨p.jobTimeout, p.leaseDuration⟩
    let _ ← onMachine (o.drain 1 lease 10000)
    match ← onMachine (onStore Tasks.idle) with
    | .ok true => pure ()
    | _ =>
      modify fun m => { m with clock := m.clock.add (Time.seconds 1) }
      drainUntilIdle peers svc rounds

/-- The number of workers of the pool: the number asked for when positive, else the settings'
when positive, else four. -/
def poolSize (svc : Service.Opened) (asked : Int) : Nat :=
  if asked > 0 then asked.toNat
  else if svc.settings.pipeline.workers > 0 then svc.settings.pipeline.workers.toNat
  else 4

/-- Starts the worker pool: each worker logs that it started. -/
def startPool (workers : Nat) : MachineM σ Unit :=
  (List.range workers).forM fun i => logRecord .info "worker started" [Log.int "worker_id" (i + 1)]

/-- Stops the worker pool: each worker logs that it stopped, then the pool that it drained. -/
def stopPool (workers : Nat) : MachineM σ Unit := do
  (List.range workers).forM fun i => logRecord .info "worker stopped" [Log.int "worker_id" (i + 1)]
  logRecord .info "worker pool drained, shutdown complete" []

/-- `work`: runs the worker pool until the queue is at rest, for at most five seconds. -/
def work (peers : Peers σ) (inv : Invocation) : CommandM σ Unit :=
  withApp inv true fun svc => do
    let workers := poolSize svc (inv.flag "workers").asInt
    onMachine (startPool workers)
    drainUntilIdle peers svc 5
    onMachine (stopPool workers)

/-- The rule of a field as `schema check` shows it. -/
def ruleText (f : SchemaField) : String :=
  if !f.hasRule then "-"
  else f.rule.type.name ++ (match f.rule.pattern with
    | some r => " " ++ r.source
    | none => "")

/-- `schema check [path]`. -/
def schemaCheck (inv : Invocation) : CommandM σ Unit := do
  onMachine (loadEnvFiles (inv.flag "env-file").asTexts)
  modify fun m => { m with logger := Log.Handler.ofNames (inv.flag "log-format").asText (inv.flag "log-level").asText }
  let m ← get
  let path := inv.args.headD (Settings.load m.environment).schema.path
  let reg ← liftResult (Registry.load path m.surroundings.contents)
  onMachine (logRecord .info "schema.registry.loaded"
    [Log.text "path" path, ("document_types", .doc (.arr (reg.names.map .str)))])
  for name in reg.names do
    let dt ← liftResult (reg.get name)
    onMachine (print (dt.name ++ " (" ++ toString dt.fields.length ++ " fields, " ++
      toString dt.mapper.labels ++ " labels)\n"))
    for f in dt.fields do
      onMachine (print ("  " ++ padRight f.name 24 ++ " " ++ padRight (ruleText f) 40 ++ " " ++
        ", ".intercalate f.aliases ++ "\n"))

end CreditExtraction.Cli
