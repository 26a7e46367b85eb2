import CreditExtraction.Simulation.Views
import CreditExtraction.Simulation.FailureSpec
import CreditExtraction.Simulation.Request
import CreditExtraction.Export.Review
import CreditExtraction.Store.Migrations
import CreditExtraction.Schema.Load
import CreditExtraction.Schema.Shipped
import CreditExtraction.Text.Base64
import CreditExtraction.Digest.Sha256

/-!
# Scenarios

A scenario sets up a fresh scripted world and runs a list of steps against it, each a JSON
object naming what to do (`"do"`). The clock starts at `2024-03-01T08:00:00Z` and moves one
second before every step.

The setup gives the document types (`doctypes`, or `registry_yaml`, or the shipped ones), the
scripts of the OCR service (`ocr`) and the chat model (`llm`), the retry policy, the task
settings, whether the field map is drawn, a cache, the normalizer, the prompt limit, the upload
limit, the worker lease and planned faults of the artifact store.

Each step answers with its result or error, the calls made to the scripted collaborators
during it, the answers of SQL that they ran, and the state of the world after it. A crash stops
the scenario: the whole answer is then the crash.
-/

namespace CreditExtraction.Simulation

open Store Pipeline

/-- The failure a member describes. -/
def failureArg (j : Json) (k : String) : Except Json (Option Failure) :=
  match failureOfSpec specDepth (memberOrNull j k) with
  | .ok f => .ok f
  | .error e => .error (badInput e)

/-- What a script entry does before it answers. -/
def interferenceOf (j : Json) : Interference :=
  ⟨j.getStr? "cancel", j.getStr? "fail", textsArg j "sql"⟩

/-- An entry of the OCR script. -/
def ocrEntry (j : Json) : Except Json (ScriptEntry (List Ocr.RawLine)) := do
  let answer ← match ← failureArg j "error" with
    | some e => pure (.error e)
    | none =>
      match (Json.decodeList {} "[]ocr.RawLine" Ocr.decodeRawLine (memberOrNull j "lines")).run' with
      | .ok lines => pure (.ok (lines.getD []))
      | .error e => throw (badInput e)
  pure ⟨answer, interferenceOf j⟩

/-- An entry of the chat script. -/
def chatEntry (j : Json) : Except Json (ScriptEntry String) := do
  let answer ← match ← failureArg j "error" with
    | some e => pure (.error e)
    | none => pure (.ok (j.getStrD "reply"))
  pure ⟨answer, interferenceOf j⟩

/-- A planned fault of the artifact store. -/
def faultOf (j : Json) : Except Json Artifact.Fault := do
  let call ← match j.getStrD "op" with
    | "put" => pure Artifact.Call.put
    | "get" => pure Artifact.Call.get
    | "stat" => pure Artifact.Call.stat
    | o => throw (badInput ("unknown fault op " ++ Text.Quoted.quote o))
  let err ← failureArg j "error"
  pure ⟨call, j.getStr? "stage", j.getStr? "kind", (intArg j "count" 0).toNat, err, j.getStr? "sha"⟩

/-- The time a scenario starts at. -/
def startTime : Time.Instant := Time.Civil.toInstant ⟨2024, 3, 1, 8, 0, 0, 0⟩

/-- The directory of the artifact files. -/
def artifactRoot : String := "/artifacts"

/-- The directory of uploads. -/
def uploadRoot : String := "/upload"

/-- A tree with one directory. -/
def treeWith (dir : String) : Files.Tree :=
  (Files.Tree.empty.mkdirAll dir).toOption.getD Files.Tree.empty

/-- The workers' time for one job. -/
def poolTimeout : Time.Duration := Time.seconds 60

/-- The settings of a scenario. -/
structure ScenarioSettings where
  pipeline : Pipeline.Settings
  visualize : Bool
  maxBytes : Int
  pool : PoolSettings

/-- What a scenario runs with. -/
structure Scenario where
  orchestrator : Orchestrator SimM
  ingestor : Ingest.Ingestor SimM
  /-- The lease the workers take. -/
  poolLease : Time.Duration

/-- The scenario of settings, over the scripted world. -/
def ScenarioSettings.scenario (c : ScenarioSettings) : Scenario :=
  ⟨⟨World.services c.visualize, c.pipeline⟩, World.ingestor c.pipeline.registry c.maxBytes,
   c.pool.effectiveLease⟩

/-- The registry a setup names. -/
def registryOf (req : Json) : Except Json Registry :=
  let r := match req.get? "doctypes", req.getStr? "registry_yaml" with
    | some types, _ => Registry.parse (Json.render (.obj [("document_types", types)])) "json"
    | none, some yaml => Registry.parse yaml "yaml"
    | none, none => Registry.parse shippedRegistryText "yaml"
  match r with
  | .ok reg => .ok reg
  | .error e => .error (failureJson e)

/-- The normalizer a setup names; one of all zeros is the default. -/
def normalizerOf (req : Json) : Ocr.Normalizer :=
  match req.get? "normalizer" with
  | some c =>
    let n : Ocr.Normalizer := ⟨floatArg c "min_confidence" 0, floatArg c "row_tolerance" 0,
      floatArg c "gap_tolerance" 0⟩
    if n.minConfidence == 0 && n.rowTolerance == 0 && n.gapTolerance == 0 then Ocr.Normalizer.default else n
  | none => Ocr.Normalizer.default

/-- The retry policy a setup names. -/
def retryOf (req : Json) : RetryPolicy :=
  match req.get? "retry" with
  | some r => ⟨intArg r "max_attempts" 3, intArg r "base_delay_ms" 0 * 1000000, intArg r "max_delay_ms" 0 * 1000000⟩
  | none => RetryPolicy.default

/-- Sets up a scenario and its world from a request. -/
def setup (req : Json) : Except Json (ScenarioSettings × World) := do
  let registry ← registryOf req
  let ocrScript ← (listArg req "ocr").mapM ocrEntry
  let chatScript ← (listArg req "llm").mapM chatEntry
  let faults ← (listArg req "store_faults").mapM faultOf
  let maxAttempts := intArg req "task_max_attempts" 0
  let leaseSeconds := intArg req "task_lease_s" 0
  let settings : Pipeline.Settings :=
    { retry := retryOf req, normalizer := normalizerOf req,
      extractor := ⟨0, intArg req "max_prompt_chars" 0⟩,
      taskMaxAttempts := if maxAttempts > 0 then maxAttempts else defaultTaskMaxAttempts,
      taskLease := if leaseSeconds > 0 then Time.seconds leaseSeconds else defaultTaskLease,
      registry }
  let poolSeconds := intArg req "pool_lease_s" 900
  let pool : PoolSettings := ⟨poolTimeout, Time.seconds (if poolSeconds > 0 then poolSeconds else 900)⟩
  let world : World :=
    { store := ⟨migrated startTime, startTime, 0, []⟩,
      artifacts := ⟨⟨artifactRoot, treeWith artifactRoot, []⟩, faults, Artifact.Cache.make (intArg req "cache_size" 0) []⟩,
      uploads := treeWith uploadRoot, ocrScript, chatScript, ocrCalls := 0, chatCalls := 0,
      sideSql := [], notified := 0, names := ⟨[]⟩ }
  pure (⟨settings, flagArg req "visualize" false, intArg req "max_bytes" 0, pool⟩, world)

/-- A step's answer: its result or its error. -/
abbrev Answer := Except Json Json

/-- Steps of a scenario: a crash stops them. -/
abbrev ScenarioM := ExceptT String SimM

/-- An answer from an operation of the metadata store. -/
def fromStore {α : Type} (op : StoreM α) (render : α → SimM Json) : SimM Answer := do
  match ← World.onStore op with
  | .ok a => .ok <$> render a
  | .error e => pure (.error (failureJson e))

/-- An answer from a step of the orchestrator. -/
def fromStep {α : Type} (act : Step SimM α) (render : α → SimM Json) : ScenarioM Answer := do
  match ← act.run with
  | .ok a => .ok <$> liftM (render a)
  | .error e => pure (.error (failureJson e))

/-- The answer of a job and a failure, as a run hands them back. -/
def runAnswer : Option Job × Option Failure → SimM Answer
  | (none, some e) => pure (.error (failureJson e))
  | (none, none) => pure (.ok (.obj [("job", .null)]))
  | (some j, err) => do
    let view ← World.showJob j
    pure (.ok (.obj ([("job", view)] ++ match err with
      | some e => [("error", failureJson e)]
      | none => [])))

/-- An artifact as answered. -/
def artifactJson (a : Artifact.Stored) : Json :=
  .obj [("locator", .str a.locator), ("sha256", .str a.sha256), ("size", Json.ofInt a.size)]

/-- The colour of a pixel as six hexadecimal digits. -/
def rgbHex (c : Image.Rgb) : String :=
  let h (b : UInt8) : String :=
    let s := String.ofList (Nat.toDigits 16 b.toNat)
    if s.length < 2 then "0" ++ s else s
  h c.r ++ h c.g ++ h c.b

/-- A PNG image as answered: its size, how many pixels have each colour and the digest of
its pixels (four bytes each, opaque). -/
def pngView (data : ByteArray) : Answer :=
  match Image.Raster.ofPng? data with
  | none => .error (failureJson (.plain "png: unsupported image"))
  | some img =>
    let counts := img.pixels.foldl (fun (acc : List (String × Nat)) c =>
      let k := rgbHex c
      if acc.any (·.1 == k) then acc.map fun (k', n) => if k' == k then (k', n + 1) else (k', n)
      else acc ++ [(k, 1)]) []
    let bytes := img.pixels.foldl (fun (acc : ByteArray) c => (((acc.push c.r).push c.g).push c.b).push 255) ByteArray.empty
    .ok (.obj [("width", Json.ofInt img.width), ("height", Json.ofInt img.height),
      ("colors", .obj (counts.map fun (k, n) => (k, Json.ofInt n))),
      ("pixels_sha256", .str (Digest.sha256Hex bytes))])

/-- The key a step names. -/
def keyArg (w : World) (s : Json) : Artifact.Key :=
  ⟨w.names.resolve (s.getStrD "doc"), ⟨s.getStrD "stage"⟩, s.getStrD "kind"⟩

/-- Writes the files of an upload step below the upload directory. -/
def writeUploads (files : List Json) : Except Json (List (String × ByteArray)) :=
  files.mapM fun f => do
    let data ← base64Arg f "data_b64"
    pure (Files.Path.join uploadRoot (f.getStrD "path"), data)

/-- Puts files into a tree, their directories made as needed. -/
def treeWithFiles (tree : Files.Tree) (files : List (String × ByteArray)) : Files.Tree :=
  files.foldl (fun t (p, data) =>
    match t.mkdirAll (Files.Path.parent p) with
    | .ok t' => (t'.writeFile p data).toOption.getD t'
    | .error _ => t) tree

/-- A pool event as answered. -/
def eventJson : PoolEvent → Json
  | .claimed t => .obj [("task", .str t.id.toText), ("job", .str t.job.toText), ("attempts", Json.ofInt t.attempts)]
  | .completed t err => .obj [("complete", .str t.toText), ("error", (err.map failureJson).getD .null)]
  | .failed t reason err =>
    .obj [("fail", .str t.toText), ("reason", .str reason), ("error", (err.map failureJson).getD .null)]
  | .claimFailed e => .obj [("claim_error", failureJson e)]

/-- The lease a claim step asks for. -/
def claimLease (s : Json) : Time.Duration := Time.seconds (intArg s "lease_s" 900)

/-- The identifier a member of a step names. -/
def idArg (s : Json) (k : String) : SimM Uuid := do return (← get).names.resolve (s.getStrD k)

/-- Creates a document, stores its raw bytes and makes it ready, as a step asks. -/
def createDocument (s : Json) : SimM Answer := do
  let raw := s.getStr? "raw"
  let data := (raw.getD "").toUTF8
  let doc : Document :=
    { id := Uuid.nil, documentType := s.getStrD "doc_type", creditRequestId := s.getStrD "credit_request",
      sourcePath := s.getStrD "path", rawLocator := "", contentKind := s.getStrD "kind",
      mimeType := s.getStrD "mime", contentHash := s.getStrD "hash", sizeBytes := data.size,
      pageCount := 0, status := .other "", activeJob := none, createdAt := Time.Instant.zero,
      updatedAt := Time.Instant.zero }
  match ← World.onStore (Documents.create doc) with
  | .error e => pure (.error (failureJson e))
  | .ok d =>
    World.see .doc d.id
    let base := [("document", Json.str d.id.toText)]
    let failed := fun (e : Failure) => Except.ok (Json.obj (base ++ [("error", failureJson e)]))
    if raw.isNone then return .ok (.obj base)
    match ← World.onArtifacts (Artifact.Store.put ⟨d.id, Artifact.Stage.raw, d.contentKind⟩ data) with
    | .error e => pure (failed e)
    | .ok a =>
      if !flagArg s "mark_ready" true then return .ok (.obj base)
      match ← World.onStore (Documents.markReady d.id a.locator) with
      | .error e => pure (failed e)
      | .ok _ => pure (.ok (.obj base))

namespace Scenario

variable (sc : Scenario)

/-- Takes in the files of a step as uploads in a directory. -/
def ingestDir (s : Json) : SimM Answer := do
  match writeUploads (listArg s "files") with
  | .error j => pure (.error j)
  | .ok files =>
    modify fun w => { w with uploads := treeWithFiles w.uploads files }
    let root := match s.getStr? "root" with
      | some r => if r.startsWith "/" || Text.CharClass.trimSpace r == "" then r else Files.Path.join uploadRoot r
      | none => uploadRoot
    let tree := (← get).uploads
    let (results, stats, err) ← sc.ingestor.ingestDirectory tree "/" root (s.getStrD "doc_type")
      (flagArg s "skip_hidden" true) (Text.CharClass.trimSpace (s.getStrD "credit_request"))
    for r in results do World.see .doc r.documentId
    pure (.ok (.obj ([("results", if results.isEmpty then .null else .arr (results.map (·.toJson))),
      ("stats", stats.toJson)] ++ match err with
        | some e => [("error", failureJson e)]
        | none => [])))

/-- Runs the workers until no task is due. -/
def pool : SimM Answer := do
  let events ← sc.orchestrator.drain 1 sc.poolLease 50
  for e in events do
    if let .claimed t := e then World.seeTask t
  pure (.ok (.obj [("events", if events.isEmpty then .null else .arr (events.map eventJson))]))

end Scenario

/-- Reads an artifact, as a step asks. -/
def readArtifact (s : Json) : SimM Answer := do
  let k := keyArg (← get) s
  match ← World.onArtifacts (Artifact.Store.getContent k) with
  | .error e => pure (.error (failureJson e))
  | .ok data =>
    if k.kind == "json" then pure (.ok (.obj [("text", .str (Text.Utf8.lossyOfBytes data))]))
    else if k.stage.name == "VISUALIZED" && k.kind == "png" then pure (pngView data)
    else pure (.ok (.obj [("sha256", .str (Artifact.hash data)), ("size", Json.ofInt data.size)]))

/-- Writes an artifact straight to the files, past faults and cache. -/
def tamperArtifact (s : Json) : SimM Answer := do
  match dataArg s with
  | .error j => pure (.error j)
  | .ok data =>
    let w ← get
    match w.artifacts.files.put (keyArg w s) data with
    | .ok (files, a) =>
      set { w with artifacts := { w.artifacts with files } }
      pure (.ok (artifactJson a))
    | .error e => pure (.error (failureJson e))

/-- The list of documents as answered: their identifiers. -/
def documentList (docs : List Document) : SimM Json := do
  for d in docs do World.see .doc d.id
  pure (.obj [("documents", .arr (docs.map fun d => .str d.id.toText))])

namespace Scenario

variable (sc : Scenario)

/-- Does what one step asks. -/
def step (s : Json) : ScenarioM Answer := do
  let o := sc.orchestrator
  let showJob : Job → SimM Json := fun j => do pure (Json.obj [("job", ← World.showJob j)])
  let showTask : Task → SimM Json := fun t => do pure (Json.obj [("task", ← World.showTask t)])
  let ok : SimM Json := pure (.str "ok")
  match s.getStrD "do" with
  | "create_document" => createDocument s
  | "mark_ready" => fromStore (Documents.markReady (← idArg s "doc") (s.getStrD "locator")) (fun _ => ok)
  | "ingest" =>
    match dataArg s with
    | .error j => pure (.error j)
    | .ok data =>
      let (r, err) ← liftM (sc.ingestor.ingest (s.getStrD "path") (s.getStrD "doc_type") data
        (Text.CharClass.trimSpace (s.getStrD "credit_request")) : SimM _)
      match err with
      | some e => pure (.error (failureJson e))
      | none =>
        World.see .doc r.documentId
        pure (.ok (.obj [("result", r.toJson)]))
  | "ingest_dir" => sc.ingestDir s
  | "create_job" => fromStep (o.createJob (← idArg s "doc")) showJob
  | "submit" => fromStep (o.submit (← idArg s "doc")) (fun j => do
      pure (Json.obj [("job", ← World.showJob j), ("notified", Json.ofInt (← get).notified)]))
  | "run_now" => liftM (runAnswer (← o.runNow (← idArg s "doc")))
  | "run" => liftM (runAnswer (← o.run (← idArg s "job") none))
  | "cancel" => fromStep (o.cancelJob (← idArg s "job")) showJob
  | "request_cancel" => fromStore (Jobs.requestCancel (← idArg s "job")) showJob
  | "status" => fromStep (o.status (← idArg s "job")) showJob
  | "handle" =>
    match ← o.handle (← idArg s "job") none with
    | some e => pure (.error (failureJson e))
    | none => pure (.ok (.str "ok"))
  | "jobs_of" => fromStore (Jobs.listByDocument (← idArg s "doc")) (fun js => do
      pure (Json.obj [("jobs", .arr (← js.mapM World.showJob))]))
  | "advance_job" =>
    fromStore (Jobs.advance (← idArg s "job") (Stage.ofName (s.getStrD "from")) (Stage.ofName (s.getStrD "to")))
      (fun _ => ok)
  | "fail_job" =>
    fromStore (Jobs.fail (← idArg s "job") (s.getStrD "code") (s.getStrD "message")
      (DocumentStatus.ofName (s.getStrD "doc_status"))) (fun _ => ok)
  | "result" => fromStep (o.result (← idArg s "job")) (fun r => pure (Json.obj [("result", r.toJson)]))
  | "latest_result" =>
    fromStore (Jobs.latestResultForDocument (← idArg s "doc")) (fun r => pure (Json.obj [("result", r.toJson)]))
  | "fields" => fromStore (Fields.listByJob (← idArg s "job")) (fun fs =>
      pure (Json.obj [("fields", .arr (fs.map ExtractedField.toJson))]))
  | "document" => fromStore (Documents.get (← idArg s "doc")) (fun d => do
      pure (Json.obj [("document", ← World.showDocument d)]))
  | "document_by_hash" => fromStore (Documents.getByHash (s.getStrD "hash")) (fun d => do
      pure (Json.obj [("document", ← World.showDocument d)]))
  | "documents" => fromStore (Documents.list (s.getStrD "status") (intArg s "limit" 0)) documentList
  | "by_credit_request" => fromStore (Documents.listByCreditRequest (s.getStrD "credit_request")) documentList
  | "artifact" => readArtifact s
  | "stat_artifact" =>
    let k := keyArg (← get) s
    match ← World.onArtifacts (Artifact.Store.stat k) with
    | .ok a => pure (.ok (.obj [("locator", .str a.locator), ("sha256", .str a.sha256),
        ("size", Json.ofInt a.size), ("key", .str k.text)]))
    | .error e => pure (.error (failureJson e))
  | "put_artifact" =>
    match dataArg s with
    | .error j => pure (.error j)
    | .ok data =>
      match ← World.onArtifacts (Artifact.Store.put (keyArg (← get) s) data) with
      | .ok a => pure (.ok (artifactJson a))
      | .error e => pure (.error (failureJson e))
  | "tamper_artifact" => tamperArtifact s
  | "claim" => fromStore (Tasks.claimNext (claimLease s)) (fun t => do
      match t with
      | some t => showTask t
      | none => pure (Json.obj [("task", .null)]))
  | "task" =>
    if s.has "task" then fromStore (Tasks.get (← idArg s "task")) showTask
    else fromStore (Tasks.getByJob (← idArg s "job")) showTask
  | "task_complete" => fromStore (Tasks.complete (← idArg s "task")) (fun _ => ok)
  | "task_fail" => fromStore (Tasks.fail (← idArg s "task") (s.getStrD "reason")) (fun _ => ok)
  | "enqueue" =>
    let job ← idArg s "job"
    let maxAttempts := intArg s "max_attempts" 0
    if s.has "lease_s" then fromStore (Tasks.enqueueLeased job maxAttempts (claimLease s)) showTask
    else fromStore (Tasks.enqueue job maxAttempts) showTask
  | "pool" => sc.pool
  | "export_job" => fromStore (Export.jobWorkbook (← idArg s "job")) (fun sheets => pure (Export.sheetsJson sheets))
  | "export_documents" =>
    fromStore (Export.documentsWorkbook (s.getStrD "status") (textsArg s "fields")) (fun sheets =>
      pure (Export.sheetsJson sheets))
  | "advance_clock" =>
    modify fun w => { w with store := { w.store with now := w.store.now.add (Time.seconds (intArg s "seconds" 0)) } }
    pure (.ok (.obj [("clock", timeJson (← get).store.now)]))
  | "migrations" => fromStore appliedMigrations (fun vs =>
      pure (Json.obj [("versions", if vs.isEmpty then .null else .arr (vs.map Json.ofInt)),
        ("dialect", .str "sqlite3")]))
  | "snapshot" => .ok <$> liftM World.snapshot
  | "sql" =>
    let answers ← liftM (World.runSql (textsArg s "statements") : SimM _)
    pure (.ok (.obj [("results", .arr (answers.map SqlAnswer.toJson))]))
  | "close_db" =>
    modify fun w => { w with store := { w.store with db := w.store.db.close } }
    pure (.ok (.str "ok"))
  | other => pure (.error (badInput ("unknown step " ++ Text.Quoted.quote other)))

/-- Runs one step: the clock moves, the step is done, and the world is read back. -/
def runStep (s : Json) : ScenarioM Json := do
  modify fun w => { w with store := { w.store with now := w.store.now.add (Time.seconds 1) },
                           ocrCalls := 0, chatCalls := 0, sideSql := [] }
  let answer ← sc.step s
  let state ← liftM World.state
  let w ← get
  pure (.obj ([("do", .str (s.getStrD "do"))] ++
    (match answer with
      | .ok r => [("result", r)]
      | .error e => [("error", e)]) ++
    [("ocr_calls", Json.ofInt w.ocrCalls), ("llm_calls", Json.ofInt w.chatCalls)] ++
    (if w.sideSql.isEmpty then [] else [("side_sql", .arr (w.sideSql.map SqlAnswer.toJson))]) ++
    [("state", state)]))

end Scenario

/-- Runs the scenario of a request: the answer, and the names of the identifiers it shows. -/
def runScenario (req : Json) : Json × List (String × String) :=
  match setup req with
  | .error j => (j, [])
  | .ok (settings, world) =>
    let sc := settings.scenario
    let (r, w) := ((listArg req "steps").mapM sc.runStep).run.run world
    match r with
    | .ok answers => (.obj [("steps", .arr answers)], w.names.pairs)
    | .error msg => (.obj [("error", .str "panic"), ("message", .str msg)], w.names.pairs)

end CreditExtraction.Simulation
