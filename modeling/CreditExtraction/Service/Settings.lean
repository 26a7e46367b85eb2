import CreditExtraction.Time.Duration
import CreditExtraction.Text.Integer
import CreditExtraction.Text.FloatText
import CreditExtraction.Net.Url
import CreditExtraction.Validation
import CreditExtraction.Json.Value

/-!
# Service settings

The service is configured by environment variables, each with a default used when the variable
is unset, empty or unreadable: texts as given, whole numbers in decimal, floats, booleans
(`1`, `t`, `true`, `0`, `f`, `false`, …) and durations (`Time.parseDuration`). The backend
and provider names are compared in lower case.

`Settings.validate` checks the constraints of every setting, in declaration order, each
setting reporting its first violated constraint; then that the OpenAI provider has a key and
that the base backoff does not exceed a positive maximum. `Settings.validateOcr` checks what
the Azure OCR service needs. Failures are configuration errors (`CONFIG_ERROR`).
-/

namespace CreditExtraction

open Time

/-- Database connection settings. -/
structure DatabaseSettings where
  dsn : String
  maxConns : Int
  minConns : Int
  maxConnLifetime : Duration
  maxConnIdleTime : Duration
  dialTimeout : Duration
  statementTimeout : Duration
deriving Repr, Inhabited

/-- Artifact storage settings. -/
structure StorageSettings where
  backend : String
  dir : String
  s3Endpoint : String
  s3Region : String
  s3Bucket : String
  s3AccessKey : String
  s3SecretKey : String
  cacheSize : Int
deriving Repr, Inhabited

/-- Server settings. -/
structure ServerSettings where
  grpcAddr : String
deriving Repr, Inhabited

/-- OCR settings. -/
structure OcrSettings where
  backend : String
  endpoint : String
  apiKey : String
  apiVersion : String
  model : String
  timeout : Duration
  pollInterval : Duration
  minConfidence : Float
  rowTolerance : Float
  gapTolerance : Float
  tesseract : String
  pdftoppm : String
  tesseractLang : String
  dpi : Int
deriving Repr, Inhabited

/-- Language model settings; the temperature is single precision. -/
structure LlmSettings where
  provider : String
  baseUrl : String
  model : String
  apiKey : String
  temperature : Float
  timeout : Duration
deriving Repr, Inhabited

/-- Orchestrator and worker settings. -/
structure PipelineSettings where
  maxAttempts : Int
  baseBackoff : Duration
  maxBackoff : Duration
  workers : Int
  jobTimeout : Duration
  pollInterval : Duration
  leaseDuration : Duration
  taskMaxAttempts : Int
  visualizeEnabled : Bool
deriving Repr, Inhabited

/-- Where the document type registry is. -/
structure SchemaSettings where
  path : String
  defaultType : String
deriving Repr, Inhabited

/-- All settings of the service. -/
structure Settings where
  database : DatabaseSettings
  storage : StorageSettings
  server : ServerSettings
  ocr : OcrSettings
  llm : LlmSettings
  pipeline : PipelineSettings
  schema : SchemaSettings
deriving Repr, Inhabited

/-- The environment: a variable's value, empty when unset. -/
abbrev Environment := String → String

namespace Environment

/-- A text setting. -/
def text (env : Environment) (key dflt : String) : String :=
  let v := env key
  if v != "" then v else dflt

/-- A whole number setting of `bits` bits. -/
def int (env : Environment) (key : String) (bits : Nat) (dflt : Int) : Int :=
  ((Text.parseDecimal (env key) bits)).getD dflt

/-- A float setting of the given format. -/
def float (env : Environment) (key : String) (f : Text.BinaryFormat) (dflt : Float) : Float :=
  match Text.readFloat f (env key) with
  | .ok x => if env key == "" then dflt else x
  | .error _ => dflt

/-- A boolean setting. -/
def bool (env : Environment) (key : String) (dflt : Bool) : Bool :=
  match env key with
  | "1" | "t" | "T" | "TRUE" | "true" | "True" => true
  | "0" | "f" | "F" | "FALSE" | "false" | "False" => false
  | _ => dflt

/-- A duration setting. -/
def duration (env : Environment) (key : String) (dflt : Duration) : Duration :=
  if env key == "" then dflt
  else match parseDuration (env key) with
    | .ok d => d
    | .error _ => dflt

end Environment

/-- Seconds, minutes as durations. -/
def secondsD (n : Int) : Duration := n * 1000000000

/-- Reads the settings from the environment (see the module comment). -/
def Settings.load (env : Environment) : Settings :=
  let lower := Text.CharClass.lowerString
  { database := ⟨env.text "DB_URL" "file:credit-extractor.db", env.int "DB_MAX_CONNS" 32 20,
      env.int "DB_MIN_CONNS" 32 2, env.duration "DB_MAX_CONN_LIFETIME" (secondsD 1800),
      env.duration "DB_MAX_CONN_IDLE_TIME" (secondsD 300), env.duration "DB_DIAL_TIMEOUT" (secondsD 3),
      env.duration "DB_STATEMENT_TIMEOUT" 0⟩
    storage := ⟨lower (env.text "ARTIFACT_BACKEND" "fs"), env.text "ARTIFACT_DIR" "./artifacts",
      env.text "S3_ENDPOINT" "", env.text "S3_REGION" "us-east-1", env.text "S3_BUCKET" "",
      env.text "S3_ACCESS_KEY" "", env.text "S3_SECRET_KEY" "", env.int "ARTIFACT_CACHE_SIZE" 64 64⟩
    server := ⟨env.text "GRPC_ADDR" ":8080"⟩
    ocr := ⟨lower (env.text "OCR_BACKEND" "azure"), env.text "AZURE_DI_ENDPOINT" "",
      env.text "AZURE_DI_KEY" "", env.text "AZURE_DI_API_VERSION" "2023-07-31",
      env.text "AZURE_DI_MODEL" "prebuilt-read", env.duration "OCR_TIMEOUT" (secondsD 60),
      env.duration "OCR_POLL_INTERVAL" (secondsD 1), env.float "OCR_MIN_CONFIDENCE" .binary64 0,
      env.float "OCR_ROW_TOLERANCE" .binary64 0.5, env.float "OCR_GAP_TOLERANCE" .binary64 0,
      env.text "TESSERACT_BIN" "tesseract", env.text "PDFTOPPM_BIN" "pdftoppm",
      env.text "TESSERACT_LANG" "deu+eng", env.int "OCR_DPI" 64 300⟩
    llm := ⟨lower (env.text "LLM_PROVIDER" "ollama"), env.text "LLM_BASE_URL" "",
      env.text "LLM_MODEL" "llama3.1", env.text "OPENAI_API_KEY" "",
      env.float "LLM_TEMPERATURE" .binary32 0, env.duration "LLM_TIMEOUT" (secondsD 90)⟩
    pipeline := ⟨env.int "PIPELINE_MAX_ATTEMPTS" 64 3, env.duration "PIPELINE_BASE_BACKOFF" (secondsD 2),
      env.duration "PIPELINE_MAX_BACKOFF" (secondsD 30), env.int "PIPELINE_WORKERS" 64 4,
      env.duration "PIPELINE_JOB_TIMEOUT" (secondsD 600), env.duration "QUEUE_POLL_INTERVAL" (secondsD 2),
      env.duration "QUEUE_LEASE" (secondsD 900), env.int "QUEUE_MAX_ATTEMPTS" 64 5,
      env.bool "PIPELINE_VISUALIZE" true⟩
    schema := ⟨env.text "DOCUMENT_TYPES_PATH" "./configs/document_types.yaml",
      env.text "DEFAULT_DOCUMENT_TYPE" "credit_request"⟩ }

/-- A checked setting: its path, its value as text, and the name of the constraint it
violates, if any. -/
def checked (path value : String) (violated : Option String) : List ConfigViolation :=
  match violated with
  | some tag => [⟨"Config." ++ path, value, tag⟩]
  | none => []

/-- The first violated constraint of a chain. -/
def firstViolated (checks : List (String × Bool)) : Option String :=
  (checks.find? fun (_, ok) => !ok).map (·.1)

/-- A single-precision float as `%v` prints it. -/
def float32Text (x : Float) : String :=
  match Text.digitsOf .binary32 x with
  | none => Text.nonFiniteText x
  | some (neg, none) => if neg then "-0" else "0"
  | some (neg, some d) =>
    let exp := d.point - 1
    let body := if exp < -4 ∨ exp ≥ 6 then d.scientific else d.positional
    if neg then "-" ++ body else body

/-- The violated constraints of the settings, in order. -/
def Settings.violations (c : Settings) : List ConfigViolation :=
  let d := c.database
  let s := c.storage
  let o := c.ocr
  let l := c.llm
  let p := c.pipeline
  checked "Database.DSN" d.dsn (firstViolated [("required", d.dsn != "")]) ++
  checked "Database.MaxConns" (toString d.maxConns) (firstViolated [("gte", d.maxConns ≥ 1)]) ++
  checked "Database.MinConns" (toString d.minConns)
    (firstViolated [("gte", d.minConns ≥ 0), ("ltefield", d.minConns ≤ d.maxConns)]) ++
  checked "Storage.Backend" s.backend (firstViolated [("oneof", s.backend == "fs" || s.backend == "s3")]) ++
  checked "Storage.Dir" s.dir (firstViolated [("required_if", s.backend != "fs" || s.dir != "")]) ++
  checked "Storage.S3Bucket" s.s3Bucket (firstViolated [("required_if", s.backend != "s3" || s.s3Bucket != "")]) ++
  checked "Storage.CacheSize" (toString s.cacheSize) (firstViolated [("gte", s.cacheSize ≥ 0)]) ++
  checked "Server.GRPCAddr" c.server.grpcAddr (firstViolated [("required", c.server.grpcAddr != "")]) ++
  checked "OCR.Backend" o.backend (firstViolated [("oneof", o.backend == "azure" || o.backend == "tesseract")]) ++
  checked "OCR.Endpoint" o.endpoint (firstViolated [("url", o.endpoint == "" || Net.isUrl o.endpoint)]) ++
  checked "OCR.APIVersion" o.apiVersion (firstViolated [("required", o.apiVersion != "")]) ++
  checked "OCR.Model" o.model (firstViolated [("required", o.model != "")]) ++
  checked "OCR.PollInterval" (durationText o.pollInterval) (firstViolated [("gt", o.pollInterval > 0)]) ++
  checked "OCR.MinConfidence" (Text.formatGeneral o.minConfidence)
    (firstViolated [("gte", o.minConfidence ≥ 0), ("lte", o.minConfidence ≤ 1)]) ++
  checked "OCR.RowTolerance" (Text.formatGeneral o.rowTolerance) (firstViolated [("gte", o.rowTolerance ≥ 0)]) ++
  checked "OCR.GapTolerance" (Text.formatGeneral o.gapTolerance) (firstViolated [("gte", o.gapTolerance ≥ 0)]) ++
  checked "OCR.DPI" (toString o.dpi) (firstViolated [("gte", o.dpi ≥ 0)]) ++
  checked "LLM.Provider" l.provider (firstViolated [("oneof", l.provider == "ollama" || l.provider == "openai")]) ++
  checked "LLM.BaseURL" l.baseUrl (firstViolated [("url", l.baseUrl == "" || Net.isUrl l.baseUrl)]) ++
  checked "LLM.Model" l.model (firstViolated [("required", l.model != "")]) ++
  checked "LLM.Temperature" (float32Text l.temperature)
    (firstViolated [("gte", l.temperature ≥ 0), ("lte", l.temperature ≤ 2)]) ++
  checked "Pipeline.MaxAttempts" (toString p.maxAttempts)
    (firstViolated [("gte", p.maxAttempts ≥ 1), ("lte", p.maxAttempts ≤ 20)]) ++
  checked "Pipeline.Workers" (toString p.workers) (firstViolated [("gte", p.workers ≥ 1)]) ++
  checked "Pipeline.TaskMaxAttempts" (toString p.taskMaxAttempts) (firstViolated [("gte", p.taskMaxAttempts ≥ 1)]) ++
  checked "Schema.Path" c.schema.path (firstViolated [("required", c.schema.path != "")]) ++
  checked "Schema.DefaultType" c.schema.defaultType (firstViolated [("required", c.schema.defaultType != "")])

/-- A configuration error. -/
def configError (msg : String) (cause : Failure) : Failure := Failure.newApp "CONFIG_ERROR" msg (some cause)

/-- Checks the settings (see the module comment). -/
def Settings.validate (c : Settings) : Except Failure Unit := do
  let vs := c.violations
  if !vs.isEmpty then
    throw (configError "invalid configuration" (.tagged .invalidInput ("; ".intercalate (vs.map (·.text)))))
  if c.llm.provider == "openai" && c.llm.apiKey == "" then
    throw (configError "OPENAI_API_KEY is required for the openai provider" (.cause .invalidInput))
  if c.pipeline.maxBackoff > 0 && c.pipeline.baseBackoff > c.pipeline.maxBackoff then
    throw (configError "PIPELINE_BASE_BACKOFF exceeds PIPELINE_MAX_BACKOFF" (.cause .invalidInput))

/-- Checks what the OCR service needs (see the module comment). -/
def Settings.validateOcr (c : Settings) : Except Failure Unit := do
  if c.ocr.backend == "tesseract" then return
  if c.ocr.endpoint == "" then throw (configError "AZURE_DI_ENDPOINT is required" (.cause .invalidInput))
  if c.ocr.apiKey == "" then throw (configError "AZURE_DI_KEY is required" (.cause .invalidInput))

/-- The settings as JSON, by their record field names. -/
def Settings.toJson (c : Settings) : Json :=
  let d := c.database
  let s := c.storage
  let o := c.ocr
  let l := c.llm
  let p := c.pipeline
  .obj [
    ("Database", .obj [("DSN", .str d.dsn), ("MaxConns", .ofInt d.maxConns), ("MinConns", .ofInt d.minConns),
      ("MaxConnLifetime", .ofInt d.maxConnLifetime), ("MaxConnIdleTime", .ofInt d.maxConnIdleTime),
      ("DialTimeout", .ofInt d.dialTimeout), ("StatementTimeout", .ofInt d.statementTimeout)]),
    ("Storage", .obj [("Backend", .str s.backend), ("Dir", .str s.dir), ("S3Endpoint", .str s.s3Endpoint),
      ("S3Region", .str s.s3Region), ("S3Bucket", .str s.s3Bucket), ("S3AccessKey", .str s.s3AccessKey),
      ("S3SecretKey", .str s.s3SecretKey), ("CacheSize", .ofInt s.cacheSize)]),
    ("Server", .obj [("GRPCAddr", .str c.server.grpcAddr)]),
    ("OCR", .obj [("Backend", .str o.backend), ("Endpoint", .str o.endpoint), ("APIKey", .str o.apiKey),
      ("APIVersion", .str o.apiVersion), ("Model", .str o.model), ("Timeout", .ofInt o.timeout),
      ("PollInterval", .ofInt o.pollInterval), ("MinConfidence", .ofFloat o.minConfidence),
      ("RowTolerance", .ofFloat o.rowTolerance), ("GapTolerance", .ofFloat o.gapTolerance),
      ("Tesseract", .str o.tesseract), ("Pdftoppm", .str o.pdftoppm), ("TesseractLang", .str o.tesseractLang),
      ("DPI", .ofInt o.dpi)]),
    ("LLM", .obj [("Provider", .str l.provider), ("BaseURL", .str l.baseUrl), ("Model", .str l.model),
      ("APIKey", .str l.apiKey), ("Temperature", .ofFloat32 l.temperature), ("Timeout", .ofInt l.timeout)]),
    ("Pipeline", .obj [("MaxAttempts", .ofInt p.maxAttempts), ("BaseBackoff", .ofInt p.baseBackoff),
      ("MaxBackoff", .ofInt p.maxBackoff), ("Workers", .ofInt p.workers), ("JobTimeout", .ofInt p.jobTimeout),
      ("PollInterval", .ofInt p.pollInterval), ("LeaseDuration", .ofInt p.leaseDuration),
      ("TaskMaxAttempts", .ofInt p.taskMaxAttempts), ("VisualizeEnabled", .bool p.visualizeEnabled)]),
    ("Schema", .obj [("Path", .str c.schema.path), ("DefaultType", .str c.schema.defaultType)])]

end CreditExtraction
