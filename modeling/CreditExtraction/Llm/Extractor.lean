import CreditExtraction.Llm.Reply
import CreditExtraction.Llm.Prompt
import CreditExtraction.Ocr.Line
import CreditExtraction.Log.Record
import CreditExtraction.Text.Uuid

/-!
# Extracting candidates with a chat model

The extractor asks a chat model for the fields of a document: one request with the system
message, the user message of the document's lines, the reply schema and a temperature, and
reads the reply (`parseReply`). A document without lines is not sent: every field of the type
is hinted missing.

A failure of the model keeps its cause when it is a timeout, a model failure, a malformed
response, a refused authorization or a cancellation; an expired deadline becomes a timeout, and
anything else a model failure.

Every request has a fresh identifier, under which the extractor logs it: `llm.extract.start`,
then `llm.extract.ok`, `llm.extract.chat_error` or `llm.extract.malformed`. A reply that needed
repairs also logs them (`llm.extract.normalize_sanitize`), and a document without lines logs
`llm.extract.empty_document`.
-/

namespace CreditExtraction.Llm

/-- One request to a chat model. The temperature is single precision. -/
structure ChatRequest where
  system : String
  user : String
  schema : String
  temperature : Float
deriving Inhabited

/-- A chat model in a monad `m`: its name and its answer to a request. -/
structure ChatBackend (m : Type → Type) where
  model : String
  chat : ChatRequest → m (Except CreditExtraction.Failure String)

/-- The settings of an extractor. -/
structure ExtractorConfig where
  temperature : Float
  maxChars : Int
deriving Inhabited

/-- How a model failure is reported (see the module comment). -/
def classifyBackendError (e : CreditExtraction.Failure) : CreditExtraction.Failure :=
  if e.has .timeout || e.has .model || e.has .malformedResponse || e.has .unauthorized ||
      e.has .contextCanceled then e
  else if e.has .deadlineExceeded then .tagged .timeout e.message
  else .tagged .model e.message

/-- The text of the reply schema as sent. -/
def responseSchemaText : String := Json.render responseSchema

/-- The notes of the repairs a reply needs, when it reads far enough to be repaired. -/
def repairNotes (content : String) : List String :=
  match recoverJson content with
  | .error _ => []
  | .ok raw =>
    match sanitize raw with
    | .ok (_, notes) => notes
    | .error _ => []

/-- Asks the model for candidates (see the module comment), logging through `log` under an
identifier from `fresh`. -/
def extract {m : Type → Type} [Monad m] (backend : ChatBackend m) (cfg : ExtractorConfig)
    (log : Log.Record → m Unit) (fresh : m Uuid) (lines : List Ocr.Line) (dt : DocumentType) :
    m (Except ReplyError Extraction) := do
  if lines.isEmpty then
    log ⟨.info, "llm.extract.empty_document", [Log.text "document_type" dt.name]⟩
    return .ok ⟨[], dt.fieldNames, backend.model, none⟩
  let rid := Log.text "req_id" (← fresh).toText
  log ⟨.info, "llm.extract.start", [rid, Log.text "model" backend.model, Log.text "document_type" dt.name,
    Log.int "lines" lines.length]⟩
  let req : ChatRequest := ⟨systemPrompt dt, userPrompt lines cfg.maxChars, responseSchemaText, cfg.temperature⟩
  match ← backend.chat req with
  | .error e =>
    let e := classifyBackendError e
    log ⟨.error, "llm.extract.chat_error", [rid, Log.text "error" e.message, Log.int "elapsed_ms" 0]⟩
    return .error (.failure e)
  | .ok content =>
    let notes := repairNotes content
    if !notes.isEmpty then
      log ⟨.warn, "llm.extract.normalize_sanitize", [Log.texts "changed" notes]⟩
    match parseReply content with
    | .error (.failure e) =>
      log ⟨.error, "llm.extract.malformed", [rid, Log.text "error" e.message,
        Log.int "content_bytes" content.utf8ByteSize, Log.int "elapsed_ms" 0]⟩
      return .error (.failure e)
    | .error e => return .error e
    | .ok out =>
      log ⟨.info, "llm.extract.ok", [rid, Log.int "candidates" out.candidates.length,
        Log.int "missing_hint" out.missingHint.length, Log.int "elapsed_ms" 0]⟩
      return .ok { out with model := backend.model }

end CreditExtraction.Llm
