import CreditExtraction.Store.Documents
import CreditExtraction.Artifact.Store
import CreditExtraction.Ingest.FileKind
import CreditExtraction.Ingest.Inspect
import CreditExtraction.Text.Quoted
import CreditExtraction.Json.Value
import CreditExtraction.Schema.DocumentType

/-!
# Taking in uploads

An upload becomes a document in three steps: it is checked (an accepted extension, not
empty, within the size limit, a known document type), its content is hashed, and a document
is created for it, its raw bytes stored as the `RAW` artifact and the document made `READY`.

Content is stored once. An upload of content already known returns the known document,
provided it was filed as the same type and, when a credit request is named, under the same
credit request; a known document left `NOT_READY` by an interrupted upload gets its raw bytes
now.

A directory is taken in by walking it in name order, hidden entries skipped when asked
(a hidden directory with all below it): every file with an accepted extension is taken in,
and a file that fails is recorded with its failure without stopping the walk.

The ingestor logs each document it makes ready (`ingest.document.ready`) or finds already
stored (`ingest.document.deduplicated`), and each upload it rejects for its content or for a
clash with the stored document (`ingest.rejected`).
-/

namespace CreditExtraction.Ingest

open Store Files

/-- The outcome of taking in one file. -/
structure IngestionResult where
  sourcePath : String
  documentId : Uuid
  deduplicated : Bool
  sha256 : String
  fileExt : String
  creditRequestId : String
  pageCount : Int
  uploadedAt : Time.Instant
  error : String
deriving Inhabited

/-- The outcome of a file not yet taken in. -/
def IngestionResult.start (path : String) : IngestionResult :=
  ⟨path, Uuid.nil, false, "", "", "", 0, Time.Instant.zero, ""⟩

/-- An outcome as JSON; empty texts and a zero page count are left out. -/
def IngestionResult.toJson (r : IngestionResult) : Json :=
  let opt (k v : String) : List (String × Json) := if v == "" then [] else [(k, .str v)]
  .obj ([("source_path", .str r.sourcePath), ("document_id", .str r.documentId.toText),
    ("deduplicated", .bool r.deduplicated)] ++ opt "sha256" r.sha256 ++ opt "file_ext" r.fileExt ++
    opt "credit_request_id" r.creditRequestId ++
    (if r.pageCount == 0 then [] else [("page_count", Json.ofInt r.pageCount)]) ++
    [("uploaded_at", .str r.uploadedAt.rfc3339Nano)] ++ opt "error" r.error)

/-- The counts of a directory walk. -/
structure DirStats where
  scanned : Nat
  matched : Nat
  succeeded : Nat
  deduplicated : Nat
  failed : Nat
deriving Inhabited

/-- The counts as JSON. -/
def DirStats.toJson (s : DirStats) : Json :=
  .obj [("scanned", Json.ofInt s.scanned), ("matched", Json.ofInt s.matched),
    ("succeeded", Json.ofInt s.succeeded), ("deduplicated", Json.ofInt s.deduplicated),
    ("failed", Json.ofInt s.failed)]

/-- What an ingestor works with, in a monad `m`. -/
structure Ingestor (m : Type → Type) where
  metadata : {α : Type} → StoreM α → m (Except Failure α)
  artifacts : {α : Type} → Artifact.StoreOp α → m (Except Failure α)
  /-- The document types uploads are checked against, when given. -/
  registry : Option Registry
  /-- The largest upload taken, when positive. -/
  maxBytes : Int
  /-- Writes a record to the log. -/
  log : Log.Record → m Unit

namespace Ingestor

variable {m : Type → Type} [Monad m] (i : Ingestor m)

/-- Writes a record to the ingestor's log. -/
def note (level : Log.Level) (msg : String) (attrs : List (String × Log.Value)) : m Unit :=
  i.log ⟨level, msg, attrs⟩

/-- Stores the raw bytes of a document, checks the digest the store reports and makes the
document `READY`. -/
def storeRaw (doc : Document) (data : ByteArray) : ExceptT Failure m Unit := do
  let key : Artifact.Key := ⟨doc.id, Artifact.Stage.raw, doc.contentKind⟩
  let a ← tryCatch (ExceptT.mk (i.artifacts (Artifact.Store.put key data))) fun e =>
    throw (Failure.context ("store raw document " ++ doc.id.toText) e)
  ExceptT.mk (pure (Artifact.verifyHash data a))
  ExceptT.mk (i.metadata (Documents.markReady doc.id a.locator))

/-- Takes known content in again (see the module comment). -/
def dedupe (out : IngestionResult) (doc : Document) (docType creditRequest : String)
    (data : ByteArray) : ExceptT Failure m IngestionResult := do
  if doc.documentType != docType then
    (i.note .warn "ingest.rejected" [Log.text "path" out.sourcePath, Log.text "document_id" doc.id.toText,
      Log.text "type" docType, Log.text "stored_type" doc.documentType] : m Unit)
    throw (Failure.tagged .invalidInput ("content already stored as document " ++ doc.id.toText ++
      " of type " ++ Text.Quoted.quote doc.documentType ++ ", not " ++ Text.Quoted.quote docType))
  if creditRequest != "" && creditRequest != doc.creditRequestId then
    (i.note .warn "ingest.rejected" [Log.text "path" out.sourcePath, Log.text "document_id" doc.id.toText,
      Log.text "credit_request_id" creditRequest, Log.text "stored_credit_request_id" doc.creditRequestId] : m Unit)
    throw (Failure.tagged .invalidInput ("content already stored as document " ++ doc.id.toText ++
      " under credit request " ++ Text.Quoted.quote doc.creditRequestId))
  if doc.status == .notReady then i.storeRaw doc data
  (i.note .info "ingest.document.deduplicated" [Log.text "document_id" doc.id.toText,
    Log.text "path" out.sourcePath] : m Unit)
  pure { out with documentId := doc.id, creditRequestId := doc.creditRequestId, deduplicated := true,
                  pageCount := doc.pageCount, uploadedAt := doc.createdAt }

/-- Takes in the bytes of an upload named `sourcePath` as a document of a type (see the module
comment). The outcome is kept also when taking in fails. -/
def ingest (sourcePath docType : String) (data : ByteArray) (creditRequest : String) :
    m (IngestionResult × Option Failure) := do
  let out := IngestionResult.start sourcePath
  let attempt : ExceptT Failure (StateT IngestionResult m) IngestionResult := do
    let ext := normalizeExt (extensionOf sourcePath)
    if ext == "" || !allowedExt ext then
      throw (Failure.tagged .invalidInput ("unsupported or missing extension " ++ Text.Quoted.quote ext))
    if data.size == 0 then
      throw (Failure.tagged .invalidInput (sourcePath ++ " is empty"))
    if i.maxBytes > 0 && (data.size : Int) > i.maxBytes then
      throw (Failure.tagged .invalidInput (sourcePath ++ " is " ++ toString data.size ++
        " bytes, limit " ++ toString i.maxBytes))
    let docType := Text.CharClass.trimSpace docType
    if let some reg := i.registry then
      match reg.get docType with
      | .ok _ => pure ()
      | .error e => throw e
    modify fun o => { o with fileExt := ext, sha256 := Artifact.hash data }
    let out ← get
    match ← (liftM (i.metadata (Documents.getByHash out.sha256)) : ExceptT Failure (StateT IngestionResult m) _) with
    | .ok existing =>
      match ← (liftM (i.dedupe out existing docType creditRequest data).run : ExceptT Failure (StateT IngestionResult m) _) with
      | .ok r => pure r
      | .error e => throw e
    | .error e =>
      if !e.has .notFound then throw e
      let pages ← match inspect ext data with
        | .ok n => pure n
        | .error e =>
          (liftM (i.note .warn "ingest.rejected" [Log.text "path" sourcePath, Log.text "err" e.message]) :
            ExceptT Failure (StateT IngestionResult m) Unit)
          throw e
      let doc : Document :=
        { id := Uuid.nil, documentType := docType, creditRequestId := creditRequest,
          sourcePath := sourcePath, rawLocator := "", contentKind := ext, mimeType := mimeTypeFor ext,
          contentHash := out.sha256, sizeBytes := data.size, pageCount := pages,
          status := .other "", activeJob := none, createdAt := Time.Instant.zero,
          updatedAt := Time.Instant.zero }
      let doc ← match ← (liftM (i.metadata (Documents.create doc)) : ExceptT Failure (StateT IngestionResult m) _) with
        | .ok d => pure d
        | .error e => throw e
      match ← (liftM (i.storeRaw doc data).run : ExceptT Failure (StateT IngestionResult m) _) with
      | .ok _ => pure ()
      | .error e => throw e
      (liftM (i.note .info "ingest.document.ready" [Log.text "document_id" doc.id.toText,
        Log.text "path" sourcePath, Log.text "type" docType, Log.text "credit_request_id" doc.creditRequestId,
        Log.int "pages" pages, Log.int "size" data.size]) : ExceptT Failure (StateT IngestionResult m) Unit)
      pure { out with documentId := doc.id, creditRequestId := doc.creditRequestId,
                      pageCount := pages, uploadedAt := doc.createdAt }
  match ← (attempt.run).run out with
  | (.ok r, _) => pure (r, none)
  | (.error e, sofar) => pure (sofar, some e)

end Ingestor

end CreditExtraction.Ingest
