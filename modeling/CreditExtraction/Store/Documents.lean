import CreditExtraction.Store.Records

/-!
# Documents in the metadata store

A document is created once per distinct content (its hash is unique) and starts `NOT_READY`;
`markReady` records where its raw upload is kept and makes it `READY`. Lists come newest first,
or, for one credit request, oldest first with the identifier breaking ties.
-/

namespace CreditExtraction.Store.Documents

open Sql

/-- The cells of a new document row. -/
def cells (d : Document) : List (String × Value) :=
  [("id", .text d.id.toText), ("document_type", .text d.documentType),
   ("credit_request_id", .text d.creditRequestId), ("source_path", .text d.sourcePath),
   ("raw_locator", .text d.rawLocator), ("content_kind", .text d.contentKind),
   ("mime_type", .text d.mimeType), ("content_hash", .text d.contentHash),
   ("size_bytes", .int d.sizeBytes), ("page_count", .int d.pageCount),
   ("status", .text d.status.name),
   ("active_job_id", match d.activeJob with
     | some j => .text j.toText
     | none => .null),
   ("created_at", .text d.createdAt.stored), ("updated_at", .text d.updatedAt.stored)]

/-- Stores a new document. A nil identifier is replaced by a fresh one, an empty status by
`NOT_READY`, and a zero creation time by the clock; the update time is the clock. The stored
document is returned. -/
def create (d : Document) : StoreM Document := do
  let id ← if d.id == Uuid.nil then freshId else pure d.id
  let t ← now
  let d := { d with
    id
    status := if d.status.name == "" then .notReady else d.status
    createdAt := if d.createdAt == Time.Instant.zero then t else d.createdAt
    updatedAt := t }
  let s ← get
  match s.db.insert "documents" (cells d) with
  | .ok db =>
    set { s with db }
    note .info "document created" [Log.text "document_id" d.id.toText, Log.text "type" d.documentType,
      Log.text "credit_request_id" d.creditRequestId, Log.text "status" d.status.name]
    pure d
  | .error e =>
    note .error "document create failed" [Log.text "document_id" d.id.toText, Log.text "err" e.message]
    throw (unavailable "create document" e.message)

/-- The first document that satisfies a condition. -/
def getWhere (cond : Expr) : StoreM Document := do
  let (t, rows) ← readDb "get document" (·.select "documents" documentColumns cond [])
  match rows with
  | r :: _ => readRecord "scan document" (Document.read t r)
  | [] => throw (Failure.context "document" (.cause .notFound))

/-- The document of an identifier. -/
def get (id : Uuid) : StoreM Document := getWhere (Expr.colEq "id" (.text id.toText))

/-- The document of a content hash. -/
def getByHash (hash : String) : StoreM Document := getWhere (Expr.colEq "content_hash" (.text hash))

/-- Records the raw upload's locator and moves a `NOT_READY` document to `READY`. A document
past `NOT_READY` is accepted again only with the same locator. -/
def markReady (id : Uuid) (locator : String) : StoreM Unit := do
  let ts ← nowText
  let n ← runDb "mark document ready" fun db =>
    db.update "documents"
      [("raw_locator", .lit (.text locator)), ("status", .lit (.text "READY")),
       ("updated_at", .lit (.text ts))]
      (Expr.all [Expr.colEq "id" (.text id.toText), Expr.colEq "status" (.text "NOT_READY")])
  if n == 0 then
    let d ← get id
    if d.rawLocator != locator then
      throw (Failure.tagged .invalidInput ("document " ++ id.toText ++ " is " ++ d.status.name))
  note .info "document ready" [Log.text "document_id" id.toText, Log.text "raw_locator" locator]

/-- Reads listed rows, the first that does not read failing the list. -/
def readAll (t : Table) (rows : List Row) : StoreM (List Document) :=
  rows.mapM fun r => readRecord "scan document" (Document.read t r)

/-- The documents of a status (all when empty), newest first, at most `limit` when positive. -/
def list (status : String) (limit : Int) : StoreM (List Document) := do
  let cond := if status == "" then Expr.lit (.int 1) else Expr.colEq "status" (.text status)
  let (t, rows) ← readDb "list documents" (·.select "documents" documentColumns cond ["created_at"])
  let rows := sortRows t "created_at" true rows
  let rows := if limit > 0 then rows.take limit.toNat else rows
  readAll t rows

/-- The documents of a credit request, oldest first, ties by identifier. -/
def listByCreditRequest (creditRequest : String) : StoreM (List Document) := do
  if creditRequest == "" then throw (Failure.tagged .invalidInput "credit request id is required")
  let (t, rows) ← readDb "list documents"
    (·.select "documents" documentColumns (Expr.colEq "credit_request_id" (.text creditRequest))
      ["created_at", "id"])
  let rows := sortRows t "created_at" false (sortRows t "id" false rows)
  readAll t rows

end CreditExtraction.Store.Documents
