import CreditExtraction.Store.Records
import CreditExtraction.Field.Extracted

/-!
# Extracted fields in the metadata store

The fields of a finished job are stored one row each, in the order of the document type's
schema: the whole field as JSON, and beside it the columns a report may filter on (name,
position, raw text, value type, confidence, page, label, validity and flags). A job's fields
are replaced whole, and listed back in their order.
-/

namespace CreditExtraction.Store.Fields

open Sql

/-- The cells of the row of a field at a position. -/
def cells (id job document : Uuid) (i : Nat) (f : ExtractedField) : List (String × Value) :=
  [("id", .text id.toText), ("job_id", .text job.toText), ("document_id", .text document.toText),
   ("field_name", .text f.name), ("position", .int i), ("raw_value", .text f.raw),
   ("value_type", match f.value with
     | some v => .text v.type.name
     | none => .null),
   ("confidence", .real f.confidence),
   ("page", match f.page with
     | some p => .int p
     | none => .null),
   ("source_label", .text f.sourceLabel), ("valid", Value.ofBool f.validation.valid),
   ("flags", .text (",".intercalate (f.validation.flags.map (·.name)))),
   ("payload", .text (Json.render f.toJson))]

/-- Inserts rows as one statement: all of them or none. -/
def insertAll (db : Database) (rows : List (List (String × Value))) : Except SqlError Database :=
  rows.foldlM (fun db r => db.insert "extracted_fields" r) db

/-- Replaces the fields of a job. -/
def replace (job document : Uuid) (fields : List ExtractedField) : StoreM Unit := do
  let _ ← runDb "delete fields" fun db =>
    db.delete "extracted_fields" (Expr.colEq "job_id" (.text job.toText))
  if fields.isEmpty then return
  let rows ← fields.zipIdx.mapM fun (f, i) => do
    let id ← freshId
    pure (cells id job document i f)
  runDb "insert fields" fun db => do pure (← insertAll db rows, ())

/-- The fields of a job, in their order. -/
def listByJob (job : Uuid) : StoreM (List ExtractedField) := do
  let (t, rows) ← readDb "list fields"
    (·.select "extracted_fields" ["payload"] (Expr.colEq "job_id" (.text job.toText)) ["position"])
  let rows := sortRows t "position" false (sortRows t "field_name" false rows)
  rows.mapM fun r => do
    let payload ← readRecord "scan field" (cellText ⟨0, "payload"⟩ (t.get r "payload"))
    match ExtractedField.ofText payload with
    | .ok f => pure f
    | .error e => throw (.plain ("decode field: " ++ e))

end CreditExtraction.Store.Fields
