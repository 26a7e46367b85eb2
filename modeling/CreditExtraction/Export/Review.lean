import CreditExtraction.Export.Workbook
import CreditExtraction.Store.Jobs

/-!
# Review workbooks

Two workbooks are made from stored results.

For one finished job: a `Fields` sheet with a row per extracted field (its value, type, raw
text cut to 140 characters, confidence, page, source label, validity, flags and message; the
rows of invalid fields filled), a `Missing` sheet with the fields not found, and a `Summary`
sheet of the job and its document.

For the documents of a status (all of them when the status is empty), newest first: a
`Documents` sheet with a row per document and, for every field asked for, its value in the
document's latest finished result, empty when there is none.
-/

namespace CreditExtraction.Export

open Store

/-- Text cut to `n` characters, the last of them an ellipsis when cut. -/
def truncate (s : String) (n : Nat) : String :=
  if n == 0 || s.length ≤ n then s
  else if n ≤ 1 then String.ofList (s.toList.take n)
  else String.ofList (s.toList.take (n - 1)) ++ "…"

/-- The header of the `Fields` sheet. -/
def fieldHeaders : List String :=
  ["Field", "Value", "Type", "Raw", "Confidence", "Page", "Source Label", "Valid", "Flags", "Message"]

/-- The row of a field. -/
def fieldRow (f : ExtractedField) : List Cell :=
  let (value, type) := match f.value with
    | some v => (v.display, v.type.name)
    | none => ("", "")
  [.text f.name, .text value, .text type, .text (truncate f.raw 140), .number f.confidence,
   .text (match f.page with
     | some p => toString p
     | none => ""),
   .text f.sourceLabel, .truth f.validation.valid,
   .text (", ".intercalate (f.validation.flags.map (·.name))), .text f.validation.message]

/-- The review workbook of a finished job. -/
def jobWorkbook (id : Uuid) : StoreM (List Sheet) := do
  let job ← Jobs.get id
  if job.stage != .finished then
    throw (Failure.tagged .invalidInput ("job " ++ id.toText ++ " is " ++ job.stage.name))
  let res ← match PipelineResult.ofText (job.resultJson.getD "") with
    | .ok r => pure r
    | .error e => throw (.plain ("decode result of job " ++ id.toText ++ ": " ++ e))
  let doc ← Documents.get job.document
  let fields : Sheet :=
    ⟨"Fields", (fieldHeaders.map Cell.text) :: res.fields.map fieldRow,
     (res.fields.zipIdx.filter fun (f, _) => !f.validation.valid).map fun (_, i) => i + 2⟩
  let missing : Sheet := ⟨"Missing", [.text "Missing Field"] :: res.missing.map fun n => [.text n], []⟩
  let finished := match job.finishedAt with
    | some t => t.rfc3339
    | none => ""
  let summary : List (String × Cell) :=
    [("Job", .text job.id.toText), ("Document", .text doc.id.toText), ("Source", .text doc.sourcePath),
     ("Document Type", .text res.documentType), ("Pages", .whole doc.pageCount),
     ("Finished At", .text finished), ("Attempts", .whole job.attempts),
     ("Fields", .whole res.fields.length), ("Flagged", .whole res.flagged.length),
     ("Missing", .whole res.missing.length), ("Unmapped Labels", .text (", ".intercalate res.unmapped)),
     ("Credit Request", .text doc.creditRequestId)]
  pure [fields, missing, ⟨"Summary", summary.map fun (k, v) => [.text k, v], []⟩]

/-- The document workbook of a status, with the values of some fields. -/
def documentsWorkbook (status : String) (names : List String) : StoreM (List Sheet) := do
  let docs ← tryCatch (Documents.list status 0) fun e => throw (Failure.context "query documents" e)
  let rows ← docs.mapM fun d => do
    let res ← tryCatch (some <$> Jobs.latestResultForDocument d.id) fun e =>
      if e.has .notFound then pure none else throw e
    let cells := names.map fun name =>
      match res.bind (·.field? name) |>.bind (·.value) with
      | some v => Cell.text v.display
      | none => Cell.text ""
    pure ([Cell.text d.id.toText, .text d.sourcePath, .text d.status.name, .text d.documentType] ++ cells)
  let header := (["Document", "Source", "Status", "Type"] ++ names).map Cell.text
  pure [⟨"Documents", header :: rows, []⟩]

end CreditExtraction.Export
