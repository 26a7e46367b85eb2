import CreditExtraction.Field.Value
import CreditExtraction.Json.Decode
import CreditExtraction.Geometry
import CreditExtraction.Text.Uuid

/-!
# Extracted fields and pipeline results

An `ExtractedField` is the value chosen for one schema field: the raw text, its typed value
(absent when the text does not coerce), the confidence, where it sits on the page, which
label it came from and how it fared under the field's rule. A `PipelineResult` gathers the
fields of one document type for a job, with the fields that were not found and the labels that
no field claims.

Both are stored as JSON with the members in a fixed order; an empty box, a missing page, no
flags and an empty message are left out.
-/

namespace CreditExtraction

/-- A reason a value did not pass its rule. -/
inductive Flag where
  | typeInvalid
  | patternInvalid
  | outOfRange
  | other (name : String)
deriving Repr, DecidableEq, Inhabited

/-- The name of a flag. -/
def Flag.name : Flag → String
  | .typeInvalid => "TypeInvalid"
  | .patternInvalid => "PatternInvalid"
  | .outOfRange => "OutOfRange"
  | .other n => n

/-- The flag of a name. -/
def Flag.ofName : String → Flag
  | "TypeInvalid" => .typeInvalid
  | "PatternInvalid" => .patternInvalid
  | "OutOfRange" => .outOfRange
  | n => .other n

/-- How a value fared under its rule. -/
structure Outcome where
  valid : Bool
  flags : List Flag
  message : String
deriving Repr, Inhabited

/-- The value chosen for one field. -/
structure ExtractedField where
  name : String
  raw : String
  value : Option FieldValue
  confidence : Float
  box : Polygon
  page : Option Int
  sourceLabel : String
  documentId : Uuid
  validation : Outcome
deriving Repr, Inhabited

/-- The fields found for one document of a type. -/
structure PipelineResult where
  jobId : Uuid
  documentId : Uuid
  documentType : String
  fields : List ExtractedField
  missing : List String
  unmapped : List String
deriving Repr, Inhabited

/-- The outcome as JSON. -/
def Outcome.toJson (o : Outcome) : Json :=
  .obj ([("valid", .bool o.valid)] ++
    (if o.flags.isEmpty then [] else [("flags", .arr (o.flags.map fun f => .str f.name))]) ++
    (if o.message == "" then [] else [("message", .str o.message)]))

/-- A field as JSON. -/
def ExtractedField.toJson (f : ExtractedField) : Json :=
  .obj ([("field_name", .str f.name), ("raw", .str f.raw), ("confidence", .ofFloat f.confidence)] ++
    (if f.box.isEmpty then [] else [("bounding_box", f.box.toJson)]) ++
    (match f.page with
      | some p => [("page", .ofInt p)]
      | none => []) ++
    [("source_label", .str f.sourceLabel), ("source_document_id", .str f.documentId.toText),
     ("validation", f.validation.toJson), ("value", Json.ofOption FieldValue.toJson f.value)])

/-- The fields flagged by their rules. -/
def PipelineResult.flagged (r : PipelineResult) : List ExtractedField :=
  r.fields.filter fun f => !f.validation.flags.isEmpty

/-- The field of a name. -/
def PipelineResult.field? (r : PipelineResult) (name : String) : Option ExtractedField :=
  r.fields.find? (·.name == name)

/-- Sets the job and document of a result and of all its fields. -/
def PipelineResult.bind (r : PipelineResult) (job doc : Uuid) : PipelineResult :=
  { r with jobId := job, documentId := doc, fields := r.fields.map fun f => { f with documentId := doc } }

/-- A result as JSON. A list that was never filled is `null`. -/
def PipelineResult.toJson (r : PipelineResult) : Json :=
  .obj ([("job_id", .str r.jobId.toText), ("document_id", .str r.documentId.toText),
    ("document_type", .str r.documentType), ("fields", .arr (r.fields.map ExtractedField.toJson)),
    ("missing_fields", .arr (r.missing.map .str))] ++
    (if r.unmapped.isEmpty then [] else [("unmapped_labels", .arr (r.unmapped.map .str))]))

open Json in
/-- Reads an identifier from its text. -/
def decodeUuid (p : Place) (j : Json) : Reader Uuid :=
  match j with
  | .str s =>
    match Uuid.parse s with
    | .ok u => pure u
    | .error e => abort e
  | .null => pure Uuid.nil
  | j => mismatch p (kindName j) "uuid.UUID" Uuid.nil

/-- The member names of a stored field. -/
def fieldMemberNames : List String :=
  ["field_name", "raw", "confidence", "bounding_box", "page", "source_label", "source_document_id",
   "validation", "value"]

open Json in
/-- Reads an outcome. -/
def decodeOutcome (p : Place) (j : Json) : Reader Outcome := do
  match ← decodeObject p "entity.ValidationOutcome" j with
  | none => pure ⟨false, [], ""⟩
  | some ms =>
    let names := ["valid", "flags", "message"]
    let valid ← match fieldValue names ms "valid" with
      | some v => decodeBool (p.field "valid") v
      | none => pure false
    let flags ← match fieldValue names ms "flags" with
      | some v =>
        let item := fun x => Flag.ofName <$> decodeString (p.field "flags") x
        decodeList (p.field "flags") "[]constants.ValidationFlag" item v
      | none => pure none
    let message ← match fieldValue names ms "message" with
      | some v => decodeString (p.field "message") v
      | none => pure ""
    pure ⟨valid, flags.getD [], message⟩

open Json in
/-- Reads a stored field. -/
def decodeField (j : Json) : Reader ExtractedField := do
  let p : Place := { record := "extractedFieldJSON" }
  match j with
  | .obj ms =>
    let member (k : String) := fieldValue fieldMemberNames ms k
    let name ← match member "field_name" with
      | some v => decodeString (p.field "field_name") v
      | none => pure ""
    let raw ← match member "raw" with
      | some v => decodeString (p.field "raw") v
      | none => pure ""
    let confidence ← match member "confidence" with
      | some v => decodeFloat (p.field "confidence") v
      | none => pure 0
    let box ← match member "bounding_box" with
      | some v => decodePolygon (p.field "bounding_box") v
      | none => pure []
    let page ← match member "page" with
      | some .null => pure none
      | some v => some <$> decodeInt (p.field "page") "int" v
      | none => pure none
    let sourceLabel ← match member "source_label" with
      | some v => decodeString (p.field "source_label") v
      | none => pure ""
    let documentId ← match member "source_document_id" with
      | some v => decodeUuid (p.field "source_document_id") v
      | none => pure Uuid.nil
    let validation ← match member "validation" with
      | some v => decodeOutcome (p.field "validation") v
      | none => pure ⟨false, [], ""⟩
    let value ← match member "value" with
      | some (.obj vms) =>
        let names := ["type", "value"]
        let typeName ← match fieldValue names vms "type" with
          | some v => decodeString (p.field "value" |>.field "type") v
          | none => pure ""
        let payload := (fieldValue names vms "value").getD .null
        pure (some (typeName, payload))
      | some .null | none => pure none
      | some v => mismatch (p.field "value") (kindName v) "entity.valueJSON" none
    -- the typed value is read once the record is complete
    let saved ← get
    match saved with
    | some e => abort e
    | none =>
      match value with
      | none => pure ⟨name, raw, none, confidence, box, page, sourceLabel, documentId, validation⟩
      | some (t, payload) =>
        match FieldValue.ofJson t payload with
        | .ok v => pure ⟨name, raw, some v, confidence, box, page, sourceLabel, documentId, validation⟩
        | .error e => abort e
  | .null => pure ⟨"", "", none, 0, [], none, "", Uuid.nil, ⟨false, [], ""⟩⟩
  | j => abort (mismatchMessage {} (kindName j) "entity.extractedFieldJSON")

/-- Reads a stored field from its JSON text. -/
def ExtractedField.ofText (s : String) : Except String ExtractedField :=
  match Json.parse s with
  | .error e => .error e
  | .ok j => (decodeField j).run'

open Json in
/-- Reads a stored result. -/
def decodeResult (j : Json) : Reader PipelineResult := do
  let p : Place := { record := "PipelineResult" }
  match j with
  | .obj ms =>
    let names := ["job_id", "document_id", "document_type", "fields", "missing_fields", "unmapped_labels"]
    let member (k : String) := fieldValue names ms k
    let jobId ← match member "job_id" with
      | some v => decodeUuid (p.field "job_id") v
      | none => pure Uuid.nil
    let documentId ← match member "document_id" with
      | some v => decodeUuid (p.field "document_id") v
      | none => pure Uuid.nil
    let documentType ← match member "document_type" with
      | some v => decodeString (p.field "document_type") v
      | none => pure ""
    let fields ← match member "fields" with
      | some v => decodeList (p.field "fields") "[]entity.ExtractedField" decodeField v
      | none => pure none
    let missing ← match member "missing_fields" with
      | some v => decodeList (p.field "missing_fields") "[]string" (decodeString (p.field "missing_fields")) v
      | none => pure none
    let unmapped ← match member "unmapped_labels" with
      | some v => decodeList (p.field "unmapped_labels") "[]string" (decodeString (p.field "unmapped_labels")) v
      | none => pure none
    pure ⟨jobId, documentId, documentType, fields.getD [], missing.getD [], unmapped.getD []⟩
  | .null => pure ⟨Uuid.nil, Uuid.nil, "", [], [], []⟩
  | j => abort (mismatchMessage {} (kindName j) "entity.PipelineResult")

/-- Reads a stored result from its JSON text. -/
def PipelineResult.ofText (s : String) : Except String PipelineResult :=
  match Json.parse s with
  | .error e => .error e
  | .ok j => (decodeResult j).run'

end CreditExtraction
