import CreditExtraction.Lifecycle
import CreditExtraction.Field.Value
import CreditExtraction.Store.Schema
import CreditExtraction.Text.Quoted

/-!
# Entity declarations

The four stored entities (documents, extraction jobs, extracted fields and tasks) are declared
field by field: each field's type, whether it may be left out or be null, whether it is fixed
once written, unique, has a default (on creation, on update), its size and the checks a value
must pass. Edges name the entity they lead to; an inverse edge names the edge it mirrors and
the field that holds the reference. Indexes list their fields.

Checks report fixed texts: `value is less than the required length` for an empty text that
must not be, `value out of range` for a number outside its bounds, and
`value "<v>" is not one of [<names>]` for a name outside its set.
-/

namespace CreditExtraction.Store

/-- The value types of entity fields. -/
inductive ValueType where
  | uuid
  | text
  | int
  | int64
  | float
  | bool
  | time
deriving DecidableEq, Inhabited

/-- The name of a value type. -/
def ValueType.name : ValueType → String
  | .uuid => "[16]byte"
  | .text => "string"
  | .int => "int"
  | .int64 => "int64"
  | .float => "float64"
  | .bool => "bool"
  | .time => "time.Time"

/-- A check on a field's value. -/
inductive FieldCheck where
  | nonEmpty
  | atLeast (n : Int)
  | floatAtLeast (x : Float)
  | floatAtMost (x : Float)
  | oneOf (names : List String)
deriving Inhabited

/-- A value given to a field's checks. -/
inductive FieldInput where
  | text (s : String)
  | int (n : Int)
  | float (x : Float)

/-- The failure of one check on a value, if the check applies to it and fails. -/
def FieldCheck.failure : FieldCheck → FieldInput → Option String
  | .nonEmpty, .text s => if s.isEmpty then some "value is less than the required length" else none
  | .atLeast n, .int v => if v < n then some "value out of range" else none
  | .floatAtLeast x, .float v => if v < x then some "value out of range" else none
  | .floatAtMost x, .float v => if v > x then some "value out of range" else none
  | .oneOf names, .text s =>
    if names.contains s then none
    else some ("value " ++ Text.Quoted.quote s ++ " is not one of [" ++ " ".intercalate names ++ "]")
  | _, _ => none

/-- A field of an entity. -/
structure FieldDecl where
  name : String
  type : ValueType
  optional : Bool := false
  nillable : Bool := false
  immutable : Bool := false
  unique : Bool := false
  hasDefault : Bool := false
  hasUpdateDefault : Bool := false
  checks : List FieldCheck := []
  size : Nat := 0
deriving Inhabited

/-- The failures of a value under a field's checks, in the order of the checks. -/
def FieldDecl.failures (f : FieldDecl) (v : FieldInput) : List String :=
  f.checks.filterMap (·.failure v)

/-- An edge of an entity. -/
structure EdgeDecl where
  name : String
  target : String
  refName : String := ""
  field : String := ""
  unique : Bool := false
  inverse : Bool := false
  required : Bool := false
  immutable : Bool := false

/-- An index of an entity. -/
structure IndexDecl where
  fields : List String
  unique : Bool := false

/-- An entity: its name, table, fields, edges and indexes. -/
structure EntityDecl where
  name : String
  table : String
  fields : List FieldDecl
  edges : List EdgeDecl
  indexes : List IndexDecl

/-- The generated identifier every entity starts with. -/
def idField : FieldDecl := { name := "id", type := .uuid, hasDefault := true, immutable := true }

/-- The reference to another entity, fixed once written. -/
def refField (name : String) : FieldDecl := { name, type := .uuid, immutable := true }

/-- The creation time. -/
def createdAtField : FieldDecl := { name := "created_at", type := .time, hasDefault := true, immutable := true }

/-- The time of the last update. -/
def updatedAtField : FieldDecl :=
  { name := "updated_at", type := .time, hasDefault := true, hasUpdateDefault := true }

/-- A text that may be null. -/
def nullableText (name : String) : FieldDecl := { name, type := .text, optional := true, nillable := true }

/-- A time that may be null. -/
def nullableTime (name : String) : FieldDecl := { name, type := .time, optional := true, nillable := true }

/-- A text with the empty default. -/
def blankText (name : String) : FieldDecl := { name, type := .text, hasDefault := true }

/-- A text that must not be empty. -/
def requiredText (name : String) : FieldDecl := { name, type := .text, checks := [.nonEmpty] }

/-- The largest size of a long text. -/
def longTextSize : Nat := 2147483647

/-- The inverse edge through a reference field, to an entity's edge. -/
def ownerEdge (name target refName field : String) : EdgeDecl :=
  { name, target, refName, field, unique := true, inverse := true, required := true, immutable := true }

/-- The document entity. -/
def documentEntity : EntityDecl where
  name := "Document"
  table := "documents"
  fields := [idField, requiredText "document_type", blankText "credit_request_id", blankText "source_path",
    blankText "raw_locator", requiredText "content_kind", requiredText "mime_type",
    { requiredText "content_hash" with unique := true, immutable := true },
    { name := "size_bytes", type := .int64, checks := [.atLeast 0] },
    { name := "page_count", type := .int, hasDefault := true, checks := [.atLeast 0] },
    { name := "status", type := .text, hasDefault := true,
      checks := [.oneOf ([DocumentStatus.notReady, .ready, .inProgress, .done, .error].map (·.name))] },
    { name := "active_job_id", type := .uuid, optional := true, nillable := true },
    createdAtField, updatedAtField]
  edges := [{ name := "jobs", target := "ExtractionJob" }, { name := "fields", target := "ExtractedField" }]
  indexes := [{ fields := ["status"] }, { fields := ["credit_request_id", "created_at"] }]

/-- The extraction job entity. -/
def jobEntity : EntityDecl where
  name := "ExtractionJob"
  table := "extraction_jobs"
  fields := [idField, refField "document_id",
    { name := "state", type := .text,
      checks := [.oneOf ([JobState.created, .running, .finished, .error].map (·.name))] },
    { name := "stage", type := .text,
      checks := [.oneOf ([Stage.created, .ocrRunning, .normalizing, .extracting, .validating, .persisting,
        .finished, .error].map (·.name))] },
    { name := "attempts", type := .int, hasDefault := true, checks := [.atLeast 0] },
    { name := "cancel_requested", type := .bool, hasDefault := true },
    { name := "worker_log", type := .text, hasDefault := true, size := longTextSize },
    nullableText "error_code", nullableText "error_message", nullableText "result_json",
    createdAtField, nullableTime "started_at", nullableTime "finished_at", updatedAtField]
  edges := [ownerEdge "document" "Document" "jobs" "document_id",
    { name := "fields", target := "ExtractedField" }, { name := "tasks", target := "Task" }]
  indexes := [{ fields := ["document_id", "created_at"] }]

/-- The extracted field entity. -/
def fieldEntity : EntityDecl where
  name := "ExtractedField"
  table := "extracted_fields"
  fields := [idField, refField "job_id", refField "document_id", requiredText "field_name",
    { name := "position", type := .int, checks := [.atLeast 0] },
    blankText "raw_value",
    { nullableText "value_type" with
      checks := [.oneOf ([FieldType.string, .number, .date, .boolean].map (·.name))] },
    { name := "confidence", type := .float, checks := [.floatAtLeast 0, .floatAtMost 1] },
    { name := "page", type := .int, optional := true, nillable := true, checks := [.atLeast 1] },
    blankText "source_label",
    { name := "valid", type := .bool, hasDefault := true },
    blankText "flags",
    { name := "payload", type := .text, size := longTextSize }]
  edges := [ownerEdge "job" "ExtractionJob" "fields" "job_id",
    ownerEdge "document" "Document" "fields" "document_id"]
  indexes := [{ fields := ["job_id", "field_name"], unique := true }]

/-- The task entity. -/
def taskEntity : EntityDecl where
  name := "Task"
  table := "tasks"
  fields := [idField, refField "job_id",
    { name := "status", type := .text, hasDefault := true,
      checks := [.oneOf ([TaskStatus.pending, .running, .completed, .failed].map (·.name))] },
    { name := "attempts", type := .int, hasDefault := true, checks := [.atLeast 0] },
    { name := "max_attempts", type := .int, checks := [.atLeast 1] },
    { name := "run_after", type := .time, hasDefault := true },
    nullableTime "lease_until", nullableText "last_error", createdAtField, updatedAtField]
  edges := [ownerEdge "job" "ExtractionJob" "tasks" "job_id"]
  indexes := [{ fields := ["status", "run_after"] }]

/-- The stored entities. -/
def entities : List EntityDecl := [documentEntity, jobEntity, fieldEntity, taskEntity]

/-- The table of the metadata store an entity is kept in. -/
def EntityDecl.storedTable (e : EntityDecl) : Option Sql.Table :=
  [documentsTable, jobsTable, fieldsTable, tasksTable].find? (·.name == e.table)

end CreditExtraction.Store
