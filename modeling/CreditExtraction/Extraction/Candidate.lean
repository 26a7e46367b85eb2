import CreditExtraction.Geometry

/-!
# Candidates proposed by an extractor

An extractor reads the lines of a document and proposes `Candidate`s: a value found under a
label on the page, with an optional confidence, box, page and a note on where it came from
(`label_value` or `text_line`). An `Extraction` is the whole proposal: the candidates, the
fields the extractor thinks are missing, the model that made it and the reply it was read from.

Both are stored as JSON; optional members are left out when absent or empty, except the
candidate list, which an extraction always writes.
-/

namespace CreditExtraction

/-- A value proposed for a label. -/
structure Candidate where
  label : String
  value : String
  confidence : Option Float
  box : Polygon
  page : Option Int
  source : String
deriving Repr, Inhabited

/-- What an extractor proposes for one document. `raw` is the cleaned reply text, when kept. -/
structure Extraction where
  candidates : List Candidate
  missingHint : List String
  model : String
  raw : Option Json
deriving Inhabited

/-- A candidate as JSON. -/
def Candidate.toJson (c : Candidate) : Json :=
  .obj ([("label", .str c.label), ("value", .str c.value)] ++
    (match c.confidence with
      | some x => [("confidence", .ofFloat x)]
      | none => []) ++
    (if c.box.isEmpty then [] else [("bounding_box", c.box.toJson)]) ++
    (match c.page with
      | some p => [("page", .ofInt p)]
      | none => []) ++
    (if c.source == "" then [] else [("source", .str c.source)]))

/-- An extraction as JSON. -/
def Extraction.toJson (e : Extraction) : Json :=
  .obj ([("candidates", .arr (e.candidates.map Candidate.toJson))] ++
    (if e.missingHint.isEmpty then [] else [("missing_hint", .ofStrings e.missingHint)]) ++
    (if e.model == "" then [] else [("model", .str e.model)]) ++
    (match e.raw with
      | some j => [("raw", j)]
      | none => []))

open Json

/-- Reads a candidate. -/
def decodeCandidate (j : Json) : Reader Candidate := do
  let p : Place := { record := "Extraction", path := ["candidates"] }
  match ← decodeObject p "llm.Candidate" j with
  | none => pure ⟨"", "", none, [], none, ""⟩
  | some ms =>
    let names := ["label", "value", "confidence", "bounding_box", "page", "source"]
    let label ← match fieldValue names ms "label" with
      | some v => decodeString (p.field "label") v
      | none => pure ""
    let value ← match fieldValue names ms "value" with
      | some v => decodeString (p.field "value") v
      | none => pure ""
    let confidence ← match fieldValue names ms "confidence" with
      | some .null | none => pure none
      | some v => some <$> decodeFloat (p.field "confidence") v
    let box ← match fieldValue names ms "bounding_box" with
      | some v => decodePolygon (p.field "bounding_box") v
      | none => pure []
    let page ← match fieldValue names ms "page" with
      | some .null | none => pure none
      | some v => some <$> decodeInt (p.field "page") "int" v
    let source ← match fieldValue names ms "source" with
      | some v => decodeString (p.field "source") v
      | none => pure ""
    pure ⟨label, value, confidence, box, page, source⟩

/-- Reads a stored extraction. -/
def decodeExtraction (j : Json) : Reader Extraction := do
  let p : Place := { record := "Extraction" }
  match ← decodeObject {} "llm.Extraction" j with
  | none => pure ⟨[], [], "", none⟩
  | some ms =>
    let names := ["candidates", "missing_hint", "model", "raw"]
    let candidates ← match fieldValue names ms "candidates" with
      | some v => decodeList (p.field "candidates") "[]llm.Candidate" decodeCandidate v
      | none => pure none
    let missing ← match fieldValue names ms "missing_hint" with
      | some v => decodeList (p.field "missing_hint") "[]string" (decodeString (p.field "missing_hint")) v
      | none => pure none
    let model ← match fieldValue names ms "model" with
      | some v => decodeString (p.field "model") v
      | none => pure ""
    let raw := fieldValue names ms "raw"
    pure ⟨candidates.getD [], missing.getD [], model, raw⟩

/-- Reads a stored extraction from its JSON text. -/
def Extraction.ofText (s : String) : Except String Extraction :=
  match Json.parse s with
  | .error e => .error e
  | .ok j => (decodeExtraction j).run'

end CreditExtraction
