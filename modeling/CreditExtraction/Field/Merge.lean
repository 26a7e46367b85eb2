import CreditExtraction.Field.Coerce
import CreditExtraction.Field.Extracted
import CreditExtraction.Schema.DocumentType
import CreditExtraction.Extraction.Candidate
import CreditExtraction.Ocr.Line
import CreditExtraction.Text.Search

/-!
# Choosing one value per field

`merge` reconciles an extractor's candidates with the recognized lines of a document into the
document type's result:

* each candidate's label is sent to its field by the type's mapper; labels no field claims are
  reported, sorted and without repeats;
* of the candidates of a field, the best wins: higher confidence (a candidate without one
  counts as 0.5), then earlier on the page, then the smaller label, then the smaller value;
* "earlier" ranks a value found in a line by that line's position, before a candidate placed by
  its own box (by page, then top, then left), before one placed nowhere;
* the winner takes its box from itself if it has one, else from the first line holding its
  value (case ignored), whose confidence then replaces its own;
* fields with no candidate are listed as missing, in schema order.

`check` then reads the winner's text under the field's rule and collects every violation: a
text that does not read as the type, a pattern that does not match, a number out of bounds.
-/

namespace CreditExtraction

open Text

/-- The confidence of a candidate that states none. -/
def defaultConfidence : Float := 0.5

/-- Where a candidate stands in the document: found in a line (`rank` 0, at line `a`), placed
by its own box (`rank` 1, at page `a`, top `b`, left `c`) or nowhere (`rank` 2). -/
structure Position where
  rank : Nat
  a : Float
  b : Float
  c : Float
deriving Inhabited

/-- Is `p` earlier than `q`? -/
def Position.before (p q : Position) : Bool :=
  if p.rank != q.rank then p.rank < q.rank
  else if p.a != q.a then p.a < q.a
  else if p.b != q.b then p.b < q.b
  else p.c < q.c

/-- Do `p` and `q` stand at the same place? -/
def Position.same (p q : Position) : Bool :=
  p.rank == q.rank && p.a == q.a && p.b == q.b && p.c == q.c

/-- A candidate with its confidence, position and the first line that holds its value. -/
structure Scored where
  candidate : Candidate
  confidence : Float
  position : Position
  line : Option Nat

/-- Does `x` beat `y` (see the module comment)? -/
def Scored.beats (x y : Scored) : Bool :=
  if x.confidence != y.confidence then x.confidence > y.confidence
  else if !x.position.same y.position then x.position.before y.position
  else if x.candidate.label != y.candidate.label then x.candidate.label < y.candidate.label
  else x.candidate.value < y.candidate.value

/-- The first line whose lower-cased text contains the trimmed, lower-cased value. -/
def findLine (lowered : List String) (value : String) : Option Nat :=
  let v := CharClass.lowerString (CharClass.trimSpace value)
  if v == "" then none else firstIndexWhere' lowered v
where
  /-- The position of the first text containing `v`. -/
  firstIndexWhere' (ls : List String) (v : String) : Option Nat :=
    (ls.zipIdx.find? fun (l, _) => containsText l v).map (·.2)

/-- The position of a candidate, given the line holding its value. -/
def candidatePosition (c : Candidate) (line : Option Nat) : Position :=
  match line with
  | some i => ⟨0, i.toFloat, 0, 0⟩
  | none =>
    match c.box.bounds with
    | some r =>
      let page := match c.page with
        | some p => Float.ofInt p
        | none => Float.posInf
      ⟨1, page, r.minY, r.minX⟩
    | none => ⟨2, 0, 0, 0⟩

/-- A mapped candidate scored against the lower-cased lines of its document: its confidence
(0.5 when it states none), the first line holding its value and its position. -/
def Scored.of (lowered : List String) (c : Candidate) : Scored :=
  let line := findLine lowered c.value
  { candidate := c, confidence := c.confidence.getD defaultConfidence,
    position := candidatePosition c line, line := line }

/-- The best of a field's candidates: the first one that none of the others beats. -/
def best (first : Scored) (rest : List Scored) : Scored :=
  rest.foldl (fun b s => if s.beats b then s else b) first

/-- Reads raw text under a rule and collects every violation (see the module comment). -/
def Rule.check (rule : Rule) (raw : String) : Option FieldValue × Outcome :=
  let coerced := coerce raw rule.type rule.decimalComma
  let typeIssues : List (Flag × String) := match coerced with
    | .error e => [(.typeInvalid, e)]
    | .ok _ => []
  let patternIssues : List (Flag × String) := match rule.pattern with
    | some re =>
      if re.matches raw then []
      else [(.patternInvalid, if rule.description != "" then "pattern validation failed: " ++ rule.description
                              else "does not match " ++ re.source)]
    | none => []
  let rangeIssues : List (Flag × String) := match coerced with
    | .ok (.number v) =>
      match rule.min, rule.max with
      | some lo, _ =>
        if v < lo then [(.outOfRange, "value " ++ showFloat v ++ " is below minimum " ++ showFloat lo)]
        else aboveMax v rule.max
      | none, _ => aboveMax v rule.max
    | _ => []
  let issues := typeIssues ++ patternIssues ++ rangeIssues
  (coerced.toOption, ⟨issues.isEmpty, issues.map (·.1), "; ".intercalate (issues.map (·.2))⟩)
where
  /-- The violation of an upper bound. -/
  aboveMax (v : Float) : Option Float → List (Flag × String)
    | some hi => if v > hi then [(.outOfRange, "value " ++ showFloat v ++ " is above maximum " ++ showFloat hi)] else []
    | none => []

/-- The extracted field built from a field's winning candidate. -/
def buildField (f : SchemaField) (w : Scored) (lines : List Ocr.Line) : ExtractedField :=
  let c := w.candidate
  let raw := CharClass.trimSpace c.value
  let (box, confidence, page) : Polygon × Float × Option Int :=
    if !c.box.isEmpty then (c.box, w.confidence, c.page)
    else match w.line.bind (lines[·]?) with
      | some l => (l.box, l.confidence, some l.page)
      | none => ([], w.confidence, c.page)
  let (value, outcome) := f.rule.check raw
  ⟨f.name, raw, value, confidence, box, page, c.label, Uuid.nil, outcome⟩

/-- Sorts texts and drops repeats. -/
def dedupeSorted (xs : List String) : List String :=
  ((xs.mergeSort (· ≤ ·)).splitBy (· == ·)).filterMap List.head?

/-- The texts of a document's lines, lower-cased: where candidates' values are looked for. -/
def loweredTexts (lines : List Ocr.Line) : List String :=
  lines.map fun l => CharClass.lowerString l.text

/-- A candidate sent by the type's mapper to a field name and scored, or its label when no
field claims it. -/
def classify (dt : DocumentType) (lowered : List String) (c : Candidate) :
    String ⊕ (String × Scored) :=
  match dt.mapper.map? c.label with
  | none => .inl c.label
  | some name => .inr (name, Scored.of lowered c)

/-- A field's entry in the result, given the candidates sent to it: the field built from the
best of them, or its name as missing when there are none. -/
def fieldEntry (lines : List Ocr.Line) (f : SchemaField) : List Scored → String ⊕ ExtractedField
  | [] => .inl f.name
  | first :: rest => .inr (buildField f (best first rest) lines)

/-- Merges candidates with the document's lines into the result of a document type (see the
module comment). The job and document are left unset. -/
def merge (lines : List Ocr.Line) (out : Extraction) (dt : DocumentType) : PipelineResult :=
  let sorted := out.candidates.map (classify dt (loweredTexts lines))
  let unmapped := sorted.filterMap Sum.getLeft?
  let mapped := sorted.filterMap Sum.getRight?
  let perField := dt.fields.map fun f => fieldEntry lines f ((mapped.filter (·.1 == f.name)).map (·.2))
  { jobId := Uuid.nil, documentId := Uuid.nil, documentType := dt.name,
    fields := perField.filterMap Sum.getRight?,
    missing := perField.filterMap Sum.getLeft?,
    unmapped := dedupeSorted unmapped }

end CreditExtraction
