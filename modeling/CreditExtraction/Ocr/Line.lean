import CreditExtraction.Geometry

/-!
# Lines of recognized text

A text recognizer reports `RawLine`s: the text, an optional box, an optional confidence and the
page. Normalizing them gives `Line`s in reading order, each with a confidence and, when it had
one, a rectangular box.

Both are stored as JSON. A raw line leaves out an empty box and an absent confidence; a line
always writes its four members, an absent box as `null`.
-/

namespace CreditExtraction.Ocr

/-- A line as a recognizer reports it. -/
structure RawLine where
  text : String
  box : Polygon
  confidence : Option Float
  page : Int
deriving Repr, Inhabited

/-- A normalized line of text. -/
structure Line where
  text : String
  box : Polygon
  confidence : Float
  page : Int
deriving Repr, Inhabited

/-- A raw line as JSON. -/
def RawLine.toJson (l : RawLine) : Json :=
  .obj ([("text", .str l.text)] ++
    (if l.box.isEmpty then [] else [("bounding_box", l.box.toJson)]) ++
    (match l.confidence with
      | some c => [("confidence", .ofFloat c)]
      | none => []) ++
    [("page", .ofInt l.page)])

/-- A line as JSON. -/
def Line.toJson (l : Line) : Json :=
  .obj [("text", .str l.text), ("bounding_box", l.box.toJson), ("confidence", .ofFloat l.confidence),
    ("page", .ofInt l.page)]

/-- A list of raw lines as JSON; no list at all is `null`. -/
def rawLinesToJson (ls : List RawLine) : Json := .arr (ls.map RawLine.toJson)

/-- A list of lines as JSON. -/
def linesToJson (ls : List Line) : Json := .arr (ls.map Line.toJson)

open Json

/-- Reads a raw line. -/
def decodeRawLine (j : Json) : Reader RawLine := do
  let p : Place := { record := "RawLine" }
  match ← decodeObject {} "ocr.RawLine" j with
  | none => pure ⟨"", [], none, 0⟩
  | some ms =>
    let names := ["text", "bounding_box", "confidence", "page"]
    let text ← match fieldValue names ms "text" with
      | some v => decodeString (p.field "text") v
      | none => pure ""
    let box ← match fieldValue names ms "bounding_box" with
      | some v => decodePolygon (p.field "bounding_box") v
      | none => pure []
    let confidence ← match fieldValue names ms "confidence" with
      | some .null | none => pure none
      | some v => some <$> decodeFloat (p.field "confidence") v
    let page ← match fieldValue names ms "page" with
      | some v => decodeInt (p.field "page") "int" v
      | none => pure 0
    pure ⟨text, box, confidence, page⟩

/-- Reads a line. -/
def decodeLine (j : Json) : Reader Line := do
  let p : Place := { record := "OCRLine" }
  match ← decodeObject {} "entity.OCRLine" j with
  | none => pure ⟨"", [], 0, 0⟩
  | some ms =>
    let names := ["text", "bounding_box", "confidence", "page"]
    let text ← match fieldValue names ms "text" with
      | some v => decodeString (p.field "text") v
      | none => pure ""
    let box ← match fieldValue names ms "bounding_box" with
      | some v => decodePolygon (p.field "bounding_box") v
      | none => pure []
    let confidence ← match fieldValue names ms "confidence" with
      | some v => decodeFloat (p.field "confidence") v
      | none => pure 0
    let page ← match fieldValue names ms "page" with
      | some v => decodeInt (p.field "page") "int" v
      | none => pure 0
    pure ⟨text, box, confidence, page⟩

/-- Reads stored raw lines from JSON text. -/
def RawLine.listOfText (s : String) : Except String (List RawLine) :=
  match Json.parse s with
  | .error e => .error e
  | .ok j => Reader.run' (do
      pure ((← decodeList {} "[]ocr.RawLine" decodeRawLine j).getD []))

/-- Reads stored lines from JSON text. -/
def Line.listOfText (s : String) : Except String (List Line) :=
  match Json.parse s with
  | .error e => .error e
  | .ok j => Reader.run' (do
      pure ((← decodeList {} "[]entity.OCRLine" decodeLine j).getD []))

end CreditExtraction.Ocr
