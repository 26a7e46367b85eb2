import CreditExtraction.Llm.Recover
import CreditExtraction.Llm.Sanitize
import CreditExtraction.JsonSchema.Compile
import CreditExtraction.Extraction.Candidate
import CreditExtraction.Failure

/-!
# Reading a model reply

A reply is read in four steps: the JSON object is found in it (`recoverJson`), repaired
(`sanitize`), checked against the reply schema, and decoded into candidates, one per entry of
`extracted_fields`, sorted by label. Each failure is a malformed response. A bounding box is
taken as a flat list of at least four coordinates (an even number) or as a list of at least two
points, and dropped otherwise.

`validateAgainstSchema` is the general check of a JSON text against a schema given as a JSON
object, as the model backends use it.
-/

namespace CreditExtraction.Llm

open Json

/-- The schema of a model reply, as sent to the model and used to check its reply. -/
def responseSchema : Json :=
  let candidate : Json := .obj [
    ("properties", .obj [
      ("bounding_box", .obj [("type", .str "array")]),
      ("confidence", .obj [("maximum", .num "1"), ("minimum", .num "0"), ("type", .str "number")]),
      ("page", .obj [("minimum", .num "1"), ("type", .str "integer")]),
      ("source", .obj [("enum", .arr [.str sourceLabelValue, .str sourceTextLine]), ("type", .str "string")]),
      ("value", .obj [("type", .str "string")])]),
    ("required", .arr [.str "value"]),
    ("type", .str "object")]
  .obj [
    ("properties", .obj [
      ("extracted_fields", .obj [("additionalProperties", candidate), ("type", .str "object")]),
      ("missing_fields", .obj [("items", .obj [("type", .str "string")]), ("type", .str "array")])]),
    ("required", .arr [.str "extracted_fields"]),
    ("type", .str "object")]

/-- Where schemas given as documents live. -/
def schemaUrl : String := "file:///schema.json"

/-- Checks a JSON text against a schema: the schema must compile, the text must read, and the
document must be valid. -/
def validateAgainstSchema (schema : Json) (data : String) : Except String Unit := do
  match JsonSchema.compile schemaUrl schema with
  | .error e => throw ("compile schema: " ++ e)
  | .ok _ => pure ()
  let doc ← match Json.parse data with
    | .error e => throw ("unmarshal data: " ++ e)
    | .ok j => pure j
  let doc ← match Json.dynamic doc with
    | .error e => throw ("unmarshal data: " ++ e)
    | .ok j => pure j
  match JsonSchema.validate schema doc with
  | some f => throw ("json does not match schema: " ++ f.text schemaUrl)
  | none => pure ()

/-- A list of numbers (a null counting as zero), if every item is one. -/
def numbersOf : List Json → Option (List Float)
  | [] => some []
  | .num lit :: rest => (numbersOf rest).map (numFloat lit :: ·)
  | .null :: rest => (numbersOf rest).map (0 :: ·)
  | _ => none

/-- Pairs up flat coordinates. -/
def pairUp : List Float → Polygon
  | x :: y :: rest => ⟨x, y⟩ :: pairUp rest
  | _ => []

/-- The bounding box of a reply entry (see the module comment). -/
def replyBox (box : Option Json) : Polygon :=
  match box with
  | some (.arr items) =>
    match numbersOf items with
    | some xs => if xs.length ≥ 4 && xs.length % 2 == 0 then pairUp xs else points (.arr items)
    | none => points (.arr items)
  | _ => []
where
  /-- The box as a list of points, when it has at least two. -/
  points (j : Json) : Polygon :=
    match (decodePolygon {} j).run' with
    | .ok pts => if pts.length ≥ 2 then pts else []
    | .error _ => []

/-- Why a reply could not be read. -/
inductive ReplyError where
  /-- The reply is malformed. -/
  | failure (f : CreditExtraction.Failure)
  /-- The reply is `null`, which the repair cannot write into: the program stops. -/
  | crash (msg : String)
deriving Inhabited

/-- A malformed response with a detail. -/
def malformed (detail : String) : ReplyError := .failure (.tagged .malformedResponse detail)

/-- Decodes one entry of a checked reply. -/
def decodeEntry (label : String) (entry : Json) : Reader Candidate := do
  let p : Place := { record := "reply", path := ["extracted_fields", label] }
  match entry with
  | .obj ms =>
    let value ← match member? ms "value" with
      | some v => decodeString (p.field "value") v
      | none => pure ""
    let confidence ← match member? ms "confidence" with
      | some .null | none => pure none
      | some v => some <$> decodeFloat (p.field "confidence") v
    let source ← match member? ms "source" with
      | some v => decodeString (p.field "source") v
      | none => pure ""
    let page ← match member? ms "page" with
      | some .null | none => pure none
      | some v => some <$> decodeInt (p.field "page") "int" v
    pure ⟨label, value, confidence, replyBox (member? ms "bounding_box"), page, source⟩
  | _ => pure ⟨label, "", none, [], none, ""⟩

/-- Reads a model reply into an extraction (see the module comment); the model is left empty. -/
def parseReply (content : String) : Except ReplyError Extraction := do
  let raw ← match recoverJson content with
    | .error e => throw (malformed e)
    | .ok r => pure r
  let (clean, _) ← match sanitize raw with
    | .error .nullDocument => throw (.crash RepairError.nullDocument.message)
    | .error e => throw (malformed e.message)
    | .ok r => pure r
  let doc ← match Json.parse clean with
    | .error e => throw (malformed e)
    | .ok j => pure j
  if let some f := JsonSchema.validate responseSchema doc then
    throw (malformed ("json does not match schema: " ++ f.text schemaUrl))
  let top := match doc with
    | .obj ms => ms
    | _ => []
  let entries := match member? top "extracted_fields" with
    | some (.obj es) => es
    | _ => []
  let missing := match member? top "missing_fields" with
    | some (.arr items) => items.filterMap fun (j : Json) => match j with | .str s => some s | _ => none
    | _ => []
  let reading : Reader (List Candidate) := entries.mapM fun (label, e) => decodeEntry label e
  match reading.run' with
  | .error e => throw (malformed e)
  | .ok cands =>
    let sorted := cands.mergeSort fun a b => a.label ≤ b.label
    pure ⟨sorted, missing, "", some doc⟩

end CreditExtraction.Llm
