import CreditExtraction.Json.Dynamic
import CreditExtraction.Geometry
import CreditExtraction.Text.CharClass

/-!
# Repairing a model reply

Before a reply is checked against the reply schema, the usual ways models drift from it are
repaired, on the reply read as a dynamic value (`Json.dynamic`). For each entry of
`extracted_fields` (when that is an object):

* a bare scalar becomes `{"value": <its text>}` (note `label(bare)`); any other bare value, or
  an empty text, is dropped (`label(type)`);
* an entry whose value is not a non-blank scalar is dropped (`label(empty)`); otherwise the
  value becomes its text without surrounding white space;
* a numeric confidence is clamped to `[0, 1]`; one given as text is read and clamped, or
  dropped when unreadable (`label.confidence` either way); any other confidence is dropped
  (`label.confidence`), a null one silently;
* a source other than `label_value` and `text_line` becomes `text_line` (`label.source`
  when one was given);
* a page that is not a whole number from one up is dropped (`label.page`), a null one silently;
* a bounding box that is not a list is dropped.

`missing_fields` keeps only its texts and is always present. The result is the repaired
document's text (members sorted) and the sorted notes. A reply that is not an object cannot be
repaired; a `null` reply leaves no document to write into.
-/

namespace CreditExtraction.Llm

/-- Why a reply could not be repaired. -/
inductive RepairError where
  /-- The reply is not a JSON object. -/
  | decode (msg : String)
  /-- The repaired reply cannot be written (a confidence that is not a number). -/
  | encode (msg : String)
  /-- The reply is `null`: there is no document to write the repairs into. -/
  | nullDocument
deriving Repr, Inhabited

/-- The message of a failed repair. -/
def RepairError.message : RepairError → String
  | .decode m => "sanitize: decode: " ++ m
  | .encode m => "sanitize: encode: " ++ m
  | .nullDocument => "assignment to entry in nil map"

/-- The sources a candidate may name. -/
def sourceLabelValue : String := "label_value"

/-- The source of a candidate found in a text line. -/
def sourceTextLine : String := "text_line"

/-- The text of a scalar: a string itself, a number in plain decimal, a boolean's name. -/
def scalarText : Json → Option String
  | .str s => some s
  | .num lit => some (Text.showFloat (Json.numFloat lit))
  | .bool b => some (if b then "true" else "false")
  | _ => none

/-- A float clamped to `[0, 1]` (not-a-number stays). -/
def clamp01 (x : Float) : Float := fmax 0 (fmin 1 x)

/-- A number in dynamic form. -/
def floatJson (x : Float) : Json := .num (Text.jsonNumberText .binary64 x)

/-- Repairs one entry: the entry kept (if any), the notes, and whether a confidence is not a
number. -/
def repairEntry (label : String) (v : Json) : Option Json × List String × Bool :=
  match v with
  | .obj entry =>
    match (Json.member? entry "value").bind scalarText with
    | none => (none, [label ++ "(empty)"], false)
    | some s =>
      let value := Text.CharClass.trimSpace s
      if value == "" then (none, [label ++ "(empty)"], false) else
      let entry := Json.setMember entry "value" (.str value)
      -- confidence
      let (entry, notes, nan) := match Json.member? entry "confidence" with
        | none | some .null => (Json.removeMember entry "confidence", [], false)
        | some (.num lit) =>
          let x := clamp01 (Json.numFloat lit)
          (Json.setMember entry "confidence" (floatJson x), [], x.isNaN)
        | some (.str t) =>
          match Text.parseFloat64 (Text.CharClass.trimSpace t) with
          | .ok x =>
            let x := clamp01 x
            (Json.setMember entry "confidence" (floatJson x), [label ++ ".confidence"], x.isNaN)
          | .error _ => (Json.removeMember entry "confidence", [label ++ ".confidence"], false)
        | some _ => (Json.removeMember entry "confidence", [label ++ ".confidence"], false)
      -- source
      let src := match Json.member? entry "source" with
        | some (.str s) => s
        | _ => ""
      let (entry, notes) :=
        if src != sourceLabelValue && src != sourceTextLine then
          (Json.setMember entry "source" (.str sourceTextLine),
            notes ++ (if (Json.member? entry "source").isSome then [label ++ ".source"] else []))
        else (entry, notes)
      -- page
      let (entry, notes) := match Json.member? entry "page" with
        | none | some .null => (Json.removeMember entry "page", notes)
        | some (.num lit) =>
          let p := Json.numFloat lit
          if p < 1 || p != p.floor then (Json.removeMember entry "page", notes ++ [label ++ ".page"])
          else (entry, notes)
        | some _ => (Json.removeMember entry "page", notes ++ [label ++ ".page"])
      -- bounding box
      let entry := match Json.member? entry "bounding_box" with
        | some (.arr _) => entry
        | _ => Json.removeMember entry "bounding_box"
      (some (.obj entry), notes, nan)
  | v =>
    match scalarText v with
    | some s => if s != "" then (some (.obj [("value", .str s)]), [label ++ "(bare)"], false)
      else (none, [label ++ "(type)"], false)
    | none => (none, [label ++ "(type)"], false)

/-- Repairs a reply (see the module comment): the repaired text and the sorted notes. -/
def sanitize (raw : String) : Except RepairError (String × List String) := do
  let doc ← match Json.parse raw with
    | .error e => throw (.decode e)
    | .ok j => pure j
  let doc ← match Json.dynamic doc with
    | .error e => throw (.decode e)
    | .ok j => pure j
  let top ← match doc with
    | .obj ms => pure ms
    | .null => throw .nullDocument
    | j => throw (.decode ("json: cannot unmarshal " ++ Json.kindName j ++ " into Go value of type map[string]interface \x7b\x7d"))
  let (top, notes, nan) : List (String × Json) × List String × Bool :=
    match Json.member? top "extracted_fields" with
    | some (.obj fields) =>
      let repaired : List (String × Option Json × List String × Bool) :=
        fields.map fun (label, v) => (label, repairEntry label v)
      let kept := repaired.filterMap fun (r : String × Option Json × List String × Bool) => r.2.1.map (r.1, ·)
      (Json.setMember top "extracted_fields" (.obj kept),
        repaired.flatMap (fun (r : String × Option Json × List String × Bool) => r.2.2.1),
        repaired.any (fun (r : String × Option Json × List String × Bool) => r.2.2.2))
    | _ => (top, [], false)
  let missing := match Json.member? top "missing_fields" with
    | some (.arr items) => items.filter fun (j : Json) => match j with | .str _ => true | _ => false
    | _ => []
  let top := Json.setMember top "missing_fields" (.arr missing)
  if nan then throw (RepairError.encode "json: unsupported value: NaN")
  pure (Json.render (.obj top), notes.mergeSort (· ≤ ·))

end CreditExtraction.Llm
