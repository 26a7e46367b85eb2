import CreditExtraction.Json.Parse
import CreditExtraction.Time.Layout
import CreditExtraction.Text.CharClass

/-!
# Field types and typed values

A document field holds text, a number, a calendar date or a yes/no value. Its `FieldType` is
read from a schema by `FieldType.parse?`, which also knows a few synonyms (`text`, `int`,
`decimal`, `bool`, …) and takes a blank type as text.

A value is written for people as `FieldValue.display` (a number with the fewest digits that read
back and no exponent, a date as `2024-03-01`, `true`/`false`) and stored as the JSON object
`{"type": …, "value": …}`, which `FieldValue.ofJson` reads back.
-/

namespace CreditExtraction

/-- The type of a field's value. -/
inductive FieldType where
  | string
  | number
  | date
  | boolean
deriving Repr, DecidableEq, Inhabited

namespace FieldType

/-- The schema name of a type. -/
def name : FieldType → String
  | .string => "string"
  | .number => "number"
  | .date => "date"
  | .boolean => "boolean"

/-- Reads a type name, case and surrounding blanks ignored: the four names, the synonyms
`text`, `float`, `decimal`, `integer`, `int`, `bool`, and a blank name meaning text. -/
def parse? (input : String) : Option FieldType :=
  match Text.CharClass.lowerString (Text.CharClass.trimSpace input) with
  | "" | "string" | "text" => some .string
  | "number" | "float" | "decimal" | "integer" | "int" => some .number
  | "date" => some .date
  | "boolean" | "bool" => some .boolean
  | _ => none

end FieldType

/-- A typed field value. A date is the midnight (UTC) that starts it. -/
inductive FieldValue where
  | text (s : String)
  | number (x : Float)
  | date (d : Time.Instant)
  | boolean (b : Bool)
deriving Repr, Inhabited

namespace FieldValue

/-- The type of a value. -/
def type : FieldValue → FieldType
  | .text _ => .string
  | .number _ => .number
  | .date _ => .date
  | .boolean _ => .boolean

/-- The text of a value for people. -/
def display : FieldValue → String
  | .text s => s
  | .number x => Text.showFloat x
  | .date d => d.dateText
  | .boolean b => if b then "true" else "false"

/-- The stored JSON form `{"type": …, "value": …}`. -/
def toJson (v : FieldValue) : Json :=
  let payload : Json := match v with
    | .text s => .str s
    | .number x => .ofFloat x
    | .date d => .str d.dateText
    | .boolean b => .bool b
  .obj [("type", .str v.type.name), ("value", payload)]

/-- The name of a JSON value's kind in decoding messages. -/
def jsonKind : Json → String
  | .str _ => "string"
  | .num _ => "number"
  | .bool _ => "bool"
  | .arr _ => "array"
  | .obj _ => "object"
  | .null => "null"

/-- The message of a JSON value that cannot be read as the named type. -/
def cannotRead (j : Json) (target : String) : String :=
  "json: cannot unmarshal " ++ jsonKind j ++ " into Go value of type " ++ target

/-- Reads the stored form back: `type` names the kind and `value` must be of that kind (a
`null` value reads as the kind's zero). -/
def ofJson (typeName : String) (value : Json) : Except String FieldValue :=
  match typeName with
  | "string" =>
    match value with
    | .str s => .ok (.text s)
    | .null => .ok (.text "")
    | j => .error (cannotRead j "string")
  | "number" =>
    match value with
    | .num lit => .ok (.number (Json.numFloat lit))
    | .null => .ok (.number 0)
    | j => .error (cannotRead j "float64")
  | "date" =>
    match value with
    | .str s => (Time.parseLayout "2006-01-02" s).map .date
    | .null => (Time.parseLayout "2006-01-02" "").map .date
    | j => .error (cannotRead j "string")
  | "boolean" =>
    match value with
    | .bool b => .ok (.boolean b)
    | .null => .ok (.boolean false)
    | j => .error (cannotRead j "bool")
  | t => .error ("unknown value type " ++ Text.Quoted.quote t)

end FieldValue

end CreditExtraction
