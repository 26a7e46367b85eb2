import CreditExtraction.Json.Value

/-!
# Log records

A component reports what it does as records: a level, a message naming the event
(`artifact.s3.put`) and attributes in the order they were given. Records are kept as values so
that a caller can show them, filter them by level or write them with a handler of its choice.

An attribute's value is a text, an integer, a float, a truth value, nothing, or a nested
document (an object or a list, whose numbers are floats).
-/

namespace CreditExtraction.Log

/-- How much a record matters, least first. -/
inductive Level where
  | debug
  | info
  | warn
  | error
deriving DecidableEq, Inhabited, Repr

/-- The rank of a level: debug −4, info 0, warn 4, error 8. -/
def Level.rank : Level → Int
  | .debug => -4
  | .info => 0
  | .warn => 4
  | .error => 8

/-- The upper-case name of a level. -/
def Level.name : Level → String
  | .debug => "DEBUG"
  | .info => "INFO"
  | .warn => "WARN"
  | .error => "ERROR"

/-- The value of an attribute. -/
inductive Value where
  | text (s : String)
  | int (n : Int)
  | float (x : Float)
  | bool (b : Bool)
  | none
  | doc (j : Json)
deriving Inhabited

/-- An attribute value as a JSON document. -/
def Value.toJson : Value → Json
  | .text s => .str s
  | .int n => .ofInt n
  | .float x => .num (Text.jsonNumberText .binary64 x)
  | .bool b => .bool b
  | .none => .null
  | .doc j => j

/-- One record. -/
structure Record where
  level : Level
  msg : String
  attrs : List (String × Value)
deriving Inhabited

/-- A record as a JSON object: level, message and attributes. -/
def Record.toJson (r : Record) : Json :=
  .obj ([("level", .str r.level.name), ("msg", .str r.msg)] ++ r.attrs.map fun (k, v) => (k, v.toJson))

/-- A text attribute. -/
def text (k v : String) : String × Value := (k, .text v)

/-- A number attribute. -/
def int (k : String) (v : Int) : String × Value := (k, .int v)

/-- A truth-value attribute. -/
def bool (k : String) (v : Bool) : String × Value := (k, .bool v)

/-- A list-of-texts attribute. -/
def texts (k : String) (vs : List String) : String × Value := (k, .doc (.arr (vs.map .str)))

end CreditExtraction.Log
