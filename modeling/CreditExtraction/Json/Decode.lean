import CreditExtraction.Json.Parse
import CreditExtraction.Text.CharClass

/-!
# Reading JSON documents into records

Records are read member by member. A member is matched to a record field by its exact name or,
failing that, by its name with case ignored; of several members for one field the last wins,
and members without a field are ignored. `null` leaves a field at its zero value.

A value of the wrong kind does not stop the reading: the first such mismatch is remembered
and reported when the document is done, as `json: cannot unmarshal <kind> into Go struct field
<Record>.<path> of type <type>` (or `… into Go value of type <type>` outside a record). Other
failures, such as a malformed identifier, stop the reading at once and win over a remembered
mismatch.
-/

namespace CreditExtraction.Json

/-- The state of a reading: the first remembered mismatch. -/
abbrev Reader := StateT (Option String) (Except String)

/-- Where in a document a value is being read: the record type and the field path. -/
structure Place where
  record : String := ""
  path : List String := []

/-- The place of a named field below `p`. -/
def Place.field (p : Place) (name : String) : Place := { p with path := p.path ++ [name] }

/-- The name of a JSON value's kind in mismatch messages. -/
def kindName : Json → String
  | .str _ => "string"
  | .num _ => "number"
  | .bool _ => "bool"
  | .arr _ => "array"
  | .obj _ => "object"
  | .null => "null"

/-- The message of a value of kind `what` that cannot be read as `type` at `p`. -/
def mismatchMessage (p : Place) (what type : String) : String :=
  if p.record == "" || p.path.isEmpty then
    "json: cannot unmarshal " ++ what ++ " into Go value of type " ++ type
  else
    "json: cannot unmarshal " ++ what ++ " into Go struct field " ++ p.record ++ "." ++
      String.intercalate "." p.path ++ " of type " ++ type

/-- Remembers a mismatch (the first one only) and goes on with `fallback`. -/
def mismatch {α : Type} (p : Place) (what type : String) (fallback : α) : Reader α := do
  let saved ← get
  if saved.isNone then set (some (mismatchMessage p what type))
  pure fallback

/-- Stops the reading with a failure. -/
def abort {α : Type} (msg : String) : Reader α := throw msg

/-- Runs a reading; a remembered mismatch is reported at the end. -/
def Reader.run' {α : Type} (r : Reader α) : Except String α :=
  match StateT.run r none with
  | .error e => .error e
  | .ok (_, some e) => .error e
  | .ok (a, none) => .ok a

/-- Case-folded form of a field name. -/
def foldName (s : String) : String := Text.CharClass.lowerString s

/-- The value for field `name` among `members`, given the record's field names: the last
member whose key is `name`, or whose key folds to it and names no field exactly. -/
def fieldValue (fieldNames : List String) (members : List (String × Json)) (name : String) :
    Option Json :=
  members.foldl (fun acc (k, v) =>
    if k == name then some v
    else if !fieldNames.contains k && foldName k == foldName name then some v
    else acc) none

/-- Reads a string; `null` reads as `""`. -/
def decodeString (p : Place) : Json → Reader String
  | .str s => pure s
  | .null => pure ""
  | j => mismatch p (kindName j) "string" ""

/-- Reads a 64-bit float; `null` reads as `0`. -/
def decodeFloat (p : Place) : Json → Reader Float
  | .num lit => pure (numFloat lit)
  | .null => pure 0
  | j => mismatch p (kindName j) "float64" 0

/-- Reads a boolean; `null` reads as `false`. -/
def decodeBool (p : Place) : Json → Reader Bool
  | .bool b => pure b
  | .null => pure false
  | j => mismatch p (kindName j) "bool" false

/-- Reads a whole number of the given type name; a fraction or an overflow is a mismatch that
names the literal. -/
def decodeInt (p : Place) (type : String) : Json → Reader Int
  | .num lit =>
    match numInt? lit with
    | some n =>
      if n ≥ Int.pow 2 63 || n < -(Int.pow 2 63) then mismatch p ("number " ++ lit) type 0 else pure n
    | none => mismatch p ("number " ++ lit) type 0
  | .null => pure 0
  | j => mismatch p (kindName j) type 0

/-- Reads a list of values; `null` reads as no list. -/
def decodeList {α : Type} (p : Place) (type : String) (item : Json → Reader α) : Json → Reader (Option (List α))
  | .arr xs => do
    let mut out := #[]
    for x in xs do
      out := out.push (← item x)
    pure (some out.toList)
  | .null => pure none
  | j => mismatch p (kindName j) type none

/-- Reads an object's members for a record; `null` reads as no members. -/
def decodeObject (p : Place) (type : String) : Json → Reader (Option (List (String × Json)))
  | .obj ms => pure (some ms)
  | .null => pure none
  | j => mismatch p (kindName j) type none

end CreditExtraction.Json
