import CreditExtraction.Config.Setting
import CreditExtraction.Text.FloatText
import CreditExtraction.Text.Quoted

/-!
# Reading records out of settings trees

Settings are read into records loosely, the way configuration readers usually do:

* text takes strings, and also booleans (`1`/`0`), integers and floats (in positional
  notation);
* a float takes numbers, booleans (1/0) and texts that read as floats (an empty text is 0);
* a boolean takes booleans, numbers (non-zero is true) and the texts `1`, `t`, `true`, `0`,
  `f`, `false` in their usual cases (an empty text is false);
* a list takes lists; an empty table is an empty list; a list of texts also takes one text,
  split at commas; any other single value becomes a one-item list;
* a record takes a table, matching member names with case ignored;
* a missing or null setting leaves the target as it was.

Reading goes on after a failure: every failure is collected with the path of the setting
(`'fields[0].rule.min' cannot parse value as 'float64': …`), and a reading with failures
reports them all, one per line, under `decoding failed due to the following error(s):`.
-/

namespace CreditExtraction.Config

/-- A value read, with the failures met on the way. -/
abbrev Decoded (α : Type) := α × List String

/-- A failure at a setting path. -/
def failureAt (name msg : String) : String := "'" ++ name ++ "' " ++ msg

/-- A value of a kind the target cannot take. -/
def unconvertible (name expected : String) (v : Setting) : String :=
  failureAt name ("expected type '" ++ expected ++ "', got unconvertible type '" ++ v.typeName ++ "'")

/-- A text the target cannot read. -/
def unparsable (name expected reader : String) (range : Bool) : String :=
  failureAt name ("cannot parse value as '" ++ expected ++ "': strconv." ++ reader ++ ": " ++
    (if range then "value out of range" else "invalid syntax"))

/-- The path of a member below `name`. -/
def memberPath (name key : String) : String := if name == "" then key else name ++ "." ++ key

/-- Reads text. -/
def asText (name : String) : Setting → Except String String
  | .str s => .ok s
  | .bool b => .ok (if b then "1" else "0")
  | .int n _ => .ok (toString n)
  | .float x => .ok (Text.showFloat x)
  | v => .error (unconvertible name "string" v)

/-- Reads a 64-bit float. -/
def asFloat (name : String) : Setting → Except String Float
  | .int n _ => .ok (Float.ofInt n)
  | .float x => .ok x
  | .bool b => .ok (if b then 1 else 0)
  | .str s =>
    match Text.readFloat .binary64 (if s == "" then "0" else s) with
    | .ok x => .ok x
    | .error (e, _) => .error (unparsable name "float64" "ParseFloat" (e == .range))
  | v => .error (unconvertible name "float64" v)

/-- The boolean a text names. -/
def boolOfText? : String → Option Bool
  | "1" | "t" | "T" | "TRUE" | "true" | "True" => some true
  | "0" | "f" | "F" | "FALSE" | "false" | "False" => some false
  | _ => none

/-- Reads a boolean. -/
def asBool (name : String) : Setting → Except String Bool
  | .bool b => .ok b
  | .int n _ => .ok (n != 0)
  | .float x => .ok (x != 0)
  | .str s =>
    match boolOfText? s with
    | some b => .ok b
    | none => if s == "" then .ok false else .error (unparsable name "bool" "ParseBool" false)
  | v => .error (unconvertible name "bool" v)

/-- Reads a scalar member that may be absent: absence and null keep `current`, a failure keeps
it too and is collected. -/
def scalar {α : Type} (read : String → Setting → Except String α) (name : String) (current : α) :
    Option Setting → Decoded α
  | none | some .null => (current, [])
  | some v =>
    match read name v with
    | .ok a => (a, [])
    | .error e => (current, [e])

/-- Reads an optional scalar member: absence and null leave it out. -/
def optional {α : Type} (read : String → Setting → Except String α) (name : String) :
    Option Setting → Decoded (Option α)
  | none | some .null => (none, [])
  | some v =>
    match read name v with
    | .ok a => (some a, [])
    | .error e => (none, [e])

/-- The members of a table a record is read from; other values cannot be read as records. -/
def recordMembers (name : String) : Setting → Except String (List (String × Setting))
  | .table ms => .ok ms
  | .time _ _ => .ok []
  | v => .error (failureAt name ("expected a map or struct, got " ++ Text.Quoted.quote v.kindName))

/-- The member for a record field: by its exact key, else by its key with case ignored. -/
def member (ms : List (String × Setting)) (key : String) : Option Setting :=
  match ms.find? (·.1 == key) with
  | some (_, v) => some v
  | none =>
    (ms.find? fun (k, _) => Text.CharClass.lowerString k == Text.CharClass.lowerString key).map (·.2)

/-- The items a list is read from (see the module comment); `splitText` is set for a list of
texts. `none` is an absent list. -/
def listItems (splitText : Bool) : Setting → Option (List Setting)
  | .null => none
  | .list xs => some xs
  | .table [] => some []
  | .str s => if splitText then some (if s == "" then [] else (s.splitOn ",").map .str) else some [.str s]
  | v => some [v]

/-- Reads every item of a list with its index path, collecting the failures. -/
def readItems {α : Type} (name : String) (read : String → Setting → Decoded α) (xs : List Setting) :
    Decoded (List α) :=
  let results := xs.zipIdx.map fun (x, i) => read (name ++ "[" ++ toString i ++ "]") x
  (results.map (·.1), results.flatMap (·.2))

/-- Reads a list member that may be absent (`none` when absent or null). -/
def listMember {α : Type} (splitText : Bool) (read : String → Setting → Decoded α) (name : String) :
    Option Setting → Decoded (Option (List α))
  | none => (none, [])
  | some v =>
    match listItems splitText v with
    | none => (none, [])
    | some xs =>
      let (items, errs) := readItems name read xs
      (some items, errs)

/-- The message of a reading that met failures. -/
def decodingFailed (errs : List String) : String :=
  "decoding failed due to the following error(s):\n\n" ++ "\n".intercalate errs

end CreditExtraction.Config
