import CreditExtraction.Log.Record
import CreditExtraction.Text.CharClass
import CreditExtraction.Text.Quoted
import CreditExtraction.Text.FloatText
import CreditExtraction.Text.Integer

/-!
# Writing log records

The log is written one record per line, as text or as JSON, keeping the records at or above a
level.

## Levels

A level is named `debug`, `info`, `warn` or `error` in any case, optionally followed by a signed
offset (`info+2`); a name that does not read keeps the default, `info`.

## Text

A text line is `level=<LEVEL> msg=<message>` followed by ` key=value` for every attribute, with
no time. A key or a text value is written as it is unless it is empty or holds a space, `=`,
`"`, a control character or a character that is not printable, in which case it is written as a
quoted literal. Integers are written in decimal, floats in their shortest general form (`1.5`,
`1e+21`), truth values as `true` and `false`, a missing value as `<nil>`, and a nested document
the way a dynamic value prints: `map[k:v …]` with sorted keys, `[a b]` for a list.

## JSON

A JSON line is an object with `time`, `level`, `msg` and then every attribute. Texts are JSON
strings in which `<`, `>` and `&` stay as they are; floats and nested documents are written as
JSON with sorted object keys.
-/

namespace CreditExtraction.Log

open Text

/-- The output formats of the log. -/
inductive Format where
  | text
  | json
deriving DecidableEq, Inhabited

/-- The format a name chooses: JSON for `json` in any case, text otherwise. -/
def Format.ofName (s : String) : Format :=
  if CharClass.equalFold s "json" then .json else .text

/-- The rank of a level name, with an optional signed offset, if it reads. -/
def levelRank? (s : String) : Option Int :=
  let cs := s.toList
  let (name, offset) := match cs.findIdx? (fun c => c == '+' || c == '-') with
    | some i => (String.ofList (cs.take i), some (String.ofList (cs.drop i)))
    | none => (s, none)
  let base : Option Int := match CharClass.upperString name with
    | "DEBUG" => some (-4)
    | "INFO" => some 0
    | "WARN" => some 4
    | "ERROR" => some 8
    | _ => none
  match offset with
  | none => base
  | some o => do
    let n ← parseDecimal o 64
    let b ← base
    pure (b + n)

/-- The lowest rank a log keeps for a level name; `info` when the name does not read. -/
def levelThreshold (name : String) : Int := (levelRank? name).getD 0

/-- Does a text have to be quoted in a text line? -/
def needsQuoting (s : String) : Bool :=
  s.isEmpty || s.toList.any fun c =>
    if c.toNat < 0x80 then c == ' ' || c == '=' || c == '"' || c.toNat < 0x20 || c.toNat == 0x7f
    else c.toNat == 0xFFFD || CharClass.isSpace c || !CharClass.isPrint c

/-- A text as written in a text line. -/
def textToken (s : String) : String := if needsQuoting s then Quoted.quote s else s

mutual
/-- A dynamic value as it prints: the fewest digits for numbers, `<nil>` for nothing, lists
in brackets and objects as `map[…]` with sorted keys. -/
def showDynamic : Json → String
  | .null => "<nil>"
  | .bool b => toString b
  | .num lit => formatGeneral (Json.numFloat lit)
  | .str s => s
  | .arr items => "[" ++ " ".intercalate (showItems items) ++ "]"
  | .obj members =>
    "map[" ++ " ".intercalate (((showMembers members).mergeSort fun a b => a.1 ≤ b.1).map
      fun (k, v) => k ++ ":" ++ v) ++ "]"

/-- The printed items of a list. -/
def showItems : List Json → List String
  | [] => []
  | j :: rest => showDynamic j :: showItems rest

/-- The printed members of an object. -/
def showMembers : List (String × Json) → List (String × String)
  | [] => []
  | (k, v) :: rest => (k, showDynamic v) :: showMembers rest
end

/-- The text of a value in a text line, before quoting. -/
def Value.shown : Value → String
  | .text s => s
  | .int n => toString n
  | .float x => formatGeneral x
  | .bool b => toString b
  | .none => "<nil>"
  | .doc j => showDynamic j

/-- The text line of a record. -/
def textLine (r : Record) : String :=
  let attrs := r.attrs.map fun (k, v) => " " ++ textToken k ++ "=" ++ textToken v.shown
  "level=" ++ r.level.name ++ " msg=" ++ textToken r.msg ++ String.join attrs ++ "\n"

/-- The escaped form of one character in a JSON string of the log: `<`, `>` and `&` kept,
other control characters as `\u00XX`. -/
def logEscape (c : Char) : List Char :=
  match c with
  | '"' => ['\\', '"']
  | '\\' => ['\\', '\\']
  | '\n' => ['\\', 'n']
  | '\r' => ['\\', 'r']
  | '\t' => ['\\', 't']
  | _ =>
    if c.toNat < 0x20 || c.toNat == 0x2028 || c.toNat == 0x2029 then '\\' :: 'u' :: Quoted.hexFixed 4 c.toNat
    else [c]

/-- A JSON string of the log. -/
def logString (s : String) : String := String.ofList ('"' :: s.toList.flatMap logEscape ++ ['"'])

/-- The escaped form of one character in a nested document: as in the log's own strings, but
with `\b` and `\f`. -/
def docEscape (c : Char) : List Char :=
  match c with
  | '\x08' => ['\\', 'b']
  | '\x0c' => ['\\', 'f']
  | c => logEscape c

/-- A string of a nested document. -/
def docString (s : String) : String := String.ofList ('"' :: s.toList.flatMap docEscape ++ ['"'])

mutual
/-- A nested document as JSON, object keys sorted and numbers as floats. -/
def docJson : Json → String
  | .null => "null"
  | .bool b => toString b
  | .num lit => jsonNumberText .binary64 (Json.numFloat lit)
  | .str s => docString s
  | .arr items => "[" ++ ",".intercalate (docItems items) ++ "]"
  | .obj members =>
    "\x7b" ++ ",".intercalate (((docMembers members).mergeSort fun a b => a.1 ≤ b.1).map
      fun (k, v) => docString k ++ ":" ++ v) ++ "\x7d"

/-- The JSON items of a list. -/
def docItems : List Json → List String
  | [] => []
  | j :: rest => docJson j :: docItems rest

/-- The JSON members of an object. -/
def docMembers : List (String × Json) → List (String × String)
  | [] => []
  | (k, v) :: rest => (k, docJson v) :: docMembers rest
end

/-- A value as JSON in a log line. -/
def Value.json : Value → String
  | .text s => logString s
  | .int n => toString n
  | .float x => jsonNumberText .binary64 x
  | .bool b => toString b
  | .none => "null"
  | .doc j => docJson j

/-- The JSON line of a record written at a time. -/
def jsonLine (time : String) (r : Record) : String :=
  let attrs := r.attrs.map fun (k, v) => "," ++ logString k ++ ":" ++ v.json
  "\x7b\"time\":" ++ logString time ++ ",\"level\":" ++ logString r.level.name ++ ",\"msg\":" ++
    logString r.msg ++ String.join attrs ++ "\x7d\n"

/-- A log: its format and the lowest rank it keeps. -/
structure Handler where
  format : Format
  threshold : Int
deriving Inhabited

/-- The log a format name and a level name choose. -/
def Handler.ofNames (format level : String) : Handler := ⟨Format.ofName format, levelThreshold level⟩

/-- What a log writes for a record at a time: its line, or nothing when the record's level is
below the log's. -/
def Handler.write (h : Handler) (time : String) (r : Record) : String :=
  if r.level.rank < h.threshold then ""
  else match h.format with
    | .text => textLine r
    | .json => jsonLine time r

end CreditExtraction.Log
