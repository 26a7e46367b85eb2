import CreditExtraction.Config.Setting
import CreditExtraction.Config.Toml
import CreditExtraction.Yaml.Document

/-!
# Reading configuration text

A configuration is read from its text and the name of its format. The format is compared
with case ignored. The formats with a reader are YAML (`yaml`, `yml`), JSON, TOML and dotenv
(`dotenv`, `env`); the other known formats (`properties`, `props`, `prop`, `hcl`, `tfvars`,
`ini`) have none, and any other name is refused outright.

The result is the top table with every key lower-cased and dotted top-level keys spread into
nested tables (`Setting.settings`). A failure of the reader is reported as
`While parsing config: <reason>`.
-/

namespace CreditExtraction.Config

/-- The format names a configuration may have. -/
def knownFormats : List String :=
  ["json", "toml", "yaml", "yml", "properties", "props", "prop", "hcl", "tfvars", "dotenv", "env", "ini"]

/-- The message of a format that is not known. -/
def unsupportedFormat (format : String) : String :=
  "Unsupported Config Type " ++ Text.Quoted.quote format

/-- The top table of a JSON document: an object, or nothing for `null`. -/
def readJsonTable (data : String) : Except String (List (String × Setting)) := do
  let j ← Json.parse data
  match j with
  | .null => pure []
  | .obj _ =>
    match ← Setting.ofJson j with
    | .table ms => pure ms
    | _ => pure []
  | other =>
    let kind := match other with
      | .arr _ => "array"
      | .str _ => "string"
      | .num _ => "number"
      | _ => "bool"
    throw ("json: cannot unmarshal " ++ kind ++ " into Go value of type map[string]interface \x7b\x7d")

/-- Is `c` a character of a dotenv key? -/
def isEnvKeyChar (c : Char) : Bool := c.isAlphanum || c == '_' || c == '.'

/-- Reads the value part of a dotenv line: a quoted value loses its quotes (and a double-quoted
one its escapes); an unquoted one ends before a comment. -/
def envValue (v : String) : String :=
  let cs := v.toList
  match cs with
  | '"' :: rest =>
    let body := (rest.reverse.dropWhile (· != '"')).drop 1 |>.reverse
    let rec unescape : List Char → List Char
      | '\\' :: 'n' :: more => '\n' :: unescape more
      | '\\' :: 'r' :: more => '\r' :: unescape more
      | '\\' :: c :: more => if c == '$' then '\\' :: '$' :: unescape more else c :: unescape more
      | c :: more => c :: unescape more
      | [] => []
    String.ofList (unescape body)
  | '\'' :: rest => String.ofList ((rest.reverse.dropWhile (· != '\'')).drop 1 |>.reverse)
  | _ => (String.ofList (cs.takeWhile (· != '#'))).trimAscii.toString

/-- Reads a dotenv file: one `KEY=value` (or `KEY: value`) per line, an optional `export`
before the key, blank lines and `#` comments skipped. -/
def readEnvTable (data : String) : Except String (List (String × Setting)) := do
  let mut out : List (String × Setting) := []
  for raw in data.splitOn "\n" do
    let line := raw.trimAscii.toString
    if line == "" || line.startsWith "#" then continue
    let line := if line.startsWith "export " then (line.drop 7).trimAscii.toString else line
    let key := String.ofList (line.toList.takeWhile isEnvKeyChar)
    let rest := (String.ofList (line.toList.drop key.length)).trimAsciiStart.toString
    let value ← if key == "" then throw ("line " ++ "\x60" ++ raw.trimAscii.toString ++ "\x60 doesn't match format")
      else if rest.startsWith "=" then pure (envValue (rest.drop 1).trimAscii.toString)
      else if rest.startsWith ":" then pure (envValue (rest.drop 1).trimAscii.toString)
      else throw ("line " ++ "\x60" ++ raw.trimAscii.toString ++ "\x60 doesn't match format")
    out := Setting.setMember out key (.str value)
  pure out

/-- The reader of a lower-cased format, if it has one. -/
def readerOf (format : String) : Option (String → Except String (List (String × Setting))) :=
  if format == "yaml" || format == "yml" then some Yaml.readSettings
  else if format == "json" then some readJsonTable
  else if format == "toml" then some Toml.readSettings
  else if format == "dotenv" || format == "env" then some readEnvTable
  else none

/-- Reads a configuration text of the given format (see the module comment). -/
def readConfig (format data : String) : Except String (List (String × Setting)) := do
  let format := Text.CharClass.lowerString format
  if format == "" then throw "cannot decode configuration: unable to determine config type"
  if !knownFormats.contains format then throw (unsupportedFormat format)
  let some read := readerOf format
    | throw "While parsing config: decoder not found for this format"
  match read data with
  | .ok top => pure (Setting.settings (Setting.foldMembers top))
  | .error e => throw ("While parsing config: " ++ e)

/-- The format a file name gives: what follows its last dot, when that is more than the dot. -/
def formatOfPath (path : String) : String :=
  let base := (path.splitOn "/").getLast?.getD ""
  match (base.splitOn ".") with
  | [_] => ""
  | parts => parts.getLast?.getD ""

/-- Reads a configuration file. The format its name gives must be known as written; `contents`
finds a file's text, and a missing file is reported as the failed open. -/
def readConfigFile (path : String) (contents : String → Option String) :
    Except String (List (String × Setting)) := do
  let format := formatOfPath path
  if !knownFormats.contains format then throw (unsupportedFormat format)
  let some data := contents path
    | throw ("open " ++ path ++ ": no such file or directory")
  readConfig format data

end CreditExtraction.Config
