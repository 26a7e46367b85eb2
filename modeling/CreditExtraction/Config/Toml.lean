import CreditExtraction.Config.Setting
import CreditExtraction.Text.FloatText

/-!
# TOML documents as settings

A TOML document is read into a settings table: key/value lines, dotted keys, `[table]` and
`[[array of tables]]` headers, basic and literal strings (also on several lines), integers
(decimal, `0x`, `0o`, `0b`, with underscores) as 64-bit integers, floats (with `inf` and `nan`),
booleans, dates and times, arrays and inline tables.

A key may be defined once; a table header may not name a key already holding a value. Failures
are reported as `toml: …`.
-/

namespace CreditExtraction.Config.Toml

/-- Reading state: the characters left. -/
abbrev TomlM := StateT (List Char) (Except String)

/-- Fails with a message. -/
def tomlFail {α : Type} (msg : String) : TomlM α := throw ("toml: " ++ msg)

/-- The next character, NUL at the end. -/
def peekC : TomlM Char := do return ((← get).head?.getD '\x00')

/-- The character after the next one. -/
def peekC2 : TomlM Char := do return (((← get).drop 1).head?.getD '\x00')

/-- Drops one character. -/
def bump : TomlM Unit := modify (·.drop 1)

/-- A bare key character. -/
def isBareKeyChar (c : Char) : Bool :=
  ('0' ≤ c && c ≤ '9') || ('a' ≤ c && c ≤ 'z') || ('A' ≤ c && c ≤ 'Z') || c == '_' || c == '-'

/-- Skips spaces and tabs. -/
def skipBlanks : TomlM Unit := modify (·.dropWhile fun c => c == ' ' || c == '\t')

/-- Skips a comment up to the line end. -/
def skipComment : TomlM Unit := do
  if (← peekC) == '#' then modify (·.dropWhile fun c => c != '\n')

/-- Skips blanks, comments and line breaks. -/
def skipVertical : TomlM Unit := do
  let n := (← get).length + 1
  for _ in [0:n] do
    skipBlanks
    skipComment
    let c ← peekC
    if c == '\n' then bump
    else if c == '\r' && (← peekC2) == '\n' then
      bump
      bump
    else break

/-- The value of `\uXXXX`-style hex digits. -/
def hexDigits (cs : List Char) : Option Nat :=
  cs.foldlM (fun acc c =>
    if '0' ≤ c && c ≤ '9' then some (acc * 16 + (c.toNat - '0'.toNat))
    else if 'a' ≤ c && c ≤ 'f' then some (acc * 16 + (c.toNat - 'a'.toNat + 10))
    else if 'A' ≤ c && c ≤ 'F' then some (acc * 16 + (c.toNat - 'A'.toNat + 10))
    else none) 0

/-- Reads a basic string after its opening quote(s); `multi` for `"""`. -/
def readBasic (multi : Bool) : TomlM String := do
  let n := (← get).length + 1
  let mut out := ""
  if multi then
    if (← peekC) == '\n' then bump
    else if (← peekC) == '\r' && (← peekC2) == '\n' then
      bump
      bump
  for _ in [0:n] do
    let cs ← get
    match cs with
    | [] => tomlFail "unterminated basic string"
    | '"' :: '"' :: '"' :: rest =>
      if multi then
        -- up to two more quotes belong to the string
        match rest with
        | '"' :: '"' :: rest' =>
          set rest'
          return out ++ "\"\""
        | '"' :: rest' =>
          set rest'
          return out ++ "\""
        | _ =>
          set rest
          return out
      else
        set ('"' :: '"' :: rest)
        return out
    | '"' :: rest =>
      if multi then
        out := out.push '"'
        set rest
      else
        set rest
        return out
    | '\\' :: c :: rest =>
      if multi && (c == '\n' || c == ' ' || c == '\t' || c == '\r') then
        -- a line-ending backslash trims the following white space
        set (rest.dropWhile fun c => c == ' ' || c == '\t' || c == '\n' || c == '\r')
      else
        match c with
        | 'b' => out := out.push '\x08'; set rest
        | 't' => out := out.push '\t'; set rest
        | 'n' => out := out.push '\n'; set rest
        | 'f' => out := out.push '\x0c'; set rest
        | 'r' => out := out.push '\r'; set rest
        | 'e' => out := out.push '\x1b'; set rest
        | '"' => out := out.push '"'; set rest
        | '\\' => out := out.push '\\'; set rest
        | 'u' | 'U' =>
          let len := if c == 'u' then 4 else 8
          match hexDigits (rest.take len) with
          | some v =>
            if rest.length < len || (0xD800 ≤ v && v ≤ 0xDFFF) || v > 0x10FFFF then
              tomlFail "invalid unicode escape"
            out := out.push (Char.ofNat v)
            set (rest.drop len)
          | none => tomlFail "invalid unicode escape"
        | c => tomlFail ("invalid escaped character " ++ Text.Quoted.quoteRune c)
    | '\n' :: rest =>
      if multi then
        out := out.push '\n'
        set rest
      else tomlFail "basic strings cannot have new lines"
    | c :: rest =>
      out := out.push c
      set rest
  tomlFail "unterminated basic string"

/-- Reads a literal string after its opening quote(s); `multi` for `'''`. -/
def readLiteral (multi : Bool) : TomlM String := do
  let n := (← get).length + 1
  let mut out := ""
  if multi then
    if (← peekC) == '\n' then bump
    else if (← peekC) == '\r' && (← peekC2) == '\n' then
      bump
      bump
  for _ in [0:n] do
    let cs ← get
    match cs with
    | [] => tomlFail "unterminated literal string"
    | '\'' :: '\'' :: '\'' :: rest =>
      if multi then
        match rest with
        | '\'' :: '\'' :: rest' =>
          set rest'
          return out ++ "''"
        | '\'' :: rest' =>
          set rest'
          return out ++ "'"
        | _ =>
          set rest
          return out
      else
        set ('\'' :: '\'' :: rest)
        return out
    | '\'' :: rest =>
      if multi then
        out := out.push '\''
        set rest
      else
        set rest
        return out
    | '\n' :: rest =>
      if multi then
        out := out.push '\n'
        set rest
      else tomlFail "literal strings cannot have new lines"
    | c :: rest =>
      out := out.push c
      set rest
  tomlFail "unterminated literal string"

/-- Reads one key part: bare, basic-quoted or literal-quoted. -/
def readKeyPart : TomlM String := do
  let c ← peekC
  if c == '"' then
    bump
    readBasic false
  else if c == '\'' then
    bump
    readLiteral false
  else
    let cs ← get
    let part := cs.takeWhile isBareKeyChar
    if part.isEmpty then tomlFail ("invalid character at start of key: " ++ c.toString)
    set (cs.drop part.length)
    return String.ofList part

/-- Reads a possibly dotted key. -/
def readKey : TomlM (List String) := do
  let n := (← get).length + 1
  let mut parts : Array String := #[]
  for _ in [0:n] do
    skipBlanks
    parts := parts.push (← readKeyPart)
    skipBlanks
    if (← peekC) == '.' then bump else break
  return parts.toList

/-- Is `cs` the text of a date, a time or a date and time? -/
def datePrefix (cs : List Char) : Bool :=
  match cs with
  | a :: b :: c :: d :: '-' :: _ => [a, b, c, d].all Char.isDigit
  | a :: b :: ':' :: _ => [a, b].all Char.isDigit
  | _ => false

/-- Digits with single underscores between them. -/
def digitRun (ds : List Char) : Bool :=
  !ds.isEmpty && ds.head?.any Char.isDigit && ds.getLast?.any Char.isDigit &&
    (ds.all fun c => c.isDigit || c == '_') && !(ds.zip (ds.drop 1)).any (fun (a, b) => a == '_' && b == '_')

/-- The unsigned shape of a float: an integer part, then a fraction, an exponent or both. -/
def floatShape (cs : List Char) : Bool :=
  let intPart := cs.takeWhile fun (c : Char) => c.isDigit || c == '_'
  let rest := cs.drop intPart.length
  let (frac, rest) := match rest with
    | '.' :: r =>
      let f := r.takeWhile fun (c : Char) => c.isDigit || c == '_'
      (some f, r.drop f.length)
    | r => (none, r)
  let expo := match rest with
    | 'e' :: r | 'E' :: r => some (match r with | '+' :: d | '-' :: d => d | d => d)
    | _ => none
  let expOk := match rest, expo with
    | [], _ => true
    | _, some d => digitRun d
    | _, none => false
  digitRun intPart && (intPart.length == 1 || intPart.head? != some '0') &&
    (frac.isSome || expo.isSome) && (frac.all digitRun) && expOk

/-- Reads a number, a boolean or a date from its bare text. -/
def scalarOfText (t : String) : TomlM Setting := do
  if t == "true" then return .bool true
  if t == "false" then return .bool false
  let cs := t.toList
  if datePrefix cs then
    let hasDate := (cs.drop 4).head? == some '-'
    let hasTime := cs.contains ':'
    let zoned := hasDate && hasTime && (cs.getLast? == some 'Z' || cs.getLast? == some 'z' ||
      ((cs.drop 19).any fun c => c == '+' || c == '-'))
    let type := if zoned then "time.Time" else if hasDate && hasTime then "toml.LocalDateTime"
      else if hasDate then "toml.LocalDate" else "toml.LocalTime"
    return .time t type
  let body := match cs with
    | '+' :: rest | '-' :: rest => rest
    | cs => cs
  let neg := cs.head? == some '-'
  if body == ['i', 'n', 'f'] then return .float (if neg then Text.Float.negInf else Text.Float.posInf)
  if body == ['n', 'a', 'n'] then return .float Text.Float.quietNaN
  let digitsOnly := fun (base : Nat) (ds : List Char) =>
    !ds.isEmpty && ds.head? != some '_' && ds.getLast? != some '_' &&
      ds.all fun c => c == '_' || (match Char.toNat c with
        | n => if base == 16 then ('0' ≤ c && c ≤ '9') || ('a' ≤ c && c ≤ 'f') || ('A' ≤ c && c ≤ 'F')
               else if base == 8 then '0' ≤ c && c ≤ '7'
               else if base == 2 then c == '0' || c == '1'
               else n ≥ '0'.toNat && n ≤ '9'.toNat)
  let valueIn := fun (base : Nat) (ds : List Char) =>
    (ds.filter (· != '_')).foldl (fun acc c =>
      acc * base + (if '0' ≤ c && c ≤ '9' then c.toNat - '0'.toNat
        else if 'a' ≤ c && c ≤ 'f' then c.toNat - 'a'.toNat + 10 else c.toNat - 'A'.toNat + 10)) 0
  let int64 := fun (v : Int) => do
    if v ≥ Int.pow 2 63 || v < -(Int.pow 2 63) then tomlFail ("integer value out of range: " ++ t)
    pure (Setting.int v "int64")
  match cs with
  | '0' :: 'x' :: ds => if digitsOnly 16 ds then return ← int64 (valueIn 16 ds)
  | '0' :: 'o' :: ds => if digitsOnly 8 ds then return ← int64 (valueIn 8 ds)
  | '0' :: 'b' :: ds => if digitsOnly 2 ds then return ← int64 (valueIn 2 ds)
  | _ => pure ()
  if digitsOnly 10 body then
    if body.length > 1 && body.head? == some '0' then tomlFail ("leading zero in number " ++ t)
    let v : Int := valueIn 10 body
    return ← int64 (if neg then -v else v)
  if floatShape body then
    match Text.parseFloat64 (String.ofList (cs.filter (· != '_'))) with
    | .ok x => return .float x
    | .error _ => pure ()
  tomlFail ("invalid value " ++ Text.Quoted.quote t)

mutual
/-- Reads a value. -/
def readValue : Nat → TomlM Setting
  | 0 => tomlFail "value nested too deeply"
  | fuel + 1 => do
    let cs ← get
    match cs with
    | '"' :: '"' :: '"' :: rest =>
      set rest
      return .str (← readBasic true)
    | '"' :: rest =>
      set rest
      return .str (← readBasic false)
    | '\'' :: '\'' :: '\'' :: rest =>
      set rest
      return .str (← readLiteral true)
    | '\'' :: rest =>
      set rest
      return .str (← readLiteral false)
    | '[' :: rest =>
      set rest
      readArray fuel
    | '{' :: rest =>
      set rest
      readInline fuel
    | _ =>
      let text := cs.takeWhile fun c =>
        !(c == ',' || c == ']' || c == '}' || c == '\n' || c == '\r' || c == '#' || c == '\t' ||
          (c == ' ' && !datePrefix cs))
      -- a date and time may hold one space between them
      let text := if datePrefix cs then
          let t := cs.takeWhile fun c => !(c == ',' || c == ']' || c == '}' || c == '\n' || c == '\r' || c == '#')
          (String.ofList t).trimAsciiEnd.toString.toList
        else text
      if text.isEmpty then tomlFail "expected a value"
      set (cs.drop text.length)
      scalarOfText (String.ofList text)

/-- Reads the items of an array after its `[`. -/
def readArray : Nat → TomlM Setting
  | 0 => tomlFail "value nested too deeply"
  | fuel + 1 => do
    let n := (← get).length + 1
    let mut items : Array Setting := #[]
    for _ in [0:n] do
      skipVertical
      if (← peekC) == ']' then
        bump
        return .list items.toList
      items := items.push (← readValue fuel)
      skipVertical
      let c ← peekC
      if c == ',' then bump
      else if c == ']' then
        bump
        return .list items.toList
      else tomlFail "expected comma or closing bracket in array"
    tomlFail "unterminated array"

/-- Reads the members of an inline table after its `{`. -/
def readInline : Nat → TomlM Setting
  | 0 => tomlFail "value nested too deeply"
  | fuel + 1 => do
    let n := (← get).length + 1
    let mut members : List (String × Setting) := []
    skipBlanks
    if (← peekC) == '}' then
      bump
      return .table []
    for _ in [0:n] do
      let key ← readKey
      skipBlanks
      if (← peekC) != '=' then tomlFail "expected character ="
      bump
      skipBlanks
      let v ← readValue fuel
      members ← match setPath members key v with
        | .ok ms => pure ms
        | .error e => tomlFail e
      skipBlanks
      let c ← peekC
      if c == ',' then
        bump
        skipBlanks
      else if c == '}' then
        bump
        return .table members
      else tomlFail "expected comma or closing brace in inline table"
    tomlFail "unterminated inline table"

/-- Sets a value at a dotted key path in a table; a key already set is a failure. -/
def setPath (ms : List (String × Setting)) (path : List String) (v : Setting) :
    Except String (List (String × Setting)) :=
  match path with
  | [] => .ok ms
  | [k] =>
    if ms.any (·.1 == k) then .error ("key " ++ k ++ " is already defined") else .ok (ms ++ [(k, v)])
  | k :: rest =>
    match ms.find? (·.1 == k) with
    | some (_, .table sub) => do
      let sub' ← setPath sub rest v
      .ok (Setting.setMember ms k (.table sub'))
    | some _ => .error ("key " ++ k ++ " is already defined")
    | none => do
      let sub' ← setPath [] rest v
      .ok (ms ++ [(k, .table sub')])
end

/-- The table at a path, for a `[table]` header: created when missing; the last table of an
array of tables is entered. -/
def enterTable (ms : List (String × Setting)) (path : List String) (arrayItem : Bool) :
    Except String (List (String × Setting)) :=
  match path with
  | [] => .ok ms
  | [k] =>
    match ms.find? (·.1 == k) with
    | none => .ok (ms ++ [(k, if arrayItem then .list [.table []] else .table [])])
    | some (_, .list items) =>
      if arrayItem then .ok (Setting.setMember ms k (.list (items ++ [.table []])))
      else .error ("table " ++ k ++ " already exists")
    | some (_, .table _) =>
      if arrayItem then .error ("key " ++ k ++ " is already defined") else .ok ms
    | some _ => .error ("key " ++ k ++ " is already defined")
  | k :: rest =>
    match ms.find? (·.1 == k) with
    | none => do
      let sub ← enterTable [] rest arrayItem
      .ok (ms ++ [(k, .table sub)])
    | some (_, .table sub) => do
      let sub' ← enterTable sub rest arrayItem
      .ok (Setting.setMember ms k (.table sub'))
    | some (_, .list items) =>
      match items.getLast? with
      | some (.table sub) => do
        let sub' ← enterTable sub rest arrayItem
        .ok (Setting.setMember ms k (.list (items.dropLast ++ [.table sub'])))
      | _ => .error ("key " ++ k ++ " is already defined")
    | some _ => .error ("key " ++ k ++ " is already defined")

/-- Sets a value below the current table path (entering the last item of arrays of tables). -/
def setBelow (ms : List (String × Setting)) (table : List String) (key : List String) (v : Setting) :
    Except String (List (String × Setting)) :=
  match table with
  | [] => setPath ms key v
  | k :: rest =>
    match ms.find? (·.1 == k) with
    | some (_, .table sub) => do
      let sub' ← setBelow sub rest key v
      .ok (Setting.setMember ms k (.table sub'))
    | some (_, .list items) =>
      match items.getLast? with
      | some (.table sub) => do
        let sub' ← setBelow sub rest key v
        .ok (Setting.setMember ms k (.list (items.dropLast ++ [.table sub'])))
      | _ => .error ("key " ++ k ++ " is already defined")
    | _ => .error ("key " ++ k ++ " is already defined")

/-- Reads a TOML document as the top table of settings. -/
def readSettings (s : String) : Except String (List (String × Setting)) :=
  let run : TomlM (List (String × Setting)) := do
    let n := (← get).length + 1
    let depth := n
    let mut top : List (String × Setting) := []
    let mut current : List String := []
    for _ in [0:n] do
      skipVertical
      let c ← peekC
      if c == '\x00' && (← get).isEmpty then break
      if c == '[' then
        bump
        let arrayItem := (← peekC) == '['
        if arrayItem then bump
        let path ← readKey
        if (← peekC) != ']' then tomlFail "expected ] to close table header"
        bump
        if arrayItem then
          if (← peekC) != ']' then tomlFail "expected ]] to close array table header"
          bump
        top ← match enterTable top path arrayItem with
          | .ok ms => pure ms
          | .error e => tomlFail e
        current := path
      else
        let key ← readKey
        skipBlanks
        if (← peekC) != '=' then tomlFail "expected character ="
        bump
        skipBlanks
        let v ← readValue depth
        top ← match setBelow top current key v with
          | .ok ms => pure ms
          | .error e => tomlFail e
      skipBlanks
      skipComment
      let c ← peekC
      if !(c == '\n' || c == '\r' || c == '\x00') then
        tomlFail ("expected newline but got " ++ Text.Quoted.quoteRune c)
    return top
  run.run' s.toList

end CreditExtraction.Config.Toml
