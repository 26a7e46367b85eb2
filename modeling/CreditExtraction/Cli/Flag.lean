import CreditExtraction.Time.Duration
import CreditExtraction.Text.Quoted

/-!
# Command-line flags

A flag has a long name, at most one short letter, a usage text and a default value, whose
kind fixes how the flag's text is read:

* a text is taken as it is;
* a list of texts is read as one line of comma-separated values, double quotes protecting
  commas; the first setting replaces the default and later ones append;
* an integer is read with its base taken from a prefix (`0x`, `0o`, `0b`, or a leading `0`
  for octal), underscores allowed between digits only then, within 64 bits;
* a switch is read from `1 t T true TRUE True` or `0 f F false FALSE False`, and stands
  alone on the command line, meaning `true`;
* a duration is read as a duration text (`500ms`, `1h30m`).

A text that does not read fails the way the reader says, for example
`strconv.ParseInt: parsing "x": invalid syntax`.
-/

namespace CreditExtraction.Cli

/-- The value of a flag. -/
inductive FlagValue where
  | text (s : String)
  | texts (xs : List String)
  | integer (n : Int)
  | switch (b : Bool)
  | duration (d : Time.Duration)
deriving Inhabited, BEq

/-- A flag: its long name, its short letter, its default and its usage text. -/
structure Flag where
  name : String
  short : Option Char
  default : FlagValue
  usage : String
deriving Inhabited

/-- A text flag. -/
def Flag.text (name : String) (short : Option Char) (dflt usage : String) : Flag :=
  ⟨name, short, .text dflt, usage⟩

/-- A switch that is off unless given. -/
def Flag.switch (name : String) (usage : String) : Flag := ⟨name, none, .switch false, usage⟩

/-- The name of a value's kind in a usage line; a switch has none. -/
def FlagValue.typeName : FlagValue → String
  | .text _ => "string"
  | .texts _ => "strings"
  | .integer _ => "int"
  | .switch _ => ""
  | .duration _ => "duration"

/-- Does a switch stand alone on the command line? -/
def FlagValue.isSwitch : FlagValue → Bool
  | .switch _ => true
  | _ => false

/-- A value as a default is shown: lists in brackets, durations in their canonical text. -/
def FlagValue.shown : FlagValue → String
  | .text s => s
  | .texts xs => "[" ++ ",".intercalate xs ++ "]"
  | .integer n => toString n
  | .switch b => if b then "true" else "false"
  | .duration d => Time.durationText d

/-- Is the value the zero of its kind, a default not worth showing? -/
def FlagValue.isZero : FlagValue → Bool
  | .text s => s.isEmpty
  | .texts xs => xs.isEmpty
  | .integer n => n == 0
  | .switch b => !b
  | .duration d => d == 0

/-- The text of a value, when it is a text. -/
def FlagValue.asText : FlagValue → String
  | .text s => s
  | _ => ""

/-- The texts of a value, when it is a list of texts. -/
def FlagValue.asTexts : FlagValue → List String
  | .texts xs => xs
  | _ => []

/-- The integer of a value, when it is one. -/
def FlagValue.asInt : FlagValue → Int
  | .integer n => n
  | _ => 0

/-- The truth of a value, when it is a switch. -/
def FlagValue.asBool : FlagValue → Bool
  | .switch b => b
  | _ => false

/-- The duration of a value, when it is one. -/
def FlagValue.asDuration : FlagValue → Time.Duration
  | .duration d => d
  | _ => 0

/-! ## Reading integers -/

/-- The value of a digit character in bases up to 36. -/
def digitValue (c : Char) : Option Nat :=
  if '0' ≤ c && c ≤ '9' then some (c.toNat - 48)
  else
    let l := c.toLower
    if 'a' ≤ l && l ≤ 'z' then some (l.toNat - 87) else none

/-- The base of an unsigned numeral and the digits after its prefix. -/
def basePrefix : List Char → Nat × List Char
  | '0' :: p :: d :: rest =>
    match p.toLower with
    | 'b' => (2, d :: rest)
    | 'o' => (8, d :: rest)
    | 'x' => (16, d :: rest)
    | _ => (8, p :: d :: rest)
  | '0' :: rest => (8, rest)
  | cs => (10, cs)

/-- Are the underscores of a numeral (sign and prefix included) each between digits? -/
def underscoresFit (cs : List Char) : Bool :=
  let cs := match cs with
    | '-' :: r | '+' :: r => r
    | r => r
  let (start, hex, cs) := match cs with
    | '0' :: p :: r =>
      let l := p.toLower
      if l == 'b' || l == 'o' || l == 'x' then ('0', l == 'x', r) else ('^', false, '0' :: p :: r)
    | r => ('^', false, r)
  let last := cs.foldl (fun (saw : Char) (c : Char) =>
    if saw == '✗' then saw
    else if c.isDigit || (hex && 'a' ≤ c.toLower && c.toLower ≤ 'f') then '0'
    else if c == '_' then (if saw == '0' then '_' else '✗')
    else if saw == '_' then '✗'
    else '!') start
  last != '_' && last != '✗'

/-- Why a numeral does not read. -/
inductive NumeralFault where
  | malformed
  | range

/-- Reads unsigned digits in a base, stopping at the first fault; underscores are skipped
when allowed. -/
def readDigits (base : Nat) (underscores : Bool) (limit : Nat) :
    List Char → Nat → Except NumeralFault Nat
  | [], n => .ok n
  | c :: rest, n =>
    if c == '_' && underscores then readDigits base underscores limit rest n
    else match digitValue c with
      | none => .error .malformed
      | some d =>
        if d ≥ base then .error .malformed
        else
          let n' := n * base + d
          if n' > limit then .error .range else readDigits base underscores limit rest n'

/-- Reads an integer of 64 bits whose base is given by its prefix (see the module comment). -/
def parseIntegerAnyBase (s : String) : Except String Int :=
  let fail (why : String) : Except String Int :=
    .error ("strconv.ParseInt: parsing " ++ Text.Quoted.quote s ++ ": " ++ why)
  let (neg, body) := match s.toList with
    | '-' :: r => (true, r)
    | '+' :: r => (false, r)
    | r => (false, r)
  if body.isEmpty then fail "invalid syntax"
  else
    let (base, digits) := basePrefix body
    match readDigits base true (Nat.pow 2 64 - 1) digits 0 with
    | .error .malformed => fail "invalid syntax"
    | .error .range => fail "value out of range"
    | .ok n =>
      if body.contains '_' && !underscoresFit body then fail "invalid syntax"
      else if !neg && n ≥ Nat.pow 2 63 then fail "value out of range"
      else if neg && n > Nat.pow 2 63 then fail "value out of range"
      else .ok (if neg then -(n : Int) else n)

/-- Reads a truth value. -/
def parseTruth (s : String) : Except String Bool :=
  if ["1", "t", "T", "true", "TRUE", "True"].contains s then .ok true
  else if ["0", "f", "F", "false", "FALSE", "False"].contains s then .ok false
  else .error ("strconv.ParseBool: parsing " ++ Text.Quoted.quote s ++ ": invalid syntax")

/-! ## Reading lists -/

/-- A fault of a comma-separated line, at a column counted from one. -/
def csvFault (column : Nat) (what : String) : String :=
  "parse error on line 1, column " ++ toString column ++ ": " ++ what

/-- Reads the fields of one comma-separated line; `col` is the column of the next character
and `field` the field read so far. -/
def csvFields : List Char → Nat → List Char → List String → Except String (List String)
  | [], _, field, acc => .ok (acc ++ [String.ofList field.reverse])
  | ',' :: rest, col, field, acc => csvFields rest (col + 1) [] (acc ++ [String.ofList field.reverse])
  | '"' :: rest, col, [], acc => csvQuoted rest (col + 1) [] acc
  | '"' :: _, col, _, _ => .error (csvFault col "bare \" in non-quoted field")
  | c :: rest, col, field, acc => csvFields rest (col + 1) (c :: field) acc
where
  /-- Reads a quoted field up to its closing quote. -/
  csvQuoted : List Char → Nat → List Char → List String → Except String (List String)
    | [], col, _, _ => .error (csvFault col "extraneous or missing \" in quoted-field")
    | '"' :: '"' :: rest, col, field, acc => csvQuoted rest (col + 2) ('"' :: field) acc
    | '"' :: [], _, field, acc => .ok (acc ++ [String.ofList field.reverse])
    | '"' :: ',' :: rest, col, field, acc => csvFields rest (col + 2) [] (acc ++ [String.ofList field.reverse])
    | '"' :: _ :: _, col, _, _ => .error (csvFault (col + 1) "extraneous or missing \" in quoted-field")
    | c :: rest, col, field, acc => csvQuoted rest (col + 1) (c :: field) acc

/-- Reads a list of texts from one comma-separated line; the empty text is the empty list. -/
def parseTextList (s : String) : Except String (List String) :=
  if s.isEmpty then .ok [] else csvFields s.toList 1 [] []

/-- A flag's value after reading a text for it; `changed` tells whether it was set before on
this command line. -/
def FlagValue.set (current : FlagValue) (changed : Bool) (s : String) : Except String FlagValue :=
  match current with
  | .text _ => .ok (.text s)
  | .texts xs => do
    let ys ← parseTextList s
    pure (.texts (if changed then xs ++ ys else ys))
  | .integer _ => .integer <$> parseIntegerAnyBase s
  | .switch _ => .switch <$> parseTruth s
  | .duration _ => .duration <$> Time.parseDuration s

/-- The name of a flag in messages: `-t, --type` when it has a short letter, else `--name`. -/
def Flag.shownName (f : Flag) : String :=
  match f.short with
  | some c => "-" ++ c.toString ++ ", --" ++ f.name
  | none => "--" ++ f.name

end CreditExtraction.Cli
