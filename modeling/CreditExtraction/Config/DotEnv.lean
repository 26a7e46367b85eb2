import CreditExtraction.Text.Quoted

/-!
# Environment files

An environment file sets variables, one statement at a time:

* blank space and lines starting with `#` between statements are skipped;
* a statement is `[export ]NAME=value` (or `NAME: value`), the name made of letters, digits,
  `_` and `.`; any other character in a name fails the file as
  ``unexpected character "<c>" in variable name near "<rest>"``;
* a value in single quotes is taken as written; one in double quotes has `\n` and `\r`
  turned into line breaks, other escaped characters unescaped, and variables expanded; an
  unquoted value runs to the end of the line, loses a comment that starts with a `#` after
  white space, is trimmed, and has its variables expanded;
* `$NAME` and `${NAME}` expand to the value the file set before, or else the value in the
  environment, or else nothing; `\$` keeps the dollar sign.

Loading a file sets only the variables that are not set yet, so the environment and the
files loaded earlier win.
-/

namespace CreditExtraction.Config

/-- White space within a statement (line breaks excluded). -/
def isBlank (c : Char) : Bool :=
  c == '\t' || c == '\x0b' || c == '\x0c' || c == '\r' || c == ' ' || c == '\x85' || c == '\xa0'

/-- Can a byte of a variable name stand there? Names are checked byte by byte, each byte read
as the character of the same number: a letter or digit of Latin-1, `_`, `.` or a blank. So a
non-ASCII letter passes only when every byte of its encoding does (`ü` does, `Ä` does not). -/
def isNameByte (b : Nat) : Bool :=
  b == 0x5F || b == 0x2E || b == 0x09 || b == 0x0B || b == 0x0C || b == 0x0D || b == 0x20 ||
    b == 0x85 || b == 0xA0 ||
    let cat := Text.UnicodeData.generalCategory b
    cat.startsWith "L" || cat.startsWith "N"

/-- Can a character appear in a variable name: do all the bytes of its encoding? -/
def isNameChar (c : Char) : Bool := c.toString.toUTF8.toList.all fun b => isNameByte b.toNat

/-- Skips white space, line breaks and comment lines up to the next statement; `none` at the
end. -/
def statementStart : Nat → List Char → Option (List Char)
  | 0, _ => none
  | fuel + 1, cs =>
    match cs.dropWhile Text.CharClass.isSpace with
    | [] => none
    | '#' :: rest =>
      match rest.dropWhile (· != '\n') with
      | [] => none
      | more => statementStart fuel more
    | more => some more

/-- The name of a statement and what follows its `=` or `:`. -/
def statementName (cs : List Char) : Except String (String × List Char) := do
  let cs := cs.dropWhile isBlank
  let cs := match cs with
    | 'e' :: 'x' :: 'p' :: 'o' :: 'r' :: 't' :: c :: rest => if isBlank c then (c :: rest).dropWhile isBlank else cs
    | _ => cs
  let rec scan : List Char → List Char → Except String (List Char × List Char)
    | [], _ => .ok ([], cs)
    | c :: rest, acc =>
      if isBlank c then scan rest (c :: acc)
      else if c == '=' || c == ':' then .ok (acc.reverse, rest)
      else if isNameChar c then scan rest (c :: acc)
      else .error ("unexpected character " ++ Text.Quoted.quote c.toString ++ " in variable name near " ++
        Text.Quoted.quote (String.ofList cs))
  let (name, after) ← scan cs []
  pure (String.ofList (name.reverse.dropWhile Text.CharClass.isSpace).reverse, after.dropWhile isBlank)

/-- Expands `$NAME` and `${NAME}` (see the module comment); `fuel` bounds the work. -/
def expandVariables (lookup : String → Option String) : Nat → List Char → List Char
  | 0, cs => cs
  | _, [] => []
  | fuel + 1, '\\' :: '$' :: rest => '$' :: expandVariables lookup fuel rest
  | fuel + 1, '$' :: rest =>
    let afterParen := match rest with
      | '(' :: r => r
      | r => r
    let body := match afterParen with
      | '\x7b' :: r => r
      | r => r
    let name := body.takeWhile fun c => c.isUpper || c.isDigit || c == '_'
    let after := match body.drop name.length with
      | '\x7d' :: r => r
      | r => r
    if name.isEmpty then '$' :: expandVariables lookup fuel rest
    else ((lookup (String.ofList name)).getD "").toList ++ expandVariables lookup fuel after
  | fuel + 1, c :: rest => c :: expandVariables lookup fuel rest

/-- Expands the variables of a value. -/
def expandAll (lookup : String → Option String) (cs : List Char) : List Char :=
  expandVariables lookup (cs.length + 1) cs

/-- Turns escapes of a double-quoted value into characters. -/
def unescapeValue : List Char → List Char
  | [] => []
  | '\\' :: 'n' :: rest => '\n' :: unescapeValue rest
  | '\\' :: 'r' :: rest => '\r' :: unescapeValue rest
  | '\\' :: '$' :: rest => '\\' :: '$' :: unescapeValue rest
  | '\\' :: c :: rest => c :: unescapeValue rest
  | c :: rest => c :: unescapeValue rest

/-- An unquoted value cut before its first `#` that follows white space (the comment). -/
def dropComment (line : List Char) : List Char :=
  let marks := line.zipIdx.filter fun (c, i) => c == '#' && i > 0 && isBlank (line.getD (i - 1) ' ')
  match marks.head? with
  | some (_, i) => line.take i
  | none => line

/-- Reads the value of a statement; the rest of the text after it. -/
def statementValue (lookup : String → Option String) (cs : List Char) : Except String (String × List Char) :=
  match cs with
  | q :: rest =>
    if q == '"' || q == '\'' then
      let rec close : List Char → List Char → Option (List Char × List Char)
        | [], _ => none
        | c :: more, acc =>
          if c == q && acc.head? != some '\\' then some (acc.reverse, more) else close more (c :: acc)
      match close rest [q] with
      | some (body, after) =>
        let body := (body.dropWhile (· == q)).reverse.dropWhile (· == q) |>.reverse
        let value := if q == '"' then expandAll lookup (unescapeValue body) else body
        .ok (String.ofList value, after)
      | none => .error ("unterminated quoted value " ++ String.ofList (cs.takeWhile (· != '\n')))
    else plain cs
  | [] => .ok ("", [])
where
  /-- An unquoted value, up to the end of its line. -/
  plain (cs : List Char) : Except String (String × List Char) :=
    let line := cs.takeWhile fun c => c != '\n' && c != '\r'
    let rest := cs.drop line.length
    let trimmed := ((dropComment line).dropWhile isBlank).reverse.dropWhile isBlank |>.reverse
    .ok (String.ofList (expandAll lookup trimmed), rest)

/-- Reads the statements of an environment file, in order; `env` looks up variables already
set outside the file. -/
def parseDotEnv (env : String → Option String) (text : String) : Except String (List (String × String)) :=
  let cs := (text.replace "\r\n" "\n").toList
  go (cs.length + 1) cs []
where
  /-- The statements left; `fuel` bounds their number. -/
  go : Nat → List Char → List (String × String) → Except String (List (String × String))
    | 0, _, acc => .ok acc
    | fuel + 1, cs, acc =>
      match statementStart (cs.length + 1) cs with
      | none => .ok acc
      | some start => do
        let (name, after) ← statementName start
        let lookup := fun k => match (acc.reverse.find? (·.1 == k)) with
          | some (_, v) => some v
          | none => env k
        let (value, rest) ← statementValue lookup after
        go fuel rest ((acc.filter (·.1 != name)) ++ [(name, value)])

end CreditExtraction.Config
