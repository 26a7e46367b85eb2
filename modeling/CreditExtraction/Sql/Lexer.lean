import CreditExtraction.Sql.Value
import CreditExtraction.Sql.Error
import CreditExtraction.Text.Quoted

/-!
# Reading the text of statements into tokens

A statement's text is a sequence of tokens: keywords and names, text literals quoted with `'`
(a quote inside written twice), numbers, and operators. A name may be quoted with `"`, a
backquote or brackets, and `x'…'` spells bytes in hexadecimal. Blanks and comments (from `--`
to the end of the line, or from `/*` to `*/`) separate tokens. Each token keeps the place of
its characters in the text, so that the parts of a definition kept as written (a declared type,
the text of a `CHECK` constraint) can be cut from it, and a name can be replaced in it where it
stands.
-/

namespace CreditExtraction.Sql

/-- A word of a statement. -/
inductive Token where
  /-- A keyword or a name. -/
  | word (s : String)
  /-- A quoted name, and its text as written. -/
  | ident (s written : String)
  /-- A text literal. -/
  | str (s : String)
  /-- A number literal, as written. -/
  | num (s : String)
  /-- An operator or punctuation. -/
  | sym (s : String)
deriving Repr, DecidableEq, Inhabited

/-- The text of a token as a syntax error quotes it. -/
def Token.text : Token → String
  | .word s | .num s | .sym s | .ident _ s => s
  | .str s => "'" ++ s ++ "'"

/-- Can a character start a name? -/
def isNameStart (c : Char) : Bool := c.isAlpha || c == '_'

/-- Can a character continue a name? -/
def isNamePart (c : Char) : Bool := c.isAlphanum || c == '_' || c == '$'

/-- The operators of two characters. -/
def twoCharOps : List String := ["<=", ">=", "<>", "!=", "==", "||"]

/-- Reads a quoted literal after its opening quote `q`, a doubled quote standing for one;
the text and the rest, or `none` when it does not close. -/
def readQuoted (q : Char) : List Char → List Char → Option (String × List Char)
  | [], _ => none
  | c :: rest, acc =>
    if c == q then
      match rest with
      | d :: more => if d == q then readQuoted q more (q :: acc) else some (String.ofList acc.reverse, rest)
      | [] => some (String.ofList acc.reverse, [])
    else readQuoted q rest (c :: acc)

/-- The value of a hexadecimal digit. -/
def hexDigit? (c : Char) : Option Nat :=
  if c.isDigit then some (c.toNat - '0'.toNat)
  else if 'a' ≤ c && c ≤ 'f' then some (c.toNat - 'a'.toNat + 10)
  else if 'A' ≤ c && c ≤ 'F' then some (c.toNat - 'A'.toNat + 10)
  else none

/-- The bytes that pairs of hexadecimal digits spell, one character a byte; `none` when a
digit is not one or one is left over. -/
def hexBytes : List Char → Option (List Char)
  | [] => some []
  | [_] => none
  | a :: b :: rest => do
    let hi ← hexDigit? a
    let lo ← hexDigit? b
    let more ← hexBytes rest
    pure (Char.ofNat (hi * 16 + lo) :: more)

/-- The characters after a comment that opened with the two characters before them: up to and
past the closing pair, or none left when it does not close. -/
def afterBlockComment : List Char → List Char
  | [] => []
  | '*' :: '/' :: rest => rest
  | _ :: rest => afterBlockComment rest

/-- A token and the characters it spans in the text: from `start` up to `stop`. -/
structure Located where
  token : Token
  start : Nat
  stop : Nat
deriving Repr, Inhabited

/-- Splits a statement into tokens, from the character at `pos` on; `fuel` bounds the number of
steps, each of which consumes at least one character. -/
def tokenize : Nat → Nat → List Char → List Located → Except SqlError (List Located)
  | _, _, [], acc => .ok acc.reverse
  | 0, _, _ :: _, _ => .error (SqlError.logic "incomplete input")
  | fuel + 1, pos, c :: rest, acc =>
    let after := fun (more : List Char) => pos + (rest.length + 1 - more.length)
    let emit := fun (t : Token) (more : List Char) =>
      tokenize fuel (after more) more (⟨t, pos, after more⟩ :: acc)
    if c.isWhitespace then tokenize fuel (pos + 1) rest acc
    else if c == '-' && rest.head? == some '-' then
      let more := rest.dropWhile (· != '\n')
      tokenize fuel (after more) more acc
    else if c == '/' && rest.head? == some '*' then
      let more := afterBlockComment (rest.drop 1)
      tokenize fuel (after more) more acc
    else if (c == 'x' || c == 'X') && rest.head? == some '\'' then
      let bad := SqlError.logic ("unrecognized token: " ++ Text.Quoted.quote (String.ofList (c :: rest)))
      match readQuoted '\'' (rest.drop 1) [] with
      | some (s, more) =>
        match hexBytes s.toList with
        | some bytes => emit (Token.str (String.ofList bytes)) more
        | none =>
          .error (SqlError.logic ("unrecognized token: " ++
            Text.Quoted.quote (String.ofList (c :: rest.take (rest.length - more.length)))))
      | none => .error bad
    else if c == '[' then
      match rest.span (· != ']') with
      | (inside, _ :: more) =>
        emit (Token.ident (String.ofList inside) (String.ofList (c :: rest.take (inside.length + 1)))) more
      | (_, []) => .error (SqlError.logic ("unrecognized token: " ++ Text.Quoted.quote (String.ofList (c :: rest))))
    else if c == '\'' || c == '"' || c == '\x60' then
      match readQuoted c rest [] with
      | some (s, more) =>
        emit (if c == '\'' then Token.str s
          else Token.ident s (String.ofList (c :: rest.take (rest.length - more.length)))) more
      | none => .error (SqlError.logic ("unrecognized token: " ++ Text.Quoted.quote (String.ofList (c :: rest))))
    else if isNameStart c then
      emit (Token.word (String.ofList (c :: rest.takeWhile isNamePart))) (rest.dropWhile isNamePart)
    else if c.isDigit || (c == '.' && (rest.head?.map Char.isDigit).getD false) then
      match Value.scanNumber (c :: rest) with
      | some t => emit (Token.num (String.ofList ((c :: rest).take (rest.length + 1 - t.rest.length)))) t.rest
      | none => emit (Token.num (String.singleton c)) rest
    else
      let two := String.ofList [c, rest.head?.getD ' ']
      if twoCharOps.contains two then emit (Token.sym two) (rest.drop 1)
      else if "=<>+-*/%(),;.".contains c then emit (Token.sym (String.singleton c)) rest
      else .error (SqlError.logic ("unrecognized token: " ++ Text.Quoted.quote (String.singleton c)))

/-- The located tokens of a statement's text. -/
def locatedTokens (s : String) : Except SqlError (List Located) := tokenize (s.length + 1) 0 s.toList []

/-- The tokens of a statement's text. -/
def tokens (s : String) : Except SqlError (List Token) := (locatedTokens s).map (·.map (·.token))

/-- Is a token the keyword `k` (regardless of case)? -/
def Token.isKw (k : String) : Token → Bool
  | .word s => s.toUpper == k
  | _ => false

/-- Is a token a word or a quoted name? -/
def Token.isName : Token → Bool
  | .word _ | .ident _ _ => true
  | _ => false

/-- Is a token the symbol `k`? -/
def Token.isSym (k : String) : Token → Bool
  | .sym s => s == k
  | _ => false

/-- Is a character a blank around the text of a definition? -/
def isSqlSpace (c : Char) : Bool :=
  c == ' ' || c == '\t' || c == '\n' || c == '\x0b' || c == '\x0c' || c == '\r'

/-- A text without the blanks at its ends. -/
def trimBlanks (s : String) : String :=
  String.ofList ((s.toList.dropWhile isSqlSpace).reverse.dropWhile isSqlSpace).reverse

/-- The text after an opening quote up to the matching `close`, a doubled close standing for
one. -/
def unquoted (close : Char) : List Char → List Char → List Char
  | [], acc => acc.reverse
  | c :: rest, acc =>
    if c == close then
      match rest with
      | d :: more => if d == close then unquoted close more (close :: acc) else acc.reverse
      | [] => acc.reverse
    else unquoted close rest (c :: acc)

/-- A name or label as it is kept: when it starts with a quote (`'`, `"`, a backquote or `[`),
the text up to the matching close; otherwise the text itself. -/
def dequote (s : String) : String :=
  match s.toList with
  | q :: rest =>
    if q == '\'' || q == '"' || q == '\x60' then String.ofList (unquoted q rest [])
    else if q == '[' then String.ofList (unquoted ']' rest [])
    else s
  | [] => s

/-- Do two names of the schema agree, regardless of case? -/
def sameName (a b : String) : Bool := a.toLower == b.toLower

/-- A name written so that it reads back as itself: in double quotes, a quote inside written
twice. -/
def quoteName (n : String) : String := "\"" ++ n.replace "\"" "\"\"" ++ "\""

/-- Does a token name a column where it stands: a name that is not the function of a call
(no bracket after it) and not qualified by a row or table (no dot before it)? -/
def namesColumnAt (before : Option Token) (t : Token) (after : Option Token) : Bool :=
  match t with
  | .word _ | .ident _ _ =>
    !(before.map (·.isSym ".")).getD false && !(after.map (·.isSym "(")).getD false
  | _ => false

/-- The text with each name that reads `old` (regardless of case) and names a column written
as `new` instead: plainly where the name was written plainly, in double quotes where it was
quoted or where `quoted` asks for it. The rest of the text stays as it was; a text that does
not read as tokens stays whole. -/
def renameInText (text old new : String) (quoted : Bool) : String :=
  match locatedTokens text with
  | .error _ => text
  | .ok located =>
    let chars := text.toList.toArray
    let rec go : Option Token → List Located → Nat → String → String
      | _, [], pos, acc => acc ++ String.ofList (chars.extract pos chars.size).toList
      | before, l :: rest, pos, acc =>
        let hit : Bool := match l.token with
          | .word s | .ident s _ => sameName s old && namesColumnAt before l.token (rest.head?.map (·.token))
          | _ => false
        if hit then
          let plain := isNameStart (chars.getD l.start ' ')
          let written := if plain && !quoted then new else quoteName new
          go (some l.token) rest l.stop (acc ++ String.ofList (chars.extract pos l.start).toList ++ written)
        else go (some l.token) rest pos acc
    go none located 0 ""

end CreditExtraction.Sql
