import CreditExtraction.Text.Utf8

/-!
# YAML tokens

The scanner cuts YAML text into tokens: stream and document markers, the starts and ends of
block and flow collections, entry, key and value indicators, anchors, aliases, tags and scalars
in their five styles.

Block structure is read from indentation: a token at a deeper column opens a collection and a
shallower one closes those it leaves. A mapping key needs no `?` when it is a *simple key*: a
node on one line, at most 1024 characters before its `:`. Such a key is only known to be one
when the `:` arrives, so the scanner remembers, for each flow level, where a simple key could
have started, and when the `:` comes it inserts the key token (and, at a new indentation, the
mapping start) back at that place. A token that could still turn out to be a key is not handed
on until that is decided, and the scanner always keeps three tokens ahead of the reader.

Positions (`Mark`) count lines and columns from zero. A failure keeps the position of what was
being scanned and of where the problem showed; `YamlError.message` reports, for failures of the
scanner, the line of the first of these that is not on the first line, counted from one.
-/

namespace CreditExtraction.Yaml

/-- A position in the text: characters before it, its line and its column, from zero. -/
structure Mark where
  index : Nat
  line : Nat
  column : Nat
deriving Inhabited, Repr

/-- How a scalar was written. -/
inductive ScalarStyle where
  | plain
  | singleQuoted
  | doubleQuoted
  | literal
  | folded
deriving Inhabited, Repr, DecidableEq

/-- The kinds of tokens. -/
inductive TokenKind where
  | streamStart
  | streamEnd
  | versionDirective (major minor : Nat)
  | tagDirective (handle pfx : String)
  | documentStart
  | documentEnd
  | blockSequenceStart
  | blockMappingStart
  | blockEnd
  | flowSequenceStart
  | flowSequenceEnd
  | flowMappingStart
  | flowMappingEnd
  | blockEntry
  | flowEntry
  | key
  | value
  | alias (name : String)
  | anchor (name : String)
  | tag (handle suffix : String)
  | scalar (text : String) (style : ScalarStyle)
deriving Inhabited, Repr

/-- A token and where it starts and stops. -/
structure Token where
  kind : TokenKind
  start : Mark
  stop : Mark
deriving Inhabited, Repr

/-- A failure to read YAML: whether the scanner found it, the position of what was being read,
the position of the problem and its description. -/
structure YamlError where
  fromScanner : Bool
  contextMark : Mark
  problemMark : Mark
  problem : String
deriving Inhabited

/-- The message of a failure, `yaml: line N: problem` (see the module comment). -/
def YamlError.message (e : YamlError) : String :=
  let bump := if e.fromScanner then 1 else 0
  let line :=
    if e.contextMark.line != 0 then e.contextMark.line + bump
    else if e.problemMark.line != 0 then e.problemMark.line + bump
    else 0
  "yaml: " ++ (if line != 0 then "line " ++ toString line ++ ": " else "") ++ e.problem

/-- A place where a simple key may have started. -/
structure SimpleKey where
  possible : Bool
  required : Bool
  tokenNumber : Nat
  mark : Mark
deriving Inhabited

/-- The scanner: the text, the position, the tokens not yet handed on, the indentation stack,
the simple keys by flow level and the flow level. -/
structure Scanner where
  input : Array Char
  pos : Nat
  mark : Mark
  queue : List Token
  parsed : Nat
  available : Bool
  started : Bool
  ended : Bool
  indent : Int
  indents : List Int
  keyAllowed : Bool
  keys : Array SimpleKey
  keysByToken : List (Nat × Nat)
  flowLevel : Nat
deriving Inhabited

/-- Scanning steps. -/
abbrev ScanM := StateT Scanner (Except YamlError)

/-- The character `k` places ahead, or NUL past the end. -/
def Scanner.charAt (s : Scanner) (k : Nat) : Char := s.input.getD (s.pos + k) '\x00'

/-- The byte order mark, skipped at the start of the text and of a line. -/
def byteOrderMark : Char := Char.ofNat 0xFEFF

/-- The Unicode line separator. -/
def lineSeparator : Char := Char.ofNat 0x2028

/-- The Unicode paragraph separator. -/
def paragraphSeparator : Char := Char.ofNat 0x2029

/-- A scanner at the start of a text. -/
def Scanner.ofText (s : String) : Scanner :=
  let cs := s.toList
  let cs := if cs.head? == some byteOrderMark then cs.drop 1 else cs
  { input := cs.toArray, pos := 0, mark := ⟨0, 0, 0⟩, queue := [], parsed := 0, available := false,
    started := false, ended := false, indent := -1, indents := [], keyAllowed := false, keys := #[],
    keysByToken := [], flowLevel := 0 }

/-- Is it the end of the text? -/
def isZ (c : Char) : Bool := c == '\x00'

/-- A line break. -/
def isBreak (c : Char) : Bool :=
  c == '\r' || c == '\n' || c == '\x85' || c == lineSeparator || c == paragraphSeparator

/-- A space or a tab. -/
def isBlank (c : Char) : Bool := c == ' ' || c == '\t'

/-- A line break or the end. -/
def isBreakZ (c : Char) : Bool := isBreak c || isZ c

/-- A blank, a line break or the end. -/
def isBlankZ (c : Char) : Bool := isBlank c || isBreakZ c

/-- A letter, digit, underscore or dash. -/
def isWordChar (c : Char) : Bool :=
  ('0' ≤ c && c ≤ '9') || ('a' ≤ c && c ≤ 'z') || ('A' ≤ c && c ≤ 'Z') || c == '_' || c == '-'

/-- A hexadecimal digit. -/
def isHexChar (c : Char) : Bool :=
  ('0' ≤ c && c ≤ '9') || ('a' ≤ c && c ≤ 'f') || ('A' ≤ c && c ≤ 'F')

/-- The value of a hexadecimal digit. -/
def hexValue (c : Char) : Nat :=
  if '0' ≤ c && c ≤ '9' then c.toNat - '0'.toNat
  else if 'a' ≤ c && c ≤ 'f' then c.toNat - 'a'.toNat + 10
  else c.toNat - 'A'.toNat + 10

/-- The character `k` places ahead. -/
def peekChar (k : Nat) : ScanM Char := do return (← get).charAt k

/-- The current position. -/
def here : ScanM Mark := do return (← get).mark

/-- How many steps a loop over the rest of the text may take. -/
def budget : ScanM Nat := do
  let s ← get
  return s.input.size - s.pos + 4

/-- Moves past one character on the line. -/
def advance : ScanM Unit :=
  modify fun s => { s with pos := s.pos + 1,
                           mark := { s.mark with index := s.mark.index + 1, column := s.mark.column + 1 } }

/-- Moves past a line break (a CR LF pair counts as one). -/
def advanceLine : ScanM Unit :=
  modify fun s =>
    if s.charAt 0 == '\r' && s.charAt 1 == '\n' then
      { s with pos := s.pos + 2, mark := ⟨s.mark.index + 2, s.mark.line + 1, 0⟩ }
    else if isBreak (s.charAt 0) then
      { s with pos := s.pos + 1, mark := ⟨s.mark.index + 1, s.mark.line + 1, 0⟩ }
    else s

/-- Takes one character. -/
def takeChar : ScanM Char := do
  let c ← peekChar 0
  advance
  return c

/-- Takes a line break, giving its text in the scalar: a newline, or a line or paragraph
separator as it is. -/
def takeBreak : ScanM String := do
  let s ← get
  let c := s.charAt 0
  if c == '\r' || c == '\n' || c == '\x85' then
    advanceLine
    return "\n"
  else if c == lineSeparator || c == paragraphSeparator then
    advanceLine
    return c.toString
  else return ""

/-- Fails at the current position. -/
def scanFail {α : Type} (contextMark : Mark) (problem : String) : ScanM α := do
  let s ← get
  throw { fromScanner := true, contextMark, problemMark := s.mark, problem }

/-- A failure of the scanner's own bookkeeping, which well-formed input never meets. -/
def scanStuck {α : Type} : ScanM α := do
  let s ← get
  throw { fromScanner := true, contextMark := s.mark, problemMark := s.mark, problem := "scanner stuck" }

/-- Adds a token at the end of the queue. -/
def pushToken (t : Token) : ScanM Unit := modify fun s => { s with queue := s.queue ++ [t] }

/-- Inserts a token at a place of the queue. -/
def insertToken (idx : Nat) (t : Token) : ScanM Unit :=
  modify fun s => { s with queue := s.queue.take idx ++ t :: s.queue.drop idx }

/-- Forgets the simple key of the current flow level; a required one is a failure. -/
def removeSimpleKey : ScanM Unit := do
  let s ← get
  let i := s.keys.size - 1
  let k := s.keys.getD i default
  if k.possible then
    if k.required then scanFail k.mark "could not find expected ':'"
    set { s with keys := s.keys.set! i { k with possible := false },
                 keysByToken := s.keysByToken.filter (·.1 != k.tokenNumber) }

/-- Remembers that a simple key may start here. -/
def saveSimpleKey : ScanM Unit := do
  let s ← get
  let required := s.flowLevel == 0 && s.indent == (s.mark.column : Int)
  if s.keyAllowed then
    let key : SimpleKey := ⟨true, required, s.parsed + s.queue.length, s.mark⟩
    removeSimpleKey
    modify fun s =>
      let i := s.keys.size - 1
      { s with keys := s.keys.set! i key,
               keysByToken := (key.tokenNumber, i) :: s.keysByToken.filter (·.1 != key.tokenNumber) }

/-- Is the simple key at a level of the stack still possible? One left behind on an earlier
line or more than 1024 characters back is not; if it was required, that is a failure. -/
def simpleKeyValid (i : Nat) : ScanM Bool := do
  let s ← get
  let k := s.keys.getD i default
  if !k.possible then return false
  if k.mark.line < s.mark.line || k.mark.index + 1024 < s.mark.index then
    if k.required then scanFail k.mark "could not find expected ':'"
    set { s with keys := s.keys.set! i { k with possible := false } }
    return false
  return true

/-- Opens a block collection when `column` is deeper than the current indentation; the start
token goes at the end of the queue or, for a simple key, before token `number`. -/
def rollIndent (column : Nat) (number : Option Nat) (kind : TokenKind) (mark : Mark) : ScanM Unit := do
  let s ← get
  if s.flowLevel == 0 && s.indent < (column : Int) then
    set { s with indents := s.indent :: s.indents, indent := column }
    match number with
    | none => pushToken ⟨kind, mark, mark⟩
    | some n => insertToken (n - s.parsed) ⟨kind, mark, mark⟩

/-- How many indentation levels are deeper than `column`, and the stack without them. -/
def unrollLevels (column : Int) : Int → List Int → Nat × Int × List Int
  | ind, rest =>
    if ind > column then
      match rest with
      | i :: more =>
        let (n, ind', st) := unrollLevels column i more
        (n + 1, ind', st)
      | [] => (1, -1, [])
    else (0, ind, rest)

/-- Closes the block collections deeper than `column`. -/
def unrollIndent (column : Int) (scanMark : Mark) : ScanM Unit := do
  let s ← get
  if s.flowLevel == 0 then
    let blockMark := { scanMark with index := scanMark.index - 1 }
    let (n, ind, st) := unrollLevels column s.indent s.indents
    set { s with indent := ind, indents := st,
                 queue := s.queue ++ List.replicate n (⟨.blockEnd, blockMark, blockMark⟩ : Token) }

/-- Sets whether a simple key may start at the next token. -/
def allowKey (b : Bool) : ScanM Unit := modify fun s => { s with keyAllowed := b }

/-- The stream start token. -/
def fetchStreamStart : ScanM Unit := do
  modify fun s => { s with indent := -1, keys := #[default], keysByToken := [], keyAllowed := true,
                           started := true }
  let m ← here
  pushToken ⟨.streamStart, m, m⟩

/-- The stream end token: the position moves to a new line first. -/
def fetchStreamEnd : ScanM Unit := do
  modify fun s =>
    if s.mark.column != 0 then { s with mark := { s.mark with column := 0, line := s.mark.line + 1 } }
    else s
  unrollIndent (-1) (← here)
  removeSimpleKey
  allowKey false
  let m ← here
  pushToken ⟨.streamEnd, m, m⟩

/-- A document start (`---`) or end (`...`) marker. -/
def fetchDocumentIndicator (kind : TokenKind) : ScanM Unit := do
  unrollIndent (-1) (← here)
  removeSimpleKey
  allowKey false
  let start ← here
  advance
  advance
  advance
  pushToken ⟨kind, start, ← here⟩

/-- The start of a flow collection. -/
def fetchFlowCollectionStart (kind : TokenKind) : ScanM Unit := do
  saveSimpleKey
  modify fun s => { s with keys := s.keys.push ⟨false, false, 0, s.mark⟩, flowLevel := s.flowLevel + 1 }
  allowKey true
  let start ← here
  advance
  pushToken ⟨kind, start, ← here⟩

/-- The end of a flow collection. -/
def fetchFlowCollectionEnd (kind : TokenKind) : ScanM Unit := do
  removeSimpleKey
  modify fun s =>
    if s.flowLevel > 0 then
      let last := s.keys.back?.getD default
      { s with flowLevel := s.flowLevel - 1, keys := s.keys.pop,
               keysByToken := s.keysByToken.filter (·.1 != last.tokenNumber) }
    else s
  allowKey false
  let start ← here
  advance
  pushToken ⟨kind, start, ← here⟩

/-- A `,` between flow entries. -/
def fetchFlowEntry : ScanM Unit := do
  removeSimpleKey
  allowKey true
  let start ← here
  advance
  pushToken ⟨.flowEntry, start, ← here⟩

/-- A `-` starting a block sequence entry. -/
def fetchBlockEntry : ScanM Unit := do
  let s ← get
  if s.flowLevel == 0 then
    if !s.keyAllowed then scanFail s.mark "block sequence entries are not allowed in this context"
    rollIndent s.mark.column none .blockSequenceStart s.mark
  removeSimpleKey
  allowKey true
  let start ← here
  advance
  pushToken ⟨.blockEntry, start, ← here⟩

/-- A `?` starting a complex key. -/
def fetchKey : ScanM Unit := do
  let s ← get
  if s.flowLevel == 0 then
    if !s.keyAllowed then scanFail s.mark "mapping keys are not allowed in this context"
    rollIndent s.mark.column none .blockMappingStart s.mark
  removeSimpleKey
  allowKey ((← get).flowLevel == 0)
  let start ← here
  advance
  pushToken ⟨.key, start, ← here⟩

/-- A `:`: the remembered simple key, if still possible, becomes a key. -/
def fetchValue : ScanM Unit := do
  let i := (← get).keys.size - 1
  if (← simpleKeyValid i) then
    let s ← get
    let k := s.keys.getD i default
    insertToken (k.tokenNumber - s.parsed) ⟨.key, k.mark, k.mark⟩
    rollIndent k.mark.column (some k.tokenNumber) .blockMappingStart k.mark
    modify fun s => { s with keys := s.keys.set! i { k with possible := false },
                             keysByToken := s.keysByToken.filter (·.1 != k.tokenNumber),
                             keyAllowed := false }
  else
    let s ← get
    if s.flowLevel == 0 then
      if !s.keyAllowed then scanFail s.mark "mapping values are not allowed in this context"
      rollIndent s.mark.column none .blockMappingStart s.mark
    allowKey ((← get).flowLevel == 0)
  let start ← here
  advance
  pushToken ⟨.value, start, ← here⟩

/-- Skips blanks, comments and line breaks up to the next token. Tabs are skipped only inside
flow collections or where no simple key may start. -/
def skipToToken : ScanM Unit := do
  let fuel ← budget
  for _ in [0:fuel] do
    let s ← get
    if s.mark.column == 0 && s.charAt 0 == byteOrderMark then advance
    let fuel' ← budget
    for _ in [0:fuel'] do
      let s ← get
      let c := s.charAt 0
      if c == ' ' || ((s.flowLevel > 0 || !s.keyAllowed) && c == '\t') then advance else break
    if (← peekChar 0) == '#' then
      let fuel' ← budget
      for _ in [0:fuel'] do
        if isBreakZ (← peekChar 0) then break
        advance
    if isBreak (← peekChar 0) then
      advanceLine
      if (← get).flowLevel == 0 then allowKey true
    else break

/-- Reads the name of an anchor or alias. -/
def scanAnchor (isAlias : Bool) : ScanM Token := do
  let start ← here
  advance
  let mut name := ""
  let fuel ← budget
  for _ in [0:fuel] do
    let c ← peekChar 0
    if isWordChar c then
      name := name.push c
      advance
    else break
  let stop ← here
  let c ← peekChar 0
  if name.isEmpty || !(isBlankZ c || c == '?' || c == ':' || c == ',' || c == ']' || c == '}' ||
      c == '%' || c == '@' || c == '`') then
    scanFail start "did not find expected alphabetic or numeric character"
  return ⟨if isAlias then .alias name else .anchor name, start, stop⟩

/-- Reads `%XX` escapes of one UTF-8 character inside a tag. -/
def scanUriEscapes (start : Mark) : ScanM String := do
  let mut bytes : List UInt8 := []
  let mut width := 0
  let mut first := true
  for _ in [0:4] do
    if !first && width == 0 then break
    let s ← get
    if !(s.charAt 0 == '%' && isHexChar (s.charAt 1) && isHexChar (s.charAt 2)) then
      scanFail start "did not find URI escaped octet"
    let octet := hexValue (s.charAt 1) * 16 + hexValue (s.charAt 2)
    if first then
      width := if octet < 0x80 then 1 else if octet / 32 == 6 then 2 else if octet / 16 == 14 then 3
        else if octet / 8 == 30 then 4 else 0
      if width == 0 then scanFail start "found an incorrect leading UTF-8 octet"
      first := false
    else if octet / 64 != 2 then scanFail start "found an incorrect trailing UTF-8 octet"
    bytes := bytes ++ [octet.toUInt8]
    advance
    advance
    advance
    width := width - 1
  return Text.Utf8.lossy bytes

/-- Is `c` a character a tag may hold? Inside `!<…>` also `,`, `[` and `]`. -/
def isUriChar (verbatim : Bool) (c : Char) : Bool :=
  isWordChar c || ";/?:@&=+$.%!~*'()".contains c || (verbatim && (c == ',' || c == '[' || c == ']'))

/-- Reads the characters of a tag, after the part `head` already read (without its `!`). -/
def scanTagUri (verbatim : Bool) (head : String) (start : Mark) : ScanM String := do
  let mut text := String.ofList (head.toList.drop 1)
  let mut found := !head.isEmpty
  let fuel ← budget
  for _ in [0:fuel] do
    let c ← peekChar 0
    if !isUriChar verbatim c then break
    if c == '%' then text := text ++ (← scanUriEscapes start)
    else
      text := text.push c
      advance
    found := true
  if !found then scanFail start "did not find expected tag URI"
  return text

/-- Reads a tag handle: `!`, `!!` or `!word!`; in a directive it must end with `!`. -/
def scanTagHandle (directive : Bool) (start : Mark) : ScanM String := do
  if (← peekChar 0) != '!' then scanFail start "did not find expected '!'"
  let mut text := "!"
  advance
  let fuel ← budget
  for _ in [0:fuel] do
    let c ← peekChar 0
    if isWordChar c then
      text := text.push c
      advance
    else break
  if (← peekChar 0) == '!' then
    text := text.push '!'
    advance
  else if directive && text != "!" then scanFail start "did not find expected '!'"
  return text

/-- Reads a tag: verbatim `!<…>`, `!suffix` or `!handle!suffix`. -/
def scanTag : ScanM Token := do
  let start ← here
  let (handle, suffix) ← do
    if (← peekChar 1) == '<' then
      advance
      advance
      let suffix ← scanTagUri true "" start
      if (← peekChar 0) != '>' then scanFail start "did not find the expected '>'"
      advance
      pure ("", suffix)
    else
      let handle ← scanTagHandle false start
      if handle.length > 1 && handle.startsWith "!" && handle.endsWith "!" then
        let suffix ← scanTagUri false "" start
        pure (handle, suffix)
      else
        let suffix ← scanTagUri false handle start
        if suffix.isEmpty then pure ("", "!") else pure ("!", suffix)
  let c ← peekChar 0
  if !isBlankZ c then
    if (← get).flowLevel == 0 || c != ',' then
      scanFail start "did not find expected whitespace or line break"
  return ⟨.tag handle suffix, start, ← here⟩

/-- Skips blanks, a comment and the line break at the end of an indicator line. -/
def finishIndicatorLine (start : Mark) : ScanM Unit := do
  let fuel ← budget
  for _ in [0:fuel] do
    if isBlank (← peekChar 0) then advance else break
  if (← peekChar 0) == '#' then
    for _ in [0:fuel] do
      if isBreakZ (← peekChar 0) then break
      advance
  if !isBreakZ (← peekChar 0) then scanFail start "did not find expected comment or line break"
  if isBreak (← peekChar 0) then advanceLine

/-- Reads a `%YAML` or `%TAG` directive. -/
def scanDirective : ScanM Token := do
  let start ← here
  advance
  let mut name := ""
  let fuel ← budget
  for _ in [0:fuel] do
    let c ← peekChar 0
    if isWordChar c then
      name := name.push c
      advance
    else break
  if name.isEmpty then scanFail start "could not find expected directive name"
  if !isBlankZ (← peekChar 0) then scanFail start "found unexpected non-alphabetical character"
  let kind ← do
    if name == "YAML" then
      for _ in [0:fuel] do
        if isBlank (← peekChar 0) then advance else break
      let mut numbers : Array Nat := #[]
      for part in [0:2] do
        if part == 1 then
          if (← peekChar 0) != '.' then scanFail start "did not find expected digit or '.' character"
          advance
        let mut value := 0
        let mut length := 0
        for _ in [0:fuel] do
          let c ← peekChar 0
          if '0' ≤ c && c ≤ '9' then
            length := length + 1
            if length > 2 then scanFail start "found extremely long version number"
            value := value * 10 + (c.toNat - '0'.toNat)
            advance
          else break
        if length == 0 then scanFail start "did not find expected version number"
        numbers := numbers.push value
      pure (TokenKind.versionDirective (numbers.getD 0 0) (numbers.getD 1 0))
    else if name == "TAG" then
      for _ in [0:fuel] do
        if isBlank (← peekChar 0) then advance else break
      let handle ← scanTagHandle true start
      if !isBlank (← peekChar 0) then scanFail start "did not find expected whitespace"
      for _ in [0:fuel] do
        if isBlank (← peekChar 0) then advance else break
      let pfx ← scanTagUri true "" start
      if !isBlankZ (← peekChar 0) then scanFail start "did not find expected whitespace or line break"
      pure (TokenKind.tagDirective handle pfx)
    else scanFail start "found unknown directive name"
  let stop ← here
  finishIndicatorLine start
  return ⟨kind, start, stop⟩

/-- Skips the indentation and empty lines of a block scalar, collecting the line breaks; with
no indentation given yet it settles it from the deepest of these lines. Gives the indentation,
the breaks and the end position. -/
def scanBlockBreaks (indent : Nat) (start : Mark) : ScanM (Nat × String × Mark) := do
  let mut endMark ← here
  let mut breaks := ""
  let mut maxIndent := 0
  let fuel ← budget
  for _ in [0:fuel] do
    for _ in [0:fuel] do
      let s ← get
      if (indent == 0 || s.mark.column < indent) && s.charAt 0 == ' ' then advance else break
    let s ← get
    if s.mark.column > maxIndent then maxIndent := s.mark.column
    if (indent == 0 || s.mark.column < indent) && s.charAt 0 == '\t' then
      scanFail start "found a tab character where an indentation space is expected"
    if !isBreak (s.charAt 0) then break
    breaks := breaks ++ (← takeBreak)
    endMark ← here
  let s ← get
  let indent :=
    if indent == 0 then
      let i : Int := maxIndent
      let i := if i < s.indent + 1 then s.indent + 1 else i
      (if i < 1 then 1 else i).toNat
    else indent
  return (indent, breaks, endMark)

/-- Reads a literal (`|`) or folded (`>`) block scalar. -/
def scanBlockScalar (literal : Bool) : ScanM Token := do
  let start ← here
  advance
  let mut chomping : Int := 0
  let mut increment := 0
  let c ← peekChar 0
  if c == '+' || c == '-' then
    chomping := if c == '+' then 1 else -1
    advance
    let d ← peekChar 0
    if '0' ≤ d && d ≤ '9' then
      if d == '0' then scanFail start "found an indentation indicator equal to 0"
      increment := d.toNat - '0'.toNat
      advance
  else if '0' ≤ c && c ≤ '9' then
    if c == '0' then scanFail start "found an indentation indicator equal to 0"
    increment := c.toNat - '0'.toNat
    advance
    let d ← peekChar 0
    if d == '+' || d == '-' then
      chomping := if d == '+' then 1 else -1
      advance
  finishIndicatorLine start
  let s ← get
  let indent : Nat :=
    if increment > 0 then (if s.indent ≥ 0 then (s.indent + increment).toNat else increment) else 0
  let (indent, breaks, endMark0) ← scanBlockBreaks indent start
  let mut endMark := endMark0
  let mut trailingBreaks := breaks
  let mut text := ""
  let mut leadingBreak := ""
  let mut leadingBlank := false
  let fuel ← budget
  for _ in [0:fuel] do
    let s ← get
    if !(s.mark.column == indent && !isZ (s.charAt 0)) then break
    let trailingBlank := isBlank (s.charAt 0)
    if !literal && !leadingBlank && !trailingBlank && leadingBreak.startsWith "\n" then
      if trailingBreaks.isEmpty then text := text.push ' '
    else text := text ++ leadingBreak
    leadingBreak := ""
    text := text ++ trailingBreaks
    trailingBreaks := ""
    leadingBlank := isBlank (s.charAt 0)
    for _ in [0:fuel] do
      if isBreakZ (← peekChar 0) then break
      text := text.push (← takeChar)
    leadingBreak := leadingBreak ++ (← takeBreak)
    let (_, more, m) ← scanBlockBreaks indent start
    trailingBreaks := more
    endMark := m
  if chomping != -1 then text := text ++ leadingBreak
  if chomping == 1 then text := text ++ trailingBreaks
  return ⟨.scalar text (if literal then .literal else .folded), start, endMark⟩

/-- Is the text at the current position a document marker (`---` or `...`) at column 0? -/
def atDocumentMarker : ScanM Bool := do
  let s ← get
  return s.mark.column == 0 &&
    ((s.charAt 0 == '-' && s.charAt 1 == '-' && s.charAt 2 == '-') ||
     (s.charAt 0 == '.' && s.charAt 1 == '.' && s.charAt 2 == '.')) && isBlankZ (s.charAt 3)

/-- The character a one-letter escape of a double-quoted scalar stands for. -/
def simpleEscape : Char → Option Char
  | '0' => some '\x00'
  | 'a' => some '\x07'
  | 'b' => some '\x08'
  | 't' | '\t' => some '\t'
  | 'n' => some '\n'
  | 'v' => some '\x0b'
  | 'f' => some '\x0c'
  | 'r' => some '\r'
  | 'e' => some '\x1b'
  | ' ' => some ' '
  | '"' => some '"'
  | '\'' => some '\''
  | '\\' => some '\\'
  | 'N' => some '\x85'
  | '_' => some '\xa0'
  | 'L' => some lineSeparator
  | 'P' => some paragraphSeparator
  | _ => none

/-- Reads a single- or double-quoted scalar. -/
def scanFlowScalar (single : Bool) : ScanM Token := do
  let start ← here
  advance
  let mut text := ""
  let mut leadingBreak := ""
  let mut trailingBreaks := ""
  let mut whitespaces := ""
  let fuel ← budget
  for _ in [0:fuel] do
    if (← atDocumentMarker) then scanFail start "found unexpected document indicator"
    if isZ (← peekChar 0) then scanFail start "found unexpected end of stream"
    let mut leadingBlanks := false
    for _ in [0:fuel] do
      let s ← get
      let c := s.charAt 0
      if isBlankZ c then break
      if single && c == '\'' && s.charAt 1 == '\'' then
        text := text.push '\''
        advance
        advance
      else if single && c == '\'' then break
      else if !single && c == '"' then break
      else if !single && c == '\\' && isBreak (s.charAt 1) then
        advance
        advanceLine
        leadingBlanks := true
        break
      else if !single && c == '\\' then
        let e := s.charAt 1
        let codeLength := if e == 'x' then 2 else if e == 'u' then 4 else if e == 'U' then 8 else 0
        if codeLength == 0 then
          match simpleEscape e with
          | some ch => text := text.push ch
          | none => scanFail start "found unknown escape character"
        advance
        advance
        if codeLength > 0 then
          let s ← get
          let mut value := 0
          for k in [0:codeLength] do
            if !isHexChar (s.charAt k) then scanFail start "did not find expected hexdecimal number"
            value := value * 16 + hexValue (s.charAt k)
          if (0xD800 ≤ value && value ≤ 0xDFFF) || value > 0x10FFFF then
            scanFail start "found invalid Unicode character escape code"
          text := text.push (Char.ofNat value)
          for _ in [0:codeLength] do advance
      else text := text.push (← takeChar)
    let c ← peekChar 0
    if (single && c == '\'') || (!single && c == '"') then break
    for _ in [0:fuel] do
      let c ← peekChar 0
      if !(isBlank c || isBreak c) then break
      if isBlank c then
        if !leadingBlanks then whitespaces := whitespaces.push (← takeChar) else advance
      else if !leadingBlanks then
        whitespaces := ""
        leadingBreak := leadingBreak ++ (← takeBreak)
        leadingBlanks := true
      else trailingBreaks := trailingBreaks ++ (← takeBreak)
    if leadingBlanks then
      if leadingBreak.startsWith "\n" then
        if trailingBreaks.isEmpty then text := text.push ' ' else text := text ++ trailingBreaks
      else text := text ++ leadingBreak ++ trailingBreaks
      trailingBreaks := ""
      leadingBreak := ""
    else
      text := text ++ whitespaces
      whitespaces := ""
  advance
  return ⟨.scalar text (if single then .singleQuoted else .doubleQuoted), start, ← here⟩

/-- Reads a plain scalar, which may run over several lines in a block context as long as the
lines are indented deeper than the enclosing collection. -/
def scanPlainScalar : ScanM Token := do
  let s0 ← get
  let indent := s0.indent + 1
  let start := s0.mark
  let mut endMark := s0.mark
  let mut text := ""
  let mut leadingBreak := ""
  let mut trailingBreaks := ""
  let mut whitespaces := ""
  let mut leadingBlanks := false
  let fuel ← budget
  for _ in [0:fuel] do
    if (← atDocumentMarker) then break
    if (← peekChar 0) == '#' then break
    for _ in [0:fuel] do
      let s ← get
      let c := s.charAt 0
      if isBlankZ c then break
      if (c == ':' && isBlankZ (s.charAt 1)) ||
          (s.flowLevel > 0 && (c == ',' || c == '[' || c == ']' || c == '{' || c == '}')) then break
      if leadingBlanks || !whitespaces.isEmpty then
        if leadingBlanks then
          if leadingBreak.startsWith "\n" then
            if trailingBreaks.isEmpty then text := text.push ' ' else text := text ++ trailingBreaks
          else text := text ++ leadingBreak ++ trailingBreaks
          trailingBreaks := ""
          leadingBreak := ""
          leadingBlanks := false
        else
          text := text ++ whitespaces
          whitespaces := ""
      text := text.push (← takeChar)
      endMark ← here
    let c ← peekChar 0
    if !(isBlank c || isBreak c) then break
    for _ in [0:fuel] do
      let s ← get
      let c := s.charAt 0
      if !(isBlank c || isBreak c) then break
      if isBlank c then
        if leadingBlanks && (s.mark.column : Int) < indent && c == '\t' then
          scanFail start "found a tab character that violates indentation"
        if !leadingBlanks then whitespaces := whitespaces.push (← takeChar) else advance
      else if !leadingBlanks then
        whitespaces := ""
        leadingBreak := leadingBreak ++ (← takeBreak)
        leadingBlanks := true
      else trailingBreaks := trailingBreaks ++ (← takeBreak)
    let s ← get
    if s.flowLevel == 0 && (s.mark.column : Int) < indent then break
  if leadingBlanks then allowKey true
  return ⟨.scalar text .plain, start, endMark⟩

/-- Can `c` (followed by `next`) start a plain scalar? -/
def startsPlain (flowLevel : Nat) (c next : Char) : Bool :=
  !(isBlankZ c || "-?:,[]\x7b\x7d#&*!|>'\"%@`".contains c) ||
    (c == '-' && !isBlank next) ||
    (flowLevel == 0 && (c == '?' || c == ':') && !isBlankZ next)

/-- Scans the next token into the queue. -/
def fetchNextToken : ScanM Unit := do
  if !(← get).started then
    fetchStreamStart
    return
  let scanMark ← here
  skipToToken
  unrollIndent (← here).column scanMark
  let s ← get
  let c := s.charAt 0
  let col0 := s.mark.column == 0
  if isZ c then fetchStreamEnd
  else if col0 && c == '%' then
    unrollIndent (-1) (← here)
    removeSimpleKey
    allowKey false
    pushToken (← scanDirective)
  else if col0 && c == '-' && s.charAt 1 == '-' && s.charAt 2 == '-' && isBlankZ (s.charAt 3) then
    fetchDocumentIndicator .documentStart
  else if col0 && c == '.' && s.charAt 1 == '.' && s.charAt 2 == '.' && isBlankZ (s.charAt 3) then
    fetchDocumentIndicator .documentEnd
  else if c == '[' then fetchFlowCollectionStart .flowSequenceStart
  else if c == '{' then fetchFlowCollectionStart .flowMappingStart
  else if c == ']' then fetchFlowCollectionEnd .flowSequenceEnd
  else if c == '}' then fetchFlowCollectionEnd .flowMappingEnd
  else if c == ',' then fetchFlowEntry
  else if c == '-' && isBlankZ (s.charAt 1) then fetchBlockEntry
  else if c == '?' && (s.flowLevel > 0 || isBlankZ (s.charAt 1)) then fetchKey
  else if c == ':' && (s.flowLevel > 0 || isBlankZ (s.charAt 1)) then fetchValue
  else if c == '*' || c == '&' then
    saveSimpleKey
    allowKey false
    pushToken (← scanAnchor (c == '*'))
  else if c == '!' then
    saveSimpleKey
    allowKey false
    pushToken (← scanTag)
  else if (c == '|' || c == '>') && s.flowLevel == 0 then
    removeSimpleKey
    allowKey true
    pushToken (← scanBlockScalar (c == '|'))
  else if c == '\'' || c == '"' then
    saveSimpleKey
    allowKey false
    pushToken (← scanFlowScalar (c == '\''))
  else if startsPlain s.flowLevel c (s.charAt 1) then
    saveSimpleKey
    allowKey false
    pushToken (← scanPlainScalar)
  else scanFail s.mark "found character that cannot start any token"

/-- Scans until the head token can be handed on: three tokens are queued and the head is not a
possible simple key. -/
def fetchMoreTokens : ScanM Unit := do
  let fuel := 4 * (← get).input.size + 16
  for _ in [0:fuel] do
    let s ← get
    if s.queue.length > 2 then
      match s.keysByToken.find? (·.1 == s.parsed) with
      | none => break
      | some (_, idx) =>
        if !(← simpleKeyValid idx) then break
    fetchNextToken
  modify fun s => { s with available := true }

/-- The next token, scanning as needed. -/
def peekToken : ScanM Token := do
  if !(← get).available then fetchMoreTokens
  match (← get).queue with
  | t :: _ => return t
  | [] => scanStuck

/-- Hands the head token on. -/
def skipToken : ScanM Unit :=
  modify fun s => match s.queue with
    | t :: rest =>
      { s with queue := rest, parsed := s.parsed + 1, available := false,
               ended := match t.kind with
                 | .streamEnd => true
                 | _ => false }
    | [] => s

end CreditExtraction.Yaml
