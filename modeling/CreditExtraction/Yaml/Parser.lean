import CreditExtraction.Yaml.Scanner

/-!
# YAML events

The parser reads tokens into a stream of events: stream and document boundaries, the starts
and ends of sequences and mappings, scalars and aliases. It is a state machine with a stack of
states to return to, one state for each place in the grammar: a document, a node in block or
flow context, the first or a following entry of a block or flow sequence, a key or a value of a
block or flow mapping, and the one-pair mappings that `[a: b]` writes inside a flow sequence.

A missing node where one may be left out (a key without a value, a `-` without an item) is an
empty plain scalar. A tag is spelled out from the tag directives of its document: `!!` stands for
`tag:yaml.org,2002:` and `!` for itself.

A parser failure reports the position of what was being parsed, unless that is on the first
line, and otherwise the position of the offending token, each counted from zero.
-/

namespace CreditExtraction.Yaml

/-- The kinds of events. -/
inductive EventKind where
  | streamStart
  | streamEnd
  | documentStart
  | documentEnd
  | alias (anchor : String)
  | scalar (anchor tag value : String) (plainImplicit quotedImplicit : Bool) (style : ScalarStyle)
  | sequenceStart (anchor tag : String) (flow : Bool)
  | sequenceEnd
  | mappingStart (anchor tag : String) (flow : Bool)
  | mappingEnd
deriving Inhabited, Repr

/-- An event and where it starts. -/
structure Event where
  kind : EventKind
  start : Mark
deriving Inhabited, Repr

/-- The places in the grammar the parser can be at. -/
inductive ParseState where
  | streamStart
  | implicitDocumentStart
  | documentStart
  | documentContent
  | documentEnd
  | blockNode
  | blockNodeOrIndentlessSequence
  | flowNode
  | blockSequenceFirstEntry
  | blockSequenceEntry
  | indentlessSequenceEntry
  | blockMappingFirstKey
  | blockMappingKey
  | blockMappingValue
  | flowSequenceFirstEntry
  | flowSequenceEntry
  | flowSequenceEntryMappingKey
  | flowSequenceEntryMappingValue
  | flowSequenceEntryMappingEnd
  | flowMappingFirstKey
  | flowMappingKey
  | flowMappingValue
  | flowMappingEmptyValue
  | finished
deriving Inhabited, Repr, DecidableEq

/-- The parser: its scanner, where it is, where to return, the starts of the open collections
and the tag directives of the document. -/
structure Parser where
  scanner : Scanner
  state : ParseState
  states : List ParseState
  marks : List Mark
  tagDirectives : List (String × String)
deriving Inhabited

/-- A parser at the start of a text. -/
def Parser.ofText (s : String) : Parser := ⟨Scanner.ofText s, .streamStart, [], [], []⟩

/-- Parsing steps. -/
abbrev ParseM := StateT Parser (Except YamlError)

/-- Runs a scanning step. -/
def scan {α : Type} (m : ScanM α) : ParseM α := do
  let p ← get
  match m.run p.scanner with
  | .ok (a, sc) =>
    set { p with scanner := sc }
    return a
  | .error e => throw e

/-- The next token. -/
def peek : ParseM Token := scan peekToken

/-- Consumes the next token. -/
def consume : ParseM Unit := scan skipToken

/-- A parser failure without a context position. -/
def parseFail {α : Type} (problem : String) (problemMark : Mark) : ParseM α :=
  throw { fromScanner := false, contextMark := ⟨0, 0, 0⟩, problemMark, problem }

/-- A parser failure inside something that started at `contextMark`. -/
def parseFailIn {α : Type} (contextMark : Mark) (problem : String) (problemMark : Mark) : ParseM α :=
  throw { fromScanner := false, contextMark, problemMark, problem }

/-- Goes on at the state on top of the stack. -/
def popState : ParseM Unit :=
  modify fun p => match p.states with
    | s :: rest => { p with state := s, states := rest }
    | [] => { p with state := .finished }

/-- Remembers a state to return to. -/
def pushState (s : ParseState) : ParseM Unit := modify fun p => { p with states := s :: p.states }

/-- Moves to a state. -/
def goTo (s : ParseState) : ParseM Unit := modify fun p => { p with state := s }

/-- Remembers where a collection starts. -/
def pushMark (m : Mark) : ParseM Unit := modify fun p => { p with marks := m :: p.marks }

/-- Forgets the start of the innermost collection, giving it. -/
def popMark : ParseM Mark := do
  let p ← get
  match p.marks with
  | m :: rest =>
    set { p with marks := rest }
    return m
  | [] => return ⟨0, 0, 0⟩

/-- An empty plain scalar. -/
def emptyScalar (m : Mark) : Event := ⟨.scalar "" "" "" true false .plain, m⟩

/-- Does the token end the stream? -/
def TokenKind.isStreamEnd : TokenKind → Bool
  | .streamEnd => true
  | _ => false

/-- The tag directives every document has. -/
def defaultTagDirectives : List (String × String) := [("!", "!"), ("!!", "tag:yaml.org,2002:")]

/-- Reads the directives before an explicit document. -/
def processDirectives : ParseM Unit := do
  let fuel := (← get).scanner.input.size + 4
  let mut version := false
  let mut tags : List (String × String) := []
  for _ in [0:fuel] do
    let t ← peek
    match t.kind with
    | .versionDirective major minor =>
      if version then parseFail "found duplicate %YAML directive" t.start
      if major != 1 || minor != 1 then parseFail "found incompatible YAML document" t.start
      version := true
      consume
    | .tagDirective handle pfx =>
      if tags.any (·.1 == handle) then parseFail "found duplicate %TAG directive" t.start
      tags := tags ++ [(handle, pfx)]
      consume
    | _ => break
  let defaults := defaultTagDirectives.filter fun (h, _) => !tags.any (·.1 == h)
  modify fun p => { p with tagDirectives := tags ++ defaults }

/-- The start of a document, or the end of the stream. -/
def parseDocumentStart (implicit : Bool) : ParseM Event := do
  let fuel := (← get).scanner.input.size + 4
  let mut t ← peek
  if !implicit then
    for _ in [0:fuel] do
      match t.kind with
      | .documentEnd =>
        consume
        t ← peek
      | _ => break
  let isDirectiveOrStart := match t.kind with
    | .versionDirective _ _ | .tagDirective _ _ | .documentStart => true
    | _ => false
  if implicit && !isDirectiveOrStart && !t.kind.isStreamEnd then
    processDirectives
    pushState .documentEnd
    goTo .blockNode
    return ⟨.documentStart, t.start⟩
  else if !t.kind.isStreamEnd then
    let start := t.start
    processDirectives
    let t' ← peek
    match t'.kind with
    | .documentStart => pure ()
    | _ => parseFail "did not find expected <document start>" t'.start
    pushState .documentEnd
    goTo .documentContent
    consume
    return ⟨.documentStart, start⟩
  else
    goTo .finished
    consume
    return ⟨.streamEnd, t.start⟩

/-- The end of a document, explicit (`...`) or not. -/
def parseDocumentEnd : ParseM Event := do
  let t ← peek
  match t.kind with
  | .documentEnd => consume
  | _ => pure ()
  modify fun p => { p with tagDirectives := [] }
  goTo .documentStart
  return ⟨.documentEnd, t.start⟩

/-- A node: an alias, a scalar, a collection start, or an empty scalar after an anchor or tag. -/
def parseNode (block indentlessSequence : Bool) : ParseM Event := do
  let t ← peek
  match t.kind with
  | .alias name =>
    popState
    consume
    return ⟨.alias name, t.start⟩
  | _ =>
    let start := t.start
    let mut anchor := ""
    let mut tagHandle := ""
    let mut tagSuffix := ""
    let mut tagged := false
    let mut tagMark := t.start
    let mut t := t
    match t.kind with
    | .anchor name =>
      anchor := name
      consume
      t ← peek
      match t.kind with
      | .tag h s =>
        tagged := true
        tagHandle := h
        tagSuffix := s
        tagMark := t.start
        consume
        t ← peek
      | _ => pure ()
    | .tag h s =>
      tagged := true
      tagHandle := h
      tagSuffix := s
      tagMark := t.start
      consume
      t ← peek
      match t.kind with
      | .anchor name =>
        anchor := name
        consume
        t ← peek
      | _ => pure ()
    | _ => pure ()
    let mut tag := ""
    if tagged then
      if tagHandle.isEmpty then tag := tagSuffix
      else
        match (← get).tagDirectives.find? (·.1 == tagHandle) with
        | some (_, pfx) => tag := pfx ++ tagSuffix
        | none => parseFailIn start "found undefined tag handle" tagMark
    let implicit := tag.isEmpty
    match t.kind with
    | .blockEntry =>
      if indentlessSequence then
        goTo .indentlessSequenceEntry
        return ⟨.sequenceStart anchor tag false, start⟩
    | _ => pure ()
    match t.kind with
    | .scalar value style =>
      let plainImplicit := (tag.isEmpty && style == .plain) || tag == "!"
      let quotedImplicit := !plainImplicit && tag.isEmpty
      popState
      consume
      return ⟨.scalar anchor tag value plainImplicit quotedImplicit style, start⟩
    | .flowSequenceStart =>
      goTo .flowSequenceFirstEntry
      return ⟨.sequenceStart anchor tag true, start⟩
    | .flowMappingStart =>
      goTo .flowMappingFirstKey
      return ⟨.mappingStart anchor tag true, start⟩
    | .blockSequenceStart =>
      if block then
        goTo .blockSequenceFirstEntry
        return ⟨.sequenceStart anchor tag false, start⟩
    | .blockMappingStart =>
      if block then
        goTo .blockMappingFirstKey
        return ⟨.mappingStart anchor tag false, start⟩
    | _ => pure ()
    if !anchor.isEmpty || !tag.isEmpty then
      popState
      return ⟨.scalar anchor tag "" implicit false .plain, start⟩
    parseFailIn start "did not find expected node content" t.start

/-- An entry of a block sequence, or its end. -/
def parseBlockSequenceEntry (first : Bool) : ParseM Event := do
  if first then
    pushMark (← peek).start
    consume
  let t ← peek
  match t.kind with
  | .blockEntry =>
    let m := t.stop
    consume
    let t ← peek
    match t.kind with
    | .blockEntry | .blockEnd =>
      goTo .blockSequenceEntry
      return emptyScalar m
    | _ =>
      pushState .blockSequenceEntry
      parseNode true false
  | .blockEnd =>
    popState
    let _ ← popMark
    consume
    return ⟨.sequenceEnd, t.start⟩
  | _ =>
    let ctx ← popMark
    parseFailIn ctx "did not find expected '-' indicator" t.start

/-- An entry of a sequence written at its mapping's indentation, or its end. -/
def parseIndentlessSequenceEntry : ParseM Event := do
  let t ← peek
  match t.kind with
  | .blockEntry =>
    let m := t.stop
    consume
    let t ← peek
    match t.kind with
    | .blockEntry | .key | .value | .blockEnd =>
      goTo .indentlessSequenceEntry
      return emptyScalar m
    | _ =>
      pushState .indentlessSequenceEntry
      parseNode true false
  | _ =>
    popState
    return ⟨.sequenceEnd, t.start⟩

/-- A key of a block mapping, or its end. -/
def parseBlockMappingKey (first : Bool) : ParseM Event := do
  if first then
    pushMark (← peek).start
    consume
  let t ← peek
  match t.kind with
  | .key =>
    let m := t.stop
    consume
    let t ← peek
    match t.kind with
    | .key | .value | .blockEnd =>
      goTo .blockMappingValue
      return emptyScalar m
    | _ =>
      pushState .blockMappingValue
      parseNode true true
  | .blockEnd =>
    popState
    let _ ← popMark
    consume
    return ⟨.mappingEnd, t.start⟩
  | _ =>
    let ctx ← popMark
    parseFailIn ctx "did not find expected key" t.start

/-- A value of a block mapping. -/
def parseBlockMappingValue : ParseM Event := do
  let t ← peek
  match t.kind with
  | .value =>
    let m := t.stop
    consume
    let t ← peek
    match t.kind with
    | .key | .value | .blockEnd =>
      goTo .blockMappingKey
      return emptyScalar m
    | _ =>
      pushState .blockMappingKey
      parseNode true true
  | _ =>
    goTo .blockMappingKey
    return emptyScalar t.start

/-- An entry of a flow sequence, or its end. -/
def parseFlowSequenceEntry (first : Bool) : ParseM Event := do
  if first then
    pushMark (← peek).start
    consume
  let mut t ← peek
  match t.kind with
  | .flowSequenceEnd => pure ()
  | _ =>
    if !first then
      match t.kind with
      | .flowEntry =>
        consume
        t ← peek
      | _ =>
        let ctx ← popMark
        parseFailIn ctx "did not find expected ',' or ']'" t.start
    match t.kind with
    | .key =>
      goTo .flowSequenceEntryMappingKey
      consume
      return ⟨.mappingStart "" "" true, t.start⟩
    | .flowSequenceEnd => pure ()
    | _ =>
      pushState .flowSequenceEntry
      return ← parseNode false false
  popState
  let _ ← popMark
  consume
  return ⟨.sequenceEnd, t.start⟩

/-- The key of a one-pair mapping inside a flow sequence. -/
def parseFlowSequenceEntryMappingKey : ParseM Event := do
  let t ← peek
  match t.kind with
  | .value | .flowEntry | .flowSequenceEnd =>
    let m := t.stop
    consume
    goTo .flowSequenceEntryMappingValue
    return emptyScalar m
  | _ =>
    pushState .flowSequenceEntryMappingValue
    parseNode false false

/-- The value of a one-pair mapping inside a flow sequence. -/
def parseFlowSequenceEntryMappingValue : ParseM Event := do
  let t ← peek
  match t.kind with
  | .value =>
    consume
    let t' ← peek
    match t'.kind with
    | .flowEntry | .flowSequenceEnd => pure ()
    | _ =>
      pushState .flowSequenceEntryMappingEnd
      return ← parseNode false false
  | _ => pure ()
  goTo .flowSequenceEntryMappingEnd
  return emptyScalar t.start

/-- The end of a one-pair mapping inside a flow sequence. -/
def parseFlowSequenceEntryMappingEnd : ParseM Event := do
  goTo .flowSequenceEntry
  return ⟨.mappingEnd, (← peek).start⟩

/-- A key of a flow mapping, or its end. -/
def parseFlowMappingKey (first : Bool) : ParseM Event := do
  if first then
    pushMark (← peek).start
    consume
  let mut t ← peek
  match t.kind with
  | .flowMappingEnd => pure ()
  | _ =>
    if !first then
      match t.kind with
      | .flowEntry =>
        consume
        t ← peek
      | _ =>
        let ctx ← popMark
        parseFailIn ctx "did not find expected ',' or '\x7d'" t.start
    match t.kind with
    | .key =>
      consume
      let t' ← peek
      match t'.kind with
      | .value | .flowEntry | .flowMappingEnd =>
        goTo .flowMappingValue
        return emptyScalar t'.start
      | _ =>
        pushState .flowMappingValue
        return ← parseNode false false
    | .flowMappingEnd => pure ()
    | _ =>
      pushState .flowMappingEmptyValue
      return ← parseNode false false
  popState
  let _ ← popMark
  consume
  return ⟨.mappingEnd, t.start⟩

/-- A value of a flow mapping; `empty` when the key stood alone. -/
def parseFlowMappingValue (empty : Bool) : ParseM Event := do
  let t ← peek
  if empty then
    goTo .flowMappingKey
    return emptyScalar t.start
  match t.kind with
  | .value =>
    consume
    let t' ← peek
    match t'.kind with
    | .flowEntry | .flowMappingEnd => pure ()
    | _ =>
      pushState .flowMappingKey
      return ← parseNode false false
  | _ => pure ()
  goTo .flowMappingKey
  return emptyScalar t.start

/-- The next event; `none` once the stream has ended. -/
def nextEvent : ParseM (Option Event) := do
  let p ← get
  if p.scanner.ended || p.state == .finished then return none
  match p.state with
  | .streamStart =>
    let t ← peek
    match t.kind with
    | .streamStart =>
      goTo .implicitDocumentStart
      consume
      return some ⟨.streamStart, t.start⟩
    | _ => parseFail "did not find expected <stream-start>" t.start
  | .implicitDocumentStart => some <$> parseDocumentStart true
  | .documentStart => some <$> parseDocumentStart false
  | .documentContent =>
    let t ← peek
    match t.kind with
    | .versionDirective _ _ | .tagDirective _ _ | .documentStart | .documentEnd | .streamEnd =>
      popState
      return some (emptyScalar t.start)
    | _ => some <$> parseNode true false
  | .documentEnd => some <$> parseDocumentEnd
  | .blockNode => some <$> parseNode true false
  | .blockNodeOrIndentlessSequence => some <$> parseNode true true
  | .flowNode => some <$> parseNode false false
  | .blockSequenceFirstEntry => some <$> parseBlockSequenceEntry true
  | .blockSequenceEntry => some <$> parseBlockSequenceEntry false
  | .indentlessSequenceEntry => some <$> parseIndentlessSequenceEntry
  | .blockMappingFirstKey => some <$> parseBlockMappingKey true
  | .blockMappingKey => some <$> parseBlockMappingKey false
  | .blockMappingValue => some <$> parseBlockMappingValue
  | .flowSequenceFirstEntry => some <$> parseFlowSequenceEntry true
  | .flowSequenceEntry => some <$> parseFlowSequenceEntry false
  | .flowSequenceEntryMappingKey => some <$> parseFlowSequenceEntryMappingKey
  | .flowSequenceEntryMappingValue => some <$> parseFlowSequenceEntryMappingValue
  | .flowSequenceEntryMappingEnd => some <$> parseFlowSequenceEntryMappingEnd
  | .flowMappingFirstKey => some <$> parseFlowMappingKey true
  | .flowMappingKey => some <$> parseFlowMappingKey false
  | .flowMappingValue => some <$> parseFlowMappingValue false
  | .flowMappingEmptyValue => some <$> parseFlowMappingValue true
  | .finished => return none

end CreditExtraction.Yaml
