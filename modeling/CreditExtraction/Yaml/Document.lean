import CreditExtraction.Yaml.Parser
import CreditExtraction.Config.Setting
import CreditExtraction.Text.FloatText
import CreditExtraction.Text.Search

/-!
# YAML documents as settings

The first document of a YAML text is composed into a tree of nodes and read as a settings
table.

* A plain scalar is resolved by its look: `~`, `null` and the empty text are null; `true` and
  `false` (also capitalized or in capitals) are booleans; `.inf`, `-.inf` and `.nan` are floats;
  integers may be decimal, `0x` hexadecimal, `0o` or leading-zero octal, `0b` binary, with
  underscores; other numbers in decimal notation are floats; anything else is text. Quoted and
  block scalars are text. An explicit tag such as `!!str` or `!!int` forces a type, and an
  impossible one is a failure (`cannot decode !!str ... as a !!int`).
* A mapping whose keys are all text becomes a table keyed by their text; other keys are written
  out as text. A mapping with two equal keys is a failure naming both lines. A `<<` key merges
  in the mapping (or mappings) it names, whose keys yield to the mapping's own.
* An alias stands for the node its anchor marks.
* The document must be a mapping (or empty): anything else cannot be read as settings.

Failures of this reading are collected as `line N: …` and reported together under
`yaml: unmarshal errors:`.
-/

namespace CreditExtraction.Yaml

open Config

/-- A composed node, with its tag and its line (from one). -/
inductive Node where
  | scalar (tag value : String) (style : ScalarStyle) (line : Nat)
  | sequence (tag : String) (items : List Node) (line : Nat)
  | mapping (tag : String) (pairs : List (Node × Node)) (line : Nat)
  | alias (name : String) (target : Node) (line : Nat)
deriving Inhabited

/-- The prefix of the standard tags. -/
def standardTagPrefix : String := "tag:yaml.org,2002:"

/-- A tag with the standard prefix written `!!`. -/
def shortTag (tag : String) : String :=
  if tag.startsWith standardTagPrefix then "!!" ++ String.ofList (tag.toList.drop standardTagPrefix.length)
  else tag

/-- The resolved value of a scalar. -/
inductive Scalar where
  | null
  | bool (b : Bool)
  | int (n : Int)
  | float (x : Float)
  | str (s : String)
deriving Inhabited

/-- The characters of a number without its underscores. -/
def dropUnderscores (s : String) : String := String.ofList (s.toList.filter (· != '_'))

/-- The digit value of `c` in base `b`. -/
def digitIn (b : Nat) (c : Char) : Option Nat :=
  let v := if '0' ≤ c && c ≤ '9' then some (c.toNat - '0'.toNat)
    else if 'a' ≤ c && c ≤ 'z' then some (c.toNat - 'a'.toNat + 10)
    else if 'A' ≤ c && c ≤ 'Z' then some (c.toNat - 'A'.toNat + 10)
    else none
  match v with
  | some d => if d < b then some d else none
  | none => none

/-- The value of digits in base `b`; there must be at least one. -/
def digitsValue (b : Nat) (cs : List Char) : Option Nat :=
  if cs.isEmpty then none
  else cs.foldlM (fun acc c => (digitIn b c).map (acc * b + ·)) 0

/-- An unsigned integer in the notation of base prefixes (`0x`, `0o`, `0b`, leading `0`). -/
def unsignedOfText (cs : List Char) : Option Nat :=
  match cs with
  | '0' :: x :: rest =>
    if x == 'x' || x == 'X' then digitsValue 16 rest
    else if x == 'o' || x == 'O' then digitsValue 8 rest
    else if x == 'b' || x == 'B' then digitsValue 2 rest
    else digitsValue 8 (x :: rest)
  | cs => digitsValue 10 cs

/-- A signed 64-bit integer, or an unsigned one beyond it, in base-prefix notation. -/
def integerOfText (s : String) : Option Int :=
  match s.toList with
  | '+' :: rest => (unsignedOfText rest).bind fun n => if n < Nat.pow 2 63 then some n else none
  | '-' :: rest => (unsignedOfText rest).bind fun n => if n ≤ Nat.pow 2 63 then some (-(n : Int)) else none
  | cs => (unsignedOfText cs).bind fun n => if n < Nat.pow 2 64 then some n else none

/-- Digits, with at least one. -/
def isDigits (cs : List Char) : Bool := !cs.isEmpty && cs.all fun c => '0' ≤ c && c ≤ '9'

/-- Is `s` a float in plain decimal notation: a sign, digits with an optional point and
fraction (or a point and a fraction), and an optional exponent? -/
def isDecimalFloat (s : String) : Bool :=
  let cs := match s.toList with
    | '+' :: rest | '-' :: rest => rest
    | cs => cs
  let mantissa := cs.takeWhile fun c => c != 'e' && c != 'E'
  let exponent := cs.dropWhile fun c => c != 'e' && c != 'E'
  let mantissaOk := match mantissa with
    | '.' :: frac => isDigits frac
    | _ =>
      let whole := mantissa.takeWhile (· != '.')
      let rest := mantissa.dropWhile (· != '.')
      isDigits whole && (rest.isEmpty || (rest.drop 1).all fun c => '0' ≤ c && c ≤ '9')
  let exponentOk := match exponent with
    | [] => true
    | _ :: rest =>
      match rest with
      | '+' :: ds | '-' :: ds => isDigits ds
      | ds => isDigits ds
  mantissaOk && exponentOk

/-- The words with a fixed meaning. -/
def fixedWord (s : String) : Option (String × Scalar) :=
  match s with
  | "true" | "True" | "TRUE" => some ("!!bool", .bool true)
  | "false" | "False" | "FALSE" => some ("!!bool", .bool false)
  | "" | "~" | "null" | "Null" | "NULL" => some ("!!null", .null)
  | ".nan" | ".NaN" | ".NAN" => some ("!!float", .float Text.Float.quietNaN)
  | ".inf" | ".Inf" | ".INF" | "+.inf" | "+.Inf" | "+.INF" => some ("!!float", .float Text.Float.posInf)
  | "-.inf" | "-.Inf" | "-.INF" => some ("!!float", .float Text.Float.negInf)
  | "<<" => some ("!!merge", .str "<<")
  | _ => none

/-- The tag and value a plain scalar resolves to, before any explicit tag is applied. -/
def resolveByLook (s : String) : String × Scalar :=
  match s.toList.head? with
  | none => ("!!null", .null)
  | some c =>
    let hint := if c == '+' || c == '-' || ('0' ≤ c && c ≤ '9') then 'D'
      else if "yYnNtTfFoO~".contains c then 'M'
      else if c == '.' then '.'
      else ' '
    if hint == ' ' then ("!!str", .str s)
    else match fixedWord s with
      | some r => r
      | none =>
        if hint == '.' then
          match Text.parseFloat64 s with
          | .ok x => ("!!float", .float x)
          | .error _ => ("!!str", .str s)
        else if hint == 'D' then
          let plain := dropUnderscores s
          match integerOfText plain with
          | some n => ("!!int", .int n)
          | none =>
            if isDecimalFloat plain then
              match Text.parseFloat64 plain with
              | .ok x => ("!!float", .float x)
              | .error _ => ("!!str", .str s)
            else ("!!str", .str s)
        else ("!!str", .str s)

/-- Tags whose values are resolved by look. -/
def resolvableTag (tag : String) : Bool :=
  tag == "" || tag == "!!str" || tag == "!!bool" || tag == "!!int" || tag == "!!float" ||
    tag == "!!timestamp" || tag == "!!null"

/-- Resolves a scalar under its tag (see the module comment). -/
def resolve (tag value : String) : Except String (String × Scalar) :=
  let tag := shortTag tag
  if !resolvableTag tag then .ok (tag, .str value)
  else
    let (rtag, out) := if tag == "!!str" then ("!!str", Scalar.str value) else resolveByLook value
    if tag == "" || tag == rtag || tag == "!!str" then .ok (rtag, out)
    else match tag, out with
      | "!!float", .int n => .ok ("!!float", .float (Float.ofInt n))
      | _, _ => .error ("yaml: cannot decode " ++ rtag ++ " `" ++ value ++ "` as a " ++ tag)

/-- The tag a node carries: its own, else the one its kind or look gives. -/
def nodeTag (explicitTag : String) (default : String) (value : String) (isScalar : Bool) : String :=
  if explicitTag != "" && explicitTag != "!" then shortTag explicitTag
  else if default != "" then default
  else if isScalar then (resolveByLook value).1
  else ""

/-- The tag a node stands under when its keys are checked for being text. -/
def Node.shortTag : Node → String
  | .scalar tag _ _ _ => tag
  | .sequence _ _ _ => "!!seq"
  | .mapping _ _ _ => "!!map"
  | .alias _ target _ => target.shortTag

/-- The line of a node. -/
def Node.line : Node → Nat
  | .scalar _ _ _ l | .sequence _ _ l | .mapping _ _ l | .alias _ _ l => l

/-- The text of a node, for comparing keys. -/
def Node.text : Node → String
  | .scalar _ v _ _ => v
  | .alias n _ _ => n
  | _ => ""

/-- The kind of a node, for comparing keys. -/
def Node.kindRank : Node → Nat
  | .scalar _ _ _ _ => 0
  | .sequence _ _ _ => 1
  | .mapping _ _ _ => 2
  | .alias _ _ _ => 3

/-- Composing state: the parser, the event looked at and the anchors met so far. -/
structure Composer where
  parser : Parser
  current : Option Event
  anchors : List (String × Node)
  building : List String

/-- Composing steps; a failure is a message. -/
abbrev ComposeM := StateT Composer (Except String)

/-- The event looked at, reading it if needed; `none` once the stream has ended. -/
def peekEvent : ComposeM (Option Event) := do
  let c ← get
  match c.current with
  | some e => return some e
  | none =>
    match nextEvent.run c.parser with
    | .ok (e, p) =>
      set { c with parser := p, current := e }
      return e
    | .error err => throw err.message

/-- Moves past the event looked at. -/
def dropEvent : ComposeM Unit := modify fun c => { c with current := none }

/-- Marks a node with an anchor. -/
def remember (anchor : String) (n : Node) : ComposeM Unit :=
  if anchor.isEmpty then pure ()
  else modify fun c => { c with anchors := (anchor, n) :: c.anchors.filter (·.1 != anchor) }

/-- Composes the node starting at the current event. -/
def composeNode : Nat → ComposeM Node
  | 0 => throw "yaml: document nested too deeply"
  | fuel + 1 => do
    let some ev ← peekEvent | throw "yaml: attempted to go past the end of stream; corrupted value?"
    let line := ev.start.line + 1
    match ev.kind with
    | .scalar anchor tag value _ _ style =>
      dropEvent
      let default := if style != .plain then "!!str" else if value == "<<" then "!!merge" else ""
      let n := Node.scalar (nodeTag tag default value true) value style line
      remember anchor n
      return n
    | .alias name =>
      dropEvent
      let c ← get
      if c.building.contains name then throw ("yaml: anchor '" ++ name ++ "' value contains itself")
      match c.anchors.find? (·.1 == name) with
      | some (_, target) => return .alias name target line
      | none => throw ("yaml: unknown anchor '" ++ name ++ "' referenced")
    | .sequenceStart anchor tag _ =>
      dropEvent
      modify fun c => { c with building := anchor :: c.building }
      let mut items : Array Node := #[]
      for _ in [0:fuel] do
        let some e ← peekEvent | throw "yaml: attempted to go past the end of stream; corrupted value?"
        match e.kind with
        | .sequenceEnd =>
          dropEvent
          break
        | _ => items := items.push (← composeNode fuel)
      modify fun c => { c with building := c.building.drop 1 }
      let n := Node.sequence (nodeTag tag "!!seq" "" false) items.toList line
      remember anchor n
      return n
    | .mappingStart anchor tag _ =>
      dropEvent
      modify fun c => { c with building := anchor :: c.building }
      let mut pairs : Array (Node × Node) := #[]
      for _ in [0:fuel] do
        let some e ← peekEvent | throw "yaml: attempted to go past the end of stream; corrupted value?"
        match e.kind with
        | .mappingEnd =>
          dropEvent
          break
        | _ =>
          let k ← composeNode fuel
          let v ← composeNode fuel
          pairs := pairs.push (k, v)
      modify fun c => { c with building := c.building.drop 1 }
      let n := Node.mapping (nodeTag tag "!!map" "" false) pairs.toList line
      remember anchor n
      return n
    | _ => throw "yaml: unexpected event"

/-- Composes the first document of a text; `none` when it has none. -/
def composeText (s : String) : Except String (Option Node) :=
  let s := if s.isEmpty then "\n" else s
  let fuel := s.length + 8
  let run : ComposeM (Option Node) := do
    let some ev ← peekEvent | return none
    match ev.kind with
    | .streamStart => dropEvent
    | _ => throw "yaml: expected STREAM-START"
    let some ev ← peekEvent | return none
    match ev.kind with
    | .documentStart =>
      dropEvent
      let n ← composeNode fuel
      let some ev ← peekEvent | throw "yaml: attempted to go past the end of stream; corrupted value?"
      match ev.kind with
      | .documentEnd => dropEvent
      | _ => throw "yaml: expected DOCUMENT-END"
      return some n
    | _ => return none
  (run.run' ⟨Parser.ofText s, none, [], []⟩)

/-- The text of a resolved scalar used as a table key. -/
def Scalar.keyText : Scalar → String
  | .null => ""
  | .bool b => if b then "true" else "false"
  | .int n => toString n
  | .float x => Text.showFloat x
  | .str s => s

/-- A resolved scalar as a setting. -/
def Scalar.toSetting : Scalar → Setting
  | .null => .null
  | .bool b => .bool b
  | .int n => if n ≥ Int.pow 2 63 then .int n "uint64" else .int n "int"
  | .float x => .float x
  | .str s => .str s

/-- The lines of duplicated keys of a mapping, as reading failures. -/
def duplicateKeys (pairs : List (Node × Node)) : List String :=
  let keys := pairs.map (·.1)
  keys.zipIdx.flatMap fun (ki, i) =>
    (keys.drop (i + 1)).filterMap fun kj =>
      if ki.kindRank == kj.kindRank && ki.text == kj.text then
        some ("line " ++ toString kj.line ++ ": mapping key " ++ Text.Quoted.quote kj.text ++
          " already defined at line " ++ toString ki.line)
      else none

/-- The first characters of a scalar in a failure message. -/
def excerpt (v : String) : String :=
  if v.utf8ByteSize > 10 then " `" ++ String.ofList (v.toList.take 7) ++ "...`" else " `" ++ v ++ "`"

mutual
/-- Reads a node as a setting: the value and the failures met. -/
def Node.toSetting : Node → Except String (Option Setting × List String)
  | .scalar tag value style _ =>
    if tag == "!!str" && style != .plain then .ok (some (.str value), [])
    else do
      let (_, out) ← resolve tag value
      pure (some out.toSetting, [])
  | .sequence _ items _ => do
    let (vs, errs) ← Node.itemsToSettings items
    pure (some (.list vs), errs)
  | .mapping _ pairs _ =>
    let dups := duplicateKeys pairs
    if !dups.isEmpty then .ok (none, dups)
    else do
      let textKeys := pairs.all fun (k, _) => k.shortTag == "!!str" || k.shortTag == "!!merge"
      let (ms, errs) ← Node.pairsToMembers textKeys pairs
      pure (some (.table ms), errs)
  | .alias _ target _ => target.toSetting

/-- Reads the items of a sequence; items that fail are left out. -/
def Node.itemsToSettings : List Node → Except String (List Setting × List String)
  | [] => .ok ([], [])
  | n :: rest => do
    let (v, e1) ← n.toSetting
    let (vs, e2) ← Node.itemsToSettings rest
    pure (match v with
      | some v => v :: vs
      | none => vs, e1 ++ e2)

/-- Reads the pairs of a mapping as members; a `<<` key merges its mappings in. `asText` keeps
the keys as written, except that null keys are left out; otherwise keys are written from their
resolved values. -/
def Node.pairsToMembers (asText : Bool) : List (Node × Node) → Except String (List (String × Setting) × List String)
  | [] => .ok ([], [])
  | (k, v) :: rest => do
    let (ms, e2) ← Node.pairsToMembers asText rest
    if k.shortTag == "!!merge" then
      let (merged, e1) ← v.toSetting
      let extra := match merged with
        | some (.table mms) => mms.filter fun (mk, _) => !ms.any (·.1 == mk)
        | some (.list xs) => xs.flatMap fun x => match x with
          | .table mms => mms.filter fun (mk, _) => !ms.any (·.1 == mk)
          | _ => []
        | _ => []
      pure (ms ++ extra, e1 ++ e2)
    else
      let key ← Node.keyOf asText k
      let (value, e1) ← v.toSetting
      match key with
      | none => pure (ms, e1 ++ e2)
      | some key =>
        let ms := if ms.any (·.1 == key) then ms else (key, value.getD .null) :: ms
        pure (ms, e1 ++ e2)

/-- The text of a mapping key (see `Node.pairsToMembers`); collections cannot be keys. -/
def Node.keyOf (asText : Bool) : Node → Except String (Option String)
  | .scalar tag value _ _ => do
    let (_, out) ← resolve tag value
    if asText then
      match out with
      | .null => pure none
      | _ => pure (some value)
    else pure (some out.keyText)
  | .alias _ target _ => Node.keyOf asText target
  | _ => .error "yaml: invalid map key"
end

/-- Reads the first document of a YAML text as the top table of settings (see the module
comment). -/
def readSettings (s : String) : Except String (List (String × Setting)) := do
  match ← composeText s with
  | none => pure []
  | some root =>
    let root := match root with
      | .alias _ target _ => target
      | n => n
    match root with
    | .mapping _ pairs _ =>
      let dups := duplicateKeys pairs
      let (ms, errs) ← if dups.isEmpty then Node.pairsToMembers true pairs else pure ([], dups)
      if !errs.isEmpty then throw ("yaml: unmarshal errors:\n  " ++ "\n  ".intercalate errs)
      pure ms
    | .scalar tag value _ line =>
      let (_, out) ← resolve tag value
      match out with
      | .null => pure []
      | _ => throw ("yaml: unmarshal errors:\n  line " ++ toString line ++ ": cannot unmarshal " ++ tag ++
          excerpt value ++ " into map[string]interface \x7b\x7d")
    | .sequence _ _ line =>
      throw ("yaml: unmarshal errors:\n  line " ++ toString line ++
        ": cannot unmarshal !!seq into map[string]interface \x7b\x7d")
    | .alias _ _ _ => pure []

end CreditExtraction.Yaml
