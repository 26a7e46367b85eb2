import CreditExtraction.Text.CharClass
import CreditExtraction.Text.UnicodeData

/-!
# Regular expressions

The patterns of field rules and of reply recovery, in the usual syntax: literals, `.`, classes
`[a-z]`, `[^@\s]`, the escapes `\d \s \w` (ASCII) and their negations, `\p{Greek}`, anchors `^ $
\A \z \b \B`, groups `( )`, `(?: )`, named groups `(?P<n> )`, flags `(?i) (?s) (?m) (?U)`,
alternation, and repetition `* + ? {n} {n,} {n,m}`, each lazy with a trailing `?`.

Classes `\p{…}` name a general category (`Lu`), a group of them (`L`), a script (`Greek`) or
`Any`, from the tables of `UnicodeData`. Under `(?i)` a character matches a literal or a class
item when some member of its case-folding orbit does (so `(?i)k` matches the Kelvin sign); the
complement of a negated item is taken after that closure.

Matching is leftmost-first: of the matches that start leftmost, the one the pattern prefers
(earlier alternatives, greedy or lazy repetition) wins, and captures follow that match. The
search runs the compiled program over all threads at once, so it takes time linear in the text.

A malformed pattern fails with `error parsing regexp: <what>: ` followed by the offending part
of the pattern in backquotes, e.g. ``missing closing ]: `[a-z` `` or ``invalid repeat count:
`{2,1}` ``.
-/

namespace CreditExtraction.Text.Regex

open CharClass

/-- A set of characters as closed ranges of code points. -/
abbrev Ranges := List (Nat × Nat)

/-- One part of a character class: a set of code points, closed under case folding when `fold`
is set (a character is in it when a member of its orbit is), then complemented when `negated` is
set. -/
structure ClassPart where
  ranges : Ranges
  negated : Bool
  fold : Bool
deriving Repr, Inhabited

/-- A parsed pattern. -/
inductive Node where
  | empty
  | chars (parts : List ClassPart) (negated : Bool)
  | anyChar (dotNL : Bool)
  | beginText
  | endText
  | beginLine
  | endLine
  | wordBoundary (negated : Bool)
  | group (index : Option Nat) (body : Node)
  | concat (parts : List Node)
  | alt (branches : List Node)
  | repeat (body : Node) (min : Nat) (max : Option Nat) (greedy : Bool) (counted : Bool)
deriving Repr, Inhabited

/-- Flags in force while parsing. -/
structure Flags where
  fold : Bool := false
  dotNL : Bool := false
  multiLine : Bool := false
  ungreedy : Bool := false

/-- A parse failure: what went wrong and the part of the pattern shown. -/
structure ParseError where
  what : String
  part : String

/-- The message of a parse failure. -/
def ParseError.message (e : ParseError) : String :=
  "error parsing regexp: " ++ e.what ++ ": `" ++ e.part ++ "`"

/-- ASCII digits. -/
def digitRanges : Ranges := [(48, 57)]

/-- ASCII white space of patterns: tab, newline, form feed, return, space. -/
def spaceRanges : Ranges := [(9, 10), (12, 13), (32, 32)]

/-- ASCII word characters. -/
def wordRanges : Ranges := [(48, 57), (65, 90), (95, 95), (97, 122)]

/-- The code points of a class name of `\p{…}`: `Any`, a general category or a group of them
(`Lu`, `L`, …), or a script (`Greek`, …). -/
def unicodeClass (name : String) : Option Ranges :=
  if name == "Any" then some [(0, UnicodeData.maxCode)]
  else (UnicodeData.categoryRanges name).orElse fun _ => UnicodeData.scriptRanges name

/-- Named ASCII classes `[:alpha:]` and friends. -/
def posixClass : String → Option Ranges
  | "alnum" => some [(48, 57), (65, 90), (97, 122)]
  | "alpha" => some [(65, 90), (97, 122)]
  | "ascii" => some [(0, 127)]
  | "blank" => some [(9, 9), (32, 32)]
  | "cntrl" => some [(0, 31), (127, 127)]
  | "digit" => some [(48, 57)]
  | "graph" => some [(33, 126)]
  | "lower" => some [(97, 122)]
  | "print" => some [(32, 126)]
  | "punct" => some [(33, 47), (58, 64), (91, 96), (123, 126)]
  | "space" => some [(9, 13), (32, 32)]
  | "upper" => some [(65, 90)]
  | "word" => some [(48, 57), (65, 90), (95, 95), (97, 122)]
  | "xdigit" => some [(48, 57), (65, 70), (97, 102)]
  | _ => none

/-- The ranges of a Perl escape letter, if it is one. -/
def perlClass : Char → Option (Ranges × Bool)
  | 'd' => some (digitRanges, false)
  | 'D' => some (digitRanges, true)
  | 's' => some (spaceRanges, false)
  | 'S' => some (spaceRanges, true)
  | 'w' => some (wordRanges, false)
  | 'W' => some (wordRanges, true)
  | _ => none

/-- The character of a simple escape, if it is one. -/
def simpleEscape : Char → Option Char
  | 'a' => some '\x07'
  | 'f' => some '\x0c'
  | 't' => some '\t'
  | 'n' => some '\n'
  | 'r' => some '\r'
  | 'v' => some '\x0b'
  | _ => none

/-- A single code point, taken up to case when `fold` is set. -/
def literal (c : Nat) (fold : Bool) : Node := .chars [⟨[(c, c)], false, fold⟩] false

/-- The result of reading an escape: a class, possibly complemented, or a single code point. -/
inductive Escape where
  | cls (rs : Ranges) (negated : Bool)
  | char (c : Nat)

/-- Is `c` an octal digit? -/
def isOctal (c : Char) : Bool := '0' ≤ c && c ≤ '7'

/-- The value of a hexadecimal digit. -/
def hexValue (d : Char) : Option Nat :=
  if d.isDigit then some (d.toNat - 48)
  else if 'a' ≤ d && d ≤ 'f' then some (d.toNat - 87)
  else if 'A' ≤ d && d ≤ 'F' then some (d.toNat - 55)
  else none

/-- Adds up to `more` further octal digits to `v`. -/
def octalTail (v : Nat) : List Char → Nat → Nat × List Char
  | c :: r, more + 1 => if isOctal c then octalTail (v * 8 + (c.toNat - 48)) r more else (v, c :: r)
  | cs, _ => (v, cs)

/-- Reads the hexadecimal digits of `\x{…}` up to `}`: at least one, and at most U+10FFFF. -/
def hexBraces (shown : List Char → ParseError) : Nat → Nat → List Char → Except ParseError (Nat × List Char)
  | _, _, [] => .error (shown [])
  | acc, count, d :: r =>
    if d == '}' then
      if count == 0 then .error (shown r) else .ok (acc, r)
    else match hexValue d with
      | none => .error (shown r)
      | some v =>
        let acc := acc * 16 + v
        if acc > 0x10FFFF then .error (shown r) else hexBraces shown acc (count + 1) r

/-- Reads an escape standing for one character, after its backslash: ASCII punctuation for
itself, up to three octal digits (a lone digit other than `0` would be a back reference, which
is refused), `\xHH` or `\x{H…}`, or one of `\a \f \t \n \r \v`. `whole` starts at the
backslash; a refusal shows it up to where reading stopped. -/
def readCharEscape (rest : List Char) (whole : List Char) : Except ParseError (Nat × List Char) :=
  let shown (r : List Char) : ParseError :=
    ⟨"invalid escape sequence", String.ofList (whole.take (whole.length - r.length))⟩
  match rest with
  | [] => .error ⟨"trailing backslash at end of expression", ""⟩
  | c :: r =>
    if c.toNat < 0x80 && !c.isAlphanum then .ok (c.toNat, r)
    else if '1' ≤ c && c ≤ '7' && !(r.head?.any isOctal) then .error (shown r)
    else if isOctal c then .ok (octalTail (c.toNat - 48) r 2)
    else if c == 'x' then
      match r with
      | [] => .error (shown r)
      | '{' :: r' => hexBraces shown 0 0 r'
      | [_] => .error (shown [])
      | a :: b :: r' =>
        match hexValue a, hexValue b with
        | some x, some y => .ok (x * 16 + y, r')
        | _, _ => .error (shown r')
    else match simpleEscape c with
      | some ch => .ok (ch.toNat, r)
      | none => .error (shown r)

/-- Reads a `\p{Name}` / `\pL` class after `\p` or `\P`; `whole` starts at the backslash. -/
def readUnicodeClass (negated : Bool) (rest : List Char) (whole : List Char) :
    Except ParseError (Escape × List Char) :=
  let (seq, name, r) : List Char × List Char × List Char := match rest with
    | '{' :: r =>
      match r.dropWhile (· != '}') with
      | '}' :: r' => (whole.take (whole.length - r'.length), r.takeWhile (· != '}'), r')
      | _ => (whole, [], [])
    | c :: r => (whole.take 3, [c], r)
    | [] => (whole, [], [])
  let braced := match rest with
    | '{' :: r => (r.dropWhile (· != '}')).isEmpty
    | _ => false
  if braced then .error ⟨"invalid character class range", String.ofList whole⟩
  else
    let (neg, name) := match name with
      | '^' :: n => (!negated, n)
      | n => (negated, n)
    let name := String.ofList name
    match unicodeClass name with
    | some rs => .ok (.cls rs neg, r)
    | none => .error ⟨"invalid character class range", String.ofList seq⟩

/-- Reads an escape after its backslash where a class may stand: `\d \s \w` and their
negations, `\p{…}`, or one character. `whole` starts at the backslash. -/
def readEscape (rest : List Char) (whole : List Char) : Except ParseError (Escape × List Char) :=
  match rest with
  | c :: r =>
    match perlClass c with
    | some (rs, neg) => .ok (.cls rs neg, r)
    | none =>
      if c == 'p' || c == 'P' then readUnicodeClass (c == 'P') r whole
      else (readCharEscape rest whole).map fun (v, r) => (.char v, r)
  | [] => (readCharEscape rest whole).map fun (v, r) => (.char v, r)

/-- The place of the first `:]` in `cs`, if any. -/
def closingColon (cs : List Char) : Option Nat :=
  (List.range cs.length).find? fun i => cs[i]? == some ':' && cs[i + 1]? == some ']'

/-- Reads the items of a bracket class after `[` (and a leading `^`), up to `]`, each a part
closed under case folding when `fold` is set. `whole` starts at the `[`; a class that never
closes shows all of it. -/
def readClassItems (fold : Bool) : Nat → List Char → List Char → List ClassPart → Bool →
    Except ParseError (List ClassPart × List Char)
  | 0, _, whole, _, _ => .error ⟨"missing closing ]", String.ofList whole⟩
  | _, [], whole, _, _ => .error ⟨"missing closing ]", String.ofList whole⟩
  | fuel + 1, c :: r, whole, acc, first =>
    if c == ']' && !first then .ok (acc, r)
    else
      -- a named class [:name:] or [:^name:], up to the first `:]`
      let named : Option (List Char × List Char) :=
        if c == '[' && r.head? == some ':' && r.length ≥ 2 then
          (closingColon (r.drop 1)).map fun i => (('[' :: r).take (i + 4), r.drop (i + 3))
        else none
      match named with
      | some (text, r') =>
        let inner := (text.drop 2).take (text.length - 4)
        let (neg, n) := match inner with
          | '^' :: n => (true, n)
          | n => (false, n)
        match posixClass (String.ofList n) with
        | some rs => readClassItems fold fuel r' whole (acc ++ [⟨rs, neg, fold⟩]) false
        | none => .error ⟨"invalid character class range", String.ofList text⟩
      | none =>
        -- one item: a class escape, or a character possibly starting a range
        let item : Except ParseError (Escape × List Char) :=
          if c == '\\' then readEscape r (c :: r) else .ok (.char c.toNat, r)
        match item with
        | .error e => .error e
        | .ok (.cls rs neg, r') => readClassItems fold fuel r' whole (acc ++ [⟨rs, neg, fold⟩]) false
        | .ok (.char lo, r') =>
          match r' with
          | '-' :: d :: r3 =>
            if d == ']' then readClassItems fold fuel (d :: r3) whole (acc ++ [⟨[(lo, lo)], false, fold⟩]) false
            else
              let hiItem : Except ParseError (Nat × List Char) :=
                if d == '\\' then readCharEscape r3 (d :: r3) else .ok (d.toNat, r3)
              match hiItem with
              | .error e => .error e
              | .ok (hi, r4) =>
                if hi < lo then
                  .error ⟨"invalid character class range",
                    String.ofList ((c :: r).take ((c :: r).length - r4.length))⟩
                else readClassItems fold fuel r4 whole (acc ++ [⟨[(lo, hi)], false, fold⟩]) false
          | _ => readClassItems fold fuel r' whole (acc ++ [⟨[(lo, lo)], false, fold⟩]) false

/-- Reads a repeat count: decimal digits without a leading zero; a count of nine digits or
more reads as too large. -/
def readCount (cs : List Char) : Option (Option Nat × List Char) :=
  let ds := cs.takeWhile Char.isDigit
  if ds.isEmpty || (ds.length ≥ 2 && ds.head? == some '0') then none
  else some ((if ds.length > 8 then none else some (String.ofList ds).toNat!), cs.drop ds.length)

/-- Reads `{n}`, `{n,}` or `{n,m}` after `{`: the bounds and the rest, or `none` when the
brace does not start a repeat. A bound that is too large reads as `none`; so does the upper
bound of `{n,}`, which the first flag tells apart. -/
def readBraces (cs : List Char) : Option ((Option Nat × Option Nat × Bool) × List Char) := do
  let (lo, r) ← readCount cs
  match r with
  | '}' :: r' => some ((lo, lo, true), r')
  | ',' :: '}' :: r' => some ((lo, none, false), r')
  | ',' :: r' =>
    let (hi, r'') ← readCount r'
    match r'' with
    | '}' :: r3 => some ((lo, hi, true), r3)
    | _ => none
  | _ => none

/-- Splits literal text quoted by `\Q` at its closing `\E` (or the end). -/
def quotedLiteral : List Char → List Char → List Char × List Char
  | [], acc => (acc.reverse, [])
  | '\\' :: 'E' :: r, acc => (acc.reverse, r)
  | ch :: r, acc => quotedLiteral r (ch :: acc)

/-- The state of the parser: the nodes of the current concatenation and the alternatives read
so far, for each open group. -/
structure Frame where
  index : Option Nat
  flags : Flags
  outerFlags : Flags
  branches : List Node
  items : List Node

/-- Builds an alternative from its items. -/
def concatOf (items : List Node) : Node :=
  match items.reverse with
  | [] => .empty
  | [n] => n
  | ns => .concat ns

/-- Builds a group's node from its branches. -/
def altOf (branches : List Node) : Node :=
  match branches.reverse with
  | [b] => b
  | bs => .alt bs

/-- Does a counted repetition stay within `n` copies of what it repeats, counting the copies
of the counted repetitions nested in it? A count of zero repeats nothing. -/
def repeatIsValid : Nat → Node → Nat → Bool
  | 0, _, _ => true
  | fuel + 1, node, n =>
    match node with
    | .repeat body lo hi _ counted =>
      if counted then
        let m := hi.getD lo
        if hi == some 0 then true
        else if m > n then false
        else repeatIsValid fuel body (if m > 0 then n / m else n)
      else repeatIsValid fuel body n
    | .group _ body => repeatIsValid fuel body n
    | .concat parts => parts.attach.all fun ⟨p, _⟩ => repeatIsValid fuel p n
    | .alt bs => bs.attach.all fun ⟨b, _⟩ => repeatIsValid fuel b n
    | _ => true

/-- Reads the flags of `(?flags)` or `(?flags:` after `(?`: `i`, `m`, `s` and `U`, turned
off after a `-` that some flag must follow. The new flags, whether a group opens, and the
rest; or, when they are malformed, the characters read up to the offending one. -/
def readFlags (flags : Flags) (negated sawFlag : Bool) (seen : List Char) :
    List Char → Except (List Char) (Flags × Bool × List Char)
  | [] => .error seen.reverse
  | c :: r =>
    let seen := c :: seen
    match c with
    | 'i' => readFlags { flags with fold := !negated } negated true seen r
    | 'm' => readFlags { flags with multiLine := !negated } negated true seen r
    | 's' => readFlags { flags with dotNL := !negated } negated true seen r
    | 'U' => readFlags { flags with ungreedy := !negated } negated true seen r
    | '-' => if negated then .error seen.reverse else readFlags flags true false seen r
    | ':' | ')' =>
      if negated && !sawFlag then .error seen.reverse else .ok (flags, c == ':', r)
    | _ => .error seen.reverse

/-- Parses a whole pattern. `lastRepeat` is the pattern from the repetition operator just read
on (empty when the last thing read was not one): a repetition may not follow another. -/
def parseLoop (pattern : List Char) : Nat → List Char → List Frame → Nat → List Char →
    Except ParseError (Node × Nat)
  | 0, _, _, _, _ => .error ⟨"expression too large", String.ofList pattern⟩
  | fuel + 1, cs, stack, groups, lastRepeat =>
    match stack with
    | [] => .error ⟨"missing closing )", String.ofList pattern⟩
    | top :: outer =>
      let push (n : Node) (rest : List Char) :=
        parseLoop pattern fuel rest ({ top with items := n :: top.items } :: outer) groups []
      let quantify (min : Nat) (max : Option Nat) (counted : Bool) (before afterOp : List Char) :=
        -- an optional `?` makes it lazy
        let (lazy, after) := match afterOp with
          | '?' :: r => (true, r)
          | r => (false, r)
        let greedy := if top.flags.ungreedy then lazy else !lazy
        let opText := String.ofList (before.take (before.length - after.length))
        if !lastRepeat.isEmpty then
          .error ⟨"invalid nested repetition operator",
            String.ofList (lastRepeat.take (lastRepeat.length - after.length))⟩
        else match top.items with
          | [] => .error ⟨"missing argument to repetition operator", opText⟩
          | n :: more =>
            let node := Node.repeat n min max greedy counted
            if counted && (min ≥ 2 || max.any (· ≥ 2)) && !repeatIsValid 1000 node 1000 then
              .error ⟨"invalid repeat count", opText⟩
            else parseLoop pattern fuel after ({ top with items := node :: more } :: outer) groups before
      match cs with
      | [] =>
        match outer with
        | [] => .ok (altOf (concatOf top.items :: top.branches), groups)
        | _ => .error ⟨"missing closing )", String.ofList pattern⟩
      | c :: rest =>
        match c with
        | '|' => parseLoop pattern fuel rest ({ top with branches := concatOf top.items :: top.branches, items := [] } :: outer) groups []
        | ')' =>
          match outer with
          | [] => .error ⟨"unexpected )", String.ofList pattern⟩
          | parent :: outer' =>
            let node := Node.group top.index (altOf (concatOf top.items :: top.branches))
            parseLoop pattern fuel rest ({ parent with items := node :: parent.items, flags := top.outerFlags } :: outer') groups []
        | '(' =>
          match rest with
          | '?' :: r =>
            -- a named group needs a character after `(?P<` or `(?<`
            let named : Option (List Char) := match r with
              | 'P' :: '<' :: r' => if r'.isEmpty then none else some r'
              | '<' :: r' => if r'.isEmpty then none else some r'
              | _ => none
            match named with
            | some r' =>
              let name := r'.takeWhile (· != '>')
              match r'.dropWhile (· != '>') with
              | '>' :: r'' =>
                if name.isEmpty || !name.all (fun ch => ch.isAlphanum || ch == '_') then
                  .error ⟨"invalid named capture", String.ofList ((c :: rest).take ((c :: rest).length - r''.length))⟩
                else
                  parseLoop pattern fuel r'' (⟨some (groups + 1), top.flags, top.flags, [], []⟩ :: stack) (groups + 1) []
              | _ => .error ⟨"invalid named capture", String.ofList (c :: rest)⟩
            | none =>
              match readFlags top.flags false false [] r with
              | .ok (f, false, r') => parseLoop pattern fuel r' ({ top with flags := f } :: outer) groups []
              | .ok (f, true, r') => parseLoop pattern fuel r' (⟨none, f, top.flags, [], []⟩ :: stack) groups []
              | .error seen => .error ⟨"invalid or unsupported Perl syntax", String.ofList ('(' :: '?' :: seen)⟩
          | _ =>
            parseLoop pattern fuel rest (⟨some (groups + 1), top.flags, top.flags, [], []⟩ :: stack) (groups + 1) []
        | '*' => quantify 0 none false (c :: rest) rest
        | '+' => quantify 1 none false (c :: rest) rest
        | '?' => quantify 0 (some 1) false (c :: rest) rest
        | '{' =>
          match readBraces rest with
          | some ((lo, hi, bounded), r) =>
            let opText := (c :: rest).take ((c :: rest).length - r.length)
            match lo, hi, bounded with
            | some lo, hi, bounded =>
              if lo > 1000 || (bounded && hi.isNone) || hi.any (· > 1000) || hi.any (lo > ·) then
                .error ⟨"invalid repeat count", String.ofList opText⟩
              else quantify lo hi true (c :: rest) r
            | none, _, _ => .error ⟨"invalid repeat count", String.ofList opText⟩
          | none => push (literal c.toNat top.flags.fold) rest
        | '.' => push (.anyChar top.flags.dotNL) rest
        | '^' => push (if top.flags.multiLine then .beginLine else .beginText) rest
        | '$' => push (if top.flags.multiLine then .endLine else .endText) rest
        | '[' =>
          let (neg, body) := match rest with
            | '^' :: r => (true, r)
            | r => (false, r)
          match readClassItems top.flags.fold (body.length + 1) body (c :: rest) [] true with
          | .ok (parts, r) => push (.chars parts neg) r
          | .error e => .error e
        | '\\' =>
          match rest with
          | 'A' :: r => push .beginText r
          | 'z' :: r => push .endText r
          | 'b' :: r => push (.wordBoundary false) r
          | 'B' :: r => push (.wordBoundary true) r
          | 'C' :: _ => .error ⟨"invalid escape sequence", "\\C"⟩
          | 'Q' :: r =>
            -- literal text up to \E
            let (txt, r') := quotedLiteral r []
            let nodes := txt.map fun ch => literal ch.toNat top.flags.fold
            parseLoop pattern fuel r' ({ top with items := nodes.reverse ++ top.items } :: outer) groups []
          | _ =>
            match readEscape rest (c :: rest) with
            | .ok (.cls rs neg, r) => push (.chars [⟨rs, neg, top.flags.fold⟩] false) r
            | .ok (.char ch, r) => push (literal ch top.flags.fold) r
            | .error e => .error e
        | _ => push (literal c.toNat top.flags.fold) rest

/-- A compiled instruction of the matching program. -/
inductive Inst where
  | chars (parts : List ClassPart) (negated : Bool)
  | anyChar (dotNL : Bool)
  | assert (node : Node)
  | split (first second : Nat)
  | jmp (target : Nat)
  | save (slot : Nat)
  | matched
deriving Inhabited

/-- Appends the program of a node at the end of `prog`. -/
def compileNode : Nat → Node → Array Inst → Array Inst
  | 0, _, prog => prog
  | fuel + 1, n, prog =>
    match n with
    | .empty => prog
    | .chars parts neg => prog.push (.chars parts neg)
    | .anyChar nl => prog.push (.anyChar nl)
    | .beginText | .endText | .beginLine | .endLine | .wordBoundary _ => prog.push (.assert n)
    | .group none body => compileNode fuel body prog
    | .group (some i) body =>
      let prog := prog.push (.save (2 * i))
      let prog := compileNode fuel body prog
      prog.push (.save (2 * i + 1))
    | .concat parts => parts.foldl (fun p part => compileNode fuel part p) prog
    | .alt [] => prog
    | .alt [b] => compileNode fuel b prog
    | .alt (b :: bs) =>
      -- split L1, L2; L1: b; jmp end; L2: rest
      let splitAt := prog.size
      let prog := prog.push (.split 0 0)
      let prog := compileNode fuel b prog
      let jmpAt := prog.size
      let prog := prog.push (.jmp 0)
      let secondStart := prog.size
      let prog := compileNode fuel (.alt bs) prog
      let endAt := prog.size
      let prog := prog.set! splitAt (.split (splitAt + 1) secondStart)
      prog.set! jmpAt (.jmp endAt)
    | .repeat body lo hi greedy _ =>
      -- the required copies, then optional ones
      let prog := (List.range lo).foldl (fun p _ => compileNode fuel body p) prog
      match hi with
      | none =>
        -- L: split body, end; body; jmp L
        let loopAt := prog.size
        let prog := prog.push (.split 0 0)
        let prog := compileNode fuel body prog
        let prog := prog.push (.jmp loopAt)
        let endAt := prog.size
        prog.set! loopAt (if greedy then .split (loopAt + 1) endAt else .split endAt (loopAt + 1))
      | some h =>
        (List.range (h - lo)).foldl (fun p _ =>
          let here := p.size
          let p := p.push (.split 0 0)
          let p := compileNode fuel body p
          let endAt := p.size
          p.set! here (if greedy then .split (here + 1) endAt else .split endAt (here + 1))) prog

/-- A compiled pattern. -/
structure Compiled where
  source : String
  prog : Array Inst
  groups : Nat

/-- Parses and compiles a pattern. -/
def compile (pattern : String) : Except String Compiled :=
  let cs := pattern.toList
  match parseLoop cs (4 * cs.length + 8) cs [⟨some 0, {}, {}, [], []⟩] 0 [] with
  | .error e => .error e.message
  | .ok (node, groups) =>
    let prog := compileNode 10000 (.group (some 0) node) #[]
    .ok ⟨pattern, prog.push .matched, groups⟩

/-- Is `c` a word character? -/
def isWordChar (c : Char) : Bool := c.isAlphanum || c == '_'

/-- Is a code point in a part of a class? -/
def ClassPart.holds (p : ClassPart) (n : Nat) : Bool :=
  let hit := if p.fold then (UnicodeData.orbit n).any (inRanges · p.ranges) else inRanges n p.ranges
  hit != p.negated

/-- Does a character satisfy a class instruction: is it in one of its parts (in none, when the
class is negated)? -/
def classMatches (parts : List ClassPart) (negated : Bool) (c : Char) : Bool :=
  parts.any (·.holds c.toNat) != negated

/-- Does an assertion hold between `prev` and `next`? -/
def assertHolds (n : Node) (prev next : Option Char) : Bool :=
  match n with
  | .beginText => prev.isNone
  | .endText => next.isNone
  | .beginLine => prev.isNone || prev == some '\n'
  | .endLine => next.isNone || next == some '\n'
  | .wordBoundary neg =>
    let a := (prev.map isWordChar).getD false
    let b := (next.map isWordChar).getD false
    if neg then a == b else a != b
  | _ => true

/-- A running thread: its instruction and capture slots. -/
structure Thread where
  pc : Nat
  caps : Array (Option Nat)

/-- Adds a thread and everything it reaches without reading a character, in priority order;
`seen` holds the instructions already added at this position. -/
def addThread (prog : Array Inst) (pos : Nat) (prev next : Option Char) :
    Nat → Thread → List Thread × List Nat → List Thread × List Nat
  | 0, _, acc => acc
  | fuel + 1, t, (ts, seen) =>
    if seen.contains t.pc then (ts, seen)
    else
      let seen := t.pc :: seen
      match prog[t.pc]? with
      | none => (ts, seen)
      | some inst =>
        match inst with
        | .jmp target => addThread prog pos prev next fuel ⟨target, t.caps⟩ (ts, seen)
        | .split a b =>
          let acc := addThread prog pos prev next fuel ⟨a, t.caps⟩ (ts, seen)
          addThread prog pos prev next fuel ⟨b, t.caps⟩ acc
        | .save slot =>
          let caps := if slot < t.caps.size then t.caps.set! slot (some pos) else t.caps
          addThread prog pos prev next fuel ⟨t.pc + 1, caps⟩ (ts, seen)
        | .assert n =>
          if assertHolds n prev next then addThread prog pos prev next fuel ⟨t.pc + 1, t.caps⟩ (ts, seen)
          else (ts, seen)
        | _ => (ts ++ [t], seen)

/-- Runs the program over `text` from position `start`; the capture slots of the
leftmost-first match. -/
def run (re : Compiled) (text : Array Char) (start : Nat) : Option (Array (Option Nat)) :=
  let n := text.size
  let slots := 2 * (re.groups + 1)
  let fuelAdd := re.prog.size + 1
  let charAt (i : Nat) : Option Char := text[i]?
  let prevAt (i : Nat) : Option Char := if i = 0 then none else text[i - 1]?
  -- one step at position i over the current threads
  let rec loop : Nat → Nat → List Thread × List Nat → Option (Array (Option Nat)) →
      Option (Array (Option Nat))
    | 0, _, _, found => found
    | fuel + 1, i, (clist, seen), found =>
      -- seed a new thread at this position, below the older ones, while nothing is found yet
      let (clist, _) :=
        if found.isNone then
          addThread re.prog i (prevAt i) (charAt i) fuelAdd ⟨0, Array.replicate slots none⟩ (clist, seen)
        else (clist, seen)
      -- step every thread over the character at i, in priority order
      let c := charAt i
      let step : (List Thread × List Nat) × Option (Array (Option Nat)) × Bool → Thread →
          (List Thread × List Nat) × Option (Array (Option Nat)) × Bool :=
        fun (nacc, fnd, stop) t =>
          if stop then (nacc, fnd, stop)
          else match re.prog[t.pc]? with
            | some .matched => (nacc, some t.caps, true)
            | some (.chars parts neg) =>
              match c with
              | some ch =>
                if classMatches parts neg ch then
                  (addThread re.prog (i + 1) c (charAt (i + 1)) fuelAdd ⟨t.pc + 1, t.caps⟩ nacc, fnd, stop)
                else (nacc, fnd, stop)
              | none => (nacc, fnd, stop)
            | some (.anyChar nl) =>
              match c with
              | some ch =>
                if nl || ch != '\n' then
                  (addThread re.prog (i + 1) c (charAt (i + 1)) fuelAdd ⟨t.pc + 1, t.caps⟩ nacc, fnd, stop)
                else (nacc, fnd, stop)
              | none => (nacc, fnd, stop)
            | _ => (nacc, fnd, stop)
      let (nacc, found', _) := clist.foldl step (([], []), found, false)
      if i ≥ n then found'
      else if nacc.1.isEmpty && found'.isSome then found'
      else loop fuel (i + 1) nacc found'
  loop (n + 2 - start) start ([], []) none

/-- Does the pattern match somewhere in `s`? -/
def Compiled.matches (re : Compiled) (s : String) : Bool := (run re s.toList.toArray 0).isSome

/-- The character positions of the leftmost-first match and of its groups. -/
def Compiled.find? (re : Compiled) (s : String) : Option (Array (Option Nat)) :=
  run re s.toList.toArray 0

end CreditExtraction.Text.Regex
