import CreditExtraction.Json.Value
import CreditExtraction.Text.Utf8

/-!
# Reading JSON text

`Json.parseBytes` reads one JSON document from bytes and fails with the message of the first
byte that cannot continue the text:

* `unexpected end of JSON input` when the text stops inside a value (or is blank);
* `invalid character 'c' <where>` otherwise, where `<where>` names what was expected:
  `looking for beginning of value`, `after object key`, `after array element`, `in numeric
  literal`, `in literal true (expecting 'r')`, `after top-level value`, and so on.

The offending byte is shown as a character literal of its code (a byte above `0x7F` shows as
the Latin-1 character of that code). Inside strings, escapes are decoded, a lone surrogate
escape becomes U+FFFD, and each byte that is not well-formed UTF-8 becomes U+FFFD.
-/

namespace CreditExtraction.Json

open Text

/-- The message of an unexpected byte `b` in the given context. -/
def invalidChar (b : UInt8) (context : String) : String :=
  let c := Char.ofNat b.toNat
  let shown := if c = '\'' then "'\\''" else if c = '"' then "'\"'" else Quoted.quoteRune c
  "invalid character " ++ shown ++ " " ++ context

/-- The message of input that ends inside a value. -/
def unexpectedEnd : String := "unexpected end of JSON input"

/-- Insignificant white space: space, tab, newline and return. -/
def isBlank (b : UInt8) : Bool := b == 32 || b == 9 || b == 10 || b == 13

/-- Skips white space. -/
def skipBlank : List UInt8 → List UInt8
  | b :: rest => if isBlank b then skipBlank rest else b :: rest
  | [] => []

/-- Is `b` an ASCII digit? -/
def isDigitByte (b : UInt8) : Bool := 48 ≤ b && b ≤ 57

/-- Splits off a run of digits. -/
def spanDigits (bs : List UInt8) : List UInt8 × List UInt8 :=
  (bs.takeWhile isDigitByte, bs.dropWhile isDigitByte)

/-- Reads a number literal; the rest starts after it. -/
def readNumber (bs : List UInt8) : Except String (List UInt8 × List UInt8) := do
  let (sign, rest) : List UInt8 × List UInt8 := match bs with
    | 45 :: r => ([45], r)
    | r => ([], r)
  -- integer part: `0` or a non-zero digit and digits
  let (intPart, rest) ← match rest with
    | 48 :: r => pure ([48], r)
    | b :: r =>
      if isDigitByte b then
        let (ds, r') := spanDigits r
        pure (b :: ds, r')
      else throw (invalidChar b "in numeric literal")
    | [] => throw unexpectedEnd
  let (frac, rest) ← match rest with
    | 46 :: r =>
      match r with
      | b :: _ =>
        if isDigitByte b then
          let (ds, r') := spanDigits r
          pure (46 :: ds, r')
        else throw (invalidChar b "after decimal point in numeric literal")
      | [] => throw unexpectedEnd
    | r => pure ([], r)
  let (exp, rest) ← match rest with
    | e :: r =>
      if e == 101 || e == 69 then
        let (sgn, r) : List UInt8 × List UInt8 := match r with
          | 43 :: r' => ([43], r')
          | 45 :: r' => ([45], r')
          | r' => ([], r')
        match r with
        | b :: _ =>
          if isDigitByte b then
            let (ds, r') := spanDigits r
            pure (e :: sgn ++ ds, r')
          else throw (invalidChar b "in exponent of numeric literal")
        | [] => throw unexpectedEnd
      else pure ([], e :: r)
    | [] => pure ([], [])
  pure (sign ++ intPart ++ frac ++ exp, rest)

/-- Reads the rest of a literal word after its first letter. -/
def readWord (word : String) (bs : List UInt8) : Except String (List UInt8) :=
  go (word.toList.drop 1) bs
where
  go : List Char → List UInt8 → Except String (List UInt8)
    | [], r => .ok r
    | c :: cs, b :: r =>
      if b.toNat == c.toNat then go cs r
      else .error (invalidChar b ("in literal " ++ word ++ " (expecting " ++ Quoted.quoteRune c ++ ")"))
    | _ :: _, [] => .error unexpectedEnd

/-- The value of a hexadecimal digit byte. -/
def hexByte (b : UInt8) : Option Nat :=
  if isDigitByte b then some (b.toNat - 48)
  else if 97 ≤ b && b ≤ 102 then some (b.toNat - 87)
  else if 65 ≤ b && b ≤ 70 then some (b.toNat - 55)
  else none

/-- Reads the four hexadecimal digits of a `\u` escape. -/
def readHex4 : Nat → List UInt8 → Nat → Except String (Nat × List UInt8)
  | 0, bs, acc => .ok (acc, bs)
  | k + 1, b :: rest, acc =>
    match hexByte b with
    | some v => readHex4 k rest (acc * 16 + v)
    | none => .error (invalidChar b "in \\u hexadecimal character escape")
  | _ + 1, [], _ => .error unexpectedEnd

/-- A piece of a string literal: raw bytes (reversed) or a decoded escape. -/
inductive StrPiece where
  | bytes (bs : List UInt8)
  | code (n : Nat)

/-- Reads the body of a string literal up to its closing quote; the pieces come back in
reverse order. -/
def readStringBody : Nat → List UInt8 → List StrPiece → Except String (List StrPiece × List UInt8)
  | 0, _, _ => .error unexpectedEnd
  | _, [], _ => .error unexpectedEnd
  | fuel + 1, b :: rest, acc =>
    if b == 34 then .ok (acc, rest)
    else if b == 92 then
      match rest with
      | [] => .error unexpectedEnd
      | e :: r =>
        let code : Option Nat :=
          if e == 98 then some 8
          else if e == 102 then some 12
          else if e == 110 then some 10
          else if e == 114 then some 13
          else if e == 116 then some 9
          else if e == 92 then some 92
          else if e == 47 then some 47
          else if e == 34 then some 34
          else none
        match code with
        | some c => readStringBody fuel r (.code c :: acc)
        | none =>
          if e == 117 then
            match readHex4 4 r 0 with
            | .ok (n, r') => readStringBody fuel r' (.code n :: acc)
            | .error m => .error m
          else .error (invalidChar e "in string escape code")
    else if b < 32 then .error (invalidChar b "in string literal")
    else
      match acc with
      | .bytes bs :: acc' => readStringBody fuel rest (.bytes (b :: bs) :: acc')
      | _ => readStringBody fuel rest (.bytes [b] :: acc)

/-- Is `n` a UTF-16 surrogate? -/
def isSurrogate (n : Nat) : Bool := 0xD800 ≤ n && n < 0xE000

/-- Joins escape code units: a high surrogate followed by a low one makes one code point, any
other surrogate is U+FFFD. -/
def joinCodes : List Nat → List Char
  | [] => []
  | [n] => [if isSurrogate n then Utf8.replacement else Char.ofNat n]
  | hi :: lo :: rest =>
    if 0xD800 ≤ hi ∧ hi < 0xDC00 ∧ 0xDC00 ≤ lo ∧ lo < 0xE000 then
      Char.ofNat (0x10000 + (hi - 0xD800) * 0x400 + (lo - 0xDC00)) :: joinCodes rest
    else (if isSurrogate hi then Utf8.replacement else Char.ofNat hi) :: joinCodes (lo :: rest)

/-- The characters of string pieces given in reading order; `codes` are pending escapes. -/
def piecesChars : List StrPiece → List Nat → List Char
  | [], codes => joinCodes codes.reverse
  | .bytes bs :: rest, codes => joinCodes codes.reverse ++ (Utf8.lossy bs).toList ++ piecesChars rest []
  | .code n :: rest, codes => piecesChars rest (n :: codes)

/-- Reads a string literal after its opening quote. -/
def readString (bs : List UInt8) : Except String (String × List UInt8) := do
  let (acc, rest) ← readStringBody (bs.length + 1) bs []
  let ps := acc.reverse.map fun
    | .bytes b => .bytes b.reverse
    | p => p
  pure (String.ofList (piecesChars ps []), rest)

/-- The text of a number literal's bytes. -/
def literalText (bs : List UInt8) : String := String.ofList (bs.map fun x => Char.ofNat x.toNat)

mutual
/-- Reads a value after white space; `fuel` bounds the nesting. -/
def readValue : Nat → List UInt8 → Except String (Json × List UInt8)
  | 0, _ => .error "exceeded max depth"
  | fuel + 1, bs =>
    match skipBlank bs with
    | [] => .error unexpectedEnd
    | b :: rest =>
      if b == 123 then readMembers fuel rest [] true
      else if b == 91 then readElements fuel rest [] true
      else if b == 34 then
        match readString rest with
        | .ok (s, r) => .ok (.str s, r)
        | .error m => .error m
      else if b == 45 || isDigitByte b then
        match readNumber (b :: rest) with
        | .ok (lit, r) => .ok (.num (literalText lit), r)
        | .error m => .error m
      else if b == 116 then (readWord "true" rest).map fun r => (.bool true, r)
      else if b == 102 then (readWord "false" rest).map fun r => (.bool false, r)
      else if b == 110 then (readWord "null" rest).map fun r => (.null, r)
      else .error (invalidChar b "looking for beginning of value")

/-- Reads array elements, each followed by a comma or the closing bracket; at the `first`
element the closing bracket may come at once. -/
def readElements : Nat → List UInt8 → List Json → Bool → Except String (Json × List UInt8)
  | 0, _, _, _ => .error "exceeded max depth"
  | fuel + 1, bs, acc, first =>
    match first, skipBlank bs with
    | true, 93 :: rest => .ok (.arr [], rest)
    | _, _ =>
      match readValue fuel bs with
      | .error m => .error m
      | .ok (v, rest) =>
        match skipBlank rest with
        | 44 :: r => readElements fuel r (v :: acc) false
        | 93 :: r => .ok (.arr (v :: acc).reverse, r)
        | b :: _ => .error (invalidChar b "after array element")
        | [] => .error unexpectedEnd

/-- Reads object members, each followed by a comma or the closing brace; at the `first`
member the closing brace may come at once. -/
def readMembers : Nat → List UInt8 → List (String × Json) → Bool → Except String (Json × List UInt8)
  | 0, _, _, _ => .error "exceeded max depth"
  | fuel + 1, bs, acc, first =>
    match skipBlank bs with
    | [] => .error unexpectedEnd
    | b :: rest =>
      if first && b == 125 then .ok (.obj [], rest)
      else if b != 34 then .error (invalidChar b "looking for beginning of object key string")
      else
        match readString rest with
        | .error m => .error m
        | .ok (k, rest) =>
          match skipBlank rest with
          | [] => .error unexpectedEnd
          | c :: rest =>
            if c != 58 then .error (invalidChar c "after object key")
            else
              match readValue fuel rest with
              | .error m => .error m
              | .ok (v, rest) =>
                match skipBlank rest with
                | 44 :: r => readMembers fuel r ((k, v) :: acc) false
                | 125 :: r => .ok (.obj ((k, v) :: acc).reverse, r)
                | d :: _ => .error (invalidChar d "after object key:value pair")
                | [] => .error unexpectedEnd
end

/-- Reads exactly one JSON document from bytes (white space around it allowed). -/
def parseBytes (bs : List UInt8) : Except String Json := do
  let (v, rest) ← readValue (bs.length + 2) bs
  match skipBlank rest with
  | [] => pure v
  | b :: _ => throw (invalidChar b "after top-level value")

/-- Reads exactly one JSON document from text. -/
def parse (s : String) : Except String Json := parseBytes s.toUTF8.toList

end CreditExtraction.Json
