import CreditExtraction.Pdf.Object
import CreditExtraction.Text.Integer

/-!
# Scanning PDF objects

A PDF file is read from a byte offset on: the scanner splits the bytes into tokens (§7.2) and
builds objects from them (§7.3). Reading starts at an offset of the file and goes on to its
end; reading past the end fails with `malformed PDF: reading at offset N: EOF`, where `N` is
where reading stopped: the end of the file, or the starting offset when that already lies
beyond it.

Reading goes through a buffer of 4096 bytes aligned to the file's 4096-byte blocks (the first
fill runs from the starting offset to the end of its block). Two things show it: a malformed
hex string's message quotes what is left of the buffer, and a negative starting offset asks for
more than the buffer holds unless it is a whole number of blocks.

Tokens put back (`unread`) are taken again before any new byte, the last one first. An object
number followed by a generation and `R` is a reference, followed by `obj` a definition that
must end with `endobj` (unless its body is a stream). In a file whose strings are encrypted
with AES, reading a string inside a definition fails: this reader decrypts only RC4.
-/

namespace CreditExtraction.Pdf

/-- A reading position: the file, where the current read began, the next byte, the tokens put
back (the next to be taken first), the definition being read, and whether the strings of
definitions are AES-encrypted. -/
structure Cursor where
  data : ByteArray
  origin : Int
  pos : Nat
  pending : List Obj
  current : Ref
  aes : Bool

/-- Reading from the offset `off` of `data`. -/
def Cursor.start (data : ByteArray) (off : Int) (aes : Bool) : Cursor :=
  ⟨data, off, off.toNat, [], ⟨0, 0⟩, aes⟩

/-- Reading objects: a failure is the message the reader stops with. -/
abbrev Scan := StateT Cursor (Except String)

/-- The size of the reading buffer. -/
def blockSize : Nat := 4096

/-- The failure of a read that begins at a negative offset. -/
def negativeRead (off : Int) : String :=
  let want : Int := (blockSize : Int) - off.tmod blockSize
  if want > blockSize then
    "runtime error: slice bounds out of range [:" ++ toString want ++ "] with capacity 4096"
  else "malformed PDF: reading at offset " ++ toString off ++ ": bytes.Reader.ReadAt: negative offset"

/-- The failure of reading past the end of the file. -/
def pastEnd : Scan α := do
  let c ← get
  if c.origin < 0 then throw (negativeRead c.origin)
  throw ("malformed PDF: reading at offset " ++ toString (max c.origin (c.data.size : Int)) ++ ": EOF")

/-- The next byte. -/
def readByte : Scan UInt8 := do
  let c ← get
  if c.origin < 0 then throw (negativeRead c.origin)
  if h : c.pos < c.data.size then
    set { c with pos := c.pos + 1 }
    pure c.data[c.pos]
  else pastEnd

/-- Steps back over the byte just read. -/
def unreadByte : Scan Unit := modify fun c => { c with pos := c.pos - 1 }

/-- Puts a token back. -/
def unread (t : Obj) : Scan Unit := modify fun c => { c with pending := t :: c.pending }

/-- The bytes left in the buffer after the current position. -/
def bufferRest (c : Cursor) : List UInt8 :=
  let blockEnd := ((c.pos - 1) / blockSize + 1) * blockSize
  (c.data.extract c.pos (min blockEnd c.data.size)).toList

/-- White space: NUL, tab, line feed, form feed, carriage return and space. -/
def isSpace (b : UInt8) : Bool := b == 0 || b == 9 || b == 10 || b == 12 || b == 13 || b == 32

/-- The delimiters `< > ( ) [ ] { } / %`. -/
def isDelim (b : UInt8) : Bool :=
  b == 60 || b == 62 || b == 40 || b == 41 || b == 91 || b == 93 || b == 123 || b == 125 ||
  b == 47 || b == 37

/-- The value of a hexadecimal digit. -/
def unhex (b : UInt8) : Option Nat :=
  if 48 ≤ b ∧ b ≤ 57 then some (b.toNat - 48)
  else if 97 ≤ b ∧ b ≤ 102 then some (b.toNat - 87)
  else if 65 ≤ b ∧ b ≤ 70 then some (b.toNat - 55)
  else none

/-- The byte text of bytes. -/
def ofBytes (bs : List UInt8) : String := String.ofList (bs.map fun b => Char.ofNat b.toNat)

/-- Skips to the end of a comment line; gives the line break. -/
def skipLine : Nat → UInt8 → Scan UInt8
  | 0, _ => pastEnd
  | fuel + 1, c => if c == 13 || c == 10 then pure c else do skipLine fuel (← readByte)

/-- Skips white space and comments from the byte `c` on; gives the first other byte. -/
def skipBlank : Nat → UInt8 → Scan UInt8
  | 0, _ => pastEnd
  | fuel + 1, c =>
    if isSpace c then do skipBlank fuel (← readByte)
    else if c == 37 then do skipBlank fuel (← skipLine fuel c)
    else pure c

/-- Reads bytes up to a delimiter or white space, which is left unread. -/
def readWord : Nat → List UInt8 → Scan (List UInt8)
  | 0, _ => pastEnd
  | fuel + 1, acc => do
    let c ← readByte
    if isDelim c || isSpace c then
      unreadByte
      pure acc.reverse
    else readWord fuel (c :: acc)

/-- Is the word an optional sign and digits? -/
def isIntegerWord (w : List UInt8) : Bool :=
  let w := match w with
    | s :: rest => if s == 43 || s == 45 then rest else w
    | [] => []
  !w.isEmpty && w.all fun b => 48 ≤ b ∧ b ≤ 57

/-- Is the word an optional sign and digits with exactly one point among them? -/
def isRealWord (w : List UInt8) : Bool :=
  let w := match w with
    | s :: rest => if s == 43 || s == 45 then rest else w
    | [] => []
  !w.isEmpty && w.all (fun b => b == 46 ∨ (48 ≤ b ∧ b ≤ 57)) && w.count 46 == 1

/-- The token of a bare word: a boolean, an integer, a real or a keyword. -/
def wordToken (w : List UInt8) : Except String Obj :=
  let s := ofBytes w
  if s == "true" then pure (.bool true)
  else if s == "false" then pure (.bool false)
  else if isIntegerWord w then
    match Text.parseDecimal s 64 with
    | some n => pure (.int n)
    | none => throw ("invalid integer " ++ s)
  else if isRealWord w then
    match Text.readFloat .binary64 s with
    | .ok x => pure (.real x)
    | .error _ => throw ("invalid real " ++ s)
  else pure (.keyword s)

/-- Reads a name after its slash; `#` and two hexadecimal digits stand for one byte. -/
def readName : Nat → List UInt8 → Scan Obj
  | 0, _ => pastEnd
  | fuel + 1, acc => do
    let c ← readByte
    if isDelim c || isSpace c then
      unreadByte
      pure (.name (ofBytes acc.reverse))
    else if c == 35 then
      let hi ← readByte
      let lo ← readByte
      match unhex hi, unhex lo with
      | some h, some l => readName fuel ((h * 16 + l).toUInt8 :: acc)
      | _, _ => throw "malformed name"
    else readName fuel (c :: acc)

/-- Reads a byte, skipping white space. -/
def readSignificant : Nat → Scan UInt8
  | 0 => pastEnd
  | fuel + 1 => do
    let c ← readByte
    if isSpace c then readSignificant fuel else pure c

/-- Reads a hexadecimal string after its `<`: pairs of digits up to `>`, white space ignored. -/
def readHex : Nat → List UInt8 → Scan Obj
  | 0, _ => pastEnd
  | fuel + 1, acc => do
    let c ← readByte
    if c == 62 then pure (.str (ofBytes acc.reverse))
    else if isSpace c then readHex fuel acc
    else
      let c2 ← readSignificant fuel
      match unhex c, unhex c2 with
      | some h, some l => readHex fuel ((h * 16 + l).toUInt8 :: acc)
      | _, _ =>
        let cur ← get
        throw ("malformed hex string " ++ ByteText.ofRune c ++ " " ++ ByteText.ofRune c2 ++ " " ++
          ofBytes (bufferRest cur))

/-- Reads up to two more octal digits after the first of an escape. -/
def readOctal : Nat → Nat → Scan Nat
  | 0, x => pure x
  | more + 1, x => do
    let c ← readByte
    if 48 ≤ c ∧ c ≤ 55 then readOctal more (x * 8 + (c.toNat - 48))
    else
      unreadByte
      pure x

/-- Three octal digits of a number below 512. -/
def octal3 (x : Nat) : String :=
  String.ofList [Char.ofNat (48 + x / 64 % 8), Char.ofNat (48 + x / 8 % 8), Char.ofNat (48 + x % 8)]

/-- Reads a literal string after its `(`, up to the `)` that balances it, with its escapes. -/
def readLiteral : Nat → Nat → List UInt8 → Scan Obj
  | 0, _, _ => pastEnd
  | fuel + 1, depth, acc => do
    let c ← readByte
    if c == 40 then readLiteral fuel (depth + 1) (c :: acc)
    else if c == 41 then
      if depth ≤ 1 then pure (.str (ofBytes acc.reverse))
      else readLiteral fuel (depth - 1) (c :: acc)
    else if c == 92 then
      let e ← readByte
      if e == 110 then readLiteral fuel depth (10 :: acc)
      else if e == 114 then readLiteral fuel depth (13 :: acc)
      else if e == 98 then readLiteral fuel depth (8 :: acc)
      else if e == 116 then readLiteral fuel depth (9 :: acc)
      else if e == 102 then readLiteral fuel depth (12 :: acc)
      else if e == 40 || e == 41 || e == 92 then readLiteral fuel depth (e :: acc)
      else if e == 13 then
        let d ← readByte
        if d != 10 then unreadByte
        readLiteral fuel depth acc
      else if e == 10 then readLiteral fuel depth acc
      else if 48 ≤ e ∧ e ≤ 55 then
        let x ← readOctal 2 (e.toNat - 48)
        if x > 255 then throw ("invalid octal escape \\" ++ octal3 x)
        readLiteral fuel depth (x.toUInt8 :: acc)
      else throw ("invalid escape sequence \\" ++ ByteText.ofRune e)
    else readLiteral fuel depth (c :: acc)

/-- The next token: a put-back one, or the next one in the file. -/
def readToken : Scan Obj := do
  let cur ← get
  match cur.pending with
  | t :: rest =>
    set { cur with pending := rest }
    pure t
  | [] =>
    let fuel := cur.data.size + 2
    let c ← skipBlank fuel (← readByte)
    if c == 60 then
      if (← readByte) == 60 then pure (.keyword "<<")
      else
        unreadByte
        readHex fuel []
    else if c == 40 then readLiteral fuel 1 []
    else if c == 91 || c == 93 || c == 123 || c == 125 then pure (.keyword (ofBytes [c]))
    else if c == 47 then readName fuel []
    else if c == 62 then
      if (← readByte) == 62 then pure (.keyword ">>")
      else
        unreadByte
        throw "unexpected delimiter '>'"
    else if isDelim c then throw ("unexpected delimiter " ++ ByteText.ofText (Text.Quoted.quoteRune (Char.ofNat c.toNat)))
    else
      unreadByte
      let w ← readWord fuel []
      match wordToken w with
      | .ok t => pure t
      | .error e => throw e

/-- Is an integer an object number (an unsigned 32-bit value)? -/
def isObjectNumber (n : Int) : Bool := 0 ≤ n && n < Int.pow 2 32

/-- Is an integer a generation number (an unsigned 16-bit value)? -/
def isGeneration (n : Int) : Bool := 0 ≤ n && n < Int.pow 2 16

/-- The absolute offset of the next byte. -/
def readOffset : Scan Int := do pure ((← get).pos : Int)

mutual
/-- Reads one object. -/
def readObject : Nat → Scan Obj
  | 0 => pastEnd
  | fuel + 1 => do
    let tok ← readToken
    match tok with
    | .keyword k =>
      if k == "null" then pure .null
      else if k == "<<" then readDict fuel []
      else if k == "[" then readArray fuel []
      else if k == ">>" then pure tok
      else throw ("unexpected keyword " ++ ByteText.ofText (Text.Quoted.quoteBytes (ByteText.bytes k)) ++
        " parsing object")
    | .int t1 =>
      if !isObjectNumber t1 then pure tok
      else
        let tok2 ← readToken
        match tok2 with
        | .int t2 =>
          if !isGeneration t2 then
            unread tok2
            pure tok
          else
            let tok3 ← readToken
            let r : Ref := ⟨t1.toNat, t2.toNat⟩
            if tok3.isKeyword "R" then pure (.ref r)
            else if tok3.isKeyword "obj" then
              let outer := (← get).current
              modify fun c => { c with current := r }
              let body ← readObject fuel
              match body with
              | .stream .. => pure ()
              | _ =>
                let tok4 ← readToken
                if !tok4.isKeyword "endobj" then throw "missing endobj after indirect object definition"
              modify fun c => { c with current := outer }
              pure (.defn r body)
            else
              unread tok3
              unread tok2
              pure tok
        | _ =>
          unread tok2
          pure tok
    | .str _ =>
      let cur ← get
      if cur.aes && cur.current.id != 0 then throw "AES not implemented"
      pure tok
    | other => pure other

/-- Reads the entries of a dictionary after its `<<`, then a stream if one follows. -/
def readDict : Nat → List (String × Obj) → Scan Obj
  | 0, _ => pastEnd
  | fuel + 1, acc => do
    let tok ← readToken
    if tok.isKeyword ">>" then
      let next ← readToken
      if !next.isKeyword "stream" then
        unread next
        pure (.dict acc)
      else
        let c ← readByte
        match c with
        | 13 => do
          let d ← readByte
          if d != 10 then unreadByte
        | 10 => pure ()
        | _ => throw "stream keyword not followed by newline"
        let cur ← get
        pure (.stream acc cur.current cur.pos)
    else match tok with
      | .name n =>
        let v ← readObject fuel
        readDict fuel (Obj.insert acc n v)
      | other =>
        throw ("unexpected non-name key " ++ other.kindName ++ "(" ++ other.plain ++ ") parsing dictionary")

/-- Reads the items of an array after its `[`. -/
def readArray : Nat → List Obj → Scan Obj
  | 0, _ => pastEnd
  | fuel + 1, acc => do
    let tok ← readToken
    if tok.isKeyword "]" then pure (.array acc.reverse)
    else
      unread tok
      let x ← readObject fuel
      readArray fuel (x :: acc)
end

/-- Reads one object with enough fuel for the whole file. -/
def readObjectHere : Scan Obj := do
  readObject (3 * (← get).data.size + 16)

end CreditExtraction.Pdf
