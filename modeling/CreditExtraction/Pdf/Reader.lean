import CreditExtraction.Pdf.Scan
import CreditExtraction.Pdf.Security

/-!
# Opening a PDF file

A file is opened from its end (ISO 32000-1 §7.5): the last 100 bytes must end, blanks aside,
with `%%EOF` and hold a line `startxref` followed by the offset of the cross-reference table.
The table lists where each object is defined; the trailer dictionary after it names the root
of the document. The page count is the `/Count` of the root's page tree, `0` when any link on
the way is missing.

An encrypted file is opened when the standard security handler accepts the empty password
(see `Pdf.Security`); any other handler, or a password that does not fit, fails.

Objects are read only when they are reached, so a damaged definition shows only when the page
count passes through it. A failure is a message: what the file's reader returned, or what it
stopped with.
-/

namespace CreditExtraction.Pdf

/-- A row of the cross-reference table: the reference defined there and where its definition
starts. -/
structure XrefRow where
  ref : Ref
  offset : Int
deriving Repr, Inhabited

/-- The cross-reference table: how many rows it has and the rows that are set (every other
row is empty). -/
structure XrefTable where
  length : Nat
  rows : List (Nat × XrefRow)
deriving Repr, Inhabited

namespace XrefTable

/-- The row at index `i`, if it is set. -/
def row (t : XrefTable) (i : Nat) : Option XrefRow :=
  if i < t.length then (t.rows.find? (·.1 == i)).map (·.2) else none

/-- The table grown to hold index `x`. -/
def grow (t : XrefTable) (x : Nat) : XrefTable := { t with length := max t.length (x + 1) }

/-- The table with row `x` set, unless it already holds a definition with an offset. -/
def define (t : XrefTable) (x : Nat) (r : XrefRow) : XrefTable :=
  match t.row x with
  | some old => if old.offset == 0 then { t with rows := t.rows.map fun e => if e.1 == x then (x, r) else e } else t
  | none => { t with rows := (x, r) :: t.rows }

end XrefTable

/-- An opened file: its bytes, its cross-reference table, its trailer dictionary, and whether
the strings of its definitions are AES-encrypted. -/
structure Document where
  data : ByteArray
  table : XrefTable
  trailer : List (String × Obj)
  aes : Bool

/-- The message of a malformed cross-reference table. -/
def malformedTable : String := "malformed PDF: malformed xref table"

/-- Reads one row of a subsection (`offset generation f|n`) and enters it at index `x`. -/
def readRow (x : Int) (table : XrefTable) : Scan XrefTable := do
  let off ← readToken
  let gen ← readToken
  let alloc ← readToken
  match off, gen, alloc with
  | .int off, .int gen, .keyword a =>
    if a != "f" && a != "n" then throw malformedTable
    let table := if x ≥ 0 then table.grow x.toNat else table
    if a != "n" then return table
    if x < 0 then throw ("runtime error: index out of range [" ++ toString x ++ "]")
    pure (table.define x.toNat ⟨⟨(x % Int.pow 2 32).toNat, (gen % Int.pow 2 16).toNat⟩, off⟩)
  | _, _, _ => throw malformedTable

/-- Reads the rows `i, i+1, …` of a subsection that starts at object `start`. -/
def readSubsection (start : Int) : Nat → Nat → XrefTable → Scan XrefTable
  | 0, _, table => pure table
  | left + 1, i, table => do readSubsection start left (i + 1) (← readRow (start + i) table)

/-- Reads subsections (`start count` and the rows) up to the keyword `trailer`. -/
def readSections : Nat → XrefTable → Scan XrefTable
  | 0, _ => pastEnd
  | fuel + 1, table => do
    let tok ← readToken
    if tok.isKeyword "trailer" then return table
    let tok2 ← readToken
    match tok, tok2 with
    | .int start, .int n =>
      let size := (← get).data.size
      readSections fuel (← readSubsection start (min n.toNat (size + 1)) 0 table)
    | _, _ => throw malformedTable

/-- Reads the sections of a table and the trailer dictionary after them. -/
def readTableAndTrailer (table : XrefTable) (noTrailer : String) :
    Scan (XrefTable × List (String × Obj)) := do
  let table ← readSections ((← get).data.size + 2) table
  match ← readObjectHere with
  | .dict d => pure (table, d)
  | _ => throw noTrailer

/-- Runs a reading from offset `off` of the file, its definitions' strings AES-encrypted or not. -/
def scanAt (data : ByteArray) (off : Int) (s : Scan α) (aes : Bool := false) : Except String α :=
  (s.run (Cursor.start data off aes)).map (·.1)

/-- Follows the `/Prev` links of the trailers, merging the older tables under the newer rows. -/
def followPrev (data : ByteArray) : Nat → Obj → XrefTable → Except String XrefTable
  | 0, _, table => pure table
  | fuel + 1, prev, table =>
    match prev with
    | .null => pure table
    | .int off => do
      let (table, older) ← scanAt data off do
        let tok ← readToken
        if !tok.isKeyword "xref" then throw "malformed PDF: xref Prev does not point to xref"
        readTableAndTrailer table "malformed PDF: xref Prev table not followed by trailer dictionary"
      followPrev data fuel (Obj.lookup older "Prev") table
    | other => throw ("malformed PDF: xref Prev is not integer: " ++ other.plain)

/-- Reads a cross-reference table after its keyword `xref`, the trailer, the tables its
`/Prev` links name, and cuts the table to the trailer's `/Size`. -/
def readXrefTable (data : ByteArray) : Scan (XrefTable × List (String × Obj)) := do
  let (table, trailer) ← readTableAndTrailer ⟨0, []⟩
    "malformed PDF: xref table not followed by trailer dictionary"
  let table ← match followPrev data (data.size + 1) (Obj.lookup trailer "Prev") table with
    | .ok t => pure t
    | .error e => throw e
  match Obj.lookup trailer "Size" with
  | .int size =>
    if size < table.length then
      if size < 0 then throw ("runtime error: slice bounds out of range [:" ++ toString size ++ "]")
      pure ({ table with length := size.toNat }, trailer)
    else pure (table, trailer)
  | _ => throw "malformed PDF: trailer missing /Size entry"

/-- Reads a cross-reference stream: an object definition whose body is a stream of type
`/XRef` with a `/Size`. -/
def readXrefStream : Scan (XrefTable × List (String × Obj)) := do
  let obj ← readObjectHere
  match obj with
  | .defn _ (.stream hdr _ _) =>
    if !(match Obj.lookup hdr "Type" with | .name n => n == "XRef" | _ => false) then
      throw "malformed PDF: xref stream does not have type XRef"
    match Obj.lookup hdr "Size" with
    | .int _ => throw "unsupported PDF: compressed cross-reference stream"
    | _ => throw "malformed PDF: xref stream missing Size"
  | other => throw ("malformed PDF: cross-reference table not found: " ++ other.display)

/-- Reads the cross-reference information at the offset `startxref` gives. -/
def readXref (data : ByteArray) : Scan (XrefTable × List (String × Obj)) := do
  let tok ← readToken
  if tok.isKeyword "xref" then readXrefTable data
  else match tok with
    | .int _ =>
      unread tok
      readXrefStream
    | other => throw ("malformed PDF: cross-reference table not found: " ++ other.plain)

namespace Document

/-- The value behind an object: a reference is looked up in the table and its definition
read; a missing or empty row gives null. -/
def resolve (doc : Document) (x : Obj) : Except String Obj := do
  let x ← match x with
    | .ref r =>
      match doc.table.row r.id with
      | none => pure Obj.null
      | some row =>
        if row.ref != r || row.offset == 0 then pure Obj.null
        else
          match scanAt doc.data row.offset readObjectHere doc.aes with
          | .error e => throw e
          | .ok (.defn r' body) =>
            if r' != r then throw ("loading " ++ Obj.Ref.braced r ++ ": found " ++ Obj.Ref.braced r')
            else pure body
          | .ok other =>
            throw ("loading " ++ Obj.Ref.braced r ++ ": found " ++ other.kindName ++ " instead of objdef")
    | other => pure other
  match x with
  | .keyword _ | .ref _ | .defn .. => throw ("unexpected value type " ++ x.kindName ++ " in resolve")
  | _ => pure x

/-- The entry `key` of a dictionary or stream, resolved; null for any other value. -/
def key (doc : Document) (v : Obj) (k : String) : Except String Obj :=
  match v with
  | .dict d => doc.resolve (Obj.lookup d k)
  | .stream hdr _ _ => doc.resolve (Obj.lookup hdr k)
  | _ => pure .null

/-- Is an object the name `n`? -/
def isName (n : String) : Obj → Bool
  | .name m => m == n
  | _ => false

/-- The integer of an object, `0` for any other value. -/
def intOf : Obj → Int
  | .int n => n
  | _ => 0

/-- Is a version 4 security handler one this reader knows: one crypt filter for strings and
streams, AESV2 with a 16-byte key, opened with the document? -/
def knownV4 (e : List (String × Obj)) : Bool :=
  match Obj.lookup e "CF", Obj.lookup e "StmF", Obj.lookup e "StrF" with
  | .dict cf, .name stmf, .name strf =>
    stmf == strf &&
      (let param := match Obj.lookup cf stmf with | .dict p => p | _ => []
       let auth := Obj.lookup param "AuthEvent"
       let len := Obj.lookup param "Length"
       (match auth with | .null => true | a => isName "DocOpen" a) &&
       (match len with | .null => true | .int 16 => true | _ => false) &&
       isName "AESV2" (Obj.lookup param "CFM"))
  | _, _, _ => false

/-- The bytes of a string object; none for any other value. -/
def bytesOf : Obj → ByteArray
  | .str s => ByteArray.mk (ByteText.bytes s).toArray
  | _ => ByteArray.empty

/-- Checks the security handler of an encrypted file and opens it with the empty password;
whether its strings are then AES-encrypted. Only the standard handler is known. -/
def checkEncryption (doc : Document) : Except String Bool := do
  let e := match ← doc.resolve (Obj.lookup doc.trailer "Encrypt") with
    | .dict d => d
    | _ => []
  let filter := Obj.lookup e "Filter"
  if !isName "Standard" filter then throw ("unsupported PDF: encryption filter " ++ filter.display)
  let n := intOf (Obj.lookup e "Length")
  let n := if n == 0 then 40 else n
  if n.tmod 8 != 0 || n > 128 || n < 40 then throw ("malformed PDF: " ++ toString n ++ "-bit encryption key")
  let v := intOf (Obj.lookup e "V")
  if v != 1 && v != 2 && (v != 4 || !knownV4 e) then
    throw ("unsupported PDF: encryption version V=" ++ toString v ++ "; " ++ (Obj.dict e).display)
  let id ← match Obj.lookup doc.trailer "ID" with
    | .array (.str s :: _) => pure (bytesOf (.str s))
    | _ => throw "malformed PDF: missing ID in trailer"
  let r := intOf (Obj.lookup e "R")
  if r < 2 then throw ("malformed PDF: encryption revision R=" ++ toString r)
  if r > 4 then throw ("unsupported PDF: encryption revision R=" ++ toString r)
  let strLen : Obj → Nat := fun | .str s => s.length | _ => 0
  if strLen (Obj.lookup e "O") != 32 || strLen (Obj.lookup e "U") != 32 then
    throw "malformed PDF: missing O= or U= encryption parameters"
  if !emptyPasswordOpens r n (bytesOf (Obj.lookup e "O")) (bytesOf (Obj.lookup e "U"))
      (intOf (Obj.lookup e "P")) id then
    throw "encrypted PDF: invalid password"
  pure (v == 4)

end Document

/-- The first `n` bytes from `off`, zeros where the file has none. -/
def bytesAt (data : ByteArray) (off n : Nat) : List UInt8 :=
  (List.range n).map fun i => data[off + i]?.getD 0

/-- Does the file start with a PDF 1.x header line? -/
def headerOk (data : ByteArray) : Bool :=
  let h := bytesAt data 0 10
  h.take 7 == "%PDF-1.".toUTF8.toList &&
    (let b7 := h.getD 7 0; 48 ≤ b7 && b7 ≤ 55) &&
    (let b8 := h.getD 8 0; b8 == 13 || b8 == 10)

/-- Is a byte a line break? -/
def isBreak (b : UInt8) : Bool := b == 10 || b == 13

/-- The last place where `word` occurs in `xs`. -/
def lastIndexOf (xs word : List UInt8) : Option Nat :=
  ((List.range (xs.length + 1)).filter fun i =>
    i + word.length ≤ xs.length && (xs.drop i).take word.length == word).getLast?

/-- Where the last line holding only `word` starts in `buf`. The search goes backwards from
the end and gives up at an occurrence at the very start or the very end of `buf`. -/
def findLastLine (buf word : List UInt8) : Option Nat :=
  go buf.length (buf.length + 1)
where
  /-- Searches below `limit`. -/
  go (limit : Nat) : Nat → Option Nat
    | 0 => none
    | fuel + 1 =>
      match lastIndexOf (buf.take limit) word with
      | none => none
      | some i =>
        if i = 0 ∨ i + word.length ≥ buf.length then none
        else if isBreak (buf.getD (i - 1) 0) && isBreak (buf.getD (i + word.length) 0) then some i
        else go i fuel

/-- Does `xs` end with `suffix`? -/
def endsWith (xs suffix : List UInt8) : Bool :=
  suffix.length ≤ xs.length && xs.drop (xs.length - suffix.length) == suffix

/-- The page count of a file, or the message its reading fails with. -/
def pageCount (data : ByteArray) : Except String Int := do
  if !headerOk data then throw "not a PDF file: invalid header"
  let size := data.size
  let tail := if size < 100 then List.replicate 100 0 else (data.extract (size - 100) size).toList
  if tail.all isBreak then throw "runtime error: index out of range [-1]"
  let trimmed := (tail.reverse.dropWhile fun b => b == 13 || b == 10 || b == 9 || b == 32).reverse
  if !endsWith trimmed "%%EOF".toUTF8.toList then throw "not a PDF file: missing %%EOF"
  let some i := findLastLine trimmed "startxref".toUTF8.toList
    | throw "malformed PDF file: missing final startxref"
  let pos : Int := (size : Int) - 100 + i
  let start ← scanAt data pos do
    let t ← readToken
    if !t.isKeyword "startxref" then throw "malformed PDF file: missing startxref"
    match ← readToken with
    | .int n => pure n
    | _ => throw "malformed PDF file: startxref not followed by integer"
  let (table, trailer) ← scanAt data start (readXref data)
  let doc : Document := ⟨data, table, trailer, false⟩
  let doc ← match Obj.lookup trailer "Encrypt" with
    | .null => pure doc
    | _ => pure { doc with aes := ← doc.checkEncryption }
  let root ← doc.key (.dict trailer) "Root"
  let pages ← doc.key root "Pages"
  let count ← doc.key pages "Count"
  pure (Document.intOf count)

end CreditExtraction.Pdf
