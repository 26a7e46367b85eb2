import CreditExtraction.Sql.Statement

/-!
# Database files

A database kept in a file is read back whole. The file is a sequence of pages of one size; the
first 100 bytes are the header (a shorter file reads as if zeros followed): the magic text
`SQLite format 3`, the page size (a power of two from 512 to 65536), the reader and writer
formats (a file needing a later writer cannot be written: `attempt to write a readonly
database (8)`), the reserved bytes at the end of each page, the page count (which counts when
the number at offset 92 repeats the one at offset 24, else the file's size does), the schema
format (at most 4) and the text encoding. A header that does not read so holds no database
(`file is not a database (26)`); one that counts more pages than the file has is damaged
(`database disk image is malformed (11)`).

Each table is a tree of pages under its root page: interior pages point to their children,
leaf pages hold the rows, each with its row number and its record, an oversized record
continuing in a chain of overflow pages. A record is a header of types followed by the values.

The first page is the root of the schema table, whose rows `(type, name, table, root page,
sql)` are defined again in order by their `sql`: a table is filled with the rows under its root
page (a short record takes the defaults of the columns after it; a table without row numbers
is an index tree; a table whose pages do not read is kept damaged), an index or trigger is
added to its table, and a view is known by its name. A row that does not define what it should
damages the file (`malformed database schema (t) - …`). Walking a tree stops at a depth of as
many pages as the file has, so pages that point in a cycle still read.
-/

namespace CreditExtraction.Sql

namespace Image

/-- The byte at an offset, and 0 past the end. -/
def byte (b : ByteArray) (pos : Nat) : Nat := (b.data.getD pos 0).toNat

/-- The number written big-endian in `n` bytes from an offset. -/
def bigEndian (b : ByteArray) (pos n : Nat) : Nat :=
  (List.range n).foldl (fun acc k => acc * 256 + byte b (pos + k)) 0

/-- The integer written in two's complement in `n` bytes from an offset. -/
def signed (b : ByteArray) (pos n : Nat) : Int :=
  let u := bigEndian b pos n
  if n > 0 && u ≥ Nat.pow 2 (8 * n - 1) then (u : Int) - Int.pow 2 (8 * n) else u

/-- Reads a variable-length integer from an offset: at most eight bytes of seven bits each,
the high bit telling that another follows, and a ninth byte of eight bits. `left` counts the
bytes of seven bits still allowed. The value and the bytes it takes. -/
def varintFrom (b : ByteArray) (pos : Nat) : Nat → Nat → Nat → Nat × Nat
  | 0, acc, used => (acc * 256 + byte b pos, used + 1)
  | left + 1, acc, used =>
    let c := byte b pos
    let acc := acc * 128 + c % 128
    if c < 128 then (acc, used + 1) else varintFrom b (pos + 1) left acc (used + 1)

/-- The variable-length integer at an offset, and the bytes it takes. -/
def varint (b : ByteArray) (pos : Nat) : Nat × Nat := varintFrom b pos 8 0 0

/-- How the texts of a database file are written. -/
inductive Encoding where
  | utf8
  | utf16le
  | utf16be
deriving DecidableEq, Inhabited

/-- The layout of a database file: the page size, the bytes of a page that hold content, the
number of pages, how texts are written, and whether the file is marked for writers of a later
format only. -/
structure Layout where
  pageSize : Nat
  usable : Nat
  pages : Nat
  encoding : Encoding
  readOnly : Bool

/-- The bytes every database file starts with. -/
def magic : List Nat := "SQLite format 3".toList.map (·.toNat) ++ [0]

/-- The layout a file's header gives, or why the file holds no database (see the module
comment). -/
def layoutOf (b : ByteArray) : Except SqlError Layout := do
  if (List.range 16).map (byte b ·) != magic then throw SqlError.notADatabase
  if byte b 19 > 2 then throw SqlError.notADatabase
  if [byte b 21, byte b 22, byte b 23] != [64, 32, 32] then throw SqlError.notADatabase
  let pageSize := byte b 16 * 256 + byte b 17 * 65536
  if pageSize ≤ 256 || pageSize > 65536 || (pageSize &&& (pageSize - 1)) != 0 then
    throw SqlError.notADatabase
  let filePages := (b.size + pageSize - 1) / pageSize
  let declared := bigEndian b 28 4
  let pages := if declared == 0 || bigEndian b 24 4 != bigEndian b 92 4 then filePages else declared
  if pages > filePages then throw SqlError.malformed
  let reserved := byte b 20
  if pageSize - reserved < 480 then throw SqlError.notADatabase
  if bigEndian b 44 4 > 4 then throw (SqlError.logic "unsupported file format")
  let encoding := match bigEndian b 56 4 % 4 with
    | 2 => Encoding.utf16le
    | 3 => Encoding.utf16be
    | _ => Encoding.utf8
  pure ⟨pageSize, pageSize - reserved, pages, encoding, byte b 18 > 2⟩

/-- Where a page starts in the file; pages are numbered from 1. -/
def pageStart (l : Layout) (page : Nat) : Nat := (page - 1) * l.pageSize

/-- Where a page's tree header starts: after the file header on the first page. -/
def headerStart (l : Layout) (page : Nat) : Nat := pageStart l page + if page == 1 then 100 else 0

/-- The bytes of a chain of overflow pages, `n` of them at most, until `want` bytes are read. -/
def overflow (b : ByteArray) (l : Layout) : Nat → Nat → Nat → ByteArray → ByteArray
  | 0, _, _, acc => acc
  | n + 1, page, want, acc =>
    if page == 0 || page > l.pages || want == 0 then acc
    else
      let start := pageStart l page
      let take := min want (l.usable - 4)
      let acc := acc ++ b.extract (start + 4) (start + 4 + take)
      overflow b l n (bigEndian b start 4) (want - take) acc

/-- The bytes of a record of `size` bytes kept from an offset of a page, with the part that
does not fit the page read from its overflow pages. At most `most` bytes stay on the page. -/
def payload (b : ByteArray) (l : Layout) (most pos size : Nat) : ByteArray :=
  if size ≤ most then b.extract pos (pos + size)
  else
    let least := (l.usable - 12) * 32 / 255 - 23
    let k := least + (size - least) % (l.usable - 4)
    let kept := if k ≤ most then k else least
    overflow b l l.pages (bigEndian b (pos + kept) 4) (size - kept) (b.extract pos (pos + kept))

/-- The most bytes of a record that a table's leaf page keeps. -/
def tableLocal (l : Layout) : Nat := l.usable - 35

/-- The most bytes of a record that a page of an index tree keeps. -/
def indexLocal (l : Layout) : Nat := (l.usable - 12) * 64 / 255 - 23

/-- The offsets of a page's cells, from its pointer array. -/
def cells (b : ByteArray) (l : Layout) (page hdr count : Nat) : List Nat :=
  (List.range count).map fun i => pageStart l page + bigEndian b (hdr + 2 * i) 2

/-- The rows of the table tree under a page, in order of their row numbers, each with its row
number and record; `depth` bounds the pages walked down. -/
def tableRows (b : ByteArray) (l : Layout) : Nat → Nat → Except SqlError (List (Nat × ByteArray))
  | 0, _ => .ok []
  | depth + 1, page => do
    if page == 0 || page > l.pages then throw SqlError.malformed
    let hdr := headerStart l page
    let count := bigEndian b (hdr + 3) 2
    match byte b hdr with
    | 13 =>
      pure ((cells b l page (hdr + 8) count).map fun c =>
        let (size, n1) := varint b c
        let (rowid, n2) := varint b (c + n1)
        (rowid, payload b l (tableLocal l) (c + n1 + n2) size))
    | 5 =>
      let children := (cells b l page (hdr + 12) count).map (bigEndian b · 4) ++ [bigEndian b (hdr + 8) 4]
      let parts ← children.mapM (tableRows b l depth)
      pure parts.flatten
    | _ => throw SqlError.malformed

/-- The records of the index tree under a page, in the tree's order; `depth` bounds the pages
walked down. An interior page holds records of its own, each after the records of the child
to its left. -/
def indexRecords (b : ByteArray) (l : Layout) : Nat → Nat → Except SqlError (List ByteArray)
  | 0, _ => .ok []
  | depth + 1, page => do
    if page == 0 || page > l.pages then throw SqlError.malformed
    let hdr := headerStart l page
    let count := bigEndian b (hdr + 3) 2
    match byte b hdr with
    | 10 =>
      pure ((cells b l page (hdr + 8) count).map fun c =>
        let (size, n1) := varint b c
        payload b l (indexLocal l) (c + n1) size)
    | 2 =>
      let parts ← (cells b l page (hdr + 12) count).mapM fun c => do
        let left ← indexRecords b l depth (bigEndian b c 4)
        let (size, n1) := varint b (c + 4)
        pure (left ++ [payload b l (indexLocal l) (c + 4 + n1) size])
      let last ← indexRecords b l depth (bigEndian b (hdr + 8) 4)
      pure (parts.flatten ++ last)
    | _ => throw SqlError.malformed

/-- The length in a record of a value of a type. -/
def valueLength (ty : Nat) : Nat :=
  match ty with
  | 1 => 1
  | 2 => 2
  | 3 => 3
  | 4 => 4
  | 5 => 6
  | 6 => 8
  | 7 => 8
  | _ => if ty ≥ 12 then (ty - 12) / 2 else 0

/-- The characters of 16-bit code units: a pair of surrogates makes one character, and a
surrogate on its own stands for the replacement character. -/
def fromUnits : List Nat → List Char
  | [] => []
  | [u] => [if 0xD800 ≤ u && u < 0xE000 then Char.ofNat 0xFFFD else Char.ofNat u]
  | u :: rest@(v :: more) =>
    if 0xD800 ≤ u && u < 0xDC00 && 0xDC00 ≤ v && v < 0xE000 then
      Char.ofNat (0x10000 + (u - 0xD800) * 0x400 + (v - 0xDC00)) :: fromUnits more
    else if 0xD800 ≤ u && u < 0xE000 then Char.ofNat 0xFFFD :: fromUnits rest
    else Char.ofNat u :: fromUnits rest

/-- The 16-bit code units of bytes, in the given byte order; an odd last byte is dropped. -/
def units (bytes : List Nat) (little : Bool) : List Nat :=
  match bytes with
  | a :: b :: rest => (if little then b * 256 + a else a * 256 + b) :: units rest little
  | _ => []

/-- The text of bytes in an encoding. UTF-8 that does not read gives one character a byte. -/
def textOf (enc : Encoding) (bytes : ByteArray) : String :=
  match enc with
  | .utf8 =>
    match String.fromUTF8? bytes with
    | some s => s
    | none => String.ofList (bytes.toList.map fun x => Char.ofNat x.toNat)
  | .utf16le => String.ofList (fromUnits (units (bytes.toList.map (·.toNat)) true))
  | .utf16be => String.ofList (fromUnits (units (bytes.toList.map (·.toNat)) false))

/-- The value of a type at an offset of a record. Texts are in the file's encoding; byte
strings are kept as texts read as UTF-8. -/
def valueAt (enc : Encoding) (b : ByteArray) (ty pos : Nat) : Value :=
  match ty with
  | 0 => .null
  | 7 => .real (Float.ofBits (bigEndian b pos 8).toUInt64)
  | 8 => .int 0
  | 9 => .int 1
  | _ =>
    if ty ≤ 6 then .int (signed b pos (valueLength ty))
    else if ty ≥ 12 then
      let bytes := b.extract pos (pos + valueLength ty)
      .text (textOf (if ty % 2 == 1 then enc else .utf8) bytes)
    else .null

/-- The types of a record's header from an offset up to its end, at most `n` of them. -/
def headerTypes (b : ByteArray) (stop : Nat) : Nat → Nat → List Nat
  | 0, _ => []
  | n + 1, pos =>
    if pos ≥ stop then []
    else
      let (ty, used) := varint b pos
      ty :: headerTypes b stop n (pos + used)

/-- The values of a record. -/
def recordValues (enc : Encoding) (r : ByteArray) : List Value :=
  let (hsize, used) := varint r 0
  let types := headerTypes r hsize r.size used
  let starts := types.scanl (fun pos ty => pos + valueLength ty) hsize
  (types.zip starts).map fun (ty, pos) => valueAt enc r ty pos

/-- An entry of the schema table. -/
structure Entry where
  kind : String
  name : Option String
  root : Option Nat
  sql : Option String

/-- The entry a row of the schema table holds. -/
def entryOf (values : List Value) : Entry :=
  let text := fun (i : Nat) => match values.getD i .null with
    | .text s => some s
    | _ => none
  let root := match values.getD 3 .null with
    | .int n => if 0 ≤ n && n < Int.pow 2 32 then some n.toNat else none
    | _ => none
  ⟨(text 0).getD "", text 1, root, text 4⟩

/-- The rows of a table, from the records under its root: values by the columns, the integer
primary key taking the row number, the columns a record lacks their defaults. -/
def tableOf (enc : Encoding) (t : Table) (records : List (Nat × ByteArray)) : Table :=
  let rows := records.map fun (rowid, r) =>
    let values := recordValues enc r
    let cells := t.columns.zipIdx.map fun (c, i) =>
      if t.isRowNumber c then .int rowid
      else values.getD i (c.default.withAffinity c.affinity)
    (⟨rowid, cells⟩ : Row)
  { t with rows, nextNumber := (rows.map (·.number)).foldl max 0 + 1 }

/-- The rows of a table without row numbers, kept as an index tree: each record holds the
primary key's columns first, then the others in their order. The rows are numbered in the
tree's order. -/
def keyedTableOf (enc : Encoding) (t : Table) (records : List ByteArray) : Table :=
  let order := t.columns.filter (·.primaryKey) ++ t.columns.filter (!·.primaryKey)
  let rows := records.zipIdx.map fun (r, i) =>
    let values := recordValues enc r
    let cells := t.columns.map fun c =>
      match order.findIdx? (sameName ·.name c.name) with
      | some k => values.getD k (c.default.withAffinity c.affinity)
      | none => .null
    (⟨i + 1, cells⟩ : Row)
  { t with rows, nextNumber := rows.length + 1 }

/-- A table filled with the rows under its root page; a tree that does not read leaves the
table damaged, refusing the statements that read it. -/
def filled (b : ByteArray) (l : Layout) (t : Table) (root : Nat) : Table :=
  let read := if t.numbered then tableOf l.encoding t <$> tableRows b l l.pages root
    else keyedTableOf l.encoding t <$> indexRecords b l l.pages root
  match read with
  | .ok t => t
  | .error _ => { t with damaged := true }

/-- The table a trigger's definition guards, when the text begins as one: the name after its
first `ON`. -/
def triggerTable? (sql : String) : Option String :=
  match tokens sql with
  | .ok (c :: t :: more) =>
    let opens := c.isKw "CREATE" &&
      (t.isKw "TRIGGER" ||
        ((t.isKw "TEMP" || t.isKw "TEMPORARY") && (more.head?.map (·.isKw "TRIGGER")).getD false))
    if !opens then none
    else match (more.dropWhile (!·.isKw "ON")).drop 1 with
      | .word table :: _ | .ident table _ :: _ => some table
      | _ => none
  | _ => none

/-- Defines an entry of the schema table again in a database (see the module comment). -/
def define (b : ByteArray) (l : Layout) (db : Database) (e : Entry) : Except SqlError Database := do
  let entry := e.name.getD "?"
  let bad := fun (why : String) => SqlError.malformedSchema entry why
  let why := fun (err : SqlError) => match err with
    | .refused _ d => d
    | .closed => ""
  match e.sql with
  | some sql =>
    if sql != "" then
      if !(sql.toLower.startsWith "cr") then throw (bad "")
      if e.kind == "view" then
        return { db with views := db.views ++ [entry] }
      let root ← match e.root with
        | some r => if r > l.pages then throw (bad "invalid rootpage") else pure r
        | none => throw (bad "invalid rootpage")
      match Statement.parseFirst sql with
      | .error err =>
        match triggerTable? sql with
        | some table =>
          if (db.table? table).isSome then pure db
          else throw (bad (why (SqlError.noSuchTable ("main." ++ table))))
        | none => throw (bad (why err))
      | .ok (.createTable t _) =>
        if t.name.toLower.startsWith "sqlite_" then return db
        let db ← (db.createTable t false).mapError (bad ∘ why)
        pure (db.setTable (filled b l t root))
      | .ok (.createIndex table ix _) =>
        match db.table? table with
        | some t => pure (db.setTable { t with indexes := ix :: t.indexes })
        | none => throw (bad (why (SqlError.noSuchTable ("main." ++ table))))
      | .ok (.createTrigger tr _ _) => (db.defineTrigger tr).mapError (bad ∘ why)
      | .ok _ => throw (bad "")
    else pure db
  | none =>
    if e.name.isNone then throw (bad "")
    if db.hasIndex entry then pure db else throw (bad "orphan index")

end Image

/-- Reads a database file to be written (see the module comment), or tells why it cannot be. -/
def Database.readImage (b : ByteArray) : Except SqlError Database := do
  let l ← Image.layoutOf b
  let schema ← Image.tableRows b l l.pages 1
  let entries := schema.map fun (_, r) => Image.entryOf (Image.recordValues l.encoding r)
  let db ← entries.foldlM (Image.define b l) ⟨[], [], [], true⟩
  if l.readOnly then throw (SqlError.bare 8)
  pure db

end CreditExtraction.Sql
