import CreditExtraction.Text.FloatText
import CreditExtraction.Text.Quoted
import CreditExtraction.Text.Utf8

/-!
# PDF objects

The values of a PDF file (ISO 32000-1 §7.3): null, booleans, integers, reals, strings, names,
arrays, dictionaries and streams, together with the two forms that link them, the indirect
reference `id gen R` and the definition `id gen obj … endobj`. The scanner's bare words
(`xref`, `trailer`, `>>`, …) are objects too, as keywords, because a malformed file can put one
wherever an object is expected.

Strings, names and keywords are *byte texts*: texts whose characters are all below 256, each
standing for one byte of the file. Messages are built as byte texts as well and turned into
text at the end (`ByteText.toText`), a byte that does not begin well-formed UTF-8 becoming
U+FFFD, so a message quoting a damaged file reads the same as it did in the file.
-/

namespace CreditExtraction.Pdf

/-- The byte text of a text: its UTF-8 bytes, one character each. -/
def ByteText.ofText (s : String) : String :=
  String.ofList (s.toUTF8.toList.map fun b => Char.ofNat b.toNat)

/-- The bytes of a byte text. -/
def ByteText.bytes (s : String) : List UInt8 :=
  s.toList.map fun c => c.toNat.toUInt8

/-- The text a byte text stands for, ill-formed bytes replaced. -/
def ByteText.toText (s : String) : String :=
  Text.Utf8.lossy (ByteText.bytes s)

/-- The byte text of one byte printed as a character: the UTF-8 of the code point `b`. -/
def ByteText.ofRune (b : UInt8) : String :=
  ByteText.ofText (String.singleton (Char.ofNat b.toNat))

/-- An indirect reference: object number and generation. -/
structure Ref where
  id : Nat
  gen : Nat
deriving Repr, DecidableEq, Inhabited

/-- A PDF value, or a keyword met where a value was expected. -/
inductive Obj where
  | null
  | bool (b : Bool)
  | int (n : Int)
  | real (x : Float)
  | str (s : String)
  | name (s : String)
  | keyword (s : String)
  | array (items : List Obj)
  | dict (entries : List (String × Obj))
  | stream (hdr : List (String × Obj)) (ptr : Ref) (offset : Int)
  | ref (r : Ref)
  | defn (r : Ref) (body : Obj)
deriving Repr, Inhabited

namespace Obj

/-- Is the object the keyword `k`? -/
def isKeyword (k : String) : Obj → Bool
  | .keyword s => s == k
  | _ => false

/-- The entry of a dictionary under `key`; null when it is missing. -/
def lookup (entries : List (String × Obj)) (key : String) : Obj :=
  match entries.find? (·.1 == key) with
  | some (_, v) => v
  | none => .null

/-- A dictionary with `key` set to `v`: a key given twice keeps its last value. -/
def insert (entries : List (String × Obj)) (key : String) (v : Obj) : List (String × Obj) :=
  if entries.any (·.1 == key) then entries.map fun kv => if kv.1 == key then (key, v) else kv
  else entries ++ [(key, v)]

/-- The keys of a dictionary in byte order. -/
def sortedKeys (entries : List (String × Obj)) : List String :=
  (entries.map (·.1)).mergeSort fun a b => decide (a ≤ b)

/-- The decimal text of a reference, as `{id gen}`. -/
def Ref.braced (r : Ref) : String := "\x7b" ++ toString r.id ++ " " ++ toString r.gen ++ "\x7d"

/-- The name of an object's kind, as messages print it. -/
def kindName : Obj → String
  | .null => "<nil>"
  | .bool _ => "bool"
  | .int _ => "int64"
  | .real _ => "float64"
  | .str _ => "string"
  | .name _ => "pdf.name"
  | .keyword _ => "pdf.keyword"
  | .array _ => "pdf.array"
  | .dict _ => "pdf.dict"
  | .stream .. => "pdf.stream"
  | .ref _ => "pdf.objptr"
  | .defn .. => "pdf.objdef"

mutual
/-- The plain print of an object: words bare, dictionaries as `map[k:v …]` in key order,
references as `{id gen}`. -/
def plain : Obj → String
  | .null => "<nil>"
  | .bool b => toString b
  | .int n => toString n
  | .real x => Text.formatGeneral x
  | .str s => s
  | .name s => s
  | .keyword s => s
  | .array items => "[" ++ plainItems items ++ "]"
  | .dict entries => "map[" ++ plainEntries entries (sortedKeys entries) ++ "]"
  | .stream hdr ptr off =>
    "\x7bmap[" ++ plainEntries hdr (sortedKeys hdr) ++ "] " ++ Ref.braced ptr ++ " " ++ toString off ++ "\x7d"
  | .ref r => Ref.braced r
  | .defn r body => "\x7b" ++ Ref.braced r ++ " " ++ plain body ++ "\x7d"

/-- The plain prints of array items, space-separated. -/
def plainItems : List Obj → String
  | [] => ""
  | [x] => plain x
  | x :: rest => plain x ++ " " ++ plainItems rest

/-- The plain prints of dictionary entries in the order of `keys`. -/
def plainEntries (entries : List (String × Obj)) : List String → String
  | [] => ""
  | [k] => k ++ ":" ++ plainOf entries k
  | k :: rest => k ++ ":" ++ plainOf entries k ++ " " ++ plainEntries entries rest

/-- The plain print of the entry under `k`. -/
def plainOf : List (String × Obj) → String → String
  | [], _ => "<nil>"
  | (k', v) :: rest, k => if k' == k then plain v else plainOf rest k
end

end Obj

/-- The characters of PDFDocEncoding (ISO 32000-1 Table D.2) for the bytes 0x18 to 0x1F and
0x80 to 0xA0; the code points of the other defined bytes are the bytes themselves. -/
def docEncodingHigh : List Nat :=
  [0x2022, 0x2020, 0x2021, 0x2026, 0x2014, 0x2013, 0x0192, 0x2044,
   0x2039, 0x203a, 0x2212, 0x2030, 0x201e, 0x201c, 0x201d, 0x2018,
   0x2019, 0x201a, 0x2122, 0xfb01, 0xfb02, 0x0141, 0x0152, 0x0160,
   0x0178, 0x017d, 0x0131, 0x0142, 0x0153, 0x0161, 0x017e, 0xfffd, 0x20ac]

/-- The characters of PDFDocEncoding for the bytes 0x18 to 0x1F. -/
def docEncodingAccents : List Nat :=
  [0x02d8, 0x02c7, 0x02c6, 0x02d9, 0x02dd, 0x02db, 0x02da, 0x02dc]

/-- The code point PDFDocEncoding gives a byte; U+FFFD for the bytes it leaves undefined. -/
def docEncoding (b : Nat) : Nat :=
  if b == 9 || b == 10 || b == 13 then b
  else if b < 0x18 then 0xfffd
  else if b < 0x20 then docEncodingAccents.getD (b - 0x18) 0xfffd
  else if b < 0x7f then b
  else if b == 0x7f then 0xfffd
  else if b ≤ 0xa0 then docEncodingHigh.getD (b - 0x80) 0xfffd
  else if b == 0xad then 0xfffd
  else b

/-- Does a string start with the UTF-16 byte-order mark and have an even length? -/
def isUtf16 (s : List UInt8) : Bool :=
  s.length ≥ 2 && s.head? == some 0xfe && s[1]? == some 0xff && s.length % 2 == 0

/-- Is every byte of a string defined in PDFDocEncoding (and the string not UTF-16)? -/
def isDocEncoded (s : List UInt8) : Bool :=
  !isUtf16 s && s.all fun b => docEncoding b.toNat != 0xfffd

/-- The code units of big-endian UTF-16 bytes, a last odd byte dropped. -/
def utf16Units : List UInt8 → List Nat
  | a :: b :: rest => (a.toNat * 256 + b.toNat) :: utf16Units rest
  | _ => []

/-- Is a code unit a surrogate? -/
def isSurrogate (u : Nat) : Bool := 0xd800 ≤ u && u < 0xe000

/-- The characters of UTF-16 code units; a surrogate that is not part of a pair becomes U+FFFD. -/
def utf16Decode : List Nat → List Char
  | [] => []
  | [u] => [if isSurrogate u then '�' else Char.ofNat u]
  | u :: v :: more =>
    if 0xd800 ≤ u ∧ u < 0xdc00 ∧ 0xdc00 ≤ v ∧ v < 0xe000 then
      Char.ofNat (0x10000 + (u - 0xd800) * 0x400 + (v - 0xdc00)) :: utf16Decode more
    else (if isSurrogate u then '�' else Char.ofNat u) :: utf16Decode (v :: more)

/-- The quoted literal of a PDF string as it reads: PDFDocEncoding when every byte is defined
there, UTF-16 after a byte-order mark, and the raw bytes otherwise. -/
def quoteString (s : String) : String :=
  let bs := ByteText.bytes s
  if isDocEncoded bs then
    ByteText.ofText (Text.Quoted.quote (String.ofList (bs.map fun b => Char.ofNat (docEncoding b.toNat))))
  else if isUtf16 bs then
    ByteText.ofText (Text.Quoted.quote (String.ofList (utf16Decode (utf16Units (bs.drop 2)))))
  else ByteText.ofText (Text.Quoted.quoteBytes bs)

namespace Obj

mutual
/-- The PDF-like print of an object used in messages: names with their slash, strings quoted,
dictionaries as `<</k v …>>` in key order, references as `id gen R`, definitions as
`{id gen obj}body`, streams as their dictionary and the offset of their data. -/
def display : Obj → String
  | .str s => quoteString s
  | .name s => "/" ++ s
  | .dict entries => "<<" ++ showEntries entries (sortedKeys entries) true ++ ">>"
  | .array items => "[" ++ showItems items true ++ "]"
  | .stream hdr _ off => "<<" ++ showEntries hdr (sortedKeys hdr) true ++ ">>@" ++ toString off
  | .ref r => toString r.id ++ " " ++ toString r.gen ++ " R"
  | .defn r body => "\x7b" ++ toString r.id ++ " " ++ toString r.gen ++ " obj\x7d" ++ display body
  | other => plain other

/-- The prints of array items, space-separated. -/
def showItems : List Obj → Bool → String
  | [], _ => ""
  | x :: rest, first => (if first then "" else " ") ++ display x ++ showItems rest false

/-- The prints of dictionary entries in the order of `keys`, as `/k v`. -/
def showEntries (entries : List (String × Obj)) : List String → Bool → String
  | [], _ => ""
  | k :: rest, first =>
    (if first then "" else " ") ++ "/" ++ k ++ " " ++ showOf entries k ++ showEntries entries rest false

/-- The print of the entry under `k`. -/
def showOf : List (String × Obj) → String → String
  | [], _ => "<nil>"
  | (k', v) :: rest, k => if k' == k then display v else showOf rest k
end

end Obj

end CreditExtraction.Pdf
