import CreditExtraction.Ocr.Line
import CreditExtraction.Text.FloatText
import CreditExtraction.Text.CharClass

/-!
# Word tables of the OCR engine

The OCR engine reports one row per recognised element, tab separated, after a header row:
level, page, block, paragraph, line and word numbers, the box (left, top, width, height), a
confidence from 0 to 100 (negative when unknown) and the text. Word rows (level `5`) are
grouped into lines by block, paragraph and line number, in the order lines first appear: a
line's text is its words joined by spaces, its box the union of theirs, and its confidence the
mean of the known word confidences, scaled to `[0, 1]`. Rows with too few columns or no text
are skipped; numbers that do not read count as zero, and numbers too large for a float as
infinite.
-/

namespace CreditExtraction.Ocr

/-- The number of columns of a row. -/
def tsvColumns : Nat := 12

/-- A number column: zero when it does not read, and the infinity of its sign when it is beyond
the largest float. -/
def columnFloat (s : String) : Float :=
  match Text.readFloat .binary64 s with
  | .ok x => x
  | .error (_, x) => x

/-- A word row: the key of its line (block, paragraph and line numbers joined by `/`), its
text, its box and its confidence when known. -/
structure WordRow where
  key : String
  text : String
  rect : Rect
  conf : Option Float

/-- Reads a row of the table as a word. Rows that are empty, have too few columns, are not at
word level or have a blank text are none. -/
def wordRow? (row : List Char) : Option WordRow :=
  if row == [] then none else
  let cols := ((row.reverse.dropWhile (· == '\r')).reverse.splitOn '\t').toArray.map String.ofList
  if cols.size < tsvColumns || cols[0]! != "5" then none else
  let text := Text.CharClass.trimSpace (" ".intercalate (cols.toList.drop 11))
  if text == "" then none else
  let left := columnFloat cols[6]!
  let top := columnFloat cols[7]!
  some ⟨cols[2]! ++ "/" ++ cols[3]! ++ "/" ++ cols[4]!, text,
    ⟨left, top, left + columnFloat cols[8]!, top + columnFloat cols[9]!⟩,
    match Text.readFloat .binary64 cols[10]! with
    | .ok c => if c ≥ 0 then some c else none
    | .error _ => none⟩

/-- The word rows of a table, after its header row. -/
def wordRows (tsv : String) : List WordRow := ((tsv.toList.splitOn '\n').drop 1).filterMap wordRow?

/-- A line being collected. -/
structure LineAcc where
  key : String
  words : Array String
  rect : Rect
  confSum : Float
  confN : Nat
deriving Inhabited

/-- Counts a known confidence into a line. -/
def LineAcc.addConf (a : LineAcc) : Option Float → LineAcc
  | some c => { a with confSum := a.confSum + c, confN := a.confN + 1 }
  | none => a

/-- A line of one word. -/
def LineAcc.start (w : WordRow) : LineAcc := LineAcc.addConf ⟨w.key, #[w.text], w.rect, 0, 0⟩ w.conf

/-- Adds a word to a line. -/
def LineAcc.add (a : LineAcc) (w : WordRow) : LineAcc :=
  LineAcc.addConf { a with words := a.words.push w.text, rect := a.rect.union w.rect } w.conf

/-- Adds a word to the line of its key, or as a new last line. -/
def addWord : List LineAcc → WordRow → List LineAcc
  | [], w => [.start w]
  | a :: acc, w => if a.key == w.key then a.add w :: acc else a :: addWord acc w

/-- The raw line of a collected line. -/
def LineAcc.toRawLine (page : Int) (a : LineAcc) : RawLine :=
  ⟨" ".intercalate a.words.toList, a.rect.polygon,
    if a.confN > 0 then some (a.confSum / a.confN.toFloat / 100) else none, page⟩

/-- Reads the word table of one page into raw lines (see the module comment). -/
def parseTsv (tsv : String) (page : Int) : List RawLine :=
  ((wordRows tsv).foldl addWord []).map (LineAcc.toRawLine page)

end CreditExtraction.Ocr
