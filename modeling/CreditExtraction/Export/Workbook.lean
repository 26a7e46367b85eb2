import CreditExtraction.Text.FloatText
import CreditExtraction.Json.Value

/-!
# Workbooks

A workbook is a list of named sheets; a sheet is a grid of typed cells, filled row by row from
the first, and the rows whose first cell carries a fill. What a reader of the workbook sees of
a cell is its stored text:

* text as it is, cut to the 32767 characters a cell holds;
* a number with the fewest digits that read back, never with an exponent;
* a whole number in decimal;
* a truth value as `1` or `0`.

A row is read without its trailing empty cells, and a sheet without its trailing empty rows.
-/

namespace CreditExtraction.Export

/-- A cell of a sheet. -/
inductive Cell where
  | text (s : String)
  | number (x : Float)
  | whole (n : Int)
  | truth (b : Bool)

/-- The most characters a cell holds. -/
def cellCharLimit : Nat := 32767

/-- The stored text of a cell. -/
def Cell.stored : Cell → String
  | .text s => if s.length > cellCharLimit then String.ofList (s.toList.take cellCharLimit) else s
  | .number x => Text.showFloat x
  | .whole n => toString n
  | .truth b => if b then "1" else "0"

/-- A sheet: its name, its rows from the first, and the rows (counted from one) whose first
cell is filled. -/
structure Sheet where
  name : String
  rows : List (List Cell)
  filled : List Nat

/-- A list without its trailing elements that satisfy a test. -/
def dropTrailing {α : Type} (p : α → Bool) (xs : List α) : List α :=
  (xs.reverse.dropWhile p).reverse

/-- The rows of a sheet as a reader sees them. -/
def Sheet.texts (s : Sheet) : List (List String) :=
  dropTrailing List.isEmpty (s.rows.map fun r => dropTrailing (· == "") (r.map Cell.stored))

/-- A sheet as JSON: its name, its rows and its filled rows. -/
def Sheet.toJson (s : Sheet) : Json :=
  .obj [("name", .str s.name), ("rows", .arr (s.texts.map Json.ofStrings)),
    ("styled_rows", .arr (s.filled.map fun (n : Nat) => Json.ofInt n))]

/-- A workbook as JSON. -/
def sheetsJson (sheets : List Sheet) : Json := .obj [("sheets", .arr (sheets.map Sheet.toJson))]

end CreditExtraction.Export
