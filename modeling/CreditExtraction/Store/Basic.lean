import CreditExtraction.Sql.Statement
import CreditExtraction.Failure
import CreditExtraction.Text.Uuid
import CreditExtraction.Text.Quoted
import CreditExtraction.Text.Integer
import CreditExtraction.Time.Layout
import CreditExtraction.Log.Record

/-!
# The metadata store

Documents, jobs, tasks and fields live in an embedded SQL database. The store pairs the
database with the clock that stamps its writes and a supply of fresh identifiers. Its
operations run in `StoreM`, which keeps the database as it is when a step fails: a statement
that was refused changed nothing, and the statements before it stay. `inTx` groups
statements into a transaction that is undone whole when any of them fails.

A refusal of the database is reported as an unavailable store under the name of the
operation: `claim document: store unavailable: constraint failed: … (1811)`.

The operations log what they change (`document created`, `task enqueued`) as records kept in
the store until its owner takes them; a transaction undone keeps the records of its steps.

Stored times are written with microseconds and a `Z` (`2024-03-01T08:00:00.000000Z`), so that
texts sort as times do.

Reading a stored row converts each cell to what the record wants, in column order, and the
first cell that does not convert names its position and column:
`sql: Scan error on column index 4, name "attempts": converting driver.Value type string
("many") to a int: invalid syntax`.
-/

namespace CreditExtraction.Store

open Sql

/-- The database, the clock of its writes, the next seed of fresh identifiers and the records
the store has logged and its owner has not yet taken. -/
structure MetaStore where
  db : Database
  now : Time.Instant
  nextSeed : Nat
  logged : List Log.Record
deriving Inhabited

/-- Operations of the metadata store. -/
abbrev StoreM := ExceptT Failure (StateM MetaStore)

/-- The failure of an unavailable store under an operation's name. -/
def unavailable (op : String) (detail : String) : Failure :=
  .wrapped (op ++ ": " ++ Cause.storeUnavailable.message ++ ": " ++ detail)
    [.cause .storeUnavailable, .plain detail]

/-- Runs a database step, a refusal reported under the operation's name. -/
def runDb {α : Type} (op : String) (f : Database → Except SqlError (Database × α)) : StoreM α := do
  let s ← get
  match f s.db with
  | .ok (db', a) => set { s with db := db' }; pure a
  | .error e => throw (unavailable op e.message)

/-- Reads the database, a refusal reported under the operation's name. -/
def readDb {α : Type} (op : String) (f : Database → Except SqlError α) : StoreM α := do
  match f (← get).db with
  | .ok a => pure a
  | .error e => throw (unavailable op e.message)

/-- Runs steps as one transaction: when one fails, the database is put back as it was and the
failure passes on. A closed database cannot begin one. -/
def inTx {α : Type} (act : StoreM α) : StoreM α := do
  let saved ← get
  if !saved.db.isOpen then throw (unavailable "begin tx" SqlError.closed.message)
  try act catch e =>
    modify fun s => { s with db := saved.db }
    throw e

/-- The store's clock. -/
def now : StoreM Time.Instant := do return (← get).now

/-- The store's clock as a stored time. -/
def nowText : StoreM String := do return (← get).now.stored

/-- A fresh identifier. -/
def freshId : StoreM Uuid := do
  let s ← get
  set { s with nextSeed := s.nextSeed + 1 }
  return Uuid.ofSeed s.nextSeed

/-- Logs a record of the store. -/
def note (level : Log.Level) (msg : String) (attrs : List (String × Log.Value)) : StoreM Unit :=
  modify fun s => { s with logged := s.logged ++ [⟨level, msg, attrs⟩] }

/-- The layout of stored times. -/
def timeLayout : String := "2006-01-02T15:04:05.000000Z"

/-- Reads a stored time. -/
def parseTime (s : String) : Except String Time.Instant := Time.parseLayout timeLayout s

/-- Reads a stored time that may be missing (null or empty). -/
def parseNullTime : Option String → Except String (Option Time.Instant)
  | none | some "" => .ok none
  | some s => some <$> parseTime s

/-- Reads a stored identifier that may be missing (null or empty). -/
def parseNullId : Option String → Except String (Option Uuid)
  | none | some "" => .ok none
  | some s => some <$> Uuid.parse s

/-! ## Reading cells -/

/-- The name of a cell's class in conversion messages. -/
def cellClass : Value → String
  | .null => "<nil>"
  | .int _ => "int64"
  | .real _ => "float64"
  | .text _ => "string"

/-- The text a cell converts to as an intermediate (numbers in their shortest form). -/
def cellAsText : Value → Option String
  | .null => none
  | .int n => some (toString n)
  | .real x => some (Text.formatGeneral x)
  | .text s => some s

/-- The position and name of a cell, for messages. -/
structure CellRef where
  index : Nat
  column : String

/-- A conversion failure at a cell. -/
def CellRef.fail {α : Type} (c : CellRef) (detail : String) : Except String α :=
  .error ("sql: Scan error on column index " ++ toString c.index ++ ", name " ++
    Text.Quoted.quote c.column ++ ": " ++ detail)

/-- A cell read as text; null does not convert. -/
def cellText (c : CellRef) (v : Value) : Except String String :=
  match cellAsText v with
  | some s => .ok s
  | none => c.fail "converting NULL to string is unsupported"

/-- A cell read as text that may be null. -/
def cellNullText (_ : CellRef) (v : Value) : Except String (Option String) := .ok (cellAsText v)

/-- Does a text spell a signed decimal integer (whatever its size)? -/
def isDecimalSyntax (s : String) : Bool :=
  let ds := match s.toList with
    | '-' :: r | '+' :: r => r
    | r => r
  !ds.isEmpty && ds.all Char.isDigit

/-- A cell read as an integer of the named kind (`int`, `int64`) and width. -/
def cellInt (kind : String) (bits : Nat) (c : CellRef) (v : Value) : Except String Int :=
  match v with
  | .int n => .ok n
  | .null => c.fail ("converting NULL to " ++ kind ++ " is unsupported")
  | _ =>
    let s := (cellAsText v).getD ""
    match Text.parseDecimal s bits with
    | some n => .ok n
    | none =>
      let why := if isDecimalSyntax s then "value out of range" else "invalid syntax"
      c.fail ("converting driver.Value type " ++ cellClass v ++ " (" ++ Text.Quoted.quote s ++
        ") to a " ++ kind ++ ": " ++ why)

/-- The cells of a row by column name, with their positions in the selected list. -/
structure RowView where
  table : Table
  row : Row
  columns : List String

/-- The position and value of a selected column. -/
def RowView.cell (r : RowView) (name : String) : CellRef × Value :=
  (⟨r.columns.idxOf name, name⟩, r.table.get r.row name)

/-- A selected column read as text. -/
def RowView.text (r : RowView) (name : String) : Except String String :=
  let (c, v) := r.cell name; cellText c v

/-- A selected column read as text that may be null. -/
def RowView.nullText (r : RowView) (name : String) : Except String (Option String) :=
  let (c, v) := r.cell name; cellNullText c v

/-- A selected column read as an integer of the named kind. -/
def RowView.int (r : RowView) (kind : String) (name : String) : Except String Int :=
  let (c, v) := r.cell name; cellInt kind 64 c v

/-! ## Orders of result rows -/

/-- Rows sorted by a key, ties kept in their order (`desc` for the largest first). -/
def sortRows (t : Table) (key : String) (desc : Bool) (rows : List Row) : List Row :=
  rows.mergeSort fun a b =>
    let o := (t.get a key).order (t.get b key)
    if desc then o != .lt else o != .gt

end CreditExtraction.Store
