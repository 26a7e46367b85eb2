/-!
# Refusals of the embedded SQL store

The store refuses a statement with a result code and a detail. The code's low byte is the
primary code (`1`, a logic error such as a missing table; `19`, a violated constraint) and the
whole code tells the constraint apart (`1811` a trigger, `2067` a unique index, `1555` a
primary key, `787` a foreign key, `1299` a missing value, `275` a `CHECK` constraint). Every refusal reads
`<primary code's text>: <detail> (<code>)`, or `<primary code's text> (<code>)` when the detail
is that text (`file is not a database (26)`). A store that has been closed refuses everything
with its own message.
-/

namespace CreditExtraction.Sql

/-- Why the store refused a statement. -/
inductive SqlError where
  /-- A refusal with a result code and a detail. -/
  | refused (code : Nat) (detail : String)
  /-- The store was closed. -/
  | closed
deriving Repr, Inhabited

namespace SqlError

/-- The text of a primary result code. -/
def codeText : Nat → String
  | 1 => "SQL logic error"
  | 8 => "attempt to write a readonly database"
  | 11 => "database disk image is malformed"
  | 19 => "constraint failed"
  | 20 => "datatype mismatch"
  | 25 => "column index out of range"
  | 26 => "file is not a database"
  | _ => "unknown error"

/-- The message of a refusal; a detail that only repeats the code's text is not repeated. -/
def message : SqlError → String
  | .refused code detail =>
    let text := codeText (code % 256)
    if detail == text then text ++ " (" ++ toString code ++ ")"
    else text ++ ": " ++ detail ++ " (" ++ toString code ++ ")"
  | .closed => "sql: database is closed"

/-- The detail of a refusal, without its code. -/
def detail : SqlError → String
  | .refused _ d => d
  | .closed => ""

/-- A refusal whose detail is its code's text alone. -/
def bare (code : Nat) : SqlError := .refused code (codeText (code % 256))

/-- A file that holds no database. -/
def notADatabase : SqlError := bare 26

/-- A database file whose pages do not read as a database's. -/
def malformed : SqlError := bare 11

/-- A database file whose schema does not read: the entry's name and why. -/
def malformedSchema (entry why : String) : SqlError :=
  .refused 11 ("malformed database schema (" ++ entry ++ ")" ++ (if why == "" then "" else " - " ++ why))

/-- A logic error such as a missing table or column. -/
def logic (detail : String) : SqlError := .refused 1 detail

/-- A missing table. -/
def noSuchTable (name : String) : SqlError := logic ("no such table: " ++ name)

/-- A trigger that raised an abort with its message. -/
def trigger (msg : String) : SqlError := .refused 1811 msg

/-- A unique index violated on the given qualified columns. -/
def unique (cols : List String) : SqlError :=
  .refused 2067 ("UNIQUE constraint failed: " ++ ", ".intercalate cols)

/-- A primary key violated. -/
def primaryKey (cols : List String) : SqlError :=
  .refused 1555 ("UNIQUE constraint failed: " ++ ", ".intercalate cols)

/-- A foreign key left without its parent. -/
def foreignKey : SqlError := .refused 787 "FOREIGN KEY constraint failed"

/-- A `CHECK` constraint that a row makes false, by its name or text. -/
def check (label : String) : SqlError := .refused 275 ("CHECK constraint failed: " ++ label)

/-- A column that may not be null given null. -/
def notNull (col : String) : SqlError := .refused 1299 ("NOT NULL constraint failed: " ++ col)

end SqlError

end CreditExtraction.Sql
