import CreditExtraction.Sql.Expr

/-!
# Tables, indexes and triggers

A table has named columns, each with a declared type (whose affinity converts what is stored),
a flag for `NOT NULL`, a default, and possibly a reference to a key of a parent table (its
primary key, unless the reference names another column). Its unique indexes are listed in the
order the store checks them: the newest index first and the primary key last. Its `CHECK`
constraints are conditions every row must not make false, each known by its name or, without
one, by its text as written. Rows keep their insertion order through a row number; a table
declared `WITHOUT ROWID` numbers them too, but its integer primary key is then an ordinary
column. What a column's own definition declares goes with the column; the keys and
references a table declares apart from its columns name them again, which is why such a
column cannot simply be dropped.

A trigger guards one kind of change on one table (an update perhaps only of some columns),
before or after it happens, optionally under a condition on the `NEW` and `OLD` rows; its
action raises a refusal with a message, or quietly skips the row.
-/

namespace CreditExtraction.Sql

/-- A reference from a column to a key of a parent table. -/
structure Reference where
  /-- The parent table, by the name the reference gives it. -/
  parent : String
  /-- The parent's column the reference names; none for the parent's primary key. -/
  key : Option String
deriving Repr, Inhabited

/-- A column of a table. -/
structure Column where
  name : String
  declared : String
  notNull : Bool
  default : Value
  primaryKey : Bool
  /-- The key of a parent table this column refers to. -/
  references : Option Reference
  /-- Does the column's own definition declare it `UNIQUE`? -/
  unique : Bool
deriving Repr, Inhabited

/-- The affinity of a column. -/
def Column.affinity (c : Column) : Affinity := Affinity.ofDeclared c.declared

/-- Is the column the row number under another name (an integer primary key)? -/
def Column.isRowNumber (c : Column) : Bool := c.primaryKey && c.declared.toUpper == "INTEGER"

/-- An index over some columns, or over expressions of a row's columns. -/
structure Index where
  name : String
  columns : List String
  unique : Bool
  /-- Is this the index of the primary key? -/
  primary : Bool
  /-- For an index over expressions, the expressions whose values make a row's key in place
  of the values of its columns. -/
  expressions : Option (List Expr)
  /-- The condition a row meets to be in the index, for an index over some rows only. -/
  condition : Option Expr
deriving Repr, Inhabited

/-- An index over columns that holds every row. -/
def Index.ofColumns (name : String) (columns : List String) (unique primary : Bool) : Index :=
  ⟨name, columns, unique, primary, none, none⟩

/-- A stored row: its row number and one value per column, in column order. -/
structure Row where
  number : Nat
  values : List Value
deriving Repr, Inhabited

/-- A `CHECK` constraint: its condition, the name given to it, the text of its condition as
written, and the column whose definition declares it, if one does. -/
structure Check where
  cond : Expr
  name : Option String
  text : String
  owner : Option String
deriving Repr, Inhabited

/-- What a refusal quotes: the constraint's name, or else the text of its condition, without
the quotes either starts with. -/
def Check.label (c : Check) : String := dequote (c.name.getD c.text)

/-- The columns a table constraint names by themselves, apart from any column's definition. -/
inductive KeyList where
  /-- `PRIMARY KEY (…)` or `UNIQUE (…)`. -/
  | key (columns : List String)
  /-- `FOREIGN KEY (…) REFERENCES …`. -/
  | reference (columns : List String)
deriving Repr, Inhabited

/-- The columns a table constraint names. -/
def KeyList.columns : KeyList → List String
  | .key cs | .reference cs => cs

/-- A table. -/
structure Table where
  name : String
  columns : List Column
  indexes : List Index
  rows : List Row
  nextNumber : Nat
  checks : List Check
  /-- Are the rows numbered? A table declared `WITHOUT ROWID` is kept by its primary key
  alone, and even an integer primary key is a column like the others there. -/
  numbered : Bool
  /-- Did the table's rows fail to read from its file? A statement that reads them is then
  refused. -/
  damaged : Bool
  /-- The keys and references the table declares apart from its columns, in order. -/
  keyLists : List KeyList
deriving Repr, Inhabited

/-- The changes a trigger can guard. -/
inductive Event where
  | insert
  | update
  | delete
deriving Repr, DecidableEq, Inhabited

/-- When a trigger runs. -/
inductive Timing where
  | before
  | after
deriving Repr, DecidableEq, Inhabited

/-- What a trigger does when it fires. -/
inductive RaiseKind where
  /-- Leave the row alone and go on. -/
  | ignore
  /-- Refuse the statement. -/
  | abort
  /-- Refuse the statement, keeping the rows already changed. -/
  | fail
  /-- Refuse and undo the whole transaction. -/
  | rollback
deriving Repr, DecidableEq, Inhabited

/-- A trigger. -/
structure Trigger where
  name : String
  timing : Timing
  event : Event
  table : String
  guard : Option Expr
  raise : RaiseKind
  message : String
  /-- For an update trigger, the columns whose update it guards; every update when empty. -/
  columns : List String
deriving Repr, Inhabited

namespace Table

/-- The position of a column. -/
def columnIndex? (t : Table) (name : String) : Option Nat :=
  t.columns.findIdx? (sameName ·.name name)

/-- The column of a name. -/
def column? (t : Table) (name : String) : Option Column :=
  t.columns.find? (sameName ·.name name)

/-- A row as expressions see it. -/
def frame (t : Table) (r : Row) : Frame :=
  (t.columns.zip r.values).map fun (c, v) => ⟨c.name, c.affinity, v⟩

/-- The value of a column in a row; null when the column is unknown. -/
def get (t : Table) (r : Row) (name : String) : Value :=
  match t.columnIndex? name with
  | some i => r.values.getD i .null
  | none => .null

/-- Checks, as a statement is made ready, that the table has the columns it names, in the
order they are named: the first one missing refuses the statement, before any row is read. -/
def resolve (t : Table) (names : List String) : Except SqlError Unit :=
  names.forM fun c =>
    if (t.column? c).isSome then .ok () else .error (SqlError.logic ("no such column: " ++ c))

/-- Refuses, as a statement starts reading a table, one whose rows did not read from its file. -/
def ensureReadable (t : Table) : Except SqlError Unit :=
  if t.damaged then .error SqlError.malformed else .ok ()

/-- Is a column of the table the row number under another name: the integer primary key of a
table whose rows are numbered, the key's only column? -/
def isRowNumber (t : Table) (c : Column) : Bool :=
  t.numbered && c.isRowNumber && (t.columns.filter (·.primaryKey)).length == 1

/-- A column name qualified by the table, as constraint messages write it. -/
def qualified (t : Table) (col : String) : String := t.name ++ "." ++ col

/-- The primary key column. -/
def primaryColumn? (t : Table) : Option Column := t.columns.find? (·.primaryKey)

/-- The key of a row: its primary key's value. -/
def keyOf (t : Table) (r : Row) : Value :=
  match t.primaryColumn? with
  | some pk => t.get r pk.name
  | none => .null

/-- The references out of the table: each column that refers to a parent, with its reference. -/
def links (t : Table) : List (Column × Reference) :=
  t.columns.filterMap fun c => c.references.map (c, ·)

/-- The column of the table that a reference to it names: the one it names, or else the
primary key when that is one column. A reference is to a key: the row number, or the columns
of a unique index over all rows. -/
def keyFor? (t : Table) (ref : Reference) : Option Column :=
  let pks := t.columns.filter (·.primaryKey)
  let col := match ref.key with
    | some k => t.column? k
    | none => match pks with
      | [pk] => some pk
      | _ => none
  col.filter fun c =>
    t.isRowNumber c || t.indexes.any fun ix =>
      ix.unique && ix.condition.isNone && ix.expressions.isNone &&
        match ix.columns with
        | [k] => sameName k c.name
        | _ => false

end Table

/-- Checks, as a statement that would run a trigger is made ready, that the trigger's condition
reads only columns of the rows it has: `NEW` for an insert or update and `OLD` for an update
or delete, each a column of its table. -/
def Trigger.resolve (tr : Trigger) (t : Table) : Except SqlError Unit :=
  match tr.guard with
  | none => .ok ()
  | some g => g.refs.forM fun (side, n) =>
    let has : Bool := match side with
      | .current | .table _ => false
      | .new => tr.event != .delete && (t.column? n).isSome
      | .old => tr.event != .insert && (t.column? n).isSome
    if has then .ok () else .error (SqlError.logic ("no such column: " ++ side.prefixText ++ n))

end CreditExtraction.Sql
