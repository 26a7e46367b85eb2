import CreditExtraction.Sql.Parse
import CreditExtraction.Sql.Schema

/-!
# Reading definitions of tables and indexes

`CREATE TABLE [IF NOT EXISTS] t (column, …, constraint, …)`, where a column has a name, a
declared type and constraints (`PRIMARY KEY`, `NOT NULL`, `NULL`, `UNIQUE`, `CHECK (cond)`,
`DEFAULT v`, `COLLATE c`, `REFERENCES parent [(key)]`), and a table constraint is
`PRIMARY KEY (…)`, `UNIQUE (…)`, `CHECK (cond)` or `FOREIGN KEY (c) REFERENCES parent [(key)]`;
any of them may be named by `CONSTRAINT name`. The table may be declared `WITHOUT ROWID`.

A primary key or unique constraint is kept by an index named `sqlite_autoindex_<table>_<n>`,
numbered from 1 in the order they are declared, except a primary key over one column of type
`INTEGER`, which is the row number. A `CHECK` constraint is quoted, when a row makes it false,
by its name, or else by the text of its condition as written.

`CREATE [UNIQUE] INDEX [IF NOT EXISTS] i ON t (keys) [WHERE cond]`, where a key is a column or
an expression of the columns.
-/

namespace CreditExtraction.Sql

/-- Takes an `ON CONFLICT` clause, which the store does not act on. -/
def conflictClause : Reader Unit := do
  if ← acceptKw "ON" then
    expectKw "CONFLICT"
    if !(← acceptAnyKw ["ROLLBACK", "ABORT", "FAIL", "IGNORE", "REPLACE"]) then failHere

/-- Takes `INITIALLY DEFERRED` or `INITIALLY IMMEDIATE` if it comes next. -/
def deferral : Reader Unit := do
  if ← acceptKw "INITIALLY" then
    if !(← acceptAnyKw ["DEFERRED", "IMMEDIATE"]) then failHere

/-- Takes the actions of a reference (`ON DELETE …`, `ON UPDATE …`, `MATCH …`), which the store
does not act on. -/
def referenceActions : Nat → Reader Unit
  | 0 => pure ()
  | fuel + 1 => do
    if ← acceptKw "ON" then
      if !(← acceptAnyKw ["DELETE", "UPDATE", "INSERT"]) then failHere
      if ← acceptKw "SET" then
        if !(← acceptAnyKw ["NULL", "DEFAULT"]) then failHere
      else if ← acceptKw "NO" then expectKw "ACTION"
      else if !(← acceptAnyKw ["CASCADE", "RESTRICT"]) then failHere
      referenceActions fuel
    else if ← acceptKw "MATCH" then
      let _ ← name
      referenceActions fuel
    else pure ()

/-- Reads what follows `REFERENCES`: the parent table and the parent's column, when it names
one, which the reference is to; the actions are taken and not acted on. -/
def referenceClause (fuel : Nat) : Reader Reference := do
  let parent ← name
  let key ← if ← acceptSym "(" then do
      let cols ← nameList fuel
      expectSym ")"
      pure cols.head?
    else pure none
  referenceActions fuel
  return ⟨parent, key⟩

/-- Reads columns of a key, each with an optional collation and order, separated by commas. -/
def keyColumns : Nat → Reader (List String)
  | 0 => failHere
  | fuel + 1 => do
    let n ← name
    if ← acceptKw "COLLATE" then
      let _ ← name
    let _ ← acceptAnyKw ["ASC", "DESC"]
    if ← acceptSym "," then
      let rest ← keyColumns fuel
      pure (n :: rest)
    else pure [n]

/-- Reads the keys of an index, separated by commas: columns or expressions, each perhaps with
a collation and an order. -/
def indexKeys : Nat → Reader (List Expr)
  | 0 => failHere
  | fuel + 1 => do
    let e ← expr fuel 0
    if ← acceptKw "COLLATE" then
      let _ ← name
    let _ ← acceptAnyKw ["ASC", "DESC"]
    if ← acceptSym "," then
      let rest ← indexKeys fuel
      pure (e :: rest)
    else pure [e]

/-- The words that end a column's declared type. -/
def constraintWords : List String :=
  ["CONSTRAINT", "PRIMARY", "NOT", "NULL", "UNIQUE", "CHECK", "DEFAULT", "COLLATE", "REFERENCES",
   "GENERATED", "AS"]

/-- Takes the words of a declared type. -/
def typeWords : Nat → Reader Unit
  | 0 => pure ()
  | fuel + 1 => do
    match ← peek with
    | some (.word w) => if constraintWords.contains w.toUpper then pure () else do advance; typeWords fuel
    | some (.ident _ _) => advance; typeWords fuel
    | some (.str _) => advance; typeWords fuel
    | _ => pure ()

/-- Reads a column's declared type, as written: words, then an optional size of one or two
numbers in brackets; empty when there is none. -/
def declaredType (src : Source) (fuel : Nat) : Reader String := do
  let first ← place src
  typeWords fuel
  if (← place src) == first then return ""
  if ← acceptSym "(" then
    signedNumber
    if ← acceptSym "," then signedNumber
    expectSym ")"
  return src.span first ((← place src) - 1)

/-- Reads the value after `DEFAULT`: a literal, a signed number, a name (`TRUE` and `FALSE` are
1 and 0, another name is its own text) or an expression in brackets, which is evaluated. -/
def defaultValue (fuel : Nat) : Reader Value := do
  let number : Reader Value := do
    match ← peek with
    | some (.num s) => advance; pure (numberValue s)
    | _ => failHere
  match ← peek with
  | some (.num s) => advance; pure (numberValue s)
  | some (.str s) => advance; pure (.text s)
  | some (.sym "+") => advance; number
  | some (.sym "-") =>
    advance
    let v ← number
    pure (match eval ⟨none, none, none⟩ (.neg (.lit v)) with
      | .ok (w, _) => w
      | .error _ => .null)
  | some (.sym "(") =>
    advance
    let e ← expr fuel 0
    expectSym ")"
    pure (match eval ⟨none, none, none⟩ e with
      | .ok (v, _) => v
      | .error _ => .null)
  | some (.word w) =>
    advance
    match w.toUpper with
    | "NULL" => pure .null
    | "TRUE" => pure (.int 1)
    | "FALSE" => pure (.int 0)
    | _ => pure (.text w)
  | some (.ident s _) => advance; pure (.text s)
  | _ => failHere

/-- Reads `CHECK (cond)` after its keyword: the constraint, quoted by the name given to it or
else by the text of its condition. -/
def checkClause (src : Source) (fuel : Nat) (named : Option String) (owner : Option String) :
    Reader Check := do
  let opening ← place src
  expectSym "("
  let cond ← expr fuel 0
  let closing ← place src
  expectSym ")"
  return ⟨cond, named, src.between opening closing, owner⟩

/-- A key a definition declares. -/
inductive KeyKind where
  | primary
  | unique
deriving DecidableEq, Inhabited

/-- A column as its definition declares it, with what it brings to its table: its `CHECK`
constraints and its keys, in order. -/
structure ColumnDef where
  column : Column
  checks : List Check
  keys : List KeyKind

/-- Reads the constraints of a column, in order; `named` is the name the last `CONSTRAINT`
gave, which holds for the constraints after it. -/
def columnConstraints (src : Source) : Nat → Option String → ColumnDef → Reader ColumnDef
  | 0, _, d => pure d
  | fuel + 1, named, d => do
    let c := d.column
    if ← acceptKw "CONSTRAINT" then
      let n ← name
      columnConstraints src fuel (some n) d
    else if ← acceptKw "PRIMARY" then
      expectKw "KEY"
      let _ ← acceptAnyKw ["ASC", "DESC"]
      conflictClause
      let _ ← acceptKw "AUTOINCREMENT"
      columnConstraints src fuel named { d with keys := d.keys ++ [.primary] }
    else if ← acceptKw "NOT" then
      if ← acceptKw "DEFERRABLE" then
        deferral
        columnConstraints src fuel named d
      else
        expectKw "NULL"
        conflictClause
        columnConstraints src fuel named { d with column := { c with notNull := true } }
    else if ← acceptKw "NULL" then
      conflictClause
      columnConstraints src fuel named d
    else if ← acceptKw "UNIQUE" then
      conflictClause
      columnConstraints src fuel named
        { d with column := { c with unique := true }, keys := d.keys ++ [.unique] }
    else if ← acceptKw "CHECK" then
      let ck ← checkClause src fuel named (some c.name)
      columnConstraints src fuel named { d with checks := d.checks ++ [ck] }
    else if ← acceptKw "DEFAULT" then
      let v ← defaultValue fuel
      columnConstraints src fuel named { d with column := { c with default := v } }
    else if ← acceptKw "COLLATE" then
      let _ ← name
      columnConstraints src fuel named d
    else if ← acceptKw "REFERENCES" then
      let ref ← referenceClause fuel
      columnConstraints src fuel named { d with column := { c with references := some ref } }
    else if ← acceptKw "DEFERRABLE" then
      deferral
      columnConstraints src fuel named d
    else pure d

/-- Reads a column definition: its name, declared type and constraints. -/
def columnDef (src : Source) (fuel : Nat) : Reader ColumnDef := do
  let n ← name
  let declared ← declaredType src fuel
  columnConstraints src fuel none ⟨⟨n, declared, false, .null, false, none, false⟩, [], []⟩

/-- A table as its definition is read: its name, columns, `CHECK` constraints, indexes (the
newest first), whether it has a primary key yet, and the keys and references it declares
apart from its columns. -/
structure Draft where
  name : String
  columns : List Column
  checks : List Check
  indexes : List Index
  keyed : Bool
  keyLists : List KeyList

namespace Draft

/-- Adds the index of a key over columns. An index over the same columns serves instead (and
becomes the primary key's when this is one); a new one is named by the table and its number. -/
def addIndex (d : Draft) (cols : List String) (primary : Bool) : Draft :=
  let same := fun (ix : Index) =>
    ix.columns.length == cols.length && (ix.columns.zip cols).all fun (a, b) => sameName a b
  if d.indexes.any same then
    { d with indexes := d.indexes.map fun ix => if same ix && primary then { ix with primary := true } else ix }
  else
    let ixName := "sqlite_autoindex_" ++ d.name ++ "_" ++ toString (d.indexes.length + 1)
    { d with indexes := .ofColumns ixName cols true primary :: d.indexes }

/-- Declares a key over columns (see `addIndex`). A second primary key is refused, and a
primary key over one column of type `INTEGER` is the row number and needs no index. -/
def addKey (d : Draft) (kind : KeyKind) (cols : List String) : Except SqlError Draft :=
  match kind with
  | .unique => .ok (d.addIndex cols false)
  | .primary =>
    if d.keyed then .error (SqlError.logic ("table \"" ++ d.name ++ "\" has more than one primary key"))
    else
      let d := { d with
        keyed := true
        columns := d.columns.map fun c => if cols.any (sameName · c.name) then { c with primaryKey := true } else c }
      match cols with
      | [col] =>
        if ((d.columns.find? (sameName ·.name col)).map (·.declared.toUpper == "INTEGER")).getD false then .ok d
        else .ok (d.addIndex cols true)
      | _ => .ok (d.addIndex cols true)

/-- Adds a column with what it declares; a column of the same name is refused. -/
def addColumn (d : Draft) (cd : ColumnDef) : Except SqlError Draft := do
  if d.columns.any (sameName ·.name cd.column.name) then
    throw (SqlError.logic ("duplicate column name: " ++ cd.column.name))
  let d := { d with columns := d.columns ++ [cd.column], checks := d.checks ++ cd.checks }
  cd.keys.foldlM (fun d k => d.addKey k [cd.column.name]) d

/-- Makes a column of the table refer to a key of a parent table. -/
def refer (d : Draft) (col : String) (ref : Reference) : Draft :=
  { d with columns := d.columns.map fun c => if sameName c.name col then { c with references := some ref } else c }

/-- The table read, without rows. -/
def table (d : Draft) (numbered : Bool) : Table :=
  ⟨d.name, d.columns, d.indexes, [], 1, d.checks, numbered, false, d.keyLists⟩

/-- Keeps the table by its primary key alone (`WITHOUT ROWID`): it must have one, its columns
may not be null, and an integer primary key, which needed no index so far, gets one now, after
the others. -/
def withoutRowNumbers (d : Draft) : Except SqlError Draft := do
  if !d.keyed then throw (SqlError.logic ("PRIMARY KEY missing on table " ++ d.name))
  let keyCols := (d.columns.filter (·.primaryKey)).map (·.name)
  let d := { d with columns := d.columns.map fun c => if c.primaryKey then { c with notNull := true } else c }
  if d.indexes.any (·.primary) then pure d else pure (d.addIndex keyCols true)

end Draft

/-- Does a token open a table constraint? -/
def opensTableConstraint (t : Token) : Bool :=
  ["CONSTRAINT", "PRIMARY", "UNIQUE", "CHECK", "FOREIGN"].any (t.isKw ·)

/-- Reads one table constraint; `named` is the name the last `CONSTRAINT` gave. The table, and
the name that holds for the constraints after it. -/
def tableConstraint (src : Source) (fuel : Nat) (named : Option String) (d : Draft) :
    Reader (Draft × Option String) := do
  if ← acceptKw "CONSTRAINT" then
    return (d, some (← name))
  else if ← acceptKw "PRIMARY" then
    expectKw "KEY"
    expectSym "("
    let cols ← keyColumns fuel
    let _ ← acceptKw "AUTOINCREMENT"
    expectSym ")"
    conflictClause
    let d ← d.addKey .primary cols
    return ({ d with keyLists := d.keyLists ++ [.key cols] }, named)
  else if ← acceptKw "UNIQUE" then
    expectSym "("
    let cols ← keyColumns fuel
    expectSym ")"
    conflictClause
    let d ← d.addKey .unique cols
    return ({ d with keyLists := d.keyLists ++ [.key cols] }, named)
  else if ← acceptKw "CHECK" then
    let ck ← checkClause src fuel named none
    conflictClause
    return ({ d with checks := d.checks ++ [ck] }, named)
  else if ← acceptKw "FOREIGN" then
    expectKw "KEY"
    expectSym "("
    let cols ← nameList fuel
    expectSym ")"
    expectKw "REFERENCES"
    let ref ← referenceClause fuel
    if ← acceptKw "NOT" then expectKw "DEFERRABLE"; deferral
    else if ← acceptKw "DEFERRABLE" then deferral
    match cols with
    | [col] => return ({ d.refer col ref with keyLists := d.keyLists ++ [.reference cols] }, named)
    | _ => return ({ d with keyLists := d.keyLists ++ [.reference cols] }, named)
  else failHere

/-- Reads the table constraints, which may be separated by commas; a comma ends the name a
`CONSTRAINT` gave. -/
def tableConstraints (src : Source) : Nat → Option String → Draft → Reader Draft
  | 0, _, d => pure d
  | fuel + 1, named, d => do
    let (d, named) ← tableConstraint src fuel named d
    let rest ← get
    match rest with
    | t :: u :: more =>
      if t.isSym "," && opensTableConstraint u then
        set (u :: more)
        tableConstraints src fuel none d
      else if opensTableConstraint t then tableConstraints src fuel named d
      else pure d
    | [t] => if opensTableConstraint t then tableConstraints src fuel named d else pure d
    | [] => pure d

/-- Reads the column definitions, separated by commas, and the table constraints after them. -/
def columnDefs (src : Source) : Nat → Draft → Reader Draft
  | 0, d => pure d
  | fuel + 1, d => do
    let d ← d.addColumn (← columnDef src fuel)
    if ← acceptSym "," then
      match ← peek with
      | some t => if opensTableConstraint t then tableConstraints src fuel none d else columnDefs src fuel d
      | none => failHere
    else pure d

/-- Reads `CREATE TABLE …` after its first two words: the name, the columns and constraints in
brackets, and the options `WITHOUT ROWID` (see `Draft.withoutRowNumbers`) and `STRICT`, which
the store does not act on. The table and whether it is to be created only if it does not
exist. -/
def tableDefinition (src : Source) (fuel : Nat) : Reader (Table × Bool) := do
  let ifNotExists ← ifNotExistsClause
  let n ← qualifiedName
  expectSym "("
  let d ← columnDefs src fuel ⟨n, [], [], [], false, []⟩
  expectSym ")"
  if ← tableOptions fuel false then
    return ((← d.withoutRowNumbers).table false, ifNotExists)
  return (d.table true, ifNotExists)
where
  /-- Takes the table options, separated by commas; whether one of them is `WITHOUT ROWID`. -/
  tableOptions : Nat → Bool → Reader Bool
    | 0, without => pure without
    | fuel + 1, without => do
      let mut without := without
      if ← acceptKw "WITHOUT" then
        let w ← name
        if w.toUpper != "ROWID" then throw (SqlError.logic ("unknown table option: " ++ w))
        without := true
      else if !(← acceptKw "STRICT") then return without
      if ← acceptSym "," then tableOptions fuel without else pure without

/-- Reads `CREATE [UNIQUE] INDEX …` after `INDEX`: the name, the table and the keys, columns
or expressions, and the condition that makes it hold only some rows. The table, the index and
whether it is to be created only if it does not exist. -/
def indexDefinition (fuel : Nat) (unique : Bool) : Reader (String × Index × Bool) := do
  let ifNotExists ← ifNotExistsClause
  let n ← qualifiedName
  expectKw "ON"
  let table ← name
  expectSym "("
  let keys ← indexKeys fuel
  expectSym ")"
  let condition ← if ← acceptKw "WHERE" then some <$> expr fuel 0 else pure none
  let plain := keys.filterMap fun
    | .col .current c => some c
    | _ => none
  let ix : Index := if plain.length == keys.length then ⟨n, plain, unique, false, none, condition⟩
    else ⟨n, [], unique, false, some keys, condition⟩
  return (table, ix, ifNotExists)

end CreditExtraction.Sql
