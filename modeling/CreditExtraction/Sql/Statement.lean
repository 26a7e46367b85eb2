import CreditExtraction.Sql.Definition
import CreditExtraction.Sql.Alter

/-!
# Statements of the embedded SQL store

The statements the store reads from text, and what each does to a database:

* the definitions of tables and indexes (see `Sql.Definition`), `CREATE VIEW`, `DROP TABLE`,
  `DROP VIEW`, `DROP INDEX` and `DROP TRIGGER` (each perhaps `IF [NOT] EXISTS`), and
  `ALTER TABLE t` with `RENAME TO`, `RENAME [COLUMN] a TO b`, `ADD [COLUMN]` or
  `DROP [COLUMN]`;
* `CREATE TRIGGER [IF NOT EXISTS] t [BEFORE|AFTER|INSTEAD OF] INSERT|UPDATE [OF columns]|DELETE
  ON table [FOR EACH ROW] [WHEN cond] BEGIN SELECT RAISE(…) [WHERE cond]; END`, where the
  raise is `RAISE(ABORT|FAIL|ROLLBACK, 'message')` or `RAISE(IGNORE)`, perhaps as
  `CASE WHEN cond THEN RAISE(…) END`;
* `INSERT [OR conflict] INTO t [(columns)] VALUES (values), …` or `DEFAULT VALUES`,
  `REPLACE INTO …` (which is `INSERT OR REPLACE`), `UPDATE [OR conflict] t SET c = e, …
  [WHERE cond]` and `DELETE FROM t [WHERE cond]`, which report how many rows they changed;
* `SELECT`, whose tables and columns must exist; what it returns is not kept.

An insert's values must be as many as its columns: the table's, or those it names
(`table t has 2 columns but 3 values were supplied`, `3 values for 2 columns`), and every row
of its values as many as the first (`all VALUES must have the same number of terms`).
-/

namespace CreditExtraction.Sql

/-- One item a query returns: every column, or an expression under the name it may give. -/
inductive ResultItem where
  | all
  | expr (e : Expr) (label : Option String)
deriving Repr, Inhabited

/-- A query, as far as the store reads one: the tables it reads, what it returns, the
conditions of its joins, its condition, grouping and order. -/
structure Query where
  tables : List String
  results : List ResultItem
  joins : List Expr
  cond : Option Expr
  groupBy : List Expr
  having : Option Expr
  orderBy : List Expr
deriving Repr, Inhabited

/-- A statement. -/
inductive Statement where
  | createTable (t : Table) (ifNotExists : Bool)
  | createIndex (table : String) (ix : Index) (ifNotExists : Bool)
  /-- A trigger; `instead` tells one that runs instead of the change. -/
  | createTrigger (t : Trigger) (ifNotExists instead : Bool)
  | createView (name : String) (ifNotExists : Bool)
  | addColumn (table : String) (col : Column) (checks : List Check) (unique : Bool)
  | renameTable (old new : String)
  /-- A column renamed: the old name as written and as read, the new one, and whether the new
  one was quoted. -/
  | renameColumn (table oldWritten old new : String) (quoted : Bool)
  /-- A column dropped: its name as written and as read. -/
  | dropColumn (table written name : String)
  | dropTable (name : String) (ifExists : Bool)
  | dropView (name : String) (ifExists : Bool)
  | dropIndex (name : String) (ifExists : Bool)
  | dropTrigger (name : String) (ifExists : Bool)
  | insert (table : String) (columns : Option (List String)) (rows : List (List Expr))
      (conflict : Conflict)
  | update (table : String) (sets : List (String × Expr)) (cond : Option Expr) (conflict : Conflict)
  | delete (table : String) (cond : Option Expr)
  | select (q : Query)
deriving Repr, Inhabited

/-- Reads the `RAISE(…)` of a trigger body. -/
def raiseClause : Reader (RaiseKind × String) := do
  expectKw "RAISE"
  expectSym "("
  if ← acceptKw "IGNORE" then
    expectSym ")"
    return (.ignore, "")
  let kind ← if ← acceptKw "ABORT" then pure RaiseKind.abort
    else if ← acceptKw "FAIL" then pure RaiseKind.fail
    else if ← acceptKw "ROLLBACK" then pure RaiseKind.rollback
    else failHere
  expectSym ","
  let msg ← textLiteral
  expectSym ")"
  return (kind, msg)

/-- Both conditions, either of which may be missing. -/
def bothConditions : Option Expr → Option Expr → Option Expr
  | some a, some b => some (.bin .and a b)
  | some a, none | none, some a => some a
  | none, none => none

/-- Reads the body of a trigger after `BEGIN SELECT`: the raise, perhaps as the one case of a
`CASE`, and perhaps a `WHERE`; the raise and the condition under which it is reached. -/
def raiseBody (fuel : Nat) : Reader (RaiseKind × String × Option Expr) := do
  let (kind, msg, onCase) ← if ← acceptKw "CASE" then do
      expectKw "WHEN"
      let c ← expr fuel 0
      expectKw "THEN"
      let (kind, msg) ← raiseClause
      expectKw "END"
      pure (kind, msg, some c)
    else do
      let (kind, msg) ← raiseClause
      pure (kind, msg, none)
  let onWhere ← if ← acceptKw "WHERE" then some <$> expr fuel 0 else pure none
  return (kind, msg, bothConditions onCase onWhere)

/-- Reads `CREATE [TEMP] TRIGGER …` after `TRIGGER`. -/
def triggerStatement (fuel : Nat) : Reader Statement := do
  let ifNotExists ← ifNotExistsClause
  let n ← qualifiedName
  let (timing, instead) ← if ← acceptKw "BEFORE" then pure (Timing.before, false)
    else if ← acceptKw "AFTER" then pure (Timing.after, false)
    else if ← acceptKw "INSTEAD" then do expectKw "OF"; pure (Timing.before, true)
    else pure (Timing.before, false)
  let (event, columns) ← if ← acceptKw "INSERT" then pure (Event.insert, [])
    else if ← acceptKw "DELETE" then pure (Event.delete, [])
    else if ← acceptKw "UPDATE" then do
      if ← acceptKw "OF" then pure (Event.update, ← nameList fuel) else pure (Event.update, [])
    else failHere
  expectKw "ON"
  let table ← name
  if ← acceptKw "FOR" then
    expectKw "EACH"
    expectKw "ROW"
  let guard ← if ← acceptKw "WHEN" then some <$> expr fuel 0 else pure none
  expectKw "BEGIN"
  expectKw "SELECT"
  let (kind, msg, reached) ← raiseBody fuel
  expectSym ";"
  expectKw "END"
  return .createTrigger ⟨n, timing, event, table, bothConditions guard reached, kind, msg, columns⟩
    ifNotExists instead

/-- The words after a query's returned items that cannot name one of them. -/
def clauseWords : List String :=
  ["FROM", "WHERE", "GROUP", "ORDER", "LIMIT", "HAVING", "UNION", "EXCEPT", "INTERSECT"]

/-- Reads an item a query returns after its expression: the name it may be given. -/
def itemLabel (e : Expr) : Reader ResultItem := do
  if ← acceptKw "AS" then return .expr e (some (← name))
  match ← peek with
  | some (.word w) =>
    if clauseWords.contains w.toUpper then return .expr e none
    else
      let l ← name
      return .expr e (some l)
  | some (.ident l _) => advance; return .expr e (some l)
  | _ => return .expr e none

/-- Reads the items a query returns, separated by commas. -/
def resultItems : Nat → Reader (List ResultItem)
  | 0 => failHere
  | fuel + 1 => do
    let item ← if ← acceptSym "*" then pure ResultItem.all
      else match ← get with
        | t :: dot :: star :: more =>
          if t.isName && dot.isSym "." && star.isSym "*" then do set more; pure ResultItem.all
          else itemLabel (← expr fuel 0)
        | _ => itemLabel (← expr fuel 0)
    if ← acceptSym "," then
      let rest ← resultItems fuel
      pure (item :: rest)
    else pure [item]

/-- The words that join two tables. -/
def joinWords : List String := ["JOIN", "NATURAL", "LEFT", "RIGHT", "FULL", "OUTER", "INNER", "CROSS"]

/-- Takes the words of a join before `JOIN`, and `JOIN`; whether a join came. -/
def joinClause : Nat → Bool → Reader Bool
  | 0, _ => failHere
  | fuel + 1, seen => do
    if ← acceptKw "JOIN" then return true
    if ← acceptAnyKw (joinWords.filter (· != "JOIN")) then joinClause fuel true
    else if seen then failHere
    else return false

/-- Reads the tables a query reads, each perhaps under another name, separated by commas or
joins; the tables and the conditions of the joins. -/
def fromTables : Nat → Reader (List String × List Expr)
  | 0 => failHere
  | fuel + 1 => do
    let t ← qualifiedName
    if ← acceptKw "AS" then
      let _ ← name
    else
      match ← peek with
      | some (.word w) =>
        if !(["WHERE", "GROUP", "ORDER", "LIMIT", "ON", "USING", "HAVING"] ++ joinWords).contains w.toUpper then
          let _ ← name
      | some (.ident _ _) => advance
      | _ => pure ()
    let on ← if ← acceptKw "ON" then pure [← expr fuel 0]
      else if ← acceptKw "USING" then do
        expectSym "("
        let _ ← nameList fuel
        expectSym ")"
        pure []
      else pure []
    let joined ← if ← acceptSym "," then pure true else joinClause 8 false
    if joined then
      let (ts, ons) ← fromTables fuel
      pure (t :: ts, on ++ ons)
    else pure ([t], on)

/-- Reads `SELECT …` after its first word. -/
def selectStatement (fuel : Nat) : Reader Statement := do
  let _ ← acceptAnyKw ["DISTINCT", "ALL"]
  let results ← resultItems fuel
  let (tables, joins) ← if ← acceptKw "FROM" then fromTables fuel else pure ([], [])
  let cond ← if ← acceptKw "WHERE" then some <$> expr fuel 0 else pure none
  let (groupBy, having) ← if ← acceptKw "GROUP" then do
      expectKw "BY"
      let g ← indexKeys fuel
      let h ← if ← acceptKw "HAVING" then some <$> expr fuel 0 else pure none
      pure (g, h)
    else pure ([], none)
  let orderBy ← if ← acceptKw "ORDER" then do expectKw "BY"; indexKeys fuel else pure []
  if ← acceptKw "LIMIT" then
    let _ ← expr fuel 0
    if ← acceptKw "OFFSET" then
      let _ ← expr fuel 0
    else if ← acceptSym "," then
      let _ ← expr fuel 0
  return .select ⟨tables, results, joins, cond, groupBy, having, orderBy⟩

/-- Reads the rows of values after `VALUES`, each in brackets; every row must have as many as
the first. -/
def valueRows (fuel : Nat) (width : Option Nat) : Nat → Reader (List (List Expr))
  | 0 => failHere
  | more + 1 => do
    expectSym "("
    let row ← exprList fuel
    expectSym ")"
    if let some w := width then
      if w != row.length then throw (SqlError.logic "all VALUES must have the same number of terms")
    if ← acceptSym "," then
      let rest ← valueRows fuel (some row.length) more
      pure (row :: rest)
    else pure [row]

/-- Reads an `OR` conflict rule after `INSERT` or `UPDATE`, if one comes next. -/
def conflictRule : Reader Conflict := do
  if ← acceptKw "OR" then
    if ← acceptKw "IGNORE" then return .ignore
    if ← acceptKw "REPLACE" then return .replace
    if ← acceptAnyKw ["ABORT", "FAIL", "ROLLBACK"] then return .abort
    failHere
  return .abort

/-- Reads an insert after `INTO`. -/
def insertStatement (fuel : Nat) (conflict : Conflict) : Reader Statement := do
  let table ← qualifiedName
  if ← acceptKw "AS" then
    let _ ← name
  let cols ← if ← acceptSym "(" then do
      let cs ← nameList fuel
      expectSym ")"
      pure (some cs)
    else pure none
  if ← acceptKw "DEFAULT" then
    expectKw "VALUES"
    return .insert table (some []) [[]] conflict
  expectKw "VALUES"
  let rows ← valueRows fuel none fuel
  return .insert table cols rows conflict

/-- Reads `IF EXISTS` if it comes next; whether it did. -/
def ifExistsClause : Reader Bool := do
  if ← acceptKw "IF" then
    expectKw "EXISTS"
    return true
  return false

/-- Takes the rest of a view's definition after `AS`: a query, which the store does not read. -/
def viewQuery : Nat → Reader Unit
  | 0 => pure ()
  | fuel + 1 => do
    match ← peek with
    | none => pure ()
    | some t => if t.isSym ";" then pure () else do advance; viewQuery fuel

/-- Reads a name with the text it is written as. -/
def writtenName (src : Source) : Reader (String × String) := do
  let i ← place src
  let n ← name
  return (n, src.span i i)

/-- Does a name's text start with a quote? -/
def isQuotedText (s : String) : Bool :=
  match s.toList with
  | c :: _ => c == '"' || c == '\'' || c == '\x60' || c == '['
  | [] => false

/-- Reads `ALTER TABLE …` after its first two words. -/
def alterStatement (src : Source) (fuel : Nat) : Reader Statement := do
  let table ← qualifiedName
  if ← acceptKw "ADD" then
    let _ ← acceptKw "COLUMN"
    let cd ← columnDef src fuel
    return .addColumn table { cd.column with primaryKey := cd.keys.contains .primary } cd.checks
      (cd.keys.contains .unique)
  if ← acceptKw "DROP" then
    let _ ← acceptKw "COLUMN"
    let (n, written) ← writtenName src
    return .dropColumn table written n
  expectKw "RENAME"
  if ← acceptKw "TO" then
    return .renameTable table (← name)
  let _ ← acceptKw "COLUMN"
  let (old, oldWritten) ← writtenName src
  expectKw "TO"
  let (new, newWritten) ← writtenName src
  return .renameColumn table oldWritten old new (isQuotedText newWritten)

/-- Reads one statement. -/
def statement (src : Source) (fuel : Nat) : Reader Statement := do
  if ← acceptKw "CREATE" then
    let _ ← acceptAnyKw ["TEMP", "TEMPORARY"]
    if ← acceptKw "TRIGGER" then triggerStatement fuel
    else if ← acceptKw "TABLE" then
      let (t, ifNotExists) ← tableDefinition src fuel
      return .createTable t ifNotExists
    else if ← acceptKw "VIEW" then
      let ifNotExists ← ifNotExistsClause
      let n ← qualifiedName
      if ← acceptSym "(" then
        let _ ← nameList fuel
        expectSym ")"
      expectKw "AS"
      if !(← acceptAnyKw ["SELECT", "VALUES", "WITH"]) then failHere
      viewQuery fuel
      return .createView n ifNotExists
    else
      let unique ← acceptKw "UNIQUE"
      expectKw "INDEX"
      let (table, ix, ifNotExists) ← indexDefinition fuel unique
      return .createIndex table ix ifNotExists
  else if ← acceptKw "ALTER" then
    expectKw "TABLE"
    alterStatement src fuel
  else if ← acceptKw "DROP" then
    if ← acceptKw "TABLE" then
      let ifExists ← ifExistsClause
      return .dropTable (← qualifiedName) ifExists
    else if ← acceptKw "VIEW" then
      let ifExists ← ifExistsClause
      return .dropView (← qualifiedName) ifExists
    else if ← acceptKw "INDEX" then
      let ifExists ← ifExistsClause
      return .dropIndex (← qualifiedName) ifExists
    else
      expectKw "TRIGGER"
      let ifExists ← ifExistsClause
      return .dropTrigger (← qualifiedName) ifExists
  else if ← acceptKw "INSERT" then
    let conflict ← conflictRule
    expectKw "INTO"
    insertStatement fuel conflict
  else if ← acceptKw "REPLACE" then
    expectKw "INTO"
    insertStatement fuel .replace
  else if ← acceptKw "UPDATE" then
    let conflict ← conflictRule
    let table ← qualifiedName
    expectKw "SET"
    let sets ← assignments fuel
    let cond ← if ← acceptKw "WHERE" then some <$> expr fuel 0 else pure none
    return .update table sets cond conflict
  else if ← acceptKw "DELETE" then
    expectKw "FROM"
    let table ← qualifiedName
    let cond ← if ← acceptKw "WHERE" then some <$> expr fuel 0 else pure none
    return .delete table cond
  else if ← acceptKw "SELECT" then selectStatement fuel
  else failHere

/-- Reads a statement's text: one statement, optionally followed by `;`. -/
def Statement.parse (s : String) : Except SqlError Statement := do
  let located ← locatedTokens s
  let ts := located.map (·.token)
  let (st, rest) ← (statement ⟨s.toList.toArray, located.toArray⟩ (4 * ts.length + 8)).run ts
  let rest := rest.dropWhile (·.isSym ";")
  match rest with
  | [] => pure st
  | _ => throw (syntaxError rest)

/-- Reads the first statement of a text: what follows its `;` is not read. -/
def Statement.parseFirst (s : String) : Except SqlError Statement := do
  let located ← locatedTokens s
  let ts := located.map (·.token)
  let (st, rest) ← (statement ⟨s.toList.toArray, located.toArray⟩ (4 * ts.length + 8)).run ts
  match rest with
  | [] => pure st
  | t :: _ => if t.isSym ";" then pure st else throw (syntaxError rest)

/-- What a statement did: rows changed, or nothing to count. -/
inductive Outcome where
  | rows (n : Nat)
  | done
deriving Repr, Inhabited

/-- The values of an insert's expressions, which may not read any row. -/
def constants (es : List Expr) : Except SqlError (List Value) :=
  es.mapM fun e => do
    let (v, _) ← eval ⟨none, none, none⟩ e
    pure v

/-- The columns of the schema's own table. -/
def schemaColumns : List String := ["type", "name", "tbl_name", "rootpage", "sql"]

/-- The names of the row numbers, which every table with numbered rows also answers to. -/
def rowNumberNames : List String := ["rowid", "oid", "_rowid_"]

/-- The column names each table a query reads has, with the tables whose rows it reads; a
view's columns are not known (none). -/
def queryColumns (db : Database) : List String → Except SqlError (List (Option (List String)) × List Table)
  | [] => pure ([], [])
  | n :: rest => do
    let (cols, read) ← match Database.schemaTableName? n with
      | some _ => pure (some schemaColumns, [])
      | none =>
        if db.isView n then pure (none, [])
        else do
          let t ← db.tableOrFail n
          pure (some (t.columns.map (·.name) ++ if t.numbered then rowNumberNames else []), [t])
    let (more, moreRead) ← queryColumns db rest
    pure (cols :: more, read ++ moreRead)

namespace Query

/-- Checks, as a query is made ready, that the tables it reads exist and the columns it names
are theirs (or, after its returned items, the names those items are given): its returned items
first, then the conditions of its joins, its condition, its order, its grouping and the
condition on its groups. A column that two of its tables have must be named with its table,
and where it reads a view, whose columns are not known, any name is taken. The tables' rows
must read. -/
def check (q : Query) (db : Database) : Except SqlError Unit := do
  let (columns, read) ← queryColumns db q.tables
  let known := columns.filterMap id
  let anyName := columns.any Option.isNone
  let labels := q.results.filterMap fun
    | .expr _ (some l) => some l
    | _ => none
  let resolveIn := fun (withLabels : Bool) (refs : List (Side × String)) =>
    refs.forM fun (side, c) => do
      let holders := known.filter (·.any (sameName · c))
      match side with
      | .current =>
        if holders.length > 1 then throw (SqlError.logic ("ambiguous column name: " ++ c))
        if holders.isEmpty && !anyName && !(withLabels && labels.any (sameName · c)) then
          throw (SqlError.logic ("no such column: " ++ c))
      | .table t =>
        if holders.isEmpty && !anyName then throw (SqlError.logic ("no such column: " ++ t ++ "." ++ c))
      | s => throw (SqlError.logic ("no such column: " ++ s.prefixText ++ c))
  let items := q.results.filterMap fun
    | .expr e _ => some e
    | .all => none
  resolveIn false (Expr.listRefs items)
  resolveIn false (Expr.listRefs q.joins)
  resolveIn true ((q.cond.map Expr.refs).getD [])
  resolveIn true (Expr.listRefs q.orderBy)
  resolveIn true (Expr.listRefs q.groupBy)
  resolveIn true ((q.having.map Expr.refs).getD [])
  read.forM (·.ensureReadable)

end Query

/-- Inserts the rows of an insert statement: the table, its columns, then the values must
fit, as the module comment says. -/
def Database.insertStatement (db : Database) (table : String) (cols : Option (List String))
    (rows : List (List Expr)) (conflict : Conflict) : Except SqlError (Database × Nat) := do
  db.ensureOpen
  let t ← db.tableToChange table
  for c in cols.getD [] do
    if (t.column? c).isNone then
      throw (SqlError.logic ("table " ++ table ++ " has no column named " ++ c))
  let values ← rows.mapM constants
  let width := (values.head?.map List.length).getD 0
  match cols with
  | none =>
    if width != t.columns.length then
      throw (SqlError.logic ("table " ++ table ++ " has " ++ toString t.columns.length ++
        " columns but " ++ toString width ++ " values were supplied"))
  | some cs =>
    if width != cs.length then
      throw (SqlError.logic (toString width ++ " values for " ++ toString cs.length ++ " columns"))
  let names := cols.getD (t.columns.map (·.name))
  db.insertRows table names (values.map names.zip) conflict

/-- Runs a statement on a database. -/
def Statement.run (db : Database) : Statement → Except SqlError (Database × Outcome)
  | .createTable t ifNotExists => do pure (← db.createTable t ifNotExists, .done)
  | .createIndex table ix ifNotExists => do pure (← db.createIndex table ix ifNotExists, .done)
  | .createTrigger t ifNotExists instead => do pure (← db.createTrigger t ifNotExists instead, .done)
  | .createView n ifNotExists => do pure (← db.createView n ifNotExists, .done)
  | .addColumn table col checks unique => do pure (← db.addColumn table col checks unique, .done)
  | .renameTable old new => do pure (← db.renameTable old new, .done)
  | .renameColumn table oldWritten old new quoted => do
    pure (← db.renameColumn table oldWritten old new quoted, .done)
  | .dropColumn table written n => do pure (← db.dropColumn table written n, .done)
  | .dropTable n ifExists => do pure (← db.dropTable n ifExists, .done)
  | .dropView n ifExists => do pure (← db.dropView n ifExists, .done)
  | .dropIndex n ifExists => do pure (← db.dropIndex n ifExists, .done)
  | .dropTrigger n ifExists => do pure (← db.dropTrigger n ifExists, .done)
  | .insert table cols rows conflict => do
    let (db', n) ← db.insertStatement table cols rows conflict
    pure (db', .rows n)
  | .update table sets cond conflict => do
    let (db', n) ← db.updateWith table sets (cond.getD (.lit (.int 1))) conflict
    pure (db', .rows n)
  | .delete table cond => do
    let (db', n) ← db.delete table (cond.getD (.lit (.int 1)))
    pure (db', .rows n)
  | .select q => do
    db.ensureOpen
    q.check db
    pure (db, .done)

/-- Reads and runs a statement's text. -/
def Database.execute (db : Database) (text : String) : Except SqlError (Database × Outcome) := do
  db.ensureOpen
  let st ← Statement.parse text
  st.run db

/-- What a text of statements did: rows changed, as the last statement that changed rows
counted them, when its first statement changes rows; otherwise nothing to count. -/
def textOutcome (first : Option Bool) (last : Option Nat) : Outcome :=
  if first == some true then .rows (last.getD 0) else .done

/-- Runs the statements of a text after a database, one after another, each read only when the
one before it has run: the database after them, and what the text did or the refusal that
stopped it. The statements that ran before a refusal keep their changes. -/
def Database.executeAll (db : Database) (text : String) : Database × Except SqlError Outcome :=
  match db.ensureOpen, locatedTokens text with
  | .error e, _ | _, .error e => (db, .error e)
  | .ok (), .ok located =>
    let src : Source := ⟨text.toList.toArray, located.toArray⟩
    go src (located.length + 1) (located.map (·.token)) db none none
where
  /-- The statements left to run, with whether the first one changes rows and how many rows
  the last one that did changed. -/
  go (src : Source) : Nat → List Token → Database → Option Bool → Option Nat →
      Database × Except SqlError Outcome
    | 0, _, db, first, last => (db, .ok (textOutcome first last))
    | fuel + 1, ts, db, first, last =>
      match ts.dropWhile (·.isSym ";") with
      | [] => (db, .ok (textOutcome first last))
      | ts =>
        match (statement src (4 * ts.length + 8)).run ts with
        | .error e => (db, .error e)
        | .ok (st, rest) =>
          if !(rest.head?.map (·.isSym ";")).getD true then (db, .error (syntaxError rest))
          else
            match st.run db with
            | .error e => (db, .error e)
            | .ok (db', o) =>
              let counted := match o with
                | .rows n => some n
                | .done => none
              let first := first.orElse fun _ => some counted.isSome
              go src fuel rest db' first (counted.orElse fun _ => last)

end CreditExtraction.Sql
