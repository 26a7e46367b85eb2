import CreditExtraction.Sql.Database

/-!
# Changes to the schema

The statements that define what a database holds: creating and dropping tables, views,
indexes and triggers, and altering a table (renaming it, adding, renaming and dropping its
columns). Each refuses in the order the store finds things out: first the object named
(`no such table: X`), then whether it may be changed at all (the schema's own table, which may
be read and not changed, or a view), then the names involved, and last what the change would
break.

A change that rewrites the definitions of the schema (renaming a table or a column, dropping a
column) first reads every trigger's condition again, and afterwards the definitions it touched
must still read: a dropped column may not be named by a key, reference, `CHECK` constraint,
index or trigger condition of its table. A renamed column or table carries its new name into
everything that names it.
-/

namespace CreditExtraction.Sql

/-- A name, renamed when it is `old`. -/
def renamed (old new n : String) : String := if sameName n old then new else n

/-- A table with a column renamed everywhere the table names it (see the module comment);
`quoted` tells a new name written in quotes, which the text of a constraint then keeps. -/
def Table.renameColumn (t : Table) (old new : String) (quoted : Bool) : Table :=
  let ren := renamed old new
  { t with
    columns := t.columns.map fun c => { c with name := ren c.name }
    indexes := t.indexes.map fun ix => { ix with
      columns := ix.columns.map ren
      expressions := ix.expressions.map (Expr.renameColumns .current old new)
      condition := ix.condition.map (Expr.renameColumn .current old new) }
    checks := t.checks.map fun ck => { ck with
      cond := ck.cond.renameColumn .current old new
      text := renameInText ck.text old new quoted
      owner := ck.owner.map ren }
    keyLists := t.keyLists.map fun
      | .key cs => .key (cs.map ren)
      | .reference cs => .reference (cs.map ren) }

/-- The first way a table's own definition would fail to read without a column: a key or
reference it declares apart from its columns naming it, then a `CHECK` constraint of another
column or of the table reading it. -/
def Table.missingAfterDrop (t : Table) (col : String) : Option String :=
  let fromKeys := t.keyLists.findSome? fun
    | .key cs => (cs.find? (sameName · col)).map ("no such column: " ++ ·)
    | .reference cs => (cs.find? (sameName · col)).map fun c =>
      "unknown column \"" ++ c ++ "\" in foreign key definition"
  match fromKeys with
  | some why => some why
  | none =>
    t.checks.findSome? fun ck =>
      if (ck.owner.map (sameName · col)).getD false then none
      else (ck.cond.columns.find? (sameName · col)).map ("no such column: " ++ ·)

/-- The first name an index reads that is a column to be dropped: among its columns or
expressions, then in its condition. -/
def Index.missingAfterDrop (ix : Index) (col : String) : Option String :=
  let keys := match ix.expressions with
    | some es => Expr.listColumns es
    | none => ix.columns
  let cond := match ix.condition with
    | some c => c.columns
    | none => []
  ((keys ++ cond).find? (sameName · col)).map ("no such column: " ++ ·)

namespace Database

/-- Refuses a name that starts with `sqlite_`, which only the store's own objects may have. -/
def reserveName (n : String) : Except SqlError Unit :=
  if n.toLower.startsWith "sqlite_" then .error (SqlError.logic ("object name reserved for internal use: " ++ n))
  else .ok ()

/-- Reads every trigger's condition again, from the oldest trigger: the first that reads a
column that is not there refuses the change, `when` telling when it was found. -/
def checkTriggers (db : Database) (when : String) : Except SqlError Unit :=
  db.triggers.reverse.forM fun tr =>
    match db.table? tr.table with
    | none => .ok ()
    | some t => (tr.resolve t).mapError fun e =>
      SqlError.logic ("error in trigger " ++ tr.name ++ when ++ ": " ++ e.detail)

/-- Does a table, a view or an index have the name? -/
def nameTaken (db : Database) (name : String) : Bool :=
  (db.table? name).isSome || db.isView name || db.hasIndex name

/-- Creates a table, unless one of its name exists and `ifNotExists` asks to leave it. -/
def createTable (db : Database) (t : Table) (ifNotExists : Bool) : Except SqlError Database := do
  db.ensureOpen
  reserveName t.name
  if (db.table? t.name).isSome || db.isView t.name then
    if ifNotExists then return db
    let kind := if db.isView t.name then "view " else "table "
    throw (SqlError.logic (kind ++ t.name ++ " already exists"))
  if db.hasIndex t.name then
    throw (SqlError.logic ("there is already an index named " ++ t.name))
  pure { db with tables := db.tables ++ [t] }

/-- Creates a view, known by its name alone, unless one of its name exists and
`ifNotExists` asks to leave it. -/
def createView (db : Database) (name : String) (ifNotExists : Bool) : Except SqlError Database := do
  db.ensureOpen
  reserveName name
  if (db.table? name).isSome || db.isView name then
    if ifNotExists then return db
    let kind := if db.isView name then "view " else "table "
    throw (SqlError.logic (kind ++ name ++ " already exists"))
  if db.hasIndex name then
    throw (SqlError.logic ("there is already an index named " ++ name))
  pure { db with views := db.views ++ [name] }

/-- Does a unique index find two rows of a table with the same key? -/
def clashes (t : Table) (ix : Index) : Bool :=
  let held := t.rows.filter fun r => inIndex t r.values ix
  let keys := (held.map fun r => indexKey t r.values ix).filter fun k => !k.any (·.isNull)
  go keys
where
  /-- The keys left to compare. -/
  go : List (List Value) → Bool
    | [] => false
    | k :: rest => rest.any (fun k' => (List.zipWith Value.same k k').all id) || go rest

/-- Creates an index on a table, unless one of its name exists and `ifNotExists` asks to
leave it. The columns it names, then those of its condition, must exist, and a unique index
is refused over rows that already clash. -/
def createIndex (db : Database) (table : String) (ix : Index) (ifNotExists : Bool) :
    Except SqlError Database := do
  db.ensureOpen
  if let some sys := schemaTableName? table then
    throw (SqlError.logic ("table " ++ sys ++ " may not be indexed"))
  if db.isView table then throw (SqlError.logic "views may not be indexed")
  let t ← match db.table? table with
    | some t => pure t
    | none => throw (SqlError.noSuchTable ("main." ++ table))
  reserveName ix.name
  if (db.table? ix.name).isSome || db.isView ix.name then
    throw (SqlError.logic ("there is already a table named " ++ ix.name))
  if db.hasIndex ix.name then
    if ifNotExists then return db
    throw (SqlError.logic ("index " ++ ix.name ++ " already exists"))
  t.resolve (match ix.expressions with
    | some es => Expr.listColumns es
    | none => ix.columns)
  if let some c := ix.condition then t.resolve c.columns
  t.ensureReadable
  if ix.unique && clashes t ix then throw (uniqueRefusal t { ix with primary := false })
  pure (db.setTable { t with indexes := ix :: t.indexes })

/-- Adds a trigger, unless one of its name exists and `ifNotExists` asks to leave it.
`instead` tells a trigger that runs instead of the change, which only a view may have; the
store keeps no such trigger, as it changes no view. -/
def createTrigger (db : Database) (tr : Trigger) (ifNotExists instead : Bool) :
    Except SqlError Database := do
  db.ensureOpen
  let system := schemaTableName? tr.table
  let view := db.isView tr.table
  let t? := db.table? tr.table
  if system.isNone && !view && t?.isNone then throw (SqlError.noSuchTable ("main." ++ tr.table))
  reserveName tr.name
  if db.triggers.any (sameName ·.name tr.name) then
    if ifNotExists then return db
    throw (SqlError.logic ("trigger " ++ tr.name ++ " already exists"))
  if system.isSome then throw (SqlError.logic "cannot create trigger on system table")
  if view && !instead then
    let timing := if tr.timing == .before then "BEFORE" else "AFTER"
    throw (SqlError.logic ("cannot create " ++ timing ++ " trigger on view: " ++ tr.table))
  if !view && instead then
    throw (SqlError.logic ("cannot create INSTEAD OF trigger on table: " ++ tr.table))
  match t? with
  | some t => pure { db with triggers := { tr with table := t.name } :: db.triggers }
  | none => pure db

/-- Adds a trigger as a database's file defines it again: its table must be there and its name
not taken. -/
def defineTrigger (db : Database) (tr : Trigger) : Except SqlError Database := do
  let some t := db.table? tr.table | throw (SqlError.noSuchTable ("main." ++ tr.table))
  if db.triggers.any (sameName ·.name tr.name) then
    throw (SqlError.logic ("trigger " ++ tr.name ++ " already exists"))
  pure { db with triggers := { tr with table := t.name } :: db.triggers }

/-- Drops a table with its triggers. A table other tables refer to loses its rows first, as a
delete would (without its triggers), and a reference left without its parent refuses the
drop. -/
def dropTable (db : Database) (name : String) (ifExists : Bool) : Except SqlError Database := do
  db.ensureOpen
  if let some sys := schemaTableName? name then
    throw (SqlError.logic ("table " ++ sys ++ " may not be dropped"))
  match db.table? name with
  | none =>
    match db.views.find? (sameName · name) with
    | some v => throw (SqlError.logic ("use DROP VIEW to delete view " ++ v))
    | none => if ifExists then pure db else throw (SqlError.noSuchTable name)
  | some t =>
    let children := db.childLinks t
    if !children.isEmpty then
      let keyed := children.filter fun (_, _, ref) => (t.keyFor? ref).isSome
      settleReferences (t.rows.foldl (fun count r =>
        settle count (db.orphansOf t r t.links) + db.referrers t r keyed (some r.number)) 0)
    pure { db with
      tables := db.tables.filter (!sameName ·.name t.name)
      triggers := db.triggers.filter (!sameName ·.table t.name) }

/-- Drops a view. -/
def dropView (db : Database) (name : String) (ifExists : Bool) : Except SqlError Database := do
  db.ensureOpen
  if let some sys := schemaTableName? name then
    throw (SqlError.logic ("table " ++ sys ++ " may not be dropped"))
  if db.isView name then
    return { db with views := db.views.filter (!sameName · name) }
  match db.table? name with
  | some t => throw (SqlError.logic ("use DROP TABLE to delete table " ++ t.name))
  | none => if ifExists then pure db else throw (SqlError.logic ("no such view: " ++ name))

/-- Drops an index that was created on its own; the index of a key a table declares goes only
with its table. -/
def dropIndex (db : Database) (name : String) (ifExists : Bool) : Except SqlError Database := do
  db.ensureOpen
  match db.tables.find? (fun t => t.indexes.any (sameName ·.name name)) with
  | none => if ifExists then pure db else throw (SqlError.logic ("no such index: " ++ name))
  | some t =>
    if name.toLower.startsWith "sqlite_autoindex_" then
      throw (SqlError.logic "index associated with UNIQUE or PRIMARY KEY constraint cannot be dropped")
    pure (db.setTable { t with indexes := t.indexes.filter (!sameName ·.name name) })

/-- Drops a trigger. -/
def dropTrigger (db : Database) (name : String) (ifExists : Bool) : Except SqlError Database := do
  db.ensureOpen
  if db.triggers.any (sameName ·.name name) then
    pure { db with triggers := db.triggers.filter (!sameName ·.name name) }
  else if ifExists then pure db
  else throw (SqlError.logic ("no such trigger: " ++ name))

/-- The table an `ALTER TABLE` changes: it must exist and not be the schema's own. A view is
refused with `viewRefusal`. -/
def tableToAlter (db : Database) (name : String) (viewRefusal : String → String) :
    Except SqlError Table := do
  if let some sys := schemaTableName? name then
    throw (SqlError.logic ("table " ++ sys ++ " may not be altered"))
  match db.views.find? (sameName · name) with
  | some v => throw (SqlError.logic (viewRefusal v))
  | none => db.tableOrFail name

/-- An index name that carries the name of its table (the index of a key the table declares),
carried over to the table's new name. -/
def renameKeyIndex (old new ixName : String) : String :=
  let pre := "sqlite_autoindex_" ++ old ++ "_"
  if ixName.toLower.startsWith pre.toLower then
    "sqlite_autoindex_" ++ new ++ "_" ++ String.ofList (ixName.toList.drop pre.length)
  else ixName

/-- Renames a table, carrying the references and triggers that name it. -/
def renameTable (db : Database) (old new : String) : Except SqlError Database := do
  db.ensureOpen
  let system := schemaTableName? old
  if system.isNone && !db.isView old && (db.table? old).isNone then throw (SqlError.noSuchTable old)
  if db.nameTaken new then
    throw (SqlError.logic ("there is already another table or index with this name: " ++ new))
  if let some sys := system then throw (SqlError.logic ("table " ++ sys ++ " may not be altered"))
  reserveName new
  let t ← match db.table? old with
    | some t => pure t
    | none => throw (SqlError.logic ("view " ++ ((db.views.find? (sameName · old)).getD old) ++ " may not be altered"))
  db.checkTriggers ""
  let retarget := fun (c : Column) =>
    match c.references with
    | some ref => if sameName ref.parent t.name then { c with references := some { ref with parent := new } } else c
    | none => c
  pure { db with
    tables := db.tables.map fun u =>
      let u := { u with columns := u.columns.map retarget }
      if sameName u.name t.name then
        { u with name := new, indexes := u.indexes.map fun ix => { ix with name := renameKeyIndex t.name new ix.name } }
      else u
    triggers := db.triggers.map fun tr =>
      if sameName tr.table t.name then { tr with table := new } else tr }

/-- Adds a column to a table, with the `CHECK` constraints it brings; `unique` tells a column
declared unique. The rows there take the column's default. -/
def addColumn (db : Database) (table : String) (col : Column) (checks : List Check) (unique : Bool) :
    Except SqlError Database := do
  db.ensureOpen
  if db.isView table then throw (SqlError.logic "Cannot add a column to a view")
  if let some sys := schemaTableName? table then
    throw (SqlError.logic ("table " ++ sys ++ " may not be altered"))
  let t ← db.tableOrFail table
  if (t.column? col.name).isSome then throw (SqlError.logic ("duplicate column name: " ++ col.name))
  if col.primaryKey then throw (SqlError.logic "Cannot add a PRIMARY KEY column")
  if unique then throw (SqlError.logic "Cannot add a UNIQUE column")
  if col.references.isSome && !col.default.isNull then
    throw (SqlError.logic "Cannot add a REFERENCES column with non-NULL default value")
  if col.notNull && col.default.isNull then
    throw (SqlError.logic "Cannot add a NOT NULL column with default value NULL")
  let v := col.default.withAffinity col.affinity
  pure (db.setTable { t with
    columns := t.columns ++ [col]
    rows := t.rows.map fun r => { r with values := r.values ++ [v] }
    checks := t.checks ++ checks })

/-- The name of the later of two columns that share a name, after a column took a new one. -/
def duplicateName : List String → Option String
  | [] => none
  | c :: rest =>
    match rest.find? (sameName c ·) with
    | some d => some d
    | none => duplicateName rest

/-- Renames a column of a table (see the module comment). `oldWritten` is the old name as the
statement writes it, which a refusal quotes. -/
def renameColumn (db : Database) (table oldWritten old new : String) (quoted : Bool) :
    Except SqlError Database := do
  db.ensureOpen
  let t ← db.tableToAlter table fun v => "cannot rename columns of view \"" ++ v ++ "\""
  let some c := t.column? old | throw (SqlError.logic ("no such column: \"" ++ oldWritten ++ "\""))
  db.checkTriggers ""
  let names := t.columns.map fun d => if sameName d.name c.name then new else d.name
  if let some d := duplicateName names then
    throw (SqlError.logic ("error in table " ++ t.name ++ " after rename: duplicate column name: " ++ d))
  let t' := t.renameColumn c.name new quoted
  let rekey := fun (col : Column) =>
    match col.references with
    | some ref =>
      if sameName ref.parent t.name then { col with references := some { ref with key := ref.key.map (renamed c.name new) } }
      else col
    | none => col
  let db := db.setTable t'
  pure { db with
    tables := db.tables.map fun u => { u with columns := u.columns.map rekey }
    triggers := db.triggers.map fun tr =>
      if sameName tr.table t.name then
        { tr with
          guard := tr.guard.map fun g => (g.renameColumn .new c.name new).renameColumn .old c.name new
          columns := tr.columns.map (renamed c.name new) }
      else tr }

/-- Drops a column of a table (see the module comment). `written` is the name as the statement
writes it, which a refusal of a missing column quotes. -/
def dropColumn (db : Database) (table written name : String) : Except SqlError Database := do
  db.ensureOpen
  let t ← db.tableToAlter table fun v => "cannot drop column from view \"" ++ v ++ "\""
  let some i := t.columnIndex? name | throw (SqlError.logic ("no such column: \"" ++ written ++ "\""))
  let c := t.columns.getD i default
  if c.primaryKey then throw (SqlError.logic ("cannot drop PRIMARY KEY column: \"" ++ name ++ "\""))
  if c.unique then throw (SqlError.logic ("cannot drop UNIQUE column: \"" ++ name ++ "\""))
  if t.columns.length ≤ 1 then
    throw (SqlError.logic ("cannot drop column \"" ++ name ++ "\": no other columns exist"))
  db.checkTriggers ""
  let after := fun (kind obj why : String) =>
    SqlError.logic ("error in " ++ kind ++ " " ++ obj ++ " after drop column: " ++ why)
  if let some why := t.missingAfterDrop c.name then throw (after "table" t.name why)
  let ownIndexes := t.indexes.reverse.filter fun ix => !ix.name.toLower.startsWith "sqlite_autoindex_"
  if let some (ix, why) := ownIndexes.findSome? fun ix => (ix.missingAfterDrop c.name).map (ix, ·) then
    throw (after "index" ix.name why)
  let t' : Table := { t with
    columns := t.columns.eraseIdx i
    rows := t.rows.map fun r => { r with values := r.values.eraseIdx i }
    checks := t.checks.filter fun ck => !(ck.owner.map (sameName · c.name)).getD false }
  let db' := db.setTable t'
  (db'.triggers.reverse.filter (sameName ·.table t.name)).forM fun tr =>
    (tr.resolve t').mapError fun e => after "trigger" tr.name e.detail
  pure db'

end Database

end CreditExtraction.Sql
