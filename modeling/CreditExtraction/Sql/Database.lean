import CreditExtraction.Sql.Schema

/-!
# The embedded SQL store

A database is a list of tables and the triggers on them, and may have been closed. Every
change is one statement that either happens whole or not at all:

* an insert converts the given values by their columns' affinities, fills the defaults, runs
  the `BEFORE` triggers, checks `NOT NULL` in column order, the `CHECK` constraints and the
  unique indexes in their order, adds the row and runs the `AFTER` triggers;
* an update visits the rows that satisfy its condition in row order; each new row is computed
  from the old one and goes through the same triggers and checks (the triggers of an update
  of some columns only when it assigns one of them);
* a delete visits the rows in the same way, with the delete triggers.

A row that a constraint refuses refuses the statement, unless the statement says otherwise
(`OR IGNORE`: the row is left alone; `OR REPLACE`: a null where a column may not have one
takes the column's default, and the rows whose unique keys the row would share are taken
away first).

Before any row is read, a statement's columns must exist, in the order it names them: an
insert's (`table X has no column named Y`), an update's assignments, each value before its
column, then its condition's, and a query's returned columns, condition and order
(`no such column: Y`). The conditions of the triggers the statement would run must read
columns of their table, and the references it checks must find their parent table and its
key.

References to a parent table's key are counted as a statement goes: a row it writes whose
reference finds no parent row adds one, and a parent row it takes away, or whose key it
changes, adds one for each row that still refers to it. A row it takes away or rewrites whose
reference had no parent settles one, as long as any are open; and where a statement writes
several rows, a parent row it writes settles the rows that refer to it. A statement that ends
with any open is refused. Only the references a statement writes are looked at: an insert's
and a delete's all, an update's those it assigns. Rows that were already without their
parents before the statement do not refuse it.

An integer primary key is the row number under another name: two rows may not share it.

A view is known by its name only: it keeps a table or index from taking that name, may not be
indexed, altered, dropped as a table or changed (`cannot modify X because it is a view`). The
schema's own table may be read and not changed.
-/

namespace CreditExtraction.Sql

/-- A database. -/
structure Database where
  tables : List Table
  /-- The triggers, the newest first. -/
  triggers : List Trigger
  /-- The names of the views. The store keeps them so that no table or index takes their
  names, but does not compute them. -/
  views : List String
  isOpen : Bool
deriving Repr, Inhabited

/-- What a statement does with a row that a constraint refuses (`INSERT OR …`,
`UPDATE OR …`). -/
inductive Conflict where
  /-- Refuse the statement: `ABORT`, the default, and `FAIL` and `ROLLBACK`, which come to
  the same for a statement on its own. -/
  | abort
  /-- Leave the row alone and go on. -/
  | ignore
  /-- Make room for the row (see the module comment). -/
  | replace
deriving Repr, DecidableEq, Inhabited

/-- The refusal of a reference whose parent table has no key that the reference could be to. -/
def SqlError.mismatch (child parent : String) : SqlError :=
  SqlError.logic ("foreign key mismatch - \"" ++ child ++ "\" referencing \"" ++ parent ++ "\"")

namespace Database

/-- The name of the schema's own table under which the store keeps it, when a name is one of
its names. -/
def schemaTableName? (name : String) : Option String :=
  if ["sqlite_master", "sqlite_schema"].any (sameName · name) then some "sqlite_master"
  else if ["sqlite_temp_master", "sqlite_temp_schema"].any (sameName · name) then some "sqlite_temp_master"
  else none

/-- Refuses every statement once the database is closed. -/
def ensureOpen (db : Database) : Except SqlError Unit :=
  if db.isOpen then .ok () else .error .closed

/-- The table of a name. -/
def table? (db : Database) (name : String) : Option Table :=
  db.tables.find? (sameName ·.name name)

/-- The table of a name, refusing a missing one. -/
def tableOrFail (db : Database) (name : String) : Except SqlError Table :=
  match db.table? name with
  | some t => .ok t
  | none => .error (SqlError.noSuchTable name)

/-- Is there a view of a name? -/
def isView (db : Database) (name : String) : Bool := db.views.any (sameName · name)

/-- The table a statement changes, refusing the schema's own table, a view or a missing table. -/
def tableToChange (db : Database) (name : String) : Except SqlError Table :=
  match schemaTableName? name with
  | some sys => .error (SqlError.logic ("table " ++ sys ++ " may not be modified"))
  | none =>
    match db.views.find? (sameName · name) with
    | some v => .error (SqlError.logic ("cannot modify " ++ v ++ " because it is a view"))
    | none => db.tableOrFail name

/-- The database with a table replaced (by name). -/
def setTable (db : Database) (t : Table) : Database :=
  { db with tables := db.tables.map fun u => if sameName u.name t.name then t else u }

/-- The triggers that guard an event on a table at a time, in firing order; of the triggers
of an update, those that guard every column or one of the `changed` ones. -/
def triggersFor (db : Database) (table : String) (ev : Event) (tm : Timing) (changed : List String) :
    List Trigger :=
  db.triggers.filter fun tr =>
    sameName tr.table table && tr.event == ev && tr.timing == tm &&
      (tr.columns.isEmpty || tr.columns.any fun c => changed.any (sameName c ·))

/-- Checks, as a statement is made ready, the conditions of the triggers it would run. -/
def prepareTriggers (db : Database) (t : Table) (ev : Event) (tm : Timing) (changed : List String) :
    Except SqlError Unit :=
  (db.triggersFor t.name ev tm changed).forM (·.resolve t)

/-- Runs the triggers of an event; `true` when one of them asks to skip the row. -/
def fire (db : Database) (table : String) (ev : Event) (tm : Timing) (changed : List String)
    (s : Scope) : Except SqlError Bool :=
  go (db.triggersFor table ev tm changed)
where
  /-- The triggers in turn, until one fires. -/
  go : List Trigger → Except SqlError Bool
    | [] => pure false
    | tr :: rest => do
      let hit ← match tr.guard with
        | some g => holds s g
        | none => pure true
      if !hit then go rest
      else match tr.raise with
        | .ignore => pure true
        | _ => throw (SqlError.trigger tr.message)

/-- The values of a row under an index's columns, or of its expressions on the row. -/
def indexKey (t : Table) (values : List Value) (ix : Index) : List Value :=
  match ix.expressions with
  | some es => es.map fun e =>
    match eval ⟨some (t.frame ⟨0, values⟩), none, none⟩ e with
    | .ok (v, _) => v
    | .error _ => .null
  | none => ix.columns.map fun c => match t.columnIndex? c with
    | some i => values.getD i .null
    | none => .null

/-- Is a row with these values in an index? Every row is, unless the index holds only the
rows that meet a condition. -/
def inIndex (t : Table) (values : List Value) (ix : Index) : Bool :=
  match ix.condition with
  | some c =>
    match holds ⟨some (t.frame ⟨0, values⟩), none, none⟩ c with
    | .ok b => b
    | .error _ => false
  | none => true

/-- The refusal of a row whose key a unique index already holds: its columns, qualified, or
the index's name for an index over expressions. -/
def uniqueRefusal (t : Table) (ix : Index) : SqlError :=
  match ix.expressions with
  | some _ => .refused 2067 ("UNIQUE constraint failed: index '" ++ ix.name ++ "'")
  | none =>
    let cols := ix.columns.map t.qualified
    if ix.primary then SqlError.primaryKey cols else SqlError.unique cols

/-- A refusal under a conflict rule: `ignore` leaves the row alone (none), the others refuse. -/
def refuse (conflict : Conflict) (e : SqlError) : Except SqlError (Option α) :=
  if conflict == .ignore then .ok none else .error e

/-- The nulls of a row where its columns may not have them, in column order: each refuses the
row, except that under `replace` one takes its column's default when that is not null. -/
def fillNotNull (t : Table) (conflict : Conflict) :
    List Column → List Value → Except SqlError (Option (List Value))
  | c :: cs, v :: vs => do
    let v ← if c.notNull && v.isNull then
        if conflict == .replace && !c.default.isNull then pure (some (c.default.withAffinity c.affinity))
        else refuse conflict (SqlError.notNull (t.qualified c.name))
      else pure (some v)
    match v with
    | none => pure none
    | some v =>
      match ← fillNotNull t conflict cs vs with
      | some rest => pure (some (v :: rest))
      | none => pure none
  | _, vs => pure (some vs)

/-- The first `CHECK` constraint of a table that a row makes false (not null). -/
def failedCheck (t : Table) (values : List Value) : Except SqlError (Option Check) :=
  t.checks.findM? fun c => do
    let (v, _) ← eval ⟨some (t.frame ⟨0, values⟩), none, none⟩ c.cond
    pure (!v.isNull && !v.truthy)

/-- The rows of a table, other than the row itself (`self`) and those already taken away, that
share a key with a row: first its integer primary key, then the unique indexes in their order.
Each clash refuses the row, except that under `replace` the rows clashed with are taken away. -/
def clashingRows (t : Table) (self : Option Nat) (values : List Value) (conflict : Conflict) :
    Except SqlError (Option (List Row)) := do
  let others := fun (gone : List Row) => t.rows.filter fun r =>
    some r.number != self && !gone.any (·.number == r.number)
  let numbered := (t.columns.zip values).filter fun (c, v) => t.isRowNumber c && !v.isNull
  let byNumber : Option (List Row) ← numbered.foldlM (fun gone (c, v) =>
    match gone with
    | none => pure none
    | some gone =>
      match (others gone).filter (fun r => Value.same (t.get r c.name) v) with
      | [] => pure (some gone)
      | hit =>
        if conflict == .replace then pure (some (gone ++ hit))
        else refuse conflict (SqlError.primaryKey [t.qualified c.name])) (some [])
  (t.indexes.filter (·.unique)).foldlM (fun gone ix =>
    match gone with
    | none => pure none
    | some gone =>
      let key := indexKey t values ix
      if key.any (·.isNull) || !inIndex t values ix then pure (some gone)
      else
        match (others gone).filter (fun r =>
            inIndex t r.values ix && (List.zipWith Value.same (indexKey t r.values ix) key).all id) with
        | [] => pure (some gone)
        | hit =>
          if conflict == .replace then pure (some (gone ++ hit))
          else refuse conflict (uniqueRefusal t ix)) byNumber

/-- Accepts a row's values to its table under a conflict rule: the nulls, the `CHECK`
constraints, then the keys. The values as stored and the rows to take away for them; none
when the row is left alone. -/
def acceptRow (t : Table) (self : Option Nat) (values : List Value) (conflict : Conflict) :
    Except SqlError (Option (List Value × List Row)) := do
  match ← fillNotNull t conflict t.columns values with
  | none => pure none
  | some values =>
    match ← failedCheck t values with
    | some c => refuse conflict (SqlError.check c.label)
    | none =>
      match ← clashingRows t self values conflict with
      | none => pure none
      | some gone => pure (some (values, gone))

/-- The references into a table: each table that refers to it, with the referring column and
its reference. -/
def childLinks (db : Database) (t : Table) : List (String × Column × Reference) :=
  db.tables.flatMap fun child =>
    (child.links.filter (sameName ·.2.parent t.name)).map fun (c, ref) => (child.name, c, ref)

/-- The names of the parent's columns a reference is to: the one it names, or else the
primary key's. -/
def keyNames (parent : Table) (ref : Reference) : List String :=
  match ref.key with
  | some k => [k]
  | none => (parent.columns.filter (·.primaryKey)).map (·.name)

/-- Finds, as a statement is made ready, the parent and key of each reference out of a table it
checks: a missing parent table, or one without the key, refuses the statement. -/
def requireParents (db : Database) (t : Table) (links : List (Column × Reference)) :
    Except SqlError Unit :=
  links.forM fun (_, ref) =>
    match db.table? ref.parent with
    | none => .error (SqlError.noSuchTable ("main." ++ ref.parent))
    | some p => if (p.keyFor? ref).isSome then .ok () else .error (SqlError.mismatch t.name ref.parent)

/-- Finds, as a statement is made ready, the key of a table that each reference into it it
checks is to. -/
def requireKeys (t : Table) (links : List (String × Column × Reference)) : Except SqlError Unit :=
  links.forM fun (child, _, ref) =>
    if (t.keyFor? ref).isSome then .ok () else .error (SqlError.mismatch child ref.parent)

/-- Does a parent table hold a row whose key (for a reference) is `v`? -/
def hasParent (parent : Table) (ref : Reference) (v : Value) : Bool :=
  match parent.keyFor? ref with
  | some k =>
    let v := v.withAffinity k.affinity
    parent.rows.any fun r => Value.same (parent.get r k.name) v
  | none => false

/-- Is a value of a reference left without its parent row? Null refers to nothing, and a
missing parent table holds no row. -/
def orphan (db : Database) (ref : Reference) (v : Value) : Bool :=
  !v.isNull && match db.table? ref.parent with
    | some p => !hasParent p ref v
    | none => true

/-- How many references of a row are left without their parent rows. -/
def orphansOf (db : Database) (t : Table) (r : Row) (links : List (Column × Reference)) : Nat :=
  (links.filter fun (c, ref) => db.orphan ref (t.get r c.name)).length

/-- How many rows refer, through the given references into `t`, to the key a row of `t` has;
`except` leaves out one row of `t` itself. -/
def referrers (db : Database) (t : Table) (r : Row) (links : List (String × Column × Reference))
    (except : Option Nat) : Nat :=
  links.foldl (fun n (childName, c, ref) =>
    match t.keyFor? ref, db.table? childName with
    | some k, some child =>
      let key := t.get r k.name
      if key.isNull then n
      else
        let key := key.withAffinity k.affinity
        let self := fun (x : Row) => sameName child.name t.name && some x.number == except
        n + (child.rows.filter fun x =>
          let v := child.get x c.name
          !self x && !v.isNull && Value.same (v.withAffinity k.affinity) key).length
    | _, _ => n) 0

/-- The count of open references after `k` are settled, one at a time while any are open (a
count below zero keeps going down). -/
def settle (count : Int) (k : Nat) : Int :=
  if count > 0 then max (count - k) 0 else if count < 0 then count - k else 0

/-- The count after a written parent row settles the `k` rows that refer to it: only when any
are open. -/
def settleAll (count : Int) (k : Nat) : Int := if count == 0 then count else count - k

/-- The count after a row is taken away: its references that had no parent settle, and the
rows that refer to it open. -/
def takeAway (db : Database) (t : Table) (r : Row) (count : Int) : Int :=
  settle count (db.orphansOf t r t.links) + db.referrers t r (db.childLinks t) (some r.number)

/-- Refuses a statement that ends with references it left without their parent rows. -/
def settleReferences (count : Int) : Except SqlError Unit :=
  if count > 0 then .error SqlError.foreignKey else .ok ()

/-- The values of a new row: the given ones and the defaults, converted by the columns;
an integer primary key left null takes the row number. -/
def newValues (t : Table) (assigns : List (String × Value)) (number : Nat) : List Value :=
  t.columns.map fun col =>
    let v := match assigns.find? (sameName ·.1 col.name) with
      | some (_, v) => v.withAffinity col.affinity
      | none => col.default.withAffinity col.affinity
    if t.isRowNumber col && v.isNull then .int number else v

/-- The table without some rows. -/
def withoutRows (t : Table) (gone : List Row) : Table :=
  { t with rows := t.rows.filter fun r => !gone.any (·.number == r.number) }

/-- One row of an insert: the table after it, the row and the rows taken away for it; nothing
when a trigger or the conflict rule leaves the row out. -/
def insertRow (db : Database) (t : Table) (assigns : List (String × Value)) (conflict : Conflict) :
    Except SqlError (Option (Table × Row × List Row)) := do
  let number := t.nextNumber
  let row : Row := ⟨number, newValues t assigns number⟩
  if ← db.fire t.name .insert .before [] ⟨none, some (t.frame row), none⟩ then return none
  match ← acceptRow t none row.values conflict with
  | none => pure none
  | some (values, gone) =>
    let row : Row := ⟨number, values⟩
    let t' := { withoutRows t gone with rows := (withoutRows t gone).rows ++ [row], nextNumber := number + 1 }
    let _ ← db.fire t.name .insert .after [] ⟨none, some (t.frame row), none⟩
    pure (some (t', row, gone))

/-- Inserts rows, each given as values for named columns (`columns` names them all, as the
statement lists them), under a conflict rule; the database after it and how many rows went
in. -/
def insertRows (db : Database) (name : String) (columns : List String)
    (rows : List (List (String × Value))) (conflict : Conflict) : Except SqlError (Database × Nat) := do
  db.ensureOpen
  let t ← db.tableToChange name
  for c in columns do
    if (t.column? c).isNone then
      throw (SqlError.logic ("table " ++ t.name ++ " has no column named " ++ c))
  db.prepareTriggers t .insert .before []
  db.requireParents t t.links
  db.prepareTriggers t .insert .after []
  t.ensureReadable
  let several := rows.length > 1 || !(db.triggers.filter fun tr =>
    sameName tr.table t.name && tr.event == .insert).isEmpty
  let step := fun (st : Database × Nat × Int) (assigns : List (String × Value)) => do
    let (cur, n, count) := st
    let t ← cur.tableOrFail t.name
    match ← cur.insertRow t assigns conflict with
    | none => pure (cur, n, count)
    | some (t', row, gone) =>
      let count := gone.foldl (fun count r => cur.takeAway t r count) count
      let now := cur.setTable t'
      let count := count + now.orphansOf t' row t'.links
      let count := if several then settleAll count (now.referrers t' row (now.childLinks t') none)
        else count
      pure (now, n + 1, count)
  let (db', n, count) ← rows.foldlM step (db, 0, 0)
  settleReferences count
  pure (db', n)

/-- Inserts a row, given as values for named columns. -/
def insert (db : Database) (name : String) (assigns : List (String × Value)) :
    Except SqlError Database := do
  let (db', _) ← db.insertRows name (assigns.map (·.1)) [assigns] .abort
  pure db'

/-- The new values of a row under assignments evaluated on the old row. -/
def assigned (t : Table) (r : Row) (sets : List (String × Expr)) : Except SqlError (List Value) :=
  let s : Scope := ⟨some (t.frame r), none, none⟩
  (t.columns.zip r.values).mapM fun (col, old) =>
    match sets.find? (sameName ·.1 col.name) with
    | some (_, e) => do
      let (v, _) ← eval s e
      pure (v.withAffinity col.affinity)
    | none => pure old

/-- One row of an update: the table after it, the new row and the rows taken away for it, or
nothing when a trigger or the conflict rule leaves the row alone. -/
def updateRow (db : Database) (sets : List (String × Expr)) (conflict : Conflict) (t : Table)
    (r : Row) : Except SqlError (Option (Table × Row × List Row)) := do
  let changed := sets.map (·.1)
  let values ← assigned t r sets
  let s : Scope := ⟨none, some (t.frame ⟨r.number, values⟩), some (t.frame r)⟩
  if ← db.fire t.name .update .before changed s then return none
  match ← acceptRow t (some r.number) values conflict with
  | none => pure none
  | some (values, gone) =>
    let row : Row := ⟨r.number, values⟩
    let t' := withoutRows { t with rows := t.rows.map fun x => if x.number == r.number then row else x } gone
    let _ ← db.fire t.name .update .after changed ⟨none, some (t.frame row), some (t.frame r)⟩
    pure (some (t', row, gone))

/-- Updates the rows that satisfy a condition under a conflict rule; the database after it
and how many rows changed. -/
def updateWith (db : Database) (name : String) (sets : List (String × Expr)) (cond : Expr)
    (conflict : Conflict) : Except SqlError (Database × Nat) := do
  db.ensureOpen
  let t ← db.tableToChange name
  for (c, e) in sets do
    t.resolve e.columns
    if (t.column? c).isNone then throw (SqlError.logic ("no such column: " ++ c))
  t.resolve cond.columns
  let changed := sets.map (·.1)
  let assignedLinks := t.links.filter fun (c, _) => changed.any (sameName · c.name)
  let keyLinks := (db.childLinks t).filter fun (_, _, ref) =>
    (keyNames t ref).any fun k => changed.any (sameName · k)
  db.prepareTriggers t .update .before changed
  db.requireParents t assignedLinks
  requireKeys t keyLinks
  db.prepareTriggers t .update .after changed
  t.ensureReadable
  let step := fun (st : Table × Nat × Int) (r : Row) => do
    let (acc, n, count) := st
    match acc.rows.find? (·.number == r.number) with
    | none => pure (acc, n, count)
    | some current =>
      if ← holds ⟨some (t.frame r), none, none⟩ cond then
        let before := db.setTable acc
        match ← before.updateRow sets conflict acc current with
        | none => pure (acc, n, count)
        | some (acc', row, gone) =>
          let count := settle count (before.orphansOf acc current assignedLinks)
          let count := count + before.referrers acc current keyLinks (some current.number)
          let count := gone.foldl (fun count x => before.takeAway acc x count) count
          let now := db.setTable acc'
          let count := count + now.orphansOf acc' row assignedLinks
          let count := settleAll count (now.referrers acc' row keyLinks none)
          pure (acc', n + 1, count)
      else pure (acc, n, count)
  let (t', n, count) ← t.rows.foldlM step (t, 0, 0)
  settleReferences count
  pure (db.setTable t', n)

/-- Updates the rows that satisfy a condition; the database after it and how many rows
changed. -/
def update (db : Database) (name : String) (sets : List (String × Expr)) (cond : Expr) :
    Except SqlError (Database × Nat) :=
  db.updateWith name sets cond .abort

/-- Deletes the rows that satisfy a condition; the database after it and how many rows went. -/
def delete (db : Database) (name : String) (cond : Expr) : Except SqlError (Database × Nat) := do
  db.ensureOpen
  let t ← db.tableToChange name
  t.resolve cond.columns
  db.prepareTriggers t .delete .before []
  db.requireParents t t.links
  requireKeys t (db.childLinks t)
  db.prepareTriggers t .delete .after []
  t.ensureReadable
  let step := fun (st : Table × Nat × Int) (r : Row) => do
    let (acc, n, count) := st
    if ← holds ⟨some (t.frame r), none, none⟩ cond then
      let s : Scope := ⟨none, none, some (t.frame r)⟩
      if ← db.fire t.name .delete .before [] s then return (acc, n, count)
      let count := (db.setTable acc).takeAway acc r count
      let acc' := withoutRows acc [r]
      let _ ← db.fire t.name .delete .after [] s
      pure (acc', n + 1, count)
    else pure (acc, n, count)
  let (t', n, count) ← t.rows.foldlM step (t, 0, 0)
  settleReferences count
  pure (db.setTable t', n)

/-- The rows of a table that satisfy a condition, in row order, with the table. The query
returns the `columns` named and is sorted by the `order` named (the caller sorts); before any
row is read, the columns it returns, then those of its condition, then those of its order
must exist. -/
def select (db : Database) (name : String) (columns : List String) (cond : Expr)
    (order : List String) : Except SqlError (Table × List Row) := do
  db.ensureOpen
  let t ← db.tableOrFail name
  t.resolve (columns ++ cond.columns ++ order)
  t.ensureReadable
  let rows ← t.rows.filterM fun r => holds ⟨some (t.frame r), none, none⟩ cond
  pure (t, rows)

/-- Does an index of a name exist on any table? -/
def hasIndex (db : Database) (name : String) : Bool :=
  db.tables.any fun t => t.indexes.any (sameName ·.name name)

/-- Closes the database. -/
def close (db : Database) : Database := { db with isOpen := false }

end Database

end CreditExtraction.Sql
