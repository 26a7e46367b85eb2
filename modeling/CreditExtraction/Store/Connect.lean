import CreditExtraction.Store.Remote
import CreditExtraction.Store.Migrations
import CreditExtraction.Service.Settings
import CreditExtraction.Log.Record

/-!
# Connecting to the metadata store

The connection string picks the driver: a `postgres://` or `postgresql://` URL names a
database server, anything else an embedded database, after an optional `sqlite://` or
`sqlite:` has been taken off.

## Embedded databases

An embedded database lives in memory when its name contains `:memory:` or `mode=memory`, and
otherwise in a file (the name up to its `?`, or a `file:` URI's path). It is prepared with
`PRAGMA busy_timeout = 5000`, `PRAGMA foreign_keys = ON` and, for a file, `PRAGMA
journal_mode=WAL`; a failing statement fails the opening as ``applying "<statement>": <reason>``.
A file that cannot be opened fails with `unable to open database file: out of memory (14)`,
and one that does not read as a database (`Database.readImage`) fails the journal mode with
why. A database that opens is migrated (`migrate`); one that fails to migrate is closed, and
the opening fails as `running migrations: <why>`.

## Servers

A server connection string must read (`readServerDsn`), the pool needs room for at least one
connection (`MaxSize must be >= 1`), and the migrations then fail to connect.

## What is logged

Connecting logs `connecting to database` with the driver's name (and again with the server
driver or the embedded database's name), each migration applied `db.migration.applied`, a
store that opens `successfully connected to database` twice, and a failure `failed to connect
to database`.

## Health

A store answers a ping while it is open; a closed one fails it as
`ping: store unavailable: sql: database is closed`.
-/

namespace CreditExtraction.Store

open Sql

/-- The drivers of the metadata store. -/
inductive Driver where
  | embedded
  | server
deriving DecidableEq, Inhabited

/-- The driver a connection string picks. -/
def Driver.ofDsn (dsn : String) : Driver := if isServerDsn dsn then .server else .embedded

/-- The name of a driver. -/
def Driver.name : Driver → String
  | .embedded => "sqlite"
  | .server => "postgres"

/-- The SQL dialect a driver speaks. -/
def Driver.dialect : Driver → String
  | .embedded => "sqlite3"
  | .server => "postgres"

/-- Where an embedded database is kept. -/
inductive Placement where
  | memory
  | file (path : String)
deriving DecidableEq, Inhabited

/-- The name of an embedded database: the connection string without its driver prefix. -/
def embeddedName (dsn : String) : String :=
  let dropPrefix := fun (p s : String) => if s.startsWith p then String.ofList (s.toList.drop p.length) else s
  dropPrefix "sqlite:" (dropPrefix "sqlite://" dsn)

/-- Where the embedded database of a name is kept (see the module comment). -/
def placementOf (name : String) : Placement :=
  if (name.splitOn ":memory:").length > 1 || (name.splitOn "mode=memory").length > 1 then .memory
  else
    let beforeQuery := (name.splitOn "?").headD ""
    if name.startsWith "file:" then .file (String.ofList (beforeQuery.toList.drop 5))
    else .file beforeQuery

/-- The statements that prepare an embedded database of a name. -/
def preparation (name : String) : List String :=
  ["PRAGMA busy_timeout = 5000", "PRAGMA foreign_keys = ON"] ++
    (if placementOf name == .memory then [] else ["PRAGMA journal_mode=WAL"])

/-- What is found where a database file should be. -/
inductive FileProbe where
  /-- The file cannot be opened: its directory is missing, or it is a directory. -/
  | unopenable
  /-- Nothing is there yet; opening creates the file. -/
  | absent
  /-- A file that does not read as a database that can be written, and why. -/
  | unreadable (why : SqlError)
  /-- A database. -/
  | database (db : Database)
deriving Inhabited

/-- The failure of a preparing statement. -/
def preparationFailure (statement reason : String) : Failure :=
  .plain ("applying " ++ Text.Quoted.quote statement ++ ": " ++ reason)

/-- Opens an embedded database (see the module comment), before it is migrated: the database
kept in its file, or a new one. -/
def openEmbedded (dsn : String) (probe : String → FileProbe) : Except Failure Database :=
  let name := embeddedName dsn
  let statements := preparation name
  match placementOf name with
  | .memory => .ok emptyDatabase
  | .file path =>
    match probe path with
    | .unopenable => .error (preparationFailure (statements.headD "") "unable to open database file: out of memory (14)")
    | .unreadable why => .error (preparationFailure (statements.getLastD "") why.message)
    | .absent => .ok emptyDatabase
    | .database db => .ok db

/-- Why opening a server's store fails (see the module comment). -/
def serverFailure (s : DatabaseSettings) (defaults : List (String × String)) : Failure :=
  match readServerDsn s.dsn defaults with
  | .error e => .plain e
  | .ok settings =>
    if s.maxConns < 1 then .plain "MaxSize must be >= 1"
    else .plain ("running migrations: creating schema_version table: " ++ unreachable settings)

/-- The records of a store closing its connections. -/
def storeClosingRecords : List Log.Record :=
  [⟨.info, "closing database connections", []⟩, ⟨.info, "database connections closed", []⟩]

/-- Opens the metadata store as `connect` does, with the records it logs on the way (see the
module comment) and, once an embedded database is opened, the database it leaves in its file:
the migrations applied before a failure stay there. -/
def connectLogged (s : DatabaseSettings) (probe : String → FileProbe) (serverDefaults : List (String × String))
    (now : Time.Instant) : List Log.Record × Except Failure MetaStore × Option Database :=
  let driver := Driver.ofDsn s.dsn
  let opening : Log.Record := ⟨.info, "connecting to database", [Log.text "driver" driver.name]⟩
  let failed := fun (e : Failure) => (⟨.error, "failed to connect to database", [Log.text "error" e.message]⟩ : Log.Record)
  let connected : Log.Record := ⟨.info, "successfully connected to database", [Log.text "dialect" driver.dialect]⟩
  match driver with
  | .server =>
    let records := [opening, ⟨.info, "connecting to database", [Log.text "driver" "pgx"]⟩]
    let e := serverFailure s serverDefaults
    match readServerDsn s.dsn serverDefaults with
    | .ok _ =>
      if s.maxConns < 1 then (records ++ [failed e, failed e], .error e, none)
      else (records ++ storeClosingRecords ++ [failed e], .error e, none)
    | .error _ => (records ++ [failed e, failed e], .error e, none)
  | .embedded =>
    let records := [opening, ⟨.info, "connecting to database", [Log.text "driver" "sqlite", Log.text "dsn" (embeddedName s.dsn)]⟩]
    match openEmbedded s.dsn probe with
    | .error e => (records ++ [failed e], .error e, none)
    | .ok db =>
      let m := migrate db now
      let applied := m.applied.map fun mig =>
        (⟨.info, "db.migration.applied", [Log.int "version" mig.version, Log.text "file" mig.file]⟩ : Log.Record)
      match m.failure with
      | some why =>
        let e := Failure.plain ("running migrations: " ++ why)
        (records ++ applied ++ storeClosingRecords ++ [failed e], .error e, some m.db)
      | none => (records ++ applied ++ [connected, connected], .ok ⟨m.db, now, 0, []⟩, some m.db)

/-- Opens the metadata store a connection string names, with the clock of its writes. -/
def connect (s : DatabaseSettings) (probe : String → FileProbe) (serverDefaults : List (String × String))
    (now : Time.Instant) : Except Failure MetaStore :=
  (connectLogged s probe serverDefaults now).2.1

/-- The records of a caller closing a store: the caller's around the store's own. -/
def closingRecords : List Log.Record :=
  [⟨.info, "closing database connections", []⟩] ++ storeClosingRecords ++
    [⟨.info, "database connections closed", []⟩]

/-- Pings the store. -/
def ping : StoreM Unit := readDb "ping" (·.ensureOpen)

/-- Closes the store. -/
def closeStore : StoreM Unit := modify fun s => { s with db := s.db.close }

end CreditExtraction.Store
