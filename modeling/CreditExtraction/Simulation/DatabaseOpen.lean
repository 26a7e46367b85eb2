import CreditExtraction.Store.Connect
import CreditExtraction.Simulation.Request
import CreditExtraction.Simulation.Views

/-!
# Opening the metadata store

A database session connects to the store a connection string names, where `{dir}` stands for
the session's fresh directory `/db` (and `{dir}/taken.db` may be a directory), pings it, lists
its migrations, optionally connects a second time to the same string, and then closes it and
asks again. It shows the driver, the dialect, the ping, the migrations (of both connections),
the name of the store's health check, and the ping and migrations after closing; or the
driver and the failure to connect.

The file system holds `/`, `/tmp` and the session's directory; a server connection string
starts from the socket directory `/tmp` and the user `root`.
-/

namespace CreditExtraction.Simulation

open Store

/-- The session's fresh directory. -/
def databaseDir : String := "/db"

/-- The directories of the session's file system. -/
def databaseDirs (takenIsDir : Bool) : List String :=
  ["/", "/tmp", databaseDir] ++ (if takenIsDir then [databaseDir ++ "/taken.db"] else [])

/-- The settings a server connection string starts from. -/
def serverDefaultsHere : List (String × String) :=
  [("host", "/tmp"), ("port", "5432"), ("user", "root"), ("target_session_attrs", "any")]

/-- What the session's file system holds at a path, given the databases already written. -/
def probeAt (dirs : List String) (written : List (String × Sql.Database)) (path : String) : FileProbe :=
  let full := if path.startsWith "/" then Files.Path.ofParts (Files.Path.parts path) else Files.Path.join "/" path
  if dirs.contains full || !dirs.contains (Files.Path.parent full) then .unopenable
  else match written.find? (·.1 == full) with
    | some (_, db) => .database db
    | none => .absent

/-- The migrations of a store, or the failure to list them. -/
def migrationsJson (st : MetaStore) : Json :=
  match (appliedMigrations.run st).run.1 with
  | .ok vs => .arr (vs.map Json.ofInt)
  | .error e => failureJson e

/-- The ping of a store: `ok` or the failure. -/
def pingJson (st : MetaStore) : Json :=
  match (ping.run st).run.1 with
  | .ok _ => .str "ok"
  | .error e => failureJson e

/-- Runs a database session (see the module comment). -/
def runDatabaseSession (req : Json) : Json :=
  let dsn := databaseDir.intercalate ((req.getStrD "dsn").splitOn "{dir}")
  let settings : DatabaseSettings :=
    { dsn, maxConns := intArg req "max_conns" 0, minConns := intArg req "min_conns" 0,
      maxConnLifetime := 0, maxConnIdleTime := 0, dialTimeout := intArg req "dial_timeout_ms" 0 * 1000000,
      statementTimeout := intArg req "statement_timeout_ms" 0 * 1000000 }
  let dirs := databaseDirs (flagArg req "dir_at_path" false)
  let driver := Driver.ofDsn dsn
  let now : Time.Instant := default
  match connect settings (probeAt dirs []) serverDefaultsHere now with
  | .error e => .obj [("driver", .str driver.name), ("error", failureJson e)]
  | .ok st =>
    let written : List (String × Sql.Database) := match placementOf (embeddedName dsn) with
      | .file p => [(if p.startsWith "/" then Files.Path.ofParts (Files.Path.parts p) else Files.Path.join "/" p, st.db)]
      | .memory => []
    let reopened := if flagArg req "reopen" false then
        [("reopen", match connect settings (probeAt dirs written) serverDefaultsHere now with
          | .ok st2 => migrationsJson st2
          | .error e => failureJson e)]
      else []
    let closed := (closeStore.run st).run.2
    .obj ([("driver", .str driver.name), ("dialect", .str driver.dialect), ("ping", pingJson st),
      ("migrations", migrationsJson st)] ++ reopened ++
      [("check_name", .str "metadata"), ("after_close", pingJson closed),
       ("migrations_after_close", migrationsJson closed)])

end CreditExtraction.Simulation
