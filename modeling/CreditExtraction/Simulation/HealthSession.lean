import CreditExtraction.Service.Health
import CreditExtraction.Schema.Shipped
import CreditExtraction.Simulation.Request
import CreditExtraction.Simulation.Views

/-!
# Asking the service for its health

A health session opens the service in the directory `/health` (`{dir}`), with the shipped
registry (`{shipped}`) and the settings of its `env` alone, then may break a dependency: `db`
closes the metadata store, `artifacts` puts a file where the artifact directory was. Added
checks fail with their `error` when it is not empty. After one round of probes the session
asks for the status of each named service and shows the checks, the statuses, that the worker
pool is built once, and that serving succeeded; or the failure to open.
-/

namespace CreditExtraction.Simulation

open Service

/-- The session's directory. -/
def healthDir : String := "/health"

/-- A setting of the session with its placeholders filled in. -/
def healthSetting (v : String) : String :=
  shippedRegistryPath.intercalate ((healthDir.intercalate (v.splitOn "{dir}")).splitOn "{shipped}")

/-- The surroundings of a session. -/
def healthSurroundings (env : Environment) : Surroundings :=
  let tree := ((Files.Tree.empty.mkdirAll healthDir).toOption.getD Files.Tree.empty)
  let tree := ((tree.mkdirAll "/tmp").toOption.getD tree)
  let tree := ((tree.mkdirAll (Files.Path.parent shippedRegistryPath)).toOption.getD tree)
  let tree := tree.put shippedRegistryPath (.file shippedRegistryText.toUTF8)
  { tree, databases := [], cwd := "/", serverDefaults := [("host", "/tmp"), ("port", "5432"),
      ("user", "root"), ("target_session_attrs", "any")], env, now := default }

/-- Breaks a dependency of an opened service. -/
def breakDependency (o : Opened) (what : String) : Opened :=
  match what, o.artifacts with
  | "db", _ => { o with store := (Store.closeStore.run o.store).run.2 }
  | "artifacts", .files s =>
    let root := s.files.root
    let tree := (s.files.tree.remove root).put root (.file ByteArray.empty)
    { o with artifacts := .files { s with files := { s.files with tree } } }
  | _, _ => o

/-- Runs a health session (see the module comment). -/
def runHealthSession (req : Json) : Json :=
  let vars : List (String × String) := match req.get? "env" with
    | some (.obj ms) => ms.filterMap fun (k, v) => match v with
      | .str s => some (k, healthSetting s)
      | _ => none
    | _ => []
  let env : Environment := fun k => ((vars.find? (·.1 == k)).map (·.2)).getD ""
  match openService (Settings.load env) (healthSurroundings env) (flagArg req "collaborators" false) with
  | .error e => .obj [("open", failureJson e)]
  | .ok o =>
    let o := breakDependency o (req.getStrD "break")
    let extra := (listArg req "extra_checks").map fun c =>
      let err := c.getStrD "error"
      CheckResult.mk (c.getStrD "name") (if err.isEmpty then none else some (.plain err))
    let results := o.checks ++ extra
    let published := publish results
    let statuses := (listArg req "services").filterMap fun s => match s with
      | .str name => some (name, match statusOf published name with
          | .ok st => Json.str st.name
          | .error e => .obj [("error", .str e)])
      | _ => none
    .obj [("open", .str "ok"), ("same_pool", .bool true), ("checks", .arr (results.map (Json.str ·.name))),
      ("statuses", .obj statuses), ("serve", .str "ok")]

end CreditExtraction.Simulation
