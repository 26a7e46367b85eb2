import CreditExtraction.Artifact.Open
import CreditExtraction.Artifact.Bucket
import CreditExtraction.Simulation.Request
import CreditExtraction.Simulation.Views
import CreditExtraction.Simulation.Network

/-!
# Opening an artifact store

A store session opens the backend its settings name, with a file root under `/artifacts`
(where a file may stand in the root's place), then puts `[]` as the cleaned OCR text of one
document and asks for the raw PDF of another, which is missing. It shows whether the store is
cached, the locator of the stored artifact and the failure of the second question.

A bucket backend is reached through a network where no host answers.
-/

namespace CreditExtraction.Simulation

open Artifact

/-- The root directory of the session's file store. -/
def storeRoot : String := "/artifacts"

/-- The document whose cleaned text is stored. -/
def storedDocument : Uuid := ((Uuid.parse "01000000-0000-0000-0000-000000000000").toOption).getD Uuid.nil

/-- The document whose raw file is missing. -/
def missingDocument : Uuid := ((Uuid.parse "02000000-0000-0000-0000-000000000000").toOption).getD Uuid.nil

/-- The key put by the session. -/
def storedKey : Key := ⟨storedDocument, Stage.ocrClean, "json"⟩

/-- The key asked for by the session. -/
def missingKey : Key := ⟨missingDocument, Stage.raw, "pdf"⟩

/-- A network where no host answers. -/
def silentNetwork : Net.Transport Id := fun req => .error (refusedAt req)

/-- The session's answer from the outcome of the put and of the question. -/
def storeOpenAnswer (cached : Bool) (put : Except Failure Stored) (missing : Except Failure Stored) : Json :=
  match put with
  | .error e => failureJson e
  | .ok a =>
    .obj ([("cached", .bool cached), ("locator", .str a.locator)] ++
      (match missing with
        | .error e => [("stat_missing", failureJson e)]
        | .ok _ => []))

/-- Runs a store session (see the module comment). -/
def runStoreOpenSession (req : Json) : Json :=
  let cacheSize := intArg req "cache_size" 0
  match backendOf (req.getStrD "backend") with
  | .error e => failureJson e
  | .ok .files =>
    let root := Files.Path.join storeRoot (req.getStrD "dir")
    let tree := (Files.Tree.empty.mkdirAll (Files.Path.parent root)).toOption.getD Files.Tree.empty
    let tree := if flagArg req "file_as_dir" false then tree.put root (.file ByteArray.empty) else tree
    match Store.openFiles tree root cacheSize with
    | .error e => failureJson e
    | .ok st =>
      let (put, st) := (Store.put storedKey "[]".toUTF8).run st
      let (missing, _) := (Store.stat missingKey).run st
      storeOpenAnswer st.cache.isSome put missing
  | .ok .bucket =>
    let settings : BucketSettings :=
      { endpoint := "", region := req.getStrD "s3_region", bucket := req.getStrD "s3_bucket",
        accessKey := "", secretKey := "", folder := "" }
    match BucketStore.open settings (fun _ => "") with
    | .error e => failureJson e
    | .ok bs =>
      let (put, _) := bs.put silentNetwork false storedKey "[]".toUTF8
      let missing := bs.stat silentNetwork false missingKey
      storeOpenAnswer (cacheSize > 0) put missing

end CreditExtraction.Simulation
