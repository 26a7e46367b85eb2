import CreditExtraction.Service.Settings
import CreditExtraction.Schema.Load
import CreditExtraction.Store.Connect
import CreditExtraction.Sql.Image
import CreditExtraction.Artifact.Open
import CreditExtraction.Artifact.Bucket
import CreditExtraction.Ocr.Provider
import CreditExtraction.Llm.Provider

/-!
# Opening the service

The service opens in a fixed order, and the first failure ends the opening:

1. the settings are validated;
2. the document types are loaded from the registry file (`load document types: <why>`) and the
   default type must be among them (`default document type: <why>`);
3. the metadata store is connected;
4. the artifact store is opened (`open artifact store: <why>`): files under the storage
   directory, or a cloud bucket;
5. when the service is to work on documents, the OCR settings are validated and the OCR backend
   and the chat backend are chosen.

Opening logs what it does: the document types loaded (`schema.registry.loaded`), the
connection to the metadata store (see `Store.connectLogged`), and the artifact store that is
ready; a failure after the store connected first closes it.

The service finds files, database files and its working directory in its surroundings;
relative paths are taken from the working directory.
-/

namespace CreditExtraction.Service

open Files

/-- The artifact store of the service: files behind their cache, or a bucket. -/
inductive Artifacts where
  | files (s : Artifact.Store)
  | bucket (b : Artifact.BucketStore) (cacheSize : Int)
deriving Inhabited

/-- What the service finds around it when it opens. -/
structure Surroundings where
  tree : Tree
  databases : List (String × Sql.Database)
  cwd : String
  serverDefaults : List (String × String)
  env : Environment
  now : Time.Instant

/-- A path taken from the working directory when it is relative. -/
def Surroundings.resolve (s : Surroundings) (p : String) : String :=
  if p.startsWith "/" then Path.ofParts (Path.parts p) else Path.join s.cwd p

/-- The text of a file of the surroundings. -/
def Surroundings.contents (s : Surroundings) (p : String) : Option String :=
  match s.tree.readFile (s.resolve p) with
  | .ok data => some (Text.Utf8.lossyOfBytes data)
  | .error _ => none

/-- What is found where a database file should be. -/
def Surroundings.probe (s : Surroundings) (p : String) : Store.FileProbe :=
  let full := s.resolve p
  match s.databases.find? (·.1 == full) with
  | some (_, db) => .database db
  | none =>
    match s.tree.node? full with
    | some .dir => .unopenable
    | some (.file data) =>
      if data.isEmpty then .absent
      else match Sql.Database.readImage data with
        | .ok db => .database db
        | .error why => .unreadable why
    | none =>
      match s.tree.node? (Path.parent full) with
      | some .dir => .absent
      | _ => .unopenable

/-- The opened service. -/
structure Opened where
  settings : Settings
  store : Store.MetaStore
  artifacts : Artifacts
  registry : Registry
  ocr : Option Ocr.Backend

/-- Opens the artifact store the settings name. -/
def openArtifacts (s : StorageSettings) (sur : Surroundings) : Except Failure Artifacts := do
  match ← Artifact.backendOf s.backend with
  | .files => .files <$> Artifact.Store.openFiles sur.tree (sur.resolve s.dir) s.cacheSize
  | .bucket =>
    let b ← Artifact.BucketStore.open
      { endpoint := s.s3Endpoint, region := s.s3Region, bucket := s.s3Bucket, accessKey := s.s3AccessKey,
        secretKey := s.s3SecretKey, folder := "" } sur.env
    pure (.bucket b s.cacheSize)

/-- Opens the service (see the module comment), with the records it logs on the way and the
database left in the store's file once it was opened (see `Store.connectLogged`);
`collaborators` asks for the backends that work on documents. -/
def openServiceLogged (s : Settings) (sur : Surroundings) (collaborators : Bool) :
    List Log.Record × Except Failure Opened × Option Sql.Database :=
  match s.validate with
  | .error e => ([], .error e, none)
  | .ok () =>
  match (Registry.load s.schema.path sur.contents).mapError (Failure.context "load document types") with
  | .error e => ([], .error e, none)
  | .ok registry =>
  let loaded : Log.Record := ⟨.info, "schema.registry.loaded",
    [Log.text "path" s.schema.path, ("document_types", .doc (.arr (registry.names.map .str)))]⟩
  match (registry.get s.schema.defaultType).mapError (Failure.context "default document type") with
  | .error e => ([loaded], .error e, none)
  | .ok _ =>
  let (connecting, connected, left) := Store.connectLogged s.database sur.probe sur.serverDefaults sur.now
  let before := loaded :: connecting
  match connected with
  | .error e => (before, .error e, left)
  | .ok store =>
  match (openArtifacts s.storage sur).mapError (Failure.context "open artifact store") with
  | .error e => (before ++ Store.storeClosingRecords, .error e, left)
  | .ok artifacts =>
  let ready : Log.Record := ⟨.info, "artifact store ready",
    [Log.text "backend" s.storage.backend, Log.int "cache_size" s.storage.cacheSize]⟩
  let opened := before ++ [ready]
  let ocr : Except Failure (Option Ocr.Backend) := if collaborators then do
      s.validateOcr
      let b ← Ocr.backendOf s.ocr
      let refused : Net.Transport Id := fun req => .error (.refused req.target.hostname req.target.port)
      discard (Llm.chatBackendOf refused s.llm sur.env)
      pure (some b)
    else pure none
  match ocr with
  | .error e => (opened ++ Store.closingRecords, .error e, left)
  | .ok ocr => (opened, .ok { settings := s, store, artifacts, registry, ocr }, left)

/-- Opens the service (see the module comment); `collaborators` asks for the backends that
work on documents. -/
def openService (s : Settings) (sur : Surroundings) (collaborators : Bool) : Except Failure Opened :=
  (openServiceLogged s sur collaborators).2.1

end CreditExtraction.Service
