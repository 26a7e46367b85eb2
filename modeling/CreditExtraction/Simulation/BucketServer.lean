import CreditExtraction.Artifact.Bucket
import CreditExtraction.Simulation.Network

/-!
# A scripted bucket

A bucket session opens a bucket store against an in-memory bucket server and runs steps
(`put`, `get`, `stat`) on it. The server answers at `s3.test` and at the cloud host of any
bucket (`<bucket>.s3.<region>.amazonaws.com`); every other host refuses the connection.

The server keeps objects by path. An upload stores the body and the `x-amz-meta-*` headers; a
download returns the body with its length and metadata; a head request returns the length and
metadata alone. A missing object is `404`, with a `NoSuchKey` error document for a download and
no body for a head request. Scripted replies, when given, are used first, one per request; a
`null` reply lets the bucket answer.

Each step shows the requests that reached the server during it: method, host, path, the sorted
query items, the metadata sent, the body of an upload and the access key the request was
signed with.
-/

namespace CreditExtraction.Simulation

open Net Artifact

/-- An object kept by the bucket. -/
structure StoredObject where
  body : ByteArray
  /-- Metadata by lower-case name. -/
  metadata : List (String × String)

/-- The bucket server: its objects by path, the scripted replies still to give and the requests
seen during the current step, newest last. -/
structure BucketServer where
  objects : List (String × StoredObject)
  replies : List (Option ScriptedReply)
  seen : List Json

/-- Runs against the bucket server. -/
abbrev BucketM := StateM BucketServer

/-- Does the server answer at a host? -/
def servesBucketHost (authority : String) : Bool :=
  authority == "s3.test" ||
    (authority.endsWith ".amazonaws.com" && (authority.splitOn ".s3.").length > 1)

/-- The metadata a request carries: its `X-Amz-Meta-*` headers, names in lower case. -/
def metadataOf (hs : Headers) : List (String × String) :=
  hs.filterMap fun (k, v) =>
    let lower := Text.CharClass.lowerString k
    if lower.startsWith "x-amz-meta-" then some (String.ofList (lower.toList.drop 11), v) else none

/-- The access key a request was signed with, read from its authorization header. -/
def signedKey (hs : Headers) : String :=
  match (hs.get "Authorization").splitOn "Credential=" with
  | _ :: rest :: _ => (rest.splitOn "/").headD ""
  | _ => ""

/-- A request as the session shows it. -/
def seenRequest (req : Request) : Json :=
  .obj ([("method", .str req.method), ("host", .str req.target.authority), ("path", .str req.target.path),
    ("query", queryJson req.target.query),
    ("meta", .obj ((metadataOf req.headers).map fun (k, v) => (k, .str v)))] ++
    (if req.method == "PUT" then [("body", .str (Text.Utf8.lossyOfBytes req.body))] else []) ++
    [("access_key", .str (signedKey req.headers))])

/-- The headers that describe a stored object. -/
def objectHeaders (o : StoredObject) : Headers :=
  [("Content-Length", toString o.body.size)] ++
    o.metadata.map fun (k, v) => (canonicalHeaderKey ("X-Amz-Meta-" ++ k), v)

/-- The error document of a missing object. -/
def noSuchKeyDocument : String :=
  "<?xml version=\"1.0\" encoding=\"UTF-8\"?><Error><Code>NoSuchKey</Code>" ++
  "<Message>The specified key does not exist.</Message></Error>"

/-- The bucket's own answer (see the module comment). -/
def bucketAnswer (req : Request) : BucketM Reply := do
  let path := req.target.path
  let found := ((← get).objects.find? (·.1 == path)).map (·.2)
  match req.method, found with
  | "PUT", _ =>
    let o : StoredObject := ⟨req.body, metadataOf req.headers⟩
    modify fun s => { s with objects := (s.objects.filter (·.1 != path)) ++ [(path, o)] }
    pure (delivered 200 [] .empty false)
  | "GET", some o => pure (delivered 200 (objectHeaders o) o.body false)
  | "HEAD", some o => pure (delivered 200 (objectHeaders o) .empty false)
  | "GET", none =>
    pure (delivered 404 [("Content-Type", "application/xml")] noSuchKeyDocument.toUTF8 false)
  | _, _ => pure (delivered 404 [] .empty false)

/-- The server as a transport. -/
def bucketTransport : Transport BucketM := fun req => do
  if !servesBucketHost req.target.authority then return .error (refusedAt req)
  modify fun s => { s with seen := s.seen ++ [seenRequest req] }
  match (← get).replies with
  | some r :: rest =>
    modify fun s => { s with replies := rest }
    pure r.outcome
  | none :: rest =>
    modify fun s => { s with replies := rest }
    pure (.ok (← bucketAnswer req))
  | [] => pure (.ok (← bucketAnswer req))

/-- The environment a session runs in: the cloud client's variables reset, files that do not
exist for its configuration, the metadata service off and one attempt per operation, then the
session's own variables, where `null` unsets one. -/
def sessionEnvironment (j : Json) : Environment :=
  let base : List (String × String) := [("AWS_CONFIG_FILE", "/nonexistent/config"),
    ("AWS_SHARED_CREDENTIALS_FILE", "/nonexistent/credentials"),
    ("AWS_EC2_METADATA_DISABLED", "true"), ("AWS_MAX_ATTEMPTS", "1")]
  let vars : List (String × String) := match j with
    | .obj ms => ms.foldl (fun (env : List (String × String)) (k, v) => match v with
        | Json.str s => env.filter (·.1 != k) ++ [(k, s)]
        | _ => env.filter (·.1 != k)) base
    | _ => base
  fun k => ((vars.find? (·.1 == k)).map (·.2)).getD ""

/-- The key a step names: its document by name, stage and kind. -/
def stepKey (s : Json) : Key :=
  let doc := s.getStrD "doc"
  ⟨if doc.isEmpty then Uuid.nil else Uuid.ofName doc, ⟨s.getStrD "stage"⟩, s.getStrD "kind"⟩

/-- An artifact as a step shows it. -/
def storedJson (a : Stored) : Json :=
  .obj [("key", .str a.key.text), ("locator", .str a.locator), ("sha256", .str a.sha256),
    ("size", .ofNat a.size)]

/-- A failure as a step shows it. -/
def failureShown (e : Failure) : Json := .obj [("error", .str e.code), ("message", .str e.message)]

/-- Runs one step: its answer and the records it logged. -/
def bucketStep (st : BucketStore) (s : Json) : BucketM (Json × List Log.Record) := do
  modify fun w => { w with seen := [] }
  let k := stepKey s
  let canceled := flagArg s "canceled" false
  let (shown, records) ← match s.getStrD "do" with
    | "put" => do
      let (r, records) ← st.put bucketTransport canceled k (← pure (dataArg s |>.toOption.getD .empty))
      pure (r.map storedJson, records)
    | "get" => do
      let r ← st.get bucketTransport canceled k
      pure (r.map fun d => Json.str (Text.Utf8.lossyOfBytes d), [])
    | "stat" => do
      let r ← st.stat bucketTransport canceled k
      pure (r.map storedJson, [])
    | other => pure (.error (Failure.plain ("unknown step " ++ Text.Quoted.quote other)), [])
  let outcome := match shown with
    | .ok j => [("result", j)]
    | .error e => [("error", failureShown e)]
  pure (.obj ([("do", .str (s.getStrD "do"))] ++ outcome ++ [("requests", .arr (← get).seen)]), records)

/-- Runs a bucket session: the answer and the names of the documents' identifiers. -/
def runBucketSession (req : Json) : Json × List (String × String) :=
  let cfg := memberOrNull req "config"
  let settings : BucketSettings :=
    { endpoint := cfg.getStrD "endpoint", region := cfg.getStrD "region", bucket := cfg.getStrD "bucket",
      accessKey := cfg.getStrD "access_key", secretKey := cfg.getStrD "secret_key",
      folder := cfg.getStrD "prefix" }
  let steps := listArg req "steps"
  let names := steps.filterMap fun s => match s.get? "doc" with
    | some (.str n) => if n.isEmpty then none else some ((Uuid.ofName n).toText, n)
    | _ => none
  match BucketStore.open settings (sessionEnvironment (memberOrNull req "env")) with
  | .error e => (.obj [("open", failureShown e), ("log", .arr [])], names)
  | .ok st =>
    let replies := (listArg req "replies").map fun j => match j with
      | .null => none
      | j => some (ScriptedReply.ofJson j)
    let server : BucketServer := ⟨[], replies, []⟩
    let ((answers, records), _) := (steps.foldlM (fun (acc, logs) s => do
      let (a, rs) ← bucketStep st s
      pure (acc ++ [a], logs ++ rs)) (([] : List Json), ([] : List Log.Record))).run server
    (.obj [("open", .str "ok"), ("steps", .arr answers), ("log", .arr (records.map Log.Record.toJson))], names)

end CreditExtraction.Simulation
