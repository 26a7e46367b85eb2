import CreditExtraction.Artifact.Key
import CreditExtraction.Net.Http
import CreditExtraction.Log.Record
import CreditExtraction.Text.Integer
import CreditExtraction.Text.Utf8
import CreditExtraction.Service.Settings

/-!
# Artifacts in a cloud bucket

A bucket store keeps each artifact as one object of a bucket, named
`<folder>/<stage dir>/<document>.<kind>`, with the content's SHA-256 digest as the object's
`sha256` metadata. A single upload replaces an object whole, so a put is all or nothing.

## Opening

A store needs a bucket. Its client reads defaults from the process environment as the cloud's
own tools do: `AWS_MAX_ATTEMPTS` must be an integer (three attempts when unset), a profile named
by `AWS_PROFILE` must exist (none does here), and without a configured key the client signs
with `AWS_ACCESS_KEY_ID` and `AWS_SECRET_ACCESS_KEY`. Credentials are checked on first use.

## Addressing

Without an endpoint the bucket is reached at `https://<bucket>.s3.<region>.amazonaws.com`
(region `us-east-1` by default), or in the path of `https://s3.<region>.amazonaws.com` when
its name cannot be a host label; with an endpoint, always in the path.

## Failures

An operation fails as `operation error S3: <Operation>, <reason>`, the reason read from the
reply's status and XML error document, or `request send failed, <fault>` when no reply came.
Server errors, throttling and lost connections are tried again, up to the attempts allowed. The
store turns a missing object (`NoSuchKey`, `NotFound` or status 404) into `notFound`, any other
failure into `storeUnavailable`; a cancelled call fails with the cancellation itself.
-/

namespace CreditExtraction.Artifact

open Net

/-- The settings of a bucket store. -/
structure BucketSettings where
  /-- A service URL; empty for the cloud itself. -/
  endpoint : String
  region : String
  bucket : String
  accessKey : String
  secretKey : String
  /-- The folder of the bucket that objects go under. -/
  folder : String
deriving Inhabited

/-- The reason the metadata service gives no credentials: it is switched off. -/
def metadataServiceOff : String :=
  "no EC2 IMDS role found, operation error ec2imds: GetMetadata, access disabled to EC2 IMDS " ++
  "via client option, or \"AWS_EC2_METADATA_DISABLED\" environment variable"

/-- The access key requests are signed with, or why there is none (see the module comment). -/
def signingKey (s : BucketSettings) (env : Environment) : Except String String :=
  if !s.accessKey.isEmpty then
    if s.secretKey.isEmpty then .error "static credentials are empty" else .ok s.accessKey
  else
    let id := env "AWS_ACCESS_KEY_ID"
    let id := if id.isEmpty then env "AWS_ACCESS_KEY" else id
    let secret := env "AWS_SECRET_ACCESS_KEY"
    let secret := if secret.isEmpty then env "AWS_SECRET_KEY" else secret
    if !id.isEmpty && !secret.isEmpty then .ok id else .error metadataServiceOff

/-- Why a text is not a 64-bit decimal integer: its digits are too many, or it is no integer. -/
def decimalFault (s : String) : String :=
  let ds := match s.toList with
    | '-' :: rest => rest
    | '+' :: rest => rest
    | cs => cs
  if !ds.isEmpty && ds.all Char.isDigit then "value out of range" else "invalid syntax"

/-- The number of attempts the environment asks for (see the module comment). -/
def attemptsOf (env : Environment) : Except String Nat :=
  let v := env "AWS_MAX_ATTEMPTS"
  if v.isEmpty then .ok 3
  else match Text.parseDecimal v 64 with
    | some n => .ok (if n ≤ 0 then 3 else n.toNat)
    | none => .error ("invalid value AWS_MAX_ATTEMPTS=" ++ v ++ ", strconv.ParseInt: parsing " ++
        Text.Quoted.quote v ++ ": " ++ decimalFault v)

/-- A client of one bucket. -/
structure BucketStore where
  bucket : String
  folder : String
  region : String
  /-- The service URL for path-style addressing; none for the cloud itself. -/
  endpoint : Option String
  /-- The access key requests are signed with, or why there is none. -/
  signer : Except String String
  /-- How often an operation is tried. -/
  attempts : Nat
deriving Inhabited

/-- Opens a bucket store (see the module comment). -/
def BucketStore.open (s : BucketSettings) (env : Environment) : Except Failure BucketStore := do
  if s.bucket.isEmpty then throw (Failure.tagged .invalidInput "s3 bucket is required")
  let region := if s.region.isEmpty then "us-east-1" else s.region
  let loadFailed := fun (e : String) => Failure.plain ("failed to load AWS config: " ++ e)
  let attempts ← match attemptsOf env with
    | .ok n => pure n
    | .error e => throw (loadFailed e)
  let profile := env "AWS_PROFILE"
  if !profile.isEmpty then throw (loadFailed ("failed to get shared config profile, " ++ profile))
  let folder := String.ofList ((s.folder.toList.dropWhile (· == '/')).reverse.dropWhile (· == '/')).reverse
  pure { bucket := s.bucket, folder, region,
         endpoint := if s.endpoint.isEmpty then none else some s.endpoint,
         signer := signingKey s env, attempts }

/-- The operations the store uses. -/
inductive BucketCall where
  | put
  | get
  | head
deriving DecidableEq, Inhabited

/-- The operation's name in failures. -/
def BucketCall.operation : BucketCall → String
  | .put => "PutObject"
  | .get => "GetObject"
  | .head => "HeadObject"

/-- The request method of an operation. -/
def BucketCall.method : BucketCall → String
  | .put => "PUT"
  | .get => "GET"
  | .head => "HEAD"

namespace BucketStore

/-- The object name of a key. -/
def objectKey (st : BucketStore) (k : Key) : String :=
  if st.folder.isEmpty then k.objectName else st.folder ++ "/" ++ k.objectName

/-- Where an artifact lives, as a locator. -/
def locator (st : BucketStore) (k : Key) : String := "s3://" ++ st.bucket ++ "/" ++ st.objectKey k

/-- Can the bucket name be a host label: three to 63 lower-case letters, digits and hyphens,
starting and ending with a letter or digit? -/
def hostableBucket (b : String) : Bool :=
  let cs := b.toList
  let okChar := fun (c : Char) => ('a' ≤ c && c ≤ 'z') || c.isDigit || c == '-'
  let edge := fun (c : Char) => ('a' ≤ c && c ≤ 'z') || c.isDigit
  3 ≤ cs.length && cs.length ≤ 63 && cs.all okChar &&
    (cs.head?.map edge).getD false && (cs.getLast?.map edge).getD false

/-- Escapes an object path: everything but unreserved characters and `/` is percent-encoded. -/
def escapePath (s : String) : String :=
  let keep := fun (c : Char) => c.isAlphanum || c == '-' || c == '_' || c == '.' || c == '~' || c == '/'
  String.join (s.toUTF8.toList.map fun b =>
    let c := Char.ofNat b.toNat
    if b.toNat < 0x80 && keep c then c.toString
    else "%" ++ String.ofList ((Text.Quoted.hexFixed 2 b.toNat).map Char.toUpper))

/-- The URL of an object, without query. -/
def objectUrl (st : BucketStore) (k : Key) : String :=
  let obj := escapePath (st.objectKey k)
  match st.endpoint with
  | some e =>
    let base := if e.endsWith "/" then e else e ++ "/"
    base ++ escapePath st.bucket ++ "/" ++ obj
  | none =>
    if hostableBucket st.bucket then
      "https://" ++ st.bucket ++ ".s3." ++ st.region ++ ".amazonaws.com/" ++ obj
    else "https://s3." ++ st.region ++ ".amazonaws.com/" ++ escapePath st.bucket ++ "/" ++ obj

end BucketStore

/-- The parts of an XML error document the client reads. -/
structure ErrorDocument where
  code : String
  message : String
  requestId : String
  hostId : String

/-- Decodes the five predefined XML entities. -/
def xmlUnescape (s : String) : String :=
  ((((s.replace "&lt;" "<").replace "&gt;" ">").replace "&quot;" "\"").replace "&apos;" "'").replace "&amp;" "&"

/-- The text of the first element named `name`, if any. -/
def xmlElement (doc name : String) : String :=
  match doc.splitOn ("<" ++ name ++ ">") with
  | _ :: after :: _ => xmlUnescape ((after.splitOn ("</" ++ name ++ ">")).headD "")
  | _ => ""

/-- Reads an error document; a body without one gives empty parts. -/
def ErrorDocument.read (body : String) : ErrorDocument :=
  ⟨xmlElement body "Code", xmlElement body "Message", xmlElement body "RequestId", xmlElement body "HostId"⟩

/-- Error codes that ask the client to slow down or that report a passing timeout. -/
def retryableCodes : List String :=
  ["RequestTimeout", "RequestTimeoutException", "Throttling", "ThrottlingException",
   "ThrottledException", "RequestThrottledException", "TooManyRequestsException",
   "ProvisionedThroughputExceededException", "TransactionInProgressException", "RequestLimitExceeded",
   "BandwidthLimitExceeded", "LimitExceededException", "RequestThrottled", "SlowDown",
   "PriorRequestNotComplete", "EC2ThrottledException"]

/-- The failure of one attempt: its text and whether another attempt may help. -/
structure AttemptFailure where
  text : String
  retryable : Bool

/-- The failure a reply outside 2xx stands for (see the module comment). -/
def replyFailure (r : Reply) : AttemptFailure :=
  let doc := ErrorDocument.read (Text.Utf8.lossyOfBytes r.body)
  let (code, message) :=
    if doc.code.isEmpty && doc.message.isEmpty then
      let t := statusText r.status
      (t.replace " " "", t)
    else (if doc.code.isEmpty then "UnknownError" else doc.code,
          if doc.message.isEmpty then (if doc.code.isEmpty then "UnknownError" else doc.code) else doc.message)
  let requestId := if doc.requestId.isEmpty then r.headers.get "X-Amz-Request-Id" else doc.requestId
  let hostId := if doc.hostId.isEmpty then r.headers.get "X-Amz-Id-2" else doc.hostId
  { text := "https response error StatusCode: " ++ toString r.status ++ ", RequestID: " ++ requestId ++
      ", HostID: " ++ hostId ++ ", api error " ++ code ++ ": " ++ message,
    retryable := [500, 502, 503, 504].contains r.status || retryableCodes.contains code }

/-- The failure of a request that got no reply. -/
def faultFailure (f : Net.Fault) (method url : String) : AttemptFailure :=
  { text := "https response error StatusCode: 0, RequestID: , HostID: , request send failed, " ++
      f.describe method url,
    retryable := true }

/-- What an operation ended with: the reply, or the failure text. -/
abbrev CallResult := Except String Reply

namespace BucketStore

/-- The path of an object as the server reads it, unescaped. -/
def pathShown (st : BucketStore) (k : Key) : String :=
  match st.endpoint with
  | some e =>
    let path := match Url.parse e with
      | .ok u => u.path
      | .error _ => ""
    let base := if path.endsWith "/" then path else path ++ "/"
    base ++ st.bucket ++ "/" ++ st.objectKey k
  | none =>
    if hostableBucket st.bucket then "/" ++ st.objectKey k
    else "/" ++ st.bucket ++ "/" ++ st.objectKey k

/-- Builds the request of one attempt. -/
def request (st : BucketStore) (call : BucketCall) (k : Key) (signer : String) (body : ByteArray)
    (metadata : List (String × String)) : Request :=
  let url := st.objectUrl k
  let url := match call with
    | .put => url ++ "?x-id=PutObject"
    | .get => url ++ "?x-id=GetObject"
    | .head => url
  let target := match Url.parse url with
    | .ok u => { Target.ofUrl u with path := st.pathShown k }
    | .error _ => default
  let headers : Headers := [("Authorization", "AWS4-HMAC-SHA256 Credential=" ++ signer ++ "/" ++ st.region ++
      "/s3/aws4_request")] ++ metadata.map fun (n, v) => (canonicalHeaderKey ("X-Amz-Meta-" ++ n), v)
  { method := call.method, url, target, headers, body }

/-- Runs one operation: up to `attempts` tries while the failure allows another (see the module
comment). -/
def call {m : Type → Type} [Monad m] (st : BucketStore) (t : Transport m) (canceled : Bool)
    (op : BucketCall) (k : Key) (body : ByteArray) (metadata : List (String × String)) : m CallResult := do
  let failed := fun (reason : String) => "operation error S3: " ++ op.operation ++ ", " ++ reason
  if canceled then return .error (failed "context canceled")
  match st.signer with
  | .error e => return .error (failed ("get identity: get credentials: failed to refresh cached credentials, " ++ e))
  | .ok signer =>
    let req := st.request op k signer body metadata
    let rec go : Nat → Nat → m CallResult
      | 0, _ => pure (.error (failed "exceeded maximum number of attempts"))
      | fuel + 1, attempt => do
        let outcome ← send t .none req
        let failure? := match outcome with
          | .ok r => if 200 ≤ r.status && r.status < 300 then none else some (replyFailure r)
          | .error f => some (faultFailure f req.method req.url)
        let some failure := failure? | return outcome.mapError fun _ => ""
        if !failure.retryable then return .error (failed failure.text)
        if attempt ≥ st.attempts then
          return .error (failed ("exceeded maximum number of attempts, " ++ toString st.attempts ++ ", " ++
            failure.text))
        go fuel (attempt + 1)
    go st.attempts 1

/-- The failure the store reports for a failed operation (see the module comment). -/
def storeFailure (canceled : Bool) (k : Key) (reason : String) : Failure :=
  if canceled then .cause .contextCanceled
  else if (reason.splitOn "NotFound").length > 1 || (reason.splitOn "NoSuchKey").length > 1 ||
      (reason.splitOn "StatusCode: 404").length > 1 then
    Failure.tagged .notFound ("artifact " ++ k.text)
  else Failure.tagged .storeUnavailable ("s3 " ++ k.text ++ ": " ++ reason)

/-- Uploads an artifact, with its digest as metadata. -/
def put {m : Type → Type} [Monad m] (st : BucketStore) (t : Transport m) (canceled : Bool) (k : Key)
    (data : ByteArray) : m (Except Failure Stored × List Log.Record) := do
  if let .error e := k.validate then return (.error e, [])
  let sum := hash data
  match ← st.call t canceled .put k data [("sha256", sum)] with
  | .error reason =>
    return (.error (storeFailure canceled k reason),
      [⟨.error, "artifact.s3.put_failed", [Log.text "key" k.text, Log.text "error" reason]⟩])
  | .ok _ =>
    return (.ok ⟨k, st.locator k, sum, data.size⟩,
      [⟨.debug, "artifact.s3.put", [Log.text "key" k.text, Log.int "bytes" data.size]⟩])

/-- Downloads an artifact's content. -/
def get {m : Type → Type} [Monad m] (st : BucketStore) (t : Transport m) (canceled : Bool) (k : Key) :
    m (Except Failure ByteArray) := do
  if let .error e := k.validate then return .error e
  match ← st.call t canceled .get k .empty [] with
  | .error reason => return .error (storeFailure canceled k reason)
  | .ok r =>
    if r.broken then return .error (Failure.tagged .storeUnavailable ("read " ++ k.text ++ ": unexpected EOF"))
    return .ok r.body

/-- Describes a stored artifact from its object's headers: size and recorded digest. -/
def stat {m : Type → Type} [Monad m] (st : BucketStore) (t : Transport m) (canceled : Bool) (k : Key) :
    m (Except Failure Stored) := do
  if let .error e := k.validate then return .error e
  match ← st.call t canceled .head k .empty [] with
  | .error reason => return .error (storeFailure canceled k reason)
  | .ok r =>
    let size := ((Text.parseDecimal (r.headers.get "Content-Length") 64).getD 0).toNat
    return .ok ⟨k, st.locator k, r.headers.get "X-Amz-Meta-Sha256", size⟩

end BucketStore

end CreditExtraction.Artifact
