import CreditExtraction.Llm.Provider
import CreditExtraction.Llm.Http
import CreditExtraction.Simulation.Network
import CreditExtraction.Json.Dynamic

/-!
# Scripted model servers

Two scripted model servers answer chat requests: a local model server at `ollama.test`
(`POST /api/chat`) and a chat-completions service at `openai.test` (`POST <base>/chat/completions`).
They share one script, consumed one entry per request:

* `{content}` answers successfully with that content, in each server's own reply form;
* `{status, body}` answers with that status and body, `{body}` with status 200;
* `{hangup: true}` drops the connection, `{wait: true}` holds the request until its time runs
  out;
* past the end, the servers answer `500` with `{"error":"llm script exhausted"}`.

A request to another path of these hosts is answered `404 page not found`; other hosts refuse
the connection. Every request that reaches a server is counted and shown: method, host, path,
query, the headers `Content-Type`, `Accept` and `Authorization`, and the body read as JSON.

A JSON post session sends one document to a scripted server at `llm.test` and shows the
request as the server saw it, the raw reply and the failure.
-/

namespace CreditExtraction.Simulation

open Net

/-- One entry of a model script. -/
inductive ModelAnswer where
  | content (text : String)
  | reply (status : Nat) (body : String)
  | hangup
  | wait
deriving Inhabited

/-- Reads a script entry (see the module comment). -/
def ModelAnswer.ofJson (j : Json) : ModelAnswer :=
  if flagArg j "hangup" false then .hangup
  else if flagArg j "wait" false then .wait
  else match j.getStr? "content" with
    | some c => .content c
    | none => .reply (intArg j "status" 200).toNat (j.getStrD "body")

/-- The model servers: the script left, the requests seen and how many there were. -/
structure ModelServers where
  script : List ModelAnswer
  seen : List Json
  calls : Nat
deriving Inhabited

/-- The JSON reading of a request body, its text when it is no JSON. -/
def bodyJson (body : ByteArray) : Json :=
  match Json.parseBytes body.toList with
  | .ok j => j
  | .error _ => .str (Text.Utf8.lossyOfBytes body)

/-- A request as the model servers show it. -/
def modelRequestJson (req : Request) : Json :=
  .obj [("method", .str req.method), ("host", .str req.target.authority), ("path", .str req.target.path),
    ("query", .str req.target.query),
    ("headers", .obj [("Content-Type", .str (req.headers.get "Content-Type")),
      ("Accept", .str (req.headers.get "Accept")), ("Authorization", .str (req.headers.get "Authorization"))]),
    ("body", bodyJson req.body)]

/-- Which of the two servers a request is for: `true` for the local model server. -/
inductive ModelServer where
  | local
  | completions
deriving DecidableEq

/-- A successful answer in a server's reply form. -/
def successBody (srv : ModelServer) (content : String) : String :=
  match srv with
  | .local => (Json.obj [("model", .str "fake"), ("message", .obj [("role", .str "assistant"),
      ("content", .str content)]), ("done", .bool true)]).render
  | .completions => (Json.obj [("choices", .arr [.obj [("message", .obj [("role", .str "assistant"),
      ("content", .str content)])]])]).render

/-- The model servers as a transport over a state that holds them. -/
def modelTransport {m : Type → Type} [Monad m] [MonadStateOf ModelServers m] : Transport m := fun req => do
  let host := req.target.authority
  let srv? : Option ModelServer :=
    if host == "ollama.test" then some .local
    else if host == "openai.test" then some .completions
    else none
  let some srv := srv? | return .error (refusedAt req)
  modify fun (s : ModelServers) => { s with seen := s.seen ++ [modelRequestJson req], calls := s.calls + 1 }
  let routed := match srv with
    | .local => req.target.path == "/api/chat"
    | .completions => req.target.path.endsWith "/chat/completions"
  if !routed || req.method != "POST" then
    return .ok (delivered 404 [("Content-Type", "text/plain; charset=utf-8")] "404 page not found\n".toUTF8 false)
  let s ← get
  match s.script with
  | [] => return .ok (delivered 500 [("Content-Type", "application/json")]
      "\x7b\"error\":\"llm script exhausted\"\x7d".toUTF8 false)
  | a :: rest =>
    set { s with script := rest }
    match a with
    | .content c => return .ok (delivered 200 [("Content-Type", "application/json")] (successBody srv c).toUTF8 false)
    | .reply status body => return .ok (delivered status [] body.toUTF8 false)
    | .hangup => return .error .hangup
    | .wait => return .error .stalled

/-- The environment of a session: its `env` member, where `null` unsets a variable. -/
def environmentOf (j : Json) : Environment :=
  let vars : List (String × String) := match j with
    | .obj ms => ms.foldl (fun (acc : List (String × String)) (k, v) => match v with
        | Json.str s => acc.filter (·.1 != k) ++ [(k, s)]
        | _ => acc.filter (·.1 != k)) []
    | _ => []
  fun k => ((vars.find? (·.1 == k)).map (·.2)).getD ""

/-- The chat request of a session: system and user text, the schema written as a dynamic
document, and a single-precision temperature. -/
def chatRequestOf (j : Json) : Llm.ChatRequest :=
  let schema := match j.get? "schema" with
    | some .null | none => ""
    | some s => match Json.dynamic s with
      | .ok d => d.render
      | .error _ => s.render
  let temperature := match j.get? "temperature" with
    | some (.num lit) => (Text.readFloat .binary32 lit).toOption.getD 0
    | _ => 0
  { system := j.getStrD "system", user := j.getStrD "user", schema, temperature }

/-- The model settings of a session's `config`. -/
def modelSettingsOf (c : Json) : LlmSettings :=
  { provider := c.getStrD "provider", baseUrl := c.getStrD "base_url", model := c.getStrD "model",
    apiKey := c.getStrD "api_key", temperature := 0, timeout := intArg c "timeout_ms" 0 * 1000000 }

/-- Runs a model session: builds the backend the settings name and sends one chat request. -/
def runModelSession (req : Json) : Json :=
  let servers : ModelServers := ⟨(listArg req "script").map ModelAnswer.ofJson, [], 0⟩
  let settings := modelSettingsOf (memberOrNull req "config")
  match Llm.chatBackendOf (modelTransport (m := StateM ModelServers)) settings (environmentOf (memberOrNull req "env")) with
  | .error e => .obj [("error", .obj [("error", .str e.code), ("message", .str e.message)]), ("requests", .arr [])]
  | .ok backend =>
    match req.get? "chat" with
    | none | some .null => .obj [("model", .str backend.model), ("requests", .arr [])]
    | some chat =>
      let (r, s) := (backend.chat (chatRequestOf chat)).run servers
      let outcome := match r with
        | .ok c => [("content", Json.str c)]
        | .error e => [("error", .obj [("error", .str e.code), ("message", .str e.message)])]
      .obj ([("model", .str backend.model)] ++ outcome ++ [("requests", .arr s.seen)])

/-- The server of a JSON post session: the scripted reply and the request it saw. -/
structure PostServer where
  reply : ScriptedReply
  seen : Option Json

/-- Headers a post session does not show: those the client adds on its own. -/
def unshownHeaders : List String := ["Accept-Encoding", "User-Agent", "Content-Length"]

/-- The server of a post session as a transport. -/
def postTransport : Transport (StateM PostServer) := fun req => do
  if req.target.authority != "llm.test" then return .error (refusedAt req)
  let hs := (req.headers.filter fun (k, _) => !unshownHeaders.contains k).map fun (k, v) => (k, Json.str v)
  let shown := Json.obj [("method", .str req.method), ("path", .str req.target.path), ("headers", .obj hs),
    ("body", .str (Text.Utf8.lossyOfBytes req.body))]
  modify fun s => { s with seen := some shown }
  return (← get).reply.outcome

/-- Runs a JSON post session (see the module comment). -/
def runPostSession (req : Json) : Json :=
  let body : Except String String :=
    if flagArg req "unencodable" false then .error "json: unsupported type: func()"
    else match Json.dynamic (memberOrNull req "payload") with
      | .ok d => .ok d.render
      | .error e => .error e
  let url := match req.getStr? "url" with
    | some u => u
    | none => "http://llm.test" ++ req.getStrD "path"
  let headers := match req.get? "headers" with
    | some (.obj ms) => ms.filterMap fun (k, v) => match v with
      | .str s => some (k, s)
      | _ => none
    | _ => []
  let server : PostServer := ⟨ScriptedReply.ofJson (memberOrNull req "reply"), none⟩
  let (posted, s) := (Llm.postJson postTransport .client url body headers).run server
  .obj ([("request", s.seen.getD .null),
    ("raw", match posted.raw with
      | some r => .str (Text.Utf8.lossyOfBytes r)
      | none => .null)] ++
    (match posted.failure with
      | some e => [("error", .obj [("error", .str e.code), ("message", .str e.message)])]
      | none => []))

end CreditExtraction.Simulation
