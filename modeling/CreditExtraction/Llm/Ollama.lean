import CreditExtraction.Llm.Http
import CreditExtraction.Llm.Extractor
import CreditExtraction.Json.Decode

/-!
# A locally served chat model

The local model server is asked at `<base>/api/chat` (base `http://127.0.0.1:11434` when none
is set) with one document:

    {"model", "messages": [system, user], "stream": false, "format": <schema>,
     "options": {"temperature"}}

`format` is left out when there is no schema. The server answers with one JSON document per
line. Each line is read for an `error` member first; then, for a status of 400 or more, the
reply fails with that status and error text (`model api status <n>: <error>`); an error text
in a successful reply fails on its own; otherwise the line's `message.content` is appended to
the answer. A reply without lines answers the empty text.

A call that runs out of its time fails as `timeout: ollama: <fault>`; other failures are model
failures, `model error: ollama: <reason>`, a line that is not JSON giving
`unmarshal: <reason>`.
-/

namespace CreditExtraction.Llm

open Net Json

/-- The settings of the local model client. -/
structure OllamaSettings where
  baseUrl : String
  model : String
deriving Inhabited

/-- The address of the server when none is set. -/
def defaultOllamaBase : String := "http://127.0.0.1:11434"

/-- Joins a path to a base URL: the base's path loses its trailing slashes and the path is
appended, before the base's query if it has one. -/
def joinUrlPath (base path : String) : String :=
  let (front, query) := match base.splitOn "?" with
    | first :: rest => (first, if rest.isEmpty then "" else "?" ++ "?".intercalate rest)
    | [] => ("", "")
  let front := String.ofList (front.toList.reverse.dropWhile (· == '/')).reverse
  front ++ path ++ query

/-- The request document (see the module comment); `none` schema text leaves `format` out. -/
def ollamaDocument (model : String) (req : ChatRequest) : Except String String := do
  let format ← if req.schema.isEmpty then pure [] else
    match Json.parse req.schema with
    | .ok j => pure [("format", j)]
    | .error e => throw ("json: error calling MarshalJSON for type json.RawMessage: " ++ e)
  let doc := Json.obj ([("model", .str model),
    ("messages", .arr [.obj [("role", .str "system"), ("content", .str req.system)],
                       .obj [("role", .str "user"), ("content", .str req.user)]]),
    ("stream", .bool false)] ++ format ++ [("options", .obj [("temperature", Json.ofFloat32 req.temperature)])])
  pure doc.render

/-- The error text of one reply line, or why the line cannot be read. -/
def lineError (line : Json) : Except String String :=
  match line with
  | .obj ms =>
    match lookup ms "error" with
    | some (.str s) => .ok s
    | some .null => .ok ""
    | some j => .error ("json: cannot unmarshal " ++ kindName j ++ " into Go struct field .error of type string")
    | none => .ok ""
  | .null => .ok ""
  | j => .error ("json: cannot unmarshal " ++ kindName j ++
      " into Go value of type struct \x7b Error string \"json:\\\"error,omitempty\\\"\" \x7d")

/-- The content of one reply line. -/
def lineContent (line : Json) : Except String String :=
  Reader.run' do
    let p : Place := { record := "ChatResponse" }
    match ← decodeObject p "api.ChatResponse" line with
    | none => pure ""
    | some ms =>
      let names := ["model", "created_at", "message", "done_reason", "done"]
      if let some v := fieldValue names ms "model" then discard (decodeString (p.field "model") v)
      if let some v := fieldValue names ms "done" then discard (decodeBool (p.field "done") v)
      if let some v := fieldValue names ms "done_reason" then discard (decodeString (p.field "done_reason") v)
      match fieldValue names ms "message" with
      | none => pure ""
      | some v =>
        let mp := p.field "message"
        match ← decodeObject mp "api.Message" v with
        | none => pure ""
        | some mms =>
          let mnames := ["role", "content", "thinking"]
          if let some r := fieldValue mnames mms "role" then discard (decodeString (mp.field "role") r)
          match fieldValue mnames mms "content" with
          | some c => decodeString (mp.field "content") c
          | none => pure ""

/-- The lines of a reply body: split at line feeds, a carriage return before one dropped, no
empty line after the last line feed. -/
def replyLines (body : String) : List String :=
  let parts := body.splitOn "\n"
  let parts := if parts.getLast? == some "" then parts.dropLast else parts
  parts.map fun l => if l.endsWith "\r" then String.ofList l.toList.dropLast else l

/-- Reads a reply (see the module comment): the answer or the failure. -/
def readOllamaReply (status : Nat) (body : String) : Except Failure String :=
  (replyLines body).foldlM (fun acc line => do
    let modelFail := fun (e : String) => Failure.tagged .model ("ollama: " ++ e)
    let j ← match Json.parse line with
      | .ok j => pure j
      | .error e => throw (modelFail ("unmarshal: " ++ e))
    let err ← match lineError j with
      | .ok e => pure e
      | .error e => throw (modelFail ("unmarshal: " ++ e))
    if status ≥ 400 then throw (statusFailure status err)
    if !err.isEmpty then throw (modelFail err)
    match lineContent j with
    | .ok c => pure (acc ++ c)
    | .error e => throw (modelFail e)) ""

/-- The local model as a chat backend over a transport; the base URL must parse. -/
def ollamaBackend {m : Type → Type} [Monad m] (t : Transport m) (s : OllamaSettings) :
    Except Failure (ChatBackend m) := do
  let base := if s.baseUrl.isEmpty then defaultOllamaBase else s.baseUrl
  match Url.parse base with
  | .error e => throw (Failure.plain ("ollama base url: " ++ e))
  | .ok _ => pure ()
  let url := joinUrlPath base "/api/chat"
  pure { model := s.model, chat := fun req => do
    match ollamaDocument s.model req with
    | .error e => return .error (Failure.tagged .model ("ollama: " ++ e))
    | .ok doc =>
      let hs : Headers := [("Content-Type", "application/json"), ("Accept", "application/x-ndjson")]
      match Request.make "POST" url hs doc.toUTF8 with
      | .error e => return .error (Failure.tagged .model ("ollama: " ++ e))
      | .ok r =>
        match ← send t .call r with
        | .error f =>
          let text := "ollama: " ++ f.describe "POST" url
          return .error (if f.isTimeout then Failure.tagged .timeout text else Failure.tagged .model text)
        | .ok reply => return readOllamaReply reply.status (Text.Utf8.lossyOfBytes reply.body) }

end CreditExtraction.Llm
