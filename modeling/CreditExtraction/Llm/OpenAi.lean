import CreditExtraction.Llm.Http
import CreditExtraction.Llm.Extractor
import CreditExtraction.Json.Decode

/-!
# A chat-completions model service

The service is asked at `<base>/chat/completions` (base `https://api.openai.com/v1`, model
`gpt-4o-mini` when none is set) in JSON mode, signed with `Authorization: Bearer <key>`. The
document holds the model, the temperature, the response format `json_object` and the
messages: system, user and, when there is a schema, a second system message
`JSON Schema:\n<schema>`. Its members are written in sorted order.

The reply must be an object whose `choices` hold at least one message; the first message's
content, trimmed of white space, is the answer. A reply that cannot be read as such fails as
`malformed response: decode openai response: <reason>`; one without choices as
`model error: no choices in openai response`. Failures of the post itself are those of
`postJson`.
-/

namespace CreditExtraction.Llm

open Net Json

/-- The settings of the chat-completions client. -/
structure OpenAiSettings where
  apiKey : String
  baseUrl : String
  model : String
deriving Inhabited

/-- The settings with their defaults filled in; the key falls back to `envKey`. -/
def OpenAiSettings.resolved (s : OpenAiSettings) (envKey : String) : OpenAiSettings :=
  { apiKey := if s.apiKey.isEmpty then envKey else s.apiKey,
    baseUrl := if s.baseUrl.isEmpty then "https://api.openai.com/v1" else s.baseUrl,
    model := if s.model.isEmpty then "gpt-4o-mini" else s.model }

/-- The type the reply is read into, as failures name it. -/
def completionType : String :=
  "struct \x7b Choices []struct \x7b Message struct \x7b Content string \"json:\\\"content\\\"\" \x7d " ++
  "\"json:\\\"message\\\"\" \x7d \"json:\\\"choices\\\"\" \x7d"

/-- The type of the reply's choices, as failures name it. -/
def choicesType : String :=
  "[]struct \x7b Message struct \x7b Content string \"json:\\\"content\\\"\" \x7d \"json:\\\"message\\\"\" \x7d"

/-- The type of one choice, as failures name it. -/
def choiceType : String :=
  "struct \x7b Message struct \x7b Content string \"json:\\\"content\\\"\" \x7d \"json:\\\"message\\\"\" \x7d"

/-- The type of a choice's message, as failures name it. -/
def choiceMessageType : String := "struct \x7b Content string \"json:\\\"content\\\"\" \x7d"

/-- Remembers a kind mismatch at a field path of the anonymous reply type. -/
def fieldMismatch {α : Type} (path : String) (j : Json) (type : String) (fallback : α) : Reader α := do
  if (← get).isNone then
    set (some ("json: cannot unmarshal " ++ kindName j ++ " into Go struct field ." ++ path ++ " of type " ++ type))
  pure fallback

/-- The content of one choice. -/
def choiceContent : Json → Reader String
  | .obj cms =>
    match fieldValue ["message"] cms "message" with
    | some (.obj mms) =>
      match fieldValue ["content"] mms "content" with
      | some (.str c) => pure c
      | some .null | none => pure ""
      | some other => fieldMismatch "choices.message.content" other "string" ""
    | some .null | none => pure ""
    | some other => fieldMismatch "choices.message" other choiceMessageType ""
  | .null => pure ""
  | other => fieldMismatch "choices" other choiceType ""

/-- Reads the contents of the choices' messages. -/
def completionContents (j : Json) : Except String (List String) :=
  Reader.run' do
    match j with
    | .obj ms =>
      match fieldValue ["choices"] ms "choices" with
      | some (.arr cs) => cs.mapM choiceContent
      | some .null | none => pure []
      | some other => fieldMismatch "choices" other choicesType []
    | .null => pure []
    | other => mismatch {} (kindName other) completionType []

/-- The request document (see the module comment). -/
def completionDocument (model : String) (req : ChatRequest) : String :=
  let msgs := [Json.obj [("content", .str req.system), ("role", .str "system")],
    Json.obj [("content", .str req.user), ("role", .str "user")]] ++
    (if req.schema.isEmpty then [] else
      [Json.obj [("content", .str ("JSON Schema:\n" ++ req.schema)), ("role", .str "system")]])
  (Json.obj [("messages", .arr msgs), ("model", .str model),
    ("response_format", .obj [("type", .str "json_object")]),
    ("temperature", Json.ofFloat32 req.temperature)]).render

/-- Reads a reply body (see the module comment). -/
def readCompletion (raw : ByteArray) : Except Failure String :=
  let malformed := fun (e : String) => Failure.tagged .malformedResponse ("decode openai response: " ++ e)
  match Json.parseBytes raw.toList with
  | .error e => .error (malformed e)
  | .ok j =>
    match completionContents j with
    | .error e => .error (malformed e)
    | .ok [] => .error (Failure.tagged .model "no choices in openai response")
    | .ok (c :: _) => .ok (Text.CharClass.trimSpace c)

/-- The chat-completions service as a chat backend over a transport. -/
def openAiBackend {m : Type → Type} [Monad m] (t : Transport m) (s : OpenAiSettings) : ChatBackend m :=
  let url := String.ofList (s.baseUrl.toList.reverse.dropWhile (· == '/')).reverse ++ "/chat/completions"
  { model := s.model, chat := fun req => do
    let posted ← postJson t .client url (.ok (completionDocument s.model req))
      [("Authorization", "Bearer " ++ s.apiKey)]
    match posted.failure, posted.raw with
    | some e, _ => return .error e
    | none, some raw => return readCompletion raw
    | none, none => return readCompletion .empty }

end CreditExtraction.Llm
