import CreditExtraction.Ocr.Azure
import CreditExtraction.Simulation.Network

/-!
# A scripted analysis service

An analysis session runs the document-analysis client against a scripted service at
`http://azure.test`. Every submission is answered with the `submit` reply, whose
`operation_location` becomes the `Operation-Location` header (prefixed with the service's URL
when it starts with `/`); state requests are answered with the `polls` replies in turn and,
past them, with `500 script exhausted`.

The session shows every request the service saw (method, path, query, content type,
subscription key and body) and the raw lines, or the failure.
-/

namespace CreditExtraction.Simulation

open Net

/-- The scripted service: its replies and the requests seen. -/
structure AnalyzeServer where
  submit : ScriptedReply
  polls : List ScriptedReply
  seen : List Json

/-- The service's own URL. -/
def analyzeServiceUrl : String := "http://azure.test"

/-- A request as the session shows it. -/
def analyzeRequestJson (req : Request) : Json :=
  .obj [("method", .str req.method), ("path", .str req.target.path), ("query", .str req.target.query),
    ("content_type", .str (req.headers.get "Content-Type")),
    ("api_key", .str (req.headers.get "Ocp-Apim-Subscription-Key")),
    ("body", .str (Text.Utf8.lossyOfBytes req.body))]

/-- Reads a reply of the script, its operation location made into a header. -/
def analyzeReplyOf (j : Json) : ScriptedReply :=
  let r := ScriptedReply.ofJson j
  match j.getStr? "operation_location" with
  | some loc =>
    let loc := if loc.startsWith "/" then analyzeServiceUrl ++ loc else loc
    { r with headers := Headers.set r.headers "Operation-Location" loc }
  | none => r

/-- The service as a transport. -/
def analyzeTransport : Transport (StateM AnalyzeServer) := fun req => do
  if req.target.authority != "azure.test" then return .error (refusedAt req)
  modify fun s => { s with seen := s.seen ++ [analyzeRequestJson req] }
  let s ← get
  if req.method == "POST" then return s.submit.outcome
  match s.polls with
  | [] => return .ok (delivered 500 [] "script exhausted".toUTF8 false)
  | r :: rest =>
    set { s with polls := rest }
    return r.outcome

/-- Runs an analysis session (see the module comment). -/
def runAnalyzeSession (req : Json) : Json :=
  let cfg := memberOrNull req "config"
  let settings : Ocr.AzureSettings :=
    { endpoint := analyzeServiceUrl ++ cfg.getStrD "endpoint_suffix", apiKey := cfg.getStrD "api_key",
      apiVersion := cfg.getStrD "api_version", model := cfg.getStrD "model" }
  let polls := (listArg req "polls").map analyzeReplyOf
  let server : AnalyzeServer := ⟨analyzeReplyOf (memberOrNull req "submit"), polls, []⟩
  let data := (dataArg req).toOption.getD .empty
  let (r, s) := (Ocr.analyzeDocument analyzeTransport settings (polls.length + 2) data (req.getStrD "mime")).run server
  let outcome := match r with
    | .ok [] => [("lines", Json.null)]
    | .ok lines => [("lines", Ocr.rawLinesToJson lines)]
    | .error e => [("error", .obj [("error", .str e.code), ("message", .str e.message)])]
  .obj ([("requests", .arr s.seen)] ++ outcome)

end CreditExtraction.Simulation
