import CreditExtraction.Net.Http
import CreditExtraction.Ocr.Line
import CreditExtraction.Json.Decode
import CreditExtraction.Failure
import CreditExtraction.Text.Utf8

/-!
# The cloud document-analysis service

A document is analysed in two phases. It is posted to
`<endpoint>/formrecognizer/documentModels/<model>:analyze?api-version=<version>` with its MIME
type, signed with the `Ocp-Apim-Subscription-Key` header. A `200` or `202` reply names the
operation in its `Operation-Location` header, and the operation is then asked for its state
(compared without regard to case) until it has succeeded, failed or was cancelled.

A missing reply fails as a timeout, a cancellation or `service error 503`; a refused reply as
`unauthorized` for 401 and 403, else `service error <status>: <message>`, the message read from
a JSON error document or the trimmed body; a failed or cancelled analysis as
`service error 422`.

The result becomes raw lines, page by page: each line's text, its polygon read as pairs of
coordinates, its page number and, when some words of the page lie inside one of the line's
spans, the mean confidence of those words.
-/

namespace CreditExtraction.Ocr

open Net Json

/-- The settings of the analysis client. -/
structure AzureSettings where
  endpoint : String
  apiKey : String
  apiVersion : String
  model : String
deriving Inhabited

/-- A span of the document's text: offset and length. -/
structure TextSpan where
  offset : Int
  length : Int

/-- A recognised word. -/
structure AnalyzedWord where
  content : String
  polygon : List Float
  confidence : Float
  span : TextSpan

/-- A recognised line. -/
structure AnalyzedLine where
  content : String
  polygon : List Float
  spans : List TextSpan

/-- A recognised page. -/
structure AnalyzedPage where
  number : Int
  words : List AnalyzedWord
  lines : List AnalyzedLine

/-- The state of an analysis as a reply reports it. -/
structure AnalysisState where
  status : String
  pages : List AnalyzedPage
  /-- The reply's error: code and message. -/
  error : Option (String × String)

/-- Reads a float list member. -/
def decodeFloats (p : Place) (j : Json) : Reader (List Float) := do
  pure ((← decodeList p "[]float64" (decodeFloat p) j).getD [])

/-- Reads a span. -/
def decodeSpan (p : Place) (j : Json) : Reader TextSpan := do
  match ← decodeObject p "azure.span" j with
  | none => pure ⟨0, 0⟩
  | some ms =>
    let names := ["offset", "length"]
    let sp := { p with record := "span" }
    let offset ← match fieldValue names ms "offset" with
      | some v => decodeInt (sp.field "offset") "int" v
      | none => pure 0
    let length ← match fieldValue names ms "length" with
      | some v => decodeInt (sp.field "length") "int" v
      | none => pure 0
    pure ⟨offset, length⟩

/-- Reads a word. -/
def decodeWord (p : Place) (j : Json) : Reader AnalyzedWord := do
  match ← decodeObject p "azure.word" j with
  | none => pure ⟨"", [], 0, ⟨0, 0⟩⟩
  | some ms =>
    let names := ["content", "polygon", "confidence", "span"]
    let wp := { p with record := "word" }
    let content ← match fieldValue names ms "content" with
      | some v => decodeString (wp.field "content") v
      | none => pure ""
    let polygon ← match fieldValue names ms "polygon" with
      | some v => decodeFloats (wp.field "polygon") v
      | none => pure []
    let confidence ← match fieldValue names ms "confidence" with
      | some v => decodeFloat (wp.field "confidence") v
      | none => pure 0
    let span ← match fieldValue names ms "span" with
      | some v => decodeSpan (wp.field "span") v
      | none => pure ⟨0, 0⟩
    pure ⟨content, polygon, confidence, span⟩

/-- Reads a line. -/
def decodeAnalyzedLine (p : Place) (j : Json) : Reader AnalyzedLine := do
  match ← decodeObject p "azure.line" j with
  | none => pure ⟨"", [], []⟩
  | some ms =>
    let names := ["content", "polygon", "spans"]
    let lp := { p with record := "line" }
    let content ← match fieldValue names ms "content" with
      | some v => decodeString (lp.field "content") v
      | none => pure ""
    let polygon ← match fieldValue names ms "polygon" with
      | some v => decodeFloats (lp.field "polygon") v
      | none => pure []
    let spans ← match fieldValue names ms "spans" with
      | some v => do pure ((← decodeList (lp.field "spans") "[]azure.span" (decodeSpan (lp.field "spans")) v).getD [])
      | none => pure []
    pure ⟨content, polygon, spans⟩

/-- Reads a page. -/
def decodePage (p : Place) (j : Json) : Reader AnalyzedPage := do
  match ← decodeObject p "azure.page" j with
  | none => pure ⟨0, [], []⟩
  | some ms =>
    let names := ["pageNumber", "words", "lines"]
    let pp := { p with record := "page" }
    let number ← match fieldValue names ms "pageNumber" with
      | some v => decodeInt (pp.field "pageNumber") "int" v
      | none => pure 0
    let words ← match fieldValue names ms "words" with
      | some v => do pure ((← decodeList (pp.field "words") "[]azure.word" (decodeWord (pp.field "words")) v).getD [])
      | none => pure []
    let lines ← match fieldValue names ms "lines" with
      | some v => do pure ((← decodeList (pp.field "lines") "[]azure.line" (decodeAnalyzedLine (pp.field "lines")) v).getD [])
      | none => pure []
    pure ⟨number, words, lines⟩

/-- Reads an error document's code and message; `none` for `null` or a missing member. -/
def decodeApiError (p : Place) (j : Json) : Reader (Option (String × String)) := do
  match ← decodeObject p "azure.apiError" j with
  | none => pure none
  | some ms =>
    let names := ["code", "message"]
    let ep := { p with record := "apiError" }
    let code ← match fieldValue names ms "code" with
      | some v => decodeString (ep.field "code") v
      | none => pure ""
    let message ← match fieldValue names ms "message" with
      | some v => decodeString (ep.field "message") v
      | none => pure ""
    pure (some (code, message))

/-- Reads an operation reply. -/
def decodeAnalysisState (j : Json) : Reader AnalysisState := do
  let p : Place := { record := "analyzeResponse" }
  match ← decodeObject {} "azure.analyzeResponse" j with
  | none => pure ⟨"", [], none⟩
  | some ms =>
    let names := ["status", "analyzeResult", "error"]
    let status ← match fieldValue names ms "status" with
      | some v => decodeString (p.field "status") v
      | none => pure ""
    let pages ← match fieldValue names ms "analyzeResult" with
      | some v =>
        let rp := p.field "analyzeResult"
        match ← decodeObject rp "azure.analyzeResult" v with
        | none => pure []
        | some rms =>
          match fieldValue ["pages"] rms "pages" with
          | some pv =>
            let pagesPlace : Place := { record := "analyzeResult", path := rp.path ++ ["pages"] }
            pure ((← decodeList pagesPlace "[]azure.page" (decodePage pagesPlace) pv).getD [])
          | none => pure []
      | none => pure []
    let error ← match fieldValue names ms "error" with
      | some v => decodeApiError (p.field "error") v
      | none => pure none
    pure ⟨status, pages, error⟩

/-- The error document of a refused request, read leniently: members of the wrong kind are
skipped. -/
def errorEnvelope (body : ByteArray) : Option (String × String) :=
  match Json.parseBytes body.toList with
  | .ok (.obj ms) =>
    match lookup ms "error" with
    | some (.obj ems) =>
      let text := fun (k : String) => match lookup ems k with
        | some (.str s) => s
        | _ => ""
      some (text "code", text "message")
    | _ => none
  | _ => none

/-- The failure of a reply with a refusing status (see the module comment). -/
def refusal (r : Reply) : Failure :=
  let body := Text.CharClass.trimSpace (Text.Utf8.lossyOfBytes r.body)
  let msg := if r.status > 399 && isJsonType (r.headers.get "Content-Type") then
      match errorEnvelope r.body with
      | some (code, message) => if message.isEmpty then body else code ++ ": " ++ message
      | none => body
    else body
  if r.status == 401 || r.status == 403 then Failure.tagged .unauthorized ("azure: " ++ msg)
  else .service r.status msg

/-- The failure of a request that got no reply. -/
def unanswered (f : Fault) (text : String) : Failure :=
  if f.isTimeout then Failure.tagged .timeout ("azure analyze: " ++ text)
  else if f == .canceled then .wrapped text [.cause .contextCanceled]
  else .service 503 text

/-- The end of a span, `offset + length` summed on 64-bit machine integers: it wraps. -/
def TextSpan.stop (s : TextSpan) : Int := Int.bmod (s.offset + s.length) (Nat.pow 2 64)

/-- Does span `w` start no earlier and end no later than one of `spans`? -/
def TextSpan.within (w : TextSpan) (spans : List TextSpan) : Bool :=
  spans.any fun s => w.offset ≥ s.offset && w.stop ≤ s.stop

/-- The raw lines of an analysis (see the module comment). -/
def rawLinesOf (pages : List AnalyzedPage) : List RawLine :=
  pages.flatMap fun pg => pg.lines.map fun l =>
    let inside := pg.words.filter fun w => w.span.within l.spans
    let sum := inside.foldl (fun acc w => acc + w.confidence) 0
    let confidence := if inside.isEmpty then none else some (sum / Float.ofNat inside.length)
    let polygon := if l.polygon.length < 2 then [] else pairs l.polygon
    ⟨l.content, polygon, confidence, pg.number⟩
where
  /-- Consecutive coordinates as points; an odd last coordinate is dropped. -/
  pairs : List Float → Polygon
    | x :: y :: rest => ⟨x, y⟩ :: pairs rest
    | _ => []

/-- Submits a document; the operation's URL or the failure. -/
def submitDocument {m : Type → Type} [Monad m] (t : Transport m) (s : AzureSettings) (data : ByteArray)
    (mime : String) : m (Except Failure String) := do
  let version := if s.apiVersion.isEmpty then "2023-07-31" else s.apiVersion
  let model := if s.model.isEmpty then "prebuilt-read" else s.model
  let base := String.ofList (s.endpoint.toList.reverse.dropWhile (· == '/')).reverse
  let url := base ++ "/formrecognizer/documentModels/" ++ model ++ ":analyze?api-version=" ++ version
  let contentType := if mime.isEmpty then sniffContentType data else mime
  let hs : Headers := [("Ocp-Apim-Subscription-Key", s.apiKey), ("Content-Type", contentType)]
  match Request.make "POST" url hs data with
  | .error e => return .error (.service 503 e)
  | .ok req =>
    match ← send t .call req with
    | .error f => return .error (unanswered f (f.describe "POST" url))
    | .ok r =>
      if r.status != 202 && r.status != 200 then return .error (refusal r)
      let op := r.headers.get "Operation-Location"
      if op.isEmpty then return .error (.service r.status "missing Operation-Location header")
      return .ok op

/-- Asks for the state of an operation until it ends; `fuel` bounds the number of requests. -/
def pollOperation {m : Type → Type} [Monad m] (t : Transport m) (s : AzureSettings) (op : String) :
    Nat → m (Except Failure (List AnalyzedPage))
  | 0 => pure (.error (Failure.tagged .timeout "azure analyze: context deadline exceeded"))
  | fuel + 1 => do
    match Request.make "GET" op [("Ocp-Apim-Subscription-Key", s.apiKey)] .empty with
    | .error e => return .error (.service 503 e)
    | .ok req =>
      match ← send t .call req with
      | .error f => return .error (unanswered f (f.describe "GET" op))
      | .ok r =>
        if r.status > 399 then return .error (refusal r)
        let state ← if 200 ≤ r.status && r.status < 300 && isJsonType (r.headers.get "Content-Type") then
            match Json.parseBytes r.body.toList with
            | .error e => return .error (.service 503 e)
            | .ok j =>
              match (decodeAnalysisState j).run' with
              | .error e => return .error (.service 503 e)
              | .ok st => pure st
          else pure ⟨"", [], none⟩
        match Text.CharClass.lowerString state.status with
        | "succeeded" => return .ok state.pages
        | "failed" | "canceled" =>
          let msg := match state.error with
            | some (code, message) => code ++ ": " ++ message
            | none => "analysis " ++ state.status
          return .error (.service 422 msg)
        | _ => pollOperation t s op fuel

/-- Analyses a document (see the module comment); `polls` bounds the number of state requests. -/
def analyzeDocument {m : Type → Type} [Monad m] (t : Transport m) (s : AzureSettings) (polls : Nat)
    (data : ByteArray) (mime : String) : m (Except Failure (List RawLine)) := do
  match ← submitDocument t s data mime with
  | .error e => return .error e
  | .ok op =>
    match ← pollOperation t s op polls with
    | .error e => return .error e
    | .ok pages => return .ok (rawLinesOf pages)

end CreditExtraction.Ocr
