import CreditExtraction.Net.Http
import CreditExtraction.Json.Parse
import CreditExtraction.Failure
import CreditExtraction.Text.Utf8
import CreditExtraction.Text.CharClass

/-!
# Posting JSON to a model service

`postJson` sends a document to a model service and returns the raw reply. The document is
written compactly; the request carries `Content-Type: application/json`, then the caller's
headers, which may replace it.

Failures, in the order they can arise:

* a document that cannot be written: `encode json: <reason>`;
* a URL that does not parse: `build request: <reason>`;
* no reply, or a reply body that breaks off: a timeout when the request's time ran out
  (`timeout: <fault>`), the bare fault when it was cancelled, else `model error: <fault>`;
* a status outside 2xx: `unauthorized: model api status <n>: <body>` for 401 and 403, else
  `model error: model api status <n>: <body>`, the body trimmed of white space; the raw body is
  returned with the failure.
-/

namespace CreditExtraction.Llm

open Net

/-- The failure a model service's status stands for (see the module comment). -/
def statusFailure (status : Int) (msg : String) : Failure :=
  let detail := "model api status " ++ toString status ++ ": " ++ msg
  if status == 401 || status == 403 then Failure.tagged .unauthorized detail
  else Failure.tagged .model detail

/-- The failure of a request that got no reply: a timeout, a cancellation or a model error. -/
def transportFailure (f : Fault) (text : String) : Failure :=
  if f.isTimeout then Failure.tagged .timeout text
  else if f == .canceled then .wrapped text [.cause .contextCanceled]
  else Failure.tagged .model text

/-- The outcome of a post: the raw reply body when one arrived, and the failure if any. -/
structure Posted where
  raw : Option ByteArray
  failure : Option Failure

/-- Posts a document (see the module comment). `body` is the written document or the reason it
cannot be written. -/
def postJson {m : Type → Type} [Monad m] (t : Transport m) (limit : TimeLimit) (url : String)
    (body : Except String String) (headers : List (String × String)) : m Posted := do
  match body with
  | .error e => return ⟨none, some (Failure.plain ("encode json: " ++ e))⟩
  | .ok text =>
    let hs := headers.foldl (fun acc (k, v) => Headers.set acc k v) [("Content-Type", "application/json")]
    match Request.make "POST" url hs text.toUTF8 with
    | .error e => return ⟨none, some (Failure.plain ("build request: " ++ e))⟩
    | .ok req =>
      match ← send t limit req with
      | .error f => return ⟨none, some (transportFailure f (f.describe "POST" url))⟩
      | .ok r =>
        if r.broken then return ⟨none, some (Failure.tagged .model "unexpected EOF")⟩
        if r.status / 100 != 2 then
          return ⟨some r.body, some (statusFailure r.status
            (Text.CharClass.trimSpace (Text.Utf8.lossyOfBytes r.body)))⟩
        return ⟨some r.body, none⟩

end CreditExtraction.Llm
