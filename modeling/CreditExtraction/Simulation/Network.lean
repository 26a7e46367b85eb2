import CreditExtraction.Net.Http
import CreditExtraction.Simulation.Request
import CreditExtraction.Text.Utf8

/-!
# Scripted servers

Sessions that exercise network clients answer their requests from scripts. A scripted reply
names a status (200 when missing), a body, a content type and other headers, or instead that
the server hangs up, holds the request until its time runs out, or sends a body that breaks
off.

The wire between them behaves like a real connection: a status below 200 arrives as `200`,
`204` and `304` arrive without a body, and a body sent without a content type is typed by its
first bytes (`sniffContentType`). A request to a host that no
server of the session serves is refused at the host's port.
-/

namespace CreditExtraction.Simulation

open Net

/-- A scripted answer of a server. -/
structure ScriptedReply where
  status : Nat
  headers : Headers
  body : ByteArray
  hangup : Bool
  broken : Bool
  wait : Bool
deriving Inhabited

/-- Reads a scripted reply: `status`, `body` (or `body_b64`), `content_type`, `headers`,
`hangup`, `broken` and `wait`. -/
def ScriptedReply.ofJson (j : Json) : ScriptedReply :=
  let hs : Headers := match j.get? "headers" with
    | some (.obj ms) => ms.foldl (fun acc (k, v) => match v with
        | .str s => Headers.set acc k s
        | _ => acc) []
    | _ => []
  let hs := match j.getStr? "content_type" with
    | some ct => if ct.isEmpty then hs else Headers.set hs "Content-Type" ct
    | none => hs
  let body := if j.has "body_b64" then (base64Arg j "body_b64").toOption.getD .empty
    else (j.getStrD "body").toUTF8
  { status := (intArg j "status" 200).toNat, headers := hs, body, hangup := flagArg j "hangup" false,
    broken := flagArg j "broken" false, wait := flagArg j "wait" false }

/-- A reply as the wire delivers it (see the module comment). -/
def delivered (status : Nat) (headers : Headers) (body : ByteArray) (broken : Bool) : Reply :=
  let status := if status < 200 then 200 else status
  let body := if status == 204 || status == 304 then ByteArray.empty else body
  let headers := if headers.has "Content-Type" || body.isEmpty then headers
    else Headers.set headers "Content-Type" (sniffContentType body)
  { status, headers, body, broken }

/-- What a scripted reply makes of a request: a delivered reply, or the fault it causes. -/
def ScriptedReply.outcome (r : ScriptedReply) : Except Fault Reply :=
  if r.hangup then .error .hangup
  else if r.wait then .error .stalled
  else .ok (delivered r.status r.headers r.body r.broken)

/-- The fault of a request to a host no server serves. -/
def refusedAt (req : Request) : Fault := .refused req.target.hostname req.target.port

/-- The query of a request as a sorted list of `k=v` items, `null` when it has none. -/
def queryJson (query : String) : Json :=
  let items := (query.splitOn "&").filter (· != "")
  if items.isEmpty then .null else .arr ((items.mergeSort (· ≤ ·)).map Json.str)

end CreditExtraction.Simulation
