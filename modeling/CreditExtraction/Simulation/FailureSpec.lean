import CreditExtraction.Failure
import CreditExtraction.Json.Value
import CreditExtraction.Text.Quoted
import CreditExtraction.Simulation.Request

/-!
# Failures written as JSON

Scripts name the failures their collaborators report in a small JSON language:

* `null` is no failure;
* a text names a cause (`"not_found"`, `"store_unavailable"`, `"timeout"`, …; `"canceled"` is a
  cancelled call and `"net_timeout"` a network timeout);
* `{"plain": m}` is a bare message;
* `{"wrap": m, "cause": spec}` puts a message before a failure;
* `{"service": {"status": s, "message": m}}` is a remote service answering with a failing
  status;
* `{"app": {"code", "message", "kind"?, "cause"?}}` is an application failure, its kind taken
  from its cause when not given;
* `{"join": [spec, …]}` is several failures at once.
-/

namespace CreditExtraction.Simulation

/-- The failure a name stands for. -/
def namedFailure : String → Option Failure
  | "not_found" => some (.cause .notFound)
  | "invalid_input" => some (.cause .invalidInput)
  | "unauthorized" => some (.cause .unauthorized)
  | "internal" => some (.cause .internal)
  | "database" => some (.cause .database)
  | "validation" => some (.cause .validation)
  | "store_unavailable" => some (.cause .storeUnavailable)
  | "timeout" => some (.cause .timeout)
  | "model" => some (.cause .model)
  | "malformed_response" => some (.cause .malformedResponse)
  | "malformed_document" => some (.cause .malformedDocument)
  | "schema_conflict" => some (.cause .schemaConflict)
  | "schema_invalid" => some (.cause .schemaInvalid)
  | "unknown_document_type" => some (.cause .unknownDocumentType)
  | "concurrent_job_conflict" => some (.cause .concurrentJobConflict)
  | "cancelled" => some (.cause .cancelled)
  | "canceled" => some (.cause .contextCanceled)
  | "deadline_exceeded" => some (.cause .deadlineExceeded)
  | "net_timeout" => some (.netTimeout "i/o timeout")
  | "stale_transition" => some (.cause .staleTransition)
  | "nothing_to_draw" => some (.cause .nothingToDraw)
  | _ => none

/-- The kind a name stands for. -/
def kindOfName : String → Kind
  | "transient" => .transient
  | "data" => .data
  | "structural" => .structural
  | "infrastructure" => .infrastructure
  | _ => .unknown

/-- The failure a spec describes (see the module comment); `fuel` bounds its nesting. -/
def failureOfSpec : Nat → Json → Except String (Option Failure)
  | 0, _ => .error "error spec too deep"
  | _, .null => .ok none
  | _, .str s =>
    match namedFailure s with
    | some f => .ok (some f)
    | none => .error ("unknown error spec " ++ Text.Quoted.quote s)
  | fuel + 1, j =>
    if let some (.str m) := j.get? "plain" then .ok (some (.plain m))
    else if let some (.str m) := j.get? "wrap" then do
      let c ← failureOfSpec fuel (memberOrNull j "cause")
      pure (c.map (Failure.context m))
    else if let some sv := j.get? "service" then
      .ok (some (.service ((sv.getInt? "status").getD 0) (sv.getStrD "message")))
    else if let some a := j.get? "app" then do
      let c ← failureOfSpec fuel (memberOrNull a "cause")
      pure (some (match a.get? "kind" with
        | some (.str k) => .app (a.getStrD "code") (a.getStrD "message") (kindOfName k) c
        | _ => Failure.newApp (a.getStrD "code") (a.getStrD "message") c))
    else if let some (.arr xs) := j.get? "join" then do
      let es ← xs.mapM (failureOfSpec fuel)
      pure (Failure.join es)
    else .error "unknown error spec"

/-- The nesting a spec may have. -/
def specDepth : Nat := 8

end CreditExtraction.Simulation
