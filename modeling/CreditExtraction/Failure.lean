/-!
# Failures, their codes and their kinds

A `Failure` is what an operation reports instead of a result. It has a message and may carry
the failures that caused it, so that callers can ask whether a given cause lies anywhere in the
chain (`Failure.has`). The named causes (`Cause`) are the conditions callers test for: a missing
resource, an unavailable store, a timed-out or failing model, a malformed document, …

Two derived views decide what happens next:

* `Failure.code` — a short name for reports: the code of the first application failure that
  carries one, `ServiceError` for a failed remote service, then the first named cause found in
  a fixed order of precedence, else `Internal`;
* `Failure.kind` — whether retrying can help (`transient`), the data are at fault (`data`), or
  neither (`structural`); application failures may also say `infrastructure`.
-/

namespace CreditExtraction

/-- The named causes of failure. -/
inductive Cause where
  | notFound
  | invalidInput
  | unauthorized
  | internal
  | database
  | validation
  | storeUnavailable
  | timeout
  | model
  | malformedResponse
  | malformedDocument
  | schemaConflict
  | schemaInvalid
  | unknownDocumentType
  | concurrentJobConflict
  | cancelled
  | contextCanceled
  | deadlineExceeded
  | staleTransition
  | nothingToDraw
deriving Repr, DecidableEq, Inhabited

/-- The message of a named cause. -/
def Cause.message : Cause → String
  | .notFound => "resource not found"
  | .invalidInput => "invalid input"
  | .unauthorized => "unauthorized"
  | .internal => "internal error"
  | .database => "database error"
  | .validation => "validation failed"
  | .storeUnavailable => "store unavailable"
  | .timeout => "timeout"
  | .model => "model error"
  | .malformedResponse => "malformed response"
  | .malformedDocument => "malformed document"
  | .schemaConflict => "schema conflict"
  | .schemaInvalid => "schema invalid"
  | .unknownDocumentType => "unknown document type"
  | .concurrentJobConflict => "concurrent job conflict"
  | .cancelled => "job cancelled"
  | .contextCanceled => "context canceled"
  | .deadlineExceeded => "context deadline exceeded"
  | .staleTransition => "stale job transition"
  | .nothingToDraw => "visualize: no bounding boxes"

/-- How a failure should be handled. -/
inductive Kind where
  | unknown
  | transient
  | data
  | structural
  | infrastructure
deriving Repr, DecidableEq, Inhabited

/-- The name of a kind. -/
def Kind.name : Kind → String
  | .unknown => "unknown"
  | .transient => "transient"
  | .data => "data"
  | .structural => "structural"
  | .infrastructure => "infrastructure"

/-- A failure: its message and the failures it carries. -/
inductive Failure where
  /-- A named cause on its own. -/
  | cause (c : Cause)
  /-- A bare message. -/
  | plain (msg : String)
  /-- A network failure that reports a timeout. -/
  | netTimeout (msg : String)
  /-- A message that carries the given failures as its causes. -/
  | wrapped (msg : String) (causes : List Failure)
  /-- A remote service answered with a failing status. -/
  | service (status : Int) (msg : String)
  /-- An application failure with a code, a message, a kind and an optional cause. -/
  | app (code msg : String) (kind : Kind) (cause : Option Failure)
  /-- Several failures at once. -/
  | joined (errs : List Failure)
deriving Repr, Inhabited

namespace Failure

mutual
/-- The message of a failure. -/
def message : Failure → String
  | .cause c => c.message
  | .plain m => m
  | .netTimeout m => m
  | .wrapped m _ => m
  | .service s m => "service error " ++ toString s ++ ": " ++ m
  | .app code m _ none => code ++ ": " ++ m
  | .app code m _ (some c) => code ++ ": " ++ m ++ ": " ++ message c
  | .joined errs => joinMessages errs

/-- The messages of several failures, one per line. -/
def joinMessages : List Failure → String
  | [] => ""
  | [e] => message e
  | e :: rest => message e ++ "\n" ++ joinMessages rest
end

mutual
/-- Does the named cause appear anywhere in the failure's chain? -/
def has (c : Cause) : Failure → Bool
  | .cause c' => c == c'
  | .wrapped _ causes => hasAny c causes
  | .app _ _ _ (some e) => has c e
  | .joined errs => hasAny c errs
  | _ => false

/-- Does the cause appear in one of the failures? -/
def hasAny (c : Cause) : List Failure → Bool
  | [] => false
  | e :: rest => has c e || hasAny c rest
end

mutual
/-- The first application failure of the chain (depth first): its code and kind. -/
def firstApp : Failure → Option (String × Kind)
  | .app code _ kind _ => some (code, kind)
  | .wrapped _ causes => firstAppAny causes
  | .joined errs => firstAppAny errs
  | _ => none

/-- `firstApp` over several failures, the first that has one. -/
def firstAppAny : List Failure → Option (String × Kind)
  | [] => none
  | e :: rest =>
    match firstApp e with
    | some r => some r
    | none => firstAppAny rest
end

mutual
/-- The status of the first remote-service failure of the chain. -/
def firstService : Failure → Option Int
  | .service s _ => some s
  | .wrapped _ causes => firstServiceAny causes
  | .app _ _ _ (some e) => firstService e
  | .joined errs => firstServiceAny errs
  | _ => none

/-- `firstService` over several failures. -/
def firstServiceAny : List Failure → Option Int
  | [] => none
  | e :: rest =>
    match firstService e with
    | some s => some s
    | none => firstServiceAny rest
end

mutual
/-- Does the chain hold a network failure that reports a timeout? -/
def hasNetTimeout : Failure → Bool
  | .netTimeout _ => true
  | .cause .deadlineExceeded => true
  | .wrapped _ causes => hasNetTimeoutAny causes
  | .app _ _ _ (some e) => hasNetTimeout e
  | .joined errs => hasNetTimeoutAny errs
  | _ => false

/-- `hasNetTimeout` over several failures. -/
def hasNetTimeoutAny : List Failure → Bool
  | [] => false
  | e :: rest => hasNetTimeout e || hasNetTimeoutAny rest
end

/-- Does a remote service status allow a retry: server errors, too many requests and request
timeouts? -/
def retryableStatus (s : Int) : Bool := s ≥ 500 || s == 429 || s == 408

/-- The kind decided by remote services and named causes alone. -/
def kindOfCauses (e : Failure) : Kind :=
    match e.firstService with
    | some s => if retryableStatus s then .transient else .structural
    | none =>
      if e.has .timeout || e.has .storeUnavailable || e.has .model || e.has .malformedResponse
          || e.has .deadlineExceeded then .transient
      else if e.has .validation then .data
      else if e.hasNetTimeout then .transient
      else .structural

/-- How the failure should be handled (see the module comment). -/
def kind (e : Failure) : Kind :=
  match e.firstApp with
  | some (_, k) => if k != .unknown then k else e.kindOfCauses
  | none => e.kindOfCauses

/-- May the operation be tried again? -/
def retryable (e : Failure) : Bool := e.kind == .transient

/-- The code decided by remote services and named causes alone. -/
def codeOfCauses (e : Failure) : String :=
    if e.firstService.isSome then "ServiceError"
    else if e.has .cancelled then "Cancelled"
    else if e.has .timeout || e.has .deadlineExceeded then "Timeout"
    else if e.has .unauthorized then "Unauthorized"
    else if e.has .storeUnavailable then "StoreUnavailable"
    else if e.has .model then "ModelError"
    else if e.has .malformedResponse then "MalformedResponse"
    else if e.has .malformedDocument then "MalformedDocument"
    else if e.has .schemaConflict then "SchemaConflict"
    else if e.has .unknownDocumentType then "UnknownDocumentType"
    else if e.has .concurrentJobConflict then "ConcurrentJobConflict"
    else if e.has .notFound then "NotFound"
    else "Internal"

/-- The short code of a failure (see the module comment). -/
def code (e : Failure) : String :=
  match e.firstApp with
  | some (c, _) => if c != "" then c else e.codeOfCauses
  | none => e.codeOfCauses

/-- A named cause followed by a detail: `"<cause>: <detail>"`, carrying the cause only. -/
def tagged (c : Cause) (detail : String) : Failure :=
  .wrapped (c.message ++ ": " ++ detail) [.cause c]

/-- A message prefix before a failure: `"<prefix>: <inner>"`, carrying the inner failure. -/
def context (pfx : String) (inner : Failure) : Failure :=
  .wrapped (pfx ++ ": " ++ inner.message) [inner]

/-- An application failure whose kind is taken from its cause. -/
def newApp (code msg : String) (cause : Option Failure) : Failure :=
  .app code msg (match cause with
    | some c => c.kind
    | none => .unknown) cause

/-- Joins failures, leaving out the absent ones; `none` when none is present. -/
def join (errs : List (Option Failure)) : Option Failure :=
  match errs.filterMap id with
  | [] => none
  | es => some (.joined es)

end Failure

end CreditExtraction
