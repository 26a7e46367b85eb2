import CreditExtraction.Service.Open

/-!
# Health

The service publishes the health of its dependencies under service names. Two checks are its
own: `metadata` pings the metadata store, and `artifacts` asks the artifact store for a key that
never exists (`ffffffff-…/RAW/probe`), where a missing artifact means the store is reachable.
Further checks may be added.

Every check starts out not serving. A round of probes runs each check once and publishes
`SERVING` or `NOT_SERVING` under its name; the overall status, under the empty name, is
serving only when every check passes. Asking for a name that was never published fails with
`rpc error: code = NotFound desc = unknown service`.
-/

namespace CreditExtraction.Service

/-- The published status of a service. -/
inductive ServingStatus where
  | serving
  | notServing
deriving DecidableEq, Inhabited

/-- The name of a status. -/
def ServingStatus.name : ServingStatus → String
  | .serving => "SERVING"
  | .notServing => "NOT_SERVING"

/-- A check and the failure of its probe, if it failed. -/
structure CheckResult where
  name : String
  failure : Option Failure

/-- The key the artifact check asks for. -/
def probeKey : Artifact.Key := ⟨⟨Nat.pow 2 128 - 1⟩, Artifact.Stage.raw, "probe"⟩

/-- The metadata check of a store. -/
def metadataCheck (st : Store.MetaStore) : CheckResult :=
  ⟨"metadata", match (Store.ping.run st).run.1 with
    | .ok _ => none
    | .error e => some e⟩

/-- The artifact check of a store, a bucket reached over a network where no host answers. -/
def artifactCheck : Artifacts → CheckResult
  | .files s =>
    ⟨"artifacts", match ((Artifact.Store.stat probeKey).run s).run.1 with
      | .ok _ => none
      | .error e => if e.has .notFound then none else some e⟩
  | .bucket b _ =>
    let silent : Net.Transport Id := fun req => .error (.refused req.target.hostname req.target.port)
    ⟨"artifacts", match b.stat silent false probeKey with
      | .ok _ => none
      | .error e => if e.has .notFound then none else some e⟩

/-- The service's own checks. -/
def Opened.checks (o : Opened) : List CheckResult := [metadataCheck o.store, artifactCheck o.artifacts]

/-- The statuses published after one round of probes: each check under its name, then the
overall status. -/
def publish (results : List CheckResult) : List (String × ServingStatus) :=
  let each := results.map fun r => (r.name, if r.failure.isSome then ServingStatus.notServing else .serving)
  let overall := if results.all (·.failure.isNone) then ServingStatus.serving else .notServing
  each ++ [("", overall)]

/-- The status published under a name (the last one published wins). -/
def statusOf (published : List (String × ServingStatus)) (service : String) : Except String ServingStatus :=
  match (published.filter (·.1 == service)).getLast? with
  | some (_, s) => .ok s
  | none => .error "rpc error: code = NotFound desc = unknown service"

end CreditExtraction.Service
