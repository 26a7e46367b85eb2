import CreditExtraction.Ingest.Watch
import CreditExtraction.Simulation.Request
import CreditExtraction.Simulation.Views

/-!
# Starting a watch

A watch session creates its files (each holding `x`) under `/watch`, starts a watch over its
roots there and then creates `zz-sentinel.pdf` in the first root. It shows the paths the watch
reports before the sentinel, and whether the sentinel was reported at all; or the failure to
start.
-/

namespace CreditExtraction.Simulation

open Files

/-- The directory a watch session works in. -/
def watchDir : String := "/watch"

/-- The tree of a watch session with its files. -/
def watchTree (files : List String) : Tree :=
  let base := (Tree.empty.mkdirAll watchDir).toOption.getD Tree.empty
  files.foldl (fun t f =>
    let p := Path.join watchDir f
    let t := (t.mkdirAll (Path.parent p)).toOption.getD t
    t.put p (.file "x".toUTF8)) base

/-- Runs a watch session (see the module comment). -/
def runWatchScanSession (req : Json) : Json :=
  let files := (listArg req "files").filterMap fun j => match j with
    | .str s => some s
    | _ => none
  let roots := (listArg req "roots").filterMap fun j => match j with
    | .str s => some (Path.join watchDir s)
    | _ => none
  let skipHidden := flagArg req "skip_hidden" false
  match Ingest.startWatch (watchTree files) "/" roots skipHidden (flagArg req "initial_scan" false) with
  | .error e => failureJson (.plain e)
  | .ok w =>
    let sentinelSeen := match roots.head? with
      | some r => w.sees (Path.join r "zz-sentinel.pdf") skipHidden
      | none => false
    .obj [("emitted", .arr (w.initial.map Json.str)), ("sentinel_seen", .bool sentinelSeen)]

end CreditExtraction.Simulation
