import CreditExtraction.Cli.Run
import CreditExtraction.Ingest.Watch

/-!
# Watching directories: `watch`

`watch <dir>...` takes in the documents that appear in directories and runs their jobs, until
it is stopped. It opens the service with the backends that work on documents and starts the
worker pool; then it starts a watch over the directories (hidden entries skipped), logging
`ingest.watch.started` with the roots and the document type (`--type`, or the default one).
With `--existing` the wanted files already there are taken in first.

The surroundings then change the files, one batch of changes at a time (see `Files.Change`).
For each batch the watcher reports what it hears; each path reported is taken in as a document
of the type, and a new document is submitted for the workers. A path that cannot be taken in
is logged (`ingest.watch.ingest_failed`), as is a document that cannot be submitted
(`ingest.watch.submit_failed`); neither stops the watch. The workers then take the queue until
it is at rest, and the surroundings hear the paths the watch reported for the batch.

With a positive `--debounce` the paths of a batch are reported together, once each and sorted;
otherwise one by one as they are heard. When the surroundings stop, the pool stops and the
command ends without failure. A watch that cannot start (a missing root) stops the pool and
fails the command.
-/

namespace CreditExtraction.Cli

open Store

variable {σ : Type}

/-- Takes in the paths a watch reports, in order, submitting each new document; failures are
logged (see the module comment). -/
def takeIn (peers : Peers σ) (svc : Service.Opened) (docType : String) (paths : List String) :
    CommandM σ Unit :=
  paths.forM fun p => do
    let m ← get
    let (res, err) ← onMachine ((ingestor svc).ingestPath m.files (m.resolve p) docType "")
    match err with
    | some e =>
      onMachine (logRecord .warn "ingest.watch.ingest_failed" [Log.text "path" p, Log.text "err" e.message])
    | none =>
      if !res.deduplicated then
        match ← onMachine (orchestrated ((orchestrator peers (← get) svc).submit res.documentId)).run with
        | .ok _ => pure ()
        | .error e =>
          onMachine (logRecord .warn "ingest.watch.submit_failed"
            [Log.text "document_id" res.documentId.toText, Log.text "err" e.message])

/-- Applies changes in order until one fails: the tree, the events of the changes made, and
the failure. -/
def applyChanges (t : Files.Tree) : List Files.Change → Files.Tree × List Files.Event × Option String
  | [] => (t, [], none)
  | c :: rest =>
    match t.apply c with
    | .error e => (t, [], some e.message)
    | .ok (t', events) =>
      let (t'', more, err) := applyChanges t' rest
      (t'', events ++ more, err)

/-- The paths of a batch as reported: together, once each and sorted, under a debounce. -/
def batchPaths (debounced : Bool) (paths : List String) : List String :=
  if debounced then (paths.foldl (fun acc p => if acc.contains p then acc else acc ++ [p]) []).mergeSort
    fun a b => decide (a ≤ b)
  else paths

/-- Deals with the batches of changes the surroundings make, at most `fuel` of them (see the
module comment). -/
def watchChanges (peers : Peers σ) (svc : Service.Opened) (docType : String) (debounced : Bool) :
    Nat → Ingest.Watcher → CommandM σ Unit
  | 0, _ => pure ()
  | fuel + 1, w => do
    match ← onMachine (outsideStep peers.nextChanges) with
    | none => pure ()
    | some changes =>
      let m ← get
      let (tree, events, failure) := applyChanges m.files changes
      set { m with files := tree }
      let (w, heard) := w.hearAll events
      let paths := batchPaths debounced heard
      takeIn peers svc docType paths
      drainUntilIdle peers svc 5
      onMachine (outsideStep (peers.changed ⟨failure, paths⟩))
      watchChanges peers svc docType debounced fuel w

/-- The most batches of changes one watch deals with. -/
def watchBound : Nat := 100000

/-- `watch <dir>...` (see the module comment). -/
def watch (peers : Peers σ) (inv : Invocation) (roots : List String) : CommandM σ Unit :=
  withApp inv true fun svc => do
    let docType := typeOf inv svc
    let workers := poolSize svc 0
    onMachine (startPool workers)
    let m ← get
    match Ingest.startWatch m.files m.cwd roots true (inv.flag "existing").asBool with
    | .error e =>
      onMachine (stopPool workers)
      throw (.plain e)
    | .ok start =>
      onMachine (logRecord .info "ingest.watch.started" [Log.texts "roots" roots, Log.text "type" docType])
      let debounced := (inv.flag "debounce").asDuration > 0
      takeIn peers svc docType start.initial
      drainUntilIdle peers svc 5
      watchChanges peers svc docType debounced watchBound (Ingest.Watcher.ofStart m.cwd true start)
      onMachine (stopPool workers)

end CreditExtraction.Cli
