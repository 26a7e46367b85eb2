import CreditExtraction.Ingest.Ingestor
import CreditExtraction.Files.Tree

/-!
# Taking in files and directories

A file is read from a file tree and taken in under its path; a file over the size limit is
refused before it is read. A directory is walked in name order, a directory before what lies
below it (see `Ingest.Ingestor`): every entry visited counts as scanned, every file with an
accepted extension as matched, and each of those as succeeded (and deduplicated, when its
content was known) or failed.

A walk keeps its paths as they were given: the root as written and each entry below it joined
to its directory and cleaned, so a walk from a relative root reports relative paths. Files are
read, and taken in, under their absolute path from the working directory; a file that fails
is reported under its walk path.
-/

namespace CreditExtraction.Ingest

open Store Files

namespace Ingestor

variable {m : Type → Type} [Monad m] (i : Ingestor m)

/-- Reads a file of a tree and takes it in. -/
def ingestPath (tree : Tree) (path docType creditRequest : String) :
    m (IngestionResult × Option Failure) := do
  let start := IngestionResult.start path
  if i.maxBytes > 0 then
    if let .ok (.file d) := tree.stat path then
      if (d.size : Int) > i.maxBytes then
        return (start, some (Failure.tagged .invalidInput (path ++ " is " ++ toString d.size ++
          " bytes, limit " ++ toString i.maxBytes)))
  match tree.readFile path with
  | .error e => pure (start, some (.plain ("read " ++ path ++ ": " ++ e.message)))
  | .ok data => i.ingest path docType data creditRequest

/-- What a walk has found so far: the outcomes, in order, and the counts. -/
structure Walk where
  results : List IngestionResult
  stats : DirStats

/-- Records an outcome of the walk. -/
def Walk.record (w : Walk) (r : IngestionResult) (stats : DirStats) : Walk :=
  ⟨w.results ++ [r], stats⟩

/-- Visits one entry of the walk; whether to stay out of it (a hidden directory). -/
def visit (tree : Tree) (cwd docType creditRequest : String) (skipHidden : Bool) (path : String)
    (isDir : Bool) : StateT Walk m Bool := do
  modify fun w => { w with stats := { w.stats with scanned := w.stats.scanned + 1 } }
  if skipHidden && isHidden path then return isDir
  if isDir then return false
  if !allowedExt (normalizeExt (extensionOf path)) then return false
  modify fun w => { w with stats := { w.stats with matched := w.stats.matched + 1 } }
  let (r, err) ← (liftM (i.ingestPath tree (Path.absolute cwd path) docType creditRequest) : StateT Walk m _)
  let w ← get
  match err with
  | some e =>
    set (w.record { r with sourcePath := path, error := e.message }
      { w.stats with failed := w.stats.failed + 1 })
  | none =>
    set (w.record r { w.stats with succeeded := w.stats.succeeded + 1,
                                   deduplicated := w.stats.deduplicated + if r.deduplicated then 1 else 0 })
  pure false

/-- Walks an entry and, for a directory not stayed out of, what lies below it; `fuel` bounds
the depth. -/
def walkFrom (tree : Tree) (cwd docType creditRequest : String) (skipHidden : Bool) :
    Nat → String → Bool → StateT Walk m Unit
  | 0, _, _ => pure ()
  | fuel + 1, path, isDir => do
    let skip ← i.visit tree cwd docType creditRequest skipHidden path isDir
    if skip || !isDir then return
    for name in tree.children (Path.absolute cwd path) do
      let child := Path.joinClean path name
      walkFrom tree cwd docType creditRequest skipHidden fuel child (tree.isDir (Path.absolute cwd child))

/-- Walks a directory and takes in its files (see the module comment), relative paths taken
from the working directory `cwd`: the outcomes, the counts, and a failure when the walk could
not start. -/
def ingestDirectory (tree : Tree) (cwd root docType : String) (skipHidden : Bool) (creditRequest : String) :
    m (List IngestionResult × DirStats × Option Failure) := do
  let zero : DirStats := ⟨0, 0, 0, 0, 0⟩
  if Text.CharClass.trimSpace root == "" then
    return ([], zero, some (.plain "root path is required"))
  match tree.stat (Path.absolute cwd root) with
  | .error e =>
    let r := { IngestionResult.start root with error := { e with op := "lstat", paths := [root] }.message }
    i.note .info "ingest.directory.done" [Log.text "root" root, Log.int "matched" 0, Log.int "succeeded" 0,
      Log.int "deduplicated" 0, Log.int "failed" 1]
    pure ([r], { zero with scanned := 1, failed := 1 }, none)
  | .ok node =>
    let isDir := match node with
      | .dir => true
      | .file _ => false
    let depth := tree.nodes.length + 1
    let (_, w) ← (i.walkFrom tree cwd docType creditRequest skipHidden depth root isDir).run ⟨[], zero⟩
    i.note .info "ingest.directory.done" [Log.text "root" root, Log.int "matched" w.stats.matched,
      Log.int "succeeded" w.stats.succeeded, Log.int "deduplicated" w.stats.deduplicated,
      Log.int "failed" w.stats.failed]
    pure (w.results, w.stats, none)

end Ingestor

end CreditExtraction.Ingest
