import CreditExtraction.Ingest.FileKind
import CreditExtraction.Files.Change

/-!
# Watching directories

A watch covers directories, each with everything below it. Starting a watch walks each root in
turn, in name order and a directory before what lies below it: every directory is watched,
and, when an initial scan is asked for, every wanted file already there is reported, in the
order of the walk (a file below two roots is reported twice). A wanted file has an accepted
extension; when hidden entries are skipped, a hidden directory is neither watched nor walked
and a hidden file is not wanted. A watch needs at least one root (`no roots provided`), and a
root that does not exist stops the start (`lstat <root>: no such file or directory`).

Paths are reported as the walk makes them: the root as written, and below it each name joined
to its directory and cleaned. Relative roots are looked up from a working directory.

Once started, the watcher hears the events of the directories it watches (see
`Files.Change`), and only those:

* a directory that appears in a watched one is watched in turn, unless it is hidden and hidden
  entries are skipped; nothing is reported for it, and the entries it came with are not
  reported either;
* a wanted file that appears in, or moves away from, a watched directory is reported;
* a directory that is removed or moves away is no longer watched, nor anything below it.
-/

namespace CreditExtraction.Ingest

open Files

/-- What starting a watch finds: the directories it watches and the files it reports at once. -/
structure WatchStart where
  watched : List String
  initial : List String
deriving Inhabited

/-- Is a file one the watch reports? -/
def wanted (path : String) (skipHidden : Bool) : Bool :=
  !(skipHidden && isHidden path) && allowedExt (extensionOf path)

/-- Walks an entry and, for a directory, what lies below it, looking paths up from `cwd`;
`fuel` bounds the depth. -/
def watchWalk (tree : Tree) (cwd : String) (skipHidden initialScan : Bool) :
    Nat → String → Bool → WatchStart → WatchStart
  | 0, _, _, acc => acc
  | fuel + 1, path, isDir, acc =>
    if skipHidden && isHidden path then acc
    else if isDir then
      let acc := { acc with watched := acc.watched ++ [path] }
      (tree.children (Path.absolute cwd path)).foldl (fun acc name =>
        let child := Path.joinClean path name
        watchWalk tree cwd skipHidden initialScan fuel child (tree.isDir (Path.absolute cwd child)) acc) acc
    else if initialScan && wanted path skipHidden then { acc with initial := acc.initial ++ [path] }
    else acc

/-- Starts a watch over roots, looked up from `cwd` (see the module comment). -/
def startWatch (tree : Tree) (cwd : String) (roots : List String) (skipHidden initialScan : Bool) :
    Except String WatchStart :=
  if roots.isEmpty then .error "no roots provided"
  else roots.foldlM (fun acc root =>
    match tree.stat (Path.absolute cwd root) with
    | .error e => .error { e with op := "lstat", paths := [root] }.message
    | .ok node =>
      let isDir := match node with
        | .dir => true
        | .file _ => false
      .ok (watchWalk tree cwd skipHidden initialScan (tree.nodes.length + 1) root isDir acc)) default

/-- Does a watch see a file appear at a path: is its directory watched and the file wanted? -/
def WatchStart.sees (w : WatchStart) (path : String) (skipHidden : Bool) : Bool :=
  w.watched.contains (Path.parent path) && wanted path skipHidden

/-- A running watch: where relative paths start, whether hidden entries are skipped, and the
directories watched, by the paths they are reported under. -/
structure Watcher where
  cwd : String
  skipHidden : Bool
  watched : List String

namespace Watcher

/-- The watcher of a started watch. -/
def ofStart (cwd : String) (skipHidden : Bool) (w : WatchStart) : Watcher := ⟨cwd, skipHidden, w.watched⟩

/-- The path an entry is reported under, when its directory is watched. -/
def shown (w : Watcher) (path : String) : Option String :=
  (w.watched.find? fun d => Path.absolute w.cwd d == Path.parent path).map fun d =>
    Path.joinClean d (Path.base path)

/-- The watcher no longer watching a directory, nor anything below it. -/
def forget (w : Watcher) (path : String) : Watcher :=
  { w with watched := w.watched.filter fun d =>
      let full := Path.absolute w.cwd d
      full != path && !full.startsWith (path ++ "/") }

/-- Hears an event (see the module comment): the watcher after it and the path it reports,
if any. -/
def hear (w : Watcher) : Event → Watcher × Option String
  | .created path isDir =>
    match w.shown path with
    | none => (w, none)
    | some p =>
      if isDir && !(w.skipHidden && isHidden p) then ({ w with watched := w.watched ++ [p] }, none)
      else if wanted p w.skipHidden then (w, some p)
      else (w, none)
  | .movedAway path =>
    let reported := (w.shown path).filter (wanted · w.skipHidden)
    (w.forget path, reported)
  | .removed path => (w.forget path, none)

/-- Hears events in order: the watcher after them and the paths reported, in order. -/
def hearAll (w : Watcher) (events : List Event) : Watcher × List String :=
  events.foldl (fun (acc : Watcher × List String) e =>
    let (w', p) := acc.1.hear e
    (w', acc.2 ++ p.toList)) (w, [])

end Watcher

end CreditExtraction.Ingest
