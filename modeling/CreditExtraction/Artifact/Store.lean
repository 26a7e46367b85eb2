import CreditExtraction.Artifact.Cache
import CreditExtraction.Files.Tree

/-!
# Artifact stores

Artifacts are kept in three layers, each optional but the first:

* the **file store** keeps each artifact as a file `<root>/<stage dir>/<document>.<kind>`,
  written atomically, with its SHA-256 digest in a file beside it (`….sha256`); a missing file
  is `notFound`, any other file-system failure makes the store unavailable;
* a **fault plan** makes chosen calls fail, or lets them through with a different digest, a
  given number of times, so that callers can be exercised against a failing store;
* a **cache** (`Artifact.Cache`) keeps the content of some stages in memory, in front of the
  file store behind its fault plan (`Backing`).

Every operation validates the key first (`Key.validate`), in the file store.
-/

namespace CreditExtraction.Artifact

open Files

/-- The artifact files under a root directory, and the paths whose writes the device fails. -/
structure FileStore where
  root : String
  tree : Tree
  failing : List String
deriving Inhabited

/-- A call the fault plan can intercept. -/
inductive Call where
  | put
  | get
  | stat
deriving Repr, DecidableEq, Inhabited

/-- The name of a call. -/
def Call.name : Call → String
  | .put => "put"
  | .get => "get"
  | .stat => "stat"

/-- One planned fault. -/
structure Fault where
  call : Call
  /-- Only keys of this stage, when given. -/
  stage : Option String
  /-- Only keys of this kind, when given. -/
  kind : Option String
  /-- How many more calls it intercepts. -/
  count : Nat
  /-- The failure to report; the default names the call. -/
  error : Option Failure
  /-- When given, the call goes through and its artifact reports this digest. -/
  sha : Option String
deriving Inhabited

/-- The store behind the cache: the file store and the fault plan in front of it. -/
structure Backing where
  files : FileStore
  faults : List Fault
deriving Inhabited

/-- Operations on the store behind the cache. -/
abbrev BackingOp := ExceptT Failure (StateM Backing)

/-- The layers of an artifact store. -/
structure Store where
  files : FileStore
  faults : List Fault
  cache : Option Cache
deriving Inhabited

/-- Operations on an artifact store. -/
abbrev StoreOp := ExceptT Failure (StateM Store)

namespace FileStore

/-- The path of a key's file. -/
def path (s : FileStore) (k : Key) : String := Path.join s.root k.objectName

/-- The locator of a path. -/
def locator (p : String) : String := "file://" ++ p

/-- A file-system failure as an unavailable store. -/
def unavailable (detail : String) : Failure := Failure.tagged .storeUnavailable detail

/-- The failure of reading a key's file. -/
def readFailure (k : Key) (e : FsError) : Failure :=
  if e.errno == .notFound then Failure.tagged .notFound ("artifact " ++ k.text)
  else unavailable ("read " ++ k.text ++ ": " ++ e.message)

/-- Stores content under a key. -/
def put (s : FileStore) (k : Key) (data : ByteArray) : Except Failure (FileStore × Stored) := do
  k.validate
  let p := s.path k
  let tree ← match s.tree.mkdirAll (Path.parent p) with
    | .ok t => pure t
    | .error e => throw (unavailable e.message)
  let sum := hash data
  let tree ← match tree.writeAtomic p data (s.failing.contains p) with
    | .ok t => pure t
    | .error e => throw (unavailable ("write " ++ k.text ++ ": " ++ e.message))
  let digest := p ++ ".sha256"
  let tree := match tree.writeAtomic digest sum.toUTF8 (s.failing.contains digest) with
    | .ok t => t
    | .error _ => tree
  pure ({ s with tree }, ⟨k, locator p, sum, data.size⟩)

/-- The content under a key. -/
def get (s : FileStore) (k : Key) : Except Failure ByteArray := do
  k.validate
  match s.tree.readFile (s.path k) with
  | .ok d => pure d
  | .error e => throw (readFailure k e)

/-- What is stored under a key, with the digest recorded beside it if it can be read. -/
def stat (s : FileStore) (k : Key) : Except Failure Stored := do
  k.validate
  let p := s.path k
  let size ← match s.tree.stat p with
    | .ok (.file d) => pure d.size
    | .ok .dir => pure 4096
    | .error e => throw (readFailure k e)
  let sha := match s.tree.readFile (p ++ ".sha256") with
    | .ok d => (String.fromUTF8? d).getD "" |>.trimAscii.toString
    | .error _ => ""
  pure ⟨k, locator p, sha, size⟩

end FileStore

/-- Does a fault intercept a call on a key? -/
def Fault.matches (f : Fault) (c : Call) (k : Key) : Bool :=
  f.call == c && f.count > 0 &&
    (f.stage.map (· == k.stage.name)).getD true && (f.kind.map (· == k.kind)).getD true

/-- The failure a fault reports. -/
def Fault.failure (f : Fault) : Failure :=
  f.error.getD (Failure.tagged .storeUnavailable ("injected " ++ f.call.name ++ " fault"))

namespace Backing

/-- Takes the first fault that intercepts a call, counting it down. -/
def takeFault (c : Call) (k : Key) : BackingOp (Option Fault) := do
  let s ← get
  match s.faults.find? (·.matches c k) with
  | none => pure none
  | some f =>
    let i := s.faults.findIdx (·.matches c k)
    set { s with faults := s.faults.set i { f with count := f.count - 1 } }
    pure (some f)

/-- Runs a file-store step. -/
def onFiles {α : Type} (f : FileStore → Except Failure α) : BackingOp α := do
  match f (← get).files with
  | .ok a => pure a
  | .error e => throw e

/-- A put through the fault plan to the file store. -/
def put (k : Key) (data : ByteArray) : BackingOp Stored := do
  let fault ← takeFault .put k
  if let some f := fault then
    if f.sha.isNone then throw f.failure
  let (files, a) ← onFiles (·.put k data)
  modify fun s => { s with files }
  pure (match fault.bind (·.sha) with
    | some sha => { a with sha256 := sha }
    | none => a)

/-- A get through the fault plan from the file store. -/
def get (k : Key) : BackingOp ByteArray := do
  if let some f := ← takeFault .get k then
    if f.sha.isNone then throw f.failure
  onFiles (·.get k)

/-- A stat through the fault plan at the file store. -/
def stat (k : Key) : BackingOp Stored := do
  let fault ← takeFault .stat k
  if let some f := fault then
    if f.sha.isNone then throw f.failure
  let a ← onFiles (·.stat k)
  pure (match fault.bind (·.sha) with
    | some sha => { a with sha256 := sha }
    | none => a)

/-- The store behind the cache, as the origin the cache reads through to. -/
def origin : Origin Backing where
  put k data b := (put k data).run.run b
  get k b := (get k).run.run b
  stat k b := (stat k).run.run b

end Backing

namespace Store

/-- The store as a cached store: the file store behind its fault plan, with the cache in
front. -/
def layers (s : Store) : Cached Backing := ⟨⟨s.files, s.faults⟩, s.cache⟩

/-- The store of a cached store over the file store. -/
def ofLayers (c : Cached Backing) : Store := ⟨c.below.files, c.below.faults, c.cache⟩

/-- An operation given by its effect on the layers. -/
def onLayers {α : Type} (f : Cached Backing → Except Failure α × Cached Backing) : StoreOp α :=
  ExceptT.mk (modifyGet fun s => let (r, c) := f s.layers; (r, ofLayers c))

/-- Stores content under a key, through all the layers. -/
def put (k : Key) (data : ByteArray) : StoreOp Stored :=
  onLayers (Backing.origin.cachedPut k data)

/-- The content under a key, through all the layers. -/
def getContent (k : Key) : StoreOp ByteArray :=
  onLayers (Backing.origin.cachedGet k)

/-- What is stored under a key, through the fault plan. -/
def stat (k : Key) : StoreOp Stored :=
  onLayers (Backing.origin.cachedStat k)

/-- How many entries the cache holds, when there is a cache. -/
def cacheLen (s : Store) : Option Nat := s.cache.map (·.order.length)

end Store

end CreditExtraction.Artifact
