/-!
# An in-memory file tree

Files and directories by absolute path (`/artifacts/raw/x.pdf`); the root `/` is always a
directory. The operations behave as a POSIX file system does, with its error numbers:

* looking a path up walks its ancestors, and an ancestor that is a file answers
  `not a directory`, a missing one `no such file or directory`;
* `readFile` opens the path and reads it, so a directory opens but does not read
  (`read …: is a directory`);
* `mkdirAll` makes a directory and its missing ancestors, and refuses where a file stands;
* `rename` replaces a file but never a directory (`file exists`);
* a device may fail a write (`input/output error`).

Every failure names the operation and the path: `open /x/y: not a directory`.
-/

namespace CreditExtraction.Files

/-- A node of the tree. -/
inductive Node where
  | dir
  | file (data : ByteArray)
deriving Inhabited

/-- Why an operation on the tree failed. -/
inductive Errno where
  | notFound
  | notDir
  | isDir
  | exists
  | io
deriving Repr, DecidableEq, Inhabited

/-- The text of an error number. -/
def Errno.text : Errno → String
  | .notFound => "no such file or directory"
  | .notDir => "not a directory"
  | .isDir => "is a directory"
  | .exists => "file exists"
  | .io => "input/output error"

/-- A failed operation: its name, the paths it was given and the error number. -/
structure FsError where
  op : String
  paths : List String
  errno : Errno
deriving Inhabited

/-- The message of a failed operation. -/
def FsError.message (e : FsError) : String :=
  e.op ++ " " ++ " ".intercalate e.paths ++ ": " ++ e.errno.text

/-- The tree: the nodes by absolute path, in the order they were made. -/
structure Tree where
  nodes : List (String × Node)
deriving Inhabited

namespace Path

/-- The parts of a path between slashes, empty ones dropped. -/
def parts (p : String) : List String :=
  ((p.toList.splitOn '/').filter (!·.isEmpty)).map String.ofList

/-- The path of parts. -/
def ofParts (ps : List String) : String := "/" ++ "/".intercalate ps

/-- The directory that holds a path (the root holds itself). -/
def parent (p : String) : String := ofParts (parts p).dropLast

/-- The last part of a path. -/
def base (p : String) : String := ((parts p).getLast?).getD "/"

/-- A path below a directory. -/
def join (dir name : String) : String := ofParts (parts dir ++ parts name)

/-- The proper ancestors of a path, outermost first (the root left out). -/
def ancestors (p : String) : List String :=
  let ps := parts p
  (List.range ps.length).filterMap fun i => if i == 0 then none else some (ofParts (ps.take i))

/-- The shortest equivalent of a path, by lexical processing alone: repeated slashes
collapse, `.` parts go, a `..` part takes away the part before it (and is dropped at the
root), and an empty result is `.`. -/
def clean (p : String) : String :=
  let rooted := p.startsWith "/"
  let kept := ((p.splitOn "/").filter fun s => s != "" && s != ".").foldl (fun (acc : List String) s =>
    if s == ".." then
      match acc with
      | x :: rest => if x == ".." then s :: acc else rest
      | [] => if rooted then [] else [s]
    else s :: acc) []
  let body := "/".intercalate kept.reverse
  if rooted then "/" ++ body else if body.isEmpty then "." else body

/-- A name below a directory, the result cleaned; an empty directory adds nothing. -/
def joinClean (dir name : String) : String :=
  if dir.isEmpty then clean name else clean (dir ++ "/" ++ name)

/-- All of a path but its last element, cleaned: `.` for a bare name and `/` for a name at the
top. -/
def dir (p : String) : String :=
  match p.toList.reverse.dropWhile (· != '/') with
  | [] => "."
  | front => clean (String.ofList front.reverse)

/-- A path made absolute from a working directory, and cleaned. -/
def absolute (cwd p : String) : String :=
  if p.startsWith "/" then clean p else clean (cwd ++ "/" ++ p)

end Path

namespace Tree

/-- The empty tree: only the root. -/
def empty : Tree := ⟨[]⟩

/-- The node at a path, without looking at its ancestors. -/
def node? (t : Tree) (p : String) : Option Node :=
  if Path.parts p == [] then some .dir
  else (t.nodes.find? (·.1 == Path.ofParts (Path.parts p))).map (·.2)

/-- Looks a path up, walking its ancestors; `op` names the operation in a failure. -/
def lookup (t : Tree) (op p : String) : Except FsError Node := do
  for a in Path.ancestors p do
    match t.node? a with
    | some .dir => pure ()
    | some (.file _) => throw ⟨op, [p], .notDir⟩
    | none => throw ⟨op, [p], .notFound⟩
  match t.node? p with
  | some n => pure n
  | none => throw ⟨op, [p], .notFound⟩

/-- Is there a directory at a path? -/
def isDir (t : Tree) (p : String) : Bool :=
  match t.lookup "stat" p with
  | .ok .dir => true
  | _ => false

/-- The tree with a node set at a path. -/
def put (t : Tree) (p : String) (n : Node) : Tree :=
  let key := Path.ofParts (Path.parts p)
  if t.nodes.any (·.1 == key) then ⟨t.nodes.map fun e => if e.1 == key then (key, n) else e⟩
  else ⟨t.nodes ++ [(key, n)]⟩

/-- The tree without a path and what lies below it. -/
def remove (t : Tree) (p : String) : Tree :=
  let key := Path.ofParts (Path.parts p)
  ⟨t.nodes.filter fun e => e.1 != key && !(e.1.startsWith (key ++ "/"))⟩

/-- The node at a path, as a stat sees it. -/
def stat (t : Tree) (p : String) : Except FsError Node := t.lookup "stat" p

/-- The content of the file at a path. -/
def readFile (t : Tree) (p : String) : Except FsError ByteArray := do
  match ← t.lookup "open" p with
  | .file d => pure d
  | .dir => throw ⟨"read", [p], .isDir⟩

/-- Makes a directory and its missing ancestors. -/
def mkdirAll (t : Tree) (p : String) : Except FsError Tree :=
  go (Path.parts p).length t p
where
  /-- The remaining depth bounds the recursion. -/
  go : Nat → Tree → String → Except FsError Tree
    | 0, t, _ => .ok t
    | fuel + 1, t, p =>
      match t.stat p with
      | .ok .dir => .ok t
      | .ok (.file _) => .error ⟨"mkdir", [p], .notDir⟩
      | .error _ => do
        let t ← if (Path.parts p).length > 1 then go fuel t (Path.parent p) else pure t
        match t.lookup "mkdir" (Path.parent p) with
        | .ok .dir => pure (t.put p .dir)
        | .ok (.file _) => throw ⟨"mkdir", [p], .notDir⟩
        | .error e => throw { e with paths := [p] }

/-- Writes a file whose directory exists, replacing a file there. -/
def writeFile (t : Tree) (p : String) (data : ByteArray) : Except FsError Tree := do
  match t.lookup "open" (Path.parent p) with
  | .ok .dir => pure ()
  | .ok (.file _) => throw ⟨"open", [p], .notDir⟩
  | .error e => throw { e with paths := [p] }
  match t.node? p with
  | some .dir => throw ⟨"open", [p], .isDir⟩
  | _ => pure (t.put p (.file data))

/-- Moves a file over another path; a directory there is not replaced. -/
def rename (t : Tree) (src dst : String) : Except FsError Tree := do
  match t.node? dst with
  | some .dir => throw ⟨"rename", [src, dst], .exists⟩
  | _ => pure ()
  let data ← match t.lookup "rename" src with
    | .ok (.file d) => pure d
    | .ok .dir => throw ⟨"rename", [src, dst], .isDir⟩
    | .error e => throw { e with op := "rename", paths := [src, dst] }
  match t.lookup "rename" (Path.parent dst) with
  | .ok .dir => pure ((t.remove src).put dst (.file data))
  | .ok (.file _) => throw ⟨"rename", [src, dst], .notDir⟩
  | .error e => throw { e with op := "rename", paths := [src, dst] }

/-- The name `.<base>.tmp-<n>` beside a path. -/
def tempName (p : String) (n : Nat) : String :=
  Path.join (Path.parent p) ("." ++ Path.base p ++ ".tmp-" ++ Nat.repr n)

/-- The temporary file of a write to a path: the first name `.<base>.tmp-<n>` beside it that
nothing holds. It stands for the random name the system draws until one is free; as there are
more candidates than nodes, one is. -/
def tempFor (t : Tree) (p : String) : String :=
  let free := (List.range (t.nodes.length + 1)).find? fun n => (t.node? (tempName p n)).isNone
  tempName p (free.getD 0)

/-- Writes a file through a new temporary file beside it that is then moved over it, so that a
reader sees the old or the new content. When the device is `broken`, writing the temporary
file fails with an input/output error. The temporary file goes when a step fails. -/
def writeAtomic (t : Tree) (p : String) (data : ByteArray) (broken : Bool) :
    Except FsError Tree := do
  let tmp := t.tempFor p
  let t' ← t.writeFile tmp data
  if broken then throw ⟨"write", [tmp], .io⟩
  match t'.rename tmp p with
  | .ok t'' => pure t''
  | .error e => throw e

/-- The names directly below a directory, in byte order. -/
def children (t : Tree) (dir : String) : List String :=
  let key := Path.parts dir
  let names := t.nodes.filterMap fun (p, _) =>
    let ps := Path.parts p
    if ps.length == key.length + 1 && ps.take key.length == key then ps.getLast? else none
  names.mergeSort fun a b => decide (a ≤ b)

end Tree

end CreditExtraction.Files
