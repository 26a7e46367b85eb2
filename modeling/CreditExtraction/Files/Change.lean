import CreditExtraction.Files.Tree

/-!
# Changes made to a file tree from outside

While a program watches a tree, the tree is changed around it, one change at a time. A change
is what a person or another program does; an event is what a watcher of the directories
hears of it:

| change                       | events                                                     |
|------------------------------|------------------------------------------------------------|
| a file renamed into place    | each directory made for it, then the file appearing        |
| a directory made             | each directory made, outermost first                       |
| a directory moved in whole   | each directory made for it, then the directory appearing   |
| an entry removed             | the entry removed, with all below it                       |
| a file moved out of the tree | the file moving away                                       |

A file renamed into place appears whole: there is no event for its writing. The files of a
directory moved in whole come with it, and no event reports them. Removing an entry that is
not there changes nothing.
-/

namespace CreditExtraction.Files

/-- One change made to a tree from outside; paths are absolute. -/
inductive Change where
  /-- A file is renamed into place whole; its directory is made first when missing. -/
  | drop (path : String) (data : ByteArray)
  /-- A directory is made, with its missing ancestors. -/
  | mkdir (path : String)
  /-- A directory built elsewhere with its files (by their paths inside it) is renamed into
  place. -/
  | moveDir (path : String) (files : List (String × ByteArray))
  /-- A file or a whole directory is removed. -/
  | remove (path : String)
  /-- A file is renamed out of the tree. -/
  | moveOut (path : String)

/-- What a watcher hears of a change; paths are absolute. -/
inductive Event where
  /-- An entry appeared, made or moved in; whether it is a directory. -/
  | created (path : String) (isDir : Bool)
  /-- An entry was moved away. -/
  | movedAway (path : String)
  /-- An entry was removed, with all below it. -/
  | removed (path : String)

namespace Tree

/-- Makes a directory and its missing ancestors: the tree and a creation event for every
directory made, outermost first. -/
def mkdirAllHeard (t : Tree) (p : String) : Except FsError (Tree × List Event) := do
  let made := (Path.ancestors p ++ [Path.ofParts (Path.parts p)]).filter fun a =>
    a != "/" && (t.node? a).isNone
  let t' ← t.mkdirAll p
  pure (t', made.map (Event.created · true))

/-- Applies a change (see the module comment): the tree after it and the events it makes. -/
def apply (t : Tree) : Change → Except FsError (Tree × List Event)
  | .drop p data => do
    let (t, made) ← t.mkdirAllHeard (Path.parent p)
    let t ← t.writeFile p data
    pure (t, made ++ [.created (Path.ofParts (Path.parts p)) false])
  | .mkdir p => t.mkdirAllHeard p
  | .moveDir p files => do
    if (t.node? p).isSome then throw ⟨"rename", [p], .exists⟩
    let (t, made) ← t.mkdirAllHeard (Path.parent p)
    let t := t.put p .dir
    let t ← files.foldlM (fun (t : Tree) (name, data) => do
      let inside := Path.join p name
      let t ← t.mkdirAll (Path.parent inside)
      t.writeFile inside data) t
    pure (t, made ++ [.created (Path.ofParts (Path.parts p)) true])
  | .remove p =>
    if (t.node? p).isNone then .ok (t, [])
    else .ok (t.remove p, [.removed (Path.ofParts (Path.parts p))])
  | .moveOut p => do
    let _ ← t.lookup "rename" p
    pure (t.remove p, [.movedAway (Path.ofParts (Path.parts p))])

end Tree

end CreditExtraction.Files
