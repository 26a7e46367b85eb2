import CreditExtraction.Artifact.Store
import CreditExtraction.Text.Quoted

/-!
# Choosing an artifact backend

The storage settings name the backend: `fs` (also when empty) keeps artifacts as files under a
root directory, `s3` in a cloud bucket; any other name, compared exactly, is refused as invalid
input. Opening the file backend creates the root and its missing ancestors, and a root that
cannot be created makes the store unavailable. Either backend is then put behind a cache of
the configured size, which is no cache at all for a size that is not positive.
-/

namespace CreditExtraction.Artifact

open Files

/-- The artifact backends. -/
inductive Backend where
  | files
  | bucket
deriving DecidableEq, Inhabited

/-- The backend a setting names (see the module comment). -/
def backendOf (name : String) : Except Failure Backend :=
  match name with
  | "" | "fs" => .ok .files
  | "s3" => .ok .bucket
  | b => .error (Failure.tagged .invalidInput ("unknown artifact backend " ++ Text.Quoted.quote b))

/-- Opens the file backend at a root of a file tree, creating the root when it is missing. -/
def FileStore.openAt (tree : Tree) (root : String) : Except Failure FileStore :=
  match tree.mkdirAll root with
  | .ok t => .ok ⟨root, t, []⟩
  | .error e => .error (FileStore.unavailable ("create artifact root: " ++ e.message))

/-- Opens the file backend behind a cache of a size, without planned faults. -/
def Store.openFiles (tree : Tree) (root : String) (cacheSize : Int) : Except Failure Store := do
  let files ← FileStore.openAt tree root
  pure ⟨files, [], Cache.make cacheSize []⟩

end CreditExtraction.Artifact
