import CreditExtraction.Pipeline.Pool
import CreditExtraction.Ingest.Directory
import CreditExtraction.Visualize.FieldMap
import CreditExtraction.Sql.Statement

/-!
# A scripted world

A world in which the pipeline runs by script, for replaying scenarios: the metadata store, the
artifact store, a file tree of uploads, and an OCR service and a chat model that answer from
scripts, one entry per call. An entry may also act on the world before it answers, as another
process would: ask a job to stop, end it (`External`, `failed elsewhere`, document `READY`), or
run SQL statements on the database.

Rows are named for people: documents `docN`, jobs `jobN`, tasks `taskN`, numbered in the order
they are first shown. A name that no row has stands for an identifier derived from the name,
which no row has either. In SQL text, `{name}` stands for the identifier of a name.
-/

namespace CreditExtraction.Simulation

open Store Pipeline

/-- The kinds of named rows. -/
inductive NameKind where
  | doc
  | job
  | task
deriving DecidableEq, Inhabited

/-- The stem of the names of a kind. -/
def NameKind.stem : NameKind → String
  | .doc => "doc"
  | .job => "job"
  | .task => "task"

/-- The names given so far, in order, with their kinds. -/
structure Names where
  entries : List (String × Uuid × NameKind)
deriving Inhabited

namespace Names

/-- The identifier a name stands for. -/
def resolve (n : Names) (name : String) : Uuid :=
  match n.entries.find? (·.1 == name) with
  | some (_, id, _) => id
  | none => Uuid.ofName name

/-- The name of an identifier, if it has one. -/
def nameOf? (n : Names) (id : Uuid) : Option String :=
  (n.entries.find? (·.2.1 == id)).map (·.1)

/-- Names an identifier first shown as a row of a kind; the nil identifier and a named one are
left alone. -/
def see (n : Names) (kind : NameKind) (id : Uuid) : Names :=
  if id == Uuid.nil || (n.nameOf? id).isSome then n
  else
    let count := (n.entries.filter (·.2.2 == kind)).length
    ⟨n.entries ++ [(kind.stem ++ toString (count + 1), id, kind)]⟩

/-- The names of a kind, in order. -/
def ofKind (n : Names) (kind : NameKind) : List (String × Uuid) :=
  (n.entries.filter (·.2.2 == kind)).map fun (name, id, _) => (name, id)

/-- The identifiers' texts with their names. -/
def pairs (n : Names) : List (String × String) := n.entries.map fun (name, id, _) => (id.toText, name)

end Names

/-- What a scripted call does to the world before it answers. -/
structure Interference where
  /-- A job asked to stop. -/
  cancel : Option String
  /-- A job ended elsewhere. -/
  fail : Option String
  /-- SQL statements run on the database. -/
  sql : List String
deriving Inhabited

/-- One entry of a script: the answer and what the call does first. -/
structure ScriptEntry (α : Type) where
  answer : Except Failure α
  interference : Interference

/-- The answer to one SQL statement. -/
inductive SqlAnswer where
  /-- A write, with the rows it changed. -/
  | rows (n : Nat)
  /-- Any other statement. -/
  | done
  /-- The database refused the statement. -/
  | refused (msg : String)

/-- An answer as JSON. -/
def SqlAnswer.toJson : SqlAnswer → Json
  | .rows n => .obj [("rows", Json.ofInt n)]
  | .done => .str "ok"
  | .refused msg => .obj [("error", .str msg)]

/-- The world. -/
structure World where
  store : MetaStore
  artifacts : Artifact.Store
  uploads : Files.Tree
  ocrScript : List (ScriptEntry (List Ocr.RawLine))
  chatScript : List (ScriptEntry String)
  ocrCalls : Nat
  chatCalls : Nat
  /-- The answers of statements that scripted calls ran during the current step. -/
  sideSql : List SqlAnswer
  /-- How often the workers were told of a queued job. -/
  notified : Nat
  names : Names

/-- Changes to the world. -/
abbrev SimM := StateM World

/-- Replaces `{name}` in SQL text by the identifier the name stands for. -/
def substituteNames (n : Names) (text : String) : String :=
  go text.length text.toList []
where
  /-- The characters left, with `fuel` bounding the work, and the output so far, reversed. -/
  go : Nat → List Char → List Char → String
    | 0, rest, acc => String.ofList (acc.reverse ++ rest)
    | _, [], acc => String.ofList acc.reverse
    | fuel + 1, '{' :: rest, acc =>
      let inner := rest.takeWhile (· != '}')
      let after := rest.dropWhile (· != '}')
      match after with
      | '}' :: tail =>
        if !inner.isEmpty && inner.all Char.isAlphanum then
          go fuel tail ((n.resolve (String.ofList inner)).toText.toList.reverse ++ acc)
        else go fuel rest ('{' :: acc)
      | _ => go fuel rest ('{' :: acc)
    | fuel + 1, c :: rest, acc => go fuel rest (c :: acc)

namespace World

/-- Runs an operation of the metadata store. -/
def onStore {α : Type} (op : StoreM α) : SimM (Except Failure α) := do
  let w ← get
  let (r, s) := (op.run).run w.store
  set { w with store := s }
  pure r

/-- Runs an operation of the artifact store. -/
def onArtifacts {α : Type} (op : Artifact.StoreOp α) : SimM (Except Failure α) := do
  let w ← get
  let (r, s) := (op.run).run w.artifacts
  set { w with artifacts := s }
  pure r

/-- Runs SQL statements on the database, names substituted; one answer each. -/
def runSql (statements : List String) : SimM (List SqlAnswer) :=
  statements.mapM fun text => do
    let w ← get
    let (db, result) := w.store.db.executeAll (substituteNames w.names text)
    set { w with store := { w.store with db } }
    pure (match result with
      | .ok (.rows n) => .rows n
      | .ok .done => .done
      | .error e => .refused e.message)

/-- Does what a scripted call does before it answers. -/
def interfere (i : Interference) : SimM Unit := do
  if let some job := i.cancel then
    let id := (← get).names.resolve job
    let _ ← onStore (Jobs.requestCancel id)
  if let some job := i.fail then
    let id := (← get).names.resolve job
    let _ ← onStore (Jobs.fail id "External" "failed elsewhere" .ready)
  if !i.sql.isEmpty then
    let answers ← runSql i.sql
    modify fun w => { w with sideSql := w.sideSql ++ answers }

/-- The OCR service: the next entry of its script. -/
def ocr (_ : ByteArray) (_ : String) : SimM (Except Failure (List Ocr.RawLine)) := do
  modify fun w => { w with ocrCalls := w.ocrCalls + 1 }
  match (← get).ocrScript with
  | [] => pure (.error (.plain "ocr script exhausted"))
  | e :: rest =>
    modify fun w => { w with ocrScript := rest }
    interfere e.interference
    pure e.answer

/-- The name of the scripted chat model. -/
def chatModel : String := "fake-model"

/-- The chat model: the next entry of its script. -/
def chat (_ : Llm.ChatRequest) : SimM (Except Failure String) := do
  modify fun w => { w with chatCalls := w.chatCalls + 1 }
  match (← get).chatScript with
  | [] => pure (.error (.plain "llm script exhausted"))
  | e :: rest =>
    modify fun w => { w with chatScript := rest }
    interfere e.interference
    pure e.answer

/-- The clock. -/
def clock : SimM Time.Instant := do return (← get).store.now

/-- The collaborators the world supplies; the field map is drawn when `visualize` is set. -/
def services (visualize : Bool) : Services SimM where
  metadata := onStore
  artifacts := onArtifacts
  ocr := ocr
  chat := ⟨chatModel, chat⟩
  now := clock
  notify := modify fun w => { w with notified := w.notified + 1 }
  log := fun _ => pure ()
  freshId := pure Uuid.nil
  pause _ := pure (.ok ())
  renderer := if visualize then some fun _ lines fields => Visualize.render 1000 true lines fields else none

/-- An ingestor over the world's stores. -/
def ingestor (registry : Registry) (maxBytes : Int) : Ingest.Ingestor SimM where
  metadata := onStore
  artifacts := onArtifacts
  registry := some registry
  maxBytes := maxBytes
  log := fun _ => pure ()

end World

end CreditExtraction.Simulation
