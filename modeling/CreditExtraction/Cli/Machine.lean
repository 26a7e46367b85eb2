import CreditExtraction.Service.Open
import CreditExtraction.Pipeline.Pool
import CreditExtraction.Ingest.Directory
import CreditExtraction.Visualize.FieldMap
import CreditExtraction.Log.Handler
import CreditExtraction.Files.Change

/-!
# The machine a command runs on

A command runs on a machine: its file system and working directory, its environment, the
databases kept in its files, a clock, a supply of fresh identifiers, what the command has
printed and logged, and, while the command has it open, the service. Around the machine are
the programs it can start and the network peers it can reach; they keep a state of their own
(`σ`) and are given as a record of operations, so that a command runs the same against any
surroundings.

Every operation of the metadata store first moves the clock on by a millisecond, so that the
store's writes are ordered by their times; what the store logs is written to the machine's log.

The OCR engine that runs tools works in a scratch directory (`/work`) that starts empty for
every document.
-/

namespace CreditExtraction.Cli

/-- What a watching command made of a batch of changes: why a change of it could not be made,
if one could not, and the paths the watch reported for it. -/
structure ChangeReport where
  failure : Option String
  reported : List String

/-- The programs and network peers around a machine, with their own state `σ`, and the
changes they make to the machine's files while a command watches them. -/
structure Peers (σ : Type) where
  /-- Starts a program with its arguments in the scratch directory, which holds the given
  names; the run and the names it adds there. -/
  program : String → List String → List String → StateM σ (Ocr.CommandRun × List String)
  /-- Sends a request over the network. -/
  transport : Net.Transport (StateM σ)
  /-- The next batch of changes made while a command watches, if there is one left. -/
  nextChanges : StateM σ (Option (List Files.Change))
  /-- Hears what the command made of the last batch of changes. -/
  changed : ChangeReport → StateM σ Unit

/-- A machine with surroundings whose state is `σ`. -/
structure Machine (σ : Type) where
  files : Files.Tree
  cwd : String
  /-- The environment, later settings of a variable first. -/
  env : List (String × String)
  /-- Databases kept in files, by absolute path. -/
  databases : List (String × Sql.Database)
  /-- What a database server connection string starts from. -/
  serverDefaults : List (String × String)
  clock : Time.Instant
  /-- The seed of the next fresh identifier. -/
  seed : Nat
  stdout : String
  /-- The log, one line a record. -/
  log : List String
  logger : Log.Handler
  /-- The names in the scratch directory. -/
  scratch : List String
  /-- The open service, while a command has it. -/
  service : Option Service.Opened
  outside : σ

/-- Steps on a machine. -/
abbrev MachineM (σ : Type) := StateM (Machine σ)

/-- The scratch directory of the OCR engine. -/
def scratchDir : String := "/work"

namespace Machine

variable {σ : Type}

/-- The value of an environment variable, if it is set. -/
def lookupEnv (m : Machine σ) (k : String) : Option String := (m.env.find? (·.1 == k)).map (·.2)

/-- The environment as the settings read it: unset variables are empty. -/
def environment (m : Machine σ) : Environment := fun k => (m.lookupEnv k).getD ""

/-- A path made absolute from the working directory. -/
def resolve (m : Machine σ) (p : String) : String := Files.Path.absolute m.cwd p

/-- What the service finds around it when it opens. -/
def surroundings (m : Machine σ) : Service.Surroundings :=
  { tree := m.files, databases := m.databases, cwd := m.cwd, serverDefaults := m.serverDefaults,
    env := m.environment, now := m.clock }

end Machine

variable {σ : Type}

/-- Prints text on standard output. -/
def print (s : String) : MachineM σ Unit := modify fun m => { m with stdout := m.stdout ++ s }

/-- Writes a record to the log, if its level is kept. -/
def logRecord (level : Log.Level) (msg : String) (attrs : List (String × Log.Value)) : MachineM σ Unit :=
  modify fun m =>
    let line := m.logger.write m.clock.rfc3339 ⟨level, msg, attrs⟩
    if line.isEmpty then m else { m with log := m.log ++ [line] }

/-- Writes a record to the log, if its level is kept. -/
def logOne (r : Log.Record) : MachineM σ Unit := logRecord r.level r.msg r.attrs

/-- A fresh identifier. -/
def freshId : MachineM σ Uuid :=
  modifyGet fun m => (Uuid.ofSeed m.seed, { m with seed := m.seed + 1 })

/-- Moves the clock on by a millisecond. -/
def tick : MachineM σ Unit := modify fun m => { m with clock := m.clock.add 1000000 }

/-- Runs a step of the surroundings. -/
def outsideStep {α : Type} (act : StateM σ α) : MachineM σ α := do
  let m ← get
  let (a, o) := act.run m.outside
  set { m with outside := o }
  pure a

/-- The network, as seen from the machine. -/
def network (peers : Peers σ) : Net.Transport (MachineM σ) := fun req => outsideStep (peers.transport req)

/-- The failure of an operation that needs the service when none is open. -/
def notOpen : Failure := .plain "service not open"

/-- Runs an operation of the open service's metadata store. -/
def onStore {α : Type} (op : Store.StoreM α) : MachineM σ (Except Failure α) := do
  tick
  let m ← get
  match m.service with
  | none => pure (.error notOpen)
  | some svc =>
    let (r, st) := (op.run).run { svc.store with now := m.clock, nextSeed := m.seed, logged := [] }
    set { m with service := some { svc with store := { st with logged := [] } }, seed := st.nextSeed }
    st.logged.forM logOne
    pure r

/-- Runs an operation of the open service's artifact store, over the machine's files. -/
def onArtifacts {α : Type} (op : Artifact.StoreOp α) : MachineM σ (Except Failure α) := do
  let m ← get
  match m.service with
  | none => pure (.error notOpen)
  | some svc =>
    match svc.artifacts with
    | .files st =>
      let st := { st with files := { st.files with tree := m.files } }
      let (r, st') := (op.run).run st
      set { m with files := st'.files.tree, service := some { svc with artifacts := .files st' } }
      pure r
    | .bucket _ _ => pure (.error (Failure.tagged .storeUnavailable "artifact bucket is out of reach"))

/-- The engine's workshop in the scratch directory. -/
def workshop (peers : Peers σ) : Ocr.Workshop (MachineM σ) where
  dir := scratchDir
  write := fun path _ => modify fun m => { m with scratch := m.scratch ++ [Files.Path.base path] }
  run := fun name args => do
    let (r, added) ← outsideStep (peers.program name args (← get).scratch)
    modify fun m => { m with scratch := m.scratch ++ added.filter (!m.scratch.contains ·) }
    pure r
  entries := do return (← get).scratch
  log := logOne

/-- Reads the lines of a document with the open service's OCR backend. -/
def readDocument (peers : Peers σ) (data : ByteArray) (mime : String) :
    MachineM σ (Except Failure (List Ocr.RawLine)) := do
  match (← get).service.bind (·.ocr) with
  | none => pure (.error (.plain "ocr backend not configured"))
  | some (.tools s) =>
    modify fun m => { m with scratch := [] }
    Ocr.analyzeWithTools (workshop peers) s data mime
  | some (.cloud s) =>
    let polls := match (← get).service with
      | some svc =>
        let step := svc.settings.ocr.pollInterval
        if step > 0 then (svc.settings.ocr.timeout / step).toNat + 2 else 2
      | none => 2
    Ocr.analyzeDocument (network peers) s polls data mime

/-- The chat model of the open service's settings. -/
def chatModel (peers : Peers σ) (m : Machine σ) : Llm.ChatBackend (MachineM σ) :=
  match m.service with
  | none => ⟨"", fun _ => pure (.error notOpen)⟩
  | some svc =>
    match Llm.chatBackendOf (network peers) svc.settings.llm m.environment with
    | .ok b => b
    | .error e => ⟨svc.settings.llm.model, fun _ => pure (.error e)⟩

/-- The collaborators of the pipeline on the machine, for the service open on it. -/
def services (peers : Peers σ) (m : Machine σ) : Pipeline.Services (MachineM σ) where
  metadata := onStore
  artifacts := onArtifacts
  ocr := readDocument peers
  chat := chatModel peers m
  now := do return (← get).clock
  notify := pure ()
  log := logOne
  freshId := freshId
  pause _ := pure (.ok ())
  renderer := match m.service with
    | some svc => if svc.settings.pipeline.visualizeEnabled then
        some fun _ lines fields => Visualize.render 1000 true lines fields else none
    | none => none

/-- The settings of the orchestrator of an open service. -/
def pipelineSettings (svc : Service.Opened) : Pipeline.Settings :=
  let p := svc.settings.pipeline
  { retry := ⟨p.maxAttempts, p.baseBackoff, p.maxBackoff⟩, normalizer := Ocr.normalizerOf svc.settings.ocr,
    extractor := ⟨svc.settings.llm.temperature, 0⟩,
    taskMaxAttempts := if p.taskMaxAttempts > 0 then p.taskMaxAttempts else Pipeline.defaultTaskMaxAttempts,
    taskLease := if p.leaseDuration > 0 then p.leaseDuration else Pipeline.defaultTaskLease,
    registry := svc.registry }

/-- The orchestrator of the service open on the machine. -/
def orchestrator (peers : Peers σ) (m : Machine σ) (svc : Service.Opened) : Pipeline.Orchestrator (MachineM σ) :=
  ⟨services peers m, pipelineSettings svc⟩

/-- The ingestor of the service open on the machine. -/
def ingestor (svc : Service.Opened) : Ingest.Ingestor (MachineM σ) where
  metadata := onStore
  artifacts := onArtifacts
  registry := some svc.registry
  maxBytes := 0
  log := logOne

end CreditExtraction.Cli
