import CreditExtraction.Cli.Companions
import CreditExtraction.Cli.Creditx
import CreditExtraction.Schema.Shipped
import CreditExtraction.Simulation.ModelServers
import CreditExtraction.Simulation.ToolScript
import CreditExtraction.Simulation.Scenario
import CreditExtraction.Simulation.DatabaseOpen

/-!
# Command line sessions

A command line session runs `creditx`, `dbhealth` and `extractord` one step after another on
one machine, working in `/cli` (`{dir}`), which keeps its files, databases, clock and
identifiers from step to step. Around it are two stand-in programs in `/fake` (`{fake}`),
`tesseract` and `pdftoppm`, each answering from its own script one entry per run, and the
scripted model servers (`ModelServers`).

Each step starts from the session's `env` with its own on top, with `{dir}`, `{fake}`,
`{shipped}` and `{idN}` filled in; it writes its `files`, runs `args` or `prog`, and reads
back `read` and lists `list`. Identifiers are named `id1`, `id2`, … in the order they first
appear in what the steps print, and times are shown as `<time>`.

## Watch steps

A step with `watch` runs a watching command while the surroundings change its files one action
at a time (`drop`, `many`, `mkdir`, `move_dir`, `remove`, `move_out`). After the start and
after each action they drop a marker file into `marker_dir` (and a probe into a new visible
directory) and wait for the watch to report it; a marker that is not reported ends the
actions. The answer shows whether the watch started, each action's outcome, and the command's
log lines without the markers', sorted, their identifiers named as elsewhere.
-/

namespace CreditExtraction.Simulation

open Cli

/-- The directory a session works in. -/
def sessionDir : String := "/cli"

/-- The directory of the stand-in programs. -/
def standInDir : String := "/fake"

/-- One scripted run of a stand-in program. -/
structure StandInReply where
  stdout : String
  stderr : String
  exit : Int
  pages : Nat

/-- Reads a scripted run (see the module comment). -/
def StandInReply.ofJson (j : Json) : StandInReply :=
  ⟨j.getStrD "stdout", j.getStrD "stderr", intArg j "exit" 0, (intArg j "pages" 1).toNat⟩

/-- One action of a watch step: its changes, and the directory it makes visible that a probe
must reach, if any. -/
structure WatchAction where
  changes : List Files.Change
  probe : Option String

/-- Where the surroundings are in a watch step. -/
inductive WatchPhase where
  /-- The command has started: the first marker is due. -/
  | starting
  /-- Ready to make the next action. -/
  | ready
  /-- An action was made. -/
  | acted (action : WatchAction)
  /-- The marker of an action is due. -/
  | syncing (action : WatchAction)
  /-- The probe of a directory an action made is due. -/
  | probing (dir : String)
  /-- No more actions. -/
  | stopped

/-- The surroundings' side of a watch step: the actions left, the marker directory, the
markers used, where they are, and the outcomes so far. -/
structure WatchDriver where
  actions : List WatchAction
  markerDir : String
  markers : Nat
  phase : WatchPhase
  outcomes : List Json

/-- No watch step under way. -/
def WatchDriver.idle : WatchDriver := ⟨[], "", 0, .stopped, []⟩

/-- What surrounds the machine: the stand-ins' scripts, the model servers, the stand-in runs
seen and the side of a watch step. -/
structure Surrounding where
  tesseract : List StandInReply
  pdftoppm : List StandInReply
  models : ModelServers
  runs : List Json
  watch : WatchDriver

/-- The end of a stand-in run. -/
def StandInReply.commandRun (r : StandInReply) : Ocr.CommandRun :=
  { stdout := r.stdout.toUTF8, stderr := r.stderr.toUTF8,
    failure := if r.exit == 0 then none else some ("exit status " ++ toString r.exit), state := .running }

/-- Starts a program (see the module comment): its run and the names it adds to the scratch
directory. -/
def startProgram (name : String) (args : List String) (_ : List String) :
    StateM Surrounding (Ocr.CommandRun × List String) := do
  let seen := Json.obj [("name", .str (Files.Path.base name)), ("args", .arr (args.map Json.str))]
  if name == standInDir ++ "/tesseract" then
    modify fun s => { s with runs := s.runs ++ [seen] }
    match (← get).tesseract with
    | [] => pure (⟨.empty, "script exhausted".toUTF8, some "exit status 2", .running⟩, [])
    | r :: rest =>
      modify fun s => { s with tesseract := rest }
      pure (r.commandRun, [])
  else if name == standInDir ++ "/pdftoppm" then
    modify fun s => { s with runs := s.runs ++ [seen] }
    let r ← match (← get).pdftoppm with
      | [] => pure (⟨"", "", 0, 1⟩ : StandInReply)
      | r :: rest => do
        modify fun s => { s with pdftoppm := rest }
        pure r
    let outPrefix := args.getLastD ""
    let pages := if Files.Path.parent outPrefix == scratchDir then
        (List.range r.pages).map fun i => Files.Path.base outPrefix ++ "-" ++ toString (i + 1) ++ ".png"
      else []
    pure (r.commandRun, pages)
  else pure (programRun name, [])

/-- The model servers, as seen from the surroundings. -/
def surroundingNetwork : Net.Transport (StateM Surrounding) := fun req => do
  let s ← get
  let (r, models) := ((modelTransport req : StateM ModelServers _).run s.models)
  set { s with models }
  pure r

/-- The first part of the name of every marker file. -/
def markerStem : String := "zzzz-sync-marker-"

/-- The changes that drop a new marker into a directory and take it away again. -/
def markerDrop (dir : String) : StateM Surrounding (List Files.Change) := do
  let s ← get
  let n := s.watch.markers + 1
  set { s with watch := { s.watch with markers := n } }
  let path := Files.Path.join dir (markerStem ++ toString n ++ ".pdf")
  pure [.drop path .empty, .remove path]

/-- The marker dropped last. -/
def lastMarker (s : Surrounding) : String := markerStem ++ toString s.watch.markers ++ ".pdf"

/-- Sets where the surroundings are in the watch step. -/
def movePhase (phase : WatchPhase) : StateM Surrounding Unit :=
  modify fun s => { s with watch := { s.watch with phase } }

/-- Records an action's outcome and moves to a phase. -/
def recordOutcome (outcome : Json) (phase : WatchPhase) : StateM Surrounding Unit :=
  modify fun s => { s with watch := { s.watch with outcomes := s.watch.outcomes ++ [outcome], phase } }

/-- The next batch of changes of a watch step (see the module comment). -/
def nextWatchChanges : StateM Surrounding (Option (List Files.Change)) := do
  let w := (← get).watch
  match w.phase with
  | .starting | .syncing _ => return some (← markerDrop w.markerDir)
  | .probing dir => return some (← markerDrop dir)
  | .acted _ | .stopped => pure none
  | .ready =>
    match w.actions with
    | [] => pure none
    | a :: rest =>
      modify fun s => { s with watch := { s.watch with actions := rest, phase := .acted a } }
      pure (some a.changes)

/-- Hears what the command made of the last batch (see the module comment). -/
def watchChanged (r : ChangeReport) : StateM Surrounding Unit := do
  let s ← get
  let seen := r.reported.any fun p => Files.Path.base p == lastMarker s
  let synced (next : WatchPhase) : StateM Surrounding Unit :=
    if seen then recordOutcome (.str "ok") next else recordOutcome (.str "sync timeout") .stopped
  match s.watch.phase with
  | .starting => movePhase (if seen then .ready else .stopped)
  | .acted a =>
    match r.failure with
    | some e => recordOutcome (.obj [("error", .str e)]) .ready
    | none => movePhase (.syncing a)
  | .syncing a =>
    match a.probe with
    | some dir => if seen then movePhase (.probing dir) else recordOutcome (.str "sync timeout") .stopped
    | none => synced .ready
  | .probing _ => synced .ready
  | .ready | .stopped => pure ()

/-- The peers of the session's machine. -/
def sessionPeers : Peers Surrounding := ⟨startProgram, surroundingNetwork, nextWatchChanges, watchChanged⟩

/-- A session between steps: the machine and the names given to identifiers so far. -/
structure Session where
  machine : Machine Surrounding
  /-- The session's `env`, placeholders not yet filled in. -/
  env : List (String × Option String)
  names : List (String × String)

/-- Fills the placeholders of a text in (see the module comment). -/
def Session.expand (s : Session) (v : String) : String :=
  let v := sessionDir.intercalate (v.splitOn "{dir}")
  let v := standInDir.intercalate (v.splitOn "{fake}")
  let v := shippedRegistryPath.intercalate (v.splitOn "{shipped}")
  s.names.foldl (fun acc (id, name) => id.intercalate (acc.splitOn ("\x7b" ++ name ++ "\x7d"))) v

/-- The variables of an `env` member; `none` unsets a variable. -/
def envMember (j : Json) : List (String × Option String) :=
  match j with
  | .obj ms => ms.filterMap fun (k, v) => match v with
    | .str t => some (k, some t)
    | .null => some (k, none)
    | _ => none
  | _ => []

/-- Writes the files of a `files` member below the session's directory. -/
def Session.writeFiles (s : Session) (files : List Json) : Session :=
  let written := files.filterMap fun f =>
    match dataArg f with
    | .ok data => some (Files.Path.join sessionDir (f.getStrD "path"), data)
    | .error _ => none
  { s with machine := { s.machine with files := treeWithFiles s.machine.files written } }

/-- Is a text a time at the start of a list of characters? The length of the time, if so. -/
def timeAt (cs : List Char) : Option Nat :=
  let digits (n : Nat) (xs : List Char) : Bool := xs.length ≥ n && (xs.take n).all Char.isDigit
  let at_ (i : Nat) (c : Char) : Bool := cs.getD i ' ' == c
  if digits 4 cs && at_ 4 '-' && digits 2 (cs.drop 5) && at_ 7 '-' && digits 2 (cs.drop 8) &&
      (at_ 10 'T' || at_ 10 ' ') && digits 2 (cs.drop 11) && at_ 13 ':' && digits 2 (cs.drop 14) &&
      at_ 16 ':' && digits 2 (cs.drop 17) then
    let rest := cs.drop 19
    let frac := match rest with
      | '.' :: more => let ds := more.takeWhile Char.isDigit; if ds.isEmpty then 0 else ds.length + 1
      | _ => 0
    let rest := rest.drop frac
    let zone := match rest with
      | 'Z' :: _ => 1
      | c :: more =>
        if (c == '+' || c == '-') && digits 2 more && more.getD 2 ' ' == ':' && digits 2 (more.drop 3) then 6
        else 0
      | [] => 0
    some (19 + frac + zone)
  else none

/-- A text with its times shown as `<time>`. -/
def scrubTimes (s : String) : String :=
  String.ofList (go (s.length + 1) s.toList)
where
  /-- The characters left; `fuel` bounds the steps. -/
  go : Nat → List Char → List Char
    | 0, cs => cs
    | _, [] => []
    | fuel + 1, c :: rest =>
      match timeAt (c :: rest) with
      | some n => "<time>".toList ++ go fuel ((c :: rest).drop n)
      | none => c :: go fuel rest

/-- Is a character a lower-case hexadecimal digit? -/
def isLowerHex (c : Char) : Bool := c.isDigit || ('a' ≤ c && c ≤ 'f')

/-- The identifiers in a text, in order. -/
def identifiersIn (s : String) : List String :=
  go (s.length + 1) s.toList
where
  /-- The characters left; `fuel` bounds the steps. -/
  go : Nat → List Char → List String
    | 0, _ => []
    | _, [] => []
    | fuel + 1, c :: rest =>
      let t := (c :: rest).take 36
      let isId := t.length == 36 && (t.zipIdx.all fun (x, i) =>
        if i == 8 || i == 13 || i == 18 || i == 23 then x == '-' else isLowerHex x)
      if isId then String.ofList t :: go fuel ((c :: rest).drop 36) else go fuel rest

/-- Names the identifiers of a text not named yet, in order. -/
def Session.nameIn (s : Session) (text : String) : Session :=
  let fixed := ["00000000-0000-0000-0000-000000000000", "ffffffff-ffff-ffff-ffff-ffffffffffff"]
  { s with names := (identifiersIn text).foldl (fun names id =>
      if fixed.contains id || names.any (·.1 == id) then names
      else names ++ [(id, "id" ++ toString (names.length + 1))]) s.names }

/-- A file read back after a step (see the module comment). -/
def Session.readBack (s : Session) (path : String) : Json :=
  let full := Files.Path.absolute sessionDir (s.expand path)
  match s.machine.files.readFile full with
  | .error e => .obj [("error", .str "read"), ("message", .str e.message)]
  | .ok data =>
    if path.endsWith ".xlsx" then
      match Json.parseBytes data.toList with
      | .ok j => j
      | .error _ => .obj [("error", .str "read"), ("message", .str "zip: not a valid zip file")]
    else if path.endsWith ".png" then
      match pngView data with
      | .ok j => j
      | .error _ => .obj [("error", .str "read"), ("message", .str "png: invalid format")]
    else .str (scrubTimes (Text.Utf8.lossyOfBytes data))

/-- The files below a directory, by their paths from it, sorted. -/
def Session.listed (s : Session) (dir : String) : List String :=
  let root := Files.Path.absolute sessionDir (s.expand dir)
  let pre := if root == "/" then "/" else root ++ "/"
  let names := s.machine.files.nodes.filterMap fun (p, n) =>
    match n with
    | .file _ => if p.startsWith pre then some (String.ofList (p.toList.drop pre.length)) else none
    | .dir => none
  names.mergeSort fun a b => decide (a ≤ b)

/-- The machine at the start of a step: the step's environment, nothing printed or logged,
no service open. -/
def Session.prepare (s : Session) (step : Json) : Session :=
  let vars := s.env ++ envMember (memberOrNull step "env")
  let env := vars.foldl (fun (acc : List (String × String)) (k, v) =>
    let rest := acc.filter (·.1 != k)
    match v with
    | some t => (k, s.expand t) :: rest
    | none => rest) []
  { s with machine := { s.machine with env, stdout := "", log := [], scratch := [], service := none,
                                       logger := Log.Handler.ofNames "" "info",
                                       outside := { s.machine.outside with runs := [] } } }

/-- Runs a step on the machine; the machine after it. -/
def Session.runOn {α : Type} (s : Session) (act : MachineM Surrounding α) : α × Session :=
  let (a, m) := act.run s.machine
  (a, { s with machine := m })

/-- The answer members every step has: the model requests and the stand-in runs. -/
def callsJson (callsBefore : Nat) (m : Machine Surrounding) : List (String × Json) :=
  [("llm_calls", Json.ofInt (m.outside.models.calls - callsBefore)), ("tool_calls", .arr m.outside.runs)]

/-- Reads back and lists what a step asks for, naming identifiers in what is read. -/
def Session.afterwards (s : Session) (step : Json) : Session × List (String × Json) :=
  let reads := textsArg step "read"
  let (s, readJson) := if step.has "read" then
      let views := reads.map fun p => (p, s.readBack p)
      let s := views.foldl (fun acc (_, v) => acc.nameIn v.render) s
      (s, [("read", Json.obj views)])
    else (s, [])
  let listJson := match step.getStr? "list" with
    | some dir => [("list", Json.arr ((s.listed dir).map Json.str))]
    | none => []
  (s, readJson ++ listJson)

/-- The action a member of a watch step's `actions` describes (see the module comment), its
paths taken from the session's directory. -/
def Session.watchAction (s : Session) (j : Json) : WatchAction :=
  let full := fun (p : String) => Files.Path.absolute sessionDir (s.expand p)
  let visible := fun (p : String) => if Ingest.isHidden p then none else some (full p)
  let data := fun (f : Json) => (dataArg f).toOption.getD .empty
  if let some p := j.getStr? "drop" then ⟨[.drop (full p) (data j)], none⟩
  else if let some p := j.getStr? "mkdir" then ⟨[.mkdir (full p)], visible p⟩
  else if let some p := j.getStr? "move_dir" then
    let inside := fun (f : Json) =>
      let name := f.getStrD "path"
      if name.startsWith (p ++ "/") then String.ofList (name.toList.drop (p.length + 1)) else name
    ⟨[.moveDir (full p) ((listArg j "files").map fun f => (inside f, data f))], visible p⟩
  else if let some p := j.getStr? "remove" then ⟨[.remove (full p)], none⟩
  else if let some p := j.getStr? "move_out" then ⟨[.moveOut (full p)], none⟩
  else ⟨(listArg j "many").map (fun f => .drop (full (f.getStrD "path")) (data f)), none⟩

/-- The surroundings ready for a watch step's actions. -/
def Session.startWatching (s : Session) (w : Json) : Session :=
  let dir := match w.getStr? "marker_dir" with
    | some d => d
    | none => "inbox"
  let driver : WatchDriver :=
    ⟨(listArg w "actions").map s.watchAction, Files.Path.absolute sessionDir (s.expand dir), 0, .starting, []⟩
  { s with machine := { s.machine with outside := { s.machine.outside with watch := driver } } }

/-- Does a text hold another? -/
def holds (s part : String) : Bool := (s.splitOn part).length > 1

/-- A log line with every `elapsed_ms` value shown as `<n>`. -/
def hideElapsed (line : String) : String :=
  match line.splitOn "elapsed_ms=" with
  | [] => line
  | first :: rest =>
    first ++ String.join (rest.map fun part =>
      let cs := part.toList
      let body := match cs with
        | '-' :: more => more
        | _ => cs
      let digits := body.takeWhile Char.isDigit
      if digits.isEmpty then "elapsed_ms=" ++ part
      else "elapsed_ms=<n>" ++ String.ofList (body.drop digits.length))

/-- The `watch` member of a watch step's answer (see the module comment); the log is finished
once the session is over. -/
def Session.watchAnswer (s : Session) : Json :=
  let lines := s.machine.log.map (fun l => if l.endsWith "\n" then String.ofList l.toList.dropLast else l)
  let lines := lines.filter (!holds · markerStem)
  .obj [("started", .bool (lines.any (holds · "ingest.watch.started"))),
    ("actions", .arr s.machine.outside.watch.outcomes),
    ("log", .arr (lines.map fun l => .str (hideElapsed (scrubTimes l))))]

/-- A text with its identifiers shown by their names, others as `<uuid>`; the nil and the max
identifier stay. -/
def showIdentifiers (names : List (String × String)) (s : String) : String :=
  String.ofList (go (s.length + 1) s.toList)
where
  /-- The characters left; `fuel` bounds the steps. -/
  go : Nat → List Char → List Char
    | 0, cs => cs
    | _, [] => []
    | fuel + 1, c :: rest =>
      let t := (c :: rest).take 36
      let isId := t.length == 36 && (t.zipIdx.all fun (x, i) =>
        if i == 8 || i == 13 || i == 18 || i == 23 then x == '-' else x.isDigit || ('a' ≤ x && x ≤ 'f') || ('A' ≤ x && x ≤ 'F'))
      if isId then
        let u := String.ofList t
        let shown := if u == "00000000-0000-0000-0000-000000000000" || u == "ffffffff-ffff-ffff-ffff-ffffffffffff" then u
          else match names.find? (·.1 == u) with
            | some (_, n) => n
            | none => "<uuid>"
        shown.toList ++ go fuel ((c :: rest).drop 36)
      else c :: go fuel rest

/-- A step's answer with the log of its watch finished: identifiers shown by their names and
the lines sorted. -/
def finishWatchLog (names : List (String × String)) : Json → Json
  | .obj ms => .obj (ms.map fun (k, v) =>
      if k != "watch" then (k, v)
      else match v with
        | .obj ws => (k, .obj (ws.map fun (k', v') =>
            if k' != "log" then (k', v')
            else match v' with
              | .arr lines =>
                let texts := lines.filterMap fun (l : Json) => match l with
                  | .str t => some (showIdentifiers names t)
                  | _ => none
                (k', .arr ((texts.mergeSort fun a b => decide (a ≤ b)).map Json.str))
              | other => (k', other)))
        | other => (k, other))
  | j => j

/-- Runs one step (see the module comment); the session after it and the step's answer. -/
def Session.step (s : Session) (step : Json) : Session × Json :=
  let s := s.writeFiles (listArg step "files")
  let s := s.prepare step
  let callsBefore := s.machine.outside.models.calls
  if step.has "args" then
    let raw := textsArg step "args"
    let watching := step.has "watch"
    let s := if watching then s.startWatching (memberOrNull step "watch") else s
    let (err, s) := s.runOn (runCreditx sessionPeers (raw.map s.expand))
    let watchJson := if watching then [("watch", s.watchAnswer)] else []
    let s := { s with machine := { s.machine with outside := { s.machine.outside with watch := .idle } } }
    let out := scrubTimes s.machine.stdout
    let errText := err.map fun e => scrubTimes e.message
    let s := s.nameIn out
    let s := match errText with
      | some t => s.nameIn t
      | none => s
    let (s, extra) := s.afterwards step
    (s, .obj ([("args", .arr (raw.map Json.str)), ("exit", Json.ofInt (match err with
        | some e => exitStatus e
        | none => 0)),
      ("stdout", .str out), ("error", match errText with
        | some t => .str t
        | none => .null)] ++ callsJson callsBefore s.machine ++ extra ++ watchJson))
  else if step.has "prog" then
    let prog := step.getStrD "prog"
    let (status, s) := s.runOn (if prog == "dbhealth" then dbHealth else daemon)
    let logged := scrubTimes (String.join s.machine.log)
    let (out, errs) := if prog == "dbhealth" then ("", logged) else (logged, "")
    let s := (s.nameIn out).nameIn errs
    let (s, extra) := s.afterwards step
    (s, .obj ([("prog", .str prog), ("exit", Json.ofInt status), ("stdout", .str out), ("stderr", .str errs)] ++
      callsJson callsBefore s.machine ++ extra))
  else
    let (s, extra) := s.afterwards step
    (s, .obj (extra ++ callsJson callsBefore s.machine))

/-- The instant a session's clock starts at. -/
def sessionStart : Time.Instant := Time.Civil.toInstant ⟨2024, 3, 1, 8, 0, 0, 0⟩

/-- The session a request describes, before its first step. -/
def Session.ofRequest (req : Json) : Session :=
  let tree := (Files.Tree.empty.mkdirAll sessionDir).toOption.getD Files.Tree.empty
  let tree := (tree.mkdirAll "/tmp").toOption.getD tree
  let tree := (tree.mkdirAll (Files.Path.parent shippedRegistryPath)).toOption.getD tree
  let tree := tree.put shippedRegistryPath (.file shippedRegistryText.toUTF8)
  let outside : Surrounding :=
    { tesseract := (listArg req "tesseract").map StandInReply.ofJson,
      pdftoppm := (listArg req "pdftoppm").map StandInReply.ofJson,
      models := ⟨(listArg req "llm").map ModelAnswer.ofJson, [], 0⟩, runs := [], watch := .idle }
  let machine : Machine Surrounding :=
    { files := tree, cwd := sessionDir, env := [], databases := [], serverDefaults := serverDefaultsHere,
      clock := sessionStart, seed := 1, stdout := "", log := [], logger := Log.Handler.ofNames "" "info",
      scratch := [], service := none, outside }
  let s : Session := ⟨machine, envMember (memberOrNull req "env"), []⟩
  s.writeFiles (listArg req "files")

/-- Runs a command line session: the steps' answers, and the names of the identifiers they
show. -/
def runCommandSession (req : Json) : Json × List (String × String) :=
  let (s, answers) := (listArg req "steps").foldl (fun (acc : Session × List Json) step =>
    let (s, a) := acc.1.step step
    (s, acc.2 ++ [a])) (Session.ofRequest req, [])
  (.obj [("steps", .arr (answers.map (finishWatchLog s.names)))], s.names)

end CreditExtraction.Simulation
