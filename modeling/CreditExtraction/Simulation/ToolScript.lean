import CreditExtraction.Ocr.Tesseract
import CreditExtraction.Ocr.Line
import CreditExtraction.Simulation.Request
import CreditExtraction.Simulation.Views

/-!
# Scripted command line tools

An OCR session runs the offline engine in the directory `/work` with its commands answered in
one of two ways.

A script answers one command per entry, `{stdout, stderr, error, files, wait, cancel}`:

* `files` are empty files created beside the command's last argument (for the rasteriser,
  beside its output prefix, that is in the work directory);
* `cancel` cancels the call before the command answers, and `wait` holds the command until the
  call ends: with the session's deadline it runs out, and a call that already ended stays as
  it was;
* a non-empty `error` is the command's failure;
* past the end of the script a command fails with `exit status 2` and the error output
  `script exhausted`.

Every scripted command is shown as `{name, args}`.

Run for real (`exec`), the tools are looked up as programs: `true` succeeds and `false` fails
with `exit status 1`, both silent; a name with a slash that is none of their usual places
cannot be started, and any other name is not found. Such runs are not shown.
-/

namespace CreditExtraction.Simulation

open Ocr

/-- One scripted answer of a command. -/
structure ToolReply where
  stdout : String
  stderr : String
  error : String
  files : List String
  wait : Bool
  cancel : Bool

/-- Reads a scripted answer (see the module comment). -/
def ToolReply.ofJson (j : Json) : ToolReply :=
  { stdout := j.getStrD "stdout", stderr := j.getStrD "stderr", error := j.getStrD "error",
    files := (listArg j "files").filterMap (fun
      | .str s => some s
      | _ => none), wait := flagArg j "wait" false,
    cancel := flagArg j "cancel" false }

/-- The bench the tools run on: the script left, the commands seen, the files of the work
directory, whether the call has a deadline and what became of the call. -/
structure ToolBench where
  script : List ToolReply
  seen : List Json
  files : List String
  deadline : Bool
  state : CallState

/-- The work directory of a session. -/
def benchDir : String := "/work"

/-- The directory part of a path: up to its last slash, `/` for a top-level path and `.` for
a bare name. -/
def directoryOf (path : String) : String :=
  let cs := path.toList
  match (cs.reverse.dropWhile (· != '/')) with
  | [] => "."
  | _ :: front => if front.isEmpty then "/" else String.ofList front.reverse

/-- Adds a file to the bench. -/
def ToolBench.addFile (b : ToolBench) (path : String) : ToolBench :=
  if b.files.contains path then b else { b with files := b.files ++ [path] }

/-- The names of the bench's files in the work directory. -/
def ToolBench.entries (b : ToolBench) : List String :=
  b.files.filterMap fun p =>
    if p.startsWith (benchDir ++ "/") then
      let name := String.ofList (p.toList.drop (benchDir.length + 1))
      if name.contains '/' then none else some name
    else none

/-- A call after a command held it until it ended. -/
def heldState (deadline : Bool) : CallState → CallState
  | .running => if deadline then .expired else .running
  | s => s

/-- Runs one command from the script. -/
def scriptedRun (name : String) (args : List String) : StateM ToolBench CommandRun := do
  modify fun b => { b with seen := b.seen ++ [.obj [("name", .str name), ("args", .arr (args.map Json.str))]] }
  let b ← get
  match b.script with
  | [] => return { stdout := .empty, stderr := "script exhausted".toUTF8, failure := some "exit status 2",
                   state := b.state }
  | r :: rest =>
    let state := if r.cancel && b.state == .running then .canceled else b.state
    let state := if r.wait then heldState b.deadline state else state
    let dir := directoryOf (args.getLast?.getD "")
    let b := r.files.foldl (fun acc f => acc.addFile (dir ++ "/" ++ f)) { b with script := rest, state }
    set b
    return { stdout := r.stdout.toUTF8, stderr := r.stderr.toUTF8,
             failure := if r.error.isEmpty then none else some r.error, state }

/-- The usual places of the programs `true` and `false`. -/
def programPlaces : List String := ["/bin/", "/usr/bin/"]

/-- Runs a command as a program (see the module comment). -/
def programRun (name : String) : CommandRun :=
  let program := if name.contains '/' then
      match programPlaces.find? (fun d => name.startsWith d) with
      | some d => some (String.ofList (name.toList.drop d.length))
      | none => none
    else some name
  let failure : Option String := match program with
    | some "true" => none
    | some "false" => some "exit status 1"
    | _ => if name.contains '/' then some ("fork/exec " ++ name ++ ": no such file or directory")
      else some ("exec: " ++ Text.Quoted.quote name ++ ": executable file not found in $PATH")
  { stdout := .empty, stderr := .empty, failure, state := .running }

/-- The bench as the engine's workshop, its commands scripted or run as programs. -/
def benchWorkshop (programs : Bool) : Workshop (StateM ToolBench) where
  dir := benchDir
  write := fun path _ => modify fun b => b.addFile path
  run := fun name args => if programs then pure (programRun name) else scriptedRun name args
  entries := do return (← get).entries
  log := fun _ => pure ()

/-- The engine settings of a session's `config`. -/
def toolSettingsOf (c : Json) : TesseractSettings :=
  { tesseract := c.getStrD "tesseract", pdftoppm := c.getStrD "pdftoppm", lang := c.getStrD "lang",
    dpi := intArg c "dpi" 0, maxPages := intArg c "max_pages" 0, tessdataDir := c.getStrD "tessdata_dir",
    psm := intArg c "psm" 0 }

/-- Runs an OCR session (see the module comment): the commands shown and the raw lines, `null`
when there are none, or the failure. -/
def runToolSession (req : Json) : Json :=
  let bench : ToolBench :=
    { script := (listArg req "script").map ToolReply.ofJson, seen := [], files := [],
      deadline := flagArg req "deadline" false, state := .running }
  let data := (dataArg req).toOption.getD .empty
  let w := benchWorkshop (flagArg req "exec" false)
  let (r, b) := (analyzeWithTools w (toolSettingsOf (memberOrNull req "config")) data (req.getStrD "mime")).run bench
  let outcome := match r with
    | .ok [] => ("lines", Json.null)
    | .ok lines => ("lines", rawLinesToJson lines)
    | .error e => ("error", failureJson e)
  .obj [("calls", .arr b.seen), outcome]

end CreditExtraction.Simulation
