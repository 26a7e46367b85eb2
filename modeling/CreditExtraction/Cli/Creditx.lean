import CreditExtraction.Cli.Watch

/-!
# The `creditx` command line

A command line is read against the catalogue; the help it asks for is printed, a line the
catalogue refuses fails with the refusal, and a command that was read runs (see `Cli.Run` and
`Cli.Watch`).
-/

namespace CreditExtraction.Cli

variable {σ : Type}

/-- `help [command]`: the help of the command named, or, for a name that is none, nothing on
standard output. -/
def helpTopic (p : Program) (args : List String) : MachineM σ Unit :=
  match p.find args with
  | .ok (c, _) => print (p.help c)
  | .error _ => pure ()

/-- Runs a command that was read. -/
def execute (peers : Peers σ) (p : Program) (inv : Invocation) : CommandM σ Unit :=
  match inv.command.path, inv.args with
  | ["upload"], [path] => upload inv path
  | ["ingest-dir"], [dir] => ingestDir inv dir
  | ["documents"], _ => documents inv
  | ["submit"], [id] => submit peers inv id
  | ["run"], [id] => runDocument peers inv id
  | ["status"], [id] => status peers inv id
  | ["result"], [id] => result peers inv id
  | ["cancel"], [id] => cancel peers inv id
  | ["jobs"], [id] => jobs inv id
  | ["export"], [id] => exportJob inv id
  | ["batch"], [dir] => batch peers inv dir
  | ["work"], _ => work peers inv
  | ["watch"], roots => watch peers inv roots
  | ["schema", "check"], _ => schemaCheck inv
  | ["help"], args => onMachine (helpTopic p args)
  | _, _ => pure ()

/-- Runs a command line of `creditx` on the machine: the failure it ends with, if any. -/
def runCreditx (peers : Peers σ) (args : List String) : MachineM σ (Option Failure) := do
  let m ← get
  let p := creditx ((m.lookupEnv "LOG_FORMAT").getD "") (m.envOr "LOG_LEVEL" "info")
  match p.parse [] args with
  | .refused msg => pure (some (.plain msg))
  | .help c =>
    print (p.help c)
    pure none
  | .run inv =>
    match ← (execute peers p inv).run with
    | .ok () => pure none
    | .error e => pure (some e)

end CreditExtraction.Cli
