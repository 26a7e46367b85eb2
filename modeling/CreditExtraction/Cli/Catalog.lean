import CreditExtraction.Cli.Help

/-!
# The commands of `creditx`

`creditx` uploads credit request documents, drives extraction jobs and exports their results.
Its commands, with the flags each reads:

| command            | arguments           | flags                                           |
|--------------------|---------------------|-------------------------------------------------|
| `upload`           | one file            | `--type` (`-t`), `--credit-request`                 |
| `ingest-dir`       | one directory       | `--type` (`-t`), `--credit-request`, `--include-hidden` |
| `documents`        | none                | `--status`, `--limit` (50), `--credit-request`   |
| `submit`, `run`    | one document id     |                                                 |
| `status`, `result`, `cancel` | one job id |                                                 |
| `jobs`             | one document id     |                                                 |
| `export`           | one job id          | `--out` (`-o`)                                      |
| `batch`            | one directory       | `--out` (`-o`), `--fields`                          |
| `work`             | none                | `--workers`                                     |
| `watch`            | directories         | `--type` (`-t`), `--existing`, `--debounce` (500ms) |
| `schema check`     | at most one path    |                                                 |

Every command reads `--env-file`, `--log-format` and `--log-level`, whose defaults come from
the environment (`LOG_FORMAT`, and `LOG_LEVEL` or `info`). The program also has the usual
`help` and `completion` commands.
-/

namespace CreditExtraction.Cli

/-- A command with no flags that runs. -/
def runCommand (path : List String) (use short : String) (arity : Arity) (flags : List Flag) : Command :=
  { path, use, short, long := "", flags, inherited := [], arity, runs := true, hidden := false }

/-- The flag of a document type. -/
def typeFlag : Flag := .text "type" (some 't') "" "document type (default DEFAULT_DOCUMENT_TYPE)"

/-- The shells that completion scripts are made for, with their long descriptions. -/
def completionShells (prog : String) : List (String × String) :=
  [("bash", "Generate the autocompletion script for the bash shell.\n\nThis script depends on the 'bash-completion' package.\nIf it is not installed already, you can install it via your OS's package manager.\n\nTo load completions in your current shell session:\n\n\tsource <(" ++ prog ++ " completion bash)\n\nTo load completions for every new session, execute once:\n\n#### Linux:\n\n\t" ++ prog ++ " completion bash > /etc/bash_completion.d/" ++ prog ++ "\n\n#### macOS:\n\n\t" ++ prog ++ " completion bash > $(brew --prefix)/etc/bash_completion.d/" ++ prog ++ "\n\nYou will need to start a new shell for this setup to take effect.\n"),
   ("fish", "Generate the autocompletion script for the fish shell.\n\nTo load completions in your current shell session:\n\n\t" ++ prog ++ " completion fish | source\n\nTo load completions for every new session, execute once:\n\n\t" ++ prog ++ " completion fish > ~/.config/fish/completions/" ++ prog ++ ".fish\n\nYou will need to start a new shell for this setup to take effect.\n"),
   ("powershell", "Generate the autocompletion script for powershell.\n\nTo load completions in your current shell session:\n\n\t" ++ prog ++ " completion powershell | Out-String | Invoke-Expression\n\nTo load completions for every new session, add the output of the above command\nto your powershell profile.\n"),
   ("zsh", "Generate the autocompletion script for the zsh shell.\n\nIf shell completion is not already enabled in your environment you will need\nto enable it.  You can execute the following once:\n\n\techo \"autoload -U compinit; compinit\" >> ~/.zshrc\n\nTo load completions in your current shell session:\n\n\tsource <(" ++ prog ++ " completion zsh)\n\nTo load completions for every new session, execute once:\n\n#### Linux:\n\n\t" ++ prog ++ " completion zsh > \"$" ++ "\x7bfpath[1]\x7d/_" ++ prog ++ "\"\n\n#### macOS:\n\n\t" ++ prog ++ " completion zsh > $(brew --prefix)/share/zsh/site-functions/_" ++ prog ++ "\n\nYou will need to start a new shell for this setup to take effect.\n")]

/-- The program `creditx`, with the defaults of its log flags. -/
def creditx (logFormat logLevel : String) : Program :=
  let root : Command :=
    { path := [], use := "creditx", short := "Credit request document extraction",
      long := "creditx uploads credit request documents, runs the OCR and field extraction pipeline, and exports the results for review.",
      flags := [],
      inherited := [⟨"env-file", none, .texts [], ".env files to load (default ./.env)"⟩,
        .text "log-format" none logFormat "log format: text or json",
        .text "log-level" none logLevel "log level"],
      arity := .unchecked, runs := false, hidden := false }
  let jobCommand (name short : String) :=
    runCommand [name] (name ++ " <job_id>") short (.exactly 1) []
  let documentCommand (name short : String) :=
    runCommand [name] (name ++ " <document_id>") short (.exactly 1) []
  let shells := completionShells "creditx"
  { name := "creditx",
    commands := [root,
      runCommand ["upload"] "upload <file>" "Store a document and register it as READY" (.exactly 1)
        [typeFlag, .text "credit-request" none "" "credit request the document belongs to"],
      runCommand ["ingest-dir"] "ingest-dir <dir>" "Upload every supported document under a directory" (.exactly 1)
        [typeFlag, .text "credit-request" none "" "credit request every uploaded document belongs to",
         .switch "include-hidden" "also ingest hidden files and directories"],
      runCommand ["documents"] "documents"
        "List documents, newest first, or one credit request's documents in upload order" .none
        [.text "status" none "" "filter by status", ⟨"limit", none, .integer 50, "maximum rows, 0 for all"⟩,
         .text "credit-request" none "" "list only this credit request's documents"],
      documentCommand "submit" "Create a job for a document and queue it for the workers",
      documentCommand "run" "Create a job and run it to completion in this process",
      jobCommand "status" "Show a job's state, stage and worker log",
      jobCommand "result" "Print the pipeline result of a finished job",
      jobCommand "cancel" "Request cancellation of a running job",
      documentCommand "jobs" "List a document's jobs, newest first",
      runCommand ["work"] "work" "Run a worker pool in the foreground until interrupted" .none
        [⟨"workers", none, .integer 0, "worker count (default PIPELINE_WORKERS)"⟩],
      { runCommand ["watch"] "watch <dir>..." "Ingest documents dropped into directories and process them" (.atLeast 1)
          [typeFlag, .switch "existing" "also ingest files already present",
           ⟨"debounce", none, .duration 500000000, "wait for writes to settle"⟩] with
        long := "Watch directories for new documents. Each new file is uploaded and\nsubmitted; a worker pool in the same process runs the jobs." },
      { runCommand ["export"] "export <job_id>" "Write a review workbook (XLSX) for a finished job" (.exactly 1)
          [.text "out" (some 'o') "" "output XLSX path (default job-<id>.xlsx)"] with long := "" },
      { runCommand ["batch"] "batch <dir>" "Ingest a directory, run every new document and export one workbook" (.exactly 1)
          [.text "out" (some 'o') "" "output XLSX path (default next to <dir>)",
           .text "fields" none "" "comma-separated canonical fields to export (default all)"] with
        long := "Ingest every supported document under <dir>, run a job for each document\nthat has no result yet, and write one row per document to an XLSX workbook.\n\nExamples:\n  creditx batch ./antraege\n  creditx batch ./antraege -o review.xlsx --fields company_name,credit_amount" },
      { runCommand ["schema"] "schema" "Inspect the document type registry" .unchecked [] with runs := false },
      { runCommand ["schema", "check"] "check [path]" "Load the registry and report conflicts" (.atMost 1) [] with
        long := "Load the document type registry, validate every rule and alias, and list\nthe fields of each document type. A label bound to two canonical fields fails\nthe check." },
      { runCommand ["help"] "help [command]" "Help about any command" .unchecked [] with
        long := "Help provides help for any command in the application.\nSimply type creditx help [path to command] for full details." },
      { runCommand ["completion"] "completion" "Generate the autocompletion script for the specified shell" .none [] with
        long := "Generate the autocompletion script for creditx for the specified shell.\nSee each sub-command's help for details on how to use the generated script.\n",
        runs := false }] ++
      shells.map fun (shell, long) =>
        { runCommand ["completion", shell] shell ("Generate the autocompletion script for " ++ shell) .none
            [.switch "no-descriptions" "disable completion descriptions"] with long } }

end CreditExtraction.Cli
