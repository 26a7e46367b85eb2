import CreditExtraction.Cli.Run

/-!
# The companion programs

Two programs come with `creditx`; both read `./.env` first, as the command line does.

`dbhealth` checks the metadata store. Its log (format `LOG_FORMAT`) keeps warnings and errors
only, and it reports on the error stream:

    DB health: OK (<dialect>)
    migrations applied: [1 2]
    - NOT_READY   <count>
    ...

one line for each document status. A failure ends it with status 1 after one line:
`opening DB: <why>`, `reading migrations: <why>` or `listing documents: <why>`.

`extractord` is the daemon. It logs on standard output (format `LOG_FORMAT`, level
`LOG_LEVEL` or `info`), opens the service with the backends that work on documents, and
listens on `GRPC_ADDR` (a colon is put before an address without one). A service that does not
open is logged as `failed to start`, an address that cannot be listened on as `failed to
listen on address`; both end it with status 1.

## Addresses

An address is a host and a port split at the last colon; a host with a colon of its own must
be in brackets (`too many colons in address`). A port is a number up to 65535 (`invalid
port`) or the name of a well-known service; any other name is an `unknown port`. The host is
empty, `localhost`, or an IP address; any other name is not found.
-/

namespace CreditExtraction.Cli

open Store

variable {σ : Type}

/-- Prints a line on the error stream of a program whose log shares it. -/
def say (line : String) : MachineM σ Unit := modify fun m => { m with log := m.log ++ [line ++ "\n"] }

/-- Runs an operation on a store outside the service. -/
def onOwnStore {α : Type} (st : MetaStore) (op : StoreM α) : MachineM σ (Except Failure α × MetaStore) := do
  tick
  let m ← get
  let (r, st') := (op.run).run { st with now := m.clock, nextSeed := m.seed, logged := [] }
  set { m with seed := st'.nextSeed }
  st'.logged.forM logOne
  pure (r, { st' with logged := [] })

/-- The lines that count a store's documents by status, or the failure of a count. -/
def statusCounts (st : MetaStore) : List DocumentStatus → MachineM σ (Except Failure (List String))
  | [] => pure (.ok [])
  | s :: rest => do
    match ← onOwnStore st (Documents.list s.name 0) with
    | (.error e, _) => pure (.error e)
    | (.ok docs, st') =>
      match ← statusCounts st' rest with
      | .error e => pure (.error e)
      | .ok lines => pure (.ok (("- " ++ padRight s.name 11 ++ " " ++ toString docs.length) :: lines))

/-- Runs `dbhealth` (see the module comment); its exit status. -/
def dbHealth : MachineM σ Nat := do
  loadEnvFiles []
  modify fun m => { m with logger := Log.Handler.ofNames ((m.lookupEnv "LOG_FORMAT").getD "") "warn" }
  let m ← get
  let settings := Settings.load m.environment
  let (records, connected, left) :=
    Store.connectLogged settings.database m.surroundings.probe m.serverDefaults m.clock
  logAll records
  if let some db := left then keepDatabase settings.database.dsn db
  match connected with
  | .error e =>
    say ("opening DB: " ++ e.message)
    pure 1
  | .ok st =>
    say ("DB health: OK (" ++ (Store.Driver.ofDsn settings.database.dsn).dialect ++ ")")
    match ← onOwnStore st appliedMigrations with
    | (.error e, _) =>
      say ("reading migrations: " ++ e.message)
      pure 1
    | (.ok versions, st) =>
      say ("migrations applied: [" ++ " ".intercalate (versions.map toString) ++ "]")
      match ← statusCounts st listedStatuses with
      | .error e =>
        say ("listing documents: " ++ e.message)
        pure 1
      | .ok lines =>
        lines.forM say
        logAll Store.closingRecords
        pure 0

/-- The ports of the well-known services an address may name. -/
def servicePorts : List (String × Nat) :=
  [("ftp", 21), ("ftps", 990), ("gopher", 70), ("http", 80), ("https", 443), ("imap2", 143),
   ("imap3", 220), ("imaps", 993), ("pop3", 110), ("pop3s", 995), ("smtp", 25), ("submissions", 465),
   ("ssh", 22), ("telnet", 23)]

/-- The host and port of an address, or why it does not split. -/
def splitHostPort (addr : String) : Except String (String × String) :=
  let cs := addr.toList
  let refuse := fun (why : String) => Except.error ("address " ++ addr ++ ": " ++ why)
  match cs.reverse.findIdx? (· == ':') with
  | none => refuse "missing port in address"
  | some fromEnd =>
    let i := cs.length - 1 - fromEnd
    let host := cs.take i
    let port := String.ofList (cs.drop (i + 1))
    match host with
    | '[' :: inner =>
      match inner.reverse with
      | ']' :: body =>
        if body.contains '[' || body.contains ']' then refuse "unexpected '[' in address"
        else .ok (String.ofList body.reverse, port)
      | _ => refuse "missing ']' in address"
    | _ =>
      if host.contains ':' then refuse "too many colons in address"
      else if host.contains '[' then refuse "unexpected '[' in address"
      else if host.contains ']' then refuse "unexpected ']' in address"
      else .ok (String.ofList host, port)

/-- Does a text read as an IPv4 address? -/
def isIpv4 (s : String) : Bool :=
  let parts := s.splitOn "."
  parts.length == 4 && parts.all fun p =>
    !p.isEmpty && p.length ≤ 3 && p.all Char.isDigit && p.toNat! ≤ 255

/-- Why listening on an address fails, if it does (see the module comment). -/
def listenFailure (addr : String) : Option String :=
  let failure := match splitHostPort addr with
    | .error e => some e
    | .ok (host, port) =>
      let digits := match port.toList with
        | '+' :: rest => rest
        | '-' :: rest => rest
        | cs => cs
      let portFailure : Option String :=
        if port.isEmpty then none
        else if !digits.isEmpty && digits.all Char.isDigit then
          if port.startsWith "-" || (String.ofList digits).toNat! > 65535 then some ("address " ++ port ++ ": invalid port")
          else none
        else if servicePorts.any (·.1 == Text.CharClass.lowerString port) then none
        else some ("lookup tcp/" ++ port ++ ": unknown port")
      match portFailure with
      | some e => some e
      | none =>
        if host.isEmpty || host == "localhost" || isIpv4 host || host.contains ':' then none
        else some ("lookup " ++ host ++ ": no such host")
  failure.map ("listen tcp: " ++ ·)

/-- Runs `extractord` until it is listening (see the module comment); its exit status. -/
def daemon : MachineM σ Nat := do
  loadEnvFiles []
  modify fun m =>
    { m with logger := Log.Handler.ofNames ((m.lookupEnv "LOG_FORMAT").getD "") (m.envOr "LOG_LEVEL" "info") }
  let m ← get
  let settings := Settings.load m.environment
  let addr := settings.server.grpcAddr
  let addr := if addr.contains ':' then addr else ":" ++ addr
  let (records, opened, left) := Service.openServiceLogged settings m.surroundings true
  logAll records
  if let some db := left then keepDatabase settings.database.dsn db
  match opened with
  | .error e =>
    logRecord .error "failed to start" [Log.text "error" e.message]
    pure 1
  | .ok _ =>
    match listenFailure addr with
    | some why =>
      logRecord .error "failed to listen on address" [Log.text "addr" addr, Log.text "error" why]
      pure 1
    | none =>
      logRecord .info "extractord started" [Log.text "addr" addr, Log.int "workers" settings.pipeline.workers,
        Log.text "ocr" settings.ocr.backend, Log.text "llm" settings.llm.provider,
        Log.text "storage" settings.storage.backend]
      pure 0

end CreditExtraction.Cli
