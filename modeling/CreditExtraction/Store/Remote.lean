import CreditExtraction.Net.Url
import CreditExtraction.Files.Tree
import CreditExtraction.Text.Integer

/-!
# A database server that cannot be reached

The metadata store may name a database server with a `postgres://` or `postgresql://` URL. Such
a connection string is read the way the server's client library reads it: defaults (a socket
directory as host, port `5432`, the operating system's user), then the URL's user, password,
hosts and ports, database and query pairs over them. `connect_timeout`, the ports, the TLS
mode, the server kind and the pool's `pool_max_conns` are checked. A failure reads
``cannot parse `<connection string>`: <what> (<reason>)``, the password masked.

No server answers here: every attempt to connect fails. A socket directory holds no socket,
`localhost` is reached at `127.0.0.1` and `::1`, and other names are not found. Hosts are tried
in order, each with every TLS mode the settings allow, and the failure lists every attempt,
one per line when there are several.
-/

namespace CreditExtraction.Store

open Net

/-- The settings read from a server connection string. -/
structure ServerSettings where
  user : String
  database : String
  /-- The hosts with their ports, in order. -/
  hosts : List (String × Nat)
  /-- How many connection attempts each host gets, one per TLS mode tried. -/
  modesPerHost : Nat
  /-- The settings that are not the client's own. -/
  params : List (String × String)
deriving Inhabited

/-- Is a connection string one of a database server? -/
def isServerDsn (dsn : String) : Bool :=
  dsn.startsWith "postgres://" || dsn.startsWith "postgresql://"

/-- Replaces every match of `:[^:@]+@` by `:xxxxxx@`; each step consumes at least one
character, so the length of the text bounds the steps. -/
def hideBetweenColonAndAt (cs : List Char) : List Char := go cs.length cs
where
  /-- The remaining steps bound the recursion. -/
  go : Nat → List Char → List Char
    | 0, cs => cs
    | _ + 1, [] => []
    | fuel + 1, ':' :: rest =>
      let run := rest.takeWhile fun c => c != ':' && c != '@'
      match rest.drop run.length with
      | '@' :: after => if run.isEmpty then ':' :: go fuel rest
        else ":xxxxxx@".toList ++ go fuel after
      | _ => ':' :: go fuel rest
    | fuel + 1, c :: rest => c :: go fuel rest

/-- Replaces the value after every `password=`, up to the next space (or its closing quote when
it is quoted), by `xxxxx`; the length of the text bounds the steps. -/
def hidePasswordValues (cs : List Char) : List Char := go cs.length cs
where
  /-- The remaining steps bound the recursion. -/
  go : Nat → List Char → List Char
    | 0, cs => cs
    | _ + 1, [] => []
    | fuel + 1, cs@(c :: rest) =>
      if cs.take 9 == "password=".toList then
        let after := cs.drop 9
        let after := match after with
          | '\'' :: q =>
            match q.findIdx? (· == '\'') with
            | some i => q.drop (i + 1)
            | none => after.dropWhile (· != ' ')
          | _ => after.dropWhile (· != ' ')
        "password=xxxxx".toList ++ go fuel after
      else c :: go fuel rest

/-- A connection string with its password hidden (see the module comment). -/
def redactDsn (dsn : String) : String :=
  let asUrl := if isServerDsn dsn then (Url.read dsn).toOption else none
  match asUrl with
  | some u =>
    if u.password?.isSome then
      let name := (u.user.splitOn ":").headD ""
      u.scheme ++ "://" ++ name ++ ":xxxxx@" ++ u.host ++ u.path ++
        (if u.rawQuery.isEmpty then "" else "?" ++ u.rawQuery) ++
        (if u.fragment.isEmpty then "" else "#" ++ u.fragment)
    else dsn
  | none => String.ofList (hideBetweenColonAndAt (hidePasswordValues dsn.toList))

/-- A failure to read a connection string. -/
def parseFailure (dsn what : String) (reason : Option String) : String :=
  "cannot parse `" ++ redactDsn dsn ++ "`: " ++ what ++
    (match reason with
     | some r => " (" ++ r ++ ")"
     | none => "")

/-- Splits a host of a URL into its name and port; a host that is only an address (or has no
colon) has no port. -/
def splitHostPort (h : String) : Except String (String × String) :=
  let cs := h.toList
  if cs.head? == some '[' then
    match cs.findIdx? (· == ']') with
    | some j =>
      let name := String.ofList ((cs.take j).drop 1)
      match cs.drop (j + 1) with
      | [] => .ok (name, "")
      | ':' :: p => .ok (name, String.ofList p)
      | _ => .error ("failed to split host:port in '" ++ h ++ "', err: address " ++ h ++ ": missing port in address")
    | none => .error ("failed to split host:port in '" ++ h ++ "', err: address " ++ h ++ ": missing ']' in address")
  else
    match h.splitOn ":" with
    | [name] => .ok (name, "")
    | [name, port] => .ok (name, port)
    | _ => .error ("failed to split host:port in '" ++ h ++ "', err: address " ++ h ++ ": too many colons in address")

/-- The settings a URL lays over the defaults, in order. -/
def urlSettings (u : Url) : Except String (List (String × String)) := do
  let mut out : List (String × String) := []
  if !u.user.isEmpty then out := out ++ [("user", u.userName)]
  if let some p := u.password? then out := out ++ [("password", p)]
  let mut hosts : List String := []
  let mut ports : List String := []
  for h in u.host.splitOn "," do
    if h.isEmpty then continue
    let (name, port) ← splitHostPort h
    if !name.isEmpty then hosts := hosts ++ [name]
    if !port.isEmpty then ports := ports ++ [port]
  if !hosts.isEmpty then out := out ++ [("host", ",".intercalate hosts)]
  if !ports.isEmpty then out := out ++ [("port", ",".intercalate ports)]
  let path := (percentDecode u.path false).getD u.path
  let database := String.ofList (path.toList.dropWhile (· == '/'))
  if !database.isEmpty then out := out ++ [("database", database)]
  let mut seen : List String := []
  for (k, v) in queryPairs u.rawQuery do
    if seen.contains k then continue
    seen := seen ++ [k]
    out := out ++ [(if k == "dbname" then "database" else k, v)]
  pure out

/-- Lays settings over others: a later value of a name replaces an earlier one in place. -/
def laySettings (base layer : List (String × String)) : List (String × String) :=
  layer.foldl (fun acc (k, v) =>
    if acc.any (·.1 == k) then acc.map fun (k', v') => if k' == k then (k', v) else (k', v')
    else acc ++ [(k, v)]) base

/-- The value of a setting, empty when unset. -/
def settingOf (s : List (String × String)) (k : String) : String :=
  ((s.find? (·.1 == k)).map (·.2)).getD ""

/-- The names the client keeps for itself; the others are passed to the server. -/
def clientSettingNames : List String :=
  ["host", "port", "database", "user", "password", "passfile", "connect_timeout", "sslmode", "sslkey",
   "sslcert", "sslrootcert", "sslnegotiation", "sslpassword", "sslsni", "krbspn", "krbsrvname",
   "target_session_attrs", "service", "servicefile"]

/-- Reads an unsigned decimal of at most `bits` bits, with the reason it does not read. -/
def readUnsigned (fn s : String) (bits : Nat) : Except String Nat :=
  if s.isEmpty || !s.all Char.isDigit then
    .error ("strconv." ++ fn ++ ": parsing " ++ Text.Quoted.quote s ++ ": invalid syntax")
  else
    let n := s.toNat!
    if n ≥ Nat.pow 2 bits then .error ("strconv." ++ fn ++ ": parsing " ++ Text.Quoted.quote s ++ ": value out of range")
    else .ok n

/-- How many TLS modes a TCP host is tried with under a TLS setting, or none for an unknown one. -/
def tlsModes (sslmode : String) : Option Nat :=
  match sslmode with
  | "" | "prefer" | "allow" => some 2
  | "disable" | "require" | "verify-ca" | "verify-full" => some 1
  | _ => none

/-- The server kinds a connection may ask for. -/
def sessionKinds : List String := ["read-write", "read-only", "primary", "standby", "prefer-standby", "any"]

/-- Reads a server connection string over defaults (see the module comment). -/
def readServerDsn (dsn : String) (defaults : List (String × String)) : Except String ServerSettings := do
  let u ← (Url.read dsn).mapError fun e => parseFailure dsn "failed to parse as URL" (some e)
  let fromUrl ← (urlSettings u).mapError fun e => parseFailure dsn "failed to parse as URL" (some e)
  let s := laySettings defaults fromUrl
  let timeout := settingOf s "connect_timeout"
  if s.any (·.1 == "connect_timeout") then
    match Text.parseDecimal timeout 64 with
    | some n => if n < 0 then throw (parseFailure dsn "invalid connect_timeout" (some "negative timeout"))
    | none =>
      let reason := if timeout.isEmpty || !(timeout.toList.all fun c => c.isDigit || c == '-' || c == '+') ||
          (timeout.toList.drop 1).any (fun c => c == '-' || c == '+')
        then "strconv.ParseInt: parsing " ++ Text.Quoted.quote timeout ++ ": invalid syntax"
        else "strconv.ParseInt: parsing " ++ Text.Quoted.quote timeout ++ ": value out of range"
      throw (parseFailure dsn "invalid connect_timeout" (some reason))
  let hostNames := (settingOf s "host").splitOn ","
  let portTexts := (settingOf s "port").splitOn ","
  let mut hosts : List (String × Nat) := []
  let mut modes := 1
  for (h, i) in hostNames.zipIdx do
    let portText := portTexts.getD i (portTexts.headD "")
    let port ← match readUnsigned "ParseUint" portText 16 with
      | .ok 0 => throw (parseFailure dsn "invalid port" (some "outside range"))
      | .ok p => pure p
      | .error e => throw (parseFailure dsn "invalid port" (some e))
    if !h.startsWith "/" then
      match tlsModes (settingOf s "sslmode") with
      | some n => modes := n
      | none => throw (parseFailure dsn "failed to configure TLS" (some "sslmode is invalid"))
    hosts := hosts ++ [(h, port)]
  let kind := settingOf s "target_session_attrs"
  if !sessionKinds.contains kind then
    throw (parseFailure dsn ("unknown target_session_attrs value: " ++ kind) none)
  let params := s.filter fun (k, _) => !clientSettingNames.contains k
  if let some (_, v) := params.find? (·.1 == "pool_max_conns") then
    match Text.parseDecimal v 32 with
    | some n => if n < 1 then throw (parseFailure dsn "pool_max_conns too small" none)
    | none => throw (parseFailure dsn "cannot parse pool_max_conns"
        (some ("strconv.ParseInt: parsing " ++ Text.Quoted.quote v ++ ": invalid syntax")))
  pure { user := settingOf s "user", database := settingOf s "database", hosts, modesPerHost := modes, params }

/-- The addresses a host name is reached at, or the reason it is not found. -/
def addressesOf (host : String) : Except String (List String) :=
  if host == "localhost" then .ok ["127.0.0.1", "::1"]
  else if host.all (fun c => c.isDigit || c == '.') && (host.splitOn ".").length == 4 then .ok [host]
  else if host.toList.contains ':' then .ok [host]
  else .error ("lookup " ++ host ++ ": no such host")

/-- An address with its port, an IPv6 address in brackets. -/
def joinHostPort (addr : String) (port : Nat) : String :=
  if addr.toList.contains ':' then "[" ++ addr ++ "]:" ++ toString port else addr ++ ":" ++ toString port

/-- Why connecting to the settings' servers fails (see the module comment). -/
def unreachable (s : ServerSettings) : String :=
  let head := "failed to connect to `user=" ++ s.user ++ " database=" ++ s.database ++ "`:"
  let attempts : List (Except String String) := s.hosts.flatMap fun (h, port) =>
    if h.startsWith "/" then
      let addr := Files.Path.join h (".s.PGSQL." ++ toString port)
      [.ok (addr ++ " (" ++ h ++ "): dial error: dial unix " ++ addr ++ ": connect: no such file or directory")]
    else
      let perMode : List (Except String String) := match addressesOf h with
        | .ok addrs => addrs.map fun a =>
          let addr := joinHostPort a port
          .ok (addr ++ " (" ++ h ++ "): dial error: dial tcp " ++ addr ++ ": connect: connection refused")
        | .error e => [.error e]
      (List.replicate s.modesPerHost perMode).flatten
  let reached := attempts.filterMap fun a => match a with
    | .ok t => some t
    | .error _ => none
  match reached, attempts.findSome? (fun a => match a with
      | .error e => some e
      | .ok _ => none) with
  | [], some e => head ++ " hostname resolving error: " ++ e
  | [one], _ => head ++ " " ++ one
  | many, _ => head ++ "\n\t" ++ "\n\t".intercalate many

end CreditExtraction.Store
