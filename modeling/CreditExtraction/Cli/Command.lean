import CreditExtraction.Cli.Flag

/-!
# Commands and their command lines

A program is a tree of commands, each named by its path of names from the root (the root's
path is empty). A command has a use line, a short and a long description, its own flags and
the flags it hands down to the commands below it, a rule for how many positional arguments it
takes, and it may run or only group other commands. Every command also has the switch
`-h, --help`.

A command line is read in three steps.

1. **Finding the command.** Starting at the root, the first argument that is neither a flag
   nor a flag's value names the next command, if a command below has that name; its first
   such occurrence is then dropped from the arguments. A flag `--name` or `-x` without `=` is
   taken to be followed by its value unless it is a known switch; when that value is the
   last argument, the search stops there. At the root, an argument that names no command is
   refused as `unknown command "<arg>" for "<program>"`, with suggestions of close command
   names.
2. **Reading the flags.** The remaining arguments are read in order: `--` ends the flags,
   `--name=value`, `--name value`, `-x value`, `-xvalue`, `-x=value` and runs of short
   switches `-abc` set flags, and everything else is a positional argument. Failures are
   `unknown flag: --name`, `unknown shorthand flag: 'x' in -xyz`, `flag needs an argument:
   --name`, `bad flag syntax: ---x` and ``invalid argument "v" for "--name" flag: <why>``.
3. **Checking the arguments.** A command asked for help, or one that does not run, shows its
   help instead; otherwise its rule is checked: no arguments (`unknown command "<arg>" for
   "<path>"`), exactly `n` (`accepts n arg(s), received m`), at least `n` (`requires at least
   n arg(s), only received m`) or at most `n` (`accepts at most n arg(s), received m`).
-/

namespace CreditExtraction.Cli

/-- How many positional arguments a command takes. -/
inductive Arity where
  /-- Any, checked only at the root, where they must name commands. -/
  | unchecked
  | none
  | exactly (n : Nat)
  | atLeast (n : Nat)
  | atMost (n : Nat)
deriving Inhabited

/-- A command of a program. -/
structure Command where
  /-- The names from the root to the command. -/
  path : List String
  /-- The use line: the command's name and what it takes. -/
  use : String
  short : String
  long : String
  /-- Flags of this command only. -/
  flags : List Flag
  /-- Flags of this command handed down to the commands below it. -/
  inherited : List Flag
  arity : Arity
  runs : Bool
  hidden : Bool
deriving Inhabited

/-- A program: its name and its commands, the root among them. -/
structure Program where
  name : String
  commands : List Command
deriving Inhabited

/-- The name of a command: the last name of its path, or the program's name. -/
def Program.nameOf (p : Program) (c : Command) : String := c.path.getLastD p.name

/-- The command path as written: the program's name followed by the path. -/
def Program.commandPath (p : Program) (c : Command) : String := " ".intercalate (p.name :: c.path)

/-- The command at a path. -/
def Program.command? (p : Program) (path : List String) : Option Command :=
  p.commands.find? (·.path == path)

/-- The command at a path, or the root. -/
def Program.commandAt (p : Program) (path : List String) : Command :=
  (p.command? path).getD default

/-- The commands directly below a command, in order of their names. -/
def Program.children (p : Program) (c : Command) : List Command :=
  (p.commands.filter fun d => d.path.length == c.path.length + 1 && d.path.take c.path.length == c.path).mergeSort
    fun a b => a.path.getLastD "" ≤ b.path.getLastD ""

/-- The help switch of a command. -/
def helpFlag (name : String) : Flag := ⟨"help", some 'h', .switch false, "help for " ++ name⟩

/-- The flags a command inherits: those handed down by the commands above it, nearest
first. -/
def Program.inheritedFlags (p : Program) (c : Command) : List Flag :=
  let above := (List.range c.path.length).reverse.filterMap fun i => p.command? (c.path.take i)
  above.flatMap (·.inherited)

/-- The command's own flags: its flags, those it hands down, and the help switch. -/
def Program.localFlags (p : Program) (c : Command) : List Flag :=
  c.flags ++ c.inherited ++ [helpFlag (p.nameOf c)]

/-- Every flag a command reads. -/
def Program.allFlags (p : Program) (c : Command) : List Flag :=
  p.localFlags c ++ (p.inheritedFlags c).filter fun f => !(p.localFlags c).any (·.name == f.name)

/-- The flag of a long name. -/
def findLong (flags : List Flag) (name : String) : Option Flag := flags.find? (·.name == name)

/-- The flag of a short letter. -/
def findShort (flags : List Flag) (c : Char) : Option Flag := flags.find? (·.short == some c)

/-- Does `--name` name a known switch? -/
def isLongSwitch (flags : List Flag) (name : String) : Bool :=
  match findLong flags name with
  | some f => f.default.isSwitch
  | none => false

/-- Does `-x` name a known switch? -/
def isShortSwitch (flags : List Flag) (letter : String) : Bool :=
  match letter.toList with
  | [c] => match findShort flags c with
    | some f => f.default.isSwitch
    | none => false
  | _ => false

/-- Is an argument a flag that takes the next argument as its value? -/
def takesValue (flags : List Flag) (s : String) : Bool :=
  let noEq := !s.contains '='
  (s.startsWith "--" && noEq && !isLongSwitch flags (String.ofList (s.toList.drop 2))) ||
    (s.startsWith "-" && noEq && s.length == 2 && !isShortSwitch flags (String.ofList (s.toList.drop 1)))

/-- The arguments that are neither flags nor flags' values, up to `--`. -/
def commandWords (flags : List Flag) : List String → List String
  | [] => []
  | s :: rest =>
    if s == "--" then []
    else if takesValue flags s then
      match rest with
      | [] | [_] => []
      | _ :: more => commandWords flags more
    else if s != "" && !s.startsWith "-" then s :: commandWords flags rest
    else commandWords flags rest

/-- The arguments without the first occurrence of a command's name that is not a flag's
value. -/
def dropName (flags : List Flag) (x : String) : List String → List String
  | [] => []
  | s :: rest =>
    if s == "--" then s :: rest
    else if takesValue flags s then
      match rest with
      | [] => [s]
      | v :: more => s :: v :: dropName flags x more
    else if !s.startsWith "-" && s == x then rest
    else s :: dropName flags x rest

/-! ## Suggestions -/

/-- The edit distance of two texts, case ignored: counted in bytes of their UTF-8 encodings
after lower-casing, so a changed non-ASCII letter may cost two edits. -/
def editDistance (a b : String) : Nat :=
  let xs := (Text.CharClass.lowerString a).toUTF8.toList
  let ys := (Text.CharClass.lowerString b).toUTF8.toList
  let first : List Nat := List.range (ys.length + 1)
  let last := xs.zipIdx.foldl (fun (prev : List Nat) (x, i) =>
    let row := ys.zipIdx.foldl (fun (row : List Nat) (y, j) =>
      let del := prev.getD (j + 1) 0 + 1
      let ins := row.getLastD 0 + 1
      let sub := prev.getD j 0 + (if x == y then 0 else 1)
      row ++ [min (min del ins) sub]) [i + 1]
    row) first
  last.getLastD 0

/-- Can a command be offered: it is shown and it runs or groups shown commands. -/
def Program.available (p : Program) (c : Command) : Bool :=
  !c.hidden && c.path != ["help"] &&
    (c.runs || (p.children c).any fun d => !d.hidden && d.path != ["help"])

/-- The names of the commands below a command that are close to a mistyped name. -/
def Program.suggestions (p : Program) (c : Command) (typed : String) : List String :=
  ((p.children c).filter fun d =>
    p.available d && (editDistance typed (p.nameOf d) ≤ 2 || (Text.CharClass.lowerString (p.nameOf d)).startsWith (Text.CharClass.lowerString typed))).map
    (p.nameOf ·)

/-- The text that follows an unknown command: the suggestions, if any. -/
def Program.suggestionText (p : Program) (c : Command) (typed : String) : String :=
  match p.suggestions c typed with
  | [] => ""
  | ss => "\n\nDid you mean this?\n" ++ String.join (ss.map fun s => "\t" ++ s ++ "\n")

/-! ## Finding the command -/

/-- Follows the command words down from a command; `fuel` bounds the depth. -/
def Program.descend (p : Program) : Nat → Command → List String → Command × List String
  | 0, c, args => (c, args)
  | fuel + 1, c, args =>
    match commandWords (p.allFlags c) args with
    | [] => (c, args)
    | w :: _ =>
      match p.command? (c.path ++ [w]) with
      | some d => p.descend fuel d (dropName (p.allFlags c) w args)
      | none => (c, args)

/-- The command a command line names and the arguments left for it, or the refusal of an
unknown command at the root. -/
def Program.find (p : Program) (args : List String) : Except String (Command × List String) :=
  let (c, rest) := p.descend (args.length + 1) (p.commandAt []) args
  let words := commandWords (p.allFlags c) rest
  match c.arity, words with
  | .unchecked, w :: _ =>
    if c.path.isEmpty && !(p.children c).isEmpty then
      .error ("unknown command " ++ Text.Quoted.quote w ++ " for " ++ Text.Quoted.quote (p.commandPath c) ++
        p.suggestionText c w)
    else .ok (c, rest)
  | _, _ => .ok (c, rest)

/-! ## Reading the flags -/

/-- The flags set so far, with their values, in the order first set. -/
abbrev Settings := List (String × FlagValue)

/-- What a command line asks for once its flags are read. -/
structure Reading where
  set : Settings
  positional : List String
  /-- Was help asked for with an unknown `--help` or `-h`? -/
  helpAsked : Bool

/-- Sets a flag from a text. -/
def setFlag (r : Reading) (f : Flag) (value : String) : Except String Reading := do
  let current := match r.set.find? (·.1 == f.name) with
    | some (_, v) => v
    | none => f.default
  let changed := r.set.any (·.1 == f.name)
  match current.set changed value with
  | .ok v =>
    let set := if changed then r.set.map fun (n, w) => if n == f.name then (n, v) else (n, w)
      else r.set ++ [(f.name, v)]
    pure { r with set }
  | .error why =>
    throw ("invalid argument " ++ Text.Quoted.quote value ++ " for " ++ Text.Quoted.quote f.shownName ++
      " flag: " ++ why)

/-- Reads one long flag `--…`; the arguments after it that are left. -/
def readLong (flags : List Flag) (r : Reading) (s : String) (rest : List String) :
    Except String (Reading × List String) := do
  let body := String.ofList (s.toList.drop 2)
  if body.isEmpty || body.startsWith "-" || body.startsWith "=" then
    throw ("bad flag syntax: " ++ s)
  let (name, given) := match body.splitOn "=" with
    | n :: v :: more => (n, some ("=".intercalate (v :: more)))
    | _ => (body, none)
  match findLong flags name with
  | none =>
    if name == "help" then pure ({ r with helpAsked := true }, rest)
    else throw ("unknown flag: --" ++ name)
  | some f =>
    match given with
    | some v => pure (← setFlag r f v, rest)
    | none =>
      if f.default.isSwitch then pure (← setFlag r f "true", rest)
      else match rest with
        | v :: more => pure (← setFlag r f v, more)
        | [] => throw ("flag needs an argument: " ++ s)

/-- Reads a run of short flags `-…`, each letter in turn; the arguments after it that are
left. -/
def readShorts (flags : List Flag) (whole : String) (args : List String) :
    Nat → Reading → List Char → List String → Except String (Reading × List String)
  | 0, r, _, left => pure (r, left)
  | _, r, [], left => pure (r, left)
  | fuel + 1, r, c :: more, left => do
    match findShort flags c with
    | none =>
      if c == 'h' then pure ({ r with helpAsked := true }, left)
      else throw ("unknown shorthand flag: " ++ Text.Quoted.quoteRune c ++ " in -" ++ String.ofList (c :: more))
    | some f =>
      match more with
      | '=' :: v :: vs => pure (← setFlag r f (String.ofList (v :: vs)), left)
      | _ =>
        if f.default.isSwitch then readShorts flags whole args fuel (← setFlag r f "true") more left
        else if !more.isEmpty then pure (← setFlag r f (String.ofList more), left)
        else match args with
          | v :: vs => pure (← setFlag r f v, vs)
          | [] => throw ("flag needs an argument: " ++ Text.Quoted.quoteRune c ++ " in -" ++ String.ofList (c :: more))

/-- Reads the flags of a command line (see the module comment). -/
def readFlags (flags : List Flag) : Nat → Reading → List String → Except String Reading
  | 0, r, _ => pure r
  | _, r, [] => pure r
  | fuel + 1, r, s :: rest =>
    if s.length ≤ 1 || !s.startsWith "-" then readFlags flags fuel { r with positional := r.positional ++ [s] } rest
    else if s == "--" then pure { r with positional := r.positional ++ rest }
    else if s.startsWith "--" then do
      let (r', left) ← readLong flags r s rest
      readFlags flags fuel r' left
    else do
      let letters := (s.toList.drop 1)
      let (r', left) ← readShorts flags s rest (letters.length + 1) r letters rest
      readFlags flags fuel r' left

/-- The value of a flag after reading: the value set, or the default. -/
def Settings.value (set : Settings) (f : Flag) : FlagValue :=
  match set.find? (·.1 == f.name) with
  | some (_, v) => v
  | none => f.default

/-! ## Checking the arguments -/

/-- Checks the positional arguments of a command against its rule. -/
def Program.checkArity (p : Program) (c : Command) (args : List String) : Except String Unit :=
  match c.arity with
  | .unchecked => .ok ()
  | .none =>
    match args with
    | [] => .ok ()
    | a :: _ => .error ("unknown command " ++ Text.Quoted.quote a ++ " for " ++ Text.Quoted.quote (p.commandPath c))
  | .exactly n =>
    if args.length == n then .ok ()
    else .error ("accepts " ++ toString n ++ " arg(s), received " ++ toString args.length)
  | .atLeast n =>
    if args.length ≥ n then .ok ()
    else .error ("requires at least " ++ toString n ++ " arg(s), only received " ++ toString args.length)
  | .atMost n =>
    if args.length ≤ n then .ok ()
    else .error ("accepts at most " ++ toString n ++ " arg(s), received " ++ toString args.length)

/-- A command line read: the command to run with its flags and arguments. -/
structure Invocation where
  command : Command
  /-- Every flag the command reads, with its value. -/
  values : List (String × FlagValue)
  /-- The flags given on the command line. -/
  given : List String
  args : List String

/-- The value of a flag of an invocation. -/
def Invocation.flag (i : Invocation) (name : String) : FlagValue :=
  ((i.values.find? (·.1 == name)).map (·.2)).getD default

/-- Was a flag given on the command line? -/
def Invocation.changed (i : Invocation) (name : String) : Bool := i.given.contains name

/-- What a command line comes to. -/
inductive Parsed where
  /-- Run a command. -/
  | run (i : Invocation)
  /-- Show the help of a command. -/
  | help (c : Command)
  /-- Refuse the command line with a message. -/
  | refused (msg : String)

/-- Reads a command line (see the module comment); `defaults` replaces the defaults of some
flags. -/
def Program.parse (p : Program) (defaults : List (String × FlagValue)) (args : List String) : Parsed :=
  let withDefaults (f : Flag) : Flag :=
    match defaults.find? (·.1 == f.name) with
    | some (_, v) => { f with default := v }
    | none => f
  match p.find args with
  | .error msg => .refused msg
  | .ok (c, rest) =>
    let flags := (p.allFlags c).map withDefaults
    match readFlags flags (rest.length + 1) ⟨[], [], false⟩ rest with
    | .error msg => .refused msg
    | .ok r =>
      if r.helpAsked || (r.set.value (helpFlag "")).asBool || !c.runs then .help c
      else match p.checkArity c r.positional with
        | .error msg => .refused msg
        | .ok () =>
          .run ⟨c, flags.map fun f => (f.name, r.set.value f), r.set.map (·.1), r.positional⟩

end CreditExtraction.Cli
