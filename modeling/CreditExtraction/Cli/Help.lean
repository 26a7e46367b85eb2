import CreditExtraction.Cli.Command

/-!
# Help texts

The help of a command is its long description (or its short one) followed, for a command
that runs or groups others, by its usage:

    Usage:
      <use line> [flags]
      <path> [command]

    Available Commands:
      <name padded>  <short>

    Flags:
    <the command's own flags>

    Global Flags:
    <the flags it inherits>

    Use "<path> [command] --help" for more information about a command.

Each part appears only when it has something to show. Flags are listed by name, one a line:
the short letter and long name, the kind of value, then the usage text aligned one column
past the longest left part, with the default when it is not the zero of its kind (quoted for
text flags).
-/

namespace CreditExtraction.Cli

/-- Text without trailing white space. -/
def trimEnd (s : String) : String :=
  String.ofList (s.toList.reverse.dropWhile Char.isWhitespace).reverse

/-- Text padded with spaces on the right to a width. -/
def padRight (s : String) (width : Nat) : String :=
  s ++ String.ofList (List.replicate (width - s.length) ' ')

/-- The left part of a flag's line: its names and the kind of its value. -/
def Flag.leftPart (f : Flag) : String :=
  let names := match f.short with
    | some c => "  -" ++ c.toString ++ ", --" ++ f.name
    | none => "      --" ++ f.name
  let kind := f.default.typeName
  if kind.isEmpty then names else names ++ " " ++ kind

/-- The right part of a flag's line: its usage and, when worth showing, its default. -/
def Flag.rightPart (f : Flag) : String :=
  if f.default.isZero then f.usage
  else match f.default with
    | .text s => f.usage ++ " (default " ++ Text.Quoted.quote s ++ ")"
    | v => f.usage ++ " (default " ++ v.shown ++ ")"

/-- The lines of a list of flags, sorted by name and aligned. -/
def flagUsages (flags : List Flag) : String :=
  let sorted := flags.mergeSort fun a b => a.name ≤ b.name
  let width := sorted.foldl (fun w f => max w (f.leftPart.length + 1)) 0
  String.join (sorted.map fun f => padRight f.leftPart (width - 1) ++ "   " ++ f.rightPart ++ "\n")

/-- The widest name among a command's subcommands, at least eleven. -/
def Program.namePadding (p : Program) (c : Command) : Nat :=
  (p.children c).foldl (fun w d => max w (p.nameOf d).length) 11

/-- The use line of a command: its path with what it takes, and `[flags]`. -/
def Program.useLine (p : Program) (c : Command) : String :=
  let line := match c.path.dropLast with
    | [] => if c.path.isEmpty then c.use else p.name ++ " " ++ c.use
    | above => p.name ++ " " ++ " ".intercalate above ++ " " ++ c.use
  if (line.splitOn "[flags]").length > 1 then line else line ++ " [flags]"

/-- The commands listed below a command: the available ones and `help`. -/
def Program.listed (p : Program) (c : Command) : List Command :=
  (p.children c).filter fun d => p.available d || d.path == ["help"]

/-- The usage of a command (see the module comment). -/
def Program.usage (p : Program) (c : Command) : String :=
  let subs := (p.children c).filter (p.available ·)
  let flagsOwn := p.localFlags c
  let flagsAbove := (p.inheritedFlags c).filter fun f => !flagsOwn.any (·.name == f.name)
  let parts : List String :=
    ["Usage:"] ++
    (if c.runs then ["\n  " ++ p.useLine c] else []) ++
    (if subs.isEmpty then [] else ["\n  " ++ p.commandPath c ++ " [command]"]) ++
    (if subs.isEmpty then [] else
      ["\n\nAvailable Commands:"] ++ (p.listed c).map fun d =>
        "\n  " ++ padRight (p.nameOf d) (p.namePadding c) ++ " " ++ d.short) ++
    ["\n\nFlags:\n" ++ trimEnd (flagUsages flagsOwn)] ++
    (if flagsAbove.isEmpty then [] else ["\n\nGlobal Flags:\n" ++ trimEnd (flagUsages flagsAbove)]) ++
    (if subs.isEmpty then [] else
      ["\n\nUse " ++ Text.Quoted.quote (p.commandPath c ++ " [command] --help") ++
        " for more information about a command."]) ++
    ["\n"]
  String.join parts

/-- The help of a command (see the module comment). -/
def Program.help (p : Program) (c : Command) : String :=
  let desc := trimEnd (if c.long.isEmpty then c.short else c.long)
  (if desc.isEmpty then "" else desc ++ "\n\n") ++
    (if c.runs || !(p.children c).isEmpty then p.usage c else "")

end CreditExtraction.Cli
