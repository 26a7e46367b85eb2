import CreditExtraction.Schema.Config
import CreditExtraction.Config.Read

/-!
# Loading a registry

A registry is read from configuration text of a named format (`Registry.parse`) or from a
configuration file, whose name gives the format (`Registry.load`). Reading failures keep their
reason behind a note of what was being read; the settings then go through
`Registry.ofSettings`.
-/

namespace CreditExtraction

/-- Reads a registry from configuration text of the given format. -/
def Registry.parse (data format : String) : Except Failure Registry :=
  match Config.readConfig format data with
  | .error e => .error (.plain ("parse document types: " ++ e))
  | .ok top => Registry.ofSettings top

/-- Reads a registry from a configuration file; `contents` finds a file's text. -/
def Registry.load (path : String) (contents : String → Option String) : Except Failure Registry :=
  match Config.readConfigFile path contents with
  | .error e => .error (.plain ("read document types " ++ path ++ ": " ++ e))
  | .ok top => Registry.ofSettings top

end CreditExtraction
