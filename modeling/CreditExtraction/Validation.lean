import CreditExtraction.Config.Setting
import CreditExtraction.Text.Uuid
import CreditExtraction.Failure

/-!
# Argument checks

A `Validator` collects the failed checks of several named values, in order. A check looks at a
dynamic value (`Config.Setting`, where `null` is no value at all):

* `required` — a value is present and, if text, not blank;
* `uuid` — the value is text that reads as an identifier;
* `oneOf` — the value is one of the listed texts (a value that is not text counts as empty).

A failed check reads `validation failed for field '<name>' with value '<value>': <reason>`,
the value printed plainly; the validator's failure joins them with `; ` behind
`invalid input: `.
-/

namespace CreditExtraction

open Config

/-- A failed check: the value's name, the value and the reason. -/
structure CheckFailure where
  field : String
  value : Setting
  reason : String
deriving Inhabited

/-- The text of a failed check. -/
def CheckFailure.text (e : CheckFailure) : String :=
  "validation failed for field '" ++ e.field ++ "' with value '" ++ e.value.plainText ++ "': " ++ e.reason

/-- A check of a named value. -/
inductive Check where
  | required
  | uuid
  | oneOf (allowed : List String)
deriving Repr, Inhabited

/-- Runs a check, giving the reason it fails. -/
def Check.run : Check → Setting → Option String
  | .required, .null => some "is required"
  | .required, .str s => if Text.CharClass.trimSpace s == "" then some "is required" else none
  | .required, _ => none
  | .uuid, .str s => if (Uuid.parse s).toBool then none else some "must be a valid UUID"
  | .uuid, _ => some "must be a string"
  | .oneOf allowed, v =>
    let s := match v with
      | .str s => s
      | _ => ""
    if allowed.contains s then none else some ("must be one of " ++ ", ".intercalate allowed)

/-- The failed checks collected so far. -/
structure Validator where
  failures : List CheckFailure := []
deriving Inhabited

namespace Validator

/-- Runs checks on a named value, collecting the failures. -/
def field (v : Validator) (name : String) (value : Setting) (checks : List Check) : Validator :=
  ⟨v.failures ++ checks.filterMap fun c => (c.run value).map fun r => ⟨name, value, r⟩⟩

/-- Did any check fail? -/
def hasErrors (v : Validator) : Bool := !v.failures.isEmpty

/-- The failures' texts joined by `; `. -/
def message (v : Validator) : String := "; ".intercalate (v.failures.map CheckFailure.text)

/-- The failure of the validator, if a check failed. -/
def failure? (v : Validator) : Option Failure :=
  if v.hasErrors then some (.tagged .invalidInput v.message) else none

end Validator

/-- A violated constraint of the configuration: the record path, the value and the
constraint's name. -/
structure ConfigViolation where
  path : String
  value : String
  tag : String

/-- The text of a violation. -/
def ConfigViolation.text (v : ConfigViolation) : String :=
  "validation failed for field '" ++ v.path ++ "' with value '" ++ v.value ++ "': failed '" ++ v.tag ++ "'"

/-- Reads an identifier argument: it must be present and read as an identifier. -/
def parseUuidArg (name value : String) : Except Failure Uuid :=
  let v := ({} : Validator).field name (.str value) [.required, .uuid]
  match v.failure? with
  | some e => .error e
  | none =>
    match Uuid.parse value with
    | .ok u => .ok u
    | .error e => .error (.plain e)

end CreditExtraction
