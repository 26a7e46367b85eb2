import CreditExtraction.Json.Value

/-!
# Indented JSON

A document written for people: every member of an object and every item of an array on a
line of its own, indented two spaces a level, a space after each key's colon, and empty
objects and arrays kept on one line as `{}` and `[]`. Strings and numbers are written as in
the compact form.
-/

namespace CreditExtraction.Json

/-- Two spaces for each level of nesting. -/
def indentOf (level : Nat) : String := String.ofList (List.replicate (2 * level) ' ')

mutual
/-- The indented text of a document at a level of nesting. -/
def pretty (level : Nat) : Json → String
  | .arr [] => "[]"
  | .obj [] => "\x7b\x7d"
  | .arr items => "[\n" ++ prettyItems (level + 1) items ++ "\n" ++ indentOf level ++ "]"
  | .obj members => "\x7b\n" ++ prettyMembers (level + 1) members ++ "\n" ++ indentOf level ++ "\x7d"
  | j => render j

/-- The items of an array, one a line. -/
def prettyItems (level : Nat) : List Json → String
  | [] => ""
  | [j] => indentOf level ++ pretty level j
  | j :: rest => indentOf level ++ pretty level j ++ ",\n" ++ prettyItems level rest

/-- The members of an object, one a line. -/
def prettyMembers (level : Nat) : List (String × Json) → String
  | [] => ""
  | [(k, v)] => indentOf level ++ quote k ++ ": " ++ pretty level v
  | (k, v) :: rest => indentOf level ++ quote k ++ ": " ++ pretty level v ++ ",\n" ++ prettyMembers level rest
end

/-- A document written indented, with a final line break. -/
def prettyLine (j : Json) : String := pretty 0 j ++ "\n"

end CreditExtraction.Json
