import CreditExtraction.Text.FloatText

/-!
# JSON values and their compact text

`Json` is a JSON document as read or as about to be written. An object keeps its members in
the order they were read or built, duplicates included; a number keeps the literal it was
written with, so a value read and written again keeps its numbers' text.

Writing (`Json.render`) is compact: no blank between tokens, members in stored order. Text is
escaped the way web-safe JSON writers do: `"` and `\` are backslashed, backspace, form feed,
newline, return and tab take their short escapes, other control characters and the characters
`<`, `>`, `&`, U+2028 and U+2029 take `\u00XX`-style escapes.

Callers that hold a dictionary rather than a record sort its members with `Json.sortMembers`
before writing; `Json.ofFloat` writes a float with the fewest digits that read back.
-/

namespace CreditExtraction

/-- A JSON document. -/
inductive Json where
  | null
  | bool (b : Bool)
  | num (literal : String)
  | str (s : String)
  | arr (items : List Json)
  | obj (members : List (String × Json))
deriving Inhabited, Repr

namespace Json

open Text

/-- A 64-bit float as a JSON number with the fewest digits that read back. -/
def ofFloat (x : Float) : Json := .num (jsonNumberText .binary64 x)

/-- A 32-bit float (held exactly in a `Float`) as a JSON number. -/
def ofFloat32 (x : Float) : Json := .num (jsonNumberText .binary32 x)

/-- An integer as a JSON number. -/
def ofInt (n : Int) : Json := .num (toString n)

/-- A natural number as a JSON number. -/
def ofNat (n : Nat) : Json := .num (toString n)

/-- A string, or `null` when absent. -/
def ofOption {α : Type} (f : α → Json) : Option α → Json
  | some a => f a
  | none => .null

/-- A list of strings. -/
def ofStrings (xs : List String) : Json := .arr (xs.map .str)

/-- The lower-case hexadecimal digits of `n` padded to four. -/
def hex4 (n : Nat) : List Char := Quoted.hexFixed 4 n

/-- The escaped form of one character inside a JSON string. -/
def escapeChar (c : Char) : List Char :=
  match c with
  | '"' => ['\\', '"']
  | '\\' => ['\\', '\\']
  | '\x08' => ['\\', 'b']
  | '\x0c' => ['\\', 'f']
  | '\n' => ['\\', 'n']
  | '\r' => ['\\', 'r']
  | '\t' => ['\\', 't']
  | '<' | '>' | '&' => '\\' :: 'u' :: hex4 c.toNat
  | _ =>
    if c.toNat < 0x20 ∨ c.toNat = 0x2028 ∨ c.toNat = 0x2029 then '\\' :: 'u' :: hex4 c.toNat
    else [c]

/-- The quoted and escaped JSON text of a string. -/
def quote (s : String) : String :=
  String.ofList ('"' :: s.toList.flatMap escapeChar ++ ['"'])

mutual
/-- The compact text of a document. -/
def render : Json → String
  | .null => "null"
  | .bool true => "true"
  | .bool false => "false"
  | .num lit => lit
  | .str s => quote s
  | .arr items => "[" ++ renderItems items ++ "]"
  | .obj members => "\x7b" ++ renderMembers members ++ "\x7d"

/-- The items of an array, comma separated. -/
def renderItems : List Json → String
  | [] => ""
  | [j] => render j
  | j :: rest => render j ++ "," ++ renderItems rest

/-- The members of an object, comma separated. -/
def renderMembers : List (String × Json) → String
  | [] => ""
  | [(k, v)] => quote k ++ ":" ++ render v
  | (k, v) :: rest => quote k ++ ":" ++ render v ++ "," ++ renderMembers rest
end

/-- Inserts a member into a list sorted by key. -/
def insertMember (m : String × Json) : List (String × Json) → List (String × Json)
  | [] => [m]
  | n :: rest => if m.1 ≤ n.1 then m :: n :: rest else n :: insertMember m rest

/-- Sorts members by key, keeping the order of equal keys. -/
def sortByKey (ms : List (String × Json)) : List (String × Json) :=
  ms.foldr insertMember []

mutual
/-- Sorts the members of every object by key, as dictionaries are written. -/
def sortMembers : Json → Json
  | .arr items => .arr (sortItems items)
  | .obj members => .obj (sortByKey (sortPairs members))
  | j => j

/-- `sortMembers` on every item. -/
def sortItems : List Json → List Json
  | [] => []
  | j :: rest => sortMembers j :: sortItems rest

/-- `sortMembers` on every member's value. -/
def sortPairs : List (String × Json) → List (String × Json)
  | [] => []
  | (k, v) :: rest => (k, sortMembers v) :: sortPairs rest
end

/-- The value of the last member named `k`. -/
def lookup (members : List (String × Json)) (k : String) : Option Json :=
  members.foldl (fun acc (k', v) => if k' == k then some v else acc) none

/-- The value of member `k` of an object; `none` for a missing member or a non-object. -/
def get? (j : Json) (k : String) : Option Json :=
  match j with
  | .obj ms => lookup ms k
  | _ => none

/-- A string member's value. -/
def getStr? (j : Json) (k : String) : Option String :=
  match j.get? k with
  | some (.str s) => some s
  | _ => none

/-- A string member's value, or `""`. -/
def getStrD (j : Json) (k : String) : String := (j.getStr? k).getD ""

/-- A boolean member's value. -/
def getBool? (j : Json) (k : String) : Option Bool :=
  match j.get? k with
  | some (.bool b) => some b
  | _ => none

/-- The float of a number literal. -/
def numFloat (lit : String) : Float :=
  match readFloat .binary64 lit with
  | .ok x => x
  | .error (_, x) => x

/-- A number member's value as a float. -/
def getFloat? (j : Json) (k : String) : Option Float :=
  match j.get? k with
  | some (.num lit) => some (numFloat lit)
  | _ => none

/-- The integer of a number literal written without fraction or exponent. -/
def numInt? (lit : String) : Option Int :=
  match lit.toList with
  | '-' :: ds => if !ds.isEmpty && ds.all Char.isDigit then some (-(String.ofList ds).toNat!) else none
  | ds => if !ds.isEmpty && ds.all Char.isDigit then some (String.ofList ds).toNat! else none

/-- An integer member's value. -/
def getInt? (j : Json) (k : String) : Option Int :=
  match j.get? k with
  | some (.num lit) =>
    match numInt? lit with
    | some n => some n
    | none =>
      -- an integral float such as `1e3` or `2.0`
      let x := numFloat lit
      if x == x.floor && x.abs < 9.2e18 then some (if x < 0 then -((-x).toUInt64.toNat : Int) else x.toUInt64.toNat)
      else none
  | _ => none

/-- An array member's items. -/
def getArr? (j : Json) (k : String) : Option (List Json) :=
  match j.get? k with
  | some (.arr xs) => some xs
  | _ => none

/-- Is the member present (with any value, `null` included)? -/
def has (j : Json) (k : String) : Bool := (j.get? k).isSome

/-- The items of an array, or `[]`. -/
def items : Json → List Json
  | .arr xs => xs
  | _ => []

mutual
/-- Rewrites every number literal as the 64-bit float it denotes would be written, as happens
when a document is read into floats and written again. -/
def canonicalNumbers : Json → Json
  | .num lit => ofFloat (numFloat lit)
  | .arr items => .arr (canonicalItems items)
  | .obj members => .obj (canonicalPairs members)
  | j => j

/-- `canonicalNumbers` on every item. -/
def canonicalItems : List Json → List Json
  | [] => []
  | j :: rest => canonicalNumbers j :: canonicalItems rest

/-- `canonicalNumbers` on every member's value. -/
def canonicalPairs : List (String × Json) → List (String × Json)
  | [] => []
  | (k, v) :: rest => (k, canonicalNumbers v) :: canonicalPairs rest
end

end Json

end CreditExtraction
