import CreditExtraction.Json.Parse
import CreditExtraction.Text.FloatText
import CreditExtraction.Text.CharClass

/-!
# Settings trees

A configuration file — YAML, JSON, TOML or a dotenv file — is read into a `Setting` tree:
scalars, lists and tables of named settings. A scalar remembers the kind of value its format
gave it (an integer of the platform's word size, a 64-bit integer, a float, a date), because
decoding into records reports the kind it could not convert by that name.

Table keys are compared with case ignored: on reading, every key is lower-cased
(`Setting.foldKeys`). At the top level a dotted key path names nested tables, so the top
table is flattened into paths and rebuilt (`Setting.settings`); an empty nested table leaves
no path behind and disappears.
-/

namespace CreditExtraction.Config

/-- A settings tree. -/
inductive Setting where
  | null
  | bool (b : Bool)
  /-- An integer; `type` is the kind the format gives it (`int`, `int64`, `uint64`). -/
  | int (n : Int) (type : String)
  | float (x : Float)
  | str (s : String)
  /-- A date or time, with its text and the kind the format gives it. -/
  | time (text : String) (type : String)
  | list (items : List Setting)
  | table (members : List (String × Setting))
deriving Inhabited, Repr

namespace Setting

/-- The dynamic type of a value as decoding messages name it. -/
def typeName : Setting → String
  | .null => "<nil>"
  | .bool _ => "bool"
  | .int _ t => t
  | .float _ => "float64"
  | .str _ => "string"
  | .time _ t => t
  | .list _ => "[]interface \x7b\x7d"
  | .table _ => "map[string]interface \x7b\x7d"

/-- The kind of a value as decoding messages name it. -/
def kindName : Setting → String
  | .null => "invalid"
  | .bool _ => "bool"
  | .int _ t => if t == "uint64" then "uint64" else if t == "int64" then "int64" else "int"
  | .float _ => "float64"
  | .str _ => "string"
  | .time _ _ => "struct"
  | .list _ => "slice"
  | .table _ => "map"

/-- Sets a member of a table, replacing one of the same key in place. -/
def setMember (ms : List (String × Setting)) (k : String) (v : Setting) : List (String × Setting) :=
  if ms.any (·.1 == k) then ms.map fun (k', v') => if k' == k then (k', v) else (k', v')
  else ms ++ [(k, v)]

mutual
/-- Lower-cases every key of every table in the tree. -/
def foldKeys : Setting → Setting
  | .table ms => .table (foldMembers ms)
  | .list xs => .list (foldItems xs)
  | v => v

/-- Lower-cases the keys of a table's members, the later of two equal keys winning. -/
def foldMembers : List (String × Setting) → List (String × Setting)
  | [] => []
  | (k, v) :: rest =>
    let rest' := foldMembers rest
    let k' := Text.CharClass.lowerString k
    if rest'.any (·.1 == k') then rest' else (k', foldKeys v) :: rest'

/-- Lower-cases the keys of the tables in a list. -/
def foldItems : List Setting → List Setting
  | [] => []
  | x :: rest => foldKeys x :: foldItems rest
end

mutual
/-- The paths to the values of a table that are not themselves non-empty tables. -/
def leaves (pfx : List String) : List (String × Setting) → List (List String × Setting)
  | [] => []
  | (k, v) :: rest => leavesOf (pfx ++ [k]) v ++ leaves pfx rest

/-- The paths to the values below one member. -/
def leavesOf (path : List String) : Setting → List (List String × Setting)
  | .table ms => leaves path ms
  | .null => []
  | v => [(path, v)]
end

/-- Puts a value at a path, creating the tables on the way. -/
def place : List String → Setting → List (String × Setting) → List (String × Setting)
  | [], _, ms => ms
  | [k], v, ms => setMember ms k v
  | k :: rest, v, ms =>
    let inner := match ms.find? (·.1 == k) with
      | some (_, .table sub) => sub
      | _ => []
    setMember ms k (.table (place rest v inner))

/-- The top table as settings: flattened to dotted paths and rebuilt. -/
def settings (top : List (String × Setting)) : List (String × Setting) :=
  (leaves [] top).foldl (fun acc (path, v) =>
    place ((".".intercalate path).splitOn ".") v acc) []

mutual
/-- The plain text of a value: a list as its items between brackets, a table as
`map[key:value …]` with the keys sorted, nothing as `<nil>`. -/
def plainText : Setting → String
  | .null => "<nil>"
  | .bool b => if b then "true" else "false"
  | .int n _ => toString n
  | .float x => Text.formatGeneral x
  | .str s => s
  | .time t _ => t
  | .list xs => "[" ++ " ".intercalate (showItems xs) ++ "]"
  | .table ms => "map[" ++ " ".intercalate ((showMembers ms).mergeSort (· ≤ ·)) ++ "]"

/-- The texts of the items of a list. -/
def showItems : List Setting → List String
  | [] => []
  | x :: rest => plainText x :: showItems rest

/-- The `key:value` texts of the members of a table. -/
def showMembers : List (String × Setting) → List String
  | [] => []
  | (k, v) :: rest => (k ++ ":" ++ plainText v) :: showMembers rest
end

/-- The members of a table. -/
def members : Setting → List (String × Setting)
  | .table ms => ms
  | _ => []

/-- The member of a table. -/
def get? (s : Setting) (k : String) : Option Setting :=
  (s.members.find? (·.1 == k)).map (·.2)

end Setting

/-- The settings tree of a JSON document: numbers are 64-bit floats. -/
def Setting.ofJson : Json → Except String Setting
  | .null => .ok .null
  | .bool b => .ok (.bool b)
  | .num lit =>
    match Text.parseFloat64 lit with
    | .ok x => .ok (.float x)
    | .error _ => .error ("json: cannot unmarshal number " ++ lit ++ " into Go value of type float64")
  | .str s => .ok (.str s)
  | .arr xs => .list <$> ofJsonItems xs
  | .obj ms => .table <$> ofJsonMembers ms
where
  /-- The items of a JSON array. -/
  ofJsonItems : List Json → Except String (List Setting)
    | [] => .ok []
    | x :: rest => do
      let v ← Setting.ofJson x
      let vs ← ofJsonItems rest
      pure (v :: vs)
  /-- The members of a JSON object, the last of two equal keys winning. -/
  ofJsonMembers : List (String × Json) → Except String (List (String × Setting))
    | [] => .ok []
    | (k, x) :: rest => do
      let v ← Setting.ofJson x
      let vs ← ofJsonMembers rest
      pure (if vs.any (·.1 == k) then vs else (k, v) :: vs)

end CreditExtraction.Config
