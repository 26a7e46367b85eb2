import CreditExtraction.Json.Parse

/-!
# Documents as dynamic values

A document read without a target type becomes a dynamic value: every number a 64-bit float,
every object a dictionary, where of two equal keys the later wins and the keys are written in
sorted order. `Json.dynamic` rewrites a parsed document into that form, so that writing it out
gives the text a dictionary would give: numbers in their shortest float form, members sorted.
A number beyond the float range cannot be read.
-/

namespace CreditExtraction.Json

/-- Keeps the last member of each key, in the place of its first occurrence removed: the
result has distinct keys, sorted. -/
def lastWins (ms : List (String × Json)) : List (String × Json) :=
  sortByKey (ms.foldl (fun acc (k, v) => (acc.filter (·.1 != k)) ++ [(k, v)]) [])

mutual
/-- The dynamic form of a document (see the module comment). -/
def dynamic : Json → Except String Json
  | .num lit =>
    match Text.readFloat .binary64 lit with
    | .ok x => .ok (.ofFloat x)
    | .error _ => .error ("json: cannot unmarshal number " ++ lit ++ " into Go value of type float64")
  | .arr items => .arr <$> dynamicItems items
  | .obj ms => (fun ms => .obj (lastWins ms)) <$> dynamicMembers ms
  | j => .ok j

/-- `dynamic` on every item. -/
def dynamicItems : List Json → Except String (List Json)
  | [] => .ok []
  | j :: rest => do
    let v ← dynamic j
    let vs ← dynamicItems rest
    pure (v :: vs)

/-- `dynamic` on every member's value. -/
def dynamicMembers : List (String × Json) → Except String (List (String × Json))
  | [] => .ok []
  | (k, j) :: rest => do
    let v ← dynamic j
    let vs ← dynamicMembers rest
    pure ((k, v) :: vs)
end

/-- The member of a dynamic object. -/
def member? (ms : List (String × Json)) (k : String) : Option Json := (ms.find? (·.1 == k)).map (·.2)

/-- Sets a member of a dynamic object, keeping the keys sorted. -/
def setMember (ms : List (String × Json)) (k : String) (v : Json) : List (String × Json) :=
  sortByKey ((ms.filter (·.1 != k)) ++ [(k, v)])

/-- Removes a member of a dynamic object. -/
def removeMember (ms : List (String × Json)) (k : String) : List (String × Json) := ms.filter (·.1 != k)

end CreditExtraction.Json
