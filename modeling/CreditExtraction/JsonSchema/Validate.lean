import CreditExtraction.JsonSchema.Number
import CreditExtraction.Json.Decode
import CreditExtraction.Text.FloatText
import CreditExtraction.Text.Regex

/-!
# Validating documents against a JSON Schema

A schema (draft 2020-12) is applied to a document as a tree of keyword checks. A failed check
is reported at the place of the value (a JSON pointer into the document) and at the keyword
path that led to it from the schema's root (through `$ref`, `allOf`, `properties`, …), with a
message; when several checks fail, the one reported is the first found, depth first, in this
order of keywords:

1. a `false` schema fails outright; `type` fails before any other check is made;
2. `const`, `enum`;
3. for objects `minProperties`, `maxProperties`, `required`, `properties`,
   `patternProperties`, `additionalProperties`, `dependentRequired`; for arrays `minItems`,
   `maxItems`, `uniqueItems`, `prefixItems` and `items`, `contains`; for strings
   `minLength`, `maxLength`, `pattern`; for numbers `minimum`, `exclusiveMinimum`, `maximum`,
   `exclusiveMaximum`, `multipleOf`;
4. `$ref`, `not`, `allOf`, `anyOf`, `oneOf`, `if`/`then`/`else`.

Numbers are compared exactly (`Decimal`); a number is an integer when it has no fraction.
A failed `anyOf` or `oneOf` is reported through its first alternative.
-/

namespace CreditExtraction.JsonSchema

open Json

/-- A failed check: the place of the value, the keyword path and the message. -/
structure Failure where
  place : String
  keyword : String
  message : String
deriving Repr, Inhabited

/-- Escapes one JSON pointer token and percent-encodes it as a path segment. -/
def escapeToken (t : String) : String :=
  let t := (t.replace "~" "~0").replace "/" "~1"
  String.join (t.toUTF8.toList.map fun b =>
    let c := Char.ofNat b.toNat
    if c.isAlphanum || c == '-' || c == '_' || c == '.' || c == '~' || c == '$' || c == '&' ||
        c == '+' || c == ':' || c == '=' || c == '@' then c.toString
    else "%" ++ String.ofList (Text.Quoted.hexFixed 2 b.toNat |>.map Char.toUpper))

/-- A place or keyword path quoted for a message: in single quotes, inner quotes escaped. -/
def quotePath (s : String) : String :=
  let q := Text.Quoted.quote s
  let inner := String.ofList ((q.toList.drop 1).dropLast)
  "'" ++ ((inner.replace "\\\"" "\"").replace "'" "\\'") ++ "'"

/-- The JSON type name of a value. -/
def typeOf : Json → String
  | .null => "null"
  | .bool _ => "boolean"
  | .num _ => "number"
  | .str _ => "string"
  | .arr _ => "array"
  | .obj _ => "object"

/-- The exact value of a number literal. -/
def numberOf (lit : String) : Decimal := (Decimal.ofText lit).getD ⟨false, 0, 0⟩

/-- Does a value have the named type (an integer being a number without fraction)? -/
def hasType (v : Json) (t : String) : Bool :=
  typeOf v == t || (t == "integer" && match v with
    | .num lit => (numberOf lit).isInt
    | _ => false)

mutual
/-- Equality of JSON values, numbers compared exactly. -/
def jsonEq : Json → Json → Bool
  | .num a, .num b => (numberOf a).compare (numberOf b) == .eq
  | .str a, .str b => a == b
  | .bool a, .bool b => a == b
  | .null, .null => true
  | .arr xs, .arr ys => xs.length == ys.length && itemsEq xs ys
  | .obj xs, .obj ys => xs.length == ys.length && membersEq xs ys ys
  | _, _ => false

/-- Pairwise equality of items. -/
def itemsEq : List Json → List Json → Bool
  | x :: xs, y :: ys => jsonEq x y && itemsEq xs ys
  | [], [] => true
  | _, _ => false

/-- Every member of the first object has an equal member in the second. -/
def membersEq : List (String × Json) → List (String × Json) → List (String × Json) → Bool
  | [], _, _ => true
  | (k, v) :: rest, ys, all => (match lookupIn k all with
    | some w => jsonEq v w
    | none => false) && membersEq rest ys all

/-- The value of a key. -/
def lookupIn (k : String) : List (String × Json) → Option Json
  | [] => none
  | (k', v) :: rest => if k == k' then some v else lookupIn k rest
end

/-- A value as the enumeration message prints it. -/
def goSyntax : Json → String
  | .str s => Text.Quoted.quote s
  | .num lit => Text.Quoted.quote lit
  | .bool b => if b then "true" else "false"
  | .null => "<nil>"
  | .arr _ => "[]interface \x7b\x7d\x7b…\x7d"
  | .obj _ => "map[string]interface \x7b\x7d\x7b…\x7d"

/-- A float as `%v` prints it. -/
def plainFloat (lit : String) : String := Text.formatGeneral (numFloat lit)

/-- Resolves a local reference (`#` or `#/pointer`) in the root schema. -/
def resolveRef (root : Json) (ref : String) : Option Json :=
  if ref == "#" then some root
  else if ref.startsWith "#/" then
    let tokens := ((String.ofList (ref.toList.drop 2)).splitOn "/").map fun t =>
      ((t.replace "%25" "%").replace "~1" "/").replace "~0" "~"
    tokens.foldlM (fun (j : Json) (t : String) => match j with
      | .obj ms => (ms.find? (·.1 == t)).map (·.2)
      | .arr xs => t.toNat?.bind (xs[·]?)
      | _ => none) root
  else none

/-- Joins a keyword path and a keyword. -/
def joinPath (path kw : String) : String := if kw == "" then path else path ++ "/" ++ kw

/-- The state of one check: the root schema, the keyword path so far, the place of the value. -/
structure Scope where
  root : Json
  path : String
  place : String

/-- A failure at a keyword of the current scope. -/
def Scope.fail (s : Scope) (kw msg : String) : Failure := ⟨s.place, joinPath s.path kw, msg⟩

/-- The scope of a subschema at keyword path `kw` for the value at `place`. -/
def Scope.sub (s : Scope) (kw : String) (place : String) : Scope := ⟨s.root, joinPath s.path kw, place⟩

/-- The first of a list of optional failures. -/
def firstFailure : List (Option Failure) → Option Failure
  | [] => none
  | some f :: _ => some f
  | none :: rest => firstFailure rest

mutual
/-- The first failure of a value against a schema (see the module comment); `none` when the
value is valid. -/
def check : Nat → Scope → Json → Json → Option Failure
  | 0, s, _, _ => some (s.fail "" "schema nesting too deep")
  | _, _, .bool true, _ => none
  | _, s, .bool false, _ => some (s.fail "" "not allowed")
  | fuel + 1, s, .obj sch, v =>
    let kw : String → Option Json := fun k => (sch.find? (·.1 == k)).map (·.2)
    -- 1. type
    let types : List String := match kw "type" with
      | some (.str t) => [t]
      | some (.arr ts) => ts.filterMap fun (t : Json) => match t with | .str t => some t | _ => none
      | _ => []
    if !types.isEmpty && !types.any (hasType v) then
      some (s.fail "type" ("expected " ++ " or ".intercalate types ++ ", but got " ++ typeOf v))
    else
    -- 2. const, enum
    let constF := match kw "const" with
      | some c => if jsonEq v c then none else
        some (s.fail "const" (match c with
          | .obj _ | .arr _ => "const failed"
          | c => "value must be " ++ goSyntax c))
      | none => none
    let enumF := match kw "enum" with
      | some (.arr items) =>
        if items.any (jsonEq v) then none
        else some (s.fail "enum" (match items with
          | [one] => "value must be " ++ goSyntax one
          | _ => "value must be one of " ++ ", ".intercalate (items.map goSyntax)))
      | _ => none
    -- 3. by type
    let typed := checkTyped fuel s kw v
    -- 4. applicators
    let refF := match kw "$ref" with
      | some (.str r) => match resolveRef s.root r with
        | some target => check fuel (s.sub "$ref" s.place) target v
        | none => some (s.fail "$ref" (r ++ " not found"))
      | _ => none
    let notF := match kw "not" with
      | some n => if (check fuel (s.sub "not" s.place) n v).isNone then some (s.fail "not" "not failed") else none
      | none => none
    let allF := match kw "allOf" with
      | some (.arr subs) => firstFailure (subs.zipIdx.map fun (sub, i) =>
          check fuel (s.sub ("allOf/" ++ toString i) s.place) sub v)
      | _ => none
    let anyF := match kw "anyOf" with
      | some (.arr subs) =>
        let results := subs.zipIdx.map fun (sub, i) => check fuel (s.sub ("anyOf/" ++ toString i) s.place) sub v
        if results.any Option.isNone then none else firstFailure results
      | _ => none
    let oneF := match kw "oneOf" with
      | some (.arr subs) =>
        let results := subs.zipIdx.map fun (sub, i) => check fuel (s.sub ("oneOf/" ++ toString i) s.place) sub v
        let valid := (results.zipIdx.filter fun (r, _) => r.isNone).map (·.2)
        match valid with
        | [] => firstFailure results
        | [_] => none
        | i :: j :: _ => some (s.fail "oneOf" ("valid against schemas at indexes " ++ toString i ++ " and " ++ toString j))
      | _ => none
    let condF := match kw "if" with
      | some c =>
        if (check fuel (s.sub "if" s.place) c v).isNone then
          match kw "then" with
          | some t => check fuel (s.sub "then" s.place) t v
          | none => none
        else
          match kw "else" with
          | some e => check fuel (s.sub "else" s.place) e v
          | none => none
      | none => none
    firstFailure [constF, enumF, typed, refF, notF, allF, anyF, oneF, condF]
  | _, _, _, _ => none

/-- The checks of step 3 of the module comment. -/
def checkTyped : Nat → Scope → (String → Option Json) → Json → Option Failure
  | 0, s, _, _ => some (s.fail "" "schema nesting too deep")
  | fuel + 1, s, kw, v =>
    let natKw : String → Option Nat := fun k => match kw k with
      | some (.num lit) => (Json.numInt? lit).map Int.toNat
      | _ => none
    let at_ := fun (t : String) => s.place ++ "/" ++ escapeToken t
    match v with
    | .obj ms =>
      let n := ms.length
      let minP := match natKw "minProperties" with
        | some m => if n < m then some (s.fail "minProperties" ("minimum " ++ toString m ++
            " properties allowed, but found " ++ toString n ++ " properties")) else none
        | none => none
      let maxP := match natKw "maxProperties" with
        | some m => if n > m then some (s.fail "maxProperties" ("maximum " ++ toString m ++
            " properties allowed, but found " ++ toString n ++ " properties")) else none
        | none => none
      let req := match kw "required" with
        | some (.arr names) =>
          let missing := names.filterMap fun (j : Json) => match j with
            | .str k => if ms.any (·.1 == k) then none else some (quotePath k)
            | _ => none
          if missing.isEmpty then none else some (s.fail "required" ("missing properties: " ++ ", ".intercalate missing))
        | _ => none
      let props : List (String × Json) := match kw "properties" with
        | some (.obj ps) => ps
        | _ => []
      let propF := firstFailure (props.map fun (k, sub) => match ms.find? (·.1 == k) with
        | some (_, pv) => check fuel (s.sub ("properties/" ++ escapeToken k) (at_ k)) sub pv
        | none => none)
      let patterns : List (String × Json) := match kw "patternProperties" with
        | some (.obj ps) => ps
        | _ => []
      let matchesPattern := fun (p k : String) => match Text.Regex.compile p with
        | .ok re => re.matches k
        | .error _ => false
      let patF := firstFailure (patterns.flatMap fun (p, sub) => ms.map fun (k, pv) =>
        if matchesPattern p k then check fuel (s.sub ("patternProperties/" ++ escapeToken p) (at_ k)) sub pv else none)
      let extra := ms.filter fun (k, _) => !props.any (·.1 == k) && !patterns.any fun (p, _) => matchesPattern p k
      let addF := match kw "additionalProperties" with
        | some (.bool false) =>
          if extra.isEmpty then none
          else some (s.fail "additionalProperties" ("additionalProperties " ++
            ", ".intercalate (extra.map fun (k, _) => quotePath k) ++ " not allowed"))
        | some sub => firstFailure (extra.map fun (k, pv) => check fuel (s.sub "additionalProperties" (at_ k)) sub pv)
        | none => none
      let depF := match kw "dependentRequired" with
        | some (.obj deps) => firstFailure (deps.map fun (k, req) =>
          if !ms.any (·.1 == k) then none else
          match req with
          | .arr names => firstFailure (names.map fun (j : Json) => match j with
            | .str r => if ms.any (·.1 == r) then none else
              some (s.fail ("dependentRequired/" ++ escapeToken k) ("property " ++ quotePath r ++
                " is required, if " ++ quotePath k ++ " property exists"))
            | _ => none)
          | _ => none)
        | _ => none
      firstFailure [minP, maxP, req, propF, patF, addF, depF]
    | .arr items =>
      let n := items.length
      let minI := match natKw "minItems" with
        | some m => if n < m then some (s.fail "minItems" ("minimum " ++ toString m ++
            " items required, but found " ++ toString n ++ " items")) else none
        | none => none
      let maxI := match natKw "maxItems" with
        | some m => if n > m then some (s.fail "maxItems" ("maximum " ++ toString m ++
            " items required, but found " ++ toString n ++ " items")) else none
        | none => none
      let uniq := match kw "uniqueItems" with
        | some (.bool true) =>
          let pairs := (items.zipIdx.flatMap fun (x, i) => (items.take i).zipIdx.filterMap fun (y, j) =>
            if jsonEq x y then some (j, i) else none)
          match pairs with
          | (j, i) :: _ => some (s.fail "uniqueItems" ("items at index " ++ toString j ++ " and " ++ toString i ++ " are equal"))
          | [] => none
        | _ => none
      let leading : List Json := match kw "prefixItems" with
        | some (.arr ps) => ps
        | _ => []
      let itemF := firstFailure (items.zipIdx.map fun (x, i) =>
        match leading[i]? with
        | some sub => check fuel (s.sub ("prefixItems/" ++ toString i) (s.place ++ "/" ++ toString i)) sub x
        | none => match kw "items" with
          | some sub => check fuel (s.sub "items" (s.place ++ "/" ++ toString i)) sub x
          | none => none)
      let containsF := match kw "contains" with
        | some sub =>
          if items.zipIdx.any (fun (x, i) => (check fuel (s.sub "contains" (s.place ++ "/" ++ toString i)) sub x).isNone) then none
          else some (s.fail "contains" "no items match contains schema")
        | none => none
      firstFailure [minI, maxI, uniq, itemF, containsF]
    | .str txt =>
      let len := txt.length
      let minL := match natKw "minLength" with
        | some m => if len < m then some (s.fail "minLength" ("length must be >= " ++ toString m ++ ", but got " ++ toString len)) else none
        | none => none
      let maxL := match natKw "maxLength" with
        | some m => if len > m then some (s.fail "maxLength" ("length must be <= " ++ toString m ++ ", but got " ++ toString len)) else none
        | none => none
      let patF := match kw "pattern" with
        | some (.str p) => match Text.Regex.compile p with
          | .ok re => if re.matches txt then none else some (s.fail "pattern" ("does not match pattern " ++ quotePath p))
          | .error _ => none
        | _ => none
      firstFailure [minL, maxL, patF]
    | .num lit =>
      let x := numberOf lit
      let bound := fun (k op : String) (bad : Ordering → Bool) => match kw k with
        | some (.num b) => if bad (x.compare (numberOf b)) then
            some (s.fail k ("must be " ++ op ++ " " ++ b ++ " but found " ++ plainFloat lit)) else none
        | _ => none
      let multF := match kw "multipleOf" with
        | some (.num m) => if x.multipleOf (numberOf m) then none
          else some (s.fail "multipleOf" (plainFloat lit ++ " not multipleOf " ++ m))
        | _ => none
      firstFailure [bound "minimum" ">=" (· == .lt), bound "exclusiveMinimum" ">" (· != .gt),
        bound "maximum" "<=" (· == .gt), bound "exclusiveMaximum" "<" (· != .lt), multF]
    | _ => none
end

/-- The message of a failed validation against a schema at `base`. -/
def Failure.text (f : Failure) (base : String) : String :=
  "jsonschema: " ++ quotePath f.place ++ " does not validate with " ++ base ++ "#" ++ f.keyword ++ ": " ++ f.message

/-- Validates a value against a root schema: the first failure, if any. -/
def validate (schema v : Json) : Option Failure := check 10000 ⟨schema, "", ""⟩ schema v

end CreditExtraction.JsonSchema
