import CreditExtraction.JsonSchema.Validate

/-!
# Checking a schema before use

A schema must itself be a valid schema of draft 2020-12 and its local references must
resolve. The draft's meta-schema is checked here for the keywords schemas use: a schema is an
object or a boolean; the vocabularies (core at `allOf/0`, applicators at `allOf/1`,
unevaluated at `allOf/2`, validation at `allOf/3`, meta-data at `allOf/4`, format at `allOf/5`,
content at `allOf/6`) each constrain their keywords, and keywords holding subschemas check
those recursively through the meta-schema's `$dynamicRef`. A failure is reported like a failed
validation, with the meta-schema as the base of its keyword path.
-/

namespace CreditExtraction.JsonSchema

open Json

/-- The address of the draft 2020-12 meta-schema. -/
def metaSchemaUrl : String := "https://json-schema.org/draft/2020-12/schema"

/-- The simple type names. -/
def simpleTypes : List String := ["array", "boolean", "integer", "null", "number", "object", "string"]

/-- The message of a value of the wrong type. -/
def typeMessage (expected : String) (v : Json) : String := "expected " ++ expected ++ ", but got " ++ typeOf v

/-- What the meta-schema asks of a keyword's value. -/
inductive Shape where
  | number
  | positive
  | nonNegative
  | nonNegativeDefault0
  | string
  | boolean
  | array
  | stringArray
  | typeName
  | any

/-- Checks a non-negative integer reached through the reference at `path`. -/
def nonNegative (place path : String) (v : Json) : Option Failure :=
  if !hasType v "integer" then some ⟨place, path ++ "/$ref/type", typeMessage "integer" v⟩
  else match v with
    | .num lit => if (numberOf lit).compare ⟨false, 0, 0⟩ == .lt then
        some ⟨place, path ++ "/$ref/minimum", "must be >= 0 but found " ++ lit⟩ else none
    | _ => none

/-- Checks a keyword's value at `place` against its shape; `path` is the keyword's path in the
meta-schema. -/
def checkShape (place path : String) (v : Json) : Shape → Option Failure
  | .any => none
  | .number => if hasType v "number" then none else some ⟨place, path ++ "/type", typeMessage "number" v⟩
  | .positive =>
    if !hasType v "number" then some ⟨place, path ++ "/type", typeMessage "number" v⟩
    else match v with
      | .num lit => if (numberOf lit).compare ⟨false, 0, 0⟩ != .gt then
          some ⟨place, path ++ "/exclusiveMinimum", "must be > 0 but found " ++ lit⟩ else none
      | _ => none
  | .nonNegative => nonNegative place path v
  | .nonNegativeDefault0 => nonNegative place (path ++ "/$ref") v
  | .string => if hasType v "string" then none else some ⟨place, path ++ "/type", typeMessage "string" v⟩
  | .boolean => if hasType v "boolean" then none else some ⟨place, path ++ "/type", typeMessage "boolean" v⟩
  | .array => if hasType v "array" then none else some ⟨place, path ++ "/type", typeMessage "array" v⟩
  | .stringArray =>
    match v with
    | .arr items =>
      let bad := items.zipIdx.find? fun (x, _) => !hasType x "string"
      match bad with
      | some (x, i) => some ⟨place ++ "/" ++ toString i, path ++ "/$ref/items/type", typeMessage "string" x⟩
      | none =>
        let pairs := items.zipIdx.flatMap fun (x, i) => (items.take i).zipIdx.filterMap fun (y, j) =>
          if jsonEq x y then some (j, i) else none
        match pairs with
        | (j, i) :: _ => some ⟨place, path ++ "/$ref/uniqueItems", "items at index " ++ toString j ++ " and " ++ toString i ++ " are equal"⟩
        | [] => none
    | v => some ⟨place, path ++ "/$ref/type", typeMessage "array" v⟩
  | .typeName =>
    let enumFail : Failure := ⟨place, path ++ "/anyOf/0/$ref/enum", "value must be one of " ++
      ", ".intercalate (simpleTypes.map Text.Quoted.quote)⟩
    match v with
    | .str t => if simpleTypes.contains t then none else some enumFail
    | .arr items =>
      let ok := !items.isEmpty && items.all (fun x => match x with
        | .str t => simpleTypes.contains t
        | _ => false) &&
        (items.zipIdx.all fun (x, i) => !(items.take i).any (jsonEq x))
      if ok then none else some enumFail
    | _ => some enumFail

/-- The shapes of the validation, meta-data, format and content keywords, with the
vocabulary's place in the meta-schema. -/
def keywordShapes : List (String × Nat × Shape) :=
  [("multipleOf", 3, .positive), ("maximum", 3, .number), ("exclusiveMaximum", 3, .number),
   ("minimum", 3, .number), ("exclusiveMinimum", 3, .number), ("maxLength", 3, .nonNegative),
   ("minLength", 3, .nonNegativeDefault0), ("pattern", 3, .string), ("maxItems", 3, .nonNegative),
   ("minItems", 3, .nonNegativeDefault0), ("uniqueItems", 3, .boolean), ("maxContains", 3, .nonNegative),
   ("minContains", 3, .nonNegative), ("maxProperties", 3, .nonNegative),
   ("minProperties", 3, .nonNegativeDefault0), ("required", 3, .stringArray), ("enum", 3, .array),
   ("type", 3, .typeName), ("title", 4, .string), ("description", 4, .string),
   ("deprecated", 4, .boolean), ("readOnly", 4, .boolean), ("writeOnly", 4, .boolean),
   ("examples", 4, .array), ("format", 5, .string), ("contentEncoding", 6, .string),
   ("contentMediaType", 6, .string), ("$comment", 0, .string), ("$ref", 0, .string),
   ("$id", 0, .string), ("$schema", 0, .string), ("$anchor", 0, .string)]

/-- Keywords holding one subschema, with their vocabulary. -/
def singleSubschemas : List (String × Nat) :=
  [("items", 1), ("contains", 1), ("additionalProperties", 1), ("propertyNames", 1), ("if", 1),
   ("then", 1), ("else", 1), ("not", 1), ("unevaluatedItems", 2), ("unevaluatedProperties", 2),
   ("contentSchema", 6)]

/-- Keywords holding a list of subschemas. -/
def listSubschemas : List String := ["prefixItems", "allOf", "anyOf", "oneOf"]

/-- Keywords holding named subschemas, with their vocabulary. -/
def mapSubschemas : List (String × Nat) :=
  [("$defs", 0), ("properties", 1), ("patternProperties", 1), ("dependentSchemas", 1)]

/-- The path of a keyword of vocabulary `vocab` below `path`. -/
def vocabPath (path : String) (vocab : Nat) (kw : String) : String :=
  path ++ "/allOf/" ++ toString vocab ++ "/$ref/properties/" ++ escapeToken kw

/-- Checks a schema against the meta-schema: the first failure (see the module comment). -/
def metaCheck : Nat → String → String → Json → Option Failure
  | 0, place, path, _ => some ⟨place, path, "schema nesting too deep"⟩
  | _, _, _, .bool _ => none
  | fuel + 1, place, path, .obj ms =>
    let at_ := fun (k : String) => place ++ "/" ++ escapeToken k
    let byVocab := fun (vocab : Nat) =>
      firstFailure (ms.map fun (k, v) =>
        match keywordShapes.find? fun (kw, voc, _) => kw == k && voc == vocab with
        | some (_, _, shape) => checkShape (at_ k) (vocabPath path vocab k) v shape
        | none =>
          match singleSubschemas.find? fun (kw, voc) => kw == k && voc == vocab with
          | some _ => metaCheck fuel (at_ k) (vocabPath path vocab k ++ "/$dynamicRef") v
          | none =>
            if vocab == 1 && listSubschemas.contains k then
              let p := vocabPath path 1 k ++ "/$ref"
              match v with
              | .arr [] => some ⟨at_ k, p ++ "/minItems", "minimum 1 items required, but found 0 items"⟩
              | .arr items => firstFailure (items.zipIdx.map fun (x, i) =>
                  metaCheck fuel (at_ k ++ "/" ++ toString i) (p ++ "/items/$dynamicRef") x)
              | v => some ⟨at_ k, p ++ "/type", typeMessage "array" v⟩
            else
              match mapSubschemas.find? fun (kw, voc) => kw == k && voc == vocab with
              | some _ =>
                let p := vocabPath path vocab k
                match v with
                | .obj subs => firstFailure (subs.map fun (n, x) =>
                    metaCheck fuel (at_ k ++ "/" ++ escapeToken n) (p ++ "/additionalProperties/$dynamicRef") x)
                | v => some ⟨at_ k, p ++ "/type", typeMessage "object" v⟩
              | none => none)
    firstFailure ((List.range 7).map byVocab)
  | _, place, path, v => some ⟨place, path ++ "/type", typeMessage "object or boolean" v⟩

mutual
/-- The local references of a schema, in subschema positions. -/
def refsOf : Nat → Json → List String
  | 0, _ => []
  | fuel + 1, .obj ms =>
    let own := match ms.find? (·.1 == "$ref") with
      | some (_, .str r) => [r]
      | _ => []
    own ++ ms.flatMap fun (k, v) =>
      if (singleSubschemas.any (·.1 == k)) then refsOf fuel v
      else if listSubschemas.contains k then refsOfItems fuel v
      else if mapSubschemas.any (·.1 == k) || k == "definitions" then refsOfMembers fuel v
      else []
  | _, _ => []

/-- The references of a list of subschemas. -/
def refsOfItems : Nat → Json → List String
  | 0, _ => []
  | fuel + 1, .arr items => items.flatMap (refsOf fuel)
  | _, _ => []

/-- The references of named subschemas. -/
def refsOfMembers : Nat → Json → List String
  | 0, _ => []
  | fuel + 1, .obj ms => ms.flatMap fun (_, v) => refsOf fuel v
  | _, _ => []
end

/-- Checks a schema at `url` before use (see the module comment). -/
def compile (url : String) (schema : Json) : Except String Unit := do
  let failed := fun (detail : String) => "jsonschema " ++ url ++ " compilation failed: " ++ detail
  if let some f := metaCheck 1000 "" "" schema then
    throw (failed (quotePath f.place ++ " does not validate with " ++ metaSchemaUrl ++ "#" ++ f.keyword ++ ": " ++ f.message))
  for r in refsOf 1000 schema do
    if (resolveRef schema r).isNone then
      throw (failed (url ++ r ++ " not found"))

end CreditExtraction.JsonSchema
