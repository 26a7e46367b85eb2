import CreditExtraction.Schema.DocumentType
import CreditExtraction.Config.Decode
import CreditExtraction.Validation

/-!
# Document types from configuration

A registry is configured as a settings tree with one list, `document_types`, of types with a
`name`, a `description` and `fields`; a field has a `name`, a `description`, `aliases` and an
optional `rule` with `type`, `pattern`, `min`, `max`, `decimal_comma` and `description`.

Building a registry from settings goes in three steps, each of which can fail:

1. **Reading** the tree into `RegistryConfig` (loosely, see `Config.Decode`); every failure is
   reported, as `schema invalid: decode document types: …`.
2. **Checking** the configuration: the type list, each type's name and field list, each field's
   name and each alias must be present and non-empty, and the lists must not be empty. Every
   violation is reported, with the path of the record fields
   (`registryConfig.DocumentTypes[0].Fields`), as `schema invalid: invalid input: …`.
3. **Building** the types in order (`DocumentType.make`), after the field rules: the rule type
   is read by `FieldType.parse?`, a comma is the decimal mark unless the rule says otherwise,
   and the pattern must compile. Two types of one name are refused.
-/

namespace CreditExtraction

open Config

/-- The configuration of a field rule. -/
structure RuleConfig where
  type : String
  pattern : String
  min : Option Float
  max : Option Float
  decimalComma : Option Bool
  description : String
deriving Inhabited

/-- The configuration of a field. -/
structure FieldConfig where
  name : String
  description : String
  aliases : Option (List String)
  rule : Option RuleConfig
deriving Inhabited

/-- The configuration of a document type. -/
structure DocumentTypeConfig where
  name : String
  description : String
  fields : Option (List FieldConfig)
deriving Inhabited

/-- The configuration of a registry. -/
structure RegistryConfig where
  documentTypes : Option (List DocumentTypeConfig)
deriving Inhabited

/-- Reads a text item of a list (null is empty). -/
def readTextItem (name : String) (v : Setting) : Decoded String :=
  scalar asText name "" (some v)

/-- Reads a rule record. -/
def readRule (name : String) (v : Setting) : Decoded (Option RuleConfig) :=
  match recordMembers name v with
  | .error e => (none, [e])
  | .ok ms =>
    let (type, e1) := scalar asText (memberPath name "type") "" (member ms "type")
    let (pattern, e2) := scalar asText (memberPath name "pattern") "" (member ms "pattern")
    let (min, e3) := optional asFloat (memberPath name "min") (member ms "min")
    let (max, e4) := optional asFloat (memberPath name "max") (member ms "max")
    let (dc, e5) := optional asBool (memberPath name "decimal_comma") (member ms "decimal_comma")
    let (description, e6) := scalar asText (memberPath name "description") "" (member ms "description")
    (some ⟨type, pattern, min, max, dc, description⟩, e1 ++ e2 ++ e3 ++ e4 ++ e5 ++ e6)

/-- Reads a field record; a value that is not a table leaves an empty field. -/
def readField (name : String) (v : Setting) : Decoded FieldConfig :=
  match v with
  | .null => (⟨"", "", none, none⟩, [])
  | v =>
    match recordMembers name v with
    | .error e => (⟨"", "", none, none⟩, [e])
    | .ok ms =>
      let (fname, e1) := scalar asText (memberPath name "name") "" (member ms "name")
      let (description, e2) := scalar asText (memberPath name "description") "" (member ms "description")
      let (aliases, e3) := listMember true readTextItem (memberPath name "aliases") (member ms "aliases")
      let (rule, e4) := match member ms "rule" with
        | none | some .null => (none, [])
        | some r => readRule (memberPath name "rule") r
      (⟨fname, description, aliases, rule⟩, e1 ++ e2 ++ e3 ++ e4)

/-- Reads a document type record. -/
def readDocumentType (name : String) (v : Setting) : Decoded DocumentTypeConfig :=
  match v with
  | .null => (⟨"", "", none⟩, [])
  | v =>
    match recordMembers name v with
    | .error e => (⟨"", "", none⟩, [e])
    | .ok ms =>
      let (tname, e1) := scalar asText (memberPath name "name") "" (member ms "name")
      let (description, e2) := scalar asText (memberPath name "description") "" (member ms "description")
      let (fields, e3) := listMember false readField (memberPath name "fields") (member ms "fields")
      (⟨tname, description, fields⟩, e1 ++ e2 ++ e3)

/-- Reads the registry configuration from the top table of the settings. -/
def RegistryConfig.read (top : List (String × Setting)) : Except String RegistryConfig :=
  let (types, errs) := listMember false readDocumentType "document_types" (member top "document_types")
  if errs.isEmpty then .ok ⟨types⟩ else .error (decodingFailed errs)

/-- Checks a list that must be present and not empty; `items` checks its items. -/
def checkList {α : Type} (path : String) (xs : Option (List α))
    (items : String → α → List ConfigViolation) : List ConfigViolation :=
  match xs with
  | none => [⟨path, "[]", "required"⟩]
  | some [] => [⟨path, "[]", "min"⟩]
  | some xs => xs.zipIdx.flatMap fun (x, i) => items (path ++ "[" ++ toString i ++ "]") x

/-- Checks a field configuration. -/
def FieldConfig.violations (path : String) (f : FieldConfig) : List ConfigViolation :=
  (if f.name == "" then [⟨path ++ ".Name", "", "required"⟩] else []) ++
    ((f.aliases.getD []).zipIdx.filterMap fun (a, i) =>
      if a == "" then some ⟨path ++ ".Aliases[" ++ toString i ++ "]", "", "required"⟩ else none)

/-- Checks a document type configuration. -/
def DocumentTypeConfig.violations (path : String) (d : DocumentTypeConfig) : List ConfigViolation :=
  (if d.name == "" then [⟨path ++ ".Name", "", "required"⟩] else []) ++
    checkList (path ++ ".Fields") d.fields FieldConfig.violations

/-- Checks a registry configuration (step 2 of the module comment). -/
def RegistryConfig.violations (c : RegistryConfig) : List ConfigViolation :=
  checkList "registryConfig.DocumentTypes" c.documentTypes DocumentTypeConfig.violations

/-- Builds a field rule (step 3 of the module comment). -/
def RuleConfig.build (typeName fieldName : String) (rc : RuleConfig) : Except Failure Rule := do
  let some type := FieldType.parse? rc.type
    | throw (.tagged .schemaInvalid (typeName ++ "." ++ fieldName ++ ": unknown type " ++ Text.Quoted.quote rc.type))
  let pattern ← if rc.pattern == "" then pure none else
    match Text.Regex.compile rc.pattern with
    | .ok re => pure (some re)
    | .error e => throw (.tagged .schemaInvalid (typeName ++ "." ++ fieldName ++ ": bad pattern: " ++ e))
  pure ⟨type, pattern, rc.min, rc.max, rc.decimalComma.getD true, rc.description⟩

/-- Builds the document types in order (step 3 of the module comment). -/
def buildTypes : List String → List DocumentTypeConfig → Except Failure (List DocumentType)
  | _, [] => .ok []
  | seen, dc :: rest => do
    if seen.contains dc.name then
      throw (.tagged .schemaInvalid ("duplicate document type " ++ Text.Quoted.quote dc.name))
    let fields ← (dc.fields.getD []).mapM fun fc => do
      match fc.rule with
      | some rc =>
        let rule ← rc.build dc.name fc.name
        pure (⟨fc.name, fc.description, fc.aliases.getD [], rule, true⟩ : SchemaField)
      | none => pure ⟨fc.name, fc.description, fc.aliases.getD [], Rule.plain, false⟩
    let dt ← DocumentType.make dc.name dc.description fields
    let more ← buildTypes (dc.name :: seen) rest
    pure (dt :: more)

/-- Builds a registry from the top table of its settings (see the module comment). -/
def Registry.ofSettings (top : List (String × Setting)) : Except Failure Registry := do
  let cfg ← match RegistryConfig.read top with
    | .ok c => pure c
    | .error e => throw (.tagged .schemaInvalid ("decode document types: " ++ e))
  let violations := cfg.violations
  if !violations.isEmpty then
    throw (.tagged .schemaInvalid ("invalid input: " ++ "; ".intercalate (violations.map (·.text))))
  let types ← buildTypes [] (cfg.documentTypes.getD [])
  pure ⟨types⟩

end CreditExtraction
