import CreditExtraction.Field.Value
import CreditExtraction.Failure
import CreditExtraction.Text.Regex

/-!
# Document types, their fields and rules, and the label mapper

A document type names the fields to extract. Each field may carry aliases — the labels under
which it appears on paper — and a rule: the value's type, a pattern the raw text must match,
bounds for numbers, whether a comma is the decimal mark, and a description used in messages.

Building a type checks it: it needs a name and at least one field; field names are non-empty
and distinct; bounds need a number type and must not cross.

The `Mapper` sends a label to its field. Every field name and alias is bound (trimmed) to its
field; a label bound to two fields, or an alias that is another field's name, is a schema
conflict. A label is looked up exactly first, then with case ignored, where two fields that
share a case-folded label cancel each other out.
-/

namespace CreditExtraction

open Text

/-- The rule a field's value must satisfy. -/
structure Rule where
  type : FieldType
  pattern : Option Regex.Compiled
  min : Option Float
  max : Option Float
  decimalComma : Bool
  description : String
deriving Inhabited

/-- The rule of a field that states none: text, no pattern, no bounds. -/
def Rule.plain : Rule := ⟨.string, none, none, none, false, ""⟩

/-- A field of a document type. -/
structure SchemaField where
  name : String
  description : String
  aliases : List String
  rule : Rule
  hasRule : Bool
deriving Inhabited

/-- Labels bound to field names: the exact bindings in the order they were made, and the
case-folded ones, where `""` marks a folded label claimed by two fields. -/
structure Mapper where
  exact : List (String × String)
  folded : List (String × String)
deriving Inhabited

namespace Mapper

/-- The binding of a key in an association list. -/
def find? (m : List (String × String)) (k : String) : Option String :=
  (m.find? (·.1 == k)).map (·.2)

/-- Sets the binding of a key, keeping its place. -/
def assign (m : List (String × String)) (k v : String) : List (String × String) :=
  if m.any (·.1 == k) then m.map fun (k', v') => if k' == k then (k', v) else (k', v')
  else m ++ [(k, v)]

/-- Binds one label to a field, given the field names of the type. -/
def bind (canonical : List String) (m : Mapper) (label target : String) : Except Failure Mapper :=
  let label := CharClass.trimSpace label
  if label == "" then
    .error (.tagged .schemaInvalid ("empty alias for field " ++ Quoted.quote target))
  else match find? m.exact label with
    | some prev =>
      if prev != target then
        .error (.tagged .schemaConflict ("label " ++ Quoted.quote label ++ " bound to both " ++
          Quoted.quote prev ++ " and " ++ Quoted.quote target))
      else bindChecked canonical m label target
    | none => bindChecked canonical m label target
where
  /-- The binding once the exact table agrees. -/
  bindChecked (canonical : List String) (m : Mapper) (label target : String) : Except Failure Mapper :=
    if canonical.contains label && label != target then
      .error (.tagged .schemaConflict ("alias " ++ Quoted.quote label ++ " of " ++ Quoted.quote target ++
        " is itself a canonical field"))
    else
      let key := CharClass.lowerString label
      let folded := match find? m.folded key with
        | some prev => if prev != target then assign m.folded key "" else m.folded
        | none => m.folded ++ [(key, target)]
      .ok ⟨assign m.exact label target, folded⟩

/-- The mapper of a type's fields: names first, then aliases in order. -/
def ofFields (fields : List SchemaField) : Except Failure Mapper := do
  let canonical := fields.map (·.name)
  let m ← fields.foldlM (fun m f => bind canonical m f.name f.name) ⟨[], []⟩
  fields.foldlM (fun m f => f.aliases.foldlM (fun m a => bind canonical m a f.name) m) m

/-- The field a label names, exactly or with case ignored. -/
def map? (m : Mapper) (label : String) : Option String :=
  let label := CharClass.trimSpace label
  match find? m.exact label with
  | some c => some c
  | none =>
    match find? m.folded (CharClass.lowerString label) with
    | some c => if c != "" then some c else none
    | none => none

/-- The number of labels bound exactly. -/
def labels (m : Mapper) : Nat := m.exact.length

end Mapper

/-- A checked document type. -/
structure DocumentType where
  name : String
  description : String
  fields : List SchemaField
  mapper : Mapper
deriving Inhabited

namespace DocumentType

/-- The names of the fields, in order. -/
def fieldNames (d : DocumentType) : List String := d.fields.map (·.name)

/-- The field of a name. -/
def field? (d : DocumentType) (name : String) : Option SchemaField := d.fields.find? (·.name == name)

/-- Checks the fields one by one (see the module comment); `seen` are the names so far. -/
def checkFields (typeName : String) : Nat → List SchemaField → List String → Except Failure (List SchemaField)
  | _, [], _ => .ok []
  | i, f :: rest, seen => do
    if f.name == "" then
      throw (.tagged .schemaInvalid (typeName ++ ": field " ++ toString i ++ " has no name"))
    if seen.contains f.name then
      throw (.tagged .schemaInvalid (typeName ++ ": duplicate field " ++ Quoted.quote f.name))
    let hasBounds := f.rule.min.isSome || f.rule.max.isSome
    if hasBounds && f.rule.type != .number then
      throw (.tagged .schemaInvalid (typeName ++ "." ++ f.name ++ ": min/max require type number"))
    match f.rule.min, f.rule.max with
    | some lo, some hi =>
      if lo > hi then throw (.tagged .schemaInvalid (typeName ++ "." ++ f.name ++ ": min > max"))
    | _, _ => pure ()
    let rest ← checkFields typeName (i + 1) rest (f.name :: seen)
    pure (f :: rest)

/-- Builds a document type (see the module comment). -/
def make (name description : String) (fields : List SchemaField) : Except Failure DocumentType := do
  if name == "" then throw (.tagged .schemaInvalid "document type without name")
  if fields.isEmpty then
    throw (.tagged .schemaInvalid ("document type " ++ Quoted.quote name ++ " has no fields"))
  let fields ← checkFields name 0 fields []
  match Mapper.ofFields fields with
  | .ok m => pure ⟨name, description, fields, m⟩
  | .error e => throw (.context ("document type " ++ Quoted.quote name) e)

end DocumentType

/-- The document types known to a process, by name. -/
structure Registry where
  types : List DocumentType
deriving Inhabited

namespace Registry

/-- Builds a registry; two types of one name are refused. -/
def make (types : List DocumentType) : Except Failure Registry := do
  let _ ← types.foldlM (fun (seen : List String) t =>
    if seen.contains t.name then
      Except.error (Failure.tagged .schemaInvalid ("duplicate document type " ++ Quoted.quote t.name))
    else .ok (t.name :: seen)) []
  pure ⟨types⟩

/-- The type of a name. -/
def get (r : Registry) (name : String) : Except Failure DocumentType :=
  match r.types.find? (·.name == name) with
  | some t => .ok t
  | none => .error (.tagged .unknownDocumentType (Quoted.quote name))

/-- The names of the types, sorted. -/
def names (r : Registry) : List String :=
  (r.types.map (·.name)).mergeSort (· ≤ ·)

end Registry

end CreditExtraction
