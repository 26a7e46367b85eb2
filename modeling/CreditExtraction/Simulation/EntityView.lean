import CreditExtraction.Store.Entities
import CreditExtraction.Simulation.Request

/-!
# Showing entity declarations

An entity session shows one entity's declaration: its table, fields, edges and indexes, the
failures of given values under the checks of their fields and, when asked, the sorted column
names of its table in the metadata store.
-/

namespace CreditExtraction.Simulation

open Store

/-- A field's declaration as shown. -/
def fieldDeclJson (f : FieldDecl) : Json :=
  .obj [("name", .str f.name), ("type", .str f.type.name), ("optional", .bool f.optional),
    ("nillable", .bool f.nillable), ("immutable", .bool f.immutable), ("unique", .bool f.unique),
    ("has_default", .bool f.hasDefault), ("has_update_default", .bool f.hasUpdateDefault),
    ("validators", .ofNat f.checks.length), ("size", .ofNat f.size)]

/-- An edge's declaration as shown. -/
def edgeDeclJson (e : EdgeDecl) : Json :=
  .obj [("name", .str e.name), ("type", .str e.target), ("ref_name", .str e.refName), ("field", .str e.field),
    ("unique", .bool e.unique), ("inverse", .bool e.inverse), ("required", .bool e.required),
    ("immutable", .bool e.immutable)]

/-- An index's declaration as shown. -/
def indexDeclJson (i : IndexDecl) : Json :=
  .obj [("fields", .arr (i.fields.map Json.str)), ("unique", .bool i.unique), ("edges", .null)]

/-- A value for a field's checks, read by the field's type. -/
def fieldInputOf (f : FieldDecl) (v : Json) : Except String FieldInput :=
  match f.type, v with
  | .text, .str s => .ok (.text s)
  | .int, .num lit | .int64, .num lit =>
    match Json.numInt? lit with
    | some n => .ok (.int n)
    | none => .error ("value of " ++ f.name ++ " is not an integer")
  | .float, .num lit => .ok (.float (Json.numFloat lit))
  | _, _ => .error ("value of " ++ f.name ++ " does not fit its type")

/-- One check request answered: the field, the value and its failures, `null` for none. -/
def checkAnswer (e : EntityDecl) (item : Json) : Except String Json := do
  let name := item.getStrD "field"
  let value := memberOrNull item "value"
  let some f := e.fields.find? (·.name == name) | throw ("unknown field " ++ Text.Quoted.quote name)
  let input ← fieldInputOf f value
  let errors := match f.failures input with
    | [] => Json.null
    | es => .arr (es.map Json.str)
  pure (.obj [("field", .str name), ("value", value), ("errors", errors)])

/-- Runs an entity session (see the module comment). -/
def runEntitySession (req : Json) : Json :=
  let name := req.getStrD "schema"
  match entities.find? (·.name == name) with
  | none => badInput ("unknown schema " ++ Text.Quoted.quote name)
  | some e =>
    match (listArg req "validate").mapM (checkAnswer e) with
    | .error msg => badInput msg
    | .ok checks =>
      let columns := if flagArg req "columns" false then
          match e.storedTable with
          | some t => [("columns", Json.arr ((t.columns.map (·.name)).mergeSort (· ≤ ·) |>.map Json.str))]
          | none => []
        else []
      .obj ([("table", .str e.table), ("fields", .arr (e.fields.map fieldDeclJson)),
        ("edges", .arr (e.edges.map edgeDeclJson)), ("indexes", .arr (e.indexes.map indexDeclJson)),
        ("validate", .arr checks)] ++ columns)

end CreditExtraction.Simulation
