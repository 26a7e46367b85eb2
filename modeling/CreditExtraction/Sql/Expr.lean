import CreditExtraction.Sql.Lexer

/-!
# Expressions of the embedded SQL store

The expressions that conditions, assignments and trigger guards are written in: literals,
columns of the current row or of the `NEW` and `OLD` rows of a trigger, comparisons, the
three-valued `AND`, `OR` and `NOT`, `IS [NOT] NULL`, `[NOT] IN (…)`, concatenation,
arithmetic and a few functions (`coalesce`, `ifnull`, `nullif`, `lower`, `upper`, `length`,
`abs`, `typeof`).

An expression evaluates to a value together with its affinity: a column keeps the affinity of
its declared type, every other expression has none. Comparisons convert their operands by
these affinities (`Sql.comparable`) before comparing. A comparison with null is null, and a
condition holds only when its value is true (`Value.truthy`).
-/

namespace CreditExtraction.Sql

/-- One cell of a row as expressions see it: its column, the column's affinity and its value. -/
structure Cell where
  column : String
  affinity : Affinity
  value : Value
deriving Repr, Inhabited

/-- A row as expressions see it. -/
abbrev Frame := List Cell

/-- Which row a column reference reads. -/
inductive Side where
  /-- The row the statement is working on. -/
  | current
  /-- The row after the change, in a trigger. -/
  | new
  /-- The row before the change, in a trigger. -/
  | old
  /-- The row of a table the statement reads, by the table's name: the current row. -/
  | table (name : String)
deriving Repr, DecidableEq, Inhabited

/-- The rows an expression can read. -/
structure Scope where
  current : Option Frame
  new : Option Frame
  old : Option Frame

/-- Binary operators. -/
inductive BinOp where
  | eq | ne | lt | le | gt | ge
  | is | isNot
  | and | or
  | concat
  | add | sub | mul | div | mod
deriving Repr, DecidableEq, Inhabited

/-- An expression. -/
inductive Expr where
  | lit (v : Value)
  | col (side : Side) (name : String)
  | bin (op : BinOp) (a b : Expr)
  | not (e : Expr)
  | neg (e : Expr)
  | isNull (e : Expr) (negated : Bool)
  | inList (e : Expr) (items : List Expr) (negated : Bool)
  | call (fn : String) (args : List Expr)
deriving Repr, Inhabited

namespace Expr

/-- `column = value` on the current row. -/
def colEq (c : String) (v : Value) : Expr := .bin .eq (.col .current c) (.lit v)

/-- `column <> value` on the current row. -/
def colNe (c : String) (v : Value) : Expr := .bin .ne (.col .current c) (.lit v)

/-- The conjunction of conditions; true when there are none. -/
def all : List Expr → Expr
  | [] => .lit (.int 1)
  | [e] => e
  | e :: rest => .bin .and e (all rest)

end Expr

mutual
/-- The columns of the current row an expression names, from left to right. -/
def Expr.columns : Expr → List String
  | .lit _ => []
  | .col .current name => [name]
  | .col (.table _) name => [name]
  | .col _ _ => []
  | .bin _ a b => a.columns ++ b.columns
  | .not e => e.columns
  | .neg e => e.columns
  | .isNull e _ => e.columns
  | .inList e items _ => e.columns ++ Expr.listColumns items
  | .call _ args => Expr.listColumns args

/-- The columns of the current row that several expressions name, in order. -/
def Expr.listColumns : List Expr → List String
  | [] => []
  | e :: rest => e.columns ++ Expr.listColumns rest
end

mutual
/-- The columns an expression reads, each with the row it reads it from, left to right. -/
def Expr.refs : Expr → List (Side × String)
  | .lit _ => []
  | .col side name => [(side, name)]
  | .bin _ a b => a.refs ++ b.refs
  | .not e => e.refs
  | .neg e => e.refs
  | .isNull e _ => e.refs
  | .inList e items _ => e.refs ++ Expr.listRefs items
  | .call _ args => Expr.listRefs args

/-- The columns several expressions read, in order. -/
def Expr.listRefs : List Expr → List (Side × String)
  | [] => []
  | e :: rest => e.refs ++ Expr.listRefs rest
end

mutual
/-- The expression with the column `old`, where it is read from the row on `side`, read under
the name `new`. -/
def Expr.renameColumn (side : Side) (old new : String) : Expr → Expr
  | .lit v => .lit v
  | .col s name => if s == side && sameName name old then .col s new else .col s name
  | .bin op a b => .bin op (a.renameColumn side old new) (b.renameColumn side old new)
  | .not e => .not (e.renameColumn side old new)
  | .neg e => .neg (e.renameColumn side old new)
  | .isNull e negated => .isNull (e.renameColumn side old new) negated
  | .inList e items negated =>
    .inList (e.renameColumn side old new) (Expr.renameColumns side old new items) negated
  | .call fn args => .call fn (Expr.renameColumns side old new args)

/-- Several expressions with a column renamed, in order. -/
def Expr.renameColumns (side : Side) (old new : String) : List Expr → List Expr
  | [] => []
  | e :: rest => e.renameColumn side old new :: Expr.renameColumns side old new rest
end

/-- The name of a side, as messages qualify a column with it. -/
def Side.prefixText : Side → String
  | .current => ""
  | .new => "NEW."
  | .old => "OLD."
  | .table t => t ++ "."

/-- The frame of a side. -/
def Scope.frame (s : Scope) : Side → Option Frame
  | .current | .table _ => s.current
  | .new => s.new
  | .old => s.old

/-- A truth value, or null when unknown. -/
def truth : Option Bool → Value
  | some b => Value.ofBool b
  | none => .null

/-- The truth of a value: unknown for null. -/
def truthOf (v : Value) : Option Bool := if v.isNull then none else some v.truthy

/-- Integer arithmetic that leaves 64 bits falls back to reals. -/
def intArith (op : BinOp) (m n : Int) : Value :=
  match op with
  | .add => if fitsInt (m + n) then .int (m + n) else .real (Float.ofInt m + Float.ofInt n)
  | .sub => if fitsInt (m - n) then .int (m - n) else .real (Float.ofInt m - Float.ofInt n)
  | .mul => if fitsInt (m * n) then .int (m * n) else .real (Float.ofInt m * Float.ofInt n)
  | .div => if n == 0 then .null else .int (Int.tdiv m n)
  | .mod => if n == 0 then .null else .int (Int.tmod m n)
  | _ => .null

/-- Real arithmetic; division by zero is null. -/
def realArith (op : BinOp) (x y : Float) : Value :=
  match op with
  | .add => .real (x + y)
  | .sub => .real (x - y)
  | .mul => .real (x * y)
  | .div => if y == 0 then .null else .real (x / y)
  | .mod => if y == 0 then .null else .real (x - y * (x / y).round)
  | _ => .null

/-- The float of a number. -/
def asFloat : Value → Float
  | .int n => Float.ofInt n
  | .real x => x
  | _ => 0

/-- Arithmetic on two values: null when either is null, texts read by their leading number. -/
def arith (op : BinOp) (a b : Value) : Value :=
  if a.isNull || b.isNull then .null
  else
    match a.toNumber, b.toNumber with
    | .int m, .int n => intArith op m n
    | x, y => realArith op (asFloat x) (asFloat y)

/-- A comparison of two operands with their affinities. -/
def comparison (op : BinOp) (a b : Value × Affinity) : Value :=
  let (x, y) := comparable a b
  match op with
  | .is => Value.ofBool (if x.isNull || y.isNull then x.isNull && y.isNull else x.order y == .eq)
  | .isNot => Value.ofBool !(if x.isNull || y.isNull then x.isNull && y.isNull else x.order y == .eq)
  | _ =>
    if x.isNull || y.isNull then .null
    else
      let o := x.order y
      Value.ofBool (match op with
        | .eq => o == .eq
        | .ne => o != .eq
        | .lt => o == .lt
        | .le => o != .gt
        | .gt => o == .gt
        | .ge => o != .lt
        | _ => false)

/-- ASCII case mapping of a text. -/
def mapAscii (f : Char → Char) (s : String) : String := String.ofList (s.toList.map f)

/-- The integer a value stands for as an argument: a number cut toward zero, a text by its
leading number. -/
def argInt (v : Value) : Int :=
  match v.toNumber with
  | .int n => n
  | .real x =>
    let whole := x.abs.floor
    let n : Int := if whole ≥ 9.2e18 then maxInt else (whole.toUInt64.toNat : Int)
    if x < 0 then -n else n
  | _ => 0

/-- The characters of a text from a place and of a length, as `substr` counts them: places
from 1, a place below 1 counting back from the end, and a negative length taking the characters
before the place. -/
def substrText (s : String) (start : Int) (len : Option Int) : String :=
  let n : Int := s.length
  let wanted : Int := match len with
    | some l => l.natAbs
    | none => n + 1
  let (p1, p2) :=
    if start < 0 then
      let p1 := start + n
      if p1 < 0 then (0, max (wanted + p1) 0) else (p1, wanted)
    else if start > 0 then (start - 1, wanted)
    else (0, if wanted > 0 then wanted - 1 else wanted)
  let (p1, p2) := match len with
    | some l => if l < 0 then (if p1 - p2 < 0 then (0, p2 + (p1 - p2)) else (p1 - p2, p2)) else (p1, p2)
    | none => (p1, p2)
  String.ofList ((s.toList.drop p1.toNat).take p2.toNat)

/-- The text without the characters of `cut` at its start (`front`) and its end (`back`). -/
def trimText (s : String) (cut : List Char) (front back : Bool) : String :=
  let cs := s.toList
  let cs := if front then cs.dropWhile (cut.contains ·) else cs
  let cs := if back then (cs.reverse.dropWhile (cut.contains ·)).reverse else cs
  String.ofList cs

/-- The place, counted from 1, where a text first holds another; 0 when it does not. -/
def placeOf (s t : String) : Nat :=
  if t.isEmpty then 1
  else
    let cs := s.toList
    let ts := t.toList
    match (List.range (cs.length + 1)).find? (fun i => (cs.drop i).take ts.length == ts) with
    | some i => if i + ts.length ≤ cs.length then i + 1 else 0
    | none => 0

/-- The greatest (or, with `least`, the smallest) of values; null when one of them is. -/
def extremeOf (least : Bool) (vals : List Value) : Value :=
  if vals.any (·.isNull) then .null
  else vals.foldl (fun best v =>
    match best with
    | .null => v
    | _ => if (if least then v.order best == .lt else v.order best == .gt) then v else best) .null

/-- The value of a function of the store on evaluated arguments. -/
def callFunction (fn : String) (args : List (Value × Affinity)) : Except SqlError (Value × Affinity) :=
  let vals := args.map (·.1)
  let arity := fun (ok : Bool) (v : Value) =>
    if ok then Except.ok (v, Affinity.none)
    else .error (SqlError.logic ("wrong number of arguments to function " ++ fn ++ "()"))
  match fn.toLower with
  | "coalesce" => arity (vals.length ≥ 2) ((vals.find? (!·.isNull)).getD .null)
  | "ifnull" => arity (vals.length == 2) ((vals.find? (!·.isNull)).getD .null)
  | "nullif" =>
    match args with
    | [a, b] => arity true (if (comparison .eq a b).truthy then .null else a.1)
    | _ => arity false .null
  | "lower" | "upper" =>
    match vals with
    | [v] =>
      let f := if fn.toLower == "lower" then Char.toLower else Char.toUpper
      arity true (match v.render with
        | some s => .text (mapAscii f s)
        | none => .null)
    | _ => arity false .null
  | "length" =>
    match vals with
    | [v] => arity true (match v.render with
        | some s => .int s.length
        | none => .null)
    | _ => arity false .null
  | "abs" =>
    match vals with
    | [v] => arity true (match v with
        | .null => .null
        | _ => match v.toNumber with
          | .int n => .int n.natAbs
          | .real x => .real x.abs
          | other => other)
    | _ => arity false .null
  | "substr" | "substring" =>
    match vals with
    | [v, p] | [v, p, _] =>
      let len := match vals with
        | [_, _, l] => some l
        | _ => none
      if v.isNull || p.isNull || (len.map (·.isNull)).getD false then arity true .null
      else arity true (.text (substrText ((v.render).getD "") (argInt p) (len.map argInt)))
    | _ => arity false .null
  | "replace" =>
    match vals with
    | [v, a, b] =>
      match v.render, a.render, b.render with
      | some s, some x, some y => arity true (.text (if x.isEmpty then s else s.replace x y))
      | _, _, _ => arity true .null
    | _ => arity false .null
  | "trim" | "ltrim" | "rtrim" =>
    let front := fn.toLower != "rtrim"
    let back := fn.toLower != "ltrim"
    match vals with
    | [v] => arity true (match v.render with
        | some s => .text (trimText s [' '] front back)
        | none => .null)
    | [v, c] => arity true (match v.render, c.render with
        | some s, some cut => .text (trimText s cut.toList front back)
        | _, _ => .null)
    | _ => arity false .null
  | "instr" =>
    match vals with
    | [v, w] => arity true (match v.render, w.render with
        | some s, some t => .int (placeOf s t)
        | _, _ => .null)
    | _ => arity false .null
  | "max" | "min" => arity (vals.length ≥ 2) (extremeOf (fn.toLower == "min") vals)
  | "iif" =>
    match vals with
    | [c, a, b] => arity true (if c.truthy then a else b)
    | _ => arity false .null
  | "typeof" =>
    match vals with
    | [v] => arity true (.text (match v with
        | .null => "null"
        | .int _ => "integer"
        | .real _ => "real"
        | .text _ => "text"))
    | _ => arity false .null
  | _ => .error (SqlError.logic ("no such function: " ++ fn))

/-- The cell of a column in a frame, by name regardless of case. -/
def Frame.cell? (f : Frame) (name : String) : Option Cell :=
  f.find? (·.column.toLower == name.toLower)

mutual
/-- The value and affinity of an expression in a scope. -/
def eval (s : Scope) : Expr → Except SqlError (Value × Affinity)
  | .lit v => .ok (v, .none)
  | .col side name =>
    match (s.frame side).bind (·.cell? name) with
    | some c => .ok (c.value, c.affinity)
    | none => .error (SqlError.logic ("no such column: " ++ side.prefixText ++ name))
  | .bin op a b => do
    let x ← eval s a
    let y ← eval s b
    match op with
    | .and =>
      pure (truth (match truthOf x.1, truthOf y.1 with
        | some false, _ | _, some false => some false
        | some true, some true => some true
        | _, _ => none), .none)
    | .or =>
      pure (truth (match truthOf x.1, truthOf y.1 with
        | some true, _ | _, some true => some true
        | some false, some false => some false
        | _, _ => none), .none)
    | .concat =>
      pure (match x.1.render, y.1.render with
        | some p, some q => .text (p ++ q)
        | _, _ => .null, .none)
    | .add | .sub | .mul | .div | .mod => pure (arith op x.1 y.1, .none)
    | _ => pure (comparison op x y, .none)
  | .not e => do
    let x ← eval s e
    pure (truth ((truthOf x.1).map (!·)), .none)
  | .neg e => do
    let x ← eval s e
    pure (arith .sub (.int 0) x.1, .none)
  | .isNull e negated => do
    let x ← eval s e
    pure (Value.ofBool (x.1.isNull != negated), .none)
  | .inList e items negated => do
    let x ← eval s e
    let ys ← evalList s items
    if x.1.isNull then pure (.null, .none)
    else if ys.any (fun y => (comparison .eq x y).truthy) then pure (Value.ofBool !negated, .none)
    else if ys.any (·.1.isNull) then pure (.null, .none)
    else pure (Value.ofBool negated, .none)
  | .call fn args => do
    let vs ← evalList s args
    callFunction fn vs

/-- The values of several expressions, in order. -/
def evalList (s : Scope) : List Expr → Except SqlError (List (Value × Affinity))
  | [] => .ok []
  | e :: rest => do
    let v ← eval s e
    let vs ← evalList s rest
    pure (v :: vs)
end

/-- Does a condition hold in a scope? -/
def holds (s : Scope) (e : Expr) : Except SqlError Bool := do
  let v ← eval s e
  pure v.1.truthy

end CreditExtraction.Sql
