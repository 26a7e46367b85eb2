import CreditExtraction.Text.FloatText
import CreditExtraction.Text.Integer

/-!
# Values of the embedded SQL store

A cell holds one of four storage classes: null, a 64-bit integer, a double or a text. A column
has an *affinity*, derived from the words of its declared type, that converts what is stored in
it: a number stored in a text column becomes its text, a text that spells a number stored in a
numeric column becomes that number, and a real without fractional part in an integer column
becomes an integer.

Comparisons follow the same rules: when one side is a numeric column and the other is not,
the other side is read as a number where it spells one; when one side is a text column and the
other has no affinity, the other side is written as text. Values then compare by class first
(numbers before texts) and within a class by number or by bytes.
-/

namespace CreditExtraction.Sql

/-- A value held in a cell. -/
inductive Value where
  | null
  | int (n : Int)
  | real (x : Float)
  | text (s : String)
deriving Repr, Inhabited

/-- How a column converts what is stored in it. -/
inductive Affinity where
  | text
  | numeric
  | integer
  | real
  /-- No conversion at all (also the affinity of an expression that is not a column). -/
  | none
deriving Repr, DecidableEq, Inhabited

/-- Does a text hold a word as a run of consecutive characters? -/
def holdsWord : List Char → List Char → Bool
  | [], w => w.isEmpty
  | c :: rest, w => w.isPrefixOf (c :: rest) || holdsWord rest w

namespace Affinity

/-- The affinity of a declared column type, by the words it contains. -/
def ofDeclared (decl : String) : Affinity :=
  let d := decl.toUpper
  let has (w : String) : Bool := holdsWord d.toList w.toList
  if has "INT" then .integer
  else if has "CHAR" || has "CLOB" || has "TEXT" then .text
  else if has "BLOB" || d.isEmpty then .none
  else if has "REAL" || has "FLOA" || has "DOUB" then .real
  else .numeric

/-- Is the affinity one of the numeric ones? -/
def isNumeric : Affinity → Bool
  | .numeric | .integer | .real => true
  | _ => false

end Affinity

/-- The smallest and largest 64-bit integers. -/
def minInt : Int := -(Int.pow 2 63)
/-- The largest 64-bit integer. -/
def maxInt : Int := Int.pow 2 63 - 1

/-- Does an integer fit in 64 bits? -/
def fitsInt (n : Int) : Bool := minInt ≤ n && n ≤ maxInt

/-- Digits rounded to at most `keep` significant digits, the point moved on a carry. -/
def roundDigits (keep : Nat) (d : Text.DecimalDigits) : Text.DecimalDigits :=
  if d.digits.length ≤ keep then d
  else
    let kept := d.digits.take keep
    let next := (d.digits.drop keep).head?.getD '0'
    let n := kept.foldl (fun acc c => acc * 10 + (c.toNat - '0'.toNat)) 0
    let n := if next ≥ '5' then n + 1 else n
    let ds := Nat.toDigits 10 n
    let carry : Int := if ds.length > keep then 1 else 0
    let ds := ds.take keep
    let trimmed := (ds.reverse.dropWhile (· == '0')).reverse
    ⟨if trimmed.isEmpty then ['0'] else trimmed, d.point + carry⟩

/-- The text of a real: fifteen significant digits, positional from `1e-4` up to below `1e15`
and scientific otherwise, always with a point (`1.0`, `1.0e+20`). -/
def realText (x : Float) : String :=
  match Text.digitsOf .binary64 x with
  | none => if x.isNaN then "NaN" else if x > 0 then "Inf" else "-Inf"
  | some (neg, none) => (if neg then "-" else "") ++ "0.0"
  | some (neg, some d) =>
    let d := roundDigits 15 d
    let sign := if neg then "-" else ""
    let exp := d.point - 1
    if exp < -4 || exp ≥ 15 then
      let mant := match d.digits with
        | [] => ['0', '.', '0']
        | [c] => [c, '.', '0']
        | c :: rest => c :: '.' :: rest
      let e := Nat.toDigits 10 exp.natAbs
      let e := if e.length < 2 then '0' :: e else e
      sign ++ String.ofList (mant ++ 'e' :: (if exp < 0 then '-' else '+') :: e)
    else
      let p := d.positional
      sign ++ (if p.contains '.' then p else p ++ ".0")

namespace Value

/-- The text of a value, as concatenation and text columns write it; null has none. -/
def render : Value → Option String
  | .null => none
  | .int n => some (toString n)
  | .real x => some (realText x)
  | .text s => some s

/-- Is a character blank in the sense of number texts (space, tab, line breaks, form feed)? -/
def isBlank (c : Char) : Bool := c == ' ' || c == '\t' || c == '\n' || c == '\r' || c == '\x0c'

/-- The decimal digits at the front of a text, and the rest. -/
def takeDigits (cs : List Char) : List Char × List Char :=
  (cs.takeWhile Char.isDigit, cs.dropWhile Char.isDigit)

/-- The shape of a number text: sign, integer digits, fraction digits (if a point was
written), exponent (if one was written), and what follows. -/
structure NumberText where
  negative : Bool
  whole : List Char
  fraction : Option (List Char)
  exponent : Option Int
  rest : List Char

/-- Reads the longest number at the front of a text (after blanks); `none` when no digit
starts it. -/
def scanNumber (cs : List Char) : Option NumberText :=
  let cs := cs.dropWhile isBlank
  let (negative, cs) := match cs with
    | '-' :: r => (true, r)
    | '+' :: r => (false, r)
    | r => (false, r)
  let (whole, cs) := takeDigits cs
  let (fraction, cs) := match cs with
    | '.' :: r => let (f, r') := takeDigits r; (some f, r')
    | r => (none, r)
  if whole.isEmpty && (fraction.getD []).isEmpty then none
  else
    let expPart : Option (Int × List Char) := match cs with
      | c :: r =>
        if c == 'e' || c == 'E' then
          let (eneg, r) := match r with
            | '-' :: r' => (true, r')
            | '+' :: r' => (false, r')
            | r' => (false, r')
          let (ds, r) := takeDigits r
          if ds.isEmpty then none
          else
            let v : Int := ds.foldl (fun acc d => acc * 10 + (d.toNat - '0'.toNat)) 0
            some (if eneg then -v else v, r)
        else none
      | [] => none
    match expPart with
    | some (e, r) => some ⟨negative, whole, fraction, some e, r⟩
    | none => some ⟨negative, whole, fraction, none, cs⟩

/-- The number a scanned text stands for: an integer when it has neither point nor exponent
and fits in 64 bits, else a real. -/
def NumberText.value (t : NumberText) : Value :=
  let digitsVal := fun (ds : List Char) => ds.foldl (fun acc d => acc * 10 + (d.toNat - '0'.toNat)) 0
  let w : Nat := digitsVal t.whole
  let signed := fun (n : Int) => if t.negative then -n else n
  if t.fraction.isNone && t.exponent.isNone && fitsInt (signed w) then .int (signed w)
  else
    let frac := t.fraction.getD []
    let mant : Nat := digitsVal (t.whole ++ frac)
    let scale : Int := t.exponent.getD 0 - frac.length
    let x := Float.ofScientific mant (scale < 0) scale.natAbs
    .real (if t.negative then -x else x)

/-- The number a whole text spells (blanks around it allowed), if it spells one. -/
def parseNumber? (s : String) : Option Value :=
  match scanNumber s.toList with
  | some t => if t.rest.all isBlank then some t.value else none
  | none => none

/-- A real that is a whole number within 64 bits, as that integer. -/
def realAsInt? (x : Float) : Option Int :=
  if x.isFinite && x.floor == x && -9.223372036854775e18 ≤ x && x ≤ 9.223372036854775e18 then
    let n : Int := if x < 0 then -((-x).toUInt64.toNat : Int) else (x.toUInt64.toNat : Int)
    if Float.ofInt n == x then some n else none
  else none

/-- A value converted as a column of the given affinity stores it. -/
def withAffinity (a : Affinity) (v : Value) : Value :=
  match a, v with
  | .text, .int _ | .text, .real _ => .text ((v.render).getD "")
  | .real, .int n => .real (Float.ofInt n)
  | .real, .text s =>
    match parseNumber? s with
    | some (.int n) => .real (Float.ofInt n)
    | some r => r
    | none => v
  | .numeric, .text s | .integer, .text s =>
    match parseNumber? s with
    | some (.real x) => match realAsInt? x with
      | some n => .int n
      | none => .real x
    | some r => r
    | none => v
  | .numeric, .real x | .integer, .real x =>
    match realAsInt? x with
    | some n => .int n
    | none => v
  | _, _ => v

/-- The number a value stands for in arithmetic: texts by their leading number, zero when
they have none. -/
def toNumber : Value → Value
  | .text s =>
    match scanNumber s.toList with
    | some t => t.value
    | none => .int 0
  | v => v

/-- Is the value true in a condition? Null is not, numbers are when not zero, texts by
their leading number. -/
def truthy (v : Value) : Bool :=
  match v.toNumber with
  | .int n => n != 0
  | .real x => x != 0
  | _ => false

/-- The rank of a storage class in comparisons: null, numbers, texts. -/
def classRank : Value → Nat
  | .null => 0
  | .int _ | .real _ => 1
  | .text _ => 2

/-- The order of two numbers. -/
def compareNumbers : Value → Value → Ordering
  | .int a, .int b => compare a b
  | .int a, .real y => let x := Float.ofInt a; if x < y then .lt else if x == y then .eq else .gt
  | .real x, .int b => let y := Float.ofInt b; if x < y then .lt else if x == y then .eq else .gt
  | .real x, .real y => if x < y then .lt else if x == y then .eq else .gt
  | _, _ => .eq

/-- The order of two values: by class, then by number or by the bytes of the text. -/
def order (a b : Value) : Ordering :=
  match a, b with
  | .text s, .text t => compare s t
  | _, _ =>
    let ra := classRank a
    let rb := classRank b
    if ra != rb then compare ra rb else compareNumbers a b

/-- Do two stored values count as equal for a uniqueness constraint (nulls never do)? -/
def same (a b : Value) : Bool :=
  match a, b with
  | .null, _ | _, .null => false
  | _, _ => order a b == .eq

/-- Is a value null? -/
def isNull : Value → Bool
  | .null => true
  | _ => false

/-- A truth value as stored: one or zero. -/
def ofBool (b : Bool) : Value := .int (if b then 1 else 0)

end Value

/-- The two sides of a comparison after the affinities of their expressions are applied. -/
def comparable (a : Value × Affinity) (b : Value × Affinity) : Value × Value :=
  let (x, ax) := a
  let (y, ay) := b
  if ax.isNumeric && !ay.isNumeric then (x, Value.withAffinity .numeric y)
  else if ay.isNumeric && !ax.isNumeric then (Value.withAffinity .numeric x, y)
  else if ax == .text && ay == .none then (x, Value.withAffinity .text y)
  else if ay == .text && ax == .none then (Value.withAffinity .text x, y)
  else (x, y)

end CreditExtraction.Sql
