import CreditExtraction.Json.Value

/-!
# Exact decimal numbers

Schema keywords compare numbers exactly: a number's text is read as an exact decimal
`± digits · 10^exp`, and comparisons, integrality and divisibility are decided on those, with
no rounding.
-/

namespace CreditExtraction.JsonSchema

/-- An exact decimal: `(-1)^neg · digits · 10^exp`. -/
structure Decimal where
  neg : Bool
  digits : Nat
  exp : Int
deriving Repr, Inhabited

/-- Reads the text of a JSON number (or of a float's shortest text, exponent `e±dd` allowed). -/
def Decimal.ofText (s : String) : Option Decimal := Id.run do
  let cs := s.toList
  let (neg, cs) := match cs with
    | '-' :: rest => (true, rest)
    | '+' :: rest => (false, rest)
    | cs => (false, cs)
  let intPart := cs.takeWhile Char.isDigit
  let rest := cs.drop intPart.length
  let (frac, rest) := match rest with
    | '.' :: r => (r.takeWhile Char.isDigit, r.drop (r.takeWhile Char.isDigit).length)
    | r => ([], r)
  let expo : Option Int := match rest with
    | [] => some 0
    | 'e' :: r | 'E' :: r =>
      match r with
      | '-' :: ds => if !ds.isEmpty && ds.all Char.isDigit then some (-(String.ofList ds).toNat! : Int) else none
      | '+' :: ds | ds => if !ds.isEmpty && ds.all Char.isDigit then some ((String.ofList ds).toNat! : Int) else none
    | _ => none
  if intPart.isEmpty && frac.isEmpty then return none
  match expo with
  | none => return none
  | some e =>
    let digits := (String.ofList (intPart ++ frac)).toNat!
    return some ⟨neg, digits, e - frac.length⟩

/-- The signed value scaled to a common exponent: `n · 10^(exp - e)` for `e ≤ exp`. -/
def Decimal.scaled (d : Decimal) (e : Int) : Int :=
  let n : Int := (d.digits : Int) * Int.pow 10 (d.exp - e).toNat
  if d.neg then -n else n

/-- Compares two decimals: `lt`, `eq` or `gt`. -/
def Decimal.compare (a b : Decimal) : Ordering :=
  let e := min a.exp b.exp
  Ord.compare (a.scaled e) (b.scaled e)

/-- Is the decimal a whole number? -/
def Decimal.isInt (d : Decimal) : Bool :=
  if d.exp ≥ 0 then true else d.digits % Nat.pow 10 (-d.exp).toNat == 0

/-- Is `a` a whole multiple of `b` (`b` not zero)? -/
def Decimal.multipleOf (a b : Decimal) : Bool :=
  if b.digits == 0 then false
  else
    let e := min a.exp b.exp
    (a.scaled e) % (b.scaled e) == 0

end CreditExtraction.JsonSchema
