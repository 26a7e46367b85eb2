import CreditExtraction.Text.Shortest
import CreditExtraction.Text.Quoted

/-!
# Writing and reading floating-point numbers as text

Numbers are written with the fewest digits that read back (`shortestDigits`), in one of two
layouts:

* `positional` — never an exponent: `1000000000000000000000`, `0.000001`, `-0`;
* `scientific` — one digit before the point and a signed exponent of at least two digits,
  `1e+21`, `1.5e-07`.

`FloatText.json` is the layout of JSON numbers: positional from `1e-6` up to below `1e21`,
otherwise scientific with a negative exponent written without its leading zero (`1e-7`).

Reading (`readFloat`) takes an optional sign, then decimal digits with an optional point and
an optional exponent (`e`/`E`), or `0x` hexadecimal digits with a mandatory binary exponent
(`p`), underscores between digits, or the words `inf`, `infinity` and `nan` in any case. The
value is rounded to the nearest float of the format, ties to even; beyond the largest float it
is an infinity and a range error.
-/

namespace CreditExtraction.Text

/-- The sign and digits of a finite float, or its class when it is not finite. -/
def digitsOf (f : BinaryFormat) (x : Float) : Option (Bool × Option DecimalDigits) :=
  match FloatValue.ofFloat x with
  | .nan | .infinite _ => none
  | .finite neg 0 _ => some (neg, none)
  | .finite neg m e => some (neg, some (shortestDigits f m e))

/-- Digits with the point placed, no exponent. -/
def DecimalDigits.positional (d : DecimalDigits) : String :=
  let n := d.digits.length
  if d.point ≤ 0 then
    String.ofList ('0' :: '.' :: List.replicate (-d.point).toNat '0' ++ d.digits)
  else if n ≤ d.point.toNat then
    String.ofList (d.digits ++ List.replicate (d.point.toNat - n) '0')
  else
    String.ofList (d.digits.take d.point.toNat ++ '.' :: d.digits.drop d.point.toNat)

/-- One digit, the point and the rest, then `e`, the exponent's sign and at least two digits. -/
def DecimalDigits.scientific (d : DecimalDigits) : String :=
  let exp := d.point - 1
  let mant := match d.digits with
    | [] => ['0']
    | [c] => [c]
    | c :: rest => c :: '.' :: rest
  let expDigits := Nat.toDigits 10 exp.natAbs
  let expDigits := if expDigits.length < 2 then '0' :: expDigits else expDigits
  String.ofList (mant ++ 'e' :: (if exp < 0 then '-' else '+') :: expDigits)

/-- The text of a non-finite float. -/
def nonFiniteText (x : Float) : String :=
  match FloatValue.ofFloat x with
  | .infinite true => "-Inf"
  | .infinite false => "+Inf"
  | _ => "NaN"

/-- The positional text of a float of format `f`, with the fewest digits that read back. -/
def formatPositional (f : BinaryFormat) (x : Float) : String :=
  match digitsOf f x with
  | none => nonFiniteText x
  | some (neg, ds) =>
    let body := match ds with
      | none => "0"
      | some d => d.positional
    if neg then "-" ++ body else body

/-- The text of a 64-bit float with the fewest digits that read back, never an exponent. -/
def showFloat (x : Float) : String := formatPositional .binary64 x

/-- The JSON text of a finite float of format `f`: positional from `1e-6` up to below `1e21`,
otherwise scientific, a negative exponent without its leading zero. -/
def jsonNumberText (f : BinaryFormat) (x : Float) : String :=
  match digitsOf f x with
  | none => nonFiniteText x
  | some (neg, none) => if neg then "-0" else "0"
  | some (neg, some d) =>
    -- positional exactly when 1e-6 ≤ |x| < 1e21, i.e. the point lies in -5 ..= 21
    let body :=
      if -5 ≤ d.point ∧ d.point ≤ 21 then d.positional
      else
        let s := d.scientific.toList
        -- `e-0d` becomes `e-d`
        let n := s.length
        if 4 ≤ n ∧ s[n - 4]? = some 'e' ∧ s[n - 3]? = some '-' ∧ s[n - 2]? = some '0' then
          String.ofList (s.take (n - 2) ++ s.drop (n - 1))
        else d.scientific
    if neg then "-" ++ body else body

/-- The general text of a 64-bit float with the fewest digits that read back: scientific when
the decimal exponent is below -4 or at least 6, positional otherwise. -/
def formatGeneral (x : Float) : String :=
  match digitsOf .binary64 x with
  | none => nonFiniteText x
  | some (neg, none) => if neg then "-0" else "0"
  | some (neg, some d) =>
    let exp := d.point - 1
    let body := if exp < -4 ∨ exp ≥ 6 then d.scientific else d.positional
    if neg then "-" ++ body else body

/-- Why a text is not a float. -/
inductive FloatReadError where
  | badSyntax
  | range
deriving Repr, DecidableEq

/-- The message of a failed read of `s` by the named reader. -/
def FloatReadError.message (e : FloatReadError) (reader s : String) : String :=
  "strconv." ++ reader ++ ": parsing " ++ Quoted.quote s ++ ": " ++
    match e with
    | .badSyntax => "invalid syntax"
    | .range => "value out of range"

/-- Is `c` an ASCII letter equal to `d` when lower-cased? -/
def eqIgnoreCase (c d : Char) : Bool := c.toLower == d

/-- The length of the common prefix of `s` and `word`, case ignored. -/
def commonPrefixIgnoreCase : List Char → List Char → Nat
  | c :: s, d :: w => if eqIgnoreCase c d then commonPrefixIgnoreCase s w + 1 else 0
  | _, _ => 0

/-- Underscores stand only between digits, or between a base prefix and a digit. -/
def underscoresOk (s : List Char) : Bool :=
  let s := match s with
    | '+' :: r | '-' :: r => r
    | r => r
  let (hex, start, body) := match s with
    | '0' :: c :: r =>
      if c.toLower == 'x' then (true, '0', r)
      else if c.toLower == 'b' || c.toLower == 'o' then (false, '0', r)
      else (false, '^', s)
    | _ => (false, '^', s)
  let step : Option Char → Char → Option Char := fun saw c =>
    match saw with
    | none => none
    | some sw =>
      if c.isDigit || (hex && 'a' ≤ c.toLower && c.toLower ≤ 'f') then some '0'
      else if c == '_' then (if sw == '0' then some '_' else none)
      else if sw == '_' then none
      else some '!'
  match body.foldl step (some start) with
  | some sw => sw != '_'
  | none => false

/-- The value of a hexadecimal digit. -/
def hexValue (c : Char) : Option Nat :=
  if c.isDigit then some (c.toNat - 48)
  else if 'a' ≤ c.toLower ∧ c.toLower ≤ 'f' then some (c.toLower.toNat - 87)
  else none

/-- A number read from text: its sign, its digits as one integer, and the power of the base
(ten, or two for hexadecimal digits) that scales them. -/
structure ScannedNumber where
  negative : Bool
  mant : Nat
  scale : Int
  hex : Bool

/-- Reads mantissa digits and at most one point: the integer of the digits, the power of the
base the point implies, whether any digit was seen, and the rest of the text. -/
def scanMantissa (hex : Bool) : List Char → Nat → Int → Bool → Bool → Nat × Int × Bool × List Char
  | [], m, dp, _, saw => (m, dp, saw, [])
  | c :: r, m, dp, sawDot, saw =>
    if c == '_' then scanMantissa hex r m dp sawDot saw
    else if c == '.' then
      if sawDot then (m, dp, saw, c :: r) else scanMantissa hex r m dp true saw
    else match (if hex then hexValue c else if c.isDigit then some (c.toNat - 48) else none) with
      | some v => scanMantissa hex r (m * (if hex then 16 else 10) + v)
          (if sawDot then dp - 1 else dp) sawDot true
      | none => (m, dp, saw, c :: r)

/-- Reads exponent digits (capped far beyond any finite float): the value, whether a digit
was seen, and the rest of the text. -/
def scanExponent : List Char → Nat → Bool → Nat × Bool × List Char
  | [], e, saw => (e, saw, [])
  | c :: r, e, saw =>
    if c == '_' then scanExponent r e saw
    else if c.isDigit then scanExponent r (min (e * 10 + (c.toNat - 48)) 100000) true
    else (e, saw, c :: r)

/-- Reads the sign, digits, point and exponent of a number; `none` when the text is malformed. -/
def scanNumber (s : List Char) : Option ScannedNumber :=
  let (negative, s) := match s with
    | '+' :: r => (false, r)
    | '-' :: r => (true, r)
    | r => (false, r)
  let (hex, s) := match s with
    | '0' :: c :: r => if c.toLower == 'x' && !r.isEmpty then (true, r) else (false, s)
    | _ => (false, s)
  let (mant, dp, sawDigits, rest) := scanMantissa hex s 0 0 false false
  let dp := if hex then dp * 4 else dp
  if !sawDigits then none
  else match rest with
    | [] => if hex then none else some ⟨negative, mant, dp, hex⟩
    | c :: r =>
      if c.toLower != (if hex then 'p' else 'e') then none
      else
        let (eneg, r) := match r with
          | '+' :: r' => (false, r')
          | '-' :: r' => (true, r')
          | r' => (false, r')
        match r with
        | d :: _ =>
          if !d.isDigit then none
          else
            let (e, _, r) := scanExponent r 0 false
            if !r.isEmpty then none
            else some ⟨negative, mant, dp + (if eneg then -(e : Int) else e), hex⟩
        | [] => none

/-- The special words: an optional sign and `inf` or `infinity`, or `nan` without a sign. -/
def readSpecial (s : List Char) : Option Float :=
  let (neg, signed, r) := match s with
    | '+' :: r => (false, true, r)
    | '-' :: r => (true, true, r)
    | r => (false, false, r)
  let n := commonPrefixIgnoreCase r "infinity".toList
  if (n == 3 || n == 8) && r.length == n then
    some (if neg then Float.negInf else Float.posInf)
  else if !signed && commonPrefixIgnoreCase r "nan".toList == 3 && r.length == 3 then
    some Float.quietNaN
  else none

/-- The float of format `f` nearest to `±mant * base^scale` (ties to even), returned as the
64-bit float of the same value; `none` when it lies beyond the largest float. -/
def nearestFloat (f : BinaryFormat) (negative : Bool) (mant : Nat) (scale : Int) (hex : Bool) :
    Option Float :=
  if mant = 0 then some (if negative then Float.negZero else 0.0)
  else
    let signed (m : Nat) (e : Int) : Float := floatOfDyadic negative m e
    if hex then
      -- binary scale: exact numerator and denominator
      let (num, den) := if 0 ≤ scale then (mant * Nat.pow 2 scale.toNat, 1) else (mant, Nat.pow 2 (-scale).toNat)
      (roundRatio f num den).map fun (m, e) => signed m e
    else
      -- decide far-off magnitudes without building huge powers
      let point : Int := (decimalLength mant : Int) + scale
      let maxPoint : Int := if f.precision = 53 then 310 else 40
      let minPoint : Int := if f.precision = 53 then -325 else -46
      if point > maxPoint then none
      else if point < minPoint then some (if negative then Float.negZero else 0.0)
      else
        let (num, den) :=
          if 0 ≤ scale then (mant * Nat.pow 10 scale.toNat, 1) else (mant, Nat.pow 10 (-scale).toNat)
        match roundRatio f num den with
        | some (0, _) => some (if negative then Float.negZero else 0.0)
        | some (m, e) => some (signed m e)
        | none => none

/-- Reads a float of format `f` from the whole text `s`. A value beyond the largest float
gives the infinity of its sign along with the range error. -/
def readFloat (f : BinaryFormat) (s : String) : Except (FloatReadError × Float) Float :=
  let cs := s.toList
  match readSpecial cs with
  | some x => .ok x
  | none =>
    match scanNumber cs with
    | none => .error (.badSyntax, 0.0)
    | some n =>
      if cs.contains '_' && !underscoresOk cs then .error (.badSyntax, 0.0)
      else match nearestFloat f n.negative n.mant n.scale n.hex with
        | some x => .ok x
        | none => .error (.range, if n.negative then Float.negInf else Float.posInf)

/-- Reads a 64-bit float, with the message of a failed read. -/
def parseFloat64 (s : String) : Except String Float :=
  match readFloat .binary64 s with
  | .ok x => .ok x
  | .error (e, _) => .error (e.message "ParseFloat" s)

end CreditExtraction.Text
