/-!
# Binary floats as exact numbers, and their shortest decimal digits

A finite binary float is the exact number `mant * 2^exp`; it also stands for the interval of
reals that round to it, whose ends are the midpoints to its two neighbours, included exactly
when its significand is even.

* `BinaryFormat` — the two interchange formats the library reads and writes (64 and 32 bits).
* `FloatValue` — a float taken apart: not-a-number, an infinity, or a signed exact dyadic number.
* `shortestDigits` — of all decimals inside the rounding interval, those with the fewest
  significant digits, and of two such the nearer one; an exact tie goes to the even digit.
* `roundRatio` — the value of a positive fraction rounded to the nearest float of a format,
  ties to even, or `none` when it lies beyond the largest finite float.
-/

namespace CreditExtraction.Text

/-- A binary interchange format: significand bits (the hidden bit included), and the smallest
and largest exponent of the unit in the last place of a finite float. -/
structure BinaryFormat where
  precision : Nat
  minExp : Int
  maxExp : Int
deriving Repr, DecidableEq

/-- 64-bit floats. -/
def BinaryFormat.binary64 : BinaryFormat := ⟨53, -1074, 971⟩

/-- 32-bit floats. -/
def BinaryFormat.binary32 : BinaryFormat := ⟨24, -149, 104⟩

/-- A float taken apart. A finite float is `(-1)^negative * mant * 2^exp`. -/
inductive FloatValue where
  | nan
  | infinite (negative : Bool)
  | finite (negative : Bool) (mant : Nat) (exp : Int)
deriving Repr, DecidableEq

/-- Takes a 64-bit float apart through its bit pattern. -/
def FloatValue.ofFloat (x : Float) : FloatValue :=
  let b := x.toBits.toNat
  let negative := b / Nat.pow 2 63 == 1
  let e : Nat := (b / Nat.pow 2 52) % 2048
  let m := b % Nat.pow 2 52
  if e == 2047 then
    if m == 0 then .infinite negative else .nan
  else if e == 0 then .finite negative m (-1074)
  else .finite negative (m + Nat.pow 2 52) ((e : Int) - 1075)

/-- `n * 2^k` for an integer `k`, rounded down when `k` is negative. -/
def shiftNat (n : Nat) (k : Int) : Nat :=
  if 0 ≤ k then n * Nat.pow 2 k.toNat else n / Nat.pow 2 (-k).toNat

/-- The canonical significand and exponent of the exact number `m * 2^e` in format `f`:
the significand is below `2^precision`, and it is at least `2^(precision-1)` unless the
exponent is the smallest one. Assumes the number is a float of the format. -/
def BinaryFormat.canonical (f : BinaryFormat) (m : Nat) (e : Int) : Nat × Int :=
  if m = 0 then (0, f.minExp)
  else
    let bits : Int := (Nat.log2 m : Int) + 1
    let exp := max f.minExp (e + bits - f.precision)
    (shiftNat m (e - exp), exp)

/-- The 64-bit float with the exact value `m * 2^e`, which must be one. -/
def floatOfDyadic (negative : Bool) (m : Nat) (e : Int) : Float :=
  let (mant, exp) := BinaryFormat.binary64.canonical m e
  let bits : Nat :=
    if mant < Nat.pow 2 52 then mant
    else (exp + 1075).toNat * Nat.pow 2 52 + (mant - Nat.pow 2 52)
  Float.ofBits (UInt64.ofNat (bits + if negative then Nat.pow 2 63 else 0))

/-- Positive infinity. -/
def Float.posInf : Float := Float.ofBits 0x7FF0000000000000

/-- Negative infinity. -/
def Float.negInf : Float := Float.ofBits 0xFFF0000000000000

/-- The quiet not-a-number. -/
def Float.quietNaN : Float := Float.ofBits 0x7FF8000000000001

/-- Negative zero. -/
def Float.negZero : Float := Float.ofBits 0x8000000000000000

/-- The number of decimal digits of a positive natural number. -/
def decimalLength (n : Nat) : Nat := (Nat.toDigits 10 n).length

/-- Compares `c * 10^j` with `x / den`. -/
def cmpScaled (c : Nat) (j : Int) (x den : Nat) : Ordering :=
  if 0 ≤ j then compare (c * Nat.pow 10 j.toNat * den) x
  else compare (c * den) (x * Nat.pow 10 (-j).toNat)

/-- The exponent of the leading decimal digit of the positive fraction `x / den`. -/
def leadingExponent (x den : Nat) : Int :=
  if den ≤ x then (decimalLength (x / den) : Int) - 1
  else
    -- the first `m` with `x * 10^m ≥ den` is one of these two
    let m := decimalLength den - decimalLength x
    if x * Nat.pow 10 m ≥ den then -(m : Int) else -((m : Int) + 1)

/-- Searches the decimal grids `10^j`, `10^(j-1)`, … for one with a point in the rounding
interval `(lo, hi)` of `v` (all over `den`; the ends count when `inclusive`), and returns the
chosen point as `(c, j)`, meaning `c * 10^j`. -/
def gridSearch (v lo hi den : Nat) (inclusive : Bool) : Nat → Int → Nat × Int
  | 0, j => (v, j)
  | fuel + 1, j =>
    let q : Nat := if 0 ≤ j then v / (den * Nat.pow 10 j.toNat) else v * Nat.pow 10 (-j).toNat / den
    let downIn := match cmpScaled q j lo den with
      | .gt => true
      | .eq => inclusive
      | .lt => false
    let upIn := match cmpScaled (q + 1) j hi den with
      | .lt => true
      | .eq => inclusive
      | .gt => false
    if downIn && upIn then
      -- the nearer of the two; an exact tie goes to the even one
      match cmpScaled (2 * q + 1) j (2 * v) den with
      | .gt => (q, j)
      | .lt => (q + 1, j)
      | .eq => if q % 2 == 0 then (q, j) else (q + 1, j)
    else if downIn then (q, j)
    else if upIn then (q + 1, j)
    else gridSearch v lo hi den inclusive fuel (j - 1)

/-- Removes trailing zero digits of `c * 10^j`. -/
def stripZeros : Nat → Nat → Int → Nat × Int
  | 0, c, j => (c, j)
  | fuel + 1, c, j =>
    if c ≠ 0 ∧ c % 10 = 0 then stripZeros fuel (c / 10) (j + 1) else (c, j)

/-- Decimal digits `ds` and point position `point`: the number `0.ds * 10^point`. -/
structure DecimalDigits where
  digits : List Char
  point : Int
deriving Repr, DecidableEq

/-- The shortest decimal digits that read back as the positive float `m * 2^e` of format `f`
(see the module comment). -/
def shortestDigits (f : BinaryFormat) (m : Nat) (e : Int) : DecimalDigits :=
  let (mant, exp) := f.canonical m e
  let tight := mant = Nat.pow 2 (f.precision - 1) ∧ exp > f.minExp
  -- v, lo and hi in units of 2^(exp-2)
  let v := 4 * mant
  let hi := 4 * mant + 2
  let lo := if tight then 4 * mant - 1 else 4 * mant - 2
  let s := exp - 2
  let (v, lo, hi, den) :=
    if 0 ≤ s then (v * Nat.pow 2 s.toNat, lo * Nat.pow 2 s.toNat, hi * Nat.pow 2 s.toNat, 1)
    else (v, lo, hi, Nat.pow 2 (-s).toNat)
  let (c, j) := gridSearch v lo hi den (mant % 2 == 0) 64 (leadingExponent hi den)
  let (c, j) := stripZeros 64 c j
  let ds := Nat.toDigits 10 c
  ⟨ds, j + ds.length⟩

/-- The value of `num / den` (both positive) rounded to the nearest float of format `f`,
ties to even, as a canonical significand and exponent; `none` beyond the largest float. -/
def roundRatio (f : BinaryFormat) (num den : Nat) : Option (Nat × Int) :=
  let p := f.precision
  let divide (exp : Int) : Nat × Nat × Nat :=
    if 0 ≤ exp then
      let d := den * Nat.pow 2 exp.toNat
      (num / d, num % d, d)
    else
      let n := num * Nat.pow 2 (-exp).toNat
      (n / den, n % den, den)
  let e0 := max f.minExp ((Nat.log2 num : Int) - (Nat.log2 den : Int) - p + 1)
  let (q0, _, _) := divide e0
  let exp := if q0 < Nat.pow 2 (p - 1) ∧ e0 > f.minExp then e0 - 1 else e0
  let (q, r, d) := divide exp
  let q := if 2 * r > d ∨ (2 * r = d ∧ q % 2 = 1) then q + 1 else q
  let (q, exp) := if q = Nat.pow 2 p then (Nat.pow 2 (p - 1), exp + 1) else (q, exp)
  if exp > f.maxExp then none else some (q, exp)

end CreditExtraction.Text
