/-!
# Decimal integers

`parseDecimal s bits` reads a decimal integer with an optional sign that fits in a signed
integer of `bits` bits; anything else, including an empty text, underscores and a value out
of range, is refused.
-/

namespace CreditExtraction.Text

/-- Reads a signed decimal integer of `bits` bits (see the module comment). -/
def parseDecimal (s : String) (bits : Nat) : Option Int :=
  let cs := s.toList
  let (neg, ds) := match cs with
    | '-' :: rest => (true, rest)
    | '+' :: rest => (false, rest)
    | cs => (false, cs)
  if ds.isEmpty || !ds.all Char.isDigit then none
  else
    let n : Nat := ds.foldl (fun acc c => acc * 10 + (c.toNat - 48)) 0
    let v : Int := if neg then -(n : Int) else n
    if v < -(Int.pow 2 (bits - 1)) || v ≥ Int.pow 2 (bits - 1) then none else some v

end CreditExtraction.Text
