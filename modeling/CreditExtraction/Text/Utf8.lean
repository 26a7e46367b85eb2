/-!
# UTF-8 byte sequences

Uploaded files, tool output and model replies are bytes that need not be valid UTF-8. This
module reads such bytes one code point at a time: a well-formed sequence gives its code point,
and any byte that does not start one is read alone as an error of width one (overlong forms,
surrogates and values above `0x10FFFF` are not well formed).

* `decodeRune` — the first code point of a byte list, or an error of width one.
* `lossy` — the text of a byte list with each ill-formed byte replaced by U+FFFD.
-/

namespace CreditExtraction.Text.Utf8

/-- The replacement character written for ill-formed input. -/
def replacement : Char := '�'

/-- Is `b` a continuation byte `10xxxxxx`? -/
def isCont (b : UInt8) : Bool := b &&& 0xC0 == 0x80

/-- The code point at the front of `bs` with the number of bytes it takes, or `none` when the
first byte does not start a well-formed sequence (the error then has width one). -/
def decodeRune : List UInt8 → Option (Nat × Nat)
  | [] => none
  | b0 :: rest =>
    let c0 := b0.toNat
    if c0 < 0x80 then some (c0, 1)
    else if c0 < 0xC2 then none
    else if c0 < 0xE0 then
      match rest with
      | b1 :: _ => if isCont b1 then some ((c0 - 0xC0) * 64 + (b1.toNat - 0x80), 2) else none
      | _ => none
    else if c0 < 0xF0 then
      match rest with
      | b1 :: b2 :: _ =>
        let lo := if c0 == 0xE0 then 0xA0 else 0x80
        let hi := if c0 == 0xED then 0x9F else 0xBF
        if lo ≤ b1.toNat ∧ b1.toNat ≤ hi ∧ isCont b2 then
          some ((c0 - 0xE0) * 4096 + (b1.toNat - 0x80) * 64 + (b2.toNat - 0x80), 3)
        else none
      | _ => none
    else if c0 < 0xF5 then
      match rest with
      | b1 :: b2 :: b3 :: _ =>
        let lo := if c0 == 0xF0 then 0x90 else 0x80
        let hi := if c0 == 0xF4 then 0x8F else 0xBF
        if lo ≤ b1.toNat ∧ b1.toNat ≤ hi ∧ isCont b2 ∧ isCont b3 then
          some ((c0 - 0xF0) * 262144 + (b1.toNat - 0x80) * 4096 + (b2.toNat - 0x80) * 64
            + (b3.toNat - 0x80), 4)
        else none
      | _ => none
    else none

/-- One step of reading: a code point or an ill-formed byte. -/
inductive Piece where
  | rune (c : Char)
  | bad (b : UInt8)

/-- The code points and ill-formed bytes of a byte list, in order. -/
def units (bs : List UInt8) : List Piece :=
  go bs.length bs
where
  go : Nat → List UInt8 → List Piece
    | 0, _ => []
    | _, [] => []
    | fuel + 1, b :: rest =>
      match decodeRune (b :: rest) with
      | some (c, w) => .rune (Char.ofNat c) :: go fuel ((b :: rest).drop w)
      | none => .bad b :: go fuel rest

/-- The text of `bs`, each ill-formed byte replaced by U+FFFD. -/
def lossy (bs : List UInt8) : String :=
  String.ofList ((units bs).map fun
    | .rune c => c
    | .bad _ => replacement)

/-- The text of a byte array, each ill-formed byte replaced by U+FFFD. -/
def lossyOfBytes (bs : ByteArray) : String := lossy bs.toList

end CreditExtraction.Text.Utf8
