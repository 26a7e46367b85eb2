/-!
# Base64

The standard base64 alphabet with `=` padding (RFC 4648 §4). Decoding skips line breaks
(`\r`, `\n`) anywhere, requires every quantum to be complete or properly padded, and reports
the offset of the first byte it cannot accept as `illegal base64 data at input byte N`.
Bits left over after the last whole byte are ignored.
-/

namespace CreditExtraction.Text.Base64

/-- The alphabet, in value order. -/
def alphabet : Array Char :=
  "ABCDEFGHIJKLMNOPQRSTUVWXYZabcdefghijklmnopqrstuvwxyz0123456789+/".toList.toArray

/-- The value of an alphabet byte. -/
def valueOf (b : UInt8) : Option Nat :=
  if 65 ≤ b && b ≤ 90 then some (b.toNat - 65)
  else if 97 ≤ b && b ≤ 122 then some (b.toNat - 97 + 26)
  else if 48 ≤ b && b ≤ 57 then some (b.toNat - 48 + 52)
  else if b == 43 then some 62
  else if b == 47 then some 63
  else none

/-- The padded base64 text of bytes. -/
def encode (bs : ByteArray) : String := Id.run do
  let mut out : Array Char := #[]
  let n := bs.size
  for q in [0:(n + 2) / 3] do
    let i := 3 * q
    let b0 := (bs.get! i).toNat
    let b1 := if i + 1 < n then (bs.get! (i + 1)).toNat else 0
    let b2 := if i + 2 < n then (bs.get! (i + 2)).toNat else 0
    let v := b0 * 65536 + b1 * 256 + b2
    out := out.push alphabet[v / 262144 % 64]!
    out := out.push alphabet[v / 4096 % 64]!
    out := out.push (if i + 1 < n then alphabet[v / 64 % 64]! else '=')
    out := out.push (if i + 2 < n then alphabet[v % 64]! else '=')
  return String.ofList out.toList

/-- The message of a byte that cannot be accepted. -/
def corrupt (at_ : Nat) : String := "illegal base64 data at input byte " ++ toString at_

/-- Is `b` a line break, which decoding skips? -/
def isBreak (b : UInt8) : Bool := b == 10 || b == 13

/-- The index of the first byte at or after `i` that is not a line break. -/
def skipBreaks (src : ByteArray) (i : Nat) : Nat := Id.run do
  let mut j := i
  for _ in [i:src.size] do
    if j < src.size && isBreak (src.get! j) then j := j + 1 else break
  return j

/-- Decodes one quantum starting at `si`: the next position, the decoded bytes, and the
failure if there is one; `none` as the position means the input ended cleanly. -/
def quantum (src : ByteArray) (si : Nat) : Except String (Option Nat × List UInt8) := Id.run do
  let mut vals : Array Nat := #[]
  let mut pos := si
  let mut ended := false
  for _ in [0:src.size + 4] do
    if vals.size == 4 then break
    if pos == src.size then
      if vals.size == 0 then return .ok (none, [])
      return .error (corrupt (pos - vals.size))
    let b := src.get! pos
    pos := pos + 1
    match valueOf b with
    | some v => vals := vals.push v
    | none =>
      if isBreak b then continue
      if b != 61 then return .error (corrupt (pos - 1))
      -- padding: only after two or three symbols
      if vals.size < 2 then return .error (corrupt (pos - 1))
      if vals.size == 2 then
        pos := skipBreaks src pos
        if pos == src.size then return .error (corrupt src.size)
        if src.get! pos != 61 then return .error (corrupt (pos - 1))
        pos := pos + 1
      pos := skipBreaks src pos
      if pos < src.size then return .error (corrupt pos)
      ended := true
      break
  let v := vals.foldl (fun acc x => acc * 64 + x) 0 * Nat.pow 64 (4 - vals.size)
  let bytes := [UInt8.ofNat (v / 65536 % 256), UInt8.ofNat (v / 256 % 256), UInt8.ofNat (v % 256)]
  let out := bytes.take (vals.size - 1)
  return .ok (if ended then none else some pos, out)

/-- Decodes padded base64 text (see the module comment). -/
def decode (src : ByteArray) : Except String ByteArray := Id.run do
  let mut out := ByteArray.empty
  let mut pos := 0
  for _ in [0:src.size + 1] do
    match quantum src pos with
    | .error e => return .error e
    | .ok (next, bytes) =>
      for b in bytes do
        out := out.push b
      match next with
      | none => return .ok out
      | some p => pos := p
  return .ok out

end CreditExtraction.Text.Base64
