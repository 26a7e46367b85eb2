/-!
# SHA-256

The SHA-256 digest of a byte string (FIPS 180-4), and its lower-case hexadecimal text, which
is how artifacts and stored blobs are fingerprinted.

The message is padded with a one bit, zeros and its bit length to whole 64-byte blocks; each
block is expanded to 64 schedule words and mixed into the eight state words by 64 rounds.
-/

namespace CreditExtraction.Digest

/-- The round constants: the first 32 bits of the fractional parts of the cube roots of the
first 64 primes. -/
def roundConstants : Array UInt32 := #[
  0x428a2f98, 0x71374491, 0xb5c0fbcf, 0xe9b5dba5, 0x3956c25b, 0x59f111f1, 0x923f82a4, 0xab1c5ed5,
  0xd807aa98, 0x12835b01, 0x243185be, 0x550c7dc3, 0x72be5d74, 0x80deb1fe, 0x9bdc06a7, 0xc19bf174,
  0xe49b69c1, 0xefbe4786, 0x0fc19dc6, 0x240ca1cc, 0x2de92c6f, 0x4a7484aa, 0x5cb0a9dc, 0x76f988da,
  0x983e5152, 0xa831c66d, 0xb00327c8, 0xbf597fc7, 0xc6e00bf3, 0xd5a79147, 0x06ca6351, 0x14292967,
  0x27b70a85, 0x2e1b2138, 0x4d2c6dfc, 0x53380d13, 0x650a7354, 0x766a0abb, 0x81c2c92e, 0x92722c85,
  0xa2bfe8a1, 0xa81a664b, 0xc24b8b70, 0xc76c51a3, 0xd192e819, 0xd6990624, 0xf40e3585, 0x106aa070,
  0x19a4c116, 0x1e376c08, 0x2748774c, 0x34b0bcb5, 0x391c0cb3, 0x4ed8aa4a, 0x5b9cca4f, 0x682e6ff3,
  0x748f82ee, 0x78a5636f, 0x84c87814, 0x8cc70208, 0x90befffa, 0xa4506ceb, 0xbef9a3f7, 0xc67178f2]

/-- The initial state: the first 32 bits of the fractional parts of the square roots of the
first eight primes. -/
def initialState : Array UInt32 :=
  #[0x6a09e667, 0xbb67ae85, 0x3c6ef372, 0xa54ff53a, 0x510e527f, 0x9b05688c, 0x1f83d9ab, 0x5be0cd19]

/-- Rotation right by `n` bits. -/
def rotr (x : UInt32) (n : UInt32) : UInt32 := (x >>> n) ||| (x <<< (32 - n))

/-- The padded message: a one bit, zeros up to 56 bytes modulo 64, and the bit length as a
big-endian 64-bit number. -/
def pad (msg : ByteArray) : ByteArray := Id.run do
  let len := msg.size
  let mut out := msg.push 0x80
  let zeros := (119 - len % 64) % 64
  for _ in [0:zeros] do
    out := out.push 0
  let bits := len * 8
  for i in [0:8] do
    out := out.push (UInt8.ofNat ((bits >>> (8 * (7 - i))) % 256))
  return out

/-- The big-endian word at byte offset `i`. -/
def wordAt (bs : ByteArray) (i : Nat) : UInt32 :=
  ((bs.get! i).toUInt32 <<< 24) ||| ((bs.get! (i + 1)).toUInt32 <<< 16) |||
    ((bs.get! (i + 2)).toUInt32 <<< 8) ||| (bs.get! (i + 3)).toUInt32

/-- The 64 schedule words of the block at byte offset `off`. -/
def schedule (bs : ByteArray) (off : Nat) : Array UInt32 := Id.run do
  let mut w : Array UInt32 := Array.mkEmpty 64
  for i in [0:16] do
    w := w.push (wordAt bs (off + 4 * i))
  for i in [16:64] do
    let x := w[i - 15]!
    let y := w[i - 2]!
    let s0 := rotr x 7 ^^^ rotr x 18 ^^^ (x >>> 3)
    let s1 := rotr y 17 ^^^ rotr y 19 ^^^ (y >>> 10)
    w := w.push (w[i - 16]! + s0 + w[i - 7]! + s1)
  return w

/-- Mixes one block into the state. -/
def compress (h : Array UInt32) (w : Array UInt32) : Array UInt32 := Id.run do
  let mut a := h[0]!
  let mut b := h[1]!
  let mut c := h[2]!
  let mut d := h[3]!
  let mut e := h[4]!
  let mut f := h[5]!
  let mut g := h[6]!
  let mut k := h[7]!
  for i in [0:64] do
    let s1 := rotr e 6 ^^^ rotr e 11 ^^^ rotr e 25
    let ch := (e &&& f) ^^^ ((~~~ e) &&& g)
    let t1 := k + s1 + ch + roundConstants[i]! + w[i]!
    let s0 := rotr a 2 ^^^ rotr a 13 ^^^ rotr a 22
    let maj := (a &&& b) ^^^ (a &&& c) ^^^ (b &&& c)
    let t2 := s0 + maj
    k := g
    g := f
    f := e
    e := d + t1
    d := c
    c := b
    b := a
    a := t1 + t2
  return #[h[0]! + a, h[1]! + b, h[2]! + c, h[3]! + d, h[4]! + e, h[5]! + f, h[6]! + g, h[7]! + k]

/-- The SHA-256 digest of a message, as 32 bytes. -/
def sha256 (msg : ByteArray) : ByteArray := Id.run do
  let padded := pad msg
  let mut h := initialState
  for blk in [0:padded.size / 64] do
    h := compress h (schedule padded (64 * blk))
  let mut out := ByteArray.empty
  for x in h do
    for s in [24, 16, 8, 0] do
      out := out.push ((x >>> s.toUInt32) &&& 0xff).toUInt8
  return out

/-- The lower-case hexadecimal text of bytes. -/
def hexText (bs : ByteArray) : String :=
  let digit := fun (n : Nat) => if n < 10 then Char.ofNat (48 + n) else Char.ofNat (87 + n)
  String.ofList (bs.toList.flatMap fun b => [digit (b.toNat / 16), digit (b.toNat % 16)])

/-- The hexadecimal SHA-256 digest of a message. -/
def sha256Hex (msg : ByteArray) : String := hexText (sha256 msg)

end CreditExtraction.Digest
