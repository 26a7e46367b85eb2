/-!
# MD5

The MD5 digest of a byte string (RFC 1321), which the standard security handler of PDF files
uses to derive its keys.

The message is padded as for SHA-256, but with its bit length little-endian; words are read
little-endian as well. Each 64-byte block is mixed into the four state words by four rounds of
sixteen steps, each step adding one of the block's words, a constant and one of four boolean
functions of the state, then rotating left.
-/

namespace CreditExtraction.Digest

/-- The step constants: the first 32 bits of the absolute values of the sines of 1 to 64. -/
def md5Constants : Array UInt32 := #[
  0xd76aa478, 0xe8c7b756, 0x242070db, 0xc1bdceee, 0xf57c0faf, 0x4787c62a, 0xa8304613, 0xfd469501,
  0x698098d8, 0x8b44f7af, 0xffff5bb1, 0x895cd7be, 0x6b901122, 0xfd987193, 0xa679438e, 0x49b40821,
  0xf61e2562, 0xc040b340, 0x265e5a51, 0xe9b6c7aa, 0xd62f105d, 0x02441453, 0xd8a1e681, 0xe7d3fbc8,
  0x21e1cde6, 0xc33707d6, 0xf4d50d87, 0x455a14ed, 0xa9e3e905, 0xfcefa3f8, 0x676f02d9, 0x8d2a4c8a,
  0xfffa3942, 0x8771f681, 0x6d9d6122, 0xfde5380c, 0xa4beea44, 0x4bdecfa9, 0xf6bb4b60, 0xbebfbc70,
  0x289b7ec6, 0xeaa127fa, 0xd4ef3085, 0x04881d05, 0xd9d4d039, 0xe6db99e5, 0x1fa27cf8, 0xc4ac5665,
  0xf4292244, 0x432aff97, 0xab9423a7, 0xfc93a039, 0x655b59c3, 0x8f0ccc92, 0xffeff47d, 0x85845dd1,
  0x6fa87e4f, 0xfe2ce6e0, 0xa3014314, 0x4e0811a1, 0xf7537e82, 0xbd3af235, 0x2ad7d2bb, 0xeb86d391]

/-- The rotation of each step: four amounts per round, repeated four times. -/
def md5Shifts : Array UInt32 := #[
  7, 12, 17, 22, 7, 12, 17, 22, 7, 12, 17, 22, 7, 12, 17, 22,
  5, 9, 14, 20, 5, 9, 14, 20, 5, 9, 14, 20, 5, 9, 14, 20,
  4, 11, 16, 23, 4, 11, 16, 23, 4, 11, 16, 23, 4, 11, 16, 23,
  6, 10, 15, 21, 6, 10, 15, 21, 6, 10, 15, 21, 6, 10, 15, 21]

/-- Rotation left by `n` bits. -/
def rotl (x : UInt32) (n : UInt32) : UInt32 := (x <<< n) ||| (x >>> (32 - n))

/-- The padded message: a one bit, zeros up to 56 bytes modulo 64, and the bit length as a
little-endian 64-bit number. -/
def md5Pad (msg : ByteArray) : ByteArray := Id.run do
  let len := msg.size
  let mut out := msg.push 0x80
  let zeros := (119 - len % 64) % 64
  for _ in [0:zeros] do
    out := out.push 0
  let bits := len * 8
  for i in [0:8] do
    out := out.push (UInt8.ofNat ((bits >>> (8 * i)) % 256))
  return out

/-- The little-endian word at byte offset `i`. -/
def littleWordAt (bs : ByteArray) (i : Nat) : UInt32 :=
  (bs.get! i).toUInt32 ||| ((bs.get! (i + 1)).toUInt32 <<< 8) |||
    ((bs.get! (i + 2)).toUInt32 <<< 16) ||| ((bs.get! (i + 3)).toUInt32 <<< 24)

/-- The boolean function of step `i` and the index of the block word it adds. -/
def md5Step (i : Nat) (b c d : UInt32) : UInt32 × Nat :=
  if i < 16 then ((b &&& c) ||| ((~~~ b) &&& d), i)
  else if i < 32 then ((d &&& b) ||| ((~~~ d) &&& c), (5 * i + 1) % 16)
  else if i < 48 then (b ^^^ c ^^^ d, (3 * i + 5) % 16)
  else (c ^^^ (b ||| (~~~ d)), (7 * i) % 16)

/-- Mixes the block at byte offset `off` into the state. -/
def md5Compress (h : Array UInt32) (bs : ByteArray) (off : Nat) : Array UInt32 := Id.run do
  let mut a := h[0]!
  let mut b := h[1]!
  let mut c := h[2]!
  let mut d := h[3]!
  for i in [0:64] do
    let (f, g) := md5Step i b c d
    let t := d
    d := c
    c := b
    b := b + rotl (a + f + md5Constants[i]! + littleWordAt bs (off + 4 * g)) md5Shifts[i]!
    a := t
  return #[h[0]! + a, h[1]! + b, h[2]! + c, h[3]! + d]

/-- The MD5 digest of a message, as 16 bytes. -/
def md5 (msg : ByteArray) : ByteArray := Id.run do
  let padded := md5Pad msg
  let mut h : Array UInt32 := #[0x67452301, 0xefcdab89, 0x98badcfe, 0x10325476]
  for blk in [0:padded.size / 64] do
    h := md5Compress h padded (64 * blk)
  let mut out := ByteArray.empty
  for x in h do
    for s in [0, 8, 16, 24] do
      out := out.push ((x >>> s.toUInt32) &&& 0xff).toUInt8
  return out

end CreditExtraction.Digest
