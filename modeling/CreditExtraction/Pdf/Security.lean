import CreditExtraction.Digest.Md5

/-!
# The standard security handler

An encrypted PDF file names its security handler in the trailer's `/Encrypt` dictionary
(ISO 32000-1 §7.6.3). The standard handler protects the file with a user password; a reader
that has none tries the empty one, which opens the many files that are encrypted only to carry
permissions.

The file key is the MD5 digest of the padded password, the owner entry `/O`, the permissions
`/P` (four bytes, least significant first) and the first string of the trailer's `/ID`; from
revision 3 on it is hashed fifty times more and cut to the key length. The password is right
when the user entry `/U` starts with what the handler computes from that key: the padding
encrypted with RC4 (revision 2), or, from revision 3 on, the MD5 digest of the padding and the
identifier encrypted twenty times, with the key XORed with the round number from the second
time on.
-/

namespace CreditExtraction.Pdf

/-- The 32 bytes that pad a password. -/
def passwordPad : ByteArray := ByteArray.mk #[
  0x28, 0xBF, 0x4E, 0x5E, 0x4E, 0x75, 0x8A, 0x41, 0x64, 0x00, 0x4E, 0x56, 0xFF, 0xFA, 0x01, 0x08,
  0x2E, 0x2E, 0x00, 0xB6, 0xD0, 0x68, 0x3E, 0x80, 0x2F, 0x0C, 0xA9, 0xFE, 0x64, 0x53, 0x69, 0x7A]

/-- The RC4 permutation a key sets up. -/
def rc4Schedule (key : ByteArray) : Array UInt8 := Id.run do
  let mut s : Array UInt8 := Array.ofFn fun (i : Fin 256) => i.val.toUInt8
  let mut j : Nat := 0
  for i in [0:256] do
    j := (j + (s[i]!).toNat + (key.get! (i % max key.size 1)).toNat) % 256
    let si := s[i]!
    s := (s.set! i s[j]!).set! j si
  return s

/-- The bytes XORed with the RC4 key stream of `key`: encryption and decryption alike. -/
def rc4 (key data : ByteArray) : ByteArray := Id.run do
  let mut s := rc4Schedule key
  let mut i : Nat := 0
  let mut j : Nat := 0
  let mut out := ByteArray.empty
  for b in data.toList do
    i := (i + 1) % 256
    j := (j + (s[i]!).toNat) % 256
    let si := s[i]!
    s := (s.set! i s[j]!).set! j si
    let k := s[((s[i]!).toNat + (s[j]!).toNat) % 256]!
    out := out.push (b ^^^ k)
  return out

/-- The first `n` bytes. -/
def frontBytes (bs : ByteArray) (n : Nat) : ByteArray := bs.extract 0 n

/-- The file key the empty password gives, for a key of `bits` bits. -/
def emptyPasswordKey (revision bits : Int) (owner : ByteArray) (perms : Int) (id : ByteArray) :
    ByteArray := Id.run do
  let p := perms % Int.pow 2 32
  let permBytes := ByteArray.mk #[(p % 256).toNat.toUInt8, (p / 256 % 256).toNat.toUInt8,
    (p / 65536 % 256).toNat.toUInt8, (p / 16777216 % 256).toNat.toUInt8]
  let mut key := Digest.md5 (passwordPad ++ owner ++ permBytes ++ id)
  if revision ≥ 3 then
    let len := (bits / 8).toNat
    for _ in [0:50] do
      key := Digest.md5 (frontBytes key len)
    return frontBytes key len
  return frontBytes key 5

/-- What the user entry starts with when the key is right. -/
def userCheck (revision : Int) (key id : ByteArray) : ByteArray := Id.run do
  if revision == 2 then return rc4 key passwordPad
  let mut u := rc4 key (Digest.md5 (passwordPad ++ id))
  for i in [1:20] do
    u := rc4 (ByteArray.mk (key.toList.map (· ^^^ i.toUInt8)).toArray) u
  return u

/-- Does the empty password open a file with these entries? -/
def emptyPasswordOpens (revision bits : Int) (owner user : ByteArray) (perms : Int)
    (id : ByteArray) : Bool :=
  let expected := userCheck revision (emptyPasswordKey revision bits owner perms id) id
  (frontBytes user expected.size).toList == expected.toList

end CreditExtraction.Pdf
