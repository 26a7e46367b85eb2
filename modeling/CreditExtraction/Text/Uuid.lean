import CreditExtraction.Text.Quoted
import CreditExtraction.Digest.Sha256

/-!
# Identifiers

An identifier is 128 bits, written as 32 lower-case hexadecimal digits in groups of 8-4-4-4-12.
Reading accepts that form, the same inside any two enclosing characters (38 characters), with
a `urn:uuid:` prefix (45 characters), or the 32 digits without dashes; other lengths are
refused as `invalid UUID length: n` (bytes), anything else as `invalid UUID format`.
-/

namespace CreditExtraction

/-- A 128-bit identifier. -/
structure Uuid where
  val : Nat
deriving Repr, DecidableEq, Inhabited, Hashable

namespace Uuid

/-- The all-zero identifier. -/
def nil : Uuid := ⟨0⟩

/-- The canonical text: 8-4-4-4-12 lower-case hexadecimal digits. -/
def toText (u : Uuid) : String :=
  let ds := Text.Quoted.hexFixed 32 (u.val % Nat.pow 2 128)
  String.ofList (ds.take 8 ++ '-' :: (ds.drop 8).take 4 ++ '-' :: (ds.drop 12).take 4 ++
    '-' :: (ds.drop 16).take 4 ++ '-' :: ds.drop 20)

instance : ToString Uuid := ⟨toText⟩

/-- The value of a hexadecimal digit byte. -/
def hexVal (b : UInt8) : Option Nat :=
  if 48 ≤ b && b ≤ 57 then some (b.toNat - 48)
  else if 97 ≤ b && b ≤ 102 then some (b.toNat - 87)
  else if 65 ≤ b && b ≤ 70 then some (b.toNat - 55)
  else none

/-- Reads pairs of hexadecimal digits into a number. -/
def readHex : List UInt8 → Nat → Option Nat
  | [], acc => some acc
  | b :: rest, acc =>
    match hexVal b with
    | some v => readHex rest (acc * 16 + v)
    | none => none

/-- Reads 36 bytes in the 8-4-4-4-12 form. -/
def readDashed (bs : List UInt8) : Except String Uuid :=
  if bs[8]? != some 45 || bs[13]? != some 45 || bs[18]? != some 45 || bs[23]? != some 45 then
    .error "invalid UUID format"
  else
    let digits := (bs.take 8) ++ (bs.drop 9).take 4 ++ (bs.drop 14).take 4 ++ (bs.drop 19).take 4 ++ bs.drop 24
    match readHex digits 0 with
    | some n => .ok ⟨n⟩
    | none => .error "invalid UUID format"

/-- Is `p` equal to `urn:uuid:` when lower-cased? -/
def isUrnPrefix (p : List UInt8) : Bool :=
  (p.map fun b => if 65 ≤ b && b ≤ 90 then b + 32 else b) == "urn:uuid:".toUTF8.toList

/-- Reads an identifier (see the module comment). -/
def parse (s : String) : Except String Uuid :=
  let bs := s.toUTF8.toList
  match bs.length with
  | 36 => readDashed bs
  | 45 =>
    if isUrnPrefix (bs.take 9) then readDashed (bs.drop 9)
    else .error ("invalid urn prefix: " ++ Text.Quoted.quoteBytes (bs.take 9))
  | 38 => readDashed ((bs.drop 1).take 36)
  | 32 =>
    match readHex bs 0 with
    | some n => .ok ⟨n⟩
    | none => .error "invalid UUID format"
  | n => .error ("invalid UUID length: " ++ toString n)

/-- The identifier derived from a seed number, for identifiers the library makes itself: the
seed's bits placed in a version-4 layout. -/
def ofSeed (seed : Nat) : Uuid :=
  -- 0x...-4xxx-8xxx-... with the seed spread over the random bits
  let hi := (seed * 0x9E3779B97F4A7C15 + 0x1234567) % Nat.pow 2 48
  let mid := (seed * 0xC2B2AE3D27D4EB4F + 0xABC) % Nat.pow 2 12
  let lo := (seed * 0x165667B19E3779F9 + 0x5EED) % Nat.pow 2 62
  ⟨hi * Nat.pow 2 80 + 4 * Nat.pow 2 76 + mid * Nat.pow 2 64 + 2 * Nat.pow 2 62 + lo⟩

/-- The identifier derived from a name: the first 128 bits of the name's SHA-256 digest, in the
name-based layout (version 5, variant 2). The empty name stands for the nil identifier. -/
def ofName (name : String) : Uuid :=
  if name.isEmpty then nil
  else
    let d := Digest.sha256 name.toUTF8
    let n := (List.range 16).foldl (fun acc i => acc * 256 + (d[i]?.getD 0).toNat) 0
    -- clear the version and variant bits, then set version 5 and variant 2
    let n := n - ((n / Nat.pow 2 76) % 16) * Nat.pow 2 76 + 5 * Nat.pow 2 76
    let n := n - ((n / Nat.pow 2 62) % 4) * Nat.pow 2 62 + 2 * Nat.pow 2 62
    ⟨n⟩

end Uuid

end CreditExtraction
