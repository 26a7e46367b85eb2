import CreditExtraction.Image.Header

/-!
# Raster images and their PNG encoding

A raster is a grid of opaque colours, row by row from the top. Drawing sets single pixels,
horizontal lines and rectangle outlines; a pixel outside the grid is left alone, so drawing
clips to the image.

Rectangles are given by their corners on the pixel grid, the lower bound included and the
upper bound excluded; a rectangle is empty when it has no width or no height.

An image is written as a PNG file of 8-bit RGB, its scan lines unfiltered and kept in stored
(uncompressed) deflate blocks.
-/

namespace CreditExtraction.Image

/-- An opaque colour. -/
structure Rgb where
  r : UInt8
  g : UInt8
  b : UInt8
deriving Repr, DecidableEq, Inhabited

/-- A rectangle of pixels: from `(x0, y0)` included to `(x1, y1)` excluded. -/
structure PixelRect where
  x0 : Int
  y0 : Int
  x1 : Int
  y1 : Int
deriving Repr, DecidableEq, Inhabited

namespace PixelRect

/-- The rectangle between two corners, whichever way round they are given. -/
def ofCorners (xa ya xb yb : Int) : PixelRect := ⟨min xa xb, min ya yb, max xa xb, max ya yb⟩

/-- The width. -/
def dx (r : PixelRect) : Int := r.x1 - r.x0

/-- Has the rectangle no pixel? -/
def isEmpty (r : PixelRect) : Bool := r.x0 ≥ r.x1 || r.y0 ≥ r.y1

/-- The empty rectangle at the origin. -/
def zero : PixelRect := ⟨0, 0, 0, 0⟩

/-- The pixels in both rectangles. -/
def inter (r s : PixelRect) : PixelRect :=
  let t : PixelRect := ⟨max r.x0 s.x0, max r.y0 s.y0, min r.x1 s.x1, min r.y1 s.y1⟩
  if t.isEmpty then zero else t

/-- The rectangle moved in by `n` on every side (out, for a negative `n`); a side too short
shrinks to its middle. -/
def inset (r : PixelRect) (n : Int) : PixelRect :=
  let (x0, x1) := if r.x1 - r.x0 < 2 * n then ((r.x0 + r.x1).tdiv 2, (r.x0 + r.x1).tdiv 2)
    else (r.x0 + n, r.x1 - n)
  let (y0, y1) := if r.y1 - r.y0 < 2 * n then ((r.y0 + r.y1).tdiv 2, (r.y0 + r.y1).tdiv 2)
    else (r.y0 + n, r.y1 - n)
  ⟨x0, y0, x1, y1⟩

end PixelRect

/-- A raster: its size and its pixels, row by row. -/
structure Raster where
  width : Nat
  height : Nat
  pixels : Array Rgb

namespace Raster

/-- A raster of one colour. -/
def filled (width height : Nat) (c : Rgb) : Raster :=
  ⟨width, height, Array.replicate (width * height) c⟩

/-- The whole raster as a rectangle. -/
def bounds (img : Raster) : PixelRect := ⟨0, 0, img.width, img.height⟩

/-- Sets one pixel; a pixel outside the raster is left alone. -/
def set (img : Raster) (x y : Int) (c : Rgb) : Raster :=
  if 0 ≤ x && x < img.width && 0 ≤ y && y < img.height then
    { img with pixels := img.pixels.set! (y.toNat * img.width + x.toNat) c }
  else img

/-- Sets the pixels of row `y` from `x0` up to `x1`. -/
def hline (img : Raster) (x0 x1 y : Int) (c : Rgb) : Raster :=
  (List.range (x1 - x0).toNat).foldl (fun img (i : Nat) => img.set (x0 + i) y c) img

/-- Draws the outline of a rectangle, `thickness` pixels wide on its inner side, clipped to
the raster. -/
def outline (img : Raster) (r : PixelRect) (c : Rgb) (thickness : Nat) : Raster :=
  let r := r.inter img.bounds
  if r.isEmpty then img
  else
    (List.range thickness).foldl (fun img (t : Nat) =>
      let img := (List.range (r.x1 - r.x0).toNat).foldl (fun img (i : Nat) =>
        (img.set (r.x0 + i) (r.y0 + t) c).set (r.x0 + i) (r.y1 - 1 - t) c) img
      (List.range (r.y1 - r.y0).toNat).foldl (fun img (i : Nat) =>
        (img.set (r.x0 + t) (r.y0 + i) c).set (r.x1 - 1 - t) (r.y0 + i) c) img) img

end Raster

/-! ## PNG encoding -/

/-- The CRC-32 checksum (IEEE) of bytes. -/
def crc32Bytes (data : ByteArray) : UInt32 :=
  (data.foldl crcByte 0xFFFFFFFF) ^^^ 0xFFFFFFFF

/-- The Adler-32 checksum of bytes. -/
def adler32 (data : ByteArray) : UInt32 :=
  let (a, b) := data.foldl (fun (a, b) x =>
    let a := (a + x.toUInt32) % 65521
    (a, (b + a) % 65521)) ((1 : UInt32), (0 : UInt32))
  (b <<< 16) ||| a

/-- The four big-endian bytes of a 32-bit number. -/
def be32 (n : UInt32) : ByteArray :=
  ⟨#[(n >>> 24).toUInt8, (n >>> 16).toUInt8, (n >>> 8).toUInt8, n.toUInt8]⟩

/-- A PNG chunk: length, type, data and checksum. -/
def chunk (type : String) (data : ByteArray) : ByteArray :=
  let body := type.toUTF8 ++ data
  be32 data.size.toUInt32 ++ body ++ be32 (crc32Bytes body)

/-- The largest stored deflate block. -/
def storedBlockMax : Nat := 65535

/-- Bytes as a zlib stream of stored deflate blocks. -/
def zlibStored (data : ByteArray) : ByteArray := Id.run do
  let mut out : ByteArray := ⟨#[0x78, 0x01]⟩
  let blocks := (data.size + storedBlockMax - 1) / storedBlockMax
  if blocks == 0 then
    out := out ++ ⟨#[0x01, 0x00, 0x00, 0xFF, 0xFF]⟩
  for i in [0:blocks] do
    let start := i * storedBlockMax
    let stop := min data.size (start + storedBlockMax)
    let len := stop - start
    let final : UInt8 := if i + 1 == blocks then 1 else 0
    let l := len.toUInt16
    let nl := l ^^^ 0xFFFF
    out := out ++ ⟨#[final, l.toUInt8, (l >>> 8).toUInt8, nl.toUInt8, (nl >>> 8).toUInt8]⟩
    out := out ++ data.extract start stop
  out ++ be32 (adler32 data)

/-- The scan lines of a raster, each led by the filter byte of no filtering. -/
def Raster.scanLines (img : Raster) : ByteArray := Id.run do
  let mut out := ByteArray.emptyWithCapacity (img.height * (3 * img.width + 1))
  for y in [0:img.height] do
    out := out.push 0
    for x in [0:img.width] do
      let c := img.pixels.getD (y * img.width + x) default
      out := ((out.push c.r).push c.g).push c.b
  out

/-- A raster as a PNG file. -/
def Raster.png (img : Raster) : ByteArray :=
  let header := be32 img.width.toUInt32 ++ be32 img.height.toUInt32 ++ ⟨#[8, 2, 0, 0, 0]⟩
  ⟨pngSignature.toArray⟩ ++ chunk "IHDR" header ++ chunk "IDAT" (zlibStored img.scanLines) ++
    chunk "IEND" ByteArray.empty

/-! ## Reading back -/

/-- The big-endian number of four bytes at a position. -/
def readBe32 (data : ByteArray) (pos : Nat) : Nat :=
  bigEndian (data.extract pos (pos + 4)).toList

/-- The chunks of a PNG file after its signature: type and data, in order; `fuel` bounds
their number. -/
def pngChunkList (data : ByteArray) : Nat → Nat → List (String × ByteArray)
  | 0, _ => []
  | fuel + 1, pos =>
    if pos + 12 > data.size then []
    else
      let len := readBe32 data pos
      let type := String.fromUTF8? (data.extract (pos + 4) (pos + 8)) |>.getD ""
      (type, data.extract (pos + 8) (pos + 8 + len)) :: pngChunkList data fuel (pos + 12 + len)

/-- The content of a zlib stream of stored deflate blocks; `none` for any other stream. -/
def zlibStoredContent (z : ByteArray) : Option ByteArray :=
  go (z.size + 1) 2 ByteArray.empty
where
  /-- The blocks from a position on; `fuel` bounds their number. -/
  go : Nat → Nat → ByteArray → Option ByteArray
    | 0, _, _ => none
    | fuel + 1, pos, acc => do
      let header ← z[pos]?
      if header &&& 0x06 != 0 then none
      let lo ← z[pos + 1]?
      let hi ← z[pos + 2]?
      let len := lo.toNat + 256 * hi.toNat
      if pos + 5 + len > z.size then none
      let acc := acc ++ z.extract (pos + 5) (pos + 5 + len)
      if header &&& 1 == 1 then some acc else go fuel (pos + 5 + len) acc

/-- Reads back a PNG file as this module writes it: 8-bit RGB, unfiltered, in stored blocks. -/
def Raster.ofPng? (data : ByteArray) : Option Raster := do
  if (data.extract 0 8).toList != pngSignature then none
  let chunks := pngChunkList data data.size 8
  let header ← (chunks.find? (·.1 == "IHDR")).map (·.2)
  let width := readBe32 header 0
  let height := readBe32 header 4
  if header[8]? != some 8 || header[9]? != some 2 then none
  let idat := (chunks.filter (·.1 == "IDAT")).foldl (fun acc c => acc ++ c.2) ByteArray.empty
  let raw ← zlibStoredContent idat
  let stride := 3 * width + 1
  if raw.size < height * stride then none
  let pixels := (List.range height).foldl (fun acc y =>
    (List.range width).foldl (fun acc x =>
      let at_ := y * stride + 1 + 3 * x
      acc.push ⟨raw.get! at_, raw.get! (at_ + 1), raw.get! (at_ + 2)⟩) acc) #[]
  some ⟨width, height, pixels⟩

end CreditExtraction.Image
