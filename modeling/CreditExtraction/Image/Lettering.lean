import CreditExtraction.Image.Raster

/-!
# Lettering

Labels on the field map are set in a fixed-width bitmap face: every character advances seven
pixels, and its glyph is a mask six pixels wide and thirteen high whose eleventh row sits on the
baseline, so a glyph covers the rows from eleven above the baseline to two below it. The face
holds the printable ASCII characters from the space to the tilde; every other character is drawn
with the replacement glyph.

A label drawn into a width keeps only as many characters as fit, seven pixels each. A baseline
above the eleventh row is moved down to it, so that no glyph starts above the image.
-/

namespace CreditExtraction.Image

/-- The masks of the face: the characters from the space to the tilde in order, then the
replacement glyph. Each mask lists its thirteen rows from the top; in a row, bit 7 is the
leftmost of the six columns. -/
def faceMasks : Array (List UInt8) := #[
  [0x00, 0x00, 0x00, 0x00, 0x00, 0x00, 0x00, 0x00, 0x00, 0x00, 0x00, 0x00, 0x00],
  [0x00, 0x00, 0x20, 0x20, 0x20, 0x20, 0x20, 0x20, 0x20, 0x00, 0x20, 0x00, 0x00],
  [0x00, 0x00, 0x48, 0x48, 0x48, 0x00, 0x00, 0x00, 0x00, 0x00, 0x00, 0x00, 0x00],
  [0x00, 0x00, 0x00, 0x48, 0x48, 0xFC, 0x48, 0xFC, 0x48, 0x48, 0x00, 0x00, 0x00],
  [0x00, 0x00, 0x20, 0x78, 0xA0, 0xA0, 0x70, 0x28, 0x28, 0xF0, 0x20, 0x00, 0x00],
  [0x00, 0x00, 0x44, 0xA4, 0x48, 0x10, 0x10, 0x20, 0x48, 0x54, 0x88, 0x00, 0x00],
  [0x00, 0x00, 0x00, 0x00, 0x60, 0x90, 0x90, 0x60, 0x94, 0x88, 0x74, 0x00, 0x00],
  [0x00, 0x00, 0x10, 0x10, 0x20, 0x00, 0x00, 0x00, 0x00, 0x00, 0x00, 0x00, 0x00],
  [0x00, 0x00, 0x08, 0x10, 0x10, 0x20, 0x20, 0x20, 0x10, 0x10, 0x08, 0x00, 0x00],
  [0x00, 0x00, 0x40, 0x20, 0x20, 0x10, 0x10, 0x10, 0x20, 0x20, 0x40, 0x00, 0x00],
  [0x00, 0x00, 0x00, 0x00, 0x48, 0x30, 0xFC, 0x30, 0x48, 0x00, 0x00, 0x00, 0x00],
  [0x00, 0x00, 0x00, 0x00, 0x20, 0x20, 0xF8, 0x20, 0x20, 0x00, 0x00, 0x00, 0x00],
  [0x00, 0x00, 0x00, 0x00, 0x00, 0x00, 0x00, 0x00, 0x00, 0x38, 0x30, 0x40, 0x00],
  [0x00, 0x00, 0x00, 0x00, 0x00, 0x00, 0xFC, 0x00, 0x00, 0x00, 0x00, 0x00, 0x00],
  [0x00, 0x00, 0x00, 0x00, 0x00, 0x00, 0x00, 0x00, 0x20, 0x70, 0x20, 0x00, 0x00],
  [0x00, 0x00, 0x00, 0x04, 0x04, 0x08, 0x10, 0x20, 0x40, 0x80, 0x80, 0x00, 0x00],
  [0x00, 0x00, 0x30, 0x48, 0x84, 0x84, 0x84, 0x84, 0x84, 0x48, 0x30, 0x00, 0x00],
  [0x00, 0x00, 0x10, 0x30, 0x50, 0x10, 0x10, 0x10, 0x10, 0x10, 0x7C, 0x00, 0x00],
  [0x00, 0x00, 0x78, 0x84, 0x84, 0x04, 0x08, 0x30, 0x40, 0x80, 0xFC, 0x00, 0x00],
  [0x00, 0x00, 0xFC, 0x04, 0x08, 0x10, 0x38, 0x04, 0x04, 0x84, 0x78, 0x00, 0x00],
  [0x00, 0x00, 0x08, 0x18, 0x28, 0x48, 0x88, 0x88, 0xFC, 0x08, 0x08, 0x00, 0x00],
  [0x00, 0x00, 0xFC, 0x80, 0x80, 0xB8, 0xC4, 0x04, 0x04, 0x84, 0x78, 0x00, 0x00],
  [0x00, 0x00, 0x38, 0x40, 0x80, 0x80, 0xB8, 0xC4, 0x84, 0x84, 0x78, 0x00, 0x00],
  [0x00, 0x00, 0xFC, 0x04, 0x08, 0x08, 0x10, 0x10, 0x20, 0x20, 0x20, 0x00, 0x00],
  [0x00, 0x00, 0x78, 0x84, 0x84, 0x84, 0x78, 0x84, 0x84, 0x84, 0x78, 0x00, 0x00],
  [0x00, 0x00, 0x78, 0x84, 0x84, 0x8C, 0x74, 0x04, 0x04, 0x08, 0x70, 0x00, 0x00],
  [0x00, 0x00, 0x00, 0x20, 0x70, 0x20, 0x00, 0x00, 0x20, 0x70, 0x20, 0x00, 0x00],
  [0x00, 0x00, 0x00, 0x20, 0x70, 0x20, 0x00, 0x00, 0x38, 0x30, 0x40, 0x00, 0x00],
  [0x00, 0x00, 0x08, 0x10, 0x20, 0x40, 0x80, 0x40, 0x20, 0x10, 0x08, 0x00, 0x00],
  [0x00, 0x00, 0x00, 0x00, 0x00, 0xFC, 0x00, 0x00, 0xFC, 0x00, 0x00, 0x00, 0x00],
  [0x00, 0x00, 0x80, 0x40, 0x20, 0x10, 0x08, 0x10, 0x20, 0x40, 0x80, 0x00, 0x00],
  [0x00, 0x00, 0x78, 0x84, 0x84, 0x04, 0x08, 0x10, 0x10, 0x00, 0x10, 0x00, 0x00],
  [0x00, 0x00, 0x78, 0x84, 0x84, 0x9C, 0xA4, 0xAC, 0x94, 0x80, 0x78, 0x00, 0x00],
  [0x00, 0x00, 0x30, 0x48, 0x84, 0x84, 0x84, 0xFC, 0x84, 0x84, 0x84, 0x00, 0x00],
  [0x00, 0x00, 0xF8, 0x44, 0x44, 0x44, 0x78, 0x44, 0x44, 0x44, 0xF8, 0x00, 0x00],
  [0x00, 0x00, 0x78, 0x84, 0x80, 0x80, 0x80, 0x80, 0x80, 0x84, 0x78, 0x00, 0x00],
  [0x00, 0x00, 0xF8, 0x44, 0x44, 0x44, 0x44, 0x44, 0x44, 0x44, 0xF8, 0x00, 0x00],
  [0x00, 0x00, 0xFC, 0x80, 0x80, 0x80, 0xF8, 0x80, 0x80, 0x80, 0xFC, 0x00, 0x00],
  [0x00, 0x00, 0xFC, 0x80, 0x80, 0x80, 0xF8, 0x80, 0x80, 0x80, 0x80, 0x00, 0x00],
  [0x00, 0x00, 0x78, 0x84, 0x80, 0x80, 0x80, 0x9C, 0x84, 0x8C, 0x74, 0x00, 0x00],
  [0x00, 0x00, 0x84, 0x84, 0x84, 0x84, 0xFC, 0x84, 0x84, 0x84, 0x84, 0x00, 0x00],
  [0x00, 0x00, 0xF8, 0x20, 0x20, 0x20, 0x20, 0x20, 0x20, 0x20, 0xF8, 0x00, 0x00],
  [0x00, 0x00, 0x3C, 0x08, 0x08, 0x08, 0x08, 0x08, 0x08, 0x88, 0x70, 0x00, 0x00],
  [0x00, 0x00, 0x84, 0x88, 0x90, 0xA0, 0xC0, 0xA0, 0x90, 0x88, 0x84, 0x00, 0x00],
  [0x00, 0x00, 0x80, 0x80, 0x80, 0x80, 0x80, 0x80, 0x80, 0x80, 0xFC, 0x00, 0x00],
  [0x00, 0x00, 0x84, 0xCC, 0xB4, 0xB4, 0x84, 0x84, 0x84, 0x84, 0x84, 0x00, 0x00],
  [0x00, 0x00, 0x84, 0xC4, 0xC4, 0xA4, 0x94, 0x8C, 0x8C, 0x84, 0x84, 0x00, 0x00],
  [0x00, 0x00, 0x78, 0x84, 0x84, 0x84, 0x84, 0x84, 0x84, 0x84, 0x78, 0x00, 0x00],
  [0x00, 0x00, 0xF8, 0x84, 0x84, 0x84, 0xF8, 0x80, 0x80, 0x80, 0x80, 0x00, 0x00],
  [0x00, 0x00, 0x78, 0x84, 0x84, 0x84, 0x84, 0x84, 0xA4, 0x94, 0x78, 0x04, 0x00],
  [0x00, 0x00, 0xF8, 0x84, 0x84, 0x84, 0xF8, 0xA0, 0x90, 0x88, 0x84, 0x00, 0x00],
  [0x00, 0x00, 0x78, 0x84, 0x80, 0x80, 0x78, 0x04, 0x04, 0x84, 0x78, 0x00, 0x00],
  [0x00, 0x00, 0xF8, 0x20, 0x20, 0x20, 0x20, 0x20, 0x20, 0x20, 0x20, 0x00, 0x00],
  [0x00, 0x00, 0x84, 0x84, 0x84, 0x84, 0x84, 0x84, 0x84, 0x84, 0x78, 0x00, 0x00],
  [0x00, 0x00, 0x84, 0x84, 0x84, 0x84, 0x48, 0x48, 0x48, 0x30, 0x30, 0x00, 0x00],
  [0x00, 0x00, 0x84, 0x84, 0x84, 0x84, 0xB4, 0xB4, 0xB4, 0xCC, 0x84, 0x00, 0x00],
  [0x00, 0x00, 0x84, 0x84, 0x48, 0x48, 0x30, 0x48, 0x48, 0x84, 0x84, 0x00, 0x00],
  [0x00, 0x00, 0x88, 0x88, 0x50, 0x50, 0x20, 0x20, 0x20, 0x20, 0x20, 0x00, 0x00],
  [0x00, 0x00, 0xFC, 0x04, 0x04, 0x08, 0x10, 0x20, 0x40, 0x80, 0xFC, 0x00, 0x00],
  [0x00, 0x00, 0x78, 0x40, 0x40, 0x40, 0x40, 0x40, 0x40, 0x40, 0x78, 0x00, 0x00],
  [0x00, 0x00, 0x00, 0x80, 0x80, 0x40, 0x20, 0x10, 0x08, 0x04, 0x04, 0x00, 0x00],
  [0x00, 0x00, 0x78, 0x08, 0x08, 0x08, 0x08, 0x08, 0x08, 0x08, 0x78, 0x00, 0x00],
  [0x00, 0x00, 0x30, 0x48, 0x84, 0x00, 0x00, 0x00, 0x00, 0x00, 0x00, 0x00, 0x00],
  [0x00, 0x00, 0x00, 0x00, 0x00, 0x00, 0x00, 0x00, 0x00, 0x00, 0x00, 0xFC, 0x00],
  [0x00, 0x00, 0x20, 0x10, 0x00, 0x00, 0x00, 0x00, 0x00, 0x00, 0x00, 0x00, 0x00],
  [0x00, 0x00, 0x00, 0x00, 0x00, 0x78, 0x04, 0x7C, 0x84, 0x8C, 0x74, 0x00, 0x00],
  [0x00, 0x00, 0x80, 0x80, 0x80, 0xB8, 0xC4, 0x84, 0x84, 0xC4, 0xB8, 0x00, 0x00],
  [0x00, 0x00, 0x00, 0x00, 0x00, 0x78, 0x84, 0x80, 0x80, 0x84, 0x78, 0x00, 0x00],
  [0x00, 0x00, 0x04, 0x04, 0x04, 0x74, 0x8C, 0x84, 0x84, 0x8C, 0x74, 0x00, 0x00],
  [0x00, 0x00, 0x00, 0x00, 0x00, 0x78, 0x84, 0xFC, 0x80, 0x84, 0x78, 0x00, 0x00],
  [0x00, 0x00, 0x38, 0x44, 0x40, 0x40, 0xF8, 0x40, 0x40, 0x40, 0x40, 0x00, 0x00],
  [0x00, 0x00, 0x00, 0x00, 0x00, 0x74, 0x88, 0x88, 0x70, 0x80, 0x78, 0x84, 0x78],
  [0x00, 0x00, 0x80, 0x80, 0x80, 0xB8, 0xC4, 0x84, 0x84, 0x84, 0x84, 0x00, 0x00],
  [0x00, 0x00, 0x00, 0x10, 0x00, 0x30, 0x10, 0x10, 0x10, 0x10, 0x7C, 0x00, 0x00],
  [0x00, 0x00, 0x00, 0x08, 0x00, 0x18, 0x08, 0x08, 0x08, 0x08, 0x08, 0x88, 0x70],
  [0x00, 0x00, 0x80, 0x80, 0x80, 0x88, 0x90, 0xE0, 0x90, 0x88, 0x84, 0x00, 0x00],
  [0x00, 0x00, 0x30, 0x10, 0x10, 0x10, 0x10, 0x10, 0x10, 0x10, 0x7C, 0x00, 0x00],
  [0x00, 0x00, 0x00, 0x00, 0x00, 0x68, 0x54, 0x54, 0x54, 0x54, 0x44, 0x00, 0x00],
  [0x00, 0x00, 0x00, 0x00, 0x00, 0xB8, 0xC4, 0x84, 0x84, 0x84, 0x84, 0x00, 0x00],
  [0x00, 0x00, 0x00, 0x00, 0x00, 0x78, 0x84, 0x84, 0x84, 0x84, 0x78, 0x00, 0x00],
  [0x00, 0x00, 0x00, 0x00, 0x00, 0xB8, 0xC4, 0x84, 0xC4, 0xB8, 0x80, 0x80, 0x80],
  [0x00, 0x00, 0x00, 0x00, 0x00, 0x74, 0x8C, 0x84, 0x8C, 0x74, 0x04, 0x04, 0x04],
  [0x00, 0x00, 0x00, 0x00, 0x00, 0xB8, 0x44, 0x40, 0x40, 0x40, 0x40, 0x00, 0x00],
  [0x00, 0x00, 0x00, 0x00, 0x00, 0x78, 0x84, 0x60, 0x18, 0x84, 0x78, 0x00, 0x00],
  [0x00, 0x00, 0x00, 0x40, 0x40, 0xF0, 0x40, 0x40, 0x40, 0x44, 0x38, 0x00, 0x00],
  [0x00, 0x00, 0x00, 0x00, 0x00, 0x84, 0x84, 0x84, 0x84, 0x8C, 0x74, 0x00, 0x00],
  [0x00, 0x00, 0x00, 0x00, 0x00, 0x44, 0x44, 0x44, 0x28, 0x28, 0x10, 0x00, 0x00],
  [0x00, 0x00, 0x00, 0x00, 0x00, 0x44, 0x44, 0x44, 0x54, 0x54, 0x28, 0x00, 0x00],
  [0x00, 0x00, 0x00, 0x00, 0x00, 0x84, 0x48, 0x30, 0x30, 0x48, 0x84, 0x00, 0x00],
  [0x00, 0x00, 0x00, 0x00, 0x00, 0x84, 0x84, 0x84, 0x8C, 0x74, 0x04, 0x84, 0x78],
  [0x00, 0x00, 0x00, 0x00, 0x00, 0xFC, 0x08, 0x10, 0x20, 0x40, 0xFC, 0x00, 0x00],
  [0x00, 0x00, 0x18, 0x20, 0x20, 0x10, 0x60, 0x10, 0x20, 0x20, 0x18, 0x00, 0x00],
  [0x00, 0x00, 0x20, 0x20, 0x20, 0x20, 0x20, 0x20, 0x20, 0x20, 0x20, 0x00, 0x00],
  [0x00, 0x00, 0x60, 0x10, 0x10, 0x20, 0x18, 0x20, 0x10, 0x10, 0x60, 0x00, 0x00],
  [0x00, 0x00, 0x64, 0x98, 0x00, 0x00, 0x00, 0x00, 0x00, 0x00, 0x00, 0x00, 0x00],
  [0x00, 0x00, 0x30, 0x48, 0xB4, 0xF4, 0xEC, 0xEC, 0xFC, 0x68, 0x30, 0x00, 0x00]]

/-- The advance of every character, in pixels. -/
def faceAdvance : Nat := 7

/-- The rows of the face above the baseline, the baseline row included. -/
def faceAscent : Int := 11

/-- The place of a character's mask in the face: its offset from the space for printable ASCII,
the replacement glyph otherwise. -/
def maskIndex (c : Char) : Nat :=
  if 0x20 ≤ c.toNat ∧ c.toNat < 0x7f then c.toNat - 0x20 else 95

/-- The mask of a character. -/
def maskOf (c : Char) : List UInt8 := faceMasks.getD (maskIndex c) []

/-- The columns set in one row of a mask. -/
def rowColumns (row : UInt8) : List Nat :=
  (List.range 6).filter fun col => (row >>> (7 - col).toUInt8) &&& 1 == 1

namespace Raster

/-- Draws a character's glyph with its origin at `x` and its baseline at `y`. -/
def glyph (img : Raster) (x y : Int) (ch : Char) (c : Rgb) : Raster :=
  (maskOf ch).zipIdx.foldl (fun img (row, r) =>
    (rowColumns row).foldl (fun img (col : Nat) => img.set (x + col) (y - faceAscent + r) c) img) img

/-- The characters of a label that fit in `maxWidth` pixels; all of them when the width is not
positive. -/
def fitting (s : String) (maxWidth : Int) : List Char :=
  if maxWidth > 0 then s.toList.take (maxWidth / faceAdvance).toNat else s.toList

/-- Draws a label starting at `x` with its baseline at `y` (at least the ascent), cut to the
characters that fit in `maxWidth` pixels when that is positive. -/
def label (img : Raster) (x y : Int) (s : String) (c : Rgb) (maxWidth : Int) : Raster :=
  let y := max y faceAscent
  (fitting s maxWidth).zipIdx.foldl (fun img (ch, i) => img.glyph (x + faceAdvance * i) y ch c) img

end Raster

end CreditExtraction.Image
