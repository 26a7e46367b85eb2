import CreditExtraction.Image.Raster
import CreditExtraction.Image.Lettering
import CreditExtraction.Field.Extracted
import CreditExtraction.Ocr.Line
import CreditExtraction.Failure

/-!
# The field map

The field map shows where a result's fields were found: every page's OCR lines outlined in
grey and each field's box on top, green when valid and red when flagged. Pages are stacked
top to bottom, each scaled to the image width less a margin of 24 pixels on each side and laid
out from its origin (or from its leftmost and topmost box when that lies before the origin); a
dark line parts two pages. A field without a page is drawn on the first.

Each line's text may be lettered inside its box, in grey along the bottom edge and cut to the
box's width; each field's name is lettered above its box in the field's colour. Lines are drawn
before fields, so a field's box and name lie over the lines' text.

A result in which neither a line nor a field has a box cannot be drawn
(`visualize: no bounding boxes`).
-/

namespace CreditExtraction.Visualize

open Image

/-- The colour of the paper. -/
def paper : Rgb := ⟨0xff, 0xff, 0xff⟩
/-- The colour of OCR line outlines. -/
def lineInk : Rgb := ⟨0xb0, 0xb0, 0xb0⟩
/-- The colour of the lines' text. -/
def textInk : Rgb := ⟨0x60, 0x60, 0x60⟩
/-- The colour of valid fields. -/
def validInk : Rgb := ⟨0x1b, 0x9e, 0x3e⟩
/-- The colour of flagged fields. -/
def flagInk : Rgb := ⟨0xd9, 0x2d, 0x20⟩
/-- The colour of the line between pages. -/
def pageBreak : Rgb := ⟨0x30, 0x30, 0x30⟩

/-- The margin around a page, in pixels. -/
def margin : Int := 24

/-- The page a field is drawn on. -/
def fieldPage (f : ExtractedField) : Int := f.page.getD 1

/-- The extent of every page: the union of the boxes on it, pages in first-seen order. -/
def extents (boxes : List (Int × Polygon)) : List (Int × Rect) :=
  boxes.foldl (fun acc (page, poly) =>
    match poly.bounds with
    | none => acc
    | some r =>
      match acc.find? (·.1 == page) with
      | some (_, cur) => acc.map fun (p, e) => if p == page then (p, cur.union r) else (p, e)
      | none => acc ++ [(page, r)]) []

/-- Where a page is drawn: its bounds, the first row of its frame and its scale. -/
structure Frame where
  bounds : Rect
  top : Int
  scale : Float

/-- A float truncated toward zero. -/
def truncToInt (x : Float) : Int :=
  if x < 0 then -((-x).floor.toUInt64.toNat : Int) else (x.floor.toUInt64.toNat : Int)

/-- The frames of the pages, in page order, and the height of the image. -/
def layout (width : Int) (pages : List (Int × Rect)) : List (Int × Frame) × Int :=
  pages.foldl (fun (frames, height) (page, ext) =>
    let b : Rect := { ext with minX := fmin 0 ext.minX, minY := fmin 0 ext.minY }
    let w := if b.maxX - b.minX ≤ 0 then 1 else b.maxX - b.minX
    let scale := Float.ofInt (width - 2 * margin) / w
    let h := truncToInt ((b.maxY - b.minY) * scale).ceil + 2 * margin
    (frames ++ [(page, ⟨b, height, scale⟩)], height + h)) ([], 0)

/-- The pixels of a rectangle of a page. -/
def Frame.pixels (f : Frame) (r : Rect) : PixelRect :=
  PixelRect.ofCorners
    (margin + truncToInt ((r.minX - f.bounds.minX) * f.scale))
    (f.top + margin + truncToInt ((r.minY - f.bounds.minY) * f.scale))
    (margin + truncToInt ((r.maxX - f.bounds.minX) * f.scale).ceil)
    (f.top + margin + truncToInt ((r.maxY - f.bounds.minY) * f.scale).ceil)

/-- Draws the field map of a document's lines and fields, `width` pixels wide (1000 when not
positive), as a PNG image; `showText` letters the lines' text. -/
def render (width : Int) (showText : Bool) (lines : List Ocr.Line) (fields : List ExtractedField) :
    Except Failure ByteArray := do
  let boxes := lines.map (fun l => (l.page, l.box)) ++ fields.map fun f => (fieldPage f, f.box)
  let ext := extents boxes
  if ext.isEmpty then throw (.cause .nothingToDraw)
  let width := if width ≤ 0 then 1000 else width
  let pages := ext.mergeSort fun a b => a.1 ≤ b.1
  let (frames, height) := layout width pages
  let frameOf (page : Int) : Frame := ((frames.find? (·.1 == page)).map (·.2)).getD ⟨⟨0, 0, 0, 0⟩, 0, 1⟩
  let img := Raster.filled width.toNat height.toNat paper
  let img := (frames.drop 1).foldl (fun img (_, f) => img.hline 0 width f.top pageBreak) img
  let img := lines.foldl (fun img l =>
    match l.box.bounds with
    | none => img
    | some r =>
      let px := (frameOf l.page).pixels r
      let img := img.outline px lineInk 1
      if showText then img.label (px.x0 + 2) (px.y1 - 2) l.text textInk px.dx else img) img
  let img := fields.foldl (fun img f =>
    match f.box.bounds with
    | none => img
    | some r =>
      let ink := if f.validation.valid then validInk else flagInk
      let px := ((frameOf (fieldPage f)).pixels r).inset (-3)
      (img.outline px ink 2).label px.x0 (px.y0 - 3) f.name ink 0) img
  pure img.png

end CreditExtraction.Visualize
