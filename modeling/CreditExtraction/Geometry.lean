import CreditExtraction.Json.Decode

/-!
# Points, polygons and rectangles on a page

Coordinates are 64-bit floats. The bounding rectangle of a polygon takes the least and greatest
coordinates with `fmin`/`fmax`: a negative infinity wins a minimum and a positive one a
maximum over anything, else a NaN wins, and of two zeros the minimum is `-0` and the maximum `+0`.
-/

namespace CreditExtraction

/-- Is the sign bit of `x` set? -/
def Float.signBit (x : Float) : Bool := x.toBits ≥ 0x8000000000000000

/-- The least of two floats (see the module comment). -/
def fmin (x y : Float) : Float :=
  if (x.isInf && x < 0) || (y.isInf && y < 0) then Text.Float.negInf
  else if x.isNaN || y.isNaN then Text.Float.quietNaN
  else if x == 0 && y == 0 then (if Float.signBit x then x else y)
  else if x < y then x else y

/-- The greatest of two floats (see the module comment). -/
def fmax (x y : Float) : Float :=
  if (x.isInf && x > 0) || (y.isInf && y > 0) then Text.Float.posInf
  else if x.isNaN || y.isNaN then Text.Float.quietNaN
  else if x == 0 && y == 0 then (if Float.signBit x then y else x)
  else if x > y then x else y

/-- A point on a page. -/
structure Point where
  x : Float
  y : Float
deriving Repr, Inhabited

/-- A polygon: its corners in order. -/
abbrev Polygon := List Point

/-- An axis-aligned rectangle. -/
structure Rect where
  minX : Float
  minY : Float
  maxX : Float
  maxY : Float
deriving Repr, Inhabited

namespace Rect

/-- The width. -/
def width (r : Rect) : Float := r.maxX - r.minX

/-- The height. -/
def height (r : Rect) : Float := r.maxY - r.minY

/-- The vertical centre. -/
def centerY (r : Rect) : Float := (r.minY + r.maxY) / 2

/-- The smallest rectangle holding both. -/
def union (r o : Rect) : Rect :=
  ⟨fmin r.minX o.minX, fmin r.minY o.minY, fmax r.maxX o.maxX, fmax r.maxY o.maxY⟩

/-- The four corners, clockwise from the top left. -/
def polygon (r : Rect) : Polygon :=
  [⟨r.minX, r.minY⟩, ⟨r.maxX, r.minY⟩, ⟨r.maxX, r.maxY⟩, ⟨r.minX, r.maxY⟩]

end Rect

/-- The bounding rectangle of a polygon; `none` for a polygon without corners. -/
def Polygon.bounds (p : Polygon) : Option Rect :=
  match p with
  | [] => none
  | _ => some (p.foldl (fun r pt => ⟨fmin r.minX pt.x, fmin r.minY pt.y, fmax r.maxX pt.x, fmax r.maxY pt.y⟩)
      ⟨Text.Float.posInf, Text.Float.posInf, Text.Float.negInf, Text.Float.negInf⟩)

/-- A point as JSON. -/
def Point.toJson (p : Point) : Json := .obj [("x", .ofFloat p.x), ("y", .ofFloat p.y)]

/-- A polygon as JSON; a polygon without corners is `null`. -/
def Polygon.toJson (p : Polygon) : Json :=
  match p with
  | [] => .null
  | _ => .arr (p.map Point.toJson)

open Json in
/-- Reads a point. -/
def decodePoint (p : Place) (j : Json) : Reader Point := do
  match ← decodeObject p "entity.Point" j with
  | none => pure ⟨0, 0⟩
  | some ms =>
    let names := ["x", "y"]
    let x ← match fieldValue names ms "x" with
      | some v => decodeFloat (p.field "x") v
      | none => pure 0
    let y ← match fieldValue names ms "y" with
      | some v => decodeFloat (p.field "y") v
      | none => pure 0
    pure ⟨x, y⟩

open Json in
/-- Reads a polygon. -/
def decodePolygon (p : Place) (j : Json) : Reader Polygon := do
  pure ((← decodeList p "entity.Polygon" (decodePoint p) j).getD [])

end CreditExtraction
