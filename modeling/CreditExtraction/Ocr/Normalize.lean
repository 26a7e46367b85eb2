import CreditExtraction.Ocr.Line
import CreditExtraction.Text.CharClass

/-!
# Normalizing recognized lines into reading order

`Normalizer.normalize` turns raw lines into the lines the extractor reads:

1. Lines below the minimum confidence (an absent confidence counts as 1) and lines whose
   cleaned text is empty are dropped. `cleanText` removes control characters and turns every
   run of blanks into one space, with none at the ends.
2. The rest are put in reading order: by page; on a page, lines with a box first, top to bottom
   by the vertical centre of the box, then left to right, then as reported; lines without a box
   last, as reported.
3. A line with a box starts a row, which takes the following boxed lines of its page whose
   centre lies within `rowTolerance` times the smaller height of its own.
4. In a row, from left to right, a fragment that starts no further than `gapTolerance` times
   the smaller height after the end of the line before it joins that line: the texts are joined
   with a space, the boxes united and the lower confidence kept.

The order of step 2 is total (the report position breaks every tie), so the result does not
depend on how the sort is done.
-/

namespace CreditExtraction.Ocr

open Text

/-- Removes control characters and collapses blank runs to one space, trimming both ends. -/
def cleanText (s : String) : String :=
  let step := fun (acc : List Char × Bool) (c : Char) =>
    let (out, pending) := acc
    if CharClass.isSpace c then (out, true)
    else if CharClass.isControl c then (out, pending)
    else if pending && !out.isEmpty then (c :: ' ' :: out, false)
    else (c :: out, false)
  String.ofList (s.toList.foldl step ([], false)).1.reverse

/-- How raw lines are filtered, grouped into rows and joined. -/
structure Normalizer where
  minConfidence : Float
  rowTolerance : Float
  gapTolerance : Float
deriving Repr, Inhabited

/-- The normalizer that keeps every line and joins touching fragments of a row. -/
def Normalizer.default : Normalizer := ⟨0, 0.5, 0⟩

/-- A raw line kept for normalizing, with its report position. -/
structure Fragment where
  index : Nat
  text : String
  rect : Rect
  boxed : Bool
  confidence : Float
  page : Int
deriving Inhabited

/-- Does `x` come before `y` in reading order (step 2 of the module comment)? -/
def Fragment.before (x y : Fragment) : Bool :=
  if x.page != y.page then x.page < y.page
  else if x.boxed != y.boxed then x.boxed
  else if !x.boxed then x.index < y.index
  else if x.rect.centerY != y.rect.centerY then x.rect.centerY < y.rect.centerY
  else if x.rect.minX != y.rect.minX then x.rect.minX < y.rect.minX
  else x.index < y.index

/-- Does `x` come before `y` in a row: left to right, then as reported? -/
def Fragment.leftOf (x y : Fragment) : Bool :=
  if x.rect.minX != y.rect.minX then x.rect.minX < y.rect.minX else x.index < y.index

/-- The fragments kept from raw lines (step 1 of the module comment). -/
def Normalizer.fragments (n : Normalizer) (raw : List RawLine) : List Fragment :=
  (raw.zipIdx).filterMap fun (l, i) =>
    let conf := l.confidence.getD 1
    let text := cleanText l.text
    if conf < n.minConfidence || text == "" then none
    else
      let (rect, boxed) := match l.box.bounds with
        | some r => (r, true)
        | none => (⟨0, 0, 0, 0⟩, false)
      some ⟨i, text, rect, boxed, conf, l.page⟩

/-- Does `next` share the row started by `anchor` (step 3)? -/
def Normalizer.sameRow (n : Normalizer) (anchor next : Fragment) : Bool :=
  anchor.boxed && next.boxed && next.page == anchor.page &&
    !(Float.abs (next.rect.centerY - anchor.rect.centerY) >
      n.rowTolerance * fmin anchor.rect.height next.rect.height)

/-- Cuts fragments in reading order into rows; the rows come out in order. -/
def Normalizer.rows (n : Normalizer) (items : List Fragment) : List (List Fragment) :=
  let step := fun (acc : List (List Fragment)) (f : Fragment) =>
    match acc with
    | (anchor :: members) :: done =>
      if n.sameRow anchor f then (anchor :: (members ++ [f])) :: done
      else [f] :: (anchor :: members) :: done
    | _ => [f] :: acc
  (items.foldl step []).reverse

/-- The line of a run of joined fragments. -/
def Fragment.line (cur : Fragment) (parts : List String) : Line :=
  ⟨cleanText (" ".intercalate parts), if cur.boxed then cur.rect.polygon else [], cur.confidence, cur.page⟩

/-- Joins the fragments of a row, given left to right (step 4). -/
def Normalizer.joinRow (n : Normalizer) : Fragment → List String → List Fragment → List Line
  | cur, parts, [] => [cur.line parts]
  | cur, parts, next :: rest =>
    let h := fmin cur.rect.height next.rect.height
    if cur.boxed && next.boxed && next.rect.minX - cur.rect.maxX ≤ n.gapTolerance * h then
      let joined := { cur with rect := cur.rect.union next.rect,
                               confidence := fmin cur.confidence next.confidence }
      n.joinRow joined (parts ++ [next.text]) rest
    else cur.line parts :: n.joinRow next [next.text] rest

/-- Normalizes raw lines (see the module comment). -/
def Normalizer.normalize (n : Normalizer) (raw : List RawLine) : List Line :=
  let ordered := (n.fragments raw).mergeSort fun x y => !y.before x
  (n.rows ordered).flatMap fun row =>
    match row.mergeSort (fun x y => !y.leftOf x) with
    | first :: rest => n.joinRow first [first.text] rest
    | [] => []

end CreditExtraction.Ocr
