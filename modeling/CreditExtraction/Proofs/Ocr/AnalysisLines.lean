import Mathlib
import CreditExtraction.Ocr.Azure

/-!
# Raw lines of a document analysis

A line's confidence is the mean over the words of its page that lie inside one of its spans, a
test that sums each span's offset and length on 64-bit machine integers. The service types both
as 32-bit integers, and then the sums do not wrap: the test is containment of integer intervals
(`within_iff_inside`), and `rawLinesOf_spec` gives every raw line in closed form.
-/

namespace CreditExtraction.Ocr

/-- A span whose offset and length are 32-bit integers, as the service's replies type them. -/
def TextSpan.Int32 (s : TextSpan) : Prop :=
  -2 ^ 31 ≤ s.offset ∧ s.offset < 2 ^ 31 ∧ -2 ^ 31 ≤ s.length ∧ s.length < 2 ^ 31

/-- A word lies inside a line when its interval `[offset, offset + length)` lies inside the
interval of one of the line's spans, the ends compared as integers. -/
def AnalyzedWord.Inside (w : AnalyzedWord) (l : AnalyzedLine) : Prop :=
  ∃ s ∈ l.spans, s.offset ≤ w.span.offset ∧ w.span.offset + w.span.length ≤ s.offset + s.length

instance (w : AnalyzedWord) (l : AnalyzedLine) : Decidable (w.Inside l) :=
  inferInstanceAs (Decidable (∃ s ∈ l.spans, _))

/-- A page whose words' and lines' spans are all 32-bit. -/
def AnalyzedPage.Int32Spans (pg : AnalyzedPage) : Prop :=
  (∀ w ∈ pg.words, w.span.Int32) ∧ ∀ l ∈ pg.lines, ∀ s ∈ l.spans, s.Int32

/-- The points of a flat coordinate list, the `i`-th made of coordinates `2 i` and `2 i + 1`. -/
def pointsOf (xs : List Float) : Polygon :=
  (List.range (xs.length / 2)).map fun i => ⟨xs.getD (2 * i) 0, xs.getD (2 * i + 1) 0⟩

/-- The raw line of line `l` of page `pg`: its text, its polygon as points, the page's number,
and the mean confidence of the words inside it, summed from the first, none when no word is. -/
def AnalyzedPage.rawLine (pg : AnalyzedPage) (l : AnalyzedLine) : RawLine :=
  let inside := pg.words.filter fun w => decide (w.Inside l)
  ⟨l.content, pointsOf l.polygon,
    if inside = [] then none
    else some (inside.foldl (fun acc w => acc + w.confidence) 0 / Float.ofNat inside.length),
    pg.number⟩

theorem TextSpan.stop_of_int32 {s : TextSpan} (h : s.Int32) : s.stop = s.offset + s.length := by
  obtain ⟨h₁, h₂, h₃, h₄⟩ := h
  unfold TextSpan.stop
  exact Int.bmod_eq_of_le (by simp; omega) (by simp; omega)

/-- On 32-bit spans the machine test is containment of integer intervals. -/
theorem within_iff_inside {w : AnalyzedWord} {l : AnalyzedLine} (hw : w.span.Int32)
    (hl : ∀ s ∈ l.spans, s.Int32) : w.span.within l.spans = true ↔ w.Inside l := by
  simp only [TextSpan.within, List.any_eq_true, Bool.and_eq_true, decide_eq_true_eq,
    AnalyzedWord.Inside]
  refine exists_congr fun s => and_congr_right fun hs => ?_
  rw [TextSpan.stop_of_int32 hw, TextSpan.stop_of_int32 (hl s hs)]

theorem pairs_eq_pointsOf (xs : List Float) : rawLinesOf.pairs xs = pointsOf xs := by
  fun_induction rawLinesOf.pairs xs with
  | case1 x y rest ih =>
    -- the first pair, then the points of the rest shifted by one
    have hlen : (x :: y :: rest).length / 2 = rest.length / 2 + 1 := by simp; omega
    rw [pointsOf, hlen, List.range_succ_eq_map, ih, pointsOf]
    simp [Nat.mul_add, Nat.add_assoc]
  | case2 xs hxs =>
    have hlen : xs.length < 2 := by
      match xs, hxs with
      | [], _ | [_], _ => simp
      | _ :: _ :: _, h => exact absurd rfl (h _ _ _)
    simp [pointsOf, Nat.div_eq_of_lt hlen]

/-- The raw lines of an analysis whose spans are 32-bit: one per line of each page, in page
order and then line order. -/
theorem rawLinesOf_spec (pages : List AnalyzedPage) (hfit : ∀ pg ∈ pages, pg.Int32Spans) :
    rawLinesOf pages = pages.flatMap fun pg => pg.lines.map pg.rawLine := by
  unfold rawLinesOf
  refine List.flatMap_congr fun pg hpg => List.map_congr_left fun l hl => ?_
  obtain ⟨hw, hls⟩ := hfit pg hpg
  have hinside : pg.words.filter (fun w => w.span.within l.spans) =
      pg.words.filter fun w => decide (w.Inside l) :=
    List.filter_congr fun w hmem => by
      rw [Bool.eq_iff_iff, decide_eq_true_iff]
      exact within_iff_inside (hw w hmem) (hls l hl)
  have hbox : (if l.polygon.length < 2 then [] else rawLinesOf.pairs l.polygon) =
      pointsOf l.polygon := by
    split
    · simp [pointsOf]; omega
    · exact pairs_eq_pointsOf _
  simp only [AnalyzedPage.rawLine, hinside, hbox, List.isEmpty_iff]

/-- The analysis of the reply the client's tests poll for. -/
def succeededPages : List AnalyzedPage :=
  [⟨1, [⟨"Hotel", [], 0.99, ⟨0, 5⟩⟩, ⟨"zur", [], 0.97, ⟨6, 3⟩⟩, ⟨"Taube", [], 0.98, ⟨10, 5⟩⟩,
      ⟨"Datum", [], 0.8, ⟨16, 5⟩⟩],
    [⟨"Hotel zur Taube", [1, 1, 3, 1, 3, 1.2, 1, 1.2], [⟨0, 15⟩]⟩,
      ⟨"Datum", [1, 2, 2, 2, 2, 2.2, 1, 2.2], [⟨16, 5⟩]⟩]⟩]

theorem succeeded_reply_lines : (∀ pg ∈ succeededPages, pg.Int32Spans) ∧
    rawLinesOf succeededPages = succeededPages.flatMap fun pg => pg.lines.map pg.rawLine :=
  have h : ∀ pg ∈ succeededPages, pg.Int32Spans := by
    simp [succeededPages, AnalyzedPage.Int32Spans, TextSpan.Int32]
  ⟨h, rawLinesOf_spec succeededPages h⟩

end CreditExtraction.Ocr
