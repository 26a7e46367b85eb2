import CreditExtraction.Proofs.Numbers.FloatOrder
import CreditExtraction.Geometry

/-!
# Least and greatest coordinates

Between two finite numbers, `fmin` and `fmax` return one of them, the one at the lesser
(greater) place on the number line (`fmin_finite`, `fmax_finite`); the infinities they start
from give way to any finite number (`fmin_posInf`, `fmax_negInf`). Hence:

* the lesser of the least of two lists is the least of both (`IsLeastOf.fmin`);
* the union of two rectangles spans the corners each spans (`Rect.Spans.union`);
* the bounding rectangle of a polygon with finite corners spans its corners (`bounds_spans`).
-/

namespace CreditExtraction

open FloatOrder

/-- `m` is the least of `xs`: one of them, and at most each. -/
def IsLeastOf (m : Float) (xs : List Float) : Prop := m ∈ xs ∧ ∀ x ∈ xs, m ≤ x

/-- `m` is the greatest of `xs`: one of them, and at least each. -/
def IsGreatestOf (m : Float) (xs : List Float) : Prop := m ∈ xs ∧ ∀ x ∈ xs, x ≤ m

/-- A point whose coordinates are finite. -/
def Point.Finite (pt : Point) : Prop := pt.x.isFinite = true ∧ pt.y.isFinite = true

/-- The rectangle spans the points: its sides are their least and greatest coordinates. -/
structure Rect.Spans (r : Rect) (pts : List Point) : Prop where
  minX : IsLeastOf r.minX (pts.map (·.x))
  minY : IsLeastOf r.minY (pts.map (·.y))
  maxX : IsGreatestOf r.maxX (pts.map (·.x))
  maxY : IsGreatestOf r.maxY (pts.map (·.y))

/-! ## Two finite numbers -/

section Two

variable {x y : Float}

/-- Two floats equal to zero, whatever their signs, stand at one place. -/
theorem place_eq_of_zeros (hx : x.isNaN = false) (hy : y.isNaN = false)
    (hz : (x == 0 && y == 0) = true) : place x = place y := by
  have hzero : (0 : Float).isNaN = false := by decide
  simp only [Bool.and_eq_true] at hz
  exact ((beq_iff_place hx hzero).1 hz.1).trans ((beq_iff_place hy hzero).1 hz.2).symm

/-- Of two finite numbers `fmin` returns one, at the lesser place. -/
theorem fmin_finite (hx : x.isFinite = true) (hy : y.isFinite = true) :
    (fmin x y = x ∨ fmin x y = y) ∧ place (fmin x y) = min (place x) (place y) := by
  have hx' := isNaN_of_isFinite hx
  have hy' := isNaN_of_isFinite hy
  unfold fmin
  rw [if_neg (by simp only [isInf_of_isFinite hx, isInf_of_isFinite hy, Bool.false_and,
    Bool.or_self, Bool.false_eq_true, not_false_eq_true]),
    if_neg (by simp only [hx', hy', Bool.or_self, Bool.false_eq_true, not_false_eq_true])]
  split_ifs with hz _ hlt
  -- two zeros stand at one place, so the sign rule picks either
  · exact ⟨.inl rfl, by rw [place_eq_of_zeros hx' hy' hz, min_self]⟩
  · exact ⟨.inr rfl, by rw [place_eq_of_zeros hx' hy' hz, min_self]⟩
  · exact ⟨.inl rfl, (min_eq_left ((lt_iff_place hx' hy').1 hlt).le).symm⟩
  · exact ⟨.inr rfl, (min_eq_right (not_lt.1 (mt (lt_iff_place hx' hy').2 hlt))).symm⟩

/-- Of two finite numbers `fmax` returns one, at the greater place. -/
theorem fmax_finite (hx : x.isFinite = true) (hy : y.isFinite = true) :
    (fmax x y = x ∨ fmax x y = y) ∧ place (fmax x y) = max (place x) (place y) := by
  have hx' := isNaN_of_isFinite hx
  have hy' := isNaN_of_isFinite hy
  unfold fmax
  rw [if_neg (by simp only [isInf_of_isFinite hx, isInf_of_isFinite hy, Bool.false_and,
    Bool.or_self, Bool.false_eq_true, not_false_eq_true]),
    if_neg (by simp only [hx', hy', Bool.or_self, Bool.false_eq_true, not_false_eq_true])]
  split_ifs with hz _ hgt
  · exact ⟨.inr rfl, by rw [place_eq_of_zeros hx' hy' hz, max_self]⟩
  · exact ⟨.inl rfl, by rw [place_eq_of_zeros hx' hy' hz, max_self]⟩
  · exact ⟨.inl rfl, (max_eq_left ((lt_iff_place hy' hx').1 hgt).le).symm⟩
  · exact ⟨.inr rfl, (max_eq_right (not_lt.1 (mt (lt_iff_place hy' hx').2 hgt))).symm⟩

theorem fmin_posInf (hx : x.isFinite = true) : fmin Text.Float.posInf x = x := by
  have hlt : ¬ Text.Float.posInf < x := by
    rw [lt_iff_place (by decide) (isNaN_of_isFinite hx), not_lt]
    exact (place_lt_posInf hx).le
  have hinf : (Text.Float.posInf.isInf && decide (Text.Float.posInf < 0)) = false := by decide
  have hnan : Text.Float.posInf.isNaN = false := by decide
  have hzero : (Text.Float.posInf == 0) = false := by decide
  unfold fmin
  simp only [hinf, isInf_of_isFinite hx, hnan, isNaN_of_isFinite hx, hzero, hlt, Bool.false_and,
    Bool.or_self, Bool.false_eq_true, if_false]

theorem fmax_negInf (hx : x.isFinite = true) : fmax Text.Float.negInf x = x := by
  have hgt : ¬ Text.Float.negInf > x := by
    rw [gt_iff_lt, lt_iff_place (isNaN_of_isFinite hx) (by decide), not_lt]
    exact (negInf_place_lt hx).le
  have hinf : (Text.Float.negInf.isInf && decide (Text.Float.negInf > 0)) = false := by decide
  have hnan : Text.Float.negInf.isNaN = false := by decide
  have hzero : (Text.Float.negInf == 0) = false := by decide
  unfold fmax
  simp only [hinf, isInf_of_isFinite hx, hnan, isNaN_of_isFinite hx, hzero, hgt, Bool.false_and,
    Bool.or_self, Bool.false_eq_true, if_false]

end Two

/-! ## Least and greatest of lists -/

section Lists

variable {a b : Float} {A B : List Float}

theorem isLeastOf_singleton (ha : a.isNaN = false) : IsLeastOf a [a] :=
  ⟨List.mem_singleton_self a, fun x hx => by
    rw [List.mem_singleton.1 hx, le_iff_place ha ha]⟩

theorem isGreatestOf_singleton (ha : a.isNaN = false) : IsGreatestOf a [a] :=
  ⟨List.mem_singleton_self a, fun x hx => by
    rw [List.mem_singleton.1 hx, le_iff_place ha ha]⟩

/-- The least of two lists of finite numbers is the lesser of their least. -/
theorem IsLeastOf.fmin (ha : IsLeastOf a A) (hb : IsLeastOf b B)
    (hA : ∀ x ∈ A, x.isFinite = true) (hB : ∀ x ∈ B, x.isFinite = true) :
    IsLeastOf (CreditExtraction.fmin a b) (A ++ B) := by
  have hfa := hA a ha.1
  have hfb := hB b hb.1
  obtain ⟨hone, hplace⟩ := fmin_finite hfa hfb
  have hnan : (CreditExtraction.fmin a b).isNaN = false := by
    rcases hone with h | h <;> rw [h] <;> exact isNaN_of_isFinite ‹_›
  refine ⟨?_, fun x hx => ?_⟩
  · rcases hone with h | h <;> rw [h]
    · exact List.mem_append_left B ha.1
    · exact List.mem_append_right A hb.1
  · rcases List.mem_append.1 hx with hx | hx
    · have hle := (le_iff_place (isNaN_of_isFinite hfa) (isNaN_of_isFinite (hA x hx))).1 (ha.2 x hx)
      rw [le_iff_place hnan (isNaN_of_isFinite (hA x hx)), hplace]
      exact min_le_of_left_le hle
    · have hle := (le_iff_place (isNaN_of_isFinite hfb) (isNaN_of_isFinite (hB x hx))).1 (hb.2 x hx)
      rw [le_iff_place hnan (isNaN_of_isFinite (hB x hx)), hplace]
      exact min_le_of_right_le hle

/-- The greatest of two lists of finite numbers is the greater of their greatest. -/
theorem IsGreatestOf.fmax (ha : IsGreatestOf a A) (hb : IsGreatestOf b B)
    (hA : ∀ x ∈ A, x.isFinite = true) (hB : ∀ x ∈ B, x.isFinite = true) :
    IsGreatestOf (CreditExtraction.fmax a b) (A ++ B) := by
  have hfa := hA a ha.1
  have hfb := hB b hb.1
  obtain ⟨hone, hplace⟩ := fmax_finite hfa hfb
  have hnan : (CreditExtraction.fmax a b).isNaN = false := by
    rcases hone with h | h <;> rw [h] <;> exact isNaN_of_isFinite ‹_›
  refine ⟨?_, fun x hx => ?_⟩
  · rcases hone with h | h <;> rw [h]
    · exact List.mem_append_left B ha.1
    · exact List.mem_append_right A hb.1
  · rcases List.mem_append.1 hx with hx | hx
    · have hle := (le_iff_place (isNaN_of_isFinite (hA x hx)) (isNaN_of_isFinite hfa)).1 (ha.2 x hx)
      rw [le_iff_place (isNaN_of_isFinite (hA x hx)) hnan, hplace]
      exact le_max_of_le_left hle
    · have hle := (le_iff_place (isNaN_of_isFinite (hB x hx)) (isNaN_of_isFinite hfb)).1 (hb.2 x hx)
      rw [le_iff_place (isNaN_of_isFinite (hB x hx)) hnan, hplace]
      exact le_max_of_le_right hle

end Lists

/-! ## Rectangles -/

theorem Point.finite_coords {p : List Point} (hp : ∀ pt ∈ p, pt.Finite) :
    (∀ x ∈ p.map (·.x), x.isFinite = true) ∧ ∀ y ∈ p.map (·.y), y.isFinite = true := by
  simp only [List.mem_map]
  exact ⟨fun _ ⟨pt, hpt, hx⟩ => hx ▸ (hp pt hpt).1, fun _ ⟨pt, hpt, hy⟩ => hy ▸ (hp pt hpt).2⟩

/-- The rectangle of one point. -/
theorem Rect.spans_point {pt : Point} (h : pt.Finite) : (⟨pt.x, pt.y, pt.x, pt.y⟩ : Rect).Spans [pt] :=
  ⟨isLeastOf_singleton (isNaN_of_isFinite h.1), isLeastOf_singleton (isNaN_of_isFinite h.2),
    isGreatestOf_singleton (isNaN_of_isFinite h.1), isGreatestOf_singleton (isNaN_of_isFinite h.2)⟩

/-- The union of two rectangles spans the points of both. -/
theorem Rect.Spans.union {r o : Rect} {p q : List Point} (hr : r.Spans p) (ho : o.Spans q)
    (hp : ∀ pt ∈ p, pt.Finite) (hq : ∀ pt ∈ q, pt.Finite) : (r.union o).Spans (p ++ q) := by
  obtain ⟨hpx, hpy⟩ := Point.finite_coords hp
  obtain ⟨hqx, hqy⟩ := Point.finite_coords hq
  refine ⟨?_, ?_, ?_, ?_⟩ <;> rw [List.map_append]
  · exact hr.minX.fmin ho.minX hpx hqx
  · exact hr.minY.fmin ho.minY hpy hqy
  · exact hr.maxX.fmax ho.maxX hpx hqx
  · exact hr.maxY.fmax ho.maxY hpy hqy

/-- One step of `Polygon.bounds`: the running rectangle united with a point's. -/
theorem bounds_step (r : Rect) (pt : Point) :
    (⟨fmin r.minX pt.x, fmin r.minY pt.y, fmax r.maxX pt.x, fmax r.maxY pt.y⟩ : Rect) =
      r.union ⟨pt.x, pt.y, pt.x, pt.y⟩ := rfl

/-- The bounding rectangle of a polygon with finite corners spans its corners. -/
theorem bounds_spans {p : Polygon} {r : Rect} (h : p.bounds = some r) (hp : ∀ pt ∈ p, pt.Finite) :
    r.Spans p := by
  -- the fold is a run of unions with one-point rectangles, after the first corner
  have hfold : ∀ (pts seen : List Point) (acc : Rect), acc.Spans seen → (∀ pt ∈ seen, pt.Finite) →
      (∀ pt ∈ pts, pt.Finite) →
      (pts.foldl (fun r pt => ⟨fmin r.minX pt.x, fmin r.minY pt.y, fmax r.maxX pt.x,
        fmax r.maxY pt.y⟩) acc).Spans (seen ++ pts) := by
    intro pts
    induction pts with
    | nil => intro seen acc hacc _ _; simpa using hacc
    | cons pt pts ih =>
      intro seen acc hacc hseen hpts
      have hpt := hpts pt List.mem_cons_self
      have hstep := hacc.union (Rect.spans_point hpt) hseen (by simpa using hpt)
      rw [List.foldl_cons, bounds_step]
      simpa using ih (seen ++ [pt]) _ hstep (by simpa [or_imp, forall_and] using ⟨hseen, hpt⟩)
        fun q hq => hpts q (List.mem_cons_of_mem pt hq)
  match p, h with
  | pt :: pts, h =>
    have hpt := hp pt List.mem_cons_self
    -- the first corner replaces the infinities the fold starts from
    have hfirst : (⟨fmin Text.Float.posInf pt.x, fmin Text.Float.posInf pt.y,
        fmax Text.Float.negInf pt.x, fmax Text.Float.negInf pt.y⟩ : Rect) = ⟨pt.x, pt.y, pt.x, pt.y⟩ := by
      rw [fmin_posInf hpt.1, fmin_posInf hpt.2, fmax_negInf hpt.1, fmax_negInf hpt.2]
    simp only [Polygon.bounds, Option.some.injEq] at h
    subst h
    rw [List.foldl_cons, hfirst]
    simpa using hfold pts [pt] _ (Rect.spans_point hpt) (by simpa using hpt)
      fun q hq => hp q (List.mem_cons_of_mem pt hq)

end CreditExtraction
