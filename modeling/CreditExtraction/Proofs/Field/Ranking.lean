import Mathlib.Data.String.Basic
import Mathlib.Order.Basic
import CreditExtraction.Proofs.Numbers.FloatOrder
import CreditExtraction.Field.Merge

/-!
# Ranking a field's candidates

`Scored.beats` compares two candidates by confidence, then position, then label, then value.
Once no confidence or coordinate is NaN (`Scored.Sane`), each comparison is the order of a
place on a line (`FloatOrder.place`), so `beats` is the strict order of one lexicographic key,
`Scored.rank` (`Scored.beats_iff`). `best` then picks a candidate of least rank among those it
is given (`best_spec`), and two candidates of least rank have one rank (`rank_eq_of_least`).

Every candidate that `merge` scores is sane when its confidence is not NaN and its box has
finite corners (`Scored.of_sane`): line numbers and pages convert to numbers, and the top-left
corner of a box of numbers is a number (`bounds_sane`).
-/

namespace CreditExtraction

open FloatOrder

/-! ## Positions -/

/-- A position whose three coordinates are numbers. -/
def Position.Sane (p : Position) : Prop :=
  p.a.isNaN = false ∧ p.b.isNaN = false ∧ p.c.isNaN = false

/-- Where a position stands in reading order: its rank, then its coordinates in turn. -/
def Position.place (p : Position) :
    Nat ×ₗ (Int ×ₗ Int ×ₗ Int) ×ₗ (Int ×ₗ Int ×ₗ Int) ×ₗ (Int ×ₗ Int ×ₗ Int) :=
  toLex (p.rank, toLex (FloatOrder.place p.a, toLex (FloatOrder.place p.b, FloatOrder.place p.c)))

section Positions

variable {p q : Position}

/-- Two sane positions are the same exactly when they stand at one place. -/
theorem Position.same_iff (hp : p.Sane) (hq : q.Sane) :
    p.same q = true ↔ p.place = q.place := by
  obtain ⟨ha, hb, hc⟩ := hp
  obtain ⟨ha', hb', hc'⟩ := hq
  simp only [Position.same, Position.place, Bool.and_eq_true, beq_iff_eq, beq_iff_place ha ha',
    beq_iff_place hb hb', beq_iff_place hc hc', toLex_inj, Prod.mk.injEq, and_assoc]

/-- A sane position is earlier than another exactly when its place is smaller. -/
theorem Position.before_iff (hp : p.Sane) (hq : q.Sane) :
    p.before q = true ↔ p.place < q.place := by
  obtain ⟨ha, hb, hc⟩ := hp
  obtain ⟨ha', hb', hc'⟩ := hq
  simp only [Position.before, Position.place, Prod.Lex.toLex_lt_toLex]
  -- each `!=` decides whether the comparison moves on to the next coordinate
  by_cases hr : p.rank = q.rank
  · by_cases h1 : FloatOrder.place p.a = FloatOrder.place q.a
    · by_cases h2 : FloatOrder.place p.b = FloatOrder.place q.b
      · simp [hr, h1, h2, (bne_eq_false_iff_place ha ha').2 h1,
          (bne_eq_false_iff_place hb hb').2 h2, lt_iff_place hc hc']
      · simp [hr, h1, h2, (bne_eq_false_iff_place ha ha').2 h1, (bne_iff_place hb hb').2 h2,
          lt_iff_place hb hb']
    · simp [hr, h1, (bne_iff_place ha ha').2 h1, lt_iff_place ha ha']
  · simp [hr]

end Positions

/-! ## Candidates -/

/-- A scored candidate whose confidence and position are numbers. -/
def Scored.Sane (s : Scored) : Prop :=
  s.confidence.isNaN = false ∧ s.position.Sane

/-- The key candidates are preferred by, least first: the confidence reversed, then the
position, the label and the value. -/
def Scored.rank (s : Scored) :
    (Int ×ₗ Int ×ₗ Int)ᵒᵈ ×ₗ
      (Nat ×ₗ (Int ×ₗ Int ×ₗ Int) ×ₗ (Int ×ₗ Int ×ₗ Int) ×ₗ (Int ×ₗ Int ×ₗ Int)) ×ₗ
      String ×ₗ String :=
  toLex (OrderDual.toDual (FloatOrder.place s.confidence),
    toLex (s.position.place, toLex (s.candidate.label, s.candidate.value)))

section Candidates

variable {x y : Scored}

/-- Between sane candidates, `beats` is the strict order of their ranks. -/
theorem Scored.beats_iff (hx : x.Sane) (hy : y.Sane) : x.beats y = true ↔ x.rank < y.rank := by
  obtain ⟨hcx, hpx⟩ := hx
  obtain ⟨hcy, hpy⟩ := hy
  simp only [Scored.beats, Scored.rank, Prod.Lex.toLex_lt_toLex, OrderDual.toDual_lt_toDual,
    OrderDual.toDual_inj]
  by_cases hc : FloatOrder.place x.confidence = FloatOrder.place y.confidence
  · have hc' := (bne_eq_false_iff_place hcx hcy).2 hc
    by_cases hp : x.position.place = y.position.place
    · have hp' := (Position.same_iff hpx hpy).2 hp
      by_cases hl : x.candidate.label = y.candidate.label
      · simp [hc, hc', hp, hp', hl]
      · simp [hc, hc', hp, hp', hl]
    · have hp' : x.position.same y.position = false := by
        rw [← Bool.not_eq_true, Position.same_iff hpx hpy]
        exact hp
      simp [hc, hc', hp, hp', Position.before_iff hpx hpy]
  · simp [hc, (bne_iff_place hcx hcy).2 hc, lt_iff_place hcy hcx]

/-- Candidates of one rank have one label. -/
theorem Scored.label_eq_of_rank_eq (h : x.rank = y.rank) : x.candidate.label = y.candidate.label := by
  simp only [Scored.rank, toLex_inj, Prod.mk.injEq] at h
  exact h.2.2.1

end Candidates

/-! ## The best candidate -/

/-- One step of `best`: the running best is replaced by a candidate that beats it. -/
theorem best_cons (first s : Scored) (rest : List Scored) :
    best first (s :: rest) = best (if s.beats first then s else first) rest := rfl

/-- A step of `best` between sane candidates keeps the one of lesser rank. -/
theorem beats_step {first s : Scored} (hfirst : first.Sane) (hs : s.Sane) :
    let b := if s.beats first then s else first
    (b = s ∨ b = first) ∧ b.rank ≤ s.rank ∧ b.rank ≤ first.rank := by
  intro b
  by_cases hw : s.beats first
  · have hb : b = s := if_pos hw
    rw [hb]
    exact ⟨.inl rfl, le_rfl, ((Scored.beats_iff hs hfirst).1 hw).le⟩
  · have hb : b = first := if_neg hw
    rw [hb]
    exact ⟨.inr rfl, not_lt.1 (mt (Scored.beats_iff hs hfirst).2 hw), le_rfl⟩

/-- `best` keeps a candidate of least rank among those it was given. -/
theorem best_spec (rest : List Scored) (first : Scored) (h : ∀ s ∈ first :: rest, s.Sane) :
    best first rest ∈ first :: rest ∧ ∀ s ∈ first :: rest, (best first rest).rank ≤ s.rank := by
  induction rest generalizing first with
  | nil => simp [best]
  | cons s rest ih =>
    rw [best_cons]
    obtain ⟨hb, hbs, hbf⟩ := beats_step (h first (by simp)) (h s (by simp))
    set b := if s.beats first then s else first
    -- the rest of the run starts from `b`, one of the two candidates it replaces
    have hsub : b :: rest ⊆ first :: s :: rest := by
      intro t ht
      rcases List.mem_cons.1 ht with rfl | ht
      · rcases hb with h' | h' <;> simp [h']
      · simp [ht]
    obtain ⟨hmem, hle⟩ := ih b fun t ht => h t (hsub ht)
    have hbest := hle b List.mem_cons_self
    refine ⟨hsub hmem, fun t ht => ?_⟩
    simp only [List.mem_cons] at ht
    rcases ht with rfl | rfl | ht
    · exact hbest.trans hbf
    · exact hbest.trans hbs
    · exact hle t (List.mem_cons_of_mem _ ht)

/-- Two candidates of least rank in one list have one rank. -/
theorem rank_eq_of_least {l : List Scored} {w w' : Scored} (hw : w ∈ l) (hw' : w' ∈ l)
    (hle : ∀ s ∈ l, w.rank ≤ s.rank) (hle' : ∀ s ∈ l, w'.rank ≤ s.rank) : w.rank = w'.rank :=
  le_antisymm (hle w' hw') (hle' w hw)

/-! ## Scored candidates are sane -/

/-- The least of two numbers is a number. -/
theorem fmin_isNaN {x y : Float} (hx : x.isNaN = false) (hy : y.isNaN = false) :
    (fmin x y).isNaN = false := by
  have hneg : Text.Float.negInf.isNaN = false := by decide
  unfold fmin
  split_ifs <;> simp_all

/-- The top-left corner of a box whose corners are numbers is a number. -/
theorem bounds_sane {p : Polygon} {r : Rect} (h : p.bounds = some r)
    (hp : ∀ pt ∈ p, pt.x.isNaN = false ∧ pt.y.isNaN = false) :
    r.minX.isNaN = false ∧ r.minY.isNaN = false := by
  -- the fold keeps the running minima numbers, from the infinities it starts with
  have hfold : ∀ (pts : List Point) (acc : Rect), acc.minX.isNaN = false →
      acc.minY.isNaN = false → (∀ pt ∈ pts, pt.x.isNaN = false ∧ pt.y.isNaN = false) →
      let r := pts.foldl (fun r pt => ⟨fmin r.minX pt.x, fmin r.minY pt.y, fmax r.maxX pt.x,
        fmax r.maxY pt.y⟩) acc
      r.minX.isNaN = false ∧ r.minY.isNaN = false := by
    intro pts
    induction pts with
    | nil => exact fun acc hx hy _ => ⟨hx, hy⟩
    | cons pt pts ih =>
      intro acc hx hy hpts
      obtain ⟨hpx, hpy⟩ := hpts pt (by simp)
      exact ih _ (fmin_isNaN hx hpx) (fmin_isNaN hy hpy) (fun q hq => hpts q (by simp [hq]))
  unfold Polygon.bounds at h
  split at h
  · simp at h
  · have hinf : Text.Float.posInf.isNaN = false := by decide
    simp only [Option.some.injEq] at h
    subst h
    exact hfold p _ hinf hinf hp

/-- A candidate's position is sane when its box has corners that are numbers. -/
theorem candidatePosition_sane (c : Candidate) (line : Option Nat)
    (hbox : ∀ pt ∈ c.box, pt.x.isNaN = false ∧ pt.y.isNaN = false) :
    (candidatePosition c line).Sane := by
  have hzero : (0 : Float).isNaN = false := by decide
  unfold candidatePosition
  split
  · exact ⟨natToFloat_isNaN _, hzero, hzero⟩
  · split
    · rename_i r hr
      obtain ⟨hx, hy⟩ := bounds_sane hr hbox
      refine ⟨?_, hy, hx⟩
      split
      · exact ofInt_isNaN _
      · show Text.Float.posInf.isNaN = false
        decide
    · exact ⟨hzero, hzero, hzero⟩

/-- A candidate whose confidence is no NaN and whose box has finite corners scores sanely. -/
theorem Scored.of_sane (lowered : List String) (c : Candidate)
    (hconf : ∀ x ∈ c.confidence, x.isNaN = false)
    (hbox : ∀ pt ∈ c.box, pt.x.isFinite = true ∧ pt.y.isFinite = true) :
    (Scored.of lowered c).Sane := by
  refine ⟨?_, candidatePosition_sane c _ fun pt hpt =>
    ⟨isNaN_of_isFinite (hbox pt hpt).1, isNaN_of_isFinite (hbox pt hpt).2⟩⟩
  show (c.confidence.getD defaultConfidence).isNaN = false
  cases hc : c.confidence with
  | none => decide
  | some x => exact hconf x (by simp [hc])

end CreditExtraction
