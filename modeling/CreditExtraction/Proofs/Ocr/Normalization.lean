import CreditExtraction.Proofs.Geometry.Bounds
import CreditExtraction.Proofs.Ocr.CleanText

/-!
# Normalizing loses and duplicates nothing

`Normalizer.normalize` keeps some raw lines (`Normalizer.Keeps`), puts them in reading order,
cuts them into rows and joins neighbouring fragments of a row. The main statement,
`normalize_partitions_kept`, says what comes out, for raw lines whose corners and confidences
are finite: the kept lines, each with its report position, fall into groups, one per output
line and each used once (`Joins`). A line's text is its group's cleaned texts with single
spaces, its confidence the least of theirs, its page theirs, and its box the rectangle spanning
all their corners, or none for a lone line without a box. Output pages never go down, and
every output text is clean and not empty.

The proof follows the four steps of `normalize`:

1. the fragments are the kept raw lines, each made a fragment by `Fragment.ofRaw`
   (`fragments_eq`);
2. reading order is the order of a lexicographic key (`Fragment.before_iff`), so the sorted
   fragments are sorted by page (`readingOrder_sorted`);
3. the rows cut the sorted fragments into non-empty runs, each on one page (`flatten_rows`,
   `rows_onOnePage`);
4. joining a row grows one fragment that stands for the run joined so far (`Run`), and each line
   it gives off joins its run (`joinRow_joins`).
-/

namespace CreditExtraction.Ocr

open FloatOrder

/-! ## Kept lines and their fragments -/

/-- A raw line is kept when its confidence, an absent one read as 1, is not below the minimum,
and its cleaned text is not empty. For a minimum that is a number, not below it is at least it
(`keeps_iff_le`). -/
def Normalizer.Keeps (n : Normalizer) (l : RawLine) : Prop :=
  ¬ l.confidence.getD 1 < n.minConfidence ∧ cleanText l.text ≠ ""

instance (n : Normalizer) : DecidablePred n.Keeps := fun l =>
  inferInstanceAs (Decidable (¬ l.confidence.getD 1 < n.minConfidence ∧ cleanText l.text ≠ ""))

/-- A raw line whose corners and confidence are finite numbers. -/
def RawLine.Finite (l : RawLine) : Prop :=
  (∀ pt ∈ l.box, pt.Finite) ∧ ∀ c ∈ l.confidence, c.isFinite = true

theorem RawLine.Finite.confidence {l : RawLine} (h : l.Finite) : (l.confidence.getD 1).isFinite = true := by
  cases hc : l.confidence with
  | none => decide
  | some c => exact h.2 c (by simp [hc])

theorem keeps_iff_le (n : Normalizer) {l : RawLine} (hmin : n.minConfidence.isNaN = false)
    (hl : l.Finite) :
    n.Keeps l ↔ n.minConfidence ≤ l.confidence.getD 1 ∧ cleanText l.text ≠ "" := by
  have hc := isNaN_of_isFinite hl.confidence
  rw [Normalizer.Keeps, lt_iff_place hc hmin, le_iff_place hmin hc, not_lt]

/-- The fragment a raw line at a report position becomes. -/
def Fragment.ofRaw (p : RawLine × Nat) : Fragment :=
  ⟨p.2, cleanText p.1.text, p.1.box.bounds.getD ⟨0, 0, 0, 0⟩, p.1.box.bounds.isSome,
    p.1.confidence.getD 1, p.1.page⟩

theorem bounds_isSome (p : Polygon) : p.bounds.isSome = true ↔ p ≠ [] := by
  cases p <;> simp [Polygon.bounds]

/-- The fragments are the kept raw lines, in report order. -/
theorem fragments_eq (n : Normalizer) (raw : List RawLine) :
    n.fragments raw = (raw.zipIdx.filter fun p => decide (n.Keeps p.1)).map Fragment.ofRaw := by
  rw [← List.filterMap_eq_map', List.filterMap_filter, Normalizer.fragments]
  congr 1
  funext p
  obtain ⟨l, i⟩ := p
  by_cases hk : n.Keeps l
  · have hcond : (decide (l.confidence.getD 1 < n.minConfidence) || cleanText l.text == "") = false := by
      simpa [Normalizer.Keeps] using hk
    simp only [hcond, hk, decide_true, if_true, Bool.false_eq_true, if_false, Fragment.ofRaw]
    cases l.box.bounds <;> rfl
  · have hcond : (decide (l.confidence.getD 1 < n.minConfidence) || cleanText l.text == "") = true := by
      simpa [Normalizer.Keeps, imp_iff_not_or] using hk
    simp [hcond, hk]

/-! ## Reading order -/

/-- The place of a fragment's box in reading order: the height of its centre, then its left side. -/
def Fragment.boxPlace (f : Fragment) : (Int ×ₗ Int ×ₗ Int) ×ₗ (Int ×ₗ Int ×ₗ Int) :=
  if f.boxed then toLex (place f.rect.centerY, place f.rect.minX) else toLex (place 0, place 0)

/-- Where a fragment stands in reading order: its page, boxed before not boxed, the place of its
box, its report position. -/
def Fragment.readingKey (f : Fragment) :
    Int ×ₗ Bool ×ₗ ((Int ×ₗ Int ×ₗ Int) ×ₗ (Int ×ₗ Int ×ₗ Int)) ×ₗ Nat :=
  toLex (f.page, toLex (!f.boxed, toLex (f.boxPlace, f.index)))

/-- A fragment whose box, if it has one, has a centre and a left side that are numbers. -/
def Fragment.Sane (f : Fragment) : Prop :=
  f.boxed = true → f.rect.centerY.isNaN = false ∧ f.rect.minX.isNaN = false

/-- Between sane fragments, reading order is the order of their keys. -/
theorem Fragment.before_iff {x y : Fragment} (hx : x.Sane) (hy : y.Sane) :
    x.before y = true ↔ x.readingKey < y.readingKey := by
  simp only [Fragment.before, Fragment.readingKey, Prod.Lex.toLex_lt_toLex]
  by_cases hp : x.page = y.page
  · cases hbx : x.boxed <;> cases hby : y.boxed
    · -- neither has a box: report order
      simp [hp, hbx, hby, Fragment.boxPlace]
    · simp [hp]
    · simp [hp]
    · -- both have boxes: the centre's height, then the left side, then report order
      obtain ⟨hcx, hmx⟩ := hx hbx
      obtain ⟨hcy, hmy⟩ := hy hby
      simp only [Fragment.boxPlace, hbx, hby, if_true, Prod.Lex.toLex_lt_toLex]
      by_cases h1 : place x.rect.centerY = place y.rect.centerY
      · by_cases h2 : place x.rect.minX = place y.rect.minX
        · simp [hp, h1, h2, (bne_eq_false_iff_place hcx hcy).2 h1,
            (bne_eq_false_iff_place hmx hmy).2 h2]
        · simp [hp, h1, h2, (bne_eq_false_iff_place hcx hcy).2 h1, (bne_iff_place hmx hmy).2 h2,
            lt_iff_place hmx hmy]
      · simp [hp, h1, (bne_iff_place hcx hcy).2 h1, lt_iff_place hcx hcy]
  · simp [hp]

/-- The comparison `normalize` sorts by is `≤` of the keys. -/
theorem Fragment.not_before_eq {x y : Fragment} (hx : x.Sane) (hy : y.Sane) :
    (!y.before x) = decide (x.readingKey ≤ y.readingKey) := by
  rw [Bool.eq_iff_iff, Bool.not_eq_true', decide_eq_true_eq, ← not_lt, ← Fragment.before_iff hy hx]
  simp

/-- `mergeSort` by a comparison that is `≤` of a key on the list's members sorts by the key. -/
theorem pairwise_mergeSort_of_key {α β : Type} [LinearOrder β] (key : α → β)
    {le : α → α → Bool} {l : List α} (hle : ∀ a ∈ l, ∀ b ∈ l, le a b = decide (key a ≤ key b)) :
    (l.mergeSort le).Pairwise fun a b => key a ≤ key b := by
  have hmap : (l.mergeSort le).map key = (l.map key).mergeSort fun u v => decide (u ≤ v) :=
    List.map_mergeSort hle
  have hsorted : ((l.map key).mergeSort fun u v => decide (u ≤ v)).Pairwise
      fun u v => decide (u ≤ v) = true :=
    List.pairwise_mergeSort (fun _ _ _ hab hbc => by simp only [decide_eq_true_eq] at *; exact hab.trans hbc)
      (fun a b => by simpa using le_total a b) _
  rw [← hmap, List.pairwise_map] at hsorted
  simpa using hsorted

/-- The fragments in reading order (step 2). -/
def readingOrder (n : Normalizer) (raw : List RawLine) : List Fragment :=
  (n.fragments raw).mergeSort fun x y => !y.before x

theorem readingOrder_perm (n : Normalizer) (raw : List RawLine) :
    (readingOrder n raw).Perm (n.fragments raw) :=
  List.mergeSort_perm _ _

theorem readingOrder_sorted (n : Normalizer) (raw : List RawLine) (h : ∀ f ∈ n.fragments raw, f.Sane) :
    (readingOrder n raw).Pairwise fun x y => x.readingKey ≤ y.readingKey :=
  pairwise_mergeSort_of_key _ fun a ha b hb => Fragment.not_before_eq (h a ha) (h b hb)

theorem page_le_of_readingKey_le {x y : Fragment} (h : x.readingKey ≤ y.readingKey) :
    x.page ≤ y.page := by
  simp only [Fragment.readingKey, Prod.Lex.toLex_le_toLex] at h
  omega

/-! ## Rows -/

/-- One step of the row scan (step 3): the fragment joins the row begun last, or begins one. -/
def rowStep (n : Normalizer) (acc : List (List Fragment)) (f : Fragment) : List (List Fragment) :=
  match acc with
  | (anchor :: members) :: done =>
    if n.sameRow anchor f then (anchor :: (members ++ [f])) :: done
    else [f] :: (anchor :: members) :: done
  | _ => [f] :: acc

theorem rows_eq (n : Normalizer) (items : List Fragment) :
    n.rows items = (items.foldl (rowStep n) []).reverse := rfl

/-- Rows, none empty and each on one page. -/
def OnOnePage (rows : List (List Fragment)) : Prop :=
  ∀ row ∈ rows, row ≠ [] ∧ ∀ f ∈ row, ∀ g ∈ row, f.page = g.page

theorem page_eq_of_sameRow {n : Normalizer} {anchor f : Fragment} (h : n.sameRow anchor f = true) :
    f.page = anchor.page := by
  simp only [Normalizer.sameRow, Bool.and_eq_true, beq_iff_eq] at h
  exact h.1.2

/-- A step of the row scan writes the fragment after all before it. -/
theorem flatten_rowStep (n : Normalizer) (acc : List (List Fragment)) (f : Fragment) :
    (rowStep n acc f).reverse.flatten = acc.reverse.flatten ++ [f] := by
  unfold rowStep
  split
  · split <;> simp
  · simp

theorem OnOnePage.rowStep {n : Normalizer} {acc : List (List Fragment)} (h : OnOnePage acc)
    (f : Fragment) : OnOnePage (rowStep n acc f) := by
  unfold CreditExtraction.Ocr.rowStep
  split
  · rename_i anchor members done
    have hrow := h (anchor :: members) List.mem_cons_self
    split
    · -- the fragment shares the anchor's page
      rename_i hsame
      have hf := page_eq_of_sameRow hsame
      intro row hr
      rcases List.mem_cons.1 hr with rfl | hr
      · refine ⟨List.cons_ne_nil _ _, fun a ha b hb => ?_⟩
        have hpage : ∀ c ∈ anchor :: (members ++ [f]), c.page = anchor.page := by
          intro c hc
          simp only [List.mem_cons, List.mem_append, List.not_mem_nil, or_false] at hc
          rcases hc with rfl | hc | rfl
          · rfl
          · exact hrow.2 c (by simp [hc]) anchor List.mem_cons_self
          · exact hf
        rw [hpage a ha, hpage b hb]
      · exact h row (List.mem_cons_of_mem _ hr)
    · intro row hr
      rcases List.mem_cons.1 hr with rfl | hr
      · simp
      · exact h row hr
  · intro row hr
    rcases List.mem_cons.1 hr with rfl | hr
    · simp
    · exact h row hr

theorem foldl_rowStep (n : Normalizer) (items : List Fragment) (acc : List (List Fragment))
    (h : OnOnePage acc) :
    OnOnePage (items.foldl (rowStep n) acc) ∧
      (items.foldl (rowStep n) acc).reverse.flatten = acc.reverse.flatten ++ items := by
  induction items generalizing acc with
  | nil => simpa using h
  | cons f items ih =>
    obtain ⟨hpage, hflat⟩ := ih _ (h.rowStep f)
    exact ⟨hpage, by rw [List.foldl_cons, hflat, flatten_rowStep]; simp⟩

/-- The rows, in order, are the fragments they were cut from. -/
theorem flatten_rows (n : Normalizer) (items : List Fragment) : (n.rows items).flatten = items := by
  rw [rows_eq, (foldl_rowStep n items [] (by simp [OnOnePage])).2]
  simp

/-- Every row is a non-empty run on one page. -/
theorem rows_onOnePage (n : Normalizer) (items : List Fragment) : OnOnePage (n.rows items) := by
  intro row hr
  rw [rows_eq, List.mem_reverse] at hr
  exact (foldl_rowStep n items [] (by simp [OnOnePage])).1 row hr

/-! ## Joining a row -/

/-- What normalizing needs of a fragment: clean text that is not empty, a finite confidence and,
if it has a box, a rectangle spanning the finite points `corners f`. -/
structure Fragment.Good (corners : Fragment → List Point) (f : Fragment) : Prop where
  clean : Clean f.text
  nonempty : f.text ≠ ""
  confidence : f.confidence.isFinite = true
  spans : f.boxed = true → f.rect.Spans (corners f)
  finite : f.boxed = true → ∀ pt ∈ corners f, pt.Finite

theorem Fragment.Good.sane {corners : Fragment → List Point} {f : Fragment} (h : f.Good corners) :
    f.Sane := by
  intro hb
  have hs := h.spans hb
  obtain ⟨hx, hy⟩ := Point.finite_coords (h.finite hb)
  -- each side of the rectangle is the coordinate of a finite corner
  exact ⟨isNaN_half (isNaN_add (hy _ hs.minY.1) (hy _ hs.maxY.1)), isNaN_of_isFinite (hx _ hs.minX.1)⟩

/-- `line` is what joining the fragments `G` gives: their texts with single spaces, the least of
their confidences, their page, and the rectangle spanning all their corners; a lone fragment
without a box gives a line without one. -/
structure JoinsFragments (corners : Fragment → List Point) (G : List Fragment) (line : Line) : Prop where
  nonempty : G ≠ []
  text : line.text = " ".intercalate (G.map (·.text))
  page : ∀ f ∈ G, f.page = line.page
  confidence : IsLeastOf line.confidence (G.map (·.confidence))
  box : (∃ f, G = [f] ∧ f.boxed = false ∧ line.box = []) ∨
    ((∀ f ∈ G, f.boxed = true) ∧ ∃ r : Rect, r.Spans (G.flatMap corners) ∧ line.box = r.polygon)

/-- The fragment `joinRow` grows stands for the run `G` of fragments joined so far. -/
structure Run (corners : Fragment → List Point) (cur : Fragment) (parts : List String)
    (G : List Fragment) : Prop where
  nonempty : G ≠ []
  parts : parts = G.map (·.text)
  page : ∀ f ∈ G, f.page = cur.page
  confidence : IsLeastOf cur.confidence (G.map (·.confidence))
  box : (G = [cur] ∧ cur.boxed = false) ∨
    ((∀ f ∈ G, f.boxed = true) ∧ cur.boxed = true ∧ cur.rect.Spans (G.flatMap corners))

/-- The fragment grown by joining `next` to `cur`: the union of their boxes, the lesser of their
confidences. -/
def Fragment.absorb (cur next : Fragment) : Fragment :=
  { cur with rect := cur.rect.union next.rect, confidence := fmin cur.confidence next.confidence }

/-- One step of `joinRow`: the next fragment is joined to the run, or the run's line is given off. -/
theorem joinRow_cons (n : Normalizer) (cur : Fragment) (parts : List String) (next : Fragment)
    (rest : List Fragment) :
    n.joinRow cur parts (next :: rest) =
      if cur.boxed && next.boxed && next.rect.minX - cur.rect.maxX ≤
          n.gapTolerance * fmin cur.rect.height next.rect.height then
        n.joinRow (cur.absorb next) (parts ++ [next.text]) rest
      else cur.line parts :: n.joinRow next [next.text] rest := rfl

section Runs

variable {corners : Fragment → List Point}

theorem Run.single {f : Fragment} (hf : f.Good corners) : Run corners f [f.text] [f] where
  nonempty := List.cons_ne_nil _ _
  parts := rfl
  page := by simp
  confidence := isLeastOf_singleton (isNaN_of_isFinite hf.confidence)
  box := by
    cases hb : f.boxed
    · exact .inl ⟨rfl, rfl⟩
    · exact .inr ⟨by simp [hb], rfl, by simpa using hf.spans hb⟩

/-- Joining the next fragment of a row to the run. -/
theorem Run.join {cur next : Fragment} {parts : List String} {G : List Fragment}
    (hrun : Run corners cur parts G) (hG : ∀ f ∈ G, f.Good corners) (hnext : next.Good corners)
    (hpage : next.page = cur.page) (hcur : cur.boxed = true) (hbox : next.boxed = true) :
    Run corners (cur.absorb next) (parts ++ [next.text]) (G ++ [next]) := by
  have hall : ∀ f ∈ G, f.boxed = true := by
    rcases hrun.box with ⟨rfl, hb⟩ | ⟨hall, -, -⟩
    · simp_all
    · exact hall
  have hspans : cur.rect.Spans (G.flatMap corners) := by
    rcases hrun.box with ⟨-, hb⟩ | ⟨-, -, hs⟩
    · simp_all
    · exact hs
  refine ⟨by simp, by simp [hrun.parts], ?_, ?_, .inr ⟨?_, hcur, ?_⟩⟩
  · simp only [List.mem_append, List.mem_singleton]
    rintro f (hf | rfl)
    · exact hrun.page f hf
    · exact hpage
  · rw [List.map_append]
    refine hrun.confidence.fmin (isLeastOf_singleton (isNaN_of_isFinite hnext.confidence)) ?_ ?_
    · simp only [List.mem_map]
      rintro _ ⟨f, hf, rfl⟩
      exact (hG f hf).confidence
    · simpa using hnext.confidence
  · simp only [List.mem_append, List.mem_singleton]
    rintro f (hf | rfl)
    · exact hall f hf
    · exact hbox
  · rw [List.flatMap_append, List.flatMap_singleton]
    refine hspans.union (hnext.spans hbox) ?_ (hnext.finite hbox)
    simp only [List.mem_flatMap]
    rintro pt ⟨f, hf, hpt⟩
    exact (hG f hf).finite (hall f hf) pt hpt

/-- The line given off for a run joins the run's fragments. -/
theorem Run.line {cur : Fragment} {parts : List String} {G : List Fragment}
    (hrun : Run corners cur parts G) (hG : ∀ f ∈ G, f.Good corners) :
    JoinsFragments corners G (cur.line parts) := by
  refine ⟨hrun.nonempty, ?_, hrun.page, hrun.confidence, ?_⟩
  · -- the joined texts are clean already
    have hclean : ∀ p ∈ G.map (·.text), Clean p ∧ p ≠ "" := by
      simp only [List.mem_map]
      rintro _ ⟨f, hf, rfl⟩
      exact ⟨(hG f hf).clean, (hG f hf).nonempty⟩
    show cleanText (" ".intercalate parts) = _
    rw [hrun.parts, cleanText_of_clean (Clean.intercalate hclean)]
  · rcases hrun.box with ⟨hG1, hb⟩ | ⟨hall, hb, hs⟩
    · exact .inl ⟨cur, hG1, hb, by simp [Fragment.line, hb]⟩
    · exact .inr ⟨hall, cur.rect, hs, by simp [Fragment.line, hb]⟩

/-- Joining a row: the lines given off join runs that together are the fragments, in order. -/
theorem joinRow_joins (n : Normalizer) (rest : List Fragment) :
    ∀ (cur : Fragment) (parts : List String) (G : List Fragment), Run corners cur parts G →
    (∀ f ∈ G ++ rest, f.Good corners) → (∀ f ∈ rest, f.page = cur.page) →
    ∃ groups : List (List Fragment), groups.flatten = G ++ rest ∧
      List.Forall₂ (JoinsFragments corners) groups (n.joinRow cur parts rest) := by
  -- induction on what is left of the row; the run grows or is given off at each fragment
  induction rest with
  | nil =>
    intro cur parts G hrun hgood _
    exact ⟨[G], by simp, .cons (hrun.line fun f hf => hgood f (by simp [hf])) .nil⟩
  | cons next rest ih =>
    intro cur parts G hrun hgood hpage
    have hnext := hgood next (by simp)
    have hnextPage := hpage next List.mem_cons_self
    rw [joinRow_cons]
    split_ifs with hjoin
    · simp only [Bool.and_eq_true] at hjoin
      obtain ⟨⟨hcur, hbox⟩, -⟩ := hjoin
      obtain ⟨groups, hflat, hlines⟩ := ih _ _ _
        (hrun.join (fun f hf => hgood f (by simp [hf])) hnext hnextPage hcur hbox)
        (fun f hf => hgood f (by simp only [List.mem_append, List.mem_cons] at hf ⊢; tauto))
        (fun f hf => hpage f (List.mem_cons_of_mem _ hf))
      exact ⟨groups, by simp [hflat], hlines⟩
    · obtain ⟨groups, hflat, hlines⟩ := ih next [next.text] [next] (Run.single hnext)
        (fun f hf => hgood f (by simp only [List.mem_append, List.mem_cons] at hf ⊢; tauto))
        (fun f hf => (hpage f (List.mem_cons_of_mem _ hf)).trans hnextPage.symm)
      exact ⟨G :: groups, by simp [hflat],
        .cons (hrun.line fun f hf => hgood f (by simp [hf])) hlines⟩

end Runs

/-- The lines of one row: its fragments left to right, joined (step 4). -/
def rowLines (n : Normalizer) (row : List Fragment) : List Line :=
  match row.mergeSort (fun x y => !y.leftOf x) with
  | first :: rest => n.joinRow first [first.text] rest
  | [] => []

theorem normalize_eq (n : Normalizer) (raw : List RawLine) :
    n.normalize raw = (n.rows (readingOrder n raw)).flatMap (rowLines n) := rfl

/-- The lines of a row join runs that together are the row's fragments; all are on its page. -/
theorem rowLines_joins (n : Normalizer) {corners : Fragment → List Point} {row : List Fragment}
    (hne : row ≠ []) (hgood : ∀ f ∈ row, f.Good corners) (hpage : ∀ f ∈ row, ∀ g ∈ row, f.page = g.page) :
    ∃ groups : List (List Fragment), groups.flatten.Perm row ∧
      List.Forall₂ (JoinsFragments corners) groups (rowLines n row) := by
  have hperm := List.mergeSort_perm row fun x y => !y.leftOf x
  unfold rowLines
  split
  · rename_i first rest hsort
    rw [hsort] at hperm
    have hmem : ∀ f ∈ first :: rest, f ∈ row := fun f hf => hperm.subset hf
    obtain ⟨groups, hflat, hlines⟩ := joinRow_joins n rest first [first.text] [first]
      (Run.single (hgood first (hmem first List.mem_cons_self)))
      (fun f hf => hgood f (hmem f (by simpa using hf)))
      (fun f hf => hpage f (hmem f (List.mem_cons_of_mem _ hf)) first (hmem first List.mem_cons_self))
    exact ⟨groups, by rw [hflat]; exact hperm, hlines⟩
  · rename_i hsort
    rw [hsort] at hperm
    exact absurd (List.Perm.nil_eq hperm).symm hne

/-- Lines of runs, row after row: their runs together are the rows' fragments. -/
theorem flatMap_joins {corners : Fragment → List Point} {F : List Fragment → List Line}
    (rows : List (List Fragment))
    (h : ∀ row ∈ rows, ∃ groups : List (List Fragment), groups.flatten.Perm row ∧
      List.Forall₂ (JoinsFragments corners) groups (F row)) :
    ∃ groups : List (List Fragment), groups.flatten.Perm rows.flatten ∧
      List.Forall₂ (JoinsFragments corners) groups (rows.flatMap F) := by
  induction rows with
  | nil => exact ⟨[], by simp, by simp⟩
  | cons row rows ih =>
    obtain ⟨gs, hperm, hlines⟩ := h row List.mem_cons_self
    obtain ⟨gs', hperm', hlines'⟩ := ih fun r hr => h r (List.mem_cons_of_mem _ hr)
    exact ⟨gs ++ gs', by simpa using hperm.append hperm', List.rel_append hlines hlines'⟩

/-- Each item of the second list is related to one of the first. -/
theorem exists_mem_of_forall₂ {α β : Type} {R : α → β → Prop} {as : List α} {bs : List β}
    (h : List.Forall₂ R as bs) {b : β} (hb : b ∈ bs) : ∃ a ∈ as, R a b := by
  induction h with
  | nil => simp at hb
  | cons hr _ ih =>
    rcases List.mem_cons.1 hb with rfl | hb
    · exact ⟨_, List.mem_cons_self, hr⟩
    · obtain ⟨a, ha, hra⟩ := ih hb
      exact ⟨a, List.mem_cons_of_mem _ ha, hra⟩

/-- A line joining part of a row is on the row's page. -/
theorem page_of_joins {corners : Fragment → List Point} {row : List Fragment}
    {groups : List (List Fragment)} {lines : List Line} (hperm : groups.flatten.Perm row)
    (hlines : List.Forall₂ (JoinsFragments corners) groups lines) :
    ∀ line ∈ lines, ∃ f ∈ row, f.page = line.page := by
  intro line hline
  obtain ⟨G, hG, hj⟩ := exists_mem_of_forall₂ hlines hline
  obtain ⟨f, hf⟩ := List.exists_mem_of_ne_nil _ hj.nonempty
  exact ⟨f, hperm.subset (List.mem_flatten_of_mem hG hf), hj.page f hf⟩

/-- Normalizing fragments: the lines join runs that together are the fragments, and their pages
never go down. -/
theorem normalize_joins_fragments (n : Normalizer) (raw : List RawLine) {corners : Fragment → List Point}
    (hgood : ∀ f ∈ n.fragments raw, f.Good corners) :
    (∃ groups : List (List Fragment), groups.flatten.Perm (n.fragments raw) ∧
      List.Forall₂ (JoinsFragments corners) groups (n.normalize raw)) ∧
    (n.normalize raw).Pairwise fun a b => a.page ≤ b.page := by
  rw [normalize_eq]
  have hperm := readingOrder_perm n raw
  have hflat := flatten_rows n (readingOrder n raw)
  set rows := n.rows (readingOrder n raw)
  have hrows := rows_onOnePage n (readingOrder n raw)
  have hmem : ∀ row ∈ rows, ∀ f ∈ row, f ∈ n.fragments raw := fun row hr f hf =>
    hperm.subset (hflat ▸ List.mem_flatten_of_mem hr hf)
  have hjoins : ∀ row ∈ rows, ∃ groups : List (List Fragment), groups.flatten.Perm row ∧
      List.Forall₂ (JoinsFragments corners) groups (rowLines n row) := fun row hr =>
    rowLines_joins n (hrows row hr).1 (fun f hf => hgood f (hmem row hr f hf)) (hrows row hr).2
  refine ⟨?_, List.pairwise_flatMap.2 ⟨?_, ?_⟩⟩
  · obtain ⟨groups, hgperm, hlines⟩ := flatMap_joins rows hjoins
    exact ⟨groups, hgperm.trans (hflat ▸ hperm), hlines⟩
  · -- within a row every line is on the row's page
    intro row hr
    obtain ⟨groups, hgperm, hlines⟩ := hjoins row hr
    refine List.pairwise_of_forall_mem_list fun x hx y hy => ?_
    obtain ⟨f, hf, hfx⟩ := page_of_joins hgperm hlines x hx
    obtain ⟨g, hg, hgy⟩ := page_of_joins hgperm hlines y hy
    rw [← hfx, ← hgy, (hrows row hr).2 f hf g hg]
  · -- rows come in reading order, so their pages never go down
    have hsorted := readingOrder_sorted n raw fun f hf => (hgood f hf).sane
    rw [← hflat, List.pairwise_flatten] at hsorted
    refine hsorted.2.imp_of_mem fun {r₁ r₂} hr₁ hr₂ hkey x hx y hy => ?_
    obtain ⟨groups₁, hperm₁, hlines₁⟩ := hjoins r₁ hr₁
    obtain ⟨groups₂, hperm₂, hlines₂⟩ := hjoins r₂ hr₂
    obtain ⟨f, hf, hfx⟩ := page_of_joins hperm₁ hlines₁ x hx
    obtain ⟨g, hg, hgy⟩ := page_of_joins hperm₂ hlines₂ y hy
    rw [← hfx, ← hgy]
    exact page_le_of_readingKey_le (hkey f hf g hg)

/-! ## Back to raw lines -/

/-- `line` is what normalizing makes of a group of kept raw lines, each with its report position:
their cleaned texts with single spaces, the least of their confidences (an absent one read as 1),
their page, and the rectangle spanning all their corners; a lone line without a box gives a line
without one. -/
structure Joins (group : List (RawLine × Nat)) (line : Line) : Prop where
  nonempty : group ≠ []
  text : line.text = " ".intercalate (group.map fun p => cleanText p.1.text)
  page : ∀ p ∈ group, p.1.page = line.page
  confidence : IsLeastOf line.confidence (group.map fun p => p.1.confidence.getD 1)
  box : (∃ p, group = [p] ∧ p.1.box = [] ∧ line.box = []) ∨
    ((∀ p ∈ group, p.1.box ≠ []) ∧
      ∃ r : Rect, r.Spans (group.flatMap fun p => p.1.box) ∧ line.box = r.polygon)

/-- A line that joins the fragments of raw lines joins the raw lines. -/
theorem Joins.of_fragments {corners : Fragment → List Point} {g : List (RawLine × Nat)} {line : Line}
    (hcorners : ∀ p ∈ g, corners (Fragment.ofRaw p) = p.1.box)
    (h : JoinsFragments corners (g.map Fragment.ofRaw) line) : Joins g line := by
  refine ⟨by simpa using h.nonempty, by rw [h.text, List.map_map]; rfl,
    fun p hp => h.page _ (List.mem_map_of_mem hp), by have hc := h.confidence; rwa [List.map_map] at hc, ?_⟩
  rcases h.box with ⟨f, hg, hb, hbox⟩ | ⟨hall, r, hs, hbox⟩
  · obtain ⟨p, rfl, rfl⟩ := List.map_eq_singleton_iff.1 hg
    have hnil : p.1.box = [] := by
      have hnone : p.1.box.bounds.isSome = false := hb
      by_contra hne
      rw [← ne_eq, ← bounds_isSome] at hne
      exact Bool.false_ne_true (hnone.symm.trans hne)
    exact .inl ⟨p, rfl, hnil, hbox⟩
  · have hflat : (g.map Fragment.ofRaw).flatMap corners = g.flatMap fun p => p.1.box := by
      rw [List.flatMap_map]
      exact List.flatMap_congr hcorners
    refine .inr ⟨fun p hp => (bounds_isSome _).1 (hall _ (List.mem_map_of_mem hp)), r, hflat ▸ hs, hbox⟩

/-- The raw line a fragment names by its report position, with that position. -/
def Fragment.source (raw : List RawLine) (f : Fragment) : RawLine × Nat :=
  (raw.getD f.index default, f.index)

/-- The corners of the raw line a fragment names. -/
def Fragment.corners (raw : List RawLine) (f : Fragment) : List Point := (f.source raw).1.box

theorem Fragment.source_ofRaw {raw : List RawLine} {p : RawLine × Nat} (hp : p ∈ raw.zipIdx) :
    (Fragment.ofRaw p).source raw = p := by
  have hget := List.mem_zipIdx_iff_getElem?.1 hp
  simp [Fragment.source, Fragment.ofRaw, List.getD_eq_getElem?_getD, hget]

section Kept

variable {n : Normalizer} {raw : List RawLine}

theorem mem_kept {p : RawLine × Nat} (hp : p ∈ raw.zipIdx.filter fun p => n.Keeps p.1) :
    n.Keeps p.1 ∧ p ∈ raw.zipIdx ∧ p.1 ∈ raw := by
  obtain ⟨hz, hk⟩ := List.mem_filter.1 hp
  exact ⟨by simpa using hk, hz, List.mem_of_getElem? (List.mem_zipIdx_iff_getElem?.1 hz)⟩

/-- The fragments of raw lines with finite corners and confidences are good, with the corners of
the lines they name. -/
theorem good_fragments (hfin : ∀ l ∈ raw, l.Finite) :
    ∀ f ∈ n.fragments raw, f.Good (Fragment.corners raw) := by
  rw [fragments_eq]
  intro f hf
  obtain ⟨p, hp, rfl⟩ := List.mem_map.1 hf
  obtain ⟨hk, hz, hraw⟩ := mem_kept hp
  have hcorners : (Fragment.ofRaw p).corners raw = p.1.box := by
    rw [Fragment.corners, Fragment.source_ofRaw hz]
  have hl := hfin p.1 hraw
  exact {
    clean := cleanText_clean _
    nonempty := hk.2
    confidence := hl.confidence
    spans := fun hb => by
      obtain ⟨r, hr⟩ := Option.isSome_iff_exists.1 hb
      rw [hcorners]
      simpa [Fragment.ofRaw, hr] using bounds_spans hr hl.1
    finite := fun _ => hcorners ▸ hl.1 }

/-- Groups of fragments that are the kept lines' give groups of the kept lines. -/
theorem regroup {G : List (List Fragment)} {lines : List Line}
    (hperm : G.flatten.Perm ((raw.zipIdx.filter fun p => n.Keeps p.1).map Fragment.ofRaw))
    (hlines : List.Forall₂ (JoinsFragments (Fragment.corners raw)) G lines) :
    (G.map (·.map (Fragment.source raw))).flatten.Perm (raw.zipIdx.filter fun p => n.Keeps p.1) ∧
      List.Forall₂ Joins (G.map (·.map (Fragment.source raw))) lines := by
  set kept := raw.zipIdx.filter fun p => n.Keeps p.1
  have hid : kept.map (Fragment.source raw ∘ Fragment.ofRaw) = kept :=
    (List.map_congr_left fun p hp => Fragment.source_ofRaw (mem_kept hp).2.1).trans (List.map_id kept)
  have hgperm : (G.map (·.map (Fragment.source raw))).flatten.Perm kept := by
    rw [← List.map_flatten, ← hid, ← List.map_map]
    exact hperm.map _
  -- each fragment of a group is the fragment of the kept line it names
  have hofRaw : ∀ H ∈ G, (H.map (Fragment.source raw)).map Fragment.ofRaw = H := by
    intro H hH
    rw [List.map_map]
    refine (List.map_congr_left fun f hf => ?_).trans (List.map_id H)
    obtain ⟨p, hp, rfl⟩ := List.mem_map.1 (hperm.subset (List.mem_flatten_of_mem hH hf))
    simp [Fragment.source_ofRaw (mem_kept hp).2.1]
  refine ⟨hgperm, ?_⟩
  rw [List.forall₂_map_left_iff]
  refine ((List.forall₂_and_left _ _).2 ⟨fun H hH => hH, hlines⟩).imp fun H line ⟨hH, hj⟩ => ?_
  have hcorners : ∀ p ∈ H.map (Fragment.source raw), (Fragment.ofRaw p).corners raw = p.1.box := by
    intro p hp
    have hk := hgperm.subset (List.mem_flatten_of_mem (List.mem_map_of_mem hH) hp)
    rw [Fragment.corners, Fragment.source_ofRaw (mem_kept hk).2.1]
  exact Joins.of_fragments hcorners ((hofRaw H hH).symm ▸ hj)

/-- A line joining kept lines has clean text that is not empty. -/
theorem Joins.text_clean {H : List (RawLine × Nat)} {line : Line} (hj : Joins H line)
    (hH : ∀ p ∈ H, n.Keeps p.1) : line.text ≠ "" ∧ cleanText line.text = line.text := by
  have hparts : ∀ t ∈ H.map fun p => cleanText p.1.text, Clean t ∧ t ≠ "" := by
    simp only [List.mem_map]
    rintro _ ⟨p, hp, rfl⟩
    exact ⟨cleanText_clean _, (hH p hp).2⟩
  rw [hj.text]
  exact ⟨intercalate_ne_empty (by simpa using hj.nonempty) fun t ht => (hparts t ht).2,
    cleanText_of_clean (Clean.intercalate hparts)⟩

end Kept

/-- Normalizing partitions the kept raw lines, each with its report position, into groups, one
per output line, each line joining its group; output pages never go down, and every output text
is clean and not empty. -/
theorem normalize_partitions_kept (n : Normalizer) (raw : List RawLine) (hfin : ∀ l ∈ raw, l.Finite) :
    ∃ groups : List (List (RawLine × Nat)),
      groups.flatten.Perm (raw.zipIdx.filter fun p => n.Keeps p.1) ∧
      List.Forall₂ Joins groups (n.normalize raw) ∧
      (n.normalize raw).Pairwise (fun a b => a.page ≤ b.page) ∧
      ∀ line ∈ n.normalize raw, line.text ≠ "" ∧ cleanText line.text = line.text := by
  obtain ⟨⟨G, hperm, hlines⟩, hpages⟩ := normalize_joins_fragments n raw (good_fragments hfin)
  rw [fragments_eq] at hperm
  obtain ⟨hgperm, hgroups⟩ := regroup hperm hlines
  refine ⟨_, hgperm, hgroups, hpages, fun line hline => ?_⟩
  obtain ⟨H, hH, hj⟩ := exists_mem_of_forall₂ hgroups hline
  exact hj.text_clean fun p hp => (mem_kept (hgperm.subset (List.mem_flatten_of_mem hH hp))).1

/-- Two fragments of a row, a line far to their right, and a line without a box on the next page. -/
theorem normalize_partitions_row_lines :
    let raw : List RawLine := [⟨"zur  Taube", Rect.polygon ⟨54, 99, 120, 109⟩, some 0.97, 1⟩,
      ⟨"Hotel", Rect.polygon ⟨10, 100, 55, 110⟩, some 0.99, 1⟩,
      ⟨"far away", Rect.polygon ⟨400, 100, 480, 110⟩, some 0.5, 1⟩, ⟨"Seite 2", [], none, 2⟩]
    (∀ l ∈ raw, l.Finite) ∧
      ∃ groups : List (List (RawLine × Nat)),
        groups.flatten.Perm (raw.zipIdx.filter fun p => Normalizer.default.Keeps p.1) ∧
        List.Forall₂ Joins groups (Normalizer.default.normalize raw) ∧
        (Normalizer.default.normalize raw).Pairwise (fun a b => a.page ≤ b.page) ∧
        ∀ line ∈ Normalizer.default.normalize raw, line.text ≠ "" ∧ cleanText line.text = line.text := by
  intro raw
  have hfin : ∀ l ∈ raw, l.Finite := by
    simp only [raw, List.mem_cons, List.not_mem_nil, or_false, forall_eq_or_imp, forall_eq,
      RawLine.Finite, Rect.polygon, Point.Finite, Option.mem_def, Option.some.injEq,
      forall_eq', IsEmpty.forall_iff, implies_true]
    decide
  exact ⟨hfin, normalize_partitions_kept Normalizer.default raw hfin⟩

end CreditExtraction.Ocr
