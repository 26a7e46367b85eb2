import Mathlib.Data.List.Nodup
import Mathlib.Data.List.SplitBy
import CreditExtraction.Proofs.Field.Ranking

/-!
# What `merge` chooses

`merge` sends every candidate through the type's mapper. For the candidates of each field
(`mappedTo`) it builds the field from the best of them, and it lists a field with none as
missing; the labels no field claims are reported sorted and without repeats.

Main statement, `merge_picks_best_candidates`: when candidates have distinct labels, no NaN
confidence and finite box corners,

* the fields of the result are the schema's fields that some candidate maps to, in schema
  order, each built from the one candidate that beats every other candidate of its field;
* the missing fields are the others, in schema order;
* the unmapped labels are strictly increasing and are exactly the labels that map to nothing;
* reordering the candidates changes nothing in the result.
-/

namespace CreditExtraction

/-! ## The candidates of a field -/

/-- The candidates whose label the type's mapper sends to a field name, scored, in order. -/
def mappedTo (dt : DocumentType) (lowered : List String) (cs : List Candidate) (name : String) :
    List Scored :=
  (cs.filter fun c => dt.mapper.map? c.label == some name).map (Scored.of lowered)

/-- The labels of the candidates that no field claims, in order. -/
def unmappedLabels (dt : DocumentType) (cs : List Candidate) : List String :=
  (cs.filter fun c => (dt.mapper.map? c.label).isNone).map (·.label)

section Groups

variable (dt : DocumentType) (lowered : List String)

theorem group_eq (cs : List Candidate) (name : String) :
    (((cs.filterMap (Sum.getRight? ∘ classify dt lowered)).filter (·.1 == name)).map (·.2)) =
      mappedTo dt lowered cs name := by
  induction cs with
  | nil => rfl
  | cons c cs ih =>
    simp only [mappedTo] at ih ⊢
    cases h : dt.mapper.map? c.label with
    | none => simp [classify, h, ih, Sum.getRight?]
    | some n => by_cases hn : n = name <;> simp [classify, h, ih, hn, Sum.getRight?]

theorem unmapped_eq (cs : List Candidate) :
    cs.filterMap (Sum.getLeft? ∘ classify dt lowered) = unmappedLabels dt cs := by
  induction cs with
  | nil => rfl
  | cons c cs ih =>
    simp only [unmappedLabels] at ih ⊢
    cases h : dt.mapper.map? c.label <;> simp [classify, h, ih, Sum.getLeft?]

/-- A field has candidates exactly when some candidate's label maps to its name. -/
theorem mappedTo_isEmpty (cs : List Candidate) (name : String) :
    (mappedTo dt lowered cs name).isEmpty = !cs.any fun c => dt.mapper.map? c.label == some name := by
  rw [mappedTo, List.isEmpty_map, Bool.eq_iff_iff]
  simp [List.isEmpty_iff, List.filter_eq_nil_iff]

theorem mem_mappedTo {cs : List Candidate} {name : String} {s : Scored} :
    s ∈ mappedTo dt lowered cs name ↔
      ∃ c ∈ cs, dt.mapper.map? c.label = some name ∧ s = Scored.of lowered c := by
  simp only [mappedTo, List.mem_map, List.mem_filter, beq_iff_eq]
  constructor
  · rintro ⟨c, ⟨hc, hmap⟩, rfl⟩
    exact ⟨c, hc, hmap, rfl⟩
  · rintro ⟨c, hc, hmap, rfl⟩
    exact ⟨c, ⟨hc, hmap⟩, rfl⟩

end Groups

/-- `merge` built from its groups: each field's entry comes from the candidates mapped to it. -/
theorem merge_eq (lines : List Ocr.Line) (out : Extraction) (dt : DocumentType) :
    merge lines out dt =
      let entries := dt.fields.map fun f =>
        fieldEntry lines f (mappedTo dt (loweredTexts lines) out.candidates f.name)
      { jobId := Uuid.nil, documentId := Uuid.nil, documentType := dt.name,
        fields := entries.filterMap Sum.getRight?,
        missing := entries.filterMap Sum.getLeft?,
        unmapped := dedupeSorted (unmappedLabels dt out.candidates) } := by
  simp only [merge, List.filterMap_map, group_eq, unmapped_eq]

section Projections

variable (lines : List Ocr.Line) (out : Extraction) (dt : DocumentType)

theorem merge_fields : (merge lines out dt).fields =
    (dt.fields.map fun f => fieldEntry lines f
      (mappedTo dt (loweredTexts lines) out.candidates f.name)).filterMap Sum.getRight? := by
  rw [merge_eq]

theorem merge_missing : (merge lines out dt).missing =
    (dt.fields.map fun f => fieldEntry lines f
      (mappedTo dt (loweredTexts lines) out.candidates f.name)).filterMap Sum.getLeft? := by
  rw [merge_eq]

theorem merge_unmapped :
    (merge lines out dt).unmapped = dedupeSorted (unmappedLabels dt out.candidates) := by
  rw [merge_eq]

end Projections

/-! ## Field entries -/

section Entries

variable (lines : List Ocr.Line) (groups : String → List Scored)

/-- The fields built are those with candidates, in schema order, each from the best of its
candidates. -/
theorem entries_fields (R : ExtractedField → SchemaField → Prop) (l : List SchemaField)
    (hR : ∀ f ∈ l, ∀ first rest, groups f.name = first :: rest →
      R (buildField f (best first rest) lines) f) :
    List.Forall₂ R ((l.map fun f => fieldEntry lines f (groups f.name)).filterMap Sum.getRight?)
      (l.filter fun f => !(groups f.name).isEmpty) := by
  induction l with
  | nil => exact .nil
  | cons f l ih =>
    have ih := ih fun f' hf' => hR f' (List.mem_cons_of_mem _ hf')
    rw [List.map_cons, List.filterMap_cons, List.filter_cons]
    cases hg : groups f.name with
    | nil => simpa [fieldEntry] using ih
    | cons first rest =>
      simpa [fieldEntry] using List.Forall₂.cons (hR f List.mem_cons_self first rest hg) ih

/-- The missing fields are those without candidates, in schema order. -/
theorem entries_missing (l : List SchemaField) :
    (l.map fun f => fieldEntry lines f (groups f.name)).filterMap Sum.getLeft? =
      (l.filter fun f => (groups f.name).isEmpty).map (·.name) := by
  induction l with
  | nil => rfl
  | cons f l ih =>
    rw [List.map_cons, List.filterMap_cons, List.filter_cons, ih]
    cases groups f.name <;> simp [fieldEntry]

end Entries

/-! ## Sorted labels without repeats -/

/-- `mergeSort` puts texts in order. -/
theorem mergeSort_sorted (xs : List String) : (xs.mergeSort (· ≤ ·)).Pairwise (· ≤ ·) := by
  have h : (xs.mergeSort (· ≤ ·)).Pairwise fun a b => decide (a ≤ b) = true :=
    List.pairwise_mergeSort
      (fun a b c hab hbc => by simp only [decide_eq_true_eq] at *; exact le_trans hab hbc)
      (fun a b => by simpa using le_total a b) xs
  simpa using h

/-- Texts in any order sort to one list. -/
theorem mergeSort_eq_of_perm {xs ys : List String} (h : xs.Perm ys) :
    xs.mergeSort (· ≤ ·) = ys.mergeSort (· ≤ ·) :=
  List.Perm.eq_of_pairwise (fun _ _ _ _ hab hba => le_antisymm hab hba)
    (mergeSort_sorted xs) (mergeSort_sorted ys)
    (((List.mergeSort_perm xs _).trans h).trans (List.mergeSort_perm ys _).symm)

/-- In a run of equal texts, every text is the first. -/
theorem eq_of_mem_run : ∀ {a : String} {rest : List String},
    (a :: rest).IsChain (fun x y => (x == y) = true) → ∀ y ∈ rest, y = a
  | _, [], _ => by simp
  | a, b :: rest, h => by
    rw [List.isChain_cons_cons] at h
    have hb : b = a := (beq_iff_eq.1 h.1).symm
    intro y hy
    rcases List.mem_cons.1 hy with rfl | hy
    · exact hb
    · exact (eq_of_mem_run h.2 y hy).trans hb

/-- The first texts of runs of equal texts are all the texts of the runs. -/
theorem mem_heads {G : List (List String)} (hne : [] ∉ G)
    (hruns : ∀ g ∈ G, g.IsChain fun x y => (x == y) = true) {x : String} :
    x ∈ G.filterMap List.head? ↔ x ∈ G.flatten := by
  rw [List.mem_filterMap, List.mem_flatten]
  constructor
  · rintro ⟨g, hg, hhead⟩
    exact ⟨g, hg, List.mem_of_mem_head? hhead⟩
  · rintro ⟨g, hg, hx⟩
    obtain ⟨a, r, rfl⟩ := List.exists_cons_of_ne_nil fun h => hne (h ▸ hg)
    refine ⟨a :: r, hg, ?_⟩
    rcases List.mem_cons.1 hx with rfl | hx
    · rfl
    · simp [eq_of_mem_run (hruns _ hg) x hx]

/-- The runs of equal texts of a sorted list start with strictly increasing texts. -/
theorem heads_isChain : ∀ (G : List (List String)), [] ∉ G →
    (∀ g ∈ G, g.IsChain fun x y => (x == y) = true) →
    G.IsChain (fun g g' => ∃ hg hg', (g.getLast hg == g'.head hg') = false) →
    G.flatten.Pairwise (· ≤ ·) → (G.filterMap List.head?).IsChain (· < ·)
  | [], _, _, _, _ => .nil
  | [] :: _, hne, _, _, _ => absurd List.mem_cons_self hne
  | [a :: _], _, _, _, _ => by simp
  | _ :: [] :: _, hne, _, _, _ => absurd (by simp) hne
  | (a :: r) :: (b :: r') :: G, hne, hruns, hbound, hsorted => by
    rw [List.isChain_cons_cons] at hbound
    obtain ⟨⟨_, _, hlast⟩, hbound⟩ := hbound
    have hab : a ≤ b := (List.pairwise_append.1 hsorted).2.2 a (by simp) b (by simp)
    -- the last text of the first run is its first, and it differs from the next run's first
    have hlast_eq : (a :: r).getLast (List.cons_ne_nil a r) = a := by
      rcases List.mem_cons.1 (List.getLast_mem (List.cons_ne_nil a r)) with h | h
      · exact h
      · exact eq_of_mem_run (hruns _ List.mem_cons_self) _ h
    have hne' : a ≠ b := by
      rintro rfl
      simp [hlast_eq] at hlast
    simp only [List.filterMap_cons, List.head?_cons, List.isChain_cons_cons]
    refine ⟨lt_of_le_of_ne hab hne', ?_⟩
    have := heads_isChain ((b :: r') :: G) (fun h => hne (List.mem_cons_of_mem _ h))
      (fun g hg => hruns g (List.mem_cons_of_mem _ hg)) hbound
      (List.pairwise_append.1 hsorted).2.1
    simpa using this

/-- `dedupeSorted` gives strictly increasing texts. -/
theorem dedupeSorted_pairwise (xs : List String) : (dedupeSorted xs).Pairwise (· < ·) := by
  have hsorted := mergeSort_sorted xs
  rw [← List.flatten_splitBy (· == ·) (xs.mergeSort (· ≤ ·))] at hsorted
  exact (heads_isChain _ (List.nil_notMem_splitBy _ _) (fun _ hg => List.isChain_of_mem_splitBy hg)
    (List.isChain_getLast_head_splitBy _ _) hsorted).pairwise

/-- `dedupeSorted` keeps every text and adds none. -/
theorem mem_dedupeSorted {xs : List String} {x : String} : x ∈ dedupeSorted xs ↔ x ∈ xs := by
  rw [dedupeSorted, mem_heads (List.nil_notMem_splitBy _ _)
    (fun _ hg => List.isChain_of_mem_splitBy hg), List.flatten_splitBy,
    (List.mergeSort_perm xs _).mem_iff]

/-- `dedupeSorted` does not depend on the order of its texts. -/
theorem dedupeSorted_perm {xs ys : List String} (h : xs.Perm ys) :
    dedupeSorted xs = dedupeSorted ys := by
  rw [dedupeSorted, dedupeSorted, mergeSort_eq_of_perm h]

/-! ## The winner of each field -/

/-- Some candidate's label maps to the field name. -/
def claims (dt : DocumentType) (cs : List Candidate) (name : String) : Bool :=
  cs.any fun c => dt.mapper.map? c.label == some name

/-- `c` is the candidate of field `name` that beats every other candidate of the field, and is
beaten by none of them. -/
def Wins (dt : DocumentType) (lowered : List String) (cs : List Candidate) (name : String)
    (c : Candidate) : Prop :=
  c ∈ cs ∧ dt.mapper.map? c.label = some name ∧
    ∀ c' ∈ cs, dt.mapper.map? c'.label = some name → c' ≠ c →
      (Scored.of lowered c).beats (Scored.of lowered c') = true ∧
        (Scored.of lowered c').beats (Scored.of lowered c) = false

theorem buildField_name (f : SchemaField) (w : Scored) (lines : List Ocr.Line) :
    (buildField f w lines).name = f.name := rfl

/-- A field's entry depends on its candidates only up to order, when they are sane and no two
of them share a rank. -/
theorem fieldEntry_perm (lines : List Ocr.Line) (f : SchemaField) {g g' : List Scored}
    (hp : g.Perm g') (hsane : ∀ s ∈ g, s.Sane)
    (hinj : ∀ x ∈ g, ∀ y ∈ g, x.rank = y.rank → x = y) :
    fieldEntry lines f g = fieldEntry lines f g' := by
  match g, g', hp with
  | [], _, hp => rw [List.nil_perm.1 hp]
  | _ :: _, [], hp => exact absurd (List.perm_nil.1 hp) (List.cons_ne_nil _ _)
  | first :: rest, first' :: rest', hp =>
    -- both runs of `best` end on a candidate of least rank of the same candidates
    obtain ⟨hmem, hle⟩ := best_spec rest first hsane
    obtain ⟨hmem', hle'⟩ := best_spec rest' first' fun s hs => hsane s (hp.mem_iff.2 hs)
    have hmem'' := hp.mem_iff.2 hmem'
    have hrank := rank_eq_of_least hmem hmem'' hle fun s hs => hle' s (hp.mem_iff.1 hs)
    simp only [fieldEntry, hinj _ hmem _ hmem'' hrank]

section Winners

variable (dt : DocumentType) (lowered : List String) {cs : List Candidate}
  (hlabels : (cs.map (·.label)).Nodup)
  (hconf : ∀ c ∈ cs, ∀ x ∈ c.confidence, x.isNaN = false)
  (hbox : ∀ c ∈ cs, ∀ pt ∈ c.box, pt.x.isFinite = true ∧ pt.y.isFinite = true)

include hconf hbox in
theorem mappedTo_sane (name : String) : ∀ s ∈ mappedTo dt lowered cs name, s.Sane := by
  intro s hs
  obtain ⟨c, hc, _, rfl⟩ := (mem_mappedTo dt lowered).1 hs
  exact Scored.of_sane lowered c (hconf c hc) (hbox c hc)

include hlabels in
/-- Candidates with distinct labels have distinct ranks. -/
theorem mappedTo_rank_inj (name : String) :
    ∀ x ∈ mappedTo dt lowered cs name, ∀ y ∈ mappedTo dt lowered cs name,
      x.rank = y.rank → x = y := by
  intro x hx y hy h
  obtain ⟨c, hc, _, rfl⟩ := (mem_mappedTo dt lowered).1 hx
  obtain ⟨c', hc', _, rfl⟩ := (mem_mappedTo dt lowered).1 hy
  rw [List.inj_on_of_nodup_map hlabels hc hc' (Scored.label_eq_of_rank_eq h)]

include hlabels hconf hbox in
/-- The best of a field's candidates is the candidate that wins the field. -/
theorem best_wins {name : String} {first : Scored} {rest : List Scored}
    (hg : mappedTo dt lowered cs name = first :: rest) :
    ∃ c, Wins dt lowered cs name c ∧ best first rest = Scored.of lowered c := by
  have hsane := mappedTo_sane dt lowered hconf hbox name
  rw [hg] at hsane
  obtain ⟨hmem, hle⟩ := best_spec rest first hsane
  rw [← hg] at hmem hle
  obtain ⟨c, hc, hmap, heq⟩ := (mem_mappedTo dt lowered).1 hmem
  refine ⟨c, ⟨hc, hmap, fun c' hc' hmap' hne => ?_⟩, heq⟩
  have hmem' : Scored.of lowered c' ∈ mappedTo dt lowered cs name :=
    (mem_mappedTo dt lowered).2 ⟨c', hc', hmap', rfl⟩
  -- the winner's rank is at most the other's, and not equal since their labels differ
  have hne' : (Scored.of lowered c).rank ≠ (Scored.of lowered c').rank := fun h =>
    hne (List.inj_on_of_nodup_map hlabels hc hc' (Scored.label_eq_of_rank_eq h)).symm
  have hlt : (Scored.of lowered c).rank < (Scored.of lowered c').rank :=
    lt_of_le_of_ne (heq ▸ hle _ hmem') hne'
  have hs := Scored.of_sane lowered c (hconf c hc) (hbox c hc)
  have hs' := Scored.of_sane lowered c' (hconf c' hc') (hbox c' hc')
  refine ⟨(Scored.beats_iff hs hs').2 hlt, ?_⟩
  rw [← Bool.not_eq_true, Scored.beats_iff hs' hs]
  exact not_lt.2 hlt.le

end Winners

/-! ## Reordering the candidates -/

theorem mappedTo_perm (dt : DocumentType) (lowered : List String) {cs cs' : List Candidate}
    (hp : cs.Perm cs') (name : String) :
    (mappedTo dt lowered cs name).Perm (mappedTo dt lowered cs' name) :=
  (hp.filter _).map _

theorem unmappedLabels_perm (dt : DocumentType) {cs cs' : List Candidate} (hp : cs.Perm cs') :
    (unmappedLabels dt cs).Perm (unmappedLabels dt cs') :=
  (hp.filter _).map _

/-! ## What `merge` returns -/

/-- What `merge lines out dt` returns, field by field. -/
structure SelectsBest (lines : List Ocr.Line) (out : Extraction) (dt : DocumentType) : Prop where
  /-- The fields built are the claimed fields in schema order, each from its winner. -/
  fields_win : List.Forall₂
    (fun x f => ∃ c, Wins dt (loweredTexts lines) out.candidates f.name c ∧
      x = buildField f (Scored.of (loweredTexts lines) c) lines)
    (merge lines out dt).fields (dt.fields.filter fun f => claims dt out.candidates f.name)
  /-- The missing fields are the others, in schema order. -/
  missing_eq : (merge lines out dt).missing =
    (dt.fields.filter fun f => !claims dt out.candidates f.name).map (·.name)
  /-- Between them, the fields built and the missing ones name every field of the schema once. -/
  names_perm : ((merge lines out dt).fields.map (·.name) ++ (merge lines out dt).missing).Perm
    (dt.fields.map (·.name))
  unmapped_sorted : (merge lines out dt).unmapped.Pairwise (· < ·)
  mem_unmapped : ∀ l, l ∈ (merge lines out dt).unmapped ↔
    ∃ c ∈ out.candidates, c.label = l ∧ dt.mapper.map? l = none
  /-- The order of the candidates does not matter. -/
  perm_invariant : ∀ cs, cs.Perm out.candidates →
    merge lines { out with candidates := cs } dt = merge lines out dt

section Merge

variable (lines : List Ocr.Line) (out : Extraction) (dt : DocumentType)

theorem filter_mappedTo_nonempty :
    (fun f : SchemaField => !(mappedTo dt (loweredTexts lines) out.candidates f.name).isEmpty) =
      fun f => claims dt out.candidates f.name := by
  funext f
  rw [mappedTo_isEmpty, Bool.not_not, claims]

variable (hlabels : (out.candidates.map (·.label)).Nodup)
  (hconf : ∀ c ∈ out.candidates, ∀ x ∈ c.confidence, x.isNaN = false)
  (hbox : ∀ c ∈ out.candidates, ∀ pt ∈ c.box, pt.x.isFinite = true ∧ pt.y.isFinite = true)

include hlabels hconf hbox in
theorem merge_fields_win : List.Forall₂
    (fun x f => ∃ c, Wins dt (loweredTexts lines) out.candidates f.name c ∧
      x = buildField f (Scored.of (loweredTexts lines) c) lines)
    (merge lines out dt).fields (dt.fields.filter fun f => claims dt out.candidates f.name) := by
  rw [merge_fields, ← filter_mappedTo_nonempty]
  refine entries_fields lines _ _ dt.fields fun f _ first rest hg => ?_
  obtain ⟨c, hwin, hbest⟩ := best_wins dt _ hlabels hconf hbox hg
  exact ⟨c, hwin, by rw [hbest]⟩

theorem merge_missing_eq : (merge lines out dt).missing =
    (dt.fields.filter fun f => !claims dt out.candidates f.name).map (·.name) := by
  rw [merge_missing, entries_missing]
  congr 2
  funext f
  rw [mappedTo_isEmpty, claims]

theorem names_of_forall₂ {xs : List ExtractedField} {fs : List SchemaField}
    {R : ExtractedField → SchemaField → Prop} (h : List.Forall₂ R xs fs)
    (hR : ∀ x f, R x f → x.name = f.name) : xs.map (·.name) = fs.map (·.name) := by
  induction h with
  | nil => rfl
  | cons hxf _ ih => rw [List.map_cons, List.map_cons, hR _ _ hxf, ih]

theorem mem_unmappedLabels {cs : List Candidate} {l : String} :
    l ∈ unmappedLabels dt cs ↔ ∃ c ∈ cs, c.label = l ∧ dt.mapper.map? l = none := by
  simp only [unmappedLabels, List.mem_map, List.mem_filter, Option.isNone_iff_eq_none]
  constructor
  · rintro ⟨c, ⟨hc, hnone⟩, rfl⟩
    exact ⟨c, hc, rfl, hnone⟩
  · rintro ⟨c, hc, rfl, hnone⟩
    exact ⟨c, ⟨hc, hnone⟩, rfl⟩

include hlabels hconf hbox in
theorem merge_perm {cs : List Candidate} (hp : cs.Perm out.candidates) :
    merge lines { out with candidates := cs } dt = merge lines out dt := by
  -- each field's entry is the same for both orders, and so are the unmapped labels
  have hentry : ∀ f ∈ dt.fields,
      fieldEntry lines f (mappedTo dt (loweredTexts lines) cs f.name) =
        fieldEntry lines f (mappedTo dt (loweredTexts lines) out.candidates f.name) :=
    fun f _ => (fieldEntry_perm lines f (mappedTo_perm dt _ hp.symm f.name)
      (mappedTo_sane dt _ hconf hbox f.name) (mappedTo_rank_inj dt _ hlabels f.name)).symm
  rw [merge_eq, merge_eq]
  simp only [List.map_congr_left hentry, dedupeSorted_perm (unmappedLabels_perm dt hp)]

end Merge

/-- `merge` builds each field the type's mapper claims from the one candidate that beats every
other candidate of the field, lists the other fields as missing, reports the labels no field
claims sorted and once each, and does not depend on the order of the candidates, when
candidates have distinct labels, confidences that are not NaN and boxes with finite corners. -/
theorem merge_picks_best_candidates (lines : List Ocr.Line) (out : Extraction) (dt : DocumentType)
    (hlabels : (out.candidates.map (·.label)).Nodup)
    (hconf : ∀ c ∈ out.candidates, ∀ x ∈ c.confidence, x.isNaN = false)
    (hbox : ∀ c ∈ out.candidates, ∀ pt ∈ c.box, pt.x.isFinite = true ∧ pt.y.isFinite = true) :
    SelectsBest lines out dt := by
  have hfields := merge_fields_win lines out dt hlabels hconf hbox
  have hnames := names_of_forall₂ hfields fun x f ⟨_, _, hx⟩ => hx ▸ buildField_name ..
  refine ⟨hfields, merge_missing_eq lines out dt, ?_, ?_, ?_, fun cs hp => merge_perm lines out dt hlabels hconf hbox hp⟩
  · rw [hnames, merge_missing_eq, ← List.map_append]
    exact (List.filter_append_perm _ _).map _
  · rw [merge_unmapped]
    exact dedupeSorted_pairwise _
  · intro l
    rw [merge_unmapped, mem_dedupeSorted, mem_unmappedLabels]

/-- Four offers for a credit request: three name its amount, under different labels, and one
names nothing of the type. -/
def rivalOffers : List Candidate :=
  [⟨"Betrag", "1.200", none, [], none, "label_value"⟩, ⟨"Summe", "1.250", none, [], some 1, "llm"⟩,
    ⟨"Gesamtbetrag", "1.200", none, [], none, "llm"⟩, ⟨"IBAN", "DE00", none, [], none, "llm"⟩]

/-- Of the three offers that name the amount, the merge picks the best one. -/
theorem merge_picks_among_rival_offers :
    (rivalOffers.map (·.label)).Nodup ∧
      (∀ c ∈ rivalOffers, ∀ x ∈ c.confidence, x.isNaN = false) ∧
      (∀ c ∈ rivalOffers, ∀ pt ∈ c.box, pt.x.isFinite = true ∧ pt.y.isFinite = true) ∧
      SelectsBest [] ⟨rivalOffers, [], "", none⟩
        { (default : DocumentType) with
          fields := [{ (default : SchemaField) with name := "amount" },
            { (default : SchemaField) with name := "term" }],
          mapper := ⟨[("Betrag", "amount"), ("Summe", "amount"), ("Gesamtbetrag", "amount")], []⟩ } := by
  have hlabels : (rivalOffers.map (·.label)).Nodup := by simp [rivalOffers]
  have hconf : ∀ c ∈ rivalOffers, ∀ x ∈ c.confidence, x.isNaN = false := by simp [rivalOffers]
  have hbox : ∀ c ∈ rivalOffers, ∀ pt ∈ c.box, pt.x.isFinite = true ∧ pt.y.isFinite = true := by
    simp [rivalOffers]
  exact ⟨hlabels, hconf, hbox, merge_picks_best_candidates _ _ _ hlabels hconf hbox⟩

end CreditExtraction
