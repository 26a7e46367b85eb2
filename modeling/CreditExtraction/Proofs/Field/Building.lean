import CreditExtraction.Field.Merge

/-!
# Building a field from its winning candidate

`buildField` turns the candidate that won a field into the extracted field. This module states
what it does for every candidate, field rule and list of lines:

* the raw text is the candidate's value, trimmed;
* a candidate with a box keeps its box, page and confidence; one without takes the box, page
  and confidence of the first line that holds its value (`Ocr.Line.Holds`: the line's text
  contains the trimmed value, case ignored, and that value is not blank); with no such line it
  keeps its confidence and page and has no box;
* the validation outcome lists each violated check once, in the order type, pattern, range,
  with one message per flag, and is valid exactly when nothing is flagged (`Validated`).

Main statement: `buildField_places_and_validates`. A blank value is held by no line, even though
every text contains the empty text: `blank_value_takes_no_line` is the input where that shows.
-/

namespace CreditExtraction

open Text

/-! ## Substring search -/

theorem findFrom_isSome_iff (needle : List Char) :
    ∀ (hay : List Char) (i : Nat), (findFrom needle hay i).isSome ↔ needle <:+: hay
  | [], i => by
    cases needle <;> simp [findFrom]
  | c :: rest, i => by
    rw [findFrom, List.infix_cons_iff, ← findFrom_isSome_iff needle rest (i + 1)]
    by_cases hp : needle.isPrefixOf (c :: rest) = true
    · simp [hp, List.isPrefixOf_iff_prefix.1 hp]
    · have : ¬ needle <+: c :: rest := fun h => hp (List.isPrefixOf_iff_prefix.2 h)
      simp [hp, this]

/-- A text occurs in another exactly when its characters are an infix of the other's. -/
theorem containsText_iff (hay needle : String) :
    containsText hay needle = true ↔ needle.toList <:+: hay.toList := by
  simp [containsText, occursIn, indexOf?, findFrom_isSome_iff]

/-! ## The line that holds a value -/

/-- A line holds a value when the value, trimmed, is not blank and occurs in the line's text,
case ignored. -/
def Ocr.Line.Holds (l : Ocr.Line) (value : String) : Prop :=
  CharClass.trimSpace value ≠ "" ∧
    (CharClass.lowerString (CharClass.trimSpace value)).toList <:+: (CharClass.lowerString l.text).toList

theorem lowerString_eq_empty {s : String} : CharClass.lowerString s = "" ↔ s = "" :=
  String.map_eq_empty

/-- `findLine` searches the lowered lines for the first one that holds the value. -/
theorem findLine_loweredTexts (lines : List Ocr.Line) (value : String) :
    findLine (loweredTexts lines) value =
      lines.findIdx? fun l => decide (CharClass.trimSpace value ≠ "") &&
        containsText (CharClass.lowerString l.text) (CharClass.lowerString (CharClass.trimSpace value)) := by
  unfold findLine findLine.firstIndexWhere' loweredTexts
  by_cases hv : CharClass.trimSpace value = ""
  · simp only [hv, ne_eq, not_true_eq_false, decide_false, Bool.false_and]
    simp only [lowerString_eq_empty.2 rfl, beq_self_eq_true, if_true]
    exact (List.findIdx?_eq_none_iff.2 fun _ _ => rfl).symm
  · have hne : CharClass.lowerString (CharClass.trimSpace value) ≠ "" :=
      mt lowerString_eq_empty.1 hv
    have hfind : ∀ (ls : List String) (p : String → Bool),
        (ls.zipIdx.find? fun x => p x.1).map (·.2) = ls.findIdx? p := fun ls p => by
      rw [List.findIdx?_eq_fst_find?_zipIdx]
    simp only [hne, beq_iff_eq, if_false]
    rw [hfind _ (containsText · (CharClass.lowerString (CharClass.trimSpace value))),
      List.findIdx?_map]
    congr 1
    funext l
    simp [hv]

theorem holds_iff (l : Ocr.Line) (value : String) :
    l.Holds value ↔ (decide (CharClass.trimSpace value ≠ "") &&
      containsText (CharClass.lowerString l.text) (CharClass.lowerString (CharClass.trimSpace value))) = true := by
  simp [Ocr.Line.Holds, containsText_iff]

/-- The line found for a value is the first line that holds it. -/
theorem findLine_eq_some_iff {lines : List Ocr.Line} {value : String} {i : Nat} {l : Ocr.Line}
    (hl : lines[i]? = some l) :
    findLine (loweredTexts lines) value = some i ↔
      l.Holds value ∧ ∀ j < i, ∀ l', lines[j]? = some l' → ¬ l'.Holds value := by
  rw [findLine_loweredTexts, List.findIdx?_eq_some_iff_getElem]
  obtain ⟨hi, rfl⟩ := List.getElem?_eq_some_iff.1 hl
  simp only [holds_iff, hi, exists_true_left, Bool.not_eq_true]
  refine and_congr_right fun _ => ⟨fun h j hj l' hl' => ?_, fun h j hj => ?_⟩
  · obtain ⟨hj', rfl⟩ := List.getElem?_eq_some_iff.1 hl'
    simpa using h j hj
  · simpa using h j hj _ (List.getElem?_eq_getElem _)

theorem findLine_eq_none_iff {lines : List Ocr.Line} {value : String} :
    findLine (loweredTexts lines) value = none ↔ ∀ l ∈ lines, ¬ l.Holds value := by
  rw [findLine_loweredTexts, List.findIdx?_eq_none_iff]
  simp [holds_iff]

/-! ## Where the field is placed -/

section Placement

variable (f : SchemaField) (w : Scored) (lines : List Ocr.Line)

theorem buildField_raw : (buildField f w lines).raw = CharClass.trimSpace w.candidate.value := rfl

theorem buildField_value :
    (buildField f w lines).value = (f.rule.check (buildField f w lines).raw).1 := by
  simp only [buildField]

theorem buildField_validation :
    (buildField f w lines).validation = (f.rule.check (buildField f w lines).raw).2 := by
  simp only [buildField]

theorem buildField_of_box (h : w.candidate.box ≠ []) :
    (buildField f w lines).box = w.candidate.box ∧ (buildField f w lines).page = w.candidate.page ∧
      (buildField f w lines).confidence = w.confidence := by
  simp [buildField, h]

theorem buildField_of_line {l : Ocr.Line} (h : w.candidate.box = [])
    (hl : w.line.bind (lines[·]?) = some l) :
    (buildField f w lines).box = l.box ∧ (buildField f w lines).page = some l.page ∧
      (buildField f w lines).confidence = l.confidence := by
  simp [buildField, h, hl]

theorem buildField_of_no_line (h : w.candidate.box = []) (hl : w.line.bind (lines[·]?) = none) :
    (buildField f w lines).box = [] ∧ (buildField f w lines).page = w.candidate.page ∧
      (buildField f w lines).confidence = w.confidence := by
  simp [buildField, h, hl]

end Placement

/-! ## How the raw text is checked -/

/-- A list of issues raises the flag alone when the condition holds, and nothing otherwise. -/
def FlagsIf (issues : List (Flag × String)) (flag : Flag) (cond : Prop) : Prop :=
  (cond → issues.map (·.1) = [flag]) ∧ (¬ cond → issues = [])

theorem FlagsIf.mem_iff {issues : List (Flag × String)} {flag : Flag} {cond : Prop}
    (h : FlagsIf issues flag cond) : flag ∈ issues.map (·.1) ↔ cond := by
  by_cases hc : cond
  · simp [h.1 hc, hc]
  · simp [h.2 hc, hc]

theorem FlagsIf.not_mem {issues : List (Flag × String)} {flag : Flag} {cond : Prop}
    (h : FlagsIf issues flag cond) (other : Flag) (hne : other ≠ flag) :
    other ∉ issues.map (·.1) := by
  by_cases hc : cond
  · simp [h.1 hc, hne]
  · simp [h.2 hc]

theorem FlagsIf.congr {issues : List (Flag × String)} {flag : Flag} {cond cond' : Prop}
    (h : FlagsIf issues flag cond) (hc : cond ↔ cond') : FlagsIf issues flag cond' :=
  ⟨fun c => h.1 (hc.2 c), fun c => h.2 (mt hc.1 c)⟩

theorem FlagsIf.sublist {issues : List (Flag × String)} {flag : Flag} {cond : Prop}
    (h : FlagsIf issues flag cond) : (issues.map (·.1)).Sublist [flag] := by
  by_cases hc : cond
  · simp [h.1 hc]
  · simp [h.2 hc]

/-- A number lies outside a rule's bounds: below its minimum or above its maximum. -/
def Rule.OutOfBounds (rule : Rule) (v : Float) : Prop :=
  (∃ lo, rule.min = some lo ∧ v < lo) ∨ (∃ hi, rule.max = some hi ∧ v > hi)

theorem aboveMax_flagsIf (v : Float) (max : Option Float) :
    FlagsIf (Rule.check.aboveMax v max) .outOfRange (∃ hi, max = some hi ∧ v > hi) := by
  cases max with
  | none => simp [FlagsIf, Rule.check.aboveMax]
  | some hi => by_cases h : v > hi <;> simp [FlagsIf, Rule.check.aboveMax, h]

/-- The outcome of a check is the issues of the type, the pattern and the range, in this order,
each raising its flag exactly when its check fails. -/
theorem check_issues (rule : Rule) (raw : String) :
    ∃ ty pat rng : List (Flag × String),
      rule.check raw = ((coerce raw rule.type rule.decimalComma).toOption,
        ⟨(ty ++ pat ++ rng).isEmpty, (ty ++ pat ++ rng).map (·.1),
          "; ".intercalate ((ty ++ pat ++ rng).map (·.2))⟩) ∧
      FlagsIf ty .typeInvalid (∃ e, coerce raw rule.type rule.decimalComma = .error e) ∧
      FlagsIf pat .patternInvalid (∃ re, rule.pattern = some re ∧ re.matches raw = false) ∧
      FlagsIf rng .outOfRange
        (∃ v, coerce raw rule.type rule.decimalComma = .ok (.number v) ∧ rule.OutOfBounds v) := by
  -- the three issue lists are the ones `Rule.check` builds; each is settled by its own split
  refine ⟨_, _, _, rfl, ?_, ?_, ?_⟩
  · -- the type: an issue exactly when the text does not read as the type
    split
    · rename_i e he
      simp [FlagsIf, he]
    · rename_i v hv
      simp [FlagsIf, hv]
  · -- the pattern: an issue exactly when there is one and it does not match
    split
    · rename_i re hre
      cases hm : re.matches raw <;> simp [FlagsIf, hre, hm]
    · rename_i hre
      simp [FlagsIf, hre]
  · -- the range: only a number is compared with the bounds, the minimum first
    split
    · rename_i v hv
      have hcond : rule.OutOfBounds v ↔
          ∃ v', coerce raw rule.type rule.decimalComma = .ok (.number v') ∧ rule.OutOfBounds v' := by
        constructor
        · exact fun h => ⟨v, hv, h⟩
        · rintro ⟨v', hv', h⟩
          rw [hv] at hv'
          cases hv'
          exact h
      refine FlagsIf.congr ?_ hcond
      split
      · rename_i lo hmin
        by_cases hlt : v < lo
        · simp [FlagsIf, Rule.OutOfBounds, hlt, hmin]
        · rw [if_neg hlt]
          exact (aboveMax_flagsIf v rule.max).congr (by simp [Rule.OutOfBounds, hmin, hlt])
      · rename_i hmin
        exact (aboveMax_flagsIf v rule.max).congr (by simp [Rule.OutOfBounds, hmin])
    · rename_i hnot
      exact ⟨fun ⟨v, hv, _⟩ => absurd hv (hnot v), fun _ => rfl⟩

/-- How a raw text fares under a rule, as the schema states it: each failed check is flagged
once, in the order type, pattern, range; the value is the text read as the type, none when it
does not read; the outcome is valid exactly without flags; one message stands for each flag. -/
structure Validated (rule : Rule) (raw : String) (value : Option FieldValue) (o : Outcome) :
    Prop where
  ordered : o.flags.Sublist [.typeInvalid, .patternInvalid, .outOfRange]
  typeInvalid : .typeInvalid ∈ o.flags ↔ ∃ e, coerce raw rule.type rule.decimalComma = .error e
  patternInvalid : .patternInvalid ∈ o.flags ↔ ∃ re, rule.pattern = some re ∧ re.matches raw = false
  outOfRange : .outOfRange ∈ o.flags ↔
    ∃ v, coerce raw rule.type rule.decimalComma = .ok (.number v) ∧ rule.OutOfBounds v
  value : value = (coerce raw rule.type rule.decimalComma).toOption
  valid : o.valid = true ↔ o.flags = []
  message : ∃ msgs : List String, msgs.length = o.flags.length ∧ o.message = "; ".intercalate msgs

theorem check_validated (rule : Rule) (raw : String) :
    Validated rule raw (rule.check raw).1 (rule.check raw).2 := by
  obtain ⟨ty, pat, rng, hcheck, hty, hpat, hrng⟩ := check_issues rule raw
  rw [hcheck]
  refine ⟨?_, ?_, ?_, ?_, rfl, ?_, ⟨_, by simp, rfl⟩⟩
  · simpa using (hty.sublist.append hpat.sublist).append hrng.sublist
  all_goals simp only [List.map_append, List.mem_append]
  · simp [hty.mem_iff, hpat.not_mem .typeInvalid (by decide), hrng.not_mem .typeInvalid (by decide)]
  · simp [hty.not_mem .patternInvalid (by decide), hpat.mem_iff,
      hrng.not_mem .patternInvalid (by decide)]
  · simp [hty.not_mem .outOfRange (by decide), hpat.not_mem .outOfRange (by decide), hrng.mem_iff]
  · simp [List.isEmpty_iff]

/-! ## The field built from a winner -/

/-- The field built from a candidate: its raw text is the trimmed value; it is placed by the
candidate's own box, else by the first line holding the value, else nowhere, with the page and
confidence of whatever placed it; and its value and outcome are the rule's verdict on the raw
text. -/
theorem buildField_places_and_validates (f : SchemaField) (c : Candidate) (lines : List Ocr.Line) :
    let e := buildField f (Scored.of (loweredTexts lines) c) lines
    e.raw = CharClass.trimSpace c.value ∧
    (c.box ≠ [] →
      e.box = c.box ∧ e.page = c.page ∧ e.confidence = c.confidence.getD defaultConfidence) ∧
    (c.box = [] → ∀ (i : Nat) (l : Ocr.Line), lines[i]? = some l → l.Holds c.value →
      (∀ j < i, ∀ l' : Ocr.Line, lines[j]? = some l' → ¬ l'.Holds c.value) →
      e.box = l.box ∧ e.page = some l.page ∧ e.confidence = l.confidence) ∧
    (c.box = [] → (∀ l ∈ lines, ¬ l.Holds c.value) →
      e.box = [] ∧ e.page = c.page ∧ e.confidence = c.confidence.getD defaultConfidence) ∧
    Validated f.rule e.raw e.value e.validation := by
  intro e
  refine ⟨rfl, buildField_of_box f (Scored.of (loweredTexts lines) c) lines, fun h i l hl hholds hfirst => ?_,
    fun h hnone => ?_, ?_⟩
  · have hfind : findLine (loweredTexts lines) c.value = some i :=
      (findLine_eq_some_iff hl).2 ⟨hholds, hfirst⟩
    exact buildField_of_line f _ lines h (by simp [Scored.of, hfind, hl])
  · have hfind : findLine (loweredTexts lines) c.value = none := findLine_eq_none_iff.2 hnone
    exact buildField_of_no_line f _ lines h (by simp [Scored.of, hfind])
  · rw [buildField_value, buildField_validation]
    exact check_validated f.rule _

/-- A candidate without a box whose value is the text of the only line takes that line's page
and confidence. -/
theorem buildField_takes_line_on_taube :
    let lines : List Ocr.Line := [⟨"Taube", [], 0.98, 2⟩]
    let c : Candidate := ⟨"Firmenname", "Taube", some 0.4, [], none, ""⟩
    let e := buildField ⟨"company", "", [], Rule.plain, false⟩ (Scored.of (loweredTexts lines) c) lines
    e.page = some 2 ∧ e.confidence = 0.98 := by
  intro lines c e
  have htrim : CharClass.trimSpace "Taube" = "Taube" := by decide
  have hholds : (⟨"Taube", [], 0.98, 2⟩ : Ocr.Line).Holds c.value :=
    ⟨by decide, by simp only [c, htrim]; exact List.infix_refl _⟩
  obtain ⟨-, -, hline, -⟩ := buildField_places_and_validates ⟨"company", "", [], Rule.plain, false⟩ c lines
  obtain ⟨-, hpage, hconf⟩ := hline rfl 0 _ rfl hholds (fun j hj => absurd hj (Nat.not_lt_zero j))
  exact ⟨hpage, hconf⟩

/-- Every text contains the empty text, yet a blank value takes no line: a candidate with an
empty value and no box ends without a box and without a page, though a boxed line exists. -/
theorem blank_value_takes_no_line :
    let line : Ocr.Line := ⟨"Hotel", [⟨1, 1⟩, ⟨3, 1⟩, ⟨3, 2⟩, ⟨1, 2⟩], 0.9, 2⟩
    let c : Candidate := ⟨"a", "", none, [], none, ""⟩
    let e := buildField ⟨"a", "", [], Rule.plain, false⟩ (Scored.of (loweredTexts [line]) c) [line]
    c.value.toList <:+: line.text.toList ∧ e.box = [] ∧ e.box ≠ line.box ∧ e.page = none := by
  intro line c e
  have hnone : findLine (loweredTexts [line]) c.value = none :=
    findLine_eq_none_iff.2 fun _ _ h => h.1 (by decide)
  obtain ⟨hbox, hpage, -⟩ := buildField_of_no_line ⟨"a", "", [], Rule.plain, false⟩
    (Scored.of (loweredTexts [line]) c) [line] rfl (by simp [Scored.of, hnone])
  exact ⟨List.nil_infix, hbox, by rw [hbox]; simp [line], hpage⟩

end CreditExtraction
