import Mathlib
import CreditExtraction.Field.Coerce
import CreditExtraction.Proofs.Text.Erasing

/-!
# The marks around a number's text

A number found in a document may carry marks around it: blanks, currency signs, and the
currency codes `EUR`, `USD`, `GBP` and `CHF` in capitals or in small letters (`NumberMark`).
`stripNumberMarks` takes them off. This module proves that it takes off exactly the marks: a
core written with digits, signs, points and commas, with any rows of marks before and after
it, is stripped to the core less a trailing `,-` (`stripNumberMarks_markedText`), and trimming
the blanks first changes nothing (`stripNumberMarks_trimSpace`).

The codes are erased by searching the text from the left, one spelling after the other, so the
argument is about where an occurrence of a spelling can start. Marks and core characters other
than codes hold no letter. A code's spelling meets another only where one starts inside the
other and runs into a third, and no three spellings line up so (`allSpellings_apart`). A
search for a spelling through a row of marks therefore takes out exactly the marks of that
spelling (`eraseAll_marksText`), and passes over the core.
-/

namespace CreditExtraction

open Text

/-! ## Characters -/

theorem isAlpha_iff_toNat {c : Char} :
    c.isAlpha = true ↔ (65 ≤ c.toNat ∧ c.toNat ≤ 90) ∨ (97 ≤ c.toNat ∧ c.toNat ≤ 122) := by
  have hA : 'A'.toNat = 65 := rfl
  have hZ : 'Z'.toNat = 90 := rfl
  have ha : 'a'.toNat = 97 := rfl
  have hz : 'z'.toNat = 122 := rfl
  simp only [Char.isAlpha, Char.isUpper, Char.isLower, UInt32.le_iff_toNat_le, Char.toNat_val,
    hA, hZ, ha, hz, Bool.or_eq_true, Bool.and_eq_true, decide_eq_true_eq]

theorem isAlpha_of_isSpace {c : Char} (h : CharClass.isSpace c = true) : c.isAlpha = false := by
  rw [Bool.eq_false_iff, ne_eq, isAlpha_iff_toNat]
  simp only [CharClass.isSpace, CharClass.inRanges, Bool.or_eq_true, Bool.and_eq_true,
    decide_eq_true_eq, Bool.or_false] at h
  omega

theorem isAlpha_of_isCurrencySymbol {c : Char} (h : CharClass.isCurrencySymbol c = true) :
    c.isAlpha = false := by
  rw [Bool.eq_false_iff, ne_eq, isAlpha_iff_toNat]
  simp only [CharClass.isCurrencySymbol, CharClass.inRanges, Bool.or_eq_true, Bool.and_eq_true,
    decide_eq_true_eq, Bool.or_false] at h
  omega

/-- The characters a number is written with: digits, the two signs, the point and the comma. -/
def NumberChar (c : Char) : Prop := c.isDigit = true ∨ c = '+' ∨ c = '-' ∨ c = '.' ∨ c = ','

theorem NumberChar.toNat_range {c : Char} (h : NumberChar c) : 43 ≤ c.toNat ∧ c.toNat ≤ 57 := by
  rcases h with hd | rfl | rfl | rfl | rfl
  · have h0 : '0'.toNat = 48 := rfl
    have h9 : '9'.toNat = 57 := rfl
    have := Char.isDigit_iff_toNat.1 hd
    omega
  all_goals exact ⟨by decide, by decide⟩

/-- A number character is no letter, no blank, no currency sign and no apostrophe. -/
theorem NumberChar.kept {c : Char} (h : NumberChar c) :
    c.isAlpha = false ∧ CharClass.isSpace c = false ∧ CharClass.isCurrencySymbol c = false ∧
      c ≠ '\'' := by
  have hr := h.toNat_range
  refine ⟨?_, ?_, ?_, ?_⟩
  · rw [Bool.eq_false_iff, ne_eq, isAlpha_iff_toNat]
    omega
  · rw [Bool.eq_false_iff, ne_eq]
    simp only [CharClass.isSpace, CharClass.inRanges, Bool.or_eq_true, Bool.and_eq_true,
      decide_eq_true_eq, Bool.or_false]
    omega
  · rw [Bool.eq_false_iff, ne_eq]
    simp only [CharClass.isCurrencySymbol, CharClass.inRanges, Bool.or_eq_true, Bool.and_eq_true,
      decide_eq_true_eq, Bool.or_false]
    omega
  · rintro rfl
    exact absurd hr.1 (by decide)

/-! ## Currency codes -/

/-- A currency code spelled in capitals, or in small letters. -/
def codeSpelling (name : String) (lower : Bool) : List Char :=
  if lower then (name.map Char.toLower).toList else name.toList

/-- Every spelling of a currency code that is taken out of a number. -/
def allSpellings : List (List Char) :=
  currencyCodes.flatMap fun name => [codeSpelling name false, codeSpelling name true]

theorem eraseCurrencyCode_eq (cs : List Char) (name : String) :
    eraseCurrencyCode cs name =
      eraseAll (codeSpelling name true) (eraseAll (codeSpelling name false) cs) := rfl

theorem codeSpelling_mem {name : String} (h : name ∈ currencyCodes) (lower : Bool) :
    codeSpelling name lower ∈ allSpellings :=
  List.mem_flatMap.2 ⟨name, h, by cases lower <;> simp⟩

theorem allSpellings_eq : allSpellings = [['E', 'U', 'R'], ['e', 'u', 'r'], ['U', 'S', 'D'],
    ['u', 's', 'd'], ['G', 'B', 'P'], ['g', 'b', 'p'], ['C', 'H', 'F'], ['c', 'h', 'f']] := by
  simp [allSpellings, currencyCodes, codeSpelling, String.toList_map]

theorem length_of_mem_allSpellings : ∀ sp ∈ allSpellings, sp.length = 3 := by
  rw [allSpellings_eq]
  decide

theorem isAlpha_of_mem_allSpellings : ∀ sp ∈ allSpellings, ∀ c ∈ sp, c.isAlpha = true := by
  rw [allSpellings_eq]
  simp

/-- No spelling starts inside another one and runs into a third. -/
theorem allSpellings_apart : ∀ sp ∈ allSpellings, ∀ s ∈ allSpellings, ∀ t ∈ allSpellings,
    ¬sp <+: s.drop 1 ++ t ∧ ¬sp <+: s.drop 2 ++ t := by
  rw [allSpellings_eq]
  decide

/-- A text that no occurrence of a spelling can run into from the left: it starts with a
character that is no letter, or with a spelling, or it is empty. -/
def StartsClear (ys : List Char) : Prop :=
  (∀ y r, ys = y :: r → y.isAlpha = false) ∨ ∃ t ∈ allSpellings, ∃ r, ys = t ++ r

theorem startsClear_nil : StartsClear [] :=
  Or.inl fun _ _ h => nomatch h

theorem startsClear_cons {c : Char} (hc : c.isAlpha = false) (r : List Char) :
    StartsClear (c :: r) :=
  Or.inl fun _ _ h => by
    obtain ⟨rfl, -⟩ := List.cons.inj h
    exact hc

theorem startsClear_append_of_forall {xs ys : List Char} (hxs : ∀ c ∈ xs, c.isAlpha = false)
    (hys : StartsClear ys) : StartsClear (xs ++ ys) := by
  cases xs with
  | nil => exact hys
  | cons c r => exact startsClear_cons (hxs c List.mem_cons_self) _

variable {sp : List Char}

/-- A character that is no letter is in no spelling. -/
theorem not_mem_of_isAlpha_false {c : Char} (hsp : sp ∈ allSpellings) (hc : c.isAlpha = false) :
    c ∉ sp := fun hmem => by
  rw [isAlpha_of_mem_allSpellings sp hsp c hmem] at hc
  exact Bool.noConfusion hc

/-- A spelling of another code, followed by a clear text, holds no occurrence of `sp`. -/
theorem eraseAll_other_spelling {s ys : List Char} (hsp : sp ∈ allSpellings)
    (hs : s ∈ allSpellings) (hne : s ≠ sp) (hys : StartsClear ys) :
    eraseAll sp (s ++ ys) = s ++ eraseAll sp ys := by
  have hlen := length_of_mem_allSpellings sp hsp
  have hslen := length_of_mem_allSpellings s hs
  apply eraseAll_append_of_not_prefix
  intro j hj hpre
  rcases Nat.eq_zero_or_pos j with rfl | hj0
  · -- at the start: a spelling of the same length, so `s` itself
    rcases List.prefix_or_prefix_of_prefix hpre (List.prefix_append s ys) with h1 | h1
    · exact hne (h1.eq_of_length (by simp [hlen, hslen])).symm
    · exact hne (h1.eq_of_length (by simp [hlen, hslen]))
  · -- inside: the occurrence runs into what follows
    rcases hys with hfirst | ⟨t, ht, r, rfl⟩
    · obtain ⟨y, r, rfl, hy⟩ := exists_head_of_prefix_append hpre (by simp; omega)
      have := isAlpha_of_mem_allSpellings sp hsp y hy
      rw [hfirst y r rfl] at this
      exact Bool.false_ne_true this
    · rw [← List.append_assoc] at hpre
      have h' := List.prefix_of_prefix_length_le hpre (List.prefix_append _ r)
        (by simp [hlen, hslen, length_of_mem_allSpellings t ht])
      obtain ⟨h1, h2⟩ := allSpellings_apart sp hsp s hs t ht
      rcases (show j = 1 ∨ j = 2 by omega) with rfl | rfl
      · exact h1 h'
      · exact h2 h'

/-! ## Marks around a number -/

/-- A mark a number's text may carry around it: a blank, a currency sign, or a currency code in
capitals or in small letters. -/
inductive NumberMark where
  | blank (c : Char) (h : CharClass.isSpace c = true)
  | symbol (c : Char) (h : CharClass.isCurrencySymbol c = true)
  | code (name : String) (h : name ∈ currencyCodes) (lower : Bool)

namespace NumberMark

/-- The characters of a mark. -/
def text : NumberMark → List Char
  | blank c _ => [c]
  | symbol c _ => [c]
  | code name _ lower => codeSpelling name lower

/-- The spelling of a currency code mark; other marks have none. -/
def spelling : NumberMark → Option (List Char)
  | code name _ lower => some (codeSpelling name lower)
  | _ => none

theorem startsClear_text (m : NumberMark) (ys : List Char) : StartsClear (m.text ++ ys) := by
  cases m with
  | blank c h => exact startsClear_cons (isAlpha_of_isSpace h) ys
  | symbol c h => exact startsClear_cons (isAlpha_of_isCurrencySymbol h) ys
  | code name h lower => exact Or.inr ⟨_, codeSpelling_mem h lower, ys, rfl⟩

/-- Searching for a spelling through a mark takes out the mark exactly when it is that
spelling. -/
theorem eraseAll_text (m : NumberMark) (hsp : sp ∈ allSpellings) {ys : List Char}
    (hys : StartsClear ys) :
    eraseAll sp (m.text ++ ys) =
      (if m.spelling = some sp then [] else m.text) ++ eraseAll sp ys := by
  have hchar : ∀ c : Char, c.isAlpha = false → eraseAll sp (c :: ys) = c :: eraseAll sp ys :=
    fun c hc => eraseAll_cons_of_not_mem (not_mem_of_isAlpha_false hsp hc) ys
  cases m with
  | blank c h => simpa [text, spelling] using hchar c (isAlpha_of_isSpace h)
  | symbol c h => simpa [text, spelling] using hchar c (isAlpha_of_isCurrencySymbol h)
  | code name h lower =>
    simp only [text, spelling, Option.some.injEq]
    by_cases heq : codeSpelling name lower = sp
    · rw [if_pos heq, heq, eraseAll_prefix, List.nil_append]
      intro hnil
      simp [hnil] at hsp
      exact absurd (length_of_mem_allSpellings [] hsp) (by simp)
    · rw [if_neg heq]
      exact eraseAll_other_spelling hsp (codeSpelling_mem h lower) heq hys

end NumberMark

/-- The text of a row of marks. -/
def marksText (ms : List NumberMark) : List Char := ms.flatMap NumberMark.text

@[simp] theorem marksText_nil : marksText [] = [] := rfl

@[simp] theorem marksText_cons (m : NumberMark) (ms : List NumberMark) :
    marksText (m :: ms) = m.text ++ marksText ms := List.flatMap_cons

theorem startsClear_marksText (ms : List NumberMark) {ys : List Char} (hys : StartsClear ys) :
    StartsClear (marksText ms ++ ys) := by
  cases ms with
  | nil => exact hys
  | cons m ms => simpa using m.startsClear_text (marksText ms ++ ys)

/-- Searching a row of marks for a spelling takes out the marks of that spelling. -/
theorem eraseAll_marksText (hsp : sp ∈ allSpellings) (ms : List NumberMark) {ys : List Char}
    (hys : StartsClear ys) :
    eraseAll sp (marksText ms ++ ys) =
      marksText (ms.filter fun m => m.spelling != some sp) ++ eraseAll sp ys := by
  induction ms with
  | nil => simp
  | cons m ms ih =>
    rw [marksText_cons, List.append_assoc, m.eraseAll_text hsp (startsClear_marksText ms hys), ih]
    by_cases h : m.spelling = some sp <;> simp [h]

/-- A core text with rows of marks before and after it. -/
def markedText (pre : List NumberMark) (core : List Char) (post : List NumberMark) : List Char :=
  marksText pre ++ core ++ marksText post

/-- Searching a marked core of no letters for a spelling takes out the marks of that spelling
and keeps the core. -/
theorem eraseAll_markedText (hsp : sp ∈ allSpellings) (pre post : List NumberMark)
    {core : List Char} (hcore : ∀ c ∈ core, c.isAlpha = false) :
    eraseAll sp (markedText pre core post) =
      markedText (pre.filter fun m => m.spelling != some sp) core
        (post.filter fun m => m.spelling != some sp) := by
  have hpost := eraseAll_marksText hsp post startsClear_nil
  have hnot : ∀ c ∈ core, c ∉ sp := fun c hc => not_mem_of_isAlpha_false hsp (hcore c hc)
  rw [List.append_nil, eraseAll_nil, List.append_nil] at hpost
  unfold markedText
  rw [List.append_assoc, eraseAll_marksText hsp pre
      (startsClear_append_of_forall hcore
        (by simpa using startsClear_marksText post startsClear_nil)),
    eraseAll_append_of_forall_not_mem hnot, hpost, List.append_assoc]

/-! ## Stripping a number's text -/

/-- The marks that no code of `names` spells. -/
def Unspelled (names : List String) (m : NumberMark) : Bool :=
  names.all fun name =>
    m.spelling != some (codeSpelling name false) && m.spelling != some (codeSpelling name true)

/-- Erasing currency codes from a marked core of no letters takes out the marks they spell. -/
theorem foldl_eraseCurrencyCode_markedText (names : List String)
    (hnames : ∀ name ∈ names, name ∈ currencyCodes) (pre post : List NumberMark)
    {core : List Char} (hcore : ∀ c ∈ core, c.isAlpha = false) :
    names.foldl eraseCurrencyCode (markedText pre core post) =
      markedText (pre.filter (Unspelled names)) core (post.filter (Unspelled names)) := by
  induction names generalizing pre post with
  | nil =>
    have hall : ∀ ms : List NumberMark, ms.filter (Unspelled []) = ms := fun ms =>
      List.filter_eq_self.2 fun _ _ => rfl
    rw [List.foldl_nil, hall, hall]
  | cons name names ih =>
    have hname := hnames name List.mem_cons_self
    rw [List.foldl_cons, eraseCurrencyCode_eq,
      eraseAll_markedText (codeSpelling_mem hname false) pre post hcore,
      eraseAll_markedText (codeSpelling_mem hname true) _ _ hcore,
      ih (fun n hn => hnames n (List.mem_cons_of_mem _ hn))]
    have hpred : (fun m => Unspelled names m && (m.spelling != some (codeSpelling name true) &&
        m.spelling != some (codeSpelling name false))) = Unspelled (name :: names) := by
      funext m
      simp only [Unspelled, List.all_cons]
      ac_rfl
    simp only [List.filter_filter, hpred]

theorem spelling_eq_none_of_unspelled {m : NumberMark} (h : Unspelled currencyCodes m = true) :
    m.spelling = none := by
  cases m with
  | code name hn lower =>
    simp only [Unspelled, List.all_eq_true] at h
    have := h name hn
    cases lower <;> simp [NumberMark.spelling] at this
  | blank => rfl
  | symbol => rfl

/-- Blanks and currency signs are all dropped. -/
theorem filter_marksText {ms : List NumberMark} (hms : ∀ m ∈ ms, m.spelling = none) :
    (marksText ms).filter
      (fun c => !(CharClass.isSpace c || CharClass.isCurrencySymbol c || c == '\'')) = [] := by
  induction ms with
  | nil => rfl
  | cons m ms ih =>
    rw [marksText_cons, List.filter_append, ih fun m' hm' => hms m' (List.mem_cons_of_mem _ hm')]
    have hm := hms m List.mem_cons_self
    cases m with
    | blank c h => simp [NumberMark.text, h]
    | symbol c h => simp [NumberMark.text, h]
    | code => simp [NumberMark.spelling] at hm

/-- Number characters are all kept. -/
theorem filter_numberChars {core : List Char} (hcore : ∀ c ∈ core, NumberChar c) :
    core.filter
      (fun c => !(CharClass.isSpace c || CharClass.isCurrencySymbol c || c == '\'')) = core :=
  List.filter_eq_self.2 fun c hc => by
    obtain ⟨-, h1, h2, h3⟩ := (hcore c hc).kept
    simp [h1, h2, h3]

/-- Stripping a number's text takes off every mark around a core of number characters and keeps
the core, less a trailing `,-`. -/
theorem stripNumberMarks_markedText (pre post : List NumberMark) {core : List Char}
    (hcore : ∀ c ∈ core, NumberChar c) :
    stripNumberMarks (String.ofList (markedText pre core post)) = dropDashSuffix core := by
  have halpha : ∀ c ∈ core, c.isAlpha = false := fun c hc => (hcore c hc).kept.1
  have hnone : ∀ ms : List NumberMark, ∀ m ∈ ms.filter (Unspelled currencyCodes),
      m.spelling = none := fun ms m hm =>
    spelling_eq_none_of_unspelled (List.mem_filter.1 hm).2
  unfold stripNumberMarks
  rw [String.toList_ofList,
    foldl_eraseCurrencyCode_markedText currencyCodes (fun _ h => h) pre post halpha]
  unfold markedText
  dsimp only
  rw [List.filter_append, List.filter_append, filter_marksText (hnone pre),
    filter_marksText (hnone post), filter_numberChars hcore, List.nil_append, List.append_nil]

/-- Erasing the codes passes over letter-free parts around the text. -/
theorem foldl_eraseCurrencyCode_around (names : List String)
    (hnames : ∀ name ∈ names, name ∈ currencyCodes) {lead trail : List Char}
    (hlead : ∀ c ∈ lead, c.isAlpha = false) (htrail : ∀ c ∈ trail, c.isAlpha = false)
    (mid : List Char) :
    names.foldl eraseCurrencyCode (lead ++ mid ++ trail) =
      lead ++ names.foldl eraseCurrencyCode mid ++ trail := by
  -- one spelling at a time: no occurrence starts in the front part or runs into the back part
  have hstep : ∀ sp ∈ allSpellings, ∀ mid,
      eraseAll sp (lead ++ mid ++ trail) = lead ++ eraseAll sp mid ++ trail := by
    intro sp hsp mid
    rw [List.append_assoc, eraseAll_append_of_forall_not_mem
        (fun c hc => not_mem_of_isAlpha_false hsp (hlead c hc)),
      eraseAll_append_of_tail (fun c hc => not_mem_of_isAlpha_false hsp (htrail c hc)),
      List.append_assoc]
  induction names generalizing mid with
  | nil => rfl
  | cons name names ih =>
    have hname := hnames name List.mem_cons_self
    rw [List.foldl_cons, eraseCurrencyCode_eq, hstep _ (codeSpelling_mem hname false),
      hstep _ (codeSpelling_mem hname true), ← eraseCurrencyCode_eq,
      ih (fun n hn => hnames n (List.mem_cons_of_mem _ hn)), List.foldl_cons]

/-- A text is its leading blanks, what trimming keeps, and its trailing blanks. -/
theorem trimSpace_split (s : String) : ∃ lead trail,
    s.toList = lead ++ (CharClass.trimSpace s).toList ++ trail ∧
      (∀ c ∈ lead, CharClass.isSpace c = true) ∧ (∀ c ∈ trail, CharClass.isSpace c = true) := by
  refine ⟨s.toList.takeWhile CharClass.isSpace,
    ((s.toList.dropWhile CharClass.isSpace).reverse.takeWhile CharClass.isSpace).reverse, ?_,
    fun c hc => List.all_eq_true.1 List.all_takeWhile c hc,
    fun c hc => List.all_eq_true.1 List.all_takeWhile c (List.mem_reverse.1 hc)⟩
  rw [CharClass.trimSpace, String.toList_ofList, List.append_assoc, ← List.reverse_append,
    List.takeWhile_append_dropWhile, List.reverse_reverse, List.takeWhile_append_dropWhile]

/-- Trimming the blanks off a number's text before stripping it changes nothing. -/
theorem stripNumberMarks_trimSpace (s : String) :
    stripNumberMarks (CharClass.trimSpace s) = stripNumberMarks s := by
  obtain ⟨lead, trail, hs, hlead, htrail⟩ := trimSpace_split s
  -- blanks are dropped by the filter after the codes are erased
  have hdrop : ∀ xs : List Char, (∀ c ∈ xs, CharClass.isSpace c = true) →
      xs.filter (fun c => !(CharClass.isSpace c || CharClass.isCurrencySymbol c || c == '\'')) =
        [] := fun xs hxs => List.filter_eq_nil_iff.2 fun c hc => by simp [hxs c hc]
  unfold stripNumberMarks
  dsimp only
  rw [hs, foldl_eraseCurrencyCode_around currencyCodes (fun _ h => h)
      (fun c hc => isAlpha_of_isSpace (hlead c hc)) (fun c hc => isAlpha_of_isSpace (htrail c hc)),
    List.filter_append, List.filter_append, hdrop lead hlead, hdrop trail htrail, List.nil_append,
    List.append_nil]

/-! ## A trailing `,-` -/

theorem dropDashSuffix_dash (body : List Char) : dropDashSuffix (body ++ [',', '-']) = body := by
  simp [dropDashSuffix]

theorem dropDashSuffix_of_getLast {cs : List Char} {d : Char} (h : cs.getLast? = some d)
    (hd : d.isDigit = true) : dropDashSuffix cs = cs := by
  obtain ⟨body, rfl⟩ := List.getLast?_eq_some_iff.1 h
  unfold dropDashSuffix
  rw [if_neg]
  intro h
  simp only [List.length_append, List.length_singleton, beq_iff_eq, Bool.and_eq_true,
    decide_eq_true_eq] at h
  have hlast := congrArg List.getLast? h.2
  rw [List.drop_append_of_le_length (by omega)] at hlast
  simp only [List.getLast?_append, List.getLast?_singleton, Option.some_or] at hlast
  have hminus : d = '-' := by simpa using hlast
  rw [hminus] at hd
  exact Bool.noConfusion hd

end CreditExtraction
