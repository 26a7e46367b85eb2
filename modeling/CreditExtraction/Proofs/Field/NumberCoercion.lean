import CreditExtraction.Proofs.Field.NumberMarks
import CreditExtraction.Proofs.Numbers.DecimalReading

/-!
# Reading a printed number

Documents print amounts in two layouts: the German one, with points between the thousands, a
comma before the fraction and perhaps a trailing `,-` (`1.234.567,89`, `250,-`), and the
English one, with commas between the thousands and a point before the fraction
(`1,234,567.89`). Coercing a field's text as a number with the matching decimal mark reads
either back as the decimal it prints (`coerce_printed_number`), whatever blanks, currency signs
and currency codes stand around it: the text handed to the float reader is the decimal written
plainly (`ReadsAs.handed`), which the reader takes, and the coercion gives the float nearest to
the decimal unless it lies past the overflow threshold, where it fails with the reader's range
error. Whatever text it is given, a coercion to a number never gives an infinity or a NaN.

A decimal (`WrittenDecimal`) is a sign, an integer part and the digits of a fraction. Its layouts
are built from `groupedNumeral`, the integer's digits with a separator between the groups of
three from the right; removing the separators gives the digits back (`filter_groupedNumeral`),
and grouped by points, a numeral of at least four digits is what `isGroupedThousands` looks for
(`isGroupedThousands_grouped`). `settle_german` and `settle_english` follow `settleDecimalMark`
through its branches on each layout.
-/

namespace CreditExtraction

open Text

/-! ## Scanning and replacing characters -/

theorem isDigitChar_eq (c : Char) : isDigitChar c = c.isDigit := rfl

/-- Digits followed by a text that starts with no digit: the digits are the run a scan for
digits takes. -/
theorem takeWhile_dropWhile_digits {ds rest : List Char} (hds : AllDigits ds)
    (hrest : ∀ c r, rest = c :: r → c.isDigit = false) :
    (ds ++ rest).takeWhile isDigitChar = ds ∧ (ds ++ rest).dropWhile isDigitChar = rest := by
  have hpos : ∀ a ∈ ds, isDigitChar a = true := hds
  rw [List.takeWhile_append_of_pos hpos, List.dropWhile_append_of_pos hpos]
  cases rest with
  | nil => simp
  | cons c r =>
    have hc : isDigitChar c = false := hrest c r rfl
    simp [hc]

/-- Filtering out a character a text does not hold leaves it as it is. -/
theorem filter_bne_of_forall_ne {a : Char} {xs : List Char} (h : ∀ c ∈ xs, c ≠ a) :
    xs.filter (· != a) = xs :=
  List.filter_eq_self.2 fun c hc => by simpa using h c hc

/-- Replacing the first `a` passes over a part without one. -/
theorem replaceFirst_append_of_forall_ne {a b : Char} {xs : List Char} (h : ∀ c ∈ xs, c ≠ a)
    (ys : List Char) : replaceFirst a b (xs ++ ys) = xs ++ replaceFirst a b ys := by
  induction xs with
  | nil => rfl
  | cons x xs ih =>
    have hx : (x == a) = false := by simpa using h x List.mem_cons_self
    rw [List.cons_append, replaceFirst, hx, if_neg (by simp),
      ih fun c hc => h c (List.mem_cons_of_mem x hc), List.cons_append]

/-! ## Grouped numerals -/

/-- The three digits of `r < 1000`, with zeros in front. -/
def groupDigits (r : Nat) : List Char :=
  [Nat.digitChar (r / 100), Nat.digitChar (r / 10 % 10), Nat.digitChar (r % 10)]

/-- `i` in decimal digits with `sep` between the groups of three from the right. -/
def groupedNumeral (sep : Char) (i : Nat) : List Char :=
  if i < 1000 then Nat.toDigits 10 i
  else groupedNumeral sep (i / 1000) ++ sep :: groupDigits (i % 1000)
termination_by i
decreasing_by omega

theorem toDigits_eq_groups {i : Nat} (h : 1000 ≤ i) :
    Nat.toDigits 10 i = Nat.toDigits 10 (i / 1000) ++ groupDigits (i % 1000) := by
  rw [Nat.toDigits_of_base_le (by decide) (by omega : 10 ≤ i),
    Nat.toDigits_of_base_le (by decide) (by omega : 10 ≤ i / 10),
    Nat.toDigits_of_base_le (by decide) (by omega : 10 ≤ i / 10 / 10)]
  have h1 : i / 10 / 10 / 10 = i / 1000 := by omega
  have h2 : i / 10 / 10 % 10 = i % 1000 / 100 := by omega
  have h3 : i / 10 % 10 = i % 1000 / 10 % 10 := by omega
  have h4 : i % 10 = i % 1000 % 10 := by omega
  rw [h1, h2, h3, h4, groupDigits]
  simp only [List.append_assoc, List.cons_append, List.nil_append]

theorem allDigits_groupDigits {i : Nat} (h : 1000 ≤ i) : AllDigits (groupDigits (i % 1000)) :=
  fun c hc => allDigits_toDigits i c (by
    rw [toDigits_eq_groups h]
    exact List.mem_append_right _ hc)

/-- Taking the separators out of a grouped numeral leaves its digits. -/
theorem filter_groupedNumeral {sep : Char} (hsep : sep.isDigit = false) (i : Nat) :
    (groupedNumeral sep i).filter (· != sep) = Nat.toDigits 10 i := by
  -- a digit is never the separator
  have hkeep : ∀ ds : List Char, AllDigits ds → ds.filter (· != sep) = ds := fun ds hds =>
    List.filter_eq_self.2 fun c hc => by
      have := hds c hc
      simp only [bne_iff_ne, ne_eq]
      rintro rfl
      rw [this] at hsep
      exact Bool.noConfusion hsep
  induction i using Nat.strong_induction_on with
  | _ i ih =>
    rw [groupedNumeral]
    split_ifs with hi
    · exact hkeep _ (allDigits_toDigits i)
    · rw [List.filter_append, ih (i / 1000) (by omega), List.filter_cons_of_neg (by simp),
        hkeep _ (allDigits_groupDigits (by omega))]
      exact (toDigits_eq_groups (by omega)).symm

theorem mem_groupedNumeral {sep c : Char} {i : Nat} (h : c ∈ groupedNumeral sep i) :
    c.isDigit = true ∨ c = sep := by
  induction i using Nat.strong_induction_on with
  | _ i ih =>
    rw [groupedNumeral] at h
    split_ifs at h with hi
    · exact Or.inl (allDigits_toDigits i c h)
    · rcases List.mem_append.1 h with h | h
      · exact ih (i / 1000) (by omega) h
      · rcases List.mem_cons.1 h with rfl | h
        · exact Or.inr rfl
        · exact Or.inl (allDigits_groupDigits (by omega) c h)

/-- A grouped numeral starts with a digit. -/
theorem exists_digit_head_groupedNumeral (sep : Char) (i : Nat) :
    ∃ d r, groupedNumeral sep i = d :: r ∧ d.isDigit = true := by
  induction i using Nat.strong_induction_on with
  | _ i ih =>
    rw [groupedNumeral]
    split_ifs with hi
    · exact exists_digit_head i
    · obtain ⟨d, r, heq, hd⟩ := ih (i / 1000) (by omega)
      exact ⟨d, r ++ sep :: groupDigits (i % 1000), by rw [heq, List.cons_append], hd⟩

/-- A grouped numeral ends with a digit. -/
theorem exists_digit_getLast_groupedNumeral (sep : Char) (i : Nat) :
    ∃ d, (groupedNumeral sep i).getLast? = some d ∧ d.isDigit = true := by
  rw [groupedNumeral]
  split_ifs with hi
  · exact ⟨_, List.getLast?_eq_some_getLast (toDigits_ne_nil i),
      allDigits_toDigits i _ (List.getLast_mem _)⟩
  · have hg := allDigits_groupDigits (show 1000 ≤ i by omega)
    refine ⟨Nat.digitChar (i % 1000 % 10), by simp [groupDigits], hg _ (by simp [groupDigits])⟩

theorem isThousandGroups_append {gs : List Char} (h : isThousandGroups gs = true) {a b c : Char}
    (ha : a.isDigit = true) (hb : b.isDigit = true) (hc : c.isDigit = true) :
    isThousandGroups (gs ++ ['.', a, b, c]) = true := by
  fun_induction isThousandGroups gs with
  | case1 a' b' c' =>
    simpa [isThousandGroups, isDigitChar_eq, ha, hb, hc] using h
  | case2 a' b' c' rest hrest ih =>
    simp only [Bool.and_eq_true] at h
    obtain ⟨⟨⟨ha', hb'⟩, hc'⟩, hrest'⟩ := h
    have hnext := ih hrest'
    obtain ⟨x, xs, rfl⟩ := List.exists_cons_of_ne_nil hrest
    simp only [List.cons_append] at hnext ⊢
    simp [isThousandGroups, ha', hb', hc', hnext]
  | case3 => simp at *

/-- In groups of three, a numeral of at least four digits is all thousands groups after its
lead. -/
theorem groupedNumeral_point_split {i : Nat} (h : 1000 ≤ i) :
    ∃ lead gs, groupedNumeral '.' i = Nat.toDigits 10 lead ++ gs ∧ lead < 1000 ∧
      isThousandGroups gs = true ∧ gs.head? = some '.' := by
  induction i using Nat.strong_induction_on with
  | _ i ih =>
    have hg := allDigits_groupDigits h
    have hgroup : isThousandGroups ('.' :: groupDigits (i % 1000)) = true := by
      simp only [groupDigits, isThousandGroups, isDigitChar_eq, Bool.and_eq_true]
      exact ⟨⟨hg _ (by simp [groupDigits]), hg _ (by simp [groupDigits])⟩,
        hg _ (by simp [groupDigits])⟩
    rw [groupedNumeral, if_neg (by omega)]
    by_cases hlead : i / 1000 < 1000
    · exact ⟨i / 1000, '.' :: groupDigits (i % 1000), by rw [groupedNumeral, if_pos hlead], hlead,
        hgroup, rfl⟩
    · obtain ⟨lead, gs, heq, hl, hgs, hhead⟩ := ih (i / 1000) (by omega) (by omega)
      obtain ⟨a, b, c, habc⟩ : ∃ a b c, groupDigits (i % 1000) = [a, b, c] := ⟨_, _, _, rfl⟩
      rw [habc] at hg
      refine ⟨lead, gs ++ '.' :: groupDigits (i % 1000), by rw [heq, List.append_assoc], hl, ?_, ?_⟩
      · rw [habc]
        exact isThousandGroups_append hgs (hg a (by simp)) (hg b (by simp)) (hg c (by simp))
      · cases gs with
        | nil => simp at hhead
        | cons g gs' => simpa using hhead

/-! ## Signs -/

/-- The sign a number is written with. -/
inductive WrittenSign where
  | unsigned
  | plus
  | minus

/-- The characters of a sign. -/
def WrittenSign.text : WrittenSign → List Char
  | .unsigned => []
  | .plus => ['+']
  | .minus => ['-']

theorem WrittenSign.mem_text {s : WrittenSign} {c : Char} (h : c ∈ s.text) : c = '+' ∨ c = '-' := by
  cases s <;> simp_all [WrittenSign.text]

/-- A sign before a digit is what `dropSign` drops. -/
theorem dropSign_text (s : WrittenSign) {d : Char} (r : List Char) (hd : d.isDigit = true) :
    dropSign (s.text ++ d :: r) = d :: r := by
  have hpm : d ≠ '+' ∧ d ≠ '-' := by
    have := toNat_of_isDigit hd
    constructor <;> rintro rfl <;> simp at this
  cases s with
  | unsigned =>
    unfold dropSign
    split <;> simp_all [WrittenSign.text]
  | plus => rfl
  | minus => rfl

/-- A numeral of at least four digits grouped by points is what `isGroupedThousands` looks
for, with any sign before it. -/
theorem isGroupedThousands_grouped (s : WrittenSign) {i : Nat} (h : 1000 ≤ i) :
    isGroupedThousands (s.text ++ groupedNumeral '.' i) = true := by
  obtain ⟨lead, gs, heq, hl, hgs, hhead⟩ := groupedNumeral_point_split h
  obtain ⟨c, r, hcr, hc⟩ := exists_digit_head lead
  have hpoint : ∀ c r, gs = c :: r → c.isDigit = false := fun c r hgr => by
    rw [hgr, List.head?_cons, Option.some.injEq] at hhead
    rw [hhead]
    rfl
  obtain ⟨htake, hdrop⟩ := takeWhile_dropWhile_digits (allDigits_toDigits lead) hpoint
  have hlen : (Nat.toDigits 10 lead).length ≤ 3 :=
    (Nat.length_toDigits_le_iff (by decide) (by decide)).2 hl
  unfold isGroupedThousands
  rw [heq, hcr, List.cons_append, dropSign_text _ _ hc, ← List.cons_append, ← hcr]
  dsimp only
  rw [htake, hdrop, hgs]
  simp [Nat.length_toDigits_pos, hlen]

/-! ## Decimals and their layouts -/

/-- The fraction after its decimal mark, or nothing when it has no digits. -/
def fractionText (mark : Char) (f : List Char) : List Char := if f = [] then [] else mark :: f

theorem fractionText_head (mark : Char) (f : List Char) :
    ∀ c r, fractionText mark f = c :: r → c = mark := by
  intro c r h
  unfold fractionText at h
  split_ifs at h
  obtain ⟨rfl, -⟩ := List.cons.inj h
  rfl

/-- A decimal number: a sign, an integer part, and the digits of a fraction, perhaps none. -/
structure WrittenDecimal where
  sign : WrittenSign
  whole : Nat
  frac : List Char
  frac_digits : AllDigits frac

namespace WrittenDecimal

variable (d : WrittenDecimal)

/-- Written plainly: the sign, the digits, and a point before the fraction. -/
def plain : List Char := d.sign.text ++ Nat.toDigits 10 d.whole ++ fractionText '.' d.frac

/-- Written the German way: points between the thousands and a comma before the fraction. -/
def german : List Char := d.sign.text ++ groupedNumeral '.' d.whole ++ fractionText ',' d.frac

/-- Written the English way: commas between the thousands and a point before the fraction. -/
def english : List Char := d.sign.text ++ groupedNumeral ',' d.whole ++ fractionText '.' d.frac

/-- The size of the number. -/
def magnitude : ℚ := d.whole + (Nat.ofDigitChars 10 d.frac 0 : ℚ) / 10 ^ d.frac.length

/-- Whether the number is written with a minus sign. -/
def negative : Bool :=
  match d.sign with
  | .minus => true
  | _ => false

/-- Written plainly, a decimal is a plain decimal. -/
theorem plain_isPlainDecimal : isPlainDecimal d.plain = true := by
  obtain ⟨c, r, hcr, hc⟩ := exists_digit_head d.whole
  have hpoint : ∀ c r, fractionText '.' d.frac = c :: r → c.isDigit = false := fun c r h => by
    rw [fractionText_head '.' d.frac c r h]
    rfl
  obtain ⟨htake, hdrop⟩ := takeWhile_dropWhile_digits (allDigits_toDigits d.whole) hpoint
  unfold isPlainDecimal plain
  rw [List.append_assoc, hcr, List.cons_append, dropSign_text _ _ hc, ← List.cons_append, ← hcr]
  dsimp only
  rw [htake, hdrop]
  unfold fractionText
  split_ifs with hf
  · simp
  · have h1 : (Nat.toDigits 10 d.whole).isEmpty = false :=
      List.isEmpty_eq_false_iff.2 (toDigits_ne_nil _)
    have h2 : d.frac.isEmpty = false := List.isEmpty_eq_false_iff.2 hf
    have h3 : d.frac.all isDigitChar = true := List.all_eq_true.2 d.frac_digits
    simp only [h1, h2, h3]
    rfl

/-- The digits and fraction of a decimal, read with either sign, are its magnitude. -/
theorem unsigned_decimalText (neg : Bool) :
    DecimalText (withSign neg (Nat.toDigits 10 d.whole ++ fractionText '.' d.frac)) neg
      d.magnitude := by
  unfold fractionText magnitude
  split_ifs with hf
  · have h := decimalText_whole neg d.whole 0
    rw [hf]
    simpa using h
  · have h := decimalText_point neg d.whole d.frac_digits
    -- the scanned integer is the whole part shifted past the fraction's digits
    have hval : (Nat.ofDigitChars 10 (Nat.toDigits 10 d.whole ++ d.frac) 0 : ℚ) *
        10 ^ (-(d.frac.length : Int)) =
        d.whole + (Nat.ofDigitChars 10 d.frac 0 : ℚ) / 10 ^ d.frac.length := by
      rw [Nat.ofDigitChars_append, Nat.ofDigitChars_toDigits (by decide) (by decide),
        Nat.ofDigitChars_eq_ofDigitChars_zero, zpow_neg, zpow_natCast]
      push_cast
      field_simp
    rwa [hval] at h

/-- Written plainly, a decimal reads as its magnitude with its sign. -/
theorem plain_decimalText : DecimalText d.plain d.negative d.magnitude := by
  unfold plain negative
  cases hs : d.sign with
  | unsigned => simpa [WrittenSign.text] using d.unsigned_decimalText false
  | minus => simpa [WrittenSign.text] using d.unsigned_decimalText true
  | plus =>
    obtain ⟨c, r, hcr, hc⟩ := exists_digit_head d.whole
    have h := d.unsigned_decimalText false
    rw [withSign_false, hcr, List.cons_append] at h
    simpa [WrittenSign.text, hcr] using h.plus hc

theorem numberChars_layout {sep mark : Char} (hsep : sep = '.' ∨ sep = ',')
    (hmark : mark = '.' ∨ mark = ',') :
    ∀ c ∈ d.sign.text ++ groupedNumeral sep d.whole ++ fractionText mark d.frac, NumberChar c := by
  intro c hc
  simp only [List.mem_append] at hc
  rcases hc with (hc | hc) | hc
  · rcases WrittenSign.mem_text hc with rfl | rfl
    · exact Or.inr (Or.inl rfl)
    · exact Or.inr (Or.inr (Or.inl rfl))
  · rcases mem_groupedNumeral hc with hd | rfl
    · exact Or.inl hd
    · rcases hsep with rfl | rfl
      · exact Or.inr (Or.inr (Or.inr (Or.inl rfl)))
      · exact Or.inr (Or.inr (Or.inr (Or.inr rfl)))
  · unfold fractionText at hc
    split_ifs at hc
    · simp at hc
    · rcases List.mem_cons.1 hc with rfl | hc
      · rcases hmark with rfl | rfl
        · exact Or.inr (Or.inr (Or.inr (Or.inl rfl)))
        · exact Or.inr (Or.inr (Or.inr (Or.inr rfl)))
      · exact Or.inl (d.frac_digits c hc)

/-- Every layout ends with a digit. -/
theorem exists_digit_getLast_layout (sep mark : Char) :
    ∃ e, (d.sign.text ++ groupedNumeral sep d.whole ++ fractionText mark d.frac).getLast? = some e ∧
      e.isDigit = true := by
  obtain ⟨e, he, hd⟩ := exists_digit_getLast_groupedNumeral sep d.whole
  unfold fractionText
  split_ifs with hf
  · exact ⟨e, by simp [he], hd⟩
  · refine ⟨d.frac.getLast hf, ?_, d.frac_digits _ (List.getLast_mem hf)⟩
    simp only [List.getLast?_append, List.getLast?_eq_some_getLast (List.cons_ne_nil mark d.frac),
      List.getLast_cons hf, Option.some_or]

theorem sign_filter (a : Char) (ha : a ≠ '+' ∧ a ≠ '-') :
    d.sign.text.filter (· != a) = d.sign.text :=
  filter_bne_of_forall_ne fun c hc => by
    rcases WrittenSign.mem_text hc with rfl | rfl
    exacts [ha.1.symm, ha.2.symm]

/-- The German layout, with or without a trailing `,-`, settles to the plain decimal. -/
theorem settle_german (dash : Bool) :
    settleDecimalMark true (dropDashSuffix (d.german ++ if dash then [',', '-'] else [])) =
      d.plain := by
  have hdash : dropDashSuffix (d.german ++ if dash then [',', '-'] else []) = d.german := by
    cases dash with
    | true => exact dropDashSuffix_dash d.german
    | false =>
      obtain ⟨e, he, hd⟩ := d.exists_digit_getLast_layout '.' ','
      rw [if_neg (by decide), List.append_nil]
      exact dropDashSuffix_of_getLast he hd
  rw [hdash]
  unfold settleDecimalMark german plain
  rw [if_pos rfl]
  by_cases hf : d.frac = []
  · -- no fraction and so no comma: the points group thousands, if there are any
    simp only [fractionText, hf, if_true, List.append_nil]
    have hcomma : ',' ∉ d.sign.text ++ groupedNumeral '.' d.whole := by
      intro hm
      rcases List.mem_append.1 hm with h | h
      · rcases WrittenSign.mem_text h with h | h <;> exact absurd h (by decide)
      · rcases mem_groupedNumeral h with h | h <;> exact absurd h (by decide)
    rw [if_neg (by simpa using hcomma)]
    by_cases hw : d.whole < 1000
    · -- under a thousand: no point at all
      have hpoint : (d.sign.text ++ Nat.toDigits 10 d.whole).count '.' = 0 := by
        refine List.count_eq_zero.2 fun hm => ?_
        rcases List.mem_append.1 hm with h | h
        · rcases WrittenSign.mem_text h with h | h <;> exact absurd h (by decide)
        · exact absurd (allDigits_toDigits d.whole _ h) (by decide)
      have hgroups : isGroupedThousands (d.sign.text ++ Nat.toDigits 10 d.whole) = false := by
        obtain ⟨c, r, hcr, hc⟩ := exists_digit_head d.whole
        obtain ⟨-, hdrop⟩ := @takeWhile_dropWhile_digits _ [] (allDigits_toDigits d.whole)
          (by simp)
        rw [List.append_nil] at hdrop
        unfold isGroupedThousands
        rw [hcr, dropSign_text _ _ hc, ← hcr]
        dsimp only
        rw [hdrop]
        simp [isThousandGroups]
      rw [groupedNumeral, if_pos hw, if_neg (by simp [hpoint, hgroups])]
    · rw [if_pos (by simp [isGroupedThousands_grouped d.sign (not_lt.1 hw)]), List.filter_append,
        d.sign_filter '.' (by decide), filter_groupedNumeral (by decide)]
  · -- a fraction: the points go and its comma becomes the point
    simp only [fractionText, hf, if_false]
    have hnocomma : ∀ c ∈ d.sign.text ++ Nat.toDigits 10 d.whole, c ≠ ',' := fun c hm => by
      rcases List.mem_append.1 hm with h | h
      · rcases WrittenSign.mem_text h with rfl | rfl <;> decide
      · intro hc
        exact absurd (allDigits_toDigits d.whole c h) (by rw [hc]; decide)
    have hfrac : (',' :: d.frac).filter (· != '.') = ',' :: d.frac :=
      filter_bne_of_forall_ne fun c hm => by
        rcases List.mem_cons.1 hm with rfl | h
        · decide
        · intro hc
          exact absurd (d.frac_digits c h) (by rw [hc]; decide)
    rw [if_pos (by simp), List.filter_append, List.filter_append, d.sign_filter '.' (by decide),
      filter_groupedNumeral (by decide), hfrac, replaceFirst_append_of_forall_ne hnocomma]
    simp [replaceFirst]

/-- The English layout settles to the plain decimal: its commas go. -/
theorem settle_english : settleDecimalMark false (dropDashSuffix d.english) = d.plain := by
  obtain ⟨e, he, hd⟩ := d.exists_digit_getLast_layout ',' '.'
  have hfrac : (fractionText '.' d.frac).filter (· != ',') = fractionText '.' d.frac :=
    filter_bne_of_forall_ne fun c hm => by
      unfold fractionText at hm
      split_ifs at hm
      · simp at hm
      · rcases List.mem_cons.1 hm with rfl | h
        · decide
        · intro hc
          exact absurd (d.frac_digits c h) (by rw [hc]; decide)
  unfold english
  rw [dropDashSuffix_of_getLast he hd]
  unfold settleDecimalMark plain
  rw [if_neg (by decide), List.filter_append, List.filter_append, d.sign_filter ',' (by decide),
    filter_groupedNumeral (by decide), hfrac]

end WrittenDecimal

/-! ## Coercing a number -/

open BinaryFormat in
/-- What coercing `raw` as a number does when the text is the decimal `d` in some layout: the
text handed to the float reader is `d` written plainly, which is a plain decimal; below the
overflow threshold the coercion gives the float nearest to `d`, and from the threshold on it
fails with the reader's range error. -/
structure ReadsAs (raw : String) (decimalComma : Bool) (d : WrittenDecimal) : Prop where
  handed : settleDecimalMark decimalComma (stripNumberMarks (CharClass.trimSpace raw)) = d.plain
  plain : isPlainDecimal d.plain = true
  outcome :
    (d.magnitude < binary64.overflowThreshold ∧
      ∃ x, coerce raw .number decimalComma = .ok (.number x) ∧
        NearestBinary64 d.negative d.magnitude x) ∨
    (binary64.overflowThreshold ≤ d.magnitude ∧
      coerce raw .number decimalComma =
        .error (FloatReadError.range.message "ParseFloat" (String.ofList d.plain)))

/-- A text that settles to a decimal written plainly is coerced as that decimal. -/
theorem readsAs_of_handed {raw : String} {decimalComma : Bool} {d : WrittenDecimal}
    (h : settleDecimalMark decimalComma (stripNumberMarks (CharClass.trimSpace raw)) = d.plain) :
    ReadsAs raw decimalComma d := by
  have hplain := d.plain_isPlainDecimal
  have htext : DecimalText (String.ofList d.plain).toList d.negative d.magnitude := by
    rw [String.toList_ofList]
    exact d.plain_decimalText
  have hcoerce : coerce raw .number decimalComma =
      FieldValue.number <$> parseFloat64 (String.ofList d.plain) := by
    simp [coerce, parseNumber, h, hplain]
  refine ⟨h, hplain, ?_⟩
  rw [hcoerce]
  rcases parseFloat64_decimalText htext with ⟨hlt, x, hx, hnear⟩ | ⟨hge, herr⟩
  · exact Or.inl ⟨hlt, x, by rw [hx]; rfl, hnear⟩
  · exact Or.inr ⟨hge, by rw [herr]; rfl⟩

/-- A plain decimal has a digit after its sign, so it is no special word. -/
theorem readSpecial_of_isPlainDecimal {cs : List Char} (h : isPlainDecimal cs = true) :
    readSpecial cs = none := by
  obtain ⟨d, r, hdr, hd⟩ : ∃ d r, dropSign cs = d :: r ∧ d.isDigit = true := by
    unfold isPlainDecimal at h
    generalize dropSign cs = body at h
    cases body with
    | nil => simp at h
    | cons d r =>
      refine ⟨d, r, rfl, ?_⟩
      cases hd : d.isDigit
      · simp only [isDigitChar_eq, hd, List.takeWhile_cons, List.dropWhile_cons] at h
        split at h <;> simp at h
      · rfl
  cases cs with
  | nil => simp [dropSign] at hdr
  | cons c rest =>
    by_cases hplus : c = '+'
    · subst hplus
      simp only [dropSign] at hdr
      rw [hdr]
      exact readSpecial_plus r hd
    by_cases hminus : c = '-'
    · subst hminus
      simp only [dropSign] at hdr
      rw [hdr]
      exact @readSpecial_of_digit true _ r hd
    · have hsame : dropSign (c :: rest) = c :: rest := by
        unfold dropSign
        split <;> simp_all
      rw [hsame] at hdr
      rw [hdr]
      exact @readSpecial_of_digit false _ r hd

/-- Every number a coercion gives is finite. -/
theorem coerce_number_isFinite {raw : String} {decimalComma : Bool} {x : Float}
    (h : coerce raw .number decimalComma = .ok (.number x)) : x.isFinite = true := by
  simp only [coerce] at h
  cases hp : parseNumber (CharClass.trimSpace raw) decimalComma with
  | error e =>
    rw [hp] at h
    cases h
  | ok y =>
    rw [hp] at h
    cases h
    unfold parseNumber at hp
    dsimp only at hp
    generalize settleDecimalMark decimalComma (stripNumberMarks (CharClass.trimSpace raw)) = cs at hp
    split_ifs at hp with hplain
    unfold parseFloat64 at hp
    split at hp
    · rename_i hread
      cases hp
      have hspecial : readSpecial (String.ofList cs).toList = none := by
        rw [String.toList_ofList]
        exact readSpecial_of_isPlainDecimal hplain
      exact readFloat_isFinite hspecial hread
    · cases hp

/-- A number printed the German way (points between the thousands, a comma before the fraction,
perhaps a trailing `,-`) or the English way (commas between the thousands, a point before the
fraction), with any blanks, currency signs and currency codes around it, is coerced as the
decimal it prints; and every number a coercion gives is finite. -/
theorem coerce_printed_number (d : WrittenDecimal) (pre post : List NumberMark) (dash : Bool) :
    ReadsAs (String.ofList (markedText pre (d.german ++ if dash then [',', '-'] else []) post))
        true d ∧
      ReadsAs (String.ofList (markedText pre d.english post)) false d ∧
      ∀ raw decimalComma x,
        coerce raw .number decimalComma = .ok (.number x) → x.isFinite = true := by
  have hgerman : ∀ c ∈ d.german ++ (if dash then [',', '-'] else []), NumberChar c := by
    intro c hc
    rcases List.mem_append.1 hc with h | h
    · exact d.numberChars_layout (Or.inl rfl) (Or.inr rfl) c h
    · cases dash <;> simp at h
      rcases h with rfl | rfl
      · exact Or.inr (Or.inr (Or.inr (Or.inr rfl)))
      · exact Or.inr (Or.inr (Or.inl rfl))
  have henglish : ∀ c ∈ d.english, NumberChar c := d.numberChars_layout (Or.inr rfl) (Or.inl rfl)
  refine ⟨readsAs_of_handed ?_, readsAs_of_handed ?_, fun _ _ _ h => coerce_number_isFinite h⟩
  · rw [stripNumberMarks_trimSpace, stripNumberMarks_markedText pre post hgerman,
      d.settle_german dash]
  · rw [stripNumberMarks_trimSpace, stripNumberMarks_markedText pre post henglish,
      d.settle_english]

end CreditExtraction
