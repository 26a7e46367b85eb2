import CreditExtraction.Proofs.Numbers.FloatBits
import CreditExtraction.Text.FloatText

/-!
# Scanning decimal texts

`readFloat` scans a text into a sign, a mantissa and a power of ten before it rounds. The scan
is stated the way a tokenizer is: a run of digits, a point, an exponent mark each move it by a
known amount (`scanMantissa_digits`, `scanMantissa_point`, `scanExponent_digits`), so that a
text of digits, point and exponent scans as the value it denotes (`scanNumber_of_digits`).
`DecimalText` collects what reading needs of a text (`decimalText_of_scan`,
`decimalText_whole`).
-/
namespace CreditExtraction.Text

/-! ## Digit characters -/

/-- Every character is a decimal digit. -/
def AllDigits (cs : List Char) : Prop := ∀ c ∈ cs, c.isDigit = true

theorem allDigits_append {cs ds : List Char} (hc : AllDigits cs) (hd : AllDigits ds) :
    AllDigits (cs ++ ds) :=
  List.forall_mem_append.2 ⟨hc, hd⟩

theorem allDigits_toDigits (n : Nat) : AllDigits (Nat.toDigits 10 n) :=
  fun _ hc => Nat.isDigit_of_mem_toDigits (by decide) (by decide) hc

theorem allDigits_replicate_zero (k : Nat) : AllDigits (List.replicate k '0') := by
  intro c hc
  rw [List.eq_of_mem_replicate hc]
  rfl

theorem toNat_of_isDigit {c : Char} (h : c.isDigit = true) : 48 ≤ c.toNat ∧ c.toNat ≤ 57 :=
  Char.isDigit_iff_toNat.1 h

/-- A digit is its own lower case. -/
theorem toLower_of_isDigit {c : Char} (h : c.isDigit = true) : c.toLower = c := by
  have hc := toNat_of_isDigit h
  unfold Char.toLower
  rw [dif_neg]
  rintro ⟨h1, -⟩
  have h1' : 65 ≤ c.val.toNat := UInt32.le_iff_toNat_le.1 h1
  have : c.val.toNat ≤ 57 := hc.2
  omega

/-- A digit is neither an underscore nor a point. -/
theorem ne_of_isDigit {c : Char} (h : c.isDigit = true) : c ≠ '_' ∧ c ≠ '.' := by
  have := toNat_of_isDigit h
  constructor <;> rintro rfl <;> simp at this

/-- The characters a written number is made of. -/
def NumeralChar (c : Char) : Prop := c.isDigit = true ∨ c = '.' ∨ c = 'e' ∨ c = '+' ∨ c = '-'

theorem NumeralChar.of_isDigit {c : Char} (h : c.isDigit = true) : NumeralChar c := Or.inl h

theorem numeralChar_point : NumeralChar '.' := Or.inr (Or.inl rfl)

/-- No character of a written number is an underscore or lower-cases to an `x`. -/
theorem NumeralChar.ne {c : Char} (h : NumeralChar c) : c ≠ '_' ∧ c.toLower ≠ 'x' := by
  rcases h with h | rfl | rfl | rfl | rfl
  · rw [toLower_of_isDigit h]
    exact ⟨(ne_of_isDigit h).1, by rintro rfl; simp at h⟩
  all_goals decide

/-- Every character is a numeral character. -/
def NumeralText (t : List Char) : Prop := ∀ c ∈ t, NumeralChar c

theorem NumeralText.cons {c : Char} {t : List Char} (hc : NumeralChar c) (ht : NumeralText t) :
    NumeralText (c :: t) :=
  List.forall_mem_cons.2 ⟨hc, ht⟩

theorem NumeralText.append {t u : List Char} (ht : NumeralText t) (hu : NumeralText u) :
    NumeralText (t ++ u) :=
  List.forall_mem_append.2 ⟨ht, hu⟩

theorem AllDigits.numeralText {ds : List Char} (h : AllDigits ds) : NumeralText ds :=
  fun c hc => NumeralChar.of_isDigit (h c hc)

/-! ## Lengths and powers of ten -/

theorem decimalLength_pos (n : Nat) : 0 < decimalLength n := Nat.length_toDigits_pos

theorem decimalLength_bounds' (n : Nat) : n < 10 ^ decimalLength n :=
  (Nat.length_toDigits_le_iff (by norm_num) (decimalLength_pos n)).1 le_rfl

/-- A positive number has `decimalLength` digits: it lies in `[10^(len-1), 10^len)`. -/
theorem decimalLength_bounds {n : Nat} (hn : 0 < n) :
    10 ^ (decimalLength n - 1) ≤ n ∧ n < 10 ^ decimalLength n := by
  have hlen := decimalLength_pos n
  refine ⟨?_, decimalLength_bounds' n⟩
  rcases Nat.eq_zero_or_pos (decimalLength n - 1) with h0 | hpos
  · rw [h0]
    exact hn
  · by_contra hlt
    have h := (Nat.length_toDigits_le_iff (by norm_num) hpos).2 (not_le.1 hlt)
    change decimalLength n ≤ decimalLength n - 1 at h
    omega

theorem ten_zpow_of_nonneg {j : Int} (hj : 0 ≤ j) : (10 : ℚ) ^ j = 10 ^ j.toNat := by
  rw [← zpow_natCast, Int.toNat_of_nonneg hj]

theorem ten_zpow_of_neg {j : Int} (hj : j < 0) : (10 : ℚ) ^ j = 1 / 10 ^ (-j).toNat := by
  rw [one_div, ← zpow_natCast, show (((-j).toNat : Nat) : Int) = -j by omega, zpow_neg, inv_inv]

/-! ## Scanning a mantissa -/

/-- The texts that may follow the mantissa digits of a written number, with the power of ten
each adds: nothing, or `e`, a sign and the exponent's digits. -/
inductive ExponentText : List Char → Int → Prop
  | empty : ExponentText [] 0
  | plus {e₀ : Char} {es : List Char} : AllDigits (e₀ :: es) →
      Nat.ofDigitChars 10 (e₀ :: es) 0 < 100000 →
      ExponentText ('e' :: '+' :: e₀ :: es) (Nat.ofDigitChars 10 (e₀ :: es) 0)
  | minus {e₀ : Char} {es : List Char} : AllDigits (e₀ :: es) →
      Nat.ofDigitChars 10 (e₀ :: es) 0 < 100000 →
      ExponentText ('e' :: '-' :: e₀ :: es) (-(Nat.ofDigitChars 10 (e₀ :: es) 0 : Int))

theorem scanMantissa_digits {ds : List Char} (hds : AllDigits ds) (rest : List Char) (m : Nat)
    (dp : Int) (sawDot saw : Bool) :
    scanMantissa false (ds ++ rest) m dp sawDot saw =
      scanMantissa false rest (Nat.ofDigitChars 10 ds m)
        (if sawDot then dp - ds.length else dp) sawDot (saw || !ds.isEmpty) := by
  induction ds generalizing m dp saw with
  | nil => simp
  | cons d ds ih =>
    have hd : d.isDigit = true := hds d (by simp)
    obtain ⟨hu, hp⟩ := ne_of_isDigit hd
    rw [List.cons_append, scanMantissa, if_neg (by simpa using hu), if_neg (by simpa using hp)]
    simp only [hd, ite_true, Bool.false_eq_true, ite_false]
    rw [ih (fun c hc => hds c (List.mem_cons_of_mem d hc)), Nat.ofDigitChars_cons]
    have hv : d.toNat - 48 = d.toNat - '0'.toNat := rfl
    cases sawDot with
    | false => simp [hv, Nat.mul_comm]
    | true =>
      simp only [hv, Nat.mul_comm, ite_true, List.length_cons, Nat.cast_add, Nat.cast_one,
        List.isEmpty_cons, Bool.not_false, Bool.or_true]
      congr 1
      omega

theorem scanMantissa_dot (r : List Char) (m : Nat) (dp : Int) (saw : Bool) :
    scanMantissa false ('.' :: r) m dp false saw = scanMantissa false r m dp true saw := by
  simp [scanMantissa]

/-- The scan stops at the exponent mark. -/
theorem scanMantissa_e (r : List Char) (m : Nat) (dp : Int) (sawDot saw : Bool) :
    scanMantissa false ('e' :: r) m dp sawDot saw = (m, dp, saw, 'e' :: r) := by
  simp [scanMantissa]

/-- The scan passes over nothing before the exponent mark. -/
theorem scanMantissa_exponentText {tail : List Char} {k : Int} (htail : ExponentText tail k)
    (m : Nat) (dp : Int) (sawDot saw : Bool) :
    scanMantissa false tail m dp sawDot saw = (m, dp, saw, tail) := by
  cases htail with
  | empty => rfl
  | plus _ _ | minus _ _ => exact scanMantissa_e _ m dp sawDot saw

/-- Digits without a point, then an exponent. -/
theorem scanMantissa_whole {ds tail : List Char} {k : Int} (hds : AllDigits ds) (hne : ds ≠ [])
    (htail : ExponentText tail k) :
    scanMantissa false (ds ++ tail) 0 0 false false = (Nat.ofDigitChars 10 ds 0, 0, true, tail) := by
  rw [scanMantissa_digits hds, scanMantissa_exponentText htail]
  simp [hne]

/-- Digits, a point and digits, then an exponent: the point scales by the digits after it. -/
theorem scanMantissa_point {ds₁ ds₂ tail : List Char} {k : Int} (h₁ : AllDigits ds₁)
    (hne : ds₁ ≠ []) (h₂ : AllDigits ds₂) (htail : ExponentText tail k) :
    scanMantissa false (ds₁ ++ '.' :: (ds₂ ++ tail)) 0 0 false false =
      (Nat.ofDigitChars 10 (ds₁ ++ ds₂) 0, -(ds₂.length : Int), true, tail) := by
  rw [scanMantissa_digits h₁, scanMantissa_dot, scanMantissa_digits h₂,
    scanMantissa_exponentText htail, Nat.ofDigitChars_append]
  simp [hne]

/-! ## Scanning an exponent -/

theorem le_ofDigitChars (l : List Char) (init : Nat) : init ≤ Nat.ofDigitChars 10 l init := by
  rw [Nat.ofDigitChars_eq_ofDigitChars_zero]
  have : init ≤ 10 ^ l.length * init := Nat.le_mul_of_pos_left init (Nat.pow_pos (by decide))
  omega

/-- Below the cap, the exponent scan reads the digits' value. -/
theorem scanExponent_digits {ds : List Char} (hds : AllDigits ds) (e : Nat) (saw : Bool)
    (hlt : Nat.ofDigitChars 10 ds e < 100000) :
    scanExponent ds e saw = (Nat.ofDigitChars 10 ds e, saw || !ds.isEmpty, []) := by
  induction ds generalizing e saw with
  | nil => simp [scanExponent]
  | cons d ds ih =>
    have hd : d.isDigit = true := hds d (by simp)
    rw [Nat.ofDigitChars_cons] at hlt ⊢
    have hv : d.toNat - 48 = d.toNat - '0'.toNat := rfl
    -- the cap never bites: each partial value is at most the whole one
    have hcap : e * 10 + (d.toNat - 48) < 100000 := by
      have := le_ofDigitChars ds (10 * e + (d.toNat - '0'.toNat))
      omega
    rw [scanExponent, if_neg (by simpa using (ne_of_isDigit hd).1), if_pos hd,
      Nat.min_eq_left hcap.le, ih (fun c hc => hds c (List.mem_cons_of_mem d hc)) _ _
        (by rwa [hv, Nat.mul_comm])]
    simp [hv, Nat.mul_comm]

/-! ## Scanning a number -/

/-- A text with a leading minus sign when `neg`. -/
def withSign (neg : Bool) (t : List Char) : List Char := if neg then '-' :: t else t

@[simp] theorem withSign_false (t : List Char) : withSign false t = t := rfl

@[simp] theorem withSign_true (t : List Char) : withSign true t = '-' :: t := rfl

/-- A text that starts with a digit, perhaps after a minus sign, and is not hexadecimal scans as
the mantissa it starts with, scaled by the exponent that follows. -/
theorem scanNumber_of_digits {neg : Bool} {d : Char} {r tail : List Char} {mant : Nat}
    {dp k : Int} (hd : d.isDigit = true) (hx : ∀ c r', d :: r = '0' :: c :: r' → c.toLower ≠ 'x')
    (h : scanMantissa false (d :: r) 0 0 false false = (mant, dp, true, tail))
    (htail : ExponentText tail k) :
    scanNumber (withSign neg (d :: r)) = some ⟨neg, mant, dp + k, false⟩ := by
  have hpm : d ≠ '+' ∧ d ≠ '-' := by
    have := toNat_of_isDigit hd
    constructor <;> rintro rfl <;> simp at this
  have hminus : ('-' : Char) ≠ '+' := by decide
  -- what follows the mantissa: nothing, or an exponent whose digits the exponent scan reads
  have hexp : ∀ e₀ es, (tail = 'e' :: '+' :: e₀ :: es ∨ tail = 'e' :: '-' :: e₀ :: es) →
      e₀.isDigit = true ∧ scanExponent (e₀ :: es) 0 false = (k.natAbs, true, []) := by
    intro e₀ es he
    cases htail with
    | empty => simp at he
    | plus hes hlt | minus hes hlt =>
      simp at he
      obtain ⟨rfl, rfl⟩ := he
      exact ⟨hes _ List.mem_cons_self, by simpa using scanExponent_digits hes 0 false hlt⟩
  unfold withSign scanNumber
  -- the sign and the hexadecimal prefix: only a leading `0` needs a look at what follows
  by_cases h0 : d = '0'
  · subst h0
    cases r with
    | nil =>
      cases neg <;> simp only [hpm.1, hpm.2, not_false_eq_true, List.cons.injEq, false_and,
        imp_false, forall_const, ite_true, ite_false, Bool.false_eq_true] <;>
        rw [h] <;> cases htail <;> simp_all
    | cons c r' =>
      have hc : (c.toLower == 'x') = false := by simpa using hx c r' rfl
      cases neg <;> simp only [hc, hpm.1, hpm.2, not_false_eq_true, List.cons.injEq,
        false_and, imp_false, forall_const, Bool.false_and, ite_true,
        ite_false, Bool.false_eq_true] <;> rw [h] <;> cases htail <;> simp_all
  · cases neg <;> simp only [h0, hpm.1, hpm.2, not_false_eq_true, List.cons.injEq, false_and,
      imp_false, forall_const, ite_true, ite_false, Bool.false_eq_true] <;>
      rw [h] <;> cases htail <;> simp_all

/-- A digit, after an optional minus sign, starts no special word. -/
theorem readSpecial_of_digit {neg : Bool} {d : Char} (r : List Char) (hd : d.isDigit = true) :
    readSpecial (withSign neg (d :: r)) = none := by
  have hl := toLower_of_isDigit hd
  have hw : d ≠ 'i' ∧ d ≠ 'n' ∧ d ≠ '+' ∧ d ≠ '-' := by
    have := toNat_of_isDigit hd
    refine ⟨?_, ?_, ?_, ?_⟩ <;> rintro rfl <;> simp at this
  cases neg <;> simp [withSign, readSpecial, commonPrefixIgnoreCase, eqIgnoreCase, hl, hw]

/-! ## Reading a decimal value back -/

section Reading

open BinaryFormat

/-- A positive mantissa scaled by `10 ^ scale` lies in the decade below its point. -/
theorem value_point_bounds {mant : Nat} (hm : 0 < mant) (scale : Int) :
    (10 : ℚ) ^ ((decimalLength mant : Int) + scale - 1) ≤ mant * 10 ^ scale ∧
      (mant : ℚ) * 10 ^ scale < 10 ^ ((decimalLength mant : Int) + scale) := by
  obtain ⟨h1, h2⟩ := decimalLength_bounds hm
  have hlen := decimalLength_pos mant
  constructor
  · rw [show (decimalLength mant : Int) + scale - 1 = ((decimalLength mant - 1 : Nat) : Int) + scale
      by omega, zpow_add₀ (by norm_num), zpow_natCast]
    gcongr
    exact_mod_cast h1
  · rw [zpow_add₀ (by norm_num), zpow_natCast]
    gcongr
    exact_mod_cast h2

theorem two_zpow_1024_le : (2 : ℚ) ^ (1024 : Int) ≤ 10 ^ (310 : Int) := by
  rw [show (1024 : Int) = ((1024 : Nat) : Int) from rfl, show (310 : Int) = ((310 : Nat) : Int) from rfl,
    zpow_natCast, zpow_natCast]
  exact_mod_cast (by decide +kernel : (2 : Nat) ^ 1024 ≤ 10 ^ 310)

theorem ten_zpow_326_le : (10 : ℚ) ^ (-326 : Int) ≤ 2 ^ (-1075 : Int) := by
  rw [show (-326 : Int) = -((326 : Nat) : Int) from rfl, show (-1075 : Int) = -((1075 : Nat) : Int) from rfl,
    zpow_neg, zpow_neg, zpow_natCast, zpow_natCast, inv_le_inv₀ (by positivity) (by positivity)]
  exact_mod_cast (by decide +kernel : (2 : Nat) ^ 1075 ≤ 10 ^ 326)

/-- What reading needs of a text to take it as the decimal value `v` with the sign `neg`: no
special word, no underscore, and a scan that gives `v`. -/
structure DecimalText (cs : List Char) (neg : Bool) (v : ℚ) : Prop where
  special : readSpecial cs = none
  no_underscore : '_' ∉ cs
  scan : ∃ mant scale, scanNumber cs = some ⟨neg, mant, scale, false⟩ ∧ (mant : ℚ) * 10 ^ scale = v

/-- A text that starts with a digit, is made of numeral characters and scans as `mant` with the
point at `dp`, then an exponent `k`, is the decimal text of `mant * 10 ^ (dp + k)`. -/
theorem decimalText_of_scan {t tail : List Char} {mant : Nat} {dp k : Int} {v : ℚ} (neg : Bool)
    (hhead : ∃ d r, t = d :: r ∧ d.isDigit = true) (hchars : NumeralText t)
    (h : scanMantissa false t 0 0 false false = (mant, dp, true, tail))
    (htail : ExponentText tail k) (hv : (mant : ℚ) * 10 ^ (dp + k) = v) :
    DecimalText (withSign neg t) neg v := by
  obtain ⟨d, r, rfl, hd⟩ := hhead
  have hu : '_' ∉ d :: r := fun hm => (hchars _ hm).ne.1 rfl
  refine ⟨readSpecial_of_digit r hd, ?_, mant, dp + k, ?_, hv⟩
  · cases neg <;> simpa [withSign] using hu
  · refine scanNumber_of_digits hd (fun c r' he => (hchars c ?_).ne.2) h htail
    rw [he]
    simp

/-! ## The written layouts -/

theorem toDigits_ne_nil (c : Nat) : Nat.toDigits 10 c ≠ [] :=
  List.ne_nil_of_length_pos (decimalLength_pos c)

theorem exists_digit_head (c : Nat) : ∃ d r, Nat.toDigits 10 c = d :: r ∧ d.isDigit = true := by
  obtain ⟨d, r, h⟩ := List.exists_cons_of_ne_nil (toDigits_ne_nil c)
  exact ⟨d, r, h, allDigits_toDigits c d (by simp [h])⟩

section Layouts

variable (neg : Bool) (c : Nat)

/-- The digits of `c`, then zeros. -/
theorem decimalText_whole (k : Nat) :
    DecimalText (withSign neg (Nat.toDigits 10 c ++ List.replicate k '0')) neg
      (c * 10 ^ (k : Int)) := by
  have hds := allDigits_toDigits c
  have hall := allDigits_append hds (allDigits_replicate_zero k)
  have hscan := scanMantissa_whole hall (by simp) ExponentText.empty
  rw [List.append_nil] at hscan
  obtain ⟨d, r, hdr, hd⟩ := exists_digit_head c
  refine decimalText_of_scan neg ⟨d, r ++ List.replicate k '0', by simp [hdr], hd⟩
    hall.numeralText hscan ExponentText.empty ?_
  simp [Nat.ofDigitChars_append, mul_comm]

end Layouts

end Reading

end CreditExtraction.Text
