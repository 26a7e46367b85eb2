import CreditExtraction.Proofs.Numbers.NumberText

/-!
# Reading a decimal: the nearest float, or a range error

`readFloat` takes a decimal `mant * 10^scale` to the binary64 float nearest to it, ties to even
(`NearestBinary64`): the canonical float whose rounding interval holds the value, or the zero of
its sign when the value is at most half the least subnormal. Past the overflow threshold,
halfway from the largest float to `2^1024`, there is no float to give.

* `nearestFloat_decimal`: every decimal reads as its nearest float below the threshold, and
  overflows from it on (`ReadsNearest`). The far-off magnitudes that reading settles by the
  decimal point alone agree with that: past the window they overflow, below it they are below
  half the least subnormal.
* `parseFloat64_decimalText`: the same for a decimal text, with the range error's message.
* `readFloat_isFinite`: a text that is no special word reads, when it reads at all, as a finite
  float.
-/

namespace CreditExtraction.Text

open BinaryFormat

/-! ## The nearest float -/

/-- `x` is the binary64 float nearest to the magnitude `v` with the sign `neg`, ties to even:
the canonical float whose rounding interval holds `v`, or the zero of that sign when `v` is at
most half the least subnormal. -/
def NearestBinary64 (neg : Bool) (v : ℚ) (x : Float) : Prop :=
  (∃ m e, binary64.Canonical m e ∧ binary64.RoundsTo v m e ∧
    FloatValue.ofFloat x = .finite neg m e) ∨
  (v ≤ 2 ^ (binary64.minExp - 1) ∧ FloatValue.ofFloat x = .finite neg 0 binary64.minExp)

/-- What reading the magnitude `v` with the sign `neg` may give: below the overflow threshold
its nearest float, and from the threshold on nothing. -/
def ReadsNearest (neg : Bool) (v : ℚ) : Option Float → Prop
  | some x => v < binary64.overflowThreshold ∧ NearestBinary64 neg v x
  | none => binary64.overflowThreshold ≤ v

/-- The overflow threshold of binary64 lies between half the least subnormal and `2^1024`. -/
theorem binary64_overflowThreshold_bounds :
    (2 : ℚ) ^ (-1075 : Int) < binary64.overflowThreshold ∧
      binary64.overflowThreshold < 2 ^ (1024 : Int) := by
  have h971 : (0 : ℚ) < 2 ^ (971 : Int) := by positivity
  have hsplit : (2 : ℚ) ^ (1024 : Int) = 2 ^ 53 * 2 ^ (971 : Int) := by
    rw [show (2 : ℚ) ^ 53 = 2 ^ (53 : Int) from (zpow_natCast 2 53).symm,
      ← zpow_add₀ two_ne_zero]
    norm_num
  have hsmall : (2 : ℚ) ^ (-1075 : Int) < 2 ^ (971 : Int) :=
    zpow_lt_zpow_right₀ (by norm_num) (by norm_num)
  show (2 : ℚ) ^ (-1075 : Int) < (2 ^ 53 - 1 / 2) * 2 ^ (971 : Int) ∧
    (2 ^ 53 - 1 / 2) * 2 ^ (971 : Int) < 2 ^ (1024 : Int)
  constructor
  · calc (2 : ℚ) ^ (-1075 : Int) < 1 * 2 ^ (971 : Int) := by rw [one_mul]; exact hsmall
      _ ≤ (2 ^ 53 - 1 / 2) * 2 ^ (971 : Int) := by gcongr; norm_num
  · rw [hsplit]
    exact mul_lt_mul_of_pos_right (by norm_num) h971

/-! ## Reading a decimal -/

/-- Rounding a positive fraction reads as the float nearest to it, or overflows. -/
theorem readsNearest_roundRatio {num den : Nat} (neg : Bool) (hnum : 0 < num) (hden : 0 < den) :
    ReadsNearest neg ((num : ℚ) / den)
      (match roundRatio binary64 num den with
        | some (0, _) => some (if neg then Float.negZero else 0.0)
        | some (m, e) => some (floatOfDyadic neg m e)
        | none => none) := by
  rcases roundRatio_cases (f := binary64) (by decide) (by decide) hnum hden with
    ⟨hnone, hover⟩ | ⟨e, hzero, hsmall⟩ | ⟨m, e, hsome, hc, hx⟩
  · rw [hnone]
    exact hover
  · rw [hzero]
    have hlt : (num : ℚ) / den < binary64.overflowThreshold :=
      not_le.1 fun h => absurd ((roundRatio_eq_none_iff (by decide) (by decide) hnum hden).2 h)
        (by simp [hzero])
    exact ⟨hlt, Or.inr ⟨hsmall, ofFloat_signedZero neg⟩⟩
  · obtain ⟨k, rfl⟩ : ∃ k, m = k + 1 := ⟨m - 1, by have := hc.pos; omega⟩
    rw [hsome]
    exact ⟨hx.lt_overflowThreshold (by decide) hc,
      Or.inl ⟨k + 1, e, hc, hx, ofFloat_floatOfDyadic hc⟩⟩


/-- A decimal `mant * 10^scale` reads as its nearest float below the overflow threshold, and
overflows from it on. -/
theorem nearestFloat_decimal (neg : Bool) (mant : Nat) (scale : Int) :
    ReadsNearest neg ((mant : ℚ) * 10 ^ scale) (nearestFloat .binary64 neg mant scale false) := by
  obtain ⟨hlow, hhigh⟩ := binary64_overflowThreshold_bounds
  have hzero : (0 : ℚ) < 2 ^ (-1075 : Int) := by positivity
  unfold nearestFloat
  rcases Nat.eq_zero_or_pos mant with rfl | hmant
  · -- zero reads as the zero of its sign
    rw [if_pos rfl, Nat.cast_zero, zero_mul]
    exact ⟨by linarith, Or.inr ⟨by positivity, ofFloat_signedZero neg⟩⟩
  obtain ⟨hp1, hp2⟩ := value_point_bounds hmant scale
  rw [if_neg hmant.ne']
  dsimp only
  have h53 : binary64.precision = 53 := rfl
  simp only [Bool.false_eq_true, if_false, h53, if_true]
  by_cases hhi : (decimalLength mant : Int) + scale > 310
  · -- past the window, at least `10^310`: overflow
    rw [if_pos hhi]
    have : (10 : ℚ) ^ (310 : Int) ≤ 10 ^ ((decimalLength mant : Int) + scale - 1) :=
      zpow_le_zpow_right₀ (by norm_num) (by omega)
    exact (hhigh.trans_le (two_zpow_1024_le.trans (this.trans hp1))).le
  rw [if_neg hhi]
  by_cases hlo : (decimalLength mant : Int) + scale < -325
  · -- below the window, under `10^-326`: the zero of its sign
    rw [if_pos hlo]
    have : (10 : ℚ) ^ ((decimalLength mant : Int) + scale) ≤ 10 ^ (-326 : Int) :=
      zpow_le_zpow_right₀ (by norm_num) (by omega)
    have hv : (mant : ℚ) * 10 ^ scale ≤ 2 ^ (-1075 : Int) :=
      (hp2.trans_le (this.trans ten_zpow_326_le)).le
    exact ⟨hv.trans_lt hlow, Or.inr ⟨hv, ofFloat_signedZero neg⟩⟩
  rw [if_neg hlo]
  -- in the window the exact fraction is rounded
  by_cases hs : 0 ≤ scale
  · simp only [hs, if_true]
    have hv : ((mant * Nat.pow 10 scale.toNat : Nat) : ℚ) / (1 : Nat) = mant * 10 ^ scale := by
      rw [ten_zpow_of_nonneg hs]
      push_cast [Nat.pow_eq]
      ring
    rw [← hv]
    exact readsNearest_roundRatio neg (by simp [Nat.pow_eq]; positivity) one_pos
  · simp only [hs, if_false]
    have hv : (mant : ℚ) / (Nat.pow 10 (-scale).toNat : Nat) = mant * 10 ^ scale := by
      rw [ten_zpow_of_neg (not_le.1 hs)]
      push_cast [Nat.pow_eq]
      ring
    rw [← hv]
    exact readsNearest_roundRatio neg hmant (by simp [Nat.pow_eq])


/-- Whatever reading gives reads as a signed `m * 2^e` of the sign asked for: never an
infinity or a NaN. -/
theorem nearestFloat_ofFloat {neg hex : Bool} {mant : Nat} {scale : Int} {x : Float}
    (h : nearestFloat .binary64 neg mant scale hex = some x) :
    ∃ m e, FloatValue.ofFloat x = .finite neg m e := by
  cases hex with
  | false =>
    have hread := nearestFloat_decimal neg mant scale
    rw [h] at hread
    rcases hread.2 with ⟨m, e, -, -, hx⟩ | ⟨-, hx⟩
    exacts [⟨m, e, hx⟩, ⟨0, _, hx⟩]
  | true =>
    unfold nearestFloat at h
    rcases Nat.eq_zero_or_pos mant with rfl | hmant
    · rw [if_pos rfl, Option.some.injEq] at h
      exact ⟨0, _, h ▸ ofFloat_signedZero neg⟩
    rw [if_neg hmant.ne'] at h
    -- binary digits: the exact fraction is rounded
    obtain ⟨num, den, hnum, hden, hpair⟩ : ∃ num den, 0 < num ∧ 0 < den ∧
        (if 0 ≤ scale then (mant * Nat.pow 2 scale.toNat, 1)
          else (mant, Nat.pow 2 (-scale).toNat)) =
          (num, den) := by
      split_ifs
      · exact ⟨_, _, by simp [Nat.pow_eq]; positivity, one_pos, rfl⟩
      · exact ⟨_, _, hmant, by simp [Nat.pow_eq], rfl⟩
    simp only [hpair, if_true, Option.map_eq_some_iff] at h
    obtain ⟨⟨m, e⟩, hr, rfl⟩ := h
    rcases roundRatio_cases (f := binary64) (by decide) (by decide) hnum hden with
      ⟨hnone, -⟩ | ⟨e', hzero, -⟩ | ⟨m', e', hsome, hc, -⟩
    · simp [hnone] at hr
    · rw [hzero, Option.some.injEq, Prod.mk.injEq] at hr
      obtain ⟨rfl, rfl⟩ := hr
      exact ⟨0, _, ofFloat_floatOfDyadic_zero neg _⟩
    · rw [hsome, Option.some.injEq, Prod.mk.injEq] at hr
      obtain ⟨rfl, rfl⟩ := hr
      exact ⟨m', e', ofFloat_floatOfDyadic hc⟩

/-- A text that is no special word reads, when it reads at all, as a finite float. -/
theorem readFloat_isFinite {s : String} {x : Float} (hs : readSpecial s.toList = none)
    (h : readFloat .binary64 s = .ok x) : x.isFinite = true := by
  unfold readFloat at h
  simp only [hs] at h
  split at h
  · cases h
  · rename_i n _
    cases hx : nearestFloat .binary64 n.negative n.mant n.scale n.hex with
    | none =>
      simp only [hx] at h
      split_ifs at h
    | some y =>
      obtain ⟨m, e, hm⟩ := nearestFloat_ofFloat hx
      simp only [hx] at h
      split_ifs at h
      cases h
      exact isFinite_of_ofFloat hm

/-- The text of a decimal value reads as its nearest float below the overflow threshold, and is
a range error from it on. -/
theorem parseFloat64_decimalText {s : String} {neg : Bool} {v : ℚ}
    (hs : DecimalText s.toList neg v) :
    (v < binary64.overflowThreshold ∧
        ∃ x, parseFloat64 s = .ok x ∧ NearestBinary64 neg v x) ∨
      (binary64.overflowThreshold ≤ v ∧
        parseFloat64 s = .error (FloatReadError.range.message "ParseFloat" s)) := by
  obtain ⟨mant, scale, hscan, hv⟩ := hs.scan
  have hu : s.toList.contains '_' = false := by simpa using hs.no_underscore
  have hread := nearestFloat_decimal neg mant scale
  rw [hv] at hread
  unfold parseFloat64 readFloat
  simp only [hs.special, hscan, hu, Bool.false_and, Bool.false_eq_true, if_false]
  cases hx : nearestFloat .binary64 neg mant scale false with
  | none =>
    rw [hx] at hread
    exact Or.inr ⟨hread, rfl⟩
  | some x =>
    rw [hx] at hread
    exact Or.inl ⟨hread.1, x, rfl, hread.2⟩

/-! ## Signs and points -/

/-- A plus sign before a digit changes nothing the scan reads. -/
theorem scanNumber_plus {d : Char} (r : List Char) (hd : d.isDigit = true) :
    scanNumber ('+' :: d :: r) = scanNumber (d :: r) := by
  have hpm : d ≠ '+' ∧ d ≠ '-' := by
    have := toNat_of_isDigit hd
    constructor <;> rintro rfl <;> simp at this
  unfold scanNumber
  simp only [hpm.1, hpm.2, List.cons.injEq, false_and, imp_false, forall_const, not_false_eq_true]

/-- A plus sign and a digit start no special word. -/
theorem readSpecial_plus {d : Char} (r : List Char) (hd : d.isDigit = true) :
    readSpecial ('+' :: d :: r) = none := by
  have hl := toLower_of_isDigit hd
  have hw : d ≠ 'i' ∧ d ≠ 'n' := by
    have := toNat_of_isDigit hd
    constructor <;> rintro rfl <;> simp at this
  simp [readSpecial, commonPrefixIgnoreCase, eqIgnoreCase, hl, hw]

/-- A plus sign before the digits of a decimal text leaves its reading as it is. -/
theorem DecimalText.plus {d : Char} {r : List Char} {v : ℚ} (hd : d.isDigit = true)
    (h : DecimalText (d :: r) false v) : DecimalText ('+' :: d :: r) false v := by
  obtain ⟨mant, scale, hscan, hv⟩ := h.scan
  refine ⟨readSpecial_plus r hd, ?_, mant, scale, by rw [scanNumber_plus r hd, hscan], hv⟩
  simpa using h.no_underscore

/-- The digits of `i`, a point, then the digits `f`. -/
theorem decimalText_point (neg : Bool) (i : Nat) {f : List Char} (hf : AllDigits f) :
    DecimalText (withSign neg (Nat.toDigits 10 i ++ '.' :: f)) neg
      (Nat.ofDigitChars 10 (Nat.toDigits 10 i ++ f) 0 * 10 ^ (-(f.length : Int))) := by
  have hds := allDigits_toDigits i
  have hscan := scanMantissa_point hds (toDigits_ne_nil i) hf ExponentText.empty
  rw [List.append_nil] at hscan
  obtain ⟨d, r, hdr, hd⟩ := exists_digit_head i
  refine decimalText_of_scan neg ⟨d, r ++ '.' :: f, by simp [hdr], hd⟩ ?_ hscan
    ExponentText.empty (by simp)
  exact hds.numeralText.append (NumeralText.cons numeralChar_point hf.numeralText)

end CreditExtraction.Text
