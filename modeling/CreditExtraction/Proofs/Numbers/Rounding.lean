import Mathlib
import CreditExtraction.Text.Shortest

/-!
# Rounding a fraction to the nearest float

`roundRatio f num den` rounds the positive fraction `num / den` to the nearest float of the
format `f`, ties to even. A canonical float `m * 2^e` of the format (`Canonical`) stands for
the fractions of its rounding interval (`RoundsTo`): measured in units of `2^e`, within half a
unit of `m` on each side, or only a quarter below at the bottom of a binade, the two ends
included when `m` is even.

* `roundRatio_cases`: what rounding gives is no float at or past the overflow threshold, zero
  at most half the least subnormal, and otherwise the canonical float whose rounding interval
  holds the fraction; `roundRatio_eq_none_iff` reads off when it overflows.

The rounding first picks the exponent of canonical form of the fraction (`scaleExp`), whose
truncated significand lies in `[2^(p-1), 2^p)` unless the exponent is the smallest
(`ExpFits`, `scaleExp_fits`), and then rounds the scaled fraction half to even
(`roundHalfEven_near`).
-/
namespace CreditExtraction.Text

namespace BinaryFormat

variable (f : BinaryFormat)

/-- `m * 2^e` is a float of the format in canonical form: a positive significand below
`2^precision`, at least `2^(precision - 1)` unless the exponent is the smallest one, and an
exponent in range. -/
structure Canonical (m : Nat) (e : Int) : Prop where
  pos : 0 < m
  lt_pow : m < 2 ^ f.precision
  normal : 2 ^ (f.precision - 1) ≤ m ∨ e = f.minExp
  minExp_le : f.minExp ≤ e
  le_maxExp : e ≤ f.maxExp

/-- The distance from `m` down to the midpoint with the float below, in units of `2^e`: a
quarter at the bottom of a binade above the smallest exponent, where the float below has half
the spacing, else a half. -/
def lowerGap (m : Nat) (e : Int) : ℚ :=
  if m = 2 ^ (f.precision - 1) ∧ f.minExp < e then 1 / 4 else 1 / 2

/-- `x` lies in the rounding interval of `m * 2^e`: in units of `2^e`, it is at most the lower
gap below `m` and at most a half above, the ends included only for an even `m`. -/
def RoundsTo (x : ℚ) (m : Nat) (e : Int) : Prop :=
  if m % 2 = 0 then m - f.lowerGap m e ≤ x / 2 ^ e ∧ x / 2 ^ e ≤ m + 1 / 2
  else m - f.lowerGap m e < x / 2 ^ e ∧ x / 2 ^ e < m + 1 / 2

/-- `e` is the exponent of canonical form of `x`: in units of `2^e`, `x` is below `2^p`, and at
least `2^(p-1)` unless `e` is the smallest exponent. -/
def ExpFits (x : ℚ) (e : Int) : Prop :=
  f.minExp ≤ e ∧ x / 2 ^ e < 2 ^ f.precision ∧
    ((2 : ℚ) ^ (f.precision - 1) ≤ x / 2 ^ e ∨ e = f.minExp)

variable {f}

/-- Both ends of the rounding interval, whatever the parity. -/
theorem RoundsTo.bounds {x : ℚ} {m : Nat} {e : Int} (h : f.RoundsTo x m e) :
    m - f.lowerGap m e ≤ x / 2 ^ e ∧ x / 2 ^ e ≤ m + 1 / 2 := by
  unfold RoundsTo at h
  split at h
  · exact h
  · exact ⟨h.1.le, h.2.le⟩

theorem pow_precision_eq (hp : 1 ≤ f.precision) :
    (2 : ℚ) ^ f.precision = 2 * 2 ^ (f.precision - 1) := by
  rw [← pow_succ', Nat.sub_add_cancel hp]

theorem div_two_zpow_sub_one (x : ℚ) (e : Int) : x / 2 ^ (e - 1) = 2 * (x / 2 ^ e) := by
  rw [zpow_sub_one₀ two_ne_zero]
  field_simp

/-! ## The pieces of `roundRatio` -/

/-- `num / den` divided by `2^exp` and truncated: the quotient, the remainder and the divisor. -/
def divPow (num den : Nat) (exp : Int) : Nat × Nat × Nat :=
  if 0 ≤ exp then
    let d := den * Nat.pow 2 exp.toNat
    (num / d, num % d, d)
  else
    let n := num * Nat.pow 2 (-exp).toNat
    (n / den, n % den, den)

/-- The exponent `roundRatio` scales by: estimated from the lengths of `num` and `den`, and one
lower when the estimate leaves the significand short. -/
def scaleExp (f : BinaryFormat) (num den : Nat) : Int :=
  let e0 := max f.minExp ((Nat.log2 num : Int) - (Nat.log2 den : Int) - f.precision + 1)
  if (divPow num den e0).1 < Nat.pow 2 (f.precision - 1) ∧ e0 > f.minExp then e0 - 1 else e0

/-- `q + r/d` rounded to an integer, half to even. -/
def roundHalfEven (q r d : Nat) : Nat :=
  if 2 * r > d ∨ (2 * r = d ∧ q % 2 = 1) then q + 1 else q

theorem roundRatio_eq (f : BinaryFormat) (num den : Nat) :
    roundRatio f num den =
      let exp := f.scaleExp num den
      let q := roundHalfEven (divPow num den exp).1 (divPow num den exp).2.1 (divPow num den exp).2.2
      let (q, exp) := if q = Nat.pow 2 f.precision then (Nat.pow 2 (f.precision - 1), exp + 1) else (q, exp)
      if exp > f.maxExp then none else some (q, exp) := rfl

/-- Quotient and remainder of a natural division, as one fraction. -/
theorem div_add_mod_div (a d : Nat) (hd : 0 < d) :
    ((a / d : Nat) : ℚ) + ((a % d : Nat) : ℚ) / d = (a : ℚ) / d := by
  have hd' : (d : ℚ) ≠ 0 := by exact_mod_cast hd.ne'
  rw [eq_div_iff hd', add_mul, div_mul_cancel₀ _ hd']
  exact_mod_cast Nat.div_add_mod' a d

theorem divPow_of_nonneg (num den : Nat) {exp : Int} (h : 0 ≤ exp) :
    divPow num den exp =
      (num / (den * 2 ^ exp.toNat), num % (den * 2 ^ exp.toNat), den * 2 ^ exp.toNat) := by
  simp [divPow, h, Nat.pow_eq]

theorem divPow_of_neg (num den : Nat) {exp : Int} (h : exp < 0) :
    divPow num den exp =
      (num * 2 ^ (-exp).toNat / den, num * 2 ^ (-exp).toNat % den, den) := by
  simp [divPow, not_le.2 h, Nat.pow_eq]

theorem divPow_pos {den : Nat} (num : Nat) (exp : Int) (hden : 0 < den) :
    0 < (divPow num den exp).2.2 := by
  rcases le_or_gt 0 exp with h | h
  · rw [divPow_of_nonneg num den h]
    exact Nat.mul_pos hden (Nat.two_pow_pos _)
  · rw [divPow_of_neg num den h]
    exact hden

theorem divPow_rem_lt {den : Nat} (num : Nat) (exp : Int) (hden : 0 < den) :
    (divPow num den exp).2.1 < (divPow num den exp).2.2 := by
  rcases le_or_gt 0 exp with h | h
  · rw [divPow_of_nonneg num den h]
    exact Nat.mod_lt _ (Nat.mul_pos hden (Nat.two_pow_pos _))
  · rw [divPow_of_neg num den h]
    exact Nat.mod_lt _ hden

/-- The quotient and remainder of `divPow` make up `num / den / 2^exp`. -/
theorem divPow_value {den : Nat} (num : Nat) (exp : Int) (hden : 0 < den) :
    ((divPow num den exp).1 : ℚ) + (divPow num den exp).2.1 / (divPow num den exp).2.2 =
      (num : ℚ) / den / 2 ^ exp := by
  rcases le_or_gt 0 exp with h | h
  · rw [divPow_of_nonneg num den h, div_add_mod_div _ _ (Nat.mul_pos hden (Nat.two_pow_pos _)),
      Nat.cast_mul, Nat.cast_pow, div_div, ← zpow_natCast, Int.toNat_of_nonneg h]
    push_cast
    rfl
  · rw [divPow_of_neg num den h, div_add_mod_div _ _ hden, Nat.cast_mul, Nat.cast_pow,
      ← zpow_natCast, show (((-exp).toNat : Nat) : Int) = -exp by omega, zpow_neg]
    push_cast
    field_simp

/-- The quotient of `divPow` is the integer part of the scaled fraction. -/
theorem divPow_floor {den : Nat} (num : Nat) (exp : Int) (hden : 0 < den) :
    ((divPow num den exp).1 : ℚ) ≤ (num : ℚ) / den / 2 ^ exp ∧
      (num : ℚ) / den / 2 ^ exp < (divPow num den exp).1 + 1 := by
  have hd : (0 : ℚ) < (divPow num den exp).2.2 := by exact_mod_cast divPow_pos num exp hden
  have hr : ((divPow num den exp).2.1 : ℚ) < (divPow num den exp).2.2 := by
    exact_mod_cast divPow_rem_lt num exp hden
  rw [← divPow_value num exp hden]
  constructor
  · have : (0 : ℚ) ≤ (divPow num den exp).2.1 / (divPow num den exp).2.2 := by positivity
    linarith
  · have : ((divPow num den exp).2.1 : ℚ) / (divPow num den exp).2.2 < 1 := (div_lt_one hd).2 hr
    linarith

/-- Rounding `q + r/d` half to even lands within half of it, strictly so for an odd result. -/
theorem roundHalfEven_near {q r d : Nat} (hd : 0 < d) (hr : r < d) :
    (roundHalfEven q r d : ℚ) - 1 / 2 ≤ q + r / d ∧
      (q : ℚ) + r / d ≤ roundHalfEven q r d + 1 / 2 ∧
      (roundHalfEven q r d % 2 = 1 →
        (roundHalfEven q r d : ℚ) - 1 / 2 < q + r / d ∧
          (q : ℚ) + r / d < roundHalfEven q r d + 1 / 2) := by
  have hd' : (0 : ℚ) < d := by exact_mod_cast hd
  have hs0 : (0 : ℚ) ≤ r / d := by positivity
  have hs1 : (r : ℚ) / d < 1 := (div_lt_one hd').2 (by exact_mod_cast hr)
  -- `r / d` against a half, as `2r` against `d`
  have hhalf : (r : ℚ) / d - 1 / 2 = (2 * r - d) / (2 * d) := by field_simp
  have hpos : (0 : ℚ) < 2 * d := by positivity
  unfold roundHalfEven
  split_ifs with hup
  · -- rounded up: the fraction is at least a half, and more unless `q` is odd
    have hge : (0 : ℚ) ≤ r / d - 1 / 2 := by
      rw [hhalf]
      apply div_nonneg _ hpos.le
      have : (d : ℚ) ≤ 2 * r := by exact_mod_cast (show d ≤ 2 * r by omega)
      linarith
    push_cast
    refine ⟨by linarith, by linarith, fun hodd => ?_⟩
    have hgt : (0 : ℚ) < r / d - 1 / 2 := by
      rw [hhalf]
      apply div_pos _ hpos
      have : (d : ℚ) < 2 * r := by exact_mod_cast (show d < 2 * r by omega)
      linarith
    constructor <;> linarith
  · -- rounded down: the fraction is at most a half, and less when `q` is odd
    have hle : r / d - 1 / 2 ≤ (0 : ℚ) := by
      rw [hhalf]
      apply div_nonpos_of_nonpos_of_nonneg _ hpos.le
      have : (2 * r : ℚ) ≤ d := by exact_mod_cast (show 2 * r ≤ d by omega)
      linarith
    refine ⟨by linarith, by linarith, fun hodd => ?_⟩
    have hlt : r / d - 1 / 2 < (0 : ℚ) := by
      rw [hhalf]
      apply div_neg_of_neg_of_pos _ hpos
      have : (2 * r : ℚ) < d := by exact_mod_cast (show 2 * r < d by omega)
      linarith
    constructor <;> linarith

/-! ## The exponent of canonical form -/

theorem two_zpow_log2_le {n : Nat} (hn : 0 < n) : (2 : ℚ) ^ (Nat.log2 n : ℤ) ≤ n := by
  rw [zpow_natCast]
  exact_mod_cast Nat.log2_self_le hn.ne'

theorem lt_two_zpow_log2 (n : Nat) : (n : ℚ) < 2 ^ ((Nat.log2 n : ℤ) + 1) := by
  rw [show (Nat.log2 n : ℤ) + 1 = ((Nat.log2 n + 1 : Nat) : ℤ) by push_cast; rfl, zpow_natCast]
  exact_mod_cast Nat.lt_log2_self

/-- A fraction lies within a factor two of the power of two its lengths give. -/
theorem ratio_bounds {num den : Nat} (hnum : 0 < num) (hden : 0 < den) :
    (2 : ℚ) ^ ((Nat.log2 num : ℤ) - Nat.log2 den - 1) < (num : ℚ) / den ∧
      (num : ℚ) / den < 2 ^ ((Nat.log2 num : ℤ) - Nat.log2 den + 1) := by
  have hden' : (0 : ℚ) < den := by exact_mod_cast hden
  constructor
  · rw [lt_div_iff₀ hden']
    calc (2 : ℚ) ^ ((Nat.log2 num : ℤ) - Nat.log2 den - 1) * den
        < 2 ^ ((Nat.log2 num : ℤ) - Nat.log2 den - 1) * 2 ^ ((Nat.log2 den : ℤ) + 1) := by
          gcongr
          exact lt_two_zpow_log2 den
      _ = 2 ^ (Nat.log2 num : ℤ) := by rw [← zpow_add₀ two_ne_zero]; ring_nf
      _ ≤ num := two_zpow_log2_le hnum
  · rw [div_lt_iff₀ hden']
    calc (num : ℚ) < 2 ^ ((Nat.log2 num : ℤ) + 1) := lt_two_zpow_log2 num
      _ = 2 ^ ((Nat.log2 num : ℤ) - Nat.log2 den + 1) * 2 ^ (Nat.log2 den : ℤ) := by
          rw [← zpow_add₀ two_ne_zero]; ring_nf
      _ ≤ 2 ^ ((Nat.log2 num : ℤ) - Nat.log2 den + 1) * den := by
          gcongr
          exact two_zpow_log2_le hden

/-- The exponent `roundRatio` scales by is the exponent of canonical form of the fraction. -/
theorem scaleExp_fits (f : BinaryFormat) {num den : Nat} (hp : 1 ≤ f.precision) (hnum : 0 < num) (hden : 0 < den) :
    f.ExpFits ((num : ℚ) / den) (f.scaleExp num den) := by
  obtain ⟨hxlo, hxhi⟩ := ratio_bounds hnum hden
  set x : ℚ := (num : ℚ) / den
  set L : ℤ := (Nat.log2 num : ℤ) - Nat.log2 den
  set e0 : ℤ := max f.minExp (L - f.precision + 1) with he0
  obtain ⟨hq0lo, hq0hi⟩ := divPow_floor num e0 hden
  set q0 := (divPow num den e0).1
  -- the estimate is never too small: below `2^p` units
  have hbelow : x / 2 ^ e0 < 2 ^ f.precision := by
    rw [div_lt_iff₀ (by positivity), ← zpow_natCast, ← zpow_add₀ two_ne_zero]
    calc x < 2 ^ (L + 1) := by simpa [L, sub_add] using hxhi
      _ ≤ 2 ^ ((f.precision : ℤ) + e0) := zpow_le_zpow_right₀ (by norm_num) (by omega)
  have hstep : f.scaleExp num den =
      if q0 < Nat.pow 2 (f.precision - 1) ∧ e0 > f.minExp then e0 - 1 else e0 := rfl
  rw [hstep]
  split_ifs with hc
  · -- the estimate left the significand short: one finer, it fits
    obtain ⟨hq0, hmin⟩ := hc
    have hL : e0 = L - f.precision + 1 := by omega
    refine ⟨by omega, ?_, Or.inl ?_⟩
    · rw [div_two_zpow_sub_one, pow_precision_eq hp]
      have : (q0 : ℚ) + 1 ≤ 2 ^ (f.precision - 1) := by
        rw [Nat.pow_eq] at hq0
        exact_mod_cast hq0
      linarith
    · rw [le_div_iff₀ (by positivity), ← zpow_natCast, ← zpow_add₀ two_ne_zero]
      calc (2 : ℚ) ^ (((f.precision - 1 : Nat) : ℤ) + (e0 - 1)) = 2 ^ (L - 1) := by
            congr 1
            omega
        _ ≤ x := hxlo.le
  · refine ⟨le_max_left _ _, hbelow, ?_⟩
    by_cases hq0 : q0 < Nat.pow 2 (f.precision - 1)
    · exact Or.inr (le_antisymm (not_lt.1 fun h => hc ⟨hq0, h⟩) (le_max_left _ _))
    · left
      rw [Nat.pow_eq, not_lt] at hq0
      calc (2 : ℚ) ^ (f.precision - 1) ≤ q0 := by exact_mod_cast hq0
        _ ≤ x / 2 ^ e0 := hq0lo

/-! ## What rounding gives -/

variable (f) in
/-- The least magnitude that rounds past the largest float of the format: halfway from it to the
next power of two. -/
def overflowThreshold : ℚ := (2 ^ f.precision - 1 / 2) * 2 ^ f.maxExp

/-- Every number in the rounding interval of a canonical float lies below the overflow
threshold. -/
theorem RoundsTo.lt_overflowThreshold {x : ℚ} {m : Nat} {e : Int} (hp : 1 ≤ f.precision)
    (hc : f.Canonical m e) (hx : f.RoundsTo x m e) : x < f.overflowThreshold := by
  have hpos : (0 : ℚ) < 2 ^ e := by positivity
  have hpow : 2 * 2 ^ (f.precision - 1) = 2 ^ f.precision := by
    rw [← pow_succ', Nat.sub_add_cancel hp]
  have hlt := hc.lt_pow
  -- in units of `2^e` below `2^p - 1/2`: the largest significand, `2^p - 1`, is odd
  have hunit : x / 2 ^ e < 2 ^ f.precision - 1 / 2 := by
    obtain ⟨-, hhi⟩ := hx.bounds
    by_cases htop : m + 1 = 2 ^ f.precision
    · have hstrict : f.RoundsTo x m e := hx
      simp only [RoundsTo, show ¬(m % 2 = 0) by omega, if_false] at hstrict
      have : (m : ℚ) + 1 = 2 ^ f.precision := by exact_mod_cast htop
      linarith [hstrict.2]
    · have : (m : ℚ) + 2 ≤ 2 ^ f.precision := by
        exact_mod_cast (show m + 2 ≤ 2 ^ f.precision by omega)
      linarith
  have hhalf : (0 : ℚ) < 2 ^ f.precision - 1 / 2 := by
    have : (1 : ℚ) ≤ 2 ^ f.precision := one_le_pow₀ (by norm_num)
    linarith
  calc x = x / 2 ^ e * 2 ^ e := by field_simp
    _ < (2 ^ f.precision - 1 / 2) * 2 ^ e := by gcongr
    _ ≤ (2 ^ f.precision - 1 / 2) * 2 ^ f.maxExp := by
      gcongr
      · norm_num
      · exact hc.le_maxExp

/-- What rounding a positive fraction gives: no float from the overflow threshold on, zero when
the fraction is at most half the least subnormal, and otherwise the canonical float whose
rounding interval holds it. -/
theorem roundRatio_cases {num den : Nat} (hp : 2 ≤ f.precision) (hme : f.minExp ≤ f.maxExp)
    (hnum : 0 < num) (hden : 0 < den) :
    (roundRatio f num den = none ∧ f.overflowThreshold ≤ (num : ℚ) / den) ∨
      (∃ e, roundRatio f num den = some (0, e) ∧ (num : ℚ) / den ≤ 2 ^ (f.minExp - 1)) ∨
      (∃ m e, roundRatio f num den = some (m, e) ∧ f.Canonical m e ∧
        f.RoundsTo ((num : ℚ) / den) m e) := by
  obtain ⟨hmin, htop, hlow⟩ := scaleExp_fits f (by omega) hnum hden
  obtain ⟨hk1, hk2, hkodd⟩ := roundHalfEven_near (q := (divPow num den (f.scaleExp num den)).1)
    (divPow_pos num (f.scaleExp num den) hden) (divPow_rem_lt num (f.scaleExp num den) hden)
  rw [divPow_value num _ hden] at hk1 hk2 hkodd
  rw [roundRatio_eq]
  dsimp only
  -- only the scale and the rounded significand matter from here on
  generalize f.scaleExp num den = exp at *
  generalize roundHalfEven _ _ _ = k at *
  simp only [Nat.pow_eq]
  set x : ℚ := (num : ℚ) / den
  have hpow : (0 : ℚ) < 2 ^ exp := by positivity
  have hx : x = x / 2 ^ exp * 2 ^ exp := by field_simp
  have hbin : (1 : ℚ) ≤ 2 ^ (f.precision - 1) := one_le_pow₀ (by norm_num)
  have hp2 : (2 : ℚ) ^ f.precision = 2 * 2 ^ (f.precision - 1) := pow_precision_eq (by omega)
  by_cases hcarry : k = 2 ^ f.precision
  · -- the significand carried into the next binade
    have hkq : (k : ℚ) = 2 ^ f.precision := by exact_mod_cast hcarry
    simp only [hcarry, if_true]
    by_cases hover : exp + 1 > f.maxExp
    · refine Or.inl ⟨by simp [hover], ?_⟩
      calc f.overflowThreshold = (2 ^ f.precision - 1 / 2) * 2 ^ f.maxExp := rfl
        _ ≤ (2 ^ f.precision - 1 / 2) * 2 ^ exp := by
          gcongr
          · linarith
          · norm_num
          · omega
        _ ≤ x / 2 ^ exp * 2 ^ exp := by gcongr; linarith
        _ = x := hx.symm
    · have hhalf : x / 2 ^ exp = 2 * (x / 2 ^ (exp + 1)) := by
        simpa using div_two_zpow_sub_one x (exp + 1)
      have hm : (2 ^ (f.precision - 1) : Nat) % 2 = 0 := by
        rw [Nat.pow_mod, show f.precision - 1 = (f.precision - 2) + 1 by omega]
        simp
      have hgap : f.lowerGap (2 ^ (f.precision - 1)) (exp + 1) = 1 / 4 := by
        simp [lowerGap, show f.minExp < exp + 1 by omega]
      refine Or.inr (Or.inr ⟨2 ^ (f.precision - 1), exp + 1, by simp [hover], ⟨by positivity,
        Nat.pow_lt_pow_right (by norm_num) (by omega), Or.inl le_rfl, by omega, by omega⟩, ?_⟩)
      simp only [RoundsTo, hm, if_true, hgap]
      push_cast
      constructor <;> linarith
  · simp only [hcarry, if_false]
    by_cases hover : exp > f.maxExp
    · -- past the largest exponent the significand is normal: the fraction overflows
      have hnorm : (2 : ℚ) ^ (f.precision - 1) ≤ x / 2 ^ exp := hlow.resolve_right (by omega)
      refine Or.inl ⟨by simp [hover], ?_⟩
      calc f.overflowThreshold = (2 ^ f.precision - 1 / 2) * 2 ^ f.maxExp := rfl
        _ ≤ 2 ^ (f.precision - 1) * 2 ^ (f.maxExp + 1) := by
          have : (0 : ℚ) < 2 ^ f.maxExp := by positivity
          rw [zpow_add_one₀ two_ne_zero, hp2]
          nlinarith
        _ ≤ x / 2 ^ exp * 2 ^ exp := by
          gcongr
          · norm_num
          · omega
        _ = x := hx.symm
    rcases Nat.eq_zero_or_pos k with rfl | hk0
    · -- rounded to zero: only at the smallest exponent, at most half a unit
      have hsub : exp = f.minExp := hlow.resolve_left fun h => by push_cast at hk2; linarith
      refine Or.inr (Or.inl ⟨exp, by simp [hover], ?_⟩)
      rw [hx, zpow_sub_one₀ two_ne_zero, ← hsub]
      push_cast at hk2
      nlinarith
    · have hkp : k < 2 ^ f.precision := by
        have : (k : ℚ) < ((2 ^ f.precision + 1 : Nat) : ℚ) := by push_cast; linarith
        have := (Nat.cast_lt (α := ℚ)).1 this
        omega
      have hnorm : 2 ^ (f.precision - 1) ≤ k ∨ exp = f.minExp := hlow.imp_left fun h => by
        have : ((2 ^ (f.precision - 1) : Nat) : ℚ) < ((k + 1 : Nat) : ℚ) := by
          push_cast
          linarith
        have := (Nat.cast_lt (α := ℚ)).1 this
        omega
      -- the lower end: a quarter below `k` only at the bottom of a binade, where the fraction
      -- is at least `k`
      have hgap : (k : ℚ) - f.lowerGap k exp ≤ x / 2 ^ exp ∧
          (k % 2 = 1 → (k : ℚ) - f.lowerGap k exp < x / 2 ^ exp) := by
        unfold lowerGap
        split_ifs with hb
        · have : (k : ℚ) ≤ x / 2 ^ exp := by
            rw [hb.1]
            exact_mod_cast hlow.resolve_right (ne_of_gt hb.2)
          exact ⟨by linarith, fun _ => by linarith⟩
        · exact ⟨hk1, fun h => (hkodd h).1⟩
      refine Or.inr (Or.inr ⟨k, exp, by simp [hover],
        ⟨hk0, hkp, hnorm, hmin, not_lt.1 hover⟩, ?_⟩)
      unfold RoundsTo
      split_ifs with heven
      · exact ⟨hgap.1, hk2⟩
      · exact ⟨hgap.2 (by omega), (hkodd (by omega)).2⟩

/-- Rounding a positive fraction gives no float exactly from the overflow threshold on. -/
theorem roundRatio_eq_none_iff {num den : Nat} (hp : 2 ≤ f.precision)
    (hme : f.minExp ≤ f.maxExp) (hnum : 0 < num) (hden : 0 < den) :
    roundRatio f num den = none ↔ f.overflowThreshold ≤ (num : ℚ) / den := by
  rcases roundRatio_cases hp hme hnum hden with
    ⟨hnone, hover⟩ | ⟨e, hzero, hsmall⟩ | ⟨m, e, hsome, hc, hx⟩
  · exact ⟨fun _ => hover, fun _ => hnone⟩
  · -- half the least subnormal lies far below the threshold
    have hfour : (4 : ℚ) ≤ 2 ^ f.precision := by
      calc (4 : ℚ) = 2 ^ 2 := by norm_num
        _ ≤ 2 ^ f.precision := pow_le_pow_right₀ (by norm_num) hp
    have hbelow : (2 : ℚ) ^ (f.minExp - 1) < f.overflowThreshold := by
      calc (2 : ℚ) ^ (f.minExp - 1) < 1 * 2 ^ f.maxExp := by
            rw [one_mul]
            exact zpow_lt_zpow_right₀ (by norm_num) (by omega)
        _ ≤ f.overflowThreshold := by
          unfold overflowThreshold
          gcongr
          linarith
    simp only [hzero, reduceCtorEq, false_iff, not_le]
    linarith
  · simp only [hsome, reduceCtorEq, false_iff, not_le]
    exact hx.lt_overflowThreshold (by omega) hc

end BinaryFormat

/-! ## Canonical floats are their own canonical form -/

open BinaryFormat in
theorem canonical_of_canonical {f : BinaryFormat} {m : Nat} {e : Int} (hp : 1 ≤ f.precision)
    (hc : f.Canonical m e) : f.canonical m e = (m, e) := by
  have hm0 : m ≠ 0 := hc.pos.ne'
  have hlog : Nat.log2 m < f.precision := (Nat.log2_lt hm0).2 hc.lt_pow
  -- the exponent the float's length asks for is `e`, or below the smallest one
  have hexp : max f.minExp (e + ((Nat.log2 m : Int) + 1) - f.precision) = e := by
    rcases hc.normal with hn | he
    · have : f.precision - 1 ≤ Nat.log2 m := (Nat.le_log2 hm0).2 hn
      have := hc.minExp_le
      omega
    · subst he
      omega
  simp [BinaryFormat.canonical, hm0, hexp, shiftNat]

end CreditExtraction.Text
