import Mathlib
import CreditExtraction.Text.Shortest

/-!
# The order of 64-bit floats

A float is compared through its unpacked form (`Float.Model.UnpackedFloat`): two infinities, a
signed zero, or a signed finite number `mantissa * 2^exponent`. Comparison ranks the
classes and then, for two finite numbers of one sign, the exponent and then the mantissa,
reversed for negative numbers; not-a-number is comparable to nothing.

* `place` sends a float to a lexicographic triple of integers such that, away from NaN,
  `x < y` is `place x < place y` (`lt_iff_place`), `x ≤ y` is `place x ≤ place y`
  (`le_iff_place`) and `x == y` is `place x = place y` (`beq_iff_place`). Both zeros have one
  place. So `<` is a strict weak order on floats that are not NaN, and `==` is its equivalence.
* Conversions from integers, rounding, products and quotients by finite numbers, sums of finite
  numbers and negation never make a NaN (`natToFloat_isNaN`, `ofInt_isNaN`, `isNaN_add`,
  `neg_isNaN`), and neither does a packed float that was not one (`isNaN_unpack_pack`).
-/

namespace CreditExtraction.FloatOrder

open Float.Model Float.Model.UnpackedFloat

/-! ## Places on the number line -/

/-- Where an unpacked float stands: the class first (negative infinity, negative numbers, zero,
positive numbers, positive infinity), then the exponent and the mantissa, negated for negative
numbers. NaN is put last, though it is comparable to nothing. -/
def unpackedPlace : UnpackedFloat → Int ×ₗ Int ×ₗ Int
  | .infinity .negative => toLex (0, toLex (0, 0))
  | .finite .negative m e _ => toLex (1, toLex (-e, -(m : Int)))
  | .zero _ => toLex (2, toLex (0, 0))
  | .finite .positive m e _ => toLex (3, toLex (e, (m : Int)))
  | .infinity .positive => toLex (4, toLex (0, 0))
  | .notANumber => toLex (5, toLex (0, 0))

/-- Where a float stands on the number line. -/
def place (x : Float) : Int ×ₗ Int ×ₗ Int := unpackedPlace x.toModel.unpack

theorem sign_compare_eq_lt (s t : Sign) :
    compare s t = .lt ↔ s = .negative ∧ t = .positive := by
  cases s <;> cases t <;> simp [compare]

theorem sign_compare_eq_eq (s t : Sign) : compare s t = .eq ↔ s = t := by
  cases s <;> cases t <;> simp [compare]

/-- Two finite numbers of one sign compare by exponent, then by mantissa. -/
theorem then_eq_lt_iff (e e' : Int) (m m' : Nat) :
    (compare e e').then (compare m m') = .lt ↔ e < e' ∨ e = e' ∧ m < m' := by
  rw [Ordering.then_eq_lt, compare_lt_iff_lt, compare_eq_iff_eq, compare_lt_iff_lt]

theorem then_eq_gt_iff (e e' : Int) (m m' : Nat) :
    (compare e e').then (compare m m') = .gt ↔ e' < e ∨ e = e' ∧ m' < m := by
  rw [Ordering.then_eq_gt, compare_gt_iff_gt, compare_eq_iff_eq, compare_gt_iff_gt]

theorem unpacked_lt_iff {a b : UnpackedFloat} (ha : a.isNaN = false) (hb : b.isNaN = false) :
    a.lt b = true ↔ unpackedPlace a < unpackedPlace b := by
  -- six classes on each side; a finite pair of one sign is the only case with an argument
  rcases a with ⟨_ | _⟩ | _ | ⟨_ | _⟩ | ⟨_ | _, m, e, hm⟩ <;>
  rcases b with ⟨_ | _⟩ | _ | ⟨_ | _⟩ | ⟨_ | _, m', e', hm'⟩ <;>
    simp_all [UnpackedFloat.lt, UnpackedFloat.compare, unpackedPlace, UnpackedFloat.isNaN,
      then_eq_lt_iff, then_eq_gt_iff, Prod.Lex.toLex_lt_toLex, sign_compare_eq_lt]

theorem unpacked_beq_iff {a b : UnpackedFloat} (ha : a.isNaN = false) (hb : b.isNaN = false) :
    a.beq b = true ↔ unpackedPlace a = unpackedPlace b := by
  rcases a with ⟨_ | _⟩ | _ | ⟨_ | _⟩ | ⟨_ | _, m, e, hm⟩ <;>
  rcases b with ⟨_ | _⟩ | _ | ⟨_ | _⟩ | ⟨_ | _, m', e', hm'⟩ <;>
    simp_all [UnpackedFloat.beq, UnpackedFloat.compare, unpackedPlace, UnpackedFloat.isNaN,
      sign_compare_eq_eq]

/-- Away from NaN, floats compare as their places. -/
theorem lt_iff_place {x y : Float} (hx : x.isNaN = false) (hy : y.isNaN = false) :
    x < y ↔ place x < place y := by
  change decide (x.toModel.unpack.lt y.toModel.unpack = true) = true ↔ _
  rw [decide_eq_true_eq]
  exact unpacked_lt_iff hx hy

/-- Away from NaN, two floats are equal under `==` exactly when they have one place. -/
theorem beq_iff_place {x y : Float} (hx : x.isNaN = false) (hy : y.isNaN = false) :
    (x == y) = true ↔ place x = place y :=
  unpacked_beq_iff hx hy

theorem unpacked_le_iff {a b : UnpackedFloat} (ha : a.isNaN = false) (hb : b.isNaN = false) :
    a.le b = true ↔ unpackedPlace a ≤ unpackedPlace b := by
  rcases a with ⟨_ | _⟩ | _ | ⟨_ | _⟩ | ⟨_ | _, m, e, hm⟩ <;>
  rcases b with ⟨_ | _⟩ | _ | ⟨_ | _⟩ | ⟨_ | _, m', e', hm'⟩ <;>
    simp_all [UnpackedFloat.le, UnpackedFloat.compare, unpackedPlace, UnpackedFloat.isNaN,
      Prod.Lex.toLex_le_toLex, Ordering.isLE_iff_ne_gt, Ordering.isGE_iff_ne_lt, then_eq_gt_iff,
      then_eq_lt_iff]
  case infinity.positive.infinity.negative => rfl
  -- two finite numbers of one sign: the lexicographic order of exponent and mantissa
  all_goals omega

theorem le_iff_place {x y : Float} (hx : x.isNaN = false) (hy : y.isNaN = false) :
    x ≤ y ↔ place x ≤ place y := by
  change decide (x.toModel.unpack.le y.toModel.unpack = true) = true ↔ _
  rw [decide_eq_true_eq]
  exact unpacked_le_iff hx hy

theorem bne_iff_place {x y : Float} (hx : x.isNaN = false) (hy : y.isNaN = false) :
    (x != y) = true ↔ place x ≠ place y := by
  rw [ne_eq, ← beq_iff_place hx hy]
  simp [bne]

theorem bne_eq_false_iff_place {x y : Float} (hx : x.isNaN = false) (hy : y.isNaN = false) :
    (x != y) = false ↔ place x = place y := by
  rw [← beq_iff_place hx hy]
  simp [bne]

theorem isNaN_of_isFinite {x : Float} (h : x.isFinite = true) : x.isNaN = false := by
  change x.toModel.unpack.isFinite = true at h
  change x.toModel.unpack.isNaN = false
  cases hu : x.toModel.unpack <;> simp_all [UnpackedFloat.isFinite, UnpackedFloat.isNaN]

theorem isInf_of_isFinite {x : Float} (h : x.isFinite = true) : x.isInf = false := by
  change x.toModel.unpack.isFinite = true at h
  change x.toModel.unpack.isInf = false
  cases hu : x.toModel.unpack <;> simp_all [UnpackedFloat.isFinite, UnpackedFloat.isInf]

/-- A finite float lies strictly between the two infinities. -/
theorem place_lt_posInf {x : Float} (h : x.isFinite = true) :
    place x < place Text.Float.posInf := by
  change x.toModel.unpack.isFinite = true at h
  have hinf : place Text.Float.posInf = toLex (4, toLex (0, 0)) := by decide
  rw [hinf, place]
  cases hu : x.toModel.unpack with
  | finite s => cases s <;> simp [unpackedPlace, Prod.Lex.toLex_lt_toLex]
  | _ => simp_all [UnpackedFloat.isFinite, unpackedPlace, Prod.Lex.toLex_lt_toLex]

theorem negInf_place_lt {x : Float} (h : x.isFinite = true) :
    place Text.Float.negInf < place x := by
  change x.toModel.unpack.isFinite = true at h
  have hinf : place Text.Float.negInf = toLex (0, toLex (0, 0)) := by decide
  rw [hinf, place]
  cases hu : x.toModel.unpack with
  | finite s => cases s <;> simp [unpackedPlace, Prod.Lex.toLex_lt_toLex]
  | _ => simp_all [UnpackedFloat.isFinite, unpackedPlace, Prod.Lex.toLex_lt_toLex]

/-! ## Where NaN comes from -/

/-- Unpacking gives NaN exactly for an all-ones exponent with a mantissa that is not zero. -/
theorem isNaN_unpack (b : BitVec Format.binary64.numBits) :
    (UnpackedFloat.unpack Format.binary64 b).isNaN =
      (unpackExponent b == -1#_ && unpackMantissa b != 0#_) := by
  unfold UnpackedFloat.unpack
  simp only
  split_ifs <;> simp_all [UnpackedFloat.isNaN]

/-- Packing keeps a float that is not NaN away from the NaN bit patterns. -/
theorem isNaN_unpack_pack (u : UnpackedFloat) :
    (UnpackedFloat.unpack Format.binary64 (UnpackedFloat.pack Format.binary64 u)).isNaN =
      u.isNaN := by
  rw [isNaN_unpack]
  cases u with
  | notANumber => decide
  | infinity s => cases s <;> decide
  | zero s => cases s <;> decide
  | finite s m e hm =>
    unfold UnpackedFloat.pack
    simp only
    split
    · simp [packedInfinity, UnpackedFloat.isNaN]
    · split
      · -- a normal number: its biased exponent is below the all-ones pattern
        rename_i hbig _
        have hne : BitVec.ofNat 11 (e + ↑Format.binary64.exponentBias + ↑52).toNat ≠ -1#11 := by
          intro h
          have := congrArg BitVec.toNat h
          simp only [BitVec.toNat_ofNat, BitVec.toNat_neg] at this
          omega
        simp only [unpackExponent_packComponents, unpackMantissa_packComponents,
          UnpackedFloat.isNaN, Bool.and_eq_false_iff, beq_eq_false_iff_ne]
        exact Or.inl hne
      · simp [unpackExponent_packComponents, UnpackedFloat.isNaN]

theorem isNaN_roundWithAccuracy (spec : Format) (s : Sign) (m : Nat) (e : Int) (a : Accuracy) :
    (roundWithAccuracy spec s m e a).isNaN = false := by
  simp only [roundWithAccuracy]
  split <;> rfl

theorem isNaN_round (spec : Format) (s : Sign) (m : Nat) (e : Int) :
    (UnpackedFloat.round spec s m e).isNaN = false :=
  isNaN_roundWithAccuracy ..

theorem isNaN_normalize (spec : Format) (m e : Int) (z : Sign) :
    (UnpackedFloat.normalize spec m e z).isNaN = false := by
  unfold UnpackedFloat.normalize
  split
  · exact isNaN_round ..
  · rfl
  · exact isNaN_round ..

theorem isNaN_mul_finite (spec : Format) (u : UnpackedFloat) (s : Sign) (m : Nat) (e : Int)
    (hm : 0 < m) (hu : u.isNaN = false) :
    (UnpackedFloat.mul spec u (.finite s m e hm)).isNaN = false := by
  cases u with
  | notANumber => simp [UnpackedFloat.isNaN] at hu
  | finite => exact isNaN_roundWithAccuracy ..
  | _ => rfl

theorem isNaN_div_finite (spec : Format) (u : UnpackedFloat) (s : Sign) (m : Nat) (e : Int)
    (hm : 0 < m) (hu : u.isNaN = false) :
    (UnpackedFloat.div spec u (.finite s m e hm)).isNaN = false := by
  cases u with
  | notANumber => simp [UnpackedFloat.isNaN] at hu
  | finite => exact isNaN_roundWithAccuracy ..
  | _ => rfl

theorem isNaN_ofScientific (spec : Format) (m : Nat) (e : Int) :
    (UnpackedFloat.ofScientific spec m e).isNaN = false := by
  unfold UnpackedFloat.ofScientific
  split_ifs
  · rfl
  · rfl
  · rfl
  · exact isNaN_mul_finite _ _ _ _ _ _ rfl
  · exact isNaN_div_finite _ _ _ _ _ _ rfl

theorem isNaN_ofModel_pack (u : UnpackedFloat) :
    (Float.ofModel (Float.Model.pack u)).isNaN = u.isNaN :=
  isNaN_unpack_pack u

/-- The float one, by which small integers are scaled. -/
theorem unpack_one : (getElem Float.exactlyRepresentablePowersOfTen 0 (by decide)).toModel.unpack =
    .finite .positive (2 ^ 52) (-52) (by decide) := by
  rfl

/-- A natural number converts to a float that is not NaN. -/
theorem natToFloat_isNaN (n : Nat) : n.toFloat.isNaN = false := by
  change (Float.ofScientific n false 0).isNaN = false
  unfold Float.ofScientific
  split
  · -- below `2^53` the number is converted exactly and scaled by one
    have ha : (n.toUInt64.toFloat).toModel.unpack.isNaN = false :=
      (isNaN_unpack_pack _).trans (isNaN_normalize ..)
    change (Float.ofModel (Float.Model.pack (UnpackedFloat.mul Format.binary64
      n.toUInt64.toFloat.toModel.unpack
      (getElem Float.exactlyRepresentablePowersOfTen 0 (by decide)).toModel.unpack))).isNaN = false
    rw [isNaN_ofModel_pack, unpack_one]
    exact isNaN_mul_finite _ _ _ _ _ _ ha
  · exact isNaN_ofModel_pack _ ▸ isNaN_ofScientific ..

theorem neg_isNaN (x : Float) : (-x).isNaN = x.isNaN := by
  change (Float.ofModel (Float.Model.pack x.toModel.unpack.neg)).isNaN = x.toModel.unpack.isNaN
  rw [isNaN_ofModel_pack]
  cases x.toModel.unpack <;> rfl

theorem unpacked_add_isNaN {a b : UnpackedFloat} (ha : a.isFinite = true) (hb : b.isFinite = true) :
    (UnpackedFloat.add Format.binary64 a b).isNaN = false := by
  cases a <;> cases b <;> simp_all [UnpackedFloat.isFinite, UnpackedFloat.add]
  case zero.zero => split <;> rfl
  case zero.finite | finite.zero => rfl
  case finite.finite => exact isNaN_normalize ..

/-- The sum of two finite floats may overflow to an infinity, but is never NaN. -/
theorem isNaN_add {x y : Float} (hx : x.isFinite = true) (hy : y.isFinite = true) :
    (x + y).isNaN = false :=
  (isNaN_ofModel_pack _).trans (unpacked_add_isNaN hx hy)

theorem isNaN_half {x : Float} (hx : x.isNaN = false) : (x / 2).isNaN = false := by
  change (Float.ofModel (Float.Model.pack (UnpackedFloat.div Format.binary64 x.toModel.unpack
    (2 : Float).toModel.unpack))).isNaN = false
  rw [isNaN_ofModel_pack]
  -- two is `2^52 * 2^-51`
  exact isNaN_div_finite _ _ .positive (2 ^ 52) (-51) (by decide) hx

/-- An integer converts to a float that is not NaN. -/
theorem ofInt_isNaN (p : Int) : (Float.ofInt p).isNaN = false := by
  cases p with
  | ofNat n => exact natToFloat_isNaN n
  | negSucc n =>
    change (-(Float.ofNat (n + 1))).isNaN = false
    rw [neg_isNaN]
    exact natToFloat_isNaN (n + 1)

end CreditExtraction.FloatOrder
