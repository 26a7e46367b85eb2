import CreditExtraction.Proofs.Numbers.Rounding

/-!
# Floats and their bits

A 64-bit float is a valid bit pattern: every pattern, except that a NaN is the one canonical
NaN. Unpacking a pattern and packing it again gives it back (`pack_unpack_of_valid`).

`FloatValue.ofFloat` reads the sign, exponent and significand off the bits
(`ofFloat_finite_fields`). The float `floatOfDyadic` builds from a canonical significand and
exponent reads back as them (`ofFloat_floatOfDyadic`), and a float that reads as a signed
`m * 2^e` is finite (`isFinite_of_ofFloat`).
-/
namespace CreditExtraction.Text

open Float.Model Float.Model.UnpackedFloat

/-! ## A bit pattern reassembled -/

theorem sign_toBitVec_ofBitVec (v : BitVec 1) : (Sign.ofBitVec v).toBitVec = v := by
  unfold Sign.ofBitVec
  split
  · rename_i h
    rw [h]
    rfl
  · rename_i h
    have : v = 1#1 := by bv_omega
    rw [this]
    rfl

/-- A 64-bit pattern is its sign, exponent and mantissa fields put together again. -/
theorem packComponents_unpack (b : BitVec Format.binary64.numBits) :
    packComponents .binary64 (Sign.ofBitVec (unpackSign b)) (unpackExponent b)
      (unpackMantissa b) = b := by
  simp only [packComponents, sign_toBitVec_ofBitVec, unpackSign, unpackExponent, unpackMantissa,
    BitVec.extractLsb]
  ext i hi
  grind

theorem unpackExponent_toNat (b : BitVec Format.binary64.numBits) :
    (@unpackExponent Format.binary64 b).toNat = b.toNat / 2 ^ 52 % 2 ^ 11 := by
  simp [unpackExponent, BitVec.extractLsb, Nat.shiftRight_eq_div_pow]

theorem unpackMantissa_toNat (b : BitVec Format.binary64.numBits) :
    (@unpackMantissa Format.binary64 b).toNat = b.toNat % 2 ^ 52 := by
  simp [unpackMantissa, BitVec.extractLsb]

/-- Packing the unpacked form of a valid pattern gives the pattern back. -/
theorem pack_unpack_of_valid {b : BitVec Format.binary64.numBits} (hv : Format.binary64.Valid b) :
    UnpackedFloat.pack .binary64 (unpack .binary64 b) = b := by
  have hE := unpackExponent_toNat b
  have hM := unpackMantissa_toNat b
  have hb : b.toNat < 2 ^ 64 := b.isLt
  -- each branch packs the same three fields
  have hfields : ∀ e m, e = unpackExponent b → m = unpackMantissa b →
      packComponents .binary64 (Sign.ofBitVec (unpackSign b)) e m = b := by
    rintro e m rfl rfl
    exact packComponents_unpack b
  rw [UnpackedFloat.unpack]
  split
  · rename_i hexp
    split
    · rename_i hmant
      exact hfields _ _ hexp.symm hmant.symm
    · rename_i hmant
      exact (hv.eq_packedNaN hexp hmant).symm
  · rename_i hexp
    have hE' : (@unpackExponent Format.binary64 b).toNat ≠ 2047 := fun h =>
      hexp (BitVec.eq_of_toNat_eq (by rw [h]; rfl))
    split
    · rename_i hexp0
      have hE0 : (@unpackExponent Format.binary64 b).toNat = 0 := by rw [hexp0]; rfl
      split
      · rename_i hmant
        exact hfields _ _ hexp0.symm hmant.symm
      · -- subnormal: exponent field zero, the mantissa below the hidden bit
        rename_i hmant
        have hm : (@unpackMantissa Format.binary64 b).toNat < 2 ^ 52 := by rw [hM]; omega
        have hlog : Nat.log2 (@unpackMantissa Format.binary64 b).toNat < 52 :=
          (Nat.log2_lt (fun h => hmant (BitVec.eq_of_toNat_eq (by rw [h]; rfl)))).2 hm
        simp only [UnpackedFloat.pack, Format.exponentBias, Format.mantissaBits, hE0]
        rw [if_neg (by decide), if_neg (by simp only [Format.binary64]; omega)]
        exact hfields _ _ hexp0.symm (by rw [BitVec.ofNat_toNat, BitVec.setWidth_eq])
    · -- normal: the hidden bit makes the significand 53 bits long
      rename_i hexp0
      have hE0 : (@unpackExponent Format.binary64 b).toNat ≠ 0 := fun h =>
        hexp0 (BitVec.eq_of_toNat_eq (by rw [h]; rfl))
      have hElt : (@unpackExponent Format.binary64 b).toNat < 2047 := by rw [hE] at hE' ⊢; omega
      have hm : (@unpackMantissa Format.binary64 b).toNat < 2 ^ 52 := by rw [hM]; omega
      have happ : (1#1 ++ @unpackMantissa Format.binary64 b).toNat =
          2 ^ 52 + (@unpackMantissa Format.binary64 b).toNat := by
        rw [BitVec.toNat_append, ← Nat.shiftLeft_add_eq_or_of_lt hm]
        simp [Nat.shiftLeft_eq]
      have hlog : Nat.log2 (1#1 ++ @unpackMantissa Format.binary64 b).toNat = 52 := by
        rw [happ, Nat.log2_eq_iff (by omega)]
        constructor <;> omega
      simp only [UnpackedFloat.pack, Format.exponentBias, Format.mantissaBits, hlog]
      rw [if_neg (by simp only [Format.binary64]; omega), if_pos (by simp only)]
      refine hfields _ _ ?_ ?_
      · apply BitVec.eq_of_toNat_eq
        simp only [BitVec.toNat_ofNat, Format.binary64]
        omega
      · apply BitVec.eq_of_toNat_eq
        rw [BitVec.toNat_ofNat, happ]
        simp only [Format.binary64]
        omega

/-! ## Sign, exponent and significand -/

/-- The fields behind a finite result of `ofFloat`: the sign bit, and either a zero exponent
field with the mantissa as significand, or a normal exponent field with the hidden bit. -/
theorem ofFloat_finite_fields {x : Float} {neg : Bool} {m : Nat} {e : Int}
    (h : FloatValue.ofFloat x = .finite neg m e) :
    neg = (x.toBits.toNat / 2 ^ 63 == 1) ∧
      ((x.toBits.toNat / 2 ^ 52 % 2048 = 0 ∧ m = x.toBits.toNat % 2 ^ 52 ∧ e = -1074) ∨
        (0 < x.toBits.toNat / 2 ^ 52 % 2048 ∧ x.toBits.toNat / 2 ^ 52 % 2048 < 2047 ∧
          m = x.toBits.toNat % 2 ^ 52 + 2 ^ 52 ∧ e = (x.toBits.toNat / 2 ^ 52 % 2048 : Nat) - 1075)) := by
  unfold FloatValue.ofFloat at h
  simp only [Nat.pow_eq, beq_iff_eq] at h
  split_ifs at h <;> cases h <;>
    first
    | exact ⟨rfl, Or.inl ⟨by assumption, rfl, rfl⟩⟩
    | exact ⟨rfl, Or.inr ⟨by omega, by omega, rfl, rfl⟩⟩

/-! ## Building a float from its fields -/

/-- A pattern whose exponent field is not all ones has no all-ones exponent vector. -/
theorem unpackExponent_ne_of_field {b : UInt64} (h : b.toNat / 2 ^ 52 % 2048 ≠ 2047) :
    @unpackExponent Format.binary64 b.toBitVec ≠ -1#11 := fun he => h (by
  have := congrArg BitVec.toNat he
  rw [unpackExponent_toNat] at this
  simpa using this)

/-- A pattern that is not a NaN is the bits of its float. -/
theorem toBits_ofBits {b : UInt64} (h : b.toNat / 2 ^ 52 % 2048 ≠ 2047) :
    (Float.ofBits b).toBits = b := by
  have hv : Format.binary64.Valid b.toBitVec :=
    ⟨fun he _ => absurd he (unpackExponent_ne_of_field h)⟩
  show UInt64.ofBitVec (UnpackedFloat.pack .binary64 (unpack .binary64 b.toBitVec)) = b
  rw [pack_unpack_of_valid hv]

/-- A float whose exponent field is not all ones is finite. -/
theorem isFinite_of_exponentField {x : Float} (h : x.toBits.toNat / 2 ^ 52 % 2048 ≠ 2047) :
    x.isFinite = true := by
  change (unpack .binary64 x.toModel.toBits.toBitVec).isFinite = true
  rw [UnpackedFloat.unpack, if_neg (unpackExponent_ne_of_field (b := x.toModel.toBits) h)]
  split
  · split <;> rfl
  · rfl

theorem isFinite_of_ofFloat {x : Float} {neg : Bool} {m : Nat} {e : Int}
    (h : FloatValue.ofFloat x = .finite neg m e) : x.isFinite = true := by
  obtain ⟨-, ⟨h0, -⟩ | ⟨-, h1, -⟩⟩ := ofFloat_finite_fields h <;>
    exact isFinite_of_exponentField (by omega)

/-- The float `floatOfDyadic` builds from a canonical binary64 significand and exponent reads
back as them. -/
theorem ofFloat_floatOfDyadic {neg : Bool} {m : Nat} {e : Int}
    (hc : BinaryFormat.binary64.Canonical m e) :
    FloatValue.ofFloat (floatOfDyadic neg m e) = .finite neg m e := by
  have hpos := hc.pos
  have hlt : m < 2 ^ 53 := hc.lt_pow
  have hnorm : 2 ^ 52 ≤ m ∨ e = -1074 := hc.normal
  have hmin : -1074 ≤ e := hc.minExp_le
  have hmax : e ≤ 971 := hc.le_maxExp
  -- the sign bit as a number
  obtain ⟨sb, hsb, rfl, hsign⟩ : ∃ sb, sb ≤ 1 ∧ (sb == 1) = neg ∧
      (if neg = true then Nat.pow 2 63 else 0) = sb * 2 ^ 63 := by
    cases neg
    · exact ⟨0, by omega, rfl, rfl⟩
    · exact ⟨1, le_rfl, rfl, rfl⟩
  unfold floatOfDyadic
  rw [canonical_of_canonical (by decide) hc]
  dsimp only
  rw [hsign]
  simp only [Nat.pow_eq]
  -- the exponent field and the mantissa field of the pattern below the sign bit
  obtain ⟨low, hlow, hfields, hvalue⟩ : ∃ low, low < 2 ^ 63 ∧
      ((low / 2 ^ 52 % 2048 = 0 ∧ e = -1074 ∧ low % 2 ^ 52 = m) ∨
        (low / 2 ^ 52 % 2048 = (e + 1075).toNat ∧ 0 < (e + 1075).toNat ∧
          low % 2 ^ 52 + 2 ^ 52 = m)) ∧
      (if m < 2 ^ 52 then m else (e + 1075).toNat * 2 ^ 52 + (m - 2 ^ 52)) = low := by
    by_cases hsub : m < 2 ^ 52
    · exact ⟨m, by omega, Or.inl ⟨by omega, by omega, by omega⟩, if_pos hsub⟩
    · exact ⟨_, by omega, Or.inr ⟨by omega, by omega, by omega⟩, if_neg hsub⟩
  rw [hvalue]
  have h64 : low + sb * 2 ^ 63 < 2 ^ 64 := by omega
  have hfield : (UInt64.ofNat (low + sb * 2 ^ 63)).toNat / 2 ^ 52 % 2048 ≠ 2047 := by
    rw [UInt64.toNat_ofNat', Nat.mod_eq_of_lt h64]
    omega
  unfold FloatValue.ofFloat
  rw [toBits_ofBits hfield, UInt64.toNat_ofNat', Nat.mod_eq_of_lt h64]
  have hsb : (low + sb * 2 ^ 63) / 2 ^ 63 = sb := by omega
  have hF : (low + sb * 2 ^ 63) / 2 ^ 52 % 2048 = low / 2 ^ 52 % 2048 := by omega
  have hM : (low + sb * 2 ^ 63) % 2 ^ 52 = low % 2 ^ 52 := by omega
  simp only [Nat.pow_eq, hF, hM, hsb, beq_iff_eq]
  rcases hfields with ⟨h0, rfl, hm⟩ | ⟨hE, hE0, hm⟩
  · rw [if_neg (by omega), if_pos h0, hm]
  · rw [if_neg (by omega), if_neg (by omega), hm, hE]
    congr 1
    omega

/-- The signed zeros read as zero at the least exponent. -/
theorem ofFloat_signedZero (neg : Bool) :
    FloatValue.ofFloat (if neg then Float.negZero else 0.0) = .finite neg 0 (-1074) := by
  cases neg <;> decide

theorem ofFloat_floatOfDyadic_zero (neg : Bool) (e : Int) :
    FloatValue.ofFloat (floatOfDyadic neg 0 e) = .finite neg 0 (-1074) := by
  unfold floatOfDyadic
  simp only [BinaryFormat.canonical, if_true]
  cases neg <;> decide

end CreditExtraction.Text
