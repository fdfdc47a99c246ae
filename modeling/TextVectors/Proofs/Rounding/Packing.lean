import TextVectors.Proofs.Rounding.Steps

namespace TextVectors.Rounding

/-! Numbers as patterns of bits.

A number in canonical form is what its pattern of bits says, unless its exponent has no pattern:
then the pattern says infinity.  What any pattern says is in canonical form.
-/

open Float.Model Float.Model.UnpackedFloat

variable {format : Format} {sign : Sign} {significand : ℕ} {exponent low high : ℤ}
variable {x : UnpackedFloat}

/-- What a pattern of bits keeps of a number. -/
def stored (format : Format) (x : UnpackedFloat) : UnpackedFloat :=
  UnpackedFloat.unpack format (UnpackedFloat.pack format x)

theorem minExponent_eq (format : Format) : format.minExponent =
    1 - (format.exponentBias : ℤ) - format.mantissaBitsWithoutImplicit := by
  have positive := Nat.two_pow_pos (format.exponentBits - 1)
  simp only [Format.minExponent, Format.exponentBias, Format.mantissaBits]
  push_cast [Nat.cast_sub positive]
  ring

theorem two_pow_exponentBits (format : Format) :
    2 ^ format.exponentBits = 2 * format.exponentBias + 2 := by
  have positive := Nat.two_pow_pos (format.exponentBits - 1)
  have split : 2 ^ format.exponentBits = 2 ^ (format.exponentBits - 1) * 2 := by
    rw [← Nat.pow_succ, Nat.succ_eq_add_one, Nat.sub_add_cancel format.he]
  simp only [split, Format.exponentBias]
  omega

theorem toNat_implicit {places : ℕ} (fraction : BitVec places) :
    (1#1 ++ fraction).toNat = 2 ^ places + fraction.toNat := by
  rw [BitVec.toNat_append, ← Nat.shiftLeft_add_eq_or_of_lt fraction.isLt]
  simp [Nat.shiftLeft_eq]

theorem stored_zero : stored format (.zero sign) = .zero sign :=
  unpack_packedZero

theorem stored_infinity : stored format (.infinity sign) = .infinity sign := by
  simp [stored, UnpackedFloat.pack, UnpackedFloat.unpack, packedInfinity]

theorem unpack_packedNormal {biased : ℕ} (positive : 0 < significand) (nonzero : biased ≠ 0)
    (room : biased + 1 < 2 ^ format.exponentBits)
    (full : significand.log2 = format.mantissaBitsWithoutImplicit) :
    UnpackedFloat.unpack format (packComponents format sign (BitVec.ofNat _ biased)
      (BitVec.ofNat _ significand)) = .finite sign significand
        (biased - (format.exponentBias + format.mantissaBitsWithoutImplicit)) positive := by
  have field : (BitVec.ofNat format.exponentBits biased).toNat = biased := by
    rw [BitVec.toNat_ofNat, Nat.mod_eq_of_lt (by omega)]
  have special : BitVec.ofNat format.exponentBits biased ≠ -1#_ := by
    intro absurd
    have all := congrArg BitVec.toNat absurd
    rw [field, BitVec.neg_one_eq_allOnes, BitVec.toNat_allOnes] at all
    omega
  have least : BitVec.ofNat format.exponentBits biased ≠ 0#_ := by
    intro absurd
    have nothing := congrArg BitVec.toNat absurd
    rw [field] at nothing
    exact nonzero nothing
  have whole : (1#1 ++ BitVec.ofNat format.mantissaBitsWithoutImplicit significand).toNat =
      significand := by
    have bounds := (Nat.log2_eq_iff positive.ne').mp full
    have split := Nat.mod_add_div significand (2 ^ format.mantissaBitsWithoutImplicit)
    have leading : significand / 2 ^ format.mantissaBitsWithoutImplicit = 1 :=
      Nat.div_eq_of_lt_le (by omega) (by omega)
    rw [leading] at split
    rw [toNat_implicit, BitVec.toNat_ofNat]
    omega
  simp only [UnpackedFloat.unpack, unpackExponent_packComponents, unpackMantissa_packComponents,
    unpackSign_packComponents, Sign.ofBitVec_toBitVec, if_neg special, if_neg least, field, whole]

theorem unpack_packedSubnormal (positive : 0 < significand)
    (few : significand < 2 ^ format.mantissaBitsWithoutImplicit) :
    UnpackedFloat.unpack format (packComponents format sign 0#_ (BitVec.ofNat _ significand)) =
      .finite sign significand format.minExponent positive := by
  have field : (BitVec.ofNat format.mantissaBitsWithoutImplicit significand).toNat =
      significand := by
    rw [BitVec.toNat_ofNat, Nat.mod_eq_of_lt few]
  have special : (0#_ : BitVec format.exponentBits) ≠ -1#_ := by
    simp [Nat.ne_of_gt format.he]
  have some : BitVec.ofNat format.mantissaBitsWithoutImplicit significand ≠ 0#_ := by
    intro absurd
    have nothing := congrArg BitVec.toNat absurd
    rw [field] at nothing
    exact positive.ne' nothing
  have place : ((0#_ : BitVec format.exponentBits).toNat : ℤ) -
      (format.exponentBias + format.mantissaBitsWithoutImplicit) + 1 = format.minExponent := by
    rw [minExponent_eq, BitVec.toNat_ofNat, Nat.zero_mod]
    omega
  simp only [UnpackedFloat.unpack, unpackExponent_packComponents, unpackMantissa_packComponents,
    unpackSign_packComponents, Sign.ofBitVec_toBitVec, if_neg special, if_pos, dif_neg some,
    field, place]

theorem stored_finite (wide : 0 < format.exponentBias) (positive : 0 < significand)
    (canonical : Canonical format significand exponent)
    (inside : totalExponent significand exponent ≤ format.exponentBias + 1) :
    stored format (.finite sign significand exponent positive) =
      .finite sign significand exponent positive := by
  have range := two_pow_exponentBits format
  have lowest := minExponent_eq format
  have places : (format.mantissaBits : ℤ) = 1 + format.mantissaBitsWithoutImplicit := rfl
  obtain ⟨biased, biasedEq⟩ : ∃ biased,
      (exponent + format.exponentBias + format.mantissaBitsWithoutImplicit).toNat = biased :=
    ⟨_, rfl⟩
  obtain ⟨kept, nonzero, room⟩ :
      (biased : ℤ) - (format.exponentBias + format.mantissaBitsWithoutImplicit) = exponent ∧
        biased ≠ 0 ∧ biased + 1 < 2 ^ format.exponentBits := by
    simp only [Canonical, Format.targetExponent] at canonical
    omega
  simp only [stored, UnpackedFloat.pack, biasedEq, if_neg (not_le.mpr room)]
  simp only [Canonical, Format.targetExponent, totalExponent] at canonical
  split_ifs with full
  · rw [unpack_packedNormal positive nonzero room (by omega)]
    simp only [kept]
  · have few : significand < 2 ^ format.mantissaBitsWithoutImplicit :=
      (Nat.log2_lt positive.ne').mp (by omega)
    have least : format.minExponent = exponent := by
      omega
    rw [unpack_packedSubnormal positive few]
    simp only [least]

theorem stored_overflow (positive : 0 < significand)
    (canonical : Canonical format significand exponent)
    (outside : (format.exponentBias : ℤ) + 1 < totalExponent significand exponent) :
    stored format (.finite sign significand exponent positive) = .infinity sign := by
  have range := two_pow_exponentBits format
  have least := minExponent_eq format
  have places : (format.mantissaBits : ℤ) = 1 + format.mantissaBitsWithoutImplicit := rfl
  have beyond : 2 ^ format.exponentBits ≤
      (exponent + format.exponentBias + format.mantissaBitsWithoutImplicit).toNat + 1 := by
    simp only [Canonical, Format.targetExponent] at canonical
    omega
  exact (congrArg (UnpackedFloat.unpack format) (if_pos beyond)).trans stored_infinity

theorem canonical_of_unpack {bits : BitVec format.numBits} {positive : 0 < significand}
    (unpacked : UnpackedFloat.unpack format bits = .finite sign significand exponent positive) :
    Canonical format significand exponent ∧
      totalExponent significand exponent ≤ format.exponentBias + 1 := by
  have lowest := minExponent_eq format
  have range := two_pow_exponentBits format
  have places : (format.mantissaBits : ℤ) = 1 + format.mantissaBitsWithoutImplicit := rfl
  unfold UnpackedFloat.unpack at unpacked
  simp only at unpacked
  split_ifs at unpacked with special nil least empty
  · obtain ⟨-, rfl, rfl⟩ := finite.inj unpacked
    have few := (Nat.log2_lt positive.ne').mpr (unpackMantissa bits).isLt
    simp only [Canonical, Format.targetExponent, totalExponent, least, BitVec.toNat_ofNat,
      Nat.zero_mod]
    omega
  · obtain ⟨-, rfl, rfl⟩ := finite.inj unpacked
    have full : (1#1 ++ unpackMantissa bits).toNat.log2 = format.mantissaBitsWithoutImplicit := by
      apply log2_eq_of_bounds
      · rw [toNat_implicit]
        exact Nat.le_add_right _ _
      · rw [toNat_implicit, Nat.pow_succ]
        have bound := (unpackMantissa bits).isLt
        omega
    have some : (unpackExponent bits).toNat ≠ 0 := by
      intro absurd
      exact least (BitVec.eq_of_toNat_eq absurd)
    have bound : (unpackExponent bits).toNat + 1 < 2 ^ format.exponentBits := by
      rw [BitVec.neg_one_eq_allOnes, ← ne_eq, ← BitVec.lt_allOnes_iff, BitVec.lt_def,
        BitVec.toNat_allOnes] at special
      omega
    simp only [Canonical, Format.targetExponent, totalExponent, full]
    omega

/-- Numbers below the range of the format keep their value in a pattern of bits. -/
theorem stored_of_below (wide : 0 < format.exponentBias) (below : Below format sign high x)
    (inside : high ≤ format.exponentBias + 1) :
    stored format x = x := by
  cases below with
  | zero => exact stored_zero
  | finite positive canonical bound =>
      exact stored_finite wide positive canonical (bound.trans inside)

theorem below_stored (wide : 0 < format.exponentBias) (below : Below format sign high x)
    (inside : high ≤ format.exponentBias + 1) : Below format sign high (stored format x) := by
  rwa [stored_of_below wide below inside]

/-- A number of any size keeps its value or becomes infinite. -/
theorem stored_or_infinity (wide : 0 < format.exponentBias)
    (below : Below format sign high x) :
    stored format x = x ∨ stored format x = .infinity sign := by
  cases below with
  | zero => exact .inl stored_zero
  | @finite significand exponent positive canonical bound =>
      by_cases inside : totalExponent significand exponent ≤ (format.exponentBias : ℤ) + 1
      · exact .inl (stored_finite wide positive canonical inside)
      · exact .inr (stored_overflow positive canonical (not_le.mp inside))

theorem above_stored (wide : 0 < format.exponentBias) (above : Above format sign low x) :
    Above format sign low (stored format x) := by
  cases above with
  | infinity =>
      rw [stored_infinity]
      exact .infinity
  | @finite significand exponent positive canonical bound =>
      by_cases inside : totalExponent significand exponent ≤ (format.exponentBias : ℤ) + 1
      · rw [stored_finite wide positive canonical inside]
        exact .finite positive canonical bound
      · rw [stored_overflow positive canonical (not_le.mp inside)]
        exact .infinity

theorem stored_beyond (above : Above format sign low x)
    (outside : (format.exponentBias : ℤ) + 1 < low) :
    stored format x = .infinity sign := by
  cases above with
  | infinity => exact stored_infinity
  | finite positive canonical bound =>
      exact stored_overflow positive canonical (outside.trans_le bound)

end TextVectors.Rounding
