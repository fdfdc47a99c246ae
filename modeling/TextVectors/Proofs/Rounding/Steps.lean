import Mathlib

namespace TextVectors.Rounding

/-! Rounding between powers of two.

A finite number is a significand and an exponent; it lies below the power of two that its total
exponent says, and not below half of that power.  Rounding leaves the total exponent as it is or
raises it by one, and only what lies below the least exponent of a format is rounded to zero.
-/

open Float.Model Float.Model.UnpackedFloat

variable {format : Format} {sign : Sign} {significand count : ℕ} {exponent low high : ℤ}
variable {accuracy : Accuracy}

/-- The exponent is the one that the format has for numbers of this magnitude. -/
def Canonical (format : Format) (significand : ℕ) (exponent : ℤ) : Prop :=
  format.targetExponent (totalExponent significand exponent) = exponent

instance : Decidable (Canonical format significand exponent) :=
  inferInstanceAs (Decidable (_ = _))

/-- Zero and the finite numbers of a sign below `2 ^ high`. -/
inductive Below (format : Format) (sign : Sign) (high : ℤ) : UnpackedFloat → Prop
  | zero : Below format sign high (.zero sign)
  | finite {significand : ℕ} {exponent : ℤ} (positive : 0 < significand)
      (canonical : Canonical format significand exponent)
      (bound : totalExponent significand exponent ≤ high) :
      Below format sign high (.finite sign significand exponent positive)

/-- The finite numbers of a sign from `2 ^ (low - 1)` on, and infinity. -/
inductive Above (format : Format) (sign : Sign) (low : ℤ) : UnpackedFloat → Prop
  | infinity : Above format sign low (.infinity sign)
  | finite {significand : ℕ} {exponent : ℤ} (positive : 0 < significand)
      (canonical : Canonical format significand exponent)
      (bound : low ≤ totalExponent significand exponent) :
      Above format sign low (.finite sign significand exponent positive)

theorem Below.mono {high' : ℤ} {x : UnpackedFloat} (below : Below format sign high x)
    (atMost : high ≤ high') : Below format sign high' x := by
  cases below with
  | zero => exact .zero
  | finite positive canonical bound => exact .finite positive canonical (bound.trans atMost)

section Shifts

theorem pow_log2_le (positive : 0 < significand) : 2 ^ significand.log2 ≤ significand :=
  Nat.log2_self_le positive.ne'

theorem log2_eq_of_bounds (lower : 2 ^ count ≤ significand)
    (upper : significand < 2 ^ (count + 1)) : significand.log2 = count := by
  have positive : significand ≠ 0 := (Nat.two_pow_pos count |>.trans_le lower).ne'
  exact (Nat.log2_eq_iff positive).mpr ⟨lower, upper⟩

theorem lt_half_pow (few : significand.log2 + 1 < count) : significand < 2 ^ count / 2 := by
  obtain ⟨half, rfl⟩ : ∃ half, count = half + 1 :=
    ⟨count - 1, by omega⟩
  rw [Nat.pow_succ, Nat.mul_div_cancel _ two_pos]
  exact Nat.lt_log2_self.trans_le (Nat.pow_le_pow_right two_pos (Nat.lt_succ_iff.mp few))

theorem log2_div_pow (positive : 0 < significand) (atMost : count ≤ significand.log2) :
    (significand / 2 ^ count).log2 = significand.log2 - count := by
  have split : significand.log2 - count + count = significand.log2 := Nat.sub_add_cancel atMost
  apply log2_eq_of_bounds
  · rw [Nat.le_div_iff_mul_le (Nat.two_pow_pos count), ← Nat.pow_add, split]
    exact pow_log2_le positive
  · rw [Nat.div_lt_iff_lt_mul (Nat.two_pow_pos count), ← Nat.pow_add, Nat.add_right_comm, split]
    exact Nat.lt_log2_self

theorem log2_mul_pow_add {rest : ℕ} (positive : 0 < significand) (small : rest < 2 ^ count) :
    (significand * 2 ^ count + rest).log2 = significand.log2 + count := by
  apply log2_eq_of_bounds
  · rw [Nat.pow_add]
    exact (Nat.mul_le_mul_right _ (pow_log2_le positive)).trans (Nat.le_add_right _ _)
  · calc significand * 2 ^ count + rest
        < (significand + 1) * 2 ^ count := by
          rw [Nat.succ_mul]
          exact Nat.add_lt_add_left small _
      _ ≤ 2 ^ (significand.log2 + 1) * 2 ^ count :=
          Nat.mul_le_mul_right _ Nat.lt_log2_self
      _ = 2 ^ (significand.log2 + count + 1) := by
          rw [← Nat.pow_add, Nat.add_right_comm]

theorem log2_mul_pow (positive : 0 < significand) :
    (significand * 2 ^ count).log2 = significand.log2 + count :=
  log2_mul_pow_add positive (Nat.two_pow_pos count)

theorem div_pow_pos (positive : 0 < significand) (atMost : count ≤ significand.log2) :
    0 < significand / 2 ^ count :=
  Nat.div_pos ((Nat.pow_le_pow_right two_pos atMost).trans (pow_log2_le positive))
    (Nat.two_pow_pos count)

theorem totalExponent_div_pow (exponent : ℤ) (positive : 0 < significand)
    (atMost : count ≤ significand.log2) :
    totalExponent (significand / 2 ^ count) (exponent + count) =
      totalExponent significand exponent := by
  simp only [totalExponent, log2_div_pow positive atMost]
  omega

theorem totalExponent_mul_pow (positive : 0 < significand) :
    totalExponent (significand * 2 ^ count) (exponent - count) =
      totalExponent significand exponent := by
  simp only [totalExponent, log2_mul_pow positive]
  omega

variable (extended : ExtendedMantissa)

theorem shiftRight_succ : extended >>> (count + 1) = (extended >>> count).shiftRightOne :=
  rfl

theorem mantissa_shiftRight :
    (extended >>> count).mantissa = extended.mantissa / 2 ^ count := by
  induction count with
  | zero => exact (Nat.div_one _).symm
  | succ count ih =>
      rw [shiftRight_succ, ExtendedMantissa.shiftRightOne, ih, Nat.div_div_eq_div_mul,
        ← Nat.pow_succ]

theorem mantissa_ofAccuracy :
    (ExtendedMantissa.ofMantissaAndAccuracy significand accuracy).mantissa = significand := by
  rcases accuracy with _ | _ | _ | _ <;> rfl

theorem mantissa_le_rounded : extended.mantissa ≤ extended.roundedMantissa := by
  obtain ⟨mantissa, _ | _, _ | _⟩ := extended <;>
    simp [ExtendedMantissa.roundedMantissa, ExtendedMantissa.accuracy, Accuracy.roundToNearestEven]

theorem rounded_le_succ : extended.roundedMantissa ≤ extended.mantissa + 1 := by
  obtain ⟨mantissa, _ | _, _ | _⟩ := extended <;>
    simp [ExtendedMantissa.roundedMantissa, ExtendedMantissa.accuracy, Accuracy.roundToNearestEven]
  omega

theorem rounded_of_roundBit (small : extended.roundBit = false) :
    extended.roundedMantissa = extended.mantissa := by
  obtain ⟨mantissa, roundBit, _ | _⟩ := extended <;> cases small <;> rfl

end Shifts

/-- What is left of a significand when it gives up some of its binary places. -/
def shortened (significand : ℕ) (accuracy : Accuracy) (count : ℕ) : ℕ :=
  (ExtendedMantissa.ofMantissaAndAccuracy significand accuracy >>> count).roundedMantissa

theorem div_le_shortened (significand : ℕ) (accuracy : Accuracy) (count : ℕ) :
    significand / 2 ^ count ≤ shortened significand accuracy count := by
  have lower := mantissa_le_rounded
    (ExtendedMantissa.ofMantissaAndAccuracy significand accuracy >>> count)
  rwa [mantissa_shiftRight, mantissa_ofAccuracy] at lower

theorem shortened_le_div_succ (significand : ℕ) (accuracy : Accuracy) (count : ℕ) :
    shortened significand accuracy count ≤ significand / 2 ^ count + 1 := by
  have upper := rounded_le_succ
    (ExtendedMantissa.ofMantissaAndAccuracy significand accuracy >>> count)
  rwa [mantissa_shiftRight, mantissa_ofAccuracy] at upper

/-- A remainder below half a place is dropped. -/
theorem shortened_eq_div (small : significand % 2 ^ count < 2 ^ count / 2 ∨ count = 0) :
    shortened significand .exact count = significand / 2 ^ count := by
  cases count with
  | zero => exact (Nat.div_one _).symm
  | succ count =>
      have half : significand / 2 ^ count % 2 = 0 := by
        have rest : significand % 2 ^ (count + 1) < 2 ^ count := by
          simpa [Nat.pow_succ] using small
        have bit : significand % 2 ^ (count + 1) / 2 ^ count = 0 := Nat.div_eq_of_lt rest
        rwa [Nat.pow_succ, Nat.mod_mul_right_div_self] at bit
      have dropped : (ExtendedMantissa.ofMantissaAndAccuracy significand .exact >>>
          (count + 1)).roundBit = false := by
        rw [shiftRight_succ, ExtendedMantissa.shiftRightOne, mantissa_shiftRight,
          mantissa_ofAccuracy]
        simp [half]
      rw [shortened, rounded_of_roundBit _ dropped, mantissa_shiftRight, mantissa_ofAccuracy]

/-- Rounding takes two steps.  The first shortens the significand to the exponent of the format;
the second makes room for a carry out of it. -/
theorem roundWithAccuracy_eq
    (fits : exponent ≤ format.targetExponent (totalExponent significand exponent))
    {target : ℤ} (aimed : format.targetExponent (totalExponent significand exponent) = target)
    {rounded carry : ℕ} (first : shortened significand accuracy (target - exponent).toNat = rounded)
    (second : (format.targetExponent (totalExponent rounded target) - target).toNat = carry) :
    roundWithAccuracy format sign significand exponent accuracy =
      if vanished : rounded / 2 ^ carry = 0 then .zero sign
      else .finite sign (rounded / 2 ^ carry) (target + carry) (Nat.pos_of_ne_zero vanished) := by
  have reached : exponent + (target - exponent).toNat = target := by
    omega
  have divided : (ExtendedMantissa.ofMantissaAndAccuracy rounded .exact >>> carry).mantissa =
      rounded / 2 ^ carry := mantissa_shiftRight _
  simp only [roundWithAccuracy, shiftToTargetExponent, shiftToExponent, aimed, reached]
  rw [shortened] at first
  simp only [first, second, divided]

section Results

variable {target : ℤ} {rounded : ℕ}

theorem mantissaBits_pos (format : Format) : 0 < format.mantissaBits :=
  Nat.add_pos_left Nat.one_pos _

theorem targetExponent_mono (atMost : low ≤ high) :
    format.targetExponent low ≤ format.targetExponent high := by
  simp only [Format.targetExponent]
  omega

/-- What is left of a number above the least exponent fills the places that the format has, and
at most carries into one more. -/
theorem totalExponent_shortened (accuracy : Accuracy) (positive : 0 < significand)
    (fits : exponent ≤ format.targetExponent (totalExponent significand exponent))
    (aimed : format.targetExponent (totalExponent significand exponent) = target)
    (first : shortened significand accuracy (target - exponent).toNat = rounded)
    (large : format.minExponent < totalExponent significand exponent) :
    0 < rounded ∧ totalExponent significand exponent ≤ totalExponent rounded target ∧
      totalExponent rounded target ≤ totalExponent significand exponent + 1 := by
  have bits := mantissaBits_pos format
  have atMost : (target - exponent).toNat ≤ significand.log2 := by
    simp only [Format.targetExponent, totalExponent] at *
    omega
  have reached : exponent + (target - exponent).toNat = target := by
    omega
  have kept := totalExponent_div_pow exponent positive atMost
  rw [reached] at kept
  have quotient := div_pow_pos positive atMost
  have lower := div_le_shortened significand accuracy (target - exponent).toNat
  have upper := shortened_le_div_succ significand accuracy (target - exponent).toNat
  rw [first] at lower upper
  generalize significand / 2 ^ (target - exponent).toNat = whole at *
  have filled : 0 < rounded := quotient.trans_le lower
  have least : whole.log2 ≤ rounded.log2 :=
    (Nat.le_log2 filled.ne').mpr ((pow_log2_le quotient).trans lower)
  have most : rounded.log2 ≤ whole.log2 + 1 := by
    have next : rounded < 2 ^ (whole.log2 + 1 + 1) := by
      have bound := Nat.lt_log2_self (n := whole)
      rw [Nat.pow_succ]
      omega
    exact Nat.lt_succ_iff.mp ((Nat.log2_lt filled.ne').mpr next)
  simp only [totalExponent] at kept ⊢
  omega

/-- Below the least exponent at most one place is left. -/
theorem shortened_le_one (accuracy : Accuracy)
    (small : totalExponent significand exponent ≤ target) :
    shortened significand accuracy (target - exponent).toNat ≤ 1 := by
  have few : significand < 2 ^ (target - exponent).toNat := by
    refine Nat.lt_log2_self.trans_le (Nat.pow_le_pow_right two_pos ?_)
    simp only [totalExponent] at small
    omega
  have upper := shortened_le_div_succ significand accuracy (target - exponent).toNat
  rwa [Nat.div_eq_of_lt few] at upper

/-- The second step of rounding gives canonical form without a change of magnitude. -/
theorem roundWithAccuracy_finite (sign : Sign)
    (fits : exponent ≤ format.targetExponent (totalExponent significand exponent))
    (aimed : format.targetExponent (totalExponent significand exponent) = target)
    (first : shortened significand accuracy (target - exponent).toNat = rounded)
    (filled : 0 < rounded) (ahead : target ≤ format.targetExponent (totalExponent rounded target)) :
    ∃ (final : ℕ) (place : ℤ) (positive : 0 < final),
      roundWithAccuracy format sign significand exponent accuracy =
        .finite sign final place positive ∧
      Canonical format final place ∧ totalExponent final place = totalExponent rounded target := by
  have bits := mantissaBits_pos format
  obtain ⟨carry, second⟩ :
      ∃ carry, (format.targetExponent (totalExponent rounded target) - target).toNat = carry :=
    ⟨_, rfl⟩
  have atMost : carry ≤ rounded.log2 := by
    simp only [Format.targetExponent, totalExponent] at *
    omega
  have kept := totalExponent_div_pow target filled atMost
  have positive := div_pow_pos filled atMost
  refine ⟨_, _, positive, ?_, ?_, kept⟩
  · rw [roundWithAccuracy_eq fits aimed first second, dif_neg positive.ne']
  · rw [Canonical, kept]
    omega

/-- A remainder below half a place is dropped, and nothing is carried. -/
theorem roundWithAccuracy_truncates (sign : Sign) (positive : 0 < significand)
    (aimed : format.targetExponent (totalExponent significand exponent) = exponent + count)
    (small : significand % 2 ^ count < 2 ^ count / 2 ∨ count = 0)
    (large : format.minExponent < totalExponent significand exponent) :
    ∃ finite : 0 < significand / 2 ^ count,
      roundWithAccuracy format sign significand exponent .exact =
        .finite sign (significand / 2 ^ count) (exponent + count) finite ∧
      Canonical format (significand / 2 ^ count) (exponent + count) := by
  have bits := mantissaBits_pos format
  have atMost : count ≤ significand.log2 := by
    simp only [Format.targetExponent, totalExponent] at *
    omega
  have kept := totalExponent_div_pow exponent positive atMost
  have finite := div_pow_pos positive atMost
  have canonical : Canonical format (significand / 2 ^ count) (exponent + count) := by
    rw [Canonical, kept, aimed]
  have fits : exponent ≤ format.targetExponent (totalExponent significand exponent) := by
    omega
  have places : (exponent + count - exponent).toNat = count := by
    omega
  have first : shortened significand .exact (exponent + count - exponent).toNat =
      significand / 2 ^ count := by
    rw [places, shortened_eq_div small]
  have second : (format.targetExponent (totalExponent (significand / 2 ^ count)
      (exponent + count)) - (exponent + count)).toNat = 0 := by
    rw [canonical, sub_self, Int.toNat_zero]
  refine ⟨finite, ?_, canonical⟩
  rw [roundWithAccuracy_eq fits aimed first second]
  simp only [pow_zero, Nat.div_one, Nat.cast_zero, add_zero, dif_neg finite.ne']

variable (positive : 0 < significand)
variable (fits : exponent ≤ format.targetExponent (totalExponent significand exponent))
include positive fits

/-- Above the least exponent rounding keeps the total exponent or raises it by one. -/
theorem roundWithAccuracy_large (sign : Sign) (accuracy : Accuracy)
    (large : format.minExponent < totalExponent significand exponent) :
    ∃ (final : ℕ) (place : ℤ) (finite : 0 < final),
      roundWithAccuracy format sign significand exponent accuracy =
        .finite sign final place finite ∧
      Canonical format final place ∧
      totalExponent significand exponent ≤ totalExponent final place ∧
      totalExponent final place ≤ totalExponent significand exponent + 1 := by
  obtain ⟨filled, lower, upper⟩ := totalExponent_shortened accuracy positive fits rfl rfl large
  obtain ⟨final, place, finite, result, canonical, top⟩ :=
    roundWithAccuracy_finite sign fits rfl rfl filled (targetExponent_mono lower)
  rw [← top] at lower upper
  exact ⟨final, place, finite, result, canonical, lower, upper⟩

theorem roundWithAccuracy_above (large : format.minExponent < totalExponent significand exponent)
    (bound : low ≤ totalExponent significand exponent) :
    Above format sign low (roundWithAccuracy format sign significand exponent accuracy) := by
  obtain ⟨final, place, finite, result, canonical, lower, -⟩ :=
    roundWithAccuracy_large positive fits sign accuracy large
  rw [result]
  exact .finite finite canonical (bound.trans lower)

theorem roundWithAccuracy_below (normal : format.minExponent < high)
    (bound : totalExponent significand exponent < high) :
    Below format sign high (roundWithAccuracy format sign significand exponent accuracy) := by
  by_cases large : format.minExponent < totalExponent significand exponent
  · obtain ⟨final, place, finite, result, canonical, -, upper⟩ :=
      roundWithAccuracy_large positive fits sign accuracy large
    rw [result]
    exact .finite finite canonical (by omega)
  · have aimed : format.targetExponent (totalExponent significand exponent) =
        format.minExponent := by
      have bits := mantissaBits_pos format
      simp only [Format.targetExponent]
      omega
    have few := shortened_le_one accuracy (not_lt.mp large)
    obtain ⟨rounded, first⟩ : ∃ rounded,
        shortened significand accuracy (format.minExponent - exponent).toNat = rounded := ⟨_, rfl⟩
    rw [first] at few
    -- What is half the least number or more becomes the least number, the rest zero.
    obtain rfl | rfl := Nat.le_one_iff_eq_zero_or_eq_one.mp few
    · rw [roundWithAccuracy_eq fits aimed first rfl, dif_pos (Nat.zero_div _)]
      exact .zero
    · have one : totalExponent 1 format.minExponent = format.minExponent + 1 := by
        have bit : Nat.log2 1 = 0 := by
          decide
        rw [totalExponent, bit, Nat.cast_zero, zero_add, add_comm]
      obtain ⟨final, place, finite, result, canonical, top⟩ :=
        roundWithAccuracy_finite sign fits aimed first Nat.one_pos (le_max_right _ _)
      rw [result]
      exact .finite finite canonical (by omega)

end Results

end TextVectors.Rounding
