import TextVectors.Proofs.Binary32
import TextVectors.Proofs.Rounding.Operations

namespace TextVectors.Rounding

/-! Magnitudes of binary32 numbers.

The height of a number is the exponent of the power of two that it lies below.  A square is
finite as long as the height is at most half of the range of the format.
-/

open Float.Model Float.Model.UnpackedFloat

variable {a b value : Float32} {c d : Float} {sign : Sign} {low high : ℤ}

/-! What an operation does to the numbers that its operands describe. -/

section Unpacked

theorem unpack_mul : (a * b).toModel.unpack =
    stored Format.binary32 (UnpackedFloat.mul Format.binary32 a.toModel.unpack b.toModel.unpack) :=
  rfl

theorem unpack_div : (a / b).toModel.unpack =
    stored Format.binary32 (UnpackedFloat.div Format.binary32 a.toModel.unpack b.toModel.unpack) :=
  rfl

theorem unpack_abs : a.abs.toModel.unpack =
    stored Format.binary32 a.toModel.unpack.abs :=
  rfl

theorem unpack_widen : (Binary32.widen a).toModel.unpack =
    stored Format.binary64 (Binary32.roundTo Format.binary64 a.toModel.unpack) :=
  rfl

theorem unpack_add : (c + d).toModel.unpack =
    stored Format.binary64 (UnpackedFloat.add Format.binary64 c.toModel.unpack d.toModel.unpack) :=
  rfl

theorem unpack_sqrt : c.sqrt.toModel.unpack =
    stored Format.binary64 (UnpackedFloat.sqrt Format.binary64 c.toModel.unpack) :=
  rfl

theorem unpack_narrow : (Binary32.narrow c).toModel.unpack =
    stored Format.binary32 (Binary32.roundTo Format.binary32 c.toModel.unpack) :=
  rfl

theorem isFinite_eq : a.isFinite = a.toModel.unpack.isFinite :=
  rfl

theorem beq_zero_iff : (a == 0) = true ↔ ∃ sign, a.toModel.unpack = .zero sign := by
  have compared : (a == 0) = a.toModel.unpack.beq (.zero .positive) := rfl
  rw [compared]
  rcases a.toModel.unpack with (_ | _) | _ | _ | ⟨_ | _, significand, exponent, _⟩ <;>
    simp [UnpackedFloat.beq, UnpackedFloat.compare]

end Unpacked

/-- The power of two below which a number lies, and the least power for zero. -/
def height (value : Float32) : ℤ :=
  match value.toModel.unpack with
  | .finite _ significand exponent _ => totalExponent significand exponent
  | _ => Format.binary32.minExponent

theorem unpack_of_isFinite (finite : value.isFinite = true) :
    (∃ sign, value.toModel.unpack = .zero sign) ∨
      ∃ sign significand exponent positive,
        value.toModel.unpack = .finite sign significand exponent positive ∧
          Canonical Format.binary32 significand exponent ∧
          totalExponent significand exponent ≤ 128 := by
  rw [isFinite_eq] at finite
  cases found : value.toModel.unpack with
  | infinity sign =>
      rw [found] at finite
      cases finite
  | notANumber =>
      rw [found] at finite
      cases finite
  | zero sign => exact .inl ⟨sign, rfl⟩
  | finite sign significand exponent positive =>
      exact .inr ⟨sign, significand, exponent, positive, rfl, canonical_of_unpack found⟩

section Heights

variable (finite : value.isFinite = true)
include finite

theorem below_height :
    ∃ sign, Below Format.binary32 sign (height value) value.toModel.unpack := by
  unfold height
  obtain ⟨sign, found⟩ | ⟨sign, significand, exponent, positive, found, canonical, -⟩ :=
    unpack_of_isFinite finite
  · rw [found]
    exact ⟨sign, .zero⟩
  · rw [found]
    exact ⟨sign, .finite positive canonical le_rfl⟩

theorem above_height (nonzero : (value == 0) = false) :
    ∃ sign, Above Format.binary32 sign (height value) value.toModel.unpack := by
  unfold height
  obtain ⟨sign, found⟩ | ⟨sign, significand, exponent, positive, found, canonical, -⟩ :=
    unpack_of_isFinite finite
  · rw [beq_zero_iff.mpr ⟨sign, found⟩] at nonzero
    cases nonzero
  · rw [found]
    exact ⟨sign, .finite positive canonical le_rfl⟩

theorem nonzero_iff_height : (value == 0) = false ↔ -149 < height value := by
  have least : Format.binary32.minExponent = -149 := rfl
  rw [← Bool.not_eq_true, beq_zero_iff, height]
  obtain ⟨sign, found⟩ | ⟨sign, significand, exponent, positive, found, canonical, -⟩ :=
    unpack_of_isFinite finite
  · simp [found, least]
  · have above := canonical.least
    rw [least] at above
    simpa [found] using above

end Heights

theorem nonzero_of_above (above : Above Format.binary32 sign low value.toModel.unpack) :
    (value == 0) = false := by
  rw [← Bool.not_eq_true, beq_zero_iff]
  rintro ⟨sign', zero⟩
  rw [zero] at above
  cases above

/-- The least number whose square is beyond the range of the format. -/
def squareLimit : Float32 :=
  Float32.ofBits 0x5f800000

theorem abs_lt_squareLimit_iff (finite : value.isFinite = true) :
    value.abs < squareLimit ↔ height value ≤ 64 := by
  have limit : squareLimit.toModel.unpack = .finite .positive (2 ^ 23) 41 (by decide) := rfl
  rw [Binary32.lt_iff, Binary32.key, Binary32.key, limit, unpack_abs, height]
  obtain ⟨sign, found⟩ | ⟨sign, significand, exponent, positive, found, canonical, inside⟩ :=
    unpack_of_isFinite finite
  · simp [found, UnpackedFloat.abs, stored_zero, Binary32.unpackedKey, Binary32.keyOf_ne_bot,
      Binary32.keyOf_lt, Format.minExponent, Format.mantissaBits]
  · have kept : stored Format.binary32 (.finite .positive significand exponent positive) =
        .finite .positive significand exponent positive :=
      stored_finite (by decide) positive canonical inside
    simp only [found, UnpackedFloat.abs, kept, Binary32.unpackedKey, Binary32.keyOf_lt, ne_eq,
      Binary32.keyOf_ne_bot, not_false_eq_true, true_and, lt_self_iff_false, false_or]
    have target : max (totalExponent significand exponent - 24) (-149) = exponent := canonical
    simp only [totalExponent] at target ⊢
    -- With the exponent of the limit a significand is at least that of the limit.
    by_cases least : exponent = 41
    · have places : significand.log2 = 23 := by
        omega
      have full := pow_log2_le positive
      rw [places] at full
      omega
    · omega

section Squares

theorem square_sign (sign : Sign) : sign * sign = .positive := by
  cases sign <;> rfl

/-- The square has positive sign and at most twice the height. -/
theorem square_below (finite : value.isFinite = true) (normal : -149 < high)
    (larger : 2 * height value < high) :
    Below Format.binary32 .positive high
      (UnpackedFloat.mul Format.binary32 value.toModel.unpack value.toModel.unpack) := by
  obtain ⟨sign, below⟩ := below_height finite
  rw [← square_sign sign]
  exact mul_below below below normal (by omega)

theorem square_infinite (finite : value.isFinite = true) (large : 64 < height value) :
    (value * value).toModel.unpack = .infinity .positive := by
  have nonzero : (value == 0) = false := (nonzero_iff_height finite).mpr (by omega)
  obtain ⟨sign, above⟩ := above_height finite nonzero
  have least : Format.binary32.minExponent = -149 := rfl
  have range : (Format.binary32.exponentBias : ℤ) + 1 = 128 := rfl
  rw [unpack_mul, ← square_sign sign]
  exact stored_beyond (mul_above above above (by omega)) (by omega)

/-- The greatest squares are rounded without a carry. -/
theorem roundWithAccuracy_square {significand : ℕ} (places : significand.log2 = 23)
    (full : (significand * significand).log2 = 47) :
    Below Format.binary32 sign 128
      (roundWithAccuracy Format.binary32 sign (significand * significand) 80 .exact) := by
  have total : totalExponent (significand * significand) 80 = 128 := by
    rw [totalExponent, full]
    rfl
  have aimed : Format.binary32.targetExponent (totalExponent (significand * significand) 80) =
      104 := by
    rw [total]
    rfl
  have product : 0 < significand * significand := by
    refine Nat.pos_of_ne_zero fun zero => ?_
    rw [zero] at full
    cases full
  obtain ⟨filled, lower, -⟩ := totalExponent_shortened .exact product
    (by rw [aimed]; decide) aimed rfl (by rw [total]; decide)
  have bound : significand ≤ 2 ^ 24 - 1 := by
    have below := Nat.lt_log2_self (n := significand)
    rw [places] at below
    omega
  have upper : shortened (significand * significand) .exact ((104 : ℤ) - 80).toNat < 2 ^ 24 := by
    refine (shortened_le_div_succ _ _ _).trans_lt ?_
    have quotient : significand * significand / 2 ^ 24 ≤ 2 ^ 24 - 2 := by
      have square := Nat.mul_le_mul bound bound
      omega
    exact Nat.lt_of_le_of_lt (Nat.succ_le_succ quotient) (by decide)
  have few := (Nat.log2_lt filled.ne').mpr upper
  obtain ⟨final, place, finite, result, canonical, top⟩ :=
    roundWithAccuracy_finite sign (by rw [aimed]; decide) aimed rfl filled
      (aimed.ge.trans (targetExponent_mono lower))
  rw [result]
  refine .finite finite canonical ?_
  rw [top, totalExponent]
  omega

theorem square_finite (finite : value.isFinite = true) (small : height value ≤ 64) :
    Below Format.binary32 .positive 128
      (UnpackedFloat.mul Format.binary32 value.toModel.unpack value.toModel.unpack) := by
  rcases small.lt_or_eq with lower | top
  · exact square_below finite (by decide) (by omega)
  · rw [height] at top
    obtain ⟨sign, found⟩ | ⟨sign, significand, exponent, positive, found, canonical, -⟩ :=
      unpack_of_isFinite finite
    · rw [found, ← square_sign sign]
      exact .zero
    · simp only [found] at top
      have target : max (totalExponent significand exponent - 24) (-149) = exponent := canonical
      obtain rfl : exponent = 40 := by
        omega
      have places : significand.log2 = 23 := by
        simp only [totalExponent] at top
        omega
      obtain ⟨least, most⟩ := log2_mul_bounds positive positive
      rw [places] at least most
      rw [found, ← square_sign sign]
      by_cases full : (significand * significand).log2 = 47
      · exact roundWithAccuracy_square places full
      · refine roundWithAccuracy_below (Nat.mul_pos positive positive)
          (mul_fits positive positive canonical canonical) (by decide) ?_
        simp only [totalExponent]
        omega

theorem unpack_square (finite : value.isFinite = true) (small : height value ≤ 64) :
    (value * value).toModel.unpack =
      UnpackedFloat.mul Format.binary32 value.toModel.unpack value.toModel.unpack := by
  rw [unpack_mul]
  exact stored_of_below (by decide) (square_finite finite small) (by decide)

end Squares

end TextVectors.Rounding
