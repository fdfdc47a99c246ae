import TextVectors.Binary32
import TextVectors.Proofs.Rounding.Packing

namespace TextVectors.Rounding

/-! Bounds for the results of arithmetic.

Each operation takes bounds of its operands to a bound of its rounded result.  The bounds are
powers of two and have one place to spare for what rounding may carry.
-/

open Float.Model Float.Model.UnpackedFloat

variable {format source : Format} {sign sign' : Sign} {left right significand : ℕ}
variable {exponent exponent' low low' high high' : ℤ} {x y : UnpackedFloat}

/-! Binary places of sums, products, quotients and roots. -/

section Places

theorem log2_add_le (places right : ℕ) (positive : 0 < left) (first : left.log2 ≤ places)
    (second : right.log2 ≤ places) : (left + right).log2 ≤ places + 1 := by
  have bound : left < 2 ^ (places + 1) :=
    Nat.lt_log2_self.trans_le (Nat.pow_le_pow_right two_pos (by omega))
  have bound' : right < 2 ^ (places + 1) :=
    Nat.lt_log2_self.trans_le (Nat.pow_le_pow_right two_pos (by omega))
  apply Nat.lt_succ_iff.mp
  rw [Nat.log2_lt (by omega), Nat.succ_eq_add_one, Nat.pow_succ]
  omega

theorem log2_mul_bounds (positive : 0 < left) (positive' : 0 < right) :
    left.log2 + right.log2 ≤ (left * right).log2 ∧
      (left * right).log2 ≤ left.log2 + right.log2 + 1 := by
  have product : left * right ≠ 0 := (Nat.mul_pos positive positive').ne'
  constructor
  · rw [Nat.le_log2 product, Nat.pow_add]
    exact Nat.mul_le_mul (pow_log2_le positive) (pow_log2_le positive')
  · apply Nat.lt_succ_iff.mp
    rw [Nat.log2_lt product]
    calc left * right
        < 2 ^ (left.log2 + 1) * 2 ^ (right.log2 + 1) :=
          Nat.mul_lt_mul_of_lt_of_lt Nat.lt_log2_self Nat.lt_log2_self
      _ = 2 ^ (left.log2 + right.log2 + 1).succ := by
          rw [← Nat.pow_add]
          congr 1
          omega

theorem le_log2_div (left : ℕ) (positive : 0 < right) (larger : right.log2 < left.log2) :
    0 < left / right ∧ left.log2 ≤ (left / right).log2 + right.log2 + 1 := by
  have filled : 0 < left := by
    refine Nat.pos_of_ne_zero fun zero => ?_
    rw [zero, Nat.log2_zero] at larger
    exact Nat.not_lt_zero _ larger
  have fits : 2 ^ (left.log2 - right.log2 - 1) * right ≤ left := by
    calc 2 ^ (left.log2 - right.log2 - 1) * right
        ≤ 2 ^ (left.log2 - right.log2 - 1) * 2 ^ (right.log2 + 1) :=
          Nat.mul_le_mul_left _ Nat.lt_log2_self.le
      _ = 2 ^ left.log2 := by
          rw [← Nat.pow_add]
          congr 1
          omega
      _ ≤ left := pow_log2_le filled
  have quotient := (Nat.le_div_iff_mul_le positive).mpr fits
  have some : 0 < left / right := (Nat.two_pow_pos _).trans_le quotient
  have places := (Nat.le_log2 some.ne').mpr quotient
  exact ⟨some, by omega⟩

theorem log2_sqrt (positive : 0 < significand) :
    0 < significand.sqrt ∧ significand.sqrt.log2 = significand.log2 / 2 := by
  have lower : 2 ^ (significand.log2 / 2) ≤ significand.sqrt := by
    rw [Nat.le_sqrt, ← Nat.pow_add]
    exact (Nat.pow_le_pow_right two_pos (by omega)).trans (pow_log2_le positive)
  have upper : significand.sqrt < 2 ^ (significand.log2 / 2 + 1) := by
    rw [Nat.sqrt_lt, ← Nat.pow_add]
    exact Nat.lt_log2_self.trans_le (Nat.pow_le_pow_right two_pos (by omega))
  exact ⟨(Nat.two_pow_pos _).trans_le lower, log2_eq_of_bounds lower upper⟩

end Places

theorem Canonical.least (canonical : Canonical format significand exponent) :
    format.minExponent < totalExponent significand exponent := by
  simp only [Canonical, Format.targetExponent, totalExponent] at *
  omega

/-! Rounding to a format, from another format or after an exact sum. -/

theorem decreaseExponent_eq : decreaseExponent significand exponent exponent' =
    (significand * 2 ^ (exponent - exponent').toNat, exponent - (exponent - exponent').toNat) := by
  rw [decreaseExponent, Nat.shiftLeft_eq]

theorem round_eq : UnpackedFloat.round format sign significand exponent =
    let count := (exponent - format.targetExponent (totalExponent significand exponent)).toNat
    roundWithAccuracy format sign (significand * 2 ^ count) (exponent - count) .exact := by
  rw [UnpackedFloat.round, decreaseExponent_eq]

theorem round_below (positive : 0 < significand) (normal : format.minExponent < high)
    (bound : totalExponent significand exponent < high) :
    Below format sign high (UnpackedFloat.round format sign significand exponent) := by
  rw [round_eq]
  apply roundWithAccuracy_below (Nat.mul_pos positive (Nat.two_pow_pos _)) _ normal
  · rwa [totalExponent_mul_pow positive]
  · rw [totalExponent_mul_pow positive]
    omega

theorem roundTo_below (below : Below source sign high x) (normal : format.minExponent < high')
    (larger : high < high') : Below format sign high' (Binary32.roundTo format x) := by
  cases below with
  | zero => exact .zero
  | finite positive canonical bound =>
      exact round_below positive normal (by omega)

/-! Sums of numbers that are not negative. -/

theorem normalize_positive (sign : Sign) (positive : 0 < significand) :
    UnpackedFloat.normalize format significand exponent sign =
      UnpackedFloat.round format .positive significand exponent := by
  have greater : compare (significand : ℤ) 0 = .gt :=
    compare_gt_iff_gt.mpr (Int.natCast_pos.mpr positive)
  rw [UnpackedFloat.normalize, greater]
  rfl

theorem add_finite {positive : 0 < left} {positive' : 0 < right} :
    UnpackedFloat.add format (.finite .positive left exponent positive)
        (.finite .positive right exponent' positive') =
      UnpackedFloat.round format .positive
        (left * 2 ^ (exponent - min exponent exponent').toNat +
          right * 2 ^ (exponent' - min exponent exponent').toNat) (min exponent exponent') := by
  have filled : 0 < left * 2 ^ (exponent - min exponent exponent').toNat +
      right * 2 ^ (exponent' - min exponent exponent').toNat :=
    Nat.add_pos_left (Nat.mul_pos positive (Nat.two_pow_pos _)) _
  rw [← normalize_positive .positive filled]
  simp only [UnpackedFloat.add, decreaseExponent_eq, Sign.apply, Nat.cast_add]

theorem add_below (first : Below format .positive high x)
    (second : Below format .positive high y) :
    Below format .positive (high + 2) (UnpackedFloat.add format x y) := by
  cases first with
  | zero =>
      cases second with
      | zero => exact .zero
      | finite positive canonical bound => exact .finite positive canonical (by omega)
  | @finite left exponent positive canonical bound =>
      cases second with
      | zero => exact .finite positive canonical (by omega)
      | @finite right exponent' positive' canonical' bound' =>
          have least := canonical.least
          have filled : 0 < left * 2 ^ (exponent - min exponent exponent').toNat :=
            Nat.mul_pos positive (Nat.two_pow_pos _)
          have places := log2_add_le (high - 1 - min exponent exponent').toNat
            (right * 2 ^ (exponent' - min exponent exponent').toNat) filled
            (by
              rw [log2_mul_pow positive]
              simp only [totalExponent] at bound
              omega)
            (by
              rw [log2_mul_pow positive']
              simp only [totalExponent] at bound'
              omega)
          rw [add_finite]
          apply round_below (Nat.add_pos_left filled _) (by omega)
          simp only [totalExponent] at *
          omega

/-- What lies below half of the last place of a number is lost in a sum with it. -/
theorem add_absorbed {positive : 0 < left} (canonical : Canonical format left exponent)
    (small : Below format .positive high y) (below : high < exponent) :
    UnpackedFloat.add format (.finite .positive left exponent positive) y =
      .finite .positive left exponent positive := by
  cases small with
  | zero => rfl
  | @finite right exponent' positive' canonical' bound =>
      obtain ⟨count, places⟩ : ∃ count : ℕ, exponent = exponent' + count :=
        ⟨(exponent - exponent').toNat, by
          simp only [totalExponent] at bound
          omega⟩
      have rest : right < 2 ^ count / 2 := by
        apply lt_half_pow
        simp only [totalExponent] at bound
        omega
      have small : right < 2 ^ count := rest.trans_le (Nat.div_le_self _ _)
      have total : totalExponent (left * 2 ^ count + right) exponent' =
          totalExponent left exponent := by
        simp only [totalExponent, log2_mul_pow_add positive small]
        omega
      have aimed : format.targetExponent
          (totalExponent (left * 2 ^ count + right) exponent') = exponent' + count := by
        rw [total, canonical, places]
      have filled : 0 < left * 2 ^ count + right := Nat.add_pos_right _ positive'
      have kept : (left * 2 ^ count + right) / 2 ^ count = left := by
        rw [Nat.mul_comm, Nat.mul_add_div (Nat.two_pow_pos count), Nat.div_eq_of_lt small,
          Nat.add_zero]
      obtain ⟨finite, result, -⟩ := roundWithAccuracy_truncates .positive filled aimed
        (by rw [Nat.mul_comm, Nat.mul_add_mod, Nat.mod_eq_of_lt small]; exact .inl rest)
        (by rw [total]; exact canonical.least)
      have least : min exponent exponent' = exponent' := by
        omega
      have up : (exponent - exponent').toNat = count := by
        omega
      have stay : (exponent' - exponent).toNat = 0 := by
        omega
      rw [← places] at aimed result
      simp only [add_finite, least, up, sub_self, Int.toNat_zero, pow_zero, Nat.mul_one, round_eq,
        aimed, stay, Nat.cast_zero, sub_zero, result, kept]

/-- A bound far above the terms bounds their sum however many they are. -/
theorem add_saturated (total : Below format .positive high' x)
    (small : Below format .positive high y) (apart : high + format.mantissaBits + 1 < high') :
    Below format .positive high' (UnpackedFloat.add format x y) := by
  cases total with
  | zero =>
      have added : Below format .positive (high + 2)
          (UnpackedFloat.add format (.zero .positive) y) := add_below .zero small
      have bits := mantissaBits_pos format
      exact added.mono (by omega)
  | @finite significand exponent positive canonical bound =>
      by_cases low : totalExponent significand exponent ≤ high' - 2
      · have added := add_below (.finite positive canonical low) (small.mono (by omega))
        rwa [Int.sub_add_cancel] at added
      · rw [add_absorbed canonical small (by
          simp only [Canonical, Format.targetExponent] at canonical
          omega)]
        exact .finite positive canonical bound

/-- The numbers that are not negative, infinity among them. -/
inductive Nonnegative (format : Format) : UnpackedFloat → Prop
  | infinity : Nonnegative format (.infinity .positive)
  | bounded {x : UnpackedFloat} {high : ℤ} (below : Below format .positive high x) :
      Nonnegative format x

theorem infinity_add (nonnegative : Nonnegative format y) :
    UnpackedFloat.add format (.infinity .positive) y = .infinity .positive := by
  rcases nonnegative with _ | (_ | _) <;> rfl

theorem add_infinity (nonnegative : Nonnegative format x) :
    UnpackedFloat.add format x (.infinity .positive) = .infinity .positive := by
  rcases nonnegative with _ | (_ | _) <;> rfl

theorem add_nonnegative (wide : 0 < format.exponentBias) (first : Nonnegative format x)
    (second : Nonnegative format y) :
    Nonnegative format (stored format (UnpackedFloat.add format x y)) := by
  cases first with
  | infinity =>
      rw [infinity_add second, stored_infinity]
      exact .infinity
  | @bounded _ high below =>
      cases second with
      | infinity =>
          rw [add_infinity (.bounded below), stored_infinity]
          exact .infinity
      | @bounded _ high' below' =>
          have added := add_below (below.mono (le_max_left high high'))
            (below'.mono (le_max_right high high'))
          rcases stored_or_infinity wide added with kept | infinite
          · rw [kept]
            exact .bounded added
          · rw [infinite]
            exact .infinity

/-! Products, quotients and roots. -/

theorem mul_fits (positive : 0 < left) (positive' : 0 < right)
    (canonical : Canonical format left exponent) (canonical' : Canonical format right exponent') :
    exponent + exponent' ≤
      format.targetExponent (totalExponent (left * right) (exponent + exponent')) := by
  have bits := mantissaBits_pos format
  have lowest : format.minExponent ≤ 0 := by
    have few := format.hm
    rw [minExponent_eq]
    omega
  have places := (log2_mul_bounds positive positive').1
  simp only [Canonical, Format.targetExponent, totalExponent] at *
  omega

theorem mul_below {bound : ℤ} (first : Below format sign high x)
    (second : Below format sign' high' y) (normal : format.minExponent < bound)
    (larger : high + high' < bound) :
    Below format (sign * sign') bound (UnpackedFloat.mul format x y) := by
  cases first with
  | zero => cases second <;> exact .zero
  | finite positive canonical upper =>
      cases second with
      | zero => exact .zero
      | finite positive' canonical' upper' =>
          have places := (log2_mul_bounds positive positive').2
          refine roundWithAccuracy_below (Nat.mul_pos positive positive')
            (mul_fits positive positive' canonical canonical') normal ?_
          simp only [totalExponent] at *
          omega

theorem mul_zero (below : Below format sign high x) :
    UnpackedFloat.mul format x (.zero sign') = .zero (sign * sign') := by
  cases below <;> rfl

theorem mul_above (first : Above format sign low x) (second : Above format sign' low' y)
    (normal : format.minExponent < low + low' - 1) :
    Above format (sign * sign') (low + low' - 1) (UnpackedFloat.mul format x y) := by
  cases first with
  | infinity => cases second <;> exact .infinity
  | finite positive canonical lower =>
      cases second with
      | infinity => exact .infinity
      | finite positive' canonical' lower' =>
          have places := (log2_mul_bounds positive positive').1
          refine roundWithAccuracy_above (Nat.mul_pos positive positive')
            (mul_fits positive positive' canonical canonical') ?_ ?_
          all_goals
            simp only [totalExponent] at *
            omega

theorem div_above (first : Above format sign low x) (second : Below format sign' high y)
    (normal : format.minExponent < low - high) :
    Above format (sign / sign') (low - high) (UnpackedFloat.div format x y) := by
  cases first with
  | infinity => cases second <;> exact .infinity
  | @finite left exponent positive canonical lower =>
      cases second with
      | zero => exact .infinity
      | @finite right exponent' positive' canonical' upper =>
          have bits := mantissaBits_pos format
          obtain ⟨place, chosen⟩ : ∃ place,
              min (exponent - exponent') (format.targetExponent
                (totalExponent left exponent - totalExponent right exponent')) = place :=
            ⟨_, rfl⟩
          have numerator : (left * 2 ^ (exponent - exponent' - place).toNat).log2 =
              left.log2 + (exponent - exponent' - place).toNat := log2_mul_pow positive
          simp only [Format.targetExponent, totalExponent] at chosen lower upper
          obtain ⟨filled, places⟩ := le_log2_div
            (left * 2 ^ (exponent - exponent' - place).toNat) positive' (by omega)
          simp only [UnpackedFloat.div, divCore, Format.targetExponent, totalExponent, chosen,
            Nat.shiftLeft_eq]
          apply roundWithAccuracy_above filled
          all_goals
            simp only [Format.targetExponent, totalExponent]
            omega

theorem sqrt_below (below : Below format .positive high x) (normal : format.minExponent < high')
    (larger : high + 1 < 2 * high') :
    Below format .positive high' (UnpackedFloat.sqrt format x) := by
  cases below with
  | zero => exact .zero
  | @finite significand exponent positive canonical bound =>
      have bits := mantissaBits_pos format
      obtain ⟨place, chosen⟩ : ∃ place, min (exponent.ediv 2)
          (format.targetExponent ((totalExponent significand exponent + 1).ediv 2)) = place :=
        ⟨_, rfl⟩
      have radicand : (significand * 2 ^ (exponent - 2 * place).toNat).log2 =
          significand.log2 + (exponent - 2 * place).toNat := log2_mul_pow positive
      have atMost : place ≤ exponent / 2 := by
        rw [← chosen]
        exact min_le_left _ _
      have enlarged : 0 < significand * 2 ^ (exponent - 2 * place).toNat :=
        Nat.mul_pos positive (Nat.two_pow_pos _)
      obtain ⟨filled, places⟩ := log2_sqrt enlarged
      have half : totalExponent (significand * 2 ^ (exponent - 2 * place).toNat).sqrt place =
          (totalExponent significand exponent + 1) / 2 := by
        simp only [totalExponent, places, radicand]
        omega
      simp only [UnpackedFloat.sqrt, sqrtCore, chosen, Nat.shiftLeft_eq]
      apply roundWithAccuracy_below filled _ normal
      · rw [half]
        omega
      · rw [half, ← chosen]
        exact min_le_right _ _

end TextVectors.Rounding
