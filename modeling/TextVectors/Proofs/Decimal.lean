import Mathlib.Algebra.Group.Nat.Defs
import TextVectors.Decimal.Style

namespace TextVectors.Decimal

/-! The digits that are selected for a number.

A candidate must read back as the number, which zero only does for zero.
-/

theorem tenTo_pos (exponent : Int) : 0 < tenTo exponent :=
  Nat.pow_pos (by decide)

theorem twoTo_pos (exponent : Int) : 0 < twoTo exponent :=
  Nat.pow_pos (by decide)

variable {x : Magnitude} {tie : Tie} {place : Int} {found : Digits}

theorem compareScaled_zero {b : Nat} (positive : 0 < b) (i j : Int) :
    compareScaled 0 i b j = .lt := by
  have large : 0 < b * twoTo j * tenTo (-i) :=
    Nat.mul_pos (Nat.mul_pos positive (twoTo_pos j)) (tenTo_pos (-i))
  rw [compareScaled, Nat.zero_mul, Nat.zero_mul]
  exact Nat.compare_eq_lt.mpr large

/-- Zero does not read back as a number that is none. -/
theorem Magnitude.readsBack_zero (positive : 0 < x.significand) (place : Int) :
    x.readsBack ⟨0, place⟩ = false := by
  have lower : 0 < (if x.narrowBelow then 4 * x.significand - 1 else 4 * x.significand - 2) := by
    split <;> omega
  simp only [readsBack, compareScaled_zero lower]
  simp

theorem Magnitude.candidateAt_ne_zero (positive : 0 < x.significand)
    (candidate : x.candidateAt tie place = some found) : found.digits ≠ 0 := by
  have notZero {digits : Nat} (back : x.readsBack ⟨digits, place⟩ = true) : digits ≠ 0 := by
    rintro rfl
    rw [readsBack_zero positive] at back
    cases back
  simp only [candidateAt] at candidate
  split at candidate
  · rename_i first second
    cases candidate
    have lower := notZero first
    simp only [nearer]
    split
    · exact lower
    · exact Nat.succ_ne_zero _
    · split
      · exact Nat.succ_ne_zero _
      · split
        · exact lower
        · exact Nat.succ_ne_zero _
  · rename_i first second
    cases candidate
    exact notZero first
  · cases candidate
    exact Nat.succ_ne_zero _
  · cases candidate

theorem stripZeros_ne_zero {fuel : Nat} {digits : Digits} (positive : digits.digits ≠ 0) :
    (stripZeros fuel digits).digits ≠ 0 := by
  induction fuel generalizing digits with
  | zero => exact positive
  | succ fuel ih =>
      rw [stripZeros]
      split
      · rename_i padded
        have divisible : digits.digits % 10 = 0 := by simpa using padded.1
        exact ih (show digits.digits / 10 ≠ 0 by omega)
      · exact positive

theorem Magnitude.shortest_ne_zero (positive : 0 < x.significand) (tie : Tie) :
    (x.shortest tie).digits ≠ 0 := by
  refine stripZeros_ne_zero ?_
  cases search : (List.range 9).findSome? fun n : Nat =>
      x.candidateAt tie (x.scale - ((n : Int) + 1)) with
  | some found =>
      obtain ⟨n, -, candidate⟩ := List.exists_of_findSome?_eq_some search
      exact candidateAt_ne_zero positive candidate
  | none =>
      have five : 0 < Nat.pow 5 (-x.exponent).toNat := Nat.pow_pos (by decide)
      simp only [Option.getD_none, exact]
      split
      · exact Nat.ne_of_gt (Nat.mul_pos positive five)
      · exact Nat.ne_of_gt (Nat.mul_pos positive (twoTo_pos _))

theorem Magnitude.ofBits_positive {bits : UInt32} (some : bits ≠ 0)
    (unsigned : bits.toNat < 2 ^ 31) : 0 < (ofBits bits).significand := by
  have biased : ((bits >>> 23) &&& 0xFF).toNat = bits.toNat / 2 ^ 23 % 2 ^ 8 := by
    simp [UInt32.toNat_and, UInt32.toNat_shiftRight, Nat.shiftRight_eq_div_pow,
      Nat.and_two_pow_sub_one_eq_mod _ 8]
  have fraction : (bits &&& 0x7FFFFF).toNat = bits.toNat % 2 ^ 23 := by
    simp [UInt32.toNat_and, Nat.and_two_pow_sub_one_eq_mod _ 23]
  have positive : bits.toNat ≠ 0 := fun zero => some (UInt32.toNat.inj zero)
  simp only [ofBits, biased, fraction]
  split
  · rename_i small
    have small : bits.toNat / 2 ^ 23 % 2 ^ 8 = 0 := by simpa using small
    show 0 < bits.toNat % 2 ^ 23
    omega
  · exact Nat.add_pos_left (twoTo_pos 23) _

/-- Only zero has no digits but zero, and those are its ones. -/
theorem digitsOf_zero {x : Float32} (zero : (digitsOf tie x).digits = 0) :
    digitsOf tie x = ⟨0, 0⟩ := by
  unfold digitsOf at zero ⊢
  dsimp only at zero ⊢
  split
  · rfl
  · rename_i some
    rw [if_neg some] at zero
    have unsigned : (x.toBits &&& 0x7FFFFFFF).toNat < 2 ^ 31 := by
      rw [UInt32.toNat_and]
      exact Nat.and_lt_two_pow _ (by decide)
    exact absurd zero (Magnitude.shortest_ne_zero
      (Magnitude.ofBits_positive (by simpa using some) unsigned) tie)

end TextVectors.Decimal
