import TextVectors.Pooling
import TextVectors.Proofs.Rounding.Heights

namespace TextVectors.Pooling

/-! What normalization leaves of a row.

The squares are rounded to binary32 before they are added, so the norm is infinite as soon as one
value is too large to be squared.  Otherwise the norm is so close to the largest value that the
quotient of the two is not rounded to zero, however many values there are: the sum of squares
stops growing once the squares are below its last place.
-/

open Float.Model Float.Model.UnpackedFloat Rounding

variable {row : List Float32} {value : Float32} {sum term : Float} {sign : Sign}
variable {high top : ℤ}

/-- What a row is divided by. -/
def divisor (row : List Float32) : Float32 :=
  Binary32.atLeast normFloor (Binary32.narrow (sumOfSquares row).sqrt)

theorem unpack_normFloor :
    normFloor.toModel.unpack = .finite .positive 9223372 (-63) (by decide) :=
  rfl

theorem normalize_eq : normalize row = row.map (· * (1 / divisor row)) :=
  rfl

section Sums

theorem widen_below (below : Below Format.binary32 sign high value.toModel.unpack)
    (normal : -1075 < high) (inside : high < 1024) :
    Below Format.binary64 sign (high + 1) (Binary32.widen value).toModel.unpack := by
  rw [unpack_widen]
  apply below_stored (by decide)
  · exact roundTo_below below (by change -1074 < high + 1; omega) (by omega)
  · change high + 1 ≤ 1024
    omega

theorem widen_infinite (infinite : value.toModel.unpack = .infinity sign) :
    (Binary32.widen value).toModel.unpack = .infinity sign := by
  rw [unpack_widen, infinite]
  exact stored_infinity

theorem add_small (total : Below Format.binary64 .positive top sum.toModel.unpack)
    (small : Below Format.binary64 .positive high term.toModel.unpack)
    (apart : high + 54 < top) (inside : top ≤ 1024) :
    Below Format.binary64 .positive top (sum + term).toModel.unpack := by
  rw [unpack_add]
  exact below_stored (by decide)
    (add_saturated total small (by change high + 53 + 1 < top; omega)) inside

theorem foldl_small
    (terms : ∀ value ∈ row, Below Format.binary64 .positive high
      (Binary32.widen (value * value)).toModel.unpack)
    (total : Below Format.binary64 .positive top sum.toModel.unpack)
    (apart : high + 54 < top) (inside : top ≤ 1024) :
    Below Format.binary64 .positive top
      (row.foldl (fun sum value => sum + Binary32.widen (value * value)) sum).toModel.unpack := by
  induction row generalizing sum with
  | nil => exact total
  | cons value rest ih =>
      obtain ⟨first, others⟩ := List.forall_mem_cons.mp terms
      exact ih others (add_small total first apart inside)

end Sums

/-! An infinite square makes the sum infinite, and what is divided by it zero. -/

section Infinite

theorem add_infinite (nonnegative : Nonnegative Format.binary64 sum.toModel.unpack)
    (nonnegative' : Nonnegative Format.binary64 term.toModel.unpack)
    (infinite : sum.toModel.unpack = .infinity .positive ∨
      term.toModel.unpack = .infinity .positive) :
    (sum + term).toModel.unpack = .infinity .positive := by
  rw [unpack_add]
  rcases infinite with left | right
  · rw [left, infinity_add nonnegative', stored_infinity]
  · rw [right, add_infinity nonnegative, stored_infinity]

theorem foldl_infinite
    (terms : ∀ value ∈ row, Nonnegative Format.binary64
      (Binary32.widen (value * value)).toModel.unpack)
    (nonnegative : Nonnegative Format.binary64 sum.toModel.unpack)
    (infinite : sum.toModel.unpack = .infinity .positive ∨
      ∃ value ∈ row, (Binary32.widen (value * value)).toModel.unpack = .infinity .positive) :
    (row.foldl (fun sum value => sum + Binary32.widen (value * value)) sum).toModel.unpack =
      .infinity .positive := by
  induction row generalizing sum with
  | nil =>
      rcases infinite with reached | ⟨value, member, -⟩
      · exact reached
      · cases member
  | cons value rest ih =>
      obtain ⟨first, others⟩ := List.forall_mem_cons.mp terms
      refine ih others (add_nonnegative (by decide) nonnegative first) ?_
      rw [List.exists_mem_cons_iff] at infinite
      rcases infinite with reached | reached | later
      · exact .inl (add_infinite nonnegative first (.inl reached))
      · exact .inl (add_infinite nonnegative first (.inr reached))
      · exact .inr later

theorem square_nonnegative (finite : value.isFinite = true) :
    Nonnegative Format.binary64 (Binary32.widen (value * value)).toModel.unpack := by
  by_cases small : height value ≤ 64
  · have square := square_finite finite small
    rw [← unpack_square finite small] at square
    exact .bounded (widen_below square (by decide) (by decide))
  · rw [widen_infinite (square_infinite finite (not_le.mp small))]
    exact .infinity

theorem sumOfSquares_infinite (finite : ∀ value ∈ row, value.isFinite = true)
    (large : ∃ value ∈ row, 64 < height value) :
    (sumOfSquares row).toModel.unpack = .infinity .positive := by
  obtain ⟨value, member, exceeds⟩ := large
  refine foldl_infinite (fun value member => square_nonnegative (finite value member))
    (.bounded (.zero : Below _ _ 0 _)) (.inr ⟨value, member, ?_⟩)
  exact widen_infinite (square_infinite (finite value member) exceeds)

theorem divisor_infinite (infinite : (sumOfSquares row).toModel.unpack = .infinity .positive) :
    (divisor row).toModel.unpack = .infinity .positive := by
  have narrowed : (Binary32.narrow (sumOfSquares row).sqrt).toModel.unpack =
      .infinity .positive := by
    rw [unpack_narrow, unpack_sqrt, infinite]
    rfl
  have number : (Binary32.narrow (sumOfSquares row).sqrt).isNaN = false := by
    rw [Binary32.number_iff, Binary32.key, narrowed]
    exact Binary32.keyOf_ne_bot
  have reached : ¬ Binary32.narrow (sumOfSquares row).sqrt < normFloor := by
    rw [Binary32.lt_iff, Binary32.key, Binary32.key, narrowed, unpack_normFloor]
    simp [Binary32.unpackedKey, Binary32.keyOf_lt]
  rw [divisor, Binary32.atLeast, number, if_neg Bool.false_ne_true, if_neg reached, narrowed]

/-- Nothing is left of a finite value divided by an infinite norm. -/
theorem mul_infinite (finite : value.isFinite = true)
    (infinite : (divisor row).toModel.unpack = .infinity .positive) :
    (value * (1 / divisor row) == 0) = true := by
  rw [beq_zero_iff, unpack_mul, unpack_div, infinite]
  have vanished : stored Format.binary32
      (UnpackedFloat.div Format.binary32 (1 : Float32).toModel.unpack (.infinity .positive)) =
        .zero .positive :=
    stored_zero
  rw [vanished]
  obtain ⟨sign, below⟩ := below_height finite
  rw [mul_zero below]
  exact ⟨_, stored_zero⟩

end Infinite

/-! Otherwise the largest value survives. -/

section Finite

/-- A root has half the height of the sum, and the least norm is below `2 ^ -39`. -/
theorem divisor_below (bound : ℤ)
    (below : Below Format.binary64 .positive top (sumOfSquares row).toModel.unpack)
    (normal : -39 ≤ bound) (inside : bound ≤ 128) (larger : top + 3 < 2 * bound) :
    Below Format.binary32 .positive bound (divisor row).toModel.unpack := by
  have root : Below Format.binary64 .positive (bound - 1)
      (sumOfSquares row).sqrt.toModel.unpack := by
    rw [unpack_sqrt]
    exact below_stored (by decide)
      (sqrt_below below (by change -1074 < bound - 1; omega) (by omega))
      (by change bound - 1 ≤ 1024; omega)
  have norm : Below Format.binary32 .positive bound
      (Binary32.narrow (sumOfSquares row).sqrt).toModel.unpack := by
    rw [unpack_narrow]
    exact below_stored (by decide)
      (roundTo_below root (by change -149 < bound; omega) (by omega)) inside
  have floor : Below Format.binary32 .positive bound normFloor.toModel.unpack := by
    rw [unpack_normFloor]
    exact .finite (by decide) (by decide) (le_trans (by decide) normal)
  unfold divisor Binary32.atLeast
  split_ifs
  · exact floor
  · exact floor
  · exact norm

/-- However long the row, its sum of squares stays below a bound that its tallest value sets. -/
theorem squares_below (high : ℤ) (finite : ∀ value ∈ row, value.isFinite = true)
    (small : top ≤ 64) (tallest : ∀ value ∈ row, height value ≤ top) (least : -149 < high)
    (larger : 2 * top < high) (inside : high ≤ 129) :
    Below Format.binary64 .positive (high + 56) (sumOfSquares row).toModel.unpack := by
  have terms : ∀ value ∈ row, Below Format.binary64 .positive (high + 1)
      (Binary32.widen (value * value)).toModel.unpack := by
    intro value member
    have lower := tallest value member
    have square := square_below (finite value member) least (by omega)
    rw [← unpack_square (finite value member) (by omega)] at square
    exact widen_below square (by omega) (by omega)
  exact foldl_small terms .zero (by omega) (by omega)

theorem one_above : Above Format.binary32 .positive 1 (1 : Float32).toModel.unpack := by
  have described : (1 : Float32).toModel.unpack =
      .finite .positive (2 ^ 23) (-23) (by decide) := rfl
  rw [described]
  exact .finite (by decide) (by decide) (by decide)

theorem quotient_above (finite : value.isFinite = true) (nonzero : (value == 0) = false)
    (below : Below Format.binary32 .positive top (divisor row).toModel.unpack)
    (inside : top < 149) (apart : -149 < height value - top) :
    (value * (1 / divisor row) == 0) = false := by
  have factor : Above Format.binary32 .positive (1 - top) (1 / divisor row).toModel.unpack := by
    rw [unpack_div]
    exact above_stored (by decide) (div_above one_above below (by change -149 < 1 - top; omega))
  obtain ⟨sign, above⟩ := above_height finite nonzero
  have product : Above Format.binary32 (sign * .positive) (height value + (1 - top) - 1)
      (value * (1 / divisor row)).toModel.unpack := by
    rw [unpack_mul]
    exact above_stored (by decide) (mul_above above factor
      (by change -149 < height value + (1 - top) - 1; omega))
  exact nonzero_of_above product

/-- The largest value keeps its place: the norm exceeds it by a bounded factor. -/
theorem tallest_kept (finite : ∀ value ∈ row, value.isFinite = true)
    (some : ∃ value ∈ row, (value == 0) = false)
    (small : ∀ value ∈ row, height value ≤ 64) :
    ∃ value ∈ row, (value * (1 / divisor row) == 0) = false := by
  obtain ⟨other, present, nonzero⟩ := some
  obtain ⟨value, member, tallest⟩ := Set.exists_max_image {value | value ∈ row} height
    row.finite_toSet ⟨other, present⟩
  have high := tallest other present
  have least := (nonzero_iff_height (finite other present)).mp nonzero
  have most := small value member
  -- The norm is below `2 ^ 32` times the value, or below `2 ^ -39` if all values are tiny.
  have total := squares_below (max (2 * height value + 1) (-148)) finite most tallest
    (by omega) (by omega) (by omega)
  have norm := divisor_below (max ((max (2 * height value + 1) (-148) + 61) / 2) (-39))
    total (by omega) (by omega) (by omega)
  exact ⟨value, member, quotient_above (finite value member)
    ((nonzero_iff_height (finite value member)).mpr (by omega)) norm (by omega) (by omega)⟩

end Finite

section Zero

theorem eq_of_beq_zero (zero : (value == 0) = true) : value = 0 ∨ value = -0 := by
  obtain ⟨-, -, same | ⟨same, -⟩ | ⟨same, -⟩⟩ := Float32.beq_iff_ne_nan_and_eq.mp zero
  · exact .inl same
  · exact .inl same
  · exact .inr same

theorem sumOfSquares_zero (zero : ∀ value ∈ row, (value == 0) = true) : sumOfSquares row = 0 := by
  unfold sumOfSquares
  induction row with
  | nil => rfl
  | cons value rest ih =>
      obtain ⟨first, others⟩ := List.forall_mem_cons.mp zero
      have stays : 0 + Binary32.widen (value * value) = 0 := by
        rcases eq_of_beq_zero first with rfl | rfl <;> decide
      rw [List.foldl_cons, stays]
      exact ih others

theorem zero_kept (zero : ∀ value ∈ row, (value == 0) = true) (member : value ∈ row) :
    (value * (1 / divisor row) == 0) = true := by
  rw [divisor, sumOfSquares_zero zero]
  rcases eq_of_beq_zero (zero value member) with rfl | rfl <;> decide

end Zero

theorem exists_kept_iff : (∃ kept ∈ normalize row, (kept == 0) = false) ↔
    ∃ value ∈ row, (value * (1 / divisor row) == 0) = false := by
  simp [normalize_eq]

/-- Of a row of finite values normalization keeps a value that is not zero exactly when there is
one and the square of every value is within the range of the format. -/
theorem normalize_nonzero_iff (finite : ∀ value ∈ row, value.isFinite = true) :
    (∃ kept ∈ normalize row, (kept == 0) = false) ↔
      (∃ value ∈ row, (value == 0) = false) ∧ ∀ value ∈ row, value.abs < squareLimit := by
  rw [exists_kept_iff]
  constructor
  · rintro ⟨value, member, kept⟩
    constructor
    · by_contra nothing
      have zero : ∀ value ∈ row, (value == 0) = true := by
        simpa using nothing
      rw [zero_kept zero member] at kept
      cases kept
    · intro other present
      rw [abs_lt_squareLimit_iff (finite other present)]
      by_contra large
      have infinite := divisor_infinite
        (sumOfSquares_infinite finite ⟨other, present, not_le.mp large⟩)
      rw [mul_infinite (finite value member) infinite] at kept
      cases kept
  · rintro ⟨some, small⟩
    exact tallest_kept finite some fun value member =>
      (abs_lt_squareLimit_iff (finite value member)).mp (small value member)

/-- The largest value that can be squared keeps its row from being erased. -/
theorem largest_squared_kept :
    ∃ kept ∈ normalize [Float32.ofBits 0x5f7fffff, 1e-45, 0], (kept == 0) = false := by
  have finite : ∀ value ∈ [Float32.ofBits 0x5f7fffff, 1e-45, 0], value.isFinite = true := by
    decide
  exact (normalize_nonzero_iff finite).mpr ⟨by decide, by decide⟩

/-- A finite value far above the least norm is erased. -/
theorem large_row_erased :
    (∀ value ∈ [squareLimit], value.isFinite = true ∧ normFloor ≤ value.abs) ∧
      normalize [squareLimit] = [Binary32.zero] := by
  decide

end TextVectors.Pooling
