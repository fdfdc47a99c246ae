namespace TextVectors

/-! Machine words.

Sizes are natural numbers below `wordLimit`, and dimensions are integers of the
same width with a sign.  Code that computes with them states where it checks the
limit and where it wraps.
-/

/-- One more than the largest size: the 64th power of two. -/
def wordLimit : Nat := 18446744073709551616

/-- One more than the largest dimension: the 63rd power of two. -/
def signedLimit : Nat := 9223372036854775808

/-- One more than the largest number in half a word: the 32nd power of two. -/
def halfWordLimit : Nat := 4294967296

/-- The dimension with the same bits as a size: sizes from `signedLimit` on become
negative. -/
def wrapToSigned (size : Nat) : Int :=
  Int.bmod size wordLimit

/-- A product that stays at the largest size instead of exceeding it. -/
def saturatingProduct (a b : Nat) : Nat :=
  min (a * b) (wordLimit - 1)

theorem wrapToSigned_of_lt {size : Nat} (small : size < signedLimit) :
    wrapToSigned size = size := by
  unfold wrapToSigned wordLimit
  unfold signedLimit at small
  rw [Int.bmod_def]
  omega

end TextVectors
