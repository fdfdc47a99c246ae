import TextVectors.Proofs.Locality
import TextVectors.Proofs.Norm

namespace TextVectors.Pooling

/-! Rows without a token that counts.

Nothing is added to either sum of such a row, so both stay zero whatever the states are.  The least
denominator and the least norm are finite and not zero, and a zero times the inverse of such a
number is the same zero, sign included.
-/

variable {states : List Float32} {mask : List Int} {batch sequenceLength hidden : Nat}
variable {row : Nat}

/-- Tokens of weight zero leave both sums alone. -/
theorem weightedSum_masked {tokens : List (List Float32 × Int)}
    (masked : ∀ token ∈ tokens, token.2 = 0) (sums : List Float32 × Float32) :
    weightedSum sums tokens = sums := by
  induction tokens with
  | nil => rfl
  | cons token rest ih =>
      obtain ⟨first, others⟩ := List.forall_mem_cons.mp masked
      rw [weightedSum, if_pos first]
      exact ih others

theorem meanRow_masked (hidden : Nat) (tokens : List (List Float32))
    (masked : ∀ weight ∈ mask, weight = 0) :
    meanRow hidden tokens mask = List.replicate hidden Binary32.zero := by
  have weightless : ∀ token ∈ tokens.zip mask, token.2 = 0 := by
    intro token member
    exact masked token.2 (List.of_mem_zip member).2
  have kept : Binary32.zero * (1 / Binary32.atLeast denominatorFloor Binary32.zero) =
      Binary32.zero := by
    decide
  simp only [meanRow, weightedSum_masked weightless, List.map_replicate, kept]

/-- Normalization keeps a row of zeros as it is. -/
theorem normalize_zeros (count : Nat) :
    normalize (List.replicate count Binary32.zero) = List.replicate count Binary32.zero := by
  have zeros : ∀ value ∈ List.replicate count Binary32.zero, (value == 0) = true := by
    intro value member
    rw [List.eq_of_mem_replicate member]
    decide
  have kept : Binary32.zero *
      (1 / Binary32.atLeast normFloor (Binary32.narrow (Float.sqrt 0))) = Binary32.zero := by
    decide
  rw [normalize_eq, divisor, sumOfSquares_zero zeros, List.map_replicate, kept]

theorem rowOf_masked
    (masked : ∀ token < sequenceLength, mask[row * sequenceLength + token]? = some 0) :
    ∀ weight ∈ rowOf sequenceLength mask row, weight = 0 := by
  intro weight member
  obtain ⟨token, found⟩ := List.mem_iff_getElem?.mp member
  have within : token < sequenceLength := by
    have inside := (List.getElem?_eq_some_iff.mp found).1
    rw [rowOf, List.length_take] at inside
    omega
  rw [getElem?_rowOf within, masked token within] at found
  exact (Option.some.inj found).symm

/-- In every batch that is accepted, a row whose mask is zero throughout is averaged to positive
zeros, normalized or not, whatever the states of this row and of the others are. -/
theorem masked_rows_vanish
    (accepted : check states.length mask.length batch sequenceLength hidden = .ok ())
    (l2Normalize : Bool) :
    ∃ rows, Pooling.mean.pool states mask batch sequenceLength hidden l2Normalize = .ok rows ∧
      rows.length = batch ∧
      ∀ row < batch,
        (∀ token < sequenceLength, mask[row * sequenceLength + token]? = some 0) →
        rows[row]? = some (List.replicate hidden Binary32.zero) := by
  have pooled : Pooling.mean.pool states mask batch sequenceLength hidden l2Normalize =
      .ok (List.zipWith (Pooling.mean.pooledRow l2Normalize sequenceLength hidden)
        (chunks (sequenceLength * hidden) batch states) (chunks sequenceLength batch mask)) :=
    pool_eq accepted
  refine ⟨_, pooled, length_rows pooled, ?_⟩
  intro row inside masked
  have averaged := meanRow_masked hidden
    (chunks hidden sequenceLength (rowOf (sequenceLength * hidden) states row))
    (rowOf_masked masked)
  rw [getElem?_rows pooled inside, pooledRow, poolRow, averaged]
  cases l2Normalize with
  | false => rfl
  | true => simp only [if_true, normalize_zeros]

/-- Three rows of one token each.  The one in the middle is masked, and holds no finite number. -/
def spoiledRow : List Float32 :=
  [0x3f800000, 0xbf800000, 0x7fc00000, 0xff800000, 0x7f800000, 0x00000001].map Float32.ofBits

theorem spoiled_row_vanishes :
    check spoiledRow.length [1, 0, -1].length 3 1 2 = .ok () ∧
      ∃ rows, Pooling.mean.pool spoiledRow [1, 0, -1] 3 1 2 true = .ok rows ∧
        rows.length = 3 ∧ rows[1]? = some [Binary32.zero, Binary32.zero] := by
  have accepted : check spoiledRow.length [1, 0, -1].length 3 1 2 = .ok () := rfl
  obtain ⟨rows, pooled, count, vanish⟩ := masked_rows_vanish accepted true
  exact ⟨accepted, rows, pooled, count, vanish 1 (by decide) (by decide)⟩

end TextVectors.Pooling
