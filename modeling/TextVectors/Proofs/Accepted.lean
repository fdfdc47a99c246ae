import TextVectors.Proofs.Embedding.Sizes
import TextVectors.Proofs.Sparse.TopK

namespace TextVectors

/-! What pooling and sparsifying accept.

Sizes are multiplied as words, and the product stops where it leaves the range of sizes.  For
positive sizes that is no loss: buffers have a size themselves, so they are as long as the words say
exactly if they are as long as the product without a limit.
-/

/-- Positive sizes are counted exactly, up to the limit. -/
theorem elementCount_ok_iff {sizes : List Nat} {total : Nat} (positive : ∀ size ∈ sizes, 0 < size) :
    elementCount sizes = .ok total ↔ total = sizes.prod ∧ total < wordLimit := by
  constructor
  · intro counted
    exact ⟨TokenBuffers.elementCount_prod counted, elementCount_go_lt (by decide) counted⟩
  · rintro ⟨rfl, small⟩
    exact Sparse.elementCount_eq positive small

theorem elementCount_pair_iff {rows columns total : Nat} (someRows : 0 < rows)
    (someColumns : 0 < columns) :
    elementCount [rows, columns] = .ok total ↔ total = rows * columns ∧ total < wordLimit := by
  rw [elementCount_ok_iff (by simp [someRows, someColumns])]
  simp

theorem elementCount_triple_iff {rows columns width total : Nat} (someRows : 0 < rows)
    (someColumns : 0 < columns) (some : 0 < width) :
    elementCount [rows, columns, width] = .ok total ↔
      total = rows * columns * width ∧ total < wordLimit := by
  rw [elementCount_ok_iff (by simp [someRows, someColumns, some])]
  simp [Nat.mul_assoc]

namespace Pooling

variable {states : List Float32} {mask : List Int} {batch sequenceLength hidden : Nat}

/-- The sizes are positive, and the buffers have exactly as many entries as they say. -/
structure Consistent (states : List Float32) (mask : List Int)
    (batch sequenceLength hidden : Nat) : Prop where
  someRows : 0 < batch
  someTokens : 0 < sequenceLength
  someEntries : 0 < hidden
  masked : mask.length = batch * sequenceLength
  filled : states.length = batch * sequenceLength * hidden

theorem consistent_of_check
    (passed : check states.length mask.length batch sequenceLength hidden = .ok ()) :
    Consistent states mask batch sequenceLength hidden := by
  obtain ⟨someRows, someTokens, some, masked, filled⟩ := check_iff.mp passed
  rw [elementCount_pair_iff someRows someTokens] at masked
  rw [elementCount_triple_iff someRows someTokens some] at filled
  exact ⟨someRows, someTokens, some, masked.1, filled.1⟩

/-- The mask is no longer than the states, so it fits where they do. -/
theorem Consistent.check (consistent : Consistent states mask batch sequenceLength hidden)
    (fits : states.length < wordLimit) :
    check states.length mask.length batch sequenceLength hidden = .ok () := by
  obtain ⟨someRows, someTokens, some, masked, filled⟩ := consistent
  have atMost : mask.length ≤ states.length := by
    rw [masked, filled]
    exact Nat.le_mul_of_pos_right _ some
  rw [check_iff, elementCount_pair_iff someRows someTokens,
    elementCount_triple_iff someRows someTokens some]
  exact ⟨someRows, someTokens, some, ⟨masked, atMost.trans_lt fits⟩, filled, fits⟩

end Pooling

namespace Sparse

open Binary32

variable {output : List Float32} {mask : List Int} {batch sequenceLength vocabulary : Nat}
variable {params : SparsifyParams} {vectors : List SparseVector} {vector : SparseVector}
variable {dense : List Float32} {threshold : Float32} {topK : Nat}

/-- The sizes are positive, the threshold is a number and not negative, and the buffers have exactly
as many entries as the sizes say. -/
structure Consistent (params : SparsifyParams) (output : List Float32) (mask : List Int)
    (batch sequenceLength vocabulary : Nat) : Prop where
  someRows : 0 < batch
  someTokens : 0 < sequenceLength
  someEntries : 0 < vocabulary
  number : params.threshold.isNaN = false
  usable : params.threshold ≥ zero
  masked : mask.length = batch * sequenceLength
  filled : output.length =
    match params.layout with
    | .tokenLogits => batch * sequenceLength * vocabulary
    | .documentLogits => batch * vocabulary

theorem check_iff_consistent (fits : output.length < wordLimit)
    (maskFits : mask.length < wordLimit) :
    check params output.length mask.length batch sequenceLength vocabulary = .ok () ↔
      Consistent params output mask batch sequenceLength vocabulary := by
  rw [check_iff]
  constructor
  · rintro ⟨usable, someRows, someTokens, some, masked, filled⟩
    rw [elementCount_pair_iff someRows someTokens] at masked
    have number : key params.threshold ≠ ⊥ :=
      ne_bot_of_le_ne_bot (le_iff.mp usable).1 (le_iff.mp usable).2
    refine ⟨someRows, someTokens, some, number_iff.mpr number, usable, masked.1, ?_⟩
    cases layout : params.layout <;> rw [layout] at filled
    · exact ((elementCount_triple_iff someRows someTokens some).mp filled).1
    · exact ((elementCount_pair_iff someRows some).mp filled).1
  · rintro ⟨someRows, someTokens, some, -, usable, masked, filled⟩
    rw [elementCount_pair_iff someRows someTokens]
    refine ⟨usable, someRows, someTokens, some, ⟨masked, maskFits⟩, ?_⟩
    cases layout : params.layout <;> rw [layout] at filled
    · exact (elementCount_triple_iff someRows someTokens some).mpr ⟨filled, fits⟩
    · exact (elementCount_pair_iff someRows some).mpr ⟨filled, fits⟩

/-- A vector of entries of a vocabulary, and nothing in it that the threshold excludes. -/
structure Pruned (vocabulary : Nat) (threshold : Float32) (vector : SparseVector) : Prop where
  valid : vector.validate = .ok ()
  within : ∀ index ∈ vector.indices, index < vocabulary
  exceeding : ∀ value ∈ vector.values, value > threshold

/-- What is selected stood above the threshold at its place among the dense values. -/
theorem ofDense_pruned (dense : List Float32) (threshold : Float32) (topK : Nat) :
    Pruned dense.length threshold (ofDense dense threshold topK) := by
  have listed : ∀ entry ∈ (cut (above threshold (positions dense)) topK).mergeSort
      fun a b => a.1 ≤ b.1, dense[entry.1]? = some entry.2 ∧ entry.2 > threshold :=
    fun entry member => mem_above_positions.mp (mem_of_mem_cut (List.mem_mergeSort.mp member))
  constructor
  case valid => exact ofDense_valid dense threshold topK
  case within =>
    intro index member
    obtain ⟨entry, kept, rfl⟩ := List.mem_map.mp member
    exact (List.getElem?_eq_some_iff.mp (listed entry kept).1).1
  case exceeding =>
    intro value member
    obtain ⟨entry, kept, rfl⟩ := List.mem_map.mp member
    exact (listed entry kept).2

theorem tokenRow_pruned {logits : List Float32} (wide : logits.length = sequenceLength * vocabulary)
    (mask : List Int) :
    Pruned vocabulary params.threshold (tokenRow params sequenceLength vocabulary logits mask) := by
  let tokens := (Pooling.chunks vocabulary sequenceLength logits).zip mask
  let empty := List.replicate vocabulary zero
  have each : ∀ token ∈ tokens, token.1.length = empty.length := by
    intro token member
    rw [List.length_replicate]
    exact length_of_mem_chunks wide (List.of_mem_zip member).1
  have width : (reduceTokens params.logActivation empty tokens).length = vocabulary := by
    rw [length_reduceTokens each, List.length_replicate]
  have pruned := ofDense_pruned (reduceTokens params.logActivation empty tokens) params.threshold
    params.topK
  rwa [width] at pruned

theorem documentRow_pruned {logits : List Float32} (wide : logits.length = vocabulary) :
    Pruned vocabulary params.threshold (documentRow params logits) := by
  have pruned := ofDense_pruned (logits.map (activate params.logActivation)) params.threshold
    params.topK
  rwa [List.length_map, wide] at pruned

theorem sparsify_pruned
    (consistent : Consistent params output mask batch sequenceLength vocabulary)
    (passed : check params output.length mask.length batch sequenceLength vocabulary = .ok ()) :
    ∃ vectors, sparsify params output mask batch sequenceLength vocabulary = .ok vectors ∧
      vectors.length = batch ∧ ∀ vector ∈ vectors, Pruned vocabulary params.threshold vector := by
  have filled := consistent.filled
  obtain ⟨vectors, accepted, count, each⟩ := sparsify_each passed
  refine ⟨vectors, accepted, count, fun vector member => ?_⟩
  have row := each vector member
  cases layout : params.layout <;> rw [layout] at filled row
  · rw [Nat.mul_assoc] at filled
    obtain ⟨logits, inside, weights, rfl⟩ := row
    exact tokenRow_pruned (length_of_mem_chunks filled inside) weights
  · obtain ⟨logits, inside, rfl⟩ := row
    exact documentRow_pruned (length_of_mem_chunks filled inside)

end Sparse

theorem refused_of_check {ρ : Type} {checked : Except InputFault Unit}
    {next : Unit → Except InputFault ρ} (refused : checked ≠ .ok ()) :
    ∃ fault, (checked >>= next).mapError EmbeddingError.invalidInput =
      .error (.invalidInput fault) := by
  cases checked with
  | ok _ => exact (refused rfl).elim
  | error fault => exact ⟨fault, rfl⟩

/-- Pooling and sparsifying accept the consistent inputs and no others, and what they give back has
the shape that was announced.  Any other input is refused as invalid. -/
theorem accepted_consistent (cells : List Float32) (mask : List Int)
    (batch sequenceLength width : Nat) (fits : cells.length < wordLimit)
    (maskFits : mask.length < wordLimit) :
    (∀ (pooling : Pooling) (l2Normalize : Bool),
      (Pooling.Consistent cells mask batch sequenceLength width →
        ∃ rows, pooling.pool cells mask batch sequenceLength width l2Normalize = .ok rows ∧
          rows.length = batch ∧
          ∀ row ∈ rows, row.length = pooling.outputDimension sequenceLength width) ∧
      (¬ Pooling.Consistent cells mask batch sequenceLength width →
        ∃ fault, (pooling.pool cells mask batch sequenceLength width l2Normalize).mapError
          EmbeddingError.invalidInput = .error (.invalidInput fault))) ∧
    ∀ params : SparsifyParams,
      (Sparse.Consistent params cells mask batch sequenceLength width →
        ∃ vectors, Sparse.sparsify params cells mask batch sequenceLength width = .ok vectors ∧
          vectors.length = batch ∧
          ∀ vector ∈ vectors, Sparse.Pruned width params.threshold vector) ∧
      (¬ Sparse.Consistent params cells mask batch sequenceLength width →
        ∃ fault, (Sparse.sparsify params cells mask batch sequenceLength width).mapError
          EmbeddingError.invalidInput = .error (.invalidInput fault)) := by
  refine ⟨fun pooling l2Normalize => ⟨fun consistent => ?_, fun refused => ?_⟩, fun params =>
    ⟨fun consistent => ?_, fun refused => ?_⟩⟩
  · have passed := consistent.check fits
    obtain ⟨someRows, someTokens, some, masked, filled⟩ := Pooling.check_iff.mp passed
    exact Pooling.pool_filled someRows someTokens some masked filled pooling l2Normalize
  · exact refused_of_check (mt Pooling.consistent_of_check refused)
  · exact Sparse.sparsify_pruned consistent
      ((Sparse.check_iff_consistent fits maskFits).mpr consistent)
  · exact refused_of_check (mt (Sparse.check_iff_consistent fits maskFits).mp refused)

/-- Two rows of one token each, with cells that are no finite numbers. -/
def twoRows : List Float32 :=
  [0x3f800000, 0x7fc00000, 0xbf800000, 0x7f800000].map Float32.ofBits

/-- The sizes of no cells at all are refused even where their product would be zero as a word. -/
theorem wrapped_sizes_refused :
    (twoRows.length < wordLimit ∧ [1, 0].length < wordLimit) ∧
      (∃ rows, Pooling.none.pool twoRows [1, 0] 2 1 2 true = .ok rows ∧ rows.length = 2 ∧
        ∀ row ∈ rows, row.length = Pooling.none.outputDimension 1 2) ∧
      (∃ vectors, Sparse.sparsify ⟨.documentLogits, Binary32.zero, 1, true⟩ twoRows [1, 0] 2 1 2 =
        .ok vectors ∧ vectors.length = 2 ∧
          ∀ vector ∈ vectors, Sparse.Pruned 2 Binary32.zero vector) ∧
      (4294967296 * 4294967296) % wordLimit = ([] : List Float32).length ∧
      ∃ fault, (Pooling.cls.pool [] [] 4294967296 4294967296 1 false).mapError
        EmbeddingError.invalidInput = .error (.invalidInput fault) := by
  have fits : twoRows.length < wordLimit := by decide
  have maskFits : [1, 0].length < wordLimit := by decide
  have poolable : Pooling.Consistent twoRows [1, 0] 2 1 2 := by
    constructor <;> decide
  have sparsifiable :
      Sparse.Consistent ⟨.documentLogits, Binary32.zero, 1, true⟩ twoRows [1, 0] 2 1 2 := by
    constructor <;> decide
  have wrapped : ¬ Pooling.Consistent [] [] 4294967296 4294967296 1 := by
    intro consistent
    exact absurd consistent.masked (by decide)
  obtain ⟨pooled, sparsified⟩ := accepted_consistent twoRows [1, 0] 2 1 2 fits maskFits
  obtain ⟨refused, -⟩ := accepted_consistent [] [] 4294967296 4294967296 1 (by decide) (by decide)
  exact ⟨⟨fits, maskFits⟩, (pooled .none true).1 poolable, (sparsified _).1 sparsifiable, by decide,
    (refused .cls false).2 wrapped⟩

end TextVectors
