import TextVectors.Proofs.Embedding.Answers
import TextVectors.Proofs.Embedding.Cover
import TextVectors.Proofs.Sparse.Valid

namespace TextVectors

/-! How long the buffers of a batch are.

The dimensions of a tensor are sizes that may have wrapped.  Where the tensor was created they
have not, and its cells are as many as the product of the sizes says.
-/

open Inference

section Counting

variable {size count total batch : Nat} {sizes : List Nat} {dim : Int} {shape : Shape}

/-- A size that has not become negative has not wrapped. -/
theorem wrapToSigned_of_nonnegative (word : size < wordLimit)
    (nonnegative : ¬ wrapToSigned size < 0) : wrapToSigned size = size := by
  unfold wrapToSigned wordLimit at nonnegative ⊢
  unfold wordLimit at word
  rw [Int.bmod_def] at nonnegative ⊢
  omega

theorem dimension_ok (found : dimension size = .ok dim) :
    dim = wrapToSigned size ∧ size < wordLimit := by
  unfold dimension at found
  split at found
  · rename_i small
    cases found
    refine ⟨(wrapToSigned_of_lt small).symm, ?_⟩
    unfold signedLimit at small
    unfold wordLimit
    omega
  · cases found

theorem dimensions_ok {dims : List Int} (found : sizes.mapM dimension = .ok dims) :
    dims = sizes.map wrapToSigned ∧ ∀ size ∈ sizes, size < wordLimit := by
  induction sizes generalizing dims with
  | nil =>
      cases found
      exact ⟨rfl, by simp⟩
  | cons size rest ih =>
      rw [List.mapM_cons] at found
      obtain ⟨dim, first, found⟩ := ok_of_bind found
      obtain ⟨others, last, found⟩ := ok_of_bind found
      cases found
      obtain ⟨same, word⟩ := dimension_ok first
      obtain ⟨sameRest, words⟩ := ih last
      refine ⟨by rw [same, sameRest, List.map_cons], fun other member => ?_⟩
      rcases List.mem_cons.mp member with rfl | later
      · exact word
      · exact words other later

/-- What is counted for a shape is the product of its sizes, wrapped or not. -/
theorem elementCount_of_countFrom (words : ∀ size ∈ sizes, size < wordLimit)
    (counted : shape.countFrom count (sizes.map wrapToSigned) = .ok total) (all : List Nat) :
    elementCount.go all count sizes = .ok total := by
  induction sizes generalizing count with
  | nil =>
      cases counted
      rfl
  | cons size rest ih =>
      rw [List.map_cons, Shape.countFrom] at counted
      split at counted
      · cases counted
      · rename_i nonnegative
        rw [wrapToSigned_of_nonnegative (words size List.mem_cons_self) nonnegative,
          Int.toNat_natCast] at counted
        split at counted
        · rename_i inside
          rw [elementCount.go, if_pos inside]
          exact ih (fun other member => words other (List.mem_cons_of_mem _ member)) counted
        · cases counted

theorem elementCount_go_lt {all : List Nat} (small : count < wordLimit)
    (counted : elementCount.go all count sizes = .ok total) : total < wordLimit := by
  induction sizes generalizing count with
  | nil =>
      cases counted
      exact small
  | cons size rest ih =>
      rw [elementCount.go] at counted
      split at counted
      · rename_i inside
        exact ih inside counted
      · cases counted

theorem BoundModel.outputs_of_sizes {model : BoundModel} {tokens outputs : Nat}
    (opened : model.sizes batch = .ok (tokens, outputs)) :
    batch < wordLimit ∧ model.binding.sequenceLength < wordLimit ∧
      ∃ dims, model.outputShape batch = .ok dims ∧ (Shape.mk dims).elementCount = .ok outputs := by
  obtain ⟨dims, shaped, planned⟩ := ok_of_bind opened
  obtain ⟨rows, few, planned⟩ := ok_of_bind planned
  obtain ⟨columns, short, planned⟩ := ok_of_bind planned
  obtain ⟨cells, -, planned⟩ := ok_of_bind planned
  obtain ⟨others, counted, planned⟩ := ok_of_bind planned
  obtain ⟨bound, -, planned⟩ := ok_of_bind planned
  cases planned
  exact ⟨(dimension_ok (ok_of_mapError few)).2, (dimension_ok (ok_of_mapError short)).2, dims,
    shaped, ok_of_mapError counted⟩

theorem DenseEmbedder.elementCount_outputs {embedder : DenseEmbedder}
    {compute : NamedBuffers → Nat → Float32} {tokens outputs : Nat}
    (opened : (embedder.boundModel compute).sizes batch = .ok (tokens, outputs)) :
    elementCount [batch, embedder.binding.sequenceLength, embedder.embeddingDimension] =
      .ok outputs := by
  obtain ⟨-, -, dims, shaped, counted⟩ := BoundModel.outputs_of_sizes opened
  change ([batch, embedder.binding.sequenceLength, embedder.embeddingDimension].mapM
    dimension).mapError EmbeddingError.invalidInput = _ at shaped
  obtain ⟨rfl, words⟩ := dimensions_ok (ok_of_mapError shaped)
  exact elementCount_of_countFrom words counted _

theorem SparseEmbedder.elementCount_outputs {embedder : SparseEmbedder}
    {compute : NamedBuffers → Nat → Float32} {tokens outputs : Nat}
    (word : embedder.vocabularySize < wordLimit)
    (opened : (embedder.boundModel compute).sizes batch = .ok (tokens, outputs)) :
    elementCount (Sparse.outputSizes embedder.params.layout batch
      embedder.binding.sequenceLength embedder.vocabularySize) = .ok outputs := by
  obtain ⟨rowsFit, columnsFit, dims, shaped, counted⟩ := BoundModel.outputs_of_sizes opened
  cases shaped
  have columnsFit : embedder.binding.sequenceLength < wordLimit := columnsFit
  unfold Sparse.outputSizes
  unfold outputShape OutputLayout.outputShape at counted
  cases layout : embedder.params.layout with
  | tokenLogits =>
      rw [layout] at counted
      have words : ∀ size ∈ [batch, embedder.binding.sequenceLength, embedder.vocabularySize],
          size < wordLimit := by
        simp only [List.mem_cons, List.not_mem_nil, or_false, forall_eq_or_imp, forall_eq]
        exact ⟨rowsFit, columnsFit, word⟩
      exact elementCount_of_countFrom words counted _
  | documentLogits =>
      rw [layout] at counted
      have words : ∀ size ∈ [batch, embedder.vocabularySize], size < wordLimit := by
        simp only [List.mem_cons, List.not_mem_nil, or_false, forall_eq_or_imp, forall_eq]
        exact ⟨rowsFit, word⟩
      exact elementCount_of_countFrom words counted _

end Counting

/-- How many cells the token tensors and the output of a batch session have. -/
structure BatchSession.Exact (bundle : BatchSession) (tokens outputs : Nat) : Prop where
  ids : bundle.ids.cells.length = tokens
  mask : bundle.mask.cells.length = tokens
  types : ∀ tensor ∈ bundle.types, tensor.cells.length = tokens
  output : bundle.output.cells.length = outputs

theorem BoundModel.Fits.exact {model : BoundModel} {batch : Nat} {bundle : BatchSession}
    (fits : model.Fits batch bundle) {outputs : List Nat}
    (counted : elementCount outputs = .ok bundle.output.cells.length) :
    bundle.Exact (batch * model.binding.sequenceLength) outputs.prod := by
  have tokens := TokenBuffers.elementCount_prod (elementCount_of_sizes fits.sized)
  have whole := fits.formed.sized
  have same : bundle.ids.cells.length = batch * model.binding.sequenceLength := by
    simpa using tokens
  refine ⟨same, whole.mask.trans same, fun tensor given => ?_, ?_⟩
  · refine (whole.types tensor.cells ?_).trans same
    rw [BatchSession.buffers, Option.mem_def.mp given]
    rfl
  · exact TokenBuffers.elementCount_prod counted

namespace Window

variable {length stride : Nat} {useTypes : Bool} {encoding : Encoding} {windows : List Window}

theorem windowAt_fits (tokens : Tokens) (length : Nat) (useTypes : Bool) (start : Nat) :
    (tokens.windowAt length useTypes start).Fits length useTypes := by
  constructor <;> cases useTypes <;> simp [Tokens.windowAt, length_padded]

/-- What is cut from an encoding fills rows.  There always is a window. -/
theorem split_fits (cut : split encoding length stride useTypes = .ok windows) :
    windows ≠ [] ∧ ∀ window ∈ windows, window.Fits length useTypes := by
  obtain ⟨-, strided, within, checked⟩ := usable_of_split cut
  rw [split_eq checked strided within] at cut
  cases cut
  constructor
  · simp [countOf]
  · intro window member
    obtain ⟨index, -, rfl⟩ := List.mem_map.mp member
    exact windowAt_fits _ length useTypes _

/-- With a usable length and stride, only the encoding itself is refused. -/
theorem check_of_split (positive : length ≠ 0) (strided : ¬ (stride = 0 ∨ stride > length))
    {fault : InputFault} (refused : split encoding length stride useTypes = .error fault) :
    encoding.check = .error fault := by
  cases checked : encoding.check with
  | error other =>
      unfold split at refused
      rw [if_neg positive, if_neg strided, checked] at refused
      cases refused
      rfl
  | ok _ =>
      rw [split_eq checked (by omega) (by omega)] at refused
      cases refused

end Window

namespace Pooling

variable {pooling : Pooling} {states : List Float32} {mask : List Int}
variable {batch sequenceLength hidden : Nat}

theorem length_weightedSum (tokens : List (List Float32 × Int)) (start : List Float32 × Float32)
    (wide : ∀ token ∈ tokens, token.1.length = start.1.length) :
    (weightedSum start tokens).1.length = start.1.length := by
  induction tokens generalizing start with
  | nil => rfl
  | cons token rest ih =>
      obtain ⟨entries, weight⟩ := token
      have others := fun other member => wide other (List.mem_cons_of_mem _ member)
      have width : entries.length = start.1.length := wide _ List.mem_cons_self
      rw [weightedSum]
      split
      · exact ih start others
      · have same : (addWeighted (Float32.ofInt weight) start.1 entries).length =
            start.1.length := by
          simp [addWeighted, width]
        exact (ih _ fun other member => (others other member).trans same.symm).trans same

theorem length_meanRow {tokens : List (List Float32)}
    (wide : ∀ token ∈ tokens, token.length = hidden) (mask : List Int) :
    (meanRow hidden tokens mask).length = hidden := by
  rw [meanRow]
  dsimp only
  rw [List.length_map, length_weightedSum]
  · exact List.length_replicate
  · intro token member
    rw [List.length_replicate]
    exact wide token.1 (List.of_mem_zip member).1

theorem length_poolRow (whole : states.length = sequenceLength * hidden)
    (someTokens : 0 < sequenceLength) (small : sequenceLength * hidden < wordLimit) :
    (pooling.poolRow sequenceLength hidden states mask).length =
      pooling.outputDimension sequenceLength hidden := by
  have atLeast := Nat.le_mul_of_pos_left hidden someTokens
  cases pooling with
  | mean => exact length_meanRow (fun _ member => Sparse.length_of_mem_chunks whole member) mask
  | cls =>
      rw [poolRow, List.length_take, whole]
      exact Nat.min_eq_left atLeast
  | none =>
      rw [poolRow, whole, outputDimension, saturatingProduct]
      omega

theorem check_iff {statesLength maskLength : Nat} :
    check statesLength maskLength batch sequenceLength hidden = .ok () ↔
      0 < batch ∧ 0 < sequenceLength ∧ 0 < hidden ∧
        elementCount [batch, sequenceLength] = .ok maskLength ∧
        elementCount [batch, sequenceLength, hidden] = .ok statesLength := by
  constructor
  · intro passed
    dsimp only [check] at passed
    obtain ⟨someRows, passed⟩ := ok_of_guard passed
    obtain ⟨someTokens, passed⟩ := ok_of_guard passed
    obtain ⟨some, passed⟩ := ok_of_guard passed
    obtain ⟨cells, counted, passed⟩ := ok_of_bind passed
    obtain ⟨masked, passed⟩ := ok_of_guard passed
    obtain ⟨entries, countedToo, passed⟩ := ok_of_bind passed
    split at passed
    · cases passed
    · rename_i filled
      rw [counted, countedToo, not_not.mp masked, not_not.mp filled]
      exact ⟨by omega, by omega, by omega, rfl, rfl⟩
  · rintro ⟨someRows, someTokens, some, masked, filled⟩
    simp [check, Nat.ne_of_gt someRows, Nat.ne_of_gt someTokens, Nat.ne_of_gt some, masked, filled,
      bind, Except.bind]
    rfl

/-- Buffers as long as the sizes say are pooled into one row for each document, and all of the
length that is announced. -/
theorem pool_filled (someRows : 0 < batch) (someTokens : 0 < sequenceLength) (some : 0 < hidden)
    (masked : elementCount [batch, sequenceLength] = .ok mask.length)
    (filled : elementCount [batch, sequenceLength, hidden] = .ok states.length)
    (pooling : Pooling) (l2Normalize : Bool) :
    ∃ rows, pooling.pool states mask batch sequenceLength hidden l2Normalize = .ok rows ∧
      rows.length = batch ∧
      ∀ row ∈ rows, row.length = pooling.outputDimension sequenceLength hidden := by
  have checked := check_iff.mpr ⟨someRows, someTokens, some, masked, filled⟩
  have whole : states.length = batch * (sequenceLength * hidden) := by
    simpa using TokenBuffers.elementCount_prod filled
  have small : sequenceLength * hidden < wordLimit := by
    have inside := elementCount_go_lt (by decide) filled
    have atLeast := Nat.le_mul_of_pos_left (sequenceLength * hidden) someRows
    omega
  let rows := List.zipWith (pooling.poolRow sequenceLength hidden)
    (chunks (sequenceLength * hidden) batch states) (chunks sequenceLength batch mask)
  have count : rows.length = batch := by
    simp [rows, Sparse.chunks_length]
  have long : ∀ row ∈ rows, row.length = pooling.outputDimension sequenceLength hidden := by
    intro row member
    simp only [rows, ← List.map_uncurry_zip_eq_zipWith] at member
    obtain ⟨⟨chunk, weights⟩, inBoth, rfl⟩ := List.mem_map.mp member
    exact length_poolRow (Sparse.length_of_mem_chunks whole (List.of_mem_zip inBoth).1) someTokens
      small
  rw [pool, checked]
  cases l2Normalize with
  | false => exact ⟨rows, rfl, count, long⟩
  | true =>
      refine ⟨rows.map normalize, rfl, by rw [List.length_map, count], fun row member => ?_⟩
      obtain ⟨former, listed, rfl⟩ := List.mem_map.mp member
      rw [normalize, List.length_map, long former listed]

end Pooling

end TextVectors
