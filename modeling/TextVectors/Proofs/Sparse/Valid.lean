import TextVectors.Embedding.Config
import TextVectors.Proofs.Execution
import TextVectors.Proofs.Sparse.Windows

namespace TextVectors

/-! Selecting, reducing and merging end in valid vectors.

Nothing but the lengths of the buffers and the threshold can be wrong with what is given, and
neither can be wrong where the buffers are as long as the sizes say.
-/

namespace SparseVector

variable {vector : SparseVector}

theorem validate_iff : vector.validate = .ok () ↔
    vector.indices.length = vector.values.length ∧
      (∀ labels ∈ vector.labels, labels.length = vector.indices.length) ∧
      misplaced? 0 vector.indices = none := by
  obtain ⟨indices, values, labels⟩ := vector
  by_cases paired : indices.length = values.length
  · cases labels with
    | none =>
        cases ordered : misplaced? 0 indices <;>
          simp [validate, paired, ordered, pure, Except.pure, throw, throwThe,
            MonadExceptOf.throw]
    | some labels =>
        by_cases each : labels.length = values.length
        · cases ordered : misplaced? 0 indices <;>
            simp [validate, paired, each, ordered, pure, Except.pure, throw, throwThe,
              MonadExceptOf.throw]
        · simp [validate, paired, each, bind, Except.bind, throw, throwThe, MonadExceptOf.throw]
  · simp [validate, paired, bind, Except.bind, throw, throwThe, MonadExceptOf.throw]

theorem ascending_of_misplaced? {indices : List Nat} {position : Nat}
    (ordered : misplaced? position indices = none) : indices.Pairwise (· < ·) := by
  induction indices generalizing position with
  | nil => exact .nil
  | cons first rest ih =>
      cases rest with
      | nil => exact List.pairwise_singleton _ _
      | cons second rest =>
          unfold misplaced? at ordered
          split at ordered
          · cases ordered
          · rename_i before
            rw [ge_iff_le, Nat.not_le] at before
            have ascending := ih ordered
            refine List.pairwise_cons.mpr ⟨?_, ascending⟩
            intro index member
            rcases List.mem_cons.mp member with rfl | later
            · exact before
            · exact before.trans ((List.pairwise_cons.mp ascending).1 index later)

theorem entries_keys_nodup (valid : vector.validate = .ok ()) :
    (vector.entries.map (·.1)).Nodup := by
  obtain ⟨paired, -, ordered⟩ := validate_iff.mp valid
  have keys : vector.entries.map (·.1) = vector.indices :=
    List.map_fst_zip paired.le
  rw [keys]
  exact (ascending_of_misplaced? ordered).imp Nat.ne_of_lt

/-- A valid vector stays valid under one label for each index. -/
theorem validate_labelled {labels : List String} (valid : vector.validate = .ok ())
    (each : labels.length = vector.indices.length) :
    ({ vector with labels := some labels } : SparseVector).validate = .ok () := by
  obtain ⟨paired, -, ordered⟩ := validate_iff.mp valid
  refine validate_iff.mpr ⟨paired, ?_, ordered⟩
  rintro _ ⟨⟩
  exact each

end SparseVector

namespace Sparse

open Binary32

variable {candidates maxima : List (Nat × Float32)} {vectors windows : List SparseVector}
variable {params : SparsifyParams} {threshold : Float32}

theorem cut_keys_nodup (nodup : (candidates.map (·.1)).Nodup) (topK : Nat) :
    ((cut candidates topK).map (·.1)).Nodup := by
  have sorted := ((List.mergeSort_perm candidates precedes).map (·.1)).nodup_iff.mpr nodup
  unfold cut
  split
  · exact sorted.sublist ((List.take_sublist _ _).map _)
  · exact nodup

/-- Putting distinct indices in order makes them ascend. -/
theorem select_ascending (nodup : (candidates.map (·.1)).Nodup) (topK : Nat) :
    (((cut candidates topK).mergeSort fun a b => a.1 ≤ b.1).map (·.1)).Pairwise (· < ·) := by
  have ordered : ((cut candidates topK).mergeSort fun a b => a.1 ≤ b.1).Pairwise
      fun a b => a.1 ≤ b.1 := by
    let before (a b : Nat × Float32) : Bool := a.1 ≤ b.1
    have sorted : ((cut candidates topK).mergeSort before).Pairwise (before · ·) :=
      List.pairwise_mergeSort
        (fun _ _ _ => by simpa only [before, decide_eq_true_eq] using Nat.le_trans)
        (fun a b => by simpa [before] using Nat.le_total a.1 b.1) (cut candidates topK)
    simpa only [before, decide_eq_true_eq] using sorted
  have distinct := ((List.mergeSort_perm (cut candidates topK) fun a b => a.1 ≤ b.1).map
    (·.1)).nodup_iff.mpr (cut_keys_nodup nodup topK)
  exact ((List.pairwise_map.mpr ordered).and distinct).imp fun both =>
    Nat.lt_of_le_of_ne both.1 both.2

theorem select_valid (nodup : (candidates.map (·.1)).Nodup) (topK : Nat) :
    (select candidates topK).validate = .ok () :=
  validate_ofEntries (select_ascending nodup topK)

theorem ofDense_valid (dense : List Float32) (threshold : Float32) (topK : Nat) :
    (ofDense dense threshold topK).validate = .ok () :=
  select_valid (above_keys_nodup (positions_keys_nodup dense) threshold) topK

/-- The values that windows hold under an index, in the order of the windows. -/
def valuesAt (windows : List SparseVector) (index : Nat) : List Float32 :=
  windows.filterMap fun window => window.entries.lookup index

/-- What comes of values one after the other. -/
def raised : List Float32 → Option Float32
  | [] => none
  | first :: rest => some (rest.foldl larger first)

theorem maximaFrom_lookup (nodup : (maxima.map (·.1)).Nodup)
    (valid : ∀ window ∈ windows, window.validate = .ok ()) (position : Nat) :
    ∃ reached, maximaFrom position maxima windows = .ok reached ∧ (reached.map (·.1)).Nodup ∧
      ∀ index, reached.lookup index =
        raised ((maxima.lookup index).toList ++ valuesAt windows index) := by
  induction windows generalizing maxima position with
  | nil =>
      refine ⟨maxima, rfl, nodup, fun index => ?_⟩
      cases maxima.lookup index <;> rfl
  | cons window rest ih =>
      have validFirst := valid window List.mem_cons_self
      obtain ⟨reached, ran, nodupLast, last⟩ := ih (foldl_raise_keys_nodup nodup window.entries)
        (fun other member => valid other (List.mem_cons_of_mem _ member)) (position + 1)
      refine ⟨reached, ?_, nodupLast, fun index => ?_⟩
      · rw [maximaFrom, validFirst]
        exact ran
      · rw [last, lookup_foldl_raise (SparseVector.entries_keys_nodup validFirst)]
        cases added : window.entries.lookup index with
        | none => simp [valuesAt, added, joined]
        | some value => cases maxima.lookup index <;> simp [valuesAt, added, joined, raised]

/-- What merging selects from, index by index. -/
theorem mergeWindows_selects (usable : threshold ≥ zero)
    (valid : ∀ window ∈ windows, window.validate = .ok ()) :
    ∃ reached : List (Nat × Float32), maximaFrom 0 [] windows = .ok reached ∧
      (reached.map (·.1)).Nodup ∧
      (∀ index, reached.lookup index = raised (valuesAt windows index)) ∧
      ∀ topK, mergeWindows windows threshold topK = .ok (select (above threshold reached) topK) := by
  have none : (([] : List (Nat × Float32)).map (·.1)).Nodup := List.nodup_nil
  obtain ⟨reached, ran, nodup, values⟩ := maximaFrom_lookup none valid 0
  refine ⟨reached, ran, nodup, values, fun topK => ?_⟩
  rw [mergeWindows, checkThreshold, if_pos usable, ran]
  rfl

/-- Merging fails on no windows that are valid. -/
theorem mergeWindows_valid (usable : threshold ≥ zero)
    (valid : ∀ window ∈ windows, window.validate = .ok ()) (topK : Nat) :
    ∃ merged, mergeWindows windows threshold topK = .ok merged ∧ merged.validate = .ok () := by
  obtain ⟨reached, -, nodup, -, selects⟩ := mergeWindows_selects usable valid
  exact ⟨_, selects topK, select_valid (above_keys_nodup nodup threshold) topK⟩

variable {output : List Float32} {mask : List Int} {batch sequenceLength vocabulary : Nat}

/-- What passes the check becomes one vector for each row, of the logits of the row. -/
theorem sparsify_each
    (passed : check params output.length mask.length batch sequenceLength vocabulary = .ok ()) :
    ∃ vectors, sparsify params output mask batch sequenceLength vocabulary = .ok vectors ∧
      vectors.length = batch ∧ ∀ vector ∈ vectors,
        match params.layout with
        | .tokenLogits =>
            ∃ logits ∈ Pooling.chunks (sequenceLength * vocabulary) batch output, ∃ weights,
              vector = tokenRow params sequenceLength vocabulary logits weights
        | .documentLogits =>
            ∃ logits ∈ Pooling.chunks vocabulary batch output,
              vector = documentRow params logits := by
  rw [sparsify, passed]
  cases params.layout with
  | tokenLogits =>
      refine ⟨_, rfl, ?_, fun vector member => ?_⟩
      · rw [List.length_zipWith, chunks_length, chunks_length, Nat.min_self]
      · rw [← List.map_uncurry_zip_eq_zipWith] at member
        obtain ⟨⟨logits, weights⟩, inBoth, rfl⟩ := List.mem_map.mp member
        exact ⟨logits, (List.of_mem_zip inBoth).1, weights, rfl⟩
  | documentLogits =>
      refine ⟨_, rfl, ?_, fun vector member => ?_⟩
      · rw [List.length_map, chunks_length]
      · obtain ⟨logits, inside, rfl⟩ := List.mem_map.mp member
        exact ⟨logits, inside, rfl⟩

/-- Buffers as long as the sizes say become one valid vector for each row. -/
theorem sparsify_filled (usable : params.threshold ≥ zero) (someRows : 0 < batch)
    (someTokens : 0 < sequenceLength) (someEntries : 0 < vocabulary)
    (masked : elementCount [batch, sequenceLength] = .ok mask.length)
    (filled : elementCount (outputSizes params.layout batch sequenceLength vocabulary) =
      .ok output.length) :
    ∃ vectors, sparsify params output mask batch sequenceLength vocabulary = .ok vectors ∧
      vectors.length = batch ∧ ∀ vector ∈ vectors, vector.validate = .ok () := by
  have passed := check_iff.mpr ⟨usable, someRows, someTokens, someEntries, masked, filled⟩
  obtain ⟨vectors, accepted, count, each⟩ := sparsify_each passed
  refine ⟨vectors, accepted, count, fun vector member => ?_⟩
  have row := each vector member
  cases layout : params.layout <;> rw [layout] at row
  · obtain ⟨logits, -, weights, rfl⟩ := row
    exact ofDense_valid _ _ _
  · obtain ⟨logits, -, rfl⟩ := row
    exact ofDense_valid _ _ _

end Sparse

namespace SparseEmbedder

theorem usable_of_valid {config : SparseConfig} (valid : config.validate = .ok ()) :
    config.threshold ≥ Binary32.zero ∧ config.model.sequenceLength ≠ 0 ∧
      config.stride ≤ config.model.sequenceLength := by
  unfold SparseConfig.validate at valid
  obtain ⟨_, model, valid⟩ := ok_of_bind valid
  obtain ⟨pruned, valid⟩ := ok_of_guard valid
  obtain ⟨positive, -⟩ := ok_of_guard model
  have number : config.threshold.isNaN = false ∧ ¬ config.threshold < Binary32.zero := by
    simpa using pruned
  refine ⟨Binary32.le_of_not_lt number.1 (by decide) number.2, positive, ?_⟩
  split at valid
  · cases valid
  · rename_i reached
    exact Nat.not_lt.mp reached

end SparseEmbedder

end TextVectors
