import TextVectors.Proofs.Sparse.Windows

namespace TextVectors.Sparse

/-! A single row, whether it is selected from at once or merged first. -/

open Binary32

variable {params : SparsifyParams} {threshold : Float32}

/-- The values of a single row, before any of them is dropped. -/
def denseRow (params : SparsifyParams) (sequenceLength vocabulary : Nat)
    (output : List Float32) (mask : List Int) : List Float32 :=
  match params.layout with
  | .tokenLogits => reduceTokens params.logActivation (List.replicate vocabulary zero)
      (rowTokens sequenceLength vocabulary (output.take (sequenceLength * vocabulary))
        (mask.take sequenceLength))
  | .documentLogits => (output.take vocabulary).map (activate params.logActivation)

theorem sparsify_one (params : SparsifyParams) (output : List Float32) (mask : List Int)
    (sequenceLength vocabulary : Nat) :
    sparsify params output mask 1 sequenceLength vocabulary =
      (check params output.length mask.length 1 sequenceLength vocabulary).map fun _ =>
        [ofDense (denseRow params sequenceLength vocabulary output mask) params.threshold
          params.topK] := by
  unfold sparsify denseRow
  cases check params output.length mask.length 1 sequenceLength vocabulary with
  | error fault => rfl
  | ok _ => cases layout : params.layout <;> rfl

/-- Values that are not above zero are not above any threshold either. -/
theorem filter_larger_zero (usable : threshold ≥ zero) (value : Float32) :
    (some (larger zero value)).filter (· > threshold) = (some value).filter (· > threshold) := by
  by_cases positive : value > zero
  · have same : larger zero value = value := if_pos positive
    rw [same]
  · have same : larger zero value = zero := if_neg positive
    have below : ¬ threshold < zero := fun exceeds =>
      (not_lt_iff_key zero_le_zero).mpr le_rfl (lt_of_le_of_lt usable exceeds)
    have belowToo : ¬ threshold < value := fun exceeds => positive (lt_of_le_of_lt usable exceeds)
    rw [same, Option.filter_some, Option.filter_some, if_neg (by simpa using below),
      if_neg (by simpa using belowToo)]

theorem ofDense_larger (usable : threshold ≥ zero) (dense : List Float32) (topK : Nat) :
    ofDense (List.zipWith larger (List.replicate dense.length zero) dense) threshold topK =
      ofDense dense threshold topK := by
  refine ofDense_congr (fun index => ?_) topK
  rw [List.getElem?_zipWith, List.getElem?_replicate]
  by_cases within : index < dense.length
  · rw [if_pos within, List.getElem?_eq_getElem within]
    exact filter_larger_zero usable _
  · rw [if_neg within, List.getElem?_eq_none (by omega)]

/-- A single window is pruned and cut as if it had not been merged. -/
theorem mergeWindows_one (usable : threshold ≥ zero) (dense : List Float32) (topK : Nat) :
    mergeWindows [ofDense dense zero 0] threshold topK = .ok (ofDense dense threshold topK) := by
  have wide : ∀ row ∈ [dense], row.length = dense.length := by simp
  have merged := mergeWindows_ofDense wide usable topK
  rw [List.map_singleton, List.foldl_cons, List.foldl_nil] at merged
  rw [merged, ofDense_larger usable]

end TextVectors.Sparse
