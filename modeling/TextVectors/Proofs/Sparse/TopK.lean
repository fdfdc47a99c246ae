import TextVectors.Proofs.Sparse.Valid

namespace TextVectors.Sparse

/-! Selecting from dense values keeps the largest of those above the threshold.

The rule is stated by comparisons of the values alone: it does not sort, and it does not know the
order by which candidates are cut.
-/

open Binary32

variable {candidates : List (Nat × Float32)} {dropped : Nat × Float32} {dense : List Float32}
variable {threshold : Float32} {topK : Nat}

/-- What comes behind everything that was kept: it is smaller than all of it, or as large as the
smallest of it and at a higher index than what is as large. -/
def Behind (kept : List (Nat × Float32)) (dropped : Nat × Float32) : Prop :=
  (∀ entry ∈ kept, dropped.2 < entry.2) ∨
    ∃ least ∈ kept, (∀ entry ∈ kept, least.2 ≤ entry.2) ∧ dropped.2 == least.2 ∧
      ∀ entry ∈ kept, entry.2 == least.2 → entry.1 < dropped.1

/-- What is kept of dense values, by ascending index.  Zero keeps every value that exceeds the
threshold. -/
structure Largest (dense : List Float32) (threshold : Float32) (topK : Nat)
    (kept : List (Nat × Float32)) : Prop where
  ascending : (kept.map (·.1)).Pairwise (· < ·)
  exceeding : ∀ entry ∈ kept, dense[entry.1]? = some entry.2 ∧ entry.2 > threshold
  whole : topK = 0 ∨ dense.countP (· > threshold) ≤ topK →
    ∀ index value, dense[index]? = some value → value > threshold → (index, value) ∈ kept
  full : topK ≠ 0 → topK < dense.countP (· > threshold) → kept.length = topK
  behind : ∀ index value, dense[index]? = some value → value > threshold →
    (index, value) ∉ kept → Behind kept (index, value)

theorem mem_above_positions {entry : Nat × Float32} :
    entry ∈ above threshold (positions dense) ↔
      dense[entry.1]? = some entry.2 ∧ entry.2 > threshold := by
  have listed : entry ∈ positions dense ↔ dense[entry.1]? = some entry.2 := by
    constructor
    · intro member
      rw [← lookup_positions]
      exact lookup_eq_some_of_mem (positions_keys_nodup dense) member
    · intro found
      rw [← lookup_positions] at found
      exact mem_of_lookup found
  rw [above, List.mem_filter, listed, decide_eq_true_eq]

theorem length_above_positions (dense : List Float32) (threshold : Float32) :
    (above threshold (positions dense)).length = dense.countP (· > threshold) := by
  have values : (positions dense).map (·.2) = dense := by
    rw [positions, List.map_map]
    exact List.zipIdx_map_fst 0 dense
  rw [above, ← List.countP_eq_length_filter]
  conv_rhs => rw [← values]
  rw [List.countP_map]
  rfl

theorem cut_of_few (few : topK = 0 ∨ candidates.length ≤ topK) : cut candidates topK = candidates :=
  if_neg (by omega)

theorem length_cut (some : topK ≠ 0) (many : topK < candidates.length) :
    (cut candidates topK).length = topK := by
  rw [cut, if_pos ⟨Nat.pos_of_ne_zero some, many⟩, List.length_take, List.length_mergeSort]
  exact Nat.min_eq_left many.le

/-- The cut goes through the sorted candidates, so what is kept goes before what is dropped. -/
theorem precedes_of_dropped (ranked : Ranked candidates) {kept : Nat × Float32}
    (member : kept ∈ cut candidates topK) (listed : dropped ∈ candidates)
    (absent : dropped ∉ cut candidates topK) : keyPrecedes kept dropped := by
  by_cases cuts : 0 < topK ∧ topK < candidates.length
  · rw [cut, if_pos cuts, mergeSort_precedes_eq ranked] at member absent
    have sorted := List.pairwise_mergeSort keyPrecedes_trans keyPrecedes_total candidates
    rw [← List.take_append_drop topK (candidates.mergeSort keyPrecedes)] at sorted
    have behind : dropped ∈ (candidates.mergeSort keyPrecedes).drop topK := by
      have among : dropped ∈ candidates.mergeSort keyPrecedes := List.mem_mergeSort.mpr listed
      rw [← List.take_append_drop topK (candidates.mergeSort keyPrecedes)] at among
      exact (List.mem_append.mp among).resolve_left absent
    exact (List.pairwise_append.mp sorted).2.2 kept member dropped behind
  · rw [cut, if_neg cuts] at absent
    exact absurd listed absent

/-- Where what is dropped is not smaller than all that is kept, something kept is as large; it is
the smallest of what is kept, since nothing kept is smaller than what is dropped. -/
theorem behind_of_dropped (ranked : Ranked candidates) (listed : dropped ∈ candidates)
    (absent : dropped ∉ cut candidates topK) : Behind (cut candidates topK) dropped := by
  have number := ranked.numbers dropped listed
  have before : ∀ entry ∈ cut candidates topK, key dropped.2 < key entry.2 ∨
      key dropped.2 = key entry.2 ∧ entry.1 ≤ dropped.1 := by
    intro entry member
    simpa [keyPrecedes] using precedes_of_dropped ranked member listed absent
  by_cases smaller : ∀ entry ∈ cut candidates topK, key dropped.2 < key entry.2
  · exact .inl fun entry member => lt_iff.mpr ⟨number, smaller entry member⟩
  · push Not at smaller
    obtain ⟨least, member, reached⟩ := smaller
    have same : key dropped.2 = key least.2 := by
      rcases before least member with less | ⟨same, -⟩
      · exact absurd less reached.not_gt
      · exact same
    refine .inr ⟨least, member, ?_, beq_iff.mpr ⟨number, same⟩, ?_⟩
    · intro entry memberToo
      rw [le_iff, ← same]
      rcases before entry memberToo with less | ⟨equal, -⟩
      · exact ⟨number, less.le⟩
      · exact ⟨number, equal.le⟩
    · intro entry memberToo tied
      rw [beq_iff, ← same] at tied
      rcases before entry memberToo with less | ⟨-, lower⟩
      · exact absurd tied.2 less.ne'
      · apply Nat.lt_of_le_of_ne lower
        intro sameIndex
        have equal := ranked.eq_of_index (mem_of_mem_cut memberToo) listed sameIndex
        exact absent (equal ▸ memberToo)

theorem select_entries (candidates : List (Nat × Float32)) (topK : Nat) :
    (select candidates topK).entries.Perm (cut candidates topK) := by
  rw [select, entries_ofEntries]
  exact List.mergeSort_perm _ _

/-- Selecting from dense values is exact, whatever the values and the threshold are: what is no
number is never kept, and zeros of both signs tie. -/
theorem ofDense_largest (dense : List Float32) (threshold : Float32) (topK : Nat) :
    (ofDense dense threshold topK).labels = none ∧
      (ofDense dense threshold topK).validate = .ok () ∧
      Largest dense threshold topK (ofDense dense threshold topK).entries := by
  have nodup := positions_keys_nodup dense
  have ranked := ranked_above nodup threshold
  have kept := select_entries (above threshold (positions dense)) topK
  have count := length_above_positions dense threshold
  refine ⟨rfl, ofDense_valid dense threshold topK, ?_⟩
  rw [ofDense]
  constructor
  case ascending =>
    rw [select, entries_ofEntries]
    exact select_ascending (above_keys_nodup nodup threshold) topK
  case exceeding =>
    intro entry member
    exact mem_above_positions.mp (mem_of_mem_cut (kept.mem_iff.mp member))
  case whole =>
    intro few index value found exceeds
    rw [← count] at few
    rw [kept.mem_iff, cut_of_few few]
    exact mem_above_positions.mpr ⟨found, exceeds⟩
  case full =>
    intro some many
    rw [← count] at many
    rw [kept.length_eq, length_cut some many]
  case behind =>
    intro index value found exceeds absent
    rw [kept.mem_iff] at absent
    have listed : (index, value) ∈ above threshold (positions dense) :=
      mem_above_positions.mpr ⟨found, exceeds⟩
    have behind := behind_of_dropped ranked listed absent
    simpa only [Behind, kept.mem_iff] using behind

end TextVectors.Sparse
