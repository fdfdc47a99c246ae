import Mathlib.Data.List.Nodup
import TextVectors.Proofs.Binary32
import TextVectors.Sparse.Selection

namespace TextVectors.Sparse

/-! The selection depends on the candidates only, not on their order. -/

open Binary32

variable {candidates others : List (Nat × Float32)} {dense : List Float32} {threshold : Float32}

/-- Candidates are selected by numbers, one for each index. -/
structure Ranked (candidates : List (Nat × Float32)) : Prop where
  nodup : (candidates.map (·.1)).Nodup
  numbers : ∀ candidate ∈ candidates, key candidate.2 ≠ ⊥

theorem Ranked.of_perm (ranked : Ranked candidates) (perm : others.Perm candidates) :
    Ranked others where
  nodup := (perm.map (·.1)).nodup_iff.mpr ranked.nodup
  numbers candidate member := ranked.numbers candidate (perm.mem_iff.mp member)

theorem Ranked.eq_of_index (ranked : Ranked candidates) {a b : Nat × Float32}
    (first : a ∈ candidates) (second : b ∈ candidates) (same : a.1 = b.1) : a = b :=
  List.inj_on_of_nodup_map ranked.nodup first second same

/-- An order that every pair of numbers is in, unlike the one by which candidates are cut. -/
noncomputable def keyPrecedes (a b : Nat × Float32) : Bool :=
  decide (key b.2 < key a.2 ∨ key b.2 = key a.2 ∧ a.1 ≤ b.1)

theorem precedes_eq {a b : Nat × Float32} (first : key a.2 ≠ ⊥) (second : key b.2 ≠ ⊥) :
    precedes a b = keyPrecedes a b := by
  simp only [precedes, keyPrecedes, gt_iff_lt, lt_iff, and_iff_right first, and_iff_right second]
  rcases lt_trichotomy (key a.2) (key b.2) with less | same | greater
  · simp [less, less.not_gt, less.ne']
  · simp [same]
  · simp [greater]

theorem mergeSort_precedes_eq (ranked : Ranked candidates) :
    candidates.mergeSort precedes = candidates.mergeSort keyPrecedes := by
  have mapped : (candidates.mergeSort precedes).map id =
      (candidates.map id).mergeSort keyPrecedes :=
    List.map_mergeSort fun a first b second =>
      precedes_eq (ranked.numbers a first) (ranked.numbers b second)
  rwa [List.map_id, List.map_id] at mapped

/-- Sorting forgets the order in which distinct things are given. -/
theorem mergeSort_eq_of_perm {le : Nat × Float32 → Nat × Float32 → Bool}
    (transitive : ∀ a b c, le a b → le b c → le a c) (total : ∀ a b, le a b || le b a)
    (antisymmetric : ∀ a ∈ candidates, ∀ b ∈ candidates, le a b → le b a → a = b)
    (perm : others.Perm candidates) : others.mergeSort le = candidates.mergeSort le := by
  have sortedPerm : (others.mergeSort le).Perm (candidates.mergeSort le) :=
    (List.mergeSort_perm _ _).trans (perm.trans (List.mergeSort_perm _ _).symm)
  refine List.Perm.eq_of_pairwise ?_ (List.pairwise_mergeSort transitive total _)
    (List.pairwise_mergeSort transitive total _) sortedPerm
  intro a b first second
  rw [List.mem_mergeSort] at first second
  exact antisymmetric a (perm.mem_iff.mp first) b second

theorem keyPrecedes_trans (a b c : Nat × Float32) (first : keyPrecedes a b)
    (second : keyPrecedes b c) : keyPrecedes a c := by
  simp only [keyPrecedes, decide_eq_true_eq] at first second ⊢
  rcases first with less | ⟨same, lower⟩
  · rcases second with lessToo | ⟨sameToo, _⟩
    · exact .inl (lessToo.trans less)
    · exact .inl (sameToo.trans_lt less)
  · rcases second with lessToo | ⟨sameToo, lowerToo⟩
    · exact .inl (lessToo.trans_eq same)
    · exact .inr ⟨sameToo.trans same, lower.trans lowerToo⟩

theorem keyPrecedes_total (a b : Nat × Float32) : keyPrecedes a b || keyPrecedes b a := by
  simp only [keyPrecedes, Bool.or_eq_true, decide_eq_true_eq]
  rcases lt_trichotomy (key a.2) (key b.2) with less | same | greater
  · exact .inr (.inl less)
  · rcases Nat.le_total a.1 b.1 with lower | higher
    · exact .inl (.inr ⟨same.symm, lower⟩)
    · exact .inr (.inr ⟨same, higher⟩)
  · exact .inl (.inl greater)

theorem keyPrecedes_antisymm (ranked : Ranked candidates) {a b : Nat × Float32}
    (first : a ∈ candidates) (second : b ∈ candidates) (before : keyPrecedes a b)
    (behind : keyPrecedes b a) : a = b := by
  simp only [keyPrecedes, decide_eq_true_eq] at before behind
  apply ranked.eq_of_index first second
  rcases before with less | ⟨same, lower⟩
  · rcases behind with lessToo | ⟨same, _⟩
    · exact absurd lessToo less.not_gt
    · exact absurd same less.ne'
  · rcases behind with less | ⟨_, lowerToo⟩
    · exact absurd same less.ne'
    · exact Nat.le_antisymm lower lowerToo

theorem cut_perm (ranked : Ranked candidates) (perm : others.Perm candidates) (topK : Nat) :
    (cut others topK).Perm (cut candidates topK) := by
  have sorted : others.mergeSort precedes = candidates.mergeSort precedes := by
    rw [mergeSort_precedes_eq ranked, mergeSort_precedes_eq (ranked.of_perm perm)]
    exact mergeSort_eq_of_perm keyPrecedes_trans keyPrecedes_total
      (fun _ first _ second => keyPrecedes_antisymm ranked first second) perm
  unfold cut
  rw [perm.length_eq, sorted]
  split
  · exact .refl _
  · exact perm

theorem mem_of_mem_cut {candidate : Nat × Float32} {topK : Nat}
    (member : candidate ∈ cut candidates topK) : candidate ∈ candidates := by
  unfold cut at member
  split at member
  · exact List.mem_mergeSort.mp (List.mem_of_mem_take member)
  · exact member

theorem select_eq_of_perm (ranked : Ranked candidates) (perm : others.Perm candidates)
    (topK : Nat) : select others topK = select candidates topK := by
  unfold select
  congr 1
  refine mergeSort_eq_of_perm ?_ ?_ ?_ (cut_perm ranked perm topK)
  · intro a b c first second
    rw [decide_eq_true_eq] at first second ⊢
    exact first.trans second
  · intro a b
    rw [Bool.or_eq_true, decide_eq_true_eq, decide_eq_true_eq]
    exact Nat.le_total a.1 b.1
  · intro a first b second before behind
    rw [decide_eq_true_eq] at before behind
    exact ranked.eq_of_index (mem_of_mem_cut first) (mem_of_mem_cut second)
      (Nat.le_antisymm before behind)

end TextVectors.Sparse
