import TextVectors.Proofs.Entries
import TextVectors.Proofs.Sparse.Selection

namespace TextVectors.Sparse

/-! Merging windows keeps the largest value of each index.

What is merged is compared with the dense values that the windows were cut from: under every
index the positive one of the largest values is found, and nothing else.
-/

open Binary32

variable {slots dense : List Float32} {maxima window : List (Nat × Float32)}
variable {index other : Nat} {value threshold : Float32}

theorem positions_keys (dense : List Float32) :
    (positions dense).map (·.1) = List.range dense.length := by
  rw [positions, List.map_map, List.range_eq_range', ← List.zipIdx_map_snd 0 dense]
  rfl

theorem positions_keys_nodup (dense : List Float32) : ((positions dense).map (·.1)).Nodup := by
  rw [positions_keys]
  exact List.nodup_range

theorem lookup_positions (dense : List Float32) (index : Nat) :
    (positions dense).lookup index = dense[index]? := by
  cases found : dense[index]? with
  | none =>
      rw [lookup_eq_none, positions_keys, List.mem_range, Nat.not_lt]
      exact List.getElem?_eq_none_iff.mp found
  | some value =>
      apply lookup_eq_some_of_mem (positions_keys_nodup dense)
      exact List.mem_map.mpr ⟨(value, index), List.mem_zipIdx_iff_getElem?.mpr found, rfl⟩

theorem lookup_above (nodup : (maxima.map (·.1)).Nodup) (threshold : Float32) (index : Nat) :
    (above threshold maxima).lookup index = (maxima.lookup index).filter (· > threshold) :=
  lookup_filter nodup _

theorem above_keys_nodup (nodup : (maxima.map (·.1)).Nodup) (threshold : Float32) :
    ((above threshold maxima).map (·.1)).Nodup :=
  nodup.sublist (List.filter_sublist.map _)

/-- The value of an index after another one has come up. -/
def joined (known added : Option Float32) : Option Float32 :=
  match added with
  | none => known
  | some value => some (match known with
    | none => value
    | some current => larger current value)

theorem lookup_raise (maxima : List (Nat × Float32)) (index : Nat) (value : Float32)
    (other : Nat) :
    (raise maxima index value).lookup other =
      if other = index then joined (maxima.lookup index) (some value)
      else maxima.lookup other := by
  by_cases equal : other = index
  · subst equal
    rw [if_pos rfl]
    induction maxima with
    | nil => simp [raise, joined]
    | cons entry rest ih =>
        obtain ⟨known, current⟩ := entry
        unfold raise
        split
        · rename_i same
          subst same
          simp [joined, larger]
        · rename_i different
          have apart : (other == known) = false := by simpa using Ne.symm different
          rw [List.lookup_cons, List.lookup_cons, apart]
          exact ih
  · rw [if_neg equal]
    have apart : (other == index) = false := by simpa using equal
    induction maxima with
    | nil => simp [raise, List.lookup_cons, apart]
    | cons entry rest ih =>
        obtain ⟨known, current⟩ := entry
        unfold raise
        split
        · rename_i same
          subst same
          rw [List.lookup_cons, List.lookup_cons, apart]
        · rw [List.lookup_cons, List.lookup_cons, ih]

theorem raise_keys (maxima : List (Nat × Float32)) (index : Nat) (value : Float32) :
    (raise maxima index value).map (·.1) =
      if index ∈ maxima.map (·.1) then maxima.map (·.1) else maxima.map (·.1) ++ [index] := by
  induction maxima with
  | nil => simp [raise]
  | cons entry rest ih =>
      obtain ⟨known, current⟩ := entry
      unfold raise
      split
      · rename_i same
        subst same
        simp
      · rename_i different
        rw [List.map_cons, ih]
        simp only [List.map_cons, List.mem_cons, Ne.symm different, false_or]
        split <;> rfl

theorem raise_keys_nodup (nodup : (maxima.map (·.1)).Nodup) (index : Nat) (value : Float32) :
    ((raise maxima index value).map (·.1)).Nodup := by
  rw [raise_keys]
  split
  · exact nodup
  · rename_i absent
    exact List.nodup_append.mpr ⟨nodup, by simp, by
      rintro other member _ (_ | ⟨_, ⟨⟩⟩) rfl
      exact absent member⟩

/-- A window in which every index stands once raises each of its indices once. -/
theorem lookup_foldl_raise (nodup : (window.map (·.1)).Nodup)
    (maxima : List (Nat × Float32)) (index : Nat) :
    (window.foldl (fun known entry => raise known entry.1 entry.2) maxima).lookup index =
      joined (maxima.lookup index) (window.lookup index) := by
  induction window generalizing maxima with
  | nil => rfl
  | cons entry rest ih =>
      obtain ⟨first, value⟩ := entry
      rw [List.map_cons, List.nodup_cons] at nodup
      rw [List.foldl_cons, ih nodup.2, lookup_raise, List.lookup_cons]
      by_cases equal : index = first
      · subst equal
        rw [if_pos rfl, lookup_eq_none.mpr nodup.1, beq_self_eq_true]
        rfl
      · have apart : (index == first) = false := by simpa using equal
        rw [if_neg equal, apart]

theorem foldl_raise_keys_nodup (nodup : (maxima.map (·.1)).Nodup)
    (window : List (Nat × Float32)) :
    ((window.foldl (fun known entry => raise known entry.1 entry.2) maxima).map (·.1)).Nodup := by
  induction window generalizing maxima with
  | nil => exact nodup
  | cons entry rest ih => exact ih (raise_keys_nodup nodup entry.1 entry.2)

/-- The entry that a dense value leaves in a window. -/
def positive (value : Float32) : Option Float32 :=
  if value > zero then some value else none

/-- Dense values that do not count leave no entry, so entries are joined as values are. -/
theorem joined_positive {first second : Float32} (nonnegative : zero ≤ first) :
    joined (positive first) (positive second) = positive (larger first second) := by
  by_cases exceeds : first < second
  · have last : larger first second = second := if_pos exceeds
    have counts : second > zero := lt_of_le_of_lt nonnegative exceeds
    rw [last, positive, positive, if_pos counts]
    split
    · exact congrArg some last
    · rfl
  · have last : larger first second = first := if_neg exceeds
    rw [last, positive, positive]
    by_cases counts : second > zero
    · have earlier : first > zero := by
        rw [not_lt_iff_key nonnegative] at exceeds
        rw [gt_iff_lt, lt_iff_key zero_le_zero] at counts ⊢
        exact counts.trans_le exceeds
      rw [if_pos counts, if_pos earlier]
      exact congrArg some last
    · rw [if_neg counts]
      rfl

/-- The maxima so far are the positive ones of these values. -/
structure Tracks (maxima : List (Nat × Float32)) (slots : List Float32) : Prop where
  nodup : (maxima.map (·.1)).Nodup
  found : ∀ index, maxima.lookup index = slots[index]?.bind positive

/-- What the window of a dense list holds. -/
def windowEntries (dense : List Float32) : List (Nat × Float32) :=
  above zero (positions dense)

theorem windowEntries_tracks (dense : List Float32) : Tracks (windowEntries dense) dense where
  nodup := above_keys_nodup (positions_keys_nodup dense) zero
  found index := by
    rw [windowEntries, lookup_above (positions_keys_nodup dense), lookup_positions]
    cases dense[index]? with
    | none => rfl
    | some value => simp [positive, Option.filter_some]

theorem Tracks.raise (tracks : Tracks maxima slots) (wide : dense.length = slots.length)
    (nonnegative : ∀ slot ∈ slots, zero ≤ slot) :
    Tracks
      ((windowEntries dense).foldl (fun known entry => Sparse.raise known entry.1 entry.2) maxima)
      (List.zipWith larger slots dense) where
  nodup := foldl_raise_keys_nodup tracks.nodup _
  found index := by
    have window := windowEntries_tracks dense
    rw [lookup_foldl_raise window.nodup, window.found, tracks.found, List.getElem?_zipWith]
    by_cases within : index < slots.length
    · have withinToo : index < dense.length := wide ▸ within
      rw [List.getElem?_eq_getElem within, List.getElem?_eq_getElem withinToo]
      exact joined_positive (nonnegative _ (List.getElem_mem within))
    · rw [List.getElem?_eq_none (by omega), List.getElem?_eq_none (by omega)]
      rfl

theorem windowEntries_ascending (dense : List Float32) :
    ((windowEntries dense).map (·.1)).Pairwise (· < ·) := by
  have ascending := @List.pairwise_lt_range dense.length
  rw [← positions_keys] at ascending
  exact ascending.sublist (List.filter_sublist.map _)

/-- What is cut nowhere keeps its order. -/
theorem ofDense_eq_window (dense : List Float32) :
    ofDense dense zero 0 = .ofEntries (windowEntries dense) := by
  have uncut : cut (windowEntries dense) 0 = windowEntries dense :=
    if_neg fun both => Nat.lt_irrefl 0 both.1
  rw [ofDense, ← windowEntries, select, uncut, List.mergeSort_of_pairwise]
  refine (List.pairwise_map.mp (windowEntries_ascending dense)).imp fun before => ?_
  rw [decide_eq_true_eq]
  exact Nat.le_of_lt before

theorem entries_ofEntries (entries : List (Nat × Float32)) :
    (SparseVector.ofEntries entries).entries = entries := by
  have unzipped := List.zip_unzip entries
  rw [List.unzip_eq_map] at unzipped
  exact unzipped

theorem misplaced?_of_ascending {indices : List Nat} (ascending : indices.Pairwise (· < ·))
    (position : Nat) : SparseVector.misplaced? position indices = none := by
  induction indices generalizing position with
  | nil => rfl
  | cons first rest ih =>
      cases rest with
      | nil => rfl
      | cons second rest =>
          have before : first < second :=
            (List.pairwise_cons.mp ascending).1 second List.mem_cons_self
          rw [SparseVector.misplaced?, if_neg (Nat.not_le.mpr before)]
          exact ih (List.pairwise_cons.mp ascending).2 _

theorem validate_ofEntries {entries : List (Nat × Float32)}
    (ascending : (entries.map (·.1)).Pairwise (· < ·)) :
    (SparseVector.ofEntries entries).validate = .ok () := by
  have ordered := misplaced?_of_ascending ascending 0
  simp only [SparseVector.validate, SparseVector.ofEntries, List.length_map, ordered, ne_eq,
    not_true_eq_false, if_false]
  rfl

theorem maximaFrom_windows {rows : List (List Float32)} (tracks : Tracks maxima slots)
    (nonnegative : ∀ slot ∈ slots, zero ≤ slot)
    (wide : ∀ dense ∈ rows, dense.length = slots.length) (position : Nat) :
    ∃ reached,
      maximaFrom position maxima (rows.map fun dense => ofDense dense zero 0) = .ok reached ∧
      Tracks reached (rows.foldl (List.zipWith larger) slots) := by
  induction rows generalizing maxima slots position with
  | nil => exact ⟨maxima, rfl, tracks⟩
  | cons dense rest ih =>
      have width : dense.length = slots.length := wide dense List.mem_cons_self
      have kept : (List.zipWith larger slots dense).length = slots.length := by
        rw [List.length_zipWith, width, Nat.min_self]
      have raised : ∀ slot ∈ List.zipWith larger slots dense, zero ≤ slot := by
        intro slot member
        rw [← List.map_uncurry_zip_eq_zipWith] at member
        obtain ⟨⟨former, value⟩, inBoth, rfl⟩ := List.mem_map.mp member
        exact larger_nonnegative (nonnegative former (List.of_mem_zip inBoth).1)
      obtain ⟨reached, ran, tracksLast⟩ := ih (tracks.raise width nonnegative) raised
        (fun other member => (wide other (List.mem_cons_of_mem _ member)).trans kept.symm)
        (position + 1)
      refine ⟨reached, ?_, tracksLast⟩
      rw [List.map_cons, maximaFrom, ofDense_eq_window,
        validate_ofEntries (windowEntries_ascending dense), entries_ofEntries]
      exact ran

/-- Only numbers exceed a threshold, and none exceeds one that is no number. -/
theorem ranked_above (nodup : (maxima.map (·.1)).Nodup) (threshold : Float32) :
    Ranked (above threshold maxima) where
  nodup := above_keys_nodup nodup threshold
  numbers candidate member := by
    have exceeds := (List.mem_filter.mp member).2
    rw [decide_eq_true_eq] at exceeds
    exact number_of_lt exceeds

/-- Only values that exceed the threshold count for what is selected. -/
theorem ofDense_congr {first second : List Float32}
    (same : ∀ index : Nat,
      first[index]?.filter (· > threshold) = second[index]?.filter (· > threshold))
    (topK : Nat) : ofDense first threshold topK = ofDense second threshold topK := by
  have perm : (above threshold (positions first)).Perm (above threshold (positions second)) := by
    apply perm_of_lookup_eq (above_keys_nodup (positions_keys_nodup _) _)
      (above_keys_nodup (positions_keys_nodup _) _)
    intro index
    rw [lookup_above (positions_keys_nodup _), lookup_above (positions_keys_nodup _),
      lookup_positions, lookup_positions, same]
  exact select_eq_of_perm (ranked_above (positions_keys_nodup _) threshold) perm topK

theorem Tracks.above_perm (tracks : Tracks maxima slots) (usable : threshold ≥ zero) :
    (above threshold maxima).Perm (above threshold (positions slots)) := by
  have nodup := positions_keys_nodup slots
  apply perm_of_lookup_eq (above_keys_nodup tracks.nodup _) (above_keys_nodup nodup _)
  intro index
  rw [lookup_above tracks.nodup, lookup_above nodup, tracks.found, lookup_positions]
  cases slots[index]? with
  | none => rfl
  | some value =>
      change (positive value).filter _ = _
      unfold positive
      split
      · rfl
      · rename_i notPositive
        have below : ¬ value > threshold := fun exceeds =>
          notPositive (lt_of_le_of_lt usable exceeds)
        rw [Option.filter_none, Option.filter_some, if_neg]
        rwa [decide_eq_true_eq]

/-- Merging the windows of dense lists is the same as taking the largest values first and then
cutting the result once. -/
theorem mergeWindows_ofDense {rows : List (List Float32)} {width : Nat}
    (wide : ∀ dense ∈ rows, dense.length = width) (usable : threshold ≥ zero) (topK : Nat) :
    mergeWindows (rows.map fun dense => ofDense dense zero 0) threshold topK =
      .ok (ofDense (rows.foldl (List.zipWith larger) (List.replicate width zero)) threshold
        topK) := by
  have start : Tracks [] (List.replicate width zero) := by
    refine ⟨List.nodup_nil, fun index => ?_⟩
    rw [List.getElem?_replicate]
    split <;> rfl
  obtain ⟨reached, ran, tracks⟩ := maximaFrom_windows start
    (fun slot member => (List.eq_of_mem_replicate member) ▸ zero_le_zero)
    (fun dense member => (wide dense member).trans List.length_replicate.symm) 0
  have selected := select_eq_of_perm (ranked_above (positions_keys_nodup _) threshold)
    (tracks.above_perm usable) topK
  rw [mergeWindows, checkThreshold, if_pos usable, ran]
  exact congrArg Except.ok selected

end TextVectors.Sparse
