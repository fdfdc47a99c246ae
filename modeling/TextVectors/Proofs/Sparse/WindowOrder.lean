import TextVectors.Proofs.Sparse.Maxima
import TextVectors.Proofs.Sparse.TopK

namespace TextVectors.Sparse

/-! When the order of windows shows in what they are merged into.

A maximum starts from the first value that comes up, and nothing exceeds what is no number.  An
index whose first value is none is lost; at every other index all that counts is which numbers
the windows hold there.
-/

open Binary32

variable {windows others : List SparseVector} {found rest : List Float32}
variable {first threshold : Float32} {index : Nat}

theorem valuesAt_perm (perm : others.Perm windows) (index : Nat) :
    (valuesAt others index).Perm (valuesAt windows index) :=
  perm.filterMap _

theorem larger_of_isNaN (noNumber : first.isNaN = true) (value : Float32) :
    larger first value = first := by
  have below : ¬ first < value := by
    simp [lt_iff, isNaN_iff.mp noNumber]
  exact if_neg below

theorem foldl_larger_of_isNaN (noNumber : first.isNaN = true) (rest : List Float32) :
    rest.foldl larger first = first := by
  induction rest with
  | nil => rfl
  | cons value rest ih => rw [List.foldl_cons, larger_of_isNaN noNumber, ih]

/-- What is left of the values of an index once small ones are pruned. -/
def kept (threshold : Float32) (found : List Float32) : Option Float32 :=
  (raised found).filter (· > threshold)

theorem kept_of_lost (starts : lost found = true) : kept threshold found = none := by
  cases found with
  | nil => simp [lost] at starts
  | cons first rest =>
      have noNumber : first.isNaN = true := by simpa [lost] using starts
      have below : ¬ threshold < first := fun exceeds =>
        number_of_lt exceeds (isNaN_iff.mp noNumber)
      simp [kept, raised, foldl_larger_of_isNaN noNumber, below]

theorem kept_none (nothing : ∀ value ∈ found, ¬ value > threshold) :
    kept threshold found = none := by
  cases starts : lost found with
  | true => exact kept_of_lost starts
  | false =>
      have top := raised_top starts
      unfold kept
      cases reached : raised found with
      | none => rfl
      | some value =>
          rw [reached] at top
          have below := nothing value top.1.1
          simpa using below

theorem kept_some (starts : lost found = false) {value : Float32} (member : value ∈ found)
    (exceeds : value > threshold) : kept threshold found ≠ none := by
  have top := raised_top starts
  have number : value.isNaN = false := number_iff.mpr (number_of_lt exceeds)
  unfold kept
  cases reached : raised found with
  | none =>
      rw [reached] at top
      have nothing : numbersOf found = ∅ := top
      have among : value ∈ numbersOf found := ⟨member, number⟩
      simp [nothing] at among
  | some greatest =>
      rw [reached] at top
      have exceedsToo : threshold < greatest := lt_of_lt_of_le exceeds (top.2 ⟨member, number⟩)
      simp [exceedsToo]

theorem kept_perm (usable : threshold ≥ zero) (perm : rest.Perm found) (starts : lost rest = false)
    (startsToo : lost found = false) : kept threshold rest = kept threshold found := by
  have same : numbersOf rest = numbersOf found := by
    simp [numbersOf, perm.mem_iff]
  exact (raised_top starts).filter_eq usable (same ▸ raised_top startsToo)

/-- The order of some values shows where one order starts with a number, the other does not, and
there is something to be lost. -/
theorem kept_eq_iff (usable : threshold ≥ zero) (perm : rest.Perm found) :
    kept threshold rest = kept threshold found ↔
      ((∃ value ∈ found, value > threshold) → lost rest = lost found) := by
  constructor
  · rintro same ⟨value, member, exceeds⟩
    cases starts : lost rest with
    | true =>
        cases startsToo : lost found with
        | true => rfl
        | false =>
            rw [kept_of_lost starts] at same
            exact absurd same.symm (kept_some startsToo member exceeds)
    | false =>
        cases startsToo : lost found with
        | true =>
            rw [kept_of_lost startsToo] at same
            exact absurd same (kept_some starts (perm.mem_iff.mpr member) exceeds)
        | false => rfl
  · intro same
    by_cases exceeding : ∃ value ∈ found, value > threshold
    · cases startsToo : lost found with
      | true => rw [kept_of_lost startsToo, kept_of_lost ((same exceeding).trans startsToo)]
      | false => exact kept_perm usable perm ((same exceeding).trans startsToo) startsToo
    · push Not at exceeding
      rw [kept_none exceeding,
        kept_none fun value member => exceeding value (perm.mem_iff.mp member)]

/-- Merging two lists of the same windows comes to the same if what is kept under every index is
the same, and shows it where nothing is cut. -/
theorem mergeWindows_eq_iff (usable : threshold ≥ zero)
    (valid : ∀ window ∈ windows, window.validate = .ok ())
    (validToo : ∀ window ∈ others, window.validate = .ok ()) :
    (∀ topK, mergeWindows others threshold topK = mergeWindows windows threshold topK) ↔
      ∀ index, kept threshold (valuesAt others index) = kept threshold (valuesAt windows index) := by
  obtain ⟨reached, -, nodup, values, selects⟩ := mergeWindows_selects usable valid
  obtain ⟨reachedToo, -, nodupToo, valuesToo, selectsToo⟩ := mergeWindows_selects usable validToo
  have found (index : Nat) : (above threshold reached).lookup index =
      kept threshold (valuesAt windows index) := by
    rw [lookup_above nodup, values, kept]
  have foundToo (index : Nat) : (above threshold reachedToo).lookup index =
      kept threshold (valuesAt others index) := by
    rw [lookup_above nodupToo, valuesToo, kept]
  constructor
  · intro same index
    have uncut (candidates : List (Nat × Float32)) :
        (select candidates 0).entries.Perm candidates := by
      have whole := select_entries candidates 0
      rwa [cut_of_few (.inl rfl)] at whole
    have selected := same 0
    rw [selects, selectsToo] at selected
    have perm : (above threshold reachedToo).Perm (above threshold reached) := by
      have first := uncut (above threshold reachedToo)
      rw [Except.ok.inj selected] at first
      exact first.symm.trans (uncut _)
    rw [← found, ← foundToo, lookup_eq_of_perm (above_keys_nodup nodup threshold) perm]
  · intro same topK
    have perm : (above threshold reachedToo).Perm (above threshold reached) := by
      apply perm_of_lookup_eq (above_keys_nodup nodupToo _) (above_keys_nodup nodup _)
      intro index
      rw [found, foundToo, same]
    rw [selects, selectsToo, select_eq_of_perm (ranked_above nodup threshold) perm]

theorem exists_first {value : Float32} (member : value ∈ valuesAt windows index) :
    ∃ others, others.Perm windows ∧ lost (valuesAt others index) = value.isNaN := by
  obtain ⟨window, listed, held⟩ := List.mem_filterMap.mp member
  refine ⟨window :: windows.erase window, (List.perm_cons_erase listed).symm, ?_⟩
  simp [valuesAt, held, lost]

/-- Windows in two orders are merged into the same vectors, however many entries these have, unless
an index at which something exceeds the threshold is lost in one order and not in the other.  So
every order gives the same if and only if no index holds something that exceeds the threshold next
to something that is no number. -/
theorem mergeWindows_order (usable : threshold ≥ zero)
    (valid : ∀ window ∈ windows, window.validate = .ok ()) :
    (∀ others, others.Perm windows →
      ((∀ topK, mergeWindows others threshold topK = mergeWindows windows threshold topK) ↔
        ∀ index, (∃ value ∈ valuesAt windows index, value > threshold) →
          lost (valuesAt others index) = lost (valuesAt windows index))) ∧
    ((∀ others, others.Perm windows → ∀ topK, ∃ merged,
        mergeWindows others threshold topK = .ok merged ∧
        mergeWindows windows threshold topK = .ok merged) ↔
      ∀ index, (∃ value ∈ valuesAt windows index, value > threshold) →
        ∀ value ∈ valuesAt windows index, value.isNaN = false) := by
  have inOrders (others : List SparseVector) (perm : others.Perm windows) :
      (∀ topK, mergeWindows others threshold topK = mergeWindows windows threshold topK) ↔
        ∀ index, (∃ value ∈ valuesAt windows index, value > threshold) →
          lost (valuesAt others index) = lost (valuesAt windows index) := by
    rw [mergeWindows_eq_iff usable valid fun window member =>
      valid window (perm.mem_iff.mp member)]
    exact forall_congr' fun index => kept_eq_iff usable (valuesAt_perm perm index)
  refine ⟨inOrders, ?_, ?_⟩
  · intro same index exceeding value member
    obtain ⟨other, listed, exceeds⟩ := exceeding
    -- One order begins with the value in question, another one with the value that exceeds.
    obtain ⟨before, perm, starts⟩ := exists_first member
    obtain ⟨behind, permToo, startsToo⟩ := exists_first listed
    have equal (order : List SparseVector) (perm : order.Perm windows) :
        lost (valuesAt order index) = lost (valuesAt windows index) := by
      refine (inOrders order perm).mp (fun topK => ?_) index ⟨other, listed, exceeds⟩
      obtain ⟨merged, first, second⟩ := same order perm topK
      rw [first, second]
    rw [← starts, equal before perm, ← equal behind permToo, startsToo]
    exact number_iff.mpr (number_of_lt exceeds)
  · intro numbers others perm topK
    obtain ⟨reached, -, -, -, selects⟩ := mergeWindows_selects usable valid
    refine ⟨_, ?_, selects topK⟩
    rw [← selects topK]
    refine (inOrders others perm).mpr (fun index exceeding => ?_) topK
    have starts (order : List SparseVector) (perm : order.Perm windows) :
        lost (valuesAt order index) = false :=
      lost_of_numbers fun value member =>
        numbers index exceeding value ((valuesAt_perm perm index).mem_iff.mp member)
    rw [starts others perm, starts windows (.refl _)]

/-- A window that holds no number under an index, in front of one that holds two. -/
def spoiled : List SparseVector :=
  [⟨[1], [Float32.ofBits 0x7FC00000], none⟩, ⟨[1], [Float32.ofBits 0x40000000], none⟩]

theorem spoiled_order_shows :
    (∀ window ∈ spoiled, window.validate = .ok ()) ∧ spoiled.reverse.Perm spoiled ∧
      mergeWindows spoiled zero 0 = .ok ⟨[], [], none⟩ ∧
      mergeWindows spoiled.reverse zero 0 = .ok ⟨[1], [Float32.ofBits 0x40000000], none⟩ :=
  ⟨by decide, List.reverse_perm _, ok_of_toOption (by decide +kernel),
    ok_of_toOption (by decide +kernel)⟩

/-- Windows that overlap, and hold no number only where nothing exceeds zero. -/
def unspoiled : List SparseVector :=
  [⟨[1, 3], [Float32.ofBits 0x7FC00000, Float32.ofBits 0x3F800000], none⟩,
    ⟨[1, 3], [Float32.ofBits 0xBF800000, Float32.ofBits 0x40000000], none⟩]

theorem unspoiled_order_hidden :
    zero ≥ zero ∧ (∀ window ∈ unspoiled, window.validate = .ok ()) ∧
      ∀ others, others.Perm unspoiled → ∀ topK, ∃ merged,
        mergeWindows others zero topK = .ok merged ∧ mergeWindows unspoiled zero topK = .ok merged := by
  have usable : zero ≥ zero := zero_le_zero
  have valid : ∀ window ∈ unspoiled, window.validate = .ok () := by decide
  refine ⟨usable, valid, (mergeWindows_order usable valid).2.mpr ?_⟩
  intro index
  match index with
  | 0 => decide
  | 1 => decide
  | 2 => decide
  | 3 => decide
  | index + 4 => simp [valuesAt, unspoiled, SparseVector.entries, List.lookup_cons]

end TextVectors.Sparse
