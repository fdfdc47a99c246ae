import TextVectors.Proofs.Sparse.Valid

namespace TextVectors.Sparse

/-! Merging windows is selecting from the greatest values that they hold.

The windows are any that are valid and hold numbers, in any overlap; nothing is said about where
they come from.
-/

open Binary32

variable {windows before after : List SparseVector} {window : SparseVector}
variable {maxima reached : List (Nat × Float32)} {threshold : Float32} {topK : Nat}
variable {values : Set Float32} {known added : Option Float32} {found : List Float32}

theorem usable_iff : threshold ≥ zero ↔ threshold.isNaN = false ∧ ¬ threshold < zero := by
  constructor
  · intro usable
    obtain ⟨-, reached⟩ := le_iff.mp usable
    have number : key threshold ≠ ⊥ := ne_bot_of_le_ne_bot (by decide) reached
    constructor
    · rw [← Bool.not_eq_true, isNaN_iff]
      exact number
    · rw [lt_iff]
      exact fun below => below.2.not_ge reached
  · intro fine
    exact le_of_not_lt fine.1 (by decide) fine.2

/-- The values that windows hold under an index. -/
def held (windows : List SparseVector) (index : Nat) : Set Float32 :=
  {value | ∃ window ∈ windows, (index, value) ∈ window.entries}

/-- Dense values that are the greatest the windows hold, and zero where they hold none. -/
structure Maxima (windows : List SparseVector) (dense : List Float32) : Prop where
  wide : ∀ index, (held windows index).Nonempty → index < dense.length
  greatest : ∀ index value, dense[index]? = some value →
    IsGreatest (held windows index) value ∨ held windows index = ∅ ∧ value = zero

/-- The greatest of some values, if there are any. -/
def IsTop (values : Set Float32) : Option Float32 → Prop
  | none => values = ∅
  | some value => IsGreatest values value

theorem mem_valuesAt (valid : ∀ window ∈ windows, window.validate = .ok ()) {index : Nat}
    {value : Float32} : value ∈ valuesAt windows index ↔ value ∈ held windows index := by
  rw [valuesAt, List.mem_filterMap]
  constructor
  · rintro ⟨window, member, found⟩
    exact ⟨window, member, mem_of_lookup found⟩
  · rintro ⟨window, member, listed⟩
    have nodup := SparseVector.entries_keys_nodup (valid window member)
    exact ⟨window, member, lookup_eq_some_of_mem nodup listed⟩

/-- The first of the values is no number. -/
def lost (found : List Float32) : Bool :=
  found.head?.any (·.isNaN)

/-- After a first number, values that are none are passed over. -/
theorem raised_top (starts : lost found = false) : IsTop (numbersOf found) (raised found) := by
  cases found with
  | nil => simp [raised, IsTop, numbersOf]
  | cons first rest =>
      have number : first.isNaN = false := by simpa [lost] using starts
      have alone : IsGreatest (numbersOf [first]) first := by
        refine ⟨⟨by simp, number⟩, ?_⟩
        rintro other ⟨member, -⟩
        rw [List.mem_singleton.mp member]
        exact le_iff.mpr ⟨number_iff.mp number, le_rfl⟩
      rw [numbersOf_cons]
      exact greatest_foldl_larger alone rest

theorem lost_of_numbers (numbers : ∀ value ∈ found, value.isNaN = false) : lost found = false := by
  cases found with
  | nil => rfl
  | cons first rest => simpa [lost] using numbers first List.mem_cons_self

/-- Where all values are numbers, what comes of them is the greatest one. -/
theorem raised_held (valid : ∀ window ∈ windows, window.validate = .ok ())
    (numbers : ∀ window ∈ windows, ∀ value ∈ window.values, value.isNaN = false) (index : Nat) :
    IsTop (held windows index) (raised (valuesAt windows index)) := by
  have number : ∀ value ∈ valuesAt windows index, value.isNaN = false := by
    intro value member
    obtain ⟨window, listed, among⟩ := (mem_valuesAt valid).mp member
    exact numbers window listed value (List.of_mem_zip among).2
  have same : numbersOf (valuesAt windows index) = held windows index := by
    ext value
    rw [← mem_valuesAt valid]
    exact and_iff_left_of_imp (number value)
  rw [← same]
  exact raised_top (lost_of_numbers number)

/-- The first window that is not valid is named by its position. -/
theorem maximaFrom_invalid {fault : InputFault}
    (valid : ∀ earlier ∈ before, earlier.validate = .ok ())
    (invalid : window.validate = .error fault) (maxima : List (Nat × Float32)) (position : Nat) :
    maximaFrom position maxima (before ++ window :: after) =
      .error (.context s!"invalid sparse window {position + before.length}"
        (.invalidInput fault)) := by
  induction before generalizing maxima position with
  | nil => simp only [List.nil_append, maximaFrom, invalid, List.length_nil, Nat.add_zero]
  | cons first rest ih =>
      rw [List.cons_append, maximaFrom, valid first List.mem_cons_self, List.length_cons,
        Nat.add_comm rest.length, ← Nat.add_assoc]
      exact ih (fun earlier member => valid earlier (List.mem_cons_of_mem _ member)) _ _

theorem valid_of_maximaFrom {position : Nat}
    (ran : maximaFrom position maxima windows = .ok reached) :
    ∀ window ∈ windows, window.validate = .ok () := by
  induction windows generalizing maxima position with
  | nil => simp
  | cons first rest ih =>
      cases checked : first.validate with
      | error fault => simp [maximaFrom, checked] at ran
      | ok =>
          rw [maximaFrom, checked] at ran
          exact List.forall_mem_cons.mpr ⟨checked, ih ran⟩

/-- The greatest of some values is the same in every bit where it exceeds a threshold. -/
theorem IsTop.filter_eq (usable : threshold ≥ zero) (top : IsTop values known)
    (topToo : IsTop values added) :
    known.filter (· > threshold) = added.filter (· > threshold) := by
  cases known with
  | none =>
      have nothing : values = ∅ := top
      cases added with
      | none => rfl
      | some value =>
          have member : value ∈ values := topToo.1
          simp [nothing] at member
  | some value =>
      obtain ⟨member, upper⟩ : IsGreatest values value := top
      cases added with
      | none =>
          have nothing : values = ∅ := topToo
          simp [nothing] at member
      | some other =>
          obtain ⟨memberToo, upperToo⟩ : IsGreatest values other := topToo
          have same : key value = key other :=
            le_antisymm (le_iff.mp (upperToo member)).2 (le_iff.mp (upper memberToo)).2
          by_cases exceeds : threshold < value
          · rw [eq_of_key_eq (lt_of_le_of_lt usable exceeds) same]
          · have exceedsToo : ¬ threshold < other := by
              rwa [lt_iff_key usable, ← same, ← lt_iff_key usable]
            rw [Option.filter_some, Option.filter_some, if_neg (by simpa using exceeds),
              if_neg (by simpa using exceedsToo)]

/-- Where the tops of two sources count, they are the same in every bit. -/
theorem filter_top (usable : threshold ≥ zero) {dense : List Float32}
    (greatest : Maxima windows dense) {index : Nat} (top : IsTop (held windows index) known) :
    known.filter (· > threshold) = dense[index]?.filter (· > threshold) := by
  cases found : dense[index]? with
  | none =>
      have nothing : held windows index = ∅ := by
        by_contra some
        have within := greatest.wide index (Set.nonempty_iff_ne_empty.mpr some)
        rw [List.getElem?_eq_getElem within] at found
        cases found
      exact top.filter_eq usable nothing
  | some value =>
      rcases greatest.greatest index value found with same | ⟨nothing, rfl⟩
      · exact top.filter_eq usable same
      · have atMost : ¬ threshold < zero := (usable_iff.mp usable).2
        have missing : IsTop (held windows index) none := nothing
        rw [top.filter_eq usable missing, Option.filter_none, Option.filter_some,
          if_neg (by simpa using atMost)]

theorem maxima_exist (tops : ∀ index, IsTop (held windows index) (reached.lookup index)) :
    ∃ dense, Maxima windows dense := by
  refine ⟨(List.range ((reached.map (·.1)).sum + 1)).map fun index =>
    (reached.lookup index).getD zero, ?_, ?_⟩
  · rintro index ⟨value, member⟩
    have top := tops index
    cases found : reached.lookup index with
    | none =>
        rw [found] at top
        have nothing : held windows index = ∅ := top
        rw [nothing] at member
        exact absurd member (Set.notMem_empty value)
    | some value =>
        have listed : index ∈ reached.map (·.1) := List.mem_map_of_mem (mem_of_lookup found)
        rw [List.length_map, List.length_range]
        exact Nat.lt_succ_of_le (List.le_sum_of_mem listed)
  · intro index value found
    rw [List.getElem?_map, Option.map_eq_some_iff] at found
    obtain ⟨_, range, rfl⟩ := found
    obtain ⟨_, rfl⟩ := List.getElem?_eq_some_iff.mp range
    rw [List.getElem_range]
    have top := tops index
    cases held : reached.lookup index with
    | none =>
        rw [held] at top
        exact .inr ⟨top, rfl⟩
    | some value =>
        rw [held] at top
        exact .inl top

theorem mergeWindows_fails_iff (windows : List SparseVector) (threshold : Float32) (topK : Nat) :
    (∃ error, mergeWindows windows threshold topK = .error error) ↔
      threshold.isNaN = true ∨ threshold < zero ∨
        ∃ window ∈ windows, window.validate ≠ .ok () := by
  constructor
  · rintro ⟨error, failed⟩
    by_contra fine
    push Not at fine
    have usable : threshold ≥ zero := usable_iff.mpr ⟨by simpa using fine.1, fine.2.1⟩
    obtain ⟨merged, ran, -⟩ := mergeWindows_valid usable fine.2.2 topK
    rw [ran] at failed
    cases failed
  · intro wrong
    cases ran : mergeWindows windows threshold topK with
    | error error => exact ⟨error, rfl⟩
    | ok merged =>
        exfalso
        unfold mergeWindows checkThreshold at ran
        by_cases usable : threshold ≥ zero
        · obtain ⟨number, atLeast⟩ := usable_iff.mp usable
          rw [if_pos usable] at ran
          obtain ⟨-, -, ran⟩ := ok_of_bind ran
          obtain ⟨maxima, took, -⟩ := ok_of_bind ran
          rcases wrong with absurd | absurd | ⟨window, member, invalid⟩
          · rw [number] at absurd
            cases absurd
          · exact atLeast absurd
          · exact invalid (valid_of_maximaFrom took window member)
        · rw [if_neg usable] at ran
          cases ran

theorem mergeWindows_invalid (usable : threshold ≥ zero) {fault : InputFault}
    (valid : ∀ earlier ∈ before, earlier.validate = .ok ())
    (invalid : window.validate = .error fault) (topK : Nat) :
    mergeWindows (before ++ window :: after) threshold topK =
      .error (.context s!"invalid sparse window {before.length}" (.invalidInput fault)) := by
  rw [mergeWindows, checkThreshold, if_pos usable, maximaFrom_invalid valid invalid, Nat.zero_add]
  rfl

/-- The maxima stand for any greatest dense values, in whatever order they are gone through. -/
theorem select_maxima (usable : threshold ≥ zero) (nodup : (reached.map (·.1)).Nodup)
    (tops : ∀ index, IsTop (held windows index) (reached.lookup index)) {dense : List Float32}
    (greatest : Maxima windows dense) {order : List (Nat × Float32)} (perm : order.Perm reached)
    (topK : Nat) : select (above threshold order) topK = ofDense dense threshold topK := by
  have positioned := positions_keys_nodup dense
  have same : (above threshold reached).Perm (above threshold (positions dense)) := by
    apply perm_of_lookup_eq (above_keys_nodup nodup _) (above_keys_nodup positioned _)
    intro index
    rw [lookup_above nodup, lookup_above positioned, lookup_positions]
    exact filter_top usable greatest (tops index)
  exact select_eq_of_perm (ranked_above positioned threshold) ((perm.filter _).trans same) topK

theorem mergeWindows_greatest (usable : threshold ≥ zero)
    (valid : ∀ window ∈ windows, window.validate = .ok ())
    (numbers : ∀ window ∈ windows, ∀ value ∈ window.values, value.isNaN = false) (topK : Nat) :
    (∃ dense, Maxima windows dense) ∧
      ∀ dense, Maxima windows dense →
        mergeWindows windows threshold topK = .ok (ofDense dense threshold topK) ∧
        ∀ maxima order, maximaFrom 0 [] windows = .ok maxima → order.Perm maxima →
          select (above threshold order) topK = ofDense dense threshold topK := by
  obtain ⟨reached, ran, nodup, values, selects⟩ := mergeWindows_selects usable valid
  have tops : ∀ index, IsTop (held windows index) (reached.lookup index) := by
    intro index
    rw [values]
    exact raised_held valid numbers index
  refine ⟨maxima_exist tops, fun dense greatest => ⟨?_, ?_⟩⟩
  · rw [selects]
    exact congrArg Except.ok (select_maxima usable nodup tops greatest (.refl _) topK)
  · intro maxima order took perm
    rw [ran] at took
    cases took
    exact select_maxima usable nodup tops greatest perm topK

/-- Merging fails on a threshold that is no number or negative and on windows that are not valid,
and on nothing else.  What is selected is selected from the greatest values of each index. -/
theorem mergeWindows_maxima (windows : List SparseVector) (threshold : Float32) (topK : Nat) :
    ((∃ error, mergeWindows windows threshold topK = .error error) ↔
      threshold.isNaN = true ∨ threshold < zero ∨
        ∃ window ∈ windows, window.validate ≠ .ok ()) ∧
    (threshold.isNaN = false → ¬ threshold < zero →
      ∀ before window after fault, windows = before ++ window :: after →
        (∀ earlier ∈ before, earlier.validate = .ok ()) → window.validate = .error fault →
        mergeWindows windows threshold topK =
          .error (.context s!"invalid sparse window {before.length}" (.invalidInput fault))) ∧
    (threshold.isNaN = false → ¬ threshold < zero →
      (∀ window ∈ windows, window.validate = .ok ()) →
      (∀ window ∈ windows, ∀ value ∈ window.values, value.isNaN = false) →
      (∃ dense, Maxima windows dense) ∧
      ∀ dense, Maxima windows dense →
        mergeWindows windows threshold topK = .ok (ofDense dense threshold topK) ∧
        ∀ maxima order, maximaFrom 0 [] windows = .ok maxima → order.Perm maxima →
          select (above threshold order) topK = ofDense dense threshold topK) := by
  refine ⟨mergeWindows_fails_iff windows threshold topK, ?_, ?_⟩
  · rintro number atLeast before window after fault rfl valid invalid
    exact mergeWindows_invalid (usable_iff.mpr ⟨number, atLeast⟩) valid invalid topK
  · intro number atLeast valid numbers
    exact mergeWindows_greatest (usable_iff.mpr ⟨number, atLeast⟩) valid numbers topK

/-- Two windows that overlap at an index, next to an index that neither holds. -/
def overlapping : List SparseVector :=
  [⟨[1], [Float32.ofBits 0xBF800000], none⟩,
    ⟨[1, 2], [Float32.ofBits 0x3F800000, Float32.ofBits 0x7F800000], none⟩]

def overlappingMaxima : List Float32 :=
  [zero, Float32.ofBits 0x3F800000, Float32.ofBits 0x7F800000]

theorem mem_held_overlapping {index : Nat} {value : Float32} :
    value ∈ held overlapping index ↔ index = 1 ∧ value = Float32.ofBits 0xBF800000 ∨
      index = 1 ∧ value = Float32.ofBits 0x3F800000 ∨
      index = 2 ∧ value = Float32.ofBits 0x7F800000 := by
  simp [held, overlapping, SparseVector.entries]

theorem overlapping_greatest : Maxima overlapping overlappingMaxima where
  wide index := by
    rintro ⟨value, member⟩
    change index < 3
    rw [mem_held_overlapping] at member
    omega
  greatest index value found := by
    match index with
    | 0 =>
        cases found
        refine .inr ⟨Set.eq_empty_of_forall_notMem fun value member => ?_, rfl⟩
        rw [mem_held_overlapping] at member
        omega
    | 1 =>
        cases found
        refine .inl ⟨mem_held_overlapping.mpr (.inr (.inl ⟨rfl, rfl⟩)), fun value member => ?_⟩
        rcases mem_held_overlapping.mp member with ⟨-, rfl⟩ | ⟨-, rfl⟩ | ⟨absurd, -⟩
        · decide
        · decide
        · cases absurd
    | 2 =>
        cases found
        refine .inl ⟨mem_held_overlapping.mpr (.inr (.inr ⟨rfl, rfl⟩)), fun value member => ?_⟩
        rcases mem_held_overlapping.mp member with ⟨absurd, -⟩ | ⟨absurd, -⟩ | ⟨-, rfl⟩
        · cases absurd
        · cases absurd
        · decide
    | _ + 3 => cases found

theorem overlapping_windows_merged :
    mergeWindows overlapping zero 1 = .ok (ofDense overlappingMaxima zero 1) ∧
      mergeWindows (overlapping ++ [⟨[0, 0], [zero, zero], none⟩]) zero 1 =
        .error (.context "invalid sparse window 2" (.invalidInput (.indexOrder 1))) := by
  obtain ⟨-, -, merged⟩ := mergeWindows_maxima overlapping zero 1
  obtain ⟨-, invalid, -⟩ :=
    mergeWindows_maxima (overlapping ++ [⟨[0, 0], [zero, zero], none⟩]) zero 1
  constructor
  · exact ((merged (by decide) (by decide) (by decide) (by decide)).2 _ overlapping_greatest).1
  · exact invalid (by decide) (by decide) overlapping _ [] _ rfl (by decide) rfl

end TextVectors.Sparse
