import Mathlib.Order.Bounds.Basic
import TextVectors.Proofs.Sparse.Merging
import TextVectors.Proofs.Sparse.Valid

namespace TextVectors.SparseVector

/-! What is checked of a vector, and what is found in it.

Only neighbours are compared when a vector is checked, and only some indices are looked at when a
value is searched.  Both are enough: indices that exceed their predecessors ascend throughout, and
then every index that is passed over is known to differ.
-/

variable {vector : SparseVector} {indices : List Nat} {start position target first : Nat}

/-- Values, and labels where they are attached, run parallel to the indices. -/
structure Parallel (vector : SparseVector) : Prop where
  values : vector.values.length = vector.indices.length
  labels : ∀ labels ∈ vector.labels, labels.length = vector.indices.length

/-- The index at a position does not exceed its predecessor. -/
def Misplaced (indices : List Nat) (position : Nat) : Prop :=
  ∃ place first second, position = place + 1 ∧ indices[place]? = some first ∧
    indices[place + 1]? = some second ∧ second ≤ first

section Order

theorem misplaced_pos (misplaced : Misplaced indices position) : 1 ≤ position := by
  obtain ⟨place, -, -, rfl, -⟩ := misplaced
  omega

theorem Misplaced.cons (misplaced : Misplaced indices position) (first : Nat) :
    Misplaced (first :: indices) (position + 1) := by
  obtain ⟨place, before, index, rfl, foundBefore, found, atMost⟩ := misplaced
  exact ⟨place + 1, before, index, rfl, by simpa using foundBefore, by simpa using found, atMost⟩

/-- Behind an index that is exceeded by the next one, what is misplaced was so without it. -/
theorem Misplaced.of_cons {second : Nat} {rest : List Nat} (before : first < second)
    (misplaced : Misplaced (first :: second :: rest) position) :
    ∃ later, position = later + 1 ∧ Misplaced (second :: rest) later := by
  obtain ⟨place, previous, index, rfl, foundBefore, found, atMost⟩ := misplaced
  cases place with
  | zero =>
      simp at foundBefore found
      omega
  | succ place =>
      exact ⟨place + 1, rfl, place, previous, index, rfl, by simpa using foundBefore,
        by simpa using found, atMost⟩

/-- The scan stops at the first misplaced index. -/
theorem isLeast_of_misplaced? {place : Nat} (found : misplaced? start indices = some place) :
    ∃ position, place = start + position ∧
      IsLeast {position | Misplaced indices position} position := by
  induction indices generalizing start with
  | nil => simp [misplaced?] at found
  | cons first rest ih =>
      cases rest with
      | nil => simp [misplaced?] at found
      | cons second rest =>
          by_cases before : first < second
          · rw [misplaced?, if_neg (Nat.not_le.mpr before)] at found
            obtain ⟨position, rfl, misplaced, least⟩ := ih found
            refine ⟨position + 1, by omega, misplaced.cons first, ?_⟩
            intro other misplacedToo
            obtain ⟨later, rfl, misplacedLater⟩ := misplacedToo.of_cons before
            have atMost := least misplacedLater
            omega
          · have atMost := Nat.not_lt.mp before
            rw [misplaced?, if_pos atMost] at found
            cases found
            exact ⟨1, rfl, ⟨0, first, second, rfl, rfl, rfl, atMost⟩, fun _ => misplaced_pos⟩

end Order

section Checking

theorem validate_of_parallel (parallel : vector.Parallel) :
    vector.validate =
      match misplaced? 0 vector.indices with
      | some position => .error (.indexOrder position)
      | none => .ok () := by
  obtain ⟨indices, values, labels⟩ := vector
  obtain ⟨paired, labelled⟩ := parallel
  simp only at paired labelled
  cases labels with
  | none =>
      cases scanned : misplaced? 0 indices <;>
        simp [validate, scanned, paired, pure, Except.pure, throw, throwThe, MonadExceptOf.throw]
  | some labels =>
      have each := labelled labels rfl
      cases scanned : misplaced? 0 indices <;>
        simp [validate, scanned, paired, each, pure, Except.pure, throw, throwThe,
          MonadExceptOf.throw]

theorem validate_iff_ascending :
    vector.validate = .ok () ↔ vector.Parallel ∧ vector.indices.Pairwise (· < ·) := by
  rw [validate_iff]
  constructor
  · intro valid
    obtain ⟨paired, labelled, ordered⟩ := valid
    exact ⟨⟨paired.symm, labelled⟩, ascending_of_misplaced? ordered⟩
  · intro valid
    obtain ⟨⟨paired, labelled⟩, ascending⟩ := valid
    exact ⟨paired.symm, labelled, Sparse.misplaced?_of_ascending ascending 0⟩

/-- If nothing but the order is wrong, the first misplaced index is named. -/
theorem validate_misplaced (parallel : vector.Parallel) (invalid : vector.validate ≠ .ok ()) :
    ∃ position, vector.validate = .error (.indexOrder position) ∧
      IsLeast {position | Misplaced vector.indices position} position := by
  have checked := validate_of_parallel parallel
  cases scanned : misplaced? 0 vector.indices with
  | none =>
      rw [scanned] at checked
      exact absurd checked invalid
  | some place =>
      rw [scanned] at checked
      obtain ⟨position, same, least⟩ := isLeast_of_misplaced? scanned
      rw [Nat.zero_add] at same
      subst same
      exact ⟨place, checked, least⟩

end Checking

section Searching

variable {fuel base size : Nat}

theorem getElem?_lt (ascending : indices.Pairwise (· < ·)) {earlier later before after : Nat}
    (foundBefore : indices[earlier]? = some before) (found : indices[later]? = some after)
    (less : earlier < later) : before < after := by
  obtain ⟨inside, rfl⟩ := List.getElem?_eq_some_iff.mp foundBefore
  obtain ⟨insideToo, rfl⟩ := List.getElem?_eq_some_iff.mp found
  exact List.pairwise_iff_getElem.mp ascending earlier later inside insideToo less

/-- A position stays within the range that is left, until it is the only one. -/
theorem search_eq (ascending : indices.Pairwise (· < ·))
    (found : indices[position]? = some target) (lower : base ≤ position)
    (upper : position < base + size) (inside : base + size ≤ indices.length)
    (enough : size ≤ fuel) : search indices target fuel base size = position := by
  induction fuel generalizing base size with
  | zero => omega
  | succ fuel ih =>
      unfold search
      by_cases single : size ≤ 1
      · rw [if_pos single]
        omega
      · have within : base + size / 2 < indices.length := by omega
        have middle := List.getElem?_eq_getElem within
        have looked : indices.getD (base + size / 2) 0 = indices[base + size / 2] := by
          rw [List.getD_eq_getElem?_getD, middle, Option.getD_some]
        simp only [if_neg single, looked]
        by_cases above : indices[base + size / 2] > target
        · have beyond : position < base + size / 2 := by
            by_contra reached
            rcases Nat.lt_or_eq_of_le (Nat.not_lt.mp reached) with later | same
            · have less := getElem?_lt ascending middle found later
              omega
            · subst same
              rw [middle] at found
              cases found
              omega
          rw [if_pos above]
          apply ih lower <;> omega
        · have reached : base + size / 2 ≤ position := by
            by_contra earlier
            have less := getElem?_lt ascending found middle (Nat.not_le.mp earlier)
            omega
          rw [if_neg above]
          apply ih reached <;> omega

/-- Bisection finds what stands under an index, and nothing else. -/
theorem get?_eq_some_iff (ascending : vector.indices.Pairwise (· < ·)) {index : Nat}
    {value : Float32} :
    vector.get? index = some value ↔
      ∃ position : Nat, vector.indices[position]? = some index ∧
        vector.values[position]? = some value := by
  constructor
  · intro found
    unfold get? at found
    simp only at found
    split at found
    · rename_i stored
      exact ⟨_, stored, found⟩
    · cases found
  · intro stored
    obtain ⟨position, found, valued⟩ := stored
    have inside := (List.getElem?_eq_some_iff.mp found).1
    have reached : search vector.indices index vector.length 0 vector.length = position :=
      search_eq ascending found (Nat.zero_le _) (by rw [length]; omega)
        (by rw [length]; omega) (Nat.le_refl _)
    simp only [get?, reached]
    rw [if_pos found, valued]

theorem get?_eq_none_iff (valid : vector.validate = .ok ()) {index : Nat} :
    vector.get? index = none ↔ index ∉ vector.indices := by
  obtain ⟨parallel, ascending⟩ := validate_iff_ascending.mp valid
  rw [Option.eq_none_iff_forall_ne_some]
  constructor
  · intro missing member
    obtain ⟨position, found⟩ := List.mem_iff_getElem?.mp member
    have inside := (List.getElem?_eq_some_iff.mp found).1
    rw [← parallel.values] at inside
    exact missing _ ((get?_eq_some_iff ascending).mpr
      ⟨position, found, List.getElem?_eq_getElem inside⟩)
  · intro absent value found
    obtain ⟨position, stored, -⟩ := (get?_eq_some_iff ascending).mp found
    exact absent (List.mem_of_getElem? stored)

end Searching

/-- A vector passes the check exactly if its lists are of one length and every index is less than
all that come after it.  If only their order is wrong, the first one that does not exceed its
predecessor is named.  In a vector that passes, bisection finds the value beside an index, and
nothing if the index is missing. -/
theorem checked_and_found (vector : SparseVector) :
    (vector.validate = .ok () ↔
      vector.Parallel ∧ ∀ earlier later, (less : earlier < later) →
        (inside : later < vector.indices.length) →
        vector.indices[earlier] < vector.indices[later]) ∧
    (vector.Parallel → vector.validate ≠ .ok () →
      ∃ position, vector.validate = .error (.indexOrder position) ∧
        IsLeast {position | Misplaced vector.indices position} position) ∧
    (vector.validate = .ok () → ∀ index,
      (∀ value, vector.get? index = some value ↔
        ∃ position : Nat, vector.indices[position]? = some index ∧
          vector.values[position]? = some value) ∧
      (vector.get? index = none ↔ index ∉ vector.indices)) := by
  refine ⟨?_, validate_misplaced, ?_⟩
  · rw [validate_iff_ascending, List.pairwise_iff_getElem]
    constructor
    · intro valid
      exact ⟨valid.1, fun earlier later less inside =>
        valid.2 earlier later (less.trans inside) inside less⟩
    · intro valid
      exact ⟨valid.1, fun earlier later _ inside less => valid.2 earlier later less inside⟩
  · intro valid index
    obtain ⟨-, ascending⟩ := validate_iff_ascending.mp valid
    exact ⟨fun value => get?_eq_some_iff ascending, get?_eq_none_iff valid⟩

/-- Squares as indices, with labels. -/
def squares : SparseVector where
  indices := [1, 4, 9, 16, 25]
  values := [0x3f800000, 0x40000000, 0x7fc00000, 0x40800000, 0x3f800000].map Float32.ofBits
  labels := some ["a", "b", "c", "d", "e"]

/-- The same values under indices of which two are misplaced. -/
def unsorted : SparseVector :=
  { squares with indices := [1, 4, 16, 16, 9] }

/-- Values are found at both ends and nothing is found between them, and of two misplaced indices
the first one is named. -/
theorem squares_found :
    (squares.validate = .ok () ∧ squares.get? 25 = squares.get? 1 ∧ squares.get? 24 = none) ∧
      unsorted.Parallel ∧ unsorted.validate = .error (.indexOrder 3) ∧
      IsLeast {position | Misplaced unsorted.indices position} 3 := by
  have valid : squares.validate = .ok () := rfl
  have found := (checked_and_found squares).2.2 valid
  have first : squares.get? 1 = some (Float32.ofBits 0x3f800000) :=
    ((found 1).1 _).mpr ⟨0, rfl, rfl⟩
  have last : squares.get? 25 = some (Float32.ofBits 0x3f800000) :=
    ((found 25).1 _).mpr ⟨4, rfl, rfl⟩
  have between : squares.get? 24 = none := (found 24).2.mpr (by decide)
  have parallel : unsorted.Parallel := ⟨rfl, by simp [unsorted, squares]⟩
  have invalid : unsorted.validate = .error (.indexOrder 3) := rfl
  obtain ⟨position, refused, least⟩ :=
    (checked_and_found unsorted).2.1 parallel (by rw [invalid]; exact nofun)
  rw [invalid] at refused
  cases refused
  exact ⟨⟨valid, last.trans first.symm, between⟩, parallel, invalid, least⟩

end TextVectors.SparseVector
