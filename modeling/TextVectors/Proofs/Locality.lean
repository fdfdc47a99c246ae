import TextVectors.Proofs.Accepted

namespace TextVectors.Pooling

/-! What a pooled row depends on.

A row is computed from its own part of the buffers, and from that only the tokens that the kind of
pooling looks at.  All else may hold anything, even what is no number.
-/

variable {α : Type} {pooling : Pooling} {l2Normalize : Bool}
variable {batch batchToo sequenceLength hidden : Nat}
variable {states others : List Float32} {mask otherMask : List Int}
variable {rows otherRows : List (List Float32)} {row token entry : Nat}

/-- Pooling looks at a token of a row. -/
def Reads (pooling : Pooling) (sequenceLength : Nat) (mask : List Int) (row token : Nat) : Prop :=
  match pooling with
  | .mean => mask[row * sequenceLength + token]? ≠ some 0
  | .cls => token = 0
  | .none => True

def stateAt? (sequenceLength hidden : Nat) (states : List Float32) (row token entry : Nat) :
    Option Float32 :=
  states[(row * sequenceLength + token) * hidden + entry]?

/-- Two batches of the same sizes agree where pooling looks.  The masks matter to averages only. -/
structure SameRead (pooling : Pooling) (batch sequenceLength hidden : Nat) (states : List Float32)
    (mask : List Int) (others : List Float32) (otherMask : List Int) : Prop where
  masks : pooling = .mean → otherMask = mask
  cells : ∀ row < batch, ∀ token < sequenceLength, pooling.Reads sequenceLength mask row token →
    ∀ entry < hidden, stateAt? sequenceLength hidden others row token entry =
      stateAt? sequenceLength hidden states row token entry

/-- The part of a buffer that belongs to one row. -/
def rowOf (size : Nat) (cells : List α) (row : Nat) : List α :=
  (cells.drop (row * size)).take size

theorem getElem?_rowOf {cells : List α} {size position : Nat} (inside : position < size) :
    (rowOf size cells row)[position]? = cells[row * size + position]? := by
  rw [rowOf, List.getElem?_take_of_lt inside, List.getElem?_drop]

theorem length_rowOf {cells : List α} {size : Nat} (whole : cells.length = batch * size)
    (inside : row < batch) : (rowOf size cells row).length = size := by
  have reached : (row + 1) * size ≤ batch * size := Nat.mul_le_mul_right size inside
  rw [Nat.succ_mul] at reached
  rw [rowOf, List.length_take, List.length_drop, whole]
  omega

/-- A place within a row is a place within its part of the states. -/
theorem place_lt (within : token < sequenceLength) (narrow : entry < hidden) :
    token * hidden + entry < sequenceLength * hidden := by
  have reached : (token + 1) * hidden ≤ sequenceLength * hidden :=
    Nat.mul_le_mul_right hidden within
  rw [Nat.succ_mul] at reached
  omega

theorem getElem?_rowOf_states (within : token < sequenceLength) (narrow : entry < hidden) :
    (rowOf (sequenceLength * hidden) states row)[token * hidden + entry]? =
      stateAt? sequenceLength hidden states row token entry := by
  rw [getElem?_rowOf (place_lt within narrow), stateAt?, Nat.add_mul, Nat.mul_assoc, Nat.add_assoc]

/-- What becomes of the part of the buffers that belongs to one row. -/
def pooledRow (pooling : Pooling) (l2Normalize : Bool) (sequenceLength hidden : Nat)
    (states : List Float32) (mask : List Int) : List Float32 :=
  let pooled := pooling.poolRow sequenceLength hidden states mask
  if l2Normalize then normalize pooled else pooled

theorem pool_eq (passed : check states.length mask.length batch sequenceLength hidden = .ok ()) :
    pooling.pool states mask batch sequenceLength hidden l2Normalize =
      .ok (List.zipWith (pooling.pooledRow l2Normalize sequenceLength hidden)
        (chunks (sequenceLength * hidden) batch states) (chunks sequenceLength batch mask)) := by
  rw [pool, passed]
  cases l2Normalize with
  | false => rfl
  | true =>
      change Except.ok (List.map normalize _) = _
      rw [List.map_zipWith]
      rfl

theorem check_of_pool
    (accepted : pooling.pool states mask batch sequenceLength hidden l2Normalize = .ok rows) :
    check states.length mask.length batch sequenceLength hidden = .ok () := by
  obtain ⟨_, passed, -⟩ := ok_of_bind accepted
  exact passed

theorem rows_eq
    (accepted : pooling.pool states mask batch sequenceLength hidden l2Normalize = .ok rows) :
    rows = List.zipWith (pooling.pooledRow l2Normalize sequenceLength hidden)
      (chunks (sequenceLength * hidden) batch states) (chunks sequenceLength batch mask) := by
  rw [pool_eq (check_of_pool accepted)] at accepted
  exact (Except.ok.inj accepted).symm

theorem length_rows
    (accepted : pooling.pool states mask batch sequenceLength hidden l2Normalize = .ok rows) :
    rows.length = batch := by
  rw [rows_eq accepted, List.length_zipWith, Sparse.chunks_length, Sparse.chunks_length,
    Nat.min_self]

theorem getElem?_rows
    (accepted : pooling.pool states mask batch sequenceLength hidden l2Normalize = .ok rows)
    (inside : row < batch) :
    rows[row]? = some (pooling.pooledRow l2Normalize sequenceLength hidden
      (rowOf (sequenceLength * hidden) states row) (rowOf sequenceLength mask row)) := by
  rw [rows_eq accepted, List.getElem?_zipWith, Sparse.getElem?_chunks inside,
    Sparse.getElem?_chunks inside]
  rfl

/-- Tokens of weight zero do not enter a weighted sum. -/
theorem weightedSum_congr {tokens otherTokens : List (List Float32)} {weights : List Int}
    (count : otherTokens.length = tokens.length)
    (same : ∀ index : Nat, weights[index]? ≠ some 0 → otherTokens[index]? = tokens[index]?)
    (start : List Float32 × Float32) :
    weightedSum start (otherTokens.zip weights) = weightedSum start (tokens.zip weights) := by
  induction weights generalizing tokens otherTokens start with
  | nil => rw [List.zip_nil_right, List.zip_nil_right]
  | cons weight rest ih =>
      match tokens, otherTokens, count with
      | [], [], _ => rfl
      | token :: tokens, other :: otherTokens, count =>
          have later := ih (Nat.succ.inj count) fun index shown => same (index + 1) shown
          rw [List.zip_cons_cons, List.zip_cons_cons, weightedSum, weightedSum]
          by_cases hides : weight = 0
          · rw [if_pos hides, if_pos hides]
            exact later start
          · have first := same 0 fun found => hides (Option.some.inj found)
            rw [if_neg hides, if_neg hides, Option.some.inj first]
            exact later _

section Agreement

variable (within : token < sequenceLength)
variable (agree : ∀ entry < hidden, stateAt? sequenceLength hidden others row token entry =
  stateAt? sequenceLength hidden states row token entry)
include within agree

/-- A token that agrees in every entry is the same. -/
theorem token_eq :
    ((rowOf (sequenceLength * hidden) others row).drop (token * hidden)).take hidden =
      ((rowOf (sequenceLength * hidden) states row).drop (token * hidden)).take hidden := by
  refine List.ext_getElem? fun entry => ?_
  by_cases narrow : entry < hidden
  · rw [List.getElem?_take_of_lt narrow, List.getElem?_take_of_lt narrow, List.getElem?_drop,
      List.getElem?_drop, getElem?_rowOf_states within narrow, getElem?_rowOf_states within narrow]
    exact agree entry narrow
  · rw [List.getElem?_take_eq_none (Nat.not_lt.mp narrow),
      List.getElem?_take_eq_none (Nat.not_lt.mp narrow)]

end Agreement

variable (same : SameRead pooling batch sequenceLength hidden states mask others otherMask)
variable (inside : row < batch)
include same inside

/-- The tokens that pooling looks at are all that a row is made of. -/
theorem SameRead.poolRow_eq (someTokens : 0 < sequenceLength) :
    pooling.poolRow sequenceLength hidden (rowOf (sequenceLength * hidden) others row)
        (rowOf sequenceLength otherMask row) =
      pooling.poolRow sequenceLength hidden (rowOf (sequenceLength * hidden) states row)
        (rowOf sequenceLength mask row) := by
  cases pooling with
  | mean =>
      have tokens : ∀ index : Nat, (rowOf sequenceLength mask row)[index]? ≠ some 0 →
          (chunks hidden sequenceLength (rowOf (sequenceLength * hidden) others row))[index]? =
            (chunks hidden sequenceLength (rowOf (sequenceLength * hidden) states row))[index]? := by
        intro index shown
        by_cases within : index < sequenceLength
        · rw [getElem?_rowOf within] at shown
          rw [Sparse.getElem?_chunks within, Sparse.getElem?_chunks within,
            token_eq within (same.cells row inside index within shown)]
        · rw [List.getElem?_eq_none, List.getElem?_eq_none] <;>
          · rw [Sparse.chunks_length]
            exact Nat.not_lt.mp within
      have count : (chunks hidden sequenceLength
          (rowOf (sequenceLength * hidden) others row)).length =
            (chunks hidden sequenceLength (rowOf (sequenceLength * hidden) states row)).length := by
        rw [Sparse.chunks_length, Sparse.chunks_length]
      rw [same.masks rfl, poolRow, poolRow, meanRow, meanRow, weightedSum_congr count tokens]
  | cls =>
      have first := token_eq someTokens (same.cells row inside 0 someTokens rfl)
      rwa [Nat.zero_mul, List.drop_zero, List.drop_zero] at first
  | none =>
      change rowOf (sequenceLength * hidden) others row = rowOf (sequenceLength * hidden) states row
      refine List.ext_getElem? fun place => ?_
      by_cases reached : place < sequenceLength * hidden
      · -- A place is an entry of a token.
        have some : 0 < hidden := Nat.pos_of_ne_zero fun zero => by simp [zero] at reached
        have within : place / hidden < sequenceLength := (Nat.div_lt_iff_lt_mul some).mpr reached
        have narrow := Nat.mod_lt place some
        have agree := same.cells row inside (place / hidden) within trivial (place % hidden) narrow
        rwa [← getElem?_rowOf_states within narrow, ← getElem?_rowOf_states within narrow,
          Nat.div_add_mod'] at agree
      · rw [rowOf, rowOf, List.getElem?_take_eq_none (Nat.not_lt.mp reached),
          List.getElem?_take_eq_none (Nat.not_lt.mp reached)]

omit inside in
theorem SameRead.rows_eq
    (accepted : pooling.pool states mask batch sequenceLength hidden l2Normalize = .ok rows)
    (acceptedToo :
      pooling.pool others otherMask batch sequenceLength hidden l2Normalize = .ok otherRows) :
    otherRows = rows := by
  obtain ⟨-, someTokens, -⟩ := check_iff.mp (check_of_pool accepted)
  apply List.ext_getElem?'
  rw [length_rows accepted, length_rows acceptedToo, Nat.max_self]
  intro row inside
  rw [getElem?_rows accepted inside, getElem?_rows acceptedToo inside, pooledRow, pooledRow,
    same.poolRow_eq inside someTokens]

omit same inside

theorem chunks_append {first second : List α} {size : Nat} (whole : first.length = batch * size) :
    chunks size (batch + batchToo) (first ++ second) =
      chunks size batch first ++ chunks size batchToo second := by
  rw [Sparse.chunks_add, ← whole, List.take_left, List.drop_left]

/-- Two batches one after the other are pooled into the results one after the other. -/
theorem pool_append
    (accepted : pooling.pool states mask batch sequenceLength hidden l2Normalize = .ok rows)
    (acceptedToo :
      pooling.pool others otherMask batchToo sequenceLength hidden l2Normalize = .ok otherRows)
    (fits : (states ++ others).length < wordLimit) :
    pooling.pool (states ++ others) (mask ++ otherMask) (batch + batchToo) sequenceLength hidden
      l2Normalize = .ok (rows ++ otherRows) := by
  have first := consistent_of_check (check_of_pool accepted)
  have second := consistent_of_check (check_of_pool acceptedToo)
  have both : Consistent (states ++ others) (mask ++ otherMask) (batch + batchToo) sequenceLength
      hidden :=
    { someRows := Nat.add_pos_left first.someRows batchToo
      someTokens := first.someTokens
      someEntries := first.someEntries
      masked := by rw [List.length_append, first.masked, second.masked, Nat.add_mul]
      filled := by rw [List.length_append, first.filled, second.filled, Nat.add_mul, Nat.add_mul] }
  have aligned : (chunks (sequenceLength * hidden) batch states).length =
      (chunks sequenceLength batch mask).length := by
    rw [Sparse.chunks_length, Sparse.chunks_length]
  rw [pool_eq (both.check fits), chunks_append (by rw [first.filled, Nat.mul_assoc]),
    chunks_append first.masked, List.zipWith_append aligned, rows_eq accepted, rows_eq acceptedToo]

/-- A row is pooled alone as in its batch. -/
theorem pool_row
    (accepted : pooling.pool states mask batch sequenceLength hidden l2Normalize = .ok rows)
    (inside : row < batch) :
    ∃ result, rows[row]? = some result ∧
      pooling.pool (rowOf (sequenceLength * hidden) states row) (rowOf sequenceLength mask row) 1
        sequenceLength hidden l2Normalize = .ok [result] := by
  have passed := check_of_pool accepted
  obtain ⟨-, -, -, -, counted⟩ := check_iff.mp passed
  have fits := elementCount_go_lt (by decide) counted
  have whole := consistent_of_check passed
  have statesLength : (rowOf (sequenceLength * hidden) states row).length =
      sequenceLength * hidden := length_rowOf (by rw [whole.filled, Nat.mul_assoc]) inside
  have maskLength : (rowOf sequenceLength mask row).length = sequenceLength :=
    length_rowOf whole.masked inside
  have alone : Consistent (rowOf (sequenceLength * hidden) states row)
      (rowOf sequenceLength mask row) 1 sequenceLength hidden :=
    { someRows := Nat.one_pos
      someTokens := whole.someTokens
      someEntries := whole.someEntries
      masked := by rw [maskLength, Nat.one_mul]
      filled := by rw [statesLength, Nat.one_mul] }
  have small : (rowOf (sequenceLength * hidden) states row).length < wordLimit :=
    (((List.take_sublist _ _).trans (List.drop_sublist _ _)).length_le).trans_lt fits
  refine ⟨_, getElem?_rows accepted inside, ?_⟩
  rw [pool_eq (alone.check small), Sparse.chunks_one (Nat.le_of_eq statesLength),
    Sparse.chunks_one (Nat.le_of_eq maskLength)]
  rfl

/-- A row depends on the tokens that pooling looks at in its own part of the buffers, and on nothing
else: not on what the mask hides, and not on the other rows. -/
theorem pool_local (pooling : Pooling) (sequenceLength hidden : Nat) (l2Normalize : Bool) :
    (∀ batch states mask others otherMask rows otherRows,
      pooling.pool states mask batch sequenceLength hidden l2Normalize = .ok rows →
      pooling.pool others otherMask batch sequenceLength hidden l2Normalize = .ok otherRows →
      SameRead pooling batch sequenceLength hidden states mask others otherMask →
      otherRows = rows) ∧
    (∀ batch batchToo states mask others otherMask rows otherRows,
      pooling.pool states mask batch sequenceLength hidden l2Normalize = .ok rows →
      pooling.pool others otherMask batchToo sequenceLength hidden l2Normalize = .ok otherRows →
      (states ++ others).length < wordLimit →
      pooling.pool (states ++ others) (mask ++ otherMask) (batch + batchToo) sequenceLength hidden
        l2Normalize = .ok (rows ++ otherRows)) ∧
    ∀ batch states mask rows,
      pooling.pool states mask batch sequenceLength hidden l2Normalize = .ok rows →
      ∀ row < batch, ∃ result, rows[row]? = some result ∧
        pooling.pool (rowOf (sequenceLength * hidden) states row) (rowOf sequenceLength mask row) 1
          sequenceLength hidden l2Normalize = .ok [result] :=
  ⟨fun _ _ _ _ _ _ _ accepted acceptedToo same => same.rows_eq accepted acceptedToo,
    fun _ _ _ _ _ _ _ _ => pool_append, fun _ _ _ _ accepted _ => pool_row accepted⟩

/-- A token that shows, and one that holds no finite numbers. -/
def spoiledPadding : List Float32 :=
  [0x3f800000, 0x40000000, 0x7fc00000, 0x7f800000].map Float32.ofBits

/-- The same token that shows, and one of zeros. -/
def blankPadding : List Float32 :=
  [0x3f800000, 0x40000000, 0x00000000, 0x00000000].map Float32.ofBits

theorem spoiled_padding_unread :
    ∃ rows otherRows,
      Pooling.mean.pool spoiledPadding [1, 0] 1 2 2 true = .ok rows ∧
      Pooling.mean.pool blankPadding [1, 0] 1 2 2 true = .ok otherRows ∧
      SameRead .mean 1 2 2 spoiledPadding [1, 0] blankPadding [1, 0] ∧ otherRows = rows ∧
      Pooling.mean.pool (spoiledPadding ++ blankPadding) [1, 0, 1, 0] 2 2 2 true =
        .ok (rows ++ otherRows) ∧
      ∃ result, rows[0]? = some result ∧
        Pooling.mean.pool (rowOf 4 spoiledPadding 0) (rowOf 2 [1, 0] 0) 1 2 2 true =
          .ok [result] := by
  have spoiled : Consistent spoiledPadding [1, 0] 1 2 2 := by
    constructor <;> decide
  have blank : Consistent blankPadding [1, 0] 1 2 2 := by
    constructor <;> decide
  obtain ⟨rows, accepted⟩ : ∃ rows,
      Pooling.mean.pool spoiledPadding [1, 0] 1 2 2 true = .ok rows :=
    ⟨_, pool_eq (spoiled.check (by decide))⟩
  obtain ⟨otherRows, acceptedToo⟩ : ∃ rows,
      Pooling.mean.pool blankPadding [1, 0] 1 2 2 true = .ok rows :=
    ⟨_, pool_eq (blank.check (by decide))⟩
  have same : SameRead .mean 1 2 2 spoiledPadding [1, 0] blankPadding [1, 0] := by
    refine ⟨fun _ => rfl, ?_⟩
    unfold Reads
    decide
  obtain ⟨agree, append, alone⟩ := pool_local .mean 2 2 true
  exact ⟨rows, otherRows, accepted, acceptedToo, same, agree _ _ _ _ _ _ _ accepted acceptedToo same,
    append _ _ _ _ _ _ _ _ accepted acceptedToo (by decide), alone _ _ _ _ accepted 0 (by decide)⟩

end TextVectors.Pooling
