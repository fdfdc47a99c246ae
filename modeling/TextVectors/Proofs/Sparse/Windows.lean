import TextVectors.Proofs.Execution
import TextVectors.Proofs.Sparse.Merging
import TextVectors.Sparse.Logits

namespace TextVectors.Sparse

/-! Merged windows are one long sequence.

The tokens of a batch of windows, one window after the other, are the tokens of the one row that
holds them all.  Reducing them in one go or window by window gives the same largest values.
-/

open Binary32

variable {α : Type} {slots : List Float32} {slot logit : Float32}
variable {tokens : List (List Float32 × Int)} {width : Nat}

/-- What a logit has to say about the largest value; it may say nothing. -/
def contribution (logActivation : Bool) (logit : Float32) : Option Float32 :=
  if logActivation then
    if logit ≤ zero then none else some (logOnePlus logit)
  else some logit

theorem raiseSlot_eq (logActivation : Bool) (slot logit : Float32) :
    raiseSlot logActivation slot logit =
      match contribution logActivation logit with
      | none => slot
      | some value => larger slot value := by
  unfold raiseSlot contribution
  cases logActivation with
  | false => rfl
  | true =>
      by_cases nothing : logit ≤ zero
      · simp [nothing]
      · simp [nothing, larger]

theorem raiseSlot_nonnegative (nonnegative : zero ≤ slot) (logActivation : Bool)
    (logit : Float32) : zero ≤ raiseSlot logActivation slot logit := by
  rw [raiseSlot_eq]
  split
  · exact nonnegative
  · exact larger_nonnegative nonnegative

/-- A slot is raised as far as an empty one would be. -/
theorem raiseSlot_eq_larger (nonnegative : zero ≤ slot) (logActivation : Bool) (logit : Float32) :
    raiseSlot logActivation slot logit = larger slot (raiseSlot logActivation zero logit) := by
  rw [raiseSlot_eq, raiseSlot_eq]
  split
  · exact (larger_zero nonnegative).symm
  · rw [← larger_assoc nonnegative zero_le_zero, larger_zero nonnegative]

theorem larger_raiseSlot (nonnegative : zero ≤ slot) (logActivation : Bool)
    (logit later : Float32) :
    larger (raiseSlot logActivation slot logit) later =
      larger slot (larger (raiseSlot logActivation zero logit) later) := by
  rw [raiseSlot_eq_larger nonnegative]
  exact larger_assoc nonnegative (raiseSlot_nonnegative zero_le_zero logActivation logit)

section Tokens

theorem reduceTokens_append (logActivation : Bool) (slots : List Float32)
    (first second : List (List Float32 × Int)) :
    reduceTokens logActivation slots (first ++ second) =
      reduceTokens logActivation (reduceTokens logActivation slots first) second := by
  induction first generalizing slots with
  | nil => rfl
  | cons token rest ih =>
      obtain ⟨logits, mask⟩ := token
      rw [List.cons_append, reduceTokens, reduceTokens]
      split
      · exact ih _
      · exact ih _

theorem length_reduceTokens (wide : ∀ token ∈ tokens, token.1.length = slots.length)
    (logActivation : Bool) :
    (reduceTokens logActivation slots tokens).length = slots.length := by
  induction tokens generalizing slots with
  | nil => rfl
  | cons token rest ih =>
      obtain ⟨logits, mask⟩ := token
      have width : logits.length = slots.length := wide _ List.mem_cons_self
      have others : ∀ other ∈ rest, other.1.length = slots.length :=
        fun other member => wide other (List.mem_cons_of_mem _ member)
      have kept : (List.zipWith (raiseSlot logActivation) slots logits).length = slots.length := by
        rw [List.length_zipWith, width, Nat.min_self]
      rw [reduceTokens]
      split
      · exact ih others
      · rw [ih fun other member => (others other member).trans kept.symm, kept]

theorem empty_nonnegative (width : Nat) : ∀ slot ∈ List.replicate width zero, zero ≤ slot :=
  fun _ member => (List.eq_of_mem_replicate member) ▸ zero_le_zero

theorem zipWith_raiseSlot_nonnegative (nonnegative : ∀ slot ∈ slots, zero ≤ slot)
    (logActivation : Bool) (logits : List Float32) :
    ∀ slot ∈ List.zipWith (raiseSlot logActivation) slots logits, zero ≤ slot := by
  intro value member
  rw [← List.map_uncurry_zip_eq_zipWith] at member
  obtain ⟨⟨slot, logit⟩, inBoth, rfl⟩ := List.mem_map.mp member
  exact raiseSlot_nonnegative (nonnegative slot (List.of_mem_zip inBoth).1) _ _

theorem reduceTokens_nonnegative (nonnegative : ∀ slot ∈ slots, zero ≤ slot)
    (logActivation : Bool) : ∀ slot ∈ reduceTokens logActivation slots tokens, zero ≤ slot := by
  induction tokens generalizing slots with
  | nil => exact nonnegative
  | cons token rest ih =>
      obtain ⟨logits, mask⟩ := token
      rw [reduceTokens]
      split
      · exact ih nonnegative
      · exact ih (zipWith_raiseSlot_nonnegative nonnegative logActivation logits)

/-- Tokens raise the slots as far as they would raise empty ones. -/
theorem reduceTokens_eq_larger (nonnegative : ∀ slot ∈ slots, zero ≤ slot)
    (wide : ∀ token ∈ tokens, token.1.length = slots.length) (logActivation : Bool) :
    reduceTokens logActivation slots tokens =
      List.zipWith larger slots
        (reduceTokens logActivation (List.replicate slots.length zero) tokens) := by
  induction tokens generalizing slots with
  | nil =>
      apply List.ext_getElem
      · simp [reduceTokens]
      · intro index within _
        simp only [reduceTokens, List.getElem_zipWith, List.getElem_replicate]
        exact (larger_zero (nonnegative _ (List.getElem_mem within))).symm
  | cons token rest ih =>
      obtain ⟨logits, mask⟩ := token
      have width : logits.length = slots.length := wide _ List.mem_cons_self
      have others : ∀ other ∈ rest, other.1.length = slots.length :=
        fun other member => wide other (List.mem_cons_of_mem _ member)
      rw [reduceTokens, reduceTokens]
      split
      · exact ih nonnegative others
      · -- The same token raises the given slots and the empty ones, so it counts twice without
        -- changing the larger value.
        have raised (former : List Float32) (same : former.length = slots.length)
            (nonnegative : ∀ slot ∈ former, zero ≤ slot) :
            reduceTokens logActivation (List.zipWith (raiseSlot logActivation) former logits) rest =
              List.zipWith larger (List.zipWith (raiseSlot logActivation) former logits)
                (reduceTokens logActivation (List.replicate slots.length zero) rest) := by
          have kept : (List.zipWith (raiseSlot logActivation) former logits).length =
              slots.length := by
            rw [List.length_zipWith, width, same, Nat.min_self]
          rw [ih, kept]
          · exact zipWith_raiseSlot_nonnegative nonnegative logActivation logits
          · exact fun other member => (others other member).trans kept.symm
        rw [raised slots rfl nonnegative,
          raised _ List.length_replicate (empty_nonnegative slots.length)]
        have reduced : (reduceTokens logActivation (List.replicate slots.length zero) rest).length =
            slots.length := by
          rw [length_reduceTokens, List.length_replicate]
          rwa [List.length_replicate]
        apply List.ext_getElem
        · simp [width, reduced]
        · intro index within _
          have inSlots : index < slots.length := by
            simp [width, reduced] at within
            exact within
          simp [larger_raiseSlot (nonnegative _ (List.getElem_mem inSlots))]

/-- Windows reduced one by one give the values of all their tokens in one go. -/
theorem foldl_reduceTokens {windows : List (List (List Float32 × Int))}
    (nonnegative : ∀ slot ∈ slots, zero ≤ slot)
    (wide : ∀ tokens ∈ windows, ∀ token ∈ tokens, token.1.length = slots.length)
    (logActivation : Bool) :
    (windows.map (reduceTokens logActivation (List.replicate slots.length zero))).foldl
        (List.zipWith larger) slots =
      reduceTokens logActivation slots windows.flatten := by
  induction windows generalizing slots with
  | nil => rfl
  | cons tokens rest ih =>
      have first := wide tokens List.mem_cons_self
      have reduced := reduceTokens_eq_larger nonnegative first logActivation
      have kept := length_reduceTokens first logActivation
      rw [List.map_cons, List.foldl_cons, ← reduced, List.flatten_cons, reduceTokens_append]
      have later : ∀ others ∈ rest, ∀ token ∈ others,
          token.1.length = (reduceTokens logActivation slots tokens).length := by
        rw [kept]
        exact fun others member => wide others (List.mem_cons_of_mem _ member)
      rw [← ih (reduceTokens_nonnegative nonnegative logActivation) later, kept]

end Tokens

section Chunks

variable {entries : List α} {size count : Nat}

theorem chunks_add (size first second : Nat) (entries : List α) :
    Pooling.chunks size (first + second) entries =
      Pooling.chunks size first (entries.take (first * size)) ++
        Pooling.chunks size second (entries.drop (first * size)) := by
  induction first generalizing entries with
  | zero => simp [Pooling.chunks]
  | succ first ih =>
      have split : (first + 1) * size = size + first * size := by
        rw [Nat.succ_mul, Nat.add_comm]
      rw [Nat.add_right_comm, Pooling.chunks, Pooling.chunks, ih, split, List.cons_append,
        List.drop_drop, List.drop_take, List.take_take]
      simp

theorem chunks_length (size count : Nat) (entries : List α) :
    (Pooling.chunks size count entries).length = count := by
  induction count generalizing entries with
  | zero => rfl
  | succ count ih => rw [Pooling.chunks, List.length_cons, ih]

theorem length_of_mem_chunks {chunk : List α} (whole : entries.length = count * size)
    (member : chunk ∈ Pooling.chunks size count entries) : chunk.length = size := by
  induction count generalizing entries with
  | zero => cases member
  | succ count ih =>
      rw [Nat.succ_mul] at whole
      rcases List.mem_cons.mp member with rfl | later
      · rw [List.length_take]
        omega
      · refine ih ?_ later
        rw [List.length_drop]
        omega

theorem getElem?_chunks {index : Nat} (inside : index < count) (entries : List α) :
    (Pooling.chunks size count entries)[index]? =
      some ((entries.drop (index * size)).take size) := by
  induction count generalizing index entries with
  | zero => omega
  | succ count ih =>
      cases index with
      | zero => simp [Pooling.chunks]
      | succ index =>
          rw [Pooling.chunks, List.getElem?_cons_succ, ih (by omega), List.drop_drop,
            Nat.add_one_mul, Nat.add_comm size]

/-- The tokens of a row with their masks. -/
def rowTokens (sequenceLength vocabulary : Nat) (logits : List Float32) (mask : List Int) :
    List (List Float32 × Int) :=
  (Pooling.chunks vocabulary sequenceLength logits).zip mask

theorem chunks_one (short : entries.length ≤ size) : Pooling.chunks size 1 entries = [entries] := by
  rw [Pooling.chunks, Pooling.chunks, List.take_of_length_le short]

theorem rowTokens_wide {sequenceLength vocabulary batch : Nat} {output : List Float32}
    {mask : List Int} (filled : output.length = batch * (sequenceLength * vocabulary)) :
    ∀ tokens ∈ List.zipWith (rowTokens sequenceLength vocabulary)
        (Pooling.chunks (sequenceLength * vocabulary) batch output)
        (Pooling.chunks sequenceLength batch mask),
      ∀ token ∈ tokens, token.1.length = vocabulary := by
  intro tokens member token inside
  rw [← List.map_uncurry_zip_eq_zipWith] at member
  obtain ⟨⟨logits, masks⟩, inBoth, rfl⟩ := List.mem_map.mp member
  exact length_of_mem_chunks (length_of_mem_chunks filled (List.of_mem_zip inBoth).1)
    (List.of_mem_zip inside).1

/-- The tokens of all rows are those of the one row as long as all of them. -/
theorem flatten_rowTokens {sequenceLength vocabulary batch : Nat} {output : List Float32}
    {mask : List Int} (masked : mask.length = batch * sequenceLength) :
    (List.zipWith (rowTokens sequenceLength vocabulary)
        (Pooling.chunks (sequenceLength * vocabulary) batch output)
        (Pooling.chunks sequenceLength batch mask)).flatten =
      rowTokens (batch * sequenceLength) vocabulary output mask := by
  induction batch generalizing output mask with
  | zero =>
      rw [Nat.zero_mul, List.length_eq_zero_iff] at masked
      simp [Pooling.chunks, rowTokens, masked]
  | succ batch ih =>
      rw [Nat.succ_mul] at masked
      have rest : (mask.drop sequenceLength).length = batch * sequenceLength := by
        rw [List.length_drop]
        omega
      have first : (mask.take sequenceLength).length = sequenceLength := by
        rw [List.length_take]
        omega
      rw [Pooling.chunks, Pooling.chunks, List.zipWith_cons_cons, List.flatten_cons, ih rest]
      rw [rowTokens, rowTokens, rowTokens, Nat.succ_mul, Nat.add_comm, chunks_add,
        ← List.zip_append, List.take_append_drop]
      rw [chunks_length, first]

end Chunks

section Sparsify

/-- A count of positive sizes stays in range on the way if it is in range in the end. -/
theorem elementCount_go {sizes : List Nat} (positive : ∀ size ∈ sizes, 0 < size) (count : Nat)
    (fits : count * sizes.prod < wordLimit) (all : List Nat) :
    elementCount.go all count sizes = .ok (count * sizes.prod) := by
  induction sizes generalizing count with
  | nil => simp [elementCount.go]
  | cons size rest ih =>
      have positiveRest : ∀ other ∈ rest, 0 < other :=
        fun other member => positive other (List.mem_cons_of_mem _ member)
      rw [List.prod_cons, ← Nat.mul_assoc] at fits
      have atMost : count * size ≤ count * size * rest.prod :=
        Nat.le_mul_of_pos_right _ (List.prod_pos_iff_forall_pos_nat.mpr positiveRest)
      rw [elementCount.go, if_pos (Nat.lt_of_le_of_lt atMost fits), ih positiveRest _ fits,
        List.prod_cons, Nat.mul_assoc]

theorem elementCount_eq {sizes : List Nat} (positive : ∀ size ∈ sizes, 0 < size)
    (fits : sizes.prod < wordLimit) : elementCount sizes = .ok sizes.prod := by
  have counted := elementCount_go positive 1 (by rwa [Nat.one_mul]) sizes
  rwa [Nat.one_mul] at counted

/-- The sizes whose product is the length of the output. -/
def outputSizes (layout : OutputLayout) (batch sequenceLength vocabulary : Nat) : List Nat :=
  match layout with
  | .tokenLogits => [batch, sequenceLength, vocabulary]
  | .documentLogits => [batch, vocabulary]

variable {params : SparsifyParams} {output : List Float32} {mask : List Int}
variable {batch sequenceLength vocabulary : Nat}

theorem check_iff {outputLength maskLength : Nat} :
    check params outputLength maskLength batch sequenceLength vocabulary = .ok () ↔
      params.threshold ≥ zero ∧ 0 < batch ∧ 0 < sequenceLength ∧ 0 < vocabulary ∧
        elementCount [batch, sequenceLength] = .ok maskLength ∧
        elementCount (outputSizes params.layout batch sequenceLength vocabulary) =
          .ok outputLength := by
  constructor
  · intro passed
    obtain ⟨someRows, passed⟩ := ok_of_guard passed
    obtain ⟨someTokens, passed⟩ := ok_of_guard passed
    obtain ⟨someEntries, passed⟩ := ok_of_guard passed
    obtain ⟨_, pruned, passed⟩ := ok_of_bind passed
    obtain ⟨cells, counted, passed⟩ := ok_of_bind passed
    obtain ⟨masked, passed⟩ := ok_of_guard passed
    have usable : params.threshold ≥ zero := by
      unfold checkThreshold at pruned
      split at pruned
      · assumption
      · cases pruned
    refine ⟨usable, by omega, by omega, by omega, ?_, ?_⟩
    · rw [counted, not_not.mp masked]
    · cases layout : params.layout <;>
      · rw [layout] at passed
        obtain ⟨entries, counted, passed⟩ := ok_of_bind passed
        split at passed
        · cases passed
        · rename_i filled
          rw [outputSizes, counted, not_not.mp filled]
  · rintro ⟨usable, someRows, someTokens, someEntries, masked, filled⟩
    cases layout : params.layout <;>
      simp only [layout, outputSizes] at filled <;>
      simp [check, checkThreshold, usable, Nat.ne_of_gt someRows, Nat.ne_of_gt someTokens,
        Nat.ne_of_gt someEntries, masked, filled, layout, bind, Except.bind] <;>
      rfl

/-- Token logits whose lengths fit become one vector for each row. -/
theorem sparsify_eq (params : SparsifyParams) (layout : params.layout = .tokenLogits)
    (usable : params.threshold ≥ zero) (someRows : 0 < batch) (someTokens : 0 < sequenceLength)
    (someEntries : 0 < vocabulary)
    (filled : output.length = batch * sequenceLength * vocabulary)
    (masked : mask.length = batch * sequenceLength) (fits : output.length < wordLimit) :
    sparsify params output mask batch sequenceLength vocabulary =
      .ok ((List.zipWith (rowTokens sequenceLength vocabulary)
          (Pooling.chunks (sequenceLength * vocabulary) batch output)
          (Pooling.chunks sequenceLength batch mask)).map fun tokens =>
        ofDense (reduceTokens params.logActivation (List.replicate vocabulary zero) tokens)
          params.threshold params.topK) := by
  have cells : elementCount [batch, sequenceLength] = .ok (batch * sequenceLength) := by
    rw [elementCount_eq]
    · simp
    · simp [someRows, someTokens]
    · rw [filled] at fits
      have atMost := Nat.le_mul_of_pos_right (batch * sequenceLength) someEntries
      simp
      omega
  have entries : elementCount [batch, sequenceLength, vocabulary] =
      .ok (batch * sequenceLength * vocabulary) := by
    rw [elementCount_eq]
    · simp [Nat.mul_assoc]
    · simp [someRows, someTokens, someEntries]
    · rw [filled, Nat.mul_assoc] at fits
      simpa using fits
  have checked : check params output.length mask.length batch sequenceLength vocabulary =
      .ok () := by
    rw [check_iff, layout, masked, filled]
    exact ⟨usable, someRows, someTokens, someEntries, cells, entries⟩
  rw [sparsify, checked, layout, List.map_zipWith]
  rfl

/-- Windows that keep every positive value, merged and cut once, are the vector of the one row
that is as long as all of them. -/
theorem mergeWindows_sparsify {threshold : Float32} (topK : Nat) (logActivation : Bool)
    (someWindows : 0 < batch) (someTokens : 0 < sequenceLength) (someEntries : 0 < vocabulary)
    (filled : output.length = batch * sequenceLength * vocabulary)
    (masked : mask.length = batch * sequenceLength) (fits : output.length < wordLimit)
    (usable : threshold ≥ zero) :
    ∃ windows vector,
      sparsify { layout := .tokenLogits, threshold := zero, topK := 0, logActivation } output mask
        batch sequenceLength vocabulary = .ok windows ∧
      mergeWindows windows threshold topK = .ok vector ∧
      sparsify { layout := .tokenLogits, threshold, topK, logActivation } output mask
        1 (batch * sequenceLength) vocabulary = .ok [vector] := by
  have windows := sparsify_eq ⟨.tokenLogits, zero, 0, logActivation⟩ rfl zero_le_zero
    someWindows someTokens someEntries filled masked fits
  have row := sparsify_eq ⟨.tokenLogits, threshold, topK, logActivation⟩ rfl usable
    Nat.one_pos (Nat.mul_pos someWindows someTokens) someEntries
    (by rw [Nat.one_mul]; exact filled) (by rw [Nat.one_mul]; exact masked) fits
  rw [chunks_one (Nat.le_of_eq filled), chunks_one (Nat.le_of_eq masked)] at row
  refine ⟨_, _, windows, ?_, row⟩
  have wide : ∀ tokens ∈ List.zipWith (rowTokens sequenceLength vocabulary)
      (Pooling.chunks (sequenceLength * vocabulary) batch output)
      (Pooling.chunks sequenceLength batch mask),
      ∀ token ∈ tokens, token.1.length = (List.replicate vocabulary zero).length := by
    rw [List.length_replicate]
    exact rowTokens_wide (by rw [filled, Nat.mul_assoc])
  have wideReduced : ∀ dense ∈ (List.zipWith (rowTokens sequenceLength vocabulary)
      (Pooling.chunks (sequenceLength * vocabulary) batch output)
      (Pooling.chunks sequenceLength batch mask)).map
        (reduceTokens logActivation (List.replicate vocabulary zero)),
      dense.length = vocabulary := by
    intro dense member
    obtain ⟨tokens, listed, rfl⟩ := List.mem_map.mp member
    rw [length_reduceTokens (wide tokens listed), List.length_replicate]
  have merged := mergeWindows_ofDense wideReduced usable topK
  have reduced := foldl_reduceTokens (empty_nonnegative vocabulary) wide logActivation
  rw [List.length_replicate] at reduced
  rw [reduced, flatten_rowTokens masked, List.map_map] at merged
  exact merged

/-- Two windows of one token each, with a logit that is no number. -/
theorem two_windows_merged :
    let output := [0x3f800000, 0x7fc00000, 0x3f000000, 0x40000000].map Float32.ofBits
    let threshold := Float32.ofBits 0x3e800000
    threshold ≥ zero ∧ ∃ windows vector,
      sparsify { layout := .tokenLogits, threshold := zero, topK := 0, logActivation := true }
        output [1, -1] 2 1 2 = .ok windows ∧
      mergeWindows windows threshold 1 = .ok vector ∧
      sparsify { layout := .tokenLogits, threshold, topK := 1, logActivation := true } output
        [1, -1] 1 (2 * 1) 2 = .ok [vector] := by
  intro output threshold
  have usable : threshold ≥ zero := by decide
  exact ⟨usable, mergeWindows_sparsify 1 true (by decide) (by decide) (by decide) rfl rfl
    (by decide) usable⟩

end Sparsify

end TextVectors.Sparse
