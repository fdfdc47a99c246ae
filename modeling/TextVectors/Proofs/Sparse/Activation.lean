import TextVectors.Proofs.Embedding.Buffers
import TextVectors.Proofs.Sparse.Maxima
import TextVectors.Proofs.Sparse.SingleRow

namespace TextVectors.Sparse

/-! What sparse vectors are selected from: the greatest activations of what the mask lets through.

Both layouts transform logits by the same function, though they are written differently; nothing
that the mask hides is looked at.
-/

open Binary32

variable {params : SparsifyParams} {output : List Float32} {mask : List Int}
variable {batch sequenceLength vocabulary row entry : Nat} {vectors : List SparseVector}
variable {slots dense other : List Float32} {slot threshold : Float32}
variable {tokens : List (List Float32 × Int)}

/-- The activation of a logit.  With the logarithm, what is not positive counts as zero. -/
def activation (logActivation : Bool) (logit : Float32) : Float32 :=
  if logActivation then if logit > zero then logOnePlus logit else zero else logit

theorem logOnePlus_of_isNaN {x : Float32} (noNumber : x.isNaN = true) : logOnePlus x = x := by
  have below : ¬ x ≥ tinyLimit := fun reached =>
    absurd (isNaN_iff.mp noNumber) (ne_bot_of_le_ne_bot (by decide) (le_iff.mp reached).2)
  exact if_neg below

theorem raiseSlot_activation (nonnegative : zero ≤ slot) (logActivation : Bool)
    (logit : Float32) :
    raiseSlot logActivation slot logit = larger slot (activation logActivation logit) := by
  cases logActivation with
  | false => rfl
  | true =>
      by_cases positive : logit > zero
      · have above : ¬ logit ≤ zero := by
          rw [gt_iff_lt, lt_iff] at positive
          rw [le_iff]
          exact fun reached => absurd reached.2 positive.2.not_ge
        simp [raiseSlot, activation, positive, above, larger]
      · by_cases reached : logit ≤ zero
        · simp [raiseSlot, activation, positive, reached, larger_zero nonnegative]
        · -- Neither holds of what is no number, and its logarithm is none either.
          have noNumber : logit.isNaN = true := by
            rw [isNaN_iff]
            by_contra number
            exact reached (le_of_not_lt (by decide) number positive)
          have below : ¬ slot < logit := by
            simp [lt_iff, isNaN_iff.mp noNumber]
          simp [raiseSlot, activation, positive, reached, logOnePlus_of_isNaN noNumber, below,
            larger_zero nonnegative]

/-- The activations of the tokens that count, for one entry of the vocabulary. -/
def activationsOf (logActivation : Bool) (tokens : List (List Float32 × Int)) (entry : Nat) :
    List Float32 :=
  tokens.filterMap fun token =>
    if token.2 = 0 then none else token.1[entry]?.map (activation logActivation)

theorem getElem?_reduceTokens (nonnegative : ∀ slot ∈ slots, zero ≤ slot)
    (wide : ∀ token ∈ tokens, token.1.length = slots.length) (logActivation : Bool) (entry : Nat) :
    (reduceTokens logActivation slots tokens)[entry]? =
      slots[entry]?.map ((activationsOf logActivation tokens entry).foldl larger) := by
  induction tokens generalizing slots with
  | nil => simp [reduceTokens, activationsOf]
  | cons token rest ih =>
      obtain ⟨logits, weight⟩ := token
      have width : logits.length = slots.length := wide _ List.mem_cons_self
      have others : ∀ other ∈ rest, other.1.length = slots.length :=
        fun other member => wide other (List.mem_cons_of_mem _ member)
      rw [reduceTokens]
      split
      · rename_i hidden
        simp [activationsOf, hidden, ih nonnegative others]
      · rename_i shown
        have kept : (List.zipWith (raiseSlot logActivation) slots logits).length =
            slots.length := by
          rw [List.length_zipWith, width, Nat.min_self]
        -- The rest goes on from the raised slots, which are as many and not negative either.
        rw [ih (zipWith_raiseSlot_nonnegative nonnegative logActivation logits)
          fun other member => (others other member).trans kept.symm]
        by_cases within : entry < slots.length
        · have withinToo : entry < logits.length := width ▸ within
          have raised := raiseSlot_activation (nonnegative _ (List.getElem_mem within))
            logActivation logits[entry]
          simp [activationsOf, shown, within, withinToo, raised]
        · have beyond : slots.length ≤ entry := by omega
          simp [beyond]

/-- A token of a row is let through by the mask. -/
def Shown (sequenceLength : Nat) (mask : List Int) (row position : Nat) : Prop :=
  ∃ weight, mask[row * sequenceLength + position]? = some weight ∧ weight ≠ 0

instance (sequenceLength : Nat) (mask : List Int) (row position : Nat) :
    Decidable (Shown sequenceLength mask row position) :=
  decidable_of_iff (mask[row * sequenceLength + position]?.any (· ≠ 0) = true) <| by
    simp [Shown, Option.any_eq_true]

def logitAt? (sequenceLength vocabulary : Nat) (output : List Float32)
    (row position entry : Nat) : Option Float32 :=
  output[(row * sequenceLength + position) * vocabulary + entry]?

/-- The activations that a row has for an entry of the vocabulary, next to zero. -/
def activations (logActivation : Bool) (sequenceLength vocabulary : Nat) (output : List Float32)
    (mask : List Int) (row entry : Nat) : Set Float32 :=
  {value | value = zero ∨ value.isNaN = false ∧ ∃ position < sequenceLength,
    Shown sequenceLength mask row position ∧ ∃ logit,
      logitAt? sequenceLength vocabulary output row position entry = some logit ∧
      activation logActivation logit = value}

/-- Dense values that are the greatest activations of a row. -/
structure RowMaxima (logActivation : Bool) (sequenceLength vocabulary : Nat)
    (output : List Float32) (mask : List Int) (row : Nat) (dense : List Float32) : Prop where
  length : dense.length = vocabulary
  greatest : ∀ entry value, dense[entry]? = some value →
    IsGreatest (activations logActivation sequenceLength vocabulary output mask row entry) value

section Rows

/-- The tokens of a row among those of all rows. -/
def tokensAt (sequenceLength vocabulary : Nat) (output : List Float32) (mask : List Int)
    (row : Nat) : List (List Float32 × Int) :=
  rowTokens sequenceLength vocabulary
    ((output.drop (row * (sequenceLength * vocabulary))).take (sequenceLength * vocabulary))
    ((mask.drop (row * sequenceLength)).take sequenceLength)

theorem getElem?_tokensAt {position : Nat} (inside : position < sequenceLength) :
    (Pooling.chunks vocabulary sequenceLength
      ((output.drop (row * (sequenceLength * vocabulary))).take
        (sequenceLength * vocabulary)))[position]? =
      some ((output.drop ((row * sequenceLength + position) * vocabulary)).take vocabulary) := by
  have whole : (position + 1) * vocabulary ≤ sequenceLength * vocabulary :=
    Nat.mul_le_mul_right vocabulary inside
  rw [Nat.add_one_mul] at whole
  rw [getElem?_chunks inside, List.drop_take, List.drop_drop, List.take_take,
    Nat.min_eq_left (by omega), Nat.add_mul, Nat.mul_assoc]

theorem mem_tokensAt {token : List Float32 × Int} :
    token ∈ tokensAt sequenceLength vocabulary output mask row ↔
      ∃ position < sequenceLength,
        token.1 = (output.drop ((row * sequenceLength + position) * vocabulary)).take vocabulary ∧
        mask[row * sequenceLength + position]? = some token.2 := by
  rw [tokensAt, rowTokens, List.mem_iff_getElem?]
  constructor
  · rintro ⟨position, found⟩
    obtain ⟨logits, weight⟩ := List.getElem?_zip_eq_some.mp found
    rw [List.getElem?_take] at weight
    split at weight
    · rename_i inside
      rw [getElem?_tokensAt inside] at logits
      rw [List.getElem?_drop] at weight
      exact ⟨position, inside, (Option.some.inj logits).symm, weight⟩
    · cases weight
  · rintro ⟨position, inside, logits, weight⟩
    refine ⟨position, List.getElem?_zip_eq_some.mpr ⟨?_, ?_⟩⟩
    · rw [getElem?_tokensAt inside, logits]
    · rw [List.getElem?_take, if_pos inside, List.getElem?_drop, weight]

theorem activations_eq (within : entry < vocabulary) (logActivation : Bool) :
    activations logActivation sequenceLength vocabulary output mask row entry =
      {zero} ∪ numbersOf (activationsOf logActivation
        (tokensAt sequenceLength vocabulary output mask row) entry) := by
  have logit (start : Nat) :
      ((output.drop start).take vocabulary)[entry]? = output[start + entry]? := by
    rw [List.getElem?_take, if_pos within, List.getElem?_drop]
  ext value
  simp only [activations, numbersOf, activationsOf, Set.mem_ofPred_eq, Set.mem_union,
    Set.mem_singleton_iff, List.mem_filterMap, mem_tokensAt, Shown, logitAt?]
  constructor
  · rintro (same | ⟨number, position, inside, ⟨weight, found, shown⟩, x, held, computed⟩)
    · exact .inl same
    · refine .inr ⟨⟨(_, weight), ⟨position, inside, rfl, found⟩, ?_⟩, number⟩
      rw [if_neg shown, logit, held, Option.map_some, computed]
  · rintro (same | ⟨⟨⟨logits, weight⟩, ⟨position, inside, rfl, found⟩, computed⟩, number⟩)
    · exact .inl same
    · split at computed
      · cases computed
      · rename_i shown
        rw [logit, Option.map_eq_some_iff] at computed
        obtain ⟨x, held, computed⟩ := computed
        exact .inr ⟨number, position, inside, ⟨weight, found, shown⟩, x, held, computed⟩

theorem reduceTokens_maxima (filled : (row + 1) * (sequenceLength * vocabulary) ≤ output.length)
    (logActivation : Bool) :
    RowMaxima logActivation sequenceLength vocabulary output mask row
      (reduceTokens logActivation (List.replicate vocabulary zero)
        (tokensAt sequenceLength vocabulary output mask row)) := by
  have wide : ∀ token ∈ tokensAt sequenceLength vocabulary output mask row,
      token.1.length = (List.replicate vocabulary zero).length := by
    intro token member
    rw [List.length_replicate]
    refine length_of_mem_chunks ?_ (List.of_mem_zip member).1
    rw [List.length_take, List.length_drop]
    rw [Nat.add_one_mul] at filled
    omega
  constructor
  case length => rw [length_reduceTokens wide, List.length_replicate]
  case greatest =>
    intro entry value found
    rw [getElem?_reduceTokens (empty_nonnegative vocabulary) wide, List.getElem?_replicate] at found
    split at found
    · rename_i within
      have alone : IsGreatest {zero} zero := by
        refine ⟨rfl, ?_⟩
        rintro _ rfl
        exact zero_le_zero
      cases found
      rw [activations_eq within]
      exact greatest_foldl_larger alone _
    · cases found

end Rows

section Selection

/-- Whatever the greatest activations are listed as, the same is selected from them. -/
theorem RowMaxima.ofDense_eq {logActivation : Bool} (usable : threshold ≥ zero)
    (first : RowMaxima logActivation sequenceLength vocabulary output mask row dense)
    (second : RowMaxima logActivation sequenceLength vocabulary output mask row other)
    (topK : Nat) : ofDense dense threshold topK = ofDense other threshold topK := by
  refine ofDense_congr (fun index => ?_) topK
  by_cases within : index < vocabulary
  · have inside : index < dense.length := first.length.symm ▸ within
    have insideToo : index < other.length := second.length.symm ▸ within
    rw [List.getElem?_eq_getElem inside, List.getElem?_eq_getElem insideToo]
    have top : IsTop _ (some dense[index]) := first.greatest index _ (List.getElem?_eq_getElem inside)
    exact top.filter_eq usable (second.greatest index _ (List.getElem?_eq_getElem insideToo))
  · have beyond : dense.length ≤ index := by rw [first.length]; omega
    have beyondToo : other.length ≤ index := by rw [second.length]; omega
    rw [List.getElem?_eq_none beyond, List.getElem?_eq_none beyondToo]

/-- The activation of a document's logit keeps what is no number, a token's does not. -/
theorem raiseSlot_zero (logActivation : Bool) (logit : Float32) :
    raiseSlot logActivation zero logit = larger zero (activate logActivation logit) := by
  cases logActivation with
  | false => rfl
  | true =>
      by_cases nothing : logit ≤ zero
      · simp [raiseSlot, activate, nothing, larger_zero zero_le_zero]
      · simp [raiseSlot, activate, nothing, larger]

theorem filter_activate (usable : threshold ≥ zero) (logActivation : Bool) (logit : Float32) :
    (some (activate logActivation logit)).filter (· > threshold) =
      (some (activation logActivation logit)).filter (· > threshold) := by
  rw [← filter_larger_zero usable, ← raiseSlot_zero, raiseSlot_activation zero_le_zero,
    filter_larger_zero usable]

theorem documentRow_eq (usable : params.threshold ≥ zero) (logits : List Float32) :
    documentRow params logits =
      ofDense (logits.map (activation params.logActivation)) params.threshold params.topK := by
  refine ofDense_congr (fun index => ?_) _
  rw [List.getElem?_map, List.getElem?_map]
  cases logits[index]? with
  | none => rfl
  | some logit => exact filter_activate usable _ logit

/-- A row of one token that is let through is as good as a document's. -/
theorem tokenRow_one {weight : Int} (usable : params.threshold ≥ zero) (shown : weight ≠ 0)
    {logits : List Float32} (wide : logits.length = vocabulary) :
    tokenRow params 1 vocabulary logits [weight] = documentRow params logits := by
  have reduced : reduceTokens params.logActivation (List.replicate vocabulary zero)
      [(logits, weight)] = logits.map (raiseSlot params.logActivation zero) := by
    rw [reduceTokens, if_neg shown, reduceTokens]
    apply List.ext_getElem
    · simp [wide]
    · simp
  rw [tokenRow, chunks_one wide.le]
  simp only [List.zip_cons_cons, List.zip_nil_right, reduced]
  refine ofDense_congr (fun index => ?_) _
  rw [List.getElem?_map, List.getElem?_map]
  cases logits[index]? with
  | none => rfl
  | some logit =>
      rw [Option.map_some, Option.map_some, raiseSlot_zero, filter_larger_zero usable]

end Selection

section Accepted

theorem check_of_sparsify
    (accepted : sparsify params output mask batch sequenceLength vocabulary = .ok vectors) :
    check params output.length mask.length batch sequenceLength vocabulary = .ok () := by
  obtain ⟨_, passed, -⟩ := ok_of_bind accepted
  exact passed

theorem getElem?_sparsify
    (accepted : sparsify params output mask batch sequenceLength vocabulary = .ok vectors)
    (inside : row < batch) :
    vectors[row]? = some (match params.layout with
      | .tokenLogits => tokenRow params sequenceLength vocabulary
          ((output.drop (row * (sequenceLength * vocabulary))).take (sequenceLength * vocabulary))
          ((mask.drop (row * sequenceLength)).take sequenceLength)
      | .documentLogits => documentRow params ((output.drop (row * vocabulary)).take vocabulary)) := by
  obtain ⟨_, -, accepted⟩ := ok_of_bind accepted
  cases layout : params.layout with
  | tokenLogits =>
      rw [layout] at accepted
      cases accepted
      rw [List.getElem?_zipWith, getElem?_chunks inside, getElem?_chunks inside]
  | documentLogits =>
      rw [layout] at accepted
      cases accepted
      rw [List.getElem?_map, getElem?_chunks inside, Option.map_some]

theorem length_sparsify
    (accepted : sparsify params output mask batch sequenceLength vocabulary = .ok vectors) :
    vectors.length = batch := by
  obtain ⟨_, -, accepted⟩ := ok_of_bind accepted
  cases layout : params.layout <;> rw [layout] at accepted <;> cases accepted
  · rw [List.length_zipWith, chunks_length, chunks_length, Nat.min_self]
  · rw [List.length_map, chunks_length]

theorem sparsify_maxima (layout : params.layout = .tokenLogits)
    (accepted : sparsify params output mask batch sequenceLength vocabulary = .ok vectors)
    (inside : row < batch) :
    (∃ dense, RowMaxima params.logActivation sequenceLength vocabulary output mask row dense) ∧
      ∀ dense, RowMaxima params.logActivation sequenceLength vocabulary output mask row dense →
        vectors[row]? = some (ofDense dense params.threshold params.topK) := by
  obtain ⟨usable, -, -, -, -, filled⟩ := check_iff.mp (check_of_sparsify accepted)
  have whole : output.length = batch * (sequenceLength * vocabulary) := by
    rw [layout] at filled
    simpa [outputSizes] using TokenBuffers.elementCount_prod filled
  have reached : (row + 1) * (sequenceLength * vocabulary) ≤ output.length :=
    whole ▸ Nat.mul_le_mul_right _ inside
  have reduced : RowMaxima params.logActivation sequenceLength vocabulary output mask row _ :=
    reduceTokens_maxima reached params.logActivation
  refine ⟨⟨_, reduced⟩, fun dense greatest => ?_⟩
  rw [getElem?_sparsify accepted inside, layout, greatest.ofDense_eq usable reduced]
  rfl

/-- Rows of another length show the same tokens.  What the mask hides may hold anything, and
hidden tokens may follow. -/
structure SameShown (batch vocabulary sequenceLength : Nat) (output : List Float32)
    (mask : List Int) (lengthToo : Nat) (outputToo : List Float32) (maskToo : List Int) : Prop where
  longer : sequenceLength ≤ lengthToo
  shown : ∀ row < batch, ∀ position < lengthToo,
    Shown lengthToo maskToo row position ↔
      position < sequenceLength ∧ Shown sequenceLength mask row position
  logits : ∀ row < batch, ∀ position < sequenceLength, Shown sequenceLength mask row position →
    ∀ entry < vocabulary,
      logitAt? lengthToo vocabulary outputToo row position entry =
        logitAt? sequenceLength vocabulary output row position entry

variable {lengthToo : Nat} {outputToo : List Float32} {maskToo : List Int}

theorem SameShown.activations_eq
    (same : SameShown batch vocabulary sequenceLength output mask lengthToo outputToo maskToo)
    (inside : row < batch) (within : entry < vocabulary) (logActivation : Bool) :
    activations logActivation lengthToo vocabulary outputToo maskToo row entry =
      activations logActivation sequenceLength vocabulary output mask row entry := by
  ext value
  simp only [activations, Set.mem_ofPred_eq]
  refine or_congr_right (and_congr_right fun _ => ⟨?_, ?_⟩)
  · rintro ⟨position, reached, shown, logit, held, computed⟩
    obtain ⟨reached, shown⟩ := (same.shown row inside position reached).mp shown
    rw [same.logits row inside position reached shown entry within] at held
    exact ⟨position, reached, shown, logit, held, computed⟩
  · rintro ⟨position, reached, shown, logit, held, computed⟩
    have reachedToo : position < lengthToo := reached.trans_le same.longer
    rw [← same.logits row inside position reached shown entry within] at held
    exact ⟨position, reachedToo, (same.shown row inside position reachedToo).mpr ⟨reached, shown⟩,
      logit, held, computed⟩

/-- What the mask hides is not looked at, however much of it there is. -/
theorem sparsify_sameShown (layout : params.layout = .tokenLogits)
    (accepted : sparsify params output mask batch sequenceLength vocabulary = .ok vectors)
    (same : SameShown batch vocabulary sequenceLength output mask lengthToo outputToo maskToo)
    (filled : outputToo.length = batch * lengthToo * vocabulary)
    (masked : maskToo.length = batch * lengthToo) (fits : outputToo.length < wordLimit) :
    sparsify params outputToo maskToo batch lengthToo vocabulary = .ok vectors := by
  obtain ⟨usable, someRows, someTokens, someEntries, -, -⟩ :=
    check_iff.mp (check_of_sparsify accepted)
  have acceptedToo := sparsify_eq params layout usable someRows (someTokens.trans_le same.longer)
    someEntries filled masked fits
  rw [acceptedToo]
  congr 1
  apply List.ext_getElem?'
  rw [length_sparsify accepted, length_sparsify acceptedToo, Nat.max_self]
  intro row inside
  -- The same dense values are greatest in both, so either row is selected from them.
  obtain ⟨⟨dense, greatest⟩, selected⟩ := sparsify_maxima layout accepted inside
  have greatestToo :
      RowMaxima params.logActivation lengthToo vocabulary outputToo maskToo row dense := by
    refine ⟨greatest.length, fun entry value found => ?_⟩
    have within : entry < vocabulary := greatest.length ▸ (List.getElem?_eq_some_iff.mp found).1
    rw [same.activations_eq inside within]
    exact greatest.greatest entry value found
  rw [selected dense greatest, (sparsify_maxima layout acceptedToo inside).2 dense greatestToo]

theorem sparsify_otherMask (layout : params.layout = .documentLogits)
    (accepted : sparsify params output mask batch sequenceLength vocabulary = .ok vectors)
    (masked : maskToo.length = mask.length) :
    sparsify params output maskToo batch sequenceLength vocabulary = .ok vectors := by
  rw [← accepted, sparsify, sparsify, layout, masked]

theorem outputSizes_one {count : Nat} {first second : OutputLayout}
    (counted : elementCount (outputSizes first batch 1 vocabulary) = .ok count) :
    elementCount (outputSizes second batch 1 vocabulary) = .ok count := by
  cases first <;> cases second <;>
    simp only [outputSizes, elementCount, elementCount.go, Nat.one_mul, Nat.mul_one] at counted ⊢ <;>
    split_ifs at counted ⊢ <;> simp_all

theorem getElem?_sparsify_one
    (accepted : sparsify params output mask batch 1 vocabulary = .ok vectors)
    (shown : ∀ weight ∈ mask, weight ≠ 0) (inside : row < batch) :
    vectors[row]? = some (documentRow params ((output.drop (row * vocabulary)).take vocabulary)) := by
  obtain ⟨usable, -, -, -, masked, filled⟩ := check_iff.mp (check_of_sparsify accepted)
  have cells : row < mask.length := by
    simpa [TokenBuffers.elementCount_prod masked] using inside
  rw [getElem?_sparsify accepted inside]
  cases layout : params.layout with
  | documentLogits => rfl
  | tokenLogits =>
      rw [layout] at filled
      have entries : output.length = batch * vocabulary := by
        simpa [outputSizes] using TokenBuffers.elementCount_prod filled
      have reached : (row + 1) * vocabulary ≤ output.length :=
        entries ▸ Nat.mul_le_mul_right vocabulary inside
      have wide : ((output.drop (row * vocabulary)).take vocabulary).length = vocabulary := by
        rw [List.length_take, List.length_drop]
        rw [Nat.add_one_mul] at reached
        omega
      have alone : (mask.drop row).take 1 = [mask[row]] := by
        rw [List.drop_eq_getElem_cons cells, List.take_succ_cons, List.take_zero]
      simp only [Nat.one_mul, Nat.mul_one, alone]
      rw [tokenRow_one usable (shown _ (List.getElem_mem cells)) wide]

/-- With one token in each row that is let through, the layout makes no difference. -/
theorem sparsify_layouts
    (accepted : sparsify params output mask batch 1 vocabulary = .ok vectors)
    (shown : ∀ weight ∈ mask, weight ≠ 0) (layout : OutputLayout) :
    sparsify { params with layout } output mask batch 1 vocabulary = .ok vectors := by
  obtain ⟨usable, someRows, someTokens, someEntries, masked, filled⟩ :=
    check_iff.mp (check_of_sparsify accepted)
  obtain ⟨others, acceptedToo⟩ :
      ∃ others, sparsify { params with layout } output mask batch 1 vocabulary = .ok others := by
    have passed : check { params with layout } output.length mask.length batch 1 vocabulary =
        .ok () := check_iff.mpr
      ⟨usable, someRows, someTokens, someEntries, masked, outputSizes_one filled⟩
    rw [sparsify, passed]
    cases layout <;> exact ⟨_, rfl⟩
  rw [acceptedToo]
  congr 1
  apply List.ext_getElem?'
  rw [length_sparsify accepted, length_sparsify acceptedToo, Nat.max_self]
  intro row inside
  rw [getElem?_sparsify_one acceptedToo shown inside, getElem?_sparsify_one accepted shown inside]
  rfl

end Accepted

/-- What is accepted becomes one vector for each row.  Token logits become what is selected from
the greatest activations of the tokens that the mask lets through, and nothing else about the
tokens matters; document logits become what is selected from their activations, whatever the
mask. -/
theorem sparsify_activations
    (accepted : sparsify params output mask batch sequenceLength vocabulary = .ok vectors) :
    vectors.length = batch ∧
    (params.layout = .tokenLogits →
      (∀ row < batch,
        (∃ dense, RowMaxima params.logActivation sequenceLength vocabulary output mask row dense) ∧
        ∀ dense, RowMaxima params.logActivation sequenceLength vocabulary output mask row dense →
          vectors[row]? = some (ofDense dense params.threshold params.topK)) ∧
      ∀ lengthToo outputToo maskToo,
        SameShown batch vocabulary sequenceLength output mask lengthToo outputToo maskToo →
        outputToo.length = batch * lengthToo * vocabulary → maskToo.length = batch * lengthToo →
        outputToo.length < wordLimit →
        sparsify params outputToo maskToo batch lengthToo vocabulary = .ok vectors) ∧
    (params.layout = .documentLogits →
      (∀ row < batch, vectors[row]? = some (ofDense
        (((output.drop (row * vocabulary)).take vocabulary).map (activation params.logActivation))
        params.threshold params.topK)) ∧
      ∀ maskToo, maskToo.length = mask.length →
        sparsify params output maskToo batch sequenceLength vocabulary = .ok vectors) ∧
    (sequenceLength = 1 → (∀ weight ∈ mask, weight ≠ 0) →
      ∀ layout, sparsify { params with layout } output mask batch 1 vocabulary = .ok vectors) := by
  refine ⟨length_sparsify accepted, fun layout => ⟨?_, ?_⟩, fun layout => ⟨?_, ?_⟩, ?_⟩
  · exact fun row inside => sparsify_maxima layout accepted inside
  · exact fun lengthToo outputToo maskToo same => sparsify_sameShown layout accepted same
  · intro row inside
    rw [getElem?_sparsify accepted inside, layout,
      ← documentRow_eq (check_iff.mp (check_of_sparsify accepted)).1]
  · exact fun maskToo masked => sparsify_otherMask layout accepted masked
  · rintro rfl shown layout
    exact sparsify_layouts accepted shown layout

/-- A token with a logit that is no number, and one that the mask hides. -/
def shownAndHidden : List Float32 :=
  [0x7fc00000, 0x3f800000, 0x7f800000, 0x7fc00000].map Float32.ofBits

/-- The token that is shown, with two others behind it that are hidden. -/
def hiddenOtherwise : List Float32 :=
  [0x7fc00000, 0x3f800000, 0x40000000, 0x7f800000, 0x7fc00000, 0x40000000].map Float32.ofBits

theorem hiddenOtherwise_same :
    SameShown 1 2 2 shownAndHidden [1, 0] 3 hiddenOtherwise [-1, 0, 0] where
  longer := by decide
  shown := by decide
  logits := by decide

theorem hidden_tokens_ignored :
    let params : SparsifyParams := ⟨.tokenLogits, zero, 0, false⟩
    let vector : SparseVector := ⟨[1], [Float32.ofBits 0x3f800000], none⟩
    sparsify params shownAndHidden [1, 0] 1 2 2 = .ok [vector] ∧
      sparsify params hiddenOtherwise [-1, 0, 0] 1 3 2 = .ok [vector] ∧
      ∀ layout, sparsify { params with layout } (shownAndHidden.take 2) [5] 1 1 2 =
        .ok [vector] := by
  intro params vector
  have shown : sparsify params shownAndHidden [1, 0] 1 2 2 = .ok [vector] := by
    decide +kernel
  have alone : sparsify params (shownAndHidden.take 2) [5] 1 1 2 = .ok [vector] := by
    decide +kernel
  refine ⟨shown, ?_, ?_⟩
  · exact ((sparsify_activations shown).2.1 rfl).2 3 _ _ hiddenOtherwise_same rfl rfl (by decide)
  · exact (sparsify_activations alone).2.2.2 rfl (by decide)

end TextVectors.Sparse
