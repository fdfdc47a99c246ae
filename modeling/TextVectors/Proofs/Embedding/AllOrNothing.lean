import TextVectors.Proofs.Embedding.Filling

namespace TextVectors

/-! Encodings are written all or not at all.

Before the first cell is written the sizes, the buffers and every encoding are checked.  The first
of these that is wrong is the error, and the buffers stay as they were.  Otherwise nothing of what
the buffers held is left.
-/

namespace Encoding

/-- A part that is given, but not for all tokens. -/
def TornIn (encoding : Encoding) (part : List Nat) : Prop :=
  part ≠ [] ∧ part.length ≠ encoding.ids.length

def Torn (encoding : Encoding) : Prop :=
  encoding.TornIn encoding.mask ∨ encoding.TornIn encoding.types

/-- What is wrong with a torn encoding; the mask is looked at first. -/
inductive Tears (encoding : Encoding) : InputFault → Prop
  | mask : encoding.TornIn encoding.mask →
      Tears encoding (.partLength .mask encoding.mask.length encoding.ids.length)
  | types : ¬ encoding.TornIn encoding.mask → encoding.TornIn encoding.types →
      Tears encoding (.partLength .types encoding.types.length encoding.ids.length)

variable {encoding : Encoding} {fault : InputFault}

theorem tornIn_iff {part : List Nat} :
    encoding.TornIn part ↔ part.length ≠ 0 ∧ part.length ≠ encoding.ids.length := by
  simp [TornIn]

theorem check_error_iff : encoding.check = .error fault ↔ encoding.Tears fault := by
  unfold check
  dsimp only
  constructor
  · intro refused
    split at refused
    · rename_i torn
      cases refused
      exact .mask (tornIn_iff.mpr torn)
    · rename_i whole
      split at refused
      · rename_i torn
        cases refused
        exact .types (tornIn_iff.not.mpr whole) (tornIn_iff.mpr torn)
      · cases refused
  · rintro (torn | ⟨whole, torn⟩)
    · rw [if_pos (tornIn_iff.mp torn)]
    · rw [if_neg (tornIn_iff.not.mp whole), if_pos (tornIn_iff.mp torn)]

theorem torn_iff : encoding.Torn ↔ ∃ fault, encoding.Tears fault := by
  constructor
  · intro torn
    by_cases mask : encoding.TornIn encoding.mask
    · exact ⟨_, .mask mask⟩
    · exact ⟨_, .types mask (torn.resolve_left mask)⟩
  · rintro ⟨fault, mask | ⟨-, types⟩⟩
    · exact .inl mask
    · exact .inr types

theorem check_ok_iff : encoding.check = .ok () ↔ ¬ encoding.Torn := by
  rw [torn_iff]
  cases checked : encoding.check with
  | error fault => simpa using ⟨fault, check_error_iff.mp checked⟩
  | ok _ =>
      refine iff_of_true rfl ?_
      rintro ⟨fault, tears⟩
      rw [check_error_iff.mpr tears] at checked
      cases checked

end Encoding

namespace TokenBuffers

/-- Rows whose number, or whose cells in all, no size can count. -/
def Uncountable (rows length : Nat) : Prop :=
  wordLimit ≤ rows ∨ wordLimit ≤ rows * length

/-- Some buffer does not have a number of cells. -/
def Misfits (buffers : TokenBuffers) (count : Nat) : Prop :=
  buffers.ids.length ≠ count ∨ buffers.mask.length ≠ count ∨
    ∃ types ∈ buffers.types, types.length ≠ count

/-- What is wrong with buffers that do not fit; the type buffer is looked at last. -/
inductive Lacks (buffers : TokenBuffers) (count : Nat) : InputFault → Prop
  | tokens : buffers.ids.length ≠ count ∨ buffers.mask.length ≠ count →
      Lacks buffers count (.tokenBufferLength buffers.ids.length buffers.mask.length count)
  | types {types} : buffers.ids.length = count → buffers.mask.length = count →
      buffers.types = some types → types.length ≠ count →
      Lacks buffers count (.typeBufferLength types.length count)

/-- Why rows of a length are not written, with the error: the sizes, the buffers, and then the
first encoding that is torn. -/
inductive Refuses (buffers : TokenBuffers) (length : Nat) (encodings : List Encoding) :
    EmbeddingError → Prop
  | sizes : Uncountable encodings.length length →
      Refuses buffers length encodings
        (.invalidInput (.sizeOverflow [encodings.length, length]))
  | buffers {fault} : ¬ Uncountable encodings.length length →
      buffers.Lacks (encodings.length * length) fault →
      Refuses buffers length encodings (.invalidInput fault)
  | encodings {position encoding fault} : ¬ Uncountable encodings.length length →
      ¬ buffers.Misfits (encodings.length * length) →
      encodings[position]? = some encoding → encoding.Tears fault →
      (∀ earlier ∈ encodings.take position, ¬ earlier.Torn) →
      Refuses buffers length encodings
        (.context s!"encoding {position}" (.invalidInput fault))

/-- Buffers every cell of which comes from the encodings, one row for each. -/
structure Filled (length : Nat) (encodings : List Encoding) (typed : Bool)
    (buffers : TokenBuffers) : Prop where
  sized : buffers.Sized (encodings.length * length)
  typed : buffers.types.isSome = typed
  ids : ∀ row encoding, encodings[row]? = some encoding → ∀ position < length,
    buffers.ids[row * length + position]? = some (Window.cell encoding.ids position)
  mask : ∀ row encoding, encodings[row]? = some encoding → ∀ position < length,
    buffers.mask[row * length + position]? = some (Window.maskCell encoding position)
  types : ∀ types ∈ buffers.types, ∀ row encoding, encodings[row]? = some encoding →
    ∀ position < length,
      types[row * length + position]? = some (Window.cell encoding.types position)

variable {buffers : TokenBuffers} {length count : Nat} {encodings : List Encoding}
variable {error : EmbeddingError} {fault : InputFault}

theorem elementCount_pair (rows length : Nat) :
    (Uncountable rows length → elementCount [rows, length] =
      .error (.sizeOverflow [rows, length])) ∧
    (¬ Uncountable rows length → elementCount [rows, length] = .ok (rows * length)) := by
  unfold Uncountable
  simp only [elementCount, elementCount.go, Nat.one_mul]
  constructor
  · intro beyond
    by_cases few : rows < wordLimit
    · rw [if_pos few, if_neg (by omega)]
    · rw [if_neg few]
  · intro within
    rw [if_pos (by omega), if_pos (by omega)]

theorem check_error_iff : buffers.check count = .error fault ↔ buffers.Lacks count fault := by
  unfold check
  constructor
  · intro refused
    split at refused
    · rename_i short
      cases refused
      exact .tokens short
    · rename_i fits
      simp only [ne_eq, not_or, Decidable.not_not] at fits
      split at refused
      · rename_i types given
        split at refused
        · rename_i short
          cases refused
          exact .types fits.1 fits.2 given short
        · cases refused
      · cases refused
  · rintro (short | ⟨ids, mask, given, short⟩)
    · rw [if_pos short]
    · rw [if_neg (by simp [ids, mask])]
      simp only [given]
      rw [if_pos short]

theorem misfits_iff : buffers.Misfits count ↔ ∃ fault, buffers.Lacks count fault := by
  constructor
  · intro misfits
    by_cases tokens : buffers.ids.length ≠ count ∨ buffers.mask.length ≠ count
    · exact ⟨_, .tokens tokens⟩
    · obtain ⟨types, given, short⟩ := (or_assoc.mpr misfits).resolve_left tokens
      simp only [ne_eq, not_or, Decidable.not_not] at tokens
      exact ⟨_, .types tokens.1 tokens.2 given short⟩
  · rintro ⟨fault, short | ⟨-, -, given, short⟩⟩
    · exact or_assoc.mp (.inl short)
    · exact .inr (.inr ⟨_, given, short⟩)

theorem check_ok_iff : buffers.check count = .ok () ↔ ¬ buffers.Misfits count := by
  rw [misfits_iff]
  cases checked : buffers.check count with
  | error fault => simpa using ⟨fault, check_error_iff.mp checked⟩
  | ok _ =>
      refine iff_of_true rfl ?_
      rintro ⟨fault, lacks⟩
      rw [check_error_iff.mpr lacks] at checked
      cases checked

/-- The first torn encoding is named, counted from the start. -/
theorem checkEncodings_error_iff (start : Nat) :
    checkEncodings start encodings = .error error ↔
      ∃ position encoding fault, encodings[position]? = some encoding ∧ encoding.Tears fault ∧
        (∀ earlier ∈ encodings.take position, ¬ earlier.Torn) ∧
        error = .context s!"encoding {start + position}" (.invalidInput fault) := by
  induction encodings generalizing start with
  | nil => simp [checkEncodings]
  | cons encoding rest ih =>
      rw [checkEncodings]
      cases checked : encoding.check with
      | error fault =>
          have tears := Encoding.check_error_iff.mp checked
          constructor
          · intro refused
            cases refused
            exact ⟨0, encoding, fault, rfl, tears, by simp, rfl⟩
          · rintro ⟨position, other, cause, found, torn, whole, rfl⟩
            cases position with
            | zero =>
                cases found
                rw [Encoding.check_error_iff.mpr torn] at checked
                cases checked
                rfl
            | succ position =>
                have first := whole encoding (by simp)
                exact absurd (Encoding.torn_iff.mpr ⟨fault, tears⟩) first
      | ok _ =>
          have whole := Encoding.check_ok_iff.mp checked
          refine (ih (start + 1)).trans ?_
          constructor
          · rintro ⟨position, other, fault, found, tears, before, rfl⟩
            refine ⟨position + 1, other, fault, found, tears, ?_, ?_⟩
            · simpa [whole] using before
            · rw [Nat.add_assoc, Nat.add_comm 1]
          · rintro ⟨position, other, fault, found, tears, before, rfl⟩
            cases position with
            | zero =>
                cases found
                exact absurd (Encoding.torn_iff.mpr ⟨fault, tears⟩) whole
            | succ position =>
                refine ⟨position, other, fault, found, tears, ?_, ?_⟩
                · simpa [whole] using before
                · rw [Nat.add_assoc, Nat.add_comm 1]

/-- What is checked fails for the reasons, and with the errors, for which rows are not written. -/
theorem encodingsCheck_error_iff :
    encodingsCheck length encodings buffers = .error error ↔
      Refuses buffers length encodings error := by
  obtain ⟨uncounted, counted⟩ := elementCount_pair encodings.length length
  unfold encodingsCheck
  by_cases beyond : Uncountable encodings.length length
  · rw [uncounted beyond]
    constructor
    · intro refused
      cases refused
      exact .sizes beyond
    · rintro (- | ⟨countable, -⟩ | ⟨countable, -⟩)
      · rfl
      · exact absurd beyond countable
      · exact absurd beyond countable
  · rw [counted beyond]
    change (buffers.check _).mapError EmbeddingError.invalidInput >>= _ = _ ↔ _
    cases checked : buffers.check (encodings.length * length) with
    | error fault =>
        have lacks := check_error_iff.mp checked
        constructor
        · intro refused
          cases refused
          exact .buffers beyond lacks
        · rintro (countless | ⟨-, others⟩ | ⟨-, fits, -⟩)
          · exact absurd countless beyond
          · rw [check_error_iff.mpr others] at checked
            cases checked
            rfl
          · exact absurd (misfits_iff.mpr ⟨fault, lacks⟩) fits
    | ok _ =>
        have fits := check_ok_iff.mp checked
        refine (checkEncodings_error_iff 0).trans ?_
        simp only [Nat.zero_add]
        constructor
        · rintro ⟨position, encoding, fault, found, tears, before, rfl⟩
          exact .encodings beyond fits found tears before
        · rintro (countless | ⟨-, lacks⟩ | ⟨-, -, found, tears, before⟩)
          · exact absurd countless beyond
          · exact absurd (misfits_iff.mpr ⟨_, lacks⟩) fits
          · exact ⟨_, _, _, found, tears, before, rfl⟩

theorem refuses_iff : (∃ error, Refuses buffers length encodings error) ↔
    Uncountable encodings.length length ∨ buffers.Misfits (encodings.length * length) ∨
      ∃ encoding ∈ encodings, encoding.Torn := by
  constructor
  · rintro ⟨error, beyond | ⟨-, lacks⟩ | ⟨-, -, found, tears, -⟩⟩
    · exact .inl beyond
    · exact .inr (.inl (misfits_iff.mpr ⟨_, lacks⟩))
    · exact .inr (.inr ⟨_, List.mem_of_getElem? found, Encoding.torn_iff.mpr ⟨_, tears⟩⟩)
  · intro wrong
    by_cases beyond : Uncountable encodings.length length
    · exact ⟨_, .sizes beyond⟩
    by_cases misfits : buffers.Misfits (encodings.length * length)
    · obtain ⟨fault, lacks⟩ := misfits_iff.mp misfits
      exact ⟨_, .buffers beyond lacks⟩
    obtain ⟨encoding, member, torn⟩ := (wrong.resolve_left beyond).resolve_left misfits
    cases checked : checkEncodings 0 encodings with
    | ok _ =>
        have passed := (checkEncodings_ok 0).mp checked encoding member
        exact absurd torn (Encoding.check_ok_iff.mp passed)
    | error error =>
        obtain ⟨position, first, cause, found, tears, before, -⟩ :=
          (checkEncodings_error_iff 0).mp checked
        exact ⟨_, .encodings beyond misfits found tears before⟩

/-- The cells of a row in rows of one length. -/
theorem getElem?_flatMap {rows : List Window} {parts : Window → List Int}
    (whole : ∀ row ∈ rows, (parts row).length = length) {index position : Nat} {row : Window}
    (found : rows[index]? = some row) (inside : position < length) :
    (rows.flatMap parts)[index * length + position]? = (parts row)[position]? := by
  induction rows generalizing index with
  | nil => simp at found
  | cons first rest ih =>
      have sized := whole first List.mem_cons_self
      rw [List.flatMap_cons]
      cases index with
      | zero =>
          cases found
          rw [Nat.zero_mul, Nat.zero_add, List.getElem?_append_left (by omega)]
      | succ index =>
          have later := ih (fun other member => whole other (List.mem_cons_of_mem _ member)) found
          rw [← later, Nat.succ_mul, List.getElem?_append_right (by omega)]
          congr 1
          omega

/-- The rows of encodings, one after the other, are what filled buffers hold. -/
theorem ofRows_filled (length : Nat) (encodings : List Encoding) (useTypes : Bool) :
    Filled length encodings useTypes
      (.ofRows useTypes (encodings.map (Window.ofEncoding length useTypes))) := by
  set rows := encodings.map (Window.ofEncoding length useTypes) with rowsAre
  have fits : ∀ row ∈ rows, row.Fits length useTypes := by
    intro row member
    obtain ⟨encoding, -, rfl⟩ := List.mem_map.mp member
    exact Window.ofEncoding_fits length useTypes encoding
  have many : rows.length = encodings.length := List.length_map _
  have shown {row : Nat} {encoding : Encoding} (found : encodings[row]? = some encoding) :
      ∃ window, rows[row]? = some window ∧ Window.Shows encoding length useTypes 0 window := by
    refine ⟨_, by rw [rowsAre, List.getElem?_map, found]; rfl, ?_⟩
    rw [← Window.windowAt_zero]
    exact Window.windowAt_shows encoding length useTypes 0
  have idsWhole : ∀ row ∈ rows, row.ids.length = length := fun row member => (fits row member).ids
  have maskWhole : ∀ row ∈ rows, row.mask.length = length :=
    fun row member => (fits row member).mask
  have typesWhole (typed : useTypes = true) : ∀ row ∈ rows, row.typeCells.length = length := by
    subst typed
    exact fun row member => (fits row member).typeCells
  refine ⟨⟨?_, ?_, ?_⟩, ?_, ?_, ?_, ?_⟩
  · exact many ▸ length_flatMap idsWhole
  · exact many ▸ length_flatMap maskWhole
  · intro types given
    cases useTypes with
    | false => cases given
    | true =>
        cases given
        exact many ▸ length_flatMap (typesWhole rfl)
  · cases useTypes <;> rfl
  · intro row encoding found position inside
    obtain ⟨window, placed, shows⟩ := shown found
    rw [ofRows, getElem?_flatMap idsWhole placed inside, shows.ids]
    simp [inside]
  · intro row encoding found position inside
    obtain ⟨window, placed, shows⟩ := shown found
    rw [ofRows, getElem?_flatMap maskWhole placed inside, shows.mask]
    simp [inside]
  · intro types given row encoding found position inside
    obtain ⟨window, placed, shows⟩ := shown found
    cases useTypes with
    | false => cases given
    | true =>
        cases given
        have cells := shows.types
        rw [getElem?_flatMap (typesWhole rfl) placed inside, Window.typeCells, cells]
        simp [inside]

/-- Blank buffers of the same sizes pass the same checks, and filling makes them equal. -/
theorem fillEncodings_of_check (passed : encodingsCheck length encodings buffers = .ok ()) :
    buffers.fillEncodings length encodings = (.ok (),
      .ofRows buffers.types.isSome
        (encodings.map (Window.ofEncoding length buffers.types.isSome))) := by
  have sized := sized_of_encodingsCheck passed
  have passedBlank : encodingsCheck length encodings
      (blank buffers.types.isSome (encodings.length * length)) = .ok () := by
    rw [← clear_eq_blank sized, ← passed]
    simp only [encodingsCheck, check_clear]
  exact (fillEncodings_overwrites length encodings).eq_of_blank sized
    (fillEncodings_blank passedBlank)

/-- Filling with encodings fails for exactly the reasons given, with the first of them, and then
changes nothing; otherwise every cell is what the encodings say. -/
theorem filled_or_untouched (buffers : TokenBuffers) (length : Nat) (encodings : List Encoding) :
    let (result, after) := buffers.fillEncodings length encodings
    ((∃ error, result = .error error) ↔
      Uncountable encodings.length length ∨ buffers.Misfits (encodings.length * length) ∨
        ∃ encoding ∈ encodings, encoding.Torn) ∧
    (∀ error, result = .error error → Refuses buffers length encodings error ∧ after = buffers) ∧
    (result = .ok () → Filled length encodings buffers.types.isSome after) := by
  cases passed : encodingsCheck length encodings buffers with
  | error error =>
      have untouched : buffers.fillEncodings length encodings = (.error error, buffers) := by
        unfold fillEncodings
        unfold encodingsCheck at passed
        rw [passed]
      have refused := encodingsCheck_error_iff.mp passed
      rw [untouched]
      refine ⟨iff_of_true ⟨error, rfl⟩ (refuses_iff.mp ⟨error, refused⟩), ?_, ?_⟩
      · rintro other ⟨⟩
        exact ⟨refused, rfl⟩
      · rintro ⟨⟩
  | ok _ =>
      have right : ¬ ∃ error, Refuses buffers length encodings error := by
        rintro ⟨error, refused⟩
        rw [encodingsCheck_error_iff.mpr refused] at passed
        cases passed
      rw [fillEncodings_of_check passed]
      refine ⟨iff_of_false ?_ (refuses_iff.not.mp right), ?_, ?_⟩
      · rintro ⟨error, ⟨⟩⟩
      · rintro error ⟨⟩
      · rintro -
        exact ofRows_filled length encodings _

end TokenBuffers

end TextVectors
